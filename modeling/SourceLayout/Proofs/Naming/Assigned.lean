import SourceLayout.Proofs.Naming.Entries
import SourceLayout.Proofs.Naming.Reachable

/-! What an assignment gives to the names of its namespaces.  Each namespace gets its entries from
those of the namespaces before it, and no name has entries twice, so that what holds of the entries
of one namespace holds of the texts of its members. -/

namespace SourceLayout

/-! ### Entries without repetitions -/

/-- In a list that holds each key once, a look-up finds every entry. -/
theorem lookup_eq_some_iff_mem {κ β : Type} [DecidableEq κ] {entries : List (κ × β)}
    (h : (entries.map (·.1)).Nodup) (k : κ) (v : β) :
    entries.lookup k = some v ↔ (k, v) ∈ entries := by
  rw [List.lookup_eq_some_iff]
  constructor
  · rintro ⟨before, after, rfl, -⟩
    simp
  · intro hmem
    obtain ⟨before, after, rfl⟩ := List.append_of_mem hmem
    refine ⟨before, after, rfl, fun e he => ?_⟩
    rw [List.map_append, List.nodup_append] at h
    have hne : e.1 ≠ k := h.2.2 e.1 (List.mem_map_of_mem he) k (by simp)
    simpa using hne.symm

theorem nodup_eraseDups {κ : Type} [DecidableEq κ] (l : List κ) : l.eraseDups.Nodup := by
  match l with
  | [] => exact List.nodup_nil
  | a :: as =>
    rw [List.eraseDups_cons, List.nodup_cons]
    refine ⟨fun h => ?_, nodup_eraseDups _⟩
    have hne := (List.mem_filter.mp (List.mem_eraseDups.mp h)).2
    simp at hne
termination_by l.length
decreasing_by
  rw [List.length_cons]
  exact Nat.lt_succ_of_le (List.length_filter_le _ as)

theorem eraseDups_of_nodup {κ : Type} [DecidableEq κ] {l : List κ} (h : l.Nodup) :
    l.eraseDups = l := by
  induction l with
  | nil => rfl
  | cons a as ih =>
    rw [List.nodup_cons] at h
    have hkeep : as.filter (fun b => !b == a) = as := by
      refine List.filter_eq_self.mpr fun b hb => ?_
      have hne : b ≠ a := by
        rintro rfl
        exact h.1 hb
      simpa using hne
    rw [List.eraseDups_cons, hkeep, ih h.2]

/-- What stands before an item when repetitions are left out is what first occurs before it. -/
theorem mem_of_eraseDups_eq_append {κ : Type} [DecidableEq κ] {l before after : List κ} {x y : κ}
    (h : l.eraseDups = before ++ x :: after) : y ∈ before ↔ l.idxOf y < l.idxOf x := by
  have hx : x ∈ l := by
    rw [← List.mem_eraseDups, h]
    simp
  have hnodup := nodup_eraseDups l
  rw [h, List.nodup_middle, List.nodup_cons, List.mem_append, not_or] at hnodup
  obtain ⟨first, rest, rfl, hnew⟩ := List.eq_append_cons_of_mem hx
  have hbefore : before = first.eraseDups := by
    rw [List.eraseDups_append, List.removeAll, List.filter_cons_of_pos (by simpa using hnew),
      List.eraseDups_cons, eq_comm,
      List.append_cons_inj_of_notMem hnodup.1.1 hnodup.1.2] at h
    exact h.1
  rw [hbefore, List.mem_eraseDups, List.idxOf_append_of_notMem hnew, List.idxOf_cons_self,
    Nat.add_zero]
  constructor
  · intro hy
    rw [List.idxOf_append_of_mem hy]
    exact List.idxOf_lt_length_of_mem hy
  · intro hlt
    by_contra hy
    rw [List.idxOf_append_of_notMem hy] at hlt
    omega

namespace Assignment

theorem get?_foldl_insert {entries : List (Name × String)} (h : (entries.map (·.1)).Nodup)
    (a : Assignment) (n : Name) :
    (entries.foldl (fun a e => a.insert e.1 e.2) a).get? n =
      (entries.lookup n).or (a.get? n) := by
  induction entries generalizing a with
  | nil => rfl
  | cons e es ih =>
    obtain ⟨m, t⟩ := e
    rw [List.map_cons, List.nodup_cons] at h
    rw [List.foldl_cons, ih h.2, get?_insert, List.lookup_cons]
    by_cases hn : n = m
    · have hnone : es.lookup n = none := by
        rw [List.lookup_eq_none_iff]
        intro e he
        have hkey : e.1 ∈ es.map (·.1) := List.mem_map_of_mem he
        have hne : n ≠ e.1 := by
          rintro rfl
          exact h.1 (hn ▸ hkey)
        simpa using hne
      simp [hn ▸ hnone, hn]
    · have hbeq : (n == m) = false := by simpa using hn
      rw [if_neg hn, hbeq]

theorem get?_ofList_of_nodup {entries : List (Name × String)} (h : (entries.map (·.1)).Nodup)
    (n : Name) (t : String) : (ofList entries).get? n = some t ↔ (n, t) ∈ entries := by
  rw [ofList, get?_foldl_insert h, get?_empty, Option.or_none, lookup_eq_some_iff_mem h]

end Assignment

/-! ### The namespaces that were assigned -/

namespace Assigned

/-- Each of the namespaces, the latest first, got its entries from those before it. -/
def Built (r : Registry) : Assigned → Prop
  | [] => True
  | (id, entries) :: done => r.assignOne done id = .ok entries ∧ Built r done

theorem Built.exists_of_mem {r : Registry} {all : Assigned} (h : Built r all) {id : NamespaceId}
    {es : List (Name × String)} (hmem : (id, es) ∈ all) :
    ∃ earlier, earlier ⊆ all ∧ r.assignOne earlier id = .ok es := by
  induction all with
  | nil => cases hmem
  | cons last all ih =>
    rcases List.mem_cons.mp hmem with rfl | hmem
    · exact ⟨all, List.subset_cons_self _ _, h.1⟩
    · obtain ⟨earlier, hsub, hes⟩ := ih h.2 hmem
      exact ⟨earlier, List.subset_cons_of_subset last hsub, hes⟩

theorem textsOf?_eq_some {done : Assigned} {id : NamespaceId} {texts : List String}
    (h : done.textsOf? id = some texts) : ∃ es, (id, es) ∈ done ∧ es.map (·.2) = texts := by
  rw [textsOf?, Option.map_eq_some_iff] at h
  obtain ⟨es, hes, htexts⟩ := h
  obtain ⟨before, after, rfl, -⟩ := List.lookup_eq_some_iff.mp hes
  exact ⟨es, by simp, htexts⟩

theorem exists_textsOf?_iff (done : Assigned) (id : NamespaceId) :
    (∃ own, done.textsOf? id = some own) ↔ id ∈ done.map (·.1) := by
  constructor
  · rintro ⟨own, hown⟩
    obtain ⟨es, hes, -⟩ := textsOf?_eq_some hown
    exact List.mem_map_of_mem hes
  · intro hid
    rw [textsOf?]
    cases hlookup : done.lookup id with
    | some es => exact ⟨_, rfl⟩
    | none =>
      obtain ⟨entry, hentry, rfl⟩ := List.mem_map.mp hid
      have hne := List.lookup_eq_none_iff.mp hlookup entry hentry
      simp at hne

theorem textsOf?_eq_some_iff {done : Assigned} (hids : (done.map (·.1)).Nodup) {id : NamespaceId}
    {own : List String} :
    done.textsOf? id = some own ↔ ∃ es, (id, es) ∈ done ∧ es.map (·.2) = own := by
  rw [textsOf?, Option.map_eq_some_iff]
  exact exists_congr fun es => and_congr_left' (lookup_eq_some_iff_mem hids id es)

/-- The namespaces that were assigned, and their order, tell what they got. -/
theorem Built.unique {r : Registry} {all others : Assigned} (h : Built r all)
    (hothers : Built r others) (hids : all.map (·.1) = others.map (·.1)) : all = others := by
  induction all generalizing others with
  | nil => exact (List.map_eq_nil_iff.mp hids.symm).symm
  | cons last all ih =>
    cases others with
    | nil => cases hids
    | cons last' others =>
      obtain ⟨id, es⟩ := last
      obtain ⟨id', es'⟩ := last'
      obtain ⟨rfl, htail⟩ := List.cons.inj hids
      obtain rfl := ih h.2 hothers.2 htail
      have hes : es = es' := Except.ok.inj (h.1.symm.trans hothers.1)
      rw [hes]

theorem Built.of_append {r : Registry} {more done : Assigned} (h : Built r (more ++ done)) :
    Built r done := by
  induction more with
  | nil => exact h
  | cons last more ih => exact ih h.2

/-- Each namespace that was assigned got its entries from those before it. -/
theorem Built.exists_split {r : Registry} {all : Assigned} {before after : List NamespaceId}
    {id : NamespaceId} (h : Built r all) (hids : all.map (·.1) = (before ++ id :: after).reverse) :
    ∃ later es done, all = later ++ (id, es) :: done ∧ done.map (·.1) = before.reverse ∧
      Built r done ∧ r.assignOne done id = .ok es := by
  rw [List.reverse_append, List.reverse_cons, List.append_assoc, List.singleton_append,
    List.map_eq_append_iff] at hids
  obtain ⟨later, rest, rfl, -, hrest⟩ := hids
  cases rest with
  | nil => cases hrest
  | cons last done =>
    obtain ⟨other, es⟩ := last
    obtain ⟨rfl, hdone⟩ := List.cons.inj hrest
    have hlast := h.of_append
    exact ⟨later, es, done, rfl, hdone, hlast.2, hlast.1⟩

end Assigned

namespace Registry

/-- Sealing a namespace changes nothing in what another namespace gets. -/
theorem assignOne_close (r : Registry) (sealedId : NamespaceId) (done : Assigned)
    (id : NamespaceId) : (r.close sealedId).assignOne done id = r.assignOne done id := by
  have htexts (label : String) (ids : List NamespaceId) :
      (r.close sealedId).forbiddenTexts done label ids = r.forbiddenTexts done label ids := by
    induction ids with
    | nil => rfl
    | cons id ids ih => simp only [forbiddenTexts, ih, label_lookup_close]
  simp only [assignOne, htexts, label_lookup_close, forbidden_lookup_close, Namespace.entries,
    members_lookup_close]

/-- The texts that are forbidden are those of the namespaces that are forbidden, which are all
assigned. -/
theorem forbiddenTexts_eq_ok {r : Registry} {done : Assigned} {label : String}
    {ids : List NamespaceId} {texts : List String}
    (h : r.forbiddenTexts done label ids = .ok texts) :
    (∀ id ∈ ids, ∃ own, done.textsOf? id = some own) ∧
    ∀ t, t ∈ texts ↔ ∃ id ∈ ids, ∃ own, done.textsOf? id = some own ∧ t ∈ own := by
  induction ids generalizing texts with
  | nil =>
    cases h
    simp
  | cons id ids ih =>
    rw [forbiddenTexts] at h
    cases hown : done.textsOf? id with
    | none =>
      rw [hown] at h
      cases h
    | some own =>
      rw [hown] at h
      obtain ⟨rest, hrest, h⟩ := bind_eq_ok.mp h
      cases h
      obtain ⟨hassigned, htexts⟩ := ih hrest
      refine ⟨List.forall_mem_cons.mpr ⟨⟨own, hown⟩, hassigned⟩, fun t => ?_⟩
      rw [List.mem_append, htexts]
      simp [hown]

theorem exists_forbiddenTexts_iff (r : Registry) (done : Assigned) (label : String)
    (ids : List NamespaceId) :
    (∃ texts, r.forbiddenTexts done label ids = .ok texts) ↔
      ∀ id ∈ ids, ∃ own, done.textsOf? id = some own := by
  constructor
  · rintro ⟨texts, htexts⟩
    exact (forbiddenTexts_eq_ok htexts).1
  · intro h
    induction ids with
    | nil => exact ⟨[], rfl⟩
    | cons id ids ih =>
      rw [List.forall_mem_cons] at h
      obtain ⟨own, hown⟩ := h.1
      obtain ⟨rest, hrest⟩ := ih h.2
      rw [forbiddenTexts, hown]
      exact ⟨_, bind_eq_ok.mpr ⟨rest, hrest, rfl⟩⟩

theorem isBreach_of_forbiddenTexts {r : Registry} {done : Assigned} {label : String}
    {ids : List NamespaceId} {fault : Fault}
    (h : r.forbiddenTexts done label ids = .error fault) : fault.isBreach = true := by
  induction ids with
  | nil => cases h
  | cons id ids ih =>
    rw [forbiddenTexts] at h
    cases hown : done.textsOf? id with
    | none =>
      rw [hown] at h
      cases h
      rfl
    | some own =>
      rw [hown] at h
      rcases bind_eq_error.mp h with h | ⟨rest, -, h⟩
      · exact ih h
      · cases h

theorem isBreach_of_assignOne {r : Registry} {done : Assigned} {id : NamespaceId} {fault : Fault}
    (h : r.assignOne done id = .error fault) : fault.isBreach = true := by
  rcases bind_eq_error.mp h with h | ⟨taken, -, h⟩
  · exact isBreach_of_forbiddenTexts h
  · exact Namespace.isBreach_of_entries h

/-- A namespace gets its entries when all its forbidden namespaces are assigned, its fixed names
propose different texts, and none of these is one of a forbidden namespace. -/
theorem exists_assignOne_iff (r : Registry) (done : Assigned) (id : NamespaceId) :
    (∃ es, r.assignOne done id = .ok es) ↔
      (∀ other ∈ (r.lookup id).forbidden, ∃ own, done.textsOf? other = some own) ∧
      (r.lookup id).fixedTexts.Nodup ∧
      ∀ n ∈ (r.lookup id).members.filter (·.fixed), ∀ other ∈ (r.lookup id).forbidden, ∀ own,
        done.textsOf? other = some own → n.proposed ∉ own := by
  have hsplit : (∃ es, r.assignOne done id = .ok es) ↔
      ∃ taken, r.forbiddenTexts done (r.lookup id).label (r.lookup id).forbidden = .ok taken ∧
        ∃ es, (r.lookup id).entries taken = .ok es := by
    simp only [assignOne, bind_eq_ok, ← exists_and_left]
    exact exists_comm
  rw [hsplit]
  constructor
  · rintro ⟨taken, htaken, hentries⟩
    obtain ⟨hassigned, htexts⟩ := forbiddenTexts_eq_ok htaken
    obtain ⟨hnodup, hapart⟩ := (Namespace.exists_entries_iff _ _).mp hentries
    refine ⟨hassigned, hnodup, fun n hn other hother own hown hmem => hapart n hn ?_⟩
    exact (htexts _).mpr ⟨other, hother, own, hown, hmem⟩
  · rintro ⟨hassigned, hnodup, hapart⟩
    obtain ⟨taken, htaken⟩ := (exists_forbiddenTexts_iff r done _ _).mpr hassigned
    obtain ⟨-, htexts⟩ := forbiddenTexts_eq_ok htaken
    refine ⟨taken, htaken, (Namespace.exists_entries_iff _ _).mpr ⟨hnodup, fun n hn hmem => ?_⟩⟩
    obtain ⟨other, hother, own, hown, hmem⟩ := (htexts _).mp hmem
    exact hapart n hn other hother own hown hmem

/-- A run assigns the namespaces in order, each from those before it, and seals them, up to the
first one that it refuses, if it refuses one. -/
theorem assignFrom_cases {r s : Registry} {done : Assigned}
    (hsame : ∀ done id, s.assignOne done id = r.assignOne done id) (hdone : done.Built r)
    (ids : List NamespaceId) :
    ∃ (before : List NamespaceId) (more : Assigned), Assigned.Built r (more ++ done) ∧
      more.map (·.1) = before.reverse ∧
      ((ids = before ∧
          s.assignFrom done ids = (before.foldl close s, .ok (more ++ done).toAssignment)) ∨
        ∃ id after fault, ids = before ++ id :: after ∧
          r.assignOne (more ++ done) id = .error fault ∧
          s.assignFrom done ids = (before.foldl close s, .error fault)) := by
  induction ids generalizing s done with
  | nil => exact ⟨[], [], hdone, rfl, .inl ⟨rfl, rfl⟩⟩
  | cons id ids ih =>
    cases hone : s.assignOne done id with
    | error fault =>
      refine ⟨[], [], hdone, rfl, .inr ⟨id, ids, fault, rfl, ?_, ?_⟩⟩
      · exact (hsame done id).symm.trans hone
      · rw [assignFrom, hone]
        rfl
    | ok entries =>
      have hclose : ∀ done other, (s.close id).assignOne done other = r.assignOne done other :=
        fun done other => (assignOne_close s id done other).trans (hsame done other)
      have hnext : Assigned.Built r ((id, entries) :: done) :=
        ⟨(hsame done id).symm.trans hone, hdone⟩
      obtain ⟨before, more, hbuilt, hids, hrun⟩ := ih hclose hnext
      refine ⟨id :: before, more ++ [(id, entries)], ?_, ?_, ?_⟩
      · rwa [List.append_assoc]
      · rw [List.map_append, hids, List.reverse_cons]
        rfl
      · rw [assignFrom, hone, List.append_assoc]
        refine hrun.imp ?_ ?_
        · rintro ⟨rfl, hrun⟩
          exact ⟨rfl, hrun⟩
        · rintro ⟨other, after, fault, rfl, hrefused, hrun⟩
          exact ⟨other, after, fault, rfl, hrefused, hrun⟩

/-- A run that ends well has assigned its namespaces in order, each from those before it. -/
theorem exists_of_assignFrom {r s : Registry} {done : Assigned} {ids : List NamespaceId}
    {a : Assignment} (hsame : ∀ done id, s.assignOne done id = r.assignOne done id)
    (hdone : done.Built r) (h : (s.assignFrom done ids).2 = .ok a) :
    ∃ all : Assigned, a = all.toAssignment ∧ all.Built r ∧
      all.map (·.1) = ids.reverse ++ done.map (·.1) := by
  obtain ⟨before, more, hbuilt, hids, ⟨rfl, hrun⟩ | ⟨_, _, fault, -, -, hrun⟩⟩ :=
    assignFrom_cases hsame hdone ids
  · rw [hrun] at h
    cases h
    exact ⟨_, rfl, hbuilt, by rw [List.map_append, hids]⟩
  · rw [hrun] at h
    cases h

end Registry

/-! ### Names of the namespaces -/

namespace Assignment

/-- A name of an entry has a text. -/
theorem exists_get?_foldl_insert {entries : List (Name × String)} {a : Assignment} {n : Name}
    (h : n ∈ entries.map (·.1) ∨ ∃ t, a.get? n = some t) :
    ∃ t, (entries.foldl (fun a e => a.insert e.1 e.2) a).get? n = some t := by
  induction entries generalizing a with
  | nil => exact h.resolve_left List.not_mem_nil
  | cons e es ih =>
    rw [List.foldl_cons]
    rw [List.map_cons, List.mem_cons, or_assoc] at h
    by_cases hn : n = e.1
    · exact ih (.inr ⟨e.2, by rw [get?_insert, if_pos hn]⟩)
    · refine ih ((h.resolve_left hn).imp_right fun ⟨t, ht⟩ => ⟨t, ?_⟩)
      rw [get?_insert, if_neg hn, ht]

end Assignment

/-- Every member of the namespaces that were assigned has a text. -/
theorem Registry.exists_get?_of_assign {r : Registry} {order : List NamespaceId} {a : Assignment}
    (h : (r.assign order).2 = .ok a) {id : NamespaceId} (hid : id ∈ order) {n : Name}
    (hn : n ∈ (r.lookup id).members) : ∃ t, a.get? n = some t := by
  obtain ⟨all, rfl, hbuilt, hids⟩ :=
    exists_of_assignFrom (r := r) (fun _ _ => rfl) (show Assigned.Built r [] from trivial) h
  rw [List.map_nil, List.append_nil] at hids
  have hassigned : id ∈ all.map (·.1) := by
    rw [hids, List.mem_reverse]
    exact List.mem_eraseDups.mpr hid
  obtain ⟨⟨_, es⟩, hes, rfl⟩ := List.mem_map.mp hassigned
  obtain ⟨earlier, -, hone⟩ := hbuilt.exists_of_mem hes
  obtain ⟨taken, -, hentries⟩ := bind_eq_ok.mp hone
  refine Assignment.exists_get?_foldl_insert (.inl ?_)
  rw [List.map_flatMap, List.mem_flatMap]
  exact ⟨_, List.mem_reverse.mpr hes, (Namespace.names_of_entries hentries).mem_iff.mpr hn⟩

end SourceLayout
