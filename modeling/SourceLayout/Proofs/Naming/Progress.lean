import Mathlib.Logic.Relation
import SourceLayout.Proofs.Naming.Fitting

/-! How far assigning names comes.  The namespaces are assigned in order up to the first one that is
refused; those before it are sealed, and nothing else changes.  Whether a namespace is refused is
told by the registry and by the texts that were given before it. -/

namespace SourceLayout

namespace Registry

/-! ### Sealing -/

/-- The registry in which the namespaces of a list are sealed, besides those that were before. -/
def sealing (r : Registry) (ids : List NamespaceId) : Registry :=
  ⟨r.namespaces.mapIdx fun id s => { s with sealed := s.sealed || ids.contains id }⟩

theorem sealing_close (r : Registry) (id : NamespaceId) (ids : List NamespaceId) :
    (r.close id).sealing ids = r.sealing (id :: ids) := by
  simp only [sealing, close, update, mk.injEq]
  refine List.ext_getElem? fun k => ?_
  simp only [List.getElem?_mapIdx, List.getElem?_modify]
  cases r.namespaces[k]? with
  | none => rfl
  | some s => by_cases hk : id = k <;> simp [hk, eq_comm]

theorem foldl_close (r : Registry) (ids : List NamespaceId) :
    ids.foldl close r = r.sealing ids := by
  induction ids generalizing r with
  | nil =>
    refine congrArg mk (List.ext_getElem? fun k => ?_)
    rw [List.getElem?_mapIdx]
    cases r.namespaces[k]? <;> simp
  | cons id ids ih => rw [List.foldl_cons, ih, sealing_close]

/-- Assigning names comes to its end, or to the first namespace that is refused.  It seals the
namespaces before, and changes nothing else. -/
theorem assign_cases (r : Registry) (order : List NamespaceId) :
    ∃ (before : List NamespaceId) (all : Assigned), all.Built r ∧ all.map (·.1) = before.reverse ∧
      ((unique order = before ∧ r.assign order = (r.sealing before, .ok all.toAssignment)) ∨
        ∃ id after fault, unique order = before ++ id :: after ∧
          r.assignOne all id = .error fault ∧
          r.assign order = (r.sealing before, .error fault)) := by
  obtain ⟨before, all, hbuilt, hids, hrun⟩ := assignFrom_cases (r := r) (fun _ _ => rfl)
    (show Assigned.Built r [] from trivial) (unique order)
  rw [List.append_nil] at hbuilt
  rw [List.append_nil, foldl_close] at hrun
  exact ⟨before, all, hbuilt, hids, hrun⟩

/-- Names cannot be assigned only for a breach of contract. -/
theorem isBreach_of_assign {r : Registry} {order : List NamespaceId} {fault : Fault}
    (h : (r.assign order).2 = .error fault) : fault.isBreach = true := by
  obtain ⟨before, all, -, -, ⟨-, hrun⟩ | ⟨id, after, other, -, hone, hrun⟩⟩ := r.assign_cases order
  · rw [hrun] at h
    cases h
  · rw [hrun] at h
    cases h
    exact isBreach_of_assignOne hone

/-- Namespaces that can be assigned in their order are. -/
theorem assign_of_built {r : Registry} {all : Assigned} {order : List NamespaceId}
    (hbuilt : all.Built r) (hids : all.map (·.1) = (unique order).reverse) :
    r.assign order = (r.sealing (unique order), .ok all.toAssignment) := by
  obtain ⟨before, others, hothers, hbefore, ⟨rfl, hrun⟩ | ⟨id, after, fault, horder, hone', -⟩⟩ :=
    r.assign_cases order
  · rw [hrun, hbuilt.unique hothers (hids.trans hbefore.symm)]
  · rw [horder] at hids
    obtain ⟨later, es, done, rfl, hdone, hdoneBuilt, hone⟩ := hbuilt.exists_split hids
    rw [hothers.unique hdoneBuilt (hbefore.trans hdone.symm), hone] at hone'
    cases hone'

/-- A text that a member of the namespace is given by a run along `before`, however far it
comes. -/
def Gives (r : Registry) (before : List NamespaceId) (id : NamespaceId) (t : String) : Prop :=
  ∃ first a, first <+: before ∧ (r.assign first).2 = .ok a ∧
    ∃ m ∈ (r.lookup id).members, a.get? m = some t

/-- The namespace cannot be assigned after the namespaces `before`. -/
inductive Refuses (r : Registry) (before : List NamespaceId) (id : NamespaceId) : Prop
  /-- A namespace that it forbids does not come before it. -/
  | later {other : NamespaceId} (hforbidden : other ∈ (r.lookup id).forbidden)
      (hlater : other ∉ before)
  /-- Two fixed names in it have the same text. -/
  | twice {m n : Name} (hm : m ∈ (r.lookup id).members) (hn : n ∈ (r.lookup id).members)
      (hne : m ≠ n) (hmfixed : m.fixed = true) (hnfixed : n.fixed = true)
      (htext : m.proposed = n.proposed)
  /-- A fixed name in it has a text that was given in a namespace that it forbids. -/
  | taken {n : Name} {other : NamespaceId} (hn : n ∈ (r.lookup id).members)
      (hfixed : n.fixed = true) (hforbidden : other ∈ (r.lookup id).forbidden)
      (hgiven : r.Gives before other n.proposed)

section

variable {r : Registry} {all : Assigned} {before : List NamespaceId} (hr : r.Sound)
  (hbuilt : all.Built r) (hids : all.map (·.1) = before.reverse) (hnodup : before.Nodup)

include hr hbuilt hids hnodup

theorem gives_iff (id : NamespaceId) (t : String) :
    r.Gives before id t ↔ ∃ own, all.textsOf? id = some own ∧ t ∈ own := by
  have hkeys : (all.map (·.1)).Nodup := by rwa [hids, List.nodup_reverse]
  constructor
  · rintro ⟨first, a, ⟨rest, rfl⟩, hassign, m, hm, ht⟩
    -- What the shorter run has assigned, the longer one has too.
    rw [List.reverse_append, List.map_eq_append_iff] at hids
    obtain ⟨later, done, rfl, -, hdone⟩ := hids
    have hfirst : unique first = first := eraseDups_of_nodup (List.Nodup.of_append_left hnodup)
    have hrun := assign_of_built (hbuilt.of_append) (hdone.trans (by rw [hfirst]))
    rw [hrun] at hassign
    cases hassign
    have hdoneKeys : (done.map (·.1)).Nodup := by
      rw [List.map_append] at hkeys
      exact List.Nodup.of_append_right hkeys
    obtain ⟨other, es, hes, hmt⟩ :=
      (hbuilt.of_append.get?_toAssignment hr hdoneKeys m t).mp ht
    have hother : m ∈ (r.lookup other).members :=
      (hbuilt.of_append.names_perm hr hdoneKeys hes).mem_iff.mp (List.mem_map_of_mem hmt)
    obtain rfl := hr.apart hother hm
    refine ⟨es.map (·.2), ?_, List.mem_map_of_mem hmt⟩
    exact (Assigned.textsOf?_eq_some_iff hkeys).mpr ⟨es, List.mem_append_right _ hes, rfl⟩
  · rintro ⟨own, hown, ht⟩
    obtain ⟨es, hes, rfl⟩ := Assigned.textsOf?_eq_some hown
    have hbefore : unique before = before := eraseDups_of_nodup hnodup
    have hrun := assign_of_built hbuilt (hids.trans (by rw [hbefore]))
    exact ⟨before, all.toAssignment, List.prefix_refl _, congrArg Prod.snd hrun,
      (hbuilt.exists_get?_iff hr hkeys hes t).mpr ht⟩

/-- After the namespaces that were assigned, a namespace is refused for one of three reasons. -/
theorem exists_assignOne_eq_error_iff (id : NamespaceId) :
    (∃ fault, r.assignOne all id = .error fault) ↔ r.Refuses before id := by
  have hmem (other : NamespaceId) :
      (∃ own, all.textsOf? other = some own) ↔ other ∈ before := by
    rw [Assigned.exists_textsOf?_iff, hids, List.mem_reverse]
  have hfixed : (r.lookup id).fixedTexts.Nodup ↔
      ∀ m ∈ (r.lookup id).members.filter (·.fixed), ∀ n ∈ (r.lookup id).members.filter (·.fixed),
        m.proposed = n.proposed → m = n :=
    List.nodup_map_iff_inj_on ((hr.nodup id).filter _)
  have herror : (∃ fault, r.assignOne all id = .error fault) ↔
      ¬∃ es, r.assignOne all id = .ok es := by
    cases r.assignOne all id <;> simp
  rw [herror, exists_assignOne_iff, hfixed]
  constructor
  · intro h
    by_contra hnot
    refine h ⟨fun other hother => ?_, fun m hm n hn htext => ?_,
      fun n hn other hother own hown ht => ?_⟩
    · by_contra hnone
      exact hnot (.later hother fun hbefore => hnone ((hmem other).mpr hbefore))
    · rw [List.mem_filter] at hm hn
      by_contra hne
      exact hnot (.twice hm.1 hn.1 hne hm.2 hn.2 htext)
    · rw [List.mem_filter] at hn
      exact hnot (.taken hn.1 hn.2 hother
        ((gives_iff hr hbuilt hids hnodup other _).mpr ⟨own, hown, ht⟩))
  · rintro hrefuses ⟨hassigned, hdistinct, hapart⟩
    cases hrefuses with
    | later hforbidden hlater => exact hlater ((hmem _).mp (hassigned _ hforbidden))
    | twice hm hn hne hmfixed hnfixed htext =>
      exact hne (hdistinct _ (List.mem_filter.mpr ⟨hm, hmfixed⟩) _
        (List.mem_filter.mpr ⟨hn, hnfixed⟩) htext)
    | taken hn hfixed hforbidden hgiven =>
      obtain ⟨own, hown, ht⟩ := (gives_iff hr hbuilt hids hnodup _ _).mp hgiven
      exact hapart _ (List.mem_filter.mpr ⟨hn, hfixed⟩) _ hforbidden own hown ht

end

/-- In an order that can be assigned, what a namespace forbids comes before it. -/
theorem idxOf_lt_of_assign {r : Registry} {order : List NamespaceId} {a : Assignment}
    (h : (r.assign order).2 = .ok a) {id other : NamespaceId} (hid : id ∈ order)
    (hother : other ∈ (r.lookup id).forbidden) : order.idxOf other < order.idxOf id := by
  obtain ⟨before, all, hbuilt, hids, ⟨hall, -⟩ | ⟨_, _, fault, -, -, hrun⟩⟩ := r.assign_cases order
  · obtain ⟨earlier, later, hsplit⟩ := List.append_of_mem (List.mem_eraseDups.mpr hid)
    rw [← hall, unique, hsplit] at hids
    obtain ⟨_, es, done, -, hdone, -, hone⟩ := hbuilt.exists_split hids
    obtain ⟨own, hown⟩ := ((r.exists_assignOne_iff done id).mp ⟨es, hone⟩).1 other hother
    have hbefore : other ∈ earlier := by
      rw [← List.mem_reverse, ← hdone]
      exact (Assigned.exists_textsOf?_iff done other).mp ⟨own, hown⟩
    exact (mem_of_eraseDups_eq_append hsplit).mp hbefore
  · rw [hrun] at h
    cases h

/-- The first namespace forbids the second one. -/
def Forbids (r : Registry) (id other : NamespaceId) : Prop := other ∈ (r.lookup id).forbidden

/-- In such an order, what a namespace forbids through others comes before it, too. -/
theorem idxOf_lt_of_path {r : Registry} {order : List NamespaceId} {a : Assignment}
    (h : (r.assign order).2 = .ok a) {id other : NamespaceId} (hid : id ∈ order)
    (hpath : Relation.TransGen r.Forbids id other) : order.idxOf other < order.idxOf id := by
  induction hpath with
  | single hforbids => exact idxOf_lt_of_assign h hid hforbids
  | tail _ hforbids ih =>
    have hmem := List.idxOf_lt_length_iff.mp (ih.trans_le (List.idxOf_le_length))
    exact (idxOf_lt_of_assign h hmem hforbids).trans ih

/-- Names are assigned unless a namespace of the order is refused.  A failure is a breach of
contract, and seals the namespaces before the first that is refused; a success seals all of them.
No other thing changes, and a namespace that forbids itself through others cannot be assigned in any
order. -/
theorem assign_up_to_refused {r : Registry} (hr : r.Reachable) (order : List NamespaceId) :
    ((∃ fault, (r.assign order).2 = .error fault) ↔
      ∃ before id after, unique order = before ++ id :: after ∧ r.Refuses before id) ∧
    (∀ fault, (r.assign order).2 = .error fault → fault.isBreach = true ∧
      ∃ before id after, unique order = before ++ id :: after ∧ r.Refuses before id ∧
        (∀ earlier other later, before = earlier ++ other :: later → ¬r.Refuses earlier other) ∧
        (r.assign order).1 = r.sealing before) ∧
    (∀ a, (r.assign order).2 = .ok a → (r.assign order).1 = r.sealing (unique order)) ∧
    ∀ id ∈ order, Relation.TransGen r.Forbids id id →
      ∃ fault, (r.assign order).2 = .error fault := by
  have hnodup : (unique order).Nodup := nodup_eraseDups order
  obtain ⟨before, all, hbuilt, hids, hrun⟩ := r.assign_cases order
  -- No namespace is refused among those that were assigned.
  have hpassed : ∀ earlier other later, before = earlier ++ other :: later → before.Nodup →
      ¬r.Refuses earlier other := by
    rintro earlier other later rfl hbefore hrefuses
    obtain ⟨_, es, done, -, hdone, hdoneBuilt, hone⟩ := hbuilt.exists_split hids
    obtain ⟨fault, hfault⟩ := (exists_assignOne_eq_error_iff hr.sound hdoneBuilt hdone
      (List.Nodup.of_append_left hbefore) other).mpr hrefuses
    rw [hone] at hfault
    cases hfault
  -- A namespace that forbids itself through others would come before itself.
  have hcycle : ∀ id ∈ order, Relation.TransGen r.Forbids id id →
      ∃ fault, (r.assign order).2 = .error fault := by
    intro id hid hpath
    cases hassign : (r.assign order).2 with
    | error fault => exact ⟨fault, rfl⟩
    | ok a => exact absurd (idxOf_lt_of_path hassign hid hpath) (lt_irrefl _)
  rcases hrun with ⟨hall, hrun⟩ | ⟨id, after, fault, hsplit, hone, hrun⟩
  · rw [hrun] at hcycle ⊢
    rw [hall] at hnodup ⊢
    refine ⟨⟨fun ⟨fault, hfault⟩ => (nomatch hfault), ?_⟩, fun fault hfault => (nomatch hfault),
      fun _ _ => rfl, hcycle⟩
    rintro ⟨earlier, other, later, hbefore, hrefuses⟩
    exact absurd hrefuses (hpassed earlier other later hbefore hnodup)
  · have hbefore : before.Nodup := List.Nodup.of_append_left (hsplit ▸ hnodup)
    have hrefuses : r.Refuses before id :=
      (exists_assignOne_eq_error_iff hr.sound hbuilt hids hbefore id).mp ⟨fault, hone⟩
    rw [hrun] at hcycle ⊢
    refine ⟨⟨fun _ => ⟨before, id, after, hsplit, hrefuses⟩, fun _ => ⟨fault, rfl⟩⟩, ?_,
      fun a ha => (nomatch ha), hcycle⟩
    rintro _ ⟨⟩
    exact ⟨isBreach_of_assignOne hone, before, id, after, hsplit, hrefuses,
      fun earlier other later h => hpassed earlier other later h hbefore, rfl⟩

/-- A fixed name fails where a numbered text of another namespace came before it.  The namespace
with the numbered text is sealed, and the one after the failure is not. -/
theorem assign_up_to_refused_keyword :
    let names : List (NamespaceId × Name) :=
      [(0, ⟨0, "Point", false⟩), (0, ⟨1, "Point", false⟩), (1, ⟨2, "Point2", true⟩)]
    let created := ((empty.create "types" []).create "keywords" [0]).create "other" []
    ∃ r, names.foldlM (fun r n => r.add n.1 n.2) created = .ok r ∧ r.Reachable ∧
      r.assign [0, 1, 0, 2] = (r.sealing [0], .error (.fixedClash "Point2" "keywords")) ∧
      (r.sealing [0]).namespaces.map (·.sealed) = [true, false, false] ∧
      ∃ before id after, unique [0, 1, 0, 2] = before ++ id :: after ∧ r.Refuses before id := by
  intro names created
  let r : Registry := ⟨[{ label := "types", members := [⟨0, "Point", false⟩, ⟨1, "Point", false⟩] },
    { label := "keywords", forbidden := [0], members := [⟨2, "Point2", true⟩] },
    { label := "other" }]⟩
  have hcreated : created.Reachable := ((Reachable.empty.create _ _).create _ _).create _ _
  have hnames : names.foldlM (fun r n => r.add n.1 n.2) created = .ok r := by cbv
  have hr : r.Reachable := hcreated.addAll hnames
  have hassign : r.assign [0, 1, 0, 2] =
      (r.sealing [0], .error (.fixedClash "Point2" "keywords")) := by cbv
  exact ⟨r, hnames, hr, hassign, by cbv,
    (assign_up_to_refused hr [0, 1, 0, 2]).1.mp ⟨_, congrArg Prod.snd hassign⟩⟩

end Registry

end SourceLayout
