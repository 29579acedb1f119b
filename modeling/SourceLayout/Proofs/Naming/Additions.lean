import SourceLayout.Proofs.Naming.Operations
import SourceLayout.Proofs.Naming.Reordering

/-! What later additions change in an assignment.  More namespaces at the end of an order change
nothing for those before them.  A name that is added at the end of a namespace is named last there,
so that its text can get in the way only where its namespace is forbidden, directly or through
others. -/

namespace SourceLayout

/-! ### One more name in a namespace -/

namespace Namespace

/-- A name that is not fixed and comes last is given its text last, from what is left for it. -/
theorem entries_of_added {s t : Namespace} {n : Name} {taken : List String}
    {es : List (Name × String)} (h : s.entries taken = .ok es) (hlabel : t.label = s.label)
    (hmembers : t.members = s.members ++ [n]) (hfree : n.fixed = false) :
    ∃ text, t.entries taken = .ok (es ++ [(n, text)]) := by
  obtain ⟨fixed, hfixed, h⟩ := bind_eq_ok.mp h
  cases h
  have hkept : t.members.filter (·.fixed) = s.members.filter (·.fixed) := by
    rw [hmembers, List.filter_append, List.filter_cons_of_neg (by simp [hfree]), List.filter_nil,
      List.append_nil]
  have hmore : t.members.filter (!·.fixed) = s.members.filter (!·.fixed) ++ [n] := by
    rw [hmembers, List.filter_append, List.filter_cons_of_pos (by simp [hfree]), List.filter_nil]
  have hentries : t.entries taken =
      .ok (fixed ++ freeEntries (fixed.map (·.2) ++ taken) (t.members.filter (!·.fixed))) := by
    rw [entries, hkept, hlabel, hfixed]
    rfl
  rw [hentries, hmore, freeEntries_append, freeEntries, freeEntries, ← List.append_assoc]
  exact ⟨_, rfl⟩

end Namespace

/-! ### The entries of other namespaces -/

namespace Assigned

variable {r s : Registry} {all others : Assigned} {added : NamespaceId}

/-- Where only one namespace has changed, a namespace that does not forbid it through others has
the same entries as before. -/
theorem Built.lookup_eq (hbuilt : Built r all) (hothers : Built s others)
    (hids : all.map (·.1) = others.map (·.1)) (hsame : ∀ id, id ≠ added → s.lookup id = r.lookup id)
    {id : NamespaceId} (hid : ¬Relation.ReflTransGen r.Forbids id added) :
    others.lookup id = all.lookup id := by
  induction all generalizing others id with
  | nil => rw [List.map_eq_nil_iff.mp hids.symm]
  | cons last done ih =>
    cases others with
    | nil => cases hids
    | cons last' done' =>
      obtain ⟨other, es⟩ := last
      obtain ⟨other', fs⟩ := last'
      obtain ⟨rfl, htail⟩ := List.cons.inj hids
      rw [List.lookup_cons, List.lookup_cons]
      by_cases hlast : id = other
      · subst hlast
        -- The texts that it may not use again are the same, as it forbids only such namespaces.
        have hne : id ≠ added := by
          rintro rfl
          exact hid .refl
        have htexts : ∀ forbidden ∈ (s.lookup id).forbidden,
            textsOf? done forbidden = textsOf? done' forbidden := by
          intro forbidden hforbidden
          rw [hsame id hne] at hforbidden
          rw [textsOf?, textsOf?, ih hbuilt.2 hothers.2 htail fun hpath =>
            hid (.head hforbidden hpath)]
        have hagain : s.assignOne done id = .ok es := by
          apply Registry.assignOne_of_eq_ok hbuilt.1 <;> rw [hsame id hne]
        rw [Registry.assignOne_congr htexts, hothers.1] at hagain
        simp [Except.ok.inj hagain]
      · have hbeq : (id == other) = false := by simpa using hlast
        rw [hbeq]
        exact ih hbuilt.2 hothers.2 htail hid

/-- The namespace to which the name was added has its entries as before, and one for the name. -/
theorem Built.exists_lookup_added (hbuilt : Built r all) (hothers : Built s others)
    (hids : all.map (·.1) = others.map (·.1))
    (hsame : ∀ id, id ≠ added → s.lookup id = r.lookup id) {n : Name}
    (hspace : s.lookup added =
      { r.lookup added with members := (r.lookup added).members ++ [n] })
    (hfree : n.fixed = false) (hcycle : ¬Relation.TransGen r.Forbids added added)
    (hadded : added ∈ all.map (·.1)) :
    ∃ es text, (added, es) ∈ all ∧ (added, es ++ [(n, text)]) ∈ others := by
  obtain ⟨after, before, hsplit⟩ := List.append_of_mem hadded
  have horder : all.map (·.1) = (before.reverse ++ added :: after.reverse).reverse := by
    simp [hsplit]
  obtain ⟨later, es, done, rfl, hdone, hdoneBuilt, hone⟩ := hbuilt.exists_split horder
  obtain ⟨later', fs, done', rfl, hdone', hdoneBuilt', hone'⟩ :=
    hothers.exists_split (hids ▸ horder)
  have htexts : ∀ forbidden ∈ (s.lookup added).forbidden,
      textsOf? done forbidden = textsOf? done' forbidden := by
    intro forbidden hforbidden
    rw [hspace] at hforbidden
    rw [textsOf?, textsOf?, hdoneBuilt.lookup_eq hdoneBuilt' (hdone.trans hdone'.symm) hsame
      fun hpath => hcycle (.head' hforbidden hpath)]
  obtain ⟨taken, htaken, hentries⟩ := bind_eq_ok.mp hone
  have hlabel : (s.lookup added).label = (r.lookup added).label := by rw [hspace]
  have hmembers : (s.lookup added).members = (r.lookup added).members ++ [n] := by rw [hspace]
  have hforbidden : (s.lookup added).forbidden = (r.lookup added).forbidden := by rw [hspace]
  obtain ⟨text, hmore⟩ := Namespace.entries_of_added hentries hlabel hmembers hfree
  have hagain : s.assignOne done added = .ok (es ++ [(n, text)]) := by
    rw [Registry.assignOne, hlabel, hforbidden]
    exact bind_eq_ok.mpr ⟨taken, Registry.forbiddenTexts_of_eq_ok htaken s, hmore⟩
  rw [Registry.assignOne_congr htexts, hone'] at hagain
  obtain rfl := Except.ok.inj hagain
  exact ⟨es, text, by simp, by simp⟩

/-- A name that has the same entry in two assignments has the same text in both. -/
theorem Built.exists_text (hbuilt : Built r all) (hothers : Built s others) (hr : r.Sound)
    (hs : s.Sound) (hids : (all.map (·.1)).Nodup) (hotherIds : (others.map (·.1)).Nodup)
    {id : NamespaceId} {es fs : List (Name × String)} (hes : (id, es) ∈ all)
    (hfs : (id, fs) ∈ others) (hsub : es ⊆ fs) {n : Name} (hn : n ∈ (r.lookup id).members) :
    ∃ text, all.toAssignment.get? n = some text ∧ others.toAssignment.get? n = some text := by
  obtain ⟨text, htext, hget⟩ := hbuilt.exists_entry hr hids hes hn
  exact ⟨text, hget, (hothers.get?_toAssignment hs hotherIds n text).mpr ⟨id, fs, hfs, hsub htext⟩⟩

end Assigned

namespace Registry

/-- A name that is added to a namespace changes nothing else. -/
theorem lookup_of_add {r s : Registry} {added : NamespaceId} {n : Name}
    (h : r.add added n = .ok s) :
    (∀ id, id ≠ added → s.lookup id = r.lookup id) ∧
      (added < r.namespaces.length → s.lookup added =
        { r.lookup added with members := (r.lookup added).members ++ [n] }) := by
  obtain ⟨-, -, rfl⟩ := add_eq_ok h
  refine ⟨fun id hid => ?_, fun hexists => ?_⟩
  · rw [lookup_update, if_neg fun h => hid h.1.symm]
  · rw [lookup_update, if_pos ⟨rfl, hexists⟩]

/-- The namespaces of an order that can be assigned, each with its entries. -/
theorem exists_built {r : Registry} {order : List NamespaceId} {a : Assignment}
    (h : (r.assign order).2 = .ok a) :
    ∃ all : Assigned, a = all.toAssignment ∧ all.Built r ∧
      all.map (·.1) = (unique order).reverse ∧ (all.map (·.1)).Nodup := by
  obtain ⟨all, ha, hbuilt, hids⟩ :=
    exists_of_assignFrom (r := r) (fun _ _ => rfl) (show Assigned.Built r [] from trivial) h
  rw [List.map_nil, List.append_nil] at hids
  refine ⟨all, ha, hbuilt, hids, ?_⟩
  rw [hids, List.nodup_reverse]
  exact nodup_eraseDups order

/-- An order that can be assigned can be assigned without its last namespaces, which give their
names no other texts. -/
theorem assign_of_append {r : Registry} (hr : r.Sound) {order more : List NamespaceId}
    {a : Assignment} (h : (r.assign (order ++ more)).2 = .ok a) :
    ∃ b, (r.assign order).2 = .ok b ∧ ∀ id ∈ order, ∀ n ∈ (r.lookup id).members,
      ∃ text, a.get? n = some text ∧ b.get? n = some text := by
  obtain ⟨all, rfl, hbuilt, hids, hnodup⟩ := exists_built h
  rw [unique, List.eraseDups_append, List.reverse_append, List.map_eq_append_iff] at hids
  obtain ⟨later, done, rfl, -, hdone⟩ := hids
  have hrun := assign_of_built hbuilt.of_append hdone
  have hdoneIds : (done.map (·.1)).Nodup := by
    rw [List.map_append] at hnodup
    exact List.Nodup.of_append_right hnodup
  refine ⟨Assigned.toAssignment done, congrArg Prod.snd hrun, fun id hid n hn => ?_⟩
  have hassigned : id ∈ done.map (·.1) := by
    rw [hdone, List.mem_reverse]
    exact List.mem_eraseDups.mpr hid
  obtain ⟨⟨_, es⟩, hes, rfl⟩ := List.mem_map.mp hassigned
  exact hbuilt.exists_text hbuilt.of_append hr hr hnodup hdoneIds
    (List.mem_append_right later hes) hes (List.Subset.refl es) hn

/-- An order that can be assigned before and after a name was added gives the same texts in the
namespace of that name and in all that do not forbid it, directly or through others. -/
theorem texts_of_added {r s : Registry} (hr : r.Reachable) {order : List NamespaceId}
    {added : NamespaceId} {n : Name} {a b : Assignment} (hadd : r.add added n = .ok s)
    (hfree : n.fixed = false) (ha : (r.assign order).2 = .ok a) (hb : (s.assign order).2 = .ok b)
    {id : NamespaceId} (hid : id ∈ order)
    (hpath : id = added ∨ ¬Relation.TransGen r.Forbids id added) {m : Name}
    (hm : m ∈ (r.lookup id).members) :
    ∃ text, a.get? m = some text ∧ b.get? m = some text := by
  have hs : s.Reachable := hr.add hadd
  obtain ⟨hsame, hspace⟩ := lookup_of_add hadd
  obtain ⟨all, rfl, hbuilt, hids, hnodup⟩ := exists_built ha
  obtain ⟨others, rfl, hothers, hotherIds, hotherNodup⟩ := exists_built hb
  have hassigned : id ∈ all.map (·.1) := by
    rw [hids, List.mem_reverse]
    exact List.mem_eraseDups.mpr hid
  by_cases hadded : id = added
  · subst hadded
    have hexists : id < r.namespaces.length := by
      by_contra hnone
      rw [lookup_of_length_le (Nat.le_of_not_lt hnone)] at hm
      cases hm
    have hcycle : ¬Relation.TransGen r.Forbids id id :=
      fun hloop => Nat.lt_irrefl _ (idxOf_lt_of_path ha hid hloop)
    obtain ⟨es, text, hes, hfs⟩ := hbuilt.exists_lookup_added hothers
      (hids.trans hotherIds.symm) hsame (hspace hexists) hfree hcycle hassigned
    exact hbuilt.exists_text hothers hr.sound hs.sound hnodup hotherNodup hes hfs
      (List.subset_append_left es _) hm
  · have hunreached : ¬Relation.ReflTransGen r.Forbids id added := by
      rw [Relation.reflTransGen_iff_eq_or_transGen]
      rintro (heq | hforbids)
      · exact hadded heq.symm
      · exact (hpath.resolve_left hadded) hforbids
    obtain ⟨⟨_, es⟩, hes, rfl⟩ := List.mem_map.mp hassigned
    have hlookup := (lookup_eq_some_iff_mem hnodup _ es).mpr hes
    rw [← hbuilt.lookup_eq hothers (hids.trans hotherIds.symm) hsame hunreached,
      lookup_eq_some_iff_mem hotherNodup] at hlookup
    exact hbuilt.exists_text hothers hr.sound hs.sound hnodup hotherNodup hes hlookup
      (List.Subset.refl es) hm

/-- An assignment is stable under additions.  Namespaces that come last in an order can be left out,
and the members of the others keep their texts.  A name that is not fixed can be added to a
namespace, if that does not keep the order from being assigned: the other members of the namespace
keep their texts, and so do those of all namespaces that do not forbid it, directly or through
others. -/
theorem texts_kept_by_additions {r : Registry} (hr : r.Reachable) :
    (∀ (order more : List NamespaceId) (a : Assignment), (r.assign (order ++ more)).2 = .ok a →
      ∃ b, (r.assign order).2 = .ok b ∧ ∀ id ∈ order, ∀ m ∈ (r.lookup id).members,
        ∃ text, a.get? m = some text ∧ b.get? m = some text) ∧
    ∀ (order : List NamespaceId) (added : NamespaceId) (n : Name) (s : Registry)
      (a b : Assignment), added ∈ order → n.fixed = false → r.add added n = .ok s →
      (r.assign order).2 = .ok a → (s.assign order).2 = .ok b →
      ∀ id ∈ order, id = added ∨ ¬Relation.TransGen r.Forbids id added →
        ∀ m ∈ (r.lookup id).members, ∃ text, a.get? m = some text ∧ b.get? m = some text := by
  constructor
  · intro order more a h
    exact assign_of_append hr.sound h
  · intro order added n s a b _ hfree hadd ha hb id hid hpath m hm
    exact texts_of_added hr hadd hfree ha hb hid hpath hm

/-- A second proposal of a text goes before that of a namespace that forbids its own through another
one.  The names of the other namespaces keep their texts. -/
theorem texts_kept_by_additions_point :
    let names : List (NamespaceId × Name) := [(0, ⟨0, "class", true⟩), (1, ⟨1, "Point", false⟩),
      (2, ⟨2, "Point2", false⟩), (3, ⟨3, "Point2", false⟩), (4, ⟨4, "Point", false⟩)]
    let created := ((((empty.create "keywords" []).create "types" [0]).create "members" [1]).create
      "inherited" [2]).create "variables" [0]
    ∃ r s a b, names.foldlM (fun r n => r.add n.1 n.2) created = .ok r ∧ r.Reachable ∧
      r.add 1 ⟨5, "Point", false⟩ = .ok s ∧
      (r.assign [0, 1, 2, 0, 4, 3]).2 = .ok a ∧ (s.assign [0, 1, 2, 0, 4, 3]).2 = .ok b ∧
      names.map (fun n => a.get? n.2) =
        [some "class", some "Point", some "Point2", some "Point22", some "Point"] ∧
      names.map (fun n => b.get? n.2) =
        [some "class", some "Point", some "Point22", some "Point2", some "Point"] ∧
      (∃ c, (r.assign [0, 1, 2, 0]).2 = .ok c ∧ ∀ id ∈ [0, 1, 2, 0], ∀ m ∈ (r.lookup id).members,
        ∃ text, a.get? m = some text ∧ c.get? m = some text) ∧
      ∀ id ∈ [1, 4], ∀ m ∈ (r.lookup id).members,
        ∃ text, a.get? m = some text ∧ b.get? m = some text := by
  intro names created
  let r : Registry := ⟨[{ label := "keywords", members := [⟨0, "class", true⟩] },
    { label := "types", forbidden := [0], members := [⟨1, "Point", false⟩] },
    { label := "members", forbidden := [1], members := [⟨2, "Point2", false⟩] },
    { label := "inherited", forbidden := [2], members := [⟨3, "Point2", false⟩] },
    { label := "variables", forbidden := [0], members := [⟨4, "Point", false⟩] }]⟩
  let s : Registry := ⟨[{ label := "keywords", members := [⟨0, "class", true⟩] },
    { label := "types", forbidden := [0],
      members := [⟨1, "Point", false⟩, ⟨5, "Point", false⟩] },
    { label := "members", forbidden := [1], members := [⟨2, "Point2", false⟩] },
    { label := "inherited", forbidden := [2], members := [⟨3, "Point2", false⟩] },
    { label := "variables", forbidden := [0], members := [⟨4, "Point", false⟩] }]⟩
  let a : Assignment := ⟨[(⟨3, "Point2", false⟩, "Point22"), (⟨4, "Point", false⟩, "Point"),
    (⟨2, "Point2", false⟩, "Point2"), (⟨1, "Point", false⟩, "Point"),
    (⟨0, "class", true⟩, "class")]⟩
  let b : Assignment := ⟨[(⟨3, "Point2", false⟩, "Point2"), (⟨4, "Point", false⟩, "Point"),
    (⟨2, "Point2", false⟩, "Point22"), (⟨5, "Point", false⟩, "Point2"),
    (⟨1, "Point", false⟩, "Point"), (⟨0, "class", true⟩, "class")]⟩
  have hcreated : created.Reachable :=
    ((((Reachable.empty.create _ _).create _ _).create _ _).create _ _).create _ _
  have hnames : names.foldlM (fun r n => r.add n.1 n.2) created = .ok r := by cbv
  have hr : r.Reachable := hcreated.addAll hnames
  have hadd : r.add 1 ⟨5, "Point", false⟩ = .ok s := by cbv
  have ha : (r.assign [0, 1, 2, 0, 4, 3]).2 = .ok a := by cbv
  have hb : (s.assign [0, 1, 2, 0, 4, 3]).2 = .ok b := by cbv
  -- The variables forbid the keywords only, which forbid nothing.
  have hfour : ¬Relation.TransGen r.Forbids 4 1 := by
    intro hpath
    obtain ⟨other, hother, hrest⟩ := Relation.TransGen.head'_iff.mp hpath
    obtain rfl : other = 0 := List.mem_singleton.mp hother
    rcases hrest.cases_head with h | ⟨next, hnext, -⟩
    · cases h
    · exact List.not_mem_nil hnext
  obtain ⟨happend, hadded⟩ := texts_kept_by_additions hr
  refine ⟨r, s, a, b, hnames, hr, hadd, ha, hb, by cbv, by cbv,
    happend [0, 1, 2, 0] [4, 3] a ha, fun id hid => ?_⟩
  refine hadded _ 1 ⟨5, "Point", false⟩ s a b (by decide) rfl hadd ha hb id ?_ ?_
  · simp only [List.mem_cons, List.not_mem_nil, or_false] at hid
    rcases hid with rfl | rfl <;> decide
  · simp only [List.mem_cons, List.not_mem_nil, or_false] at hid
    rcases hid with rfl | rfl
    · exact .inl rfl
    · exact .inr hfour

end Registry

end SourceLayout
