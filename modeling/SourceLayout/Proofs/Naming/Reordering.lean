import SourceLayout.Proofs.Naming.Progress

/-! The order of the namespaces does not tell in what is assigned.  A namespace gets its entries
from those of the namespaces that it forbids and from nothing else, so that two orders in which
these come first lead to the same entries. -/

namespace SourceLayout

namespace Registry

variable {r : Registry}

theorem forbiddenTexts_congr {done others : Assigned} {ids : List NamespaceId}
    (h : ∀ id ∈ ids, done.textsOf? id = others.textsOf? id) (label : String) :
    r.forbiddenTexts done label ids = r.forbiddenTexts others label ids := by
  induction ids with
  | nil => rfl
  | cons id ids ih =>
    rw [List.forall_mem_cons] at h
    rw [forbiddenTexts, forbiddenTexts, h.1, ih h.2]

/-- A namespace gets its entries from the texts of the namespaces that it forbids. -/
theorem assignOne_congr {done others : Assigned} {id : NamespaceId}
    (h : ∀ other ∈ (r.lookup id).forbidden, done.textsOf? other = others.textsOf? other) :
    r.assignOne done id = r.assignOne others id := by
  rw [assignOne, assignOne, forbiddenTexts_congr h]

/-- A namespace gets the same entries wherever the namespaces that it forbids have theirs. -/
theorem assignOne_of_subset {all done earlier : Assigned} {id : NamespaceId}
    {es : List (Name × String)} (hids : (all.map (·.1)).Nodup) (hdone : done ⊆ all)
    (hearlier : earlier ⊆ all) (h : r.assignOne earlier id = .ok es)
    (hforbidden : ∀ other ∈ (r.lookup id).forbidden, other ∈ done.map (·.1)) :
    r.assignOne done id = .ok es := by
  obtain ⟨hassigned, -⟩ := (r.exists_assignOne_iff earlier id).mp ⟨es, h⟩
  rw [← h]
  refine assignOne_congr fun other hother => ?_
  obtain ⟨own, hown⟩ := hassigned other hother
  obtain ⟨texts, htexts⟩ := (Assigned.exists_textsOf?_iff done other).mpr (hforbidden other hother)
  obtain ⟨fs, hfs, rfl⟩ := Assigned.textsOf?_eq_some hown
  obtain ⟨gs, hgs, rfl⟩ := Assigned.textsOf?_eq_some htexts
  rw [hown, htexts, Assigned.eq_of_mem hids (hearlier hfs) (hdone hgs)]

end Registry

namespace Assigned

variable {r : Registry} {all others : Assigned}

/-- Where some of the namespaces were assigned in another order, they have the same entries. -/
theorem Built.subset (hbuilt : Built r all) (hids : (all.map (·.1)).Nodup)
    (hothers : Built r others) (hsub : others.map (·.1) ⊆ all.map (·.1)) : others ⊆ all := by
  induction others with
  | nil => exact List.nil_subset all
  | cons last done ih =>
    obtain ⟨id, es⟩ := last
    rw [List.map_cons, List.cons_subset] at hsub
    have hdone : done ⊆ all := ih hothers.2 hsub.2
    obtain ⟨⟨_, fs⟩, hfs, rfl⟩ := List.mem_map.mp hsub.1
    obtain ⟨earlier, hearlier, hone⟩ := hbuilt.exists_of_mem hfs
    obtain ⟨hassigned, -⟩ := (r.exists_assignOne_iff done _).mp ⟨es, hothers.1⟩
    have hsame := Registry.assignOne_of_subset hids hdone hearlier hone fun other hother =>
      (exists_textsOf?_iff done other).mp (hassigned other hother)
    obtain rfl : es = fs := Except.ok.inj (hothers.1.symm.trans hsame)
    exact List.cons_subset.mpr ⟨hfs, hdone⟩

/-- Assignments of the same namespaces give every name the same text. -/
theorem Built.get?_eq (hbuilt : Built r all) (hothers : Built r others) (hr : r.Sound)
    (hids : (all.map (·.1)).Nodup) (hotherIds : (others.map (·.1)).Nodup)
    (hsame : ∀ id, id ∈ all.map (·.1) ↔ id ∈ others.map (·.1)) (n : Name) :
    others.toAssignment.get? n = all.toAssignment.get? n := by
  have hsub : others ⊆ all := hbuilt.subset hids hothers fun id => (hsame id).mpr
  have hsup : all ⊆ others := hothers.subset hotherIds hbuilt fun id => (hsame id).mp
  refine Option.ext fun t => ?_
  rw [hothers.get?_toAssignment hr hotherIds, hbuilt.get?_toAssignment hr hids]
  exact exists_congr fun id => exists_congr fun es => and_congr_left' ⟨(hsub ·), (hsup ·)⟩

end Assigned

namespace Registry

/-- An order that can be assigned can be exchanged for any other order of the same namespaces in
which each namespace comes after those it forbids: this one can be assigned as well, and gives every
name the same text. -/
theorem assign_reordered {r : Registry} (hr : r.Reachable) {order other : List NamespaceId}
    {a : Assignment} (h : (r.assign order).2 = .ok a) (hsame : ∀ id, id ∈ order ↔ id ∈ other)
    (hfirst : ∀ id ∈ other, ∀ forbidden ∈ (r.lookup id).forbidden,
      other.idxOf forbidden < other.idxOf id) :
    ∃ b, (r.assign other).2 = .ok b ∧ ∀ n, b.get? n = a.get? n := by
  obtain ⟨all, rfl, hbuilt, hall⟩ :=
    exists_of_assignFrom (r := r) (fun _ _ => rfl) (show Assigned.Built r [] from trivial) h
  rw [List.map_nil, List.append_nil] at hall
  have hids : (all.map (·.1)).Nodup := by
    rw [hall, List.nodup_reverse]
    exact nodup_eraseDups order
  have hmem (id : NamespaceId) : id ∈ all.map (·.1) ↔ id ∈ unique other := by
    rw [hall, List.mem_reverse, unique, unique, List.mem_eraseDups, List.mem_eraseDups, hsame]
  obtain ⟨before, others, hothers, hbefore, ⟨rfl, hrun⟩ | ⟨id, after, fault, hsplit, hone, -⟩⟩ :=
    r.assign_cases other
  · have hotherIds : (others.map (·.1)).Nodup := by
      rw [hbefore, List.nodup_reverse]
      exact nodup_eraseDups other
    refine ⟨others.toAssignment, congrArg Prod.snd hrun,
      hbuilt.get?_eq hothers hr.sound hids hotherIds fun id => ?_⟩
    rw [hmem, hbefore, List.mem_reverse]
  · -- The namespaces before have what they have in the first order, so this one is not refused.
    have hsub : others ⊆ all := hbuilt.subset hids hothers fun earlier hearlier => by
      rw [hmem, hsplit]
      rw [hbefore, List.mem_reverse] at hearlier
      exact List.mem_append_left _ hearlier
    have hid : id ∈ unique other := by
      rw [hsplit]
      simp
    obtain ⟨⟨_, es⟩, hes, rfl⟩ := List.mem_map.mp ((hmem id).mpr hid)
    obtain ⟨earlier, hearlier, hok⟩ := hbuilt.exists_of_mem hes
    have hassigned := assignOne_of_subset hids hsub hearlier hok fun forbidden hforbidden => by
      rw [hbefore, List.mem_reverse]
      exact (mem_of_eraseDups_eq_append hsplit).mpr
        (hfirst _ (List.mem_eraseDups.mp hid) forbidden hforbidden)
    rw [hassigned] at hone
    cases hone

/-- Two namespaces change places that do not forbid each other, and one comes twice. -/
theorem assign_reordered_types :
    let names : List (NamespaceId × Name) := [(0, ⟨0, "class", true⟩), (1, ⟨1, "Point", false⟩),
      (1, ⟨2, "class", false⟩), (2, ⟨3, "Point", false⟩), (3, ⟨4, "Point", false⟩)]
    let created := (((empty.create "keywords" []).create "types" [0]).create "variables" [0]).create
      "members" [2, 1]
    ∃ r a b, names.foldlM (fun r n => r.add n.1 n.2) created = .ok r ∧ r.Reachable ∧
      (r.assign [0, 1, 2, 0, 3]).2 = .ok a ∧ (r.assign [0, 2, 1, 2, 3]).2 = .ok b ∧
      names.map (fun n => a.get? n.2) =
        [some "class", some "Point", some "class2", some "Point", some "Point2"] ∧
      ∀ n, b.get? n = a.get? n := by
  intro names created
  let r : Registry := ⟨[{ label := "keywords", members := [⟨0, "class", true⟩] },
    { label := "types", forbidden := [0], members := [⟨1, "Point", false⟩, ⟨2, "class", false⟩] },
    { label := "variables", forbidden := [0], members := [⟨3, "Point", false⟩] },
    { label := "members", forbidden := [2, 1], members := [⟨4, "Point", false⟩] }]⟩
  let a : Assignment := ⟨[(⟨4, "Point", false⟩, "Point2"), (⟨3, "Point", false⟩, "Point"),
    (⟨2, "class", false⟩, "class2"), (⟨1, "Point", false⟩, "Point"), (⟨0, "class", true⟩, "class")]⟩
  have hcreated : created.Reachable :=
    (((Reachable.empty.create _ _).create _ _).create _ _).create _ _
  have hnames : names.foldlM (fun r n => r.add n.1 n.2) created = .ok r := by cbv
  have hr : r.Reachable := hcreated.addAll hnames
  have hassign : (r.assign [0, 1, 2, 0, 3]).2 = .ok a := by cbv
  have hsame (id : NamespaceId) : id ∈ [0, 1, 2, 0, 3] ↔ id ∈ [0, 2, 1, 2, 3] := by
    simp only [List.mem_cons]
    tauto
  obtain ⟨b, hb, hget⟩ := assign_reordered hr hassign hsame (by decide)
  exact ⟨r, a, b, hnames, hr, hassign, hb, by cbv, hget⟩

end Registry

end SourceLayout
