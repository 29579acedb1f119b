import Mathlib
import SourceLayout.Proofs.Naming.Assigned

/-! An assignment fits the registry it is made from.  It names the members of its namespaces and
nothing else, keeps the texts of a namespace apart from each other and from those of the forbidden
namespaces, and gives every name that is not fixed the first candidate that is left for it. -/

namespace SourceLayout

namespace Assignment

/-- A text that is not left for a name of a namespace, where `before` are the members before the
name: one of these has it that is not fixed, or a fixed member has it, or a member of a forbidden
namespace. -/
def Blocks (a : Assignment) (r : Registry) (id : NamespaceId) (before : List Name) (t : String) :
    Prop :=
  (∃ m ∈ before, m.fixed = false ∧ a.get? m = some t) ∨
    (∃ m ∈ (r.lookup id).members, m.fixed = true ∧ m.proposed = t) ∨
    ∃ other ∈ (r.lookup id).forbidden, ∃ m ∈ (r.lookup other).members, a.get? m = some t

/-- The assignment gives the members of the namespaces in `order` the texts that they should have.
-/
structure Fits (a : Assignment) (r : Registry) (order : List NamespaceId) : Prop where
  names : ∀ n, (∃ t, a.get? n = some t) ↔ ∃ id ∈ order, n ∈ (r.lookup id).members
  fixed : ∀ id ∈ order, ∀ n ∈ (r.lookup id).members, n.fixed = true →
    a.get? n = some n.proposed
  distinct : ∀ id ∈ order, ∀ m ∈ (r.lookup id).members, ∀ n ∈ (r.lookup id).members,
    m ≠ n → a.get? m ≠ a.get? n
  apart : ∀ id ∈ order, ∀ other ∈ (r.lookup id).forbidden, ∀ n ∈ (r.lookup id).members,
    ∀ m ∈ (r.lookup other).members, a.get? n ≠ a.get? m
  first : ∀ id ∈ order, ∀ before n after, (r.lookup id).members = before ++ n :: after →
    n.fixed = false →
      ∃ k, a.get? n = some (candidate n.proposed k) ∧
        ¬a.Blocks r id before (candidate n.proposed k) ∧
        ∀ j < k, a.Blocks r id before (candidate n.proposed j)

end Assignment

namespace Assigned

section

variable {r : Registry} {all : Assigned} {id : NamespaceId} {es : List (Name × String)}
  (hbuilt : Built r all) (hr : r.Sound) (hids : (all.map (·.1)).Nodup)

include hids in
/-- A namespace is assigned once. -/
theorem eq_of_mem {fs : List (Name × String)} (hes : (id, es) ∈ all) (hfs : (id, fs) ∈ all) :
    es = fs :=
  congrArg Prod.snd (List.inj_on_of_nodup_map hids hes hfs rfl)

include hbuilt hr hids

/-- Each namespace that was assigned has its names, where the texts of the forbidden namespaces are
taken, all of which were assigned too. -/
theorem Built.named (hes : (id, es) ∈ all) :
    ∃ taken, (r.lookup id).Named taken es ∧
      (∀ other ∈ (r.lookup id).forbidden, ∃ fs, (other, fs) ∈ all) ∧
      ∀ t, t ∈ taken ↔ ∃ other ∈ (r.lookup id).forbidden, ∃ fs, (other, fs) ∈ all ∧
        t ∈ fs.map (·.2) := by
  obtain ⟨earlier, hsub, hone⟩ := hbuilt.exists_of_mem hes
  obtain ⟨taken, htaken, hentries⟩ := bind_eq_ok.mp hone
  obtain ⟨hassigned, htexts⟩ := Registry.forbiddenTexts_eq_ok htaken
  refine ⟨taken, Namespace.named_of_entries hentries (hr.nodup id), ?_, fun t => ?_⟩
  · intro other hother
    obtain ⟨own, hown⟩ := hassigned other hother
    obtain ⟨fs, hfs, -⟩ := textsOf?_eq_some hown
    exact ⟨fs, hsub hfs⟩
  · rw [htexts]
    constructor
    · rintro ⟨other, hother, own, hown, ht⟩
      obtain ⟨fs, hfs, rfl⟩ := textsOf?_eq_some hown
      exact ⟨other, hother, fs, hsub hfs, ht⟩
    · rintro ⟨other, hother, fs, hfs, ht⟩
      -- What a forbidden namespace has in the end it had when its texts were looked up.
      obtain ⟨own, hown⟩ := hassigned other hother
      obtain ⟨gs, hgs, rfl⟩ := textsOf?_eq_some hown
      rw [eq_of_mem hids hfs (hsub hgs)] at ht
      exact ⟨other, hother, _, hown, ht⟩

theorem Built.names_perm (hes : (id, es) ∈ all) :
    (es.map (·.1)).Perm (r.lookup id).members := by
  obtain ⟨_, hnamed, -, -⟩ := hbuilt.named hr hids hes
  exact hnamed.names

/-- A name has one entry in all. -/
theorem Built.nodup_names : ((all.reverse.flatMap (·.2)).map (·.1)).Nodup := by
  rw [List.map_flatMap, List.nodup_flatMap]
  constructor
  · rintro ⟨id, es⟩ hes
    exact (hbuilt.names_perm hr hids (List.mem_reverse.mp hes)).nodup_iff.mpr (hr.nodup id)
  · have hne : all.reverse.Pairwise fun p q => p.1 ≠ q.1 := by
      rw [List.pairwise_reverse]
      exact (List.pairwise_map.mp hids).imp Ne.symm
    refine hne.imp_of_mem fun {p q} hp hq hpq => ?_
    intro n hnp hnq
    have hp' := (hbuilt.names_perm hr hids (List.mem_reverse.mp hp)).mem_iff.mp hnp
    have hq' := (hbuilt.names_perm hr hids (List.mem_reverse.mp hq)).mem_iff.mp hnq
    exact hpq (hr.apart hp' hq')

/-- The assignment holds the entries of all namespaces. -/
theorem Built.get?_toAssignment (n : Name) (t : String) :
    all.toAssignment.get? n = some t ↔ ∃ id es, (id, es) ∈ all ∧ (n, t) ∈ es := by
  rw [toAssignment, Assignment.get?_ofList_of_nodup (hbuilt.nodup_names hr hids)]
  simp

/-- The text of a member is that of its entry in its own namespace. -/
theorem Built.get?_member (hes : (id, es) ∈ all) {n : Name} (hn : n ∈ (r.lookup id).members)
    (t : String) : all.toAssignment.get? n = some t ↔ (n, t) ∈ es := by
  rw [hbuilt.get?_toAssignment hr hids]
  constructor
  · rintro ⟨other, fs, hfs, ht⟩
    have hother : n ∈ (r.lookup other).members :=
      (hbuilt.names_perm hr hids hfs).mem_iff.mp (List.mem_map_of_mem ht)
    obtain rfl := hr.apart hother hn
    rwa [eq_of_mem hids hes hfs]
  · exact fun ht => ⟨id, es, hes, ht⟩

theorem Built.exists_entry (hes : (id, es) ∈ all) {n : Name} (hn : n ∈ (r.lookup id).members) :
    ∃ t, (n, t) ∈ es ∧ all.toAssignment.get? n = some t := by
  obtain ⟨e, he, rfl⟩ := List.mem_map.mp ((hbuilt.names_perm hr hids hes).mem_iff.mpr hn)
  exact ⟨e.2, he, (hbuilt.get?_member hr hids hes hn e.2).mpr he⟩

/-- What members of a namespace have in the assignment, they have in its entries. -/
theorem Built.exists_get?_iff (hes : (id, es) ∈ all) (t : String) :
    (∃ m ∈ (r.lookup id).members, all.toAssignment.get? m = some t) ↔ t ∈ es.map (·.2) := by
  constructor
  · rintro ⟨m, hm, ht⟩
    exact List.mem_map_of_mem ((hbuilt.get?_member hr hids hes hm t).mp ht)
  · intro ht
    obtain ⟨e, he, rfl⟩ := List.mem_map.mp ht
    have hm := (hbuilt.names_perm hr hids hes).mem_iff.mp (List.mem_map_of_mem he)
    exact ⟨e.1, hm, (hbuilt.get?_member hr hids hes hm e.2).mpr he⟩

/-- What was assigned fits the registry. -/
theorem Built.fits {order : List NamespaceId} (horder : ∀ id, id ∈ order ↔ id ∈ all.map (·.1)) :
    all.toAssignment.Fits r order := by
  have hassigned {id : NamespaceId} (hid : id ∈ order) : ∃ es, (id, es) ∈ all := by
    obtain ⟨⟨_, es⟩, hes, rfl⟩ := List.mem_map.mp ((horder id).mp hid)
    exact ⟨es, hes⟩
  refine ⟨fun n => ⟨?_, ?_⟩, ?_, ?_, ?_, ?_⟩
  · rintro ⟨t, ht⟩
    obtain ⟨id, es, hes, ht⟩ := (hbuilt.get?_toAssignment hr hids n t).mp ht
    exact ⟨id, (horder id).mpr (List.mem_map_of_mem hes),
      (hbuilt.names_perm hr hids hes).mem_iff.mp (List.mem_map_of_mem ht)⟩
  · rintro ⟨id, hid, hn⟩
    obtain ⟨es, hes⟩ := hassigned hid
    obtain ⟨t, -, ht⟩ := hbuilt.exists_entry hr hids hes hn
    exact ⟨t, ht⟩
  · intro id hid n hn hfixed
    obtain ⟨es, hes⟩ := hassigned hid
    obtain ⟨_, hnamed, -, -⟩ := hbuilt.named hr hids hes
    obtain ⟨t, ht, hget⟩ := hbuilt.exists_entry hr hids hes hn
    have htext : t = n.proposed := hnamed.fixed _ ht hfixed
    rw [hget, htext]
  · intro id hid m hm n hn hne heq
    obtain ⟨es, hes⟩ := hassigned hid
    obtain ⟨_, hnamed, -, -⟩ := hbuilt.named hr hids hes
    obtain ⟨t, ht, hget⟩ := hbuilt.exists_entry hr hids hes hm
    rw [hget, eq_comm, hbuilt.get?_member hr hids hes hn] at heq
    have hsame : (m, t) = (n, t) := List.inj_on_of_nodup_map hnamed.texts ht heq rfl
    exact hne (congrArg Prod.fst hsame)
  · intro id hid other hother n hn m hm heq
    obtain ⟨es, hes⟩ := hassigned hid
    obtain ⟨taken, hnamed, hforbidden, htaken⟩ := hbuilt.named hr hids hes
    obtain ⟨fs, hfs⟩ := hforbidden other hother
    obtain ⟨t, ht, hget⟩ := hbuilt.exists_entry hr hids hes hn
    rw [hget, eq_comm, hbuilt.get?_member hr hids hfs hm] at heq
    exact hnamed.apart _ ht ((htaken t).mpr ⟨other, hother, fs, hfs, List.mem_map_of_mem heq⟩)
  · intro id hid before n after hsplit hfree
    obtain ⟨es, hes⟩ := hassigned hid
    obtain ⟨taken, hnamed, hforbidden, htaken⟩ := hbuilt.named hr hids hes
    have hbefore : ∀ m ∈ before, m ∈ (r.lookup id).members :=
      fun m hm => hsplit ▸ List.mem_append_left _ hm
    have hblocks (t : String) : (r.lookup id).Blocked taken es before t ↔
        all.toAssignment.Blocks r id before t := by
      refine or_congr ?_ (or_congr Iff.rfl ?_)
      · exact exists_congr fun m => and_congr_right fun hm => and_congr_right fun _ =>
          (hbuilt.get?_member hr hids hes (hbefore m hm) t).symm
      · rw [htaken]
        refine exists_congr fun other => and_congr_right fun hother => ?_
        obtain ⟨fs, hfs⟩ := hforbidden other hother
        rw [hbuilt.exists_get?_iff hr hids hfs]
        exact ⟨fun ⟨gs, hgs, ht⟩ => eq_of_mem hids hgs hfs ▸ ht, fun ht => ⟨fs, hfs, ht⟩⟩
    obtain ⟨k, hk, hkfree, hkblocked⟩ := hnamed.first before n after hsplit hfree
    refine ⟨k, (hbuilt.get?_member hr hids hes (by simp [hsplit]) _).mpr hk, ?_, ?_⟩
    · rwa [← hblocks]
    · exact fun j hj => (hblocks _).mp (hkblocked j hj)

end

end Assigned

/-- What a registry that can come about assigns fits it. -/
theorem Registry.assign_fits {r : Registry} (hr : r.Reachable) {order : List NamespaceId}
    {a : Assignment} (h : (r.assign order).2 = .ok a) : a.Fits r order := by
  obtain ⟨all, rfl, hbuilt, hids⟩ :=
    exists_of_assignFrom (r := r) (fun _ _ => rfl) (show Assigned.Built r [] from trivial) h
  rw [List.map_nil, List.append_nil] at hids
  have hnodup : (all.map (·.1)).Nodup := by
    rw [hids, List.nodup_reverse]
    exact nodup_eraseDups order
  refine hbuilt.fits hr.sound hnodup fun id => ?_
  rw [hids, List.mem_reverse, unique, List.mem_eraseDups]

/-- Numbered texts give way to texts of a forbidden namespace, to a fixed name that was added later,
and to a text that another name got before. -/
theorem Registry.assign_fits_points :
    let names : List (NamespaceId × Name) := [(0, ⟨0, "class", true⟩), (1, ⟨1, "Point", false⟩),
      (1, ⟨2, "Point", false⟩), (1, ⟨3, "Point2", false⟩), (1, ⟨4, "class", false⟩),
      (1, ⟨5, "Point3", true⟩), (1, ⟨6, "Point", false⟩)]
    ∃ r a, names.foldlM (fun r n => r.add n.1 n.2)
        ((empty.create "keywords" []).create "types" [0]) = .ok r ∧ r.Reachable ∧
      (r.assign [0, 1, 0]).2 = .ok a ∧
      names.map (fun n => a.get? n.2) = [some "class", some "Point", some "Point2",
        some "Point22", some "class2", some "Point3", some "Point4"] ∧
      a.Fits r [0, 1, 0] := by
  intro names
  let r : Registry := ⟨[{ label := "keywords", members := [⟨0, "class", true⟩] },
    { label := "types", forbidden := [0], members := [⟨1, "Point", false⟩, ⟨2, "Point", false⟩,
      ⟨3, "Point2", false⟩, ⟨4, "class", false⟩, ⟨5, "Point3", true⟩, ⟨6, "Point", false⟩] }]⟩
  let a : Assignment := ⟨[(⟨6, "Point", false⟩, "Point4"), (⟨4, "class", false⟩, "class2"),
    (⟨3, "Point2", false⟩, "Point22"), (⟨2, "Point", false⟩, "Point2"),
    (⟨1, "Point", false⟩, "Point"), (⟨5, "Point3", true⟩, "Point3"),
    (⟨0, "class", true⟩, "class")]⟩
  have hspaces : ((empty.create "keywords" []).create "types" [0]).Reachable :=
    (Reachable.empty.create _ _).create _ _
  have hnames : names.foldlM (fun r n => r.add n.1 n.2)
      ((empty.create "keywords" []).create "types" [0]) = .ok r := by cbv
  have hassign : (r.assign [0, 1, 0]).2 = .ok a := by cbv
  have hr : r.Reachable := hspaces.addAll hnames
  exact ⟨r, a, hnames, hr, hassign, by cbv, assign_fits hr hassign⟩

end SourceLayout
