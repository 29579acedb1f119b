import Mathlib.Data.List.Nodup
import SourceLayout.Naming.Assigning
import SourceLayout.Proofs.Naming.Candidates

/-! The texts of one namespace.  Its fixed names come first, wherever they were added, and each
other name takes the first of its candidates that neither a forbidden namespace, nor a fixed name,
nor an earlier name has. -/

namespace SourceLayout

namespace Namespace

/-! ### Fixed names -/

theorem fixedEntries_eq_ok {label : String} {used : List String} {ns : List Name}
    {es : List (Name × String)} (h : fixedEntries label used ns = .ok es) :
    es = ns.map (fun n => (n, n.proposed)) ∧ (ns.map Name.proposed).Nodup ∧
      ∀ n ∈ ns, n.proposed ∉ used := by
  induction ns generalizing used es with
  | nil =>
    cases h
    exact ⟨rfl, List.nodup_nil, fun _ h => nomatch h⟩
  | cons n ns ih =>
    rw [fixedEntries] at h
    split at h
    · cases h
    next hfree =>
      obtain ⟨rest, hrest, h⟩ := bind_eq_ok.mp h
      cases h
      obtain ⟨rfl, hnodup, hused⟩ := ih hrest
      refine ⟨rfl, ?_, ?_⟩
      · rw [List.map_cons, List.nodup_cons]
        refine ⟨fun hn => ?_, hnodup⟩
        obtain ⟨m, hm, heq⟩ := List.mem_map.mp hn
        exact hused m hm (heq ▸ List.mem_cons_self)
      · rw [List.forall_mem_cons]
        exact ⟨hfree, fun m hm h => hused m hm (List.mem_cons_of_mem _ h)⟩

/-- Fixed names that propose different texts, none of which is used, get their entries. -/
theorem exists_fixedEntries (label : String) {used : List String} {ns : List Name}
    (hnodup : (ns.map Name.proposed).Nodup) (hused : ∀ n ∈ ns, n.proposed ∉ used) :
    ∃ es, fixedEntries label used ns = .ok es := by
  induction ns generalizing used with
  | nil => exact ⟨[], rfl⟩
  | cons n ns ih =>
    rw [List.map_cons, List.nodup_cons] at hnodup
    rw [List.forall_mem_cons] at hused
    have hrest : ∀ m ∈ ns, m.proposed ∉ n.proposed :: used := by
      intro m hm
      rw [List.mem_cons, not_or]
      exact ⟨fun heq => hnodup.1 (heq ▸ List.mem_map_of_mem hm), hused.2 m hm⟩
    obtain ⟨rest, hentries⟩ := ih hnodup.2 hrest
    rw [fixedEntries, if_neg hused.1]
    exact ⟨_, bind_eq_ok.mpr ⟨rest, hentries, rfl⟩⟩

/-- Fixed names are refused for a text that may not be used again. -/
theorem exists_of_fixedEntries_eq_error {label : String} {used : List String} {ns : List Name}
    {fault : Fault} (h : fixedEntries label used ns = .error fault) :
    ∃ t, fault = .fixedClash t label := by
  induction ns generalizing used with
  | nil => cases h
  | cons n ns ih =>
    rw [fixedEntries] at h
    split at h
    · cases h
      exact ⟨n.proposed, rfl⟩
    · rcases bind_eq_error.mp h with h | ⟨rest, -, h⟩
      · exact ih h
      · cases h

/-! ### Other names -/

/-- Where no name has two entries, the texts of some of the entries are the texts of their names. -/
theorem mem_texts_iff {es some : List (Name × String)} (hsome : some ⊆ es)
    (hnames : (es.map (·.1)).Nodup) (t : String) :
    t ∈ some.map (·.2) ↔ ∃ m ∈ some.map (·.1), (m, t) ∈ es := by
  constructor
  · intro h
    obtain ⟨e, he, rfl⟩ := List.mem_map.mp h
    exact ⟨e.1, List.mem_map_of_mem he, hsome he⟩
  · rintro ⟨m, hm, hmt⟩
    obtain ⟨e, he, rfl⟩ := List.mem_map.mp hm
    have heq : e = (e.1, t) := List.inj_on_of_nodup_map hnames (hsome he) hmt rfl
    rw [heq] at he
    exact List.mem_map_of_mem he

theorem names_freeEntries (used : List String) (ns : List Name) :
    (freeEntries used ns).map (·.1) = ns := by
  induction ns generalizing used with
  | nil => rfl
  | cons n ns ih => rw [freeEntries, List.map_cons, ih]

theorem freeEntries_append (used : List String) (ns ms : List Name) :
    freeEntries used (ns ++ ms) = freeEntries used ns ++
      freeEntries (((freeEntries used ns).map (·.2)).reverse ++ used) ms := by
  induction ns generalizing used with
  | nil => rfl
  | cons n ns ih =>
    rw [List.cons_append, freeEntries, freeEntries, ih]
    simp

theorem name_mem_of_mem_freeEntries {used : List String} {ns : List Name} {e : Name × String}
    (h : e ∈ freeEntries used ns) : e.1 ∈ ns := by
  rw [← names_freeEntries used ns]
  exact List.mem_map_of_mem h

theorem texts_freeEntries (used : List String) (ns : List Name) :
    ((freeEntries used ns).map (·.2)).Nodup ∧
      ∀ t ∈ (freeEntries used ns).map (·.2), t ∉ used := by
  induction ns generalizing used with
  | nil => exact ⟨List.nodup_nil, fun _ h => nomatch h⟩
  | cons n ns ih =>
    obtain ⟨hnodup, hused⟩ := ih (uniqueText n.proposed used :: used)
    rw [freeEntries, List.map_cons, List.nodup_cons, List.forall_mem_cons]
    exact ⟨⟨fun h => hused _ h List.mem_cons_self, hnodup⟩, uniqueText_notMem n.proposed used,
      fun t ht h => hused t ht (List.mem_cons_of_mem _ h)⟩

/-- A name gets its first candidate that is neither in use nor the text of a name before it. -/
theorem exists_freeEntries_append (used : List String) (ns : List Name) (n : Name)
    (ms : List Name) :
    ∃ k rest, freeEntries used (ns ++ n :: ms) =
        freeEntries used ns ++ (n, candidate n.proposed k) :: rest ∧
      ¬(candidate n.proposed k ∈ (freeEntries used ns).map (·.2) ∨
        candidate n.proposed k ∈ used) ∧
      ∀ j < k, candidate n.proposed j ∈ (freeEntries used ns).map (·.2) ∨
        candidate n.proposed j ∈ used := by
  obtain ⟨k, hk, hfree, htaken⟩ :=
    uniqueText_first n.proposed (((freeEntries used ns).map (·.2)).reverse ++ used)
  simp only [List.mem_append, List.mem_reverse] at hfree htaken
  have hsplit := freeEntries_append used ns (n :: ms)
  rw [freeEntries, hk] at hsplit
  exact ⟨k, _, hsplit, hfree, htaken⟩

/-! ### All names of a namespace -/

/-- A text that is not free for a name of the namespace, where `before` are the members before the
name: one of these has it that is not fixed, or a fixed member has it, or it is taken elsewhere. -/
def Blocked (s : Namespace) (taken : List String) (es : List (Name × String)) (before : List Name)
    (t : String) : Prop :=
  (∃ m ∈ before, m.fixed = false ∧ (m, t) ∈ es) ∨
    (∃ m ∈ s.members, m.fixed = true ∧ m.proposed = t) ∨ t ∈ taken

/-- The entries give the members of a namespace their texts, where `taken` is taken elsewhere. -/
structure Named (s : Namespace) (taken : List String) (es : List (Name × String)) : Prop where
  names : (es.map (·.1)).Perm s.members
  texts : (es.map (·.2)).Nodup
  apart : ∀ e ∈ es, e.2 ∉ taken
  fixed : ∀ e ∈ es, e.1.fixed = true → e.2 = e.1.proposed
  first : ∀ before n after, s.members = before ++ n :: after → n.fixed = false →
    ∃ k, (n, candidate n.proposed k) ∈ es ∧ ¬s.Blocked taken es before (candidate n.proposed k) ∧
      ∀ j < k, s.Blocked taken es before (candidate n.proposed j)

/-- The proposals of the fixed members. -/
def fixedTexts (s : Namespace) : List String := (s.members.filter (·.fixed)).map Name.proposed

theorem mem_fixedTexts_iff {s : Namespace} {t : String} :
    t ∈ s.fixedTexts ↔ ∃ m ∈ s.members, m.fixed = true ∧ m.proposed = t := by
  simp [fixedTexts, and_assoc]

section

variable {s : Namespace} {taken : List String} {es : List (Name × String)}
  (h : s.entries taken = .ok es)

include h

theorem entries_eq_ok :
    es = (s.members.filter (·.fixed)).map (fun n => (n, n.proposed)) ++
        freeEntries (s.fixedTexts ++ taken) (s.members.filter (!·.fixed)) ∧
      s.fixedTexts.Nodup ∧ ∀ n ∈ s.members.filter (·.fixed), n.proposed ∉ taken := by
  obtain ⟨fixed, hfixed, h⟩ := bind_eq_ok.mp h
  obtain ⟨rfl, hnodup, hapart⟩ := fixedEntries_eq_ok hfixed
  cases h
  refine ⟨?_, hnodup, hapart⟩
  rw [List.map_map]
  rfl

theorem names_of_entries : (es.map (·.1)).Perm s.members := by
  obtain ⟨hes, -, -⟩ := entries_eq_ok h
  rw [hes, List.map_append, names_freeEntries, List.map_map]
  show ((s.members.filter (·.fixed)).map id ++ s.members.filter (!·.fixed)).Perm s.members
  rw [List.map_id]
  exact List.filter_append_perm _ _

theorem texts_of_entries : (es.map (·.2)).Nodup := by
  obtain ⟨hes, hnodup, -⟩ := entries_eq_ok h
  obtain ⟨hfree, hused⟩ := texts_freeEntries (s.fixedTexts ++ taken) (s.members.filter (!·.fixed))
  rw [hes, List.map_append, List.map_map, List.nodup_append]
  refine ⟨hnodup, hfree, fun t ht u hu => ?_⟩
  rintro rfl
  exact hused t hu (List.mem_append_left _ ht)

theorem apart_of_entries : ∀ e ∈ es, e.2 ∉ taken := by
  obtain ⟨hes, -, hapart⟩ := entries_eq_ok h
  obtain ⟨-, hused⟩ := texts_freeEntries (s.fixedTexts ++ taken) (s.members.filter (!·.fixed))
  intro e he ht
  rw [hes, List.mem_append] at he
  rcases he with he | he
  · obtain ⟨n, hn, rfl⟩ := List.mem_map.mp he
    exact hapart n hn ht
  · exact hused e.2 (List.mem_map_of_mem he) (List.mem_append_right _ ht)

theorem fixed_of_entries : ∀ e ∈ es, e.1.fixed = true → e.2 = e.1.proposed := by
  obtain ⟨hes, -, -⟩ := entries_eq_ok h
  intro e he hfixed
  rw [hes, List.mem_append] at he
  rcases he with he | he
  · obtain ⟨n, -, rfl⟩ := List.mem_map.mp he
    rfl
  · have hmem := name_mem_of_mem_freeEntries he
    simp [hfixed] at hmem

theorem first_of_entries (hmembers : s.members.Nodup) {before after : List Name} {n : Name}
    (hsplit : s.members = before ++ n :: after) (hn : n.fixed = false) :
    ∃ k, (n, candidate n.proposed k) ∈ es ∧ ¬s.Blocked taken es before (candidate n.proposed k) ∧
      ∀ j < k, s.Blocked taken es before (candidate n.proposed j) := by
  obtain ⟨hes, -, -⟩ := entries_eq_ok h
  have hnames : (es.map (·.1)).Nodup := (names_of_entries h).nodup_iff.mpr hmembers
  have hns : s.members.filter (!·.fixed) =
      before.filter (!·.fixed) ++ n :: after.filter (!·.fixed) := by
    rw [hsplit, List.filter_append, List.filter_cons_of_pos (by simp [hn])]
  obtain ⟨k, rest, hfree, hkfree, hktaken⟩ := exists_freeEntries_append (s.fixedTexts ++ taken)
    (before.filter (!·.fixed)) n (after.filter (!·.fixed))
  rw [hns, hfree] at hes
  -- The texts in use where the name is reached are those that block it.
  have hblocked (t : String) :
      (t ∈ (freeEntries (s.fixedTexts ++ taken) (before.filter (!·.fixed))).map (·.2) ∨
        t ∈ s.fixedTexts ++ taken) ↔ s.Blocked taken es before t := by
    have hsub : freeEntries (s.fixedTexts ++ taken) (before.filter (!·.fixed)) ⊆ es := by
      rw [hes]
      exact fun e he => List.mem_append_right _ (List.mem_append_left _ he)
    rw [mem_texts_iff hsub hnames, names_freeEntries, List.mem_append, mem_fixedTexts_iff, Blocked]
    simp [and_assoc]
  refine ⟨k, ?_, fun hk => hkfree ((hblocked _).mpr hk), fun j hj => (hblocked _).mp (hktaken j hj)⟩
  rw [hes]
  simp

/-- The entries that the fixed and the other names get are as they should be. -/
theorem named_of_entries (hmembers : s.members.Nodup) : s.Named taken es where
  names := names_of_entries h
  texts := texts_of_entries h
  apart := apart_of_entries h
  fixed := fixed_of_entries h
  first _ _ _ hsplit hn := first_of_entries h hmembers hsplit hn

end

/-- A namespace has entries when its fixed names propose different texts, none of which is taken. -/
theorem exists_entries_iff (s : Namespace) (taken : List String) :
    (∃ es, s.entries taken = .ok es) ↔
      s.fixedTexts.Nodup ∧ ∀ n ∈ s.members.filter (·.fixed), n.proposed ∉ taken := by
  constructor
  · rintro ⟨es, hes⟩
    exact (entries_eq_ok hes).2
  · rintro ⟨hnodup, hapart⟩
    obtain ⟨fixed, hfixed⟩ := exists_fixedEntries s.label hnodup hapart
    exact ⟨_, bind_eq_ok.mpr ⟨fixed, hfixed, rfl⟩⟩

theorem isBreach_of_entries {s : Namespace} {taken : List String} {fault : Fault}
    (h : s.entries taken = .error fault) : fault.isBreach = true := by
  rcases bind_eq_error.mp h with h | ⟨fixed, -, h⟩
  · obtain ⟨t, rfl⟩ := exists_of_fixedEntries_eq_error h
    rfl
  · cases h

end Namespace

end SourceLayout
