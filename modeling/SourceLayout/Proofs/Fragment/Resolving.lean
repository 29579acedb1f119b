import SourceLayout.LineArena
import SourceLayout.Proofs.Fragment.Leaves

/-! Resolving replaces the pending breaks of a tree.  A tree without pending breaks stays as it is,
and a break with an index in the arena becomes a line break with its change.  A tree can be resolved
if all its breaks have one. -/

namespace SourceLayout

namespace LineArena

variable {α : Type}

/-- A list of trees resolves when its head and its tail do. -/
theorem resolveAll_cons_eq_ok {a : LineArena} {f : Fragment α} {fs gs : List (Fragment α)} :
    a.resolveAll (f :: fs) = .ok gs ↔
      ∃ g others, a.resolve f = .ok g ∧ a.resolveAll fs = .ok others ∧ g :: others = gs := by
  rw [resolveAll, bind_eq_ok]
  refine exists_congr fun g => ?_
  rw [bind_eq_ok, ← exists_and_left]
  simp [pure, Except.pure]

/-- Lists of trees that resolve resolve together. -/
theorem resolveAll_append {a : LineArena} {fs gs hs ks : List (Fragment α)}
    (h1 : a.resolveAll fs = .ok hs) (h2 : a.resolveAll gs = .ok ks) :
    a.resolveAll (fs ++ gs) = .ok (hs ++ ks) := by
  induction fs generalizing hs with
  | nil =>
    cases h1
    exact h2
  | cons f fs ih =>
    obtain ⟨g, others, hf, hfs, rfl⟩ := resolveAll_cons_eq_ok.mp h1
    exact resolveAll_cons_eq_ok.mpr ⟨g, others ++ ks, hf, ih hfs, rfl⟩

/-- Trees that resolve together resolve in two parts. -/
theorem resolveAll_append_eq_ok {a : LineArena} {fs gs all : List (Fragment α)} :
    a.resolveAll (fs ++ gs) = .ok all ↔
      ∃ hs ks, a.resolveAll fs = .ok hs ∧ a.resolveAll gs = .ok ks ∧ hs ++ ks = all := by
  constructor
  · intro h
    induction fs generalizing all with
    | nil => exact ⟨[], all, rfl, h, rfl⟩
    | cons f fs ih =>
      obtain ⟨g, others, hf, hothers, rfl⟩ := resolveAll_cons_eq_ok.mp h
      obtain ⟨hs, ks, hfs, hgs, rfl⟩ := ih hothers
      exact ⟨g :: hs, ks, resolveAll_cons_eq_ok.mpr ⟨g, hs, hf, hfs, rfl⟩, hgs, rfl⟩
  · rintro ⟨hs, ks, hfs, hgs, rfl⟩
    exact resolveAll_append hfs hgs

theorem resolveAll_singleton {a : LineArena} {f g : Fragment α} (h : a.resolve f = .ok g) :
    a.resolveAll [f] = .ok [g] :=
  resolveAll_cons_eq_ok.mpr ⟨g, [], h, rfl, rfl⟩

theorem length_of_resolveAll {a : LineArena} {fs gs : List (Fragment α)}
    (h : a.resolveAll fs = .ok gs) : fs.length = gs.length := by
  induction fs generalizing gs with
  | nil =>
    cases h
    rfl
  | cons f fs ih =>
    obtain ⟨g, others, -, hfs, rfl⟩ := resolveAll_cons_eq_ok.mp h
    rw [List.length_cons, List.length_cons, ih hfs]

/-- Trees that each resolve to what a function gives for them resolve to its list. -/
theorem resolveAll_eq_map {a : LineArena} {g : Fragment α → Fragment α} {fs : List (Fragment α)}
    (h : ∀ f ∈ fs, a.resolve f = .ok (g f)) : a.resolveAll fs = .ok (fs.map g) := by
  induction fs with
  | nil => rfl
  | cons f fs ih =>
    rw [List.forall_mem_cons] at h
    exact resolveAll_cons_eq_ok.mpr ⟨g f, fs.map g, h.1, ih h.2, rfl⟩

theorem resolveRows_eq_map {a : LineArena} {g : Fragment α → Fragment α}
    {rows : List (List (Fragment α))} (h : ∀ row ∈ rows, ∀ f ∈ row, a.resolve f = .ok (g f)) :
    a.resolveRows rows = .ok (rows.map (List.map g)) := by
  induction rows with
  | nil => rfl
  | cons row rows ih =>
    rw [List.forall_mem_cons] at h
    simp [resolveRows, bind, Except.bind, pure, Except.pure, resolveAll_eq_map h.1, ih h.2]

/-- A tree without pending breaks stays as it is. -/
theorem resolve_of_pendings_eq_nil {a : LineArena} {f : Fragment α} (h : f.pendings = []) :
    a.resolve f = .ok f := by
  induction f with
  | text _ | newline _ | name _ | foreign _ => rfl
  | pending index => cases h
  | seq fs ih =>
    rw [Fragment.pendings, Fragment.leaves_seq, List.filterMap_flatMap,
      List.flatMap_eq_nil_iff] at h
    rw [resolve, resolveAll_eq_map (g := id) fun f hf => ih f hf (h f hf), List.map_id]
    rfl
  | table rows ih =>
    rw [Fragment.pendings, Fragment.leaves_table, List.filterMap_flatMap,
      List.flatMap_eq_nil_iff] at h
    have hcell : ∀ row ∈ rows, ∀ f ∈ row, a.resolve f = .ok f := by
      intro row hrow f hf
      have hrow' := h row hrow
      rw [List.filterMap_flatMap, List.flatMap_eq_nil_iff] at hrow'
      exact ih row hrow f hf (hrow' f hf)
    rw [resolve, resolveRows_eq_map (g := id) hcell, List.map_id_fun, List.map_id]
    rfl
  | marked mark f ih =>
    rw [resolve, ih h]
    rfl

/-- The fragment of trees that resolve resolves to the fragment of what they resolve to. -/
theorem resolve_ofList {a : LineArena} {fs gs : List (Fragment α)}
    (h : a.resolveAll fs = .ok gs) : a.resolve (.ofList fs) = .ok (.ofList gs) := by
  have hlength := length_of_resolveAll h
  match fs, gs, hlength with
  | [], [], _ => rfl
  | [f], [g], _ =>
    obtain ⟨other, others, hf, -, hg⟩ := resolveAll_cons_eq_ok.mp h
    obtain ⟨rfl, -⟩ := List.cons.inj hg
    exact hf
  | f :: f' :: fs, g :: g' :: gs, _ =>
    show (a.resolveAll _).map _ = _
    rw [h]
    rfl

/-- A marked fragment of trees resolves to the fragment, marked alike, of what they resolve to. -/
theorem resolve_marked_ofList_eq_ok {a : LineArena} {mark : Mark} {fs : List (Fragment α)}
    {g : Fragment α} (h : a.resolve (.marked mark (.ofList fs)) = .ok g) :
    ∃ gs, a.resolveAll fs = .ok gs ∧ g = .marked mark (.ofList gs) := by
  rw [resolve] at h
  cases hfs : a.resolveAll fs with
  | ok gs =>
    rw [resolve_ofList hfs] at h
    cases h
    exact ⟨gs, rfl, rfl⟩
  | error fault =>
    exfalso
    match fs, hfs with
    | [], hfs => cases hfs
    | [f], hfs =>
      cases hf : a.resolve f with
      | ok g =>
        rw [resolveAll_singleton hf] at hfs
        cases hfs
      | error fault =>
        rw [Fragment.ofList_singleton, hf] at h
        cases h
    | f :: f' :: fs, hfs =>
      have hseq : a.resolve (.ofList (f :: f' :: fs)) = (a.resolveAll (f :: f' :: fs)).map .seq := rfl
      rw [hseq, hfs] at h
      cases h

/-- The change at an index from zero on is that of the break with this number. -/
theorem change_of_lt {a : LineArena} {n : Nat} (h : n < a.size) :
    a.change n = .ok (a.changes.reverse.getD n 0) := by
  have hlen : n < a.changes.reverse.length := by rwa [List.length_reverse]
  rw [change, placeOf?_of_lt h, Option.bind_some, List.getElem?_eq_getElem hlen,
    List.getD_eq_getElem?_getD, List.getElem?_eq_getElem hlen]
  rfl

/-! ### What can be resolved -/

section

variable {a b : LineArena}

/-- The arena has a break with this index. -/
def Has (a : LineArena) (index : Int) : Prop := -a.size ≤ index ∧ index < a.size

theorem Has.mono {index : Int} (h : a.Has index) (hsize : a.size ≤ b.size) : b.Has index := by
  unfold Has at h ⊢
  omega

theorem has_of_lt {n : Nat} (h : n < a.size) : a.Has n := by
  unfold Has
  omega

theorem exists_change {index : Int} : (∃ change, a.change index = .ok change) ↔ a.Has index := by
  rw [Has, ← placeOf?_isSome, change]
  cases hplace : placeOf? a.size index with
  | none => simp
  | some place =>
    have hlt : place < a.changes.reverse.length := by
      rw [List.length_reverse]
      exact lt_of_placeOf? hplace
    simp [List.getElem?_eq_getElem hlt]

theorem exists_resolveAll {fs : List (Fragment α)} :
    (∃ gs, a.resolveAll fs = .ok gs) ↔ ∀ f ∈ fs, ∃ g, a.resolve f = .ok g := by
  induction fs with
  | nil => simp [resolveAll]
  | cons f fs ih =>
    rw [List.forall_mem_cons, ← ih]
    simp only [resolveAll_cons_eq_ok]
    constructor
    · rintro ⟨-, g, others, hf, hfs, -⟩
      exact ⟨⟨g, hf⟩, others, hfs⟩
    · rintro ⟨⟨g, hf⟩, others, hfs⟩
      exact ⟨g :: others, g, others, hf, hfs, rfl⟩

theorem exists_resolveRows {rows : List (List (Fragment α))} :
    (∃ gs, a.resolveRows rows = .ok gs) ↔ ∀ row ∈ rows, ∀ f ∈ row, ∃ g, a.resolve f = .ok g := by
  induction rows with
  | nil => simp [resolveRows]
  | cons row rows ih =>
    rw [List.forall_mem_cons, ← ih, ← exists_resolveAll, resolveRows]
    cases a.resolveAll row <;> cases a.resolveRows rows <;>
      simp [bind, Except.bind, pure, Except.pure]

/-- A tree can be resolved if the arena has its pending breaks, and not otherwise. -/
theorem exists_resolve {f : Fragment α} :
    (∃ g, a.resolve f = .ok g) ↔ ∀ index ∈ f.pendings, a.Has index := by
  induction f with
  | text _ | newline _ | name _ | foreign _ =>
    simp [resolve, Fragment.pendings, Fragment.leaves, Fragment.index?]
  | pending index =>
    rw [resolve, exists_map_eq_ok, exists_change]
    simp [Fragment.pendings, Fragment.leaves, Fragment.index?]
  | seq fs ih =>
    rw [resolve, exists_map_eq_ok, exists_resolveAll, Fragment.pendings_seq, List.forall_mem_flatMap]
    exact forall₂_congr ih
  | table rows ih =>
    rw [resolve, exists_map_eq_ok, exists_resolveRows, Fragment.pendings_table]
    simp only [List.forall_mem_flatMap]
    exact forall₄_congr ih
  | marked mark f ih => exact exists_map_eq_ok.trans ih

theorem resolveAll_congr {fs : List (Fragment α)} (h : ∀ f ∈ fs, b.resolve f = a.resolve f) :
    b.resolveAll fs = a.resolveAll fs := by
  induction fs with
  | nil => rfl
  | cons f fs ih =>
    rw [List.forall_mem_cons] at h
    rw [resolveAll, resolveAll, h.1, ih h.2]

theorem resolveRows_congr {rows : List (List (Fragment α))}
    (h : ∀ row ∈ rows, ∀ f ∈ row, b.resolve f = a.resolve f) :
    b.resolveRows rows = a.resolveRows rows := by
  induction rows with
  | nil => rfl
  | cons row rows ih =>
    rw [List.forall_mem_cons] at h
    rw [resolveRows, resolveRows, resolveAll_congr h.1, ih h.2]

/-- Arenas that hold the same changes for the pending breaks of a tree resolve it to the same. -/
theorem resolve_congr {f : Fragment α} (h : ∀ index ∈ f.pendings, b.change index = a.change index) :
    b.resolve f = a.resolve f := by
  induction f with
  | text _ | newline _ | name _ | foreign _ => rfl
  | pending index => rw [resolve, resolve, h index (List.mem_singleton_self index)]
  | seq fs ih =>
    rw [Fragment.pendings_seq, List.forall_mem_flatMap] at h
    rw [resolve, resolve, resolveAll_congr fun f hf => ih f hf (h f hf)]
  | table rows ih =>
    rw [Fragment.pendings_table, List.forall_mem_flatMap] at h
    rw [resolve, resolve, resolveRows_congr fun row hrow f hf =>
      ih row hrow f hf (List.forall_mem_flatMap.mp (h row hrow) f hf)]
  | marked mark f ih => rw [resolve, resolve, ih h]

end

end LineArena

end SourceLayout
