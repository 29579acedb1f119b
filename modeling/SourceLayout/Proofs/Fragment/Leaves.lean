import SourceLayout.Fragment

/-! The leaves of a tree: its texts, names, line breaks and foreign children, from left to right.
What a tree holds anywhere is said of its leaves. -/

namespace SourceLayout

namespace Fragment

variable {α : Type}

/-- Induction over a tree, with a hypothesis for every child of a sequence and every cell of a
table. -/
@[elab_as_elim, induction_eliminator]
theorem induction {motive : Fragment α → Prop} (text : ∀ s, motive (.text s))
    (newline : ∀ change, motive (.newline change)) (pending : ∀ index, motive (.pending index))
    (name : ∀ n, motive (.name n)) (seq : ∀ fs, (∀ f ∈ fs, motive f) → motive (.seq fs))
    (table : ∀ rows, (∀ row ∈ rows, ∀ f ∈ row, motive f) → motive (.table rows))
    (marked : ∀ mark f, motive f → motive (.marked mark f))
    (foreign : ∀ v, motive (.foreign v)) (f : Fragment α) : motive f :=
  Fragment.rec (motive_2 := fun fs => ∀ f ∈ fs, motive f)
    (motive_3 := fun rows => ∀ row ∈ rows, ∀ f ∈ row, motive f)
    text newline pending name seq table marked foreign
    (fun _ h => nomatch h)
    (fun _ _ hf hfs _ h => (List.mem_cons.mp h).elim (· ▸ hf) (hfs _))
    (fun _ h => nomatch h)
    (fun _ _ hr hrs _ h => (List.mem_cons.mp h).elim (· ▸ hr) (hrs _)) f

mutual

/-- The leaves of a tree, from left to right. -/
def leaves : Fragment α → List (Fragment α)
  | .seq fs => leavesOf fs
  | .table rows => leavesOfRows rows
  | .marked _ f => leaves f
  | .text s => [.text s]
  | .newline change => [.newline change]
  | .pending index => [.pending index]
  | .name n => [.name n]
  | .foreign v => [.foreign v]

/-- The leaves of trees, in order. -/
def leavesOf : List (Fragment α) → List (Fragment α)
  | [] => []
  | f :: fs => leaves f ++ leavesOf fs

/-- The leaves of rows of trees, in order. -/
def leavesOfRows : List (List (Fragment α)) → List (Fragment α)
  | [] => []
  | row :: rows => leavesOf row ++ leavesOfRows rows

end

theorem leavesOf_eq_flatMap (fs : List (Fragment α)) : leavesOf fs = fs.flatMap leaves := by
  induction fs with
  | nil => rfl
  | cons f fs ih => rw [leavesOf, ih, List.flatMap_cons]

theorem leavesOfRows_eq_flatMap (rows : List (List (Fragment α))) :
    leavesOfRows rows = rows.flatMap fun row => row.flatMap leaves := by
  induction rows with
  | nil => rfl
  | cons row rows ih => rw [leavesOfRows, ih, leavesOf_eq_flatMap, List.flatMap_cons]

@[simp] theorem leaves_seq (fs : List (Fragment α)) : (seq fs).leaves = fs.flatMap leaves := by
  rw [leaves, leavesOf_eq_flatMap]

@[simp] theorem leaves_table (rows : List (List (Fragment α))) :
    (table rows).leaves = rows.flatMap fun row => row.flatMap leaves := by
  rw [leaves, leavesOfRows_eq_flatMap]

@[simp] theorem leaves_marked (mark : Mark) (f : Fragment α) :
    (marked mark f).leaves = f.leaves := rfl

/-- One fragment and the sequence of it have the same leaves. -/
@[simp] theorem leaves_ofList (fs : List (Fragment α)) :
    (ofList fs).leaves = fs.flatMap leaves := by
  match fs with
  | [] => rfl
  | [f] => simp
  | f :: g :: fs => exact leaves_seq (f :: g :: fs)

/-- The fragment has no fragments inside. -/
def isLeaf : Fragment α → Bool
  | .seq _ | .table _ | .marked _ _ => false
  | .text _ | .newline _ | .pending _ | .name _ | .foreign _ => true

theorem isLeaf_of_mem_leaves {f leaf : Fragment α} (h : leaf ∈ f.leaves) : leaf.isLeaf = true := by
  induction f with
  | text _ | newline _ | pending _ | name _ | foreign _ =>
    rw [List.mem_singleton.mp h]
    rfl
  | seq fs ih =>
    rw [leaves_seq, List.mem_flatMap] at h
    obtain ⟨f, hf, h⟩ := h
    exact ih f hf h
  | table rows ih =>
    rw [leaves_table, List.mem_flatMap] at h
    obtain ⟨row, hrow, h⟩ := h
    obtain ⟨f, hf, h⟩ := List.mem_flatMap.mp h
    exact ih row hrow f hf h
  | marked mark f ih => exact ih h

/-- The change that a line break carries. -/
def change? : Fragment α → Option Int
  | .newline change => some change
  | _ => none

/-- The index of a break that an arena still holds. -/
def index? : Fragment α → Option Int
  | .pending index => some index
  | _ => none

/-- The changes of the line breaks of a tree, in order. -/
def newlines (f : Fragment α) : List Int := f.leaves.filterMap change?

/-- The indices of the pending breaks of a tree, in order. -/
def pendings (f : Fragment α) : List Int := f.leaves.filterMap index?

@[simp] theorem newlines_text (s : String) : (text s : Fragment α).newlines = [] := by
  simp [newlines, leaves, change?]

@[simp] theorem pendings_text (s : String) : (text s : Fragment α).pendings = [] := by
  simp [pendings, leaves, index?]

@[simp] theorem pendings_name (n : Name) : (name n : Fragment α).pendings = [] := by
  simp [pendings, leaves, index?]

theorem newlines_seq (fs : List (Fragment α)) : (seq fs).newlines = fs.flatMap newlines := by
  rw [newlines, leaves_seq, List.filterMap_flatMap]
  rfl

theorem pendings_table (rows : List (List (Fragment α))) :
    (table rows).pendings = rows.flatMap (·.flatMap pendings) := by
  simp only [pendings, leaves_table, List.filterMap_flatMap]
  rfl

theorem newlines_marked_ofList (mark : Mark) (fs : List (Fragment α)) :
    (marked mark (ofList fs)).newlines = fs.flatMap newlines := by
  rw [newlines, leaves_marked, leaves_ofList, List.filterMap_flatMap]
  rfl

theorem pendings_seq (fs : List (Fragment α)) : (seq fs).pendings = fs.flatMap pendings := by
  rw [pendings, leaves_seq, List.filterMap_flatMap]
  rfl

theorem pendings_marked_ofList (mark : Mark) (fs : List (Fragment α)) :
    (marked mark (ofList fs)).pendings = fs.flatMap pendings := by
  rw [pendings, leaves_marked, leaves_ofList, List.filterMap_flatMap]
  rfl

end Fragment

end SourceLayout
