import SourceLayout.Fault

/-! Loose values become fragments. A text becomes an atom, a name a placeholder, an ordered
collection the sequence of its converted items, and a fragment stays as it is; the first other value
from the left is refused. -/

namespace SourceLayout.Value

mutual

/-- The fragment that a value stands for. -/
def toFragment : Value → Except Fault Tree
  | .str s => .ok (.text s)
  | .name n => .ok (.name n)
  | .fragment f => .ok f
  | .list vs | .tuple vs | .vector vs => (toFragments vs).map Fragment.ofList
  | v => .error (.notConvertible v)

/-- The fragments that values stand for, in order. -/
def toFragments : List Value → Except Fault (List Tree)
  | [] => .ok []
  | v :: vs => do
    let f ← toFragment v
    let fs ← toFragments vs
    return f :: fs

end

/-- The elements of a value, for a use that needs some. -/
def elements (v : Value) : Except Fault (List Value) :=
  match v.elements? with
  | some vs => .ok vs
  | Option.none => .error (.notIterable v.kind)

/-- The cells of a row. -/
def toCells (row : Value) : Except Fault (List Tree) := do
  toFragments (← row.elements)

/-- The table whose rows are the elements of a value, and whose cells are the elements of the
rows. -/
def toTable (rows : Value) : Except Fault Tree := do
  let cells ← (← rows.elements).mapM toCells
  return .table cells

/-- The value inside a marked region. -/
def toMarked (mark : Mark) (v : Value) : Except Fault Tree :=
  v.toFragment.map (.marked mark)

@[simp] theorem toFragment_fragment (f : Tree) : (Value.fragment f).toFragment = .ok f := by
  simp [toFragment]

@[simp] theorem toFragment_str (s : String) : (Value.str s).toFragment = .ok (.text s) := by
  simp [toFragment]

@[simp] theorem toFragment_name (n : Name) : (Value.name n).toFragment = .ok (.name n) := by
  simp [toFragment]

/-- A list of one value stands for what the value stands for. -/
theorem toFragment_singleton (v : Value) : (Value.list [v]).toFragment = v.toFragment := by
  cases h : v.toFragment <;> simp [toFragment, toFragments, h, Except.map, bind, Except.bind, pure,
    Except.pure]

end SourceLayout.Value
