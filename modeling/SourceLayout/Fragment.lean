import SourceLayout.Naming.Name

/-! The tree of output.  A fragment says what is written, in which order, with which names and line
breaks, and which parts are marked; how the lines are indented follows from its breaks when
it is written out. -/

namespace SourceLayout

/-- What a part of the output is marked with: nothing more, or the message of an issue. -/
inductive Mark where
  | plain
  | issue (message : String)
deriving DecidableEq, Repr, Inhabited

/-- The mark reports an issue. -/
def Mark.isIssue : Mark → Bool
  | .plain => false
  | .issue _ => true

/-- A piece of output.  A `newline` carries the change of indentation from the next line on, and a
`pending` break is one whose change a line arena still holds, by its index there.  A `foreign` child
is no piece of output, and is kept until it is written. -/
inductive Fragment (α : Type) where
  | text (content : String)
  | newline (change : Int)
  | pending (index : Int)
  | name (name : Name)
  | seq (children : List (Fragment α))
  | table (rows : List (List (Fragment α)))
  | marked (mark : Mark) (body : Fragment α)
  | foreign (value : α)
deriving Inhabited

namespace Fragment

/-- One fragment stands for itself, any other number of them for their sequence. -/
def ofList {α : Type} : List (Fragment α) → Fragment α
  | [f] => f
  | fs => .seq fs

@[simp] theorem ofList_singleton {α : Type} (f : Fragment α) : ofList [f] = f := rfl

@[simp] theorem ofList_nil {α : Type} : ofList ([] : List (Fragment α)) = .seq [] := rfl

end Fragment

end SourceLayout
