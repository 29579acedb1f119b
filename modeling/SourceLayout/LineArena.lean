import SourceLayout.Fault
import SourceLayout.Index

/-! The line breaks of a tree under construction. Only the latest break changes, by what is added to
the indentation of the line that follows it; a tree refers to its breaks by index until they are
resolved. -/

namespace SourceLayout

/-- The changes of indentation of the line breaks so far, latest first. -/
structure LineArena where
  changes : List Int := []
deriving DecidableEq, Repr, Inhabited

namespace LineArena

/-- How many line breaks there are. -/
def size (a : LineArena) : Nat := a.changes.length

/-- The arena after one more line break, which changes no indentation yet. -/
def addBreak (a : LineArena) : LineArena := ⟨0 :: a.changes⟩

/-- The arena after the indentation of the current line has changed by `offset`. -/
def shift (offset : Int) (a : LineArena) : Except Fault LineArena :=
  match a.changes with
  | [] => .error .firstLineIndent
  | change :: earlier => .ok ⟨(change + offset) :: earlier⟩

/-- The indentation level of the current line. -/
def level (a : LineArena) : Int := a.changes.foldr (· + ·) 0

/-- The change of indentation at an index, where the first break has index zero. An index that has
no break is either out of range or too large to be an index at all. -/
def change (a : LineArena) (index : Int) : Except Fault Int :=
  match (placeOf? a.size index).bind fun place => a.changes.reverse[place]? with
  | some change => .ok change
  | none => .error (if isIndex index then .noSuchBreak else .indexTooLarge)

mutual

/-- The tree with every pending break as a line break that carries its change. -/
def resolve {α : Type} (a : LineArena) : Fragment α → Except Fault (Fragment α)
  | .pending index => (a.change index).map .newline
  | .seq fs => (a.resolveAll fs).map .seq
  | .table rows => (a.resolveRows rows).map .table
  | .marked mark f => (a.resolve f).map (.marked mark)
  | .text s => .ok (.text s)
  | .newline change => .ok (.newline change)
  | .name n => .ok (.name n)
  | .foreign v => .ok (.foreign v)

/-- The trees with every pending break resolved, in order. -/
def resolveAll {α : Type} (a : LineArena) : List (Fragment α) → Except Fault (List (Fragment α))
  | [] => .ok []
  | f :: fs => do
    let g ← a.resolve f
    let gs ← a.resolveAll fs
    return g :: gs

/-- The rows with every pending break resolved, in order. -/
def resolveRows {α : Type} (a : LineArena) :
    List (List (Fragment α)) → Except Fault (List (List (Fragment α)))
  | [] => .ok []
  | row :: rows => do
    let cells ← a.resolveAll row
    let others ← a.resolveRows rows
    return cells :: others

end

@[simp] theorem size_addBreak (a : LineArena) : a.addBreak.size = a.size + 1 := rfl

@[simp] theorem level_addBreak (a : LineArena) : a.addBreak.level = a.level := by
  simp [addBreak, level]

/-- A shift moves the level by its offset. -/
theorem level_shift {a b : LineArena} {offset : Int} (h : a.shift offset = .ok b) :
    b.level = a.level + offset := by
  obtain ⟨changes⟩ := a
  cases changes with
  | nil => simp [shift] at h
  | cons change earlier =>
    simp only [shift, Except.ok.injEq] at h
    subst h
    simp only [level, List.foldr_cons]
    omega

end LineArena

end SourceLayout
