import SourceLayout.Builder.Outcome
import SourceLayout.LineArena
import SourceLayout.Value.Conversion

/-! A builder collects what is emitted into a tree. It writes to the innermost open region, keeps
the line breaks in an arena, and remembers a requested blank line until something is written.
Requests before the first output are dropped, so a requested blank line never comes first. -/

namespace SourceLayout

/-- A tree under construction.  `current` is what the innermost region holds so far and `suspended`
what the regions around it hold, innermost first; both are latest first. -/
structure Builder where
  arena : LineArena := {}
  current : List Tree := []
  suspended : List (List Tree) := []
  blankWanted : Bool := false
  hasOutput : Bool := false
  finished : Bool := false
deriving Inhabited

namespace Builder

/-- The builder before anything is emitted. -/
def fresh : Builder := {}

/-- The indentation level of the current line. -/
def level (b : Builder) : Int := b.arena.level

/-- No line and no item has been written. -/
def isEmpty (b : Builder) : Bool := !b.hasOutput

/-- The builder with a fragment in the innermost region. -/
def append (f : Tree) (b : Builder) : Builder :=
  { b with current := f :: b.current, hasOutput := true }

/-- The builder with a new line break in the innermost region. -/
def appendBreak (b : Builder) : Builder :=
  { b.append (.pending b.arena.size) with arena := b.arena.addBreak }

/-- The builder after a requested blank line is written. -/
def flushBlank (b : Builder) : Builder :=
  if b.blankWanted then { b.appendBreak with blankWanted := false } else b

/-- Writes a line break. -/
def breakLine (b : Builder) : Outcome Builder :=
  if b.finished then .failed b .treeFinished else .done b.appendBreak

/-- Writes a requested blank line and then a value. The blank line is written even when the value is
refused. -/
def item (v : Value) (b : Builder) : Outcome Builder :=
  if b.finished then .failed b .treeFinished
  else
    match v.toFragment with
    | .ok f => .done (b.flushBlank.append f)
    | .error fault => .failed b.flushBlank fault

/-- Asks for a blank line before the next item, once there is output. -/
def requestBlank (b : Builder) : Builder :=
  if b.isEmpty then b else { b with blankWanted := true }

/-- Writes the parts as one line, and only the line break when there are none. -/
def line (parts : List Value) (b : Builder) : Outcome Builder :=
  match parts with
  | [] => b.breakLine
  | parts => (b.item (.list parts)).andThen breakLine

/-- Changes the indentation of the current line and those after it. -/
def shift (offset : Int) (b : Builder) : Outcome Builder :=
  .ofExcept b ((b.arena.shift offset).map fun arena => { b with arena })

/-- Writes the lines of a block after its first, from the indentation `indent` on, and then goes
back to the indentation of the first. -/
def blockLines (indent : Nat) : List String → Builder → Outcome Builder
  | [], b => if indent = 0 then .done b else b.shift (-indent)
  | line :: lines, b =>
    match Text.lineIndentation line with
    | (column, text?) =>
      if column % Text.tabWidth ≠ 0 then .failed b (.unevenIndent line)
      else
        match text? with
        | some text =>
          let next := column / Text.tabWidth
          ((b.shift (next - indent)).andThen (Builder.line [.str text])).andThen
            (blockLines next lines)
        | none => b.breakLine.andThen (blockLines indent lines)

/-- Writes a block of lines, indented in steps of the tab width relative to the current line.  After
the first, lines that hold only spaces and tabs come out empty. -/
def block (text : String) (b : Builder) : Outcome Builder :=
  let (first, rest) := Text.lines text
  (b.line [.str first]).andThen (blockLines 0 rest)

/-- Writes a table and a line break. -/
def table (rows : Value) (b : Builder) : Outcome Builder :=
  match rows.toTable with
  | .ok t => (b.item (.fragment t)).andThen breakLine
  | .error fault => .failed b fault

/-- How many regions are open. -/
def depth (b : Builder) : Nat := b.suspended.length

/-- Opens a region, which takes what is written from now on. -/
def openRegion (b : Builder) : Builder :=
  { b with current := [], suspended := b.current :: b.suspended }

/-- Closes the region that was opened at a depth of `depth` regions and leaves it, marked, in the
region around it.  A region opened after it must be closed first. -/
def closeRegion (mark : Mark) (depth : Nat) (b : Builder) : Outcome Builder :=
  match b.suspended with
  | [] => .failed b .targetNotRestored
  | outer :: suspended =>
    if suspended.length = depth then
      let body := Fragment.ofList b.current.reverse
      .done { b with current := .marked mark body :: outer, suspended }
    else .failed b .targetNotRestored

/-- Ends the tree and resolves its line breaks.  No region may be open. -/
def finish (b : Builder) : Builder × Except Fault Tree :=
  match b.suspended with
  | [] =>
    ({ b with finished := true }, b.arena.resolve (.seq b.current.reverse))
  | _ :: _ => (b, .error .regionOpen)

/-! ### What the operations keep -/

@[simp] theorem level_append (f : Tree) (b : Builder) : (b.append f).level = b.level := rfl

@[simp] theorem level_appendBreak (b : Builder) : b.appendBreak.level = b.level :=
  LineArena.level_addBreak b.arena

@[simp] theorem level_flushBlank (b : Builder) : b.flushBlank.level = b.level := by
  unfold flushBlank
  split
  · exact level_appendBreak b
  · rfl

@[simp] theorem level_openRegion (b : Builder) : b.openRegion.level = b.level := rfl

@[simp] theorem depth_openRegion (b : Builder) : b.openRegion.depth = b.depth + 1 := rfl

end Builder

end SourceLayout
