import SourceLayout.Page
import SourceLayout.Naming.Assignment

/-! A finished tree is written to a page from left to right.  The sheet that comes of it holds the
lines and, outermost first, where each marked region begins and ends; a mark writes
nothing. -/

namespace SourceLayout

/-- The indentation of one level, unless another is chosen. -/
def defaultIndentation : String := Text.repeated Text.tabWidth " "

/-- A marked region of the output. -/
structure Region where
  mark : Mark
  start : Location
  stop : Location
deriving DecidableEq, Repr, Inhabited

/-- The written output: its lines and its marked regions. -/
structure Sheet where
  lines : List String
  regions : List Region
deriving DecidableEq, Repr, Inhabited

namespace Sheet

/-- The output as one text, in which every line is ended. -/
def text (s : Sheet) : String := String.join (s.lines.map (· ++ "\n"))

/-- The regions that report an issue. -/
def issues (s : Sheet) : List Region := s.regions.filter (·.mark.isIssue)

end Sheet

/-- A part of the output that was written: the page after it and the regions in it, or the fault
that ended it. -/
abbrev Written := Except Fault (Page × List Region)

namespace Written

/-- Nothing more is written. -/
def nothing (p : Page) : Written := .ok (p, [])

/-- One part of the output and then another. -/
def andThen (first : Written) (next : Page → Written) : Written := do
  let (p, before) ← first
  let (q, after) ← next p
  return (q, before ++ after)

/-- The part of the output as a region that began at `start`. -/
def enclose (indentation : String) (mark : Mark) (start : Location) (body : Written) :
    Written := do
  let (p, inside) ← body
  return (p, ⟨mark, start, p.cursor indentation⟩ :: inside)

end Written

namespace Fragment

mutual

/-- A tree on the page. -/
def writeOn (indentation : String) (names : Assignment) : Fragment Value → Page → Written
  | .text s, p => (p.write indentation s).bind Written.nothing
  | .newline change, p => (p.breakLine change).bind Written.nothing
  | .pending _, _ => .error .treeUnfinished
  | .name n, p =>
    match names.get? n with
    | some s => (p.write indentation s).bind Written.nothing
    | none => .error (.unassigned n)
  | .seq fs, p => writeAllOn indentation names fs p
  | .table [], p => .nothing p
  | .table (row :: rows), p =>
    (writeRowOn indentation names row p).andThen (writeRowsOn indentation names rows)
  | .marked mark f, p =>
    (writeOn indentation names f p).enclose indentation mark (p.cursor indentation)
  | .foreign v, _ => .error (.unknownFragment v)

/-- Trees on the page, one after the other. -/
def writeAllOn (indentation : String) (names : Assignment) :
    List (Fragment Value) → Page → Written
  | [], p => .nothing p
  | f :: fs, p => (writeOn indentation names f p).andThen (writeAllOn indentation names fs)

/-- The cells of a row on the page, with a space between neighbours. -/
def writeRowOn (indentation : String) (names : Assignment) :
    List (Fragment Value) → Page → Written
  | [], p => .nothing p
  | f :: fs, p => (writeOn indentation names f p).andThen (writeCellsOn indentation names fs)

/-- The cells of a row after its first on the page, each after a space. -/
def writeCellsOn (indentation : String) (names : Assignment) :
    List (Fragment Value) → Page → Written
  | [], p => .nothing p
  | f :: fs, p => do
    let spaced ← p.write indentation " "
    (writeOn indentation names f spaced).andThen (writeCellsOn indentation names fs)

/-- The rows of a table after its first on the page, each on a line of its own. -/
def writeRowsOn (indentation : String) (names : Assignment) :
    List (List (Fragment Value)) → Page → Written
  | [], p => .nothing p
  | row :: rows, p =>
    (writeRowOn indentation names row p.endLine).andThen (writeRowsOn indentation names rows)

end

/-- The sheet that a finished tree is written to. -/
def toSheet (tree : Fragment Value) (names : Assignment) (indentation : String) :
    Except Fault Sheet := do
  let (p, regions) ← tree.writeOn indentation names Page.blank
  return { lines := p.lines, regions }

end Fragment

end SourceLayout
