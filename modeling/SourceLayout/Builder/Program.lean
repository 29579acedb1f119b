import SourceLayout.Builder
import SourceLayout.Builder.BlankLines
import SourceLayout.Sheet

/-! Programs that drive a builder. A program is a list of steps, some of which have programs as
their bodies. A step that fails ends all steps around it, and leaves behind whatever was done
before. -/

namespace SourceLayout

/-- One call on a builder. -/
inductive Step where
  /-- Writes a line of parts. -/
  | line (parts : List Value)
  /-- Asks for a blank line. -/
  | requestBlank
  /-- Writes a block of indented lines. -/
  | block (text : String)
  /-- Writes a table. -/
  | table (rows : Value)
  /-- Changes the indentation. -/
  | shift (offset : Int)
  /-- Runs the body one level deeper. -/
  | indent (body : List Step)
  /-- Runs the body as a marked region. -/
  | region (mark : Mark) (body : List Step)
  /-- Runs the bodies in order, with a blank line wanted before the first, the others, both or
  none. -/
  | each (interposing leading : Bool) (bodies : List (List Step))
  /-- Runs the bodies in order, with blank lines where a value chooses them. -/
  | eachAt (blankLines : Value) (bodies : List (List Step))
  /-- Notes the indentation level and whether there is output. -/
  | probe
  /-- Turns all that follows away from the output, for good. -/
  | divert
  /-- Finishes the tree. -/
  | finish
  /-- Writes the tree that was finished last. -/
  | write (indentation : String)
  /-- Fails on its own account. -/
  | fail (fault : Fault)
deriving Inhabited

/-- What a probe saw: the indentation level, and whether nothing was written yet. -/
structure Probe where
  level : Int
  isEmpty : Bool
deriving DecidableEq, Repr, Inhabited

/-- A builder at work, with the tree that was finished last, the sheet that was written last and the
probes, latest first.  Before a tree is finished, a missing value stands in its place. -/
structure Session where
  builder : Builder := .fresh
  tree : Tree := .foreign .none
  sheet? : Option Sheet := none
  probes : List Probe := []
deriving Inhabited

namespace Session

/-- The session before anything is emitted. -/
def fresh : Session := {}

/-- An action of the builder as an action of the session. -/
def onBuilder (action : Builder → Outcome Builder) (s : Session) : Outcome Session :=
  (action s.builder).map fun builder => { s with builder }

/-- Asks the builder for a blank line. -/
def requestBlank (s : Session) : Session := { s with builder := s.builder.requestBlank }

/-- Opens a region of the builder. -/
def openRegion (s : Session) : Session := { s with builder := s.builder.openRegion }

/-- Notes the state of the builder. -/
def probe (s : Session) : Session :=
  { s with probes := ⟨s.builder.level, s.builder.isEmpty⟩ :: s.probes }

/-- Finishes the tree, and keeps it if that succeeds. -/
def finish (s : Session) : Outcome Session :=
  match s.builder.finish with
  | (builder, .ok tree) => .done { s with builder, tree }
  | (builder, .error fault) => .failed { s with builder } fault

/-- Writes the tree that was finished last, and keeps the sheet if that succeeds. -/
def write (names : Assignment) (indentation : String) (s : Session) : Outcome Session :=
  .ofExcept s ((s.tree.toSheet names indentation).map fun sheet => { s with sheet? := some sheet })

end Session

namespace Step

mutual

/-- Runs a step, where trees are written with the texts of `names`. -/
def run (names : Assignment) : Step → Session → Outcome Session
  | .line parts, s => s.onBuilder (Builder.line parts)
  | .requestBlank, s => .done s.requestBlank
  | .block text, s => s.onBuilder (Builder.block text)
  | .table rows, s => s.onBuilder (Builder.table rows)
  | .shift offset, s => s.onBuilder (Builder.shift offset)
  | .indent body, s =>
    ((s.onBuilder (Builder.shift 1)).andThen (runAll names body)).andThen
      (Session.onBuilder (Builder.shift (-1)))
  | .region mark body, s =>
    (runAll names body s.openRegion).andThen
      (Session.onBuilder (Builder.closeRegion mark s.builder.depth))
  | .each interposing leading bodies, s => runEach names interposing leading bodies s
  | .eachAt blankLines bodies, s =>
    match BlankLines.ofValue blankLines with
    | .ok b => runEach names b.isInterposing b.isLeading bodies s
    | .error fault => .failed s fault
  | .probe, s => .done s.probe
  | .divert, s => .done s.openRegion
  | .finish, s => s.finish
  | .write indentation, s => s.write names indentation
  | .fail fault, s => .failed s fault

/-- Runs steps in order. -/
def runAll (names : Assignment) : List Step → Session → Outcome Session
  | [], s => .done s
  | step :: steps, s => (run names step s).andThen (runAll names steps)

/-- Runs the bodies of a list in order.  `wanted` asks for a blank line before the next one, and
`interposing` before those after it. -/
def runEach (names : Assignment) (interposing wanted : Bool) :
    List (List Step) → Session → Outcome Session
  | [], s => .done s
  | body :: bodies, s =>
    (runAll names body (if wanted then s.requestBlank else s)).andThen
      (runEach names interposing interposing bodies)

end

end Step

end SourceLayout
