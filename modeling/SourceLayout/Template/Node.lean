import SourceLayout.Template.Expr
import SourceLayout.Template.Piece

/-! The tree of a template. It is built from the pieces by a machine that keeps the blocks which are
open; each block tag opens, turns or closes the innermost one. -/

namespace SourceLayout.Template

/-- A part of a template: literal text, a written value, a loop with what stands for an empty one,
or a choice between two branches, where `chained` says that the second is a further branch of the
same choice. -/
inductive Node where
  | literal (s : String)
  | output (e : Expr)
  | loop (variableName : String) (items : Expr) (body otherwise : List Node)
  | choice (test : Expr) (body : List Node) (chained : Bool) (otherwise : List Node)
deriving Inhabited

/-- A block that is open, with the parts before it, latest first: the body of a loop, what stands
for an empty loop, a branch after the branches `done`, or what follows when no branch is taken. -/
inductive OpenBlock where
  | loopBody (variableName : String) (items : Expr) (before : List Node)
  | loopOtherwise (variableName : String) (items : Expr) (body before : List Node)
  | branch (done : List (Expr × List Node)) (test : Expr) (before : List Node)
  | lastBranch (done : List (Expr × List Node)) (before : List Node)
deriving Inhabited

/-- The parts of the innermost open block so far, latest first, and the open blocks, innermost
first. -/
structure Assembly where
  parts : List Node := []
  blocks : List OpenBlock := []
deriving Inhabited

/-- The choice among branches, latest first, before a last one. -/
def choiceOf (done : List (Expr × List Node)) (last : List Node) : List Node :=
  match done with
  | [] => last
  | (test, body) :: earlier =>
    earlier.foldl (fun further (test, body) => [.choice test body true further])
      [.choice test body false last]

namespace Assembly

/-- Adds a part to the innermost block. -/
def add (node : Node) (a : Assembly) : Assembly := { a with parts := node :: a.parts }

/-- The assembly after a tag that must end in front of the tokens. -/
def endTag (a : Assembly) : List Token → Except Fault Assembly
  | [] => .ok a
  | tokens => Expr.stopAt tokens

/-- The assembly after a tag that must end in front of the tokens, maybe after a colon. -/
def endHead (a : Assembly) : List Token → Except Fault Assembly
  | .symbol ':' :: rest => a.endTag rest
  | tokens => a.endTag tokens

/-- The assembly after a tag that must end after its expression, maybe with a colon.  In other
templates one of the tokens `others` may come first. -/
def endTest (a : Assembly) (others : List Token) : List Token → Except Fault Assembly
  | [] => .ok a
  | .symbol ':' :: rest => a.endTag rest
  | tokens => Expr.stopPast others tokens

/-- Opens a loop with the variable and the items that the tokens give. The variable's name must not
stand for a value of its own. -/
def openLoop (a : Assembly) : List Token → Except Fault Assembly
  | .word name :: .word "in" :: items => do
    if (Expr.constants.lookup name).isSome then throw .malformedTemplate
    let (e, rest) ← Expr.readFrom items
    endTest { parts := [], blocks := .loopBody name e a.parts :: a.blocks }
      [.word "if", .word "recursive"] rest
  | .word _ :: rest => Expr.stop (Expr.beginsWith [.symbol ',']) rest
  | .number _ :: rest | .text _ :: rest => Expr.stopAt rest
  | tokens => Expr.stop (Expr.beginsWith [.symbol '(']) tokens

/-- Opens a choice with a first branch under the test that the tokens give. -/
def openChoice (a : Assembly) (test : List Token) : Except Fault Assembly := do
  let (e, rest) ← Expr.readFrom test
  endTest { parts := [], blocks := .branch [] e a.parts :: a.blocks } [] rest

/-- Closes a loop. -/
def closeLoop (name : String) (items : Expr) (body otherwise before : List Node)
    (blocks : List OpenBlock) : Assembly :=
  { parts := .loop name items body otherwise :: before, blocks }

/-- Closes a choice among the branches, latest first, before a last one. -/
def closeChoice (done : List (Expr × List Node)) (last before : List Node)
    (blocks : List OpenBlock) : Assembly :=
  { parts := choiceOf done last ++ before, blocks }

/-- The words that begin block tags of other templates. -/
def otherTags : List String :=
  ["autoescape", "block", "call", "extends", "filter", "from", "import", "include", "macro", "print",
   "raw", "set", "with"]

/-- What a block tag does to the innermost open block. A tag that has no place there is refused at
its first token. -/
def steer (a : Assembly) (tokens : List Token) : Except Fault Assembly :=
  match tokens, a.blocks with
  | .word "for" :: rest, _ => a.openLoop rest
  | .word "if" :: rest, _ => a.openChoice rest
  | .word "else" :: rest, .loopBody name items before :: blocks =>
    endHead
      { parts := [], blocks := .loopOtherwise name items a.parts.reverse before :: blocks } rest
  | .word "endfor" :: rest, .loopBody name items before :: blocks =>
    endTag (closeLoop name items a.parts.reverse [] before blocks) rest
  | .word "endfor" :: rest, .loopOtherwise name items body before :: blocks =>
    endTag (closeLoop name items body a.parts.reverse before blocks) rest
  | .word "elif" :: rest, .branch done earlier before :: blocks => do
    let (e, rest) ← Expr.readFrom rest
    let done := (earlier, a.parts.reverse) :: done
    endTest { parts := [], blocks := .branch done e before :: blocks } [] rest
  | .word "else" :: rest, .branch done test before :: blocks =>
    let done := (test, a.parts.reverse) :: done
    endHead { parts := [], blocks := .lastBranch done before :: blocks } rest
  | .word "endif" :: rest, .branch done test before :: blocks =>
    endTag (closeChoice ((test, a.parts.reverse) :: done) [] before blocks) rest
  | .word "endif" :: rest, .lastBranch done before :: blocks =>
    endTag (closeChoice done a.parts.reverse before blocks) rest
  | tokens, _ => Expr.stop (Expr.beginsWith (otherTags.map .word)) tokens

/-- What a piece does. -/
def take (a : Assembly) : Piece → Except Fault Assembly
  | .literal s => .ok (a.add (.literal s))
  | .tag .output tokens => do return a.add (.output (← Expr.ofTokens tokens))
  | .tag .block tokens => a.steer tokens
  | .endlessComment => .error .malformedTemplate

end Assembly

/-- The tree of the pieces, in which every block must be closed. -/
def Node.ofPieces (pieces : List Piece) : Except Fault (List Node) := do
  let a ← pieces.foldlM Assembly.take {}
  if a.blocks.isEmpty then return a.parts.reverse else throw .malformedTemplate

/-- The tree of a template. -/
def Node.ofTemplate (template : String) : Except Fault (List Node) :=
  Node.ofPieces (pieces template)

end SourceLayout.Template
