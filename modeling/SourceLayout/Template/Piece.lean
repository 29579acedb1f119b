import SourceLayout.Template.Token
import SourceLayout.Text.Lines

/-! A template is cut into pieces: literal text, output tags and block tags.  A comment leaves no
piece.  Around tags, white space goes as follows.  A minus sign inside a delimiter strips the white
space outside it.  Otherwise one line break right after a block tag or a comment goes, and the white
space between a line's start and a block tag or a comment goes, unless a plus sign keeps it.  Where
a template cannot be read on, its last piece tells so. -/

namespace SourceLayout.Template

/-- The kinds of tags that hold tokens: those that write a value and those that steer. -/
inductive TagKind where
  | output
  | block
deriving DecidableEq, Repr, Inhabited

/-- A piece of a template; or, in place of a piece, a comment that has no end. -/
inductive Piece where
  | literal (s : String)
  | tag (kind : TagKind) (tokens : List Token)
  | endlessComment
deriving DecidableEq, Repr, Inhabited

/-- The sign right after an opening delimiter. -/
inductive Sign where
  | none
  | minus
  | plus
deriving DecidableEq, Repr, Inhabited

/-- Where a scan stands: in literal text, in a comment, in a tag between tokens, in white space that
is stripped, inside a delimiter or a token of which `count` characters are left, or past the place
where reading stopped. Tokens and characters so far are latest first; `atLineStart` says that the
text begins a line, and `afterPoint` that the latest token is a point right in front. -/
inductive Mode where
  | text (soFar : List Char) (atLineStart : Bool)
  | comment
  | tag (kind : TagKind) (tokens : List Token) (afterPoint : Bool)
  | stripping (atLineStart : Bool)
  | skip (count : Nat) (next : Mode)
  | stopped
deriving Repr, Inhabited

/-- Literal text without the white space that reaches back to the start of its line, latest first.
-/
def dropMargin (soFar : List Char) (atLineStart : Bool) : List Char :=
  let margin := soFar.takeWhile (· ≠ '\n')
  let before := soFar.dropWhile (· ≠ '\n')
  if margin.all Text.isBlank && (!before.isEmpty || atLineStart) then before else soFar

/-- The literal text before a tag with this sign, where `keepsMargin` tells the tags before which
plain white space stays; latest first. -/
def textBefore (sign : Sign) (keepsMargin : Bool) (soFar : List Char) (atLineStart : Bool) :
    List Char :=
  match sign with
  | .minus => soFar.dropWhile Text.isBlank
  | .plus => soFar
  | .none => if keepsMargin then soFar else dropMargin soFar atLineStart

/-- The piece of literal text, latest first, where there is any. -/
def literalPiece (soFar : List Char) : List Piece :=
  if soFar.isEmpty then [] else [.literal (String.ofList soFar.reverse)]

/-- What begins at the head of a text: a tag of a kind, or a comment (no kind); with its sign and
the length of its delimiter. -/
def opening? : List Char → Option (Option TagKind × Sign × Nat)
  | '{' :: '{' :: rest => some (some .output, signOf rest)
  | '{' :: '%' :: rest => some (some .block, signOf rest)
  | '{' :: '#' :: rest => some (none, signOf rest)
  | _ => none
where
  /-- The sign at the head of a text, and the length of a delimiter that it ends. -/
  signOf : List Char → Sign × Nat
    | '-' :: _ => (.minus, 3)
    | '+' :: _ => (.plus, 3)
    | _ => (.none, 2)

/-- What ends a tag of a kind at the head of a text: where the scan goes on, and the length of the
delimiter. -/
def tagEnd? : TagKind → List Char → Option (Mode × Nat)
  | .block, '-' :: '%' :: '}' :: _ => some (.stripping false, 3)
  | .block, '+' :: '%' :: '}' :: _ => some (.text [] false, 3)
  | .block, '%' :: '}' :: '\n' :: _ => some (.text [] true, 3)
  | .block, '%' :: '}' :: _ => some (.text [] false, 2)
  | .output, '-' :: '}' :: '}' :: _ => some (.stripping false, 3)
  | .output, '}' :: '}' :: _ => some (.text [] false, 2)
  | _, _ => none

/-- What ends a comment at the head of a text: where the scan goes on, and the length of the
delimiter. -/
def commentEnd? : List Char → Option (Mode × Nat)
  | '-' :: '#' :: '}' :: _ => some (.stripping false, 3)
  | '+' :: '#' :: '}' :: _ => some (.text [] false, 3)
  | '#' :: '}' :: '\n' :: _ => some (.text [] true, 3)
  | '#' :: '}' :: _ => some (.text [] false, 2)
  | _ => none

/-! ### One character -/

/-- Pieces that are complete, and where the scan stands then. -/
abbrev Move := List Piece × Mode

/-- A character of literal text, before `rest`. A comment that opens at the very end is no fault. -/
def textMove (soFar : List Char) (atLineStart : Bool) (c : Char) (rest : List Char) : Move :=
  match opening? (c :: rest) with
  | none => ([], .text (c :: soFar) atLineStart)
  | some (some kind, sign, length) =>
    (literalPiece (textBefore sign (kind = .output) soFar atLineStart),
      .skip (length - 1) (.tag kind [] false))
  | some (none, sign, length) =>
    (literalPiece (textBefore sign false soFar atLineStart),
      .skip (length - 1) (if (c :: rest).length = length then .text [] false else .comment))

/-- A mode for the text after `count` characters more. -/
def Mode.afterMore (next : Mode) : (count : Nat) → Mode
  | 0 => next
  | count + 1 => .skip (count + 1) next

/-- A tag with one token more, of which `count` characters are left. -/
def tokenMove (kind : TagKind) (tokens : List Token) (token : Token) (count : Nat) : Move :=
  if token.isLast then ([.tag kind (token :: tokens).reverse], .stopped)
  else ([], Mode.afterMore (.tag kind (token :: tokens) (token = .symbol '.')) count)

/-- A character between the tokens of a tag, before `rest`. -/
def tagMove (kind : TagKind) (tokens : List Token) (afterPoint : Bool) (c : Char)
    (rest : List Char) : Move :=
  match tagEnd? kind (c :: rest) with
  | some (next, length) => ([.tag kind tokens.reverse], .skip (length - 1) next)
  | none =>
    if Text.isBlank c then ([], .tag kind tokens false)
    else
      match Token.read? afterPoint (c :: rest) with
      | some (token, length) => tokenMove kind tokens token (length - 1)
      | none => tokenMove kind tokens .broken 0

/-- A character of a comment, before `rest`. -/
def commentMove (c : Char) (rest : List Char) : Move :=
  match commentEnd? (c :: rest) with
  | some (next, length) => ([], .skip (length - 1) next)
  | none => ([], .comment)

/-- The character `c`, before `rest`, in any mode. -/
def Mode.move (mode : Mode) (c : Char) (rest : List Char) : Move :=
  match mode with
  | .text soFar atLineStart => textMove soFar atLineStart c rest
  | .comment => commentMove c rest
  | .tag kind tokens afterPoint => tagMove kind tokens afterPoint c rest
  | .stripping atLineStart =>
    if Text.isBlank c then ([], .stripping (c = '\n')) else textMove [] atLineStart c rest
  | .skip count next => ([], if count ≤ 1 then next else .skip (count - 1) next)
  | .stopped => ([], .stopped)

/-! ### The whole text -/

/-- The pieces that are left at the end of the text. A tag that is still open there is broken. -/
def Mode.finish : Mode → List Piece
  | .text soFar _ => literalPiece soFar
  | .tag kind tokens _ => [.tag kind (Token.broken :: tokens).reverse]
  | .comment => [.endlessComment]
  | .skip _ next => next.finish
  | .stripping _ | .stopped => []

/-- The pieces of the rest of a template, from a mode on. -/
def scan : Mode → List Char → List Piece
  | mode, [] => mode.finish
  | mode, c :: rest =>
    let (pieces, next) := mode.move c rest
    pieces ++ scan next rest

/-- The pieces of a template, in which every line break counts as LF. -/
def pieces (template : String) : List Piece :=
  scan (.text [] true) (Text.normalizeBreaks template.toList)

end SourceLayout.Template
