import SourceLayout.Fault
import SourceLayout.Template.Token

/-! Expressions in template tags. They are read from tokens: a word, number or quoted text, followed
by accesses, then by filters and comparisons; signs stand in front of a value with its accesses, and
`not` in front of everything.  Reading goes token by token and stops at the first that is not read,
so that what follows it has no part in the fault.  It is another fault where other templates may go
on, with an operator, a call, or a list, than where none may. -/

namespace SourceLayout.Template

/-- A sign in front of a number. -/
inductive NumberSign where
  | plus
  | minus
deriving DecidableEq, Repr, Inhabited

namespace NumberSign

/-- The sign as it is written. -/
def text : NumberSign → String
  | plus => "+"
  | minus => "-"

/-- The number with the sign in front. -/
def apply : NumberSign → Int → Int
  | plus, n => n
  | minus, n => -n

end NumberSign

/-- An expression. A text that is no `String` is given by its code points; filters and comparisons
are applied to an argument and further operands. -/
inductive Expr where
  | variable (name : String)
  | literal (value : Value)
  | halves (codes : List Nat)
  | member (owner : Expr) (key : String)
  | element (owner index : Expr)
  | filter (argument : Expr) (name : String) (operands : List Expr)
  | comparison (argument : Expr) (name : String) (operands : List Expr)
  | negation (argument : Expr)
  | signed (sign : NumberSign) (argument : Expr)
deriving Inhabited

namespace Expr

/-- The words that stand for values of their own. -/
def constants : List (String × Value) :=
  [("true", .bool true), ("True", .bool true), ("false", .bool false), ("False", .bool false),
   ("none", .none), ("None", .none)]

/-- The expression that a word alone stands for. -/
def ofWord (name : String) : Expr := ((constants.lookup name).map .literal).getD (.variable name)

/-- The expression that a quoted text stands for. -/
def ofCodes (codes : List Nat) : Expr :=
  ((Text.ofCodes? codes).map (.literal <| .str ·)).getD (.halves codes)

/-! ### Reading -/

/-- Reading stops in front of the tokens, the first of which is not read here.  `isOther` tells the
tokens that may stand there in other templates from those that may not in any. -/
def stop {α : Type} (isOther : List Token → Bool) : List Token → Except Fault α
  | .overlong digits :: _ => .error (.overlongNumber digits)
  | tokens => .error (if isOther tokens then .uncoveredTemplate else .malformedTemplate)

/-- Reading stops in front of the tokens, the first of which fits in no template. -/
def stopAt {α : Type} : List Token → Except Fault α := stop fun _ => false

/-- The first token is one of these. -/
def beginsWith (others : List Token) (tokens : List Token) : Bool := tokens.head?.any others.contains

/-- An operator, the operands of a call, or a comma. -/
def isOperation : List Token → Bool
  | .word "and" :: _ | .word "or" :: _ | .word "in" :: _ | .word "not" :: .word "in" :: _
  | .symbol '=' :: .symbol '=' :: _ | .symbol '!' :: .symbol '=' :: _ => true
  | .symbol c :: _ => "+-*/%~<>(,".toList.contains c
  | _ => false

/-- Reading stops after an expression, which may go on in other templates with an operation or with
one of the tokens `others`. -/
def stopPast {α : Type} (others : List Token) : List Token → Except Fault α :=
  stop fun tokens => isOperation tokens || beginsWith others tokens

/-- Reading stops after a token that does not fit, and after the next has been read. -/
def stopAfter {α : Type} : List Token → Except Fault α
  | .overlong digits :: _ => .error (.overlongNumber digits)
  | _ :: rest => stopAt rest
  | [] => .error .malformedTemplate

/-- Something that is read, and the tokens after it. -/
abbrev Reading (α : Type) := α × List Token

/-- The quoted texts at the head of the tokens, joined to `before`, and the tokens after them. -/
def readTexts (before : List Nat) : List Token → List Nat × List Token
  | .text codes :: rest => readTexts (before ++ codes) rest
  | rest => (before, rest)

/-- The words at the head of the tokens, each after a point, joined to `before`. -/
def readPath (before : String) : List Token → Except Fault (Reading String)
  | .symbol '.' :: .word s :: rest => readPath (before ++ "." ++ s) rest
  | .symbol '.' :: rest => stopAt rest
  | rest => .ok (before, rest)

mutual

/-- Reads an expression, in at most `steps` steps. -/
def read : (steps : Nat) → List Token → Except Fault (Reading Expr)
  | 0, tokens => stopAt tokens
  | steps + 1, .word "not" :: rest => do
    let (e, rest) ← read steps rest
    return (.negation e, rest)
  | steps + 1, tokens => do
    let (e, rest) ← readSigned steps tokens
    readFilters steps e rest

/-- Reads signs, if any, and a value with its accesses. -/
def readSigned : (steps : Nat) → List Token → Except Fault (Reading Expr)
  | 0, tokens => stopAt tokens
  | steps + 1, .symbol '-' :: rest => do
    let (e, rest) ← readSigned steps rest
    return (.signed .minus e, rest)
  | steps + 1, .symbol '+' :: rest => do
    let (e, rest) ← readSigned steps rest
    return (.signed .plus e, rest)
  | steps + 1, tokens => readAccessed steps tokens

/-- Reads a value with its accesses. -/
def readAccessed : (steps : Nat) → List Token → Except Fault (Reading Expr)
  | 0, tokens => stopAt tokens
  | steps + 1, tokens => do
    let (e, rest) ← readPrimary steps tokens
    readAccesses steps e rest

/-- Reads a word, a number, quoted texts, or an expression in parentheses. -/
def readPrimary : (steps : Nat) → List Token → Except Fault (Reading Expr)
  | 0, tokens => stopAt tokens
  | steps + 1, tokens =>
    match tokens with
    | .word name :: rest => .ok (ofWord name, rest)
    | .number n :: rest => .ok (.literal (.int n), rest)
    | .text codes :: rest =>
      let (joined, rest) := readTexts codes rest
      .ok (ofCodes joined, rest)
    | .symbol '(' :: .symbol ')' :: _ => .error .uncoveredTemplate
    | .symbol '(' :: rest => do
      match ← read steps rest with
      | (e, .symbol ')' :: rest) => return (e, rest)
      | (_, rest) => stopPast [.word "if"] rest
    | .symbol '[' :: rest | .symbol '\x7b' :: rest => stop (fun _ => true) rest
    | tokens => stop (beginsWith [.fraction]) tokens

/-- Reads the accesses to members and elements that follow a value. Nothing in brackets is the empty
tuple. -/
def readAccesses : (steps : Nat) → Expr → List Token → Except Fault (Reading Expr)
  | 0, _, tokens => stopAt tokens
  | steps + 1, e, tokens =>
    match tokens with
    | .symbol '.' :: .word key :: rest => readAccesses steps (.member e key) rest
    | .symbol '.' :: .number n :: rest => readAccesses steps (.element e (.literal (.int n))) rest
    | .symbol '.' :: rest => stopAfter rest
    | .symbol '[' :: .symbol ']' :: rest =>
      readAccesses steps (.element e (.literal (.tuple []))) rest
    | .symbol '[' :: .symbol ':' :: _ => .error .uncoveredTemplate
    | .symbol '[' :: rest => do
      match ← read steps rest with
      | (index, .symbol ']' :: rest) => readAccesses steps (.element e index) rest
      | (_, rest) => stopPast [.word "if", .symbol ':'] rest
    | rest => .ok (e, rest)

/-- Reads the filters and comparisons that follow a value. -/
def readFilters : (steps : Nat) → Expr → List Token → Except Fault (Reading Expr)
  | 0, _, tokens => stopAt tokens
  | steps + 1, e, tokens =>
    match tokens with
    | .symbol '|' :: .word word :: rest => do
      match ← readPath word rest with
      | (name, .symbol '(' :: rest) =>
        let (operands, rest) ← readOperands steps rest
        readFilters steps (.filter e name operands) rest
      | (name, rest) => readFilters steps (.filter e name []) rest
    | .symbol '|' :: rest => stopAt rest
    | .word "is" :: .word "not" :: .word word :: rest => do
      let (name, rest) ← readPath word rest
      let (operands, rest) ← readCompared steps rest
      readFilters steps (.negation (.comparison e name operands)) rest
    | .word "is" :: .word "not" :: rest => stopAt rest
    | .word "is" :: .word word :: rest => do
      let (name, rest) ← readPath word rest
      let (operands, rest) ← readCompared steps rest
      readFilters steps (.comparison e name operands) rest
    | .word "is" :: rest => stopAt rest
    | rest => .ok (e, rest)

/-- Reads what a value is compared with: operands in parentheses, a value with its accesses, or
nothing. -/
def readCompared : (steps : Nat) → List Token → Except Fault (Reading (List Expr))
  | 0, tokens => stopAt tokens
  | steps + 1, tokens =>
    match tokens with
    | .symbol '(' :: rest => readOperands steps rest
    | .word "is" :: _ => stopAt tokens
    | .symbol '[' :: rest | .symbol '\x7b' :: rest => stop (fun _ => true) rest
    | .word "else" :: _ | .word "or" :: _ | .word "and" :: _ | .symbol _ :: _ | [] =>
      .ok ([], tokens)
    | tokens => do
      let (e, rest) ← readAccessed steps tokens
      return ([e], rest)

/-- Reads operands with commas between them, and maybe after them, up to a closing parenthesis. -/
def readOperands : (steps : Nat) → List Token → Except Fault (Reading (List Expr))
  | 0, tokens => stopAt tokens
  | _ + 1, .symbol ')' :: rest => .ok ([], rest)
  | _ + 1, .symbol '*' :: _ => .error .uncoveredTemplate
  | steps + 1, tokens => do
    match ← read steps tokens with
    | (e, .symbol ',' :: rest) =>
      let (operands, rest) ← readOperands steps rest
      return (e :: operands, rest)
    | (e, .symbol ')' :: rest) => return ([e], rest)
    | (_, rest) => stopPast [.word "if", .symbol '='] rest

end

/-- The expression at the head of the tokens, and the tokens after it. -/
def readFrom (tokens : List Token) : Except Fault (Reading Expr) :=
  read (6 * tokens.length + 6) tokens

/-- The expression that the tokens make up, all of them. -/
def ofTokens (tokens : List Token) : Except Fault Expr := do
  match ← readFrom tokens with
  | (e, []) => return e
  | (_, rest) => stopPast [.word "if"] rest

/-! ### What an expression reads -/

mutual

/-- The variables of the expression, in order. -/
def reads : Expr → List String
  | .variable name => [name]
  | .literal _ | .halves _ => []
  | .member e _ | .negation e | .signed _ e => e.reads
  | .element e f => e.reads ++ f.reads
  | .filter e _ operands | .comparison e _ operands => e.reads ++ readsOfAll operands

/-- The variables of expressions, in order. -/
def readsOfAll : List Expr → List String
  | [] => []
  | e :: es => e.reads ++ readsOfAll es

end

end Expr

end SourceLayout.Template
