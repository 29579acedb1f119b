import SourceLayout.Template.Screening

/-! The outline of a template: the lines of the program that it stands for, as far as the limits of
programs go.  A program may be indented so deep, open so many parentheses at once and have so many
loops inside each other.  Texts and plain values next to each other are written by one line. -/

namespace SourceLayout.Template

/-- A line of a program: how deep it is indented, how many parentheses it opens inside each other,
and, where it begins a loop, how many loops are then inside each other. -/
structure ProgramLine where
  level : Nat
  parentheses : Nat := 0
  loops : Nat := 0
deriving DecidableEq, Repr, Inhabited

/-! ### Expressions -/

namespace Expr

mutual

/-- How many parentheses an expression opens inside each other. A plain value is written as it is
shown, and a name that was given stands for itself. -/
def parentheses (scope : Scope) (e : Expr) : Nat :=
  match e.constant? with
  | some (.tuple _ _) => 1
  | some _ => 0
  | none =>
    match e with
    | .variable name => if scope.isGiven name then 0 else 2
    | .literal _ | .halves _ => 0
    | .member e _ | .negation e | .signed _ e => parentheses scope e + 1
    | .element e f => max (parentheses scope e) (parentheses scope f) + 1
    | .filter e _ operands | .comparison e _ operands =>
      max (parentheses scope e) (parenthesesOfAll scope operands) + 1

/-- How many parentheses one of the expressions opens inside each other, at most. -/
def parenthesesOfAll (scope : Scope) : List Expr → Nat
  | [] => 0
  | e :: es => max (parentheses scope e) (parenthesesOfAll scope es)

end

mutual

/-- The names of filters that an expression uses. -/
def filters : Expr → List String
  | .variable _ | .literal _ | .halves _ => []
  | .member e _ | .negation e | .signed _ e => e.filters
  | .element e f => e.filters ++ f.filters
  | .filter e name operands => name :: e.filters ++ filtersOfAll operands
  | .comparison e _ operands => e.filters ++ filtersOfAll operands

/-- The names of filters that expressions use. -/
def filtersOfAll : List Expr → List String
  | [] => []
  | e :: es => e.filters ++ filtersOfAll es

end

mutual

/-- The names of comparisons that an expression uses. -/
def comparisons : Expr → List String
  | .variable _ | .literal _ | .halves _ => []
  | .member e _ | .negation e | .signed _ e => e.comparisons
  | .element e f => e.comparisons ++ f.comparisons
  | .filter e _ operands => e.comparisons ++ comparisonsOfAll operands
  | .comparison e name operands => name :: e.comparisons ++ comparisonsOfAll operands

/-- The names of comparisons that expressions use. -/
def comparisonsOfAll : List Expr → List String
  | [] => []
  | e :: es => e.comparisons ++ comparisonsOfAll es

end

/-- The expression is written like a text, since it can be shown without any variable. -/
def isWrittenOut (e : Expr) : Bool :=
  match e.fixed? with
  | none | some (.undefined _ _ _) => false
  | some (.number n _) => !Text.isOverlong n
  | some _ => true

end Expr

/-! ### Parts -/

/-- The names that a template is given for its outermost level: its own, if it reads that first. -/
def selfName : String := "self"

/-- The name of a loop in its body. -/
def loopName : String := "loop"

namespace Node

mutual

/-- The expressions of a part. -/
def expressions : Node → List Expr
  | .literal _ => []
  | .output e => [e]
  | .loop _ items body otherwise => items :: expressionsOfAll body ++ expressionsOfAll otherwise
  | .choice test body _ otherwise => test :: expressionsOfAll body ++ expressionsOfAll otherwise

/-- The expressions of parts. -/
def expressionsOfAll : List Node → List Expr
  | [] => []
  | node :: nodes => node.expressions ++ expressionsOfAll nodes

end

/-- A level for the outline of parts, where only names count. -/
def level (scope : Scope) (given : List String) (nodes : List Node) : Level :=
  Level.of {} scope (given.map (·, .missing)) nodes

/-- One line for each name that a level takes up. -/
def takingUp (depth : Nat) (level : Level) : List ProgramLine :=
  (level.filter (!·.isGiven)).map fun _ => { level := depth }

/-- The parts are a part that is written like a text, maybe among others. -/
def isWrittenOut : Node → Bool
  | .literal _ => true
  | .output e => e.isWrittenOut
  | .loop _ _ _ _ | .choice _ _ _ _ => false

mutual

/-- The lines of a part, at a depth and inside of `loops` loops. -/
def outline (scope : Scope) (depth loops : Nat) : Node → List ProgramLine
  | .literal _ => [{ level := depth }]
  | .output e =>
    [{ level := depth, parentheses := if e.isWrittenOut then 0 else e.parentheses scope + 1 }]
  | .loop name items body otherwise =>
    let line : ProgramLine := { level := depth }
    let inside : ProgramLine := { level := depth + 1 }
    let isExtended := readsFirst loopName body
    let inner := level scope (if isExtended then [name, loopName] else [name]) body
    let head : ProgramLine :=
      { level := depth
        parentheses := items.parentheses scope + (if isExtended then 1 else 0)
        loops := loops + 1 }
    let outer := level scope [] otherwise
    (if isExtended then [line] else []) ++ (if otherwise.isEmpty then [] else [line]) ++
      head :: takingUp (depth + 1) inner ++ inside :: inside ::
      outlineAll (inner :: scope) (depth + 1) (loops + 1) false body ++
      (if otherwise.isEmpty then [line]
      else
        inside :: line :: line :: takingUp (depth + 1) outer ++ inside ::
          outlineAll (outer :: scope) (depth + 1) loops false otherwise ++
          if outer.isEmpty then [] else [line])
  | .choice test body chained otherwise =>
    let inside : ProgramLine := { level := depth + 1 }
    { level := depth, parentheses := test.parentheses scope } :: inside ::
      outlineAll scope (depth + 1) loops false body ++
      if chained then outlineAll scope depth loops false otherwise
      else if otherwise.isEmpty then []
      else { level := depth } :: inside :: outlineAll scope (depth + 1) loops false otherwise

/-- The lines of parts, where `goesOn` says that the line before writes a text. -/
def outlineAll (scope : Scope) (depth loops : Nat) (goesOn : Bool) :
    List Node → List ProgramLine
  | [] => []
  | node :: nodes =>
    (if goesOn && node.isWrittenOut then [] else node.outline scope depth loops) ++
      outlineAll scope depth loops node.isWrittenOut nodes

end

/-- What a template gives its outermost level: itself, if it reads its own name first. -/
def selfGiven (nodes : List Node) : List (String × Object) :=
  if readsFirst selfName nodes then [(selfName, .template)] else []

/-- The lines of the program that a template stands for: nine lines of its own, one for itself if it
is given, those for the names that it takes up, six for each filter and each comparison that it
uses, and those of its parts. -/
def outlineProgram (nodes : List Node) : List ProgramLine :=
  let given := selfGiven nodes
  let outermost := level [] (given.map (·.1)) nodes
  let expressions := expressionsOfAll nodes
  let used := (expressions.flatMap Expr.filters).eraseDups.length +
    (expressions.flatMap Expr.comparisons).eraseDups.length
  let line : ProgramLine := { level := 1 }
  List.replicate (9 + given.length) line ++ takingUp 1 outermost ++
    List.replicate (6 * used) line ++ line :: outlineAll [outermost] 1 0 false nodes

end Node

/-! ### Limits -/

/-- The first depth that lines may not have. -/
def indentationLimit : Nat := 100

/-- So many parentheses may be open at once. -/
def parenthesesLimit : Nat := 200

/-- So many loops may be inside each other. -/
def loopsLimit : Nat := 20

/-- The fault of a line that cannot be read, by its number. -/
def ProgramLine.unreadable? (number : Nat) (line : ProgramLine) : Option Fault :=
  if indentationLimit ≤ line.level then some (.indentationExceeded number)
  else if parenthesesLimit < line.parentheses then some (.parenthesesExceeded number)
  else none

/-- The fault of a line that cannot be carried out, by its number. -/
def ProgramLine.impossible? (number : Nat) (line : ProgramLine) : Option Fault :=
  if loopsLimit < line.loops then some (.loopsExceeded number) else none

/-- Programs are read as a whole before anything of them is carried out. -/
def Node.checkLimits (nodes : List Node) : Except Fault Unit :=
  let lines := (outlineProgram nodes).zipIdx 1
  let unreadable? := lines.findSome? fun (line, number) => line.unreadable? number
  let impossible? := lines.findSome? fun (line, number) => line.impossible? number
  match unreadable?.or impossible? with
  | some fault => .error fault
  | none => .ok ()

/-- A program within the limits is accepted. -/
theorem checkLimits_eq_ok {nodes : List Node}
    (h : ∀ line ∈ Node.outlineProgram nodes, line.level < indentationLimit ∧
      line.parentheses ≤ parenthesesLimit ∧ line.loops ≤ loopsLimit) :
    Node.checkLimits nodes = .ok () := by
  have hreadable : (((Node.outlineProgram nodes).zipIdx 1).findSome? fun (line, number) =>
      line.unreadable? number) = none := by
    rw [List.findSome?_eq_none_iff]
    rintro ⟨line, number⟩ hline
    obtain ⟨hlevel, hparentheses, -⟩ := h line (List.fst_mem_of_mem_zipIdx hline)
    simp [ProgramLine.unreadable?, Nat.not_le.mpr hlevel, Nat.not_lt.mpr hparentheses]
  have hpossible : (((Node.outlineProgram nodes).zipIdx 1).findSome? fun (line, number) =>
      line.impossible? number) = none := by
    rw [List.findSome?_eq_none_iff]
    rintro ⟨line, number⟩ hline
    obtain ⟨-, -, hloops⟩ := h line (List.fst_mem_of_mem_zipIdx hline)
    simp [ProgramLine.impossible?, Nat.not_lt.mpr hloops]
  rw [Node.checkLimits]
  simp only [hreadable, hpossible, Option.or_none]

end SourceLayout.Template
