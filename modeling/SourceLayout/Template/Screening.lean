import SourceLayout.Template.Evaluation

/-! The faults that a template shows before anything is rendered: a filter or a comparison that does
not exist or is not covered, a number that takes more decimal digits than are written, and a loop that gives its items
the name of its own round.  Filters and comparisons inside a choice are only looked up when they are
used; an expression that has a plain value without any variables is replaced by it first. -/

namespace SourceLayout.Template

/-- The object can be written. -/
def screenObject : Object → Except Fault Unit
  | .number n _ => if Text.isOverlong n then .error .unwritableNumber else .ok ()
  | _ => .ok ()

/-- What is looked up under a name exists, or is looked up lazily.  Other templates have `others`. -/
def screenKnown (lazily isKnown : Bool) (name : String) (others : List String) :
    Except Fault Unit :=
  if lazily || isKnown then .ok ()
  else .error (if others.contains name then .uncoveredTemplate else .malformedTemplate)

namespace Expr

mutual

/-- Screens an expression. What it applies is screened before what that is applied to. -/
def screen (lazily : Bool) (e : Expr) : Except Fault Unit :=
  match e.constant? with
  | some o => screenObject o
  | none =>
    match e with
    | .variable _ | .literal _ | .halves _ => .ok ()
    | .member e _ | .negation e | .signed _ e => screen lazily e
    | .element e f => do
      screen lazily e
      screen lazily f
    | .filter e name operands => do
      screenKnown lazily (Filter.ofName? name).isSome name Filter.others
      screen lazily e
      screenAll lazily operands
    | .comparison e name operands => do
      screenKnown lazily (name = comparisonName) name otherComparisons
      screen lazily e
      screenAll lazily operands

/-- Screens expressions in order. -/
def screenAll (lazily : Bool) : List Expr → Except Fault Unit
  | [] => .ok ()
  | e :: es => do
    screen lazily e
    screenAll lazily es

end

end Expr

namespace Node

mutual

/-- Screens a part. -/
def screen (lazily : Bool) : Node → Except Fault Unit
  | .literal _ => .ok ()
  | .output e => e.screen lazily
  | .loop name items body otherwise => do
    if name = "loop" || (usesOfAll body ++ usesOfAll otherwise).contains (.given "loop") then
      throw .malformedTemplate
    items.screen lazily
    screenAll false body
    screenAll false otherwise
  | .choice test body _ otherwise => do
    test.screen true
    screenAll true body
    screenAll true otherwise

/-- Screens parts in order. -/
def screenAll (lazily : Bool) : List Node → Except Fault Unit
  | [] => .ok ()
  | node :: nodes => do
    node.screen lazily
    screenAll lazily nodes

end

end Node

end SourceLayout.Template
