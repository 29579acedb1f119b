import SourceLayout.Template.Scope

/-! What expressions stand for.  What a template names and does not find is no fault until it is
used. -/

namespace SourceLayout.Template

/-- The text of an object that is a name with a text. -/
def nameText (s : Setting) (o : Object) : Evaluation Object := do
  if let some kind := o.unhashable? then throw (.unhashable kind)
  match o with
  | .name n =>
    match s.names.get? n with
    | some text => return .textOf n text
    | none => throw (.unassigned n)
  | o => throw (.nameless (← o.display s.registry))

/-- The filters that there are. -/
inductive Filter where
  | name
  | length
deriving DecidableEq, Repr, Inhabited

/-- The filter with a name. -/
def Filter.ofName? : String → Option Filter
  | "name" => some .name
  | "length" | "count" => some .length
  | _ => none

/-- The names of filters that other templates have. -/
def Filter.others : List String :=
  ["abs", "attr", "batch", "capitalize", "center", "d", "default", "dictsort", "e", "escape",
   "filesizeformat", "first", "float", "forceescape", "format", "groupby", "indent", "int", "items",
   "join", "last", "list", "lower", "map", "max", "min", "pprint", "random", "reject", "rejectattr",
   "replace", "reverse", "round", "safe", "select", "selectattr", "slice", "sort", "string",
   "striptags", "sum", "title", "tojson", "trim", "truncate", "unique", "upper", "urlencode",
   "urlize", "wordcount", "wordwrap", "xmlattr"]

/-- A filter on an argument. -/
def Filter.apply (s : Setting) (argument : Object) : Filter → Evaluation Object
  | .name => do nameText s (← argument.use)
  | .length => do
    return .number (← (← argument.use).length s.registry) (← Evaluation.newOrigin)

/-- How a filter is used. -/
def Filter.usage : Filter → Usage
  | .name => .nameText
  | .length => .length

/-- The filter with a name on an argument and further operands, of which none takes any. -/
def filtered (s : Setting) (argument : Object) (name : String) (operands : List Object) :
    Evaluation Object :=
  match Filter.ofName? name, operands with
  | some f, [] => f.apply s argument
  | some f, operands => throw (.operandsSurplus f.usage (operands.length + 1))
  | none, _ =>
    throw (if Filter.others.contains name then .uncoveredTemplate else .unknownFilter name)

/-- The name of the only comparison that there is. -/
def comparisonName : String := "if_eq"

/-- The names of comparisons that other templates have. -/
def otherComparisons : List String :=
  ["boolean", "callable", "defined", "divisibleby", "eq", "equalto", "escaped", "even", "false",
   "filter", "float", "ge", "greaterthan", "gt", "in", "integer", "iterable", "le", "lessthan",
   "lower", "lt", "mapping", "ne", "none", "number", "odd", "sameas", "sequence", "string", "test",
   "true", "undefined", "upper"]

/-- The comparison with a name of an argument with operands, of which there must be one. -/
def compared (argument : Object) (name : String) (operands : List Object) : Evaluation Object :=
  if name = comparisonName then
    match operands with
    | [other] => do return .truth ((← argument.use).equal (← other.use))
    | [] => throw .operandMissing
    | operands => throw (.operandsSurplus .comparison (operands.length + 1))
  else
    throw (if otherComparisons.contains name then .uncoveredTemplate else .unknownComparison name)

/-- A sign in front of an object, which must be a number. -/
def NumberSign.applyTo (sign : NumberSign) (o : Object) : Evaluation Object := do
  match sign, o, o.number? with
  | .plus, .number n origin, _ => return .number n origin
  | sign, _, some n => return .number (sign.apply n) (← Evaluation.newOrigin)
  | sign, o, none => throw (.notSigned sign.text o.kindName)

namespace Expr

mutual

/-- What an expression stands for. -/
def eval (s : Setting) (scope : Scope) : Expr → Evaluation Object
  | .variable name => return scope.read name
  | .literal v => do return .ofValue (← Evaluation.newOrigin) v
  | .halves codes => do return .halves codes (← Evaluation.newOrigin)
  | .member e key => do (← eval s scope e).member s.registry key
  | .element e f => do
    let owner ← eval s scope e
    let index ← eval s scope f
    owner.element s.registry index
  | .filter e name operands => do
    let argument ← eval s scope e
    filtered s argument name (← evalAll s scope operands)
  | .comparison e name operands => do
    let argument ← eval s scope e
    compared argument name (← evalAll s scope operands)
  | .negation e => do return .truth !(← (← (← eval s scope e).use).isTrue s.registry)
  | .signed sign e => do sign.applyTo (← (← eval s scope e).use)

/-- What expressions stand for, in order. -/
def evalAll (s : Setting) (scope : Scope) : List Expr → Evaluation (List Object)
  | [] => return []
  | e :: es => do
    let o ← eval s scope e
    let os ← evalAll s scope es
    return o :: os

end

/-- What an expression without variables stands for, if it is no fault. -/
def fixed? (e : Expr) : Option Object :=
  if e.reads.isEmpty then
    match (e.eval {} []).run {} with
    | .ok (o, _) => some o
    | .error _ => none
  else none

/-- What an expression without variables stands for, if that is plain. -/
def constant? (e : Expr) : Option Object := e.fixed?.filter (·.isPlain)

end Expr

end SourceLayout.Template
