import SourceLayout.Fragment
import SourceLayout.Naming.Assignment

/-! The loose values that an emitter passes.  Texts, names, fragments, and ordered collections of
these stand for output; the other values do not, and are refused where output is wanted. -/

namespace SourceLayout

/-- A value as an emitter passes it.  A `tuple` and a `vector` are ordered like a `list`; a `dict`
keeps its entries in their order. -/
inductive Value where
  | str (s : String)
  | int (n : Int)
  | bool (b : Bool)
  | none
  | name (n : Name)
  | list (items : List Value)
  | tuple (items : List Value)
  | vector (items : List Value)
  | set (items : List Value)
  | dict (entries : List (String × Value))
  | assignment (a : Assignment)
  | fragment (f : Fragment Value)
deriving Inhabited

/-- A tree of output over the values that emitters pass. -/
abbrev Tree := Fragment Value

namespace Value

/-- The value as a child that is taken unchanged: a fragment is itself, and any other value is
foreign. -/
def asChild : Value → Tree
  | .fragment f => f
  | v => .foreign v

/-- The value counts as true: all but the empty, zero, false and missing ones. -/
def truth : Value → Bool
  | .str s => !s.isEmpty
  | .int n => n ≠ 0
  | .bool b => b
  | .none => false
  | .name _ | .fragment _ => true
  | .list vs | .tuple vs | .vector vs | .set vs => !vs.isEmpty
  | .dict es => !es.isEmpty
  | .assignment a => a.size ≠ 0

/-- The elements of a value that has some: the characters of a text, the items of a collection, the
keys of a dictionary, the names of an assignment. -/
def elements? : Value → Option (List Value)
  | .str s => some (s.toList.map fun c => .str (String.singleton c))
  | .list vs | .tuple vs | .vector vs | .set vs => some vs
  | .dict es => some (es.map fun entry => .str entry.1)
  | .assignment a => some (a.names.map .name)
  | .int _ | .bool _ | .none | .name _ | .fragment _ => Option.none

/-- The number of elements of a value that has some. -/
def length? : Value → Option Nat
  | .str s => some s.length
  | .list vs | .tuple vs | .vector vs | .set vs => some vs.length
  | .dict es => some es.length
  | .assignment a => some a.size
  | .int _ | .bool _ | .none | .name _ | .fragment _ => Option.none

/-- What kind of value it is, in one word. -/
def kind : Value → String
  | .str _ => "str"
  | .int _ => "int"
  | .bool _ => "bool"
  | .none => "NoneType"
  | .name n => if n.fixed then "FixedName" else "Name"
  | .list _ => "list"
  | .tuple _ => "tuple"
  | .vector _ => "PVector"
  | .set _ => "set"
  | .dict _ => "dict"
  | .assignment _ => "PMap"
  | .fragment f =>
    match f with
    | .text _ => "TextSource"
    | .newline _ => "NewlineSource"
    | .pending _ => "PendingNewline"
    | .name _ => "NameSource"
    | .seq _ => "SequenceSource"
    | .table _ => "TableSource"
    | .marked _ _ => "AnnotatedSource"
    | .foreign _ => "object"

end Value

end SourceLayout
