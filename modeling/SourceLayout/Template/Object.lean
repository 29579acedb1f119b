import SourceLayout.Naming.Namespace
import SourceLayout.Template.Vocabulary
import SourceLayout.Text.Codes
import SourceLayout.Value.Equality

/-! What a template works with.  Besides the values of its variables these are the namespaces that
names lead to, the loops around a place, the template itself, and the kinds of all these with their
entries; and an object that stands for nothing, which is a fault once it is used.  An object has an
origin, by which it is told apart from equal ones. -/

namespace SourceLayout.Template

/-- Where an object comes from: equal objects are one object, it is the value of a variable, it is
at a place in another, it belongs to a name, a namespace, a kind, a loop or the template, or it was
made while rendering. -/
inductive Origin where
  | shared
  | variable (name : String)
  | part (whole : Origin) (place : Nat)
  | ofName (id : Nat) (key : String)
  | ofGroup (id : NamespaceId) (key : String)
  | ofKind (k : Kind) (key : String)
  | ofLoop (place : Nat)
  | ofTemplate
  | made (number : Nat)
deriving DecidableEq, Repr, Inhabited

/-- An entry of a kind that is no constant, as an object of its own. A function outside of kinds has
a home without a name. -/
structure Routine where
  sort : EntrySort
  home : Kind
  name : String
deriving DecidableEq, Repr, Inhabited

/-- What an expression stands for. A `halves` text is no `String`; a `loop` and the `stock` that a
loop takes its items from, which is of a kind of its own, are given by the loop's place; the
`context` is what the template is rendered in; the entries of a `view` are those of a kind; a
`bound` entry belongs to an owner; a `variant` is a kind with parameters, which may be starred.
What is `undefined` was looked for under a key of an owner, and its use is a fault. -/
inductive Object where
  | nothing
  | truth (b : Bool)
  | number (n : Int) (origin : Origin)
  | text (s : String) (origin : Origin)
  | halves (codes : List Nat) (origin : Origin)
  | name (n : Name)
  | group (id : NamespaceId)
  | assignment (a : Assignment)
  | list (items : List Object) (origin : Origin)
  | tuple (items : List Object) (origin : Origin)
  | dict (entries : List (String × Object)) (origin : Origin)
  | foreign (v : Value)
  | loop (place : Nat)
  | stock (place : Nat) (k : Kind)
  | template
  | context
  | missing
  | type (k : Kind)
  | view (k : Kind) (entries : List (String × Object)) (origin : Origin)
  | routine (r : Routine)
  | bound (r : Routine) (owner : Object) (origin : Origin)
  | variant (k : Kind) (parameters : List Object) (starred : Bool) (origin : Origin)
  | undefined (fault : Fault) (owner key : Object)
deriving Inhabited

/-! ### Routines -/

namespace Routine

/-- The name of the routine after the kind that it is defined in. -/
def qualified (r : Routine) : String :=
  if r.home.name.isEmpty then r.name else r.home.name ++ "." ++ r.name

/-- The kind of the routine, as it stands in its kind. -/
def kind (r : Routine) : Kind :=
  match r.sort with
  | .operation => ⟨"wrapper_descriptor", "builtins"⟩
  | .routine => ⟨"method_descriptor", "builtins"⟩
  | .kindRoutine => ⟨"classmethod_descriptor", "builtins"⟩
  | .fact => ⟨"getset_descriptor", "builtins"⟩
  | .part => ⟨"member_descriptor", "builtins"⟩
  | .property => ⟨"property", "builtins"⟩
  | .looseRoutine | .looseFunction => ⟨"staticmethod", "builtins"⟩
  | .kindFunction => ⟨"classmethod", "builtins"⟩
  | .maker | .function | .constant => ⟨"function", "builtins"⟩

/-- The kind of the routine when it is bound to an owner. -/
def boundKind (r : Routine) : Kind :=
  match r.sort with
  | .operation => ⟨"method-wrapper", "builtins"⟩
  | .function | .kindFunction => ⟨"method", "builtins"⟩
  | _ => ⟨"builtin_function_or_method", "builtins"⟩

/-- The routine is defined, not built in. -/
def isFunction (r : Routine) : Bool := r.sort = .function || r.sort = .kindFunction

/-- The routine that does the work: some routines of numbers are one and the same. -/
def doing (r : Routine) : Routine :=
  if r.home = ⟨"int", "builtins"⟩ && ["__ceil__", "__floor__", "__trunc__"].contains r.name then
    { r with name := "conjugate" }
  else r

end Routine

namespace Object

/-! ### Values as objects -/

mutual

/-- The value as an object. -/
def ofValue (origin : Origin) : Value → Object
  | .str s => .text s origin
  | .int n => .number n origin
  | .bool b => .truth b
  | .none => .nothing
  | .name n => .name n
  | .list vs => .list (ofValues origin 0 vs) origin
  | .tuple vs => .tuple (ofValues origin 0 vs) origin
  | .dict es => .dict (ofEntries origin 0 es) origin
  | .assignment a => .assignment a
  | v => .foreign v

/-- The values as objects, which are parts of a whole from a place on. -/
def ofValues (whole : Origin) (place : Nat) : List Value → List Object
  | [] => []
  | v :: vs => ofValue (.part whole place) v :: ofValues whole (place + 1) vs

/-- The entries with their values as objects, which are parts of a whole from a place on. -/
def ofEntries (whole : Origin) (place : Nat) : List (String × Value) → List (String × Object)
  | [] => []
  | (key, v) :: es =>
    (key, ofValue (.part whole place) v) :: ofEntries whole (place + 1) es

end

/-- The text that code points make up, as an object. -/
def ofCodes (origin : Origin) (codes : List Nat) : Object :=
  match Text.ofCodes? codes with
  | some s => .text s origin
  | none => .halves codes origin

/-- The text or nothing. -/
def ofText? (origin : Origin) (s? : Option String) : Object := s?.elim .nothing (.text · origin)

/-! ### Kinds -/

/-- The kind of an object. -/
def kind : Object → Kind
  | .nothing => ⟨"NoneType", "builtins"⟩
  | .truth _ => ⟨"bool", "builtins"⟩
  | .number _ _ => ⟨"int", "builtins"⟩
  | .text _ _ | .halves _ _ => ⟨"str", "builtins"⟩
  | .name n => if n.fixed then .fixedName else .freeName
  | .group _ => .group
  | .assignment _ => .assignment
  | .list _ _ => ⟨"list", "builtins"⟩
  | .tuple _ _ => ⟨"tuple", "builtins"⟩
  | .dict _ _ => ⟨"dict", "builtins"⟩
  | .foreign v => ⟨v.kind, "builtins"⟩
  | .loop _ => .loop
  | .stock _ k => k
  | .template => .template
  | .context => .context
  | .missing => .missing
  | .type _ => .type
  | .view _ _ _ => ⟨"mappingproxy", "builtins"⟩
  | .routine r => r.kind
  | .bound r _ _ => r.boundKind
  | .variant _ _ _ _ => .variant
  | .undefined _ _ _ => .undefined

/-- The kind of the stock of items that an object is gone through with. -/
def stockKind : Object → Kind
  | .text s _ =>
    if s.toList.all (·.toNat < 128) then ⟨"str_ascii_iterator", "builtins"⟩
    else ⟨"str_iterator", "builtins"⟩
  | .halves _ _ => ⟨"str_iterator", "builtins"⟩
  | .tuple _ _ => ⟨"tuple_iterator", "builtins"⟩
  | .dict _ _ | .view _ _ _ => ⟨"dict_keyiterator", "builtins"⟩
  | .assignment _ => ⟨"generator", "builtins"⟩
  | .variant _ _ _ _ => ⟨"generic_alias_iterator", "builtins"⟩
  | _ => ⟨"list_iterator", "builtins"⟩

/-- The kind of an object, as faults of a use name it. -/
def kindName (o : Object) : String := o.kind.shortName

/-- An object as the owner of what it does not have. -/
def ownerName : Object → String
  | .nothing => "None"
  | o => o.kind.qualified ++ " object"

/-- The number that an object stands for, if it is one. -/
def number? : Object → Option Int
  | .number n _ => some n
  | .truth b => some (if b then 1 else 0)
  | _ => none

/-- The object, for a use that needs one. -/
def use : Object → Except Fault Object
  | .undefined fault _ _ => .error fault
  | o => .ok o

/-! ### The same object -/

/-- There is only one object for the number. -/
def isSharedNumber (n : Int) : Bool := -5 ≤ n && n ≤ 256

/-- There is only one object for the text. -/
def isSharedText (s : String) : Bool :=
  match s.toList with
  | [] => true
  | [c] => c.toNat < 256
  | _ => false

/-- The objects are one object. -/
def same : Object → Object → Bool
  | .nothing, .nothing | .template, .template | .context, .context | .missing, .missing => true
  | .truth a, .truth b => a = b
  | .number m o, .number n p => m = n && (isSharedNumber m || o = p)
  | .text s o, .text t p => s = t && (isSharedText s || o = p)
  | .halves _ o, .halves _ p | .list _ o, .list _ p | .dict _ o, .dict _ p
  | .view _ _ o, .view _ _ p | .bound _ _ o, .bound _ _ p
  | .variant _ _ _ o, .variant _ _ _ p => o = p
  | .tuple os o, .tuple ps p => os.isEmpty && ps.isEmpty || o = p
  | .name m, .name n => m = n
  | .group a, .group b => a = b
  | .assignment a, .assignment b => a = b
  | .loop a, .loop b | .stock a _, .stock b _ => a = b
  | .type k, .type l => k = l
  | .routine r, .routine other => r = other
  | _, _ => false

/-! ### Equality -/

mutual

/-- The objects are equal: texts, numbers and collections by what they hold, bound routines by their
owners, and all else only if it is the same. -/
def equal : Object → Object → Bool
  | .text s _, .text t _ => s = t
  | .halves s _, .halves t _ => s = t
  | .list os _, .list ps _ | .tuple os _, .tuple ps _ => equalAll os ps
  | .dict es _, .dict fs _ => es.length = fs.length && equalEntries es fs
  | .dict es _, .view _ fs _ | .view _ es _, .dict fs _ | .view _ es _, .view _ fs _ =>
    es.length = fs.length && equalEntries es fs
  | .assignment a, .assignment b => Value.equal (.assignment a) (.assignment b)
  | .assignment a, .dict es _ | .dict es _, .assignment a => a.size = 0 && es.isEmpty
  | .foreign v, .foreign w => v.equal w
  | .bound r o _, .bound other p _ => r.doing = other.doing && o.same p
  | .variant k os starred _, .variant l ps other _ => k = l && starred = other && equalAll os ps
  | o, p =>
    match o.number?, p.number? with
    | some m, some n => m = n
    | _, _ => o.same p

/-- The lists hold equal objects at the same places. -/
def equalAll : List Object → List Object → Bool
  | [], [] => true
  | o :: os, p :: ps => equal o p && equalAll os ps
  | _, _ => false

/-- The second list of entries gives every key of the first an equal object. -/
def equalEntries : List (String × Object) → List (String × Object) → Bool
  | [], _ => true
  | (key, o) :: es, fs => (fs.lookup key).any (equal o) && equalEntries es fs

end

/-! ### Parts -/

mutual

/-- The kind of the first object, this one or in it, that can be no key. -/
def unhashable? : Object → Option String
  | .list _ _ => some "list"
  | .dict _ _ => some "dict"
  | .view _ _ _ => some "mappingproxy"
  | .tuple items _ | .variant _ items _ _ => unhashableAmong? items
  | .foreign v => v.unhashable?
  | _ => none

/-- The kind of the first among objects that can be no key. -/
def unhashableAmong? : List Object → Option String
  | [] => none
  | o :: os => (unhashable? o).or (unhashableAmong? os)

end

mutual

/-- The object is written in a template as it is shown. -/
def isPlain : Object → Bool
  | .nothing | .truth _ | .number _ _ | .text _ _ | .halves _ _ => true
  | .list items _ | .tuple items _ => allPlain items
  | .dict es _ => allPlainEntries es
  | _ => false

/-- The objects are all written as they are shown. -/
def allPlain : List Object → Bool
  | [] => true
  | o :: os => isPlain o && allPlain os

/-- The entries are all written as they are shown. -/
def allPlainEntries : List (String × Object) → Bool
  | [] => true
  | (_, o) :: es => isPlain o && allPlainEntries es

end

mutual

/-- The loops that are shown when the object is shown, by place. -/
def loops : Object → List Nat
  | .loop place => [place]
  | .list items _ | .tuple items _ | .variant _ items _ _ => loopsOfAll items
  | .dict es _ => loopsOfEntries es
  | .bound r o _ => if r.isFunction then loops o else []
  | _ => []

/-- The loops that are shown with the objects. -/
def loopsOfAll : List Object → List Nat
  | [] => []
  | o :: os => loops o ++ loopsOfAll os

/-- The loops that are shown with the entries. -/
def loopsOfEntries : List (String × Object) → List Nat
  | [] => []
  | (_, o) :: es => loops o ++ loopsOfEntries es

end

end Object

end SourceLayout.Template
