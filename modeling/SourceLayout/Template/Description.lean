import SourceLayout.Template.Loop

/-! How objects are shown, whether they count as true, and what they hold.  To show a loop, to test
it or to ask for its length is to count its rounds. -/

namespace SourceLayout.Template

namespace Routine

/-- The routine as faults show it. -/
def describe (r : Routine) : String :=
  let home : String := Text.quoted r.home.shortName
  let ofObjects (word : String) : String :=
    "<" ++ word ++ " " ++ Text.quoted r.name ++ " of " ++ home ++ " objects>"
  match r.sort with
  | .operation => ofObjects "slot wrapper"
  | .routine | .kindRoutine => ofObjects "method"
  | .fact => ofObjects "attribute"
  | .part => ofObjects "member"
  | .property => "<property object>"
  | .looseRoutine | .looseFunction => "<staticmethod(<function " ++ r.qualified ++ ">)>"
  | .kindFunction => "<classmethod(<function " ++ r.qualified ++ ">)>"
  | .maker | .function | .constant => "<function " ++ r.qualified ++ ">"

/-- The routine as faults show it when it is bound to an owner of a kind, which is shown as told. -/
def describeBound (r : Routine) (kind : Kind) (shown : String) : String :=
  let ofObject : String := " of " ++ kind.shortName ++ " object>"
  match r.sort with
  | .operation => "<method-wrapper " ++ Text.quoted r.name ++ ofObject
  | .function | .kindFunction => "<bound method " ++ r.qualified ++ " of " ++ shown ++ ">"
  | _ => "<built-in method " ++ r.name ++ ofObject

end Routine

namespace Object

/-- The object as the parameter of a kind: kinds and functions by their names. -/
def parameterName? : Object → Option String
  | .type k => some k.qualified
  | .routine r => if r.isFunction then some (r.home.home ++ "." ++ r.qualified) else none
  | .bound r _ _ => if r.isFunction then some (r.home.home ++ "." ++ r.qualified) else none
  | _ => none

mutual

/-- The object as faults show it. -/
def describe (r : Registry) (m : Memory) : Object → String
  | .nothing => "None"
  | .truth true => "True"
  | .truth false => "False"
  | .number n _ => toString n
  | .text s _ => Text.quoted s
  | .halves codes _ => Text.quotedCodes codes
  | .name n => n.describe
  | .group id => (r.lookup id).describe
  | .assignment a => a.describe
  | .list items _ => Value.bracketed "[" "]" (describeAll r m items)
  | .tuple items _ => Value.tupled (describeAll r m items)
  | .dict es _ => Value.bracketed "\x7b" "\x7d" (describeEntries r m es)
  | .foreign v => v.describe
  | .loop place =>
    let loop := m.loop place
    "<LoopContext " ++ toString loop.begun ++ "/" ++ toString (loop.total?.getD 0) ++ ">"
  | .stock _ k => "<" ++ k.name ++ " object>"
  | .template => "<TemplateReference None>"
  | .context =>
    "<Context " ++ Value.bracketed "\x7b" "\x7d" (m.known.map (Text.quoted ·.1)) ++ " of None>"
  | .missing => "missing"
  | .type k => "<class " ++ Text.quoted k.qualified ++ ">"
  | .view _ es _ => Value.bracketed "mappingproxy(\x7b" "\x7d)" (describeEntries r m es)
  | .routine entry => entry.describe
  | .bound entry owner _ => entry.describeBound owner.kind (describe r m owner)
  | .variant k [] starred _ => (if starred then "*" else "") ++ k.qualified ++ "[()]"
  | .variant k parameters starred _ =>
    (if starred then "*" else "") ++
      Value.bracketed (k.qualified ++ "[") "]" (describeParameters r m parameters)
  | .undefined _ _ _ => "Undefined"

/-- The objects as faults show them. -/
def describeAll (r : Registry) (m : Memory) : List Object → List String
  | [] => []
  | o :: os => describe r m o :: describeAll r m os

/-- The parameters of a kind as faults show them. -/
def describeParameters (r : Registry) (m : Memory) : List Object → List String
  | [] => []
  | o :: os => o.parameterName?.getD (describe r m o) :: describeParameters r m os

/-- The entries as faults show them. -/
def describeEntries (r : Registry) (m : Memory) : List (String × Object) → List String
  | [] => []
  | (key, o) :: es => (Text.quoted key ++ ": " ++ describe r m o) :: describeEntries r m es

end

/-- The object as faults show it now. -/
def display (r : Registry) (o : Object) : Evaluation String := do
  modify (·.countAll o.loops)
  return o.describe r (← get)

/-- The object as a template writes it, in code points: a text as it is, and a view as a
dictionary. -/
def write (r : Registry) (o : Object) : Evaluation (List Nat) :=
  match o with
  | .text s _ => return Text.codes s
  | .halves codes _ => return codes
  | .view _ es origin => do return Text.codes (← (Object.dict es origin).display r)
  | o => do return Text.codes (← o.display r)

/-- The number of elements of an object, if it has some. -/
def length? (r : Registry) (o : Object) : Evaluation (Option Nat) :=
  match o with
  | .text s _ => return some s.length
  | .halves codes _ => return some codes.length
  | .list items _ | .tuple items _ => return some items.length
  | .dict es _ | .view _ es _ => return some es.length
  | .group id => return some (r.lookup id).members.length
  | .assignment a => return some a.size
  | .foreign v => return v.length?
  | .loop place => do return some (← Evaluation.countRounds place)
  | _ => return none

/-- The number of elements of an object, for a use that needs it. -/
def length (r : Registry) (o : Object) : Evaluation Nat := do
  match ← o.length? r with
  | some n => return n
  | none => throw (.noLength o.kindName)

/-- The object counts as true. -/
def isTrue (r : Registry) (o : Object) : Evaluation Bool :=
  match o with
  | .nothing => return false
  | .truth b => return b
  | .number n _ => return n ≠ 0
  | .foreign v => return v.truth
  | o => do return (← o.length? r) ≠ some 0

/-- A character as an object. -/
def ofCode (code : Nat) : Evaluation Object := do return ofCodes (← Evaluation.newOrigin) [code]

/-- The keys as objects. -/
def ofKeys (es : List (String × Object)) : List Object := es.map fun entry => .text entry.1 .shared

/-- The elements of an object, in order. The template and its context look them up by number, and
have none; a parametrised kind has one, itself with a star. -/
def supply (r : Registry) (o : Object) : Evaluation Supply :=
  match o with
  | .text s _ => do return .items (← (Text.codes s).mapM ofCode)
  | .halves codes _ => do return .items (← codes.mapM ofCode)
  | .list items _ | .tuple items _ => return .items items
  | .dict es _ | .view _ es _ => return .items (ofKeys es)
  | .group id => return .items ((r.lookup id).members.map .name)
  | .assignment a => return .items (a.names.map .name)
  | .loop place => return .rounds place
  | .stock place _ => return .stock place
  | .variant k parameters _ _ => do
    return .items [.variant k parameters true (← Evaluation.newOrigin)]
  | .template | .context => throw (.noSuchBlock "0")
  | .foreign v =>
    match v.elements? with
    | some vs => do return .items (ofValues (← Evaluation.newOrigin) 0 vs)
    | none => throw (.notIterable o.kindName)
  | o => throw (.notIterable o.kindName)

end Object

end SourceLayout.Template
