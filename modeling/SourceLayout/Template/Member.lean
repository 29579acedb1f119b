import SourceLayout.Index
import SourceLayout.Template.Attribute

/-! Members and elements of objects.  A member is looked up among the attributes of an object first
and among its elements then; an element the other way around.  What is not found stands for
nothing. -/

namespace SourceLayout.Template

namespace Object

/-- The text of a name that is written so. -/
def textOf (n : Name) (s : String) : Object :=
  .text s (.ofName n.id (if s = n.proposed then "proposed" else "assigned"))

/-- The kinds that can be given parameters. -/
def parametrisedKinds : List String := ["dict", "list", "mappingproxy", "tuple", "type"]

/-- The kind with an index as its parameter; a tuple is all parameters. -/
def parametrised (k : Kind) (index : Object) : Evaluation Object := do
  let origin ← Evaluation.newOrigin
  match index with
  | .tuple items _ => return .variant k items false origin
  | o => return .variant k [o] false origin

/-- The object looks up an index by key, so that an index that is nothing is at once a fault. -/
def isKeyed : Object → Bool
  | .dict _ _ | .view _ _ _ | .assignment _ | .template | .context => true
  | .type k => k = .assignment
  | _ => false

/-- The item of a list at an index. -/
def item? {α : Type} (items : List α) (index : Object) : Option α := do
  let place ← placeOf? items.length (← index.number?)
  items[place]?

/-- The element of an object at an index, if there is one. -/
def element? (o index : Object) : Evaluation (Option Object) := do
  if o.isKeyed then let _ ← index.use
  match o, index with
  | .undefined fault _ _, _ => throw fault
  | .dict es _, .text key _ | .view _ es _, .text key _ => return es.lookup key
  | .context, .text key _ => return (← get).known.lookup key
  | .assignment a, .name n => return (a.get? n).map (textOf n)
  | .type k, index =>
    if k.isBuiltIn && parametrisedKinds.contains k.name then return some (← parametrised k index)
    else return none
  | .text s _, index => (item? (Text.codes s) index).mapM ofCode
  | .halves codes _, index => (item? codes index).mapM ofCode
  | .list items _, index | .tuple items _, index => return item? items index
  | .foreign v, index =>
    match v with
    | .vector vs => return (item? vs index).map (ofValue (← Evaluation.newOrigin))
    | _ => return none
  | _, _ => return none

/-- What stands for the nothing under a key of an owner. -/
def lacking (r : Registry) (o key : Object) : Evaluation Object := do
  let shown ← key.display r
  let fault : Fault :=
    match o, key with
    | .missing, _ => .missingOwner shown
    | o, .text _ _ | o, .halves _ _ => .missingAttribute o.ownerName shown
    | o, _ => .missingElement o.ownerName shown
  return .undefined fault o key

/-- What stands under a key after a point. -/
def member (r : Registry) (o : Object) (key : String) : Evaluation Object := do
  match ← o.attribute? r key with
  | some found => return found
  | none =>
    let key : Object := .text key .shared
    match ← o.element? key with
    | some found => return found
    | none => o.lacking r key

/-- What stands at an index in brackets. -/
def element (r : Registry) (o index : Object) : Evaluation Object := do
  match ← o.element? index, index with
  | some found, _ => return found
  | none, .text key _ =>
    match ← o.attribute? r key with
    | some found => return found
    | none => o.lacking r index
  | none, index => o.lacking r index

end Object

/-- The objects that a template knows by name without any variable: kinds and a function. -/
def globalObjects : List (String × Object) :=
  [("range", .type ⟨"range", "builtins"⟩), ("dict", .type ⟨"dict", "builtins"⟩),
   ("lipsum", .routine ⟨.function, ⟨"", "jinja2.utils"⟩, "generate_lorem_ipsum"⟩),
   ("cycler", .type .cycler), ("joiner", .type .joiner), ("namespace", .type .attributeBag)]

end SourceLayout.Template
