import SourceLayout.Template.Description
import SourceLayout.Template.Manual

/-! Attributes of objects.  Under a key an object has what its kind's entry there gives it: a fact
that is worked out, a bound routine, or a constant; and it can have attributes of its own, which
come before all entries but facts.  A kind has its own entries as they are. -/

namespace SourceLayout.Template

/-! ### Entries as objects -/

/-- The functions that the kind of what stands for nothing has; all others of its keys have one
function in common. -/
def lenientFunctions : List String :=
  ["__init__", "_fail_with_undefined_error", "__getattr__", "__eq__", "__ne__", "__hash__",
   "__str__", "__len__", "__iter__", "__aiter__", "__bool__", "__repr__"]

/-- The entry of a kind as a routine; some routines stand under several keys. -/
def Routine.ofEntry (home : Kind) (sort : EntrySort) (key : String) : Routine :=
  let shared : Kind × String :=
    if home = .undefined || home = .lenientUndefined && sort = .function
        && !lenientFunctions.contains key then
      (.lenientUndefined, "_fail_with_undefined_error")
    else if home = .assignment then
      match key with
      | "__le__" | "__gt__" | "__ge__" => (home, "__lt__")
      | "__or__" => (home, "__add__")
      | "get" => (⟨"Mapping", "collections.abc"⟩, key)
      | "__ne__" => (.object, key)
      | _ => (home, key)
    else if home = .cycler && key = "__next__" then (home, "next")
    else (home, key)
  ⟨sort, shared.1, shared.2⟩

namespace Kind

/-- The constant of a kind under a key. -/
def constant (k : Kind) (key : String) : Object :=
  let text (s : String) : Object := .text s (.ofKind k key)
  match key with
  | "__module__" => text k.home
  | "__doc__" => Object.ofText? (.ofKind k key) ((Manual.ofKind? k key).bind (·.text?))
  | "fixed" => .truth (k = fixedName)
  | "index0" => .number (-1) .shared
  | "_after" | "_before" | "_current" | "_last_changed_value" => .missing
  | "_is_protocol" => .truth false
  | "__slots__" =>
    if k = assignment then
      .tuple (["_size", "_buckets", "__weakref__", "_cached_hash"].map (.text · .shared))
        (.ofKind k key)
    else .tuple [] .shared
  | _ => .nothing

/-- The entry of a kind as it stands there. -/
def entryObject (k : Kind) (sort : EntrySort) (key : String) : Object :=
  match sort with
  | .constant => k.constant key
  | .maker => .bound ⟨sort, k, key⟩ (.type k) (.ofKind k key)
  | sort => .routine (.ofEntry k sort key)

/-- The entries of a kind, to look at. -/
def view (k : Kind) : Evaluation Object := do
  let entries := k.entries.map fun (key, sort) => (key, k.entryObject sort key)
  return .view k entries (← Evaluation.newOrigin)

/-- The entry that a kind has from a kind in its lineage. -/
def entryFrom (k home : Kind) (sort : EntrySort) (key : String) : Evaluation Object := do
  match sort with
  | .kindRoutine | .kindFunction =>
    return .bound (.ofEntry home sort key) (.type k) (← Evaluation.newOrigin)
  | .looseRoutine => return .bound ⟨sort, home, key⟩ (.type home) (.ofKind home key)
  | .looseFunction => return .routine ⟨.function, home, key⟩
  | sort => return home.entryObject sort key

end Kind

namespace Routine

/-- What the routine says of itself. -/
def advice? (r : Routine) : Option Advice :=
  if r.sort = .operation then Manual.ofOperation? r.name else Manual.ofKind? r.home r.name

/-- The values that operands of a function have when they are not given. -/
def defaults (r : Routine) : Object :=
  let of (objects : List Object) : Object := .tuple objects (.ofKind r.home r.name)
  let number (n : Int) : Object := .number n .shared
  match r.home, r.name with
  | ⟨"", _⟩, "generate_lorem_ipsum" => of [number 5, .truth true, number 20, number 100]
  | ⟨"Mapping", _⟩, "get" | ⟨"Context", _⟩, "get" | ⟨"Context", _⟩, "derived"
  | ⟨"Context", _⟩, "__init__" => of [.nothing]
  | ⟨"Namespace", "codegen_renderer.naming"⟩, "__init__" => of [.tuple [] .shared]
  | ⟨"Joiner", _⟩, "__init__" => of [.text ", " .shared]
  | ⟨"LoopContext", _⟩, "__init__" => of [.nothing, number 0]
  | ⟨"Undefined", _⟩, "__init__" => of [.nothing, .missing, .nothing, .type .undefinedFault]
  | _, _ => .nothing

end Routine

namespace Object

/-- The entry under a key that an object has from its kind, bound to the object. -/
def bindEntry (o : Object) (home : Kind) (sort : EntrySort) (key : String) : Evaluation Object := do
  match sort with
  | .operation | .routine | .function =>
    return .bound (.ofEntry home sort key) o (← Evaluation.newOrigin)
  | sort => o.kind.entryFrom home sort key

/-! ### Attributes of its own -/

/-- The namespace of a name, or nothing. -/
def groupOf (r : Registry) (n : Name) : Object := (r.ownerId? n).elim .nothing .group

/-- The text that a name proposes. -/
def proposal (n : Name) : Object := .text n.proposed (.ofName n.id "proposed")

/-- The attributes of a namespace that are its own. -/
def ofGroup (r : Registry) (id : NamespaceId) : List (String × Object) :=
  let s := r.lookup id
  [("label", .text s.label (.ofGroup id "label")),
   ("forbidden", .tuple (s.forbidden.map .group) (.ofGroup id "forbidden")),
   ("_members", .list (s.members.map .name) (.ofGroup id "_members")),
   ("_sealed", .truth s.sealed)]

/-- The attributes of the loop at a place that are its own. -/
def ofLoop (m : Memory) (place : Nat) : List (String × Object) :=
  let loop := m.loop place
  let number (n : Int) : Object := .number n .shared
  let listStock : Kind := ⟨"list_iterator", "builtins"⟩
  let stock : Object :=
    match loop.source with
    | .loop other => .loop other
    | .stock other k => if loop.total?.isSome then .stock place listStock else .stock other k
    | source =>
      .stock place (if loop.size?.isNone && loop.total?.isSome then listStock else source.stockKind)
  let begun : List (String × Object) :=
    if loop.begun = 0 then []
    else
      [("index0", number (loop.begun - 1)), ("_before", loop.previous?.getD .missing),
       ("_current", loop.current?.getD .missing)]
  [("_iterable", loop.source), ("_iterator", stock), ("_undefined", .type .undefined),
   ("_recurse", .nothing), ("depth0", number 0)] ++ begun ++
    (if loop.hasLookedAhead then [("_after", loop.ahead?.getD .missing)] else []) ++
    loop.total?.toList.map fun (total : Nat) => ("_length", number total)

/-- The attributes of the context that are its own. -/
def ofContext (m : Memory) : List (String × Object) :=
  let origin (place : Nat) : Origin := .part .ofTemplate place
  [("parent", .dict m.known (origin 0)), ("vars", .dict [] (origin 1)),
   ("exported_vars", .foreign (.set [])), ("name", .nothing), ("blocks", .dict [] (origin 2))]

/-- The attributes that are the object's own. -/
def ownAttributes (r : Registry) (m : Memory) : Object → List (String × Object)
  | .name n => [("proposed", proposal n), ("_namespace", groupOf r n)]
  | .group id => ofGroup r id
  | .loop place => ofLoop m place
  | .template => [("_TemplateReference__context", .context)]
  | .context => ofContext m
  | _ => []

/-- The object's own attributes as a dictionary. -/
def ownDictionary (r : Registry) (o : Object) : Evaluation Object := do
  let origin ← match o with
    | .name n => pure (Origin.ofName n.id "__dict__")
    | .group id => pure (Origin.ofGroup id "__dict__")
    | .loop place => pure (Origin.ofLoop place)
    | .template => pure Origin.ofTemplate
    | _ => Evaluation.newOrigin
  return .dict (o.ownAttributes r (← get)) origin

/-! ### Facts -/

/-- The fact under a key about a number. -/
def numberFact? (n : Int) (origin : Origin) (key : String) : Option Object :=
  match key with
  | "real" | "numerator" => some (.number n origin)
  | "imag" => some (.number 0 .shared)
  | "denominator" => some (.number 1 .shared)
  | _ => none

/-- The fact under a key about the loop at a place. -/
def loopFact? (place : Nat) (key : String) : Evaluation (Option Object) := do
  let number (n : Int) : Evaluation (Option Object) := do
    return some (.number n (← Evaluation.newOrigin))
  let begun := ((← get).loop place).begun
  match key with
  | "index" => number begun
  | "length" => number (← Evaluation.countRounds place)
  | "revindex" => number ((← Evaluation.countRounds place) - (begun - 1 : Int))
  | "revindex0" => number ((← Evaluation.countRounds place) - (begun : Int))
  | "depth" => number 1
  | "first" => return some (.truth (begun = 1))
  | "last" => return some (.truth (← Evaluation.lookAhead place).isNone)
  | "previtem" =>
    if begun = 1 then return some (.undefined .noPreviousItem .missing .nothing)
    else return some (((← get).loop place).previous?.getD .missing)
  | "nextitem" =>
    return some ((← Evaluation.lookAhead place).getD (.undefined .noNextItem .missing .nothing))
  | _ => return none

/-- The fact under a key about a function. -/
def functionFact? (r : Routine) (key : String) : Option Object :=
  match key with
  | "__name__" => some (.text r.name (.ofKind r.home r.name))
  | "__qualname__" => some (.text r.qualified (.ofKind r.home r.qualified))
  | "__module__" => some (.text r.home.home (.ofKind r.home "__module__"))
  | "__doc__" => some (ofText? (.ofKind r.home r.qualified) (r.advice?.bind (·.text?)))
  | "__defaults__" => some r.defaults
  | "__kwdefaults__" | "__closure__" => some .nothing
  | "__dict__" => some (.dict [] (.ofKind r.home r.qualified))
  | _ => none

/-- The fact under a key about an entry of a kind. -/
def entryFact? (r : Routine) (key : String) : Evaluation (Option Object) := do
  let doer : Object := .routine { r with sort := .function }
  match r.sort, key with
  | .function, key => return functionFact? r key
  | .property, "fget" => return some doer
  | .property, "fset" | .property, "fdel" => return some .nothing
  | .looseFunction, "__func__" | .looseFunction, "__wrapped__" | .kindFunction, "__func__"
  | .kindFunction, "__wrapped__" => return some doer
  | .looseRoutine, "__func__" | .looseRoutine, "__wrapped__" =>
    return some (.bound r (.type r.home) (.ofKind r.home r.name))
  | _, "__isabstractmethod__" => return some (.truth false)
  | _, "__objclass__" => return some (.type r.home)
  | _, "__name__" => return some (.text r.name (.ofKind r.home r.name))
  | _, "__qualname__" => return some (.text r.qualified (.ofKind r.home r.qualified))
  | _, "__doc__" => return some (ofText? (← Evaluation.newOrigin) (r.advice?.bind (·.text?)))
  | _, "__text_signature__" =>
    return some (ofText? (← Evaluation.newOrigin) (r.advice?.bind (·.usage?)))
  | _, _ => return none

/-- The fact under a key about a routine that is bound to an owner. -/
def boundFact? (r : Routine) (owner : Object) (key : String) : Evaluation (Option Object) := do
  let nameOfOwner : String :=
    match owner with
    | .type k => k.name
    | o => o.kind.name
  match r.sort, key with
  | .looseRoutine, "__self__" => return some .nothing
  | _, "__self__" => return some owner
  | .function, "__func__" | .kindFunction, "__func__" =>
    return some (.routine { r with sort := .function })
  | .function, key | .kindFunction, key => return functionFact? r key
  | _, "__name__" => return some (.text r.name (← Evaluation.newOrigin))
  | .operation, key => entryFact? r key
  | _, "__module__" => return some .nothing
  | _, "__qualname__" =>
    return some (.text (nameOfOwner ++ "." ++ r.name) (← Evaluation.newOrigin))
  | _, key => entryFact? { r with sort := .routine } key

/-- The fact under a key about what stands for nothing. -/
def undefinedFact? (fault : Fault) (owner sought : Object) (key : String) :
    Evaluation (Option Object) := do
  match key with
  | "_undefined_hint" =>
    match fault with
    | .noPreviousItem | .noNextItem => return some (.text fault.message (← Evaluation.newOrigin))
    | _ => return some .nothing
  | "_undefined_obj" => return some owner
  | "_undefined_name" => return some sought
  | "_undefined_exception" => return some (.type .undefinedFault)
  | "_undefined_message" => return some (.text fault.message (← Evaluation.newOrigin))
  | _ => return none

/-- The fact under a key about a kind. The texts of a kind that is built in are made when they are
asked for. -/
def kindFact? (k : Kind) (key : String) : Evaluation (Option Object) := do
  let own : Origin := .ofKind k key
  let made ← if k.isBuiltIn then Evaluation.newOrigin else pure own
  match key with
  | "__class__" => return some (.type .type)
  | "__name__" | "__qualname__" => return some (.text k.name made)
  | "__module__" => return some (.text k.home own)
  | "__base__" => return some ((k.lineage[1]?).elim .nothing .type)
  | "__bases__" => return some (.tuple (k.lineage[1]?.toList.map .type) own)
  | "__mro__" => return some (.tuple (k.lineage.map .type) own)
  | "__dict__" => return some (← k.view)
  | "__doc__" =>
    match (Manual.ofKind? k key).bind (·.text?), k.sort? key with
    | some doc, _ => return some (.text doc made)
    | none, some sort => return some (k.entryObject sort key)
    | none, none => return some .nothing
  | "__text_signature__" =>
    return some (ofText? made ((Manual.ofKind? k "__doc__").bind (·.usage?)))
  | "__annotations__" => return if k.isBuiltIn then none else some (.dict [] own)
  | _ => return none

/-- The fact under a key about an object. -/
def fact? (r : Registry) (o : Object) (key : String) : Evaluation (Option Object) := do
  match key, o with
  | "__class__", o => return some (.type o.kind)
  | _, .routine entry => entryFact? entry key
  | _, .bound entry owner _ => boundFact? entry owner key
  | _, .undefined fault owner sought => undefinedFact? fault owner sought key
  | _, .loop place =>
    match ← loopFact? place key with
    | some fact => return some fact
    | none =>
      if key = "__dict__" then return some (← o.ownDictionary r) else return some .nothing
  | "__dict__", o => return some (← o.ownDictionary r)
  | "__weakref__", _ => return some .nothing
  | _, .number n origin => return numberFact? n origin key
  | _, .truth b => return numberFact? (if b then 1 else 0) .shared key
  | "namespace", .name n => return some (groupOf r n)
  | "members", .group id =>
    return some (.tuple ((r.lookup id).members.map .name) (← Evaluation.newOrigin))
  | "_size", .assignment a => return some (.number a.size .shared)
  | "__origin__", .variant k _ _ _ => return some (.type k)
  | "__args__", .variant _ parameters _ origin => return some (.tuple parameters (.part origin 0))
  | "__parameters__", .variant _ _ _ _ => return some (.tuple [] .shared)
  | "__unpacked__", .variant _ _ starred _ => return some (.truth starred)
  | "__typing_unpacked_tuple_args__", .variant _ _ _ _ => return some .nothing
  | _, _ => return none

/-! ### Attributes -/

/-- The attribute of an object under a key, as its kind tells. -/
def plainAttribute? (r : Registry) (o : Object) (key : String) : Evaluation (Option Object) := do
  let entry? := o.kind.entry? key
  if entry?.any (·.2.isWorkedOut) then o.fact? r key
  else
    match (o.ownAttributes r (← get)).lookup key, entry? with
    | some own, _ => return some own
    | none, some (home, sort) => return some (← o.bindEntry home sort key)
    | none, none => return none

/-- The attribute of a kind under a key: a fact about it, an entry that it has, or an entry of the
kind of kinds. -/
def kindAttribute? (k : Kind) (key : String) : Evaluation (Option Object) := do
  let entry? := Kind.type.entry? key
  if entry?.any (·.2.isWorkedOut) then kindFact? k key
  else
    match k.entry? key, entry? with
    | some (home, sort), _ => return some (← k.entryFrom home sort key)
    | none, some (home, sort) => return some (← (Object.type k).bindEntry home sort key)
    | none, none => return none

/-- The attributes that a parametrised kind does not take from its kind. -/
def variantAttributes : List String :=
  ["__class__", "__origin__", "__args__", "__unpacked__", "__parameters__",
   "__typing_unpacked_tuple_args__", "__mro_entries__", "__reduce_ex__", "__reduce__"]

/-- The attribute of an object under a key. A bound function has also the attributes of the function
that it binds. -/
def attribute? (r : Registry) (o : Object) (key : String) : Evaluation (Option Object) :=
  match o with
  | .type k => kindAttribute? k key
  | .variant k _ _ _ =>
    if variantAttributes.contains key then o.plainAttribute? r key else kindAttribute? k key
  | .bound entry _ _ =>
    if entry.isFunction && (o.kind.entry? key).isNone then
      plainAttribute? r (.routine { entry with sort := .function }) key
    else o.plainAttribute? r key
  | o => o.plainAttribute? r key

end Object

end SourceLayout.Template
