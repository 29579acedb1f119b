import SourceLayout.Text.Quoted

/-! Kinds of objects.  A kind has entries of its own, and its objects have the entries of all kinds
in its lineage: the kind itself, the kinds that it is based on, and last the kind of all objects. -/

namespace SourceLayout.Template

/-- A kind of object: its name, and where it is defined. -/
structure Kind where
  name : String
  home : String := "builtins"
deriving DecidableEq, Repr, Inhabited

/-- What an entry is to the objects of the kind that has it. The first seven are built in:
operations and routines, bound to the object; routines that are bound to the kind, or to nothing;
the maker of the objects; and facts and parts, which are worked out from the object. The others are
defined: functions, bound to the object, to its kind, or to nothing; properties; and constants. -/
inductive EntrySort where
  | operation
  | routine
  | kindRoutine
  | looseRoutine
  | maker
  | fact
  | part
  | function
  | kindFunction
  | looseFunction
  | property
  | constant
deriving DecidableEq, Repr, Inhabited

/-- The entry has a value of its own for each object. -/
def EntrySort.isWorkedOut : EntrySort → Bool
  | fact | part | property => true
  | _ => false

namespace Kind

/-- The kind is built in. -/
def isBuiltIn (k : Kind) : Bool := k.home = "builtins"

/-- The name of the kind after the place where it is defined. -/
def qualified (k : Kind) : String := if k.isBuiltIn then k.name else k.home ++ "." ++ k.name

/-! ### The kinds by name -/

/-- The kind of all objects. -/
def object : Kind := ⟨"object", "builtins"⟩

/-- The kind of kinds. -/
def type : Kind := ⟨"type", "builtins"⟩

/-- The kind of a name that may get a suffix. -/
def freeName : Kind := ⟨"Name", "codegen_renderer.naming"⟩

/-- The kind of a name that is written as proposed. -/
def fixedName : Kind := ⟨"FixedName", "codegen_renderer.naming"⟩

/-- The kind of a namespace. -/
def group : Kind := ⟨"Namespace", "codegen_renderer.naming"⟩

/-- The kind of an assignment. -/
def assignment : Kind := ⟨"PMap", "pyrsistent._pmap"⟩

/-- The kind that an assignment is based on. -/
def generic : Kind := ⟨"Generic", "typing"⟩

/-- The kind of a parametrised kind. -/
def variant : Kind := ⟨"GenericAlias", "types"⟩

/-- The kind of the mark for what is missing. -/
def missing : Kind := ⟨"_MissingType", "jinja2.utils"⟩

/-- The kind of an object that goes around a cycle. -/
def cycler : Kind := ⟨"Cycler", "jinja2.utils"⟩

/-- The kind of an object that puts separators between others. -/
def joiner : Kind := ⟨"Joiner", "jinja2.utils"⟩

/-- The kind of an object with attributes of one's own. -/
def attributeBag : Kind := ⟨"Namespace", "jinja2.utils"⟩

/-- The kind of a loop as its body sees it. -/
def loop : Kind := ⟨"LoopContext", "jinja2.runtime"⟩

/-- The kind of a template as it sees itself. -/
def template : Kind := ⟨"TemplateReference", "jinja2.runtime"⟩

/-- The kind of what a template is rendered in. -/
def context : Kind := ⟨"Context", "jinja2.runtime"⟩

/-- The kind that stands for nothing. -/
def lenientUndefined : Kind := ⟨"Undefined", "jinja2.runtime"⟩

/-- The kind that stands for nothing and fails when it is used. -/
def undefined : Kind := ⟨"StrictUndefined", "jinja2.runtime"⟩

/-- The kind of the fault that the use of nothing is. -/
def undefinedFault : Kind := ⟨"UndefinedError", "jinja2.exceptions"⟩

/-- The kind of the faults that arise while a template is rendered. -/
def renderingFault : Kind := ⟨"TemplateRuntimeError", "jinja2.exceptions"⟩

/-- The kind of the faults of templates. -/
def templateFault : Kind := ⟨"TemplateError", "jinja2.exceptions"⟩

/-- The name that faults give the kind of an object, which tells only of one kind where it is
defined. -/
def shortName (k : Kind) : String := if k = variant then k.qualified else k.name

/-! ### Lineage -/

/-- The kinds that a kind is based on, nearest first, without the kind of all objects. -/
def bases (k : Kind) : List Kind :=
  let exception : Kind := ⟨"Exception", "builtins"⟩
  let baseException : Kind := ⟨"BaseException", "builtins"⟩
  let lines : List (List Kind) :=
    [[⟨"bool", "builtins"⟩, ⟨"int", "builtins"⟩], [fixedName, freeName], [assignment, generic],
     [undefined, lenientUndefined],
     [undefinedFault, renderingFault, templateFault, exception, baseException]]
  (lines.findSome? fun line =>
    if line.contains k then some ((line.dropWhile (· ≠ k)).drop 1) else none).getD []

/-- The kind and the kinds that it is based on, nearest first. -/
def lineage (k : Kind) : List Kind := if k = object then [object] else k :: k.bases ++ [object]

end Kind

end SourceLayout.Template
