import SourceLayout.Template.Manual.Names
import SourceLayout.Template.Manual.Operations
import SourceLayout.Template.Manual.Rendering
import SourceLayout.Template.Manual.Routines
import SourceLayout.Template.Manual.Texts
import SourceLayout.Template.Manual.Values

/-! The manual: what the entries of kinds say of themselves.  An entry has a usage, which is empty
where none is told, and lines of text. -/

namespace SourceLayout.Template

/-- What an entry says of itself: its usage, and its text. -/
structure Advice where
  usage? : Option String
  text? : Option String
deriving DecidableEq, Repr, Inhabited

/-- The advice with a usage, if it is not empty, and lines of text, if there are any. -/
def Advice.of (usage : String) (text : List String) : Advice :=
  { usage? := if usage.isEmpty then none else some usage
    text? := if text.isEmpty then none else some ("\n".intercalate text) }

namespace Manual

/-- The manual by kind. -/
def kinds : List (Kind × List (String × String × List String)) :=
  [(⟨"str", "builtins"⟩, Manual.str), (⟨"object", "builtins"⟩, Manual.object),
   (⟨"bool", "builtins"⟩, Manual.bool), (⟨"int", "builtins"⟩, Manual.int),
   (⟨"NoneType", "builtins"⟩, Manual.nothing), (⟨"list", "builtins"⟩, Manual.list),
   (⟨"tuple", "builtins"⟩, Manual.tuple), (⟨"dict", "builtins"⟩, Manual.dict),
   (⟨"range", "builtins"⟩, Manual.range), (⟨"mappingproxy", "builtins"⟩, Manual.view),
   (⟨"list_iterator", "builtins"⟩, Manual.listStock),
   (⟨"tuple_iterator", "builtins"⟩, Manual.tupleStock),
   (⟨"str_ascii_iterator", "builtins"⟩, Manual.asciiStock),
   (⟨"str_iterator", "builtins"⟩, Manual.textStock),
   (⟨"dict_keyiterator", "builtins"⟩, Manual.dictStock), (⟨"type", "builtins"⟩, Manual.type),
   (⟨"function", "builtins"⟩, Manual.function), (⟨"method", "builtins"⟩, Manual.method),
   (⟨"property", "builtins"⟩, Manual.property),
   (⟨"staticmethod", "builtins"⟩, Manual.looseFunction),
   (⟨"classmethod", "builtins"⟩, Manual.kindFunction), (.variant, Manual.variant),
   (⟨"Mapping", "collections.abc"⟩, Manual.mapping), (.freeName, Manual.freeName),
   (.fixedName, Manual.fixedName), (.group, Manual.group), (.assignment, Manual.assignment),
   (.generic, Manual.generic), (⟨"", "jinja2.utils"⟩, Manual.filler), (.cycler, Manual.cycler),
   (.joiner, Manual.joiner), (.attributeBag, Manual.attributeBag), (.loop, Manual.loop),
   (.template, Manual.template), (.context, Manual.context),
   (.lenientUndefined, Manual.lenientUndefined), (.undefined, Manual.undefined),
   (.undefinedFault, Manual.undefinedFault), (.renderingFault, Manual.renderingFault),
   (.templateFault, Manual.templateFault), (⟨"Exception", "builtins"⟩, Manual.exception),
   (⟨"BaseException", "builtins"⟩, Manual.baseException)]

/-- What the kind's own entry under a key says of itself, unless it is an operation. -/
def ofKind? (k : Kind) (key : String) : Option Advice := do
  let (usage, text) ← ((← kinds.lookup k).lookup key)
  return .of usage text

/-- What an operation says of itself. -/
def ofOperation? (key : String) : Option Advice := do
  let (usage, text) ← operations.lookup key
  return .of usage text

end Manual

end SourceLayout.Template
