import SourceLayout.Template.Kind

/-! The entries of the kinds, in their order. -/

namespace SourceLayout.Template

/-- The entries of each kind, in runs of one sort. -/
def vocabulary : List (Kind × List (EntrySort × List String)) :=
  [(⟨"object", "builtins"⟩,
     [(.maker, ["__new__"]),
      (.operation,
        ["__repr__", "__hash__", "__str__", "__getattribute__", "__setattr__", "__delattr__",
         "__lt__", "__le__", "__eq__", "__ne__", "__gt__", "__ge__", "__init__"]),
      (.routine, ["__reduce_ex__", "__reduce__", "__getstate__"]),
      (.kindRoutine, ["__subclasshook__", "__init_subclass__"]),
      (.routine, ["__format__", "__sizeof__", "__dir__"]),
      (.fact, ["__class__"]),
      (.constant, ["__doc__"])]),
   (⟨"type", "builtins"⟩,
     [(.maker, ["__new__"]),
      (.operation,
        ["__repr__", "__call__", "__getattribute__", "__setattr__", "__delattr__", "__init__",
         "__or__", "__ror__"]),
      (.routine, ["mro", "__subclasses__"]),
      (.kindRoutine, ["__prepare__"]),
      (.routine, ["__instancecheck__", "__subclasscheck__", "__dir__", "__sizeof__"]),
      (.part,
        ["__basicsize__", "__itemsize__", "__flags__", "__weakrefoffset__", "__base__",
         "__dictoffset__", "__mro__"]),
      (.fact,
        ["__name__", "__qualname__", "__bases__", "__module__", "__abstractmethods__", "__dict__",
         "__doc__", "__text_signature__", "__annotations__"])]),
   (⟨"NoneType", "builtins"⟩,
     [(.maker, ["__new__"]),
      (.operation, ["__repr__", "__bool__"]),
      (.constant, ["__doc__"])]),
   (⟨"bool", "builtins"⟩,
     [(.maker, ["__new__"]),
      (.operation,
        ["__repr__", "__and__", "__rand__", "__xor__", "__rxor__", "__or__", "__ror__"]),
      (.constant, ["__doc__"])]),
   (⟨"int", "builtins"⟩,
     [(.maker, ["__new__"]),
      (.operation,
        ["__repr__", "__hash__", "__getattribute__", "__lt__", "__le__", "__eq__", "__ne__",
         "__gt__", "__ge__", "__add__", "__radd__", "__sub__", "__rsub__", "__mul__", "__rmul__",
         "__mod__", "__rmod__", "__divmod__", "__rdivmod__", "__pow__", "__rpow__", "__neg__",
         "__pos__", "__abs__", "__bool__", "__invert__", "__lshift__", "__rlshift__",
         "__rshift__", "__rrshift__", "__and__", "__rand__", "__xor__", "__rxor__", "__or__",
         "__ror__", "__int__", "__float__", "__floordiv__", "__rfloordiv__", "__truediv__",
         "__rtruediv__", "__index__"]),
      (.routine, ["conjugate", "bit_length", "bit_count", "to_bytes"]),
      (.kindRoutine, ["from_bytes"]),
      (.routine,
        ["as_integer_ratio", "__trunc__", "__floor__", "__ceil__", "__round__", "__getnewargs__",
         "__format__", "__sizeof__"]),
      (.fact, ["real", "imag", "numerator", "denominator"]),
      (.constant, ["__doc__"])]),
   (⟨"str", "builtins"⟩,
     [(.maker, ["__new__"]),
      (.operation,
        ["__repr__", "__hash__", "__str__", "__getattribute__", "__lt__", "__le__", "__eq__",
         "__ne__", "__gt__", "__ge__", "__iter__", "__mod__", "__rmod__", "__len__",
         "__getitem__", "__add__", "__mul__", "__rmul__", "__contains__"]),
      (.routine,
        ["encode", "replace", "split", "rsplit", "join", "capitalize", "casefold", "title",
         "center", "count", "expandtabs", "find", "partition", "index", "ljust", "lower",
         "lstrip", "rfind", "rindex", "rjust", "rstrip", "rpartition", "splitlines", "strip",
         "swapcase", "translate", "upper", "startswith", "endswith", "removeprefix",
         "removesuffix", "isascii", "islower", "isupper", "istitle", "isspace", "isdecimal",
         "isdigit", "isnumeric", "isalpha", "isalnum", "isidentifier", "isprintable", "zfill",
         "format", "format_map", "__format__"]),
      (.looseRoutine, ["maketrans"]),
      (.routine, ["__sizeof__", "__getnewargs__"]),
      (.constant, ["__doc__"])]),
   (⟨"list", "builtins"⟩,
     [(.maker, ["__new__"]),
      (.operation, ["__repr__"]),
      (.constant, ["__hash__"]),
      (.operation,
        ["__getattribute__", "__lt__", "__le__", "__eq__", "__ne__", "__gt__", "__ge__",
         "__iter__", "__init__", "__len__"]),
      (.routine, ["__getitem__"]),
      (.operation,
        ["__setitem__", "__delitem__", "__add__", "__mul__", "__rmul__", "__contains__",
         "__iadd__", "__imul__"]),
      (.routine,
        ["__reversed__", "__sizeof__", "clear", "copy", "append", "insert", "extend", "pop",
         "remove", "index", "count", "reverse", "sort"]),
      (.kindRoutine, ["__class_getitem__"]),
      (.constant, ["__doc__"])]),
   (⟨"tuple", "builtins"⟩,
     [(.maker, ["__new__"]),
      (.operation,
        ["__repr__", "__hash__", "__getattribute__", "__lt__", "__le__", "__eq__", "__ne__",
         "__gt__", "__ge__", "__iter__", "__len__", "__getitem__", "__add__", "__mul__",
         "__rmul__", "__contains__"]),
      (.routine, ["__getnewargs__", "index", "count"]),
      (.kindRoutine, ["__class_getitem__"]),
      (.constant, ["__doc__"])]),
   (⟨"dict", "builtins"⟩,
     [(.maker, ["__new__"]),
      (.operation, ["__repr__"]),
      (.constant, ["__hash__"]),
      (.operation,
        ["__getattribute__", "__lt__", "__le__", "__eq__", "__ne__", "__gt__", "__ge__",
         "__iter__", "__init__", "__or__", "__ror__", "__ior__", "__len__"]),
      (.routine, ["__getitem__"]),
      (.operation, ["__setitem__", "__delitem__"]),
      (.routine,
        ["__contains__", "__sizeof__", "get", "setdefault", "pop", "popitem", "keys", "items",
         "values", "update"]),
      (.kindRoutine, ["fromkeys"]),
      (.routine, ["clear", "copy", "__reversed__"]),
      (.kindRoutine, ["__class_getitem__"]),
      (.constant, ["__doc__"])]),
   (⟨"range", "builtins"⟩,
     [(.maker, ["__new__"]),
      (.operation,
        ["__repr__", "__hash__", "__getattribute__", "__lt__", "__le__", "__eq__", "__ne__",
         "__gt__", "__ge__", "__iter__", "__bool__", "__len__", "__getitem__",
         "__contains__"]),
      (.routine, ["__reversed__", "__reduce__", "count", "index"]),
      (.part, ["start", "stop", "step"]),
      (.constant, ["__doc__"])]),
   (⟨"function", "builtins"⟩,
     [(.maker, ["__new__"]),
      (.operation, ["__repr__", "__call__", "__get__"]),
      (.part, ["__closure__", "__doc__", "__globals__", "__module__", "__builtins__"]),
      (.fact,
        ["__code__", "__defaults__", "__kwdefaults__", "__annotations__", "__dict__", "__name__",
         "__qualname__"])]),
   (⟨"method", "builtins"⟩,
     [(.maker, ["__new__"]),
      (.operation,
        ["__repr__", "__hash__", "__call__", "__getattribute__", "__setattr__", "__delattr__",
         "__lt__", "__le__", "__eq__", "__ne__", "__gt__", "__ge__"]),
      (.routine, ["__reduce__"]),
      (.part, ["__func__", "__self__"]),
      (.fact, ["__doc__"])]),
   (⟨"builtin_function_or_method", "builtins"⟩,
     [(.operation,
        ["__repr__", "__hash__", "__call__", "__getattribute__", "__lt__", "__le__", "__eq__",
         "__ne__", "__gt__", "__ge__"]),
      (.routine, ["__reduce__"]),
      (.part, ["__module__"]),
      (.fact, ["__doc__", "__name__", "__qualname__", "__self__", "__text_signature__"])]),
   (⟨"method-wrapper", "builtins"⟩,
     [(.operation,
        ["__repr__", "__hash__", "__call__", "__getattribute__", "__lt__", "__le__", "__eq__",
         "__ne__", "__gt__", "__ge__"]),
      (.routine, ["__reduce__"]),
      (.part, ["__self__"]),
      (.fact, ["__objclass__", "__name__", "__qualname__", "__doc__", "__text_signature__"])]),
   (⟨"wrapper_descriptor", "builtins"⟩,
     [(.operation, ["__repr__", "__call__", "__getattribute__", "__get__"]),
      (.routine, ["__reduce__"]),
      (.part, ["__objclass__", "__name__"]),
      (.fact, ["__doc__", "__qualname__", "__text_signature__"])]),
   (⟨"method_descriptor", "builtins"⟩,
     [(.operation, ["__repr__", "__call__", "__getattribute__", "__get__"]),
      (.routine, ["__reduce__"]),
      (.part, ["__objclass__", "__name__"]),
      (.fact, ["__doc__", "__qualname__", "__text_signature__"])]),
   (⟨"classmethod_descriptor", "builtins"⟩,
     [(.operation, ["__repr__", "__call__", "__getattribute__", "__get__"]),
      (.part, ["__objclass__", "__name__"]),
      (.fact, ["__doc__", "__qualname__", "__text_signature__"])]),
   (⟨"getset_descriptor", "builtins"⟩,
     [(.operation, ["__repr__", "__getattribute__", "__get__", "__set__", "__delete__"]),
      (.part, ["__objclass__", "__name__"]),
      (.fact, ["__doc__", "__qualname__"])]),
   (⟨"member_descriptor", "builtins"⟩,
     [(.operation, ["__repr__", "__getattribute__", "__get__", "__set__", "__delete__"]),
      (.routine, ["__reduce__"]),
      (.part, ["__objclass__", "__name__"]),
      (.fact, ["__doc__", "__qualname__"])]),
   (⟨"property", "builtins"⟩,
     [(.maker, ["__new__"]),
      (.operation, ["__getattribute__", "__get__", "__set__", "__delete__", "__init__"]),
      (.routine, ["getter", "setter", "deleter", "__set_name__"]),
      (.part, ["fget", "fset", "fdel", "__doc__"]),
      (.fact, ["__isabstractmethod__"])]),
   (⟨"staticmethod", "builtins"⟩,
     [(.maker, ["__new__"]),
      (.operation, ["__repr__", "__call__", "__get__", "__init__"]),
      (.part, ["__func__", "__wrapped__"]),
      (.fact, ["__isabstractmethod__", "__dict__"]),
      (.constant, ["__doc__"])]),
   (⟨"classmethod", "builtins"⟩,
     [(.maker, ["__new__"]),
      (.operation, ["__repr__", "__get__", "__init__"]),
      (.part, ["__func__", "__wrapped__"]),
      (.fact, ["__isabstractmethod__", "__dict__"]),
      (.constant, ["__doc__"])]),
   (⟨"mappingproxy", "builtins"⟩,
     [(.maker, ["__new__"]),
      (.operation,
        ["__repr__", "__str__", "__getattribute__", "__lt__", "__le__", "__eq__", "__ne__",
         "__gt__", "__ge__", "__iter__", "__or__", "__ror__", "__ior__", "__len__", "__getitem__",
         "__contains__"]),
      (.routine, ["get", "keys", "values", "items", "copy"]),
      (.kindRoutine, ["__class_getitem__"]),
      (.routine, ["__reversed__"]),
      (.constant, ["__doc__", "__hash__"])]),
   (.variant,
     [(.maker, ["__new__"]),
      (.operation,
        ["__repr__", "__hash__", "__call__", "__getattribute__", "__lt__", "__le__", "__eq__",
         "__ne__", "__gt__", "__ge__", "__iter__", "__or__", "__ror__", "__getitem__"]),
      (.routine,
        ["__mro_entries__", "__instancecheck__", "__subclasscheck__", "__reduce__",
         "__dir__"]),
      (.part, ["__origin__", "__args__", "__unpacked__"]),
      (.fact, ["__parameters__", "__typing_unpacked_tuple_args__"]),
      (.constant, ["__doc__"])]),
   (.freeName,
     [(.constant, ["__module__", "__doc__", "fixed"]),
      (.function, ["__init__"]),
      (.property, ["namespace"]),
      (.function, ["__repr__"]),
      (.fact, ["__dict__", "__weakref__"])]),
   (.fixedName,
     [(.constant, ["__module__", "__doc__", "fixed"])]),
   (.group,
     [(.constant, ["__module__", "__doc__"]),
      (.function, ["__init__", "add", "seal"]),
      (.property, ["members"]),
      (.function, ["__iter__", "__len__", "__repr__"]),
      (.fact, ["__dict__", "__weakref__"])]),
   (.generic,
     [(.constant, ["__module__", "__doc__", "__slots__", "_is_protocol"]),
      (.kindFunction, ["__class_getitem__", "__init_subclass__"])]),
   (.assignment,
     [(.constant, ["__module__", "__doc__", "__slots__"]),
      (.looseFunction, ["__new__", "_get_bucket", "_getitem"]),
      (.function, ["__getitem__"]),
      (.looseFunction, ["_contains"]),
      (.function,
        ["__contains__", "get", "__iter__", "__reversed__", "__getattr__", "iterkeys",
         "itervalues", "iteritems", "values", "keys", "items", "__len__", "__repr__",
         "__eq__"]),
      (.operation, ["__ne__"]),
      (.function,
        ["__lt__", "__le__", "__gt__", "__ge__", "__str__", "__hash__", "set", "remove",
         "discard", "update", "update_with", "__add__", "__or__", "__reduce__", "transform",
         "copy", "evolver"]),
      (.part, ["_buckets", "_cached_hash", "_size"]),
      (.fact, ["__weakref__"])]),
   (.missing,
     [(.constant, ["__module__"]),
      (.function, ["__repr__", "__reduce__"]),
      (.fact, ["__dict__", "__weakref__"]),
      (.constant, ["__doc__"])]),
   (.cycler,
     [(.constant, ["__module__", "__doc__"]),
      (.function, ["__init__", "reset"]),
      (.property, ["current"]),
      (.function, ["next", "__next__"]),
      (.fact, ["__dict__", "__weakref__"])]),
   (.joiner,
     [(.constant, ["__module__", "__doc__"]),
      (.function, ["__init__", "__call__"]),
      (.fact, ["__dict__", "__weakref__"])]),
   (.attributeBag,
     [(.constant, ["__module__", "__doc__"]),
      (.function, ["__init__", "__getattribute__", "__setitem__", "__repr__"]),
      (.fact, ["__dict__", "__weakref__"])]),
   (.loop,
     [(.constant,
        ["__module__", "__doc__", "index0", "_length", "_after", "_current", "_before",
         "_last_changed_value"]),
      (.function, ["__init__"]),
      (.looseFunction, ["_to_iterator"]),
      (.property, ["length"]),
      (.function, ["__len__"]),
      (.property, ["depth", "index", "revindex0", "revindex", "first"]),
      (.function, ["_peek_next"]),
      (.property, ["last", "previtem", "nextitem"]),
      (.function, ["cycle", "changed", "__iter__", "__next__", "__call__", "__repr__"]),
      (.fact, ["__dict__", "__weakref__"])]),
   (.template,
     [(.constant, ["__module__", "__doc__"]),
      (.function, ["__init__", "__getitem__", "__repr__"]),
      (.fact, ["__dict__", "__weakref__"])]),
   (.context,
     [(.constant, ["__module__", "__doc__"]),
      (.function,
        ["__init__", "super", "get", "resolve", "resolve_or_missing", "get_exported", "get_all",
         "call", "derived", "keys", "values", "items", "__contains__", "__getitem__",
         "__repr__"]),
      (.fact, ["__dict__", "__weakref__"])]),
   (.lenientUndefined,
     [(.constant, ["__module__", "__doc__"]),
      (.function, ["__init__"]),
      (.property, ["_undefined_message"]),
      (.function,
        ["_fail_with_undefined_error", "__getattr__", "__add__", "__radd__", "__sub__",
         "__rsub__", "__mul__", "__rmul__", "__div__", "__rdiv__", "__truediv__", "__rtruediv__",
         "__floordiv__", "__rfloordiv__", "__mod__", "__rmod__", "__pos__", "__neg__", "__call__",
         "__getitem__", "__lt__", "__le__", "__gt__", "__ge__", "__int__", "__float__",
         "__complex__", "__pow__", "__rpow__", "__eq__", "__ne__", "__hash__", "__str__",
         "__len__", "__iter__", "__aiter__", "__bool__", "__repr__"]),
      (.part, ["_undefined_exception", "_undefined_hint", "_undefined_name", "_undefined_obj"])]),
   (.undefined,
     [(.constant, ["__module__", "__doc__"]),
      (.function,
        ["__iter__", "__str__", "__len__", "__eq__", "__ne__", "__bool__", "__hash__",
         "__contains__"])]),
   (.undefinedFault,
     [(.constant, ["__module__", "__doc__"])]),
   (.renderingFault,
     [(.constant, ["__module__", "__doc__"])]),
   (.templateFault,
     [(.constant, ["__module__", "__doc__"]),
      (.function, ["__init__"]),
      (.property, ["message"]),
      (.fact, ["__weakref__"])]),
   (⟨"Exception", "builtins"⟩,
     [(.maker, ["__new__"]),
      (.operation, ["__init__"]),
      (.constant, ["__doc__"])]),
   (⟨"BaseException", "builtins"⟩,
     [(.maker, ["__new__"]),
      (.operation,
        ["__repr__", "__str__", "__getattribute__", "__setattr__", "__delattr__", "__init__"]),
      (.routine, ["__reduce__", "__setstate__", "with_traceback", "add_note"]),
      (.part, ["__suppress_context__"]),
      (.fact, ["__dict__", "args", "__traceback__", "__context__", "__cause__"]),
      (.constant, ["__doc__"])]),
   (⟨"list_iterator", "builtins"⟩,
     [(.operation, ["__getattribute__", "__iter__", "__next__"]),
      (.routine, ["__length_hint__", "__reduce__", "__setstate__"]),
      (.constant, ["__doc__"])]),
   (⟨"tuple_iterator", "builtins"⟩,
     [(.operation, ["__getattribute__", "__iter__", "__next__"]),
      (.routine, ["__length_hint__", "__reduce__", "__setstate__"]),
      (.constant, ["__doc__"])]),
   (⟨"str_ascii_iterator", "builtins"⟩,
     [(.operation, ["__getattribute__", "__iter__", "__next__"]),
      (.routine, ["__length_hint__", "__reduce__", "__setstate__"]),
      (.constant, ["__doc__"])]),
   (⟨"str_iterator", "builtins"⟩,
     [(.operation, ["__getattribute__", "__iter__", "__next__"]),
      (.routine, ["__length_hint__", "__reduce__", "__setstate__"]),
      (.constant, ["__doc__"])]),
   (⟨"dict_keyiterator", "builtins"⟩,
     [(.operation, ["__getattribute__", "__iter__", "__next__"]),
      (.routine, ["__length_hint__", "__reduce__"]),
      (.constant, ["__doc__"])])]

namespace Kind

/-- The entries of a kind, each with its sort. -/
def entries (k : Kind) : List (String × EntrySort) :=
  ((vocabulary.lookup k).getD []).flatMap fun (sort, keys) => keys.map (·, sort)

/-- The sort of the kind's own entry under a key, if there is one. -/
def sort? (k : Kind) (key : String) : Option EntrySort :=
  ((vocabulary.lookup k).getD []).findSome? fun (sort, keys) =>
    if keys.contains key then some sort else none

/-- The entry under a key that the objects of a kind have: the kind in its lineage that has it, and
its sort. -/
def entry? (k : Kind) (key : String) : Option (Kind × EntrySort) :=
  k.lineage.findSome? fun ancestor => (ancestor.sort? key).map (ancestor, ·)

end Kind

end SourceLayout.Template
