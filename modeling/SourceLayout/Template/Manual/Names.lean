import SourceLayout.Template.Kind

/-! What belongs to names, namespaces and assignments, and what it is for. -/

namespace SourceLayout.Template.Manual

/-- Names. -/
def freeName : List (String × String × List String) :=
  [("__doc__", "",
      ["Identifier placeholder; equality is identity.",
       "",
       "    Attributes:",
       "        proposed: Preferred string for this name.",
       "    "]),
    ("__dict__", "", ["dictionary for instance variables"]),
    ("__weakref__", "", ["list of weak references to the object"])]

/-- Fixed names. -/
def fixedName : List (String × String × List String) :=
  [("__doc__", "", ["Name that must be rendered exactly as proposed (keywords, API names)."])]

/-- Namespaces. -/
def group : List (String × String × List String) :=
  [("__doc__", "",
      ["Group of names that must receive pairwise-distinct strings.",
       "",
       "    Args:",
       "        label: Descriptive label, used in diagnostics only.",
       "        forbidden: Namespaces whose assigned strings this namespace may not",
       "            reuse. They must be assigned earlier in the namespace order.",
       "    "]),
    ("add", "", ["Add ``name`` as a member and return it."]),
    ("__dict__", "", ["dictionary for instance variables"]),
    ("__weakref__", "", ["list of weak references to the object"])]

/-- Assignments. -/
def assignment : List (String × String × List String) :=
  [("__doc__", "",
      ["",
       "    Persistent map/dict. Tries to follow the same naming conventions as the " ++
          "built in dict where feasible.",
       "",
       "    Do not instantiate directly, instead use the factory functions :py:func:`m` " ++
          "or :py:func:`pmap` to",
       "    create an instance.",
       "",
       "    Was originally written as a very close copy of the Clojure equivalent but " ++
          "was later rewritten to closer",
       "    re-assemble the python dict. This means that a sparse vector (a PVector) of " ++
          "buckets is used. The keys are",
       "    hashed and the elements inserted at position hash % len(bucket_vector). " ++
          "Whenever the map size exceeds 2/3 of",
       "    the containing vectors size the map is reallocated to a vector of double " ++
          "the size. This is done to avoid",
       "    excessive hash collisions.",
       "",
       "    This structure corresponds most closely to the built in dict type and is " ++
          "intended as a replacement. Where the",
       "    semantics are the same (more or less) the same function names have been " ++
          "used but for some cases it is not possible,",
       "    for example assignments and deletion of values.",
       "",
       "    PMap implements the Mapping protocol and is Hashable. It also supports " ++
          "dot-notation for",
       "    element access.",
       "",
       "    Random access and insert is log32(n) where n is the size of the map.",
       "",
       "    The following are examples of some common operations on persistent maps",
       "",
       "    >>> m1 = m(a=1, b=3)",
       "    >>> m2 = m1.set('c', 3)",
       "    >>> m3 = m2.remove('a')",
       "    >>> m1 == \x7b'a': 1, 'b': 3\x7d",
       "    True",
       "    >>> m2 == \x7b'a': 1, 'b': 3, 'c': 3\x7d",
       "    True",
       "    >>> m3 == \x7b'b': 3, 'c': 3\x7d",
       "    True",
       "    >>> m3['c']",
       "    3",
       "    >>> m3.c",
       "    3",
       "    "]),
    ("__new__", "",
      ["staticmethod(function) -> method",
       "",
       "Convert a function to be a static method.",
       "",
       "A static method does not receive an implicit first argument.",
       "To declare a static method, use this idiom:",
       "",
       "     class C:",
       "         @staticmethod",
       "         def f(arg1, arg2, argN):",
       "             ...",
       "",
       "It can be called either on the class (e.g. C.f()) or on an instance",
       "(e.g. C().f()). Both the class and the instance are ignored, and",
       "neither is passed implicitly as the first argument to the method.",
       "",
       "Static methods in Python are similar to those found in Java or C++.",
       "For a more advanced concept, see the classmethod builtin."]),
    ("__weakref__", "", ["list of weak references to the object"])]

/-- What assignments are based on. -/
def generic : List (String × String × List String) :=
  [("__doc__", "",
      ["Abstract base class for generic types.",
       "",
       "    A generic type is typically declared by inheriting from",
       "    this class parameterized with one or more type variables.",
       "    For example, a generic mapping type might be defined as::",
       "",
       "      class Mapping(Generic[KT, VT]):",
       "          def __getitem__(self, key: KT) -> VT:",
       "              ...",
       "          # Etc.",
       "",
       "    This class can then be used as follows::",
       "",
       "      def lookup_name(mapping: Mapping[KT, VT], key: KT, default: VT) -> VT:",
       "          try:",
       "              return mapping[key]",
       "          except KeyError:",
       "              return default",
       "    "]),
    ("__class_getitem__", "",
      ["classmethod(function) -> method",
       "",
       "Convert a function to be a class method.",
       "",
       "A class method receives the class as implicit first argument,",
       "just like an instance method receives the instance.",
       "To declare a class method, use this idiom:",
       "",
       "  class C:",
       "      @classmethod",
       "      def f(cls, arg1, arg2, argN):",
       "          ...",
       "",
       "It can be called either on the class (e.g. C.f()) or on an instance",
       "(e.g. C().f()).  The instance is ignored except for its class.",
       "If a class method is called for a derived class, the derived class",
       "object is passed as the implied first argument.",
       "",
       "Class methods are different than C++ or Java static methods.",
       "If you want those, see the staticmethod builtin."]),
    ("__init_subclass__", "",
      ["classmethod(function) -> method",
       "",
       "Convert a function to be a class method.",
       "",
       "A class method receives the class as implicit first argument,",
       "just like an instance method receives the instance.",
       "To declare a class method, use this idiom:",
       "",
       "  class C:",
       "      @classmethod",
       "      def f(cls, arg1, arg2, argN):",
       "          ...",
       "",
       "It can be called either on the class (e.g. C.f()) or on an instance",
       "(e.g. C().f()).  The instance is ignored except for its class.",
       "If a class method is called for a derived class, the derived class",
       "object is passed as the implied first argument.",
       "",
       "Class methods are different than C++ or Java static methods.",
       "If you want those, see the staticmethod builtin."])]

/-- Mappings. -/
def mapping : List (String × String × List String) :=
  [("get", "", ["D.get(k[,d]) -> D[k] if k in D, else d.  d defaults to None."])]

end SourceLayout.Template.Manual
