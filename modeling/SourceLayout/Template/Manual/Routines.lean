import SourceLayout.Template.Kind

/-! What belongs to kinds and to what they have, and what it is for. -/

namespace SourceLayout.Template.Manual

/-- Kinds. -/
def type : List (String × String × List String) :=
  [("__new__", "($type, *args, **kwargs)",
      ["Create and return a new object.  See help(type) for accurate signature."]),
    ("mro", "($self, /)", ["Return a type's method resolution order."]),
    ("__subclasses__", "($self, /)", ["Return a list of immediate subclasses."]),
    ("__prepare__", "",
      ["__prepare__() -> dict",
       "used to create the namespace for the class statement"]),
    ("__instancecheck__", "($self, instance, /)", ["Check if an object is an instance."]),
    ("__subclasscheck__", "($self, subclass, /)", ["Check if a class is a subclass."]),
    ("__dir__", "($self, /)", ["Specialized __dir__ implementation for types."]),
    ("__sizeof__", "($self, /)", ["Return memory consumption of the type object."]),
    ("__doc__", "",
      ["type(object) -> the object's type",
       "type(name, bases, dict, **kwds) -> a new type"])]

/-- Functions. -/
def function : List (String × String × List String) :=
  [("__new__", "($type, *args, **kwargs)",
      ["Create and return a new object.  See help(type) for accurate signature."]),
    ("__doc__", "(code, globals, name=None, argdefs=None, closure=None)",
      ["Create a function object.",
       "",
       "  code",
       "    a code object",
       "  globals",
       "    the globals dictionary",
       "  name",
       "    a string that overrides the name from the code object",
       "  argdefs",
       "    a tuple that specifies the default argument values",
       "  closure",
       "    a tuple that supplies the bindings for free variables"])]

/-- Bound functions. -/
def method : List (String × String × List String) :=
  [("__new__", "($type, *args, **kwargs)",
      ["Create and return a new object.  See help(type) for accurate signature."]),
    ("__reduce__", "($self, /)", []),
    ("__func__", "", ["the function (or other callable) implementing a method"]),
    ("__self__", "", ["the instance to which a method is bound"]),
    ("__doc__", "(function, instance, /)", ["Create a bound instance method object."])]

/-- Properties. -/
def property : List (String × String × List String) :=
  [("__new__", "($type, *args, **kwargs)",
      ["Create and return a new object.  See help(type) for accurate signature."]),
    ("getter", "", ["Descriptor to obtain a copy of the property with a different getter."]),
    ("setter", "", ["Descriptor to obtain a copy of the property with a different setter."]),
    ("deleter", "", ["Descriptor to obtain a copy of the property with a different deleter."]),
    ("__set_name__", "", ["Method to set name of a property."]),
    ("__doc__", "(fget=None, fset=None, fdel=None, doc=None)",
      ["Property attribute.",
       "",
       "  fget",
       "    function to be used for getting an attribute value",
       "  fset",
       "    function to be used for setting an attribute value",
       "  fdel",
       "    function to be used for del'ing an attribute",
       "  doc",
       "    docstring",
       "",
       "Typical use is to define a managed attribute x:",
       "",
       "class C(object):",
       "    def getx(self): return self._x",
       "    def setx(self, value): self._x = value",
       "    def delx(self): del self._x",
       "    x = property(getx, setx, delx, \"I'm the 'x' property.\")",
       "",
       "Decorators make defining new properties or modifying existing ones easy:",
       "",
       "class C(object):",
       "    @property",
       "    def x(self):",
       "        \"I am the 'x' property.\"",
       "        return self._x",
       "    @x.setter",
       "    def x(self, value):",
       "        self._x = value",
       "    @x.deleter",
       "    def x(self):",
       "        del self._x"])]

/-- Functions that are bound to nothing. -/
def looseFunction : List (String × String × List String) :=
  [("__new__", "($type, *args, **kwargs)",
      ["Create and return a new object.  See help(type) for accurate signature."]),
    ("__doc__", "",
      ["staticmethod(function) -> method",
       "",
       "Convert a function to be a static method.",
       "",
       "A static method does not receive an implicit first argument.",
       "To declare a static method, use this idiom:",
       "",
       "     class C:",
       "         @staticmethod",
       "         def f(arg1, arg2, argN):",
       "             ...",
       "",
       "It can be called either on the class (e.g. C.f()) or on an instance",
       "(e.g. C().f()). Both the class and the instance are ignored, and",
       "neither is passed implicitly as the first argument to the method.",
       "",
       "Static methods in Python are similar to those found in Java or C++.",
       "For a more advanced concept, see the classmethod builtin."])]

/-- Functions that are bound to a kind. -/
def kindFunction : List (String × String × List String) :=
  [("__new__", "($type, *args, **kwargs)",
      ["Create and return a new object.  See help(type) for accurate signature."]),
    ("__doc__", "",
      ["classmethod(function) -> method",
       "",
       "Convert a function to be a class method.",
       "",
       "A class method receives the class as implicit first argument,",
       "just like an instance method receives the instance.",
       "To declare a class method, use this idiom:",
       "",
       "  class C:",
       "      @classmethod",
       "      def f(cls, arg1, arg2, argN):",
       "          ...",
       "",
       "It can be called either on the class (e.g. C.f()) or on an instance",
       "(e.g. C().f()).  The instance is ignored except for its class.",
       "If a class method is called for a derived class, the derived class",
       "object is passed as the implied first argument.",
       "",
       "Class methods are different than C++ or Java static methods.",
       "If you want those, see the staticmethod builtin."])]

/-- Parametrised kinds. -/
def variant : List (String × String × List String) :=
  [("__new__", "($type, *args, **kwargs)",
      ["Create and return a new object.  See help(type) for accurate signature."]),
    ("__parameters__", "", ["Type variables in the GenericAlias."]),
    ("__doc__", "",
      ["Represent a PEP 585 generic type",
       "",
       "E.g. for t = list[int], t.__origin__ is list and t.__args__ is (int,)."])]

end SourceLayout.Template.Manual
