import SourceLayout.Template.Kind

/-! What belongs to other values, and what it is for. -/

namespace SourceLayout.Template.Manual

/-- All objects. -/
def object : List (String × String × List String) :=
  [("__new__", "($type, *args, **kwargs)",
      ["Create and return a new object.  See help(type) for accurate signature."]),
    ("__reduce_ex__", "($self, protocol, /)", ["Helper for pickle."]),
    ("__reduce__", "($self, /)", ["Helper for pickle."]),
    ("__getstate__", "($self, /)", ["Helper for pickle."]),
    ("__subclasshook__", "",
      ["Abstract classes can override this to customize issubclass().",
       "",
       "This is invoked early on by abc.ABCMeta.__subclasscheck__().",
       "It should return True, False or NotImplemented.  If it returns",
       "NotImplemented, the normal algorithm is used.  Otherwise, it",
       "overrides the normal algorithm (and the outcome is cached).",
       ""]),
    ("__init_subclass__", "",
      ["This method is called when a class is subclassed.",
       "",
       "The default implementation does nothing. It may be",
       "overridden to extend subclasses.",
       ""]),
    ("__format__", "($self, format_spec, /)", ["Default object formatter."]),
    ("__sizeof__", "($self, /)", ["Size of object in memory, in bytes."]),
    ("__dir__", "($self, /)", ["Default dir() implementation."]),
    ("__class__", "", ["the object's class"]),
    ("__doc__", "()",
      ["The base class of the class hierarchy.",
       "",
       "When called, it accepts no arguments and returns a new featureless",
       "instance that has no instance attributes and cannot be given any.",
       ""])]

/-- Truth values. -/
def bool : List (String × String × List String) :=
  [("__new__", "($type, *args, **kwargs)",
      ["Create and return a new object.  See help(type) for accurate signature."]),
    ("__doc__", "",
      ["bool(x) -> bool",
       "",
       "Returns True when the argument x is true, False otherwise.",
       "The builtins True and False are the only two instances of the class bool.",
       "The class bool is a subclass of the class int, and cannot be subclassed."])]

/-- Numbers. -/
def int : List (String × String × List String) :=
  [("__new__", "($type, *args, **kwargs)",
      ["Create and return a new object.  See help(type) for accurate signature."]),
    ("conjugate", "", ["Returns self, the complex conjugate of any int."]),
    ("bit_length", "($self, /)",
      ["Number of bits necessary to represent self in binary.",
       "",
       ">>> bin(37)",
       "'0b100101'",
       ">>> (37).bit_length()",
       "6"]),
    ("bit_count", "($self, /)",
      ["Number of ones in the binary representation of the absolute value of self.",
       "",
       "Also known as the population count.",
       "",
       ">>> bin(13)",
       "'0b1101'",
       ">>> (13).bit_count()",
       "3"]),
    ("to_bytes", "($self, /, length=1, byteorder='big', *, signed=False)",
      ["Return an array of bytes representing an integer.",
       "",
       "  length",
       "    Length of bytes object to use.  An OverflowError is raised if the",
       "    integer is not representable with the given number of bytes.  Default",
       "    is length 1.",
       "  byteorder",
       "    The byte order used to represent the integer.  If byteorder is 'big',",
       "    the most significant byte is at the beginning of the byte array.  If",
       "    byteorder is 'little', the most significant byte is at the end of the",
       "    byte array.  To request the native byte order of the host system, use",
       "    `sys.byteorder' as the byte order value.  Default is to use 'big'.",
       "  signed",
       "    Determines whether two's complement is used to represent the integer.",
       "    If signed is False and a negative integer is given, an OverflowError",
       "    is raised."]),
    ("from_bytes", "($type, /, bytes, byteorder='big', *, signed=False)",
      ["Return the integer represented by the given array of bytes.",
       "",
       "  bytes",
       "    Holds the array of bytes to convert.  The argument must either",
       "    support the buffer protocol or be an iterable object producing bytes.",
       "    Bytes and bytearray are examples of built-in objects that support the",
       "    buffer protocol.",
       "  byteorder",
       "    The byte order used to represent the integer.  If byteorder is 'big',",
       "    the most significant byte is at the beginning of the byte array.  If",
       "    byteorder is 'little', the most significant byte is at the end of the",
       "    byte array.  To request the native byte order of the host system, use",
       "    `sys.byteorder' as the byte order value.  Default is to use 'big'.",
       "  signed",
       "    Indicates whether two's complement is used to represent the integer."]),
    ("as_integer_ratio", "($self, /)",
      ["Return integer ratio.",
       "",
       "Return a pair of integers, whose ratio is exactly equal to the original int",
       "and with a positive denominator.",
       "",
       ">>> (10).as_integer_ratio()",
       "(10, 1)",
       ">>> (-10).as_integer_ratio()",
       "(-10, 1)",
       ">>> (0).as_integer_ratio()",
       "(0, 1)"]),
    ("__trunc__", "", ["Truncating an Integral returns itself."]),
    ("__floor__", "", ["Flooring an Integral returns itself."]),
    ("__ceil__", "", ["Ceiling of an Integral returns itself."]),
    ("__round__", "($self, ndigits=<unrepresentable>, /)",
      ["Rounding an Integral returns itself.",
       "",
       "Rounding with an ndigits argument also returns an integer."]),
    ("__getnewargs__", "($self, /)", []),
    ("__format__", "($self, format_spec, /)", []),
    ("__sizeof__", "($self, /)", ["Returns size in memory, in bytes."]),
    ("real", "", ["the real part of a complex number"]),
    ("imag", "", ["the imaginary part of a complex number"]),
    ("numerator", "", ["the numerator of a rational number in lowest terms"]),
    ("denominator", "", ["the denominator of a rational number in lowest terms"]),
    ("__doc__", "",
      ["int([x]) -> integer",
       "int(x, base=10) -> integer",
       "",
       "Convert a number or string to an integer, or return 0 if no arguments",
       "are given.  If x is a number, return x.__int__().  For floating point",
       "numbers, this truncates towards zero.",
       "",
       "If x is not a number or if base is given, then x must be a string,",
       "bytes, or bytearray instance representing an integer literal in the",
       "given base.  The literal can be preceded by '+' or '-' and be surrounded",
       "by whitespace.  The base defaults to 10.  Valid bases are 0 and 2-36.",
       "Base 0 means to interpret the base from the string as an integer literal.",
       ">>> int('0b100', base=0)",
       "4"])]

/-- The kind of nothing. -/
def nothing : List (String × String × List String) :=
  [("__new__", "($type, *args, **kwargs)",
      ["Create and return a new object.  See help(type) for accurate signature."])]

/-- Lists. -/
def list : List (String × String × List String) :=
  [("__new__", "($type, *args, **kwargs)",
      ["Create and return a new object.  See help(type) for accurate signature."]),
    ("__getitem__", "", ["x.__getitem__(y) <==> x[y]"]),
    ("__reversed__", "($self, /)", ["Return a reverse iterator over the list."]),
    ("__sizeof__", "($self, /)", ["Return the size of the list in memory, in bytes."]),
    ("clear", "($self, /)", ["Remove all items from list."]),
    ("copy", "($self, /)", ["Return a shallow copy of the list."]),
    ("append", "($self, object, /)", ["Append object to the end of the list."]),
    ("insert", "($self, index, object, /)", ["Insert object before index."]),
    ("extend", "($self, iterable, /)", ["Extend list by appending elements from the iterable."]),
    ("pop", "($self, index=-1, /)",
      ["Remove and return item at index (default last).",
       "",
       "Raises IndexError if list is empty or index is out of range."]),
    ("remove", "($self, value, /)",
      ["Remove first occurrence of value.",
       "",
       "Raises ValueError if the value is not present."]),
    ("index", "($self, value, start=0, stop=sys.maxsize, /)",
      ["Return first index of value.",
       "",
       "Raises ValueError if the value is not present."]),
    ("count", "($self, value, /)", ["Return number of occurrences of value."]),
    ("reverse", "($self, /)", ["Reverse *IN PLACE*."]),
    ("sort", "($self, /, *, key=None, reverse=False)",
      ["Sort the list in ascending order and return None.",
       "",
       "The sort is in-place (i.e. the list itself is modified) and stable (i.e. the",
       "order of two equal elements is maintained).",
       "",
       "If a key function is given, apply it once to each list item and sort them,",
       "ascending or descending, according to their function values.",
       "",
       "The reverse flag can be set to sort in descending order."]),
    ("__class_getitem__", "", ["See PEP 585"]),
    ("__doc__", "(iterable=(), /)",
      ["Built-in mutable sequence.",
       "",
       "If no argument is given, the constructor creates a new empty list.",
       "The argument must be an iterable if specified."])]

/-- Tuples. -/
def tuple : List (String × String × List String) :=
  [("__new__", "($type, *args, **kwargs)",
      ["Create and return a new object.  See help(type) for accurate signature."]),
    ("__getnewargs__", "($self, /)", []),
    ("index", "($self, value, start=0, stop=sys.maxsize, /)",
      ["Return first index of value.",
       "",
       "Raises ValueError if the value is not present."]),
    ("count", "($self, value, /)", ["Return number of occurrences of value."]),
    ("__class_getitem__", "", ["See PEP 585"]),
    ("__doc__", "(iterable=(), /)",
      ["Built-in immutable sequence.",
       "",
       "If no argument is given, the constructor returns an empty tuple.",
       "If iterable is specified the tuple is initialized from iterable's items.",
       "",
       "If the argument is a tuple, the return value is the same object."])]

/-- Dictionaries. -/
def dict : List (String × String × List String) :=
  [("__new__", "($type, *args, **kwargs)",
      ["Create and return a new object.  See help(type) for accurate signature."]),
    ("__getitem__", "", ["x.__getitem__(y) <==> x[y]"]),
    ("__contains__", "($self, key, /)",
      ["True if the dictionary has the specified key, else False."]),
    ("__sizeof__", "", ["D.__sizeof__() -> size of D in memory, in bytes"]),
    ("get", "($self, key, default=None, /)",
      ["Return the value for key if key is in the dictionary, else default."]),
    ("setdefault", "($self, key, default=None, /)",
      ["Insert key with a value of default if key is not in the dictionary.",
       "",
       "Return the value for key if key is in the dictionary, else default."]),
    ("pop", "($self, key, default=<unrepresentable>, /)",
      ["D.pop(k[,d]) -> v, remove specified key and return the corresponding value.",
       "",
       "If the key is not found, return the default if given; otherwise,",
       "raise a KeyError."]),
    ("popitem", "($self, /)",
      ["Remove and return a (key, value) pair as a 2-tuple.",
       "",
       "Pairs are returned in LIFO (last-in, first-out) order.",
       "Raises KeyError if the dict is empty."]),
    ("keys", "", ["D.keys() -> a set-like object providing a view on D's keys"]),
    ("items", "", ["D.items() -> a set-like object providing a view on D's items"]),
    ("values", "", ["D.values() -> an object providing a view on D's values"]),
    ("update", "",
      ["D.update([E, ]**F) -> None.  Update D from dict/iterable E and F.",
       "If E is present and has a .keys() method, then does:  for k in E: D[k] = E[k]",
       "If E is present and lacks a .keys() method, then does:  for k, v in E: D[k] = v",
       "In either case, this is followed by: for k in F:  D[k] = F[k]"]),
    ("fromkeys", "($type, iterable, value=None, /)",
      ["Create a new dictionary with keys from iterable and values set to value."]),
    ("clear", "", ["D.clear() -> None.  Remove all items from D."]),
    ("copy", "", ["D.copy() -> a shallow copy of D"]),
    ("__reversed__", "($self, /)", ["Return a reverse iterator over the dict keys."]),
    ("__class_getitem__", "", ["See PEP 585"]),
    ("__doc__", "",
      ["dict() -> new empty dictionary",
       "dict(mapping) -> new dictionary initialized from a mapping object's",
       "    (key, value) pairs",
       "dict(iterable) -> new dictionary initialized as if via:",
       "    d = \x7b\x7d",
       "    for k, v in iterable:",
       "        d[k] = v",
       "dict(**kwargs) -> new dictionary initialized with the name=value pairs",
       "    in the keyword argument list.  For example:  dict(one=1, two=2)"])]

/-- Ranges. -/
def range : List (String × String × List String) :=
  [("__new__", "($type, *args, **kwargs)",
      ["Create and return a new object.  See help(type) for accurate signature."]),
    ("__reversed__", "", ["Return a reverse iterator."]),
    ("count", "",
      ["rangeobject.count(value) -> integer -- return number of occurrences of value"]),
    ("index", "",
      ["rangeobject.index(value) -> integer -- return index of value.",
       "Raise ValueError if the value is not present."]),
    ("__doc__", "",
      ["range(stop) -> range object",
       "range(start, stop[, step]) -> range object",
       "",
       "Return an object that produces a sequence of integers from start (inclusive)",
       "to stop (exclusive) by step.  range(i, j) produces i, i+1, i+2, ..., j-1.",
       "start defaults to 0, and stop is omitted!  range(4) produces 0, 1, 2, 3.",
       "These are exactly the valid indices for a list of 4 elements.",
       "When step is given, it specifies the increment (or decrement)."])]

/-- The entries of a kind. -/
def view : List (String × String × List String) :=
  [("__new__", "($type, *args, **kwargs)",
      ["Create and return a new object.  See help(type) for accurate signature."]),
    ("get", "", ["D.get(k[,d]) -> D[k] if k in D, else d.  d defaults to None."]),
    ("keys", "", ["D.keys() -> a set-like object providing a view on D's keys"]),
    ("values", "", ["D.values() -> an object providing a view on D's values"]),
    ("items", "", ["D.items() -> a set-like object providing a view on D's items"]),
    ("copy", "", ["D.copy() -> a shallow copy of D"]),
    ("__class_getitem__", "", ["See PEP 585"]),
    ("__reversed__", "", ["D.__reversed__() -> reverse iterator"])]

/-- The items left in a list. -/
def listStock : List (String × String × List String) :=
  [("__length_hint__", "", ["Private method returning an estimate of len(list(it))."]),
    ("__reduce__", "", ["Return state information for pickling."]),
    ("__setstate__", "", ["Set state information for unpickling."])]

/-- The items left in a tuple. -/
def tupleStock : List (String × String × List String) :=
  [("__length_hint__", "", ["Private method returning an estimate of len(list(it))."]),
    ("__reduce__", "", ["Return state information for pickling."]),
    ("__setstate__", "", ["Set state information for unpickling."])]

/-- The characters left in an ASCII text. -/
def asciiStock : List (String × String × List String) :=
  [("__length_hint__", "", ["Private method returning an estimate of len(list(it))."]),
    ("__reduce__", "", ["Return state information for pickling."]),
    ("__setstate__", "", ["Set state information for unpickling."])]

/-- The characters left in a text. -/
def textStock : List (String × String × List String) :=
  [("__length_hint__", "", ["Private method returning an estimate of len(list(it))."]),
    ("__reduce__", "", ["Return state information for pickling."]),
    ("__setstate__", "", ["Set state information for unpickling."])]

/-- The keys left in a dictionary. -/
def dictStock : List (String × String × List String) :=
  [("__length_hint__", "", ["Private method returning an estimate of len(list(it))."]),
    ("__reduce__", "", ["Return state information for pickling."])]

end SourceLayout.Template.Manual
