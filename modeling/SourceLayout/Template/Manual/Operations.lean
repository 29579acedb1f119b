import SourceLayout.Template.Kind

/-! What operations are for, by name. -/

namespace SourceLayout.Template.Manual

/-- What operations are for. -/
def operations : List (String × String × List String) :=
  [("__repr__", "($self, /)", ["Return repr(self)."]),
    ("__hash__", "($self, /)", ["Return hash(self)."]),
    ("__str__", "($self, /)", ["Return str(self)."]),
    ("__getattribute__", "($self, name, /)", ["Return getattr(self, name)."]),
    ("__setattr__", "($self, name, value, /)", ["Implement setattr(self, name, value)."]),
    ("__delattr__", "($self, name, /)", ["Implement delattr(self, name)."]),
    ("__lt__", "($self, value, /)", ["Return self<value."]),
    ("__le__", "($self, value, /)", ["Return self<=value."]),
    ("__eq__", "($self, value, /)", ["Return self==value."]),
    ("__ne__", "($self, value, /)", ["Return self!=value."]),
    ("__gt__", "($self, value, /)", ["Return self>value."]),
    ("__ge__", "($self, value, /)", ["Return self>=value."]),
    ("__init__", "($self, /, *args, **kwargs)",
      ["Initialize self.  See help(type(self)) for accurate signature."]),
    ("__call__", "($self, /, *args, **kwargs)", ["Call self as a function."]),
    ("__or__", "($self, value, /)", ["Return self|value."]),
    ("__ror__", "($self, value, /)", ["Return value|self."]),
    ("__bool__", "($self, /)", ["True if self else False"]),
    ("__and__", "($self, value, /)", ["Return self&value."]),
    ("__rand__", "($self, value, /)", ["Return value&self."]),
    ("__xor__", "($self, value, /)", ["Return self^value."]),
    ("__rxor__", "($self, value, /)", ["Return value^self."]),
    ("__add__", "($self, value, /)", ["Return self+value."]),
    ("__radd__", "($self, value, /)", ["Return value+self."]),
    ("__sub__", "($self, value, /)", ["Return self-value."]),
    ("__rsub__", "($self, value, /)", ["Return value-self."]),
    ("__mul__", "($self, value, /)", ["Return self*value."]),
    ("__rmul__", "($self, value, /)", ["Return value*self."]),
    ("__mod__", "($self, value, /)", ["Return self%value."]),
    ("__rmod__", "($self, value, /)", ["Return value%self."]),
    ("__divmod__", "($self, value, /)", ["Return divmod(self, value)."]),
    ("__rdivmod__", "($self, value, /)", ["Return divmod(value, self)."]),
    ("__pow__", "($self, value, mod=None, /)", ["Return pow(self, value, mod)."]),
    ("__rpow__", "($self, value, mod=None, /)", ["Return pow(value, self, mod)."]),
    ("__neg__", "($self, /)", ["-self"]),
    ("__pos__", "($self, /)", ["+self"]),
    ("__abs__", "($self, /)", ["abs(self)"]),
    ("__invert__", "($self, /)", ["~self"]),
    ("__lshift__", "($self, value, /)", ["Return self<<value."]),
    ("__rlshift__", "($self, value, /)", ["Return value<<self."]),
    ("__rshift__", "($self, value, /)", ["Return self>>value."]),
    ("__rrshift__", "($self, value, /)", ["Return value>>self."]),
    ("__int__", "($self, /)", ["int(self)"]),
    ("__float__", "($self, /)", ["float(self)"]),
    ("__floordiv__", "($self, value, /)", ["Return self//value."]),
    ("__rfloordiv__", "($self, value, /)", ["Return value//self."]),
    ("__truediv__", "($self, value, /)", ["Return self/value."]),
    ("__rtruediv__", "($self, value, /)", ["Return value/self."]),
    ("__index__", "($self, /)",
      ["Return self converted to an integer, if self is suitable for use as an index " ++
          "into a list."]),
    ("__iter__", "($self, /)", ["Implement iter(self)."]),
    ("__len__", "($self, /)", ["Return len(self)."]),
    ("__getitem__", "($self, key, /)", ["Return self[key]."]),
    ("__contains__", "($self, key, /)", ["Return key in self."]),
    ("__setitem__", "($self, key, value, /)", ["Set self[key] to value."]),
    ("__delitem__", "($self, key, /)", ["Delete self[key]."]),
    ("__iadd__", "($self, value, /)", ["Implement self+=value."]),
    ("__imul__", "($self, value, /)", ["Implement self*=value."]),
    ("__ior__", "($self, value, /)", ["Return self|=value."]),
    ("__get__", "($self, instance, owner=None, /)",
      ["Return an attribute of instance, which is of type owner."]),
    ("__set__", "($self, instance, value, /)", ["Set an attribute of instance to value."]),
    ("__delete__", "($self, instance, /)", ["Delete an attribute of instance."]),
    ("__next__", "($self, /)", ["Implement next(self)."])]

end SourceLayout.Template.Manual
