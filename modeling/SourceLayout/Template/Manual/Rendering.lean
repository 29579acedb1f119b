import SourceLayout.Template.Kind

/-! What belongs to the objects that come with templates, and what it is for. -/

namespace SourceLayout.Template.Manual

/-- Cycles. -/
def cycler : List (String × String × List String) :=
  [("__doc__", "",
      ["Cycle through values by yield them one at a time, then restarting",
       "    once the end is reached. Available as ``cycler`` in templates.",
       "",
       "    Similar to ``loop.cycle``, but can be used outside loops or across",
       "    multiple loops. For example, render a list of folders and files in a",
       "    list, alternating giving them \"odd\" and \"even\" classes.",
       "",
       "    .. code-block:: html+jinja",
       "",
       "        \x7b% set row_class = cycler(\"odd\", \"even\") %\x7d",
       "        <ul class=\"browser\">",
       "        \x7b% for folder in folders %\x7d",
       "          <li class=\"folder \x7b\x7b row_class.next() \x7d\x7d\">\x7b\x7b folder " ++
          "\x7d\x7d",
       "        \x7b% endfor %\x7d",
       "        \x7b% for file in files %\x7d",
       "          <li class=\"file \x7b\x7b row_class.next() \x7d\x7d\">\x7b\x7b file \x7d\x7d",
       "        \x7b% endfor %\x7d",
       "        </ul>",
       "",
       "    :param items: Each positional argument will be yielded in the order",
       "        given for each cycle.",
       "",
       "    .. versionadded:: 2.1",
       "    "]),
    ("reset", "", ["Resets the current item to the first item."]),
    ("current", "",
      ["Return the current item. Equivalent to the item that will be",
       "        returned next time :meth:`next` is called.",
       "        "]),
    ("next", "",
      ["Return the current item, then advance :attr:`current` to the",
       "        next item.",
       "        "]),
    ("__dict__", "", ["dictionary for instance variables"]),
    ("__weakref__", "", ["list of weak references to the object"])]

/-- Separators. -/
def joiner : List (String × String × List String) :=
  [("__doc__", "", ["A joining helper for templates."]),
    ("__dict__", "", ["dictionary for instance variables"]),
    ("__weakref__", "", ["list of weak references to the object"])]

/-- Attributes. -/
def attributeBag : List (String × String × List String) :=
  [("__doc__", "",
      ["A namespace object that can hold arbitrary attributes.  It may be",
       "    initialized from a dictionary or with keyword arguments."]),
    ("__dict__", "", ["dictionary for instance variables"]),
    ("__weakref__", "", ["list of weak references to the object"])]

/-- Loops. -/
def loop : List (String × String × List String) :=
  [("__doc__", "",
      ["A wrapper iterable for dynamic ``for`` loops, with information",
       "    about the loop and iteration.",
       "    "]),
    ("__init__", "",
      ["",
       "        :param iterable: Iterable to wrap.",
       "        :param undefined: :class:`Undefined` class to use for next and",
       "            previous items.",
       "        :param recurse: The function to render the loop body when the",
       "            loop is marked recursive.",
       "        :param depth0: Incremented when looping recursively.",
       "        "]),
    ("length", "",
      ["Length of the iterable.",
       "",
       "        If the iterable is a generator or otherwise does not have a",
       "        size, it is eagerly evaluated to get a size.",
       "        "]),
    ("depth", "", ["How many levels deep a recursive loop currently is, starting at 1."]),
    ("index", "", ["Current iteration of the loop, starting at 1."]),
    ("revindex0", "",
      ["Number of iterations from the end of the loop, ending at 0.",
       "",
       "        Requires calculating :attr:`length`.",
       "        "]),
    ("revindex", "",
      ["Number of iterations from the end of the loop, ending at 1.",
       "",
       "        Requires calculating :attr:`length`.",
       "        "]),
    ("first", "", ["Whether this is the first iteration of the loop."]),
    ("_peek_next", "",
      ["Return the next element in the iterable, or :data:`missing`",
       "        if the iterable is exhausted. Only peeks one item ahead, caching",
       "        the result in :attr:`_last` for use in subsequent checks. The",
       "        cache is reset when :meth:`__next__` is called.",
       "        "]),
    ("last", "",
      ["Whether this is the last iteration of the loop.",
       "",
       "        Causes the iterable to advance early. See",
       "        :func:`itertools.groupby` for issues this can cause.",
       "        The :func:`groupby` filter avoids that issue.",
       "        "]),
    ("previtem", "",
      ["The item in the previous iteration. Undefined during the",
       "        first iteration.",
       "        "]),
    ("nextitem", "",
      ["The item in the next iteration. Undefined during the last",
       "        iteration.",
       "",
       "        Causes the iterable to advance early. See",
       "        :func:`itertools.groupby` for issues this can cause.",
       "        The :func:`jinja-filters.groupby` filter avoids that issue.",
       "        "]),
    ("cycle", "",
      ["Return a value from the given args, cycling through based on",
       "        the current :attr:`index0`.",
       "",
       "        :param args: One or more values to cycle through.",
       "        "]),
    ("changed", "",
      ["Return ``True`` if previously called with a different value",
       "        (including when called for the first time).",
       "",
       "        :param value: One or more values to check for changes.",
       "        "]),
    ("__call__", "",
      ["When iterating over nested data, render the body of the loop",
       "        recursively with the given inner iterable data.",
       "",
       "        The loop must have the ``recursive`` marker for this to work.",
       "        "]),
    ("__dict__", "", ["dictionary for instance variables"]),
    ("__weakref__", "", ["list of weak references to the object"])]

/-- Templates. -/
def template : List (String × String × List String) :=
  [("__doc__", "", ["The `self` in templates."]),
    ("__dict__", "", ["dictionary for instance variables"]),
    ("__weakref__", "", ["list of weak references to the object"])]

/-- What a template is rendered in. -/
def context : List (String × String × List String) :=
  [("__doc__", "",
      ["The template context holds the variables of a template.  It stores the",
       "    values passed to the template and also the names the template exports.",
       "    Creating instances is neither supported nor useful as it's created",
       "    automatically at various stages of the template evaluation and should not",
       "    be created by hand.",
       "",
       "    The context is immutable.  Modifications on :attr:`parent` **must not**",
       "    happen and modifications on :attr:`vars` are allowed from generated",
       "    template code only.  Template filters and global functions marked as",
       "    :func:`pass_context` get the active context passed as first argument",
       "    and are allowed to access the context read-only.",
       "",
       "    The template context supports read only dict operations (`get`,",
       "    `keys`, `values`, `items`, `iterkeys`, `itervalues`, `iteritems`,",
       "    `__getitem__`, `__contains__`).  Additionally there is a :meth:`resolve`",
       "    method that doesn't fail with a `KeyError` but returns an",
       "    :class:`Undefined` object for missing variables.",
       "    "]),
    ("super", "", ["Render a parent block."]),
    ("get", "",
      ["Look up a variable by name, or return a default if the key is",
       "        not found.",
       "",
       "        :param key: The variable name to look up.",
       "        :param default: The value to return if the key is not found.",
       "        "]),
    ("resolve", "",
      ["Look up a variable by name, or return an :class:`Undefined`",
       "        object if the key is not found.",
       "",
       "        If you need to add custom behavior, override",
       "        :meth:`resolve_or_missing`, not this method. The various lookup",
       "        functions use that method, not this one.",
       "",
       "        :param key: The variable name to look up.",
       "        "]),
    ("resolve_or_missing", "",
      ["Look up a variable by name, or return a ``missing`` sentinel",
       "        if the key is not found.",
       "",
       "        Override this method to add custom lookup behavior.",
       "        :meth:`resolve`, :meth:`get`, and :meth:`__getitem__` use this",
       "        method. Don't call this method directly.",
       "",
       "        :param key: The variable name to look up.",
       "        "]),
    ("get_exported", "", ["Get a new dict with the exported variables."]),
    ("get_all", "",
      ["Return the complete context as dict including the exported",
       "        variables.  For optimizations reasons this might not return an",
       "        actual copy so be careful with using it.",
       "        "]),
    ("call", "",
      ["Call the callable with the arguments and keyword arguments",
       "        provided but inject the active context or environment as first",
       "        argument if the callable has :func:`pass_context` or",
       "        :func:`pass_environment`.",
       "        "]),
    ("derived", "",
      ["Internal helper function to create a derived context.  This is",
       "        used in situations where the system needs a new context in the same",
       "        template that is independent.",
       "        "]),
    ("__getitem__", "",
      ["Look up a variable by name with ``[]`` syntax, or raise a",
       "        ``KeyError`` if the key is not found.",
       "        "]),
    ("__dict__", "", ["dictionary for instance variables"]),
    ("__weakref__", "", ["list of weak references to the object"])]

/-- What stands for nothing. -/
def lenientUndefined : List (String × String × List String) :=
  [("__doc__", "",
      ["The default undefined type.  This undefined type can be printed and",
       "    iterated over, but every other access will raise an :exc:`UndefinedError`:",
       "",
       "    >>> foo = Undefined(name='foo')",
       "    >>> str(foo)",
       "    ''",
       "    >>> not foo",
       "    True",
       "    >>> foo + 42",
       "    Traceback (most recent call last):",
       "      ...",
       "    jinja2.exceptions.UndefinedError: 'foo' is undefined",
       "    "]),
    ("_undefined_message", "",
      ["Build a message about the undefined value based on how it was",
       "        accessed.",
       "        "]),
    ("_fail_with_undefined_error", "",
      ["Raise an :exc:`UndefinedError` when operations are performed",
       "        on the undefined value.",
       "        "])]

/-- What stands for nothing and fails. -/
def undefined : List (String × String × List String) :=
  [("__doc__", "",
      ["An undefined that barks on print and iteration as well as boolean",
       "    tests and all kinds of comparisons.  In other words: you can do nothing",
       "    with it except checking if it's defined using the `defined` test.",
       "",
       "    >>> foo = StrictUndefined(name='foo')",
       "    >>> str(foo)",
       "    Traceback (most recent call last):",
       "      ...",
       "    jinja2.exceptions.UndefinedError: 'foo' is undefined",
       "    >>> not foo",
       "    Traceback (most recent call last):",
       "      ...",
       "    jinja2.exceptions.UndefinedError: 'foo' is undefined",
       "    >>> foo + 42",
       "    Traceback (most recent call last):",
       "      ...",
       "    jinja2.exceptions.UndefinedError: 'foo' is undefined",
       "    "])]

/-- Faults of what stands for nothing. -/
def undefinedFault : List (String × String × List String) :=
  [("__doc__", "", ["Raised if a template tries to operate on :class:`Undefined`."])]

/-- Faults while rendering. -/
def renderingFault : List (String × String × List String) :=
  [("__doc__", "",
      ["A generic runtime error in the template engine.  Under some situations",
       "    Jinja may raise this exception.",
       "    "])]

/-- Faults of templates. -/
def templateFault : List (String × String × List String) :=
  [("__doc__", "", ["Baseclass for all template errors."]),
    ("__weakref__", "", ["list of weak references to the object"])]

/-- Faults. -/
def exception : List (String × String × List String) :=
  [("__new__", "($type, *args, **kwargs)",
      ["Create and return a new object.  See help(type) for accurate signature."]),
    ("__doc__", "", ["Common base class for all non-exit exceptions."])]

/-- All faults. -/
def baseException : List (String × String × List String) :=
  [("__new__", "($type, *args, **kwargs)",
      ["Create and return a new object.  See help(type) for accurate signature."]),
    ("with_traceback", "",
      ["Exception.with_traceback(tb) --",
       "    set self.__traceback__ to tb and return self."]),
    ("add_note", "", ["Exception.add_note(note) --", "    add a note to the exception"]),
    ("__context__", "", ["exception context"]),
    ("__cause__", "", ["exception cause"]),
    ("__doc__", "", ["Common base class for all exceptions"])]

/-- Fillers. -/
def filler : List (String × String × List String) :=
  [("generate_lorem_ipsum", "", ["Generate some lorem ipsum for the template."])]

end SourceLayout.Template.Manual
