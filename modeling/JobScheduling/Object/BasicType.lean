import JobScheduling.Text.Trim

/-!
The types that are always there, known by their names: each has a base, the type that it inherits from, and
members of its own. A member is found in the first type of the line of bases that has one of its name.
-/

namespace JobScheduling

/-! ### Members -/

/-- How a member of a basic type is reached. -/
inductive MemberSort where
  /-- An operation that stands behind a notation, such as comparing. -/
  | slot
  /-- A method of the objects of the type. -/
  | method
  /-- A method of the type itself. -/
  | typeMethod
  /-- A function that is kept under the type. -/
  | function
  /-- A value that is computed from the object. -/
  | field
  /-- A value that is a part of the object. -/
  | part
  /-- The mark that an inherited operation is not there. -/
  | null
deriving DecidableEq, Repr, Inhabited

/-- A type that is always there: its name, the name of its base, and its own members, as words. -/
structure BasicType where
  name : String
  base : String
  members : List (MemberSort × List String)
deriving Repr, Inhabited

namespace BasicType

/-- The sort of an own member. -/
def sort? (t : BasicType) (name : String) : Option MemberSort :=
  (t.members.find? fun m => m.2.any fun s => (Text.words s.toList).contains name.toList).map (·.1)

/-! ### Types -/

/-- What everything is made of: objects, types, functions, methods and modules. -/
def coreTypes : List BasicType :=
  [⟨"object", "", [
    (.slot, ["__delattr__ __eq__ __ge__ __getattribute__ __gt__ __hash__ __init__ __le__ __lt__ __ne__",
      "__repr__ __setattr__ __str__"]),
    (.method, ["__dir__ __format__ __getstate__ __reduce__ __reduce_ex__ __sizeof__"]),
    (.typeMethod, ["__init_subclass__ __subclasshook__"]),
    (.function, ["__new__"]),
    (.field, ["__class__"])]⟩,
   ⟨"type", "object", [
    (.slot, ["__call__ __delattr__ __getattribute__ __init__ __or__ __repr__ __ror__ __setattr__"]),
    (.method, ["__dir__ __instancecheck__ __sizeof__ __subclasscheck__ __subclasses__ mro"]),
    (.typeMethod, ["__prepare__"]),
    (.function, ["__new__"]),
    (.field, ["__abstractmethods__ __annotations__ __bases__ __dict__ __doc__ __module__ __name__ __qualname__",
      "__text_signature__"]),
    (.part, ["__base__ __basicsize__ __dictoffset__ __flags__ __itemsize__ __mro__ __weakrefoffset__"])]⟩,
   ⟨"function", "object", [
    (.slot, ["__call__ __get__ __repr__"]),
    (.function, ["__new__"]),
    (.field, ["__annotations__ __code__ __defaults__ __dict__ __kwdefaults__ __name__ __qualname__"]),
    (.part, ["__builtins__ __closure__ __doc__ __globals__ __module__"])]⟩,
   ⟨"method", "object", [
    (.slot, ["__call__ __delattr__ __eq__ __ge__ __getattribute__ __gt__ __hash__ __le__ __lt__ __ne__",
      "__repr__ __setattr__"]),
    (.method, ["__reduce__"]),
    (.function, ["__new__"]),
    (.field, ["__doc__"]),
    (.part, ["__func__ __self__"])]⟩,
   ⟨"builtin_function_or_method", "object", [
    (.slot, ["__call__ __eq__ __ge__ __getattribute__ __gt__ __hash__ __le__ __lt__ __ne__ __repr__"]),
    (.method, ["__reduce__"]),
    (.field, ["__doc__ __name__ __qualname__ __self__ __text_signature__"]),
    (.part, ["__module__"])]⟩,
   ⟨"method-wrapper", "object", [
    (.slot, ["__call__ __eq__ __ge__ __getattribute__ __gt__ __hash__ __le__ __lt__ __ne__ __repr__"]),
    (.method, ["__reduce__"]),
    (.field, ["__doc__ __name__ __objclass__ __qualname__ __text_signature__"]),
    (.part, ["__self__"])]⟩,
   ⟨"wrapper_descriptor", "object", [
    (.slot, ["__call__ __get__ __getattribute__ __repr__"]),
    (.method, ["__reduce__"]),
    (.field, ["__doc__ __qualname__ __text_signature__"]),
    (.part, ["__name__ __objclass__"])]⟩,
   ⟨"method_descriptor", "object", [
    (.slot, ["__call__ __get__ __getattribute__ __repr__"]),
    (.method, ["__reduce__"]),
    (.field, ["__doc__ __qualname__ __text_signature__"]),
    (.part, ["__name__ __objclass__"])]⟩,
   ⟨"classmethod_descriptor", "object", [
    (.slot, ["__call__ __get__ __getattribute__ __repr__"]),
    (.field, ["__doc__ __qualname__ __text_signature__"]),
    (.part, ["__name__ __objclass__"])]⟩,
   ⟨"getset_descriptor", "object", [
    (.slot, ["__delete__ __get__ __getattribute__ __repr__ __set__"]),
    (.field, ["__doc__ __qualname__"]),
    (.part, ["__name__ __objclass__"])]⟩,
   ⟨"member_descriptor", "object", [
    (.slot, ["__delete__ __get__ __getattribute__ __repr__ __set__"]),
    (.method, ["__reduce__"]),
    (.field, ["__doc__ __qualname__"]),
    (.part, ["__name__ __objclass__"])]⟩,
   ⟨"module", "object", [
    (.slot, ["__delattr__ __getattribute__ __init__ __repr__ __setattr__"]),
    (.method, ["__dir__"]),
    (.function, ["__new__"]),
    (.field, ["__annotations__"]),
    (.part, ["__dict__"])]⟩,
   ⟨"code", "object", [
    (.slot, ["__eq__ __ge__ __getattribute__ __gt__ __hash__ __le__ __lt__ __ne__ __repr__"]),
    (.method, ["__sizeof__ _varname_from_oparg co_lines co_positions replace"]),
    (.function, ["__new__"]),
    (.field, ["_co_code_adaptive co_cellvars co_code co_freevars co_lnotab co_varnames"]),
    (.part, ["co_argcount co_consts co_exceptiontable co_filename co_firstlineno co_flags co_kwonlyargcount",
      "co_linetable co_name co_names co_nlocals co_posonlyargcount co_qualname co_stacksize"])]⟩,
   ⟨"partial", "object", [
    (.slot, ["__call__ __delattr__ __getattribute__ __repr__ __setattr__"]),
    (.method, ["__reduce__ __setstate__"]),
    (.typeMethod, ["__class_getitem__"]),
    (.function, ["__new__"]),
    (.field, ["__dict__"]),
    (.part, ["__vectorcalloffset__ args func keywords"])]⟩,
   ⟨"mappingproxy", "object", [
    (.slot, ["__contains__ __eq__ __ge__ __getattribute__ __getitem__ __gt__ __ior__ __iter__ __le__ __len__",
      "__lt__ __ne__ __or__ __repr__ __ror__ __str__"]),
    (.method, ["__reversed__ copy get items keys values"]),
    (.typeMethod, ["__class_getitem__"]),
    (.function, ["__new__"]),
    (.null, ["__doc__ __hash__"])]⟩,
   ⟨"NoneType", "object", [
    (.slot, ["__bool__ __repr__"]),
    (.function, ["__new__"]),
    (.null, ["__doc__"])]⟩]

/-- Numbers, texts and collections. -/
def valueTypes : List BasicType :=
  [⟨"int", "object", [
    (.slot, ["__abs__ __add__ __and__ __bool__ __divmod__ __eq__ __float__ __floordiv__ __ge__",
      "__getattribute__ __gt__ __hash__ __index__ __int__ __invert__ __le__ __lshift__ __lt__ __mod__",
      "__mul__ __ne__ __neg__ __or__ __pos__ __pow__ __radd__ __rand__ __rdivmod__ __repr__",
      "__rfloordiv__ __rlshift__ __rmod__ __rmul__ __ror__ __rpow__ __rrshift__ __rshift__ __rsub__",
      "__rtruediv__ __rxor__ __sub__ __truediv__ __xor__"]),
    (.method, ["__ceil__ __floor__ __format__ __getnewargs__ __round__ __sizeof__ __trunc__ as_integer_ratio",
      "bit_count bit_length conjugate to_bytes"]),
    (.typeMethod, ["from_bytes"]),
    (.function, ["__new__"]),
    (.field, ["denominator imag numerator real"])]⟩,
   ⟨"bool", "int", [
    (.slot, ["__and__ __or__ __rand__ __repr__ __ror__ __rxor__ __xor__"]),
    (.function, ["__new__"])]⟩,
   ⟨"float", "object", [
    (.slot, ["__abs__ __add__ __bool__ __divmod__ __eq__ __float__ __floordiv__ __ge__ __getattribute__ __gt__",
      "__hash__ __int__ __le__ __lt__ __mod__ __mul__ __ne__ __neg__ __pos__ __pow__ __radd__",
      "__rdivmod__ __repr__ __rfloordiv__ __rmod__ __rmul__ __rpow__ __rsub__ __rtruediv__ __sub__",
      "__truediv__"]),
    (.method, ["__ceil__ __floor__ __format__ __getnewargs__ __round__ __trunc__ as_integer_ratio conjugate hex",
      "is_integer"]),
    (.typeMethod, ["__getformat__ fromhex"]),
    (.function, ["__new__"]),
    (.field, ["imag real"])]⟩,
   ⟨"complex", "object", [
    (.slot, ["__abs__ __add__ __bool__ __eq__ __ge__ __getattribute__ __gt__ __hash__ __le__ __lt__ __mul__",
      "__ne__ __neg__ __pos__ __pow__ __radd__ __repr__ __rmul__ __rpow__ __rsub__ __rtruediv__ __sub__",
      "__truediv__"]),
    (.method, ["__complex__ __format__ __getnewargs__ conjugate"]),
    (.function, ["__new__"]),
    (.part, ["imag real"])]⟩,
   ⟨"str", "object", [
    (.slot, ["__add__ __contains__ __eq__ __ge__ __getattribute__ __getitem__ __gt__ __hash__ __iter__ __le__",
      "__len__ __lt__ __mod__ __mul__ __ne__ __repr__ __rmod__ __rmul__ __str__"]),
    (.method, ["__format__ __getnewargs__ __sizeof__ capitalize casefold center count encode endswith expandtabs",
      "find format format_map index isalnum isalpha isascii isdecimal isdigit isidentifier islower",
      "isnumeric isprintable isspace istitle isupper join ljust lower lstrip partition removeprefix",
      "removesuffix replace rfind rindex rjust rpartition rsplit rstrip split splitlines startswith",
      "strip swapcase title translate upper zfill"]),
    (.function, ["__new__ maketrans"])]⟩,
   ⟨"bytes", "object", [
    (.slot, ["__add__ __contains__ __eq__ __ge__ __getattribute__ __getitem__ __gt__ __hash__ __iter__ __le__",
      "__len__ __lt__ __mod__ __mul__ __ne__ __repr__ __rmod__ __rmul__ __str__"]),
    (.method, ["__bytes__ __getnewargs__ capitalize center count decode endswith expandtabs find hex index",
      "isalnum isalpha isascii isdigit islower isspace istitle isupper join ljust lower lstrip",
      "partition removeprefix removesuffix replace rfind rindex rjust rpartition rsplit rstrip split",
      "splitlines startswith strip swapcase title translate upper zfill"]),
    (.typeMethod, ["fromhex"]),
    (.function, ["__new__ maketrans"])]⟩,
   ⟨"bytearray", "object", [
    (.slot, ["__add__ __contains__ __delitem__ __eq__ __ge__ __getattribute__ __getitem__ __gt__ __iadd__",
      "__imul__ __init__ __iter__ __le__ __len__ __lt__ __mod__ __mul__ __ne__ __repr__ __rmod__",
      "__rmul__ __setitem__ __str__"]),
    (.method, ["__alloc__ __reduce__ __reduce_ex__ __sizeof__ append capitalize center clear copy count decode",
      "endswith expandtabs extend find hex index insert isalnum isalpha isascii isdigit islower isspace",
      "istitle isupper join ljust lower lstrip partition pop remove removeprefix removesuffix replace",
      "reverse rfind rindex rjust rpartition rsplit rstrip split splitlines startswith strip swapcase",
      "title translate upper zfill"]),
    (.typeMethod, ["fromhex"]),
    (.function, ["__new__ maketrans"]),
    (.null, ["__hash__"])]⟩,
   ⟨"list", "object", [
    (.slot, ["__add__ __contains__ __delitem__ __eq__ __ge__ __getattribute__ __gt__ __iadd__ __imul__",
      "__init__ __iter__ __le__ __len__ __lt__ __mul__ __ne__ __repr__ __rmul__ __setitem__"]),
    (.method, ["__getitem__ __reversed__ __sizeof__ append clear copy count extend index insert pop remove",
      "reverse sort"]),
    (.typeMethod, ["__class_getitem__"]),
    (.function, ["__new__"]),
    (.null, ["__hash__"])]⟩,
   ⟨"tuple", "object", [
    (.slot, ["__add__ __contains__ __eq__ __ge__ __getattribute__ __getitem__ __gt__ __hash__ __iter__ __le__",
      "__len__ __lt__ __mul__ __ne__ __repr__ __rmul__"]),
    (.method, ["__getnewargs__ count index"]),
    (.typeMethod, ["__class_getitem__"]),
    (.function, ["__new__"])]⟩,
   ⟨"dict", "object", [
    (.slot, ["__delitem__ __eq__ __ge__ __getattribute__ __gt__ __init__ __ior__ __iter__ __le__ __len__",
      "__lt__ __ne__ __or__ __repr__ __ror__ __setitem__"]),
    (.method, ["__contains__ __getitem__ __reversed__ __sizeof__ clear copy get items keys pop popitem",
      "setdefault update values"]),
    (.typeMethod, ["__class_getitem__ fromkeys"]),
    (.function, ["__new__"]),
    (.null, ["__hash__"])]⟩,
   ⟨"set", "object", [
    (.slot, ["__and__ __eq__ __ge__ __getattribute__ __gt__ __iand__ __init__ __ior__ __isub__ __iter__",
      "__ixor__ __le__ __len__ __lt__ __ne__ __or__ __rand__ __repr__ __ror__ __rsub__ __rxor__ __sub__",
      "__xor__"]),
    (.method, ["__contains__ __reduce__ __sizeof__ add clear copy difference difference_update discard",
      "intersection intersection_update isdisjoint issubset issuperset pop remove symmetric_difference",
      "symmetric_difference_update union update"]),
    (.typeMethod, ["__class_getitem__"]),
    (.function, ["__new__"]),
    (.null, ["__hash__"])]⟩,
   ⟨"frozenset", "object", [
    (.slot, ["__and__ __eq__ __ge__ __getattribute__ __gt__ __hash__ __iter__ __le__ __len__ __lt__ __ne__",
      "__or__ __rand__ __repr__ __ror__ __rsub__ __rxor__ __sub__ __xor__"]),
    (.method, ["__contains__ __reduce__ __sizeof__ copy difference intersection isdisjoint issubset issuperset",
      "symmetric_difference union"]),
    (.typeMethod, ["__class_getitem__"]),
    (.function, ["__new__"])]⟩,
   ⟨"range", "object", [
    (.slot, ["__bool__ __contains__ __eq__ __ge__ __getattribute__ __getitem__ __gt__ __hash__ __iter__ __le__",
      "__len__ __lt__ __ne__ __repr__"]),
    (.method, ["__reduce__ __reversed__ count index"]),
    (.function, ["__new__"]),
    (.part, ["start step stop"])]⟩]

/-- Types that go with the collections and with the making of types. -/
def helperTypes : List BasicType :=
  [⟨"slice", "object", [
    (.slot, ["__eq__ __ge__ __getattribute__ __gt__ __le__ __lt__ __ne__ __repr__"]),
    (.method, ["__reduce__ indices"]),
    (.function, ["__new__"]),
    (.part, ["start step stop"]),
    (.null, ["__hash__"])]⟩,
   ⟨"memoryview", "object", [
    (.slot, ["__delitem__ __eq__ __ge__ __getattribute__ __getitem__ __gt__ __hash__ __iter__ __le__ __len__",
      "__lt__ __ne__ __repr__ __setitem__"]),
    (.method, ["__enter__ __exit__ cast hex release tobytes tolist toreadonly"]),
    (.function, ["__new__"]),
    (.field, ["c_contiguous contiguous f_contiguous format itemsize nbytes ndim obj readonly shape strides",
      "suboffsets"])]⟩,
   ⟨"enumerate", "object", [
    (.slot, ["__getattribute__ __iter__ __next__"]),
    (.method, ["__reduce__"]),
    (.typeMethod, ["__class_getitem__"]),
    (.function, ["__new__"])]⟩,
   ⟨"zip", "object", [
    (.slot, ["__getattribute__ __iter__ __next__"]),
    (.method, ["__reduce__ __setstate__"]),
    (.function, ["__new__"])]⟩,
   ⟨"map", "object", [
    (.slot, ["__getattribute__ __iter__ __next__"]),
    (.method, ["__reduce__"]),
    (.function, ["__new__"])]⟩,
   ⟨"filter", "object", [
    (.slot, ["__getattribute__ __iter__ __next__"]),
    (.method, ["__reduce__"]),
    (.function, ["__new__"])]⟩,
   ⟨"reversed", "object", [
    (.slot, ["__getattribute__ __iter__ __next__"]),
    (.method, ["__length_hint__ __reduce__ __setstate__"]),
    (.function, ["__new__"])]⟩,
   ⟨"property", "object", [
    (.slot, ["__delete__ __get__ __getattribute__ __init__ __set__"]),
    (.method, ["__set_name__ deleter getter setter"]),
    (.function, ["__new__"]),
    (.field, ["__isabstractmethod__"]),
    (.part, ["__doc__ fdel fget fset"])]⟩,
   ⟨"staticmethod", "object", [
    (.slot, ["__call__ __get__ __init__ __repr__"]),
    (.function, ["__new__"]),
    (.field, ["__dict__ __isabstractmethod__"]),
    (.part, ["__func__ __wrapped__"])]⟩,
   ⟨"classmethod", "object", [
    (.slot, ["__get__ __init__ __repr__"]),
    (.function, ["__new__"]),
    (.field, ["__dict__ __isabstractmethod__"]),
    (.part, ["__func__ __wrapped__"])]⟩,
   ⟨"super", "object", [
    (.slot, ["__get__ __getattribute__ __init__ __repr__"]),
    (.function, ["__new__"]),
    (.part, ["__self__ __self_class__ __thisclass__"])]⟩]

/-- The types of failures that have members of their own. -/
def failureTypes : List BasicType :=
  [⟨"BaseException", "object", [
    (.slot, ["__delattr__ __getattribute__ __init__ __repr__ __setattr__ __str__"]),
    (.method, ["__reduce__ __setstate__ add_note with_traceback"]),
    (.function, ["__new__"]),
    (.field, ["__cause__ __context__ __dict__ __traceback__ args"]),
    (.part, ["__suppress_context__"])]⟩,
   ⟨"OSError", "Exception", [
    (.slot, ["__init__ __str__"]),
    (.method, ["__reduce__"]),
    (.function, ["__new__"]),
    (.field, ["characters_written"]),
    (.part, ["errno filename filename2 strerror"])]⟩,
   ⟨"ImportError", "Exception", [
    (.slot, ["__init__ __str__"]),
    (.method, ["__reduce__"]),
    (.part, ["msg name path"])]⟩,
   ⟨"SyntaxError", "Exception", [
    (.slot, ["__init__ __str__"]),
    (.part, ["end_lineno end_offset filename lineno msg offset print_file_and_line text"])]⟩,
   ⟨"UnicodeDecodeError", "UnicodeError", [
    (.slot, ["__init__ __str__"]),
    (.function, ["__new__"]),
    (.part, ["encoding end object reason start"])]⟩,
   ⟨"UnicodeEncodeError", "UnicodeError", [
    (.slot, ["__init__ __str__"]),
    (.function, ["__new__"]),
    (.part, ["encoding end object reason start"])]⟩,
   ⟨"UnicodeTranslateError", "UnicodeError", [
    (.slot, ["__init__ __str__"]),
    (.function, ["__new__"]),
    (.part, ["encoding end object reason start"])]⟩,
   ⟨"AttributeError", "Exception", [
    (.slot, ["__init__ __str__"]),
    (.part, ["name obj"])]⟩,
   ⟨"NameError", "Exception", [
    (.slot, ["__init__ __str__"]),
    (.part, ["name"])]⟩,
   ⟨"KeyError", "LookupError", [
    (.slot, ["__init__ __str__"])]⟩,
   ⟨"StopIteration", "Exception", [
    (.slot, ["__init__"]),
    (.part, ["value"])]⟩,
   ⟨"SystemExit", "BaseException", [
    (.slot, ["__init__"]),
    (.part, ["code"])]⟩,
   ⟨"BaseExceptionGroup", "BaseException", [
    (.slot, ["__init__ __str__"]),
    (.method, ["derive split subgroup"]),
    (.typeMethod, ["__class_getitem__"]),
    (.function, ["__new__"]),
    (.part, ["exceptions message"])]⟩]

/-- Failures that have no members but those for making one: the base, whether they are made in a way of their own,
    and the names. -/
def plainFailures : List (String × Bool × List String) :=
  [("BaseException", true, ["Exception", "GeneratorExit", "KeyboardInterrupt"]),
   ("BaseExceptionGroup", false, ["ExceptionGroup"]),
   ("Exception", true, ["ArithmeticError", "AssertionError", "BufferError", "EOFError", "LookupError",
      "MemoryError", "ReferenceError", "RuntimeError", "StopAsyncIteration", "SystemError", "TypeError",
      "ValueError", "Warning"]),
   ("ArithmeticError", true, ["FloatingPointError", "OverflowError", "ZeroDivisionError"]),
   ("ConnectionError", false, ["BrokenPipeError", "ConnectionAbortedError", "ConnectionRefusedError",
      "ConnectionResetError"]),
   ("ImportError", false, ["ModuleNotFoundError"]),
   ("SyntaxError", false, ["IndentationError"]),
   ("IndentationError", false, ["TabError"]),
   ("LookupError", true, ["IndexError"]),
   ("NameError", false, ["UnboundLocalError"]),
   ("OSError", false, ["BlockingIOError", "ChildProcessError", "ConnectionError", "FileExistsError",
      "FileNotFoundError", "InterruptedError", "IsADirectoryError", "NotADirectoryError", "PermissionError",
      "ProcessLookupError", "TimeoutError"]),
   ("RuntimeError", true, ["NotImplementedError", "RecursionError"]),
   ("ValueError", true, ["UnicodeError"]),
   ("Warning", true, ["BytesWarning", "DeprecationWarning", "EncodingWarning", "FutureWarning", "ImportWarning",
      "PendingDeprecationWarning", "ResourceWarning", "RuntimeWarning", "SyntaxWarning", "UnicodeWarning",
      "UserWarning"])]

/-- All types that are always there. -/
def all : List BasicType :=
  coreTypes ++ valueTypes ++ helperTypes ++ failureTypes ++ plainFailures.flatMap fun f =>
    f.2.2.map fun name => ⟨name, f.1, [(.slot, ["__init__"]), (.function, if f.2.1 then ["__new__"] else [])]⟩

/-- The type of a name. -/
def find? (name : String) : Option BasicType := all.find? fun t => t.name == name

/-- The bases of a type, the type itself first, as far as `steps` go. -/
def lineageWithin : Nat → String → List String
  | 0, _ => []
  | steps + 1, name =>
    match find? name with
    | some t => name :: lineageWithin steps t.base
    | none => if name = "" then [] else [name, "object"]

/-- The type of a name and those that it inherits from, the nearest first. -/
def lineage (name : String) : List String := lineageWithin (all.length + 1) name

/-- The module that a type belongs to. -/
def module (name : String) : String := if name = "partial" then "functools" else "builtins"

end BasicType
end JobScheduling
