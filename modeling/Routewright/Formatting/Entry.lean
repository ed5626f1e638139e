import Routewright.Formatting.Kind

/-!
# Entries of kinds

What can be asked of the subjects of each kind, in the order in which it is listed. An entry has a
signature and a note where they are told.
-/

namespace Routewright.Formatting

/-- How an entry is meant. -/
inductive Form
  /-- An operation that is meant by a sign. -/
  | operator
  /-- An operation that is meant by its name. -/
  | operation
  /-- An operation of the kind itself. -/
  | ofKind
  /-- An operation that needs no subject. -/
  | free
  /-- The operation that makes subjects of the kind. -/
  | maker
  /-- A part of a subject that is worked out. -/
  | attribute
  /-- A part of a subject that is kept in it. -/
  | field
  /-- The note of the kind. -/
  | documentation
  /-- A name that stands for nothing. -/
  | nothing
  deriving DecidableEq, Repr

/-- What can be asked under a name. -/
structure Entry where
  name : String
  form : Form
  signature : Option String := none
  note : Option String := none
  deriving DecidableEq, Repr

/-- An entry by its form. -/
def entry (form : Form) (name : String) (signature note : Option String) : Entry :=
  { name, form, signature, note }

/-- A note in lines. -/
def lines (ls : List String) : Option String :=
  some ("\n".intercalate ls)

/-- The entry that holds the note of a kind. -/
def documentation (note : Option String) : Entry :=
  { name := "__doc__", form := .documentation, note }

/-- The signature and the note of each operator, by its name. -/
def operatorNotes : List (String × String × String) := [
  ("__abs__", "($self, /)", "abs(self)"),
  ("__add__", "($self, value, /)", "Return self+value."),
  ("__and__", "($self, value, /)", "Return self&value."),
  ("__bool__", "($self, /)", "True if self else False"),
  ("__call__", "($self, /, *args, **kwargs)", "Call self as a function."),
  ("__contains__", "($self, key, /)", "Return key in self."),
  ("__delattr__", "($self, name, /)", "Implement delattr(self, name)."),
  ("__delete__", "($self, instance, /)", "Delete an attribute of instance."),
  ("__delitem__", "($self, key, /)", "Delete self[key]."),
  ("__divmod__", "($self, value, /)", "Return divmod(self, value)."),
  ("__eq__", "($self, value, /)", "Return self==value."),
  ("__float__", "($self, /)", "float(self)"),
  ("__floordiv__", "($self, value, /)", "Return self//value."),
  ("__ge__", "($self, value, /)", "Return self>=value."),
  ("__get__", "($self, instance, owner=None, /)",
    "Return an attribute of instance, which is of type owner."),
  ("__getattribute__", "($self, name, /)", "Return getattr(self, name)."),
  ("__getitem__", "($self, key, /)", "Return self[key]."),
  ("__gt__", "($self, value, /)", "Return self>value."),
  ("__hash__", "($self, /)", "Return hash(self)."),
  ("__index__", "($self, /)",
    "Return self converted to an integer, if self is suitable for use as an index into a list."),
  ("__init__", "($self, /, *args, **kwargs)",
    "Initialize self.  See help(type(self)) for accurate signature."),
  ("__int__", "($self, /)", "int(self)"),
  ("__invert__", "($self, /)", "~self"),
  ("__ior__", "($self, value, /)", "Return self|=value."),
  ("__iter__", "($self, /)", "Implement iter(self)."),
  ("__le__", "($self, value, /)", "Return self<=value."),
  ("__len__", "($self, /)", "Return len(self)."),
  ("__lshift__", "($self, value, /)", "Return self<<value."),
  ("__lt__", "($self, value, /)", "Return self<value."),
  ("__mod__", "($self, value, /)", "Return self%value."),
  ("__mul__", "($self, value, /)", "Return self*value."),
  ("__ne__", "($self, value, /)", "Return self!=value."),
  ("__neg__", "($self, /)", "-self"),
  ("__or__", "($self, value, /)", "Return self|value."),
  ("__pos__", "($self, /)", "+self"),
  ("__pow__", "($self, value, mod=None, /)", "Return pow(self, value, mod)."),
  ("__radd__", "($self, value, /)", "Return value+self."),
  ("__rand__", "($self, value, /)", "Return value&self."),
  ("__rdivmod__", "($self, value, /)", "Return divmod(value, self)."),
  ("__repr__", "($self, /)", "Return repr(self)."),
  ("__rfloordiv__", "($self, value, /)", "Return value//self."),
  ("__rlshift__", "($self, value, /)", "Return value<<self."),
  ("__rmod__", "($self, value, /)", "Return value%self."),
  ("__rmul__", "($self, value, /)", "Return value*self."),
  ("__ror__", "($self, value, /)", "Return value|self."),
  ("__rpow__", "($self, value, mod=None, /)", "Return pow(value, self, mod)."),
  ("__rrshift__", "($self, value, /)", "Return value>>self."),
  ("__rshift__", "($self, value, /)", "Return self>>value."),
  ("__rsub__", "($self, value, /)", "Return value-self."),
  ("__rtruediv__", "($self, value, /)", "Return value/self."),
  ("__rxor__", "($self, value, /)", "Return value^self."),
  ("__set__", "($self, instance, value, /)", "Set an attribute of instance to value."),
  ("__setattr__", "($self, name, value, /)", "Implement setattr(self, name, value)."),
  ("__setitem__", "($self, key, value, /)", "Set self[key] to value."),
  ("__str__", "($self, /)", "Return str(self)."),
  ("__sub__", "($self, value, /)", "Return self-value."),
  ("__truediv__", "($self, value, /)", "Return self/value."),
  ("__xor__", "($self, value, /)", "Return self^value.")]

/-- The entries of operators. -/
def operators (names : List String) : List Entry :=
  names.map fun name =>
    let notes := operatorNotes.lookup name
    { name, form := .operator, signature := notes.map (·.1), note := notes.map (·.2) }

/-- The entries of texts. -/
def textEntries : List Entry := [
  entry .maker "__new__" (some "($type, *args, **kwargs)")
    (some "Create and return a new object.  See help(type) for accurate signature.")] ++ operators [
    "__repr__", "__hash__", "__str__", "__getattribute__", "__lt__", "__le__", "__eq__",
    "__ne__", "__gt__", "__ge__", "__iter__", "__mod__", "__rmod__", "__len__", "__getitem__",
    "__add__", "__mul__", "__rmul__", "__contains__"] ++ [
  entry .operation "encode" (some "($self, /, encoding='utf-8', errors='strict')") (lines [
    "Encode the string using the codec registered for encoding.",
    "",
    "  encoding",
    "    The encoding in which to encode the string.",
    "  errors",
    "    The error handling scheme to use for encoding errors.",
    "    The default is 'strict' meaning that encoding errors raise a",
    "    UnicodeEncodeError.  Other possible values are 'ignore', 'replace' and",
    "    'xmlcharrefreplace' as well as any other name registered with",
    "    codecs.register_error that can handle UnicodeEncodeErrors."]),
  entry .operation "replace" (some "($self, old, new, count=-1, /)") (lines [
    "Return a copy with all occurrences of substring old replaced by new.",
    "",
    "  count",
    "    Maximum number of occurrences to replace.",
    "    -1 (the default value) means replace all occurrences.",
    "",
    "If the optional argument count is given, only the first count occurrences are",
    "replaced."]),
  entry .operation "split" (some "($self, /, sep=None, maxsplit=-1)") (lines [
    "Return a list of the substrings in the string, using sep as the separator string.",
    "",
    "  sep",
    "    The separator used to split the string.",
    "",
    "    When set to None (the default value), will split on any whitespace",
    "    character (including \\n \\r \\t \\f and spaces) and will discard",
    "    empty strings from the result.",
    "  maxsplit",
    "    Maximum number of splits.",
    "    -1 (the default value) means no limit.",
    "",
    "Splitting starts at the front of the string and works to the end.",
    "",
    "Note, str.split() is mainly useful for data that has been intentionally",
    "delimited.  With natural text that includes punctuation, consider using",
    "the regular expression module."]),
  entry .operation "rsplit" (some "($self, /, sep=None, maxsplit=-1)") (lines [
    "Return a list of the substrings in the string, using sep as the separator string.",
    "",
    "  sep",
    "    The separator used to split the string.",
    "",
    "    When set to None (the default value), will split on any whitespace",
    "    character (including \\n \\r \\t \\f and spaces) and will discard",
    "    empty strings from the result.",
    "  maxsplit",
    "    Maximum number of splits.",
    "    -1 (the default value) means no limit.",
    "",
    "Splitting starts at the end of the string and works to the front."]),
  entry .operation "join" (some "($self, iterable, /)") (lines [
    "Concatenate any number of strings.",
    "",
    "The string whose method is called is inserted in between each given string.",
    "The result is returned as a new string.",
    "",
    "Example: '.'.join(['ab', 'pq', 'rs']) -> 'ab.pq.rs'"]),
  entry .operation "capitalize" (some "($self, /)") (lines [
    "Return a capitalized version of the string.",
    "",
    "More specifically, make the first character have upper case and the rest lower",
    "case."]),
  entry .operation "casefold" (some "($self, /)")
    (some "Return a version of the string suitable for caseless comparisons."),
  entry .operation "title" (some "($self, /)") (lines [
    "Return a version of the string where each word is titlecased.",
    "",
    "More specifically, words start with uppercased characters and all remaining",
    "cased characters have lower case."]),
  entry .operation "center" (some "($self, width, fillchar=' ', /)") (lines [
    "Return a centered string of length width.",
    "",
    "Padding is done using the specified fill character (default is a space)."]),
  entry .operation "count" none (lines [
    "S.count(sub[, start[, end]]) -> int",
    "",
    "Return the number of non-overlapping occurrences of substring sub in",
    "string S[start:end].  Optional arguments start and end are",
    "interpreted as in slice notation."]),
  entry .operation "expandtabs" (some "($self, /, tabsize=8)") (lines [
    "Return a copy where all tab characters are expanded using spaces.",
    "",
    "If tabsize is not given, a tab size of 8 characters is assumed."]),
  entry .operation "find" none (lines [
    "S.find(sub[, start[, end]]) -> int",
    "",
    "Return the lowest index in S where substring sub is found,",
    "such that sub is contained within S[start:end].  Optional",
    "arguments start and end are interpreted as in slice notation.",
    "",
    "Return -1 on failure."]),
  entry .operation "partition" (some "($self, sep, /)") (lines [
    "Partition the string into three parts using the given separator.",
    "",
    "This will search for the separator in the string.  If the separator is found,",
    "returns a 3-tuple containing the part before the separator, the separator",
    "itself, and the part after it.",
    "",
    "If the separator is not found, returns a 3-tuple containing the original string",
    "and two empty strings."]),
  entry .operation "index" none (lines [
    "S.index(sub[, start[, end]]) -> int",
    "",
    "Return the lowest index in S where substring sub is found,",
    "such that sub is contained within S[start:end].  Optional",
    "arguments start and end are interpreted as in slice notation.",
    "",
    "Raises ValueError when the substring is not found."]),
  entry .operation "ljust" (some "($self, width, fillchar=' ', /)") (lines [
    "Return a left-justified string of length width.",
    "",
    "Padding is done using the specified fill character (default is a space)."]),
  entry .operation "lower" (some "($self, /)")
    (some "Return a copy of the string converted to lowercase."),
  entry .operation "lstrip" (some "($self, chars=None, /)") (lines [
    "Return a copy of the string with leading whitespace removed.",
    "",
    "If chars is given and not None, remove characters in chars instead."]),
  entry .operation "rfind" none (lines [
    "S.rfind(sub[, start[, end]]) -> int",
    "",
    "Return the highest index in S where substring sub is found,",
    "such that sub is contained within S[start:end].  Optional",
    "arguments start and end are interpreted as in slice notation.",
    "",
    "Return -1 on failure."]),
  entry .operation "rindex" none (lines [
    "S.rindex(sub[, start[, end]]) -> int",
    "",
    "Return the highest index in S where substring sub is found,",
    "such that sub is contained within S[start:end].  Optional",
    "arguments start and end are interpreted as in slice notation.",
    "",
    "Raises ValueError when the substring is not found."]),
  entry .operation "rjust" (some "($self, width, fillchar=' ', /)") (lines [
    "Return a right-justified string of length width.",
    "",
    "Padding is done using the specified fill character (default is a space)."]),
  entry .operation "rstrip" (some "($self, chars=None, /)") (lines [
    "Return a copy of the string with trailing whitespace removed.",
    "",
    "If chars is given and not None, remove characters in chars instead."]),
  entry .operation "rpartition" (some "($self, sep, /)") (lines [
    "Partition the string into three parts using the given separator.",
    "",
    "This will search for the separator in the string, starting at the end. If",
    "the separator is found, returns a 3-tuple containing the part before the",
    "separator, the separator itself, and the part after it.",
    "",
    "If the separator is not found, returns a 3-tuple containing two empty strings",
    "and the original string."]),
  entry .operation "splitlines" (some "($self, /, keepends=False)") (lines [
    "Return a list of the lines in the string, breaking at line boundaries.",
    "",
    "Line breaks are not included in the resulting list unless keepends is given and",
    "true."]),
  entry .operation "strip" (some "($self, chars=None, /)") (lines [
    "Return a copy of the string with leading and trailing whitespace removed.",
    "",
    "If chars is given and not None, remove characters in chars instead."]),
  entry .operation "swapcase" (some "($self, /)")
    (some "Convert uppercase characters to lowercase and lowercase characters to uppercase."),
  entry .operation "translate" (some "($self, table, /)") (lines [
    "Replace each character in the string using the given translation table.",
    "",
    "  table",
    "    Translation table, which must be a mapping of Unicode ordinals to",
    "    Unicode ordinals, strings, or None.",
    "",
    "The table must implement lookup/indexing via __getitem__, for instance a",
    "dictionary or list.  If this operation raises LookupError, the character is",
    "left untouched.  Characters mapped to None are deleted."]),
  entry .operation "upper" (some "($self, /)")
    (some "Return a copy of the string converted to uppercase."),
  entry .operation "startswith" none (lines [
    "S.startswith(prefix[, start[, end]]) -> bool",
    "",
    "Return True if S starts with the specified prefix, False otherwise.",
    "With optional start, test S beginning at that position.",
    "With optional end, stop comparing S at that position.",
    "prefix can also be a tuple of strings to try."]),
  entry .operation "endswith" none (lines [
    "S.endswith(suffix[, start[, end]]) -> bool",
    "",
    "Return True if S ends with the specified suffix, False otherwise.",
    "With optional start, test S beginning at that position.",
    "With optional end, stop comparing S at that position.",
    "suffix can also be a tuple of strings to try."]),
  entry .operation "removeprefix" (some "($self, prefix, /)") (lines [
    "Return a str with the given prefix string removed if present.",
    "",
    "If the string starts with the prefix string, return string[len(prefix):].",
    "Otherwise, return a copy of the original string."]),
  entry .operation "removesuffix" (some "($self, suffix, /)") (lines [
    "Return a str with the given suffix string removed if present.",
    "",
    "If the string ends with the suffix string and that suffix is not empty,",
    "return string[:-len(suffix)]. Otherwise, return a copy of the original",
    "string."]),
  entry .operation "isascii" (some "($self, /)") (lines [
    "Return True if all characters in the string are ASCII, False otherwise.",
    "",
    "ASCII characters have code points in the range U+0000-U+007F.",
    "Empty string is ASCII too."]),
  entry .operation "islower" (some "($self, /)") (lines [
    "Return True if the string is a lowercase string, False otherwise.",
    "",
    "A string is lowercase if all cased characters in the string are lowercase and",
    "there is at least one cased character in the string."]),
  entry .operation "isupper" (some "($self, /)") (lines [
    "Return True if the string is an uppercase string, False otherwise.",
    "",
    "A string is uppercase if all cased characters in the string are uppercase and",
    "there is at least one cased character in the string."]),
  entry .operation "istitle" (some "($self, /)") (lines [
    "Return True if the string is a title-cased string, False otherwise.",
    "",
    "In a title-cased string, upper- and title-case characters may only",
    "follow uncased characters and lowercase characters only cased ones."]),
  entry .operation "isspace" (some "($self, /)") (lines [
    "Return True if the string is a whitespace string, False otherwise.",
    "",
    "A string is whitespace if all characters in the string are whitespace and there",
    "is at least one character in the string."]),
  entry .operation "isdecimal" (some "($self, /)") (lines [
    "Return True if the string is a decimal string, False otherwise.",
    "",
    "A string is a decimal string if all characters in the string are decimal and",
    "there is at least one character in the string."]),
  entry .operation "isdigit" (some "($self, /)") (lines [
    "Return True if the string is a digit string, False otherwise.",
    "",
    "A string is a digit string if all characters in the string are digits and there",
    "is at least one character in the string."]),
  entry .operation "isnumeric" (some "($self, /)") (lines [
    "Return True if the string is a numeric string, False otherwise.",
    "",
    "A string is numeric if all characters in the string are numeric and there is at",
    "least one character in the string."]),
  entry .operation "isalpha" (some "($self, /)") (lines [
    "Return True if the string is an alphabetic string, False otherwise.",
    "",
    "A string is alphabetic if all characters in the string are alphabetic and there",
    "is at least one character in the string."]),
  entry .operation "isalnum" (some "($self, /)") (lines [
    "Return True if the string is an alpha-numeric string, False otherwise.",
    "",
    "A string is alpha-numeric if all characters in the string are alpha-numeric and",
    "there is at least one character in the string."]),
  entry .operation "isidentifier" (some "($self, /)") (lines [
    "Return True if the string is a valid Python identifier, False otherwise.",
    "",
    "Call keyword.iskeyword(s) to test whether string s is a reserved identifier,",
    "such as \"def\" or \"class\"."]),
  entry .operation "isprintable" (some "($self, /)") (lines [
    "Return True if the string is printable, False otherwise.",
    "",
    "A string is printable if all of its characters are considered printable in",
    "repr() or if it is empty."]),
  entry .operation "zfill" (some "($self, width, /)") (lines [
    "Pad a numeric string with zeros on the left, to fill a field of the given width.",
    "",
    "The string is never truncated."]),
  entry .operation "format" none (lines [
    "S.format(*args, **kwargs) -> str",
    "",
    "Return a formatted version of S, using substitutions from args and kwargs.",
    "The substitutions are identified by braces ('\x7b' and '\x7d')."]),
  entry .operation "format_map" none (lines [
    "S.format_map(mapping) -> str",
    "",
    "Return a formatted version of S, using substitutions from mapping.",
    "The substitutions are identified by braces ('\x7b' and '\x7d')."]),
  entry .operation "__format__" (some "($self, format_spec, /)")
    (some "Return a formatted version of the string as described by format_spec."),
  entry .free "maketrans" (some "(x, y=<unrepresentable>, z=<unrepresentable>, /)") (lines [
    "Return a translation table usable for str.translate().",
    "",
    "If there is only one argument, it must be a dictionary mapping Unicode",
    "ordinals (integers) or characters to Unicode ordinals, strings or None.",
    "Character keys will be then converted to ordinals.",
    "If there are two arguments, they must be strings of equal length, and",
    "in the resulting dictionary, each character in x will be mapped to the",
    "character at the same position in y. If there is a third argument, it",
    "must be a string, whose characters will be mapped to None in the result."]),
  entry .operation "__sizeof__" (some "($self, /)")
    (some "Return the size of the string in memory, in bytes."),
  entry .operation "__getnewargs__" none none,
  documentation (lines [
    "str(object='') -> str",
    "str(bytes_or_buffer[, encoding[, errors]]) -> str",
    "",
    "Create a new string object from the given object. If encoding or",
    "errors is specified, then the object must expose a data buffer",
    "that will be decoded using the given encoding and error handler.",
    "Otherwise, returns the result of object.__str__() (if defined)",
    "or repr(object).",
    "encoding defaults to sys.getdefaultencoding().",
    "errors defaults to 'strict'."])]

/-- The entries of all subjects. -/
def objectEntries : List Entry := [
  entry .maker "__new__" (some "($type, *args, **kwargs)")
    (some "Create and return a new object.  See help(type) for accurate signature.")] ++ operators [
    "__repr__", "__hash__", "__str__", "__getattribute__", "__setattr__", "__delattr__",
    "__lt__", "__le__", "__eq__", "__ne__", "__gt__", "__ge__", "__init__"] ++ [
  entry .operation "__reduce_ex__" (some "($self, protocol, /)") (some "Helper for pickle."),
  entry .operation "__reduce__" (some "($self, /)") (some "Helper for pickle."),
  entry .operation "__getstate__" (some "($self, /)") (some "Helper for pickle."),
  entry .ofKind "__subclasshook__" none (lines [
    "Abstract classes can override this to customize issubclass().",
    "",
    "This is invoked early on by abc.ABCMeta.__subclasscheck__().",
    "It should return True, False or NotImplemented.  If it returns",
    "NotImplemented, the normal algorithm is used.  Otherwise, it",
    "overrides the normal algorithm (and the outcome is cached).",
    ""]),
  entry .ofKind "__init_subclass__" none (lines [
    "This method is called when a class is subclassed.",
    "",
    "The default implementation does nothing. It may be",
    "overridden to extend subclasses.",
    ""]),
  entry .operation "__format__" (some "($self, format_spec, /)") (some "Default object formatter."),
  entry .operation "__sizeof__" (some "($self, /)") (some "Size of object in memory, in bytes."),
  entry .operation "__dir__" (some "($self, /)") (some "Default dir() implementation."),
  entry .attribute "__class__" none (some "the object's class"),
  documentation (lines [
    "The base class of the class hierarchy.",
    "",
    "When called, it accepts no arguments and returns a new featureless",
    "instance that has no instance attributes and cannot be given any.",
    ""])]

/-- The entries of kinds. -/
def kindEntries : List Entry := [
  entry .maker "__new__" (some "($type, *args, **kwargs)")
    (some "Create and return a new object.  See help(type) for accurate signature.")] ++ operators [
    "__repr__", "__call__", "__getattribute__", "__setattr__", "__delattr__", "__init__",
    "__or__", "__ror__"] ++ [
  entry .operation "mro" (some "($self, /)") (some "Return a type's method resolution order."),
  entry .operation "__subclasses__" (some "($self, /)")
    (some "Return a list of immediate subclasses."),
  entry .ofKind "__prepare__" none (lines [
    "__prepare__() -> dict",
    "used to create the namespace for the class statement"]),
  entry .operation "__instancecheck__" (some "($self, instance, /)")
    (some "Check if an object is an instance."),
  entry .operation "__subclasscheck__" (some "($self, subclass, /)")
    (some "Check if a class is a subclass."),
  entry .operation "__dir__" (some "($self, /)")
    (some "Specialized __dir__ implementation for types."),
  entry .operation "__sizeof__" (some "($self, /)")
    (some "Return memory consumption of the type object."),
  entry .field "__basicsize__" none none,
  entry .field "__itemsize__" none none,
  entry .field "__flags__" none none,
  entry .field "__weakrefoffset__" none none,
  entry .field "__base__" none none,
  entry .field "__dictoffset__" none none,
  entry .field "__mro__" none none,
  entry .attribute "__name__" none none,
  entry .attribute "__qualname__" none none,
  entry .attribute "__bases__" none none,
  entry .attribute "__module__" none none,
  entry .attribute "__abstractmethods__" none none,
  entry .attribute "__dict__" none none,
  entry .attribute "__doc__" none none,
  entry .attribute "__text_signature__" none none,
  entry .attribute "__annotations__" none none]

/-- The entries of what is nothing. -/
def nothingEntries : List Entry := [
  entry .maker "__new__" (some "($type, *args, **kwargs)")
    (some "Create and return a new object.  See help(type) for accurate signature.")] ++ operators [
    "__repr__", "__bool__"] ++ [
  entry .nothing "__doc__" none none]

/-- The entries of rows. -/
def rowEntries : List Entry := [
  entry .maker "__new__" (some "($type, *args, **kwargs)")
    (some "Create and return a new object.  See help(type) for accurate signature.")] ++ operators [
    "__repr__", "__hash__", "__getattribute__", "__lt__", "__le__", "__eq__", "__ne__",
    "__gt__", "__ge__", "__iter__", "__len__", "__getitem__", "__add__", "__mul__", "__rmul__",
    "__contains__"] ++ [
  entry .operation "__getnewargs__" (some "($self, /)") none,
  entry .operation "index" (some "($self, value, start=0, stop=sys.maxsize, /)") (lines [
    "Return first index of value.",
    "",
    "Raises ValueError if the value is not present."]),
  entry .operation "count" (some "($self, value, /)")
    (some "Return number of occurrences of value."),
  entry .ofKind "__class_getitem__" none (some "See PEP 585"),
  documentation (lines [
    "Built-in immutable sequence.",
    "",
    "If no argument is given, the constructor returns an empty tuple.",
    "If iterable is specified the tuple is initialized from iterable's items.",
    "",
    "If the argument is a tuple, the return value is the same object."])]

/-- The entries of integers. -/
def integerEntries : List Entry := [
  entry .maker "__new__" (some "($type, *args, **kwargs)")
    (some "Create and return a new object.  See help(type) for accurate signature.")] ++ operators [
    "__repr__", "__hash__", "__getattribute__", "__lt__", "__le__", "__eq__", "__ne__",
    "__gt__", "__ge__", "__add__", "__radd__", "__sub__", "__rsub__", "__mul__", "__rmul__",
    "__mod__", "__rmod__", "__divmod__", "__rdivmod__", "__pow__", "__rpow__", "__neg__",
    "__pos__", "__abs__", "__bool__", "__invert__", "__lshift__", "__rlshift__", "__rshift__",
    "__rrshift__", "__and__", "__rand__", "__xor__", "__rxor__", "__or__", "__ror__",
    "__int__", "__float__", "__floordiv__", "__rfloordiv__", "__truediv__", "__rtruediv__",
    "__index__"] ++ [
  entry .operation "conjugate" none (some "Returns self, the complex conjugate of any int."),
  entry .operation "bit_length" (some "($self, /)") (lines [
    "Number of bits necessary to represent self in binary.",
    "",
    ">>> bin(37)",
    "'0b100101'",
    ">>> (37).bit_length()",
    "6"]),
  entry .operation "bit_count" (some "($self, /)") (lines [
    "Number of ones in the binary representation of the absolute value of self.",
    "",
    "Also known as the population count.",
    "",
    ">>> bin(13)",
    "'0b1101'",
    ">>> (13).bit_count()",
    "3"]),
  entry .operation "to_bytes"
    (some "($self, /, length=1, byteorder='big', *, signed=False)") (lines [
    "Return an array of bytes representing an integer.",
    "",
    "  length",
    "    Length of bytes object to use.  An OverflowError is raised if the",
    "    integer is not representable with the given number of bytes.  Default",
    "    is length 1.",
    "  byteorder",
    "    The byte order used to represent the integer.  If byteorder is 'big',",
    "    the most significant byte is at the beginning of the byte array.  If",
    "    byteorder is 'little', the most significant byte is at the end of the",
    "    byte array.  To request the native byte order of the host system, use",
    "    `sys.byteorder' as the byte order value.  Default is to use 'big'.",
    "  signed",
    "    Determines whether two's complement is used to represent the integer.",
    "    If signed is False and a negative integer is given, an OverflowError",
    "    is raised."]),
  entry .ofKind "from_bytes" (some "($type, /, bytes, byteorder='big', *, signed=False)") (lines [
    "Return the integer represented by the given array of bytes.",
    "",
    "  bytes",
    "    Holds the array of bytes to convert.  The argument must either",
    "    support the buffer protocol or be an iterable object producing bytes.",
    "    Bytes and bytearray are examples of built-in objects that support the",
    "    buffer protocol.",
    "  byteorder",
    "    The byte order used to represent the integer.  If byteorder is 'big',",
    "    the most significant byte is at the beginning of the byte array.  If",
    "    byteorder is 'little', the most significant byte is at the end of the",
    "    byte array.  To request the native byte order of the host system, use",
    "    `sys.byteorder' as the byte order value.  Default is to use 'big'.",
    "  signed",
    "    Indicates whether two's complement is used to represent the integer."]),
  entry .operation "as_integer_ratio" (some "($self, /)") (lines [
    "Return integer ratio.",
    "",
    "Return a pair of integers, whose ratio is exactly equal to the original int",
    "and with a positive denominator.",
    "",
    ">>> (10).as_integer_ratio()",
    "(10, 1)",
    ">>> (-10).as_integer_ratio()",
    "(-10, 1)",
    ">>> (0).as_integer_ratio()",
    "(0, 1)"]),
  entry .operation "__trunc__" none (some "Truncating an Integral returns itself."),
  entry .operation "__floor__" none (some "Flooring an Integral returns itself."),
  entry .operation "__ceil__" none (some "Ceiling of an Integral returns itself."),
  entry .operation "__round__" (some "($self, ndigits=<unrepresentable>, /)") (lines [
    "Rounding an Integral returns itself.",
    "",
    "Rounding with an ndigits argument also returns an integer."]),
  entry .operation "__getnewargs__" (some "($self, /)") none,
  entry .operation "__format__" (some "($self, format_spec, /)") none,
  entry .operation "__sizeof__" (some "($self, /)") (some "Returns size in memory, in bytes."),
  entry .attribute "real" none (some "the real part of a complex number"),
  entry .attribute "imag" none (some "the imaginary part of a complex number"),
  entry .attribute "numerator" none (some "the numerator of a rational number in lowest terms"),
  entry .attribute "denominator" none (some "the denominator of a rational number in lowest terms"),
  documentation (lines [
    "int([x]) -> integer",
    "int(x, base=10) -> integer",
    "",
    "Convert a number or string to an integer, or return 0 if no arguments",
    "are given.  If x is a number, return x.__int__().  For floating point",
    "numbers, this truncates towards zero.",
    "",
    "If x is not a number or if base is given, then x must be a string,",
    "bytes, or bytearray instance representing an integer literal in the",
    "given base.  The literal can be preceded by '+' or '-' and be surrounded",
    "by whitespace.  The base defaults to 10.  Valid bases are 0 and 2-36.",
    "Base 0 means to interpret the base from the string as an integer literal.",
    ">>> int('0b100', base=0)",
    "4"])]

/-- The entries of truth values. -/
def truthEntries : List Entry := [
  entry .maker "__new__" (some "($type, *args, **kwargs)")
    (some "Create and return a new object.  See help(type) for accurate signature.")] ++ operators [
    "__repr__", "__and__", "__rand__", "__xor__", "__rxor__", "__or__", "__ror__"] ++ [
  documentation (lines [
    "bool(x) -> bool",
    "",
    "Returns True when the argument x is true, False otherwise.",
    "The builtins True and False are the only two instances of the class bool.",
    "The class bool is a subclass of the class int, and cannot be subclassed."])]

/-- The entries of views of the entries of a kind. -/
def viewEntries : List Entry := [
  entry .maker "__new__" (some "($type, *args, **kwargs)")
    (some "Create and return a new object.  See help(type) for accurate signature.")] ++ operators [
    "__repr__", "__str__", "__getattribute__", "__lt__", "__le__", "__eq__", "__ne__",
    "__gt__", "__ge__", "__iter__", "__or__", "__ror__", "__ior__", "__len__", "__getitem__",
    "__contains__"] ++ [
  entry .operation "get" none (some "D.get(k[,d]) -> D[k] if k in D, else d.  d defaults to None."),
  entry .operation "keys" none (some "D.keys() -> a set-like object providing a view on D's keys"),
  entry .operation "values" none (some "D.values() -> an object providing a view on D's values"),
  entry .operation "items" none
    (some "D.items() -> a set-like object providing a view on D's items"),
  entry .operation "copy" none (some "D.copy() -> a shallow copy of D"),
  entry .ofKind "__class_getitem__" none (some "See PEP 585"),
  entry .operation "__reversed__" none (some "D.__reversed__() -> reverse iterator"),
  entry .nothing "__doc__" none none,
  entry .nothing "__hash__" none none]

/-- The entries of operations of a subject. -/
def operationEntries : List Entry := operators [
    "__repr__", "__hash__", "__call__", "__getattribute__", "__lt__", "__le__", "__eq__",
    "__ne__", "__gt__", "__ge__"] ++ [
  entry .operation "__reduce__" none none,
  entry .field "__module__" none none,
  entry .attribute "__doc__" none none,
  entry .attribute "__name__" none none,
  entry .attribute "__qualname__" none none,
  entry .attribute "__self__" none none,
  entry .attribute "__text_signature__" none none]

/-- The entries of operators of a subject. -/
def operatorEntries : List Entry := operators [
    "__repr__", "__hash__", "__call__", "__getattribute__", "__lt__", "__le__", "__eq__",
    "__ne__", "__gt__", "__ge__"] ++ [
  entry .operation "__reduce__" none none,
  entry .field "__self__" none none,
  entry .attribute "__objclass__" none none,
  entry .attribute "__name__" none none,
  entry .attribute "__qualname__" none none,
  entry .attribute "__doc__" none none,
  entry .attribute "__text_signature__" none none]

/-- The entries of operations of all subjects of a kind. -/
def anyOperationEntries : List Entry := operators [
    "__repr__", "__call__", "__getattribute__", "__get__"] ++ [
  entry .operation "__reduce__" none none,
  entry .field "__objclass__" none none,
  entry .field "__name__" none none,
  entry .attribute "__doc__" none none,
  entry .attribute "__qualname__" none none,
  entry .attribute "__text_signature__" none none]

/-- The entries of operators of all subjects of a kind. -/
def anyOperatorEntries : List Entry := operators [
    "__repr__", "__call__", "__getattribute__", "__get__"] ++ [
  entry .operation "__reduce__" none none,
  entry .field "__objclass__" none none,
  entry .field "__name__" none none,
  entry .attribute "__doc__" none none,
  entry .attribute "__qualname__" none none,
  entry .attribute "__text_signature__" none none]

/-- The entries of attributes. -/
def attributeEntries : List Entry := operators [
    "__repr__", "__getattribute__", "__get__", "__set__", "__delete__"] ++ [
  entry .field "__objclass__" none none,
  entry .field "__name__" none none,
  entry .attribute "__doc__" none none,
  entry .attribute "__qualname__" none none]

/-- The entries of fields. -/
def fieldEntries : List Entry := operators [
    "__repr__", "__getattribute__", "__get__", "__set__", "__delete__"] ++ [
  entry .operation "__reduce__" none none,
  entry .field "__objclass__" none none,
  entry .field "__name__" none none,
  entry .attribute "__doc__" none none,
  entry .attribute "__qualname__" none none]

/-- The entries of operations of a kind itself. -/
def kindOperationEntries : List Entry := operators [
    "__repr__", "__call__", "__getattribute__", "__get__"] ++ [
  entry .field "__objclass__" none none,
  entry .field "__name__" none none,
  entry .attribute "__doc__" none none,
  entry .attribute "__qualname__" none none,
  entry .attribute "__text_signature__" none none]

/-- The entries of operations of no subject. -/
def freeOperationEntries : List Entry := [
  entry .maker "__new__" (some "($type, *args, **kwargs)")
    (some "Create and return a new object.  See help(type) for accurate signature.")] ++ operators [
    "__repr__", "__call__", "__get__", "__init__"] ++ [
  entry .field "__func__" none none,
  entry .field "__wrapped__" none none,
  entry .attribute "__isabstractmethod__" none none,
  entry .attribute "__dict__" none none,
  documentation (lines [
    "staticmethod(function) -> method",
    "",
    "Convert a function to be a static method.",
    "",
    "A static method does not receive an implicit first argument.",
    "To declare a static method, use this idiom:",
    "",
    "     class C:",
    "         @staticmethod",
    "         def f(arg1, arg2, argN):",
    "             ...",
    "",
    "It can be called either on the class (e.g. C.f()) or on an instance",
    "(e.g. C().f()). Both the class and the instance are ignored, and",
    "neither is passed implicitly as the first argument to the method.",
    "",
    "Static methods in Python are similar to those found in Java or C++.",
    "For a more advanced concept, see the classmethod builtin."])]

/-- The entries of tables. -/
def tableEntries : List Entry := [
  entry .maker "__new__" (some "($type, *args, **kwargs)")
    (some "Create and return a new object.  See help(type) for accurate signature.")] ++ operators [
    "__repr__"] ++ [
  entry .nothing "__hash__" none none] ++ operators [
    "__getattribute__", "__lt__", "__le__", "__eq__", "__ne__", "__gt__", "__ge__", "__iter__",
    "__init__", "__or__", "__ror__", "__ior__", "__len__"] ++ [
  entry .operation "__getitem__" none (some "x.__getitem__(y) <==> x[y]")] ++ operators [
    "__setitem__", "__delitem__"] ++ [
  entry .operation "__contains__" (some "($self, key, /)")
    (some "True if the dictionary has the specified key, else False."),
  entry .operation "__sizeof__" none (some "D.__sizeof__() -> size of D in memory, in bytes"),
  entry .operation "get" (some "($self, key, default=None, /)")
    (some "Return the value for key if key is in the dictionary, else default."),
  entry .operation "setdefault" (some "($self, key, default=None, /)") (lines [
    "Insert key with a value of default if key is not in the dictionary.",
    "",
    "Return the value for key if key is in the dictionary, else default."]),
  entry .operation "pop" (some "($self, key, default=<unrepresentable>, /)") (lines [
    "D.pop(k[,d]) -> v, remove specified key and return the corresponding value.",
    "",
    "If the key is not found, return the default if given; otherwise,",
    "raise a KeyError."]),
  entry .operation "popitem" (some "($self, /)") (lines [
    "Remove and return a (key, value) pair as a 2-tuple.",
    "",
    "Pairs are returned in LIFO (last-in, first-out) order.",
    "Raises KeyError if the dict is empty."]),
  entry .operation "keys" none (some "D.keys() -> a set-like object providing a view on D's keys"),
  entry .operation "items" none
    (some "D.items() -> a set-like object providing a view on D's items"),
  entry .operation "values" none (some "D.values() -> an object providing a view on D's values"),
  entry .operation "update" none (lines [
    "D.update([E, ]**F) -> None.  Update D from dict/iterable E and F.",
    "If E is present and has a .keys() method, then does:  for k in E: D[k] = E[k]",
    "If E is present and lacks a .keys() method, then does:  for k, v in E: D[k] = v",
    "In either case, this is followed by: for k in F:  D[k] = F[k]"]),
  entry .ofKind "fromkeys" (some "($type, iterable, value=None, /)")
    (some "Create a new dictionary with keys from iterable and values set to value."),
  entry .operation "clear" none (some "D.clear() -> None.  Remove all items from D."),
  entry .operation "copy" none (some "D.copy() -> a shallow copy of D"),
  entry .operation "__reversed__" (some "($self, /)")
    (some "Return a reverse iterator over the dict keys."),
  entry .ofKind "__class_getitem__" none (some "See PEP 585"),
  documentation (lines [
    "dict() -> new empty dictionary",
    "dict(mapping) -> new dictionary initialized from a mapping object's",
    "    (key, value) pairs",
    "dict(iterable) -> new dictionary initialized as if via:",
    "    d = \x7b\x7d",
    "    for k, v in iterable:",
    "        d[k] = v",
    "dict(**kwargs) -> new dictionary initialized with the name=value pairs",
    "    in the keyword argument list.  For example:  dict(one=1, two=2)"])]

/-- The entries of kinds that are applied. -/
def appliedEntries : List Entry := [
  entry .maker "__new__" (some "($type, *args, **kwargs)")
    (some "Create and return a new object.  See help(type) for accurate signature.")] ++ operators [
    "__repr__", "__hash__", "__call__", "__getattribute__", "__lt__", "__le__", "__eq__",
    "__ne__", "__gt__", "__ge__", "__iter__", "__or__", "__ror__", "__getitem__"] ++ [
  entry .operation "__mro_entries__" none none,
  entry .operation "__instancecheck__" none none,
  entry .operation "__subclasscheck__" none none,
  entry .operation "__reduce__" none none,
  entry .operation "__dir__" none none,
  entry .field "__origin__" none none,
  entry .field "__args__" none none,
  entry .field "__unpacked__" none none,
  entry .attribute "__parameters__" none (some "Type variables in the GenericAlias."),
  entry .attribute "__typing_unpacked_tuple_args__" none none,
  documentation (lines [
    "Represent a PEP 585 generic type",
    "",
    "E.g. for t = list[int], t.__origin__ is list and t.__args__ is (int,)."])]

/-- The entries of a kind. -/
def Kind.entries : Kind → List Entry
  | .text => textEntries
  | .object => objectEntries
  | .kind => kindEntries
  | .nothing => nothingEntries
  | .row => rowEntries
  | .integer => integerEntries
  | .truth => truthEntries
  | .view => viewEntries
  | .operation => operationEntries
  | .operator => operatorEntries
  | .anyOperation => anyOperationEntries
  | .anyOperator => anyOperatorEntries
  | .attribute => attributeEntries
  | .field => fieldEntries
  | .kindOperation => kindOperationEntries
  | .freeOperation => freeOperationEntries
  | .table => tableEntries
  | .applied => appliedEntries

end Routewright.Formatting
