import JobScheduling.Catalogue.Outline
import JobScheduling.Function.Json
import JobScheduling.Function.Language
import JobScheduling.Function.Mathematics
import JobScheduling.Function.Operator
import JobScheduling.Function.Path

/-!
The modules that are always there: the language itself, with its types and functions, and the modules beside it,
which are known in outline. A function that takes plain values and gives one computes its result.
-/

namespace JobScheduling
namespace Standard

open Value JobScheduling.Function

/-! ### The language -/

/-- Types that have no name in the language. -/
def unnamedTypes : List String :=
  BasicType.coreTypes.map (·.name) |>.filter fun name => name != "object" && name != "type"

/-- Functions of the language that are known by name only. -/
def unknownFunctions : List String :=
  Outline.words ["aiter anext breakpoint compile delattr dir eval exec globals id input isinstance issubclass",
    "iter locals next open setattr vars __build_class__ __import__"]

/-- The member of a name of a value, and whether there is one. -/
def lookups : List (String × Method) :=
  [("getattr", fun args =>
      match args with
      | [v, text name] => do (← (Entity.data v).member name).asValue
      | [v, text name, other] => (((Entity.data v).member? name).map Entity.asValue).getD (.ok other)
      | _ => wrongArguments),
   ("hasattr", fun args =>
      match args with
      | [v, text name] => .ok (bool ((Entity.data v).member? name).isSome)
      | _ => wrongArguments)]

/-- The language itself as a module. -/
def languageModule : String × Entity :=
  let function := fun (name : String) (run : Method) => (name, Entity.function "builtins" name run)
  let types := (BasicType.all.map (·.name)).filter fun name => !unnamedTypes.contains name
  ("builtins", .module "builtins" (
    types.map (fun name => (name, .type (.basic name))) ++
    ["IOError", "EnvironmentError"].map (fun name => (name, .type (.basic "OSError"))) ++
    (language ++ lookups).map (fun f => function f.1 f.2) ++
    unknownFunctions.map (fun name => function name fun _ => notKnown) ++
    [("True", .data (bool true)), ("False", .data (bool false)), ("None", .data null),
      ("__debug__", .data (bool true)), ("Ellipsis", .sole "ellipsis"), ("NotImplemented", .sole "NotImplementedType")]))

/-! ### Outlines -/

/-- The modules beside the language, in outline. -/
def outlines : List Outline :=
  [{ name := "math",
     functions := ["acos acosh asin asinh atan atan2 atanh cbrt ceil comb copysign cos cosh degrees dist erf",
                   "erfc exp exp2 expm1 fabs factorial floor fmod frexp fsum gamma gcd hypot isclose isfinite",
                   "isinf isnan isqrt lcm ldexp lgamma log log10 log1p log2 modf nextafter perm pow prod",
                   "radians remainder sin sinh sqrt tan tanh trunc ulp"] },
   { name := "operator",
     home := "_operator",
     functions := ["abs add and_ call concat contains countOf delitem eq floordiv ge getitem gt iadd iand",
                   "iconcat ifloordiv ilshift imatmul imod imul index indexOf inv invert ior ipow irshift is_",
                   "is_not isub itruediv ixor le length_hint lshift lt matmul mod mul ne neg not_ or_ pos pow",
                   "rshift setitem sub truediv truth xor"],
     types := ["attrgetter itemgetter methodcaller"] },
   { name := "posixpath",
     routines := ["abspath basename commonpath dirname exists expanduser getsize isabs isdir isfile islink join",
                  "normcase normpath realpath relpath split splitdrive splitext"],
     values := [("curdir", .text "."), ("extsep", .text "."), ("pardir", .text ".."), ("pathsep", .text ":"),
                ("sep", .text "/")],
     others := [("altsep", "NoneType")] },
   { name := "json",
     routines := ["dump dumps load loads"],
     types := ["JSONDecodeError JSONDecoder JSONEncoder"],
     methods := [("JSONDecoder", ["decode raw_decode"]),
                 ("JSONEncoder", ["default encode iterencode"])],
     others := [("decoder", "module"), ("encoder", "module")] },
   { name := "copy",
     routines := ["copy deepcopy"],
     types := ["Error error=Error"] },
   { name := "string",
     routines := ["capwords"],
     types := ["Formatter Template"],
     methods := [("Formatter", ["check_unused_args convert_field format format_field get_field get_value parse",
                                "vformat"]),
                 ("Template", ["get_identifiers is_valid safe_substitute substitute"])],
     values := [("ascii_letters", .text "abcdefghijklmnopqrstuvwxyzABCDEFGHIJKLMNOPQRSTUVWXYZ"),
                ("ascii_lowercase", .text "abcdefghijklmnopqrstuvwxyz"),
                ("ascii_uppercase", .text "ABCDEFGHIJKLMNOPQRSTUVWXYZ"), ("digits", .text "0123456789"),
                ("hexdigits", .text "0123456789abcdefABCDEF"), ("octdigits", .text "01234567"),
                ("printable", .text ("0123456789abcdefghijklmnopqrstuvwxyzABCDEFGHIJKLMNOPQRSTUVWXYZ" ++
                  "!\"#$%&'()*+,-./:;<=>?@[\\]^_`\x7b|\x7d~ \t\n\r\x0b\x0c")),
                ("punctuation", .text "!\"#$%&'()*+,-./:;<=>?@[\\]^_`\x7b|\x7d~"),
                ("whitespace", .text " \t\n\r\x0b\x0c")] },
   { name := "time",
     functions := ["asctime ctime gmtime localtime mktime monotonic monotonic_ns perf_counter perf_counter_ns",
                   "process_time sleep strftime strptime time time_ns"],
     types := ["struct_time"],
     values := [("timezone", .int 0)],
     others := [("tzname", "tuple")] },
   { name := "datetime",
     types := ["date datetime time timedelta timezone tzinfo"],
     methods := [("date", ["ctime fromisocalendar fromisoformat fromordinal fromtimestamp isocalendar isoformat",
                           "isoweekday replace strftime timetuple today toordinal weekday"]),
                 ("datetime", ["astimezone combine ctime date dst fromisoformat fromtimestamp isoformat now",
                               "replace strptime time timestamp timetuple timetz tzname utcfromtimestamp utcnow",
                               "utcoffset utctimetuple"]),
                 ("time", ["dst fromisoformat isoformat replace strftime tzname utcoffset"]),
                 ("timedelta", ["total_seconds"]),
                 ("timezone", ["dst fromutc tzname utcoffset"])],
     values := [("MAXYEAR", .int 9999), ("MINYEAR", .int 1)],
     others := [("UTC", "timezone")] },
   { name := "collections",
     routines := ["namedtuple"],
     types := ["ChainMap Counter OrderedDict UserDict UserList UserString defaultdict deque"],
     methods := [("ChainMap", ["clear copy fromkeys get new_child pop popitem"]),
                 ("Counter", ["copy elements fromkeys most_common subtract total update"]),
                 ("OrderedDict", ["clear copy fromkeys items keys move_to_end pop popitem setdefault update",
                                  "values"]),
                 ("defaultdict", ["copy"]),
                 ("deque", ["append appendleft clear copy count extend extendleft index insert pop popleft",
                            "remove reverse rotate"])] },
   { name := "functools",
     home := "_functools",
     functions := ["cmp_to_key reduce"],
     routines := ["cache lru_cache singledispatch total_ordering update_wrapper wraps"],
     types := ["cached_property partial partialmethod"] },
   { name := "itertools",
     functions := ["tee"],
     types := ["accumulate chain combinations combinations_with_replacement compress count cycle dropwhile",
               "filterfalse groupby islice pairwise permutations product repeat starmap takewhile zip_longest"],
     methods := [("chain", ["from_iterable"])] },
   { name := "logging",
     routines := ["addLevelName basicConfig critical debug disable error exception getLevelName getLogger info",
                  "log warn warning"],
     types := ["FileHandler Filter Formatter Handler LogRecord Logger LoggerAdapter NullHandler StreamHandler"],
     methods := [("Logger", ["addHandler callHandlers critical debug error exception fatal findCaller getChild",
                             "getEffectiveLevel handle hasHandlers info isEnabledFor log makeRecord",
                             "removeHandler setLevel warn warning"])],
     values := [("CRITICAL", .int 50), ("DEBUG", .int 10), ("ERROR", .int 40), ("FATAL", .int 50),
                ("INFO", .int 20), ("NOTSET", .int 0), ("WARN", .int 30), ("WARNING", .int 30)],
     others := [("root", "RootLogger")] },
   { name := "re",
     routines := ["compile escape findall finditer fullmatch match search split sub subn"],
     types := ["Match Pattern error"] },
   { name := "importlib",
     routines := ["find_loader import_module invalidate_caches reload"] },
   { name := "os",
     home := "posix",
     functions := ["abort access chdir chmod close cpu_count fspath getcwd getpid getppid getuid kill link",
                   "listdir mkdir open putenv read remove rename replace rmdir scandir stat strerror symlink",
                   "system times umask unlink urandom write"],
     routines := ["fsdecode=_fscodec.<locals>.fsdecode fsencode=_fscodec.<locals>.fsencode getenv makedirs",
                  "popen removedirs walk"],
     types := ["DirEntry PathLike error=OSError"],
     values := [("O_CREAT", .int 64), ("O_RDONLY", .int 0), ("O_RDWR", .int 2), ("O_WRONLY", .int 1),
                ("curdir", .text "."), ("devnull", .text "/dev/null"), ("extsep", .text "."),
                ("linesep", .text "\n"), ("name", .text "posix"), ("pardir", .text ".."), ("pathsep", .text ":"),
                ("sep", .text "/")],
     others := [("altsep", "NoneType"), ("environ", "_Environ")] },
   { name := "sys",
     functions := ["exc_info exit getrecursionlimit getsizeof intern setrecursionlimit"],
     values := [("byteorder", .text "little"), ("maxsize", .int 9223372036854775807),
                ("maxunicode", .int 1114111), ("platform", .text "linux")],
     others := [("argv", "list"), ("modules", "dict"), ("path", "list"), ("stderr", "TextIOWrapper"),
                ("stdin", "TextIOWrapper"), ("stdout", "TextIOWrapper"), ("version_info", "version_info")] }]

/-! ### By name -/

/-- The words of a text, each with a capital letter in front and the others small, separated by blanks. -/
def capitalizedWords (s : List Char) : List Char :=
  Text.join [' '] ((Text.words s).map Text.capitalize)

/-- To wait for some seconds. -/
def wait (v : Value) : Outcome Value := do
  if (← v.binary).isNegative then .error (.badValue "sleep length must be non-negative") else .ok null

/-- What is known of the functions of a module. -/
def computed : List (String × List (String × Method)) :=
  [("math", math), ("operator", operators), ("posixpath", paths), ("json", [("dumps", of1 jsonText)]),
   ("copy", [("copy", of1 .ok), ("deepcopy", of1 .ok)]),
   ("string", [("capwords", ofText fun s => ofChars (capitalizedWords s))]), ("time", [("sleep", of1 wait)])]

/-- Numbers that belong to a module. -/
def constants : List (String × List (String × Binary64)) :=
  [("math", [("pi", Binary64.ofBits 0x400921FB54442D18), ("e", Binary64.ofBits 0x4005BF0A8B145769),
      ("tau", Binary64.ofBits 0x401921FB54442D18), ("inf", .infinite false), ("nan", .nan)])]

/-- A module that is known in outline. -/
def outlined (o : Outline) : String × Entity :=
  let numbers := ((constants.lookup o.name).getD []).map fun n => (n.1, Entity.data (float n.2))
  o.toModule ((computed.lookup o.name).getD []) numbers

/-- The modules that are always there. -/
def modules : Catalogue :=
  let beside := outlines.map outlined
  let pathModule := ((beside.lookup "posixpath").map fun e => [("path", e)]).getD []
  let withPath := fun (m : String × Entity) =>
    match m with
    | ("os", .module name members) => ("os", .module name (members ++ pathModule))
    | m => m
  languageModule :: beside.map withPath ++ pathModule.map fun p => ("os.path", p.2)

end Standard
end JobScheduling
