import ShapeSchema.Jq.Parser

/-!
# `ShapeSchema.Jq.Prelude`: filters defined in the language itself
-/

set_option autoImplicit false

namespace ShapeSchema.Jq

/-- The text of the definitions, line by line. -/
def preludeLines : List String :=
  ["def true: 0 == 0;",
   "def false: 0 != 0;",
   "def null: [][0];",
   "def nan: 0 / 0;",
   "def infinite: 1 / 0;",
   "def select(f): if f then . else empty end;",
   "def error: error(.);",
   "def values: select(. != null);",
   "def nulls: select(. == null);",
   "def booleans: select(type == \"boolean\");",
   "def numbers: select(type == \"number\");",
   "def strings: select(type == \"string\");",
   "def arrays: select(type == \"array\");",
   "def objects: select(type == \"object\");",
   "def iterables: select(type == \"array\" or type == \"object\");",
   "def scalars: select(type != \"array\" and type != \"object\");",
   "def isboolean: type == \"boolean\";",
   "def isnumber: type == \"number\";",
   "def isstring: type == \"string\";",
   "def isarray: type == \"array\";",
   "def isobject: type == \"object\";",
   "def isnan: . < nan and nan < .;",
   "def isinfinite: . == infinite or . == -infinite;",
   "def isnormal: (. == 0 or isnan or isinfinite) | not;",
   "def finites: select(isinfinite or isnan | not);",
   "def normals: select(isnormal);",
   "def tostring: if type == \"string\" then . else tojson end;",
   "def recurse(f): def rec: ., (f | rec); rec;",
   "def recurse(f; cond): recurse(f | select(cond));",
   "def recurse: recurse(.[]?);",
   "def map(f): [.[] | f];",
   "def map_values(f): .[] |= f;",
   "def walk(f): def rec: (.[]? |= rec) | f; rec;",
   "def del(f): f |= empty;",
   "def to_entries: [keys_unsorted[] as $k | \x7bkey: $k, value: .[$k]\x7d];",
   "def from_entries: reduce .[] as $x (\x7b\x7d; . + \x7b($x | (if .key == null then .k // .name",
   "  // .Name // .K // .Key else .key end) | tostring): ($x | if has(\"value\") then .value",
   "  elif has(\"v\") then .v else .Value end)\x7d);",
   "def with_entries(f): to_entries | map(f) | from_entries;",
   "def add: reduce .[] as $x (null; . + $x);",
   "def add(f): reduce f as $x (null; . + $x);",
   "def any(g; cond): isempty(first(g | cond | select(.))) | not;",
   "def any(cond): any(.[]; cond);",
   "def any: any(.);",
   "def all(g; cond): isempty(first(g | cond | select(. | not)));",
   "def all(cond): all(.[]; cond);",
   "def all: all(.);",
   "def isvalid(f): try (f | true) catch false;",
   "def in(xs): . as $x | xs | has($x);",
   "def inside(xs): . as $x | xs | contains($x);",
   "def first: .[0];",
   "def last: .[-1];",
   "def last(f): reduce f as $x (null; $x);",
   "def nth($n): .[$n];",
   "def nth($n; f): first(skip($n; f));",
   "def range($n): range(0; $n);",
   "def while(cond; update): def rec: if cond then ., (update | rec) else empty end; rec;",
   "def until(cond; update): def rec: if cond then . else update | rec end; rec;",
   "def repeat(f): def rec: ., (f | rec); rec;",
   "def range($from; $to; $by): if $by > 0 then $from | while(. < $to; . + $by)",
   "  elif $by < 0 then $from | while(. > $to; . + $by)",
   "  else $from | while(. != $to; . + $by) end;",
   "def flatten: [.[] | if type == \"array\" then flatten[] else . end];",
   "def flatten($d): [.[] | if type == \"array\" and $d > 0 then flatten($d - 1)[] else . end];",
   "def unique_by(f): [group_by(f)[] | .[0]];",
   "def unique: unique_by(.);",
   "def min_by(f): sort_by(f) | .[0];",
   "def max_by(f): sort_by(f) | .[-1];",
   "def min: min_by(.);",
   "def max: max_by(.);",
   "def transpose: [range(0; map(length) | max // 0) as $i | [.[][$i]]];",
   "def combinations: if length == 0 then [] else .[0][] as $x",
   "  | (.[1:] | combinations) as $w | [$x] + $w end;",
   "def combinations($n): . as $x | [range($n) | $x] | combinations;",
   "def join($s): if length == 0 then \"\" else reduce .[1:][] as $x",
   "  (.[0] // \"\" | tostring; . + $s + ($x // \"\" | tostring)) end;",
   "def index($i): indices($i) | .[0]?;",
   "def rindex($i): indices($i) | .[-1]?;",
   "def paths(f): . as $x | paths | select(. as $p | $x | getpath($p) | f);",
   "def leaf_paths: paths(scalars);",
   "def tostream: path(def rec: (.[]? | rec), .; rec) as $p | getpath($p)",
   "  | reduce path(.[]?) as $q ([$p, .]; [$p + $q]);",
   "def ascii: [.] | implode;",
   "def env: $ENV;",
   "def abs: if . < 0 then -. else . end;",
   "def toarray: if type == \"array\" then . else [.] end;",
   "def inputs: empty;",
   "def input: error(\"no more inputs\");",
   "def debug: .;",
   "def debug(f): .;",
   "def stderr: .;"]

/-- The definitions, the first of them first. -/
def prelude : List Definition :=
  (Definition.parseAll? ("\n".intercalate preludeLines)).getD []

end ShapeSchema.Jq
