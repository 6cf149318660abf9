import ModelScribe.Filter.Evaluation
import ModelScribe.Filter.Reader

/-! # Named filters that are defined by others

* `Filter.preludeText`: their definitions.
* `Filter.prelude`: the names that hold in every filter.
-/

namespace ModelScribe.Filter

/-- The definitions that hold in every filter, in order. -/
def preludeText : List String :=
  ["def empty: \x7b\x7d[] as $x | .;",
    "def error(f): f | error;",
    "def not: if . then false else true end;",
    "def select(f): if f then . else empty end;",
    "def values: select(. != null);",
    "def nulls: select(. == null);",
    "def isboolean: type == \"boolean\";",
    "def isnumber: type == \"number\";",
    "def isstring: type == \"string\";",
    "def isarray: type == \"array\";",
    "def isobject: type == \"object\";",
    "def booleans: select(isboolean);",
    "def numbers: select(isnumber);",
    "def strings: select(isstring);",
    "def arrays: select(isarray);",
    "def objects: select(isobject);",
    "def iterables: select(isarray or isobject);",
    "def scalars: select(isarray or isobject | not);",
    "def isnan: . < nan and nan < .;",
    "def isinfinite: . == infinite or . == -infinite;",
    "def isfinite: isnumber and (isinfinite | not);",
    "def isnormal: isnumber and (. == 0 or isnan or isinfinite | not);",
    "def ascii: [.] | implode;",
    "def isvalid(f): try (f | true) catch false;",
    "def map(f): [.[] | f];",
    "def map_values(f): .[] |= f;",
    "def recurse(f): def rec: ., (f | rec); rec;",
    "def recurse: recurse(.[]?);",
    "def recurse(f; cond): recurse(f | select(cond));",
    "def repeat(f): def rec: ., (f | rec); rec;",
    "def while(cond; f): def rec: if cond then ., (f | rec) else empty end; rec;",
    "def until(cond; f): def rec: if cond then . else f | rec end; rec;",
    "def range($to): range(0; $to; 1);",
    "def range($from; $to): range($from; $to; 1);",
    "def first: .[0];",
    "def last: .[-1];",
    "def nth($i): .[$i];",
    "def nth($i; f): first(skip($i; f));",
    "def add(f): reduce f as $x (null; . + $x);",
    "def add: add(.[]);",
    "def any(f; cond): isempty(f | cond or empty) | not;",
    "def any(cond): any(.[]; cond);",
    "def any: any(.);",
    "def all(f; cond): isempty(f | cond and empty);",
    "def all(cond): all(.[]; cond);",
    "def all: all(.);",
    "def in(xs): . as $x | xs | has($x);",
    "def inside(xs): . as $x | xs | contains($x);",
    "def IN(xs): any(xs == .; .);",
    "def IN(xs; ys): any(xs == ys; .);",
    "def to_entries: [keys_unsorted[] as $k | \x7bkey: $k, value: .[$k]\x7d];",
    "def from_entries: map(\x7b(.key): .value\x7d) | add + \x7b\x7d;",
    "def with_entries(f): to_entries | map(f) | from_entries;",
    "def del(f): f |= empty;",
    "def paths: path(..) | select(. != []);",
    "def paths(f): path(.. | select(f)) | select(. != []);",
    "def leaf_paths: paths(scalars);",
    "def getpath($path): reduce $path[] as $p (.; if . == null then null else .[$p] end);",
    "def walk(f): def rec: (.[]? |= rec) | f; rec;",
    "def join($x): .[] |= tostring | .[:-1][] += $x | add + \"\";",
    "def flatten: flatten(1000000000);",
    "def unique_by(f): [group_by(f)[] | .[0]];",
    "def transpose: [range([.[] | length] | max // 0) as $i | [.[] | .[$i]]];",
    "def combinations: if length == 0 then [] else .[0][] as $x | (.[1:] | combinations) as $w",
    "  | [$x] + $w end;",
    "def combinations($n): . as $d | [range($n)] | map($d) | combinations;",
    "def toarray: if isarray then . else [.] end;",
    "def abs: if isnumber and . < 0 then -. else . end;",
    "def debug: .;",
    "def finites: select(isinfinite or isnan | not);",
    "def normals: select(isnormal);"]

/-- The names of a chain of definitions. -/
def Env.ofDefinitions : Expr → Env → Env
  | .define name parameters body rest, env =>
      ofDefinitions rest (.definition name parameters body env)
  | _, env => env

/-- The names that hold in every filter. -/
def prelude : Env :=
  match Expr.read (String.intercalate "\n" (preludeText ++ ["."])) with
  | some definitions =>
      .ofDefinitions definitions (.definition Expr.everywhereName [] Expr.everywhere .empty)
  | none => .empty

end ModelScribe.Filter
