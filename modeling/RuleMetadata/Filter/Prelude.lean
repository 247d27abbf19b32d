import RuleMetadata.Filter.Parser

/-! The definitions that every filter can use, written in the filter language itself. -/

namespace RuleMetadata.Filter.Prelude

/-- Definitions that select among outputs and values. -/
def selection : String :=
  "def empty: ([][]) as $x | .;
  def error: error(.);
  def not: if . then false else true end;
  def select(f): if f then . else empty end;
  def map(f): [.[] | f];
  def map_values(f): .[] |= f;
  def del(f): f |= empty;
  def values: select(. != null);
  def nulls: select(. == null);
  def booleans: select(type == \"boolean\");
  def numbers: select(type == \"number\");
  def strings: select(type == \"string\");
  def arrays: select(type == \"array\");
  def objects: select(type == \"object\");
  def iterables: select(. >= []);
  def scalars: select(. < []);
  def first: .[0];
  def last: .[-1];
  def nth($i): .[$i];
  def nth($i; f): first(skip($i; f));
  def isempty(f): first((f | false), true);
  def isvalid(f): try (f | true) catch false;"

/-- Definitions that repeat a filter. -/
def repetition : String :=
  "def recurse: ..;
  def recurse(f): def rec: ., (f | rec); rec;
  def recurse(f; condition): recurse(f | select(condition));
  def repeat(f): def rec: ., (f | rec); rec;
  def while(condition; f): def rec: if condition then ., (f | rec) else empty end; rec;
  def until(condition; f): def rec: if condition then . else f | rec end; rec;
  def walk(f): .. |= f;
  def range($x): range(0; $x; 1);
  def range($x; $y): range($x; $y; 1);
  def inputs: empty;
  def input: error(\"no more inputs\");
  def debug: .;
  def debug(f): .;
  def stderr: .;"

/-- Definitions that pass from values to texts and back. -/
def spelling : String :=
  "def tostring: if type == \"string\" then . else tojson end;
  def tonumber: if type == \"number\" then . else fromjson end;
  def split($separator):
    if type == \"string\" and ($separator | type == \"string\") then . / $separator
    else error(\"split input and separator must be strings\") end;
  def @text: tostring;
  def @json: tojson;"

/-- Definitions that put together what others have. -/
def aggregation : String :=
  "def add(f): reduce f as $x (null; . + $x);
  def add: add(.[]);
  def any(f; condition): isempty(first(f | condition | select(.))) | not;
  def any(f): any(.[]; f);
  def any: any(.);
  def all(f; condition): isempty(first(f | condition | select(not)));
  def all(f): all(.[]; f);
  def all: all(.);
  def sort: sort_by(.);
  def unique_by(f): [group_by(f)[] | .[0]];
  def unique: unique_by(.);
  def min: min_by(.);
  def max: max_by(.);
  def join($x): .[] |= tostring | .[:-1][] += $x | \"\" + add;
  def flatten: [recurse(arrays | .[]) | select(type != \"array\")];
  def flatten($depth):
    if $depth > 0 then
      map(if type == \"array\" then flatten($depth - 1) else [.] end) | add + []
    else . end;
  def transpose: [range([.[] | length] | max // 0) as $i | [.[][$i]]];
  def in(f): . as $x | f | has($x);
  def inside(f): . as $x | f | contains($x);
  def getpath($path): reduce $path[] as $p (.; .[$p]);"

/-- Definitions for objects and for numbers. -/
def conversion : String :=
  "def to_entries: [keys_unsorted[] as $k | \x7bkey: $k, value: .[$k]\x7d];
  def from_entries: map(\x7b(.key): .value\x7d) | add + \x7b\x7d;
  def with_entries(f): to_entries | map(f) | from_entries;
  def toarray: if type == \"array\" then . else [.] end;
  def abs: if type == \"number\" and . < 0 then -. else . end;
  def isnan: type == \"number\" and . != .;
  def isinfinite: type == \"number\" and (. == infinite or . == -infinite);
  def ascii: [.] | implode;"

/-- All definitions, as a term whose last part stands for the input. -/
def definitions : Option Term :=
  Term.ofText? ("\n".intercalate [selection, repetition, spelling, aggregation, conversion, "."])

end Prelude

/-- A term in the place of what follows the definitions of another one. -/
def Term.within (term : Term) : Term → Term
  | .define name parameters body rest => .define name parameters body (term.within rest)
  | _ => term

end RuleMetadata.Filter
