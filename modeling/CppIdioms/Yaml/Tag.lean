import CppIdioms.Yaml.Point

/-!
# Tags

A tag says what a node is. The standard tags name the types of the format; a tag that starts with a
mark is local to the application.

## Contents

* `Tag`: tags.
* `Tag.ofText`: the tag that a text in full stands for.
-/

namespace CppIdioms.Yaml

/-- What a node is. -/
inductive Tag where
  | null
  | bool
  | int
  | float
  | timestamp
  | str
  | seq
  | map
  | set
  /-- A sequence of mappings of one entry each. -/
  | pairs
  /-- The key under which other mappings are merged in. -/
  | merge
  /-- The key of a mapping that stands for a scalar. -/
  | value
  /-- A tag of the application, without its mark. -/
  | custom (name : String)
  /-- A tag that says nothing here. -/
  | unknown
  deriving DecidableEq, Repr, Inhabited

/-- The start of all standard tags. -/
def standardStart : String := "tag:yaml.org,2002:"

/-- The standard tags by name. -/
def standardTags : List (String × Tag) :=
  [("null", .null), ("bool", .bool), ("int", .int), ("float", .float), ("timestamp", .timestamp),
   ("str", .str), ("seq", .seq), ("map", .map), ("set", .set), ("omap", .pairs),
   ("pairs", .pairs), ("merge", .merge), ("value", .value)]

/-- The tag that a text in full stands for. -/
def Tag.ofText (text : String) : Tag :=
  match text.toList with
  | '!' :: name => .custom (String.ofList name)
  | cs =>
    let start := standardStart.toList
    if start.isPrefixOf cs then
      (standardTags.lookup (String.ofList (cs.drop start.length))).getD .unknown
    else .unknown

end CppIdioms.Yaml
