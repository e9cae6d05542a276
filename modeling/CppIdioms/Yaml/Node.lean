import CppIdioms.Yaml.Tag

/-!
# Nodes of a document

## Contents

* `Node`: scalars, sequences and mappings with their tags.
-/

namespace CppIdioms.Yaml

/-- A node of a document, with its tag if it has one. A scalar is open if its text decides what it
is, as the text of a plain scalar does. -/
inductive Node where
  | scalar (tag : Option Tag) (isOpen : Bool) (text : String)
  | seq (tag : Option Tag) (items : List Node)
  | map (tag : Option Tag) (entries : List (Node × Node))
  deriving Inhabited

/-- The node where nothing is written. -/
def Node.empty : Node := .scalar none true ""

end CppIdioms.Yaml
