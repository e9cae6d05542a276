import CppIdioms.Value.Compare

/-!
# Tags of the application

A document can mark its nodes with tags of its own. The one for types that are not known makes a type
of what it marks. Under any other the node is made as if it had no tag, a scalar being a text.

## Contents

* `NodeForm`, `Constructors`: forms of nodes, and what a loader makes of the content of a node.
* `unresolvedName`: the name of the tag for types that are not known.
* `constructTagged`: the value of a node under a tag of the application.
-/

namespace CppIdioms.Files

/-- The forms of nodes. -/
inductive NodeForm where
  | scalar
  | sequence
  | mapping
  deriving DecidableEq, Repr

/-- What a loader tells of its nodes and makes of their contents, whatever its nodes are and in
whatever way it fails. -/
structure Constructors (m : Type → Type) (ν : Type) where
  form : ν → NodeForm
  scalar : ν → m String
  sequence : ν → m (List Value)
  mapping : ν → m Entries

/-- The name of the tag for types that are not known, which is their category as well. -/
def unresolvedName : String := "unresolved"

/-- The value of a node under a tag of the application, given by what follows its mark
(`_construct_tagged`). -/
def constructTagged {m : Type → Type} [Functor m] {ν : Type} (loader : Constructors m ν)
    (name : String) (node : ν) : m Value :=
  let category : Value := .str unresolvedName
  let unresolved := name == unresolvedName
  match loader.form node with
  | .scalar =>
    (fun text =>
      if unresolved then .map [(.str "spelling", .str text), (.str "category", category)]
      else .str text) <$> loader.scalar node
  | .sequence => .list <$> loader.sequence node
  | .mapping =>
    (fun entries =>
      .map (if unresolved then Entries.put entries (.str "category") category else entries)) <$>
        loader.mapping node

end CppIdioms.Files
