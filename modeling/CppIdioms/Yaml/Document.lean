import CppIdioms.Files.Tagged
import CppIdioms.Yaml.Grammar
import CppIdioms.Yaml.Scalar

/-!
# Values of documents

The value of a node is made from the values of its parts. What the parts of a collection are is
settled after the collection itself, so of two things that are wrong the one at the lesser depth is
reported, and of two at the same depth the one that is written first.

Settings and trees are read by whatever reader they are given, and what is shown of them and of tags
holds of every such reader. `read` is the reader that a program runs with. It refuses some documents
that a complete one takes: collections that hold themselves, runs of bytes, and pairs.

## Contents

* `Staged`: a value with the first thing that is wrong about it.
* `Content`, `Content.under`: the content of a node, and its value under a tag.
* `Part`, `Node.part`: what a node contributes to the nodes around it.
* `read`: the value of a text.
-/

namespace CppIdioms.Yaml

open CppIdioms.Files

/-! ## §1 Values in stages -/

/-- A value with the first thing that is wrong about it and the stage at which it shows. -/
structure Staged (α : Type) where
  value : α
  wrong : Option (Nat × Error) := none

namespace Staged

/-- The one of two things that shows first. -/
def first : Option (Nat × Error) → Option (Nat × Error) → Option (Nat × Error)
  | none, b => b
  | a, none => a
  | some (m, e), some (n, f) => if n < m then some (n, f) else some (m, e)

/-- What may have gone wrong at once. -/
def ofExcept {α : Type} [Inhabited α] : Except Error α → Staged α
  | .ok a => ⟨a, none⟩
  | .error e => ⟨default, some (0, e)⟩

/-- A value at whose place something is wrong. -/
def fail {α : Type} [Inhabited α] (e : Error) : Staged α := ⟨default, some (0, e)⟩

/-- The same value one stage later. -/
def later {α : Type} (s : Staged α) : Staged α :=
  ⟨s.value, s.wrong.map fun (n, e) => (n + 1, e)⟩

/-- A value made of another one. -/
def map {α β : Type} (f : α → β) (s : Staged α) : Staged β := ⟨f s.value, s.wrong⟩

instance : Functor Staged where
  map := map

/-- A value made of two. -/
def map₂ {α β γ : Type} (f : α → β → γ) (s : Staged α) (t : Staged β) : Staged γ :=
  ⟨f s.value t.value, first s.wrong t.wrong⟩

/-- The values of a list. -/
def all {α : Type} : List (Staged α) → Staged (List α)
  | [] => ⟨[], none⟩
  | s :: ss => map₂ (· :: ·) s (all ss)

/-- The value, unless something is wrong. -/
def toExcept {α : Type} (s : Staged α) : Except Error α :=
  match s.wrong with
  | none => .ok s.value
  | some (_, e) => .error e

end Staged

/-! ## §2 Parts -/

/-- An entry of a mapping. -/
structure Member where
  key : Staged Value
  value : Staged Value

/-- What a mapping contributes to the nodes around it. -/
structure Mapping where
  /-- The entries, with others merged in. -/
  members : Except Error (List Member)
  /-- The text that the mapping stands for, if it does. -/
  standsFor : Option String
  /-- The only entry as it is written, if there is only one. -/
  only : Option Member

/-- An item of a sequence: its value, and what it contributes if it is a mapping. -/
structure Item where
  value : Staged Value
  mapping : Option Mapping

/-- The content of a node, in values of its parts. -/
inductive Content where
  | text (text : String)
  | items (items : List Item)
  | entries (mapping : Mapping)

/-- What a node contributes to the nodes around it. -/
structure Part where
  tag : Tag
  content : Content
  value : Staged Value

namespace Content

/-- The content as a text. A mapping may stand for one. -/
def toText (c : Content) : Except Error String :=
  match c with
  | text s => .ok s
  | entries ⟨_, some s, _⟩ => .ok s
  | _ => .error .malformedDocument

/-- The content as a list. -/
def toItems (c : Content) : Staged (List Value) :=
  match c with
  | items is => Staged.all (is.map (·.value))
  | _ => .fail .malformedDocument

/-- An entry that can be stored: lists and mappings are no keys. -/
def storable (m : Member) : Staged (Value × Value) :=
  let key : Staged Value :=
    if m.key.value.isHashable then m.key
    else ⟨m.key.value, Staged.first m.key.wrong (some (0, .malformedDocument))⟩
  Staged.map₂ Prod.mk key m.value

/-- Members as the entries of a mapping: a later one is stored in place of an earlier one with an
equal key. -/
def store (members : List Member) : Staged Entries :=
  (Staged.all (members.map storable)).map fun entries =>
    entries.foldl (fun stored (k, v) => Entries.put stored k v) []

/-- The content as the entries of a mapping. -/
def toEntries (c : Content) : Staged Entries :=
  match c with
  | entries ⟨.ok members, _, _⟩ => store members
  | _ => .fail .malformedDocument

/-- The content as a list of pairs: a sequence of mappings of one entry each. -/
def toPairs (c : Content) : Staged Value :=
  match c with
  | items is =>
    let pair (i : Item) : Staged Value :=
      match i.mapping.bind (·.only) with
      | some m => Staged.map₂ (fun k v => .list [k, v]) m.key m.value
      | none => .fail .malformedDocument
    (Staged.all (is.map pair)).map .list
  | _ => .fail .malformedDocument

/-- What is merged in from the content: a mapping, or the mappings of a sequence, of which later ones
come first and so earlier ones win. -/
def toMerge (c : Content) : Except Error (List Member) :=
  match c with
  | text _ => .error .malformedDocument
  | entries m => m.members
  | items is =>
    let members (i : Item) : Except Error (List Member) :=
      match i.mapping with
      | some m => m.members
      | none => .error .malformedDocument
    (is.mapM members).map fun lists => lists.reverse.flatten

/-- The form of a node with this content. -/
def form : Content → NodeForm
  | text _ => .scalar
  | items _ => .sequence
  | entries _ => .mapping

/-- What is made of contents. -/
def constructors : Constructors Staged Content where
  form := form
  scalar c := .ofExcept c.toText
  sequence := toItems
  mapping := toEntries

/-- The value of a content under a tag. -/
def under (c : Content) (tag : Tag) : Staged Value :=
  match tag with
  | .seq => (c.toItems.map .list).later
  | .map => (c.toEntries.map .map).later
  | .set => (c.toEntries.map fun es => .set (es.map (·.1))).later
  | .pairs => c.toPairs.later
  | .custom name => constructTagged constructors name c
  | _ => .ofExcept (c.toText.bind (scalarValue tag))

end Content

namespace Part

/-- The part of a tag and a content. -/
def make (tag : Tag) (c : Content) : Part := ⟨tag, c, c.under tag⟩

/-- The part as an item of a sequence. -/
def toItem (p : Part) : Item :=
  match p.content with
  | .entries m => ⟨p.value, some m⟩
  | _ => ⟨p.value, none⟩

/-- The entry of a key and its value. The special key for a scalar is a text here. -/
def member (entry : Part × Part) : Member :=
  let (k, v) := entry
  ⟨if k.tag = .value then .ofExcept (k.content.toText.map .str) else k.value, v.value⟩

/-- The entries of a mapping: those merged in come first, and those written win over them. -/
def merged (entries : List (Part × Part)) : Except Error (List Member) :=
  let isMerge (entry : Part × Part) : Bool := entry.1.tag = .merge
  let written := (entries.filter fun e => !isMerge e).map member
  let sources := (entries.filter isMerge).map fun e => e.2.content
  (sources.mapM Content.toMerge).map fun lists => lists.flatten ++ written

/-- The text of the first entry under the special key for a scalar. -/
def standsFor (entries : List (Part × Part)) : Option String :=
  (entries.find? (·.1.tag = .value)).bind fun (_, v) => v.content.toText.toOption

/-- What a mapping of entries contributes. -/
def mapping (entries : List (Part × Part)) : Mapping where
  members := merged entries
  standsFor := standsFor entries
  only :=
    match entries with
    | [(k, v)] => some ⟨k.value, v.value⟩
    | _ => none

end Part

/-! ## §3 Nodes -/

mutual

/-- The part of a node. -/
def Node.part : Node → Part
  | .scalar tag isOpen text => .make (Node.tag (.scalar tag isOpen text)) (.text text)
  | .seq tag items => .make (tag.getD .seq) (.items ((Node.parts items).map Part.toItem))
  | .map tag entries => .make (tag.getD .map) (.entries (Part.mapping (Node.entryParts entries)))

/-- The parts of the nodes of a list. -/
def Node.parts : List Node → List Part
  | [] => []
  | n :: ns => Node.part n :: Node.parts ns

/-- The parts of keys and values. -/
def Node.entryParts : List (Node × Node) → List (Part × Part)
  | [] => []
  | e :: es => Node.entryPart e :: Node.entryParts es

/-- The parts of a key and its value. -/
def Node.entryPart : Node × Node → Part × Part
  | (k, v) => (Node.part k, Node.part v)

end

/-! ## §4 Documents -/

/-- The value of a text (`read_yaml_text`); a text without a document is nothing. -/
def read (text : String) : Except Error Value :=
  match document? (tokens text) with
  | .error e => .error e
  | .ok none => .ok .null
  | .ok (some n) => (Node.part n).value.toExcept

end CppIdioms.Yaml
