import CppIdioms.Files.Tagged
import CppIdioms.Proofs.Answers
import Mathlib.Data.List.Forall2

/-!
# Loaders of documents

A loader reads a text in two steps: it composes the nodes of the document, and it constructs a value
from them. It is not part of this library, so it is a parameter here, and what it is documented to do
is a structure of hypotheses. Its only part that is known in full is `constructTagged`, which it calls
for the tags of the application.

Nodes are trees: an alias stands for the node that it names, and a document in which a node is part of
itself is left out. So are lists of pairs, for which there are no values, and documents in which a key
`=` has an alias: a loader takes it for a text once it has seen it as a key.

## Contents

* `Node`: composed nodes, with their tags in full.
* `Node.flat?`, `Node.merged?`: the entries of a mapping once others are merged in.
* `Loader`, `Loader.Conforms`: a loader, and what it is documented to do.

## Main statements

* `Loader.Conforms.sequence_iff`, `Loader.Conforms.mapping_iff`: the values of collections, under any tag.
-/

namespace CppIdioms.Document

open CppIdioms.Files

/-! ## §1 Nodes -/

/-- A node as it is composed. Its tag is the one that is written, or else the one that its form gives
it. -/
inductive Node where
  | scalar (tag text : String)
  | sequence (tag : String) (items : List Node)
  | mapping (tag : String) (entries : List (Node × Node))

/-- A tag of the format, by its name. -/
def standard (name : String) : String := "tag:yaml.org,2002:" ++ name

/-- A tag of the application, by what follows its mark. -/
def localTag (name : String) : String := "!" ++ name

/-- The tags of nodes that this library says nothing of. -/
def leftOut : List String := [standard "omap", standard "pairs", standard "value"]

theorem localTag_ne_standard (name other : String) : localTag name ≠ standard other := fun h => by
  have hchars : ("!" ++ name).toList = ("tag:yaml.org,2002:" ++ other).toList :=
    congrArg String.toList h
  have hmark : "!".toList = ['!'] := by decide
  have hstart : "tag:yaml.org,2002:".toList = 't' :: "ag:yaml.org,2002:".toList := by
    decide +kernel
  rw [String.toList_append, String.toList_append, hmark, hstart] at hchars
  simp at hchars

theorem localTag_inj {name other : String} : localTag name = localTag other ↔ name = other := by
  simp [localTag, ← String.toList_inj]

theorem localTag_not_leftOut (name : String) : localTag name ∉ leftOut := by
  simp [leftOut, localTag_ne_standard]

namespace Node

/-- The tag of a node. -/
def tag : Node → String
  | scalar tag _ => tag
  | sequence tag _ => tag
  | mapping tag _ => tag

/-- The form of a node. -/
def form : Node → NodeForm
  | scalar .. => .scalar
  | sequence .. => .sequence
  | mapping .. => .mapping

/-- The entry merges other mappings in. -/
def isMerge (e : Node × Node) : Bool := e.1.tag == standard "merge"

/-- The entries of a mapping that are its own. -/
def own (entries : List (Node × Node)) : List (Node × Node) := entries.filter fun e => !isMerge e

/-- One list behind the other, if there are both. -/
def append? (first rest : Option (List (Node × Node))) : Option (List (Node × Node)) :=
  first.bind fun entries => rest.map (entries ++ ·)

mutual

/-- The entries of a mapping, those that are merged in first; nothing if what is to be merged in is no
mapping. -/
def flat? : Node → Option (List (Node × Node))
  | mapping _ entries => append? (mergedIn? entries) (some (own entries))
  | scalar .. => none
  | sequence .. => none

/-- What a node adds where it is merged in: the entries of a mapping, or those of the mappings in a
sequence. -/
def merged? : Node → Option (List (Node × Node))
  | mapping _ entries => append? (mergedIn? entries) (some (own entries))
  | sequence _ items => mergedItems? items
  | scalar .. => none

/-- Of several mappings the first one wins, so it comes last. -/
def mergedItems? : List Node → Option (List (Node × Node))
  | [] => some []
  | n :: ns => append? (mergedItems? ns) (flat? n)

/-- What is merged into a mapping with these entries. -/
def mergedIn? : List (Node × Node) → Option (List (Node × Node))
  | [] => some []
  | e :: es => append? (mergedBy? e) (mergedIn? es)

/-- What one entry merges in. -/
def mergedBy? : Node × Node → Option (List (Node × Node))
  | (k, v) => if k.tag == standard "merge" then merged? v else some []

end

end Node

/-! ## §2 Loaders -/

/-- A loader: it composes the nodes of a text, unless one of them is part of itself or is a key `=`
with an alias, and constructs values of them. -/
structure Loader where
  compose : String → Option Node
  constructObject : Node → Except Error Value
  constructScalar : Node → Except Error String
  constructSequence : Node → Except Error (List Value)
  constructMapping : Node → Except Error Entries
  load : String → Except Error Value

/-- The types of the values that scalars have by their form, under the tags of these forms. Of a merge
key that is no key there is no value. -/
def implicitTypes : List (String × List String) := [
  (standard "null", ["NoneType"]), (standard "bool", ["bool"]), (standard "int", ["int"]),
  (standard "float", ["float"]), (standard "timestamp", ["date", "datetime"]),
  (standard "merge", [])]

/-- Entries are stored one after the other, a later one in place of an earlier one with the same key. -/
def stored (pairs : List (Value × Value)) : Entries :=
  pairs.foldl (fun entries p => Entries.put entries p.1 p.2) []

namespace Loader

variable (L : Loader)

/-- What `constructTagged` is given. -/
def constructors : Constructors (Except Error) Node where
  form := Node.form
  scalar := L.constructScalar
  sequence := L.constructSequence
  mapping := L.constructMapping

/-- The value is constructed of the node. -/
def Constructs (n : Node) (v : Value) : Prop := L.constructObject n = .ok v

/-- Key and value are constructed of the entry, and the key can be stored. -/
structure ConstructsEntry (e : Node × Node) (p : Value × Value) : Prop where
  key : L.Constructs e.1 p.1
  value : L.Constructs e.2 p.2
  storable : p.1.isHashable = true

/-- What the loader is documented to do. -/
structure Conforms : Prop where
  /-- Loading is composing and constructing. -/
  load {text : String} {n : Node} (h : L.compose text = some n) (v : Value) :
    L.load text = .ok v ↔ L.Constructs n v
  /-- The constructor that is registered for the mark of the application is called with what follows
  the mark. -/
  tagged (n : Node) (name : String) (h : n.tag = localTag name) :
    L.constructObject n = constructTagged L.constructors name n
  /-- A scalar has its text. -/
  scalar (tag text : String) : L.constructScalar (.scalar tag text) = .ok text
  /-- A sequence has the values of its items. -/
  sequence (tag : String) (items : List Node) (vs : List Value) :
    L.constructSequence (.sequence tag items) = .ok vs ↔ List.Forall₂ L.Constructs items vs
  /-- A mapping has the keys and values of its entries, with others merged in. -/
  mapping (tag : String) (entries : List (Node × Node)) {flat : List (Node × Node)}
    (hflat : (Node.mapping tag entries).flat? = some flat)
    (hkeys : ∀ e ∈ flat, e.1.tag ∉ leftOut) (found : Entries) :
    L.constructMapping (.mapping tag entries) = .ok found ↔
      ∃ pairs, List.Forall₂ L.ConstructsEntry flat pairs ∧ found = stored pairs
  /-- Only mappings are merged in. -/
  unmerged (tag : String) (entries : List (Node × Node))
    (hflat : (Node.mapping tag entries).flat? = none) (found : Entries) :
    L.constructMapping (.mapping tag entries) ≠ .ok found
  /-- Texts are their own values. -/
  text (text : String) : L.constructObject (.scalar (standard "str") text) = .ok (.str text)
  /-- Scalars that are no texts by their form have values of their types. -/
  implicit (tag text : String) (types : List String) (h : (tag, types) ∈ implicitTypes) (v : Value)
    (hv : L.Constructs (.scalar tag text) v) : v.typeName ∈ types
  /-- The value of a sequence is a list. -/
  list (items : List Node) (v : Value) :
    L.Constructs (.sequence (standard "seq") items) v ↔
      ∃ vs, L.constructSequence (.sequence (standard "seq") items) = .ok vs ∧ v = .list vs
  /-- The value of a mapping is a mapping. -/
  map (entries : List (Node × Node)) (v : Value) :
    L.Constructs (.mapping (standard "map") entries) v ↔
      ∃ es, L.constructMapping (.mapping (standard "map") entries) = .ok es ∧ v = .map es
  /-- The value of a set holds the keys of its mapping. -/
  set (entries : List (Node × Node)) (v : Value) :
    L.Constructs (.mapping (standard "set") entries) v ↔
      ∃ es, L.constructMapping (.mapping (standard "set") entries) = .ok es ∧ v = .set (es.map (·.1))
  /-- Sequences have no values under other tags. -/
  noList (tag : String) (items : List Node) (h : tag ∉ leftOut) (hseq : tag ≠ standard "seq")
    (hlocal : ∀ name, tag ≠ localTag name) (v : Value) : ¬ L.Constructs (.sequence tag items) v
  /-- Nor do mappings, unless they have the key that stands for a scalar. -/
  noMap (tag : String) (entries : List (Node × Node)) (h : tag ∉ leftOut)
    (hkeys : ∀ e ∈ entries, e.1.tag ∉ leftOut) (hmap : tag ≠ standard "map")
    (hset : tag ≠ standard "set") (hlocal : ∀ name, tag ≠ localTag name) (v : Value) :
    ¬ L.Constructs (.mapping tag entries) v

end Loader

/-! ## §3 Values of collections -/

/-- What a mapping with these entries is under its tag. -/
def MappingValue (found : Entries) (tag : String) (v : Value) : Prop :=
  (tag = standard "map" ∧ v = .map found) ∨ (tag = standard "set" ∧ v = .set (found.map (·.1))) ∨
    ∃ name, tag = localTag name ∧ v = .map (if name == unresolvedName then
      Entries.put found (.str "category") (.str unresolvedName) else found)

section MappingValue

variable {found : Entries} {v : Value}

theorem map_ne_set : standard "map" ≠ standard "set" := by decide +kernel

theorem mappingValue_map : MappingValue found (standard "map") v ↔ v = .map found := by
  simp [MappingValue, map_ne_set, (localTag_ne_standard _ _).symm]

theorem mappingValue_set : MappingValue found (standard "set") v ↔ v = .set (found.map (·.1)) := by
  simp [MappingValue, map_ne_set.symm, (localTag_ne_standard _ _).symm]

theorem mappingValue_localTag {name : String} : MappingValue found (localTag name) v ↔
    v = .map (if name == unresolvedName then
      Entries.put found (.str "category") (.str unresolvedName) else found) := by
  simp [MappingValue, localTag_ne_standard, localTag_inj]

end MappingValue

namespace Loader.Conforms

variable {L : Loader} (hL : L.Conforms) {tag : String} {v : Value}
include hL

/-- Sequences have values under their own tag and under those of the application, and they are lists. -/
theorem sequence_iff {items : List Node} (htag : tag ∉ leftOut) :
    L.Constructs (.sequence tag items) v ↔
      (tag = standard "seq" ∨ ∃ name, tag = localTag name) ∧
        ∃ vs, List.Forall₂ L.Constructs items vs ∧ v = .list vs := by
  by_cases hseq : tag = standard "seq"
  · subst hseq
    simp [hL.list, hL.sequence]
  by_cases hlocal : ∃ name, tag = localTag name
  · obtain ⟨name, rfl⟩ := hlocal
    rw [Constructs, hL.tagged _ name rfl]
    simp only [constructTagged, constructors, Node.form, map_eq_ok_iff, hL.sequence]
    simp
  · have hnone := hL.noList tag items htag hseq (not_exists.1 hlocal) v
    simp [hseq, hlocal, hnone]

/-- Mappings have values under their own tag, under that of sets and under those of the application. -/
theorem mapping_iff {entries : List (Node × Node)} (htag : tag ∉ leftOut)
    (hkeys : ∀ e ∈ entries, e.1.tag ∉ leftOut) :
    L.Constructs (.mapping tag entries) v ↔
      ∃ found, L.constructMapping (.mapping tag entries) = .ok found ∧ MappingValue found tag v := by
  by_cases hmap : tag = standard "map"
  · subst hmap
    simp only [hL.map, mappingValue_map]
  by_cases hset : tag = standard "set"
  · subst hset
    simp only [hL.set, mappingValue_set]
  by_cases hlocal : ∃ name, tag = localTag name
  · obtain ⟨name, rfl⟩ := hlocal
    rw [Constructs, hL.tagged _ name rfl]
    simp only [constructTagged, constructors, Node.form, map_eq_ok_iff, mappingValue_localTag]
  · have hnone := hL.noMap tag entries htag hkeys hmap hset (not_exists.1 hlocal) v
    simp [hnone, MappingValue, hmap, hset, not_exists.1 hlocal]

end Loader.Conforms

end CppIdioms.Document
