import CppIdioms.Proofs.Loaders
import CppIdioms.Yaml.Document

/-!
# The loader of the reader

The reader of documents tells nodes and scalars apart, and from these a loader is made here that
constructs each node by itself. It does what loaders are documented to do, so whatever is proved of
loaders holds of it.

## Contents

* `Reader.compose`: the nodes of the reader, with their tags in full.
* `Reader.construct`: the value of a node by its tag, given what is made of its content.
* `Reader.object`, `Reader.loader`: the values of nodes, and the loader.

## Main statements

* `Node.sizeOf_lt_of_mem_flat`: what is merged into a mapping is part of it.
* `Reader.conforms_loader`: the loader does what loaders are documented to do.
-/

namespace CppIdioms.Document

open CppIdioms.Files

/-! ## §1 Parts of mappings -/

namespace Node

theorem mem_of_append? {first rest : Option (List (Node × Node))} {flat : List (Node × Node)}
    (h : append? first rest = some flat) {e : Node × Node} (he : e ∈ flat) :
    (∃ es, first = some es ∧ e ∈ es) ∨ ∃ es, rest = some es ∧ e ∈ es := by
  cases first with
  | none => cases h
  | some es =>
    cases rest with
    | none => cases h
    | some es' =>
      cases h
      rcases List.mem_append.1 he with he | he
      · exact .inl ⟨es, rfl, he⟩
      · exact .inr ⟨es', rfl, he⟩

mutual

/-- What is merged in is part of the node. -/
theorem sizeOf_lt_of_mem_merged : ∀ {n : Node} {flat : List (Node × Node)}, n.merged? = some flat →
    ∀ e ∈ flat, sizeOf e < sizeOf n
  | .scalar _ _, _, h, _, _ => by
    rw [merged?] at h
    cases h
  | .sequence _ items, _, h, e, he => by
    rw [merged?] at h
    have hlt := sizeOf_lt_of_mem_mergedItems h e he
    simp only [sequence.sizeOf_spec]
    omega
  | .mapping _ entries, _, h, e, he => by
    rw [merged?] at h
    simp only [mapping.sizeOf_spec]
    obtain ⟨es, hes, he⟩ | ⟨es, hes, he⟩ := mem_of_append? h he
    · have hlt := sizeOf_lt_of_mem_mergedIn hes e he
      omega
    · cases hes
      have hlt := List.sizeOf_lt_of_mem (List.mem_filter.1 he).1
      omega

theorem sizeOf_lt_of_mem_mergedItems : ∀ {ns : List Node} {flat : List (Node × Node)},
    mergedItems? ns = some flat → ∀ e ∈ flat, sizeOf e < sizeOf ns
  | [], _, h, _, he => by
    rw [mergedItems?] at h
    cases h
    cases he
  | n :: ns, _, h, e, he => by
    rw [mergedItems?] at h
    simp only [List.cons.sizeOf_spec]
    obtain ⟨es, hes, he⟩ | ⟨es, hes, he⟩ := mem_of_append? h he
    · have hlt := sizeOf_lt_of_mem_mergedItems hes e he
      omega
    · have hmerged : n.merged? = some es := by
        cases n with
        | mapping tag entries =>
          rw [flat?] at hes
          rw [merged?, hes]
        | _ =>
          rw [flat?] at hes
          cases hes
      have hlt := sizeOf_lt_of_mem_merged hmerged e he
      omega

theorem sizeOf_lt_of_mem_mergedIn : ∀ {es : List (Node × Node)} {flat : List (Node × Node)},
    mergedIn? es = some flat → ∀ e ∈ flat, sizeOf e < sizeOf es
  | [], _, h, _, he => by
    rw [mergedIn?] at h
    cases h
    cases he
  | (k, v) :: es, _, h, e, he => by
    rw [mergedIn?] at h
    simp only [List.cons.sizeOf_spec, Prod.mk.sizeOf_spec]
    obtain ⟨found, hfound, he⟩ | ⟨found, hfound, he⟩ := mem_of_append? h he
    · rw [mergedBy?] at hfound
      split at hfound
      · have hlt := sizeOf_lt_of_mem_merged hfound e he
        omega
      · cases hfound
        cases he
    · have hlt := sizeOf_lt_of_mem_mergedIn hfound e he
      omega

end

theorem sizeOf_lt_of_entry (e : Node × Node) : sizeOf e.1 < sizeOf e ∧ sizeOf e.2 < sizeOf e := by
  cases e
  simp only [Prod.mk.sizeOf_spec]
  omega

theorem sizeOf_lt_of_mem_flat {n : Node} {flat : List (Node × Node)} (h : n.flat? = some flat) :
    ∀ e ∈ flat, sizeOf e < sizeOf n := by
  cases n with
  | mapping tag entries =>
    rw [flat?] at h
    exact sizeOf_lt_of_mem_merged (by rw [merged?, h])
  | _ =>
    rw [flat?] at h
    cases h

end Node

/-! ## §2 The loader -/

namespace Reader

/-- The text of a tag of the reader. -/
def tagText : Yaml.Tag → String
  | .null => standard "null"
  | .bool => standard "bool"
  | .int => standard "int"
  | .float => standard "float"
  | .timestamp => standard "timestamp"
  | .str => standard "str"
  | .seq => standard "seq"
  | .map => standard "map"
  | .set => standard "set"
  | .pairs => standard "pairs"
  | .merge => standard "merge"
  | .value => standard "value"
  | .custom name => localTag name
  | .unknown => ""

mutual

/-- A node of the reader, with its tag in full. -/
def composed : Yaml.Node → Node
  | .scalar tag isOpen text => .scalar (tagText (Yaml.Node.tag (.scalar tag isOpen text))) text
  | .seq tag items => .sequence (tagText (tag.getD .seq)) (composedItems items)
  | .map tag entries => .mapping (tagText (tag.getD .map)) (composedEntries entries)

/-- The nodes of a list. -/
def composedItems : List Yaml.Node → List Node
  | [] => []
  | n :: ns => composed n :: composedItems ns

/-- Keys and values. -/
def composedEntries : List (Yaml.Node × Yaml.Node) → List (Node × Node)
  | [] => []
  | (k, v) :: es => (composed k, composed v) :: composedEntries es

end

/-- The node of a text. -/
def compose (text : String) : Option Node :=
  match Yaml.document? (Yaml.tokens text) with
  | .ok (some n) => some (composed n)
  | _ => none

/-- What there is not. -/
def missing {α : Type} : Except Error α := .error .malformedDocument

/-- All of them, or the first that is wrong. -/
def all {α : Type} : List (Except Error α) → Except Error (List α)
  | [] => .ok []
  | x :: xs => x.bind fun a => (all xs).map (a :: ·)

/-- Key and value, if the key can be stored. -/
def entry (key value : Except Error Value) : Except Error (Value × Value) :=
  key.bind fun k => if k.isHashable then value.map (k, ·) else missing

/-- The value of a node by its tag. -/
def construct (c : Constructors (Except Error) Node) (n : Node) : Except Error Value :=
  match n.tag.toList with
  | '!' :: name => constructTagged c (String.ofList name) n
  | _ =>
    if n.tag = standard "seq" then .list <$> c.sequence n
    else if n.tag = standard "map" then .map <$> c.mapping n
    else if n.tag = standard "set" then (fun es => .set (es.map (·.1))) <$> c.mapping n
    else (c.scalar n).bind (Yaml.scalarValue (.ofText n.tag))

/-- The value of a node. -/
def object (n : Node) : Except Error Value :=
  match n with
  | .scalar tag text =>
    construct ⟨Node.form, fun _ => .ok text, fun _ => missing, fun _ => missing⟩ (.scalar tag text)
  | .sequence tag items =>
    construct ⟨Node.form, fun _ => missing, fun _ => all (items.map object), fun _ => missing⟩
      (.sequence tag items)
  | .mapping tag entries =>
    let found :=
      match _hflat : (Node.mapping tag entries).flat? with
      | none => missing
      | some flat =>
        (all (flat.attach.map fun ⟨e, _⟩ => entry (object e.1) (object e.2))).map stored
    construct ⟨Node.form, fun _ => missing, fun _ => missing, fun _ => found⟩ (.mapping tag entries)
termination_by sizeOf n
decreasing_by
  · next hitem =>
    have hlt := List.sizeOf_lt_of_mem hitem
    simp only [Node.sequence.sizeOf_spec]
    omega
  · next hentry =>
    exact Nat.lt_trans (Node.sizeOf_lt_of_entry e).1 (Node.sizeOf_lt_of_mem_flat _hflat _ hentry)
  · next hentry =>
    exact Nat.lt_trans (Node.sizeOf_lt_of_entry e).2 (Node.sizeOf_lt_of_mem_flat _hflat _ hentry)

/-- The text of a scalar. -/
def scalarOf : Node → Except Error String
  | .scalar _ text => .ok text
  | _ => missing

/-- The values of a sequence. -/
def sequenceOf : Node → Except Error (List Value)
  | .sequence _ items => all (items.map object)
  | _ => missing

/-- The entries of a mapping. -/
def mappingOf (n : Node) : Except Error Entries :=
  match n.flat? with
  | none => missing
  | some flat => (all (flat.map fun e => entry (object e.1) (object e.2))).map stored

/-- The loader of the reader. -/
def loader : Loader where
  compose := compose
  constructObject := object
  constructScalar := scalarOf
  constructSequence := sequenceOf
  constructMapping := mappingOf
  load text := ((compose text).map object).getD missing

theorem compose_of_tokens {text : String} {ts : List Yaml.Token} {n : Yaml.Node}
    (h : Yaml.tokens text = ts) (hn : Yaml.document? ts = .ok (some n)) :
    loader.compose text = some (composed n) := by
  subst h
  simp only [loader, compose, hn]

theorem construct_congr {c c' : Constructors (Except Error) Node} {n : Node} (hform : c.form n = c'.form n)
    (hscalar : c.scalar n = c'.scalar n) (hsequence : c.sequence n = c'.sequence n)
    (hmapping : c.mapping n = c'.mapping n) : construct c n = construct c' n := by
  simp only [construct, constructTagged, hform, hscalar, hsequence, hmapping]

/-- Each node is constructed by its tag. -/
theorem object_eq (n : Node) : object n = construct loader.constructors n := by
  cases n with
  | scalar tag text =>
    rw [object]
    exact construct_congr rfl rfl rfl (by simp [Loader.constructors, loader, mappingOf, Node.flat?])
  | sequence tag items =>
    rw [object]
    exact construct_congr rfl rfl rfl (by simp [Loader.constructors, loader, mappingOf, Node.flat?])
  | mapping tag entries =>
    rw [object]
    refine construct_congr rfl rfl rfl ?_
    simp only [Loader.constructors, loader, mappingOf]
    split
    · next hflat => rw [hflat]
    · next flat hflat =>
      rw [hflat]
      exact congrArg (fun found => (all found).map stored)
        (@List.attach_map_val _ _ flat fun e => entry (object e.1) (object e.2))

/-! ## §3 What the loader does -/

theorem all_eq_ok_iff {α β : Type} {f : α → Except Error β} {as : List α} {bs : List β} :
    all (as.map f) = .ok bs ↔ List.Forall₂ (fun a b => f a = .ok b) as bs := by
  induction as generalizing bs with
  | nil => cases bs <;> simp [all]
  | cons a as ih =>
    rw [List.map_cons, all]
    rw [List.forall₂_cons_left_iff]
    cases f a with
    | error e => simp [Except.bind]
    | ok b =>
      simp only [Except.bind, ← ih]
      cases all (as.map f) <;> simp [Except.map, eq_comm]

theorem entry_eq_ok_iff {e : Node × Node} {p : Value × Value} :
    entry (object e.1) (object e.2) = .ok p ↔ loader.ConstructsEntry e p := by
  constructor
  · intro h
    obtain ⟨k, hkey, h⟩ := exists_of_bind_eq_ok h
    split at h
    · next hstorable =>
      obtain ⟨v, hvalue, rfl⟩ := map_eq_ok_iff.1 h
      exact ⟨hkey, hvalue, hstorable⟩
    · cases h
  · intro h
    have hkey : object e.1 = .ok p.1 := h.key
    have hvalue : object e.2 = .ok p.2 := h.value
    rw [hkey, hvalue, entry, Except.bind, if_pos h.storable]
    rfl

/-- The entries of a mapping, with others merged in. -/
theorem mappingOf_eq_ok_iff {n : Node} {flat : List (Node × Node)} (hflat : n.flat? = some flat)
    {found : Entries} : mappingOf n = .ok found ↔
      ∃ pairs, List.Forall₂ loader.ConstructsEntry flat pairs ∧ found = stored pairs := by
  rw [mappingOf, hflat]
  have hall (pairs : List (Value × Value)) :
      all (flat.map fun e => entry (object e.1) (object e.2)) = .ok pairs ↔
        List.Forall₂ loader.ConstructsEntry flat pairs := by
    simp only [all_eq_ok_iff, entry_eq_ok_iff]
  simp only [← hall]
  exact map_eq_ok_iff

theorem toList_localTag (name : String) : (localTag name).toList = '!' :: name.toList := by
  rw [localTag, String.toList_append]
  rfl

/-- A tag of the application is handed on without its mark. -/
theorem construct_localTag {c : Constructors (Except Error) Node} {n : Node} {name : String}
    (h : n.tag = localTag name) : construct c n = constructTagged c name n := by
  rw [construct, h, toList_localTag]
  simp

/-- The other tags. -/
theorem construct_of_not_local (c : Constructors (Except Error) Node) (n : Node)
    (h : ∀ name, n.tag ≠ localTag name) : construct c n =
      if n.tag = standard "seq" then .list <$> c.sequence n
      else if n.tag = standard "map" then .map <$> c.mapping n
      else if n.tag = standard "set" then (fun es => .set (es.map (·.1))) <$> c.mapping n
      else (c.scalar n).bind (Yaml.scalarValue (.ofText n.tag)) := by
  rw [construct]
  split
  · next name hname =>
    refine absurd ?_ (h (String.ofList name))
    rw [← String.toList_inj, hname, toList_localTag, String.toList_ofList]
  · rfl

/-! ## §4 Scalars -/

/-- The types of the values of scalars by their tags. -/
def typesOf : Yaml.Tag → List String
  | .null => ["NoneType"]
  | .bool => ["bool"]
  | .int => ["int"]
  | .float => ["float"]
  | .timestamp => ["date", "datetime"]
  | .str => ["str"]
  | _ => []

/-- The value of a scalar is of a type of its tag. -/
theorem typeName_mem_typesOf {tag : Yaml.Tag} {text : String} {v : Value}
    (h : Yaml.scalarValue tag text = .ok v) : v.typeName ∈ typesOf tag := by
  cases tag with
  | null =>
    cases h
    exact List.mem_singleton_self _
  | str =>
    cases h
    exact List.mem_singleton_self _
  | bool =>
    simp only [Yaml.scalarValue, mapError_eq_ok_iff, Yaml.truthValue] at h
    split at h
    · cases h
      exact List.mem_singleton_self _
    · split at h
      · cases h
        exact List.mem_singleton_self _
      · cases h
  | int =>
    simp only [Yaml.scalarValue, mapError_eq_ok_iff] at h
    obtain ⟨signed, -, h⟩ := exists_of_bind_eq_ok h
    obtain ⟨n, -, h⟩ := exists_of_bind_eq_ok h
    cases h
    exact List.mem_singleton_self _
  | float =>
    simp only [Yaml.scalarValue, mapError_eq_ok_iff] at h
    obtain ⟨signed, -, h⟩ := exists_of_bind_eq_ok h
    obtain ⟨x, -, h⟩ := exists_of_bind_eq_ok h
    cases h
    exact List.mem_singleton_self _
  | timestamp =>
    simp only [Yaml.scalarValue, mapError_eq_ok_iff, Yaml.stampValue] at h
    split at h
    · next stamp _ =>
      rw [Yaml.Stamp.check] at h
      split at h
      · cases h
        cases stamp.time <;> simp [Value.typeName, typesOf]
      · cases h
    · cases h
  | _ => cases h

/-! ## §5 The loader does what is documented -/

theorem standard_not_local {name : String} (other : String) : standard name ≠ localTag other :=
  (localTag_ne_standard other name).symm

/-- The tags of the forms are none of collections, and the reader gives them their types. -/
theorem implicitTypes_facts : ∀ p ∈ implicitTypes, p.1 ≠ standard "seq" ∧ p.1 ≠ standard "map" ∧
    p.1 ≠ standard "set" ∧ typesOf (.ofText p.1) = p.2 := by
  decide +kernel

theorem implicitTypes_standard : ∀ p ∈ implicitTypes, ∃ name, p.1 = standard name := by
  simp [implicitTypes]

/-- The value of a node under a tag that is not one of the application. -/
theorem object_of_not_local (tag : String) (n : Node) (htag : n.tag = tag)
    (hlocal : ∀ name, tag ≠ localTag name) : object n =
      if tag = standard "seq" then .list <$> sequenceOf n
      else if tag = standard "map" then .map <$> mappingOf n
      else if tag = standard "set" then (fun es => .set (es.map (·.1))) <$> mappingOf n
      else (scalarOf n).bind (Yaml.scalarValue (.ofText tag)) := by
  subst htag
  exact (object_eq n).trans (construct_of_not_local loader.constructors n hlocal)

section NotLocal

variable {tag : String} (hlocal : ∀ name, tag ≠ localTag name)
include hlocal

theorem object_scalar {text : String} (hseq : tag ≠ standard "seq") (hmap : tag ≠ standard "map")
    (hset : tag ≠ standard "set") :
    object (.scalar tag text) = Yaml.scalarValue (.ofText tag) text := by
  rw [object_of_not_local tag (.scalar tag text) rfl hlocal, if_neg hseq, if_neg hmap, if_neg hset]
  rfl

theorem object_sequence (items : List Node) : object (.sequence tag items) =
    if tag = standard "seq" then .list <$> all (items.map object) else missing := by
  have hmapping : mappingOf (.sequence tag items) = missing := by rw [mappingOf, Node.flat?]
  rw [object_of_not_local tag (.sequence tag items) rfl hlocal, hmapping]
  split
  · rfl
  · split
    · rfl
    · split <;> rfl

theorem object_mapping (entries : List (Node × Node)) : object (.mapping tag entries) =
    if tag = standard "map" then .map <$> mappingOf (.mapping tag entries)
    else if tag = standard "set" then (fun es => .set (es.map (·.1))) <$> mappingOf (.mapping tag entries)
    else missing := by
  have hne : standard "seq" ≠ standard "map" ∧ standard "seq" ≠ standard "set" := by decide +kernel
  rw [object_of_not_local tag (.mapping tag entries) rfl hlocal]
  split
  · next hseq =>
    rw [hseq, if_neg hne.1, if_neg hne.2]
    rfl
  · rfl

end NotLocal

/-- The loader of the reader does what loaders are documented to do. -/
theorem conforms_loader : loader.Conforms where
  load {text n} h v := by
    have hload : loader.load text = object n := by
      have hcompose : compose text = some n := h
      simp only [loader, hcompose]
      rfl
    rw [hload]
    rfl
  tagged n name h := (object_eq n).trans (construct_localTag h)
  scalar _ _ := rfl
  sequence _ _ _ := all_eq_ok_iff
  mapping _ _ _ hflat _ _ := mappingOf_eq_ok_iff hflat
  unmerged tag entries hflat found h := by
    simp only [loader, mappingOf, hflat] at h
    cases h
  text text := by
    have hvalue : Yaml.scalarValue (.ofText (standard "str")) text = .ok (.str text) := by
      rw [show Yaml.Tag.ofText (standard "str") = .str by decide +kernel]
      rfl
    exact (object_scalar standard_not_local (by decide +kernel) (by decide +kernel)
      (by decide +kernel)).trans hvalue
  implicit tag text types h v hv := by
    obtain ⟨hseq, hmap, hset, htypes⟩ := implicitTypes_facts _ h
    obtain ⟨name, hname⟩ := implicitTypes_standard _ h
    have hlocal : ∀ other, tag ≠ localTag other := by
      rw [show tag = standard name from hname]
      exact standard_not_local
    have hvalue := (object_scalar hlocal hseq hmap hset).symm.trans hv
    rw [← show typesOf (.ofText tag) = types from htypes]
    exact typeName_mem_typesOf hvalue
  list items v := by
    rw [← map_eq_ok_iff]
    exact Eq.congr_left ((object_sequence standard_not_local items).trans (if_pos rfl))
  map entries v := by
    rw [← map_eq_ok_iff]
    exact Eq.congr_left ((object_mapping standard_not_local entries).trans (if_pos rfl))
  set entries v := by
    have hobject := @object_mapping (standard "set") standard_not_local entries
    rw [if_neg map_ne_set.symm, if_pos rfl] at hobject
    exact (Eq.congr_left hobject).trans map_eq_ok_iff
  noList tag items _ hseq hlocal v hv := by
    have hobject := (object_sequence hlocal items).symm.trans hv
    rw [if_neg hseq] at hobject
    cases hobject
  noMap tag entries _ _ hmap hset hlocal v hv := by
    have hobject := (object_mapping hlocal entries).symm.trans hv
    rw [if_neg hmap, if_neg hset] at hobject
    cases hobject

end Reader

end CppIdioms.Document
