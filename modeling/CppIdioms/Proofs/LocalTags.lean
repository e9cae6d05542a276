import CppIdioms.Proofs.YamlLoader

/-!
# Tags of the application

A tag of the application says nothing about a collection or a text: with or without it a document has
the same value, wherever in the document it stands. Any other scalar loses its type under such a tag,
and what is left is its text, as if it stood in quotes.

## Contents

* `Marked`: tags of the application are put on some collections and texts of a document.
* `Loader.Alike`, `Loader.PartAlike`: nodes that cannot be told apart by their values, nor by what they
  add to a mapping that they are merged into.

## Main statements

* `Loader.Conforms.alike`: a mark is not seen by the nodes around it.
* `local_tags_keep_value`: the value of a document with marks.
-/

namespace CppIdioms.Document

open CppIdioms.Files

/-! ## §1 Marks -/

/-- The tag is kept, or one of the application, other than that for types that are not known, is put
where a node would have had the plain tag of its form. -/
inductive TagMarked (plain : String) : String → String → Prop where
  | same {tag : String} (h : tag ∉ leftOut) : TagMarked plain tag tag
  | marked {name : String} (h : name ≠ unresolvedName) : TagMarked plain plain (localTag name)

mutual

/-- The second node is the first one with tags of the application on some collections and texts. -/
inductive Marked : Node → Node → Prop where
  | scalar {tag text : String} (h : tag ∉ leftOut) : Marked (.scalar tag text) (.scalar tag text)
  | text {text name : String} (h : name ≠ unresolvedName) :
      Marked (.scalar (standard "str") text) (.scalar (localTag name) text)
  | sequence {tag tag' : String} {items items' : List Node} (htag : TagMarked (standard "seq") tag tag')
      (hitems : MarkedItems items items') : Marked (.sequence tag items) (.sequence tag' items')
  | mapping {tag tag' : String} {entries entries' : List (Node × Node)}
      (htag : TagMarked (standard "map") tag tag') (hentries : MarkedEntries entries entries') :
      Marked (.mapping tag entries) (.mapping tag' entries')

/-- Marks in the items of a sequence. -/
inductive MarkedItems : List Node → List Node → Prop where
  | nil : MarkedItems [] []
  | cons {n n' : Node} {ns ns' : List Node} (head : Marked n n') (tail : MarkedItems ns ns') :
      MarkedItems (n :: ns) (n' :: ns')

/-- Marks in the entries of a mapping, in keys as in values. -/
inductive MarkedEntries : List (Node × Node) → List (Node × Node) → Prop where
  | nil : MarkedEntries [] []
  | cons {k k' v v' : Node} {es es' : List (Node × Node)} (key : Marked k k') (value : Marked v v')
      (tail : MarkedEntries es es') : MarkedEntries ((k, v) :: es) ((k', v') :: es')

end

/-- Neither tag is one that is left out, and a merge key stays one. -/
structure TagsAlike (tag tag' : String) : Prop where
  known : tag ∉ leftOut
  known' : tag' ∉ leftOut
  merge : tag' = standard "merge" ↔ tag = standard "merge"

theorem tagsAlike_localTag {plain : String} (hknown : plain ∉ leftOut)
    (hmerge : plain ≠ standard "merge") (name : String) : TagsAlike plain (localTag name) :=
  ⟨hknown, localTag_not_leftOut name, by simp [localTag_ne_standard, hmerge]⟩

theorem TagMarked.alike {plain tag tag' : String} (h : TagMarked plain tag tag')
    (hknown : plain ∉ leftOut) (hmerge : plain ≠ standard "merge") : TagsAlike tag tag' := by
  cases h with
  | same h => exact ⟨h, h, .rfl⟩
  | @marked name _ => exact tagsAlike_localTag hknown hmerge name

theorem Marked.tags {n n' : Node} (h : Marked n n') : TagsAlike n.tag n'.tag := by
  cases h with
  | scalar h => exact ⟨h, h, .rfl⟩
  | @text _ name _ =>
    exact @tagsAlike_localTag (standard "str") (by decide +kernel) (by decide +kernel) name
  | sequence htag _ => exact htag.alike (by decide +kernel) (by decide +kernel)
  | mapping htag _ => exact htag.alike (by decide +kernel) (by decide +kernel)

/-! ## §2 Nodes that are alike -/

namespace Loader

variable (L : Loader)

/-- The same values are constructed of both nodes. -/
def Alike (n n' : Node) : Prop := ∀ v, L.Constructs n' v ↔ L.Constructs n v

/-- Keys and values of both entries are alike, and so are the tags of the keys. -/
structure EntryAlike (e e' : Node × Node) : Prop where
  key : L.Alike e.1 e'.1
  value : L.Alike e.2 e'.2
  tags : TagsAlike e.1.tag e'.1.tag

/-- There are entries of both, and they are alike, or of neither. -/
abbrev EntriesAlike : Option (List (Node × Node)) → Option (List (Node × Node)) → Prop :=
  Option.Rel (List.Forall₂ L.EntryAlike)

/-- Both nodes have the same values and add the same where they are merged in. -/
structure PartAlike (n n' : Node) : Prop where
  value : L.Alike n n'
  flat : L.EntriesAlike n.flat? n'.flat?
  merged : L.EntriesAlike n.merged? n'.merged?

end Loader

/-- What holds of an item holds of its counterpart. -/
theorem forall₂_congr {α β : Type} {r : α → α → Prop} {p : α → β → Prop} {as as' : List α} {bs : List β}
    (h : List.Forall₂ r as as') (hr : ∀ a a' b, r a a' → (p a' b ↔ p a b)) :
    List.Forall₂ p as' bs ↔ List.Forall₂ p as bs := by
  induction h generalizing bs with
  | nil => rfl
  | cons hab _ ih => cases bs <;> simp [hr _ _ _ hab, ih]

section Alike

variable {L : Loader}

theorem Loader.EntryAlike.constructs {e e' : Node × Node} (h : L.EntryAlike e e') (p : Value × Value) :
    L.ConstructsEntry e' p ↔ L.ConstructsEntry e p :=
  ⟨fun hp => ⟨(h.key _).1 hp.key, (h.value _).1 hp.value, hp.storable⟩,
    fun hp => ⟨(h.key _).2 hp.key, (h.value _).2 hp.value, hp.storable⟩⟩

theorem entriesAlike_append {a a' b b' : Option (List (Node × Node))} (h : L.EntriesAlike a a')
    (h' : L.EntriesAlike b b') : L.EntriesAlike (Node.append? a b) (Node.append? a' b') := by
  cases h with
  | none => exact .none
  | some hentries =>
    cases h' with
    | none => exact .none
    | some hrest => exact .some (List.rel_append hentries hrest)

theorem entriesAlike_own {es es' : List (Node × Node)} (h : List.Forall₂ L.EntryAlike es es') :
    L.EntriesAlike (some (Node.own es)) (some (Node.own es')) :=
  .some (List.rel_filter (fun e e' he => by simp [Node.isMerge, he.tags.merge]) h)

theorem entriesAlike_mapping {es es' : List (Node × Node)} (h : List.Forall₂ L.EntryAlike es es')
    (hmerged : L.EntriesAlike (Node.mergedIn? es) (Node.mergedIn? es')) (tag tag' : String) :
    L.EntriesAlike (Node.mapping tag es).flat? (Node.mapping tag' es').flat? := by
  rw [Node.flat?, Node.flat?]
  exact entriesAlike_append hmerged (entriesAlike_own h)

/-- The tags of keys that are alike are known. -/
theorem known_of_entriesAlike {es es' : List (Node × Node)} (h : List.Forall₂ L.EntryAlike es es') :
    (∀ e ∈ es, e.1.tag ∉ leftOut) ∧ ∀ e ∈ es', e.1.tag ∉ leftOut := by
  induction h with
  | nil => exact ⟨List.forall_mem_nil _, List.forall_mem_nil _⟩
  | cons he _ ih =>
    exact ⟨List.forall_mem_cons.2 ⟨he.tags.known, ih.1⟩, List.forall_mem_cons.2 ⟨he.tags.known', ih.2⟩⟩

/-! ## §3 Collections -/

variable (hL : L.Conforms)
include hL

/-- Of sequences whose items are alike the same is constructed, under a mark or not. -/
theorem Loader.Conforms.alike_sequence {tag tag' : String} (htag : TagMarked (standard "seq") tag tag')
    {items items' : List Node} (h : List.Forall₂ L.Alike items items') :
    L.Alike (.sequence tag items) (.sequence tag' items') := by
  intro v
  have htags := htag.alike (by decide +kernel) (by decide +kernel)
  have hitems (vs : List Value) :
      List.Forall₂ L.Constructs items' vs ↔ List.Forall₂ L.Constructs items vs :=
    forall₂_congr h fun _ _ b hn => hn b
  simp only [hL.sequence_iff htags.known, hL.sequence_iff htags.known', hitems]
  cases htag with
  | same => rfl
  | marked => simp

/-- Mappings whose entries are alike hold the same. -/
theorem Loader.Conforms.constructMapping_iff {tag tag' : String} {entries entries' : List (Node × Node)}
    (h : L.EntriesAlike (Node.mapping tag entries).flat? (Node.mapping tag' entries').flat?)
    (found : Entries) : L.constructMapping (.mapping tag' entries') = .ok found ↔
      L.constructMapping (.mapping tag entries) = .ok found := by
  generalize hflat : (Node.mapping tag entries).flat? = flat at h
  generalize hflat' : (Node.mapping tag' entries').flat? = flat' at h
  cases h with
  | none => simp [hL.unmerged _ _ hflat, hL.unmerged _ _ hflat']
  | @some flat flat' hentries =>
    obtain ⟨hknown, hknown'⟩ := known_of_entriesAlike hentries
    rw [hL.mapping _ _ hflat hknown, hL.mapping _ _ hflat' hknown']
    simp only [forall₂_congr hentries fun _ _ p he => he.constructs p]

/-- Of mappings whose entries are alike the same is constructed, under a mark or not. -/
theorem Loader.Conforms.alike_mapping {tag tag' : String} (htag : TagMarked (standard "map") tag tag')
    {entries entries' : List (Node × Node)} (h : List.Forall₂ L.EntryAlike entries entries')
    (hflat : L.EntriesAlike (Node.mapping tag entries).flat? (Node.mapping tag' entries').flat?) :
    L.Alike (.mapping tag entries) (.mapping tag' entries') := by
  intro v
  have htags := htag.alike (by decide +kernel) (by decide +kernel)
  obtain ⟨hknown, hknown'⟩ := known_of_entriesAlike h
  rw [hL.mapping_iff htags.known hknown, hL.mapping_iff htags.known' hknown']
  simp only [hL.constructMapping_iff hflat]
  cases htag with
  | same => rfl
  | marked hname => simp [mappingValue_map, mappingValue_localTag, hname]

end Alike

/-! ## §4 Documents -/

section Documents

variable {L : Loader}

mutual

/-- A mark is not seen by the nodes around it. -/
theorem Loader.Conforms.alike (hL : L.Conforms) : ∀ {n n' : Node}, Marked n n' → L.PartAlike n n'
  | _, _, .scalar _ => by
    refine ⟨fun _ => .rfl, ?_, ?_⟩
    · rw [Node.flat?]
      exact .none
    · rw [Node.merged?]
      exact .none
  | _, _, @Marked.text text name h => by
    refine ⟨fun v => ?_, ?_, ?_⟩
    · rw [Loader.Constructs, Loader.Constructs, hL.text, hL.tagged _ name rfl]
      simp [constructTagged, Loader.constructors, Node.form, hL.scalar, h]
    · rw [Node.flat?, Node.flat?]
      exact .none
    · rw [Node.merged?, Node.merged?]
      exact .none
  | _, _, .sequence htag hitems => by
    obtain ⟨hvalues, hmerged⟩ := hL.alike_items hitems
    refine ⟨hL.alike_sequence htag hvalues, ?_, ?_⟩
    · rw [Node.flat?, Node.flat?]
      exact .none
    · rw [Node.merged?, Node.merged?]
      exact hmerged
  | _, _, @Marked.mapping tag tag' _ _ htag hentries => by
    obtain ⟨hvalues, hmerged⟩ := hL.alike_entries hentries
    have hflat := entriesAlike_mapping hvalues hmerged tag tag'
    have hmergedTo := hflat
    rw [Node.flat?, Node.flat?] at hmergedTo
    refine ⟨hL.alike_mapping htag hvalues hflat, hflat, ?_⟩
    rw [Node.merged?, Node.merged?]
    exact hmergedTo

theorem Loader.Conforms.alike_items (hL : L.Conforms) : ∀ {ns ns' : List Node}, MarkedItems ns ns' →
    List.Forall₂ L.Alike ns ns' ∧ L.EntriesAlike (Node.mergedItems? ns) (Node.mergedItems? ns')
  | _, _, .nil => by
    rw [Node.mergedItems?]
    exact ⟨.nil, .some .nil⟩
  | _, _, .cons head tail => by
    have hn := hL.alike head
    obtain ⟨hvalues, hmerged⟩ := hL.alike_items tail
    rw [Node.mergedItems?, Node.mergedItems?]
    exact ⟨.cons hn.value hvalues, entriesAlike_append hmerged hn.flat⟩

theorem Loader.Conforms.alike_entries (hL : L.Conforms) :
    ∀ {es es' : List (Node × Node)}, MarkedEntries es es' →
      List.Forall₂ L.EntryAlike es es' ∧
        L.EntriesAlike (Node.mergedIn? es) (Node.mergedIn? es')
  | _, _, .nil => by
    rw [Node.mergedIn?]
    exact ⟨.nil, .some .nil⟩
  | _, _, .cons key value tail => by
    have hkey := hL.alike key
    have hvalue := hL.alike value
    obtain ⟨hvalues, hmerged⟩ := hL.alike_entries tail
    rw [Node.mergedIn?, Node.mergedIn?]
    refine ⟨.cons ⟨hkey.value, hvalue.value, key.tags⟩ hvalues, entriesAlike_append ?_ hmerged⟩
    rw [Node.mergedBy?, Node.mergedBy?]
    simp only [beq_iff_eq, key.tags.merge]
    split
    · exact hvalue.merged
    · exact .some .nil

end

/-- The tags that scalars have by their form, apart from the key `=`. -/
def implicitTags : List String := standard "str" :: implicitTypes.map (·.1)

/-- A scalar is its text under a mark, and without a mark exactly if it is a text by its form. -/
theorem Loader.Conforms.constructs_text_iff (hL : L.Conforms) {tag word : String}
    (htag : tag ∈ implicitTags) :
    L.Constructs (.scalar tag word) (.str word) ↔ tag = standard "str" := by
  constructor
  · intro h
    rcases List.mem_cons.1 htag with htext | hother
    · exact htext
    · obtain ⟨⟨_, types⟩, htypes, rfl⟩ := List.mem_map.1 hother
      have hstr : "str" ∈ types := hL.implicit _ word types htypes _ h
      have hnone : ∀ p ∈ implicitTypes, "str" ∉ p.2 := by decide +kernel
      exact absurd hstr (hnone _ htypes)
  · rintro rfl
    exact hL.text word

/-- Whatever a loader is, as long as it does what loaders are documented to do, tags of the application
on collections and texts leave the value of a document as it is, wherever in the document they stand. A
scalar under such a tag is its text, so that exactly the texts among the scalars keep their value. -/
theorem local_tags_keep_value (L : Loader) (hL : L.Conforms) {text text' : String} {n n' : Node}
    (htext : L.compose text = some n) (htext' : L.compose text' = some n') (hmarked : Marked n n') :
    (∀ v, L.load text' = .ok v ↔ L.load text = .ok v) ∧
      ∀ word name : String, name ≠ unresolvedName →
        L.Constructs (.scalar (localTag name) word) (.str word) ∧
        ∀ tag ∈ implicitTags,
          (L.Constructs (.scalar tag word) (.str word) ↔ tag = standard "str") := by
  constructor
  · intro v
    rw [hL.load htext, hL.load htext']
    exact (hL.alike hmarked).value v
  · intro word name hname
    refine ⟨?_, fun tag htag => hL.constructs_text_iff htag⟩
    -- A text is its own value, and a mark on it changes nothing.
    have hquoted : Marked (.scalar (standard "str") word) (.scalar (localTag name) word) := .text hname
    exact ((hL.alike hquoted).value _).2 (hL.text word)

/-- Marks on a text and on a mapping inside a sequence, and on a number. -/
theorem local_tags_on_text_and_mapping :
    (∀ v, Reader.loader.load "[!x a, !y \x7bb: 5\x7d]" = .ok v ↔
      Reader.loader.load "[a, \x7bb: 5\x7d]" = .ok v) ∧
      Reader.loader.Constructs (.scalar (localTag "x") "5") (.str "5") ∧
      ¬ Reader.loader.Constructs (.scalar (standard "int") "5") (.str "5") := by
  have hplain : Yaml.tokens "[a, \x7bb: 5\x7d]" =
      [.flowSequence, .scalar "a" true, .comma, .flowMapping, .key, .scalar "b" true, .value,
        .scalar "5" true, .flowMappingEnd, .flowSequenceEnd, .streamEnd] := by decide +kernel
  have hmarked : Yaml.tokens "[!x a, !y \x7bb: 5\x7d]" =
      [.flowSequence, .tag (some "!") "x", .scalar "a" true, .comma, .tag (some "!") "y",
        .flowMapping, .key, .scalar "b" true, .value, .scalar "5" true, .flowMappingEnd,
        .flowSequenceEnd, .streamEnd] := by decide +kernel
  let number : Node × Node := (.scalar (standard "str") "b", .scalar (standard "int") "5")
  have htext : Reader.loader.compose "[a, \x7bb: 5\x7d]" = some (.sequence (standard "seq")
      [.scalar (standard "str") "a", .mapping (standard "map") [number]]) :=
    Reader.compose_of_tokens hplain rfl
  have htext' : Reader.loader.compose "[!x a, !y \x7bb: 5\x7d]" = some (.sequence (standard "seq")
      [.scalar (localTag "x") "a", .mapping (localTag "y") [number]]) :=
    Reader.compose_of_tokens hmarked rfl
  have hnumber : MarkedEntries [number] [number] :=
    .cons (.scalar (by decide +kernel)) (.scalar (by decide +kernel)) .nil
  have hx : "x" ≠ unresolvedName := by decide
  have hy : "y" ≠ unresolvedName := by decide
  have hseq : standard "seq" ∉ leftOut := by decide +kernel
  obtain ⟨hkept, hscalars⟩ :=
    local_tags_keep_value Reader.loader Reader.conforms_loader htext htext'
      (.sequence (.same hseq) (.cons (.text hx) (.cons (.mapping (.marked hy) hnumber) .nil)))
  obtain ⟨htagged, hplain⟩ := hscalars "5" "x" hx
  exact ⟨hkept, htagged, fun h => absurd ((hplain _ (by decide +kernel)).1 h) (by decide +kernel)⟩

/-- A number under a mark is no number any more. -/
theorem local_tag_makes_number_text :
    Reader.loader.load "5" = .ok (.int 5) ∧ Reader.loader.load "!x 5" = .ok (.str "5") := by
  have htokens : Yaml.tokens "5" = [.scalar "5" true, .streamEnd] := by decide +kernel
  have hmarked : Yaml.tokens "!x 5" = [.tag (some "!") "x", .scalar "5" true, .streamEnd] := by
    decide +kernel
  have htext : Reader.loader.compose "5" = some (.scalar (standard "int") "5") :=
    Reader.compose_of_tokens htokens rfl
  have htext' : Reader.loader.compose "!x 5" = some (.scalar (localTag "x") "5") :=
    Reader.compose_of_tokens hmarked rfl
  have hx : "x" ≠ unresolvedName := by decide
  constructor
  · refine (Reader.conforms_loader.load htext _).2 ?_
    have hint : Yaml.Tag.ofText (standard "int") = .int := by decide +kernel
    refine (Reader.object_scalar Reader.standard_not_local (by decide +kernel) (by decide +kernel)
      (by decide +kernel)).trans ?_
    rw [hint]
    rfl
  · refine (Reader.conforms_loader.load htext' _).2 ?_
    exact ((Reader.conforms_loader.alike (.text hx)).value _).2 (Reader.conforms_loader.text "5")

end Documents

end CppIdioms.Document
