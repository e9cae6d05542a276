import CppIdioms.Proofs.Preorder
import CppIdioms.Tree.Dump
import Mathlib.Data.List.Basic

/-!
# Trees that dumps describe

A dump is read in two passes that run in opposite directions over flat lists. Here the tree that a
dump describes is defined by recursion on the dump, each node by its own mapping and by the mappings
around it, and both passes are shown to arrive at it.

## Contents

* `Value.IsJson`: values that a data file of the usual kind can hold.
* `DumpPlace`, `DumpPlace.places`: a node value with the mappings around it, and all node values in
  recursive preorder.
* `namedFile?`, `DumpPlace.file`: the file that a location names, and the one that a node belongs to.
* `DumpPlace.malformed?`, `DumpPlace.badAttributes?`: what is wrong with a node value.
* `DumpPlace.tree`: the tree that a node value describes.

## Main statements

* `listEntries_eq`: the first pass lists the node values in preorder, or ends at the first malformed
  one.
* `buildAll_bad`, `buildAll_trees`: the second pass ends at the last node value with bad attributes,
  or builds every tree after the trees of its children.
* `ofDump_eq_recursive_tree`: both together.
-/

namespace CppIdioms

/-! ## §1 Places of a dump -/

/-- Values that a data file can hold: scalars, lists, and mappings whose keys are different texts. -/
inductive Value.IsJson : Value → Prop where
  | null : IsJson .null
  | bool (b : Bool) : IsJson (.bool b)
  | int (n : Int) : IsJson (.int n)
  | float (x : Number.Binary64) : IsJson (.float x)
  | str (s : String) : IsJson (.str s)
  | list {items : List Value} (items_json : ∀ v ∈ items, IsJson v) : IsJson (.list items)
  | map {entries : Entries} (keys_text : ∀ e ∈ entries, ∃ s, e.1 = .str s)
      (keys_differ : (entries.map (·.1.text)).Nodup) (values_json : ∀ e ∈ entries, IsJson e.2) :
      IsJson (.map entries)

/-- A value that stands for a node of a dump, and the mappings of the nodes around it, nearest
first. -/
structure DumpPlace where
  value : Value
  above : List Entries

namespace DumpPlace

/-- The fields of the node mapping; there are none in a value that is no mapping. -/
def fields (p : DumpPlace) : Entries :=
  match p.value with
  | .map fields => fields
  | _ => []

/-- The children by role, as they are written; there are none if they are not sorted by role. -/
def childEntries (p : DumpPlace) : Entries :=
  match p.fields.find "children" with
  | .map children => children
  | _ => []

/-- The places of the children with their roles: role by role as they are written, and under each
role one place, or those of a list in order. -/
def children (p : DumpPlace) : List (String × DumpPlace) :=
  p.childEntries.flatMap fun (role, value) =>
    (roleValues value).map fun v => (role.text, ⟨v, p.fields :: p.above⟩)

theorem childValues_eq (entries : Entries) :
    childValues entries
      = entries.flatMap fun (role, value) => (roleValues value).map fun v => (role.text, v) := by
  induction entries with
  | nil => rfl
  | cons e es ih =>
    obtain ⟨role, value⟩ := e
    rw [childValues, ih, List.flatMap_cons]

theorem children_eq (p : DumpPlace) :
    p.children = (childValues p.childEntries).map fun (role, v) => (role, ⟨v, p.fields :: p.above⟩) := by
  rw [childValues_eq, List.map_flatMap]
  simp only [children, List.map_map]
  rfl

theorem weight_le_weightAll {v : Value} {vs : List Value} (h : v ∈ vs) :
    v.weight ≤ Value.weightAll vs := by
  induction vs with
  | nil => cases h
  | cons w ws ih =>
    rw [Value.weightAll]
    rcases List.mem_cons.1 h with rfl | h
    · omega
    · have := ih h
      omega

/-- Only a mapping has fields. -/
theorem value_eq_map_fields {p : DumpPlace} {key : String} {v : Value}
    (h : Entries.get? key p.fields = some v) : p.value = .map p.fields := by
  unfold fields at h ⊢
  cases hvalue : p.value with
  | map fields => rfl
  | _ => rw [hvalue] at h; cases h

/-- The children of a place weigh less than the place. -/
theorem weight_children_lt (p : DumpPlace) :
    Value.weightAll (p.children.map (·.2.value)) < p.value.weight := by
  have hvalues : p.children.map (·.2.value) = (childValues p.childEntries).map (·.2) := by
    rw [children_eq, List.map_map]
    rfl
  have hle := weight_childValues_le p.childEntries
  rw [childrenWeight, ← hvalues] at hle
  refine Nat.lt_of_le_of_lt hle ?_
  unfold childEntries
  split
  · next children hfind =>
    have hget := Entries.get?_of_find hfind
    have hlt := Entries.weight_get?_lt hget
    rw [← value_eq_map_fields hget, Value.weight] at hlt
    omega
  · exact p.value.weight_pos

theorem weight_lt_of_mem_children {p : DumpPlace} {c : String × DumpPlace} (h : c ∈ p.children) :
    c.2.value.weight < p.value.weight := by
  have hle : c.2.value.weight ≤ Value.weightAll (p.children.map (·.2.value)) :=
    weight_le_weightAll (List.mem_map.2 ⟨c, h, rfl⟩)
  exact Nat.lt_of_le_of_lt hle p.weight_children_lt

/-- The places of a dump below a place, in recursive preorder. -/
def places (p : DumpPlace) : List DumpPlace :=
  p :: p.children.attach.flatMap fun c => places c.1.2
termination_by p.value.weight
decreasing_by exact weight_lt_of_mem_children c.2

theorem places_eq (p : DumpPlace) : p.places = p :: p.children.flatMap fun c => c.2.places := by
  rw [places, List.flatMap_subtype (g := fun c => c.2.places) (fun _ _ => rfl),
    List.unattach_attach]

/-- The places below a place come before those below the ones after it. -/
theorem flatMap_places_cons (p : DumpPlace) (rest : List DumpPlace) :
    (p :: rest).flatMap places = p :: (p.children.map (·.2) ++ rest).flatMap places := by
  rw [List.flatMap_cons, places_eq, List.flatMap_append, List.cons_append, List.flatMap_map]

/-- Putting the children in the place of their parent takes weight away. -/
theorem weight_children_append_lt (p : DumpPlace) (rest : List DumpPlace) :
    Value.weightAll ((p.children.map (·.2) ++ rest).map (·.value))
      < Value.weightAll ((p :: rest).map (·.value)) := by
  have h := p.weight_children_lt
  rw [List.map_append, weightAll_append, List.map_map, List.map_cons, Value.weightAll]
  exact Nat.add_lt_add_right h _

/-! ## §2 What a place says -/

/-- The file that the location of a node mapping names, if it names one. -/
def namedFile? (fields : Entries) : Option String :=
  match fields.find "span" with
  | .map span =>
    let file := Entries.find span "file"
    if file.isTrue then some file.text else none
  | _ =>
    match fields.find "loc" with
    | .str text =>
      (readLocation? text.toList).bind fun l =>
        if l.file.isEmpty then none else some (String.ofList l.file)
    | _ => none

/-- The file that a node inherits: the one that the nearest location around it names, or `default`
if none of them does. -/
def inherited (default : String) (p : DumpPlace) : String :=
  (p.above.findSome? namedFile?).getD default

/-- The file that a node belongs to: the one that the nearest location names, its own included. -/
def file (default : String) (p : DumpPlace) : String :=
  ((p.fields :: p.above).findSome? namedFile?).getD default

/-- The name of the kind of a node. -/
def kindName (p : DumpPlace) : String := (p.fields.find "kind").text

/-- The span that the location of a node denotes; a location that cannot be read denotes the start
of the file. -/
def span (default : String) (p : DumpPlace) : Span :=
  match Span.ofNode p.fields (p.inherited default) with
  | .ok span => span
  | .error _ => ⟨p.inherited default, 0, 0, 0, 0⟩

/-- The children are sorted by role, or there are none. -/
def childrenSorted (p : DumpPlace) : Bool :=
  match p.fields.find "children" with
  | .map _ => true
  | v => !v.isTrue

/-- Why a value does not describe a node, not looking at its attributes: it is no mapping, it has no
kind, its location cannot be read, or its children are not sorted by role. -/
def malformed? (default : String) (p : DumpPlace) : Option Error :=
  match p.value with
  | .map fields =>
    match Entries.get? "kind" fields with
    | none => some (.dump .missingKind)
    | some kind =>
      match Span.ofNode fields (p.inherited default) with
      | .error e => some e
      | .ok _ => if p.childrenSorted then none else some (.dump (.badChildren kind.text))
  | v => some (.dump (.notANode v.typeName))

/-- Why the attributes of a node cannot be used. -/
def badAttributes? (p : DumpPlace) : Option Error :=
  match p.fields.find "attrs" with
  | .map _ => none
  | attrs => if attrs.isTrue then some (.dump (.badAttributes p.kindName)) else none

/-- The attributes of a node. A node of unknown kind keeps the name of its kind, unless it has an
attribute for it already. -/
def attributes (p : DumpPlace) : Entries :=
  let written : Entries :=
    match p.fields.find "attrs" with
    | .map attrs => attrs
    | _ => []
  if Kind.ofName p.kindName = .unknown ∧ written.hasKey "raw_kind" = false then
    written ++ [(.str "raw_kind", .str p.kindName)]
  else written

/-- The tree that a place describes. -/
def tree (default : String) (p : DumpPlace) : Node :=
  { kind := Kind.ofName p.kindName
    span := p.span default
    attrs := p.attributes
    children := p.children.attach.map fun c => (c.1.1, tree default c.1.2) }
termination_by p.value.weight
decreasing_by exact weight_lt_of_mem_children c.2

theorem tree_children (default : String) (p : DumpPlace) :
    (p.tree default).children = p.children.map fun c => (c.1, c.2.tree default) := by
  rw [tree, List.map_subtype (g := fun c => (c.1, c.2.tree default)) (fun _ _ => rfl),
    List.unattach_attach]

/-! ## §3 Files -/

theorem file_ofFields {fields : Entries} {inherited : String} {span : Span}
    (h : Span.ofFields fields inherited = .ok span) :
    span.file = (if (Entries.find fields "file").isTrue then (Entries.find fields "file").text
      else inherited) := by
  unfold Span.ofFields at h
  split at h
  · cases h
  split at h
  · cases h
  split at h
  · cases h
  split at h
  · cases h
  cases h
  rfl

/-- The numbers of a location have no part in its file. -/
theorem file_span {l : LocationText} {inherited : String} {span : Span}
    (h : l.span inherited = .ok span) :
    span.file = if l.file.isEmpty then inherited else String.ofList l.file := by
  unfold LocationText.span at h
  dsimp only at h
  split at h
  · cases h
  · cases hfinish : (l.finish.getD l.start).numbers <;> rw [hfinish] at h <;> cases h
    rfl

/-- A location that can be read denotes a span in the file that it names, or in the inherited one. -/
theorem file_ofNode {fields : Entries} {inherited : String} {span : Span}
    (h : Span.ofNode fields inherited = .ok span) :
    span.file = (namedFile? fields).getD inherited := by
  unfold Span.ofNode at h
  unfold namedFile?
  split at h
  · next spanFields _ =>
    cases hof : Span.ofFields spanFields inherited with
    | error e => rw [hof] at h; cases h
    | ok span' =>
      rw [hof] at h
      cases h
      rw [file_ofFields hof]
      split <;> simp_all
  · split at h
    · next text hloc =>
      unfold Span.ofLocation at h
      split at h
      · next location hread =>
        cases hspan : location.span inherited with
        | error e => rw [hspan] at h; cases h
        | ok span' =>
          rw [hspan] at h
          cases h
          rw [file_span hspan]
          by_cases hempty : location.file = [] <;> simp_all
      · cases h
    · cases h
      simp_all

/-- A location that cannot be read makes a place malformed. -/
theorem ofNode_eq_span {default : String} {p : DumpPlace} (h : p.malformed? default = none) :
    Span.ofNode p.fields (p.inherited default) = .ok (p.span default) := by
  unfold malformed? at h
  split at h
  · next fields hvalue =>
    have hfields : p.fields = fields := by rw [DumpPlace.fields, hvalue]
    split at h
    · cases h
    · split at h
      · cases h
      · next span hspan => rw [DumpPlace.span, hfields, hspan]
  · cases h

theorem findSome?_getD_cons (fields : Entries) (above : List Entries) (default : String) :
    ((fields :: above).findSome? namedFile?).getD default
      = (namedFile? fields).getD ((above.findSome? namedFile?).getD default) := by
  rw [List.findSome?_cons]
  cases namedFile? fields <;> rfl

/-- A location that can be read denotes a span in the file of the place. -/
theorem file_eq_of_ofNode {default : String} {p : DumpPlace} {span : Span}
    (h : Span.ofNode p.fields (p.inherited default) = .ok span) : span.file = p.file default := by
  rw [file_ofNode h, DumpPlace.file, findSome?_getD_cons]
  rfl

/-! ## §4 The first pass -/

/-- A place as the first pass meets it. -/
def pending (default : String) (p : DumpPlace) : Pending := ⟨p.value, p.inherited default⟩

/-- A place as the first pass leaves it. -/
def entry (default : String) (p : DumpPlace) : DumpEntry :=
  ⟨p.fields, p.span default, p.children.map (·.1)⟩

/-- The children of a place as the first pass lists them, roles and values apart. -/
theorem map_childValues {default : String} {p : DumpPlace} {span : Span}
    (h : Span.ofNode p.fields (p.inherited default) = .ok span) :
    (childValues p.childEntries).map (·.1) = p.children.map (·.1) ∧
      (childValues p.childEntries).map (fun c => (⟨c.2, span.file⟩ : Pending))
        = p.children.map fun c => c.2.pending default := by
  rw [children_eq, List.map_map, List.map_map, file_eq_of_ofNode h]
  exact ⟨rfl, rfl⟩

/-- Reading the entry of a place fails if the place is malformed, and else puts its children first. -/
theorem readEntry_pending (default : String) (p : DumpPlace) :
    readEntry (p.pending default) =
      match p.malformed? default with
      | some e => .error e
      | none => .ok (p.entry default, p.children.map fun c => c.2.pending default) := by
  obtain ⟨value, above⟩ := p
  cases value with
  | map fields =>
    cases hkind : Entries.get? "kind" fields with
    | none => simp only [readEntry, pending, malformed?, hkind]
    | some kind =>
      cases hspan : Span.ofNode fields (inherited default ⟨.map fields, above⟩) with
      | error e => simp only [readEntry, pending, malformed?, hkind, hspan]
      | ok span =>
        obtain ⟨hroles, hbelow⟩ := map_childValues (p := ⟨.map fields, above⟩) hspan
        have hplace : DumpPlace.span default ⟨.map fields, above⟩ = span := by
          simp only [DumpPlace.span, DumpPlace.fields, hspan]
        simp only [readEntry, pending, malformed?, hkind, hspan, entry, hplace] at hbelow ⊢
        rw [← hroles, ← hbelow]
        unfold childrenSorted childEntries DumpPlace.fields
        simp only
        cases Entries.find fields "children" with
        | map cs => rfl
        | _ => simp only; split <;> simp [*, childValues]
  | _ => rfl

/-- The first pass lists the places in preorder, or ends at the first one that is malformed. -/
theorem listEntries_eq (default : String) (ps : List DumpPlace) (listed : List DumpEntry) :
    listEntries listed (ps.map (pending default)) =
      match (ps.flatMap places).findSome? (malformed? default) with
      | some e => .error e
      | none => .ok (((ps.flatMap places).map (entry default)).reverse ++ listed) := by
  induction h : Value.weightAll (ps.map (·.value)) using Nat.strongRecOn generalizing ps listed with
  | ind n ih =>
    cases ps with
    | nil => simp [listEntries]
    | cons p rest =>
      have hlt := weight_children_append_lt p rest
      rw [h] at hlt
      have hrest := ih _ hlt (p.children.map (·.2) ++ rest) (p.entry default :: listed) rfl
      rw [List.map_append, List.map_map] at hrest
      rw [List.map_cons, listEntries, flatMap_places_cons, List.findSome?_cons]
      have hread := readEntry_pending default p
      cases hm : p.malformed? default with
      | some e =>
        rw [hm] at hread
        split
        · next herror => rw [hread] at herror; cases herror; rfl
        · next hok => rw [hread] at hok; cases hok
      | none =>
        rw [hm] at hread
        split
        · next herror => rw [hread] at herror; cases herror
        · next hok =>
          rw [hread] at hok
          cases hok
          rw [← Function.comp_def, hrest]
          simp

/-! ## §5 Roles -/

/-- What stands together by role already is not moved. -/
theorem groupByRole_append {role : String} {ns : List Node} {rest : List (String × Node)}
    (h : ∀ c ∈ rest, c.1 ≠ role) :
    groupByRole (ns.map (fun n => (role, n)) ++ rest)
      = ns.map (fun n => (role, n)) ++ groupByRole rest := by
  have hrest : rest.filter (·.1 == role) = [] :=
    List.filter_eq_nil_iff.2 fun c hc => by simpa using h c hc
  cases ns with
  | nil => rfl
  | cons n ns =>
    have hroles : ((ns.map (fun n => (role, n)) ++ rest).map (·.1)).filter (fun r => !(r == role))
        = rest.map (·.1) := by
      rw [List.map_append, List.filter_append]
      have hfirst : ((ns.map fun n => (role, n)).map (·.1)).filter (fun r => !(r == role)) = [] := by
        simp
      have hkept : (rest.map (·.1)).filter (fun r => !(r == role)) = rest.map (·.1) :=
        List.filter_eq_self.2 fun r hr => by
          obtain ⟨c, hc, rfl⟩ := List.mem_map.1 hr
          simpa using h c hc
      rw [hfirst, hkept, List.nil_append]
    unfold groupByRole
    rw [List.map_cons, List.cons_append, List.map_cons, List.eraseDups_cons, List.flatMap_cons, hroles]
    congr 1
    · simp [hrest]
    · -- The other roles do not see the children of the first one.
      refine List.flatMap_congr fun r hr => ?_
      obtain ⟨c, hc, rfl⟩ := List.mem_map.1 (List.mem_eraseDups.1 hr)
      have hne : role ≠ c.1 := Ne.symm (h c hc)
      simp [hne]

theorem groupByRole_flatMap (groups : List (String × List Node)) (h : (groups.map (·.1)).Nodup) :
    groupByRole (groups.flatMap fun g => g.2.map fun n => (g.1, n))
      = groups.flatMap fun g => g.2.map fun n => (g.1, n) := by
  induction groups with
  | nil => rfl
  | cons g groups ih =>
    rw [List.map_cons, List.nodup_cons] at h
    rw [List.flatMap_cons, groupByRole_append, ih h.2]
    intro c hc
    obtain ⟨g', hg', hcg⟩ := List.mem_flatMap.1 hc
    obtain ⟨n, _, rfl⟩ := List.mem_map.1 hcg
    exact fun heq => h.1 (List.mem_map.2 ⟨g', hg', heq⟩)

theorem mem_of_get? {entries : Entries} {key : String} {v : Value}
    (h : Entries.get? key entries = some v) : ∃ k, (k, v) ∈ entries := by
  fun_induction Entries.get? key entries with
  | case1 => cases h
  | case2 k w rest _ => cases h; exact ⟨.str k, List.mem_cons_self⟩
  | case3 k w rest _ ih =>
    obtain ⟨k', hk'⟩ := ih h
    exact ⟨k', List.mem_cons_of_mem _ hk'⟩
  | case4 e rest _ ih =>
    obtain ⟨k', hk'⟩ := ih h
    exact ⟨k', List.mem_cons_of_mem _ hk'⟩

/-- The children of a place in a data file are themselves a mapping of a data file. -/
theorem isJson_childEntries {p : DumpPlace} (h : p.value.IsJson) :
    (Value.map p.childEntries).IsJson := by
  have hempty : (Value.map []).IsJson := .map (by simp) (by simp) (by simp)
  unfold childEntries
  split
  · next children hfind =>
    have hget := Entries.get?_of_find hfind
    rw [value_eq_map_fields hget] at h
    cases h with
    | map _ _ values_json =>
      obtain ⟨k, hk⟩ := mem_of_get? hget
      exact values_json _ hk
  · exact hempty

theorem isJson_child {p : DumpPlace} (h : p.value.IsJson) {c : String × DumpPlace}
    (hc : c ∈ p.children) : c.2.value.IsJson := by
  obtain ⟨⟨role, value⟩, he, hc⟩ := List.mem_flatMap.1 hc
  obtain ⟨v, hv, rfl⟩ := List.mem_map.1 hc
  cases isJson_childEntries h with
  | map _ _ values_json =>
    have hvalue : value.IsJson := values_json _ he
    cases hvalue with
    | list items_json => exact items_json v hv
    | _ => rw [List.mem_singleton.1 hv]; constructor <;> assumption

/-- In a data file the children of a place stand together by role as they are written. -/
theorem groupByRole_children {p : DumpPlace} (h : p.value.IsJson) (f : DumpPlace → Node) :
    groupByRole (p.children.map fun c => (c.1, f c.2)) = p.children.map fun c => (c.1, f c.2) := by
  have hgroups : (p.children.map fun c => (c.1, f c.2))
      = (p.childEntries.map fun e =>
          (e.1.text, (roleValues e.2).map fun v => f ⟨v, p.fields :: p.above⟩)).flatMap
        fun g => g.2.map fun n => (g.1, n) := by
    rw [children, List.map_flatMap, List.flatMap_map]
    simp [Function.comp_def]
  rw [hgroups]
  refine groupByRole_flatMap _ ?_
  cases isJson_childEntries h with
  | map _ keys_differ _ => simpa [Function.comp_def] using keys_differ

/-! ## §6 The second pass -/

theorem attributes_entry (default : String) (p : DumpPlace) :
    (p.entry default).attributes =
      match p.badAttributes? with
      | some e => .error e
      | none => .ok p.attributes := by
  unfold DumpEntry.attributes badAttributes? attributes
  simp only [entry, Entries.putNew, kindName]
  by_cases hkind : Kind.ofName (p.fields.find "kind").text = .unknown
  · cases hattrs : p.fields.find "attrs" with
    | map attrs => cases hraw : Entries.hasKey attrs "raw_kind" <;> simp [hkind, hraw]
    | _ => simp only [hkind, Entries.hasKey, Entries.get?]; split <;> rfl
  · cases hattrs : p.fields.find "attrs" with
    | map attrs => simp [hkind]
    | _ => simp only [hkind, if_false, false_and]; split <;> rfl

/-- Building a place from the trees of its children gives its tree. -/
theorem build_entry {default : String} {p : DumpPlace} (h : p.value.IsJson)
    (ha : p.badAttributes? = none) :
    (p.entry default).build (p.children.map fun c => c.2.tree default) = .ok (p.tree default) := by
  have hzip : (p.children.map (·.1)).zip (p.children.map fun c => c.2.tree default)
      = p.children.map fun c => (c.1, c.2.tree default) := List.zip_map'
  have hattrs := attributes_entry default p
  rw [ha] at hattrs
  have htree : p.tree default
      = ⟨Kind.ofName p.kindName, p.span default, p.attributes,
          p.children.map fun c => (c.1, c.2.tree default)⟩ := by
    rw [← tree_children, tree]
  rw [DumpEntry.build, hattrs, htree]
  simp only [Except.map, entry, hzip, groupByRole_children h]
  rfl

/-- The second pass ends at the first entry, in its own direction, with bad attributes. -/
theorem buildAll_bad {default : String} {ps : List DumpPlace} {e : Error}
    (h : ps.findSome? badAttributes? = some e) (built : List Node) :
    buildAll (ps.map (entry default)) built = .error e := by
  induction ps generalizing built with
  | nil => cases h
  | cons p ps ih =>
    have hattrs := attributes_entry default p
    rw [List.findSome?_cons] at h
    rw [List.map_cons, buildAll, DumpEntry.build, hattrs]
    cases hb : p.badAttributes? with
    | some e' =>
      rw [hb] at h
      cases h
      rfl
    | none =>
      rw [hb] at h
      exact ih h _

theorem buildAll_append (es fs : List DumpEntry) (built : List Node) :
    buildAll (es ++ fs) built =
      match buildAll es built with
      | .error e => .error e
      | .ok built => buildAll fs built := by
  induction es generalizing built with
  | nil => rfl
  | cons e es ih =>
    rw [List.cons_append, buildAll, buildAll]
    split
    · rfl
    · exact ih _

/-- A place takes the trees of its children from the front and puts its own tree there. -/
theorem buildAll_entry {default : String} {p : DumpPlace} (h : p.value.IsJson)
    (ha : p.badAttributes? = none) (es : List DumpEntry) (built : List Node) :
    buildAll (p.entry default :: es) ((p.children.map fun c => c.2.tree default) ++ built)
      = buildAll es (p.tree default :: built) := by
  have hlen : (p.entry default).roles.length
      = (p.children.map fun c => c.2.tree default).length := by
    rw [entry, List.length_map, List.length_map]
  rw [buildAll, hlen, List.take_left, List.drop_left, build_entry h ha]

/-- The second pass builds the trees of places from the last one back, and puts them in front. -/
theorem buildAll_trees (default : String) (ps : List DumpPlace) (built : List Node)
    (hj : ∀ p ∈ ps, p.value.IsJson) (ha : ∀ p ∈ ps.flatMap places, p.badAttributes? = none) :
    buildAll ((ps.flatMap places).map (entry default)).reverse built
      = .ok (ps.map (tree default) ++ built) := by
  induction h : Value.weightAll (ps.map (·.value)) using Nat.strongRecOn generalizing ps built with
  | ind n ih =>
    cases ps with
    | nil => rfl
    | cons p rest =>
      have hp := hj p List.mem_cons_self
      rw [List.flatMap_cons, places_eq, List.cons_append] at ha
      rw [List.map_cons, Value.weightAll] at h
      have hlight := p.weight_children_lt
      have hpos := p.value.weight_pos
      -- First the trees after this one, then its children, then the node itself.
      have hrest := ih _ (by omega) rest built (fun q hq => hj q (List.mem_cons_of_mem _ hq))
        (fun q hq => ha q (List.mem_cons_of_mem _ (List.mem_append_right _ hq))) rfl
      have hchildren : buildAll ((p.children.flatMap fun c => c.2.places).map (entry default)).reverse
          (rest.map (tree default) ++ built)
            = .ok ((p.children.map fun c => c.2.tree default) ++ (rest.map (tree default) ++ built)) := by
        have hsub := ih (Value.weightAll (p.children.map (·.2.value))) (by omega)
          (p.children.map (·.2)) (rest.map (tree default) ++ built)
        rw [List.flatMap_map, List.map_map, List.map_map] at hsub
        refine hsub (fun q hq => ?_) (fun q hq => ?_) rfl
        · obtain ⟨c, hc, rfl⟩ := List.mem_map.1 hq
          exact isJson_child hp hc
        · exact ha q (List.mem_cons_of_mem _ (List.mem_append_left _ hq))
      rw [List.flatMap_cons, places_eq, List.map_append, List.map_cons, List.reverse_append,
        List.reverse_cons, buildAll_append, hrest]
      simp only
      rw [buildAll_append, hchildren]
      exact buildAll_entry hp (ha p List.mem_cons_self) [] _

/-! ## §7 Both passes -/

/-- The nodes of a tree are those of the places of the dump, in the same order. -/
theorem walk_tree (default : String) (p : DumpPlace) :
    (p.tree default).walk = p.places.map (tree default) := by
  induction p using places.induct with
  | case1 p ih =>
    rw [Node.walk_eq, tree_children, places_eq, List.map_cons, List.map_map, List.flatMap_map,
      List.map_flatMap]
    congr 1
    exact List.flatMap_congr fun c hc => ih ⟨c, hc⟩

end DumpPlace

/-- The file that a dump starts with: the one given, unless it is missing or empty. -/
def startingFile : Option String → String
  | some file => if file = "" then unknownFile else file
  | none => unknownFile

/-- A dump is read as its recursive definition says. The first malformed node value in preorder
decides the error; if there is none, the last one with bad attributes does; and else the result is
the tree of the dump, whose nodes are those of the dump in preorder, each in the file that the
nearest location around it names. -/
theorem ofDump_eq_recursive_tree (dump : Value) (hdump : dump.IsJson) (file : Option String) :
    let default := startingFile file
    let root : DumpPlace := ⟨dump, []⟩
    Node.ofDump dump (file.getD "") =
      (match root.places.findSome? (DumpPlace.malformed? default) with
      | some e => .error e
      | none =>
        match root.places.reverse.findSome? DumpPlace.badAttributes? with
        | some e => .error e
        | none => .ok (root.tree default)) ∧
    (root.tree default).walk = root.places.map (DumpPlace.tree default) ∧
    ∀ p ∈ root.places, p.malformed? default = none →
      (p.tree default).span.file = ((p.fields :: p.above).findSome? DumpPlace.namedFile?).getD default := by
  intro default root
  refine ⟨?_, root.walk_tree default, fun p _ hm => ?_⟩
  · have hdefault : (if (file.getD "").isEmpty then unknownFile else file.getD "") = default := by
      cases file <;> simp [default, startingFile]
    have hlist := DumpPlace.listEntries_eq default [root] []
    rw [List.flatMap_singleton, List.append_nil, List.map_singleton, ← List.map_reverse] at hlist
    have hpending : root.pending default = ⟨dump, default⟩ := rfl
    unfold Node.ofDump
    simp only [hdefault]
    rw [← hpending, hlist]
    cases hmalformed : root.places.findSome? (DumpPlace.malformed? default) with
    | some e => rfl
    | none =>
      simp only
      cases hbad : root.places.reverse.findSome? DumpPlace.badAttributes? with
      | some e => rw [DumpPlace.buildAll_bad hbad]
      | none =>
        have hgood : ∀ p ∈ [root].flatMap DumpPlace.places, p.badAttributes? = none := by
          intro p hp
          rw [List.flatMap_singleton] at hp
          exact List.findSome?_eq_none_iff.1 hbad p (List.mem_reverse.2 hp)
        have hbuild := DumpPlace.buildAll_trees default [root] []
          (fun p hp => List.mem_singleton.1 hp ▸ hdump) hgood
        rw [List.flatMap_singleton, List.map_singleton, ← List.map_reverse] at hbuild
        rw [hbuild]
        rfl
  · have hspan : (p.tree default).span = p.span default := by rw [DumpPlace.tree]
    rw [hspan]
    exact DumpPlace.file_eq_of_ofNode (DumpPlace.ofNode_eq_span hm)

/-- A dump that names two files: what stands below the header inherits its name, and the return
statement after it that of the function. -/
theorem ofDump_two_files :
    let call : Value := .map [(.str "kind", .str "CallExpr")]
    let included : Value := .map
      [(.str "kind", .str "Inclusion"), (.str "loc", .str "b.hpp:7:2"),
        (.str "children", .map [(.str "parts", .list [call])])]
    let plain : Value := .map [(.str "kind", .str "ReturnStatement"), (.str "attrs", .null)]
    let dump : Value := .map
      [(.str "kind", .str "FunctionDecl"), (.str "loc", .str "a.cpp:1:1"),
        (.str "children", .map [(.str "body", .list [included, plain]), (.str "result", call)])]
    dump.IsJson ∧ ∃ tree, Node.ofDump dump "" = .ok tree ∧
      tree.walk.map (fun n => (n.kind, n.span.file, n.attrs.hasKey "raw_kind")) =
        [(.functionDecl, "a.cpp", false), (.unknown, "b.hpp", true), (.callExpr, "b.hpp", false),
          (.returnStatement, "a.cpp", false), (.callExpr, "a.cpp", false)] := by
  intro call included plain dump
  have hcall : call.IsJson := .map (by simp) (by decide) (by simp [Value.IsJson.str])
  have hplain : plain.IsJson :=
    .map (by simp) (by decide) (by simp [Value.IsJson.str, Value.IsJson.null])
  have hparts : (Value.map [(.str "parts", .list [call])]).IsJson :=
    .map (by simp) (by decide) (by simpa using .list (by simpa using hcall))
  have hincluded : included.IsJson :=
    .map (by simp) (by decide) (by simpa [Value.IsJson.str] using hparts)
  have hbody : (Value.list [included, plain]).IsJson := .list (by simpa using ⟨hincluded, hplain⟩)
  have hroles : (Value.map [(.str "body", .list [included, plain]), (.str "result", call)]).IsJson :=
    .map (by simp) (by decide) (by simpa using ⟨hbody, hcall⟩)
  have hdump : dump.IsJson := .map (by simp) (by decide) (by simpa [Value.IsJson.str] using hroles)
  obtain ⟨hread, hwalk, _⟩ := ofDump_eq_recursive_tree dump hdump none
  have hmalformed : (DumpPlace.places ⟨dump, []⟩).findSome?
      (DumpPlace.malformed? (startingFile none)) = none :=
    Option.isNone_iff_eq_none.1 (by decide +kernel)
  have hbad : (DumpPlace.places ⟨dump, []⟩).reverse.findSome? DumpPlace.badAttributes? = none :=
    Option.isNone_iff_eq_none.1 (by decide +kernel)
  rw [hmalformed, hbad] at hread
  refine ⟨hdump, _, hread, ?_⟩
  rw [hwalk]
  decide +kernel

end CppIdioms
