import CppIdioms.Tree.Location
import CppIdioms.Tree.Node

/-!
# Trees from dumps

A dump describes each node by a mapping with its kind, location, attributes and children; the
children are sorted by role, one node or a list of nodes under each. Reading goes in two passes.
The first lists the node mappings in the order of the tree and gives every node its span, so that a
child whose location names no file inherits its parent's. The second goes back from the last node
to the first and builds each node from its children, which are then already built.

The first malformed node decides the error of the first pass, the last one with malformed attributes
that of the second.

## Contents

* `Pending`, `DumpEntry`: node values still to be read, and mappings that passed the first pass.
* `childValues`: the child values of a node mapping with their roles.
* `readEntry`, `listEntries`: the first pass.
* `groupByRole`, `DumpEntry.build`, `buildAll`: the second pass.
* `Node.ofDump`: both together.

## Main statements

* `weight_childValues_le`: the children of a mapping weigh less than the mapping, so reading ends.
-/

namespace CppIdioms

/-! ## §1 Children of a mapping -/

/-- The values under one role: those of a list, or the value itself. -/
def roleValues : Value → List Value
  | .list items => items
  | v => [v]

/-- The child values of a node with the role of each. -/
def childValues : Entries → List (String × Value)
  | [] => []
  | (role, value) :: rest => (roleValues value).map (fun v => (role.text, v)) ++ childValues rest

/-- The weight of the values of a list of children. -/
def childrenWeight (children : List (String × Value)) : Nat :=
  Value.weightAll (children.map (·.2))

theorem weightAll_append (xs ys : List Value) :
    Value.weightAll (xs ++ ys) = Value.weightAll xs + Value.weightAll ys := by
  induction xs with
  | nil => simp [Value.weightAll]
  | cons x xs ih => simp [Value.weightAll, ih, Nat.add_assoc]

theorem weightAll_roleValues_le (v : Value) : Value.weightAll (roleValues v) ≤ v.weight := by
  cases v <;> simp [roleValues, Value.weightAll, Value.weight]

/-- The children of a mapping weigh no more than its entries. -/
theorem weight_childValues_le (children : Entries) :
    childrenWeight (childValues children) ≤ Entries.weight children := by
  induction children with
  | nil => simp [childValues, childrenWeight, Value.weightAll]
  | cons e es ih =>
    obtain ⟨role, value⟩ := e
    have h := weightAll_roleValues_le value
    have hm : (childValues ((role, value) :: es)).map (·.2)
        = roleValues value ++ (childValues es).map (·.2) := by
      simp [childValues, Function.comp_def]
    unfold childrenWeight at *
    rw [hm, weightAll_append, Entries.weight_cons]
    omega

/-! ## §2 First pass -/

/-- A value that is to be read as a node, and the file it inherits. -/
structure Pending where
  value : Value
  file : String

/-- A node mapping that passed the first pass: its span and the roles of its children. -/
structure DumpEntry where
  fields : Entries
  span : Span
  roles : List String

/-- The weight of the values that are still to be read. -/
def pendingWeight (pending : List Pending) : Nat := Value.weightAll (pending.map (·.value))

/-- The entry of a value and the child values that it puts before all others. -/
def readEntry (p : Pending) : Except Error (DumpEntry × List Pending) :=
  match p.value with
  | .map fields =>
    match Entries.get? "kind" fields with
    | none => .error (.dump .missingKind)
    | some kind =>
      match Span.ofNode fields p.file with
      | .error e => .error e
      | .ok span =>
        match Entries.find fields "children" with
        | .map children =>
          let values := childValues children
          .ok (⟨fields, span, values.map (·.1)⟩, values.map fun c => ⟨c.2, span.file⟩)
        | v =>
          if v.isTrue then .error (.dump (.badChildren kind.text)) else .ok (⟨fields, span, []⟩, [])
  | v => .error (.dump (.notANode v.typeName))

theorem pendingWeight_readEntry {p : Pending} {entry : DumpEntry} {children : List Pending}
    (h : readEntry p = .ok (entry, children)) : pendingWeight children < p.value.weight := by
  unfold readEntry at h
  split at h
  · rename_i fields hv
    rw [hv]
    split at h
    · contradiction
    · split at h
      · contradiction
      · rename_i span _
        split at h
        · rename_i cs hc
          simp only [Except.ok.injEq, Prod.mk.injEq] at h
          obtain ⟨_, rfl⟩ := h
          have h₁ := Entries.weight_get?_lt (Entries.get?_of_find hc)
          have h₂ := weight_childValues_le cs
          have h₃ : pendingWeight ((childValues cs).map fun c => (⟨c.2, span.file⟩ : Pending))
              = childrenWeight (childValues cs) := by
            simp [pendingWeight, childrenWeight, Function.comp_def]
          rw [h₃]
          simp only [Value.weight] at h₁ ⊢
          omega
        · split at h
          · contradiction
          · simp only [Except.ok.injEq, Prod.mk.injEq] at h
            obtain ⟨_, rfl⟩ := h
            simpa [pendingWeight, Value.weightAll] using Value.weight_pos (.map fields)
  · contradiction

/-- The entries of all pending values and what hangs below them, last entry first, in front of the
entries already listed. -/
def listEntries (listed : List DumpEntry) : List Pending → Except Error (List DumpEntry)
  | [] => .ok listed
  | p :: rest =>
    match _h : readEntry p with
    | .error e => .error e
    | .ok (entry, children) => listEntries (entry :: listed) (children ++ rest)
termination_by pending => pendingWeight pending
decreasing_by
  have h₁ := pendingWeight_readEntry _h
  simp only [pendingWeight, List.map_append, List.map_cons, weightAll_append, Value.weightAll] at *
  omega

/-! ## §3 Second pass -/

/-- The children with those of one role together, in the order of the first of each role. -/
def groupByRole (children : List (String × Node)) : List (String × Node) :=
  (children.map (·.1)).eraseDups.flatMap fun role => children.filter (·.1 == role)

/-- The attributes of a node mapping; a node of unknown kind keeps the name of its kind. -/
def DumpEntry.attributes (e : DumpEntry) : Except Error Entries :=
  let kind := (Entries.find e.fields "kind").text
  let complete (attrs : Entries) : Entries :=
    if Kind.ofName kind = .unknown then attrs.putNew "raw_kind" (.str kind) else attrs
  match Entries.find e.fields "attrs" with
  | .map attrs => .ok (complete attrs)
  | v => if v.isTrue then .error (.dump (.badAttributes kind)) else .ok (complete [])

/-- The node of an entry with the children given. -/
def DumpEntry.build (e : DumpEntry) (children : List Node) : Except Error Node :=
  e.attributes.map fun attrs =>
    { kind := Kind.ofName (Entries.find e.fields "kind").text
      span := e.span
      attrs := attrs
      children := groupByRole (e.roles.zip children) }

/-- The nodes of entries given last first. Each takes its children from the front of the nodes
already built and takes their place. -/
def buildAll : List DumpEntry → List Node → Except Error (List Node)
  | [], built => .ok built
  | e :: es, built =>
    match e.build (built.take e.roles.length) with
    | .error err => .error err
    | .ok node => buildAll es (node :: built.drop e.roles.length)

/-- The file of a tree whose dump names none (`UNKNOWN_FILE`). -/
def unknownFile : String := "<unknown>"

/-- The tree that a dump describes; `file` is the file of nodes for which no location names one,
`unknownFile` if it is empty (`node_from_dict`). -/
def Node.ofDump (dump : Value) (file : String) : Except Error Node :=
  let file := if file.isEmpty then unknownFile else file
  match listEntries [] [⟨dump, file⟩] with
  | .error e => .error e
  | .ok entries =>
    match buildAll entries [] with
    | .error e => .error e
    | .ok built => .ok (built.headD ⟨.unknown, ⟨file, 0, 0, 0, 0⟩, [], []⟩)

end CppIdioms
