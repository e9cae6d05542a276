import CppIdioms.Tree.Peel
import CppIdioms.Value.Text

/-!
# The shape of an expression

Two expressions have the same shape when they differ only in their places, in wrappers around
their parts and in attributes that do not show how they are spelled. The shape of a tree is the
list of its nodes, each with its depth, role, kind and telling attributes; depth and order give
back the tree.

## Contents

* `Comparable`, `Comparable.ofValue`: attribute values with mappings sorted by key.
* `Comparable.same`: their equality.
* `shapeAttributes`: the attributes that tell how a node is spelled.
* `ShapePart`, `Node.shape`: the shape of a tree.
-/

namespace CppIdioms

/-! ## §1 Comparable values -/

/-- A value in which lists and mappings have become tuples. -/
inductive Comparable where
  | leaf (v : Value)
  | tuple (items : List Comparable)
  deriving Inhabited

namespace Comparable

mutual

/-- Equality: leaves by value, tuples part by part. -/
def same : Comparable → Comparable → Bool
  | .leaf a, .leaf b => a.same b
  | .tuple xs, .tuple ys => sameAll xs ys
  | _, _ => false

/-- Equality of the parts of tuples. -/
def sameAll : List Comparable → List Comparable → Bool
  | [], [] => true
  | x :: xs, y :: ys => same x y && sameAll xs ys
  | _, _ => false

end

/-- The order of leaves; only numbers, texts, days, times of day with known and with unknown offsets,
and sets among themselves have one. A set comes before those that hold more. -/
def leafBefore (a b : Value) : Except Fault Bool :=
  match a, b with
  | .str s, .str t => .ok (s < t)
  | .date d none, .date e none => .ok (d.ordinal < e.ordinal)
  | .date d (some t), .date e (some u) =>
    if t.offset.isSome == u.offset.isSome then .ok (instant d t < instant e u)
    else .error .wrongType
  | .set xs, .set ys => .ok (holdsAll xs ys && !holdsAll ys xs)
  | _, _ =>
    match a.numeric?, b.numeric? with
    | some x, some y => .ok (x.lt y)
    | _, _ => .error .wrongType

mutual

/-- The order of comparable values; tuples are ordered by the first part in which they differ. -/
def before : Comparable → Comparable → Except Fault Bool
  | .leaf a, .leaf b => leafBefore a b
  | .tuple xs, .tuple ys => beforeAll xs ys
  | _, _ => .error .wrongType

/-- The order of the parts of tuples. -/
def beforeAll : List Comparable → List Comparable → Except Fault Bool
  | [], ys => .ok !ys.isEmpty
  | _ :: _, [] => .ok false
  | x :: xs, y :: ys => if same x y then beforeAll xs ys else before x y

end

/-- The order of entries: by key, and entries of equal keys by value. -/
def entryBefore (a b : String × Comparable) : Except Fault Bool :=
  if a.1 < b.1 then .ok true
  else if b.1 < a.1 then .ok false
  else if a.2.same b.2 then .ok false
  else a.2.before b.2

/-- Put an entry after those it does not come before. -/
def insertEntry (e : String × Comparable) :
    List (String × Comparable) → Except Fault (List (String × Comparable))
  | [] => .ok [e]
  | x :: xs =>
    match entryBefore e x with
    | .error f => .error f
    | .ok true => .ok (e :: x :: xs)
    | .ok false => (insertEntry e xs).map (x :: ·)

/-- The entries in order. -/
def sortEntries : List (String × Comparable) → List (String × Comparable) →
    Except Fault (List (String × Comparable))
  | sorted, [] => .ok sorted
  | sorted, e :: es =>
    match insertEntry e sorted with
    | .error f => .error f
    | .ok more => sortEntries more es

mutual

/-- The comparable form of a value (`_hashable`). Entries whose keys have the same text must be
comparable. -/
def ofValue : Value → Except Fault Comparable
  | .list items => (ofAll items).map .tuple
  | .map entries =>
    match ofEntries entries with
    | .error f => .error f
    | .ok pairs =>
      (sortEntries [] pairs).map fun sorted =>
        .tuple (sorted.map fun e => .tuple [.leaf (.str e.1), e.2])
  | v => .ok (.leaf v)

/-- The comparable forms of the values of a list. -/
def ofAll : List Value → Except Fault (List Comparable)
  | [] => .ok []
  | v :: vs =>
    match ofValue v with
    | .error f => .error f
    | .ok c => (ofAll vs).map (c :: ·)

/-- The entries of a mapping with the text of each key and the comparable form of each value. -/
def ofEntries : List (Value × Value) → Except Fault (List (String × Comparable))
  | [] => .ok []
  | e :: es =>
    match ofEntry e with
    | .error f => .error f
    | .ok c => (ofEntries es).map (c :: ·)

/-- One entry. -/
def ofEntry : Value × Value → Except Fault (String × Comparable)
  | (k, v) => (ofValue v).map fun c => (k.text, c)

end

end Comparable

/-! ## §2 Shapes -/

/-- The attributes that tell how a node is spelled (`KEY_ATTRS`). -/
def shapeAttributes : List String :=
  ["name", "qualified_name", "operator", "value", "method", "member"]

/-- A node of a shape. -/
structure ShapePart where
  depth : Nat
  role : String
  kind : Kind
  attrs : List (String × Comparable)

/-- Equality of telling attributes. -/
def sameAttributes : List (String × Comparable) → List (String × Comparable) → Bool
  | [], [] => true
  | a :: as, b :: bs => a.1 == b.1 && a.2.same b.2 && sameAttributes as bs
  | _, _ => false

/-- Equality of parts of shapes. -/
def ShapePart.same (a b : ShapePart) : Bool :=
  a.depth == b.depth && a.role == b.role && a.kind == b.kind && sameAttributes a.attrs b.attrs

/-- Equality of shapes. -/
def sameShape : List ShapePart → List ShapePart → Bool
  | [], [] => true
  | a :: as, b :: bs => a.same b && sameShape as bs
  | _, _ => false

/-- The telling attributes that a node has. -/
def tellingAttributes (n : Node) : List String → Except Fault (List (String × Comparable))
  | [] => .ok []
  | key :: keys =>
    match Entries.get? key n.attrs with
    | none => tellingAttributes n keys
    | some v =>
      match Comparable.ofValue v with
      | .error f => .error f
      | .ok c => (tellingAttributes n keys).map ((key, c) :: ·)

/-- A node whose shape is still to be listed, with its depth and role. -/
structure ShapeTask where
  depth : Nat
  role : String
  node : Node

/-- The number of nodes whose shape is still to be listed. -/
def tasksSize (tasks : List ShapeTask) : Nat := Node.totalSize (tasks.map (·.node))

/-- The tasks for the children of a node. -/
def ShapeTask.below (t : ShapeTask) : List ShapeTask :=
  t.node.children.map fun (role, child) => ⟨t.depth + 1, role, child⟩

/-- The child that stands for a wrapper in the shape. -/
def Node.wrapped? (n : Node) : Option Node := if n.kind.isWrapper then n.onlyChild? else none

theorem size_wrapped?_lt {n c : Node} (h : n.wrapped? = some c) : c.size < n.size := by
  unfold Node.wrapped? at h
  split at h
  · exact Node.size_onlyChild?_lt h
  · contradiction

theorem tasksSize_below (t : ShapeTask) : tasksSize t.below + 1 = t.node.size := by
  have h : t.below.map (·.node) = t.node.children.map (·.2) := by
    simp [ShapeTask.below, Function.comp_def]
  rw [tasksSize, h, Node.totalSize_children]

/-- The parts of pending nodes, after those already listed (last first). A wrapper is passed over:
its only child takes its place. -/
def listShape (listed : List ShapePart) : List ShapeTask → Except Fault (List ShapePart)
  | [] => .ok listed.reverse
  | t :: rest =>
    match _h : t.node.wrapped? with
    | some c => listShape listed (⟨t.depth, t.role, c⟩ :: rest)
    | none =>
      match tellingAttributes t.node shapeAttributes with
      | .error f => .error f
      | .ok attrs => listShape (⟨t.depth, t.role, t.node.kind, attrs⟩ :: listed) (t.below ++ rest)
termination_by tasks => tasksSize tasks
decreasing_by
  · have h := size_wrapped?_lt _h
    simp only [tasksSize, List.map_cons, Node.totalSize_cons] at *
    omega
  · have h := tasksSize_below t
    simp only [tasksSize, List.map_append, Node.totalSize_append, List.map_cons,
      Node.totalSize_cons] at *
    omega

/-- The shape of a tree (`structural_key`). -/
def Node.shape (n : Node) : Except Fault (List ShapePart) := listShape [] [⟨0, "", n⟩]

end CppIdioms
