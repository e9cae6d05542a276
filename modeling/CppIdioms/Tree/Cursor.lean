import CppIdioms.Tree.Node

/-!
# Cursors

A cursor is a node of a tree together with the way up from it to the root. It answers what a rule
may ask about the surroundings of a node: the parent and the role under which the node hangs from
it, the ancestors, the siblings and the scope of a declaration.

## Contents

* `Step`, `Cursor`: one step up, and a node with its steps up to the root.
* `Cursor.parent?`, `Cursor.role?`, `Cursor.ancestors`, `Cursor.nearest?`, `Cursor.siblings`: the
  surroundings.
* `Scope`, `Cursor.scope`: where a node is declared.
* `Cursor.climb`: the cursor at the outermost wrapper around the node.
* `Cursor.children`, `Cursor.walk`: the cursors one step down, and those of a whole tree in the order
  in which it is walked, each node before its children.

## Main statements

* `Cursor.totalSize_children`: the children of a cursor have one node less than its tree, so the
  walk ends.
-/

namespace CppIdioms

/-! ## §1 Ways up -/

/-- A step up: the parent, and the role and position of the child among its children. -/
structure Step where
  parent : Node
  role : String
  position : Nat
  deriving Inhabited

/-- A node of a tree and the steps from it up to the root (`NodeContext`). -/
structure Cursor where
  node : Node
  path : List Step
  deriving Inhabited

namespace Cursor

/-- The cursor at the root of a tree. -/
def root (n : Node) : Cursor := ⟨n, []⟩

/-- The parent of the node. -/
def parent? (c : Cursor) : Option Node := c.path.head?.map (·.parent)

/-- The role under which the node hangs from its parent. -/
def role? (c : Cursor) : Option String := c.path.head?.map (·.role)

/-- The ancestors, from the parent up to the root. -/
def ancestors (c : Cursor) : List Node := c.path.map (·.parent)

/-- The nearest ancestor of one of the kinds. -/
def nearest? (c : Cursor) (kinds : List Kind) : Option Node :=
  c.ancestors.find? fun n => kinds.contains n.kind

/-- The other children of the parent under the same role. -/
def siblings (c : Cursor) : List Node :=
  match c.path with
  | [] => []
  | step :: _ =>
    (step.parent.children.zipIdx.filter fun (child, i) =>
      child.1 == step.role && i != step.position).map (·.1.2)

/-- The cursor at the outermost of the wrappers directly around a node, or at the node itself. -/
def climbFrom (n : Node) : List Step → Cursor
  | [] => ⟨n, []⟩
  | step :: rest =>
    if step.parent.kind.isWrapper then climbFrom step.parent rest else ⟨n, step :: rest⟩

/-- The cursor at the outermost of the wrappers directly around the node, or at the node itself
(`_effective_parent`). -/
def climb (c : Cursor) : Cursor := climbFrom c.node c.path

theorem length_climbFrom_le (n : Node) (path : List Step) :
    (climbFrom n path).path.length ≤ path.length := by
  induction path generalizing n with
  | nil => simp [climbFrom]
  | cons step rest ih =>
    unfold climbFrom
    split
    · exact Nat.le_trans (ih _) (Nat.le_succ _)
    · simp

theorem length_climb_le (c : Cursor) : c.climb.path.length ≤ c.path.length :=
  length_climbFrom_le c.node c.path

/-! ## §2 Scopes -/

/-- Where a node is declared. -/
inductive Scope where
  | inParameters
  | inFunction
  | inRecord
  | inNamespace
  deriving DecidableEq, Repr

/-- The name of a scope. -/
def Scope.name : Scope → String
  | .inParameters => "parameter"
  | .inFunction => "local"
  | .inRecord => "member"
  | .inNamespace => "namespace"

/-- The scope that a node opens for what lies in it, if any. -/
def scopeInside? (n : Node) : Option Scope :=
  if n.kind = .parameterDecl then some .inParameters
  else if n.kind.opensLocalScope then some .inFunction
  else if n.kind = .recordDecl then some .inRecord
  else none

/-- The scope of the node: parameters are their own, all else belongs to the nearest ancestor that
opens one. -/
def scope (c : Cursor) : Scope :=
  if c.node.kind = .parameterDecl || c.role? == some "parameters" then .inParameters
  else (c.ancestors.findSome? scopeInside?).getD .inNamespace

/-! ## §3 Ways down -/

/-- The cursors at the children, in order. -/
def children (c : Cursor) : List Cursor :=
  c.node.children.zipIdx.map fun ((role, child), i) => ⟨child, ⟨c.node, role, i⟩ :: c.path⟩

/-- The number of nodes of the trees below some cursors. -/
def totalSize (cs : List Cursor) : Nat := Node.totalSize (cs.map (·.node))

theorem map_node_children (c : Cursor) : c.children.map (·.node) = c.node.children.map (·.2) := by
  have h := congrArg (List.map (·.2)) (List.zipIdx_map_fst 0 c.node.children)
  rw [← h]
  simp only [children, List.map_map]
  rfl

/-- The children of a cursor have one node less than its tree. -/
theorem totalSize_children (c : Cursor) : totalSize c.children + 1 = c.node.size := by
  rw [totalSize, map_node_children, Node.totalSize_children]

/-- The cursors of the trees below some pending cursors, after those already visited (last first):
the first pending cursor comes next, and its children come before the other pending ones. -/
def walkFrom (visited : List Cursor) : List Cursor → List Cursor
  | [] => visited.reverse
  | c :: rest => walkFrom (c :: visited) (c.children ++ rest)
termination_by pending => totalSize pending
decreasing_by
  have h := totalSize_children c
  simp only [totalSize, List.map_append, List.map_cons, Node.totalSize_append,
    Node.totalSize_cons] at *
  omega

/-- The cursors of the tree below a cursor, each node before its children. -/
def walk (c : Cursor) : List Cursor := walkFrom [] [c]

end Cursor

/-- The nodes of a tree, each before its children. -/
def Node.walk (n : Node) : List Node := (Cursor.root n).walk.map (·.node)

end CppIdioms
