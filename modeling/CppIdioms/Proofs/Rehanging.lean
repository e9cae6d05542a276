import CppIdioms.Proofs.Likeness

/-!
# Other roles below wrappers

Whoever looks through a wrapper takes its only child, whatever the role it hangs under. So let the
roles below wrappers be renamed: every reading of the tree that looks through wrappers, follows
accesses, compares shapes or climbs out of wrappers gives the renamed form of what it gave before.

A wrapper with more than one child, or with none, is not looked through. Its roles are left alone, and
so are those below all other nodes.

## Contents

* `Node.hook`, `Node.rehang`: the new role of a child, and the tree with the new roles.
* `rehangPath`, `Cursor.rehang`: the same for a way up, and for a node with its way up.

## Main statements

* `Node.wrapped?_rehang`, `Node.peel_rehang`: wrappers are looked through as before.
* `Node.child?_rehang`, `Node.childrenOf_rehang`: the roles of other nodes are the same.
* `Node.accessed?_rehang`, `Node.walk_rehang`, `Node.shape_rehang`: what follows for the other readings.
* `Cursor.preorder_rehang`, `Cursor.climb_rehang`, `Cursor.scope_rehang`: cursors and ways up.
-/

namespace CppIdioms

/-! ## §1 Renaming -/

/-- How a role is renamed, given the kind of the child that hangs under it. -/
abbrev Renaming := Kind → String → String

namespace Node

/-- The role that a child of a given kind gets: a new one below a wrapper that is looked through. -/
def hook (ρ : Renaming) (n : Node) (child : Kind) (role : String) : String :=
  if n.wrapped?.isSome then ρ child role else role

mutual

/-- The tree with the roles below wrappers renamed. -/
def rehang (ρ : Renaming) : Node → Node
  | ⟨kind, span, attrs, children⟩ =>
    ⟨kind, span, attrs, rehangAll ρ (hook ρ ⟨kind, span, attrs, children⟩) children⟩

/-- The children of a node, each under its new role. -/
def rehangAll (ρ hook : Renaming) : List (String × Node) → List (String × Node)
  | [] => []
  | c :: cs => rehangOne ρ hook c :: rehangAll ρ hook cs

/-- A child under its new role. -/
def rehangOne (ρ hook : Renaming) : String × Node → String × Node
  | (role, n) => (hook n.kind role, rehang ρ n)

end

variable (ρ : Renaming) (n : Node)

theorem rehangAll_eq (hook : Renaming) (cs : List (String × Node)) :
    rehangAll ρ hook cs = cs.map fun c => (hook c.2.kind c.1, c.2.rehang ρ) := by
  induction cs with
  | nil => rw [rehangAll, List.map_nil]
  | cons c cs ih =>
    obtain ⟨role, n⟩ := c
    rw [rehangAll, rehangOne, ih, List.map_cons]

@[simp] theorem kind_rehang : (n.rehang ρ).kind = n.kind := by cases n; rw [rehang]

@[simp] theorem span_rehang : (n.rehang ρ).span = n.span := by cases n; rw [rehang]

@[simp] theorem attrs_rehang : (n.rehang ρ).attrs = n.attrs := by cases n; rw [rehang]

theorem children_rehang :
    (n.rehang ρ).children = n.children.map fun c => (n.hook ρ c.2.kind c.1, c.2.rehang ρ) := by
  cases n
  rw [rehang, rehangAll_eq]

theorem rehang_eq :
    n.rehang ρ = ⟨n.kind, n.span, n.attrs,
      n.children.map fun c => (n.hook ρ c.2.kind c.1, c.2.rehang ρ)⟩ := by
  rw [← children_rehang]
  cases n
  rw [rehang]

/-! ## §2 Attributes -/

@[simp] theorem attr_rehang (key : String) : (n.rehang ρ).attr key = n.attr key :=
  attr_congr (attrs_rehang ρ n) key

theorem attrOr_rehang (key : String) (default : Value) :
    (n.rehang ρ).attrOr key default = n.attrOr key default := by
  rw [attrOr, attrOr, attrs_rehang]

@[simp] theorem has_rehang (key : String) : (n.rehang ρ).has key = n.has key :=
  has_congr (attrs_rehang ρ n) key

@[simp] theorem denies_rehang (key : String) : (n.rehang ρ).denies key = n.denies key :=
  denies_congr (attrs_rehang ρ n) key

@[simp] theorem name?_rehang : (n.rehang ρ).name? = n.name? := name?_congr (attrs_rehang ρ n)

@[simp] theorem properName?_rehang : (n.rehang ρ).properName? = n.properName? :=
  properName?_congr (attrs_rehang ρ n)

@[simp] theorem typeAt_rehang (key : String) : (n.rehang ρ).typeAt key = n.typeAt key :=
  typeAt_congr (attrs_rehang ρ n) key

@[simp] theorem knownType_rehang : (n.rehang ρ).knownType = n.knownType :=
  knownType_congr (attrs_rehang ρ n)

@[simp] theorem called_rehang (key default : String) :
    (n.rehang ρ).called key default = n.called key default :=
  called_congr (attrs_rehang ρ n) key default

@[simp] theorem nameOr_rehang (default : String) : (n.rehang ρ).nameOr default = n.nameOr default :=
  nameOr_congr (attrs_rehang ρ n) default

/-! ## §3 Children -/

/-- A wrapper that is looked through still is, and shows the same. -/
theorem wrapped?_rehang : (n.rehang ρ).wrapped? = n.wrapped?.map (rehang ρ) := by
  unfold wrapped? onlyChild?
  rw [kind_rehang, children_rehang]
  split
  · cases hchildren : n.children with
    | nil => rfl
    | cons c cs =>
      cases cs with
      | nil => rfl
      | cons d ds => rfl
  · rfl

/-- Whether a node is looked through, by its kind and the number of its children. -/
theorem isSome_wrapped? :
    n.wrapped?.isSome = (n.kind.isWrapper && n.children.length == 1) := by
  unfold wrapped? onlyChild?
  cases n.kind.isWrapper with
  | false => rfl
  | true =>
    cases n.children with
    | nil => rfl
    | cons c cs => cases cs <;> simp

/-- Only wrappers are looked through. -/
theorem wrapped?_of_kind {n : Node} (h : n.kind.isWrapper = false) : n.wrapped? = none := by
  rw [wrapped?, h]
  rfl

variable {n}

/-- Below a node that is not looked through, all roles stay. -/
theorem hook_of_wrapped?_eq_none (h : n.wrapped? = none) (child : Kind) (role : String) :
    n.hook ρ child role = role := by
  rw [hook, h]
  rfl

theorem child?_rehang (h : n.wrapped? = none) (role : String) :
    (n.rehang ρ).child? role = (n.child? role).map (rehang ρ) := by
  unfold child?
  rw [children_rehang, List.find?_map, Option.map_map, Option.map_map]
  simp only [Function.comp_def, hook_of_wrapped?_eq_none ρ h]

theorem childrenOf_rehang (h : n.wrapped? = none) (role : String) :
    (n.rehang ρ).childrenOf role = (n.childrenOf role).map (rehang ρ) := by
  unfold childrenOf
  rw [children_rehang, List.filter_map, List.map_map, List.map_map]
  simp only [Function.comp_def, hook_of_wrapped?_eq_none ρ h]

/-! ## §4 Looking through wrappers -/

/-- What is found inside wrappers is itself not looked through. -/
theorem wrapped?_peel (n : Node) : n.peel.wrapped? = none := by
  induction hsize : n.size using Nat.strongRecOn generalizing n with
  | ind size ih =>
    cases hn : n.wrapped? with
    | none => rw [peel_of_wrapped?_eq_none hn, hn]
    | some c =>
      rw [peel_of_wrapped?_eq_some hn]
      exact ih c.size (hsize ▸ size_wrapped?_lt hn) c rfl

@[simp] theorem peel_rehang (n : Node) : (n.rehang ρ).peel = n.peel.rehang ρ := by
  induction hsize : n.size using Nat.strongRecOn generalizing n with
  | ind size ih =>
    have hrehang := wrapped?_rehang ρ n
    cases hn : n.wrapped? with
    | none =>
      rw [hn] at hrehang
      rw [peel_of_wrapped?_eq_none hn, peel_of_wrapped?_eq_none hrehang]
    | some c =>
      rw [hn] at hrehang
      rw [peel_of_wrapped?_eq_some hn, peel_of_wrapped?_eq_some hrehang]
      exact ih c.size (hsize ▸ size_wrapped?_lt hn) c rfl

theorem peeled?_rehang (h : n.wrapped? = none) (role : String) :
    (n.rehang ρ).peeled? role = (n.peeled? role).map (rehang ρ) := by
  unfold peeled?
  rw [child?_rehang ρ h, Option.map_map, Option.map_map]
  simp only [Function.comp_def, peel_rehang]

/-- Accesses lead to the same objects. -/
theorem accessed?_rehang (n : Node) : (n.rehang ρ).accessed? = n.accessed?.map (rehang ρ) := by
  induction hsize : n.size using Nat.strongRecOn generalizing n with
  | ind size ih =>
    rw [accessed?_eq, accessed?_eq n, peel_rehang, kind_rehang]
    cases accessRole? n.peel.kind with
    | none => rfl
    | some role =>
      dsimp only
      rw [child?_rehang ρ (wrapped?_peel n)]
      cases hchild : n.peel.child? role with
      | none => rfl
      | some c =>
        have hlt := Nat.lt_of_lt_of_le (size_child?_lt hchild) (size_peel_le n)
        exact ih c.size (hsize ▸ hlt) c rfl

@[simp] theorem designates_rehang (n : Node) (name : String) :
    (n.rehang ρ).designates name = n.designates name := by
  unfold designates
  rw [accessed?_rehang]
  cases n.accessed? with
  | none => rfl
  | some target => simp

/-! ## §5 Walks and shapes -/

theorem walk_rehang (n : Node) : (n.rehang ρ).walk = n.walk.map (rehang ρ) := by
  induction hsize : n.size using Nat.strongRecOn generalizing n with
  | ind size ih =>
    rw [walk_eq, walk_eq n, children_rehang, List.map_map, List.map_cons, List.map_flatMap,
      List.flatMap_map, List.flatMap_map]
    congr 1
    exact List.flatMap_congr fun c hc => ih _ (hsize ▸ size_child_lt hc) c.2 rfl

end Node

/-- A task at the renamed tree. -/
def ShapeTask.rehang (ρ : Renaming) (t : ShapeTask) : ShapeTask := { t with node := t.node.rehang ρ }

theorem below_rehang (ρ : Renaming) {t : ShapeTask} (h : t.node.wrapped? = none) :
    (t.rehang ρ).below = t.below.map (ShapeTask.rehang ρ) := by
  unfold ShapeTask.below ShapeTask.rehang
  rw [Node.children_rehang, List.map_map, List.map_map]
  simp only [Function.comp_def, Node.hook_of_wrapped?_eq_none ρ h]

theorem listShape_rehang (ρ : Renaming) (listed : List ShapePart) (tasks : List ShapeTask) :
    listShape listed (tasks.map (ShapeTask.rehang ρ)) = listShape listed tasks := by
  induction hsize : tasksSize tasks using Nat.strongRecOn generalizing listed tasks with
  | ind size ih =>
    cases tasks with
    | nil => rw [List.map_nil]
    | cons t rest =>
      have hrehang : (t.rehang ρ).node.wrapped? = t.node.wrapped?.map (Node.rehang ρ) :=
        Node.wrapped?_rehang ρ t.node
      rw [List.map_cons]
      cases hwrapped : t.node.wrapped? with
      | some c =>
        rw [hwrapped] at hrehang
        rw [listShape_of_wrapped?_eq_some hrehang, listShape_of_wrapped?_eq_some hwrapped]
        refine ih _ ?_ listed (⟨t.depth, t.role, c⟩ :: rest) rfl
        have hlt := size_wrapped?_lt hwrapped
        simp only [tasksSize, List.map_cons, Node.totalSize_cons] at hsize ⊢
        omega
      | none =>
        rw [hwrapped] at hrehang
        have hattrs : tellingAttributes (t.rehang ρ).node shapeAttributes
            = tellingAttributes t.node shapeAttributes :=
          tellingAttributes_congr (Node.attrs_rehang ρ t.node) _
        rw [listShape_of_wrapped?_eq_none hrehang, listShape_of_wrapped?_eq_none hwrapped, hattrs,
          below_rehang ρ hwrapped, ← List.map_append]
        cases tellingAttributes t.node shapeAttributes with
        | error f => rfl
        | ok attrs =>
          have hkind : (t.rehang ρ).node.kind = t.node.kind := Node.kind_rehang ρ t.node
          dsimp only
          rw [hkind]
          refine ih _ ?_ _ (t.below ++ rest) rfl
          have hbelow := tasksSize_below t
          simp only [tasksSize, List.map_append, List.map_cons, Node.totalSize_append,
            Node.totalSize_cons] at hsize hbelow ⊢
          omega

@[simp] theorem Node.shape_rehang (ρ : Renaming) (n : Node) : (n.rehang ρ).shape = n.shape :=
  listShape_rehang ρ [] [⟨0, "", n⟩]

/-! ## §6 Ways up -/

/-- The way up from a node of a given kind, with the roles below wrappers renamed. -/
def rehangPath (ρ : Renaming) : Kind → List Step → List Step
  | _, [] => []
  | k, s :: rest =>
    ⟨s.parent.rehang ρ, s.parent.hook ρ k s.role, s.position⟩ :: rehangPath ρ s.parent.kind rest

namespace Cursor

/-- A node with its way up, with the roles below wrappers renamed. -/
def rehang (ρ : Renaming) (c : Cursor) : Cursor := ⟨c.node.rehang ρ, rehangPath ρ c.node.kind c.path⟩

variable (ρ : Renaming) (c : Cursor)

@[simp] theorem node_rehang : (c.rehang ρ).node = c.node.rehang ρ := rfl

theorem root_rehang (n : Node) : (root n).rehang ρ = root (n.rehang ρ) := rfl

theorem children_rehang : (c.rehang ρ).children = c.children.map (rehang ρ) := by
  unfold children
  rw [node_rehang, Node.children_rehang, List.zipIdx_map, List.map_map, List.map_map]
  rfl

/-- A walk meets the renamed cursors in the same order. -/
theorem preorder_rehang : (c.rehang ρ).preorder = c.preorder.map (rehang ρ) := by
  induction c using preorder.induct with
  | case1 c ih =>
    rw [preorder_eq, preorder_eq c, children_rehang, List.map_cons, List.flatMap_map, List.map_flatMap]
    congr 1
    exact List.flatMap_congr fun d hd => ih ⟨d, hd⟩

theorem map_parent_rehangPath (k : Kind) (path : List Step) :
    (rehangPath ρ k path).map (·.parent) = (path.map (·.parent)).map (Node.rehang ρ) := by
  induction path generalizing k with
  | nil => rfl
  | cons s rest ih => rw [rehangPath, List.map_cons, List.map_cons, List.map_cons, ih]

theorem ancestors_rehang : (c.rehang ρ).ancestors = c.ancestors.map (Node.rehang ρ) :=
  map_parent_rehangPath ρ c.node.kind c.path

theorem nearest?_rehang (kinds : List Kind) :
    (c.rehang ρ).nearest? kinds = (c.nearest? kinds).map (Node.rehang ρ) := by
  unfold nearest?
  rw [ancestors_rehang, List.find?_map]
  simp only [Function.comp_def, Node.kind_rehang]

theorem climbFrom_rehang (n : Node) (path : List Step) :
    climbFrom (n.rehang ρ) (rehangPath ρ n.kind path) = (climbFrom n path).rehang ρ := by
  induction path generalizing n with
  | nil => rfl
  | cons s rest ih =>
    rw [rehangPath, climbFrom, climbFrom, Node.kind_rehang]
    split
    · exact ih s.parent
    · rfl

theorem climb_rehang : (c.rehang ρ).climb = c.climb.rehang ρ := climbFrom_rehang ρ c.node c.path

/-- Above the wrappers around a node, it hangs from no wrapper. -/
theorem isWrapper_of_climb {c : Cursor} {s : Step} {rest : List Step} (h : c.climb.path = s :: rest) :
    s.parent.kind.isWrapper = false := by
  unfold climb at h
  generalize c.node = n, c.path = path at h
  induction path generalizing n with
  | nil => cases h
  | cons t path ih =>
    rw [climbFrom] at h
    split at h
    · exact ih _ h
    · next hkind =>
      cases h
      simpa using hkind

/-- Above the wrappers around a node, its role is the same. -/
theorem path_climb_rehang {c : Cursor} {s : Step} {rest : List Step} (h : c.climb.path = s :: rest) :
    (c.rehang ρ).climb.path =
      ⟨s.parent.rehang ρ, s.role, s.position⟩ :: rehangPath ρ s.parent.kind rest := by
  have hnone := Node.wrapped?_of_kind (isWrapper_of_climb h)
  rw [climb_rehang, rehang, h, rehangPath, Node.hook_of_wrapped?_eq_none ρ hnone]

/-- The scope of a node is the same, if its role is renamed to `parameters` only from there. -/
theorem scope_rehang (hρ : ∀ role, ρ c.node.kind role = "parameters" ↔ role = "parameters") :
    (c.rehang ρ).scope = c.scope := by
  have hrole : ((c.rehang ρ).role? == some "parameters") = (c.role? == some "parameters") := by
    unfold role? rehang
    cases c.path with
    | nil => rfl
    | cons s rest =>
      simp only [rehangPath, List.head?_cons, Option.map_some, Node.hook]
      split
      · simp [hρ]
      · rfl
  have hinside : scopeInside? ∘ Node.rehang ρ = scopeInside? := by
    funext n
    rw [Function.comp_apply, scopeInside?, Node.kind_rehang, scopeInside?]
  rw [scope, scope, hrole, ancestors_rehang, List.findSome?_map, hinside, node_rehang,
    Node.kind_rehang]

end Cursor

end CppIdioms
