import CppIdioms.Tree.Cursor

/-!
# The order of a walk

`Cursor.walk` keeps a list of pending cursors. Here the same order is defined by recursion on the
tree, without a list of pending ones, and the two are shown to agree.

## Contents

* `Cursor.preorder`: a cursor, then the cursors below its children, child by child.
* `Leads`: steps that lead from a node of a tree up to its root.

## Main statements

* `Cursor.walk_eq_preorder`: a walk goes through the cursors in recursive preorder.
* `Node.walk_eq`: a walk through a tree is the root and the walks through its children.
* `Cursor.length_preorder`: it meets as many cursors as the tree has nodes.
* `Cursor.mem_preorder_root`: it meets every node of the tree with the steps that lead from it to
  the root, and nothing else.
-/

namespace CppIdioms

/-! ## §1 Recursive preorder -/

namespace Cursor

theorem mem_children {c d : Cursor} :
    d ∈ c.children ↔ ∃ role position, c.node.children[position]? = some (role, d.node) ∧
      d.path = ⟨c.node, role, position⟩ :: c.path := by
  unfold children
  rw [List.mem_map]
  constructor
  · rintro ⟨⟨⟨role, n⟩, position⟩, h, rfl⟩
    exact ⟨role, position, List.mk_mem_zipIdx_iff_getElem?.1 h, rfl⟩
  · obtain ⟨n, path⟩ := d
    rintro ⟨role, position, h, rfl⟩
    exact ⟨((role, n), position), List.mk_mem_zipIdx_iff_getElem?.2 h, rfl⟩

theorem size_lt_of_mem_children {c d : Cursor} (h : d ∈ c.children) : d.node.size < c.node.size := by
  obtain ⟨role, position, hc, _⟩ := mem_children.1 h
  exact Node.size_child_lt (c := (role, d.node)) (List.mem_of_getElem? hc)

/-- The cursors of the tree below a cursor: the cursor itself, then those below its first child,
those below its second child, and so on. -/
def preorder (c : Cursor) : List Cursor :=
  c :: c.children.attach.flatMap fun d => preorder d.1
termination_by c.node.size
decreasing_by exact size_lt_of_mem_children d.2

theorem preorder_eq (c : Cursor) : c.preorder = c :: c.children.flatMap preorder := by
  rw [preorder, List.flatMap_subtype (fun _ _ => rfl), List.unattach_attach]

/-- The trees below a pending cursor come before those below the other pending ones. -/
theorem flatMap_preorder_cons (c : Cursor) (rest : List Cursor) :
    (c :: rest).flatMap preorder = c :: (c.children ++ rest).flatMap preorder := by
  rw [List.flatMap_cons, preorder_eq, List.flatMap_append, List.cons_append]

/-! ## §2 The walk -/

theorem walkFrom_eq (visited pending : List Cursor) :
    walkFrom visited pending = visited.reverse ++ pending.flatMap preorder := by
  fun_induction walkFrom visited pending with
  | case1 visited => simp
  | case2 visited c rest ih => rw [ih, flatMap_preorder_cons]; simp

/-- A walk goes through the cursors in recursive preorder. -/
theorem walk_eq_preorder (c : Cursor) : c.walk = c.preorder := by
  simp [walk, walkFrom_eq]

theorem length_flatMap_preorder (pending : List Cursor) :
    (pending.flatMap preorder).length = totalSize pending := by
  -- The measure of the walk: replacing a cursor by its children takes one node away.
  induction h : totalSize pending using Nat.strongRecOn generalizing pending with
  | ind n ih =>
    cases pending with
    | nil => simp [totalSize] at h ⊢; exact h
    | cons c rest =>
      have hc := totalSize_children c
      have hs : totalSize (c.children ++ rest) + 1 = n := by
        simp only [totalSize, List.map_append, List.map_cons, Node.totalSize_append,
          Node.totalSize_cons] at h hc ⊢
        omega
      rw [flatMap_preorder_cons, List.length_cons, ih _ (by omega) _ rfl, hs]

/-- There are as many cursors below a cursor as its tree has nodes. -/
theorem length_preorder (c : Cursor) : c.preorder.length = c.node.size := by
  have h := length_flatMap_preorder [c]
  simpa [totalSize] using h

theorem map_node_preorder_of_children {c : Cursor}
    (h : ∀ d ∈ c.children, d.preorder.map (·.node) = d.node.walk) :
    c.preorder.map (·.node) = c.node :: (c.node.children.map (·.2)).flatMap Node.walk := by
  rw [preorder_eq, List.map_cons, List.map_flatMap, ← map_node_children, List.flatMap_map]
  congr 1
  rw [List.flatMap_def, List.flatMap_def, List.map_congr_left h]

/-- The nodes below a cursor do not depend on the way up from it. -/
theorem map_node_preorder (c : Cursor) : c.preorder.map (·.node) = c.node.walk := by
  induction h : c.node.size using Nat.strongRecOn generalizing c with
  | ind n ih =>
    subst h
    have hc := map_node_preorder_of_children (c := c) fun d hd =>
      ih _ (size_lt_of_mem_children hd) d rfl
    -- The same from a cursor at the same node that has no way up.
    have hroot := map_node_preorder_of_children (c := Cursor.root c.node) fun d hd =>
      ih _ (size_lt_of_mem_children (c := Cursor.root c.node) hd) d rfl
    rw [Node.walk, walk_eq_preorder, hc, hroot]
    rfl

end Cursor

/-- A walk through a tree, by recursion on the tree. -/
theorem Node.walk_eq (n : Node) : n.walk = n :: (n.children.map (·.2)).flatMap Node.walk := by
  have h := Cursor.map_node_preorder_of_children (c := Cursor.root n) fun d _ => d.map_node_preorder
  rw [Node.walk, Cursor.walk_eq_preorder, h]
  rfl

/-! ## §3 Ways up -/

/-- The steps lead from a node up to the root: each of them goes from a child to the parent that
holds it under this role and at this position. -/
inductive Leads (root : Node) : Node → List Step → Prop where
  | here : Leads root root []
  | up {parent n : Node} {role : String} {position : Nat} {path : List Step}
      (holds : parent.children[position]? = some (role, n)) (rest : Leads root parent path) :
      Leads root n (⟨parent, role, position⟩ :: path)

namespace Cursor

theorem leads_of_mem_preorder {root : Node} (c : Cursor) (hc : Leads root c.node c.path)
    {d : Cursor} (hd : d ∈ c.preorder) : Leads root d.node d.path := by
  induction c using preorder.induct with
  | case1 c ih =>
    rw [preorder_eq, List.mem_cons] at hd
    rcases hd with rfl | hd
    · exact hc
    · obtain ⟨e, he, hde⟩ := List.mem_flatMap.1 hd
      obtain ⟨role, position, hholds, hpath⟩ := mem_children.1 he
      exact ih ⟨e, he⟩ (hpath ▸ .up hholds hc) hde

/-- Below a cursor lie the cursors below its children. -/
theorem mem_preorder_of_mem_children {c d e : Cursor} (hd : d ∈ c.preorder) (he : e ∈ d.children) :
    e ∈ c.preorder := by
  induction c using preorder.induct with
  | case1 c ih =>
    rw [preorder_eq, List.mem_cons] at hd ⊢
    rcases hd with rfl | hd
    · have hself : e ∈ e.preorder := by rw [preorder_eq]; exact List.mem_cons_self
      exact .inr (List.mem_flatMap.2 ⟨e, he, hself⟩)
    · obtain ⟨b, hb, hdb⟩ := List.mem_flatMap.1 hd
      exact .inr (List.mem_flatMap.2 ⟨b, hb, ih ⟨b, hb⟩ hdb⟩)

/-- The cursors below the root are the nodes of the tree, each with the steps that lead from it to
the root. -/
theorem mem_preorder_root {root : Node} {c : Cursor} :
    c ∈ (Cursor.root root).preorder ↔ Leads root c.node c.path := by
  constructor
  · exact leads_of_mem_preorder (Cursor.root root) .here
  · obtain ⟨n, path⟩ := c
    intro h
    change Leads root n path at h
    induction h with
    | here => rw [preorder_eq]; exact List.mem_cons_self
    | up hholds _ ih => exact mem_preorder_of_mem_children ih (mem_children.2 ⟨_, _, hholds, rfl⟩)

/-- A walk from the root meets the nodes of the tree, each with the steps that lead from it to the
root. -/
theorem mem_walk_root {root : Node} {c : Cursor} :
    c ∈ (Cursor.root root).walk ↔ Leads root c.node c.path := by
  rw [walk_eq_preorder, mem_preorder_root]

end Cursor

end CppIdioms
