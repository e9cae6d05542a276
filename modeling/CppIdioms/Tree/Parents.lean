import CppIdioms.Tree.Cursor

/-!
# Parent tables

A walk that goes down a tree forgets where it came from. The parent table remembers: it says from
which parent, under which role and at which position each node hangs that the walk has met. Nodes
that look alike at different places of a tree are told apart by the number they get when they are
met.

## Contents

* `Place`, `Link`: a node with its number, and how it hangs from its parent.
* `Parents`: the table; `Parents.link?` looks a place up in it.
* `Parents.addRoot`, `Parents.childPlaces`, `Parents.addChildren`: how the table grows.
* `Parents.climb?`, `Parents.wayUp?`: the links from a place up to the root.
* `Parents.cursor`: the cursor at a place, with the surroundings that the table tells.

## Main statements

* `Parents.map_node_childPlaces`: the places of the children hold the children, in order.
-/

namespace CppIdioms

/-! ## §1 Places and links -/

/-- A node that a walk has met, with the number it got. -/
structure Place where
  number : Nat
  node : Node
  deriving Inhabited

/-- How a place hangs from its parent: the role, and the position among all children. -/
structure Link where
  parent : Place
  role : String
  position : Nat
  deriving Inhabited

/-- The step of a cursor that a link stands for. -/
def Link.step (l : Link) : Step := ⟨l.parent.node, l.role, l.position⟩

/-! ## §2 Tables -/

/-- The links of the places met so far, by their numbers. A root has none. -/
structure Parents where
  links : Array (Option Link) := #[]
  deriving Inhabited

namespace Parents

/-- How the place hangs from its parent; a place that is a root, or that was never met, does not. -/
def link? (t : Parents) (p : Place) : Option Link := (t.links[p.number]?).join

/-- The place that a root gets. -/
def rootPlace (t : Parents) (root : Node) : Place := ⟨t.links.size, root⟩

/-- The table after a root was met. -/
def addRoot (t : Parents) : Parents := ⟨t.links.push none⟩

/-- The places that the children of a place get, in order. -/
def childPlaces (t : Parents) (p : Place) : List Place :=
  (p.node.children.zipIdx t.links.size).map fun (child, i) => ⟨i, child.2⟩

/-- The links of the children of a place, in order. -/
def childLinks (p : Place) : List (Option Link) :=
  p.node.children.zipIdx.map fun (child, i) => some ⟨p, child.1, i⟩

/-- The table after the children of a place were met. -/
def addChildren (t : Parents) (p : Place) : Parents := ⟨t.links ++ (childLinks p).toArray⟩

theorem map_node_childPlaces (t : Parents) (p : Place) :
    (t.childPlaces p).map (·.node) = p.node.children.map (·.2) := by
  have h := congrArg (List.map (·.2)) (List.zipIdx_map_fst t.links.size p.node.children)
  rw [← h]
  simp only [childPlaces, List.map_map]
  rfl

/-! ## §3 Ways up -/

/-- The links from a place up to the root, found in fewer than so many steps. -/
def climb? (t : Parents) : Nat → Place → Option (List Link)
  | 0, _ => none
  | steps + 1, p =>
    match t.link? p with
    | none => some []
    | some link => (climb? t steps link.parent).map (link :: ·)

/-- The links from a place up to the root. With more steps than there are links one of them is taken
again, so that the way up does not end; then there is no answer. -/
def wayUp? (t : Parents) (p : Place) : Option (List Link) := t.climb? (t.links.size + 1) p

/-- The cursor at a place. -/
def cursor (t : Parents) (p : Place) : Cursor := ⟨p.node, ((t.wayUp? p).getD []).map Link.step⟩

end Parents

end CppIdioms
