import CppIdioms.Proofs.Preorder
import CppIdioms.Tree.Parents

/-!
# What a parent table tells

A parent table only grows at its end, and a place that it knows keeps its way up. So whatever is
asked about a place that is known already, later tables answer alike, the one of the whole tree
included.

## Contents

* `Parents.Extends`: a later table.
* `Parents.Knows`: the way up from a place, link by link, as the table holds it.
* `Parents.complete`: the table after all pending places and what hangs below them were met.
* `Cursor.AnswersLike`: two cursors give the same answers about the surroundings of a node.

## Main statements

* `Parents.Knows.wayUp?_eq`: a known way up ends, and following the links finds it.
* `Parents.Knows.of_extends`: later tables know it too.
* `Parents.map_cursor_addChildren`: the places that children get have the cursors of the children, and
  the other places keep theirs.
-/

namespace CppIdioms

namespace Parents

/-! ## §1 Later tables -/

/-- The second table is the first one with more links at its end. -/
def Extends (t t' : Parents) : Prop := ∃ new, t'.links = t.links ++ new

theorem Extends.refl (t : Parents) : t.Extends t := ⟨#[], by simp⟩

theorem Extends.trans {t₁ t₂ t₃ : Parents} (h₁ : t₁.Extends t₂) (h₂ : t₂.Extends t₃) :
    t₁.Extends t₃ := by
  obtain ⟨new₁, h₁⟩ := h₁
  obtain ⟨new₂, h₂⟩ := h₂
  exact ⟨new₁ ++ new₂, by rw [h₂, h₁, Array.append_assoc]⟩

theorem extends_addChildren (t : Parents) (p : Place) : t.Extends (t.addChildren p) := ⟨_, rfl⟩

theorem link?_of_extends {t t' : Parents} (h : t.Extends t') {p : Place}
    (met : p.number < t.links.size) : t'.link? p = t.link? p := by
  obtain ⟨new, h⟩ := h
  rw [link?, link?, h, Array.getElem?_append_left met]

theorem lt_size_of_link? {t : Parents} {p : Place} {l : Link} (h : t.link? p = some l) :
    p.number < t.links.size := by
  rcases Nat.lt_or_ge p.number t.links.size with hlt | hge
  · exact hlt
  · simp [link?, Array.getElem?_eq_none hge] at h

/-! ## §2 Known ways up -/

/-- The table holds the links of a way up from a place to a root, and every parent on it was met
before its child. -/
inductive Knows (t : Parents) : Place → List Link → Prop where
  | root {p : Place} (met : p.number < t.links.size) (link : t.link? p = none) : Knows t p []
  | child {p : Place} {l : Link} {rest : List Link} (link : t.link? p = some l)
      (older : l.parent.number < p.number) (up : Knows t l.parent rest) : Knows t p (l :: rest)

theorem Knows.lt_size {t : Parents} {p : Place} {links : List Link} (h : t.Knows p links) :
    p.number < t.links.size := by
  cases h with
  | root met _ => exact met
  | child link _ _ => exact lt_size_of_link? link

/-- A known way up has no more links than places were met before its lower end. -/
theorem Knows.length_le {t : Parents} {p : Place} {links : List Link} (h : t.Knows p links) :
    links.length ≤ p.number := by
  induction h with
  | root _ _ => exact Nat.zero_le _
  | child _ older _ ih =>
    rw [List.length_cons]
    omega

/-- Later tables know what a table knows. -/
theorem Knows.of_extends {t t' : Parents} (he : t.Extends t') {p : Place} {links : List Link}
    (h : t.Knows p links) : t'.Knows p links := by
  have hsize : t.links.size ≤ t'.links.size := by
    obtain ⟨new, he⟩ := he
    simp [he]
  induction h with
  | root met link => exact .root (by omega) (link?_of_extends he met ▸ link)
  | child link older _ ih =>
    exact .child (link?_of_extends he (lt_size_of_link? link) ▸ link) older ih

theorem Knows.climb?_eq {t : Parents} {p : Place} {links : List Link} (h : t.Knows p links)
    {steps : Nat} (hsteps : links.length < steps) : t.climb? steps p = some links := by
  induction h generalizing steps with
  | root _ link =>
    obtain ⟨n, rfl⟩ : ∃ n, steps = n + 1 := ⟨steps - 1, by omega⟩
    rw [climb?, link]
  | child link _ _ ih =>
    obtain ⟨n, rfl⟩ : ∃ n, steps = n + 1 := ⟨steps - 1, by omega⟩
    rw [List.length_cons] at hsteps
    rw [climb?, link]
    simp [ih (show _ < n by omega)]

/-- A known way up ends, and following the links one by one finds it. -/
theorem Knows.wayUp?_eq {t : Parents} {p : Place} {links : List Link} (h : t.Knows p links) :
    t.wayUp? p = some links := by
  have hlength := h.length_le
  have hmet := h.lt_size
  exact h.climb?_eq (by omega)

theorem Knows.cursor_eq {t : Parents} {p : Place} {links : List Link} (h : t.Knows p links) :
    t.cursor p = ⟨p.node, links.map Link.step⟩ := by
  rw [cursor, h.wayUp?_eq, Option.getD_some]

/-- From every place on a known way up, the way up is known: it is the rest of the way. -/
theorem Knows.of_mem {t : Parents} {p : Place} {links : List Link} (h : t.Knows p links) {l : Link}
    (hl : l ∈ links) : ∃ rest, t.Knows l.parent rest := by
  induction h with
  | root _ _ => cases hl
  | child _ _ up ih =>
    rcases List.mem_cons.1 hl with rfl | hl
    · exact ⟨_, up⟩
    · exact ih hl

/-- The steps of a known way up, on the way of its lower end. -/
theorem Knows.leads_of_mem {t : Parents} {root : Node} {p : Place} {links : List Link}
    (h : t.Knows p links) (hleads : Leads root p.node (links.map Link.step)) {l : Link}
    (hl : l ∈ links) {rest : List Link} (hrest : t.Knows l.parent rest) :
    Leads root l.parent.node (rest.map Link.step) := by
  induction h with
  | root _ _ => cases hl
  | child _ _ up ih =>
    rw [List.map_cons] at hleads
    cases hleads with
    | up _ hrestLeads =>
      rcases List.mem_cons.1 hl with rfl | hl
      · have heq := Option.some.inj (up.wayUp?_eq.symm.trans hrest.wayUp?_eq)
        exact heq ▸ hrestLeads
      · exact ih hrestLeads hl

/-! ## §3 Growing -/

theorem knows_rootPlace (t : Parents) (root : Node) :
    t.addRoot.Knows (t.rootPlace root) [] := by
  refine .root ?_ ?_ <;> simp [rootPlace, addRoot, link?]

theorem link?_childPlace (t : Parents) (p : Place) {i : Nat} {role : String} {n : Node}
    (h : p.node.children[i]? = some (role, n)) :
    (t.addChildren p).link? ⟨t.links.size + i, n⟩ = some ⟨p, role, i⟩ := by
  have hc : (childLinks p)[i]? = some (some ⟨p, role, i⟩) := by
    simp [childLinks, h]
  rw [link?, addChildren, Array.getElem?_append_right (Nat.le_add_right _ _), Nat.add_sub_cancel_left,
    List.getElem?_toArray, hc, Option.join_some]

/-- The children of a known place are known after they were met. -/
theorem knows_of_mem_childPlaces {t : Parents} {p : Place} {links : List Link}
    (h : t.Knows p links) {q : Place} (hq : q ∈ t.childPlaces p) :
    ∃ role position, p.node.children[position]? = some (role, q.node) ∧
      (t.addChildren p).Knows q (⟨p, role, position⟩ :: links) := by
  obtain ⟨⟨⟨role, n⟩, j⟩, hmem, rfl⟩ := List.mem_map.1 hq
  obtain ⟨hj, hget⟩ := List.mk_mem_zipIdx_iff_le_and_getElem?_sub.1 hmem
  have hlink := link?_childPlace t p hget
  rw [Nat.add_sub_cancel' hj] at hlink
  have holder : p.number < j := Nat.lt_of_lt_of_le h.lt_size hj
  exact ⟨role, j - t.links.size, hget, .child hlink holder (h.of_extends (extends_addChildren t p))⟩

/-- The places that the children of a place get have the cursors of the children, in order. -/
theorem map_cursor_childPlaces {t : Parents} {p : Place} {links : List Link}
    (h : t.Knows p links) :
    (t.childPlaces p).map (t.addChildren p).cursor = (t.cursor p).children := by
  apply List.ext_getElem?
  intro i
  rw [h.cursor_eq]
  simp only [childPlaces, Cursor.children, List.map_map, List.getElem?_map, List.getElem?_zipIdx,
    Option.map_map]
  cases hget : p.node.children[i]? with
  | none => rfl
  | some child =>
    have hknows := (h.of_extends (extends_addChildren t p))
    have hchild := Knows.child (link?_childPlace t p hget) (Nat.lt_add_right i h.lt_size) hknows
    simp [hchild.cursor_eq, Link.step]

/-- A place gives way to its children: the places that wait keep their cursors, and the new ones
have those of the children. -/
theorem map_cursor_addChildren {t : Parents} {p : Place} {links : List Link} (h : t.Knows p links)
    {rest : List Place} (hrest : ∀ q ∈ rest, ∃ up, t.Knows q up) :
    (t.childPlaces p ++ rest).map (t.addChildren p).cursor
      = (t.cursor p).children ++ rest.map t.cursor := by
  rw [List.map_append, map_cursor_childPlaces h]
  congr 1
  refine List.map_congr_left fun q hq => ?_
  obtain ⟨up, hup⟩ := hrest q hq
  rw [hup.cursor_eq, (hup.of_extends (extends_addChildren _ p)).cursor_eq]

theorem knows_addChildren {t : Parents} {p : Place} {links : List Link} (h : t.Knows p links)
    {rest : List Place} (hrest : ∀ q ∈ rest, ∃ up, t.Knows q up) :
    ∀ q ∈ t.childPlaces p ++ rest, ∃ up, (t.addChildren p).Knows q up := by
  intro q hq
  rcases List.mem_append.1 hq with hq | hq
  · obtain ⟨_, _, _, hchild⟩ := knows_of_mem_childPlaces h hq
    exact ⟨_, hchild⟩
  · obtain ⟨up, hup⟩ := hrest q hq
    exact ⟨up, hup.of_extends (extends_addChildren _ p)⟩

/-! ## §4 The table of a whole tree -/

/-- The table after the pending places and everything below them were met, in the order of a
walk. -/
def complete : List Place → Parents → Parents
  | [], t => t
  | p :: rest, t => complete (t.childPlaces p ++ rest) (t.addChildren p)
termination_by pending => Node.totalSize (pending.map (·.node))
decreasing_by
  have h := Node.totalSize_children p.node
  rw [List.map_append, Node.totalSize_append, map_node_childPlaces, List.map_cons,
    Node.totalSize_cons]
  omega

theorem extends_complete (pending : List Place) (t : Parents) : t.Extends (complete pending t) := by
  fun_induction complete pending t with
  | case1 t => exact .refl t
  | case2 p rest t ih => exact (extends_addChildren t p).trans ih

end Parents

/-! ## §5 Answers -/

/-- The cursors give the same answers to everything that can be asked about the surroundings of a
node. -/
structure Cursor.AnswersLike (c d : Cursor) : Prop where
  parent : c.parent? = d.parent?
  role : c.role? = d.role?
  siblings : c.siblings = d.siblings
  ancestors : c.ancestors = d.ancestors
  nearest : ∀ kinds, c.nearest? kinds = d.nearest? kinds
  scope : c.scope = d.scope

theorem Cursor.AnswersLike.of_eq {c d : Cursor} (h : c = d) : c.AnswersLike d := by
  subst h
  exact ⟨rfl, rfl, rfl, rfl, fun _ => rfl, rfl⟩

end CppIdioms
