import CppIdioms.Proofs.Invariance
import CppIdioms.Proofs.Rehanging
import CppIdioms.Proofs.ValueEquality

/-!
# What a shape tells

The shape of a tree is a flat list, but depth, role and order give back the tree that it was made of.
Two shapes are equal exactly if the trees without wrappers have the same form, the same kinds and the
same telling attributes. Nothing else is told apart, and nothing of this is lost.

## Contents

* `Node.bare`: a tree without wrappers.
* `Lockstep`: trees of the same form whose corresponding nodes are related.
* `Value.Matches`, `Node.TellsSame`: values and nodes that a shape does not tell apart.
* `Node.SameShape`: trees with equal shapes.

## Main statements

* `listShape_cons`: one step of the listing.
* `listShape_agree_iff`: two listings give equal parts exactly if their tasks agree one by one. The
  depths of pending tasks never rise, and this is what tells the children of a node from its siblings.
* `Node.shape_bare`: the shape of a tree is that of the tree without wrappers.
* `shape_identifies_bare_tree`: equal shapes, and wrappers anywhere in a tree.
-/

namespace CppIdioms

/-! ## §1 Trees without wrappers -/

mutual

/-- The tree without wrappers: each wrapper of one child is replaced by that child, which takes over
its role. -/
def Node.bare : Node → Node
  | ⟨kind, span, attrs, children⟩ =>
    match kind.isWrapper, Node.bareAll children with
    | true, [(_, c)] => c
    | _, below => ⟨kind, span, attrs, below⟩

/-- The children of a node without wrappers. -/
def Node.bareAll : List (String × Node) → List (String × Node)
  | [] => []
  | c :: cs => Node.bareOne c :: Node.bareAll cs

/-- A child without wrappers, under its role. -/
def Node.bareOne : String × Node → String × Node
  | (role, n) => (role, Node.bare n)

end

namespace Node

theorem bareAll_eq (cs : List (String × Node)) : bareAll cs = cs.map fun c => (c.1, c.2.bare) := by
  induction cs with
  | nil => rw [bareAll]; rfl
  | cons c cs ih => rw [bareAll, ih, bareOne]; rfl

theorem bare_of_wrapped?_eq_some {n c : Node} (h : n.wrapped? = some c) : n.bare = c.bare := by
  obtain ⟨kind, span, attrs, children⟩ := n
  simp only [wrapped?, onlyChild?] at h
  split at h
  · next hwrapper =>
    split at h
    · simp_all [bare, bareAll_eq]
    · cases h
  · cases h

theorem bare_of_wrapped?_eq_none {n : Node} (h : n.wrapped? = none) :
    n.bare = { n with children := n.children.map fun c => (c.1, c.2.bare) } := by
  obtain ⟨kind, span, attrs, children⟩ := n
  simp only [wrapped?, onlyChild?] at h
  rw [bare, bareAll_eq]
  split
  · next hwrapper hone =>
    obtain ⟨c, rfl, -⟩ := List.map_eq_singleton_iff.1 hone
    simp [hwrapper] at h
  · rfl

theorem bare_peel (n : Node) : n.peel.bare = n.bare := by
  induction hsize : n.size using Nat.strongRecOn generalizing n with
  | ind size ih =>
    cases hn : n.wrapped? with
    | none => rw [peel_of_wrapped?_eq_none hn]
    | some c =>
      rw [peel_of_wrapped?_eq_some hn, bare_of_wrapped?_eq_some hn]
      exact ih c.size (hsize ▸ size_wrapped?_lt hn) c rfl

/-- The root without wrappers is the node inside the wrappers around it, and its children are the
children of that node without wrappers. -/
theorem bare_eq (n : Node) :
    n.bare = { n.peel with children := n.peel.children.map fun c => (c.1, c.2.bare) } := by
  rw [← bare_peel, bare_of_wrapped?_eq_none (wrapped?_peel n)]

/-- No wrapper of one child is left. -/
theorem wrapped?_bare (n : Node) : n.bare.wrapped? = none := by
  have hpeel := wrapped?_peel n
  rw [bare_eq]
  simp only [wrapped?, onlyChild?] at hpeel ⊢
  split
  · next hwrapper =>
    rw [if_pos hwrapper] at hpeel
    split
    · next hone =>
      obtain ⟨c, hc, -⟩ := List.map_eq_singleton_iff.1 hone
      simp [hc] at hpeel
    · rfl
  · rfl

end Node

/-! ## §2 Corresponding nodes -/

mutual

/-- The trees have the same form: nodes that correspond to each other are related, and their children
correspond one by one under the same roles. -/
inductive Lockstep (r : Node → Node → Prop) : Node → Node → Prop where
  | node {n m : Node} (here : r n m) (below : LockstepAll r n.children m.children) : Lockstep r n m

/-- Children that correspond one by one. -/
inductive LockstepAll (r : Node → Node → Prop) :
    List (String × Node) → List (String × Node) → Prop where
  | nil : LockstepAll r [] []
  | cons {role : String} {n m : Node} {ns ms : List (String × Node)} (head : Lockstep r n m)
      (tail : LockstepAll r ns ms) : LockstepAll r ((role, n) :: ns) ((role, m) :: ms)

end

theorem lockstepAll_iff {r : Node → Node → Prop} {ns ms : List (String × Node)} :
    LockstepAll r ns ms ↔ List.Forall₂ (fun c d => c.1 = d.1 ∧ Lockstep r c.2 d.2) ns ms := by
  induction ns generalizing ms with
  | nil =>
    constructor
    · rintro ⟨⟩
      exact .nil
    · rintro ⟨⟩
      exact .nil
  | cons c ns ih =>
    obtain ⟨role, n⟩ := c
    constructor
    · rintro (_ | ⟨head, tail⟩)
      exact .cons ⟨rfl, head⟩ (ih.1 tail)
    · intro h
      obtain ⟨⟨role', m⟩, ms, ⟨rfl, head⟩, tail, rfl⟩ := List.forall₂_cons_left_iff.1 h
      exact .cons head (ih.2 tail)

theorem lockstep_iff {r : Node → Node → Prop} {n m : Node} :
    Lockstep r n m ↔ r n m ∧
      List.Forall₂ (fun c d => c.1 = d.1 ∧ Lockstep r c.2 d.2) n.children m.children := by
  constructor
  · rintro ⟨here, below⟩
    exact ⟨here, lockstepAll_iff.1 below⟩
  · rintro ⟨here, below⟩
    exact .node here (lockstepAll_iff.2 below)

/-- The values have comparable forms that are equal. -/
def Value.Matches (v w : Value) : Prop :=
  ∃ a b, Comparable.ofValue v = .ok a ∧ Comparable.ofValue w = .ok b ∧ a.same b

/-- The nodes have the same kind, and of the attributes that tell how a node is spelled both have the
same, with values that match. -/
structure Node.TellsSame (n m : Node) : Prop where
  kind : n.kind = m.kind
  attrs : ∀ key ∈ shapeAttributes,
    Option.Rel Value.Matches (Entries.get? key n.attrs) (Entries.get? key m.attrs)

/-- The trees have shapes, and the shapes are equal. -/
def Node.SameShape (n m : Node) : Prop :=
  ∃ k l, n.shape = .ok k ∧ m.shape = .ok l ∧ sameShape k l

theorem Node.SameShape.symm {n m : Node} (h : n.SameShape m) : m.SameShape n := by
  obtain ⟨k, l, hk, hl, hsame⟩ := h
  exact ⟨l, k, hl, hk, sameShape_symm hsame⟩

theorem Node.SameShape.trans {n m o : Node} (hnm : n.SameShape m) (hmo : m.SameShape o) :
    n.SameShape o := by
  obtain ⟨k, l, hk, hl, hkl⟩ := hnm
  obtain ⟨l', p, hl', hp, hlp⟩ := hmo
  cases hl.symm.trans hl'
  exact ⟨k, p, hk, hp, sameShape_trans hkl hlp⟩

/-! ## §3 Telling attributes -/

theorem tellingAttributes_cons {n : Node} {key : String} {keys : List String}
    {as : List (String × Comparable)} :
    tellingAttributes n (key :: keys) = .ok as ↔
      (Entries.get? key n.attrs = none ∧ tellingAttributes n keys = .ok as) ∨
        ∃ v c rest, Entries.get? key n.attrs = some v ∧ Comparable.ofValue v = .ok c ∧
          tellingAttributes n keys = .ok rest ∧ as = (key, c) :: rest := by
  simp only [tellingAttributes]
  cases Entries.get? key n.attrs with
  | none => simp
  | some v =>
    cases hv : Comparable.ofValue v with
    | error f => simp [hv]
    | ok c => cases tellingAttributes n keys <;> simp [hv, Except.map, eq_comm]

theorem name_mem_of_tellingAttributes {n : Node} {keys : List String}
    {as : List (String × Comparable)} (h : tellingAttributes n keys = .ok as) :
    ∀ a ∈ as, a.1 ∈ keys := by
  induction keys generalizing as with
  | nil =>
    cases h
    simp
  | cons key keys ih =>
    intro a ha
    obtain ⟨_, hkeys⟩ | ⟨v, c, rest, _, _, hkeys, rfl⟩ := tellingAttributes_cons.1 h
    · exact List.mem_cons_of_mem _ (ih hkeys a ha)
    · rcases List.mem_cons.1 ha with rfl | ha
      · exact List.mem_cons_self
      · exact List.mem_cons_of_mem _ (ih hkeys a ha)

/-- An attribute that only one of two nodes has cannot be made up for by a later one. -/
theorem not_sameAttributes_cons {n : Node} {key : String} {keys : List String}
    (hkey : key ∉ keys) {c : Comparable} {as bs : List (String × Comparable)}
    (h : tellingAttributes n keys = .ok bs) : ¬sameAttributes ((key, c) :: as) bs := by
  intro hsame
  obtain ⟨b, bs', hb, _, rfl⟩ := List.forall₂_cons_left_iff.1 (sameAttributes_iff.1 hsame)
  have hmem := name_mem_of_tellingAttributes h b List.mem_cons_self
  rw [← hb.1] at hmem
  exact hkey hmem

/-- Both nodes have telling attributes, and those are the same, exactly if they match one by one. -/
theorem sameAttributes_telling_iff {n m : Node} {keys : List String} (hkeys : keys.Nodup) :
    (∃ as bs, tellingAttributes n keys = .ok as ∧ tellingAttributes m keys = .ok bs ∧
      sameAttributes as bs) ↔
    ∀ key ∈ keys,
      Option.Rel Value.Matches (Entries.get? key n.attrs) (Entries.get? key m.attrs) := by
  induction keys with
  | nil => simp [tellingAttributes, sameAttributes]
  | cons key keys ih =>
    obtain ⟨hkey, hkeys⟩ := List.nodup_cons.1 hkeys
    rw [List.forall_mem_cons, ← ih hkeys]
    constructor
    · rintro ⟨as, bs, has, hbs, hsame⟩
      obtain ⟨hn, has⟩ | ⟨v, c, as', hn, hv, has', rfl⟩ := tellingAttributes_cons.1 has
      · obtain ⟨hm, hbs⟩ | ⟨w, d, bs', hm, hw, hbs', rfl⟩ := tellingAttributes_cons.1 hbs
        · rw [hn, hm]
          exact ⟨.none, as, bs, has, hbs, hsame⟩
        · exact absurd (sameAttributes_symm hsame) (not_sameAttributes_cons hkey has)
      · obtain ⟨hm, hbs⟩ | ⟨w, d, bs', hm, hw, hbs', rfl⟩ := tellingAttributes_cons.1 hbs
        · exact absurd hsame (not_sameAttributes_cons hkey hbs)
        · simp only [sameAttributes, beq_self_eq_true, Bool.true_and, Bool.and_eq_true] at hsame
          rw [hn, hm]
          exact ⟨.some ⟨c, d, hv, hw, hsame.1⟩, as', bs', has', hbs', hsame.2⟩
    · rintro ⟨hrel, as, bs, has, hbs, hsame⟩
      generalize hn : Entries.get? key n.attrs = a, hm : Entries.get? key m.attrs = b at hrel
      cases hrel with
      | none =>
        exact ⟨as, bs, tellingAttributes_cons.2 (.inl ⟨hn, has⟩),
          tellingAttributes_cons.2 (.inl ⟨hm, hbs⟩), hsame⟩
      | some hmatch =>
        obtain ⟨c, d, hv, hw, hcd⟩ := hmatch
        refine ⟨(key, c) :: as, (key, d) :: bs,
          tellingAttributes_cons.2 (.inr ⟨_, c, as, hn, hv, has, rfl⟩),
          tellingAttributes_cons.2 (.inr ⟨_, d, bs, hm, hw, hbs, rfl⟩), ?_⟩
        simp [sameAttributes, hcd, hsame]

/-! ## §4 Listing -/

/-- The task without the wrappers around its node. -/
def ShapeTask.peeled (t : ShapeTask) : ShapeTask := { t with node := t.node.peel }

theorem tasksSize_peeled_below_lt (t : ShapeTask) (rest : List ShapeTask) :
    tasksSize (t.peeled.below ++ rest) < tasksSize (t :: rest) := by
  have hbelow := tasksSize_below t.peeled
  have hpeel := Node.size_peel_le t.node
  simp only [tasksSize, ShapeTask.peeled, List.map_append, List.map_cons, Node.totalSize_append,
    Node.totalSize_cons] at hbelow ⊢
  omega

theorem listShape_peeled (listed : List ShapePart) (t : ShapeTask) (rest : List ShapeTask) :
    listShape listed (t :: rest) = listShape listed (t.peeled :: rest) := by
  induction hsize : t.node.size using Nat.strongRecOn generalizing t with
  | ind size ih =>
    cases hn : t.node.wrapped? with
    | none => rw [ShapeTask.peeled, Node.peel_of_wrapped?_eq_none hn]
    | some c =>
      rw [listShape_of_wrapped?_eq_some hn, ih c.size (hsize ▸ size_wrapped?_lt hn) _ rfl,
        ShapeTask.peeled, ShapeTask.peeled, Node.peel_of_wrapped?_eq_some hn]

theorem listShape_eq (listed : List ShapePart) (tasks : List ShapeTask) :
    listShape listed tasks = (listShape [] tasks).map (listed.reverse ++ ·) := by
  induction hsize : tasksSize tasks using Nat.strongRecOn generalizing listed tasks with
  | ind size ih =>
    cases tasks with
    | nil => simp [listShape, Except.map]
    | cons t rest =>
      have hn : t.peeled.node.wrapped? = none := Node.wrapped?_peel t.node
      have hlt := tasksSize_peeled_below_lt t rest
      rw [listShape_peeled listed, listShape_peeled [], listShape_of_wrapped?_eq_none hn,
        listShape_of_wrapped?_eq_none hn]
      cases tellingAttributes t.peeled.node shapeAttributes with
      | error f => rfl
      | ok attrs =>
        dsimp only
        rw [ih _ (hsize ▸ hlt) (_ :: listed) _ rfl, ih _ (hsize ▸ hlt) [_] _ rfl]
        cases listShape [] (t.peeled.below ++ rest) <;> simp [Except.map]

/-- The part of the first task comes first, then those of its children, then those of the other
tasks. -/
theorem listShape_cons (t : ShapeTask) (rest : List ShapeTask) :
    listShape [] (t :: rest) =
      match tellingAttributes t.node.peel shapeAttributes with
      | .error f => .error f
      | .ok attrs =>
        (listShape [] (t.peeled.below ++ rest)).map
          (⟨t.depth, t.role, t.node.peel.kind, attrs⟩ :: ·) := by
  rw [listShape_peeled, listShape_of_wrapped?_eq_none (Node.wrapped?_peel t.node)]
  cases h : tellingAttributes t.node.peel shapeAttributes with
  | error f => simp [ShapeTask.peeled, h]
  | ok attrs => simp [ShapeTask.peeled, h, listShape_eq [_]]

theorem listShape_cons_eq_ok {t : ShapeTask} {rest : List ShapeTask} {k : List ShapePart} :
    listShape [] (t :: rest) = .ok k ↔
      ∃ attrs parts, tellingAttributes t.node.peel shapeAttributes = .ok attrs ∧
        listShape [] (t.peeled.below ++ rest) = .ok parts ∧
        k = ⟨t.depth, t.role, t.node.peel.kind, attrs⟩ :: parts := by
  rw [listShape_cons]
  cases tellingAttributes t.node.peel shapeAttributes with
  | error f => simp
  | ok attrs => cases listShape [] (t.peeled.below ++ rest) <;> simp [Except.map, eq_comm]

/-! ## §5 Agreeing tasks -/

/-- The tasks stand at the same depth under the same role, and for trees that a shape does not tell
apart. -/
structure ShapeTask.Agrees (t u : ShapeTask) : Prop where
  depth : t.depth = u.depth
  role : t.role = u.role
  trees : Lockstep Node.TellsSame t.node.bare u.node.bare

/-- Without wrappers, roots are the nodes inside them, and children agree one by one. -/
theorem lockstep_bare_iff {n m : Node} :
    Lockstep Node.TellsSame n.bare m.bare ↔ Node.TellsSame n.peel m.peel ∧
      List.Forall₂ (fun c d => c.1 = d.1 ∧ Lockstep Node.TellsSame c.2.bare d.2.bare)
        n.peel.children m.peel.children := by
  rw [lockstep_iff, Node.bare_eq n, Node.bare_eq m, List.forall₂_map_left_iff,
    List.forall₂_map_right_iff]
  exact and_congr_left' ⟨fun h => ⟨h.kind, h.attrs⟩, fun h => ⟨h.kind, h.attrs⟩⟩

theorem ShapeTask.agrees_iff {t u : ShapeTask} :
    t.Agrees u ↔ t.depth = u.depth ∧ t.role = u.role ∧
      Node.TellsSame t.node.peel u.node.peel ∧
      List.Forall₂ ShapeTask.Agrees t.peeled.below u.peeled.below := by
  have hbelow (hdepth : t.depth = u.depth) :
      List.Forall₂ ShapeTask.Agrees t.peeled.below u.peeled.below ↔
        List.Forall₂ (fun c d => c.1 = d.1 ∧ Lockstep Node.TellsSame c.2.bare d.2.bare)
          t.node.peel.children u.node.peel.children := by
    simp only [ShapeTask.below, ShapeTask.peeled, List.forall₂_map_left_iff,
      List.forall₂_map_right_iff]
    refine ⟨fun h => h.imp fun c d hcd => ⟨hcd.role, hcd.trees⟩,
      fun h => h.imp fun c d hcd => ⟨by rw [hdepth], hcd.1, hcd.2⟩⟩
  constructor
  · rintro ⟨hdepth, hrole, htrees⟩
    obtain ⟨hroot, hchildren⟩ := lockstep_bare_iff.1 htrees
    exact ⟨hdepth, hrole, hroot, (hbelow hdepth).2 hchildren⟩
  · rintro ⟨hdepth, hrole, hroot, hchildren⟩
    exact ⟨hdepth, hrole, lockstep_bare_iff.2 ⟨hroot, (hbelow hdepth).1 hchildren⟩⟩

/-- The depths of the tasks never rise. -/
def Descending (ts : List ShapeTask) : Prop := ts.Pairwise fun t u => u.depth ≤ t.depth

theorem depth_of_mem_below {t u : ShapeTask} (h : u ∈ t.below) : u.depth = t.depth + 1 := by
  obtain ⟨c, _, rfl⟩ := List.mem_map.1 h
  rfl

theorem Descending.below_append {t : ShapeTask} {rest : List ShapeTask}
    (h : Descending (t :: rest)) : Descending (t.peeled.below ++ rest) := by
  obtain ⟨hfirst, hrest⟩ := List.pairwise_cons.1 h
  refine List.pairwise_append.2 ⟨?_, hrest, ?_⟩
  · refine List.pairwise_of_forall_mem_list fun u hu v hv => ?_
    rw [depth_of_mem_below hu, depth_of_mem_below hv]
  · intro u hu v hv
    rw [depth_of_mem_below hu]
    exact (hfirst v hv).trans (Nat.le_succ _)

/-- Lists that correspond one by one are cut where a property that corresponding items share ends. -/
theorem forall₂_append_iff_of_cut {α : Type} {r : α → α → Prop} {p : α → Bool}
    (hp : ∀ ⦃a b⦄, r a b → p a = p b) {xs ys xs' ys' : List α} (hxs : ∀ x ∈ xs, p x)
    (hys : ∀ y ∈ ys, ¬p y) (hxs' : ∀ x ∈ xs', p x) (hys' : ∀ y ∈ ys', ¬p y) :
    List.Forall₂ r (xs ++ ys) (xs' ++ ys') ↔ List.Forall₂ r xs xs' ∧ List.Forall₂ r ys ys' := by
  refine ⟨fun h => ?_, fun h => List.rel_append h.1 h.2⟩
  have hkept : List.Forall₂ r ((xs ++ ys).filter p) ((xs' ++ ys').filter p) :=
    List.rel_filter (fun a b hab => by simp [hp hab]) h
  have hfirst : List.Forall₂ r xs xs' := by
    simpa [List.filter_eq_self.2 hxs, List.filter_eq_self.2 hxs', List.filter_eq_nil_iff.2 hys,
      List.filter_eq_nil_iff.2 hys'] using hkept
  have hlast := List.forall₂_drop xs.length h
  rw [List.drop_left, hfirst.length_eq, List.drop_left] at hlast
  exact ⟨hfirst, hlast⟩

/-- The listings of the tasks exist and are equal. -/
def ListedAlike (ts us : List ShapeTask) : Prop :=
  ∃ k l, listShape [] ts = .ok k ∧ listShape [] us = .ok l ∧ sameShape k l

theorem listShape_nil : listShape [] [] = .ok [] := by simp [listShape]

theorem not_listedAlike_nil_cons {u : ShapeTask} {us : List ShapeTask} :
    ¬ListedAlike [] (u :: us) := by
  rintro ⟨k, l, hk, hl, hsame⟩
  cases listShape_nil.symm.trans hk
  obtain ⟨attrs, parts, -, -, rfl⟩ := listShape_cons_eq_ok.1 hl
  cases hsame

theorem ListedAlike.symm {ts us : List ShapeTask} (h : ListedAlike ts us) : ListedAlike us ts := by
  obtain ⟨k, l, hk, hl, hsame⟩ := h
  exact ⟨l, k, hl, hk, sameShape_symm hsame⟩

theorem nodup_shapeAttributes : shapeAttributes.Nodup := by decide

/-- One step of two listings side by side. -/
theorem listedAlike_cons_cons {t u : ShapeTask} {ts us : List ShapeTask} :
    ListedAlike (t :: ts) (u :: us) ↔ t.depth = u.depth ∧ t.role = u.role ∧
      Node.TellsSame t.node.peel u.node.peel ∧
      ListedAlike (t.peeled.below ++ ts) (u.peeled.below ++ us) := by
  constructor
  · rintro ⟨k, l, hk, hl, hsame⟩
    obtain ⟨as, ks, has, hks, rfl⟩ := listShape_cons_eq_ok.1 hk
    obtain ⟨bs, ls, hbs, hls, rfl⟩ := listShape_cons_eq_ok.1 hl
    obtain ⟨hpart, hparts⟩ := Bool.and_eq_true_iff.1 hsame
    obtain ⟨hdepth, hrole, hkind, hattrs⟩ := ShapePart.same_iff.1 hpart
    have htold := (sameAttributes_telling_iff nodup_shapeAttributes).1
      ⟨as, bs, has, hbs, hattrs⟩
    exact ⟨hdepth, hrole, ⟨hkind, htold⟩, ks, ls, hks, hls, hparts⟩
  · rintro ⟨hdepth, hrole, htells, ks, ls, hks, hls, hparts⟩
    obtain ⟨as, bs, has, hbs, hattrs⟩ :=
      (sameAttributes_telling_iff nodup_shapeAttributes).2 htells.attrs
    refine ⟨_, _, listShape_cons_eq_ok.2 ⟨as, ks, has, hks, rfl⟩,
      listShape_cons_eq_ok.2 ⟨bs, ls, hbs, hls, rfl⟩, Bool.and_eq_true_iff.2 ⟨?_, hparts⟩⟩
    exact ShapePart.same_iff.2 ⟨hdepth, hrole, htells.kind, hattrs⟩

/-- The listings are equal exactly if the tasks agree one by one. -/
theorem listShape_agree_iff {ts us : List ShapeTask} (hts : Descending ts) (hus : Descending us) :
    ListedAlike ts us ↔ List.Forall₂ ShapeTask.Agrees ts us := by
  induction hsize : tasksSize ts using Nat.strongRecOn generalizing ts us with
  | ind size ih =>
    match ts, us with
    | [], [] => exact ⟨fun _ => .nil, fun _ => ⟨[], [], listShape_nil, listShape_nil, rfl⟩⟩
    | [], u :: us => exact ⟨fun h => absurd h not_listedAlike_nil_cons, nofun⟩
    | t :: ts, [] => exact ⟨fun h => absurd h.symm not_listedAlike_nil_cons, nofun⟩
    | t :: ts, u :: us =>
      rw [listedAlike_cons_cons, List.forall₂_cons, ShapeTask.agrees_iff,
        ih _ (hsize ▸ tasksSize_peeled_below_lt t ts) hts.below_append hus.below_append rfl]
      simp only [and_assoc]
      refine and_congr_right fun hdepth => and_congr_right fun _ => and_congr_right fun _ => ?_
      -- The children stand one level deeper than every task that was already pending.
      have hdeeper {v : ShapeTask} (hv : v.depth = t.depth) :
          ∀ w ∈ v.peeled.below, w.depth == t.depth + 1 := by
        intro w hw
        simp [depth_of_mem_below hw, ShapeTask.peeled, hv]
      have hpending {v : ShapeTask} {vs : List ShapeTask} (hvs : Descending (v :: vs))
          (hv : v.depth = t.depth) : ∀ w ∈ vs, ¬w.depth == t.depth + 1 := by
        intro w hw
        have hle := (List.pairwise_cons.1 hvs).1 w hw
        simp only [beq_iff_eq]
        omega
      exact forall₂_append_iff_of_cut (fun a b hab => by rw [hab.depth]) (hdeeper rfl)
        (hpending hts rfl) (hdeeper hdepth.symm) (hpending hus hdepth.symm)

/-! ## §6 Shapes and trees without wrappers -/

theorem sameShape_iff_lockstep {a b : Node} :
    a.SameShape b ↔ Lockstep Node.TellsSame a.bare b.bare := by
  have hone (t : ShapeTask) : Descending [t] := List.pairwise_singleton _ _
  refine (listShape_agree_iff (hone ⟨0, "", a⟩) (hone ⟨0, "", b⟩)).trans ?_
  rw [List.forall₂_cons]
  exact ⟨fun h => h.1.trees, fun h => ⟨⟨rfl, rfl, h⟩, .nil⟩⟩

/-- The task at the tree without wrappers. -/
def ShapeTask.bare (t : ShapeTask) : ShapeTask := { t with node := t.node.bare }

theorem ShapeTask.peeled_bare (t : ShapeTask) : t.bare.peeled = t.bare := by
  rw [ShapeTask.peeled, ShapeTask.bare, Node.peel_of_wrapped?_eq_none (Node.wrapped?_bare t.node)]

theorem ShapeTask.below_bare (t : ShapeTask) : t.bare.below = t.peeled.below.map ShapeTask.bare := by
  simp [ShapeTask.below, ShapeTask.bare, ShapeTask.peeled, Node.bare_eq t.node]

theorem listShape_bare (tasks : List ShapeTask) :
    listShape [] (tasks.map ShapeTask.bare) = listShape [] tasks := by
  induction hsize : tasksSize tasks using Nat.strongRecOn generalizing tasks with
  | ind size ih =>
    cases tasks with
    | nil => rfl
    | cons t rest =>
      have hpeel : t.bare.node.peel = t.node.bare :=
        Node.peel_of_wrapped?_eq_none (Node.wrapped?_bare t.node)
      have hkind : t.node.bare.kind = t.node.peel.kind := by rw [Node.bare_eq]
      have hattrs : t.node.bare.attrs = t.node.peel.attrs := by rw [Node.bare_eq]
      rw [List.map_cons, listShape_cons, listShape_cons, ShapeTask.peeled_bare,
        ShapeTask.below_bare, ← List.map_append,
        ih _ (hsize ▸ tasksSize_peeled_below_lt t rest) _ rfl, hpeel, hkind,
        tellingAttributes_congr hattrs]
      rfl

theorem Node.shape_bare (n : Node) : n.bare.shape = n.shape := listShape_bare [⟨0, "", n⟩]

/-- No wrapper of one child is left at any depth. -/
theorem Node.wrapped?_of_mem_walk_bare {n m : Node} (h : m ∈ n.bare.walk) : m.wrapped? = none := by
  induction hsize : n.size using Nat.strongRecOn generalizing n with
  | ind size ih =>
    rw [Node.walk_eq] at h
    rcases List.mem_cons.1 h with rfl | h
    · exact Node.wrapped?_bare n
    · obtain ⟨_, hc, hm⟩ := List.mem_flatMap.1 h
      rw [Node.bare_eq] at hc
      simp only [List.map_map, List.mem_map, Function.comp_apply] at hc
      obtain ⟨c, hc, rfl⟩ := hc
      exact ih _ (hsize ▸ (Node.size_child_lt hc).trans_le (Node.size_peel_le n)) hm rfl

/-- A child that is the same without wrappers makes a parent that is the same without wrappers. -/
theorem Step.bare_plug {parent n n' : Node} {role : String} {position : Nat}
    (holds : parent.children[position]? = some (role, n)) (h : n'.bare = n.bare) :
    (Step.plug ⟨parent, role, position⟩ n').bare = parent.bare := by
  have hchildren :
      Node.bareAll (parent.children.set position (role, n')) = Node.bareAll parent.children := by
    rw [Node.bareAll_eq, Node.bareAll_eq, map_set_eq_map holds (by rw [h])]
  cases parent
  rw [Step.plug, Node.bare, Node.bare, hchildren]

theorem Leads.bare_foldl_plug {root n n' : Node} {path : List Step} (h : Leads root n path)
    (hn : n'.bare = n.bare) : (path.foldl (fun below s => s.plug below) n').bare = root.bare := by
  induction h generalizing n' with
  | here => exact hn
  | up holds _ ih => exact ih (Step.bare_plug holds hn)

/-- Shapes are equal exactly if the trees without wrappers correspond node by node in kind, role and
telling attributes. Without wrappers no wrapper of one child is left, and one around any node of a
tree changes neither the tree without wrappers nor the shape. -/
theorem shape_identifies_bare_tree (a b : Node) :
    (a.SameShape b ↔ Lockstep Node.TellsSame a.bare b.bare) ∧
      (∀ m ∈ a.bare.walk, m.wrapped? = none) ∧
      ∀ c ∈ (Cursor.root a).walk, c.replaceBy c.node = a ∧
        ∀ w : Node, w.wrapped? = some c.node →
          (c.replaceBy w).bare = a.bare ∧ (c.replaceBy w).shape = a.shape := by
  refine ⟨sameShape_iff_lockstep, fun m hm => Node.wrapped?_of_mem_walk_bare hm, fun c hc => ?_⟩
  have hleads : Leads a c.node c.path := Cursor.mem_walk_root.1 hc
  refine ⟨hleads.foldl_plug_self, fun w hw => ?_⟩
  have hbare : (c.replaceBy w).bare = a.bare :=
    hleads.bare_foldl_plug (Node.bare_of_wrapped?_eq_some hw)
  refine ⟨hbare, ?_⟩
  rw [← Node.shape_bare, hbare, Node.shape_bare]

/-- In `x - y`, parentheses around `x` are not told apart from none. -/
theorem shape_of_parenthesized_operand :
    let x : Node := ⟨.declRefExpr, ⟨"a.cpp", 3, 3, 3, 4⟩, [(.str "name", .str "x")], []⟩
    let y : Node := ⟨.declRefExpr, ⟨"a.cpp", 3, 7, 3, 8⟩, [(.str "name", .str "y")], []⟩
    let difference (left : Node) : Node := ⟨.binaryOperator, ⟨"a.cpp", 3, 3, 3, 8⟩,
      [(.str "operator", .str "-")], [("lhs", left), ("rhs", y)]⟩
    let wrapped : Node := ⟨.parenExpr, ⟨"a.cpp", 3, 2, 3, 5⟩, [], [("operand", x)]⟩
    (difference wrapped).bare = (difference x).bare ∧
      (difference wrapped).shape = (difference x).shape := by
  intro x y difference wrapped
  let c : Cursor := ⟨x, [⟨difference x, "lhs", 0⟩]⟩
  have hc : c ∈ (Cursor.root (difference x)).walk := Cursor.mem_walk_root.2 (.up rfl .here)
  exact ((shape_identifies_bare_tree (difference x) (difference x)).2.2 c hc).2 wrapped rfl

end CppIdioms
