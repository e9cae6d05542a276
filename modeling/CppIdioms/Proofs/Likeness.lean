import CppIdioms.Proofs.Preorder
import CppIdioms.Rule.Basic
import CppIdioms.Tree.Shape
import Mathlib.Data.List.Forall2

/-!
# Trees that read alike

Two trees read alike when the second one is the first one with its places moved and with parentheses
put around some of its expressions. What a rule learns about a tree by looking through wrappers, by
following accesses or by comparing shapes is then the same for both.

Parentheses are put neither around the variable that a range-for loop binds nor around a parameter
of a constructor, since those are read without looking through wrappers.

## Contents

* `Kind.isExpression`, `Kind.readsBare`, `Node.inParens`: expressions, the positions that are read as
  they stand, and an expression in parentheses.
* `Alike`, `AlikeChildren`: trees that read alike, and the children of their nodes.
* `Twin`: nodes of alike trees that correspond to each other, parentheses aside.
* `ParentAlike`, `WaysAlike`, `Cursor.Twin`: the same for what lies above a node.

## Main statements

* `Alike.peel`: without the wrappers around them, alike trees are twins.
* `Alike.accessed?`, `Alike.designates`, `Alike.any_walk`, `Alike.shape`: what follows for the other
  readings of a tree.
* `WaysAlike.climb`: above the wrappers around them, corresponding nodes hang alike.
-/

namespace CppIdioms

/-! ## §1 Parentheses -/

/-- The kinds of expressions. -/
def Kind.isExpression : Kind → Bool
  | .binaryOperator => true
  | .unaryOperator => true
  | .assignmentExpr => true
  | .preIncrementExpr => true
  | .preDecrementExpr => true
  | .postIncrementExpr => true
  | .postDecrementExpr => true
  | .declRefExpr => true
  | .memberExpr => true
  | .literal => true
  | .parenExpr => true
  | .implicitCastExpr => true
  | .cStyleCastExpr => true
  | .callExpr => true
  | .memberCallExpr => true
  | .constructExpr => true
  | .newExpr => true
  | .deleteExpr => true
  | .streamInsertExpr => true
  | .containerIndexExpr => true
  | _ => false

/-- What hangs under this role is read without looking through wrappers. -/
def Kind.readsBare (k : Kind) (role : String) : Bool :=
  (k == .rangeForStatement && role == "binding") || (k == .constructorDecl && role == "parameters")

namespace Node

/-- The entry that holds the type of a node, if it has one. -/
def typeEntry (n : Node) : Entries :=
  match Entries.get? "type" n.attrs with
  | some t => [(.str "type", t)]
  | none => []

/-- A node in parentheses that have its place and its type. -/
def inParens (n : Node) : Node := ⟨.parenExpr, n.span, n.typeEntry, [("operand", n)]⟩

theorem attr_type_inParens (n : Node) : n.inParens.attr "type" = n.attr "type" := by
  unfold attr Entries.find inParens typeEntry
  cases h : Entries.get? "type" n.attrs <;> simp [Entries.get?]

@[simp] theorem wrapped?_inParens (n : Node) : n.inParens.wrapped? = some n := rfl

theorem size_inParens (n : Node) : n.inParens.size = n.size + 1 := by
  rw [size_eq]
  simp [inParens, sizeAll_cons, sizeAll]

/-- A node that is no wrapper of one child is not looked through. -/
theorem peel_of_wrapped?_eq_none {n : Node} (h : n.wrapped? = none) : n.peel = n := by
  unfold wrapped? at h
  rw [peel]
  split
  · next hw =>
    rw [if_pos hw] at h
    split
    · next hc => rw [h] at hc; cases hc
    · rfl
  · rfl

theorem peel_of_wrapped?_eq_some {n c : Node} (h : n.wrapped? = some c) : n.peel = c.peel := by
  unfold wrapped? at h
  rw [peel]
  split
  · next hw =>
    rw [if_pos hw] at h
    split
    · next hc => rw [h] at hc; cases hc; rfl
    · next hc => rw [h] at hc; cases hc
  · next hw => rw [if_neg hw] at h; cases h

end Node

/-! ## §2 Alike trees -/

mutual

/-- The second tree is the first one with its places moved and with parentheses put around some of
its expressions. -/
inductive Alike (move : Span → Span) : Node → Node → Prop where
  | node {n n' : Node} (kind : n'.kind = n.kind) (span : n'.span = move n.span)
      (attrs : n'.attrs = n.attrs) (children : AlikeChildren move n.kind n.children n'.children) :
      Alike move n n'
  | parens {n n' : Node} (expression : n.kind.isExpression) (inner : Alike move n n') :
      Alike move n n'.inParens

/-- The children of nodes of a kind are alike one by one, under the same roles. No parentheses are
put where children are read as they stand. -/
inductive AlikeChildren (move : Span → Span) :
    Kind → List (String × Node) → List (String × Node) → Prop where
  | nil {k : Kind} : AlikeChildren move k [] []
  | cons {k : Kind} {role : String} {n n' : Node} {cs cs' : List (String × Node)}
      (head : Alike move n n') (bare : k.readsBare role → n'.attrs = n.attrs)
      (tail : AlikeChildren move k cs cs') :
      AlikeChildren move k ((role, n) :: cs) ((role, n') :: cs')

end

/-- The nodes correspond to each other: they differ at most in their places and below. -/
structure Twin (move : Span → Span) (n n' : Node) : Prop where
  kind : n'.kind = n.kind
  span : n'.span = move n.span
  attrs : n'.attrs = n.attrs
  children : AlikeChildren move n.kind n.children n'.children

section Alike

variable {move : Span → Span} {n n' : Node}

theorem Twin.alike (h : Twin move n n') : Alike move n n' :=
  .node h.kind h.span h.attrs h.children

theorem Alike.span : ∀ {n n' : Node}, Alike move n n' → n'.span = move n.span
  | _, _, .node _ span _ _ => span
  | _, _, .parens _ inner => inner.span

/-- Alike trees have the same type at their roots, since parentheses take it over. -/
theorem Alike.attr_type : ∀ {n n' : Node}, Alike move n n' → n'.attr "type" = n.attr "type"
  | _, _, .node _ _ attrs _ => by rw [Node.attr, Node.attr, attrs]
  | _, _, .parens _ inner => (Node.attr_type_inParens _).trans inner.attr_type

theorem Alike.typeAt (h : Alike move n n') : n'.typeAt "type" = n.typeAt "type" := by
  rw [Node.typeAt, Node.typeAt, Node.typeOf, Node.typeOf, h.attr_type]

/-- Children that are mapped one by one. -/
theorem AlikeChildren.of_map {k : Kind} {cs : List (String × Node)} {f : Node → Node}
    (h : ∀ c ∈ cs, Alike move c.2 (f c.2) ∧ (f c.2).attrs = c.2.attrs) :
    AlikeChildren move k cs (cs.map fun c => (c.1, f c.2)) := by
  induction cs with
  | nil => exact .nil
  | cons c cs ih =>
    obtain ⟨hhead, htail⟩ := List.forall_mem_cons.1 h
    exact .cons hhead.1 (fun _ => hhead.2) (ih htail)

/-- Every node corresponds to itself. -/
theorem Twin.refl (n : Node) : Twin id n n := by
  induction h : n.size using Nat.strongRecOn generalizing n with
  | ind size ih =>
    have hchildren : AlikeChildren id n.kind n.children (n.children.map fun c => (c.1, id c.2)) :=
      .of_map fun c hc => ⟨(ih _ (h ▸ Node.size_child_lt hc) c.2 rfl).alike, rfl⟩
    exact ⟨rfl, rfl, rfl, by simpa using hchildren⟩

/-! ## §3 What twins tell -/

/-- What depends on the kind and the attributes of a node only is the same for twins. -/
theorem Twin.congr {β : Type} (h : Twin move n n') (f : Node → β)
    (hf : ∀ k s s' attrs cs cs', f ⟨k, s, attrs, cs⟩ = f ⟨k, s', attrs, cs'⟩) : f n' = f n := by
  obtain ⟨k, s, attrs, cs⟩ := n
  obtain ⟨k', s', attrs', cs'⟩ := n'
  obtain ⟨hkind, _, hattrs, _⟩ := h
  cases hkind
  cases hattrs
  exact hf _ _ _ _ _ _

end Alike

section Attributes

variable {n n' : Node} (h : n'.attrs = n.attrs)
include h

theorem attr_congr (key : String) : n'.attr key = n.attr key := by
  rw [Node.attr, Node.attr, h]

theorem has_congr (key : String) : n'.has key = n.has key := by
  rw [Node.has, Node.has, attr_congr h]

theorem denies_congr (key : String) : n'.denies key = n.denies key := by
  rw [Node.denies, Node.denies, attr_congr h]

theorem name?_congr : n'.name? = n.name? := by
  rw [Node.name?, Node.name?, attr_congr h]

theorem properName?_congr : n'.properName? = n.properName? := by
  rw [Node.properName?, Node.properName?, name?_congr h]

theorem typeAt_congr (key : String) : n'.typeAt key = n.typeAt key := by
  rw [Node.typeAt, Node.typeAt, Node.typeOf, Node.typeOf, attr_congr h]

theorem called_congr (key default : String) : n'.called key default = n.called key default := by
  rw [Node.called, Node.called, Node.called?, Node.called?, has_congr h, attr_congr h,
    properName?_congr h]

theorem nameOr_congr (default : String) : n'.nameOr default = n.nameOr default := by
  rw [Node.nameOr, Node.nameOr, properName?_congr h]

end Attributes

/-- The known type of a node, by its attributes alone. -/
theorem Node.knownType_eq (n : Node) :
    n.knownType =
      if n.denies "resolved" then .ok none
      else (n.typeAt "type").map fun t => t.filter (·.resolved) := by
  unfold knownType requireType typeAt
  by_cases hr : n.denies "resolved"
  · simp [hr]
  · simp only [hr]
    cases n.typeOf "type" with
    | error f => rfl
    | ok t =>
      cases t with
      | none => rfl
      | some t => cases ht : t.resolved <;> simp [ht, Except.mapError, Except.map, Option.filter]

theorem knownType_congr {n n' : Node} (h : n'.attrs = n.attrs) : n'.knownType = n.knownType := by
  rw [Node.knownType_eq, Node.knownType_eq, denies_congr h, typeAt_congr h]

/-! ## §4 Children -/

/-- Either both are missing, or both are there and related. -/
theorem rel_cases {α β : Type} {r : α → β → Prop} {a : Option α} {b : Option β}
    (h : Option.Rel r a b) : (a = none ∧ b = none) ∨ ∃ x y, a = some x ∧ b = some y ∧ r x y := by
  cases h with
  | none => exact .inl ⟨rfl, rfl⟩
  | some h => exact .inr ⟨_, _, rfl, rfl, h⟩

theorem isSome_eq_of_rel {α β : Type} {r : α → β → Prop} {a : Option α} {b : Option β}
    (h : Option.Rel r a b) : b.isSome = a.isSome := by
  cases h <;> rfl

theorem eq_of_rel {α : Type} {a b : Option α} (h : Option.Rel Eq a b) : a = b := by
  cases h with
  | none => rfl
  | some h => rw [h]

theorem rel_of_eq {α : Type} {a b : Option α} (h : a = b) : Option.Rel Eq a b := by
  subst h
  cases a with
  | none => exact .none
  | some x => exact .some rfl

/-- What is looked up next is related, if it is for everything that was found. -/
theorem rel_bind {α β γ δ : Type} {r : α → β → Prop} {q : γ → δ → Prop} {a : Option α} {b : Option β}
    {f : α → Option γ} {g : β → Option δ} (h : Option.Rel r a b)
    (hf : ∀ x y, b = some y → r x y → Option.Rel q (f x) (g y)) :
    Option.Rel q (a.bind f) (b.bind g) := by
  cases h with
  | none => exact .none
  | some h => exact hf _ _ rfl h

section Children

variable {move : Span → Span} {k : Kind}

/-- Children of alike trees, as a reader under a role of nodes of a kind meets them. -/
structure AlikeChild (move : Span → Span) (k : Kind) (role : String) (c c' : Node) : Prop where
  alike : Alike move c c'
  bare : k.readsBare role → c'.attrs = c.attrs

theorem AlikeChildren.forall₂ : ∀ {cs cs' : List (String × Node)}, AlikeChildren move k cs cs' →
    List.Forall₂ (fun c c' => c'.1 = c.1 ∧ AlikeChild move k c.1 c.2 c'.2) cs cs'
  | _, _, .nil => .nil
  | _, _, .cons head bare tail => .cons ⟨rfl, head, bare⟩ tail.forall₂

theorem AlikeChildren.child? {n n' : Node} (h : AlikeChildren move k n.children n'.children)
    (role : String) :
    Option.Rel (AlikeChild move k role) (n.child? role) (n'.child? role) := by
  have hcs := h.forall₂
  unfold Node.child?
  generalize n.children = cs, n'.children = cs' at hcs
  induction hcs with
  | nil => exact .none
  | @cons c c' cs cs' hc _ ih =>
    obtain ⟨hrole, hchild⟩ := hc
    by_cases heq : c.1 = role
    · subst heq
      simpa [hrole] using Option.Rel.some hchild
    · simpa [hrole, heq] using ih

theorem AlikeChildren.alikeChild? {n n' : Node} (h : AlikeChildren move k n.children n'.children)
    (role : String) : Option.Rel (Alike move) (n.child? role) (n'.child? role) := by
  obtain ⟨hn, hn'⟩ | ⟨c, c', hn, hn', hc⟩ := rel_cases (h.child? role)
  · rw [hn, hn']
    exact .none
  · rw [hn, hn']
    exact .some hc.alike

theorem AlikeChildren.childrenOf {n n' : Node} (h : AlikeChildren move k n.children n'.children)
    (role : String) :
    List.Forall₂ (AlikeChild move k role) (n.childrenOf role) (n'.childrenOf role) := by
  have hcs := h.forall₂
  unfold Node.childrenOf
  generalize n.children = cs, n'.children = cs' at hcs
  induction hcs with
  | nil => exact .nil
  | @cons c c' cs cs' hc _ ih =>
    obtain ⟨hrole, hchild⟩ := hc
    by_cases heq : c.1 = role
    · subst heq
      rw [List.filter_cons_of_pos (by simp), List.filter_cons_of_pos (by simp [hrole])]
      exact .cons hchild ih
    · simpa [hrole, heq] using ih

theorem AlikeChildren.onlyChild? {n n' : Node}
    (h : AlikeChildren move k n.children n'.children) :
    Option.Rel (Alike move) n.onlyChild? n'.onlyChild? := by
  have hcs := h.forall₂
  unfold Node.onlyChild?
  generalize n.children = cs, n'.children = cs' at hcs
  cases hcs with
  | nil => exact .none
  | cons hc hcs =>
    cases hcs with
    | nil => exact .some hc.2.alike
    | cons _ _ => exact .none

theorem Twin.wrapped? {n n' : Node} (h : Twin move n n') :
    Option.Rel (Alike move) n.wrapped? n'.wrapped? := by
  unfold Node.wrapped?
  rw [h.kind]
  split
  · exact h.children.onlyChild?
  · exact .none

end Children

/-! ## §5 Looking through wrappers -/

section Readings

variable {move : Span → Span} {n n' : Node}

/-- Without the wrappers around them, alike trees are twins. -/
theorem Alike.peel (h : Alike move n n') : Twin move n.peel n'.peel := by
  -- Each case takes a node from the second tree; parentheses are missing in the first one.
  induction hsize : n'.size using Nat.strongRecOn generalizing n n' with
  | ind size ih =>
    cases h with
    | @parens _ inner _ h =>
      rw [Node.peel_of_wrapped?_eq_some (Node.wrapped?_inParens inner)]
      exact ih inner.size (by rw [← hsize, Node.size_inParens]; omega) h rfl
    | node kind span attrs children =>
      have htwin : Twin move n n' := ⟨kind, span, attrs, children⟩
      obtain ⟨hn, hn'⟩ | ⟨c, c', hn, hn', hc⟩ := rel_cases htwin.wrapped?
      · rwa [Node.peel_of_wrapped?_eq_none hn, Node.peel_of_wrapped?_eq_none hn']
      · rw [Node.peel_of_wrapped?_eq_some hn, Node.peel_of_wrapped?_eq_some hn']
        exact ih c'.size (hsize ▸ size_wrapped?_lt hn') hc rfl

theorem AlikeChildren.peeled? {k : Kind} (h : AlikeChildren move k n.children n'.children)
    (role : String) : Option.Rel (Twin move) (n.peeled? role) (n'.peeled? role) := by
  unfold Node.peeled?
  obtain ⟨hn, hn'⟩ | ⟨c, c', hn, hn', hc⟩ := rel_cases (h.alikeChild? role)
  · rw [hn, hn']
    exact .none
  · rw [hn, hn']
    exact .some hc.peel

/-- An access leads where the object leads that it starts from. -/
theorem Node.accessed?_eq (n : Node) :
    n.accessed? =
      match accessRole? n.peel.kind with
      | none => some n.peel
      | some role => (n.peel.child? role).bind Node.accessed? := by
  rw [Node.accessed?]
  cases accessRole? n.peel.kind with
  | none => rfl
  | some role =>
    dsimp only
    split <;> next h => rw [h]; rfl

/-- Accesses in alike trees lead to twins. -/
theorem Alike.accessed? (h : Alike move n n') :
    Option.Rel (Twin move) n.accessed? n'.accessed? := by
  induction hsize : n'.size using Nat.strongRecOn generalizing n n' with
  | ind size ih =>
    have htwin := h.peel
    rw [Node.accessed?_eq, Node.accessed?_eq, htwin.kind]
    split
    · exact .some htwin
    · next role _ =>
      refine rel_bind (htwin.children.alikeChild? role) fun c c' hn' hc => ?_
      have hlt := Nat.lt_of_lt_of_le (Node.size_child?_lt hn') (Node.size_peel_le n')
      exact ih c'.size (hsize ▸ hlt) hc rfl

theorem Alike.designates (h : Alike move n n') (name : String) :
    n'.designates name = n.designates name := by
  unfold Node.designates
  obtain ⟨hn, hn'⟩ | ⟨c, c', hn, hn', hc⟩ := rel_cases h.accessed?
  · rw [hn, hn']
  · simp only [hn, hn', hc.kind, name?_congr hc.attrs]

/-! ## §6 Walks -/

theorem Node.any_walk (p : Node → Bool) (n : Node) :
    n.walk.any p = (p n || n.children.any fun c => c.2.walk.any p) := by
  rw [Node.walk_eq, List.any_cons, List.any_flatMap, List.any_map]
  rfl

mutual

/-- A question that twins answer alike, and parentheses with no, has the same answer somewhere in
alike trees. -/
theorem Alike.any_walk {p : Node → Bool} (hparens : ∀ m : Node, p m.inParens = false)
    (htwin : ∀ m m' : Node, Twin move m m' → p m' = p m) :
    ∀ {n n' : Node}, Alike move n n' → n'.walk.any p = n.walk.any p
  | _, _, .node kind span attrs children => by
    rw [Node.any_walk, Node.any_walk, children.any_walk hparens htwin,
      htwin _ _ ⟨kind, span, attrs, children⟩]
  | _, _, @Alike.parens _ _ inner _ h => by
    rw [Node.any_walk, hparens, ← h.any_walk hparens htwin]
    simp [Node.inParens]

theorem AlikeChildren.any_walk {p : Node → Bool} (hparens : ∀ m : Node, p m.inParens = false)
    (htwin : ∀ m m' : Node, Twin move m m' → p m' = p m) {k : Kind} :
    ∀ {cs cs' : List (String × Node)}, AlikeChildren move k cs cs' →
      (cs'.any fun c => c.2.walk.any p) = cs.any fun c => c.2.walk.any p
  | _, _, .nil => rfl
  | _, _, .cons head _ tail => by
    rw [List.any_cons, List.any_cons, head.any_walk hparens htwin, tail.any_walk hparens htwin]

end

/-! ## §7 Shapes -/

theorem tellingAttributes_congr (h : n'.attrs = n.attrs) (keys : List String) :
    tellingAttributes n' keys = tellingAttributes n keys := by
  induction keys with
  | nil => rfl
  | cons key keys ih => rw [tellingAttributes, tellingAttributes, h, ih]

theorem listShape_of_wrapped?_eq_some {t : ShapeTask} {c : Node} (h : t.node.wrapped? = some c)
    (listed : List ShapePart) (rest : List ShapeTask) :
    listShape listed (t :: rest) = listShape listed (⟨t.depth, t.role, c⟩ :: rest) := by
  rw [listShape]
  split
  · next hc => rw [h] at hc; cases hc; rfl
  · next hc => rw [h] at hc; cases hc

theorem listShape_of_wrapped?_eq_none {t : ShapeTask} (h : t.node.wrapped? = none)
    (listed : List ShapePart) (rest : List ShapeTask) :
    listShape listed (t :: rest) =
      match tellingAttributes t.node shapeAttributes with
      | .error f => .error f
      | .ok attrs =>
        listShape (⟨t.depth, t.role, t.node.kind, attrs⟩ :: listed) (t.below ++ rest) := by
  rw [listShape]
  split
  · next hc => rw [h] at hc; cases hc
  · rfl

/-- Parts of alike trees whose shape is still to be listed. -/
structure AlikeTask (move : Span → Span) (t t' : ShapeTask) : Prop where
  depth : t'.depth = t.depth
  role : t'.role = t.role
  alike : Alike move t.node t'.node

theorem Twin.below {t t' : ShapeTask} (hdepth : t'.depth = t.depth) (h : Twin move t.node t'.node) :
    List.Forall₂ (AlikeTask move) t.below t'.below := by
  unfold ShapeTask.below
  rw [List.forall₂_map_left_iff, List.forall₂_map_right_iff]
  refine h.children.forall₂.imp fun c c' hc => ?_
  exact ⟨by rw [hdepth], hc.1, hc.2.alike⟩

theorem listShape_alike (listed : List ShapePart) {tasks tasks' : List ShapeTask}
    (h : List.Forall₂ (AlikeTask move) tasks tasks') :
    listShape listed tasks' = listShape listed tasks := by
  induction hsize : tasksSize tasks' using Nat.strongRecOn generalizing listed tasks tasks' with
  | ind size ih =>
    cases h with
    | nil => rfl
    | @cons t t' rest rest' ht hrest =>
      obtain ⟨hdepth, hrole, halike⟩ := ht
      generalize hnode' : t'.node = m' at halike
      cases halike with
      | @parens _ inner _ hinner =>
        have hwrapped : t'.node.wrapped? = some inner := by rw [hnode', Node.wrapped?_inParens]
        rw [listShape_of_wrapped?_eq_some hwrapped]
        refine ih _ ?_ listed (.cons ⟨hdepth, hrole, hinner⟩ hrest) rfl
        have hlt := size_wrapped?_lt hwrapped
        simp only [tasksSize, List.map_cons, Node.totalSize_cons] at hsize ⊢
        omega
      | node kind span attrs children =>
        subst hnode'
        have htwin : Twin move t.node t'.node := ⟨kind, span, attrs, children⟩
        obtain ⟨hn, hn'⟩ | ⟨c, c', hn, hn', hc⟩ := rel_cases htwin.wrapped?
        · rw [listShape_of_wrapped?_eq_none hn, listShape_of_wrapped?_eq_none hn',
            tellingAttributes_congr attrs, hdepth, hrole, kind]
          cases tellingAttributes t.node shapeAttributes with
          | error f => rfl
          | ok telling =>
            refine ih _ ?_ _ (List.rel_append (htwin.below hdepth) hrest) rfl
            have hbelow := tasksSize_below t'
            simp only [tasksSize, List.map_append, List.map_cons, Node.totalSize_append,
              Node.totalSize_cons] at hsize hbelow ⊢
            omega
        · rw [listShape_of_wrapped?_eq_some hn, listShape_of_wrapped?_eq_some hn']
          refine ih _ ?_ listed (.cons ⟨hdepth, hrole, hc⟩ hrest) rfl
          have hlt := size_wrapped?_lt hn'
          simp only [tasksSize, List.map_cons, Node.totalSize_cons] at hsize ⊢
          omega

/-- Alike trees have the same shape. -/
theorem Alike.shape (h : Alike move n n') : n'.shape = n.shape :=
  listShape_alike [] (.cons ⟨rfl, rfl, h⟩ .nil)

end Readings

/-! ## §8 What lies above -/

/-- Ancestors that read alike. Of a whole unit only the way down is read, so that its children may
differ. -/
structure ParentAlike (move : Span → Span) (p p' : Node) : Prop where
  kind : p'.kind = p.kind
  attrs : p'.attrs = p.attrs
  children : p.kind ≠ .translationUnit → AlikeChildren move p.kind p.children p'.children

/-- The ways up from nodes of a kind are alike: they lead over ancestors that read alike, and the
second one also over the parentheses that were put around expressions. -/
inductive WaysAlike (move : Span → Span) : Kind → List Step → List Step → Prop where
  | root (k : Kind) : WaysAlike move k [] []
  | step {k : Kind} {s s' : Step} {rest rest' : List Step} (role : s'.role = s.role)
      (parent : ParentAlike move s.parent s'.parent)
      (up : WaysAlike move s.parent.kind rest rest') : WaysAlike move k (s :: rest) (s' :: rest')
  | parens {k : Kind} {s' : Step} {path path' : List Step} (expression : k.isExpression)
      (kind : s'.parent.kind = .parenExpr) (up : WaysAlike move k path path') :
      WaysAlike move k path (s' :: path')

/-- Alike ways up that do not start with new parentheses. -/
inductive HangAlike (move : Span → Span) : List Step → List Step → Prop where
  | root : HangAlike move [] []
  | step {s s' : Step} {rest rest' : List Step} (role : s'.role = s.role)
      (parent : ParentAlike move s.parent s'.parent)
      (up : WaysAlike move s.parent.kind rest rest') : HangAlike move (s :: rest) (s' :: rest')

/-- Cursors at nodes that correspond to each other in alike trees. -/
structure Cursor.Twin (move : Span → Span) (c c' : Cursor) : Prop where
  node : CppIdioms.Twin move c.node c'.node
  path : WaysAlike move c.node.kind c.path c'.path

section Above

variable {move : Span → Span} {k : Kind} {path path' : List Step}

theorem Twin.parentAlike {n n' : Node} (h : Twin move n n') : ParentAlike move n n' :=
  ⟨h.kind, h.attrs, fun _ => h.children⟩

theorem WaysAlike.refl (k : Kind) (path : List Step) : WaysAlike id k path path := by
  induction path generalizing k with
  | nil => exact .root k
  | cons s rest ih => exact .step rfl (Twin.refl s.parent).parentAlike (ih _)

/-- Only expressions are put in parentheses. -/
theorem WaysAlike.hang (h : WaysAlike move k path path') (hk : k.isExpression = false) :
    HangAlike move path path' := by
  cases h with
  | root => exact .root
  | step role parent up => exact .step role parent up
  | parens expression _ _ => rw [hk] at expression; cases expression

/-- Above the wrappers around them, corresponding nodes hang alike. -/
theorem WaysAlike.climb (h : WaysAlike move k path path') (n n' : Node) :
    HangAlike move (Cursor.climbFrom n path).path (Cursor.climbFrom n' path').path := by
  induction h generalizing n n' with
  | root => exact .root
  | @step _ s s' _ _ role parent up ih =>
    rw [Cursor.climbFrom, Cursor.climbFrom, parent.kind]
    split
    · exact ih s.parent s'.parent
    · exact .step role parent up
  | @parens _ s' _ _ _ kind _ ih =>
    rw [Cursor.climbFrom.eq_2, kind]
    exact ih n s'.parent

theorem HangAlike.role (h : HangAlike move path path') :
    path'.head?.map (·.role) = path.head?.map (·.role) := by
  cases h with
  | root => rfl
  | step role _ _ => simp [role]

theorem HangAlike.parentKind (h : HangAlike move path path') :
    path'.head?.map (·.parent.kind) = path.head?.map (·.parent.kind) := by
  cases h with
  | root => rfl
  | step _ parent _ => simp [parent.kind]

/-- What is looked for along the ways up is found at ancestors that read alike. -/
theorem WaysAlike.findSome? {β : Type} {r : β → β → Prop} {f : Node → Option β}
    (hparens : ∀ n : Node, n.kind = .parenExpr → f n = none)
    (hf : ∀ p p', ParentAlike move p p' → Option.Rel r (f p) (f p'))
    (h : WaysAlike move k path path') :
    Option.Rel r ((path.map (·.parent)).findSome? f) ((path'.map (·.parent)).findSome? f) := by
  induction h with
  | root => exact .none
  | step role parent up ih =>
    rw [List.map_cons, List.map_cons, List.findSome?_cons, List.findSome?_cons]
    obtain ⟨hp, hp'⟩ | ⟨b, b', hp, hp', hb⟩ := rel_cases (hf _ _ parent)
    · rw [hp, hp']
      exact ih
    · rw [hp, hp']
      exact .some hb
  | parens _ kind _ ih =>
    rw [List.map_cons, List.findSome?_cons, hparens _ kind]
    exact ih

end Above

namespace Cursor.Twin

variable {move : Span → Span} {c c' : Cursor}

theorem refl (c : Cursor) : c.Twin id c := ⟨.refl c.node, .refl _ c.path⟩

theorem hang (h : c.Twin move c') (hk : c.node.kind.isExpression = false) :
    HangAlike move c.path c'.path :=
  h.path.hang hk

theorem climb (h : c.Twin move c') : HangAlike move c.climb.path c'.climb.path :=
  h.path.climb c.node c'.node

theorem role? (h : c.Twin move c') (hk : c.node.kind.isExpression = false) : c'.role? = c.role? :=
  (h.hang hk).role

theorem kind_parent? (h : c.Twin move c') (hk : c.node.kind.isExpression = false) :
    c'.parent?.map (·.kind) = c.parent?.map (·.kind) := by
  have hkinds := (h.hang hk).parentKind
  rwa [Cursor.parent?, Cursor.parent?, Option.map_map, Option.map_map]

/-- The nearest ancestors with a property that parentheses do not have. -/
theorem find?_ancestors (h : c.Twin move c') {p : Node → Bool}
    (hparens : ∀ n : Node, n.kind = .parenExpr → p n = false)
    (hp : ∀ q q', ParentAlike move q q' → p q' = p q) :
    Option.Rel (fun q q' => ParentAlike move q q' ∧ p q = true) (c.ancestors.find? p)
      (c'.ancestors.find? p) := by
  rw [List.find?_eq_findSome?_guard, List.find?_eq_findSome?_guard]
  refine h.path.findSome? (fun n hn => by simp [hparens n hn]) fun q q' hq => ?_
  cases hpq : p q with
  | true =>
    rw [Option.guard, Option.guard, hp q q' hq, if_pos hpq, if_pos hpq]
    exact .some ⟨hq, hpq⟩
  | false =>
    rw [Option.guard, Option.guard, hp q q' hq, if_neg (by simp [hpq]), if_neg (by simp [hpq])]
    exact .none

theorem any_ancestors (h : c.Twin move c') {p : Node → Bool}
    (hparens : ∀ n : Node, n.kind = .parenExpr → p n = false)
    (hp : ∀ q q', ParentAlike move q q' → p q' = p q) :
    c'.ancestors.any p = c.ancestors.any p := by
  rw [← List.isSome_find?, ← List.isSome_find?, isSome_eq_of_rel (h.find?_ancestors hparens hp)]

theorem nearest? (h : c.Twin move c') (kinds : List Kind)
    (hkinds : kinds.contains .parenExpr = false) :
    Option.Rel (fun q q' => ParentAlike move q q' ∧ kinds.contains q.kind = true)
      (c.nearest? kinds) (c'.nearest? kinds) :=
  h.find?_ancestors (fun n hn => by rw [hn, hkinds]) fun q q' hq => by rw [hq.kind]

theorem scope (h : c.Twin move c') (hk : c.node.kind.isExpression = false) :
    c'.scope = c.scope := by
  have hinside : Option.Rel Eq (c.ancestors.findSome? scopeInside?)
      (c'.ancestors.findSome? scopeInside?) := by
    refine h.path.findSome? (fun n hn => by simp [scopeInside?, hn, Kind.opensLocalScope]) ?_
    intro q q' hq
    have hsame : scopeInside? q' = scopeInside? q := by rw [scopeInside?, scopeInside?, hq.kind]
    exact rel_of_eq hsame.symm
  rw [Cursor.scope, Cursor.scope, h.node.kind, h.role? hk, eq_of_rel hinside]

end Cursor.Twin

end CppIdioms
