import CppIdioms.Proofs.Provenance
import CppIdioms.Proofs.WrapperRoles
import Mathlib.Logic.Relation

/-!
# What a loop body changes

A loop that copies its elements is left alone if its body changes the copy. The scan goes through all
nodes of the body and, at those that write, down from the target to the object that it is a part of.
Both ways are relations here: nodes below a node, and accesses from an expression to what it is a part
of. The scan finds exactly the writes whose accesses reach the variable.

A statement that is put into the body is one more place to look at. It takes no child away from a node
that the scan reads, so that what reached the variable still does.

## Contents

* `Node.HasChild`, `Node.Accesses`: one step down, and one step from a part to what it is a part of.
* `Node.ReachesName`, `Node.Writes`: accesses that end at a variable, and the target of a write.
* `AddsStatement`: a statement is put into a tree, or a block around it.
* `KeepsChanges`: a node in the place of another one, as far as the scan is concerned.

## Main statements

* `Node.designates_iff`: the variable that an expression designates is where its accesses end.
* `KeepsChanges.plug`, `KeepsChanges.foldl_plug`: one step up, and the whole way to the root.
* `modification_scan_is_reachability`: the scan, its end, and statements that are added.
-/

namespace CppIdioms

open CppIdioms.Rules Relation

namespace Node

variable {n m c d : Node} {name : String}

/-! ## §1 Nodes below a node -/

/-- A child of a node, under any role. -/
def HasChild (n c : Node) : Prop := ∃ role, (role, c) ∈ n.children

/-- A walk meets a node and all that is below it. -/
theorem mem_walk_iff : m ∈ n.walk ↔ ReflTransGen HasChild n m := by
  constructor
  · intro hm
    induction hsize : n.size using Nat.strongRecOn generalizing n with
    | ind size ih =>
      rw [walk_eq] at hm
      obtain rfl | hm := List.mem_cons.1 hm
      · exact .refl
      · obtain ⟨_, hmem, hm⟩ := List.mem_flatMap.1 hm
        obtain ⟨⟨role, c⟩, hc, rfl⟩ := List.mem_map.1 hmem
        exact .head ⟨role, hc⟩ (ih c.size (hsize ▸ size_child_lt hc) hm rfl)
  · intro hm
    induction hm using ReflTransGen.head_induction_on with
    | refl => exact m.self_mem_walk
    | head hchild _ ih =>
      obtain ⟨role, hc⟩ := hchild
      exact mem_walk_of_child hc ih

/-! ## §2 Accesses -/

/-- An expression designates a part of another one, or the same: the object of a member access or of a
subscript, or what is inside a wrapper. -/
inductive Accesses : Node → Node → Prop where
  | member {n c : Node} (kind : n.kind = .memberExpr) (base : n.child? "base" = some c) :
      Accesses n c
  | element {n c : Node} (kind : n.kind = .containerIndexExpr)
      (container : n.child? "container" = some c) : Accesses n c
  | wrapper {n c : Node} {role : String} (kind : n.kind.isWrapper)
      (only : n.children = [(role, c)]) : Accesses n c

/-- Accesses lead from the expression to a reference to the variable. -/
def ReachesName (n : Node) (name : String) : Prop :=
  ∃ d, ReflTransGen Accesses n d ∧ d.kind = .declRefExpr ∧ d.name? = some name

/-- The node that an expression accesses. -/
def access? (n : Node) : Option Node := n.wrapped?.or ((accessRole? n.kind).bind n.child?)

theorem wrapped?_eq_some_iff :
    n.wrapped? = some c ↔ n.kind.isWrapper ∧ ∃ role, n.children = [(role, c)] := by
  unfold wrapped? onlyChild?
  split
  · next hwrapper =>
    split
    · next role d hchildren => simp [hwrapper, hchildren]
    · next hchildren =>
      constructor
      · intro h
        cases h
      · rintro ⟨-, role, hc⟩
        exact absurd hc (hchildren role c)
  · next hwrapper => simp [hwrapper]

theorem wrapped?_eq_none_of_kind (h : ¬ n.kind.isWrapper) : n.wrapped? = none := if_neg h

theorem accesses_iff : Accesses n c ↔ n.access? = some c := by
  unfold access?
  rw [Option.or_eq_some_iff, wrapped?_eq_some_iff]
  constructor
  · rintro (⟨hkind, hbase⟩ | ⟨hkind, hcontainer⟩ | ⟨hkind, honly⟩)
    · exact .inr ⟨wrapped?_eq_none_of_kind (by rw [hkind]; decide), by rw [hkind]; exact hbase⟩
    · exact .inr ⟨wrapped?_eq_none_of_kind (by rw [hkind]; decide), by rw [hkind]; exact hcontainer⟩
    · exact .inl ⟨hkind, _, honly⟩
  · rintro (⟨hkind, role, honly⟩ | ⟨-, hchild⟩)
    · exact .wrapper hkind honly
    · obtain ⟨role, hrole, hchild⟩ := Option.bind_eq_some_iff.1 hchild
      unfold accessRole? at hrole
      split at hrole
      · next hkind => cases hrole; exact .member hkind hchild
      · next hkind => cases hrole; exact .element hkind hchild
      · cases hrole

/-- Every expression accesses one other at most. -/
theorem Accesses.unique (hc : Accesses n c) (hd : Accesses n d) : c = d :=
  Option.some.inj ((accesses_iff.1 hc).symm.trans (accesses_iff.1 hd))

theorem not_accesses (haccess : n.access? = none) (c : Node) : ¬ Accesses n c := by
  rw [accesses_iff, haccess]
  nofun

/-- Accesses from an expression stay there, or lead over the one that it accesses. -/
theorem eq_or_reaches (hstep : Accesses n c) (h : ReflTransGen Accesses n d) :
    d = n ∨ ReflTransGen Accesses c d := by
  obtain rfl | ⟨c', hc', hrest⟩ := ReflTransGen.cases_head h
  · exact .inl rfl
  · exact .inr (hstep.unique hc' ▸ hrest)

theorem eq_of_not_accesses (hend : ∀ c, ¬ Accesses n c) (h : ReflTransGen Accesses n d) : d = n := by
  obtain rfl | ⟨c, hc, -⟩ := ReflTransGen.cases_head h
  · rfl
  · exact absurd hc (hend c)

theorem Accesses.size_lt (h : Accesses n c) : c.size < n.size := by
  cases h with
  | member _ base => exact size_child?_lt base
  | element _ container => exact size_child?_lt container
  | wrapper _ only => exact size_child_lt (only ▸ List.mem_cons_self)

/-- Accesses are fewer than the nodes of a tree. -/
theorem length_lt_size_of_isChain {path : List Node} (h : (n :: path).IsChain Accesses) :
    path.length < n.size := by
  induction path generalizing n with
  | nil => exact n.size_pos
  | cons c path ih =>
    obtain ⟨hstep, hrest⟩ := List.isChain_cons_cons.1 h
    have hlt := hstep.size_lt
    have hlength := ih hrest
    rw [List.length_cons]
    omega

/-- Accesses end, at one node. -/
theorem existsUnique_end (n : Node) : ∃! d, ReflTransGen Accesses n d ∧ ∀ c, ¬ Accesses d c := by
  induction hsize : n.size using Nat.strongRecOn generalizing n with
  | ind size ih =>
    cases haccess : n.access? with
    | none =>
      have hend := not_accesses haccess
      exact ⟨n, ⟨.refl, hend⟩, fun d ⟨hd, _⟩ => eq_of_not_accesses hend hd⟩
    | some c =>
      have hstep : Accesses n c := accesses_iff.2 haccess
      obtain ⟨d, ⟨hd, hend⟩, hunique⟩ := ih c.size (hsize ▸ hstep.size_lt) c rfl
      refine ⟨d, ⟨.head hstep hd, hend⟩, fun e ⟨he, hende⟩ => ?_⟩
      obtain rfl | hrest := eq_or_reaches hstep he
      · exact absurd hstep (hende c)
      · exact hunique e ⟨hrest, hende⟩

/-- What an expression designates is what the one that it accesses designates. -/
theorem designates_eq (n : Node) (name : String) :
    n.designates name =
      match n.access? with
      | some c => c.designates name
      | none => n.kind == .declRefExpr && n.name? == some name := by
  unfold access?
  cases hwrapped : n.wrapped? with
  | some c =>
    have haccessed : n.accessed? = c.accessed? := by
      rw [accessed?_eq, accessed?_eq c, peel_of_wrapped?_eq_some hwrapped]
    simp only [designates, haccessed, Option.some_or]
  | none =>
    rw [designates, accessed?_eq, peel_of_wrapped?_eq_none hwrapped, Option.none_or]
    cases hrole : accessRole? n.kind with
    | none => rfl
    | some role =>
      cases hchild : n.child? role with
      | some c => simp [hchild, designates]
      | none =>
        have hkind : n.kind ≠ .declRefExpr := fun hkind => by simp [hkind, accessRole?] at hrole
        simp [hchild, hkind]

/-- The variable that an expression designates is where its accesses end. -/
theorem designates_iff : n.designates name = true ↔ n.ReachesName name := by
  unfold ReachesName
  induction hsize : n.size using Nat.strongRecOn generalizing n with
  | ind size ih =>
    rw [designates_eq]
    cases haccess : n.access? with
    | none =>
      simp only [Bool.and_eq_true, beq_iff_eq]
      constructor
      · rintro ⟨hkind, hname⟩
        exact ⟨n, .refl, hkind, hname⟩
      · rintro ⟨d, hd, hkind, hname⟩
        obtain rfl := eq_of_not_accesses (not_accesses haccess) hd
        exact ⟨hkind, hname⟩
    | some c =>
      have hstep : Accesses n c := accesses_iff.2 haccess
      rw [ih c.size (hsize ▸ hstep.size_lt) rfl]
      constructor
      · rintro ⟨d, hd, htarget⟩
        exact ⟨d, .head hstep hd, htarget⟩
      · rintro ⟨d, hd, hkind, hname⟩
        obtain rfl | hrest := eq_or_reaches hstep hd
        · -- A reference to a variable accesses nothing.
          simp [access?, wrapped?_eq_none_of_kind, hkind, Kind.isWrapper, accessRole?] at haccess
        · exact ⟨d, hrest, hkind, hname⟩

/-! ## §3 Writes -/

/-- Increments and decrements. -/
def stepKinds : List Kind :=
  [.preIncrementExpr, .preDecrementExpr, .postIncrementExpr, .postDecrementExpr]

/-- What a node writes to: the target of an assignment, the operand of an increment or decrement, the
object of a call that is not constant. -/
inductive Writes : Node → Node → Prop where
  | assignment {n target : Node} (kind : n.kind = .assignmentExpr)
      (lhs : n.child? "lhs" = some target) : Writes n target
  | step {n target : Node} (kind : n.kind ∈ stepKinds)
      (operand : n.child? "operand" = some target) : Writes n target
  | call {n target : Node} (kind : n.kind = .memberCallExpr)
      (changing : n.attr "const_method" = .bool false)
      (object : n.child? "object" = some target) : Writes n target

theorem denies_iff {key : String} : n.denies key = true ↔ n.attr key = .bool false := by
  unfold denies
  split
  · next h => simp [h]
  · next h => simpa using h

theorem writes_iff : Writes n m ↔ changedOperand? n = some m := by
  constructor
  · rintro (⟨hkind, hchild⟩ | ⟨hkind, hchild⟩ | ⟨hkind, hchanging, hchild⟩)
    · simp only [changedOperand?, hkind, hchild]
    · simp only [stepKinds, List.mem_cons, List.not_mem_nil, or_false] at hkind
      obtain hkind | hkind | hkind | hkind := hkind <;> simp only [changedOperand?, hkind, hchild]
    · simp only [changedOperand?, hkind, denies_iff.2 hchanging, hchild, if_true]
  · intro h
    unfold changedOperand? at h
    split at h
    · next hkind => exact .assignment hkind h
    · next hkind => exact .step (by simp [hkind, stepKinds]) h
    · next hkind => exact .step (by simp [hkind, stepKinds]) h
    · next hkind => exact .step (by simp [hkind, stepKinds]) h
    · next hkind => exact .step (by simp [hkind, stepKinds]) h
    · next hkind =>
      split at h
      · next hchanging => exact .call hkind (denies_iff.1 hchanging) h
      · cases h
    · cases h

theorem changes_iff : changes name n = true ↔ ∃ target, Writes n target ∧ target.ReachesName name := by
  unfold Rules.changes
  cases htarget : changedOperand? n with
  | none => simp [writes_iff, htarget]
  | some target => simp [writes_iff, htarget, designates_iff]

/-- What a node writes to is its first child under a role that depends on its kind and attributes. -/
theorem Writes.role (h : Writes n m) : ∃ role, n.child? role = some m ∧ ∀ n' m' : Node,
    n'.kind = n.kind → n'.attrs = n.attrs → n'.child? role = some m' → Writes n' m' := by
  cases h with
  | assignment kind lhs =>
    exact ⟨"lhs", lhs, fun n' m' hkind _ hchild => .assignment (hkind.trans kind) hchild⟩
  | step kind operand => exact ⟨"operand", operand, fun n' m' hkind _ hchild => .step (hkind ▸ kind) hchild⟩
  | call kind changing object =>
    exact ⟨"object", object, fun n' m' hkind hattrs hchild =>
      .call (hkind.trans kind) ((attr_congr hattrs _).trans changing) hchild⟩

/-! ## §4 Statements that are added -/

/-- The kinds of nodes whose children the scan reads by their roles or as the only one. -/
def readKinds : List Kind :=
  [.parenExpr, .implicitCastExpr, .memberExpr, .containerIndexExpr, .assignmentExpr, .memberCallExpr]
    ++ stepKinds

theorem Accesses.kind_mem (h : Accesses n c) : n.kind ∈ readKinds := by
  cases h with
  | member kind _ => simp [readKinds, kind]
  | element kind _ => simp [readKinds, kind]
  | wrapper kind _ =>
    simp only [Kind.isWrapper, Bool.or_eq_true, beq_iff_eq] at kind
    obtain kind | kind := kind <;> simp [readKinds, kind]

theorem Writes.kind_mem (h : Writes n m) : n.kind ∈ readKinds := by
  cases h with
  | assignment kind _ => simp [readKinds, kind]
  | step kind _ => exact List.mem_append_right _ kind
  | call kind _ _ => simp [readKinds, kind]

/-- The second tree is the first one with one statement more: put below a node whose children the scan
does not read, or beside the whole tree in a block around it. -/
inductive AddsStatement : Node → Node → Prop where
  | inserted {root statement : Node} {role : String} {c : Cursor} {before after : List (String × Node)}
      (place : c ∈ (Cursor.root root).walk) (unread : c.node.kind ∉ readKinds)
      (children : c.node.children = before ++ after) :
      AddsStatement root
        (c.replaceBy { c.node with children := before ++ (role, statement) :: after })
  | enclosed {root block : Node} (child : HasChild block root) : AddsStatement root block

end Node

/-- A node in the place of another one, on the way up to the root: it looks the same from outside,
designates what the other one does and has every change below it that the other one has. -/
structure KeepsChanges (n n' : Node) : Prop where
  kind : n'.kind = n.kind
  attrs : n'.attrs = n.attrs
  reaches : ∀ name, n.ReachesName name → n'.ReachesName name
  changes : ∀ name, n.walk.any (changes name) = true → n'.walk.any (changes name) = true

namespace KeepsChanges

open Node

variable {root parent n n' : Node} {role : String} {position : Nat} {path : List Step}

/-- A child below a node whose children the scan does not read. -/
theorem of_insert {before after : List (String × Node)} (unread : n.kind ∉ readKinds)
    (hchildren : n.children = before ++ after) (c : String × Node) :
    KeepsChanges n { n with children := before ++ c :: after } where
  kind := rfl
  attrs := rfl
  reaches := by
    rintro name ⟨d, hd, hkind, hname⟩
    obtain rfl | ⟨d', hd', -⟩ := ReflTransGen.cases_head hd
    · exact ⟨_, .refl, hkind, hname⟩
    · exact absurd hd'.kind_mem unread
  changes := by
    intro name h
    rw [any_walk, Bool.or_eq_true] at h ⊢
    obtain h | h := h
    · obtain ⟨target, hwrites, -⟩ := changes_iff.1 h
      exact absurd hwrites.kind_mem unread
    · right
      rw [hchildren, List.any_append, Bool.or_eq_true] at h
      rw [List.any_append, List.any_cons, Bool.or_eq_true, Bool.or_eq_true]
      exact h.imp_right .inr

/-- What the parent accesses is kept, or it is the child that has been replaced. -/
theorem accesses_plug (holds : parent.children[position]? = some (role, n)) {c : Node}
    (hc : Accesses parent c) (n' : Node) : Accesses (Step.plug ⟨parent, role, position⟩ n') c ∨
      (c = n ∧ Accesses (Step.plug ⟨parent, role, position⟩ n') n') := by
  cases hc with
  | member kind base =>
    obtain hsame | ⟨-, hn, hn'⟩ := Step.child?_plug holds n' "base"
    · exact .inl (.member kind (hsame.trans base))
    · exact .inr ⟨Option.some.inj (base.symm.trans hn), .member kind hn'⟩
  | element kind container =>
    obtain hsame | ⟨-, hn, hn'⟩ := Step.child?_plug holds n' "container"
    · exact .inl (.element kind (hsame.trans container))
    · exact .inr ⟨Option.some.inj (container.symm.trans hn), .element kind hn'⟩
  | wrapper kind only =>
    right
    rw [only] at holds
    cases position with
    | zero =>
      cases holds
      exact ⟨rfl, .wrapper kind (by rw [Step.plug, only, List.set_cons_zero])⟩
    | succ => cases holds

theorem reaches_plug (holds : parent.children[position]? = some (role, n)) (h : KeepsChanges n n')
    {name : String} (hreaches : parent.ReachesName name) :
    (Step.plug ⟨parent, role, position⟩ n').ReachesName name := by
  obtain ⟨d, hd, hkind, hname⟩ := hreaches
  obtain rfl | ⟨c, hc, hrest⟩ := ReflTransGen.cases_head hd
  · exact ⟨_, .refl, hkind, hname⟩
  · obtain hsame | ⟨rfl, hn'⟩ := accesses_plug holds hc n'
    · exact ⟨d, .head hsame hrest, hkind, hname⟩
    · obtain ⟨d', hd', hkind', hname'⟩ := h.reaches name ⟨d, hrest, hkind, hname⟩
      exact ⟨d', .head hn' hd', hkind', hname'⟩

/-- What the parent itself changes. -/
theorem changes_plug (holds : parent.children[position]? = some (role, n)) (h : KeepsChanges n n')
    {name : String} (hchanges : Rules.changes name parent = true) :
    Rules.changes name (Step.plug ⟨parent, role, position⟩ n') = true := by
  rw [changes_iff] at hchanges ⊢
  obtain ⟨target, hwrites, hreaches⟩ := hchanges
  obtain ⟨r, hchild, hrole⟩ := hwrites.role
  obtain hsame | ⟨-, hn, hn'⟩ := Step.child?_plug holds n' r
  · exact ⟨target, hrole _ _ rfl rfl (hsame.trans hchild), hreaches⟩
  · obtain rfl := Option.some.inj (hchild.symm.trans hn)
    exact ⟨n', hrole _ _ rfl rfl hn', h.reaches name hreaches⟩

/-- One step up. -/
theorem plug (holds : parent.children[position]? = some (role, n)) (h : KeepsChanges n n') :
    KeepsChanges parent (Step.plug ⟨parent, role, position⟩ n') where
  kind := rfl
  attrs := rfl
  reaches _ hreaches := h.reaches_plug holds hreaches
  changes := by
    intro name hchanges
    rw [any_walk, Bool.or_eq_true] at hchanges ⊢
    refine hchanges.imp (h.changes_plug holds) fun hbelow => ?_
    obtain ⟨c, hc, hchanges⟩ := List.any_eq_true.1 hbelow
    obtain ⟨i, hi⟩ := List.mem_iff_getElem?.1 hc
    rw [List.any_eq_true]
    by_cases hposition : position = i
    · subst hposition
      obtain rfl := Option.some.inj (hi.symm.trans holds)
      have hlt := (List.getElem?_eq_some_iff.1 holds).1
      exact ⟨(role, n'), List.mem_set hlt _, h.changes name hchanges⟩
    · refine ⟨c, List.mem_iff_getElem?.2 ⟨i, ?_⟩, hchanges⟩
      rw [Step.plug, List.getElem?_set_ne hposition, hi]

/-- The whole way to the root. -/
theorem foldl_plug (hleads : Leads root n path) (h : KeepsChanges n n') :
    KeepsChanges root (path.foldl (fun below s => s.plug below) n') := by
  induction hleads generalizing n' with
  | here => exact h
  | up holds _ ih => exact ih (h.plug holds)

end KeepsChanges

/-- A statement that is added hides no change. -/
theorem Node.AddsStatement.any_changes {b b' : Node} (h : AddsStatement b b') {name : String}
    (hchanges : b.walk.any (changes name) = true) : b'.walk.any (changes name) = true := by
  cases h with
  | inserted place unread children =>
    have hleads := Cursor.mem_walk_root.1 place
    exact ((KeepsChanges.of_insert unread children _).foldl_plug hleads).changes name hchanges
  | enclosed child =>
    obtain ⟨role, hchild⟩ := child
    obtain ⟨n, hn, hn'⟩ := List.any_eq_true.1 hchanges
    exact List.any_eq_true.2 ⟨n, Node.mem_walk_of_child hchild hn, hn'⟩

/-! ## §5 The scan -/

open Node

/-- If the binding does not state whether it is modified, the scan of a body says so exactly if some
node of the body writes to an expression whose accesses reach the name. The accesses from any expression
end: they are fewer than its nodes and stop at one node. Statements that are added to a body never make
the scan forget a change. -/
theorem modification_scan_is_reachability (binding : Node)
    (hdeclared : binding.attr "is_modified" = .null) (name : String) :
    (∀ body : Option Node, isModified binding body name = true ↔
      ∃ b, body = some b ∧ ∃ n, ReflTransGen HasChild b n ∧
        ∃ target, Writes n target ∧ target.ReachesName name) ∧
    (∀ n : Node, (∀ path, (n :: path).IsChain Accesses → path.length < n.size) ∧
      ∃! d, ReflTransGen Accesses n d ∧ ∀ c, ¬ Accesses d c) ∧
    ∀ b b', ReflTransGen AddsStatement b b' → isModified binding (some b) name = true →
      isModified binding (some b') name = true := by
  have hscan : ∀ b : Node, isModified binding (some b) name = b.walk.any (changes name) := by
    intro b
    rw [isModified, hdeclared]
  refine ⟨fun body => ?_, fun n => ⟨fun _ => length_lt_size_of_isChain, existsUnique_end n⟩, ?_⟩
  · cases body with
    | none => simp [isModified, hdeclared]
    | some b =>
      rw [hscan, List.any_eq_true]
      simp only [mem_walk_iff, changes_iff, Option.some.injEq, exists_eq_left']
  · intro b b' hadds hmodified
    rw [hscan] at hmodified ⊢
    induction hadds with
    | refl => exact hmodified
    | tail _ hstep ih => exact hstep.any_changes ih

/-- A write to `(items[0]).size` in a block changes `items`, and still does when another statement comes
before it. -/
theorem modification_of_member_of_element :
    let place : Span := ⟨"a.cpp", 2, 5, 2, 9⟩
    let items : Node := ⟨.declRefExpr, place, [(.str "name", .str "items")], []⟩
    let element : Node := ⟨.containerIndexExpr, place, [], [("index", items), ("container", items)]⟩
    let target : Node := ⟨.memberExpr, place, [], [("base", ⟨.parenExpr, place, [], [("inner", element)]⟩)]⟩
    let write : Node := ⟨.assignmentExpr, place, [], [("lhs", target), ("rhs", items)]⟩
    let binding : Node := ⟨.variableDecl, place, [(.str "name", .str "items")], []⟩
    let block (statements : List (String × Node)) : Node := ⟨.compoundStatement, place, [], statements⟩
    isModified binding (some (block [("body", write)])) "items" = true ∧
      isModified binding (some (block [("body", items), ("body", write)])) "items" = true := by
  intro place items element target write binding block
  obtain ⟨hscan, -, hadds⟩ := modification_scan_is_reachability binding rfl "items"
  have hreaches : target.ReachesName "items" :=
    ⟨items, .head (.member rfl rfl) (.head (.wrapper rfl rfl) (.single (.element rfl rfl))), rfl, rfl⟩
  have hwrite : isModified binding (some (block [("body", write)])) "items" = true :=
    (hscan _).2 ⟨_, rfl, write, .single ⟨"body", List.mem_cons_self⟩, target, .assignment rfl rfl, hreaches⟩
  have hinserted : AddsStatement (block [("body", write)]) (block [("body", items), ("body", write)]) :=
    @AddsStatement.inserted _ _ _ (Cursor.root (block [("body", write)])) [] [("body", write)]
      (Cursor.mem_walk_root.2 .here) (by decide) rfl
  exact ⟨hwrite, hadds _ _ (.single hinserted) hwrite⟩

end CppIdioms
