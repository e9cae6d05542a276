import CppIdioms.Proofs.Insensitivity
import CppIdioms.Proofs.Preorder

/-!
# Postfix operators between commas

Whether the value of a postfix operator is used is decided from the operator upwards: over wrappers, and
over commas as long as it stands on their right. Seen from the top, a tree of commas has its postfix
operators as leaves, and only the rightmost of them hands its value on to what the tree hangs from. All
other values are discarded, whatever the tree looks like and wherever it stands.

## Contents

* `Node.isComma`, `Cursor.outer?`: commas, and the step above the wrappers around a node.
* `IsObjectPostfix`, `CommaTree`: postfix operators on objects, and trees of commas with such leaves.
* `Discards`: the places where a value is discarded.
* `Reported`: a finding at a postfix operator.

## Main statements

* `isDiscarded_of_wrapper`, `isDiscarded_of_lhs`, `isDiscarded_of_rhs`: one step down.
* `CommaTree.isDiscarded`: all leaves of a tree.
* `comma_leaves_reported`: what the rule reports in a tree of commas.
-/

namespace CppIdioms

open CppIdioms.Rules

/-! ## §1 Trees of commas -/

/-- The node is a comma operator. -/
def Node.isComma (n : Node) : Bool := n.kind == .binaryOperator && (n.attr "operator").isText ","

/-- The step above the wrappers around a node. -/
def Cursor.outer? (c : Cursor) : Option Step := c.climb.path.head?

/-- The node is a postfix operator, the operand in its wrappers has a known type, and that is a class or
a reference to one. -/
structure IsObjectPostfix (n object : Node) (t : CppType) : Prop where
  kind : n.kind = .postIncrementExpr ∨ n.kind = .postDecrementExpr
  operand : n.peeled? "operand" = some object
  known : object.knownType = .ok (some t)
  isClass : t.referent.isClass = true

/-- A tree of commas with its leaves from left to right. Wrappers may stand anywhere between them. -/
inductive CommaTree : Cursor → List Cursor → Prop where
  | leaf {c : Cursor} {object : Node} {t : CppType} (operator : IsObjectPostfix c.node object t) :
      CommaTree c [c]
  | wrapped {c d : Cursor} {leaves : List Cursor} (kind : c.node.kind.isWrapper)
      (only : c.children = [d]) (inner : CommaTree d leaves) : CommaTree c leaves
  | comma {c l r : Cursor} {left right : List Cursor} (kind : c.node.isComma) (hl : l ∈ c.children)
      (lhs : l.role? = some "lhs") (hr : r ∈ c.children) (rhs : r.role? = some "rhs")
      (before : CommaTree l left) (after : CommaTree r right) : CommaTree c (left ++ right)

/-- What hangs from this step, wrappers aside, has its value discarded: it is a statement, the increment
part of a loop or the operand of a cast to void. -/
inductive Discards (s : Step) : Prop where
  | statement (kind : s.parent.kind = .exprStatement)
  | increment (kind : s.parent.kind = .forStatement) (role : s.role = "increment")
  | voidCast {t : CppType} (kind : s.parent.kind = .cStyleCastExpr)
      (type : s.parent.typeAt "type" = .ok (some t)) (void : t.base = "void")

/-! ## §2 From a node to its children -/

section Steps

variable {c d : Cursor}

theorem isDiscarded_of_wrapper (hkind : c.node.kind.isWrapper) (hd : d ∈ c.children) :
    isDiscarded d = isDiscarded c := by
  obtain ⟨role, position, -, hpath⟩ := Cursor.mem_children.1 hd
  have hclimb : d.climb = c.climb := by
    rw [Cursor.climb, hpath, Cursor.climbFrom, if_pos hkind, Cursor.climb]
  rw [isDiscarded_eq, isDiscarded_eq c, hclimb]

/-- Below a comma the side decides. -/
theorem isDiscarded_of_comma (hkind : c.node.isComma) (hd : d ∈ c.children) :
    isDiscarded d = if d.role? = some "lhs" then .ok true else isDiscarded c := by
  obtain ⟨role, position, -, hpath⟩ := Cursor.mem_children.1 hd
  obtain ⟨hbinary, hoperator⟩ := Bool.and_eq_true_iff.1 hkind
  have hbinary' : c.node.kind = .binaryOperator := eq_of_beq hbinary
  have hclimb : d.climb.path = ⟨c.node, role, position⟩ :: c.path := by
    rw [Cursor.climb, hpath, Cursor.climbFrom, if_neg (by simp [hbinary', Kind.isWrapper])]
  have hrole : d.role? = some role := by rw [Cursor.role?, hpath]; rfl
  rw [isDiscarded_eq, hclimb, hrole]
  simp [hbinary', hoperator]

theorem isDiscarded_of_lhs (hkind : c.node.isComma) (hd : d ∈ c.children)
    (hrole : d.role? = some "lhs") : isDiscarded d = .ok true := by
  rw [isDiscarded_of_comma hkind hd, if_pos hrole]

theorem isDiscarded_of_rhs (hkind : c.node.isComma) (hd : d ∈ c.children)
    (hrole : d.role? = some "rhs") : isDiscarded d = isDiscarded c := by
  rw [isDiscarded_of_comma hkind hd, if_neg (by rw [hrole]; decide)]

/-- What hangs from no comma has its value discarded in three places, if the types there are readable. -/
theorem isDiscarded_of_outer (houter : ∀ s ∈ c.outer?, s.parent.isComma = false ∧
      (s.parent.kind = .cStyleCastExpr → ∃ t, s.parent.typeAt "type" = .ok t)) :
    ∃ b, isDiscarded c = .ok b ∧ (b = true ↔ ∃ s ∈ c.outer?, Discards s) := by
  rw [isDiscarded_eq]
  unfold Cursor.outer? at houter ⊢
  cases hpath : c.climb.path with
  | nil => exact ⟨false, rfl, by simp⟩
  | cons s rest =>
    rw [hpath, List.head?_cons] at houter
    obtain ⟨hcomma, htype⟩ := houter s rfl
    have hcomma' : ¬ (s.parent.kind = .binaryOperator && (s.parent.attr "operator").isText ",") := by
      simpa [Node.isComma] using hcomma
    simp only [List.head?_cons, Option.mem_some_iff, exists_eq_left', if_neg hcomma']
    split
    · next hkind => exact ⟨true, rfl, by simp [Discards.statement hkind]⟩
    · next hstatement =>
      split
      · next hkind =>
        refine ⟨s.role == "increment", rfl, ?_⟩
        rw [beq_iff_eq]
        refine ⟨.increment hkind, ?_⟩
        rintro (hkind' | ⟨-, hrole⟩ | ⟨hkind', -, -⟩)
        · exact absurd hkind' hstatement
        · exact hrole
        · simp [hkind] at hkind'
      · next hfor =>
        split
        · next hkind =>
          obtain ⟨t, ht⟩ := htype hkind
          refine ⟨t.map (·.base) == some "void", by rw [ht]; rfl, ?_⟩
          rw [beq_iff_eq, Option.map_eq_some_iff]
          constructor
          · rintro ⟨t, rfl, hvoid⟩
            exact .voidCast hkind ht hvoid
          · rintro (hkind' | ⟨hkind', -⟩ | ⟨-, ht', hvoid⟩)
            · exact absurd hkind' hstatement
            · exact absurd hkind' hfor
            · exact ⟨_, Except.ok.inj (ht.symm.trans ht'), hvoid⟩
        · next hcast =>
          refine ⟨false, rfl, ?_⟩
          simp only [Bool.false_eq_true, false_iff]
          rintro (hkind' | ⟨hkind', -⟩ | ⟨hkind', -, -⟩)
          · exact hstatement hkind'
          · exact hfor hkind'
          · exact hcast hkind'

end Steps

/-! ## §3 From the top to the leaves -/

namespace CommaTree

variable {c : Cursor} {leaves : List Cursor}

/-- All leaves but the last have their value discarded, and the last one hands it on. -/
theorem isDiscarded (h : CommaTree c leaves) : ∃ front last, leaves = front ++ [last] ∧
    (∀ l ∈ front, Rules.isDiscarded l = .ok true) ∧ Rules.isDiscarded last = Rules.isDiscarded c := by
  induction h with
  | leaf => exact ⟨[], _, rfl, by simp, rfl⟩
  | wrapped kind only _ ih =>
    obtain ⟨front, last, rfl, hfront, hlast⟩ := ih
    exact ⟨front, last, rfl, hfront, hlast.trans (isDiscarded_of_wrapper kind (only ▸ List.mem_cons_self))⟩
  | @comma c l r left right kind hl lhs hr rhs _ _ ihl ihr =>
    obtain ⟨front, last, rfl, hfront, hlast⟩ := ihl
    obtain ⟨front', last', rfl, hfront', hlast'⟩ := ihr
    rw [isDiscarded_of_lhs kind hl lhs] at hlast
    rw [isDiscarded_of_rhs kind hr rhs] at hlast'
    refine ⟨front ++ [last] ++ front', last', by simp, fun d hd => ?_, hlast'⟩
    simp only [List.mem_append, List.mem_singleton] at hd
    obtain (hd | rfl) | hd := hd
    · exact hfront d hd
    · exact hlast
    · exact hfront' d hd

/-- A walk that meets the top of the tree meets its leaves. -/
theorem mem_preorder (h : CommaTree c leaves) {start : Cursor} (hc : c ∈ start.preorder) :
    ∀ l ∈ leaves, l ∈ start.preorder := by
  induction h with
  | leaf => simpa using hc
  | wrapped _ only _ ih => exact ih (Cursor.mem_preorder_of_mem_children hc (only ▸ List.mem_cons_self))
  | comma _ hl _ hr _ _ _ ihl ihr =>
    intro d hd
    exact (List.mem_append.1 hd).elim (ihl (Cursor.mem_preorder_of_mem_children hc hl) d)
      (ihr (Cursor.mem_preorder_of_mem_children hc hr) d)

/-- The way up from a leaf leads over the top of the tree. -/
theorem suffix_path (h : CommaTree c leaves) : ∀ l ∈ leaves, c.path <:+ l.path := by
  have hchild : ∀ {c d : Cursor}, d ∈ c.children → c.path <:+ d.path := by
    intro c d hd
    obtain ⟨_, _, -, hpath⟩ := Cursor.mem_children.1 hd
    exact hpath ▸ List.suffix_cons _ _
  induction h with
  | leaf => simp
  | wrapped _ only _ ih =>
    exact fun l hl => (hchild (only ▸ List.mem_cons_self)).trans (ih l hl)
  | comma _ hl _ hr _ _ _ ihl ihr =>
    intro d hd
    exact (List.mem_append.1 hd).elim (fun hd => (hchild hl).trans (ihl d hd))
      fun hd => (hchild hr).trans (ihr d hd)

/-- No leaf is met twice: the ways up from the two sides of a comma go through different roles. -/
theorem nodup (h : CommaTree c leaves) : leaves.Nodup := by
  induction h with
  | leaf => simp
  | wrapped _ _ _ ih => exact ih
  | @comma c l r left right _ hl lhs hr rhs before after ihl ihr =>
    refine List.nodup_append.2 ⟨ihl, ihr, fun d hd e he heq => ?_⟩
    subst heq
    obtain ⟨role, position, -, hpath⟩ := Cursor.mem_children.1 hl
    obtain ⟨role', position', -, hpath'⟩ := Cursor.mem_children.1 hr
    have hlength : l.path.length = r.path.length := by rw [hpath, hpath']; rfl
    have hsame : l.path = r.path :=
      (List.suffix_of_suffix_length_le (before.suffix_path d hd) (after.suffix_path d he)
        (Nat.le_of_eq hlength)).eq_of_length hlength
    rw [Cursor.role?, hsame, ← Cursor.role?, rhs] at lhs
    exact absurd lhs (by decide)

theorem exists_operator (h : CommaTree c leaves) :
    ∀ l ∈ leaves, ∃ object t, IsObjectPostfix l.node object t := by
  induction h with
  | leaf operator => simpa using ⟨_, _, operator⟩
  | wrapped _ _ _ ih => exact ih
  | comma _ _ _ _ _ _ _ ihl ihr =>
    intro d hd
    exact (List.mem_append.1 hd).elim (ihl d) (ihr d)

end CommaTree

/-! ## §4 What is reported -/

/-- What the rule says about a postfix operator on an object. -/
def postfixMessage (n object : Node) (t : CppType) : String :=
  let operator := if n.kind = .postIncrementExpr then "++" else "--"
  let verb := if n.kind = .postIncrementExpr then "increment" else "decrement"
  let name := object.called "text" "operand"
  "post-" ++ verb ++ " of '" ++ name ++ "' (" ++ t.referent.spelling
    ++ ") copies a value that is never used; write '" ++ operator ++ name ++ "'"

/-- The rule reports the postfix operator, with its operand and the type of that. -/
def Reported (c : Cursor) : Prop := ∃ object t, IsObjectPostfix c.node object t ∧
  discardedPostfix.inspect c = .ok [discardedPostfixRule.finding c.node (postfixMessage c.node object t)]

section Inspection

variable {c : Cursor} {object : Node} {t : CppType}

theorem inspect_of_isDiscarded (h : IsObjectPostfix c.node object t) {b : Bool}
    (hdiscarded : isDiscarded c = .ok b) : discardedPostfix.inspect c = .ok
      (if b then [discardedPostfixRule.finding c.node (postfixMessage c.node object t)] else []) := by
  simp only [discardedPostfix, h.operand, h.known, hdiscarded, bind, Except.bind, h.isClass]
  cases b <;> rfl

theorem IsObjectPostfix.reported (h : IsObjectPostfix c.node object t)
    (hdiscarded : isDiscarded c = .ok true) : Reported c :=
  ⟨object, t, h, inspect_of_isDiscarded h hdiscarded⟩

end Inspection

/-- A tree of commas that is no part of a larger one, with postfix operators on objects as its leaves, all
of them different nodes. Where the value of the tree is discarded, each of them is reported; in every
other place, all but the last are, and nothing is said about the last. -/
theorem comma_leaves_reported {c : Cursor} {leaves : List Cursor} (h : CommaTree c leaves)
    (houter : ∀ s ∈ c.outer?, s.parent.isComma = false ∧
      (s.parent.kind = .cStyleCastExpr → ∃ t, s.parent.typeAt "type" = .ok t)) :
    leaves.Nodup ∧
    (∀ root, c ∈ (Cursor.root root).walk → ∀ l ∈ leaves, l ∈ (Cursor.root root).walk) ∧
    ((∃ s ∈ c.outer?, Discards s) → ∀ l ∈ leaves, Reported l) ∧
    ((∀ s ∈ c.outer?, ¬ Discards s) → ∃ front last, leaves = front ++ [last] ∧
      (∀ l ∈ front, Reported l) ∧ discardedPostfix.inspect last = .ok []) := by
  obtain ⟨front, last, rfl, hfront, hlast⟩ := h.isDiscarded
  obtain ⟨b, hdiscarded, hb⟩ := isDiscarded_of_outer houter
  have hreported : ∀ l ∈ front ++ [last], isDiscarded l = .ok true → Reported l := by
    intro l hl hdiscarded
    obtain ⟨object, t, hoperator⟩ := h.exists_operator l hl
    exact hoperator.reported hdiscarded
  refine ⟨h.nodup, fun root hc => ?_, fun houter => ?_, fun hused => ?_⟩
  · rw [Cursor.walk_eq_preorder] at hc ⊢
    exact h.mem_preorder hc
  · rw [hb.2 houter] at hdiscarded
    intro l hl
    refine hreported l hl ?_
    obtain hl | hl := List.mem_append.1 hl
    · exact hfront l hl
    · rw [List.mem_singleton.1 hl, hlast, hdiscarded]
  · refine ⟨front, last, rfl, fun l hl => hreported l (List.mem_append_left _ hl) (hfront l hl), ?_⟩
    obtain ⟨object, t, hoperator⟩ := h.exists_operator last (by simp)
    have hfalse : b = false := Bool.eq_false_iff.2 fun htrue =>
      (hb.1 htrue).elim fun s hs => hused s hs.1 hs.2
    rw [hfalse] at hdiscarded
    exact inspect_of_isDiscarded hoperator (hlast.trans hdiscarded)

/-- Three postfix operators in `a++, (b--, c++)`: as a statement all are reported, and when the value is
returned all but the last. -/
theorem comma_leaves_of_statement_and_return :
    let place : Span := ⟨"a.cpp", 3, 3, 3, 9⟩
    let type : Value := .map [(.str "spelling", .str "Iter"), (.str "category", .str "class")]
    let object (name : String) : Node :=
      ⟨.declRefExpr, place, [(.str "name", .str name), (.str "type", type)], []⟩
    let operator (kind : Kind) (name : String) : Node := ⟨kind, place, [], [("operand", object name)]⟩
    let comma (lhs rhs : Node) : Node :=
      ⟨.binaryOperator, place, [(.str "operator", .str ",")], [("lhs", lhs), ("rhs", rhs)]⟩
    let inner := comma (operator .postDecrementExpr "b") (operator .postIncrementExpr "c")
    let wrapper : Node := ⟨.parenExpr, place, [], [("operand", inner)]⟩
    let outer := comma (operator .postIncrementExpr "a") wrapper
    let first (s : Step) : Cursor := ⟨operator .postIncrementExpr "a", [⟨outer, "lhs", 0⟩, s]⟩
    let way (s : Step) : List Step := [⟨wrapper, "operand", 0⟩, ⟨outer, "rhs", 1⟩, s]
    let second (s : Step) : Cursor := ⟨operator .postDecrementExpr "b", ⟨inner, "lhs", 0⟩ :: way s⟩
    let third (s : Step) : Cursor := ⟨operator .postIncrementExpr "c", ⟨inner, "rhs", 1⟩ :: way s⟩
    let below (kind : Kind) : Step := ⟨⟨kind, place, [], [("expr", outer)]⟩, "expr", 0⟩
    (∀ l ∈ [first, second, third], Reported (l (below .exprStatement))) ∧
      Reported (first (below .returnStatement)) ∧ Reported (second (below .returnStatement)) ∧
      discardedPostfix.inspect (third (below .returnStatement)) = .ok [] := by
  intro place type object operator comma inner wrapper outer first way second third below
  have hknown : ∀ name, (object name).knownType = .ok (some ⟨"Iter", .record, none, false, none⟩) := by
    intro name
    rw [Node.knownType_eq, Node.typeAt, Node.typeOf, show (object name).attr "type" = type from rfl,
      CppType.ofValue]
    rfl
  have hoperator : ∀ kind name, kind = .postIncrementExpr ∨ kind = .postDecrementExpr →
      IsObjectPostfix (operator kind name) (object name) ⟨"Iter", .record, none, false, none⟩ := by
    intro kind name hkind
    have hpeeled : (operator kind name).peeled? "operand" = some (object name) :=
      congrArg some (Node.peel_of_wrapped?_eq_none rfl)
    exact ⟨hkind, hpeeled, hknown name, rfl⟩
  have htree : ∀ s, CommaTree ⟨outer, [s]⟩ ([first s] ++ ([second s] ++ [third s])) := by
    intro s
    have ha := hoperator .postIncrementExpr "a" (.inl rfl)
    have hb := hoperator .postDecrementExpr "b" (.inr rfl)
    have hc := hoperator .postIncrementExpr "c" (.inl rfl)
    have hinner : CommaTree ⟨inner, way s⟩ ([second s] ++ [third s]) :=
      .comma rfl List.mem_cons_self rfl (.tail _ List.mem_cons_self) rfl (.leaf hb) (.leaf hc)
    have hwrapped : CommaTree ⟨wrapper, [⟨outer, "rhs", 1⟩, s]⟩ ([second s] ++ [third s]) :=
      .wrapped rfl rfl hinner
    exact .comma rfl List.mem_cons_self rfl (.tail _ List.mem_cons_self) rfl (.leaf ha) hwrapped
  have hstatement := comma_leaves_reported (htree (below .exprStatement)) (by
    rintro s ⟨⟩
    exact ⟨rfl, fun hcast => absurd hcast (by decide)⟩)
  have hreturn := comma_leaves_reported (htree (below .returnStatement)) (by
    rintro s ⟨⟩
    exact ⟨rfl, fun hcast => absurd hcast (by decide)⟩)
  obtain ⟨-, -, hall, -⟩ := hstatement
  obtain ⟨-, -, -, hlast⟩ := hreturn
  have hreported := hall ⟨_, rfl, .statement rfl⟩
  obtain ⟨front, last, hleaves, hfront, hnothing⟩ := hlast (by
    rintro s ⟨⟩ (hkind | ⟨hkind, -⟩ | ⟨hkind, -, -⟩) <;> cases hkind)
  obtain ⟨rfl, hthird⟩ := List.append_inj' (hleaves.symm.trans (List.append_assoc ..).symm) rfl
  obtain rfl := List.singleton_inj.1 hthird
  refine ⟨?_, hfront _ (by simp), hfront _ (by simp), hnothing⟩
  simp only [List.forall_mem_cons, List.not_mem_nil, false_implies, implies_true, and_true]
  exact ⟨hreported _ (by simp), hreported _ (by simp), hreported _ (by simp)⟩

end CppIdioms
