import CppIdioms.Proofs.IntegerLiterals
import CppIdioms.Proofs.Modification
import CppIdioms.Rule.EmptinessTest

/-!
# Comparisons of sizes with zero

A comparison has a truth value once every container has a size. The comparisons that the rule reports are
between the size of one container and a literal that is zero, and their operator fits the side on which
the size stands: they are true for the empty container only, or for all others only. So is the question
that the rule suggests in their place.

## Contents

* `zeroSpellings`: what the rule takes for zero, suffixes aside.
* `Node.Counts`, `Node.Holds`: what operands count and whether comparisons hold, given the sizes.
* `ComparesSize`, `ComparesSizeOf`: comparisons of sizes with other operands.

## Main statements

* `literalValue_of_isZero`: what is taken for zero is zero.
* `sizeComparison_eq_some_iff`, `exists_comparesSizeOf`: what comparisons are found and reported.
* `emptiness_test_keeps_truth`: the comparison and the question always have the same truth value.
-/

namespace CppIdioms

open CppIdioms.Text CppIdioms.Literal CppIdioms.Rules

/-! ## §1 Zeros -/

/-- The spellings of zero that the rule knows. -/
def zeroSpellings : List (List Char) := ["0".toList, "0x0".toList, "00".toList]

/-- Behind what is left there is nothing but the suffix. -/
theorem exists_suffix (p : Char → Bool) (cs : List Char) :
    ∃ suffix, (∀ c ∈ suffix, p c = true) ∧ cs = dropEndWhile p cs ++ suffix := by
  refine ⟨cs.rtakeWhile p, fun c hc => List.mem_rtakeWhile_imp hc, ?_⟩
  rw [dropEndWhile_eq_rdropWhile, List.rdropWhile_append_rtakeWhile]

theorem isZero_iff {n : Node} : isZero n = true ↔ n.kind = .literal ∧
    n.attrOr "literal_kind" (.str "integer") = .str "integer" ∧
    dropEndWhile isIntegerSuffix (n.attr "value").text.toList ∈ zeroSpellings := by
  have hspelling (cs : List Char) :
      ["0", "0x0", "00"].contains (String.ofList cs) = true ↔ cs ∈ zeroSpellings := by
    simp [zeroSpellings, ← String.toList_inj]
  rw [isZero, Bool.and_eq_true, Bool.and_eq_true, beq_iff_eq, Value.isText_iff, hspelling, and_assoc]
  rfl

/-- Every spelling of zero that the rule knows is one of an integer literal, with any suffix. -/
theorem exists_zero_literal {spelling suffix : List Char} (h : spelling ∈ zeroSpellings)
    (hsuffix : ∀ c ∈ suffix, isIntegerSuffix c = true) :
    ∃ a : IntegerLiteral, a.text = spelling ++ suffix ∧ a.IsReadable ∧ a.value = 0 := by
  have hmem : ∀ c ∈ suffix, c ∈ "uUlLzZ".toList := fun c hc => List.contains_iff_mem.1 (hsuffix c hc)
  simp only [zeroSpellings, List.mem_cons, List.not_mem_nil, or_false] at h
  obtain rfl | rfl | rfl := h
  · let a : IntegerLiteral :=
      { base := .octal, mark := [], digits := ['0'], body := ['0'], suffix, mark_mem := by decide
        numeral := by decide, begins := by rintro _ ⟨⟩; rfl, separated := .last '0', suffix_mem := hmem }
    exact ⟨a, rfl, nofun, (by decide : numeralValue 8 ['0'] = 0)⟩
  · let a : IntegerLiteral :=
      { base := .hexadecimal, mark := ['0', 'x'], digits := ['0'], body := ['0'], suffix
        mark_mem := by decide, numeral := by decide, begins := fun _ _ => trivial
        separated := .last '0', suffix_mem := hmem }
    exact ⟨a, rfl, nofun, (by decide : numeralValue 16 ['0'] = 0)⟩
  · let a : IntegerLiteral :=
      { base := .octal, mark := [], digits := ['0', '0'], body := ['0', '0'], suffix
        mark_mem := by decide, numeral := by decide, begins := by rintro _ ⟨⟩; rfl
        separated := .next '0' (.last '0'), suffix_mem := hmem }
    exact ⟨a, rfl, nofun, (by decide : numeralValue 8 ['0', '0'] = 0)⟩

theorem textValue_zero {cs : List Char} (h : dropEndWhile isIntegerSuffix cs ∈ zeroSpellings) :
    textValue false (trim cs) = .number 0 := by
  obtain ⟨suffix, hsuffix, hcs⟩ := exists_suffix isIntegerSuffix cs
  obtain ⟨a, htext, hreadable, hvalue⟩ := exists_zero_literal h hsuffix
  have htrim : trim cs = a.text := by
    rw [hcs, ← htext]
    simpa using @trim_between [] a.text [] nofun nofun a.solid_text
  rw [htrim, a.textValue_text, IntegerLiteral.constant_of_isReadable hreadable, hvalue]
  rfl

/-- The decimal digits of such a spelling are zeros. -/
theorem decimalNat_zero {spelling suffix : List Char} (h : spelling ∈ zeroSpellings)
    (hsuffix : ∀ c ∈ suffix, isIntegerSuffix c = true) : decimalNat (spelling ++ suffix) = 0 := by
  have hletters : ∀ c ∈ "uUlLzZ".toList, digitValue? c = none := forall_mem_of_all (by decide)
  have hnone : suffix.filterMap digitValue? = [] := List.filterMap_eq_nil_iff.2 fun c hc =>
    hletters c (List.contains_iff_mem.1 (hsuffix c hc))
  have hspelling : ∀ spelling ∈ zeroSpellings, decimalNat spelling = 0 := by decide
  rw [decimalNat, List.filterMap_append, hnone, List.append_nil]
  exact hspelling spelling h

/-- A printed number that is spelled like zero is zero. -/
theorem eq_zero_of_spelling {i : Int}
    (h : dropEndWhile isIntegerSuffix (toString i).toList ∈ zeroSpellings) : i = 0 := by
  obtain ⟨suffix, hsuffix, hprinted⟩ := exists_suffix isIntegerSuffix (toString i).toList
  cases i with
  | ofNat n =>
    have hdigits : (toString (Int.ofNat n)).toList = Nat.toDigits 10 n := toList_toString n
    have hzero : n = 0 := by
      rw [← decimalNat_toDigits n, ← hdigits, hprinted]
      exact decimalNat_zero h hsuffix
    rw [hzero]
    rfl
  | negSucc n =>
    have hhead : ∀ spelling ∈ zeroSpellings, spelling.head? = some '0' := by decide
    have hminus : (toString (Int.negSucc n)).toList.head? = some '-' := by
      rw [show toString (Int.negSucc n) = "-" ++ toString (n + 1) from rfl, String.toList_append]
      rfl
    rw [hprinted, List.head?_append, hhead _ h] at hminus
    exact absurd (Option.some.inj hminus) (by decide)

/-- A stored value that is not the default itself is seen with and without it. -/
theorem Node.attr_eq_or_null (n : Node) (key : String) (default : Value) :
    n.attr key = n.attrOr key default ∨ n.attr key = .null := by
  rw [Node.attr, Entries.find, Node.attrOr]
  cases Entries.get? key n.attrs with
  | none => exact .inr rfl
  | some v => exact .inl rfl

theorem not_character_of_integer {n : Node}
    (h : n.attrOr "literal_kind" (.str "integer") = .str "integer") :
    (n.attr "literal_kind").isText "character" = false := by
  obtain hattr | hattr := n.attr_eq_or_null "literal_kind" (.str "integer")
  · rw [hattr, h]
    decide
  · rw [hattr]
    rfl

/-- What is taken for zero is zero. -/
theorem literalValue_of_isZero {n : Node} (h : isZero n = true) : literalValue n = .number 0 := by
  obtain ⟨-, hkind, hspelling⟩ := isZero_iff.1 h
  unfold literalValue
  split
  · next b hb =>
    rw [hb] at hspelling
    exact absurd hspelling (by cases b <;> decide)
  · next i hi =>
    rw [hi] at hspelling
    rw [eq_zero_of_spelling hspelling]
  · rw [not_character_of_integer hkind, textValue_zero hspelling]

/-! ## §2 Comparisons with zero -/

/-- A call without arguments of a method that gives the size. -/
structure Node.IsSizeCall (n : Node) : Prop where
  kind : n.kind = .memberCallExpr
  method : ∃ name ∈ ["size", "length"], n.attr "method" = .str name
  noArguments : n.childrenOf "arguments" = []

theorem isSizeCall_iff {n : Node} : isSizeCall n = .ok true ↔ n.IsSizeCall := by
  rw [isSizeCall]
  constructor
  · intro h
    split at h
    · cases h
    · next hkind =>
      obtain ⟨named, hnamed, h⟩ := exists_of_bind_eq_ok h
      obtain ⟨rfl, hnone⟩ := Bool.and_eq_true_iff.1 (Except.ok.inj h)
      exact ⟨not_not.1 hkind, Value.among_eq_true_iff.1 hnamed, List.isEmpty_iff.1 hnone⟩
  · rintro ⟨hkind, hmethod, hnone⟩
    rw [if_neg (not_not.2 hkind), Value.among_eq_true_iff.2 hmethod, hnone]
    rfl

theorem isSizeCall_of_literal {n : Node} (h : n.kind = .literal) : isSizeCall n = .ok false := by
  have hkind : n.kind ≠ .memberCallExpr := by
    rw [h]
    decide
  rw [isSizeCall, if_pos hkind]
  rfl

/-- One of the two operands is a call of a size: that one, the other one, and whether the call is the left
one of them. -/
inductive SizeOperands (lhs rhs : Node) : Node → Node → Bool → Prop where
  | left (call : lhs.IsSizeCall) : SizeOperands lhs rhs lhs rhs true
  | right (call : rhs.IsSizeCall) : SizeOperands lhs rhs rhs lhs false

theorem sizeSide_eq_some_iff {lhs rhs call : Node} {onLeft : Bool} :
    sizeSide lhs rhs = .ok (some (call, onLeft)) ↔
      ∃ other, SizeOperands lhs rhs call other onLeft ∧ isZero other = true := by
  rw [sizeSide]
  constructor
  · intro h
    obtain ⟨left, hleft, h⟩ := exists_of_bind_eq_ok h
    split at h
    · next hboth =>
      obtain ⟨rfl, hzero⟩ := Bool.and_eq_true_iff.1 hboth
      cases h
      exact ⟨rhs, .left (isSizeCall_iff.1 hleft), hzero⟩
    · obtain ⟨right, hright, h⟩ := exists_of_bind_eq_ok h
      split at h
      · next hboth =>
        obtain ⟨rfl, hzero⟩ := Bool.and_eq_true_iff.1 hboth
        cases h
        exact ⟨lhs, .right (isSizeCall_iff.1 hright), hzero⟩
      · cases h
  · rintro ⟨other, ⟨hcall⟩ | ⟨hcall⟩, hzero⟩
    · rw [isSizeCall_iff.2 hcall, hzero]
      rfl
    · rw [isSizeCall_of_literal (isZero_iff.1 hzero).1, isSizeCall_iff.2 hcall, hzero]
      rfl

/-- Where the other operand is a literal that is not taken for zero, nothing is found. -/
theorem SizeOperands.sizeSide_eq_none {lhs rhs call other : Node} {onLeft : Bool}
    (h : SizeOperands lhs rhs call other onLeft) (hliteral : other.kind = .literal)
    (hzero : isZero other = false) : sizeSide lhs rhs = .ok none := by
  have hother := isSizeCall_of_literal hliteral
  have hcall {call : Node} (h : call.IsSizeCall) : isZero call = false := by
    refine Bool.eq_false_iff.2 fun hzero => ?_
    cases h.kind.symm.trans (isZero_iff.1 hzero).1
  cases h with
  | left h =>
    rw [sizeSide, isSizeCall_iff.2 h, hother, hzero, hcall h]
    rfl
  | right h =>
    rw [sizeSide, isSizeCall_iff.2 h, hother, hzero, hcall h]
    rfl

/-- The node compares a size with another operand, by an operator that asks for emptiness where the other
operand is zero. -/
structure ComparesSize (n : Node) (s : SizeComparison) (other : Node) : Prop where
  operands : ∃ lhs rhs, n.peeled? "lhs" = some lhs ∧ n.peeled? "rhs" = some rhs ∧
    SizeOperands lhs rhs s.call other s.sizeOnLeft
  operator : n.attr "operator" = .str s.operator
  asks : asksEmpty? s.operator s.sizeOnLeft = some s.asksEmpty

theorem sizeComparison_eq_some_iff {n : Node} {s : SizeComparison} :
    sizeComparison n = .ok (some s) ↔ ∃ other, ComparesSize n s other ∧ isZero other = true := by
  rw [sizeComparison]
  constructor
  · intro h
    split at h
    · next lhs rhs hlhs hrhs =>
      obtain ⟨side, hside, h⟩ := exists_of_bind_eq_ok h
      split at h
      · cases h
      · next call onLeft =>
        split at h
        · next operator hoperator =>
          obtain ⟨asks, hasks, rfl⟩ := Option.map_eq_some_iff.1 (Except.ok.inj h)
          obtain ⟨other, hoperands, hzero⟩ := sizeSide_eq_some_iff.1 hside
          exact ⟨other, ⟨⟨lhs, rhs, hlhs, hrhs, hoperands⟩, hoperator, hasks⟩, hzero⟩
        · split at h <;> cases h
    · cases h
  · rintro ⟨other, ⟨⟨lhs, rhs, hlhs, hrhs, hoperands⟩, hoperator, hasks⟩, hzero⟩
    have hside := sizeSide_eq_some_iff.2 ⟨other, hoperands, hzero⟩
    simp only [hlhs, hrhs, hside, hoperator, bind, Except.bind, hasks]
    rfl

theorem ComparesSize.sizeComparison_eq_none {n other : Node} {s : SizeComparison}
    (h : ComparesSize n s other) (hliteral : other.kind = .literal) (hzero : isZero other = false) :
    sizeComparison n = .ok none := by
  obtain ⟨lhs, rhs, hlhs, hrhs, hoperands⟩ := h.operands
  rw [sizeComparison]
  simp only [hlhs, hrhs, hoperands.sizeSide_eq_none hliteral hzero]
  rfl

/-! ## §3 What is reported -/

/-- The size is that of an object of class type. -/
structure ComparesSizeOf (n : Node) (s : SizeComparison) (owner other : Node) : Prop where
  compares : ComparesSize n s other
  object : s.call.peeled? "object" = some owner
  known : ∃ t, owner.knownType = .ok (some t) ∧ t.referent.isClass = true

/-- What is said of a comparison, with the container called `label`. -/
def emptinessMessage (s : SizeComparison) (label : String) : String :=
  "'" ++ s.written label ++ "' tests for emptiness; use '" ++ s.replacement label ++ "'"

section Inspection

variable {c : Cursor} {s : SizeComparison} {owner other : Node}

theorem ComparesSizeOf.inspect_eq (h : ComparesSizeOf c.node s owner other)
    (hzero : isZero other = true) : emptinessTest.inspect c =
      .ok [emptinessTestRule.finding c.node (emptinessMessage s (owner.called "text" "container"))] := by
  obtain ⟨t, hknown, hclass⟩ := h.known
  have hfound := sizeComparison_eq_some_iff.2 ⟨other, h.compares, hzero⟩
  simp only [emptinessTest, hfound, h.object, hknown, bind, Except.bind, hclass]
  rfl

/-- A size compared with a literal that is not taken for zero is not reported. -/
theorem ComparesSizeOf.inspect_eq_nil (h : ComparesSizeOf c.node s owner other)
    (hliteral : other.kind = .literal) (hzero : isZero other = false) :
    emptinessTest.inspect c = .ok [] := by
  simp only [emptinessTest, h.compares.sizeComparison_eq_none hliteral hzero]
  rfl

/-- Whatever is reported is about a size that is compared with zero. -/
theorem exists_comparesSizeOf {findings : List Finding} {f : Finding}
    (h : emptinessTest.inspect c = .ok findings) (hf : f ∈ findings) :
    ∃ s owner other, ComparesSizeOf c.node s owner other ∧ isZero other = true ∧
      f = emptinessTestRule.finding c.node (emptinessMessage s (owner.called "text" "container")) := by
  dsimp only [emptinessTest] at h
  obtain ⟨comparison, hcomparison, h⟩ := exists_of_bind_eq_ok h
  cases comparison with
  | none =>
    cases h
    cases hf
  | some s =>
    dsimp only at h
    split at h
    · cases h
      cases hf
    · next owner hobject =>
      obtain ⟨known, hknown, h⟩ := exists_of_bind_eq_ok h
      cases known with
      | none =>
        cases h
        cases hf
      | some t =>
        cases hclass : t.referent.isClass with
        | false =>
          simp only [hclass] at h
          cases h
          cases hf
        | true =>
          simp only [hclass] at h
          cases h
          obtain ⟨other, hcompares, hzero⟩ := sizeComparison_eq_some_iff.1 hcomparison
          exact ⟨s, owner, other, ⟨hcompares, hobject, t, hknown, hclass⟩, hzero, List.mem_singleton.1 hf⟩

end Inspection

/-! ## §4 Truth values -/

/-- The comparisons by their operators. -/
def comparison? : String → Option (Int → Int → Bool)
  | "==" => some fun x y => decide (x = y)
  | "!=" => some fun x y => decide (x ≠ y)
  | "<" => some fun x y => decide (x < y)
  | "<=" => some fun x y => decide (x ≤ y)
  | ">" => some fun x y => decide (y < x)
  | ">=" => some fun x y => decide (y ≤ x)
  | _ => none

/-- The number that an operand stands for when each container has the given size: parentheses and
conversions around an operand keep it. -/
inductive Node.Counts (sizes : Node → Nat) : Node → Int → Prop where
  | wrapped {n inner : Node} {v : Int} (h : n.wrapped? = some inner) (counts : inner.Counts sizes v) :
    n.Counts sizes v
  | literal {n : Node} {v : Int} (kind : n.kind = .literal) (value : literalValue n = .number v) :
    n.Counts sizes v
  | size {n owner : Node} (call : n.IsSizeCall) (object : n.peeled? "object" = some owner) :
    n.Counts sizes (sizes owner)

/-- The comparison that the node is has a truth value when each container has the given size. -/
inductive Node.Holds (sizes : Node → Nat) (n : Node) : Bool → Prop where
  | intro {operator : String} {lhs rhs : Node} {compare : Int → Int → Bool} {x y : Int}
    (hoperator : n.attr "operator" = .str operator) (hcompare : comparison? operator = some compare)
    (hlhs : n.child? "lhs" = some lhs) (hrhs : n.child? "rhs" = some rhs)
    (left : lhs.Counts sizes x) (right : rhs.Counts sizes y) : n.Holds sizes (compare x y)

/-- The truth value of what the rule suggests, for a container of the given size. -/
def Rules.SizeComparison.suggests (s : SizeComparison) (size : Nat) : Bool :=
  if s.asksEmpty then decide (size = 0) else !decide (size = 0)

section Truth

variable {sizes : Node → Nat} {n owner : Node} {v : Int}

theorem Node.wrapped?_of_literal (h : n.kind = .literal) : n.wrapped? = none :=
  wrapped?_eq_none_of_kind (by rw [h]; decide)

theorem Node.IsSizeCall.wrapped? (h : n.IsSizeCall) : n.wrapped? = none :=
  wrapped?_eq_none_of_kind (by rw [h.kind]; decide)

/-- What is inside its wrappers stands for the number that the operand stands for. -/
theorem Node.counts_peel_iff : n.peel.Counts sizes v ↔ n.Counts sizes v := by
  constructor
  · intro h
    fun_induction peel n with
    | case1 n hwrapper inner hinner ih =>
      exact .wrapped (by rw [wrapped?, if_pos hwrapper, hinner]) (ih h)
    | case2 => exact h
    | case3 => exact h
  · intro h
    induction h with
    | wrapped hinner _ ih => rwa [peel_of_wrapped?_eq_some hinner]
    | literal hkind hvalue =>
      rw [peel_of_wrapped?_eq_none (wrapped?_of_literal hkind)]
      exact .literal hkind hvalue
    | size hcall hobject =>
      rw [peel_of_wrapped?_eq_none hcall.wrapped?]
      exact .size hcall hobject

theorem Node.IsSizeCall.counts_iff (h : n.IsSizeCall) (hobject : n.peeled? "object" = some owner) :
    n.Counts sizes v ↔ v = sizes owner := by
  constructor
  · intro hcounts
    cases hcounts with
    | wrapped hinner =>
      rw [h.wrapped?] at hinner
      cases hinner
    | literal hkind => cases h.kind.symm.trans hkind
    | size _ hobject' =>
      cases hobject.symm.trans hobject'
      rfl
  · rintro rfl
    exact .size h hobject

theorem counts_zero_iff (h : isZero n = true) : n.Counts sizes v ↔ v = 0 := by
  have hkind := (isZero_iff.1 h).1
  have hvalue := literalValue_of_isZero h
  constructor
  · intro hcounts
    cases hcounts with
    | wrapped hinner =>
      rw [Node.wrapped?_of_literal hkind] at hinner
      cases hinner
    | literal _ hvalue' =>
      cases hvalue.symm.trans hvalue'
      rfl
    | size hcall => cases hkind.symm.trans hcall.kind
  · rintro rfl
    exact .literal hkind hvalue

/-- If the operands stand for one number each, the comparison has one truth value. -/
theorem Node.holds_iff_of_counts {operator : String} {compare : Int → Int → Bool} {lhs rhs : Node}
    {x y : Int} (hoperator : n.attr "operator" = .str operator)
    (hcompare : comparison? operator = some compare) (hlhs : n.peeled? "lhs" = some lhs)
    (hrhs : n.peeled? "rhs" = some rhs) (left : ∀ {v}, lhs.Counts sizes v ↔ v = x)
    (right : ∀ {v}, rhs.Counts sizes v ↔ v = y) {b : Bool} : n.Holds sizes b ↔ b = compare x y := by
  obtain ⟨l, hl, rfl⟩ := Option.map_eq_some_iff.1 hlhs
  obtain ⟨r, hr, rfl⟩ := Option.map_eq_some_iff.1 hrhs
  constructor
  · rintro ⟨hoperator', hcompare', hl', hr', hleft, hright⟩
    cases hoperator.symm.trans hoperator'
    cases hcompare.symm.trans hcompare'
    cases hl.symm.trans hl'
    cases hr.symm.trans hr'
    rw [left.1 (counts_peel_iff.2 hleft), right.1 (counts_peel_iff.2 hright)]
  · rintro rfl
    exact ⟨hoperator, hcompare, hl, hr, counts_peel_iff.1 (left.2 rfl), counts_peel_iff.1 (right.2 rfl)⟩

/-- With the size on its side of zero, the operator compares as the suggestion says. -/
theorem suggests_of_asksEmpty? {s : SizeComparison}
    (h : asksEmpty? s.operator s.sizeOnLeft = some s.asksEmpty) : ∃ compare,
      comparison? s.operator = some compare ∧ ∀ size : Nat,
        (if s.sizeOnLeft then compare size 0 else compare 0 size) = s.suggests size := by
  obtain ⟨call, operator, onLeft, asks⟩ := s
  dsimp only at h ⊢
  unfold asksEmpty? at h
  split at h
  · cases h
    exact ⟨_, rfl, fun size => by cases onLeft <;> simp [SizeComparison.suggests, eq_comm]⟩
  · cases h
    exact ⟨_, rfl, fun size => by cases onLeft <;> simp [SizeComparison.suggests, eq_comm]⟩
  · cases h
    exact ⟨_, rfl, fun size => by simp [SizeComparison.suggests, Nat.pos_iff_ne_zero]⟩
  · cases h
    exact ⟨_, rfl, fun size => by simp [SizeComparison.suggests, Nat.pos_iff_ne_zero]⟩
  · cases h

/-- A comparison with zero has the truth value of what is suggested for the size of the container. -/
theorem ComparesSizeOf.holds_iff {s : SizeComparison} {other : Node}
    (h : ComparesSizeOf n s owner other) (hzero : isZero other = true) {b : Bool} :
    n.Holds sizes b ↔ b = s.suggests (sizes owner) := by
  obtain ⟨⟨⟨lhs, rhs, hlhs, hrhs, hoperands⟩, hoperator, hasks⟩, hobject, -⟩ := h
  obtain ⟨compare, hcompare, htruth⟩ := suggests_of_asksEmpty? hasks
  rw [← htruth (sizes owner)]
  obtain ⟨call, operator, onLeft, asks⟩ := s
  dsimp only at hoperands hobject hoperator hcompare ⊢
  cases hoperands with
  | left hcall =>
    exact Node.holds_iff_of_counts hoperator hcompare hlhs hrhs (hcall.counts_iff hobject)
      (counts_zero_iff hzero)
  | right hcall =>
    exact Node.holds_iff_of_counts hoperator hcompare hlhs hrhs (counts_zero_iff hzero)
      (hcall.counts_iff hobject)

/-- The suggestion is true for some sizes and false for others. -/
theorem exists_suggests (s : SizeComparison) (b : Bool) : ∃ size, s.suggests size = b := by
  refine ⟨if s.asksEmpty = b then 0 else 1, ?_⟩
  rw [SizeComparison.suggests]
  cases s.asksEmpty <;> cases b <;> rfl

end Truth

/-- A comparison that is reported compares the size of one container with a literal of value zero, and the
message suggests a question about this container. Whatever sizes containers have, the comparison has the
truth value that the question has for the size of this one; and for either truth value there is a size
which gives it. -/
theorem emptiness_test_keeps_truth {c : Cursor} {findings : List Finding} {f : Finding}
    (h : emptinessTest.inspect c = .ok findings) (hf : f ∈ findings) :
    ∃ s owner other, ComparesSizeOf c.node s owner other ∧ literalValue other = .number 0 ∧
      f = emptinessTestRule.finding c.node (emptinessMessage s (owner.called "text" "container")) ∧
      (∀ sizes b, c.node.Holds sizes b ↔ b = s.suggests (sizes owner)) ∧
      ∀ b, ∃ size, ∀ sizes : Node → Nat, sizes owner = size → c.node.Holds sizes b := by
  obtain ⟨s, owner, other, hcompares, hzero, hreport⟩ := exists_comparesSizeOf h hf
  refine ⟨s, owner, other, hcompares, literalValue_of_isZero hzero, hreport,
    fun sizes b => hcompares.holds_iff hzero, fun b => ?_⟩
  obtain ⟨size, hsize⟩ := exists_suggests s b
  refine ⟨size, fun sizes howner => (hcompares.holds_iff hzero).2 ?_⟩
  rw [howner, hsize]

/-- Zero on the left, in hexadecimal digits and with a suffix, and less than the size in parentheses. -/
theorem size_above_hexadecimal_zero :
    let place : Span := ⟨"a.cpp", 3, 7, 3, 24⟩
    let owner : Node := ⟨.declRefExpr, place, [(.str "name", .str "c"),
      (.str "type", .map [(.str "spelling", .str "Bag"), (.str "category", .str "class")])], []⟩
    let call : Node := ⟨.memberCallExpr, place, [(.str "method", .str "size")], [("object", owner)]⟩
    let zero : Node := ⟨.literal, place, [(.str "value", .str "0x0u")], []⟩
    let n : Node := ⟨.binaryOperator, place, [(.str "operator", .str "<")],
      [("lhs", zero), ("rhs", ⟨.parenExpr, place, [], [("operand", call)]⟩)]⟩
    let finding := emptinessTestRule.finding n "'0 < c.size()' tests for emptiness; use '!c.empty()'"
    emptinessTest.inspect (.root n) = .ok [finding] ∧
      ∀ sizes b, n.Holds sizes b ↔ b = !decide (sizes owner = 0) := by
  intro place owner call zero n finding
  have hreported : emptinessTest.inspect (.root n) = .ok [finding] := by decide +kernel
  obtain ⟨s, owner', other, hfound, -, -, hholds, -⟩ :=
    emptiness_test_keeps_truth hreported List.mem_cons_self
  have hlhs : n.peeled? "lhs" = some zero := congrArg some (Node.peel_of_wrapped?_eq_none rfl)
  have hrhs : n.peeled? "rhs" = some call := congrArg some
    ((Node.peel_of_wrapped?_eq_some rfl).trans (Node.peel_of_wrapped?_eq_none rfl))
  have hobject : call.peeled? "object" = some owner := congrArg some (Node.peel_of_wrapped?_eq_none rfl)
  obtain ⟨⟨⟨lhs, rhs, hlhs', hrhs', hoperands⟩, hoperator, hasks⟩, hobject', -⟩ := hfound
  obtain ⟨call', operator, onLeft, asks⟩ := s
  dsimp only at hoperands hoperator hasks hobject'
  cases hlhs.symm.trans hlhs'
  cases hrhs.symm.trans hrhs'
  cases hoperands with
  | left hcall => cases hcall.kind
  | right hcall =>
    cases hobject.symm.trans hobject'
    obtain rfl : "<" = operator := Value.str.inj hoperator
    obtain rfl : false = asks := Option.some.inj hasks
    exact ⟨hreported, hholds⟩

end CppIdioms
