import CppIdioms.Proofs.SizeComparisons

/-!
# Spellings of zero

An integer literal is zero if all its digits are, however many there are, in whatever radix and with
whatever separators and suffix. The rule about sizes knows three ways to write the digits and the mark of
their radix. It never takes another number for zero, and of the comparisons of a size with an integer
literal it reports those in which zero is written in one of the three ways.

## Contents

* `Node.HoldsInteger`: literals of integer kind by the text that they hold.

## Main statements

* `IntegerLiteral.value_eq_zero_iff`: the value is zero exactly if all digits are.
* `zero_spellings_recognised_iff`: what literals are recognised as zero, and what is reported of them.
-/

namespace CppIdioms

open CppIdioms.Text CppIdioms.Literal CppIdioms.Rules

/-! ## §1 Literals -/

namespace Literal

theorem digitNumber_eq_zero_iff : ∀ d ∈ digitLetters, digitNumber d = 0 ↔ d = '0' :=
  forall_mem_of_all (by decide)

theorem IntegerLiteral.value_eq_zero_iff (a : IntegerLiteral) :
    a.value = 0 ↔ ∀ d ∈ a.digits, d = '0' := by
  have hradix : a.base.radix ≠ 0 := by cases a.base <;> decide
  rw [value, numeralValue]
  constructor
  · intro h d hd
    have hzero := Nat.digits_zero_of_eq_zero hradix h (digitNumber d)
      (List.mem_reverse.2 (List.mem_map_of_mem hd))
    exact (digitNumber_eq_zero_iff d (a.numeral.letters d hd)).1 hzero
  · intro h
    have hzeros : ∀ k ∈ (a.digits.map digitNumber).reverse, k = 0 := fun k hk => by
      obtain ⟨d, hd, rfl⟩ := List.mem_map.1 (List.mem_reverse.1 hk)
      rw [h d hd]
      decide
    rw [List.eq_replicate_of_mem hzeros, Nat.ofDigits_replicate_zero]

/-- A literal with too many decimal digits is not zero, since the first of them is not. So the constant
of a literal is zero exactly if its value is. -/
theorem IntegerLiteral.constant_eq_zero_iff (a : IntegerLiteral) :
    a.constant = .number 0 ↔ a.value = 0 := by
  by_cases hreadable : a.IsReadable
  · rw [constant_of_isReadable hreadable]
    simp
  · have hdecimal : a.base = .decimal := by
      by_contra hother
      exact hreadable fun h => absurd h hother
    obtain ⟨d, ds, hdigits⟩ := List.exists_cons_of_ne_nil a.numeral.nonempty
    have hfirst : a.base.Begins d := a.begins d (by rw [hdigits]; rfl)
    rw [hdecimal] at hfirst
    have hne : a.value ≠ 0 := fun hzero =>
      hfirst (a.value_eq_zero_iff.1 hzero d (by rw [hdigits]; exact List.mem_cons_self))
    rw [constant_of_not_isReadable hreadable]
    simp [hne]

end Literal

/-- The node is a literal of an integer kind, and its value is the text of the literal. -/
structure Node.HoldsInteger (n : Node) (a : IntegerLiteral) : Prop where
  kind : n.kind = .literal
  value : n.attr "value" = .str (String.ofList a.text)
  integer : n.attrOr "literal_kind" (.str "integer") = .str "integer"

namespace Node.HoldsInteger

variable {n : Node} {a : IntegerLiteral}

theorem spellsInteger (h : n.HoldsInteger a) : n.SpellsInteger a where
  kind := h.kind
  value := ⟨[], [], nofun, nofun, by simpa using h.value⟩
  integer := fun hcharacter => by
    have hkind := not_character_of_integer h.integer
    rw [hcharacter] at hkind
    cases hkind

/-- The literal is taken for zero exactly if it is spelled in one of the known ways, its suffix aside. -/
theorem isZero_iff (h : n.HoldsInteger a) : isZero n = true ↔ a.mark ++ a.body ∈ zeroSpellings := by
  have hspelling : dropEndWhile isIntegerSuffix (n.attr "value").text.toList = a.mark ++ a.body := by
    rw [h.value, Value.text, String.toList_ofList, a.dropEndWhile_text]
  rw [CppIdioms.isZero_iff, hspelling]
  simp [h.kind, h.integer]

end Node.HoldsInteger

/-! ## §2 Comparisons -/

/-- Whatever is reported of a comparison with a literal takes the literal for zero. -/
theorem isZero_of_mem {c : Cursor} {n : Node} {findings : List Finding} {f : Finding}
    (hside : c.node.peeled? "lhs" = some n ∨ c.node.peeled? "rhs" = some n)
    (hliteral : n.kind = .literal) (h : emptinessTest.inspect c = .ok findings) (hf : f ∈ findings) :
    isZero n = true := by
  obtain ⟨s, owner, other, ⟨⟨⟨lhs, rhs, hlhs, hrhs, hoperands⟩, -, -⟩, -, -⟩, hzero, -⟩ :=
    exists_comparesSizeOf h hf
  rw [hlhs, hrhs] at hside
  have hnot {call : Node} (hcall : call.IsSizeCall) : call ≠ n := by
    rintro rfl
    cases hcall.kind.symm.trans hliteral
  suffices n = other by rwa [this]
  generalize s.call = call, s.sizeOnLeft = onLeft at hoperands
  cases hoperands with
  | left hcall =>
    obtain hl | hr := hside
    · exact absurd (Option.some.inj hl) (hnot hcall)
    · exact (Option.some.inj hr).symm
  | right hcall =>
    obtain hl | hr := hside
    · exact (Option.some.inj hl).symm
    · exact absurd (Option.some.inj hr) (hnot hcall)

/-- The value of an integer literal is zero exactly if all its digits are. The literal is taken for zero
exactly if it is spelled in one of the known ways, its suffix aside, and then its value is zero. So the two
agree on the literal exactly if it is spelled so or its value is not zero. A size that is compared with the
literal, by an operator that asks for emptiness, is reported if the literal is spelled so and not
otherwise; and nothing is reported of any comparison with a literal whose value is not zero. -/
theorem zero_spellings_recognised_iff (a : IntegerLiteral) {n : Node} (h : n.HoldsInteger a) :
    let known := a.mark ++ a.body ∈ zeroSpellings
    literalValue n = a.constant ∧ (a.value = 0 ↔ ∀ d ∈ a.digits, d = '0') ∧
      (isZero n = true ↔ known) ∧ (isZero n = true → literalValue n = .number 0) ∧
      ((isZero n = true ↔ literalValue n = .number 0) ↔ (a.value = 0 → known)) ∧
      (∀ c s owner, ComparesSizeOf c.node s owner n → emptinessTest.inspect c = .ok (if known then
        [emptinessTestRule.finding c.node (emptinessMessage s (owner.called "text" "container"))] else [])) ∧
      (a.value ≠ 0 → ∀ c findings, emptinessTest.inspect c = .ok findings →
        c.node.peeled? "lhs" = some n ∨ c.node.peeled? "rhs" = some n → findings = []) := by
  intro known
  have hvalue : literalValue n = a.constant := h.spellsInteger.literalValue_eq
  have hnumber : literalValue n = .number 0 ↔ a.value = 0 := by
    rw [hvalue]
    exact a.constant_eq_zero_iff
  have hzero : isZero n = true ↔ known := h.isZero_iff
  have hsound : isZero n = true → literalValue n = .number 0 := literalValue_of_isZero
  refine ⟨hvalue, a.value_eq_zero_iff, hzero, hsound, ?_, fun c s owner hc => ?_,
    fun hne c findings hc hside => ?_⟩
  · rw [← hzero, ← hnumber]
    exact ⟨fun hiff => hiff.2, fun hfound => ⟨hsound, hfound⟩⟩
  · split
    · next hknown => exact hc.inspect_eq (hzero.2 hknown)
    · next hunknown =>
      exact hc.inspect_eq_nil h.kind (Bool.eq_false_iff.2 fun hknown => hunknown (hzero.1 hknown))
  · refine List.eq_nil_iff_forall_not_mem.2 fun f hf => ?_
    exact hne (hnumber.1 (hsound (isZero_of_mem hside h.kind hc hf)))

/-- An integer literal by its text. -/
def integerNode (text : String) : Node :=
  ⟨.literal, ⟨"a.cpp", 3, 19, 3, 23⟩,
    [(.str "literal_kind", .str "integer"), (.str "value", .str text)], []⟩

/-- A container, and the call of its size. -/
def bagNode : Node :=
  ⟨.declRefExpr, ⟨"a.cpp", 3, 7, 3, 8⟩, [(.str "name", .str "c"),
    (.str "type", .map [(.str "spelling", .str "Bag"), (.str "category", .str "class")])], []⟩

@[inherit_doc bagNode]
def bagSize : Node :=
  ⟨.memberCallExpr, ⟨"a.cpp", 3, 7, 3, 15⟩, [(.str "method", .str "size")], [("object", bagNode)]⟩

/-- The comparison of the size with an integer literal. -/
def bagSizeEquals (text : String) : Node :=
  ⟨.binaryOperator, ⟨"a.cpp", 3, 7, 3, 23⟩, [(.str "operator", .str "==")],
    [("lhs", bagSize), ("rhs", integerNode text)]⟩

theorem comparesSizeOf_bagSizeEquals (text : String) :
    ComparesSizeOf (bagSizeEquals text) ⟨bagSize, "==", true, true⟩ bagNode (integerNode text) where
  compares :=
    { operands := ⟨bagSize, integerNode text, congrArg some (Node.peel_of_wrapped?_eq_none rfl),
        congrArg some (Node.peel_of_wrapped?_eq_none rfl), .left ⟨rfl, ⟨"size", by decide, rfl⟩, rfl⟩⟩
      operator := rfl
      asks := rfl }
  object := congrArg some (Node.peel_of_wrapped?_eq_none rfl)
  known := by
    refine ⟨⟨"Bag", .record, none, false, none⟩, ?_, rfl⟩
    rw [Node.knownType_eq, Node.typeAt, Node.typeOf, show bagNode.attr "type" =
      .map [(.str "spelling", .str "Bag"), (.str "category", .str "class")] from rfl, CppType.ofValue]
    rfl

/-- Two zeros and a suffix are known. -/
theorem size_equals_two_zeros :
    emptinessTest.inspect (.root (bagSizeEquals "00ul")) = .ok [emptinessTestRule.finding
        (bagSizeEquals "00ul") "'c.size() == 0' tests for emptiness; use 'c.empty()'"] ∧
      literalValue (integerNode "00ul") = .number 0 := by
  let a : IntegerLiteral :=
    { base := .octal, mark := [], digits := "00".toList, body := "00".toList, suffix := "ul".toList
      mark_mem := by decide, numeral := by decide, begins := by rintro _ ⟨⟩; rfl
      separated := .next '0' (.last '0'), suffix_mem := forall_mem_of_all (by decide) }
  have hn : (integerNode "00ul").HoldsInteger a := ⟨rfl, rfl, rfl⟩
  obtain ⟨hvalue, -, -, -, -, hreported, -⟩ := zero_spellings_recognised_iff a hn
  have hfinding := hreported (.root (bagSizeEquals "00ul")) _ _ (comparesSizeOf_bagSizeEquals "00ul")
  rw [if_pos (by decide)] at hfinding
  exact ⟨hfinding, hvalue⟩

/-- The same zero behind a capital mark is not known, although it has the same value. -/
theorem zero_behind_capital_mark_missed :
    (∃ a, (integerNode "0X0").HoldsInteger a) ∧ literalValue (integerNode "0X0") = .number 0 ∧
      isZero (integerNode "0X0") = false ∧
      emptinessTest.inspect (.root (bagSizeEquals "0X0")) = .ok [] := by
  let a : IntegerLiteral :=
    { base := .hexadecimal, mark := "0X".toList, digits := "0".toList, body := "0".toList, suffix := []
      mark_mem := by decide, numeral := by decide, begins := fun _ _ => trivial
      separated := .last '0', suffix_mem := nofun }
  exact ⟨⟨a, rfl, rfl, rfl⟩, by decide, by decide, by decide +kernel⟩

end CppIdioms
