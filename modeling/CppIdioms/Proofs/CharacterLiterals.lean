import CppIdioms.Proofs.IntegerLiterals

/-!
# Character literals

A character between quotes can be spelled as itself, by an escape of one letter, by the digits of its
code in radix eight or sixteen, or by a universal name. All but the last are read as the code of the
character; a universal name is not, so that a literal which has one keeps its text as its value. The
constants of a chain that could be a switch therefore differ as numbers, except where a character is
given by a universal name.

## Contents

* `CharacterSpelling`, `CharacterLiteral`: character literals, with their texts and codes.
* `Node.SpellsCharacter`: nodes of character literals by the text of their values.
* `Node.NumberLiteral`: nodes of literals whose value is a number.
* `Node.IsOperandOf`: the operands of a condition, wrappers aside.

## Main statements

* `CharacterLiteral.characterValue_text`: the value of the text is the code, universal names aside.
* `compareAll_of_commonSubject`: the conditions of a chain that passes the loop compare with different
  constants.
* `character_literals_by_value`: what is read of a character literal, and that the numbers in a reported
  chain differ.
-/

namespace CppIdioms

open CppIdioms.Text CppIdioms.Rules

namespace Literal

/-! ## §1 Literals -/

/-- The letters of the simple escapes and the codes of what they stand for. -/
def escapeCodes : List (Char × Nat) := [
  (charMark, 0x27), (stringMark, 0x22), ('?', 0x3f), ('\\', 0x5c), ('a', 0x07), ('b', 0x08),
  ('f', 0x0c), ('n', 0x0a), ('r', 0x0d), ('t', 0x09), ('v', 0x0b)]

/-- The ways to spell a character between quotes. -/
inductive CharacterSpelling where
  | plain (c : Char) (h : c ∉ [charMark, '\\', '\n'])
  | simple (letter : Char) (code : Nat) (h : (letter, code) ∈ escapeCodes)
  | octal (ds : List Char) (h : IsNumeral 8 ds) (short : ds.length ≤ 3)
  | hexadecimal (ds : List Char) (h : IsNumeral 16 ds)
  | universal (ds : List Char) (h : IsNumeral 16 ds) (long : ds.length = 4 ∨ ds.length = 8)

namespace CharacterSpelling

/-- What stands between the quotes. -/
def chars : CharacterSpelling → List Char
  | plain c _ => [c]
  | simple letter _ _ => ['\\', letter]
  | octal ds _ _ => '\\' :: ds
  | hexadecimal ds _ => '\\' :: 'x' :: ds
  | universal ds _ _ => '\\' :: (if ds.length = 4 then 'u' else 'U') :: ds

/-- The code of the character. -/
def code : CharacterSpelling → Nat
  | plain c _ => c.toNat
  | simple _ code _ => code
  | octal ds _ _ => numeralValue 8 ds
  | hexadecimal ds _ => numeralValue 16 ds
  | universal ds _ _ => numeralValue 16 ds

theorem chars_ne_nil (s : CharacterSpelling) : s.chars ≠ [] := by
  cases s <;> nofun

/-- The character is spelled by a universal name. -/
def isUniversal : CharacterSpelling → Bool
  | universal .. => true
  | _ => false

end CharacterSpelling

/-- A character literal by its parts. -/
structure CharacterLiteral where
  encoding : List Char
  spelling : CharacterSpelling
  encoding_mem : encoding ∈ ["".toList, "u8".toList, "u".toList, "U".toList, "L".toList]

/-- The literal as it is written. -/
def CharacterLiteral.text (a : CharacterLiteral) : List Char :=
  a.encoding ++ charMark :: (a.spelling.chars ++ [charMark])

/-! ## §2 Escapes -/

/-- More than one character after the backslash is a number, in radix sixteen after an `x`. -/
theorem escapeValue?_of_two (c d : Char) (cs : List Char) :
    escapeValue? (c :: d :: cs) =
      if c = 'x' then readInt? .hexadecimal (d :: cs) else readInt? .octal (c :: d :: cs) := by
  by_cases hc : c = 'x'
  · subst hc
    rfl
  · rw [if_neg hc]
    unfold escapeValue?
    dsimp only
    split
    · next heq => cases heq
    · next heq => exact absurd (List.cons.inj heq).1 hc
    · rfl

theorem escapeValue?_simple : ∀ p ∈ escapeCodes, escapeValue? [p.1] = some (p.2 : Int) := by
  decide

/-- One octal digit is read as its value; zero is among the escapes of one letter. -/
theorem escapeValue?_octalDigit : ∀ d ∈ digitLetters, digitNumber d < 8 →
    escapeValue? [d] = some (digitNumber d : Int) := forall_mem_of_all (by decide)

theorem escapeValue?_octal {ds : List Char} (h : IsNumeral 8 ds) :
    escapeValue? ds = some (numeralValue 8 ds : Int) := by
  match ds, h with
  | [], h => exact absurd rfl h.nonempty
  | [d], h =>
    have hd : d ∈ [d] := List.mem_singleton_self d
    rw [escapeValue?_octalDigit d (h.letters d hd) (h.below d hd)]
    simp [numeralValue]
  | d :: e :: ds, h =>
    have hmark : d ≠ 'x' := by
      rintro rfl
      exact absurd (h.letters 'x' List.mem_cons_self) (by decide)
    rw [escapeValue?_of_two, if_neg hmark]
    exact @readInt?_numeral .octal _ rfl h

theorem escapeValue?_hexadecimal {ds : List Char} (h : IsNumeral 16 ds) :
    escapeValue? ('x' :: ds) = some (numeralValue 16 ds : Int) := by
  obtain ⟨d, rest, rfl⟩ := List.exists_cons_of_ne_nil h.nonempty
  rw [escapeValue?_of_two, if_pos rfl]
  exact @readInt?_numeral .hexadecimal _ rfl h

/-- Universal names are taken for octal numbers, which they are not. -/
theorem escapeValue?_universal {mark : Char} {ds : List Char} (hmark : mark ∈ ['u', 'U'])
    (h : IsNumeral 16 ds) : escapeValue? (mark :: ds) = none := by
  obtain ⟨d, rest, rfl⟩ := List.exists_cons_of_ne_nil h.nonempty
  have hmarks : ∀ c ∈ ['u', 'U'], c ≠ 'x' ∧ c ≠ '0' ∧ c ∈ alphanumerics ∧ digitBelow? 8 c = none :=
    forall_mem_of_all (by decide)
  obtain ⟨hx, hzero, hletter, hdigit⟩ := hmarks mark hmark
  rw [escapeValue?_of_two, if_neg hx]
  refine readInt?_eq_none ?_ hdigit hzero
  exact List.forall_mem_cons.2 ⟨hletter, fun c hc => digitLetters_subset (h.letters c hc)⟩

/-! ## §3 Values -/

namespace CharacterLiteral

variable (a : CharacterLiteral)

theorem encoding_facts : ∀ c ∈ a.encoding, "u8UL".toList.contains c = true ∧ isBlank c = false := by
  have hall : ∀ c ∈ ["".toList, "u8".toList, "u".toList, "U".toList, "L".toList].flatten,
      "u8UL".toList.contains c = true ∧ isBlank c = false := forall_mem_of_all (by decide)
  exact fun c hc => hall c (List.mem_flatten_of_mem a.encoding_mem hc)

theorem characterBody?_text : characterBody? a.text = some a.spelling.chars := by
  have hdrop : a.text.dropWhile (fun c => "u8UL".toList.contains c) =
      charMark :: (a.spelling.chars ++ [charMark]) := by
    refine dropWhile_append_of_head (fun c hc => (a.encoding_facts c hc).1) ?_
    rintro _ ⟨⟩
    decide
  rw [characterBody?, hdrop]
  simp [CharacterSpelling.chars_ne_nil]

/-- Behind a backslash the value of the escape is that of the literal. -/
theorem characterValue_escape {escape : List Char} (hne : escape ≠ [])
    (hchars : a.spelling.chars = '\\' :: escape) :
    characterValue a.text = (escapeValue? escape).elim (.text (String.ofList a.text)) .number := by
  obtain ⟨e, es, rfl⟩ := List.exists_cons_of_ne_nil hne
  rw [characterValue, a.characterBody?_text, hchars]
  simp only
  cases escapeValue? (e :: es) <;> rfl

/-- A character literal is read as its code, unless it has a universal name. -/
theorem characterValue_text : characterValue a.text =
    if a.spelling.isUniversal then .text (String.ofList a.text) else .number a.spelling.code := by
  cases hspelling : a.spelling with
  | plain c h =>
    rw [characterValue, a.characterBody?_text, hspelling]
    rfl
  | simple letter code h =>
    have hchars : a.spelling.chars = '\\' :: [letter] := by rw [hspelling]; rfl
    rw [a.characterValue_escape (List.cons_ne_nil _ _) hchars, escapeValue?_simple _ h]
    rfl
  | octal ds h short =>
    have hchars : a.spelling.chars = '\\' :: ds := by rw [hspelling]; rfl
    rw [a.characterValue_escape h.nonempty hchars, escapeValue?_octal h]
    rfl
  | hexadecimal ds h =>
    have hchars : a.spelling.chars = '\\' :: 'x' :: ds := by rw [hspelling]; rfl
    rw [a.characterValue_escape (List.cons_ne_nil _ _) hchars, escapeValue?_hexadecimal h]
    rfl
  | universal ds h long =>
    have hchars : a.spelling.chars = '\\' :: (if ds.length = 4 then 'u' else 'U') :: ds := by
      rw [hspelling]; rfl
    have hmark : (if ds.length = 4 then 'u' else 'U') ∈ ['u', 'U'] := by split <;> decide
    rw [a.characterValue_escape (List.cons_ne_nil _ _) hchars, escapeValue?_universal hmark h]
    rfl

theorem getLast?_text : a.text.getLast? = some charMark := by
  rw [text, ← List.cons_append, ← List.append_assoc, List.getLast?_concat]

/-- The text neither starts nor ends with a blank. -/
theorem solid_text : Solid a.text := by
  refine ⟨?_, fun c hc => ?_, fun c hc => ?_⟩
  · rw [text]
    exact List.append_ne_nil_of_right_ne_nil _ nofun
  · rw [text, List.head?_append] at hc
    cases hhead : a.encoding.head? with
    | some e =>
      rw [hhead] at hc
      cases hc
      exact (a.encoding_facts _ (List.mem_of_mem_head? hhead)).2
    | none =>
      rw [hhead] at hc
      cases hc
      decide
  · rw [a.getLast?_text] at hc
    cases hc
    decide

/-- A text that ends with a quote is no word for a truth value. -/
theorem textValue_text : textValue true a.text = characterValue a.text := by
  have hword (word : List Char) (hlast : word.getLast? ≠ some charMark) : (a.text == word) = false :=
    beq_false_of_ne fun h => hlast (h ▸ a.getLast?_text)
  rw [textValue, hword _ (by decide), hword _ (by decide)]
  rfl

end CharacterLiteral

end Literal

open CppIdioms.Literal

/-! ## §4 Nodes -/

/-- The node is a literal whose value is a character between quotes and which is marked as such. -/
structure Node.SpellsCharacter (n : Node) (a : CharacterLiteral) : Prop where
  kind : n.kind = .literal
  value : n.Spells a.text
  character : n.attr "literal_kind" = .str "character"

namespace Node.SpellsCharacter

variable {n : Node} {a : CharacterLiteral}

theorem literalValue_eq (h : n.SpellsCharacter a) : literalValue n =
    if a.spelling.isUniversal then .text (String.ofList a.text) else .number a.spelling.code := by
  rw [h.value.literalValue_eq a.solid_text, Value.isText_iff.2 h.character, a.textValue_text,
    a.characterValue_text]

theorem hasCaseKind (h : n.SpellsCharacter a) : n.HasCaseKind := by
  refine ⟨"character", by decide, ?_⟩
  have hcharacter := h.character
  unfold Node.attr Entries.find at hcharacter
  unfold Node.attrOr
  cases hget : Entries.get? "literal_kind" n.attrs with
  | none => rw [hget] at hcharacter; cases hcharacter
  | some v => rw [hget] at hcharacter; exact hcharacter

end Node.SpellsCharacter

/-- The node is a literal of a number that cases can have: an integer, by a text without too many
decimal digits or as a number, or a character that is not spelled by a universal name. -/
inductive Node.NumberLiteral (n : Node) : Int → Prop where
  | integer (a : IntegerLiteral) (spells : n.SpellsInteger a) (readable : a.IsReadable)
    (kind : n.HasCaseKind) : n.NumberLiteral a.value
  | character (a : CharacterLiteral) (spells : n.SpellsCharacter a)
    (named : a.spelling.isUniversal = false) : n.NumberLiteral a.spelling.code
  | stored (k : Int) (literal : n.kind = .literal) (value : n.attr "value" = .int k)
    (kind : n.HasCaseKind) : n.NumberLiteral k

/-- Such a literal is the constant of its number. -/
theorem Node.NumberLiteral.denotes {n : Node} {k : Int} (h : n.NumberLiteral k) :
    n.Denotes (.literal (.number k)) := by
  cases h with
  | integer a spells readable kind =>
    rw [← IntegerLiteral.constant_of_isReadable readable, ← spells.literalValue_eq]
    exact .literal spells.kind kind
  | character a spells named =>
    have hvalue := spells.literalValue_eq
    rw [named, if_neg (by decide)] at hvalue
    rw [← hvalue]
    exact .literal spells.kind spells.hasCaseKind
  | stored k literal value kind =>
    have hvalue : literalValue n = .number k := by rw [literalValue, value]
    rw [← hvalue]
    exact .literal literal kind

/-! ## §5 Reported chains -/

/-- What the loop splits a condition into, the condition compares. -/
theorem compares_of_splitEquality {condition subject : Node} {label : CaseLabel}
    (h : splitEquality condition = .ok (some (subject, label))) :
    Compares condition subject label := by
  have hnone {n : Node} (hn : caseLabel? n = .ok none) (l : CaseLabel) : ¬n.Denotes l := fun hl => by
    cases hn.symm.trans (caseLabel?_eq_some_iff.2 hl)
  unfold splitEquality at h
  dsimp only at h
  split at h
  · next hequality =>
    simp only [Bool.and_eq_true, decide_eq_true_eq, Value.isText_iff] at hequality
    split at h
    · next lhs rhs hlhs hrhs =>
      obtain ⟨left, hleft, h⟩ := exists_of_bind_eq_ok h
      obtain ⟨right, hright, h⟩ := exists_of_bind_eq_ok h
      refine ⟨hequality.1, hequality.2, ?_⟩
      split at h
      · cases h
        exact ⟨rhs, caseLabel?_eq_some_iff.1 hright, hnone hleft, .inl ⟨hlhs, hrhs⟩⟩
      · cases h
        exact ⟨lhs, caseLabel?_eq_some_iff.1 hleft, hnone hright, .inr ⟨hlhs, hrhs⟩⟩
      · cases h
    · cases h
  · cases h

/-- A constant that the cases do not have, since it is among those seen, can be put in front. -/
theorem nodup_labels_cons {cases : List (Node × CaseLabel)} {subject : Node} {label : CaseLabel}
    {seen : List CaseLabel} (hunseen : ∀ k ∈ cases, k.2 ∉ label :: seen)
    (hnodup : (cases.map (·.2)).Nodup) : (((subject, label) :: cases).map (·.2)).Nodup := by
  refine List.nodup_cons.2 ⟨fun hlabel => ?_, hnodup⟩
  obtain ⟨k, hk, hsame⟩ := List.mem_map.1 hlabel
  exact hunseen k hk (hsame ▸ List.mem_cons_self)

/-- From within the loop: the remaining conditions compare with constants that differ from each other
and from those seen. -/
theorem compareAll_of_commonSubject_some {first : Node × List ShapePart} {seen : List CaseLabel}
    {conditions : List Node} {subject : Node}
    (h : commonSubject (some first) seen conditions = .ok (some subject)) :
    ∃ cases, CompareAll conditions cases ∧ (∀ k ∈ cases, k.2 ∉ seen) ∧ (cases.map (·.2)).Nodup := by
  induction conditions generalizing seen with
  | nil => exact ⟨[], .nil, nofun, .nil⟩
  | cons condition rest ih =>
    rw [commonSubject] at h
    obtain ⟨split, hsplit, h⟩ := exists_of_bind_eq_ok h
    cases split with
    | none => cases h
    | some found =>
      obtain ⟨compared, label⟩ := found
      obtain ⟨shape, -, h⟩ := exists_of_bind_eq_ok h
      dsimp only at h
      split at h
      · next hfits =>
        simp only [Bool.and_eq_true, Bool.not_eq_true', List.contains_eq_mem,
          decide_eq_false_iff_not] at hfits
        obtain ⟨cases, hcompare, hunseen, hnodup⟩ := ih h
        refine ⟨(compared, label) :: cases, .cons (compares_of_splitEquality hsplit) hcompare,
          List.forall_mem_cons.2 ⟨hfits.2, fun k hk hseen => ?_⟩, nodup_labels_cons hunseen hnodup⟩
        exact hunseen k hk (List.mem_cons_of_mem _ hseen)
      · cases h

/-- The conditions of a chain that passes the loop compare with different constants. -/
theorem compareAll_of_commonSubject {conditions : List Node} {subject : Node}
    (h : commonSubject none [] conditions = .ok (some subject)) :
    ∃ cases, CompareAll conditions cases ∧ (cases.map (·.2)).Nodup := by
  cases conditions with
  | nil => cases h
  | cons condition rest =>
    rw [commonSubject] at h
    obtain ⟨split, hsplit, h⟩ := exists_of_bind_eq_ok h
    cases split with
    | none => cases h
    | some found =>
      obtain ⟨compared, label⟩ := found
      obtain ⟨shape, -, h⟩ := exists_of_bind_eq_ok h
      obtain ⟨cases, hcompare, hunseen, hnodup⟩ := compareAll_of_commonSubject_some h
      exact ⟨(compared, label) :: cases, .cons (compares_of_splitEquality hsplit) hcompare,
        nodup_labels_cons hunseen hnodup⟩

/-- A reported chain has conditions, and they pass the loop. -/
theorem exists_commonSubject_of_reported {minBranches : Value} {c : Cursor} {finding : Finding}
    {findings : List Finding}
    (h : (switchChain minBranches).inspect c = .ok (finding :: findings)) :
    ∃ conditions subject, chainConditions? c.node = some conditions ∧
      commonSubject none [] conditions = .ok (some subject) := by
  dsimp only [switchChain] at h
  split at h
  · cases h
  · split at h
    · cases h
    · next conditions hconditions =>
      obtain ⟨tooShort, -, h⟩ := exists_of_bind_eq_ok h
      split at h
      · cases h
      · obtain ⟨answer, hanswer, h⟩ := exists_of_bind_eq_ok h
        cases answer with
        | none => cases h
        | some subject => exact ⟨conditions, subject, hconditions, hanswer⟩

/-- The node is an operand of the comparison inside the condition. -/
def Node.IsOperandOf (n condition : Node) : Prop :=
  condition.peel.peeled? "lhs" = some n ∨ condition.peel.peeled? "rhs" = some n

/-- An operand that is a constant is the one that the condition compares with. -/
theorem Compares.eq_label {condition subject n : Node} {label l : CaseLabel}
    (h : Compares condition subject label) (hn : n.IsOperandOf condition) (hl : n.Denotes l) :
    l = label := by
  obtain ⟨constant, hconstant, hsubject, hsides⟩ := h.operands
  have heq : n = subject ∨ n = constant := by
    rcases hn with hn | hn <;> rcases hsides with ⟨hlhs, hrhs⟩ | ⟨hlhs, hrhs⟩
    · exact .inl (Option.some.inj (hn.symm.trans hlhs))
    · exact .inr (Option.some.inj (hn.symm.trans hlhs))
    · exact .inr (Option.some.inj (hn.symm.trans hrhs))
    · exact .inl (Option.some.inj (hn.symm.trans hrhs))
  rcases heq with rfl | rfl
  · exact absurd hl (hsubject l)
  · cases (caseLabel?_eq_some_iff.2 hl).symm.trans (caseLabel?_eq_some_iff.2 hconstant)
    rfl

/-- The numbers that two conditions have as operands are different. -/
def NumbersDiffer (p q : Node) : Prop :=
  ∀ n m : Node, n.IsOperandOf p → m.IsOperandOf q →
    ∀ j k : Int, n.NumberLiteral j → m.NumberLiteral k → j ≠ k

/-- In a chain whose conditions compare with different constants the numbers are different. -/
theorem CompareAll.pairwise_numbers {conditions : List Node} {cases : List (Node × CaseLabel)}
    (h : CompareAll conditions cases) (hnodup : (cases.map (·.2)).Nodup) :
    conditions.Pairwise NumbersDiffer := by
  induction h with
  | nil => exact .nil
  | @cons _ k _ _ hfirst hrest ih =>
    obtain ⟨hnew, hnodup⟩ := List.nodup_cons.1 hnodup
    refine List.pairwise_cons.2 ⟨fun q hq n m hn hm i j hi hj hij => hnew ?_, ih hnodup⟩
    obtain ⟨l, hl, hcompares⟩ := exists_mem_of_forall₂ hrest.flip hq
    have hlabel : l.2 = k.2 := by
      rw [← hfirst.eq_label hn hi.denotes, ← hcompares.eq_label hm hj.denotes, hij]
    exact List.mem_map.2 ⟨l, hl, hlabel⟩

/-! ## §6 The values -/

/-- A character literal in a node, with blanks around it or without, has as its value the code of the
character exactly if it is not spelled by a universal name; else the text of the literal is all that is
known. In a reported chain the literals of numbers, as integers that do not have too many decimal digits
or as characters without a universal name, are different numbers. -/
theorem character_literals_by_value (a : CharacterLiteral) (n : Node) (hn : n.SpellsCharacter a)
    (minBranches : Value) (c : Cursor) :
    (literalValue n = .number a.spelling.code ↔ a.spelling.isUniversal = false) ∧
      (literalValue n = .text (String.ofList a.text) ↔ a.spelling.isUniversal = true) ∧
      ∀ finding findings, (switchChain minBranches).inspect c = .ok (finding :: findings) →
        ∃ conditions, chainConditions? c.node = some conditions ∧
          conditions.Pairwise NumbersDiffer := by
  refine ⟨?_, ?_, fun finding findings h => ?_⟩
  · rw [hn.literalValue_eq]
    cases a.spelling.isUniversal <;> simp
  · rw [hn.literalValue_eq]
    cases a.spelling.isUniversal <;> simp
  · obtain ⟨conditions, subject, hconditions, hloop⟩ := exists_commonSubject_of_reported h
    obtain ⟨cases, hcompare, hnodup⟩ := compareAll_of_commonSubject hloop
    exact ⟨conditions, hconditions, hcompare.pairwise_numbers hnodup⟩

/-- A character by its hexadecimal code, and a chain that compares with it and with an octal integer. -/
theorem letter_and_integer_differ :
    let s : Span := ⟨"a.cpp", 3, 3, 7, 4⟩
    let x : Node := ⟨.declRefExpr, s, [(.str "name", .str "x")], []⟩
    let letter : Node := ⟨.literal, s,
      [(.str "literal_kind", .str "character"), (.str "value", .str " L'\\x41'")], []⟩
    let number : Node := ⟨.literal, s, [(.str "value", .str "0102")], []⟩
    let equality (n : Node) : Node :=
      ⟨.binaryOperator, s, [(.str "operator", .str "==")], [("lhs", x), ("rhs", n)]⟩
    let chain : Node := ⟨.ifStatement, s, [], [("condition", equality letter),
      ("else", ⟨.ifStatement, s, [], [("condition", equality number)]⟩)]⟩
    let message :=
      "if/else-if chain compares 'x' against 2 distinct constants; convert it to a switch statement"
    literalValue letter = .number 0x41 ∧
      (switchChain (.int 2)).inspect (.root chain) = .ok [switchChainRule.finding chain message] ∧
      ∃ conditions, chainConditions? chain = some conditions ∧ conditions.Pairwise NumbersDiffer := by
  intro s x letter number equality chain message
  let a : CharacterLiteral :=
    { encoding := "L".toList, spelling := .hexadecimal "41".toList (by decide)
      encoding_mem := by decide }
  have hletter : letter.SpellsCharacter a :=
    { kind := rfl, value := ⟨[' '], [], forall_mem_of_all (by decide), nofun, by rfl⟩, character := rfl }
  obtain ⟨hvalue, -, hchain⟩ := character_literals_by_value a letter hletter (.int 2) (.root chain)
  have hreported : (switchChain (.int 2)).inspect (.root chain) =
      .ok [switchChainRule.finding chain message] := by decide +kernel
  exact ⟨hvalue.2 rfl, hreported, hchain _ _ hreported⟩

/-- A universal name has a code, as the letter itself has, and is not read: the two are different
constants, and a chain that compares with both is reported. -/
theorem universal_name_repeats_case :
    let s : Span := ⟨"a.cpp", 3, 3, 7, 4⟩
    let x : Node := ⟨.declRefExpr, s, [(.str "name", .str "x")], []⟩
    let letter (text : String) : Node := ⟨.literal, s,
      [(.str "literal_kind", .str "character"), (.str "value", .str text)], []⟩
    let branch (text : String) (rest : List (String × Node)) : Node :=
      ⟨.ifStatement, s, [], ("condition", ⟨.binaryOperator, s, [(.str "operator", .str "==")],
        [("lhs", x), ("rhs", letter text)]⟩) :: rest⟩
    let chain := branch "'A'" [("else", branch "'\\u0041'" [("else",
      branch "'B'" [("else", branch "'C'" [])])])]
    let message :=
      "if/else-if chain compares 'x' against 4 distinct constants; convert it to a switch statement"
    (∃ a : CharacterLiteral, (letter "'\\u0041'").SpellsCharacter a ∧ a.spelling.code = 0x41) ∧
      literalValue (letter "'\\u0041'") = .text "'\\u0041'" ∧
      literalValue (letter "'A'") = .number 0x41 ∧
      (switchChain (.int 4)).inspect (.root chain) = .ok [switchChainRule.finding chain message] := by
  intro s x letter branch chain message
  let a : CharacterLiteral :=
    { encoding := [], spelling := .universal "0041".toList (by decide) (.inl rfl)
      encoding_mem := by decide }
  have hletter : (letter "'\\u0041'").SpellsCharacter a :=
    { kind := rfl, value := ⟨[], [], nofun, nofun, by rfl⟩, character := rfl }
  exact ⟨⟨a, hletter, by decide⟩, hletter.literalValue_eq, by decide, by decide +kernel⟩

end CppIdioms
