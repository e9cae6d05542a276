import CppIdioms.Proofs.NumberForms
import CppIdioms.Proofs.SwitchChains

/-!
# Integer literals

An integer literal is a run of digits, behind the mark of its radix, with quotes between some of the
digits and letters at its end. Two readers deal with such texts apart from each other: one takes quotes
and letters away and reads what is left as a number, the other cuts the text into tokens and compares
them with the forms of numbers. The first finds the number that the digits denote, the second finds
one token that is a number. Only decimal digits can be too many to be read; such a literal keeps its
text.

## Contents

* `Base`, `Separated`, `IntegerLiteral`: integer literals, with their texts and values.
* `IntegerLiteral.IsReadable`, `IntegerLiteral.constant`: whether the value is found, and what stands
  for it if it is not.
* `Node.Spells`, `Node.SpellsInteger`: nodes of literals by the text of their values.
* `Node.HasCaseKind`: nodes whose kind of literal can be switched on.

## Main statements

* `IntegerLiteral.integerValue_text`: the value of the text is that of the literal, if it is readable.
* `IntegerLiteral.numberForm`: mark and digits have the form of a number, so that the text is a number and
  one token.
* `integer_literals_by_value`: readable literals are the same constant exactly if their values are
  equal.
-/

namespace CppIdioms

open CppIdioms.Text

namespace Literal

/-! ## §1 Literals -/

/-- The ways to write an integer. -/
inductive Base where
  | binary
  | octal
  | decimal
  | hexadecimal
  deriving DecidableEq, Repr

/-- The number of digits. -/
def Base.radix : Base → Nat
  | .binary => 2
  | .octal => 8
  | .decimal => 10
  | .hexadecimal => 16

/-- What may stand in front of the digits. -/
def Base.marks : Base → List (List Char)
  | .binary => ["0b".toList, "0B".toList]
  | .octal => [[]]
  | .decimal => [[]]
  | .hexadecimal => ["0x".toList, "0X".toList]

/-- Where there is no mark, a zero in front tells octal digits from decimal ones. -/
def Base.Begins : Base → Char → Prop
  | .octal, d => d = '0'
  | .decimal, d => d ≠ '0'
  | _, _ => True

instance (base : Base) (d : Char) : Decidable (base.Begins d) :=
  match base with
  | .octal => inferInstanceAs (Decidable (d = '0'))
  | .decimal => inferInstanceAs (Decidable (d ≠ '0'))
  | .binary => .isTrue trivial
  | .hexadecimal => .isTrue trivial

/-- The text consists of the digits, with a quote between some neighbours. -/
inductive Separated : List Char → List Char → Prop where
  | last (d : Char) : Separated [d] [d]
  | next (d : Char) {ds body : List Char} (h : Separated ds body) : Separated (d :: ds) (d :: body)
  | apart (d : Char) {ds body : List Char} (h : Separated ds body) :
    Separated (d :: ds) (d :: charMark :: body)

/-- An integer literal by its parts. -/
structure IntegerLiteral where
  base : Base
  mark : List Char
  digits : List Char
  body : List Char
  suffix : List Char
  mark_mem : mark ∈ base.marks
  numeral : IsNumeral base.radix digits
  begins : ∀ d ∈ digits.head?, base.Begins d
  separated : Separated digits body
  suffix_mem : ∀ c ∈ suffix, c ∈ "uUlLzZ".toList

namespace IntegerLiteral

/-- The literal as it is written. -/
def text (a : IntegerLiteral) : List Char := a.mark ++ a.body ++ a.suffix

/-- The number that the digits denote. -/
def value (a : IntegerLiteral) : Nat := numeralValue a.base.radix a.digits

/-- The digits are not decimal, or they are not too many. -/
def IsReadable (a : IntegerLiteral) : Prop := a.base = .decimal → a.digits.length ≤ digitLimit

instance (a : IntegerLiteral) : Decidable a.IsReadable :=
  inferInstanceAs (Decidable (_ → _))

/-- The number, or the text if there are too many digits. -/
def constant (a : IntegerLiteral) : Constant :=
  if a.IsReadable then .number a.value else .text (String.ofList a.text)

theorem constant_of_isReadable {a : IntegerLiteral} (h : a.IsReadable) : a.constant = .number a.value :=
  if_pos h

theorem constant_of_not_isReadable {a : IntegerLiteral} (h : ¬ a.IsReadable) :
    a.constant = .text (String.ofList a.text) :=
  if_neg h

end IntegerLiteral

/-! ## §2 Separators -/

namespace Separated

variable {ds body : List Char}

theorem mem (h : Separated ds body) {c : Char} (hc : c ∈ body) : c ∈ ds ∨ c = charMark := by
  induction h with
  | last d => exact .inl hc
  | next d _ ih =>
    rcases List.mem_cons.1 hc with rfl | hc
    · exact .inl List.mem_cons_self
    · exact (ih hc).imp_left (List.mem_cons_of_mem _)
  | apart d _ ih =>
    rcases List.mem_cons.1 hc with rfl | hc
    · exact .inl List.mem_cons_self
    · rcases List.mem_cons.1 hc with rfl | hc
      · exact .inr rfl
      · exact (ih hc).imp_left (List.mem_cons_of_mem _)

theorem ne_nil (h : Separated ds body) : body ≠ [] := by
  cases h <;> nofun

theorem head? (h : Separated ds body) : body.head? = ds.head? := by
  cases h <;> rfl

theorem getLast? (h : Separated ds body) : body.getLast? = ds.getLast? := by
  induction h with
  | last d => rfl
  | next d _ ih => rw [List.getLast?_cons, List.getLast?_cons, ih]
  | apart d h ih =>
    obtain ⟨e, he⟩ := Option.isSome_iff_exists.1 (List.getLast?_isSome.2 h.ne_nil)
    rw [List.getLast?_cons, List.getLast?_cons, List.getLast?_cons, ← ih, he]
    rfl

/-- Without the quotes the digits are left. -/
theorem filter (h : Separated ds body) (hds : charMark ∉ ds) :
    body.filter (· != charMark) = ds := by
  induction h with
  | last d =>
    have hd : d ≠ charMark := fun h => hds (by simp [h])
    simp [hd]
  | next d _ ih =>
    obtain ⟨hd, hds⟩ := not_or.1 (mt List.mem_cons.2 hds)
    rw [List.filter_cons_of_pos (by simpa using Ne.symm hd), ih hds]
  | apart d _ ih =>
    obtain ⟨hd, hds⟩ := not_or.1 (mt List.mem_cons.2 hds)
    rw [List.filter_cons_of_pos (by simpa using Ne.symm hd), List.filter_cons_of_neg (by simp), ih hds]

end Separated

/-! ## §3 Parts -/

namespace IntegerLiteral

theorem digit_no_suffix : ∀ d ∈ digitLetters, isIntegerSuffix d = false :=
  forall_mem_of_all (by decide)

theorem digit_hexPart : ∀ d ∈ digitLetters, isHexPart d = true :=
  forall_mem_of_all (by decide)

theorem digit_binaryPart : ∀ d ∈ digitLetters, digitNumber d < 2 → isBinaryPart d = true :=
  forall_mem_of_all (by decide)

theorem digit_decimal : ∀ d ∈ digitLetters, digitNumber d < 10 → d ∈ "0123456789".toList :=
  forall_mem_of_all (by decide)

theorem decimal_facts : ∀ d ∈ "0123456789".toList, isDigit d = true ∧ isDigitLike d = true ∧
    isBlank d = false :=
  forall_mem_of_all (by decide)

/-- No decimal digit starts a word for a truth value. -/
theorem decimal_starts_number : ∀ d ∈ "0123456789".toList, d ≠ 't' ∧ d ≠ 'f' :=
  forall_mem_of_all (by decide)

/-- Both readers take the letters at the end for a suffix. -/
theorem suffix_dropped : ∀ c ∈ "uUlLzZ".toList, isIntegerSuffix c = true ∧ isSuffixLetter c = true :=
  forall_mem_of_all (by decide)

theorem suffix_alphanumeric : ∀ c ∈ "uUlLzZ".toList, c ∈ alphanumerics :=
  forall_mem_of_all (by decide)

theorem charMark_not_alphanumeric : charMark ∉ alphanumerics := by decide

variable (a : IntegerLiteral)

/-- A literal has the mark of its radix, or it has none and is told by its first digit. -/
theorem forms :
    (∃ x, (x = 'x' ∨ x = 'X') ∧ a.mark = ['0', x] ∧ a.base.radix = 16) ∨
    (∃ b, (b = 'b' ∨ b = 'B') ∧ a.mark = ['0', b] ∧ a.base.radix = 2) ∨
    (a.mark = [] ∧ a.base.radix = 8 ∧ a.digits.head? = some '0') ∨
    (a.mark = [] ∧ a.base.radix = 10 ∧ a.digits.head? ≠ some '0') := by
  obtain ⟨base, mark, digits, body, suffix, hmark, hnumeral, hbegins, -, -⟩ := a
  cases base with
  | hexadecimal =>
    rcases (by simpa [Base.marks] using hmark : mark = _ ∨ mark = _) with rfl | rfl
    · exact .inl ⟨'x', .inl rfl, rfl, rfl⟩
    · exact .inl ⟨'X', .inr rfl, rfl, rfl⟩
  | binary =>
    rcases (by simpa [Base.marks] using hmark : mark = _ ∨ mark = _) with rfl | rfl
    · exact .inr (.inl ⟨'b', .inl rfl, rfl, rfl⟩)
    · exact .inr (.inl ⟨'B', .inr rfl, rfl, rfl⟩)
  | octal =>
    refine .inr (.inr (.inl ⟨List.mem_singleton.1 hmark, rfl, ?_⟩))
    obtain ⟨d, ds, rfl⟩ := List.exists_cons_of_ne_nil hnumeral.nonempty
    exact congrArg some (hbegins d rfl)
  | decimal =>
    refine .inr (.inr (.inr ⟨List.mem_singleton.1 hmark, rfl, fun hzero => ?_⟩))
    exact hbegins '0' hzero rfl

theorem mem_mark {c : Char} (hc : c ∈ a.mark) : c ∈ alphanumerics := by
  obtain ⟨_, rfl | rfl, hmark, -⟩ | ⟨_, rfl | rfl, hmark, -⟩ | ⟨hmark, -⟩ | ⟨hmark, -⟩ := a.forms <;>
    rw [hmark] at hc
  all_goals exact (show _ ⊆ alphanumerics by decide) hc

theorem mem_digits {d : Char} (hd : d ∈ a.digits) : d ∈ digitLetters ∧ digitNumber d < a.base.radix :=
  ⟨a.numeral.letters d hd, a.numeral.below d hd⟩

/-- The digits of the radices up to ten are the decimal ones. -/
theorem mem_decimal (hradix : a.base.radix ≤ 10) {d : Char} (hd : d ∈ a.digits) :
    d ∈ "0123456789".toList :=
  digit_decimal d (a.mem_digits hd).1 ((a.mem_digits hd).2.trans_le hradix)

theorem charMark_not_digit : charMark ∉ a.digits := fun h =>
  charMark_not_alphanumeric (digitLetters_subset (a.mem_digits h).1)

/-- What holds of digits and of the quote holds between the mark and the letters at the end. -/
theorem forall_body {p : Char → Bool} (hdigits : ∀ d ∈ a.digits, p d = true)
    (hquote : p charMark = true) : ∀ c ∈ a.body, p c = true := fun c hc => by
  rcases a.separated.mem hc with hd | rfl
  · exact hdigits c hd
  · exact hquote

/-- The body starts with a digit. -/
theorem exists_body : ∃ d rest, a.body = d :: rest ∧ d ∈ a.digits := by
  obtain ⟨d, ds, hds⟩ := List.exists_cons_of_ne_nil a.numeral.nonempty
  obtain ⟨rest, hrest⟩ := List.head?_eq_some_iff.1 (a.separated.head?.trans (congrArg List.head? hds))
  exact ⟨d, rest, hrest, by rw [hds]; exact List.mem_cons_self⟩

/-- The last character before the letters at the end is a digit. -/
theorem getLast?_unsuffixed : (a.mark ++ a.body).getLast? = a.digits.getLast? := by
  rw [List.getLast?_append, a.separated.getLast?]
  obtain ⟨d, hd⟩ := Option.isSome_iff_exists.1 (List.getLast?_isSome.2 a.numeral.nonempty)
  rw [hd]
  rfl

/-- The last character is a digit or a letter. -/
theorem mem_getLast?_text {c : Char} (h : a.text.getLast? = some c) : c ∈ alphanumerics := by
  rw [text, List.getLast?_append, a.getLast?_unsuffixed] at h
  cases hsuffix : a.suffix.getLast? with
  | some e =>
    rw [hsuffix] at h
    cases h
    exact suffix_alphanumeric _ (a.suffix_mem _ (List.mem_of_mem_getLast? hsuffix))
  | none =>
    rw [hsuffix] at h
    exact digitLetters_subset (a.mem_digits (List.mem_of_mem_getLast? h)).1

/-- The first character is a decimal digit. -/
theorem exists_text : ∃ d rest, a.text = d :: rest ∧ d ∈ "0123456789".toList := by
  have hdecimal (hmark : a.mark = []) (hradix : a.base.radix ≤ 10) :
      ∃ d rest, a.text = d :: rest ∧ d ∈ "0123456789".toList := by
    obtain ⟨d, rest, hbody, hd⟩ := a.exists_body
    exact ⟨d, rest ++ a.suffix, by rw [text, hmark, hbody]; rfl, a.mem_decimal hradix hd⟩
  obtain ⟨_, -, hmark, -⟩ | ⟨_, -, hmark, -⟩ | ⟨hmark, hradix, -⟩ | ⟨hmark, hradix, -⟩ := a.forms
  · exact ⟨'0', _, by rw [text, hmark]; rfl, by decide⟩
  · exact ⟨'0', _, by rw [text, hmark]; rfl, by decide⟩
  · exact hdecimal hmark (by omega)
  · exact hdecimal hmark (by omega)

/-! ## §4 Values -/

theorem dropEndWhile_text : dropEndWhile isIntegerSuffix a.text = a.mark ++ a.body := by
  refine dropEndWhile_append (fun d hd => ?_) fun c hc => (suffix_dropped c (a.suffix_mem c hc)).1
  rw [a.getLast?_unsuffixed] at hd
  exact digit_no_suffix d (a.mem_digits (List.mem_of_mem_getLast? hd)).1

theorem filter_unsuffixed : (a.mark ++ a.body).filter (· != charMark) = a.mark ++ a.digits := by
  rw [List.filter_append, a.separated.filter a.charMark_not_digit, List.filter_eq_self.2]
  intro c hc
  have hne : c ≠ charMark := by
    rintro rfl
    exact charMark_not_alphanumeric (a.mem_mark hc)
  simpa using hne

/-- Only decimal digits can be too many. -/
theorem isReadable_of_radix (h : a.base.radix ≠ 10) : a.IsReadable := fun hbase => by
  rw [hbase] at h
  exact absurd rfl h

theorem readInt?_eq (asked : Radix) :
    readInt? asked (a.mark ++ a.digits) = (readNat? asked (a.mark ++ a.digits)).map Int.ofNat := by
  refine readInt?_of_alphanumeric fun c hc => ?_
  rcases List.mem_append.1 hc with hc | hc
  · exact a.mem_mark hc
  · exact digitLetters_subset (a.mem_digits hc).1

/-- The radix that digits are read in: several digits of which the first is a zero are octal, all
others have a mark or are decimal. -/
def askedRadix (digits : List Char) : Radix :=
  if 1 < digits.length && digits.head? == some '0' && digits.all isDigitLike then .octal else .marked

theorem integerValue_eq {asked : Radix} (hasked : askedRadix (a.mark ++ a.digits) = asked)
    (h : readNat? asked (a.mark ++ a.digits) = if a.IsReadable then some a.value else none) :
    integerValue a.text = a.constant := by
  simp only [integerValue, a.dropEndWhile_text, a.filter_unsuffixed]
  rw [askedRadix] at hasked
  rw [hasked, a.readInt?_eq, h, constant]
  by_cases hread : a.IsReadable
  · simp [hread]
  · simp [hread]

/-- Behind a mark the digits are read in its radix. -/
theorem integerValue_of_mark {mark : Char} {found : Radix} (hmark : a.mark = ['0', mark])
    (hfound : Radix.ofMark? mark = some found) (hlike : isDigitLike mark = false)
    (hradix : a.base.radix = found.size) (hlimit : found.size ≠ 10) :
    integerValue a.text = a.constant := by
  have hnumeral := a.numeral
  rw [hradix] at hnumeral
  refine a.integerValue_eq (show _ = Radix.marked from ?_) ?_
  · rw [askedRadix, hmark]
    simp [hlike]
  · rw [if_pos (a.isReadable_of_radix (hradix ▸ hlimit)), hmark, value, hradix]
    exact readNat?_marked hfound hnumeral

/-- Several digits of which the first is a zero are read as octal ones, and a zero alone is read as a
decimal one. -/
theorem integerValue_of_octal (hmark : a.mark = []) (hradix : a.base.radix = 8)
    (hzero : a.digits.head? = some '0') : integerValue a.text = a.constant := by
  have hreadable : a.IsReadable := a.isReadable_of_radix (by omega)
  by_cases hlength : 1 < a.digits.length
  · have hnumeral := a.numeral
    rw [hradix] at hnumeral
    refine a.integerValue_eq (show _ = Radix.octal from ?_) ?_
    · have hlike : ∀ d ∈ a.digits, isDigitLike d = true := fun d hd =>
        (decimal_facts d (a.mem_decimal (by omega) hd)).2.1
      rw [askedRadix, hmark]
      simpa [hlength, hzero] using hlike
    · rw [if_pos hreadable, hmark, value, hradix]
      exact readNat?_numeral rfl hnumeral
  · have hdigits : a.digits = ['0'] := by
      obtain ⟨ds, hds⟩ := List.head?_eq_some_iff.1 hzero
      rw [hds, List.length_cons] at hlength
      rw [hds, List.length_eq_zero_iff.1 (by omega : ds.length = 0)]
    refine a.integerValue_eq (show _ = Radix.marked from ?_) ?_
    · rw [askedRadix, hmark, hdigits]
      rfl
    · rw [if_pos hreadable, hmark, value, hdigits, hradix]
      decide

/-- Without a mark and a zero in front the digits are decimal, and there may be too many of them. -/
theorem integerValue_of_decimal (hmark : a.mark = []) (hradix : a.base.radix = 10)
    (hzero : a.digits.head? ≠ some '0') : integerValue a.text = a.constant := by
  have hnumeral := a.numeral
  rw [hradix] at hnumeral
  have hdecimal : a.base = .decimal := by
    cases hbase : a.base <;> rw [hbase] at hradix <;> first | rfl | cases hradix
  have hreadable : a.IsReadable ↔ a.digits.length ≤ digitLimit :=
    ⟨fun h => h hdecimal, fun h _ => h⟩
  refine a.integerValue_eq (show _ = Radix.marked from ?_) ?_
  · rw [askedRadix, hmark]
    simp [hzero]
  · rw [if_congr hreadable rfl rfl, hmark, value, hradix]
    exact readNat?_decimal hnumeral hzero

/-- Suffix and separators aside, the text is read as the number that its digits denote, unless there are
too many of them. -/
theorem integerValue_text : integerValue a.text = a.constant := by
  obtain ⟨_, rfl | rfl, hmark, hradix⟩ | ⟨_, rfl | rfl, hmark, hradix⟩ | ⟨hmark, hradix, hzero⟩ |
    ⟨hmark, hradix, hzero⟩ := a.forms
  · exact a.integerValue_of_mark hmark rfl (by decide) hradix (by decide)
  · exact a.integerValue_of_mark hmark rfl (by decide) hradix (by decide)
  · exact a.integerValue_of_mark hmark rfl (by decide) hradix (by decide)
  · exact a.integerValue_of_mark hmark rfl (by decide) hradix (by decide)
  · exact a.integerValue_of_octal hmark hradix hzero
  · exact a.integerValue_of_decimal hmark hradix hzero

/-! ## §5 Numbers -/

/-- Digits of the radices up to ten have the form of decimal numbers. -/
theorem numberForm_body (hradix : a.base.radix ≤ 10) : NumberForm a.body := by
  have hdigits : ∀ d ∈ a.digits, isDigit d = true := fun d hd =>
    (decimal_facts d (a.mem_decimal hradix hd)).1
  have hbody : ∀ c ∈ a.body, isDecimalPart c = true :=
    a.forall_body (fun d hd => by simp [isDecimalPart, hdigits d hd]) (by decide)
  obtain ⟨d, rest, hrest, hd⟩ := a.exists_body
  rw [hrest] at hbody ⊢
  have hform := NumberForm.decimal (hdigits d hd) (List.forall_mem_cons.1 hbody).2 .absent .absent
  rwa [List.append_nil, List.append_nil] at hform

/-- The mark and the digits have the form of a number. -/
theorem numberForm : NumberForm (a.mark ++ a.body) := by
  obtain ⟨x, hx, hmark, -⟩ | ⟨b, hb, hmark, hradix⟩ | ⟨hmark, hradix, -⟩ | ⟨hmark, hradix, -⟩ := a.forms
  · have hbody : ∀ c ∈ a.body, isHexPart c = true :=
      a.forall_body (fun d hd => digit_hexPart d (a.mem_digits hd).1) (by decide)
    have hform := NumberForm.hexadecimal hx a.separated.ne_nil hbody .absent .absent
    rw [List.append_nil, List.append_nil] at hform
    rwa [hmark]
  · have hdigits : ∀ d ∈ a.digits, isBinaryPart d = true := fun d hd => by
      obtain ⟨hletter, hbelow⟩ := a.mem_digits hd
      exact digit_binaryPart d hletter (hradix ▸ hbelow)
    rw [hmark]
    exact .binary hb a.separated.ne_nil (a.forall_body hdigits (by decide))
  · rw [hmark]
    exact a.numberForm_body (by omega)
  · rw [hmark]
    exact a.numberForm_body (by omega)

theorem isNumberText_text : IsNumberText a.text :=
  ⟨a.mark ++ a.body, a.suffix, a.numberForm, fun c hc => (suffix_dropped c (a.suffix_mem c hc)).2, rfl⟩

/-- The text is a number with suffixes. -/
theorem isNumber_text : isNumber a.text = true :=
  isNumber_iff.2 ⟨a.text, [], a.isNumberText_text, .inl rfl, (List.append_nil _).symm⟩

/-- The text is one token. -/
theorem tokens_text : tokens a.text = [a.text] := a.isNumberText_text.isNumberToken.tokens_eq

/-- The token is recognised as one literal. -/
theorem singleLiteral?_text :
    singleLiteral? [String.ofList a.text] = some (String.ofList a.text) := by
  rw [a.isNumberText_text.isNumberToken.singleLiteral?_eq, if_pos a.isNumber_text]

/-! ## §6 Nodes -/

/-- Neither a word for a truth value nor a character between quotes. -/
theorem textValue_text : textValue false a.text = a.constant := by
  obtain ⟨d, rest, htext, hd⟩ := a.exists_text
  have hword : d ≠ 't' ∧ d ≠ 'f' := decimal_starts_number d hd
  have htrue : (a.text == "true".toList) = false :=
    beq_false_of_ne fun h => hword.1 (List.cons.inj (htext.symm.trans h)).1
  have hfalse : (a.text == "false".toList) = false :=
    beq_false_of_ne fun h => hword.2 (List.cons.inj (htext.symm.trans h)).1
  have hlast : (a.text.getLast? == some charMark) = false :=
    beq_false_of_ne fun h => charMark_not_alphanumeric (a.mem_getLast?_text h)
  rw [textValue, htrue, hfalse, hlast]
  exact a.integerValue_text

theorem alphanumeric_not_blank : ∀ c ∈ alphanumerics, isBlank c = false :=
  forall_mem_of_all (by decide)

/-- The text neither starts nor ends with a blank. -/
theorem solid_text : Solid a.text := by
  obtain ⟨d, rest, htext, hd⟩ := a.exists_text
  refine ⟨by rw [htext]; nofun, fun c hc => ?_, fun c hc => ?_⟩
  · rw [htext] at hc
    cases hc
    exact (decimal_facts _ hd).2.2
  · exact alphanumeric_not_blank c (a.mem_getLast?_text hc)

end IntegerLiteral

end Literal

open CppIdioms.Literal CppIdioms.Rules

/-- The value of the node is a text, blanks around it aside. -/
def Node.Spells (n : Node) (text : List Char) : Prop :=
  ∃ before after, (∀ c ∈ before, isBlank c = true) ∧ (∀ c ∈ after, isBlank c = true) ∧
    n.attr "value" = .str (String.ofList (before ++ text ++ after))

/-- Of the text in a node the reader sees what stands between the blanks. -/
theorem Node.Spells.trim_eq {n : Node} {text : List Char} (h : n.Spells text) (htext : Solid text) :
    trim (n.attr "value").text.toList = text := by
  obtain ⟨before, after, hbefore, hafter, hvalue⟩ := h
  have hchars : (n.attr "value").text.toList = before ++ text ++ after := by
    rw [hvalue]
    exact String.toList_ofList
  rw [hchars]
  exact trim_between hbefore hafter htext

theorem Node.Spells.literalValue_eq {n : Node} {text : List Char} (h : n.Spells text)
    (htext : Solid text) :
    literalValue n = textValue ((n.attr "literal_kind").isText "character") text := by
  have htrim := h.trim_eq htext
  obtain ⟨before, after, -, -, hvalue⟩ := h
  rw [hvalue] at htrim
  rw [literalValue, hvalue]
  dsimp only
  rw [htrim]

/-- The node is a literal whose value is an integer and which is not marked as a character. -/
structure Node.SpellsInteger (n : Node) (a : IntegerLiteral) : Prop where
  kind : n.kind = .literal
  value : n.Spells a.text
  integer : n.attr "literal_kind" ≠ .str "character"

theorem Node.SpellsInteger.literalValue_eq {n : Node} {a : IntegerLiteral} (h : n.SpellsInteger a) :
    literalValue n = a.constant := by
  have hinteger : (n.attr "literal_kind").isText "character" = false :=
    Bool.eq_false_iff.2 fun hc => h.integer (Value.isText_iff.1 hc)
  rw [h.value.literalValue_eq a.solid_text, hinteger, a.textValue_text]

/-- The kind of the literal is one that can be switched on. -/
def Node.HasCaseKind (n : Node) : Prop :=
  ∃ word ∈ ["integer", "character", "bool"], n.attrOr "literal_kind" (.str "integer") = .str word

/-- An integer literal of such a kind is a constant of a case, and one of another kind is none. -/
theorem Node.SpellsInteger.caseLabel?_iff {n : Node} {a : IntegerLiteral} (h : n.SpellsInteger a)
    (label : CaseLabel) : caseLabel? n = .ok (some label) ↔
      n.HasCaseKind ∧ label = .literal a.constant := by
  rw [caseLabel?_eq_some_iff, ← h.literalValue_eq]
  constructor
  · rintro (⟨-, hkind⟩ | ⟨hother, -⟩)
    · exact ⟨hkind, rfl⟩
    · cases h.kind.symm.trans hother
  · rintro ⟨hkind, rfl⟩
    exact .literal h.kind hkind

/-- Two integer literals in nodes, with blanks around them or without. If its digits are not decimal or
not too many, a literal has as its value the number that they denote; else its value is its text. It is
a constant of a case exactly if its kind can be switched on, and then by its value, so that two readable
constants are equal exactly if their numbers are. And whether it is readable or not, what stands between
the blanks is one token, which is recognised as one literal. -/
theorem integer_literals_by_value (a b : IntegerLiteral) {n m : Node} (hn : n.SpellsInteger a)
    (hm : m.SpellsInteger b) :
    let w := trim (n.attr "value").text.toList
    (a.IsReadable → literalValue n = .number a.value) ∧
      (¬ a.IsReadable → literalValue n = .text (String.ofList w)) ∧
      (∀ k, caseLabel? n = .ok (some k) ↔ n.HasCaseKind ∧ k = .literal (literalValue n)) ∧
      (a.IsReadable → b.IsReadable →
        ∀ k l, caseLabel? n = .ok (some k) → caseLabel? m = .ok (some l) →
          (k = l ↔ a.value = b.value)) ∧
      w = a.text ∧ tokens w = [w] ∧ singleLiteral? [String.ofList w] = some (String.ofList w) := by
  intro w
  have hw : w = a.text := hn.value.trim_eq a.solid_text
  refine ⟨fun ha => ?_, fun ha => ?_, fun k => ?_, fun ha hb k l hk hl => ?_, hw, ?_, ?_⟩
  · rw [hn.literalValue_eq, IntegerLiteral.constant_of_isReadable ha]
  · rw [hn.literalValue_eq, IntegerLiteral.constant_of_not_isReadable ha, hw]
  · rw [hn.literalValue_eq]
    exact hn.caseLabel?_iff k
  · rw [((hn.caseLabel?_iff k).1 hk).2, ((hm.caseLabel?_iff l).1 hl).2,
      IntegerLiteral.constant_of_isReadable ha, IntegerLiteral.constant_of_isReadable hb]
    simp
  · rw [hw, a.tokens_text]
  · rw [hw, a.singleLiteral?_text]

/-- One number in two radices, the first time with a quote, a letter at its end and blanks around it. -/
theorem thirty_one_is_one_case :
    let s : Span := ⟨"a.cpp", 1, 1, 1, 8⟩
    let n : Node := ⟨.literal, s, [(.str "value", .str " 0x1'Fu\n")], []⟩
    let m : Node := ⟨.literal, s, [(.str "value", .str "31"), (.str "literal_kind", .str "bool")], []⟩
    literalValue n = .number 31 ∧
      (∃ label, caseLabel? n = .ok (some label) ∧ caseLabel? m = .ok (some label)) ∧
      tokens "0x1'Fu".toList = ["0x1'Fu".toList] := by
  intro s n m
  let a : IntegerLiteral :=
    { base := .hexadecimal, mark := "0x".toList, digits := "1F".toList, body := "1'F".toList
      suffix := "u".toList, mark_mem := by decide, numeral := by decide, begins := fun _ _ => trivial
      separated := .apart '1' (.last 'F'), suffix_mem := forall_mem_of_all (by decide) }
  let b : IntegerLiteral :=
    { base := .decimal, mark := [], digits := "31".toList, body := "31".toList
      suffix := [], mark_mem := by decide, numeral := by decide
      begins := by rintro _ ⟨⟩; decide, separated := .next '3' (.last '1'), suffix_mem := nofun }
  have hn : n.SpellsInteger a :=
    { kind := rfl, integer := nofun
      value := ⟨[' '], ['\n'], forall_mem_of_all (by decide), forall_mem_of_all (by decide), by rfl⟩ }
  have hm : m.SpellsInteger b :=
    { kind := rfl, value := ⟨[], [], nofun, nofun, by rfl⟩
      integer := fun h => absurd (Value.str.inj h : "bool" = "character") (by decide) }
  have ha : a.IsReadable := by decide
  have hb : b.IsReadable := by decide
  obtain ⟨hvalue, -, hcase, hequal, hw, htokens, -⟩ := integer_literals_by_value a b hn hm
  have hk := (hcase _).2 ⟨⟨"integer", by decide, rfl⟩, rfl⟩
  have hl := (hm.caseLabel?_iff _).2 ⟨⟨"bool", by decide, rfl⟩, rfl⟩
  refine ⟨hvalue ha, ⟨_, hk, ?_⟩, ?_⟩
  · rw [hl, (hequal ha hb _ _ hk hl).2 (by decide)]
  · rw [hw] at htokens
    exact htokens

/-- A decimal literal with one digit more than can be read: its value is its text. -/
theorem long_decimal_keeps_text :
    let digits := List.replicate (digitLimit + 1) '1'
    let n : Node :=
      ⟨.literal, ⟨"a.cpp", 1, 1, 1, 2⟩, [(.str "value", .str (String.ofList digits))], []⟩
    ∃ a : IntegerLiteral, n.SpellsInteger a ∧ a.text = digits ∧
      literalValue n = .text (String.ofList digits) ∧ literalValue n ≠ .number a.value := by
  intro digits n
  have hone : ∀ d ∈ digits, d = '1' := fun d hd => List.eq_of_mem_replicate hd
  have hseparated : ∀ k, Separated (List.replicate (k + 1) '1') (List.replicate (k + 1) '1') := by
    intro k
    induction k with
    | zero => exact .last '1'
    | succ k ih => exact .next '1' ih
  let a : IntegerLiteral :=
    { base := .decimal, mark := [], digits, body := digits, suffix := [], mark_mem := by decide
      numeral := ⟨nofun, fun d hd => by rw [hone d hd]; decide, fun d hd => by rw [hone d hd]; decide⟩
      begins := by rintro _ ⟨⟩; decide
      separated := hseparated digitLimit
      suffix_mem := List.forall_mem_nil _ }
  have htext : a.text = digits := List.append_nil digits
  have hn : n.SpellsInteger a :=
    { kind := rfl, integer := nofun
      value := ⟨[], [], List.forall_mem_nil _, List.forall_mem_nil _, by
        rw [htext, List.nil_append, List.append_nil]; rfl⟩ }
  have hlong : ¬ a.IsReadable := fun h => by
    have hlength : digits.length ≤ digitLimit := h rfl
    rw [List.length_replicate] at hlength
    omega
  have hvalue : literalValue n = .text (String.ofList digits) := by
    rw [hn.literalValue_eq, IntegerLiteral.constant_of_not_isReadable hlong, htext]
  exact ⟨a, hn, htext, hvalue, by rw [hvalue]; nofun⟩

end CppIdioms
