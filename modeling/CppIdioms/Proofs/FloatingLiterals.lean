import CppIdioms.Proofs.IntegerLiterals

/-!
# Floating literals

A floating literal has digits, of which some stand before a point and some behind it, an exponent and a
suffix. The scanner takes every such literal as one token. The pattern of numbers does not: behind the
mark of a radix it wants a digit before it wants a point, and among the digits of an exponent it knows no
separators. All other floating literals are recognised.

## Contents

* `IsSequence`: digits of a radix, with separators between some of them.
* `Significand`, `Exponent`, `FloatingLiteral`: floating literals by their parts, and their texts.
* `FloatingLiteral.IsPlain`: no separators in the exponent, and digits behind the mark of a radix.

## Main statements

* `FloatingLiteral.isNumberToken_text`: the text is one token.
* `FloatingLiteral.isNumber_text_iff`: the text is a number exactly if the literal is plain.
* `floating_literal_recognised_iff`: both together.
-/

namespace CppIdioms

open CppIdioms.Text

namespace Literal

/-! ## §1 Literals -/

/-- Digits of a radix, with a quote between some neighbours. -/
def IsSequence (radix : Nat) (body : List Char) : Prop :=
  ∃ ds, IsNumeral radix ds ∧ Separated ds body

/-- Digits with a point between them, in front of them, behind them, or without one. -/
inductive Significand (radix : Nat) where
  | whole (w : List Char) (hw : IsSequence radix w)
  | closed (w : List Char) (hw : IsSequence radix w)
  | mixed (w f : List Char) (hw : IsSequence radix w) (hf : IsSequence radix f)
  | fractional (f : List Char) (hf : IsSequence radix f)

namespace Significand

variable {radix : Nat}

/-- The digits and the point as they are written. -/
def text : Significand radix → List Char
  | whole w _ => w
  | closed w _ => w ++ ['.']
  | mixed w f _ _ => w ++ '.' :: f
  | fractional f _ => '.' :: f

/-- There is a point. -/
def HasPoint : Significand radix → Prop
  | whole .. => False
  | _ => True

/-- There are digits in front of the point. -/
def HasWhole : Significand radix → Prop
  | fractional .. => False
  | _ => True

end Significand

/-- An exponent by its parts. -/
structure Exponent (marks : List Char) where
  mark : Char
  sign : List Char
  body : List Char
  mark_mem : mark ∈ marks
  sign_mem : sign ∈ signs
  sequence : IsSequence 10 body

/-- The exponent as it is written. -/
def Exponent.text {marks : List Char} (e : Exponent marks) : List Char := e.mark :: (e.sign ++ e.body)

/-- What may stand at the end of a floating literal. -/
def floatSuffixes : List (List Char) := [[], ['f'], ['l'], ['F'], ['L']]

/-- A floating literal by its parts: a decimal one has a point or an exponent, a hexadecimal one has an
exponent, whose digits are decimal. -/
inductive FloatingLiteral where
  | pointed (s : Significand 10) (point : s.HasPoint) (suffix : List Char)
      (hsuffix : suffix ∈ floatSuffixes)
  | scaled (s : Significand 10) (e : Exponent decimalMarks) (suffix : List Char)
      (hsuffix : suffix ∈ floatSuffixes)
  | hexadecimal (x : Char) (hx : x = 'x' ∨ x = 'X') (s : Significand 16) (e : Exponent binaryMarks)
      (suffix : List Char) (hsuffix : suffix ∈ floatSuffixes)

namespace FloatingLiteral

/-- The literal as it is written. -/
def text : FloatingLiteral → List Char
  | pointed s _ suffix _ => s.text ++ suffix
  | scaled s e suffix _ => s.text ++ (e.text ++ suffix)
  | hexadecimal x _ s e suffix _ => '0' :: x :: (s.text ++ (e.text ++ suffix))

/-- No separators stand in the exponent, and digits stand behind the mark of the radix. -/
def IsPlain : FloatingLiteral → Prop
  | pointed .. => True
  | scaled _ e _ _ => charMark ∉ e.body
  | hexadecimal _ _ s e _ _ => s.HasWhole ∧ charMark ∉ e.body

end FloatingLiteral

/-! ## §2 Digits -/

section Digits

variable {radix : Nat} {body : List Char}

theorem IsSequence.mem (h : IsSequence radix body) {c : Char} (hc : c ∈ body) :
    (c ∈ digitLetters ∧ digitNumber c < radix) ∨ c = charMark := by
  obtain ⟨ds, hnumeral, hseparated⟩ := h
  exact (hseparated.mem hc).imp_left fun hd => ⟨hnumeral.letters c hd, hnumeral.below c hd⟩

theorem IsSequence.hexPart (h : IsSequence radix body) : ∀ c ∈ body, isHexPart c = true := fun c hc => by
  obtain ⟨hletter, -⟩ | rfl := h.mem hc
  · exact IntegerLiteral.digit_hexPart c hletter
  · decide

theorem IsSequence.numberPart (h : IsSequence radix body) : ∀ c ∈ body, isNumberPart c = true :=
  fun c hc => hexPart_part (h.hexPart c hc)

theorem IsSequence.digit_or_mark (h : IsSequence 10 body) {c : Char} (hc : c ∈ body) :
    c ∈ "0123456789".toList ∨ c = charMark :=
  (h.mem hc).imp_left fun hd => IntegerLiteral.digit_decimal c hd.1 hd.2

theorem IsSequence.decimalPart (h : IsSequence 10 body) : ∀ c ∈ body, isDecimalPart c = true :=
  fun c hc => by
  obtain hdecimal | rfl := h.digit_or_mark hc
  · simp [isDecimalPart, (IntegerLiteral.decimal_facts c hdecimal).1]
  · decide

/-- A sequence starts with a digit. -/
theorem IsSequence.exists_cons (h : IsSequence radix body) : ∃ d rest, body = d :: rest ∧
    d ∈ digitLetters ∧ digitNumber d < radix := by
  obtain ⟨ds, hnumeral, hseparated⟩ := h
  obtain ⟨d, ds, rfl⟩ := List.exists_cons_of_ne_nil hnumeral.nonempty
  obtain ⟨rest, hrest⟩ := List.head?_eq_some_iff.1 hseparated.head?
  exact ⟨d, rest, hrest, hnumeral.letters d (by simp), hnumeral.below d (by simp)⟩

theorem IsSequence.exists_digit (h : IsSequence 10 body) :
    ∃ d rest, body = d :: rest ∧ isDigit d = true := by
  obtain ⟨d, rest, hbody, hletter, hbelow⟩ := h.exists_cons
  have hdecimal := IntegerLiteral.digit_decimal d hletter hbelow
  exact ⟨d, rest, hbody, (IntegerLiteral.decimal_facts d hdecimal).1⟩

/-- Where there are digits in front of the point, a fraction follows them or nothing. -/
theorem Significand.exists_whole {s : Significand radix} (h : s.HasWhole) : ∃ w fraction,
    s.text = w ++ fraction ∧ IsSequence radix w ∧ ∀ {part : Char → Bool},
      (∀ {f}, IsSequence radix f → ∀ c ∈ f, part c = true) → FractionForm part fraction := by
  cases s with
  | whole w hw => exact ⟨w, [], (List.append_nil w).symm, hw, fun _ => .absent⟩
  | closed w hw => exact ⟨w, ['.'], rfl, hw, fun _ => .present nofun⟩
  | mixed w f hw hf => exact ⟨w, '.' :: f, rfl, hw, fun hpart => .present (hpart hf)⟩
  | fractional => cases h

/-- Where there are none, the point comes first and digits follow it. -/
theorem Significand.exists_fractional {s : Significand radix} (h : ¬ s.HasWhole) :
    ∃ f, s.text = '.' :: f ∧ IsSequence radix f := by
  cases s with
  | fractional f hf => exact ⟨f, rfl, hf⟩
  | _ => exact absurd trivial h

end Digits

/-! ## §3 One token -/

section Tokens

variable {radix : Nat} {tail : List Char}

theorem Significand.goesOn (s : Significand radix) : GoesOn s.text := by
  by_cases h : s.HasWhole
  · obtain ⟨w, fraction, htext, hw, hfraction⟩ := s.exists_whole h
    rw [htext]
    exact .append (.of_parts hw.numberPart) ((hfraction fun hf => hf.hexPart).goesOn hexPart_part)
  · obtain ⟨f, htext, hf⟩ := s.exists_fractional h
    rw [htext]
    exact .part (by decide) (.of_parts hf.numberPart)

theorem Exponent.goesOn {marks : List Char} (e : Exponent marks)
    (hmarks : ∀ m ∈ marks, isExponentMark m = true) : GoesOn e.text :=
  .exponent (hmarks e.mark e.mark_mem) e.sign_mem (.of_parts e.sequence.numberPart)

theorem floatSuffix_goesOn {suffix : List Char} (h : suffix ∈ floatSuffixes) : GoesOn suffix := by
  have hletters : ∀ suffix ∈ floatSuffixes, suffix.all isNumberPart = true := by decide
  exact .of_parts fun c hc => List.all_eq_true.1 (hletters suffix h) c hc

/-- What follows the digits and the point of a decimal literal belongs to the same token. -/
theorem Significand.isNumberToken (s : Significand 10) (htail : GoesOn tail) :
    IsNumberToken (s.text ++ tail) := by
  have hrest {d : Char} {rest : List Char} (h : IsSequence 10 (d :: rest)) : GoesOn rest :=
    .of_parts fun c hc => h.numberPart c (List.mem_cons_of_mem d hc)
  by_cases h : s.HasWhole
  · obtain ⟨w, fraction, htext, hw, hfraction⟩ := s.exists_whole h
    obtain ⟨d, rest, rfl, hd⟩ := hw.exists_digit
    have hfraction' := (hfraction fun hf => hf.hexPart).goesOn hexPart_part
    rw [htext]
    exact .digit hd (((hrest hw).append hfraction').append htail)
  · obtain ⟨f, htext, hf⟩ := s.exists_fractional h
    obtain ⟨d, rest, rfl, hd⟩ := hf.exists_digit
    rw [htext]
    exact .point hd ((hrest hf).append htail)

/-- Every floating literal is one token. -/
theorem FloatingLiteral.isNumberToken_text (a : FloatingLiteral) : IsNumberToken a.text := by
  cases a with
  | pointed s point suffix hsuffix => exact s.isNumberToken (floatSuffix_goesOn hsuffix)
  | scaled s e suffix hsuffix =>
    exact s.isNumberToken ((e.goesOn (forall_mem_of_all (by decide))).append (floatSuffix_goesOn hsuffix))
  | hexadecimal x hx s e suffix hsuffix =>
    refine .digit (by decide) (.part ?_ (s.goesOn.append ?_))
    · obtain rfl | rfl := hx <;> decide
    · exact (e.goesOn (forall_mem_of_all (by decide))).append (floatSuffix_goesOn hsuffix)

/-! ## §4 Numbers -/

theorem onlySuffix_append {rest suffix : List Char} (hsuffix : suffix ∈ floatSuffixes)
    (hrest : ∀ c ∈ rest.head?, c = charMark) :
    onlySuffix (some (rest ++ suffix)) = true ↔ rest = [] := by
  have hall : ∀ suffix ∈ floatSuffixes, onlySuffix (some suffix) = true := by decide
  cases rest with
  | nil => simpa using hall suffix hsuffix
  | cons c rest =>
    obtain rfl := hrest c rfl
    have hmark : isSuffixLetter charMark = false := by decide
    rw [onlySuffix, List.cons_append, List.dropWhile_cons_of_neg (by simp [hmark])]
    simp [atLineEnd, charMark]

/-- The digits of an exponent are gone over up to the first separator. -/
theorem Exponent.exponent?_append {marks suffix : List Char} {isMark : Char → Bool} (e : Exponent marks)
    (hmarks : ∀ c, isMark c = true ↔ c ∈ marks) (hsuffix : suffix ∈ floatSuffixes) :
    exponent? isMark (e.text ++ suffix) = some (e.body.dropWhile isDigit ++ suffix) := by
  obtain ⟨d, rest, hbody, hd⟩ := e.sequence.exists_digit
  have hdigits : ∀ suffix ∈ floatSuffixes, suffix.dropWhile isDigit = suffix := by decide
  have hdrop : (rest ++ suffix).dropWhile isDigit = rest.dropWhile isDigit ++ suffix := by
    rw [List.dropWhile_append]
    split
    · next hnil =>
      rw [List.isEmpty_iff.1 hnil]
      exact hdigits suffix hsuffix
    · rfl
  rw [Exponent.text, hbody, List.cons_append, List.append_assoc, List.cons_append,
    exponent?_signed ((hmarks e.mark).2 e.mark_mem) e.sign_mem hd, hdrop,
    List.dropWhile_cons_of_pos hd]

/-- A separator is left exactly if there is one. -/
theorem IsSequence.dropWhile_eq_nil_iff {body : List Char} (h : IsSequence 10 body) :
    body.dropWhile isDigit = [] ↔ charMark ∉ body := by
  rw [List.dropWhile_eq_nil_iff]
  constructor
  · intro hall hmem
    exact absurd (hall charMark hmem) (by decide)
  · intro hmark c hc
    obtain hdecimal | rfl := h.digit_or_mark hc
    · exact (IntegerLiteral.decimal_facts c hdecimal).1
    · exact absurd hc hmark

/-- What is left behind the digits of an exponent starts with a separator. -/
theorem IsSequence.head?_dropWhile {body : List Char} (h : IsSequence 10 body) :
    ∀ c ∈ (body.dropWhile isDigit).head?, c = charMark := fun c hc => by
  have hno := List.head?_dropWhile_not isDigit body
  rw [hc] at hno
  have hmem : c ∈ body := (List.dropWhile_sublist _).subset (List.mem_of_mem_head? hc)
  obtain hdecimal | rfl := h.digit_or_mark hmem
  · simp [(IntegerLiteral.decimal_facts c hdecimal).1] at hno
  · rfl

/-- The digits and the point of a decimal literal are gone over. -/
theorem Significand.decimalNumber?_append (s : Significand 10)
    (htail : ∀ c ∈ tail.head?, isDecimalPart c = false ∧ c ≠ '.') :
    decimalNumber? (s.text ++ tail) = exponent? (fun c => c == 'e' || c == 'E') tail := by
  have hrest {d : Char} {rest : List Char} (h : IsSequence 10 (d :: rest)) :
      ∀ c ∈ rest, isDecimalPart c = true := fun c hc => h.decimalPart c (List.mem_cons_of_mem d hc)
  by_cases h : s.HasWhole
  · obtain ⟨w, fraction, htext, hw, hfraction⟩ := s.exists_whole h
    obtain ⟨d, rest, rfl, hd⟩ := hw.exists_digit
    rw [htext, List.append_assoc, List.cons_append, decimalNumber?_of_digit hd,
      List.dropWhile_append_of_pos (hrest hw),
      afterFraction_append_of_head (hfraction fun hf => hf.decimalPart) apart_decimal.part_point htail]
  · obtain ⟨f, htext, hf⟩ := s.exists_fractional h
    obtain ⟨d, rest, rfl, hd⟩ := hf.exists_digit
    rw [htext, List.cons_append, List.cons_append, decimalNumber?_of_point hd,
      dropWhile_append_of_head (hrest hf) fun c hc => (htail c hc).1]

/-- Those of a hexadecimal literal are if digits come first. -/
theorem Significand.hexNumber?_append {x : Char} (hx : x = 'x' ∨ x = 'X') {s : Significand 16}
    (h : s.HasWhole) (htail : ∀ c ∈ tail.head?, isHexPart c = false ∧ c ≠ '.') :
    hexNumber? ('0' :: x :: (s.text ++ tail)) = exponent? (fun c => c == 'p' || c == 'P') tail := by
  have hmark : (x == 'x' || x == 'X') = true := by simpa using hx
  obtain ⟨w, fraction, htext, hw, hfraction⟩ := s.exists_whole h
  obtain ⟨d, rest, rfl, -⟩ := hw.exists_cons
  have htake : ((d :: rest ++ (fraction ++ tail)).takeWhile isHexPart).isEmpty = false := by
    rw [List.takeWhile_append_of_pos hw.hexPart]
    rfl
  rw [htext, List.append_assoc, hexNumber?_of_mark, hmark, htake, if_pos (by decide),
    List.dropWhile_append_of_pos hw.hexPart,
    afterFraction_append_of_head (hfraction fun hf => hf.hexPart) apart_hexadecimal.part_point htail]

/-- Behind the mark of the radix nothing is found if the point comes first. -/
theorem Significand.hexNumber?_eq_none {s : Significand 16} (h : ¬ s.HasWhole) (x : Char)
    (tail : List Char) : hexNumber? ('0' :: x :: (s.text ++ tail)) = none := by
  obtain ⟨f, htext, -⟩ := s.exists_fractional h
  have hpoint : isHexPart '.' = false := by decide
  rw [htext, hexNumber?_of_mark, List.cons_append, List.takeWhile_cons_of_neg (by simp [hpoint])]
  simp

end Tokens

/-! ## §5 Literals -/

/-- The characters of a decimal floating literal. -/
def decimalLetters : List Char := "0123456789'.eE+-flFL".toList

section Letters

theorem no_radix_mark : ∀ c ∈ ['x', 'X', 'b', 'B'], c ∉ decimalLetters :=
  forall_mem_of_all (by decide)

theorem IsSequence.mem_decimalLetters {body : List Char} (h : IsSequence 10 body) :
    ∀ c ∈ body, c ∈ decimalLetters := fun c hc => by
  have hdigits : "0123456789".toList ⊆ decimalLetters := by decide
  obtain hdecimal | rfl := h.digit_or_mark hc
  · exact hdigits hdecimal
  · decide

theorem Significand.mem_decimalLetters (s : Significand 10) : ∀ c ∈ s.text, c ∈ decimalLetters := by
  have hpoint : '.' ∈ decimalLetters := by decide
  cases s with
  | whole w hw => exact hw.mem_decimalLetters
  | closed w hw => exact List.forall_mem_append.2 ⟨hw.mem_decimalLetters, by simpa using hpoint⟩
  | mixed w f hw hf =>
    exact List.forall_mem_append.2
      ⟨hw.mem_decimalLetters, List.forall_mem_cons.2 ⟨hpoint, hf.mem_decimalLetters⟩⟩
  | fractional f hf => exact List.forall_mem_cons.2 ⟨hpoint, hf.mem_decimalLetters⟩

theorem Exponent.mem_decimalLetters (e : Exponent decimalMarks) : ∀ c ∈ e.text, c ∈ decimalLetters := by
  have hmarks : decimalMarks ⊆ decimalLetters := by decide
  have hsigns : ∀ sign ∈ signs, sign ⊆ decimalLetters := by decide
  exact List.forall_mem_cons.2 ⟨hmarks e.mark_mem,
    List.forall_mem_append.2 ⟨hsigns e.sign e.sign_mem, e.sequence.mem_decimalLetters⟩⟩

theorem floatSuffix_subset_decimalLetters : ∀ suffix ∈ floatSuffixes, suffix ⊆ decimalLetters := by
  decide

end Letters

/-- Without the mark of a radix only the form of decimal numbers is left. -/
theorem isNumber_eq_decimal {cs : List Char} (h : ∀ c ∈ cs, c ∈ decimalLetters) :
    isNumber cs = onlySuffix (decimalNumber? cs) := by
  have hno (c : Char) (hc : c ∈ ['x', 'X', 'b', 'B']) : c ∉ cs := fun hmem =>
    no_radix_mark c hc (h c hmem)
  have hhex : hexNumber? cs = none := by
    unfold hexNumber?
    split
    · next x cs =>
      have hx : x ≠ 'x' ∧ x ≠ 'X' := by
        constructor <;> rintro rfl
        · exact hno 'x' (by decide) (by simp)
        · exact hno 'X' (by decide) (by simp)
      simp [hx]
    · rfl
  have hbinary : binaryNumber? cs = none := by
    unfold binaryNumber?
    split
    · next b cs =>
      have hb : b ≠ 'b' ∧ b ≠ 'B' := by
        constructor <;> rintro rfl
        · exact hno 'b' (by decide) (by simp)
        · exact hno 'B' (by decide) (by simp)
      simp [hb]
    · rfl
  simp [isNumber, hhex, hbinary, onlySuffix]

/-- Behind the mark of a hexadecimal number only that form is left. -/
theorem isNumber_eq_hexadecimal {x : Char} (hx : x = 'x' ∨ x = 'X') (cs : List Char) :
    isNumber ('0' :: x :: cs) = onlySuffix (hexNumber? ('0' :: x :: cs)) := by
  have hfacts : ∀ x ∈ ['x', 'X'], x ≠ 'b' ∧ x ≠ 'B' ∧ isDecimalPart x = false ∧ x ≠ '.' ∧
      (x == 'e' || x == 'E') = false ∧ isSuffixLetter x = false ∧ x ≠ '\n' :=
    forall_mem_of_all (by decide)
  obtain ⟨hb, hB, hpart, hpoint, hmark, hsuffix, hline⟩ := hfacts x (by simpa using hx)
  have hbinary : binaryNumber? ('0' :: x :: cs) = none := by simp [binaryNumber?, hb, hB]
  have hdecimal : decimalNumber? ('0' :: x :: cs) = some (x :: cs) := by
    have hhead : ∀ c ∈ (x :: cs).head?, c ≠ '.' := by
      rintro _ ⟨⟩
      exact hpoint
    rw [decimalNumber?_of_digit (by decide), List.dropWhile_cons_of_neg (by simp [hpart]),
      afterFraction_of_head hhead, exponent?_of_head]
    rintro _ ⟨⟩
    exact hmark
  have hrest : onlySuffix (some (x :: cs)) = false := by
    rw [onlySuffix, List.dropWhile_cons_of_neg (by simp [hsuffix])]
    cases cs <;> simp [atLineEnd, hline]
  rw [isNumber, hbinary, hdecimal, hrest, Bool.or_false]
  exact Bool.or_false _

section Recognised

variable {suffix : List Char}

/-- A mark, digits and a suffix are the rest of a number exactly if the digits are not separated. -/
theorem Exponent.onlySuffix_exponent?_iff {marks : List Char} {isMark : Char → Bool} (e : Exponent marks)
    (hmarks : ∀ c, isMark c = true ↔ c ∈ marks) (hsuffix : suffix ∈ floatSuffixes) :
    onlySuffix (exponent? isMark (e.text ++ suffix)) = true ↔ charMark ∉ e.body := by
  rw [e.exponent?_append hmarks hsuffix, onlySuffix_append hsuffix e.sequence.head?_dropWhile,
    e.sequence.dropWhile_eq_nil_iff]

theorem Significand.isNumber_suffix (s : Significand 10) (hsuffix : suffix ∈ floatSuffixes) :
    isNumber (s.text ++ suffix) = true := by
  have hletters : ∀ suffix ∈ floatSuffixes, suffix ⊆ "flFL".toList := by decide
  have hfacts : ∀ c ∈ "flFL".toList, (isDecimalPart c = false ∧ c ≠ '.') ∧
      (c == 'e' || c == 'E') = false := forall_mem_of_all (by decide)
  have hhead : ∀ c ∈ suffix.head?, (isDecimalPart c = false ∧ c ≠ '.') ∧ (c == 'e' || c == 'E') = false :=
    fun c hc => hfacts c (hletters suffix hsuffix (List.mem_of_mem_head? hc))
  have honly : ∀ suffix ∈ floatSuffixes, onlySuffix (some suffix) = true := by decide
  rw [isNumber_eq_decimal
      (List.forall_mem_append.2 ⟨s.mem_decimalLetters, floatSuffix_subset_decimalLetters suffix hsuffix⟩),
    s.decimalNumber?_append fun c hc => (hhead c hc).1, exponent?_of_head fun c hc => (hhead c hc).2]
  exact honly suffix hsuffix

theorem Significand.isNumber_scaled_iff (s : Significand 10) (e : Exponent decimalMarks)
    (hsuffix : suffix ∈ floatSuffixes) :
    isNumber (s.text ++ (e.text ++ suffix)) = true ↔ charMark ∉ e.body := by
  have hmarks : ∀ c ∈ decimalMarks, isDecimalPart c = false ∧ c ≠ '.' :=
    forall_mem_of_all (by decide)
  have hletters : ∀ c ∈ s.text ++ (e.text ++ suffix), c ∈ decimalLetters :=
    List.forall_mem_append.2 ⟨s.mem_decimalLetters,
      List.forall_mem_append.2 ⟨e.mem_decimalLetters, floatSuffix_subset_decimalLetters suffix hsuffix⟩⟩
  rw [isNumber_eq_decimal hletters, s.decimalNumber?_append,
    e.onlySuffix_exponent?_iff isMark_decimal hsuffix]
  rintro _ ⟨⟩
  exact hmarks e.mark e.mark_mem

theorem Significand.isNumber_hexadecimal_iff {x : Char} (hx : x = 'x' ∨ x = 'X') (s : Significand 16)
    (e : Exponent binaryMarks) (hsuffix : suffix ∈ floatSuffixes) :
    isNumber ('0' :: x :: (s.text ++ (e.text ++ suffix))) = true ↔ s.HasWhole ∧ charMark ∉ e.body := by
  have hmarks : ∀ c ∈ binaryMarks, isHexPart c = false ∧ c ≠ '.' :=
    forall_mem_of_all (by decide)
  rw [isNumber_eq_hexadecimal hx]
  by_cases h : s.HasWhole
  · rw [s.hexNumber?_append hx h, e.onlySuffix_exponent?_iff isMark_binary hsuffix]
    · exact (and_iff_right h).symm
    · rintro _ ⟨⟩
      exact hmarks e.mark e.mark_mem
  · rw [s.hexNumber?_eq_none h]
    exact iff_of_false nofun fun hplain => h hplain.1

/-- The text is a number exactly if the literal is plain. -/
theorem FloatingLiteral.isNumber_text_iff (a : FloatingLiteral) : isNumber a.text = true ↔ a.IsPlain := by
  cases a with
  | pointed s point suffix hsuffix => exact iff_of_true (s.isNumber_suffix hsuffix) trivial
  | scaled s e suffix hsuffix => exact s.isNumber_scaled_iff e hsuffix
  | hexadecimal x hx s e suffix hsuffix => exact s.isNumber_hexadecimal_iff hx e hsuffix

end Recognised

/-- The text of a floating literal is one token. It is taken for a literal, as it is written, exactly if
no separators stand in the exponent and digits stand behind the mark of the radix, and is otherwise taken
for none. -/
theorem floating_literal_recognised_iff (a : FloatingLiteral) :
    tokens a.text = [a.text] ∧
      (singleLiteral? [String.ofList a.text] = some (String.ofList a.text) ↔ a.IsPlain) ∧
      (singleLiteral? [String.ofList a.text] = none ↔ ¬ a.IsPlain) := by
  rw [a.isNumberToken_text.singleLiteral?_eq, ← a.isNumber_text_iff]
  exact ⟨a.isNumberToken_text.tokens_eq, by simp, by simp⟩

/-- A hexadecimal literal whose point comes first is missed, and so is a separator in an exponent. -/
theorem fraction_of_sixteenths_missed :
    (∃ a : FloatingLiteral, a.text = "0x.8p1".toList ∧
      singleLiteral? [String.ofList a.text] ≠ some (String.ofList a.text)) ∧
    ∃ a : FloatingLiteral, a.text = "1e1'0".toList ∧
      singleLiteral? [String.ofList a.text] ≠ some (String.ofList a.text) := by
  refine ⟨⟨.hexadecimal 'x' (.inl rfl) (.fractional ['8'] ⟨['8'], by decide, .last '8'⟩)
    ⟨'p', [], ['1'], by decide, by decide, ['1'], by decide, .last '1'⟩ [] (by decide), rfl, ?_⟩,
    ⟨.scaled (.whole ['1'] ⟨['1'], by decide, .last '1'⟩)
      ⟨'e', [], "1'0".toList, by decide, by decide, "10".toList, by decide, .apart '1' (.last '0')⟩
      [] (by decide), rfl, ?_⟩⟩
  · decide +kernel
  · decide +kernel

end Literal

end CppIdioms
