import CppIdioms.Literal.Single
import CppIdioms.Proofs.Numerals
import CppIdioms.Proofs.Tokens

/-!
# The forms of numbers

The reader of numbers goes over a text once and takes at each point as much as fits. Here the texts that
it takes are described without it: by a radix, by parts that may be absent, by letters at the end. A
suffix may begin with letters that are hexadecimal digits as well, so that a text can have its form in
several ways; the reader finds one of them whenever there is one.

A token that starts like a number goes on for as long as it can, whether or not a number comes of it.
The forms of numbers are among the texts that such a token takes as a whole.

## Contents

* `FractionForm`, `ExponentForm`, `NumberForm`: the parts of numbers, and numbers without their suffix.
* `IsNumberText`: numbers. `Lined`: texts with a line feed at their end or without.
* `GoesOn`, `IsNumberToken`: what one token takes that starts like a number.

## Main statements

* `isNumber_iff`, `isString_iff`, `isChar_iff`: the readers of whole literals find exactly those.
* `tokens_number_append`: a text that starts like a number is one token in front of what ends it.
-/

namespace CppIdioms

open CppIdioms.Text

namespace Literal

/-! ## §1 Forms -/

/-- Nothing, or a point and the digits behind it, of which there may be none. -/
inductive FractionForm (part : Char → Bool) : List Char → Prop where
  | absent : FractionForm part []
  | present {digits : List Char} (parts : ∀ c ∈ digits, part c = true) :
      FractionForm part ('.' :: digits)

/-- What may stand between the mark of an exponent and its digits. -/
def signs : List (List Char) := [[], ['+'], ['-']]

/-- Nothing, or a mark, a sign or none, and digits without separators. -/
inductive ExponentForm (marks : List Char) : List Char → Prop where
  | absent : ExponentForm marks []
  | present {mark : Char} {sign digits : List Char} (mark_mem : mark ∈ marks) (sign_mem : sign ∈ signs)
      (nonempty : digits ≠ []) (digit : ∀ d ∈ digits, isDigit d = true) :
      ExponentForm marks (mark :: (sign ++ digits))

/-- The marks of hexadecimal and of decimal exponents. -/
def binaryMarks : List Char := ['p', 'P']

@[inherit_doc binaryMarks]
def decimalMarks : List Char := ['e', 'E']

/-- A number without its suffix. Separators may stand anywhere among the digits but in an exponent and at
the start of a decimal number. -/
inductive NumberForm : List Char → Prop where
  | hexadecimal {x : Char} {whole fraction exponent : List Char} (mark : x = 'x' ∨ x = 'X')
      (nonempty : whole ≠ []) (parts : ∀ c ∈ whole, isHexPart c = true)
      (hfraction : FractionForm isHexPart fraction) (hexponent : ExponentForm binaryMarks exponent) :
      NumberForm ('0' :: x :: (whole ++ (fraction ++ exponent)))
  | binary {b : Char} {digits : List Char} (mark : b = 'b' ∨ b = 'B') (nonempty : digits ≠ [])
      (parts : ∀ c ∈ digits, isBinaryPart c = true) : NumberForm ('0' :: b :: digits)
  | decimal {d : Char} {digits fraction exponent : List Char} (digit : isDigit d = true)
      (parts : ∀ c ∈ digits, isDecimalPart c = true) (hfraction : FractionForm isDecimalPart fraction)
      (hexponent : ExponentForm decimalMarks exponent) :
      NumberForm (d :: (digits ++ (fraction ++ exponent)))
  | fractional {d : Char} {digits exponent : List Char} (digit : isDigit d = true)
      (parts : ∀ c ∈ digits, isDecimalPart c = true)
      (hexponent : ExponentForm decimalMarks exponent) :
      NumberForm ('.' :: d :: (digits ++ exponent))

/-- A number with any run of letters behind it that suffixes consist of. -/
def IsNumberText (text : List Char) : Prop :=
  ∃ number suffix, NumberForm number ∧ (∀ c ∈ suffix, isSuffixLetter c = true) ∧
    text = number ++ suffix

/-- The text has a form, except perhaps for a line feed at its end. -/
def Lined (form : List Char → Prop) (text : List Char) : Prop :=
  ∃ body ending, form body ∧ (ending = [] ∨ ending = ['\n']) ∧ text = body ++ ending

theorem atLineEnd_iff {cs : List Char} : atLineEnd cs = true ↔ cs = [] ∨ cs = ['\n'] := by
  unfold atLineEnd
  split <;> simp_all

/-! ## §2 Ends -/

/-- Suffix letters and perhaps a line feed: all that may follow a number. -/
def Trailing (cs : List Char) : Prop := Lined (fun suffix => ∀ c ∈ suffix, isSuffixLetter c = true) cs

section Ends

variable {cs ds : List Char} {part : Char → Bool} {marks : List Char} {isMark : Char → Bool}

/-- The characters that may follow a number. -/
def trailers : List Char := '\n' :: "uUlLfFzZ".toList

theorem trailer_facts : ∀ c ∈ trailers, isDigit c = false ∧ isBinaryPart c = false ∧ c ≠ '.' :=
  forall_mem_of_all (by decide)

theorem Trailing.mem (h : Trailing cs) {c : Char} (hc : c ∈ cs) : c ∈ trailers := by
  obtain ⟨suffix, ending, hsuffix, hending, rfl⟩ := h
  obtain hc | hc := List.mem_append.1 hc
  · exact List.mem_cons_of_mem _ (List.contains_iff_mem.1 (hsuffix c hc))
  · obtain rfl | rfl := hending
    · cases hc
    · exact List.mem_singleton.1 hc ▸ List.mem_cons_self

theorem onlySuffix_iff {rest : Option (List Char)} :
    onlySuffix rest = true ↔ ∃ cs, rest = some cs ∧ Trailing cs := by
  cases rest with
  | none => simp [onlySuffix]
  | some cs =>
    rw [onlySuffix, atLineEnd_iff]
    constructor
    · intro hend
      refine ⟨cs, rfl, cs.takeWhile isSuffixLetter, cs.dropWhile isSuffixLetter, ?_, hend, ?_⟩
      · exact fun c hc => List.mem_takeWhile_imp hc
      · exact List.takeWhile_append_dropWhile.symm
    · rintro ⟨_, ⟨⟩, suffix, ending, hsuffix, hending, rfl⟩
      obtain rfl | rfl := hending
      · left
        simpa using hsuffix
      · right
        exact dropWhile_append_of_head hsuffix (by rintro _ ⟨⟩; decide)

/-- Behind some of the suffix letters there are suffix letters. -/
theorem Trailing.dropWhile (h : Trailing cs) (p : Char → Bool) : Trailing (cs.dropWhile p) := by
  obtain ⟨suffix, ending, hsuffix, hending, rfl⟩ := h
  induction suffix with
  | nil =>
    refine ⟨[], _, nofun, ?_, rfl⟩
    obtain rfl | rfl := hending
    · exact .inl rfl
    · cases hp : p '\n' <;> simp [hp]
  | cons c suffix ih =>
    rw [List.cons_append, List.dropWhile_cons]
    split
    · exact ih fun d hd => hsuffix d (List.mem_cons_of_mem _ hd)
    · exact ⟨c :: suffix, ending, hsuffix, hending, rfl⟩

/-! ## §3 Parts -/

/-- What follows an optional point and the digits behind it. -/
def afterFraction (part : Char → Bool) : List Char → List Char
  | '.' :: more => more.dropWhile part
  | other => other

theorem exists_fraction (part : Char → Bool) (cs : List Char) :
    ∃ fraction, FractionForm part fraction ∧ cs = fraction ++ afterFraction part cs := by
  unfold afterFraction
  split
  · next more =>
    refine ⟨'.' :: more.takeWhile part, .present fun c hc => List.mem_takeWhile_imp hc, ?_⟩
    rw [List.cons_append, List.takeWhile_append_dropWhile]
  · exact ⟨[], .absent, rfl⟩

theorem afterFraction_of_head (h : ∀ c ∈ cs.head?, c ≠ '.') : afterFraction part cs = cs := by
  unfold afterFraction
  split
  · exact absurd rfl (h '.' rfl)
  · rfl

/-- Digits, a fraction and more digits, if the fraction is absent, are gone over. -/
theorem afterFraction_append {fraction : List Char} (h : FractionForm part fraction)
    (hpoint : part '.' = false) (hhead : ∀ c ∈ (cs.dropWhile part).head?, c ≠ '.') :
    afterFraction part ((fraction ++ cs).dropWhile part) = cs.dropWhile part := by
  cases h with
  | absent => exact afterFraction_of_head hhead
  | @present digits parts =>
    rw [List.cons_append, List.dropWhile_cons_of_neg (by simp [hpoint]), afterFraction,
      List.dropWhile_append_of_pos parts]

theorem afterFraction_append_of_head {fraction : List Char} (h : FractionForm part fraction)
    (hpoint : part '.' = false) (hhead : ∀ c ∈ cs.head?, part c = false ∧ c ≠ '.') :
    afterFraction part ((fraction ++ cs).dropWhile part) = cs := by
  have hdrop : cs.dropWhile part = cs :=
    @dropWhile_append_of_head part [] cs nofun fun c hc => (hhead c hc).1
  rw [afterFraction_append h hpoint, hdrop]
  rw [hdrop]
  exact fun c hc => (hhead c hc).2

/-- What follows an optional sign. -/
def afterSign (cs : List Char) : List Char :=
  match cs with
  | '+' :: more => more
  | '-' :: more => more
  | _ => cs

theorem exists_sign (cs : List Char) : ∃ sign ∈ signs, cs = sign ++ afterSign cs := by
  unfold afterSign
  split
  · exact ⟨['+'], by simp [signs], rfl⟩
  · exact ⟨['-'], by simp [signs], rfl⟩
  · exact ⟨[], by simp [signs], rfl⟩

theorem afterSign_append {sign digits : List Char} {d : Char} (hsign : sign ∈ signs)
    (hd : isDigit d = true) : afterSign (sign ++ d :: digits) = d :: digits := by
  have hplus : d ≠ '+' := by
    rintro rfl
    exact absurd hd (by decide)
  have hminus : d ≠ '-' := by
    rintro rfl
    exact absurd hd (by decide)
  simp only [signs, List.mem_cons, List.not_mem_nil, or_false] at hsign
  obtain rfl | rfl | rfl := hsign
  · unfold afterSign
    split
    · next heq => exact absurd (List.cons.inj heq).1 hplus
    · next heq => exact absurd (List.cons.inj heq).1 hminus
    · rfl
  · rfl
  · rfl

theorem exponent?_of_mark {mark : Char} (hmark : isMark mark = true) (cs : List Char) :
    exponent? isMark (mark :: cs) = if ((afterSign cs).takeWhile isDigit).isEmpty then none
      else some ((afterSign cs).dropWhile isDigit) := by
  unfold exponent?
  dsimp only
  rw [if_pos hmark]
  rfl

theorem exponent?_signed {mark d : Char} {sign digits : List Char} (hmark : isMark mark = true)
    (hsign : sign ∈ signs) (hd : isDigit d = true) :
    exponent? isMark (mark :: (sign ++ d :: digits)) = some (digits.dropWhile isDigit) := by
  rw [exponent?_of_mark hmark, afterSign_append hsign hd]
  simp [hd]

theorem exponent?_of_head (h : ∀ c ∈ cs.head?, isMark c = false) : exponent? isMark cs = some cs := by
  cases cs with
  | nil => rfl
  | cons c cs => simp [exponent?, h c rfl]

/-- An exponent is gone over as a whole. -/
theorem ExponentForm.exponent?_append {exponent : List Char} (h : ExponentForm marks exponent)
    (hmarks : ∀ c, isMark c = true ↔ c ∈ marks) (hcs : ∀ c ∈ cs.head?, isDigit c = false ∧ c ∉ marks) :
    exponent? isMark (exponent ++ cs) = some cs := by
  cases h with
  | absent =>
    exact exponent?_of_head fun c hc => Bool.eq_false_iff.2 fun hm => (hcs c hc).2 ((hmarks c).1 hm)
  | @present mark sign digits mark_mem sign_mem nonempty digit =>
    obtain ⟨d, ds, rfl⟩ := List.exists_cons_of_ne_nil nonempty
    obtain ⟨hd, hds⟩ := List.forall_mem_cons.1 digit
    rw [List.cons_append, List.append_assoc, List.cons_append,
      exponent?_signed ((hmarks mark).2 mark_mem) sign_mem hd,
      dropWhile_append_of_head hds fun c hc => (hcs c hc).1]

/-- What is gone over is an exponent. -/
theorem exists_exponent (hmarks : ∀ c, isMark c = true → c ∈ marks)
    (h : exponent? isMark cs = some ds) : ∃ exponent, ExponentForm marks exponent ∧ cs = exponent ++ ds := by
  cases cs with
  | nil =>
    cases h
    exact ⟨[], .absent, rfl⟩
  | cons c cs =>
    by_cases hmark : isMark c = true
    · rw [exponent?_of_mark hmark] at h
      split at h
      · cases h
      · next hdigits =>
        cases h
        obtain ⟨sign, hsign, hcs⟩ := exists_sign cs
        refine ⟨c :: (sign ++ (afterSign cs).takeWhile isDigit),
          .present (hmarks c hmark) hsign (by simpa using hdigits) ?_, ?_⟩
        · exact fun d hd => List.mem_takeWhile_imp hd
        · rw [List.cons_append, List.append_assoc, List.takeWhile_append_dropWhile, ← hcs]
    · rw [exponent?_of_head (by simpa using hmark)] at h
      cases h
      exact ⟨[], .absent, rfl⟩

/-- What a notation takes for digits, the point and the marks of its exponents exclude one another, and no
suffix starts like an exponent. -/
structure Apart (part : Char → Bool) (marks : List Char) : Prop where
  part_point : part '.' = false
  part_mark : ∀ m ∈ marks, part m = false
  trailer : ∀ c ∈ trailers, c ∉ marks
  point : '.' ∉ marks

theorem apart_hexadecimal : Apart isHexPart binaryMarks :=
  ⟨by decide, forall_mem_of_all (by decide), forall_mem_of_all (by decide), by decide⟩

theorem apart_decimal : Apart isDecimalPart decimalMarks :=
  ⟨by decide, forall_mem_of_all (by decide), forall_mem_of_all (by decide), by decide⟩

/-- The digits in front of an exponent reach into the suffix at most. -/
theorem ExponentForm.exists_left {exponent : List Char} (h : ExponentForm marks exponent)
    (hapart : Apart part marks) (hcs : Trailing cs) : ∃ left, Trailing left ∧
      (exponent ++ cs).dropWhile part = exponent ++ left ∧ ∀ c ∈ (exponent ++ left).head?, c ≠ '.' := by
  have hleft {left : List Char} (h : Trailing left) : ∀ c ∈ left.head?, c ≠ '.' := fun c hc =>
    (trailer_facts c (h.mem (List.mem_of_mem_head? hc))).2.2
  cases h with
  | absent => exact ⟨_, hcs.dropWhile part, rfl, hleft (hcs.dropWhile part)⟩
  | present mark_mem =>
    refine ⟨cs, hcs, List.dropWhile_cons_of_neg (by simp [hapart.part_mark _ mark_mem]), ?_⟩
    rintro _ ⟨⟩ rfl
    exact hapart.point mark_mem

theorem ExponentForm.exponent?_trailing {exponent left : List Char} (h : ExponentForm marks exponent)
    (hapart : Apart part marks) (hmarks : ∀ c, isMark c = true ↔ c ∈ marks) (hleft : Trailing left) :
    exponent? isMark (exponent ++ left) = some left := by
  refine h.exponent?_append hmarks fun c hc => ?_
  have hmem := hleft.mem (List.mem_of_mem_head? hc)
  exact ⟨(trailer_facts c hmem).1, hapart.trailer c hmem⟩

/-- Behind digits, what is gone over is a fraction and an exponent. -/
theorem exists_fraction_exponent (part : Char → Bool) (hmarks : ∀ c, isMark c = true ↔ c ∈ marks)
    (h : exponent? isMark (afterFraction part (cs.dropWhile part)) = some ds) :
    ∃ fraction exponent, FractionForm part fraction ∧ ExponentForm marks exponent ∧
      cs = cs.takeWhile part ++ (fraction ++ exponent) ++ ds := by
  obtain ⟨fraction, hfraction, hcut⟩ := exists_fraction part (cs.dropWhile part)
  obtain ⟨exponent, hexponent, hrest⟩ := exists_exponent (fun c => (hmarks c).1) h
  refine ⟨fraction, exponent, hfraction, hexponent, ?_⟩
  calc cs = cs.takeWhile part ++ cs.dropWhile part := List.takeWhile_append_dropWhile.symm
    _ = cs.takeWhile part ++ (fraction ++ (exponent ++ ds)) := by rw [← hrest, ← hcut]
    _ = cs.takeWhile part ++ (fraction ++ exponent) ++ ds := by simp only [List.append_assoc]

/-- Behind digits, a fraction and an exponent are gone over. -/
theorem exists_left_of_fraction {fraction exponent : List Char} (hfraction : FractionForm part fraction)
    (hexponent : ExponentForm marks exponent) (hapart : Apart part marks)
    (hmarks : ∀ c, isMark c = true ↔ c ∈ marks) (hcs : Trailing cs) : ∃ left, Trailing left ∧
      exponent? isMark (afterFraction part ((fraction ++ (exponent ++ cs)).dropWhile part)) =
        some left := by
  obtain ⟨left, hleft, hcut, hhead⟩ := hexponent.exists_left hapart hcs
  refine ⟨left, hleft, ?_⟩
  rw [afterFraction_append hfraction hapart.part_point (hcut ▸ hhead), hcut]
  exact hexponent.exponent?_trailing hapart hmarks hleft

end Ends

/-! ## §4 Numbers -/

section Numbers

variable {cs rest text : List Char}

theorem isMark_binary (c : Char) : (c == 'p' || c == 'P') = true ↔ c ∈ binaryMarks := by
  simp [binaryMarks]

theorem isMark_decimal (c : Char) : (c == 'e' || c == 'E') = true ↔ c ∈ decimalMarks := by
  simp [decimalMarks]

theorem hexNumber?_of_mark (x : Char) (cs : List Char) : hexNumber? ('0' :: x :: cs) =
    if (x == 'x' || x == 'X') && !(cs.takeWhile isHexPart).isEmpty then
      exponent? (fun c => c == 'p' || c == 'P') (afterFraction isHexPart (cs.dropWhile isHexPart))
    else none := rfl

theorem decimalNumber?_of_digit {d : Char} (hd : isDigit d = true) (cs : List Char) :
    decimalNumber? (d :: cs) = exponent? (fun c => c == 'e' || c == 'E')
      (afterFraction isDecimalPart (cs.dropWhile isDecimalPart)) := by
  have hpoint : d ≠ '.' := by
    rintro rfl
    exact absurd hd (by decide)
  rw [decimalNumber?.eq_2 d cs fun _ _ h _ => hpoint h, if_pos hd]
  rfl

theorem decimalNumber?_of_point {d : Char} (hd : isDigit d = true) (cs : List Char) :
    decimalNumber? ('.' :: d :: cs) =
      exponent? (fun c => c == 'e' || c == 'E') (cs.dropWhile isDecimalPart) :=
  if_pos hd

theorem exists_hexadecimal (h : hexNumber? cs = some rest) :
    ∃ number, NumberForm number ∧ cs = number ++ rest := by
  unfold hexNumber? at h
  split at h
  · next x cs =>
    split at h
    · next hx =>
      rw [Bool.and_eq_true, Bool.or_eq_true, beq_iff_eq, beq_iff_eq] at hx
      obtain ⟨fraction, exponent, hfraction, hexponent, hcs⟩ :=
        exists_fraction_exponent isHexPart isMark_binary h
      refine ⟨'0' :: x :: (cs.takeWhile isHexPart ++ (fraction ++ exponent)),
        .hexadecimal hx.1 (by simpa using hx.2) (fun c hc => List.mem_takeWhile_imp hc)
          hfraction hexponent, ?_⟩
      rw [List.cons_append, List.cons_append, ← hcs]
    · cases h
  · cases h

theorem exists_binary (h : binaryNumber? cs = some rest) :
    ∃ number, NumberForm number ∧ cs = number ++ rest := by
  unfold binaryNumber? at h
  split at h
  · next b cs =>
    split at h
    · next hb =>
      rw [Bool.and_eq_true, Bool.or_eq_true, beq_iff_eq, beq_iff_eq] at hb
      cases h
      refine ⟨_, .binary hb.1 (by simpa using hb.2) fun c hc => List.mem_takeWhile_imp hc, ?_⟩
      rw [List.cons_append, List.cons_append, List.takeWhile_append_dropWhile]
    · cases h
  · cases h

theorem exists_decimal (h : decimalNumber? cs = some rest) :
    ∃ number, NumberForm number ∧ cs = number ++ rest := by
  unfold decimalNumber? at h
  split at h
  · next d cs =>
    split at h
    · next hd =>
      obtain ⟨exponent, hexponent, hrest⟩ := exists_exponent (fun c => (isMark_decimal c).1) h
      refine ⟨'.' :: d :: (cs.takeWhile isDecimalPart ++ exponent),
        .fractional hd (fun c hc => List.mem_takeWhile_imp hc) hexponent, ?_⟩
      rw [List.cons_append, List.cons_append, List.append_assoc, ← hrest,
        List.takeWhile_append_dropWhile]
    · cases h
  · next d cs _ =>
    split at h
    · next hd =>
      obtain ⟨fraction, exponent, hfraction, hexponent, hcs⟩ :=
        exists_fraction_exponent isDecimalPart isMark_decimal h
      refine ⟨d :: (cs.takeWhile isDecimalPart ++ (fraction ++ exponent)),
        .decimal hd (fun c hc => List.mem_takeWhile_imp hc) hfraction hexponent, ?_⟩
      rw [List.cons_append, ← hcs]
    · cases h
  · cases h

/-- Wherever suffix letters are taken for digits, suffix letters are left. -/
theorem NumberForm.isNumber_append {number trailing : List Char} (h : NumberForm number)
    (htrailing : Trailing trailing) : isNumber (number ++ trailing) = true := by
  rw [isNumber, Bool.or_eq_true, Bool.or_eq_true, onlySuffix_iff, onlySuffix_iff, onlySuffix_iff]
  cases h with
  | @hexadecimal x whole fraction exponent mark nonempty parts hfraction hexponent =>
    obtain ⟨left, hleft, hread⟩ :=
      exists_left_of_fraction hfraction hexponent apart_hexadecimal isMark_binary htrailing
    refine .inl (.inl ⟨left, ?_, hleft⟩)
    have hx : (x == 'x' || x == 'X') = true := by simpa using mark
    have hwhole : ((whole ++ (fraction ++ (exponent ++ trailing))).takeWhile isHexPart).isEmpty =
        false := by
      rw [List.takeWhile_append_of_pos parts]
      simp [nonempty]
    rw [List.cons_append, List.cons_append, List.append_assoc, List.append_assoc, hexNumber?_of_mark, hx,
      hwhole, if_pos (by decide), List.dropWhile_append_of_pos parts, hread]
  | @binary b digits mark nonempty parts =>
    refine .inl (.inr ⟨trailing, ?_, htrailing⟩)
    have hb : (b == 'b' || b == 'B') = true := by simpa using mark
    have hdigits : ((digits ++ trailing).takeWhile isBinaryPart).isEmpty = false := by
      rw [List.takeWhile_append_of_pos parts]
      simp [nonempty]
    rw [List.cons_append, List.cons_append, binaryNumber?, hb, hdigits, if_pos (by decide),
      dropWhile_append_of_head parts fun c hc =>
        (trailer_facts c (htrailing.mem (List.mem_of_mem_head? hc))).2.1]
  | @decimal d digits fraction exponent digit parts hfraction hexponent =>
    obtain ⟨left, hleft, hread⟩ :=
      exists_left_of_fraction hfraction hexponent apart_decimal isMark_decimal htrailing
    refine .inr ⟨left, ?_, hleft⟩
    rw [List.cons_append, List.append_assoc, List.append_assoc, decimalNumber?_of_digit digit,
      List.dropWhile_append_of_pos parts, hread]
  | @fractional d digits exponent digit parts hexponent =>
    obtain ⟨left, hleft, hcut, -⟩ := hexponent.exists_left apart_decimal htrailing
    refine .inr ⟨left, ?_, hleft⟩
    rw [List.cons_append, List.cons_append, List.append_assoc, decimalNumber?_of_point digit,
      List.dropWhile_append_of_pos parts, hcut]
    exact hexponent.exponent?_trailing apart_decimal isMark_decimal hleft

/-- The reader finds exactly the numbers. -/
theorem isNumber_iff : isNumber text = true ↔ Lined IsNumberText text := by
  constructor
  · intro h
    have hread : ∃ number rest, NumberForm number ∧ Trailing rest ∧ text = number ++ rest := by
      rw [isNumber, Bool.or_eq_true, Bool.or_eq_true, onlySuffix_iff, onlySuffix_iff,
        onlySuffix_iff] at h
      obtain (⟨rest, hrest, htrailing⟩ | ⟨rest, hrest, htrailing⟩) | ⟨rest, hrest, htrailing⟩ := h
      · obtain ⟨number, hnumber, htext⟩ := exists_hexadecimal hrest
        exact ⟨number, rest, hnumber, htrailing, htext⟩
      · obtain ⟨number, hnumber, htext⟩ := exists_binary hrest
        exact ⟨number, rest, hnumber, htrailing, htext⟩
      · obtain ⟨number, hnumber, htext⟩ := exists_decimal hrest
        exact ⟨number, rest, hnumber, htrailing, htext⟩
    obtain ⟨number, _, hnumber, ⟨suffix, ending, hsuffix, hending, rfl⟩, rfl⟩ := hread
    exact ⟨number ++ suffix, ending, ⟨number, suffix, hnumber, hsuffix, rfl⟩, hending,
      (List.append_assoc ..).symm⟩
  · rintro ⟨_, ending, ⟨number, suffix, hnumber, hsuffix, rfl⟩, hending, rfl⟩
    rw [List.append_assoc]
    exact hnumber.isNumber_append ⟨suffix, ending, hsuffix, hending, rfl⟩

end Numbers

/-! ## §5 Literals between quotes -/

section Whole

variable {text cs : List Char} {c : Char} {n : Nat}

/-- If a reader finds how far a literal reaches, its whole texts are the literals. -/
theorem isWhole_iff {tail? : Char → List Char → Option Nat} {form : List Char → Prop}
    (hnil : ¬ form []) (htail : ∀ {c cs n}, tail? c cs = some n ↔
      ∃ l, form l ∧ l <+: c :: cs ∧ l.length = n + 1) :
    isWhole tail? text = true ↔ Lined form text := by
  cases text with
  | nil =>
    refine ⟨nofun, ?_⟩
    rintro ⟨l, ending, hl, -, hnone⟩
    exact absurd ((List.append_eq_nil_iff.1 hnone.symm).1 ▸ hl) hnil
  | cons c cs =>
    rw [isWhole]
    constructor
    · intro h
      split at h
      · next n hn =>
        obtain ⟨l, hl, hopening, hlength⟩ := htail.1 hn
        refine ⟨l, cs.drop n, hl, atLineEnd_iff.1 h, ?_⟩
        rw [List.prefix_iff_eq_take.1 hopening, hlength, List.take_succ_cons, List.cons_append,
          List.take_append_drop]
      · cases h
    · rintro ⟨l, ending, hl, hending, htext⟩
      obtain ⟨d, ds, rfl⟩ := List.exists_cons_of_ne_nil fun h => hnil (h ▸ hl)
      obtain ⟨rfl, rfl⟩ := List.cons.inj htext
      have hread : tail? c (ds ++ ending) = some ds.length :=
        htail.2 ⟨c :: ds, hl, ⟨ending, rfl⟩, rfl⟩
      simpa only [List.append_eq, hread, List.drop_left] using atLineEnd_iff.2 hending

theorem stringTail?_eq_some_iff : stringTail? c cs = some n ↔
    ∃ l, IsStringLiteral l ∧ l <+: c :: cs ∧ l.length = n + 1 := by
  rw [stringTail?, literalTail?_eq_some_iff isQuote_stringMark]
  constructor
  · rintro ⟨encoding, hencoding, body, hbody, hopening, rfl⟩
    exact ⟨_, ⟨encoding, hencoding, body, hbody, rfl⟩, hopening, by rw [length_quoted]; omega⟩
  · rintro ⟨_, ⟨encoding, hencoding, body, hbody, rfl⟩, hopening, hlength⟩
    rw [length_quoted] at hlength
    exact ⟨encoding, hencoding, body, hbody, hopening, by omega⟩

theorem charTail?_eq_some_iff_literal : charTail? c cs = some n ↔
    ∃ l, IsCharLiteral l ∧ l <+: c :: cs ∧ l.length = n + 1 := by
  rw [charTail?_eq_some_iff]
  constructor
  · rintro ⟨encoding, hencoding, body, hne, hbody, hopening, rfl⟩
    exact ⟨_, ⟨encoding, hencoding, body, hne, hbody, rfl⟩, hopening, by rw [length_quoted]; omega⟩
  · rintro ⟨_, ⟨encoding, hencoding, body, hne, hbody, rfl⟩, hopening, hlength⟩
    rw [length_quoted] at hlength
    exact ⟨encoding, hencoding, body, hne, hbody, hopening, by omega⟩

theorem quoted_ne_nil (mark : Char) (encoding body : List Char) : quoted mark encoding body ≠ [] :=
  List.append_ne_nil_of_right_ne_nil _ (List.cons_ne_nil _ _)

theorem isString_iff : isString text = true ↔ Lined IsStringLiteral text := by
  refine isWhole_iff ?_ stringTail?_eq_some_iff
  rintro ⟨encoding, -, body, -, hnil⟩
  exact quoted_ne_nil _ _ _ hnil.symm

theorem isChar_iff : isChar text = true ↔ Lined IsCharLiteral text := by
  refine isWhole_iff ?_ charTail?_eq_some_iff_literal
  rintro ⟨encoding, -, body, -, -, hnil⟩
  exact quoted_ne_nil _ _ _ hnil.symm

end Whole

/-! ## §6 Tokens -/

/-- Digits, letters, points and separators. -/
def isNumberPart (c : Char) : Bool := isWord c || c == '.' || c == charMark

/-- Characters by which a number goes on: signs only behind the letters that may mark an exponent. -/
inductive GoesOn : List Char → Prop where
  | nil : GoesOn []
  | part {c : Char} {cs : List Char} (part : isNumberPart c = true) (rest : GoesOn cs) : GoesOn (c :: cs)
  | sign {mark sign : Char} {cs : List Char} (hmark : isExponentMark mark = true)
      (hsign : sign = '+' ∨ sign = '-') (rest : GoesOn cs) : GoesOn (mark :: sign :: cs)

/-- What a token takes that starts with a digit, or with a point and a digit. -/
inductive IsNumberToken : List Char → Prop where
  | digit {d : Char} {cs : List Char} (hdigit : isDigit d = true) (rest : GoesOn cs) :
      IsNumberToken (d :: cs)
  | point {d : Char} {cs : List Char} (hdigit : isDigit d = true) (rest : GoesOn cs) :
      IsNumberToken ('.' :: d :: cs)

/-- A number does not go on with what stands here. -/
def EndsNumber (rest : List Char) : Prop :=
  ∀ c ∈ rest.head?, isNumberPart c = false ∧ c ≠ '+' ∧ c ≠ '-'

section Tokens

variable {cs ds rest : List Char} {c : Char}

theorem signs_no_part : isNumberPart '+' = false ∧ isNumberPart '-' = false := by decide

theorem exponentMark_part (h : isExponentMark c = true) : isNumberPart c = true := by
  simp only [isExponentMark, Bool.or_eq_true, beq_iff_eq] at h
  obtain ((rfl | rfl) | rfl) | rfl := h <;> decide

theorem GoesOn.of_parts (h : ∀ c ∈ cs, isNumberPart c = true) : GoesOn cs := by
  induction cs with
  | nil => exact .nil
  | cons c cs ih =>
    obtain ⟨hc, hcs⟩ := List.forall_mem_cons.1 h
    exact .part hc (ih hcs)

theorem GoesOn.append (h : GoesOn cs) (hds : GoesOn ds) : GoesOn (cs ++ ds) := by
  induction h with
  | nil => exact hds
  | part part _ ih => exact .part part ih
  | sign hmark hsign _ ih => exact .sign hmark hsign ih

theorem GoesOn.exponent {mark : Char} {sign : List Char} (hmark : isExponentMark mark = true)
    (hsign : sign ∈ signs) (h : GoesOn cs) : GoesOn (mark :: (sign ++ cs)) := by
  simp only [signs, List.mem_cons, List.not_mem_nil, or_false] at hsign
  obtain rfl | rfl | rfl := hsign
  · exact .part (exponentMark_part hmark) h
  · exact .sign hmark (.inl rfl) h
  · exact .sign hmark (.inr rfl) h

/-- No sign stands in front. -/
theorem GoesOn.head?_ne (h : GoesOn cs) : ∀ c ∈ cs.head?, c ≠ '+' ∧ c ≠ '-' := by
  have hpart {c : Char} (hc : isNumberPart c = true) : c ≠ '+' ∧ c ≠ '-' := by
    constructor <;> rintro rfl
    · exact absurd hc (by simp [signs_no_part])
    · exact absurd hc (by simp [signs_no_part])
  cases h with
  | nil => nofun
  | part part => exact fun c hc => Option.some.inj hc ▸ hpart part
  | sign hmark => exact fun c hc => Option.some.inj hc ▸ hpart (exponentMark_part hmark)

theorem numberRest_of_ends (h : EndsNumber rest) : numberRest rest = 0 := by
  cases rest with
  | nil => rfl
  | cons c cs =>
    have hpart := (h c rfl).1
    have hmark : isExponentMark c = false :=
      Bool.eq_false_iff.2 fun hm => by simp [exponentMark_part hm] at hpart
    rw [isNumberPart] at hpart
    cases cs <;> simp [numberRest, hpart, hmark]

theorem numberRest_part (hc : isNumberPart c = true) (hrest : ∀ d ∈ rest.head?, d ≠ '+' ∧ d ≠ '-') :
    numberRest (c :: rest) = numberRest rest + 1 := by
  rw [isNumberPart] at hc
  cases rest with
  | nil => simp [numberRest, hc]
  | cons d ds =>
    obtain ⟨hplus, hminus⟩ := hrest d rfl
    rw [numberRest]
    simp [hplus, hminus, hc]

theorem GoesOn.numberRest_append (h : GoesOn cs) (hrest : EndsNumber rest) :
    numberRest (cs ++ rest) = cs.length := by
  induction h with
  | nil => exact numberRest_of_ends hrest
  | @part c cs part hcs ih =>
    have hhead : ∀ d ∈ (cs ++ rest).head?, d ≠ '+' ∧ d ≠ '-' := fun d hd => by
      rw [List.head?_append] at hd
      obtain hd | ⟨-, hd⟩ := Option.or_eq_some_iff.1 hd
      · exact hcs.head?_ne d hd
      · exact (hrest d hd).2
    rw [List.cons_append, numberRest_part part hhead, ih, List.length_cons]
  | @sign mark sign cs hmark hsign hcs ih =>
    have hsign' : (sign == '+' || sign == '-') = true := by simpa using hsign
    rw [List.cons_append, List.cons_append, numberRest]
    simp [hmark, hsign', ih]

/-- The first token of a text that does not start with a blank. -/
theorem tokens_cons (hc : isBlank c = false) (cs : List Char) :
    tokens (c :: cs) = (c :: cs.take (tokenTail c cs)) :: tokens (cs.drop (tokenTail c cs)) := by
  rw [tokens.eq_def]
  simp [hc]

/-- No literal between quotes starts like a number, and no blank does. -/
theorem literalTail?_of_number (hc : isDigit c = true ∨ c = '.') (cs : List Char) :
    stringTail? c cs = none ∧ charTail? c cs = none ∧ isBlank c = false := by
  have hother : ∀ d ∈ [stringMark, charMark, 'u', 'U', 'L'], isDigit d = false ∧ d ≠ '.' :=
    forall_mem_of_all (by decide)
  have hmem : c ∉ [stringMark, charMark, 'u', 'U', 'L'] := fun hm => by
    obtain ⟨hdigit, hpoint⟩ := hother c hm
    rcases hc with hc | hc
    · simp [hdigit] at hc
    · exact hpoint hc
  simp only [List.mem_cons, List.not_mem_nil, or_false, not_or] at hmem
  obtain ⟨hstring, hchar, hu, hU, hL⟩ := hmem
  refine ⟨by simp [stringTail?, literalTail?, hstring, hu, hU, hL],
    by simp [charTail?, literalTail?, hchar, hu, hU, hL], ?_⟩
  rcases hc with hc | rfl
  · exact word_not_blank (digit_word hc)
  · decide

theorem IsNumberToken.no_literal (h : IsNumberToken cs) : isString cs = false ∧ isChar cs = false := by
  cases h with
  | @digit d cs hdigit =>
    obtain ⟨hstring, hchar, -⟩ := literalTail?_of_number (.inl hdigit) cs
    simp [isString, isChar, isWhole, hstring, hchar]
  | @point d cs =>
    obtain ⟨hstring, hchar, -⟩ := literalTail?_of_number (.inr rfl) (d :: cs)
    simp [isString, isChar, isWhole, hstring, hchar]

/-- The number is one token in front of what ends it. -/
theorem tokens_number_append (h : IsNumberToken cs) (hrest : EndsNumber rest) :
    tokens (cs ++ rest) = cs :: tokens rest := by
  cases h with
  | @digit d cs hdigit hgoes =>
    obtain ⟨hstring, hchar, hblank⟩ := literalTail?_of_number (.inl hdigit) (cs ++ rest)
    have htail : tokenTail d (cs ++ rest) = cs.length := by
      simp [tokenTail, hstring, hchar, numberTail?, hdigit, hgoes.numberRest_append hrest]
    rw [List.cons_append, tokens_cons hblank, htail, List.take_left, List.drop_left]
  | @point d cs hdigit hgoes =>
    obtain ⟨hstring, hchar, hblank⟩ := literalTail?_of_number (.inr rfl) (d :: cs ++ rest)
    have hpoint : isDigit '.' = false := by decide
    have htail : tokenTail '.' (d :: cs ++ rest) = (d :: cs).length := by
      rw [tokenTail, hstring, hchar]
      simp [numberTail?, hpoint, hdigit, hgoes.numberRest_append hrest]
    rw [List.cons_append, tokens_cons hblank, htail, List.take_left, List.drop_left]

theorem IsNumberToken.tokens_eq (h : IsNumberToken cs) : tokens cs = [cs] := by
  have htokens : tokens (cs ++ []) = cs :: tokens [] := tokens_number_append h nofun
  rw [List.append_nil] at htokens
  rw [htokens, tokens.eq_def]

/-- The token is taken for a literal exactly if it is a number. -/
theorem IsNumberToken.singleLiteral?_eq (h : IsNumberToken cs) :
    singleLiteral? [String.ofList cs] = if isNumber cs then some (String.ofList cs) else none := by
  obtain ⟨hstring, hchar⟩ := h.no_literal
  rw [singleLiteral?, unparenthesize]
  simp [bareLiteral?, hstring, hchar]

/-! ## §7 Numbers as tokens -/

theorem hexPart_part (h : isHexPart c = true) : isNumberPart c = true := by
  simp only [isHexPart, Bool.or_eq_true, Bool.and_eq_true, decide_eq_true_eq, beq_iff_eq,
    Char.le_def, UInt32.le_iff_toNat_le] at h
  obtain h | rfl := h
  · have hvalue : c.toNat = c.val.toNat := rfl
    have hascii : c.toNat < 0x80 := by
      have hnine : '9'.val.toNat = 0x39 := rfl
      have hlower : 'f'.val.toNat = 0x66 := rfl
      have hupper : 'F'.val.toNat = 0x46 := rfl
      omega
    have hclass : c.isAlphanum = (decide ('A'.val ≤ c.val ∧ c.val ≤ 'Z'.val) ||
        ('a'.val ≤ c.val && c.val ≤ 'z'.val) || ('0'.val ≤ c.val && c.val ≤ '9'.val)) := rfl
    have hword : isWord c = true := by
      rw [isWord, if_pos hascii, hclass]
      simp only [UInt32.le_iff_toNat_le, Bool.or_eq_true, Bool.and_eq_true, decide_eq_true_eq]
      simp at h ⊢
      omega
    simp [isNumberPart, hword]
  · decide

theorem decimalPart_part (h : isDecimalPart c = true) : isNumberPart c = true := by
  rw [isDecimalPart, Bool.or_eq_true, beq_iff_eq] at h
  obtain h | rfl := h
  · simp [isNumberPart, digit_word h]
  · decide

theorem binaryPart_part (h : isBinaryPart c = true) : isNumberPart c = true := by
  simp only [isBinaryPart, Bool.or_eq_true, beq_iff_eq] at h
  obtain (rfl | rfl) | rfl := h <;> decide

theorem letter_part : ∀ c ∈ ['x', 'X', 'b', 'B'] ++ "uUlLfFzZ".toList, isNumberPart c = true :=
  forall_mem_of_all (by decide)

theorem FractionForm.goesOn {part : Char → Bool} {fraction : List Char}
    (h : FractionForm part fraction) (hpart : ∀ {c}, part c = true → isNumberPart c = true) :
    GoesOn fraction := by
  cases h with
  | absent => exact .nil
  | present parts => exact .part (by decide) (.of_parts fun c hc => hpart (parts c hc))

theorem ExponentForm.goesOn {marks exponent : List Char} (h : ExponentForm marks exponent)
    (hmarks : ∀ m ∈ marks, isExponentMark m = true) : GoesOn exponent := by
  cases h with
  | absent => exact .nil
  | present mark_mem sign_mem nonempty digit =>
    refine .exponent (hmarks _ mark_mem) sign_mem (.of_parts fun d hd => ?_)
    simp [isNumberPart, digit_word (digit d hd)]

/-- Every number is one token. -/
theorem IsNumberText.isNumberToken (h : IsNumberText cs) : IsNumberToken cs := by
  obtain ⟨number, suffix, hnumber, hsuffix, rfl⟩ := h
  have hletters : GoesOn suffix := .of_parts fun c hc =>
    letter_part c (List.mem_append_right _ (List.contains_iff_mem.1 (hsuffix c hc)))
  have hzero : isDigit '0' = true := by decide
  cases hnumber with
  | hexadecimal mark nonempty parts hfraction hexponent =>
    refine .digit hzero (.part (letter_part _ ?_) (.append (.append ?_ ?_) hletters))
    · obtain rfl | rfl := mark <;> decide
    · exact .of_parts fun c hc => hexPart_part (parts c hc)
    · exact (hfraction.goesOn hexPart_part).append (hexponent.goesOn (forall_mem_of_all (by decide)))
  | binary mark nonempty parts =>
    refine .digit hzero (.part (letter_part _ ?_) (.append ?_ hletters))
    · obtain rfl | rfl := mark <;> decide
    · exact .of_parts fun c hc => binaryPart_part (parts c hc)
  | decimal digit parts hfraction hexponent =>
    refine .digit digit (.append (.append ?_ ?_) hletters)
    · exact .of_parts fun c hc => decimalPart_part (parts c hc)
    · exact (hfraction.goesOn decimalPart_part).append (hexponent.goesOn (forall_mem_of_all (by decide)))
  | fractional digit parts hexponent =>
    refine .point digit (.append (.append ?_ ?_) hletters)
    · exact .of_parts fun c hc => decimalPart_part (parts c hc)
    · exact hexponent.goesOn (forall_mem_of_all (by decide))

end Tokens

end Literal

end CppIdioms
