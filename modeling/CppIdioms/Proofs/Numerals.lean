import CppIdioms.Text.Numeral
import Mathlib.Data.List.Basic
import Mathlib.Data.List.DropRight
import Mathlib.Data.List.TakeWhile
import Mathlib.Data.Nat.Digits.Defs

/-!
# What digits denote

A numeral is a run of digits of one radix. The readers go over it from left to right; the number that
it denotes is the sum of its digits by their places. Both are shown to be the same, for decimal digits
as a number is printed and for numerals of any radix up to sixteen.

## Contents

* `digitLetters`, `digitNumber`: the digits and what each of them stands for.
* `IsNumeral`, `numeralValue`: runs of digits of a radix and what they denote.
* `Solid`: texts without a blank at either end.
* `alphanumerics`: the characters that a reader takes as they are.

## Main statements

* `decimalNat_toDigits`, `decimal?_toDigits`: a printed number is read back, up to the limit.
* `readNat?_numeral`, `readNat?_marked`, `readNat?_decimal`: numerals in the radix asked for, behind
  the mark of their radix, and without a mark.
* `readInt?_of_alphanumeric`: blanks, signs and other scripts play no part in a numeral.
-/

namespace CppIdioms.Text

/-! ## §1 Printed numbers -/

theorem digitValue?_of_isDigit {c : Char} (h : c.isDigit) :
    digitValue? c = some (c.toNat - '0'.toNat) := by
  simp only [Char.isDigit, Bool.and_eq_true, decide_eq_true_eq, ge_iff_le,
    UInt32.le_iff_toNat_le] at h
  have hzero : decimalZeros.find? (fun z => z ≤ c.toNat && c.toNat < z + 10) = some 0x30 := by
    refine List.find?_cons_of_pos ?_
    simp only [Bool.and_eq_true, decide_eq_true_eq]
    exact ⟨h.1, Nat.lt_succ_of_le h.2⟩
  rw [digitValue?, hzero]
  rfl

theorem isDigit_of_mem_toDigits {n : Nat} {c : Char} (h : c ∈ Nat.toDigits 10 n) : isDigit c := by
  rw [isDigit, digitValue?_of_isDigit (Nat.isDigit_of_mem_toDigits (by decide) (by decide) h)]
  rfl

theorem toList_toString (n : Nat) : (toString n).toList = Nat.toDigits 10 n := by simp

theorem isDigit_of_mem_toString (n : Nat) : ∀ d ∈ (toString n).toList, isDigit d = true := fun _ hd =>
  isDigit_of_mem_toDigits (toList_toString n ▸ hd)

/-- The digits of a printed number denote it. -/
theorem decimalNat_toDigits (n : Nat) : decimalNat (Nat.toDigits 10 n) = n := by
  have hvalues : (Nat.toDigits 10 n).filterMap digitValue? =
      (Nat.toDigits 10 n).map fun c => c.toNat - '0'.toNat :=
    List.filterMap_eq_map_iff_forall_eq_some.2 fun c hc =>
      digitValue?_of_isDigit (Nat.isDigit_of_mem_toDigits (by decide) (by decide) hc)
  calc decimalNat (Nat.toDigits 10 n)
      = ofDigits 10 ((Nat.toDigits 10 n).map fun c => c.toNat - '0'.toNat) := by
        rw [decimalNat, hvalues]
    _ = Nat.ofDigitChars 10 (Nat.toDigits 10 n) 0 := by
        rw [ofDigits, List.foldl_map, Nat.ofDigitChars_eq_foldl]
        simp only [Nat.mul_comm]
    _ = n := Nat.ofDigitChars_toDigits (by decide) (by decide)

/-- The numbers that are printed with few enough digits to be read. -/
theorem length_toDigits_le_digitLimit {n : Nat} :
    (Nat.toDigits 10 n).length ≤ digitLimit ↔ n < 10 ^ digitLimit :=
  Nat.length_toDigits_le_iff (by decide) (by decide)

theorem decimal?_eq_some {ds : List Char} (h : ds.length ≤ digitLimit) :
    decimal? ds = some (decimalNat ds) := by rw [decimal?, if_pos h]

theorem decimal?_eq_none {ds : List Char} (h : ¬ ds.length ≤ digitLimit) : decimal? ds = none := by
  rw [decimal?, if_neg h]

/-- A printed number is read back if it has few enough digits. -/
theorem decimal?_toDigits {n : Nat} (h : n < 10 ^ digitLimit) : decimal? (Nat.toDigits 10 n) = some n := by
  rw [decimal?_eq_some (length_toDigits_le_digitLimit.2 h), decimalNat_toDigits]

/-! ## §2 Numerals -/

/-- The digits of the radices up to sixteen. -/
def digitLetters : List Char := "0123456789abcdefABCDEF".toList

/-- The number that a digit stands for. -/
def digitNumber (c : Char) : Nat := "0123456789abcdef".toList.idxOf c.toLower

/-- A run of digits of a radix. -/
structure IsNumeral (radix : Nat) (ds : List Char) : Prop where
  nonempty : ds ≠ []
  letters : ∀ d ∈ ds, d ∈ digitLetters
  below : ∀ d ∈ ds, digitNumber d < radix

/-- The number that digits denote, the most significant one first. -/
def numeralValue (radix : Nat) (ds : List Char) : Nat :=
  Nat.ofDigits radix (ds.map digitNumber).reverse

/-- What is computed for each character of a list holds of its members. Deciding the statement about
the members instead would go over all characters that there are. -/
theorem forall_mem_of_all {p : Char → Prop} [DecidablePred p] {cs : List Char}
    (h : cs.all (fun c => decide (p c)) = true) : ∀ c ∈ cs, p c := fun c hc =>
  of_decide_eq_true (List.all_eq_true.1 h c hc)

theorem isNumeral_iff {radix : Nat} {ds : List Char} : IsNumeral radix ds ↔
    ds ≠ [] ∧ ds.all (fun d => decide (d ∈ digitLetters ∧ digitNumber d < radix)) = true := by
  constructor
  · rintro ⟨hne, hletters, hbelow⟩
    refine ⟨hne, List.all_eq_true.2 fun d hd => ?_⟩
    exact decide_eq_true ⟨hletters d hd, hbelow d hd⟩
  · rintro ⟨hne, hall⟩
    exact ⟨hne, fun d hd => (forall_mem_of_all hall d hd).1, fun d hd => (forall_mem_of_all hall d hd).2⟩

instance (radix : Nat) (ds : List Char) : Decidable (IsNumeral radix ds) :=
  decidable_of_iff' _ isNumeral_iff

theorem numeralDigit?_of_mem : ∀ d ∈ digitLetters, numeralDigit? d = some (digitNumber d) :=
  forall_mem_of_all (by decide)

theorem low_line_not_digit : '_' ∉ digitLetters := by decide

theorem digitBelow?_eq {radix : Nat} {d : Char} (hmem : d ∈ digitLetters)
    (hbelow : digitNumber d < radix) : digitBelow? radix d = some (digitNumber d) := by
  simp [digitBelow?, numeralDigit?_of_mem d hmem, hbelow]

theorem digitTail?_eq {radix : Nat} {ds : List Char} (hletters : ∀ d ∈ ds, d ∈ digitLetters)
    (hbelow : ∀ d ∈ ds, digitNumber d < radix) : digitTail? radix ds = some (ds.map digitNumber) := by
  induction ds with
  | nil => rfl
  | cons d ds ih =>
    obtain ⟨hd, hds⟩ := List.forall_mem_cons.1 hletters
    obtain ⟨hdbelow, hdsbelow⟩ := List.forall_mem_cons.1 hbelow
    have hline : d ≠ '_' := by
      rintro rfl
      exact low_line_not_digit hd
    rw [digitTail?.eq_3 radix d ds (fun _ _ h _ => hline h), digitBelow?_eq hd hdbelow]
    simp [ih hds hdsbelow]

theorem IsNumeral.digitRun?_eq {radix : Nat} {ds : List Char} (h : IsNumeral radix ds) :
    digitRun? radix ds = some (ds.map digitNumber) := by
  obtain ⟨hne, hletters, hbelow⟩ := h
  cases ds with
  | nil => exact absurd rfl hne
  | cons d ds =>
    obtain ⟨hd, hds⟩ := List.forall_mem_cons.1 hletters
    obtain ⟨hdbelow, hdsbelow⟩ := List.forall_mem_cons.1 hbelow
    rw [digitRun?, digitBelow?_eq hd hdbelow]
    simp [digitTail?_eq hds hdsbelow]

/-- Going over digits from left to right sums them by their places. -/
theorem ofDigits_map_digitNumber (radix : Nat) (ds : List Char) :
    ofDigits radix (ds.map digitNumber) = numeralValue radix ds := by
  rw [ofDigits, numeralValue, Nat.ofDigits_eq_foldr, List.foldr_reverse]
  simp only [Nat.cast_id, Nat.mul_comm radix, Nat.add_comm]

/-! ## §3 Radices -/

/-- The mark of a radix is not among its digits. -/
theorem size_le_digitNumber {asked : Radix} {d : Char} (hd : d ∈ digitLetters)
    (hmark : Radix.ofMark? d = some asked) : asked.size ≤ digitNumber d := by
  have hmarks : ∀ d ∈ digitLetters, ∀ r ∈ Radix.ofMark? d, r.size ≤ digitNumber d :=
    forall_mem_of_all (by decide)
  exact hmarks d hd asked hmark

/-- In a radix that is asked for, a numeral has no mark. -/
theorem IsNumeral.resolve_eq {asked : Radix} {ds : List Char} (h : IsNumeral asked.size ds)
    (hasked : asked ≠ .marked) : asked.resolve ds = (asked, ds) := by
  unfold Radix.resolve
  split
  · next mark rest =>
    split
    · next found hfound =>
      have hother : asked ≠ found := by
        rintro rfl
        have hmem : mark ∈ '0' :: mark :: rest := by simp
        exact absurd (size_le_digitNumber (h.letters mark hmem) hfound) (h.below mark hmem).not_ge
      simp [hasked, hother]
    · rfl
  · rfl

theorem ne_marked_of_isLimited {asked : Radix} (h : asked.isLimited = false) : asked ≠ .marked := by
  rintro rfl
  cases h

theorem readNat?_numeral {asked : Radix} {ds : List Char} (hasked : asked.isLimited = false)
    (h : IsNumeral asked.size ds) : readNat? asked ds = some (numeralValue asked.size ds) := by
  have hne := ne_marked_of_isLimited hasked
  simp [readNat?, h.resolve_eq hne, h.digitRun?_eq, ofDigits_map_digitNumber, hasked, hne]

theorem dropLowLine_eq {ds : List Char} (h : ∀ d ∈ ds, d ∈ digitLetters) : dropLowLine ds = ds := by
  cases ds with
  | nil => rfl
  | cons d ds =>
    have hline : d ≠ '_' := by
      rintro rfl
      exact low_line_not_digit (h _ List.mem_cons_self)
    rw [dropLowLine.eq_2]
    rintro _ ⟨⟩
    exact hline rfl

/-- The radices that are marked are powers of two. -/
theorem isLimited_of_ofMark? {mark : Char} {found : Radix} (h : Radix.ofMark? mark = some found) :
    found.isLimited = false := by
  unfold Radix.ofMark? at h
  split_ifs at h <;> cases h <;> decide

/-- Behind a mark the digits are those of its radix. -/
theorem readNat?_marked {mark : Char} {found : Radix} {ds : List Char}
    (hmark : Radix.ofMark? mark = some found) (h : IsNumeral found.size ds) :
    readNat? .marked ('0' :: mark :: ds) = some (numeralValue found.size ds) := by
  have hresolve : Radix.marked.resolve ('0' :: mark :: ds) = (found, ds) := by
    simp [Radix.resolve, hmark, dropLowLine_eq h.letters]
  have hlimit := isLimited_of_ofMark? hmark
  simp [readNat?, hresolve, h.digitRun?_eq, ofDigits_map_digitNumber, hlimit,
    ne_marked_of_isLimited hlimit]

/-- Without a mark a numeral is decimal, if it does not start with a zero. It is read if it has few
enough digits. -/
theorem readNat?_decimal {ds : List Char} (h : IsNumeral 10 ds) (hzero : ds.head? ≠ some '0') :
    readNat? .marked ds =
      if ds.length ≤ digitLimit then some (numeralValue 10 ds) else none := by
  have hresolve : Radix.marked.resolve ds = (.marked, ds) := by
    unfold Radix.resolve
    split
    · exact absurd rfl hzero
    · rfl
  have hrun : digitRun? Radix.marked.size ds = some (ds.map digitNumber) := h.digitRun?_eq
  rw [readNat?, hresolve]
  dsimp only
  rw [hrun, ← ofDigits_map_digitNumber]
  by_cases hlength : ds.length ≤ digitLimit
  · simp [hzero, Radix.size, hlength]
  · simp [Radix.isLimited, hlength, Nat.lt_of_not_le hlength]

/-! ## §4 Surroundings -/

theorem dropEndWhile_eq_rdropWhile (p : Char → Bool) (cs : List Char) :
    dropEndWhile p cs = cs.rdropWhile p := rfl

theorem dropWhile_append_of_head {p : Char → Bool} {cs rest : List Char} (hcs : ∀ c ∈ cs, p c = true)
    (hrest : ∀ c ∈ rest.head?, p c = false) : (cs ++ rest).dropWhile p = rest := by
  rw [List.dropWhile_append_of_pos hcs]
  cases rest with
  | nil => rfl
  | cons c rest => exact List.dropWhile_cons_of_neg (by simp [hrest c rfl])

theorem dropEndWhile_append {p : Char → Bool} {cs rest : List Char}
    (hcs : ∀ c ∈ cs.getLast?, p c = false) (hrest : ∀ c ∈ rest, p c = true) :
    dropEndWhile p (cs ++ rest) = cs := by
  rw [dropEndWhile, List.reverse_append, dropWhile_append_of_head, List.reverse_reverse]
  · simpa using hrest
  · simpa using hcs

/-- The text has no blank at either end. -/
structure Solid (cs : List Char) : Prop where
  nonempty : cs ≠ []
  starts : ∀ c ∈ cs.head?, isBlank c = false
  ends : ∀ c ∈ cs.getLast?, isBlank c = false

/-- Blanks around a text are trimmed away, and nothing else. -/
theorem trim_between {before cs after : List Char} (hbefore : ∀ c ∈ before, isBlank c = true)
    (hafter : ∀ c ∈ after, isBlank c = true) (h : Solid cs) : trim (before ++ cs ++ after) = cs := by
  have hhead : ∀ c ∈ (cs ++ after).head?, isBlank c = false := by
    cases cs with
    | nil => exact absurd rfl h.nonempty
    | cons c cs => exact h.starts
  rw [trim, trimStart, List.append_assoc, dropWhile_append_of_head hbefore hhead, trimEnd,
    dropEndWhile_append h.ends hafter]

/-- The letters and digits of the basic repertoire. -/
def alphanumerics : List Char :=
  "0123456789abcdefghijklmnopqrstuvwxyzABCDEFGHIJKLMNOPQRSTUVWXYZ".toList

theorem digitLetters_subset : digitLetters ⊆ alphanumerics := by decide

theorem reads_itself_of_mem : ∀ c ∈ alphanumerics,
    isNumeralBlank c = false ∧ plainDigit c = c ∧ c ≠ '-' ∧ c ≠ '+' :=
  forall_mem_of_all (by decide)

/-- Letters and digits are read without regard to blanks, signs and other scripts. -/
theorem readInt?_of_alphanumeric {asked : Radix} {cs : List Char} (h : ∀ c ∈ cs, c ∈ alphanumerics) :
    readInt? asked cs = (readNat? asked cs).map Int.ofNat := by
  have hblank : ∀ c ∈ cs, isNumeralBlank c = false := fun c hc => (reads_itself_of_mem c (h c hc)).1
  have hstart : cs.dropWhile isNumeralBlank = cs :=
    @dropWhile_append_of_head _ [] cs nofun fun c hc => hblank c (List.mem_of_mem_head? hc)
  have hend : dropEndWhile isNumeralBlank cs = cs := by
    simpa using @dropEndWhile_append _ cs [] (fun c hc => hblank c (List.mem_of_mem_getLast? hc)) nofun
  have hplain : cs.map plainDigit = cs :=
    (List.map_congr_left fun c hc => (reads_itself_of_mem c (h c hc)).2.1).trans (List.map_id' cs)
  rw [readInt?, hstart, hend, hplain]
  cases cs with
  | nil => rfl
  | cons c cs =>
    obtain ⟨-, -, hminus, hplus⟩ := reads_itself_of_mem c (h c List.mem_cons_self)
    rw [readSigned.eq_3]
    · rintro _ ⟨⟩
      exact hminus rfl
    · rintro _ ⟨⟩
      exact hplus rfl

theorem readInt?_numeral {asked : Radix} {ds : List Char} (hasked : asked.isLimited = false)
    (h : IsNumeral asked.size ds) : readInt? asked ds = some (numeralValue asked.size ds : Int) := by
  rw [readInt?_of_alphanumeric fun d hd => digitLetters_subset (h.letters d hd),
    readNat?_numeral hasked h]
  rfl

/-- Nothing is read that starts with a letter which is no digit of the radix. -/
theorem readInt?_eq_none {asked : Radix} {c : Char} {cs : List Char}
    (h : ∀ d ∈ c :: cs, d ∈ alphanumerics) (hdigit : digitBelow? asked.size c = none)
    (hzero : c ≠ '0') : readInt? asked (c :: cs) = none := by
  have hresolve : asked.resolve (c :: cs) = (asked, c :: cs) := by
    unfold Radix.resolve
    split
    · next heq => exact absurd (List.cons.inj heq).1 hzero
    · rfl
  rw [readInt?_of_alphanumeric h, readNat?, hresolve]
  dsimp only
  rw [digitRun?, hdigit]
  rfl

end CppIdioms.Text
