import CppIdioms.Settings.Basic
import Mathlib.Data.List.DropRight

/-!
# Capital forms

A rule id is compared without the blanks around it and in capitals. Doing this again changes nothing:
the capital form of a letter consists of letters that are their own capital forms, and none of them
is a blank, so that no blanks come to stand at the ends.

The letters that have a capital form and the letters of the capital forms are listed from the tables,
and the lists are compared as sets of bits, with one operation for all pairs.

## Contents

* `bits`: a list of numbers as one number.
* `CaseRun.offsets`, `smallLetters`, `capitalLetters`: the letters of the tables.
* `blanks`: the white space characters, one by one.

## Main statements

* `upperChar_of_mem`: what a capital form consists of is its own capital form.
* `upper_upper`: the capital form of a text is its own capital form.
* `ruleId_stable`: a rule id as it is compared has no blanks at its ends and is in capitals.
-/

namespace CppIdioms.Text

/-! ## §1 Sets of numbers -/

/-- The number whose binary ones stand at the places in a list. -/
def bits (ns : List Nat) : Nat := ns.foldr (fun n m => 1 <<< n ||| m) 0

theorem testBit_bits (ns : List Nat) (n : Nat) : (bits ns).testBit n = decide (n ∈ ns) := by
  induction ns with
  | nil => simp [bits]
  | cons m ns ih =>
    have hcons : bits (m :: ns) = 1 <<< m ||| bits ns := rfl
    rw [hcons, Nat.testBit_or, Nat.one_shiftLeft, Nat.testBit_two_pow, ih]
    by_cases h : m = n
    · simp [h]
    · simp [h, Ne.symm h]

/-- Lists without a number in common. -/
theorem not_mem_of_bits {ms ns : List Nat} (h : bits ms &&& bits ns = 0) {n : Nat} (hn : n ∈ ms) :
    n ∉ ns := by
  have hbit : (bits ms &&& bits ns).testBit n = false := by rw [h, Nat.zero_testBit]
  rw [Nat.testBit_and, testBit_bits, testBit_bits, decide_eq_true hn, Bool.true_and] at hbit
  exact of_decide_eq_false hbit

/-! ## §2 The letters of the tables -/

/-- How far the letters of a run are from the first one. -/
def CaseRun.offsets (r : CaseRun) : List Nat :=
  (List.range (r.last + 1 - r.first)).filter fun k => k % r.step == 0

/-- The letters with a capital form other than themselves. -/
def smallLetters : List Nat :=
  (List.range 26).map (0x61 + ·) ++ caseRuns.flatMap (fun r => r.offsets.map (r.first + ·))
    ++ expandingCapitals.map (·.1)

/-- The letters of these capital forms. -/
def capitalLetters : List Nat :=
  (List.range 26).map (0x41 + ·) ++ caseRuns.flatMap (fun r => r.offsets.map (r.capital + ·))
    ++ expandingCapitals.flatMap (·.2)

/-- The white space characters. -/
def blanks : List Nat :=
  List.range' 0x09 5 ++ List.range' 0x1c 5 ++ List.range' 0x2000 11
    ++ [0x85, 0xa0, 0x1680, 0x2028, 0x2029, 0x202f, 0x205f, 0x3000]

theorem mem_blanks {c : Char} (h : isBlank c) : c.toNat ∈ blanks := by
  simp only [isBlank, Bool.or_eq_true, Bool.and_eq_true, decide_eq_true_eq, beq_iff_eq] at h
  simp only [blanks, List.mem_append, List.mem_range'_1, List.mem_cons, List.not_mem_nil, or_false]
  omega

theorem capital_not_small_nor_blank {n : Nat} (h : n ∈ capitalLetters) :
    n ∉ smallLetters ++ blanks := by
  have hnone : bits capitalLetters &&& bits (smallLetters ++ blanks) = 0 := by decide +kernel
  exact not_mem_of_bits hnone h

theorem isValidChar_capital : ∀ n ∈ capitalLetters, n.isValidChar := by decide +kernel

theorem toNat_ofNat_capital {n : Nat} (h : n ∈ capitalLetters) : (Char.ofNat n).toNat = n := by
  rw [Char.ofNat, dif_pos (isValidChar_capital n h)]
  rfl

/-! ## §3 Characters -/

/-- The run that a letter is found in has the letter. -/
theorem mem_offsets_of_find? {n : Nat} {r : CaseRun}
    (h : caseRuns.find? (fun r => r.first ≤ n && n ≤ r.last && (n - r.first) % r.step == 0) = some r) :
    r ∈ caseRuns ∧ r.first ≤ n ∧ n - r.first ∈ r.offsets := by
  have hholds := List.find?_some h
  simp only [Bool.and_eq_true, decide_eq_true_eq] at hholds
  obtain ⟨⟨hfirst, hlast⟩, hstep⟩ := hholds
  refine ⟨List.mem_of_find?_eq_some h, hfirst, List.mem_filter.2 ⟨List.mem_range.2 ?_, hstep⟩⟩
  omega

/-- A letter from `a` to `z` has its capital thirty-two places before it; no other character of the
first 128 has a capital form of its own. -/
theorem toUpper_cases (c : Char) :
    c.toUpper = c ∨ (0x61 ≤ c.toNat ∧ c.toNat ≤ 0x7a ∧ c.toUpper = Char.ofNat (c.toNat - 0x20)) := by
  by_cases h : 0x61 ≤ c.toNat ∧ c.toNat ≤ 0x7a
  · right
    refine ⟨h.1, h.2, ?_⟩
    have hletters : ∀ n < 0x7b, 0x61 ≤ n → (Char.ofNat n).toUpper = Char.ofNat (n - 0x20) := by
      decide +kernel
    have hletter := hletters c.toNat (by omega) h.1
    rwa [Char.ofNat_toNat] at hletter
  · left
    unfold Char.toUpper
    rw [dif_neg]
    exact h

/-- A character is its own capital form, or it is a small letter and its capital form consists of
capital letters. -/
theorem upperChar_cases (c : Char) :
    upperChar c = [c] ∨
      (c.toNat ∈ smallLetters ∧ upperChar c ≠ [] ∧ ∀ d ∈ upperChar c, d.toNat ∈ capitalLetters) := by
  unfold upperChar
  dsimp only
  split
  · rcases toUpper_cases c with hsame | ⟨hfirst, hlast, hupper⟩
    · exact .inl (by rw [hsame])
    · have hoffset : c.toNat - 0x61 ∈ List.range 26 := List.mem_range.2 (by omega)
      have hsmall : c.toNat ∈ (List.range 26).map (0x61 + ·) :=
        List.mem_map.2 ⟨_, hoffset, by omega⟩
      have hcapital : c.toNat - 0x20 ∈ capitalLetters :=
        List.mem_append_left _ (List.mem_append_left _ (List.mem_map.2 ⟨_, hoffset, by omega⟩))
      refine .inr ⟨List.mem_append_left _ (List.mem_append_left _ hsmall), by simp, fun d hd => ?_⟩
      rw [List.mem_singleton.1 hd, hupper, toNat_ofNat_capital hcapital]
      exact hcapital
  · split
    · next capitals hlookup =>
      obtain ⟨before, after, htable, _⟩ := List.lookup_eq_some_iff.1 hlookup
      have hmem : (c.toNat, capitals) ∈ expandingCapitals := by simp [htable]
      have hnonempty : ∀ e ∈ expandingCapitals, e.2 ≠ [] := by decide +kernel
      refine .inr ⟨List.mem_append_right _ (List.mem_map.2 ⟨_, hmem, rfl⟩), ?_, fun d hd => ?_⟩
      · simpa using hnonempty _ hmem
      · obtain ⟨m, hm, rfl⟩ := List.mem_map.1 hd
        have hcapital : m ∈ capitalLetters :=
          List.mem_append_right _ (List.mem_flatMap.2 ⟨_, hmem, hm⟩)
        rwa [toNat_ofNat_capital hcapital]
    · split
      · next r hfind =>
        obtain ⟨hr, hfirst, hoffset⟩ := mem_offsets_of_find? hfind
        have hsmall : c.toNat ∈ r.offsets.map (r.first + ·) :=
          List.mem_map.2 ⟨_, hoffset, by omega⟩
        have hcapital : r.capital + (c.toNat - r.first) ∈ capitalLetters :=
          List.mem_append_left _ (List.mem_append_right _
            (List.mem_flatMap.2 ⟨r, hr, List.mem_map.2 ⟨_, hoffset, rfl⟩⟩))
        refine .inr ⟨List.mem_append_left _ (List.mem_append_right _
          (List.mem_flatMap.2 ⟨r, hr, hsmall⟩)), by simp, fun d hd => ?_⟩
        rw [List.mem_singleton.1 hd, toNat_ofNat_capital hcapital]
        exact hcapital
      · exact .inl rfl

/-- What a capital form consists of is its own capital form. -/
theorem upperChar_of_mem {c d : Char} (h : d ∈ upperChar c) : upperChar d = [d] := by
  rcases upperChar_cases c with hc | ⟨_, _, hcapitals⟩
  · rw [hc, List.mem_singleton] at h
    rw [h, hc]
  · rcases upperChar_cases d with hd | ⟨hsmall, _⟩
    · exact hd
    · exact absurd (List.mem_append_left _ hsmall) (capital_not_small_nor_blank (hcapitals d h))

/-- The capital form of a character that is no blank has no blanks and is not empty. -/
theorem upperChar_of_not_isBlank {c : Char} (h : isBlank c = false) :
    upperChar c ≠ [] ∧ ∀ d ∈ upperChar c, isBlank d = false := by
  rcases upperChar_cases c with hc | ⟨_, hne, hcapitals⟩
  · simp [hc, h]
  · refine ⟨hne, fun d hd => Bool.eq_false_iff.2 fun hblank => ?_⟩
    exact capital_not_small_nor_blank (hcapitals d hd) (List.mem_append_right _ (mem_blanks hblank))

/-! ## §4 Texts -/

theorem flatMap_upperChar_twice (cs : List Char) :
    (cs.flatMap upperChar).flatMap upperChar = cs.flatMap upperChar := by
  have hsame : (cs.flatMap upperChar).flatMap upperChar = (cs.flatMap upperChar).flatMap (fun c => [c]) :=
    List.flatMap_congr fun d hd => by
      obtain ⟨c, _, hd⟩ := List.mem_flatMap.1 hd
      exact upperChar_of_mem hd
  rw [hsame, List.flatMap_singleton']

/-- The capital form of a text is its own capital form. -/
theorem upper_upper (s : String) : upper (upper s) = upper s := by
  rw [upper, upper, String.toList_ofList, flatMap_upperChar_twice]

/-- A text without blanks at its start has none there after every character is replaced by others,
as long as what takes the place of a character that is no blank starts with none. -/
theorem dropWhile_flatMap {f : Char → List Char}
    (hf : ∀ c, isBlank c = false → f c ≠ [] ∧ ∀ d ∈ f c, isBlank d = false) {cs : List Char}
    (h : cs.dropWhile isBlank = cs) : (cs.flatMap f).dropWhile isBlank = cs.flatMap f := by
  cases cs with
  | nil => rfl
  | cons c cs =>
    have hc : isBlank c = false := by
      have hhead := List.dropWhile_eq_self_iff.1 h (by simp)
      simpa using hhead
    obtain ⟨hne, hblank⟩ := hf c hc
    rw [List.flatMap_cons]
    cases hfc : f c with
    | nil => exact absurd hfc hne
    | cons d ds =>
      have hd : isBlank d = false := hblank d (by simp [hfc])
      rw [List.cons_append, List.dropWhile_cons_of_neg (by simp [hd])]

theorem trimEnd_eq_rdropWhile (cs : List Char) : trimEnd cs = cs.rdropWhile isBlank := rfl

/-- What trimming leaves has no blanks at its start and none at its end. -/
theorem trim_ends (cs : List Char) :
    (trim cs).dropWhile isBlank = trim cs ∧ (trim cs).reverse.dropWhile isBlank = (trim cs).reverse := by
  have hstart : (trimStart cs).dropWhile isBlank = trimStart cs := List.dropWhile_idempotent ..
  constructor
  · rw [trim, trimEnd_eq_rdropWhile, List.dropWhile_eq_self_iff]
    intro hlength
    -- What is left after blanks are taken from the end has the same first character.
    have hstarts := List.rdropWhile_prefix isBlank (trimStart cs)
    have hhead := List.dropWhile_eq_self_iff.1 hstart (hlength.trans_le hstarts.length_le)
    rwa [hstarts.getElem hlength]
  · rw [trim, trimEnd_eq_rdropWhile, List.rdropWhile, List.reverse_reverse]
    exact List.dropWhile_idempotent ..

theorem trim_of_ends {cs : List Char} (hstart : cs.dropWhile isBlank = cs)
    (hend : cs.reverse.dropWhile isBlank = cs.reverse) : trim cs = cs := by
  rw [trim, trimEnd_eq_rdropWhile, trimStart, hstart, List.rdropWhile, hend, List.reverse_reverse]

/-- Capitals do not bring blanks to the ends of a trimmed text. -/
theorem trim_flatMap_upperChar (cs : List Char) :
    trim ((trim cs).flatMap upperChar) = (trim cs).flatMap upperChar := by
  obtain ⟨hstart, hend⟩ := trim_ends cs
  refine trim_of_ends (dropWhile_flatMap (fun c hc => upperChar_of_not_isBlank hc) hstart) ?_
  rw [List.reverse_flatMap]
  refine dropWhile_flatMap (fun c hc => ?_) hend
  obtain ⟨hne, hblank⟩ := upperChar_of_not_isBlank hc
  simpa using ⟨hne, hblank⟩

/-- A rule id as it is compared has no blanks at its ends and is in capitals. -/
theorem ruleId_stable (id : Value) : trimmed (ruleId id) = ruleId id ∧ upper (ruleId id) = ruleId id := by
  refine ⟨?_, upper_upper _⟩
  rw [ruleId, trimmed, upper, String.toList_ofList, String.toList_ofList, trim_flatMap_upperChar]

end CppIdioms.Text
