import CppIdioms.Proofs.Capitals
import CppIdioms.Proofs.Reduction
import CppIdioms.Text.Word

/-!
# The identifiers of a text

The identifiers of a text are its maximal runs of word characters. A character that belongs to no
identifier separates those before it from those behind it, and neither blanks nor what is done to them
plays a part. A text can be gone over identifier by identifier: it is a word, and then words with one
such character before each of them.

## Contents

* `identifiers`: the maximal runs of word characters.
* `joined`: a word, and words that a character stands before.
* `Pieces`: the words of such a text are its runs of word characters.

## Main statements

* `identifiers_append_cons`: identifiers are cut at a character of none of them.
* `identifiers_squeeze`, `identifiers_trim`: blanks make no difference.
* `exists_pieces`, `identifiers_joined`: every text in pieces, and its identifiers.
-/

namespace CppIdioms.Text

/-! ## §1 Word characters -/

/-- No blank is in a run of word characters. The comparisons are those that are computed fastest. -/
theorem blanks_not_word : blanks.all (fun n => (Nat.blt n 0x80 && !isWord (Char.ofNat n)) ||
    (Nat.ble 0x80 n && wordRanges.all fun r => Nat.blt n r.1 || Nat.blt r.2 n)) = true := by
  decide +kernel

theorem blank_not_word {c : Char} (h : isBlank c = true) : isWord c = false := by
  have hn := List.all_eq_true.1 blanks_not_word _ (mem_blanks h)
  rw [Char.ofNat_toNat] at hn
  obtain hascii | hbeyond := Bool.or_eq_true_iff.1 hn
  · simpa using (Bool.and_eq_true_iff.1 hascii).2
  · obtain ⟨hle, hranges⟩ := Bool.and_eq_true_iff.1 hbeyond
    have hle' : ¬ c.toNat < 0x80 := Nat.not_lt.2 (Nat.le_of_ble_eq_true hle)
    rw [isWord, if_neg hle', List.any_eq_false]
    intro r hr
    have hapart := List.all_eq_true.1 hranges r hr
    simp only [Bool.or_eq_true, Nat.blt_eq] at hapart
    simp only [Bool.and_eq_true, decide_eq_true_eq]
    omega

/-- Beyond ASCII the digits of a script are in one run of word characters. -/
theorem decimalZeros_word : decimalZeros.all (fun z => Nat.beq z 0x30 ||
    (Nat.ble 0x80 z && wordRanges.any fun r => Nat.ble r.1 z && Nat.ble (z + 10) (r.2 + 1))) = true := by
  decide +kernel

theorem digit_word {d : Char} (h : isDigit d = true) : isWord d = true := by
  rw [isDigit, digitValue?, Option.isSome_map] at h
  obtain ⟨z, hz, hrun⟩ := List.find?_isSome.1 h
  simp only [Bool.and_eq_true, decide_eq_true_eq] at hrun
  have hword := List.all_eq_true.1 decimalZeros_word z hz
  simp only [Bool.or_eq_true, Bool.and_eq_true, Nat.beq_eq, Nat.ble_eq] at hword
  obtain rfl | ⟨hbeyond, hrange⟩ := hword
  · have hdigit : d.isDigit = true := by
      simp only [Char.isDigit, Bool.and_eq_true, decide_eq_true_eq, ge_iff_le,
        UInt32.le_iff_toNat_le]
      exact ⟨hrun.1, Nat.le_of_lt_succ hrun.2⟩
    rw [isWord, if_pos (by omega)]
    simp [Char.isAlphanum, hdigit]
  · obtain ⟨r, hr, hwithin⟩ := List.any_eq_true.1 hrange
    rw [isWord, if_neg (by omega)]
    refine List.any_eq_true.2 ⟨r, hr, ?_⟩
    simp only [Bool.and_eq_true, Nat.ble_eq, decide_eq_true_eq] at hwithin ⊢
    omega

/-! ## §2 Identifiers -/

/-- The maximal runs of word characters of a text, in order. -/
def identifiers (cs : List Char) : List (List Char) :=
  (cs.splitOnP (!isWord ·)).filter (!·.isEmpty)

section Identifiers

variable {u v w : List Char} {c : Char}

theorem identifiers_nil : identifiers [] = [] := by simp [identifiers]

/-- Identifiers are cut at a character of none of them. -/
theorem identifiers_append_cons (hc : isWord c = false) (u v : List Char) :
    identifiers (u ++ c :: v) = identifiers u ++ identifiers v := by
  unfold identifiers
  rw [List.splitOnP_append_cons u v (by simp [hc]), List.filter_append]

theorem identifiers_cons (hc : isWord c = false) (v : List Char) :
    identifiers (c :: v) = identifiers v := by
  simpa [identifiers_nil] using identifiers_append_cons hc [] v

theorem identifiers_of_word (h : ∀ c ∈ w, isWord c = true) :
    identifiers w = [w].filter (!·.isEmpty) := by
  rw [identifiers, List.splitOnP_eq_singleton (by simpa using h)]

theorem identifiers_of_no_word (h : ∀ c ∈ u, isWord c = false) : identifiers u = [] := by
  induction u with
  | nil => exact identifiers_nil
  | cons c u ih =>
    obtain ⟨hc, hu⟩ := List.forall_mem_cons.1 h
    rw [identifiers_cons hc, ih hu]

theorem identifiers_append_of_no_word (h : ∀ c ∈ v, isWord c = false) (u : List Char) :
    identifiers (u ++ v) = identifiers u := by
  cases v with
  | nil => rw [List.append_nil]
  | cons c v =>
    obtain ⟨hc, hv⟩ := List.forall_mem_cons.1 h
    rw [identifiers_append_cons hc, identifiers_of_no_word hv, List.append_nil]

end Identifiers

/-! ## §3 Blanks -/

section Blanks

variable {cs : List Char}

theorem identifiers_squeezeFrom (u : List Char) (gap : Bool) (cs : List Char) :
    identifiers (u ++ squeezeFrom true gap cs) =
      if gap then identifiers u ++ identifiers cs else identifiers (u ++ cs) := by
  induction cs generalizing u gap with
  | nil => cases gap <;> simp [squeezeFrom, identifiers_nil]
  | cons c cs ih =>
    by_cases hc : isBlank c
    · have hword := blank_not_word hc
      rw [squeezeFrom, if_pos hc, ih, if_pos rfl, identifiers_cons hword,
        identifiers_append_cons hword, ite_self]
    · cases gap with
      | false =>
        have hrest := ih (u ++ [c]) false
        simpa [squeezeFrom, hc] using hrest
      | true =>
        have hspace : isWord ' ' = false := by decide
        have hrest := ih [c] false
        simp only [List.singleton_append, Bool.false_eq_true, if_false] at hrest
        simp [squeezeFrom, hc, identifiers_append_cons hspace, hrest]

theorem identifiers_squeeze (cs : List Char) : identifiers (squeeze cs) = identifiers cs := by
  unfold squeeze
  induction cs with
  | nil => rfl
  | cons c cs ih =>
    by_cases hc : isBlank c
    · rw [squeezeFrom, if_pos hc, ih, identifiers_cons (blank_not_word hc)]
    · have hrest := identifiers_squeezeFrom [c] false cs
      simpa [squeezeFrom, hc] using hrest

/-- What is taken off the end of a text, given last character first, belongs to no identifier. -/
theorem identifiers_reverse_dropWhile {p : Char → Bool} (hp : ∀ c, p c = true → isWord c = false)
    (cs : List Char) : identifiers (cs.dropWhile p).reverse = identifiers cs.reverse := by
  have hcut := @identifiers_append_of_no_word (cs.takeWhile p).reverse
    (fun c hc => hp c (List.mem_takeWhile_imp (List.mem_reverse.1 hc))) (cs.dropWhile p).reverse
  rwa [← List.reverse_append, List.takeWhile_append_dropWhile, eq_comm] at hcut

theorem identifiers_dropWhile_blank (cs : List Char) :
    identifiers (cs.dropWhile isBlank) = identifiers cs := by
  induction cs with
  | nil => rfl
  | cons c cs ih =>
    by_cases hc : isBlank c
    · rw [List.dropWhile_cons_of_pos hc, ih, identifiers_cons (blank_not_word hc)]
    · rw [List.dropWhile_cons_of_neg hc]

theorem identifiers_trim (cs : List Char) : identifiers (trim cs) = identifiers cs := by
  rw [trim, trimEnd, dropEndWhile, identifiers_reverse_dropWhile (fun _ => blank_not_word),
    List.reverse_reverse, trimStart, identifiers_dropWhile_blank]

end Blanks

/-! ## §4 Pieces -/

/-- The words with the character before each of them, one after the other. -/
def joinedRest (rest : List (Char × List Char)) : List Char := rest.flatMap fun p => p.1 :: p.2

/-- A word, and words that a character stands before. -/
def joined (w : List Char) (rest : List (Char × List Char)) : List Char := w ++ joinedRest rest

/-- The words are made of word characters, and those that stand before them are none. -/
structure Pieces (w : List Char) (rest : List (Char × List Char)) : Prop where
  first : ∀ c ∈ w, isWord c = true
  breaks : ∀ p ∈ rest, isWord p.1 = false
  words : ∀ p ∈ rest, ∀ c ∈ p.2, isWord c = true

section Pieces

variable {w v : List Char} {c : Char} {rest : List (Char × List Char)}

theorem joinedRest_cons (c : Char) (v : List Char) (rest : List (Char × List Char)) :
    joinedRest ((c, v) :: rest) = c :: joined v rest := by
  simp [joinedRest, joined]

theorem joined_cons (w : List Char) (c : Char) (v : List Char) (rest : List (Char × List Char)) :
    joined w ((c, v) :: rest) = w ++ c :: joined v rest := by
  rw [joined, joinedRest_cons]

theorem Pieces.tail (h : Pieces w ((c, v) :: rest)) : Pieces v rest where
  first := h.words _ List.mem_cons_self
  breaks := fun p hp => h.breaks p (List.mem_cons_of_mem _ hp)
  words := fun p hp => h.words p (List.mem_cons_of_mem _ hp)

theorem Pieces.head_break (h : Pieces w ((c, v) :: rest)) : isWord c = false :=
  h.breaks _ List.mem_cons_self

/-- Every text is in pieces. -/
theorem exists_pieces (cs : List Char) : ∃ w rest, Pieces w rest ∧ joined w rest = cs := by
  induction cs with
  | nil => exact ⟨[], [], ⟨nofun, nofun, nofun⟩, rfl⟩
  | cons c cs ih =>
    obtain ⟨w, rest, hpieces, rfl⟩ := ih
    cases hc : isWord c with
    | true =>
      exact ⟨c :: w, rest, ⟨List.forall_mem_cons.2 ⟨hc, hpieces.first⟩, hpieces.breaks,
        hpieces.words⟩, rfl⟩
    | false =>
      exact ⟨[], (c, w) :: rest, ⟨nofun, List.forall_mem_cons.2 ⟨hc, hpieces.breaks⟩,
        List.forall_mem_cons.2 ⟨hpieces.first, hpieces.words⟩⟩, joined_cons [] c w rest⟩

/-- The identifiers of a text in pieces are its words. -/
theorem identifiers_joined (h : Pieces w rest) :
    identifiers (joined w rest) = (w :: rest.map (·.2)).filter (!·.isEmpty) := by
  induction rest generalizing w with
  | nil => simpa [joined, joinedRest] using identifiers_of_word h.first
  | cons p rest ih =>
    obtain ⟨c, v⟩ := p
    rw [joined_cons, identifiers_append_cons h.head_break, identifiers_of_word h.first, ih h.tail,
      ← List.filter_append, List.singleton_append, List.map_cons]

/-- An identifier is not empty and has word characters only. -/
theorem of_mem_identifiers {cs : List Char} (h : w ∈ identifiers cs) :
    w ≠ [] ∧ ∀ c ∈ w, isWord c = true := by
  obtain ⟨u, rest, hpieces, rfl⟩ := exists_pieces cs
  rw [identifiers_joined hpieces] at h
  obtain ⟨hmem, hne⟩ := List.mem_filter.1 h
  refine ⟨by simpa using hne, ?_⟩
  obtain rfl | hmem := List.mem_cons.1 hmem
  · exact hpieces.first
  · obtain ⟨p, hp, rfl⟩ := List.mem_map.1 hmem
    exact hpieces.words p hp

/-- What comes first in a text and has word characters only comes first in its first word. -/
theorem prefix_of_prefix_joined (h : ∀ p ∈ rest, isWord p.1 = false) {x : List Char}
    (hx : ∀ c ∈ x, isWord c = true) (hopening : x <+: joined w rest) : x <+: w := by
  cases rest with
  | nil => simpa [joined, joinedRest] using hopening
  | cons p rest =>
    obtain ⟨c, v⟩ := p
    have hc : c ∉ x := fun hmem => by
      have hbreak := h (c, v) List.mem_cons_self
      simp [hx c hmem] at hbreak
    rw [joined_cons] at hopening
    exact prefix_of_prefix_append_cons hc hopening

end Pieces

end CppIdioms.Text
