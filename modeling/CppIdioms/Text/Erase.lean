/-!
# Erasing a phrase

`erase phrase` takes every occurrence of a phrase out of a text, from left to right and without
overlap: what remains is not searched again, so new occurrences may arise.

## Contents

* `erase`: on lists of characters.

## Main statements

* `length_erase_le`: erasing never lengthens a text.
-/

namespace CppIdioms.Text

/-- Erase `phrase` while `skip` characters of an occurrence are still to be passed over. -/
def eraseFrom (phrase : List Char) : Nat → List Char → List Char
  | _, [] => []
  | skip + 1, _ :: cs => eraseFrom phrase skip cs
  | 0, c :: cs =>
    if !phrase.isEmpty && phrase.isPrefixOf (c :: cs) then eraseFrom phrase (phrase.length - 1) cs
    else c :: eraseFrom phrase 0 cs

/-- The text without the occurrences of `phrase`, found from left to right. -/
def erase (phrase cs : List Char) : List Char := eraseFrom phrase 0 cs

theorem length_eraseFrom_le (phrase : List Char) (skip : Nat) (cs : List Char) :
    (eraseFrom phrase skip cs).length ≤ cs.length := by
  induction cs generalizing skip with
  | nil => cases skip <;> simp [eraseFrom]
  | cons c cs ih =>
    cases skip with
    | succ skip => exact Nat.le_trans (ih skip) (Nat.le_succ _)
    | zero =>
      unfold eraseFrom
      split
      · exact Nat.le_trans (ih _) (Nat.le_succ _)
      · simpa using ih 0

theorem length_erase_le (phrase cs : List Char) : (erase phrase cs).length ≤ cs.length :=
  length_eraseFrom_le phrase 0 cs

end CppIdioms.Text
