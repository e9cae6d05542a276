/-!
# Blanks

White space of running text and what is done with it: trimming the ends of a text, and squeezing
the blanks between its words to single spaces.

## Contents

* `isBlank`: the white space characters.
* `trimStart`, `trimEnd`, `trim`: a text without the blanks at its ends.
* `squeeze`: the words of a text joined by single spaces.
* `atLineEnd`: nothing is left but a line feed.
* `String` forms: `trimmed`, `squeezed`.

## Main statements

* `length_trim_le`, `length_squeeze_le`: neither operation lengthens a text.
-/

namespace CppIdioms.Text

/-! ## §1 The class -/

/-- White space: the controls that move the carriage, the separators U+001C to U+001F, the space,
and the space separators and line separators of the wider repertoire. -/
def isBlank (c : Char) : Bool :=
  let n := c.toNat
  (0x09 ≤ n && n ≤ 0x0d) || (0x1c ≤ n && n ≤ 0x20) || n == 0x85 || n == 0xa0 || n == 0x1680
    || (0x2000 ≤ n && n ≤ 0x200a) || n == 0x2028 || n == 0x2029 || n == 0x202f || n == 0x205f
    || n == 0x3000

/-! ## §2 Trimming -/

/-- The text without the longest tail whose characters all satisfy `p`. -/
def dropEndWhile (p : Char → Bool) (cs : List Char) : List Char :=
  (cs.reverse.dropWhile p).reverse

/-- The text without the blanks it starts with. -/
def trimStart (cs : List Char) : List Char := cs.dropWhile isBlank

/-- The text without the blanks it ends with. -/
def trimEnd (cs : List Char) : List Char := dropEndWhile isBlank cs

/-- The text without the blanks at both ends. -/
def trim (cs : List Char) : List Char := trimEnd (trimStart cs)

theorem length_dropEndWhile_le (p : Char → Bool) (cs : List Char) :
    (dropEndWhile p cs).length ≤ cs.length := by
  have h := (List.dropWhile_suffix (l := cs.reverse) p).length_le
  simpa [dropEndWhile] using h

theorem length_trim_le (cs : List Char) : (trim cs).length ≤ cs.length :=
  Nat.le_trans (length_dropEndWhile_le isBlank _) (List.dropWhile_suffix isBlank).length_le

/-! ## §3 Squeezing -/

/-- Squeeze a text of which some words may have been passed (`started`) and since whose last word
a blank may have been passed (`gap`). -/
def squeezeFrom (started gap : Bool) : List Char → List Char
  | [] => []
  | c :: cs =>
    if isBlank c then squeezeFrom started started cs
    else if gap then ' ' :: c :: squeezeFrom true false cs
    else c :: squeezeFrom true false cs

/-- The words of a text with one space between neighbours and none at the ends. -/
def squeeze (cs : List Char) : List Char := squeezeFrom false false cs

theorem length_squeezeFrom_le (started gap : Bool) (cs : List Char) :
    (squeezeFrom started gap cs).length ≤ cs.length + gap.toNat := by
  induction cs generalizing started gap with
  | nil => simp [squeezeFrom]
  | cons c cs ih =>
    unfold squeezeFrom
    split
    · have h := ih started started
      have hs : started.toNat ≤ 1 := Bool.toNat_le started
      simp only [List.length_cons]
      omega
    · have h := ih true false
      simp only [Bool.toNat_false] at h
      split
      · rename_i hg
        subst hg
        simp only [List.length_cons, Bool.toNat_true]
        omega
      · simp only [List.length_cons]
        omega

theorem length_squeeze_le (cs : List Char) : (squeeze cs).length ≤ cs.length := by
  simpa [squeeze] using length_squeezeFrom_le false false cs

/-! ## §4 Ends of lines -/

/-- Nothing is left, except perhaps one line feed. -/
def atLineEnd : List Char → Bool
  | [] => true
  | ['\n'] => true
  | _ => false

/-! ## §5 On strings -/

/-- `trim` on strings. -/
def trimmed (s : String) : String := String.ofList (trim s.toList)

/-- `squeeze` on strings. -/
def squeezed (s : String) : String := String.ofList (squeeze s.toList)

end CppIdioms.Text
