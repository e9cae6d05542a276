import CppIdioms.Literal.Token
import CppIdioms.Proofs.Identifiers

/-!
# A text as its tokens

The tokens of a text and the blanks around them are the text: nothing between two blanks is lost, and no
token holds anything that the text does not have there. A token is taken at the place where the blanks
end, so it does not start with one; further in it has a blank only as a literal between quotes, whose
closing quote is there. Literals and words are taken as a whole.

## Contents

* `Enclosed`, `quoted`: what may stand between two quotes, and a text with its quotes.
* `IsLiteral`: complete string and character literals.
* `WholeToken`: a token in front of what follows it.
* `laidOut`: texts, each with what stands behind it.

## Main statements

* `literalTail?_eq_some_iff`: the reader of literals finds exactly the complete ones.
* `wholeToken_take`: the token that starts at a character.
* `tokens_and_blanks_are_text`: all tokens, in order.
-/

namespace CppIdioms

open CppIdioms.Text

namespace Literal

/-! ## §1 Literals between quotes -/

/-- What may stand between two quotes: any character but the quote and the backslash, and behind a
backslash any character but a line feed. -/
inductive Enclosed (mark : Char) : List Char → Prop where
  | nil : Enclosed mark []
  | plain {c : Char} {cs : List Char} (ne_mark : c ≠ mark) (ne_backslash : c ≠ '\\')
      (rest : Enclosed mark cs) : Enclosed mark (c :: cs)
  | escaped {c : Char} {cs : List Char} (ne_line : c ≠ '\n') (rest : Enclosed mark cs) :
      Enclosed mark ('\\' :: c :: cs)

/-- What may stand before the opening quote. -/
def encodings : List (List Char) := [[], ['u', '8'], ['u'], ['U'], ['L']]

/-- A body between quotes, behind its encoding. -/
def quoted (mark : Char) (encoding body : List Char) : List Char :=
  encoding ++ mark :: (body ++ [mark])

/-- The text is a string literal from its encoding to its closing quote. -/
def IsStringLiteral (text : List Char) : Prop :=
  ∃ encoding ∈ encodings, ∃ body, Enclosed stringMark body ∧ text = quoted stringMark encoding body

/-- The text is a character literal from its encoding to its closing quote. It is not empty. -/
def IsCharLiteral (text : List Char) : Prop :=
  ∃ encoding ∈ encodings, ∃ body, body ≠ [] ∧ Enclosed charMark body ∧
    text = quoted charMark encoding body

/-- The text is a complete literal between quotes. -/
def IsLiteral (text : List Char) : Prop := IsStringLiteral text ∨ IsCharLiteral text

section Quoted

variable {mark c : Char} {body rest cs : List Char} {n : Nat}

theorem quotedTail?_mark (hmark : mark ≠ '\\') (rest : List Char) :
    quotedTail? mark (mark :: rest) = some 1 := by
  rw [quotedTail?.eq_3 _ _ _ fun _ _ h _ => hmark h]
  simp

theorem quotedTail?_plain (hne : c ≠ mark) (hbackslash : c ≠ '\\') (cs : List Char) :
    quotedTail? mark (c :: cs) = (quotedTail? mark cs).map (· + 1) := by
  rw [quotedTail?.eq_3 _ _ _ fun _ _ h _ => hbackslash h]
  simp [hne, hbackslash]

theorem quotedTail?_escaped (hline : c ≠ '\n') (cs : List Char) :
    quotedTail? mark ('\\' :: c :: cs) = (quotedTail? mark cs).map (· + 2) := by
  simp [quotedTail?, hline]

/-- A body that ends with its quote is found. -/
theorem Enclosed.quotedTail? (h : Enclosed mark body) (hmark : mark ≠ '\\') (rest : List Char) :
    quotedTail? mark (body ++ mark :: rest) = some (body.length + 1) := by
  induction h with
  | nil => exact quotedTail?_mark hmark rest
  | plain ne_mark ne_backslash _ ih =>
    rw [List.cons_append, quotedTail?_plain ne_mark ne_backslash, ih]
    rfl
  | escaped ne_line _ ih =>
    rw [List.cons_append, List.cons_append, quotedTail?_escaped ne_line, ih]
    rfl

/-- What is found is a body that ends with its quote. -/
theorem exists_enclosed (h : quotedTail? mark cs = some n) :
    ∃ body rest, Enclosed mark body ∧ cs = body ++ mark :: rest ∧ n = body.length + 1 := by
  fun_induction quotedTail? mark cs generalizing n with
  | case1 => cases h
  | case2 c cs hline => cases h
  | case3 c cs hline ih =>
    obtain ⟨m, hm, rfl⟩ := Option.map_eq_some_iff.1 h
    obtain ⟨body, rest, hbody, rfl, rfl⟩ := ih hm
    exact ⟨'\\' :: c :: body, rest, .escaped (by simpa using hline) hbody, rfl, rfl⟩
  | case4 c cs _ heq =>
    obtain rfl := eq_of_beq heq
    exact ⟨[], cs, .nil, rfl, (Option.some.inj h).symm⟩
  | case5 => cases h
  | case6 c cs _ hne hbackslash ih =>
    obtain ⟨m, hm, rfl⟩ := Option.map_eq_some_iff.1 h
    obtain ⟨body, rest, hbody, rfl, rfl⟩ := ih hm
    exact ⟨c :: body, rest, .plain (by simpa using hne) (by simpa using hbackslash) hbody, rfl, rfl⟩

/-- The quote of string literals or that of character literals. -/
def isQuote (c : Char) : Bool := c == stringMark || c == charMark

theorem isQuote_stringMark : isQuote stringMark = true := by decide

theorem isQuote_charMark : isQuote charMark = true := by decide

theorem quote_ne (h : isQuote mark = true) :
    mark ≠ '\\' ∧ mark ≠ 'u' ∧ mark ≠ 'U' ∧ mark ≠ 'L' ∧ mark ≠ '8' := by
  rw [isQuote, Bool.or_eq_true, beq_iff_eq, beq_iff_eq] at h
  obtain rfl | rfl := h <;> decide

theorem length_quoted (mark : Char) (encoding body : List Char) :
    (quoted mark encoding body).length = encoding.length + body.length + 2 := by
  simp [quoted]
  omega

/-- A text that starts with a body between quotes, cut behind it. -/
theorem take_of_starts {encoding : List Char} (hopening : quoted mark encoding body <+: c :: cs) :
    c :: cs.take (body.length + encoding.length + 1) = quoted mark encoding body := by
  rw [List.prefix_iff_eq_take.1 hopening, length_quoted, List.take_succ_cons,
    Nat.add_comm encoding.length]

/-- A complete literal is found. -/
theorem literalTail?_of_starts (hmark : isQuote mark = true) {encoding : List Char}
    (hencoding : encoding ∈ encodings) (hbody : Enclosed mark body)
    (hopening : quoted mark encoding body <+: c :: cs) :
    literalTail? mark c cs = some (body.length + encoding.length + 1) := by
  obtain ⟨hbackslash, hu, hU, hL, h8⟩ := quote_ne hmark
  obtain ⟨rest, hrest⟩ := hopening
  have htail := hbody.quotedTail? hbackslash rest
  simp only [encodings, List.mem_cons, List.not_mem_nil, or_false] at hencoding
  obtain rfl | rfl | rfl | rfl | rfl := hencoding <;> cases hrest <;>
    simp [literalTail?, htail, hu.symm, hU.symm, hL.symm, h8.symm]

/-- What is found is a complete literal. -/
theorem exists_prefix_of_literalTail? (h : literalTail? mark c cs = some n) :
    ∃ encoding ∈ encodings, ∃ body, Enclosed mark body ∧ quoted mark encoding body <+: c :: cs ∧
      n = body.length + encoding.length + 1 := by
  unfold literalTail? at h
  split at h
  · next hc =>
    obtain rfl := eq_of_beq hc
    obtain ⟨body, rest, hbody, rfl, rfl⟩ := exists_enclosed h
    exact ⟨[], by simp [encodings], body, hbody, ⟨rest, by simp [quoted]⟩, by simp⟩
  · split at h
    · next hletter =>
      have hmem : [c] ∈ encodings := by
        simp only [Bool.or_eq_true, beq_iff_eq] at hletter
        obtain (rfl | rfl) | rfl := hletter <;> simp [encodings]
      split at h
      · next d rest =>
        split at h
        · next hd =>
          obtain rfl := eq_of_beq hd
          obtain ⟨m, hm, rfl⟩ := Option.map_eq_some_iff.1 h
          obtain ⟨body, rest, hbody, rfl, rfl⟩ := exists_enclosed hm
          exact ⟨[c], hmem, body, hbody, ⟨rest, by simp [quoted]⟩, rfl⟩
        · split at h
          · next e rest _ =>
            split at h
            · next he =>
              obtain rfl := eq_of_beq he
              obtain ⟨m, hm, rfl⟩ := Option.map_eq_some_iff.1 h
              obtain ⟨body, rest, hbody, rfl, rfl⟩ := exists_enclosed hm
              exact ⟨['u', '8'], by simp [encodings], body, hbody, ⟨rest, by simp [quoted]⟩, rfl⟩
            · cases h
          · cases h
      · cases h
    · cases h

theorem literalTail?_eq_some_iff (hmark : isQuote mark = true) : literalTail? mark c cs = some n ↔
    ∃ encoding ∈ encodings, ∃ body, Enclosed mark body ∧ quoted mark encoding body <+: c :: cs ∧
      n = body.length + encoding.length + 1 := by
  refine ⟨exists_prefix_of_literalTail?, ?_⟩
  rintro ⟨encoding, hencoding, body, hbody, hopening, rfl⟩
  exact literalTail?_of_starts hmark hencoding hbody hopening

/-- The quote stands behind the encoding. -/
theorem encodingLength_of_starts {encoding : List Char} (hencoding : encoding ∈ encodings)
    (hopening : quoted charMark encoding body <+: c :: cs) : encodingLength c cs = encoding.length := by
  obtain ⟨rest, hrest⟩ := hopening
  simp only [encodings, List.mem_cons, List.not_mem_nil, or_false] at hencoding
  obtain rfl | rfl | rfl | rfl | rfl := hencoding <;> cases hrest <;> rfl

theorem charTail?_eq_some_iff : charTail? c cs = some n ↔
    ∃ encoding ∈ encodings, ∃ body, body ≠ [] ∧ Enclosed charMark body ∧
      quoted charMark encoding body <+: c :: cs ∧ n = body.length + encoding.length + 1 := by
  rw [charTail?, Option.filter_eq_some_iff, literalTail?_eq_some_iff isQuote_charMark]
  constructor
  · rintro ⟨⟨encoding, hencoding, body, hbody, hopening, rfl⟩, hlength⟩
    rw [encodingLength_of_starts hencoding hopening] at hlength
    refine ⟨encoding, hencoding, body, ?_, hbody, hopening, rfl⟩
    rintro rfl
    simp at hlength
  · rintro ⟨encoding, hencoding, body, hne, hbody, hopening, rfl⟩
    refine ⟨⟨encoding, hencoding, body, hbody, hopening, rfl⟩, ?_⟩
    have hpos := List.length_pos_iff.2 hne
    rw [encodingLength_of_starts hencoding hopening]
    simp
    omega

/-- The first quote of a text tells which sort of literal it can start with. -/
theorem find?_quote_of_starts (hmark : isQuote mark = true) {encoding : List Char}
    (hencoding : encoding ∈ encodings) (hopening : quoted mark encoding body <+: cs) :
    cs.find? isQuote = some mark := by
  have hnone : ∀ e ∈ encodings, e.find? isQuote = none := by decide
  obtain ⟨rest, rfl⟩ := hopening
  rw [quoted, List.append_assoc, List.find?_append, hnone encoding hencoding, Option.none_or,
    List.cons_append, List.find?_cons_of_pos hmark]

theorem stringTail?_of_charTail? (h : charTail? c cs = some n) : stringTail? c cs = none := by
  obtain ⟨encoding, hencoding, body, -, -, hopening, -⟩ := charTail?_eq_some_iff.1 h
  refine Option.eq_none_iff_forall_ne_some.2 fun m hm => ?_
  obtain ⟨encoding', hencoding', body', -, hopening', -⟩ := exists_prefix_of_literalTail? hm
  have hchar := find?_quote_of_starts isQuote_charMark hencoding hopening
  rw [find?_quote_of_starts isQuote_stringMark hencoding' hopening'] at hchar
  exact absurd hchar (by decide)

end Quoted

/-! ## §2 Numbers and words -/

section Runs

variable {c : Char} {cs : List Char} {n : Nat}

theorem numberMarks_not_blank : ∀ c ∈ ['.', charMark, '+', '-'], isBlank c = false :=
  forall_mem_of_all (by decide)

theorem word_not_blank (h : isWord c = true) : isBlank c = false :=
  Bool.eq_false_iff.2 fun hblank => by simp [blank_not_word hblank] at h

theorem numberPart_not_blank (h : (isWord c || c == '.' || c == charMark) = true) :
    isBlank c = false := by
  simp only [Bool.or_eq_true, beq_iff_eq] at h
  obtain (hword | rfl) | rfl := h
  · exact word_not_blank hword
  · exact numberMarks_not_blank _ (by simp)
  · exact numberMarks_not_blank _ (by simp)

/-- A number goes on up to a blank at most. -/
theorem numberRest_no_blank (cs : List Char) : ∀ d ∈ cs.take (numberRest cs), isBlank d = false := by
  fun_induction numberRest cs with
  | case1 => simp
  | case2 c hc => simpa using numberPart_not_blank hc
  | case3 => simp
  | case4 c d cs hsign ih =>
    simp only [Bool.and_eq_true, Bool.or_eq_true, beq_iff_eq] at hsign
    obtain ⟨hmark, hsign⟩ := hsign
    have hletter : isBlank c = false := by
      simp only [isExponentMark, Bool.or_eq_true, beq_iff_eq] at hmark
      obtain ((rfl | rfl) | rfl) | rfl := hmark <;> decide
    have hd : isBlank d = false := by
      obtain rfl | rfl := hsign <;> decide
    rw [List.take_succ_cons, List.take_succ_cons]
    exact List.forall_mem_cons.2 ⟨hletter, List.forall_mem_cons.2 ⟨hd, ih⟩⟩
  | case5 c d cs _ hc ih =>
    rw [List.take_succ_cons]
    exact List.forall_mem_cons.2 ⟨numberPart_not_blank hc, ih⟩
  | case6 => simp

/-- What follows a number does not belong to a word. -/
theorem head?_drop_numberRest (cs : List Char) :
    ∀ d ∈ (cs.drop (numberRest cs)).head?, isWord d = false := by
  fun_induction numberRest cs with
  | case1 => simp
  | case2 => simp
  | case3 c hc =>
    simp only [Bool.or_eq_true, not_or, Bool.not_eq_true] at hc
    simpa using hc.1.1
  | case4 c d cs _ ih => simpa using ih
  | case5 c d cs _ hc ih => simpa using ih
  | case6 c d cs _ hc =>
    simp only [Bool.or_eq_true, not_or, Bool.not_eq_true] at hc
    simpa using hc.1.1

end Runs

/-! ## §3 One token -/

/-- Digits, letters and the low line: what numbers and identifiers start with, a point aside. -/
def startsRun (c : Char) : Bool := isDigit c || c.isAlpha || c == '_'

/-- A token is not empty, does not start with a blank and has one further in only if it is a complete
literal. No literal that starts where it starts is longer or shorter, and a number or identifier ends
where no word goes on. -/
structure WholeToken (token rest : List Char) : Prop where
  nonempty : token ≠ []
  start : ∀ c ∈ token.head?, isBlank c = false
  blank : (∃ c ∈ token, isBlank c = true) → IsLiteral token
  literal : ∀ l, IsLiteral l → l <+: token ++ rest → l = token
  run : (∀ c ∈ token.head?, startsRun c = true) → ¬ IsLiteral token →
    ∀ d ∈ rest.head?, isWord d = false

section Token

variable {c : Char} {cs l : List Char} {n : Nat}

theorem isLiteral_of_stringTail? (h : stringTail? c cs = some n) : IsLiteral (c :: cs.take n) := by
  obtain ⟨encoding, hencoding, body, hbody, hopening, rfl⟩ := exists_prefix_of_literalTail? h
  exact .inl ⟨encoding, hencoding, body, hbody, take_of_starts hopening⟩

theorem isLiteral_of_charTail? (h : charTail? c cs = some n) : IsLiteral (c :: cs.take n) := by
  obtain ⟨encoding, hencoding, body, hne, hbody, hopening, rfl⟩ := charTail?_eq_some_iff.1 h
  exact .inr ⟨encoding, hencoding, body, hne, hbody, take_of_starts hopening⟩

/-- A complete literal is the token that starts where it starts. -/
theorem IsLiteral.length_eq (h : IsLiteral l) (hopening : l <+: c :: cs) :
    l.length = tokenTail c cs + 1 := by
  obtain ⟨encoding, hencoding, body, hbody, rfl⟩ | ⟨encoding, hencoding, body, hne, hbody, rfl⟩ := h
  · have hstring : stringTail? c cs = some (body.length + encoding.length + 1) :=
      literalTail?_of_starts isQuote_stringMark hencoding hbody hopening
    rw [length_quoted, tokenTail, hstring]
    simp
    omega
  · have hchar : charTail? c cs = some (body.length + encoding.length + 1) :=
      charTail?_eq_some_iff.2 ⟨encoding, hencoding, body, hne, hbody, hopening, rfl⟩
    rw [length_quoted, tokenTail, stringTail?_of_charTail? hchar, hchar]
    simp
    omega

/-- Unless it is a literal, a token is a number, an identifier or one character. -/
theorem tokenTail_cases (c : Char) (cs : List Char) : IsLiteral (c :: cs.take (tokenTail c cs)) ∨
    (numberTail? c cs = some (tokenTail c cs)) ∨
    (numberTail? c cs = none ∧ wordTail? c cs = some (tokenTail c cs)) ∨
    (numberTail? c cs = none ∧ wordTail? c cs = none ∧ tokenTail c cs = 0) := by
  cases hstring : stringTail? c cs with
  | some n =>
    have htail : tokenTail c cs = n := by simp [tokenTail, hstring]
    exact .inl (htail ▸ isLiteral_of_stringTail? hstring)
  | none =>
    cases hchar : charTail? c cs with
    | some n =>
      have htail : tokenTail c cs = n := by simp [tokenTail, hstring, hchar]
      exact .inl (htail ▸ isLiteral_of_charTail? hchar)
    | none =>
      right
      cases hnumber : numberTail? c cs with
      | some n => simp [tokenTail, hstring, hchar, hnumber]
      | none =>
        cases hword : wordTail? c cs with
        | some n => simp [tokenTail, hstring, hchar, hnumber, hword]
        | none => simp [tokenTail, hstring, hchar, hnumber, hword]

theorem numberTail?_cases (h : numberTail? c cs = some n) :
    (isDigit c = true ∧ n = numberRest cs) ∨
      (c = '.' ∧ ∃ d rest, cs = d :: rest ∧ isDigit d = true ∧ n = numberRest rest + 1) := by
  unfold numberTail? at h
  split at h
  · next hdigit => exact .inl ⟨hdigit, (Option.some.inj h).symm⟩
  · split at h
    · next d rest _ =>
      split at h
      · next hdigit => exact .inr ⟨rfl, d, rest, rfl, hdigit, (Option.some.inj h).symm⟩
      · cases h
    · cases h

theorem numberTail?_no_blank (h : numberTail? c cs = some n) : ∀ d ∈ cs.take n, isBlank d = false := by
  obtain ⟨-, rfl⟩ | ⟨-, d, rest, rfl, hdigit, rfl⟩ := numberTail?_cases h
  · exact numberRest_no_blank cs
  · rw [List.take_succ_cons]
    exact List.forall_mem_cons.2 ⟨word_not_blank (digit_word hdigit), numberRest_no_blank rest⟩

theorem wordTail?_eq_some (h : wordTail? c cs = some n) :
    cs.take n = cs.takeWhile isWord ∧ cs.drop n = cs.dropWhile isWord := by
  unfold wordTail? at h
  split at h
  · obtain rfl := Option.some.inj h
    have htake : (cs.takeWhile isWord ++ cs.dropWhile isWord).take (cs.takeWhile isWord).length =
        cs.takeWhile isWord := List.take_left
    have hdrop : (cs.takeWhile isWord ++ cs.dropWhile isWord).drop (cs.takeWhile isWord).length =
        cs.dropWhile isWord := List.drop_left
    rw [List.takeWhile_append_dropWhile] at htake hdrop
    exact ⟨htake, hdrop⟩
  · cases h

/-- The token that starts at a character which is no blank. -/
theorem wholeToken_take (hc : isBlank c = false) :
    WholeToken (c :: cs.take (tokenTail c cs)) (cs.drop (tokenTail c cs)) where
  nonempty := List.cons_ne_nil _ _
  start := by simpa using hc
  blank := by
    rintro ⟨d, hd, hblank⟩
    obtain rfl | hd := List.mem_cons.1 hd
    · simp [hc] at hblank
    · obtain hliteral | hnumber | ⟨-, hword⟩ | ⟨-, -, hother⟩ := tokenTail_cases c cs
      · exact hliteral
      · simp [numberTail?_no_blank hnumber d hd] at hblank
      · rw [(wordTail?_eq_some hword).1] at hd
        have hd' := List.mem_takeWhile_imp hd
        simp [word_not_blank hd'] at hblank
      · rw [hother] at hd
        cases hd
  literal := by
    intro l hl hopening
    rw [List.cons_append, List.take_append_drop] at hopening
    rw [List.prefix_iff_eq_take.1 hopening, hl.length_eq hopening, List.take_succ_cons]
  run := by
    intro hstart hnot d hd
    have hstart' : startsRun c = true := hstart c rfl
    obtain hliteral | hnumber | ⟨-, hword⟩ | ⟨hnumber, hword, -⟩ := tokenTail_cases c cs
    · exact absurd hliteral hnot
    · obtain ⟨-, htail⟩ | ⟨rfl, -⟩ := numberTail?_cases hnumber
      · exact head?_drop_numberRest cs d (htail ▸ hd)
      · exact absurd hstart' (by decide)
    · rw [(wordTail?_eq_some hword).2] at hd
      have hhead := List.head?_dropWhile_not isWord cs
      rw [hd] at hhead
      simpa using hhead
    · simp only [startsRun, Bool.or_eq_true, or_assoc] at hstart'
      obtain hdigit | hletter := hstart'
      · simp [numberTail?, hdigit] at hnumber
      · rw [← Bool.or_eq_true] at hletter
        rw [wordTail?, if_pos hletter] at hword
        cases hword

end Token

/-! ## §4 All tokens of a text -/

/-- Texts in a row, each with what stands between it and the next one. -/
def laidOut (pieces : List (List Char × List Char)) : List Char :=
  pieces.flatMap fun piece => piece.1 ++ piece.2

/-- A text is its tokens in their order with blanks around them, and each token is a whole one in front
of what the text has behind it. -/
theorem tokens_and_blanks_are_text (text : List Char) : ∃ before pieces,
    pieces.map (·.1) = tokens text ∧ text = before ++ laidOut pieces ∧
    (∀ c ∈ before, isBlank c = true) ∧
    ∀ token gap right, (token, gap) :: right <:+ pieces →
      (∀ c ∈ gap, isBlank c = true) ∧ WholeToken token (gap ++ laidOut right) := by
  fun_induction tokens text with
  | case1 => exact ⟨[], [], rfl, rfl, by simp, by simp⟩
  | case2 c cs hblank ih =>
    obtain ⟨before, pieces, htokens, htext, hbefore, hpieces⟩ := ih
    refine ⟨c :: before, pieces, htokens, by rw [List.cons_append, ← htext], ?_, hpieces⟩
    exact List.forall_mem_cons.2 ⟨hblank, hbefore⟩
  | case3 c cs hblank ih =>
    obtain ⟨before, pieces, htokens, htext, hbefore, hpieces⟩ := ih
    -- The blanks in front of the other tokens stand behind this one.
    refine ⟨[], (c :: cs.take (tokenTail c cs), before) :: pieces, by simp [htokens], ?_, by simp, ?_⟩
    · have hcut := List.take_append_drop (tokenTail c cs) cs
      rw [htext] at hcut
      simpa [laidOut] using hcut.symm
    · intro token gap right hright
      obtain heq | hright := List.suffix_cons_iff.1 hright
      · cases heq
        rw [← htext]
        exact ⟨hbefore, wholeToken_take (Bool.eq_false_iff.2 hblank)⟩
      · exact hpieces token gap right hright

/-- A blank inside a closed literal is kept, one behind a quote that is never closed is not. -/
example : tokens "u8\"a b\" + '\\' 1".toList =
    ["u8\"a b\"".toList, ['+'], ['\x27'], ['\\'], ['\x27'], ['1']] := by
  decide +kernel

end Literal

end CppIdioms
