import CppIdioms.Proofs.NumberForms
import CppIdioms.Rule.MacroConstant

/-!
# Replacements that are one literal

A replacement is taken for a constant if its tokens are one literal in any number of parentheses. The
loop takes away a first and a last token without looking at what is between them, so that the two need
not belong together; if they do not, some parenthesis is left when the loop ends, and no literal has one.
What the loop leaves is therefore a literal only if the parentheses stood around it one by one.

A text and its tokens differ by blanks alone. Together with the loop this gives the texts that are taken
for a constant, by what stands between their characters.

## Contents

* `IsCore`, `enclosed`: tokens that are one literal, and tokens with parentheses around them.
* `Mismatched`: parentheses that do not stand around one literal.
* `SpellsLiteral`: a text that is a literal up to parentheses around it and blanks.
* `Node.ReplacedBy`: a macro by the text of its replacement.

## Main statements

* `singleLiteral?_eq_some_iff`: what tokens are taken for one literal.
* `singleLiteral?_tokens_iff`: what texts are.
* `single_literal_iff_enclosed_core`: tokens, mismatched parentheses, texts and reports.
-/

namespace CppIdioms

open CppIdioms.Text

namespace Literal

/-! ## §1 Cores -/

/-- Tokens that are one literal: a number, perhaps behind a sign, or a literal between quotes. -/
inductive IsCore : List String → Prop where
  | number {t : String} (h : Lined IsNumberText t.toList) : IsCore [t]
  | signed {sign t : String} (hsign : sign = "+" ∨ sign = "-") (h : Lined IsNumberText t.toList) :
      IsCore [sign, t]
  | string {t : String} (h : Lined IsStringLiteral t.toList) : IsCore [t]
  | character {t : String} (h : Lined IsCharLiteral t.toList) : IsCore [t]

section Tokens

variable {ts core : List String} {literal : String}

theorem bareLiteral?_eq_some_iff :
    bareLiteral? ts = some literal ↔ IsCore ts ∧ literal = String.join ts := by
  constructor
  · intro h
    unfold bareLiteral? at h
    split at h
    · next t =>
      split at h
      · next hform =>
        cases h
        refine ⟨?_, by simp [String.join]⟩
        simp only [Bool.or_eq_true, isNumber_iff, isString_iff, isChar_iff] at hform
        obtain (hform | hform) | hform := hform
        · exact .number hform
        · exact .string hform
        · exact .character hform
      · cases h
    · next sign t =>
      split at h
      · next hform =>
        cases h
        refine ⟨?_, by simp [String.join]⟩
        simp only [Bool.and_eq_true, Bool.or_eq_true, beq_iff_eq, isNumber_iff] at hform
        exact .signed hform.1.symm hform.2
      · cases h
    · cases h
  · rintro ⟨hcore, rfl⟩
    cases hcore with
    | number h => simp [bareLiteral?, isNumber_iff.2 h, String.join]
    | signed hsign h => simp [bareLiteral?, isNumber_iff.2 h, hsign.symm, String.join]
    | string h => simp [bareLiteral?, isString_iff.2 h, String.join]
    | character h => simp [bareLiteral?, isChar_iff.2 h, String.join]

/-- No literal is a parenthesis. -/
theorem IsCore.ne_parenthesis (h : IsCore core) : ∀ t ∈ core, t ≠ "(" ∧ t ≠ ")" := by
  have hnumber {t : String} (ht : Lined IsNumberText t.toList) : t ≠ "(" ∧ t ≠ ")" := by
    constructor <;> rintro rfl
    · exact absurd (isNumber_iff.2 ht) (by decide)
    · exact absurd (isNumber_iff.2 ht) (by decide)
  cases h with
  | number h => simpa using hnumber h
  | signed hsign h =>
    have hsign' : ∀ s ∈ ["+", "-"], s ≠ "(" ∧ s ≠ ")" := by decide
    exact List.forall_mem_cons.2 ⟨hsign' _ (by simpa using hsign), by simpa using hnumber h⟩
  | @string t h =>
    have hstring : t ≠ "(" ∧ t ≠ ")" := by
      constructor <;> rintro rfl
      · exact absurd (isString_iff.2 h) (by decide)
      · exact absurd (isString_iff.2 h) (by decide)
    simpa using hstring
  | @character t h =>
    have hcharacter : t ≠ "(" ∧ t ≠ ")" := by
      constructor <;> rintro rfl
      · exact absurd (isChar_iff.2 h) (by decide)
      · exact absurd (isChar_iff.2 h) (by decide)
    simpa using hcharacter

theorem IsCore.ne_nil (h : IsCore core) : core ≠ [] := by
  cases h <;> nofun

/-! ## §2 Parentheses -/

/-- Tokens with a number of parentheses on either side. -/
def enclosed (k : Nat) (core : List String) : List String :=
  List.replicate k "(" ++ core ++ List.replicate k ")"

theorem enclosed_succ (k : Nat) (core : List String) :
    enclosed (k + 1) core = "(" :: (enclosed k core ++ [")"]) := by
  rw [enclosed, enclosed, List.replicate_succ, List.replicate_succ']
  simp

theorem enclosed_ne_nil (k : Nat) (h : core ≠ []) : enclosed k core ≠ [] := by
  simp [enclosed, h]

theorem unparenthesize_enclosed_one (h : ts ≠ []) :
    unparenthesize ("(" :: (ts ++ [")"])) = unparenthesize ts := by
  have hlength : 3 ≤ (ts ++ [")"]).length + 1 := by
    have hpos := List.length_pos_iff.2 h
    simp
    omega
  have hlast : ("(" :: (ts ++ [")"])).getLast? = some ")" := by
    rw [← List.cons_append, List.getLast?_concat]
  rw [unparenthesize, hlast, List.length_cons, if_pos (by simpa using hlength)]
  simp

theorem unparenthesize_of_head (h : ts.head? ≠ some "(") : unparenthesize ts = ts := by
  rw [unparenthesize, if_neg]
  simp [h]

/-- What the loop leaves stood between the parentheses that it took away. -/
theorem exists_enclosed_unparenthesize (ts : List String) : ∃ k, ts = enclosed k (unparenthesize ts) := by
  fun_induction unparenthesize ts with
  | case1 ts h ih =>
    obtain ⟨k, hk⟩ := ih
    simp only [Bool.and_eq_true, decide_eq_true_eq, beq_iff_eq] at h
    obtain ⟨⟨hlength, hhead⟩, hlast⟩ := h
    obtain ⟨rest, rfl⟩ := List.head?_eq_some_iff.1 hhead
    rw [List.drop_succ_cons, List.drop_zero] at hk ⊢
    have hrest : rest.getLast? = some ")" := by
      cases rest with
      | nil => simp at hlength
      | cons => exact hlast
    refine ⟨k + 1, ?_⟩
    rw [enclosed_succ, ← hk, List.dropLast_append_getLast? _ hrest]
  | case2 ts h => exact ⟨0, by simp [enclosed]⟩

/-- The parentheses around a literal are all taken away. -/
theorem IsCore.unparenthesize_enclosed (h : IsCore core) (k : Nat) :
    unparenthesize (enclosed k core) = core := by
  induction k with
  | zero =>
    have hhead : core.head? ≠ some "(" := fun hhead =>
      (h.ne_parenthesis _ (List.mem_of_mem_head? hhead)).1 rfl
    simpa [enclosed] using unparenthesize_of_head hhead
  | succ k ih => rw [enclosed_succ, unparenthesize_enclosed_one (enclosed_ne_nil k h.ne_nil), ih]

/-- Tokens are taken for one literal exactly if they are one, with parentheses around it. -/
theorem singleLiteral?_eq_some_iff : singleLiteral? ts = some literal ↔
    ∃ k core, IsCore core ∧ ts = enclosed k core ∧ literal = String.join core := by
  rw [singleLiteral?, bareLiteral?_eq_some_iff]
  constructor
  · rintro ⟨hcore, rfl⟩
    obtain ⟨k, hk⟩ := exists_enclosed_unparenthesize ts
    exact ⟨k, _, hcore, hk, rfl⟩
  · rintro ⟨k, core, hcore, rfl, rfl⟩
    rw [hcore.unparenthesize_enclosed]
    exact ⟨hcore, rfl⟩

/-- Parentheses of which some are left open, or some are closed before others are opened, or between
which there is nothing. -/
inductive Mismatched (ts : List String) : Prop where
  | unbalanced (h : ts.count "(" ≠ ts.count ")")
  | adjacent (h : [")", "("].Sublist ts)
  | empty (h : ∀ t ∈ ts, t = "(" ∨ t = ")")

theorem IsCore.not_mismatched (h : IsCore core) (k : Nat) : ¬ Mismatched (enclosed k core) := by
  have hopen : "(" ∉ core := fun hmem => (h.ne_parenthesis _ hmem).1 rfl
  have hclose : ")" ∉ core := fun hmem => (h.ne_parenthesis _ hmem).2 rfl
  rintro (hcount | hsub | hall)
  · refine hcount ?_
    simp [enclosed, List.count_eq_zero.2 hopen, List.count_eq_zero.2 hclose, List.count_replicate]
  · obtain ⟨left, right, hcut, hleft, hright⟩ := List.sublist_append_iff.1 hsub
    cases left with
    | nil =>
      rw [List.nil_append] at hcut
      have hmem : "(" ∈ List.replicate k ")" := (hcut ▸ hright).subset (by simp)
      exact absurd (List.eq_of_mem_replicate hmem) (by decide)
    | cons t left =>
      obtain ⟨rfl, -⟩ := List.cons.inj hcut
      obtain hmem | hmem := List.mem_append.1 (hleft.subset List.mem_cons_self)
      · exact absurd (List.eq_of_mem_replicate hmem) (by decide)
      · exact hclose hmem
  · obtain ⟨t, rest, rfl⟩ := List.exists_cons_of_ne_nil h.ne_nil
    obtain ⟨hne, hne'⟩ := h.ne_parenthesis t List.mem_cons_self
    obtain rfl | rfl := hall t (by simp [enclosed])
    · exact hne rfl
    · exact hne' rfl

end Tokens

/-! ## §3 Tokens of a text -/

/-- The text consists of the pieces in their order, with blanks around them. -/
inductive Spaced : List (List Char) → List Char → Prop where
  | nil {gap : List Char} (hgap : ∀ c ∈ gap, isBlank c = true) : Spaced [] gap
  | cons {gap piece rest : List Char} {pieces : List (List Char)} (hgap : ∀ c ∈ gap, isBlank c = true)
      (h : Spaced pieces rest) : Spaced (piece :: pieces) (gap ++ (piece ++ rest))

section Texts

variable {text rest gap piece : List Char} {pieces right : List (List Char)} {t : List Char}

theorem Spaced.blank_append (h : Spaced pieces text) (hgap : ∀ c ∈ gap, isBlank c = true) :
    Spaced pieces (gap ++ text) := by
  cases h with
  | nil hgap' => exact .nil (List.forall_mem_append.2 ⟨hgap, hgap'⟩)
  | cons hgap' h =>
    rw [← List.append_assoc]
    exact .cons (List.forall_mem_append.2 ⟨hgap, hgap'⟩) h

theorem Spaced.append_blank (h : Spaced pieces text) (hgap : ∀ c ∈ gap, isBlank c = true) :
    Spaced pieces (text ++ gap) := by
  induction h with
  | nil hgap' => exact .nil (List.forall_mem_append.2 ⟨hgap', hgap⟩)
  | cons hgap' _ ih =>
    rw [List.append_assoc, List.append_assoc]
    exact .cons hgap' ih

theorem Spaced.exists_append (h : Spaced (pieces ++ right) text) :
    ∃ front back, text = front ++ back ∧ Spaced pieces front ∧ Spaced right back := by
  induction pieces generalizing text with
  | nil => exact ⟨[], text, rfl, .nil nofun, h⟩
  | cons piece pieces ih =>
    cases h with
    | @cons gap _ rest _ hgap h =>
      obtain ⟨front, back, rfl, hfront, hback⟩ := ih h
      exact ⟨gap ++ (piece ++ front), back, by simp, .cons hgap hfront, hback⟩

theorem Spaced.exists_one (h : Spaced [piece] text) : ∃ before after,
    (∀ c ∈ before, isBlank c = true) ∧ (∀ c ∈ after, isBlank c = true) ∧
      text = before ++ (piece ++ after) := by
  cases h with
  | cons hbefore h =>
    cases h with
    | nil hafter => exact ⟨_, _, hbefore, hafter, rfl⟩

theorem spaced_tokens (text : List Char) : Spaced (tokens text) text := by
  fun_induction tokens text with
  | case1 => exact .nil (List.forall_mem_nil _)
  | case2 c cs hblank ih =>
    have hgap : ∀ d ∈ [c], isBlank d = true := by simpa using hblank
    exact ih.blank_append hgap
  | case3 c cs hblank ih =>
    have hcut := List.take_append_drop (tokenTail c cs) cs
    have h : Spaced _ ([] ++ (c :: cs.take (tokenTail c cs) ++ cs.drop (tokenTail c cs))) :=
      .cons (List.forall_mem_nil _) ih
    rwa [List.nil_append, List.cons_append, hcut] at h

/-- A token has a blank in it only if it is a complete literal. -/
theorem isLiteral_of_mem_tokens (ht : t ∈ tokens text) (hblank : ∃ c ∈ t, isBlank c = true) :
    IsLiteral t := by
  fun_induction tokens text with
  | case1 => cases ht
  | case2 c cs _ ih => exact ih ht
  | case3 c cs hc ih =>
    obtain rfl | ht := List.mem_cons.1 ht
    · exact (wholeToken_take (Bool.eq_false_iff.2 hc)).blank hblank
    · exact ih ht

theorem getLast?_quoted (mark : Char) (encoding body : List Char) :
    (quoted mark encoding body).getLast? = some mark := by
  rw [quoted, ← List.cons_append, ← List.append_assoc, List.getLast?_concat]

theorem IsLiteral.getLast?_isQuote (h : IsLiteral t) : ∃ mark ∈ t.getLast?, isQuote mark = true := by
  obtain ⟨encoding, -, body, -, rfl⟩ | ⟨encoding, -, body, -, -, rfl⟩ := h
  · exact ⟨stringMark, getLast?_quoted .., isQuote_stringMark⟩
  · exact ⟨charMark, getLast?_quoted .., isQuote_charMark⟩

/-- In a token no line feed stands behind a literal. -/
theorem Lined.of_token {form : List Char → Prop} (h : Lined form t)
    (ht : (∃ c ∈ t, isBlank c = true) → IsLiteral t) : form t := by
  obtain ⟨body, ending, hbody, rfl | rfl, rfl⟩ := h
  · rwa [List.append_nil]
  · obtain ⟨mark, hmark, hquote⟩ := (ht ⟨'\n', by simp, by decide⟩).getLast?_isQuote
    rw [List.getLast?_concat] at hmark
    cases hmark
    exact absurd hquote (by decide)

/-! ## §4 Texts -/

/-- The text is the literal, but for parentheses around it and for blanks around its tokens. -/
inductive SpellsLiteral : List Char → List Char → Prop where
  | token {before token after : List Char} (hbefore : ∀ c ∈ before, isBlank c = true)
      (hafter : ∀ c ∈ after, isBlank c = true) (h : IsNumberText token ∨ IsLiteral token) :
      SpellsLiteral (before ++ (token ++ after)) token
  | signed {before gap number after : List Char} {sign : Char} (hsign : sign = '+' ∨ sign = '-')
      (hbefore : ∀ c ∈ before, isBlank c = true) (hgap : ∀ c ∈ gap, isBlank c = true)
      (hafter : ∀ c ∈ after, isBlank c = true) (h : IsNumberText number) :
      SpellsLiteral (before ++ sign :: (gap ++ (number ++ after))) (sign :: number)
  | parenthesized {before inner after literal : List Char} (hbefore : ∀ c ∈ before, isBlank c = true)
      (hafter : ∀ c ∈ after, isBlank c = true) (h : SpellsLiteral inner literal) :
      SpellsLiteral (before ++ '(' :: (inner ++ ')' :: after)) literal

theorem IsCore.spellsLiteral {core : List String} (h : IsCore core)
    (hspaced : Spaced (core.map String.toList) text)
    (htokens : ∀ t ∈ core, (∃ c ∈ t.toList, isBlank c = true) → IsLiteral t.toList) :
    SpellsLiteral text (String.join core).toList := by
  have hjoin (t : String) : (String.join [t]).toList = t.toList := by simp [String.join]
  cases h with
  | @number t h =>
    obtain ⟨before, after, hbefore, hafter, rfl⟩ := hspaced.exists_one
    exact hjoin t ▸ .token hbefore hafter (.inl (h.of_token (htokens t (by simp))))
  | @string t h =>
    obtain ⟨before, after, hbefore, hafter, rfl⟩ := hspaced.exists_one
    exact hjoin t ▸ .token hbefore hafter (.inr (.inl (h.of_token (htokens t (by simp)))))
  | @character t h =>
    obtain ⟨before, after, hbefore, hafter, rfl⟩ := hspaced.exists_one
    exact hjoin t ▸ .token hbefore hafter (.inr (.inr (h.of_token (htokens t (by simp)))))
  | @signed sign t hsign h =>
    cases hspaced with
    | cons hbefore hspaced =>
      obtain ⟨gap, after, hgap, hafter, rfl⟩ := hspaced.exists_one
      have hnumber := h.of_token (htokens t (by simp))
      have hjoin : (String.join [sign, t]).toList = sign.toList ++ t.toList := by simp [String.join]
      rw [hjoin]
      obtain rfl | rfl := hsign
      · exact .signed (.inl rfl) hbefore hgap hafter hnumber
      · exact .signed (.inr rfl) hbefore hgap hafter hnumber

theorem Spaced.spellsLiteral {core : List String} (hcore : IsCore core)
    (htokens : ∀ t ∈ core, (∃ c ∈ t.toList, isBlank c = true) → IsLiteral t.toList) {k : Nat}
    (h : Spaced ((enclosed k core).map String.toList) text) :
    SpellsLiteral text (String.join core).toList := by
  induction k generalizing text with
  | zero =>
    rw [enclosed, List.replicate_zero, List.replicate_zero, List.nil_append, List.append_nil] at h
    exact hcore.spellsLiteral h htokens
  | succ k ih =>
    rw [enclosed_succ, List.map_cons, List.map_append] at h
    cases h with
    | cons hbefore h =>
      obtain ⟨front, back, rfl, hfront, hback⟩ := h.exists_append
      obtain ⟨gap, after, hgap, hafter, rfl⟩ := hback.exists_one
      have hinner := SpellsLiteral.parenthesized hbefore hafter (ih (hfront.append_blank hgap))
      simpa using hinner

/-! ## §5 Texts by their tokens -/

/-- What may stand behind a literal: a blank, a closing parenthesis or nothing. -/
def EndsLiteral (rest : List Char) : Prop := ∀ c ∈ rest.head?, isBlank c = true ∨ c = ')'

theorem EndsLiteral.endsNumber (h : EndsLiteral rest) : EndsNumber rest := fun c hc => by
  have hsigns : isBlank '+' = false ∧ isBlank '-' = false := by decide
  rcases h c hc with hblank | rfl
  · have hpart : isNumberPart c = false := Bool.eq_false_iff.2 fun hpart => by
      simp [numberPart_not_blank hpart] at hblank
    refine ⟨hpart, ?_, ?_⟩ <;> rintro rfl
    · simp [hsigns.1] at hblank
    · simp [hsigns.2] at hblank
  · decide

theorem EndsLiteral.blank_append (h : EndsLiteral rest) (hgap : ∀ c ∈ gap, isBlank c = true) :
    EndsLiteral (gap ++ rest) := by
  cases gap with
  | nil => exact h
  | cons c gap => exact fun d hd => .inl (Option.some.inj hd ▸ hgap c List.mem_cons_self)

theorem tokens_blank_append (hgap : ∀ c ∈ gap, isBlank c = true) (rest : List Char) :
    tokens (gap ++ rest) = tokens rest := by
  induction gap with
  | nil => rfl
  | cons c gap ih =>
    obtain ⟨hc, hgap⟩ := List.forall_mem_cons.1 hgap
    rw [List.cons_append, tokens.eq_def]
    simp [hc, ih hgap]

theorem IsLiteral.start (h : IsLiteral t) : ∀ c ∈ t.head?, isBlank c = false := by
  have hstart {mark : Char} {encoding body : List Char} (hmark : isBlank mark = false)
      (hencoding : encoding ∈ encodings) : ∀ c ∈ (quoted mark encoding body).head?, isBlank c = false := by
    have hletters : ∀ e ∈ encodings, e ⊆ "u8UL".toList := by decide
    have hblank : ∀ c ∈ "u8UL".toList, isBlank c = false := forall_mem_of_all (by decide)
    intro c hc
    rw [quoted, List.head?_append] at hc
    obtain hc | ⟨-, hc⟩ := Option.or_eq_some_iff.1 hc
    · exact hblank c (hletters encoding hencoding (List.mem_of_mem_head? hc))
    · cases hc
      exact hmark
  obtain ⟨encoding, hencoding, body, -, rfl⟩ | ⟨encoding, hencoding, body, -, -, rfl⟩ := h
  · exact hstart (by decide) hencoding
  · exact hstart (by decide) hencoding

/-- A literal is one token whatever stands behind it. -/
theorem tokens_literal_append (h : IsLiteral t) (rest : List Char) :
    tokens (t ++ rest) = t :: tokens rest := by
  obtain ⟨mark, hmark, -⟩ := h.getLast?_isQuote
  obtain ⟨c, cs, rfl⟩ := List.exists_cons_of_ne_nil (List.ne_nil_of_mem (List.mem_of_mem_getLast? hmark))
  have hlength := h.length_eq (List.prefix_append (c :: cs) rest)
  have htail : tokenTail c (cs ++ rest) = cs.length := by
    rw [List.length_cons] at hlength
    exact (Nat.succ.inj hlength).symm
  rw [List.cons_append, tokens_cons (h.start c rfl), htail, List.take_left, List.drop_left]

/-- Parentheses and signs are tokens by themselves. -/
theorem tokens_mark {c : Char} (hc : c ∈ ['(', ')', '+', '-']) (rest : List Char) :
    tokens (c :: rest) = [c] :: tokens rest := by
  have hfacts : ∀ c ∈ ['(', ')', '+', '-'], isBlank c = false ∧ isDigit c = false ∧
      (c.isAlpha || c == '_') = false ∧ c ∉ ['.', stringMark, charMark, 'u', 'U', 'L'] :=
    forall_mem_of_all (by decide)
  obtain ⟨hblank, hdigit, hword, hnone⟩ := hfacts c hc
  simp only [List.mem_cons, List.not_mem_nil, or_false, not_or] at hnone
  obtain ⟨hpoint, hstring, hchar, hu, hU, hL⟩ := hnone
  have htail : tokenTail c rest = 0 := by
    simp [tokenTail, stringTail?, charTail?, literalTail?, numberTail?, wordTail?, hdigit, hword, hpoint,
      hstring, hchar, hu, hU, hL]
  rw [tokens_cons hblank, htail, List.take_zero, List.drop_zero]

/-- The tokens of a text that is a literal in parentheses. -/
theorem SpellsLiteral.exists_tokens {literal : List Char} (h : SpellsLiteral text literal) :
    ∃ k core, IsCore core ∧ String.ofList literal = String.join core ∧ ∀ rest, EndsLiteral rest →
      tokens (text ++ rest) = (enclosed k core).map String.toList ++ tokens rest := by
  induction h with
  | @token before token after hbefore hafter h =>
    have hform : IsCore [String.ofList token] ∧ ∀ rest, EndsLiteral rest →
        tokens (token ++ rest) = token :: tokens rest := by
      rcases h with h | h
      · exact ⟨.number ⟨token, [], by simpa using h, .inl rfl, by simp⟩,
          fun rest hrest => tokens_number_append h.isNumberToken hrest.endsNumber⟩
      · refine ⟨?_, fun rest _ => tokens_literal_append h rest⟩
        rcases h with h | h
        · exact .string ⟨token, [], h, .inl rfl, by simp⟩
        · exact .character ⟨token, [], h, .inl rfl, by simp⟩
    refine ⟨0, _, hform.1, by simp [String.join], fun rest hrest => ?_⟩
    rw [List.append_assoc, List.append_assoc, tokens_blank_append hbefore,
      hform.2 _ (hrest.blank_append hafter), tokens_blank_append hafter]
    simp [enclosed]
  | @signed before gap number after sign hsign hbefore hgap hafter h =>
    have hcore : IsCore [String.ofList [sign], String.ofList number] :=
      .signed (by obtain rfl | rfl := hsign <;> decide) ⟨number, [], h, .inl rfl, by simp⟩
    refine ⟨0, _, hcore, by simp [String.join], fun rest hrest => ?_⟩
    have hmark : sign ∈ ['(', ')', '+', '-'] := by
      obtain rfl | rfl := hsign <;> decide
    rw [List.append_assoc, tokens_blank_append hbefore, List.cons_append, tokens_mark hmark,
      List.append_assoc, tokens_blank_append hgap, List.append_assoc,
      tokens_number_append h.isNumberToken (hrest.blank_append hafter).endsNumber,
      tokens_blank_append hafter]
    simp [enclosed]
  | @parenthesized before inner after literal hbefore hafter _ ih =>
    obtain ⟨k, core, hcore, hliteral, htokens⟩ := ih
    refine ⟨k + 1, core, hcore, hliteral, fun rest hrest => ?_⟩
    have hclose : EndsLiteral (')' :: (after ++ rest)) := fun c hc => .inr (Option.some.inj hc).symm
    rw [List.append_assoc, tokens_blank_append hbefore, List.cons_append, tokens_mark (by decide),
      List.append_assoc, List.cons_append, htokens _ hclose, tokens_mark (by decide),
      tokens_blank_append hafter, enclosed_succ]
    simp

/-- The tokens of a text are taken for one literal exactly if the text is that literal, in parentheses
and with blanks around its tokens. -/
theorem singleLiteral?_tokens_iff {literal : String} :
    singleLiteral? ((tokens text).map String.ofList) = some literal ↔
      SpellsLiteral text literal.toList := by
  rw [singleLiteral?_eq_some_iff]
  constructor
  · rintro ⟨k, core, hcore, htokens, rfl⟩
    have hlists : tokens text = (enclosed k core).map String.toList := by
      rw [← htokens, List.map_map]
      simp [Function.comp_def]
    refine (hlists ▸ spaced_tokens text).spellsLiteral hcore fun t ht => ?_
    have hmem : t.toList ∈ tokens text := by
      rw [hlists]
      exact List.mem_map_of_mem (by simp [enclosed, ht])
    exact isLiteral_of_mem_tokens hmem
  · intro h
    obtain ⟨k, core, hcore, hliteral, htokens⟩ := h.exists_tokens
    have hall := htokens [] nofun
    rw [List.append_nil, show tokens [] = [] by rw [tokens.eq_def], List.append_nil] at hall
    refine ⟨k, core, hcore, ?_, by simpa using hliteral⟩
    rw [hall, List.map_map]
    simp [Function.comp_def]

end Texts

end Literal

open CppIdioms.Literal CppIdioms.Rules

/-! ## §6 Macros -/

/-- The replacement of a macro is given as a text and not token by token. -/
structure Node.ReplacedBy (n : Node) (text : String) : Prop where
  replacement : n.attr "replacement" = .str text
  unlisted : ∀ items, n.attr "tokens" ≠ .list items

theorem Node.ReplacedBy.replacementTokens_eq {n : Node} {text : String} (h : n.ReplacedBy text) :
    replacementTokens n = (tokens text.toList).map String.ofList := by
  unfold replacementTokens
  split
  · next items hitems => exact absurd hitems (h.unlisted items)
  · rw [h.replacement]

/-- What is reported of a macro, by its name and the literal. -/
def constantMessage (name literal : String) : String :=
  "macro '" ++ name ++ "' only names the constant " ++ literal ++ "; declare 'constexpr auto " ++ name ++
    " = " ++ literal ++ ";' instead"

/-- Whatever is reported of a macro is about the literal that its tokens are. -/
theorem exists_literal_of_mem {c : Cursor} {findings : List Finding} {f : Finding}
    (h : macroConstant.inspect c = .ok findings) (hf : f ∈ findings) :
    ∃ literal, singleLiteral? (replacementTokens c.node) = some literal ∧
      f = macroConstantRule.finding c.node (constantMessage (c.node.nameOr "<macro>") literal) := by
  dsimp only [macroConstant] at h
  split at h
  · cases h
    cases hf
  · split at h
    · cases h
      cases hf
    · next literal hliteral =>
      cases h
      exact ⟨literal, hliteral, List.mem_singleton.1 hf⟩

/-- Tokens are taken for one literal exactly if they are one, with as many opening parentheses in front as
closing ones behind, and the literal is then its tokens put together. So no tokens are whose parentheses do
not match, and those of a text are exactly if the text is the literal up to parentheses around it and
blanks between tokens: that is the literal which is reported of a macro with this replacement. -/
theorem single_literal_iff_enclosed_core (ts : List String) (text : String) (c : Cursor) :
    (∀ literal, singleLiteral? ts = some literal ↔ ∃ k core, IsCore core ∧
      ts = List.replicate k "(" ++ core ++ List.replicate k ")" ∧ literal = String.join core) ∧
    (Mismatched ts → singleLiteral? ts = none) ∧
    (∀ literal, singleLiteral? ((tokens text.toList).map String.ofList) = some literal ↔
      SpellsLiteral text.toList literal.toList) ∧
    (c.node.ReplacedBy text → ∀ findings, macroConstant.inspect c = .ok findings → ∀ f ∈ findings,
      ∃ literal, SpellsLiteral text.toList literal.toList ∧
        f = macroConstantRule.finding c.node (constantMessage (c.node.nameOr "<macro>") literal)) := by
  refine ⟨fun literal => singleLiteral?_eq_some_iff, fun hmismatched => ?_,
    fun literal => singleLiteral?_tokens_iff, fun hreplaced findings hfindings f hf => ?_⟩
  · refine Option.eq_none_iff_forall_ne_some.2 fun literal hliteral => ?_
    obtain ⟨k, core, hcore, rfl, -⟩ := singleLiteral?_eq_some_iff.1 hliteral
    exact hcore.not_mismatched k hmismatched
  · obtain ⟨literal, hliteral, hreport⟩ := exists_literal_of_mem hfindings hf
    rw [hreplaced.replacementTokens_eq, singleLiteral?_tokens_iff] at hliteral
    exact ⟨literal, hliteral, hreport⟩

/-- A negative number in two pairs of parentheses, and two numbers in parentheses of their own. -/
theorem enclosed_negation_is_constant :
    let n : Node := ⟨.macroObjectLikeDecl, ⟨"a.cpp", 3, 1, 3, 20⟩,
      [(.str "name", .str "STEP"), (.str "replacement", .str "( (- 1.5f) )")], []⟩
    let finding := macroConstantRule.finding n (constantMessage "STEP" "-1.5f")
    macroConstant.inspect (.root n) = .ok [finding] ∧
      SpellsLiteral "( (- 1.5f) )".toList "-1.5f".toList ∧
      (∃ literal, SpellsLiteral "( (- 1.5f) )".toList literal.toList ∧
        finding = macroConstantRule.finding n (constantMessage "STEP" literal)) ∧
      singleLiteral? ["(", "1", ")", "(", "2", ")"] = none := by
  intro n finding
  obtain ⟨-, hnone, htext, hreport⟩ :=
    single_literal_iff_enclosed_core ["(", "1", ")", "(", "2", ")"] "( (- 1.5f) )" (.root n)
  have hreported : macroConstant.inspect (.root n) = .ok [finding] := by decide +kernel
  have hreplaced : n.ReplacedBy "( (- 1.5f) )" := ⟨rfl, nofun⟩
  exact ⟨hreported, (htext "-1.5f").1 (by decide +kernel),
    hreport hreplaced _ hreported _ List.mem_cons_self, hnone (.adjacent (by decide))⟩

end CppIdioms
