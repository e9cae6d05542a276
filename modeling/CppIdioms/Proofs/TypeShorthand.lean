import CppIdioms.Proofs.Capitals
import CppIdioms.Proofs.TypeReading

/-!
# Marks behind and around a spelling

Marks that are put behind a spelling are the first to come off again, whatever the spelling ends with,
and a const mark at either end changes nothing but the mark itself. So the type of a spelling with a mark
is made of the type of the spelling.

## Contents

* `ConstFree`, `Unmarked`: spellings without const, and without blanks at their ends.

## Main statements

* `outerForm_star`, `outerForm_references`, `outerForm_brackets`: marks come off as they were put on.
* `CppType.ofChars_star`, `CppType.ofChars_references`, `CppType.ofChars_brackets`,
  `CppType.ofChars_const_append`, `CppType.ofChars_append_const`: the types of marked spellings.
* `CppType.shorthand_is_compositional`: marks behind a spelling and const on either side of it.
-/

namespace CppIdioms

open CppIdioms.Text

/-! ## §1 The mark of the whole -/

namespace CppType

/-- The text and the const mark of the whole are passed on as they are. -/
theorem ofBare_eq (text text' : String) (isConst isConst' : Bool) (bare : List Char) :
    ofBare text' isConst' bare = (ofBare text isConst bare).map fun t =>
      { t with spelling := text', isConst := isConst' } := by
  have hplain : plainType text' isConst' bare =
      { plainType text isConst bare with spelling := text', isConst := isConst' } := by
    unfold plainType
    split
    · rfl
    · split <;> rfl
  unfold ofBare
  split
  · next inner _ => cases ofChars inner <;> rfl
  · next inner _ => cases ofChars inner <;> rfl
  · next inner extent _ =>
    cases ofChars inner with
    | error f => rfl
    | ok e =>
      rw [Except.bind, Except.bind]
      cases arraySize e extent <;> rfl
  · rw [hplain]
    rfl

end CppType

/-! ## §2 Marks at the end -/

section Marks

variable {cs ds : List Char}

theorem outerForm_star (cs : List Char) : outerForm (cs ++ ['*']) = .pointer (trim cs) := by
  simp [outerForm, outerFormRev]

/-- All reference marks at the end come off together. -/
theorem outerForm_references (hcs : cs.getLast? ≠ some '&') {n : Nat} (hn : n ≠ 0) :
    outerForm (cs ++ List.replicate n '&') = .reference (trim cs) := by
  obtain ⟨n, rfl⟩ := Nat.exists_eq_succ_of_ne_zero hn
  have hdrop : (List.replicate n '&' ++ cs.reverse).dropWhile (· == '&') = cs.reverse := by
    refine dropWhile_append_of_head (fun c hc => by simp [List.eq_of_mem_replicate hc]) fun c hc => ?_
    rw [List.head?_reverse] at hc
    exact beq_eq_false_iff_ne.2 fun h => hcs (h ▸ hc)
  rw [outerForm, List.reverse_append, List.reverse_replicate, List.replicate_succ, List.cons_append,
    outerFormRev, hdrop, List.reverse_reverse]

theorem bracket_not_digit : isDigit '[' = false := by decide

theorem decimalZeros_not_blank : ∀ z ∈ decimalZeros, ∀ b ∈ blanks, b < z ∨ z + 10 ≤ b := by
  decide +kernel

theorem digit_not_blank {d : Char} (h : isDigit d = true) : isBlank d = false := by
  rw [isDigit, digitValue?, Option.isSome_map] at h
  obtain ⟨z, hz, hrun⟩ := List.find?_isSome.1 h
  simp only [Bool.and_eq_true, decide_eq_true_eq] at hrun
  refine Bool.eq_false_iff.2 fun hblank => ?_
  have hapart := decimalZeros_not_blank z hz _ (mem_blanks hblank)
  omega

/-- Last character first, the digits in brackets end at the opening one. -/
theorem cut_digits (hds : ∀ d ∈ ds, isDigit d = true) (rest : List Char) :
    (ds.reverse ++ '[' :: rest).takeWhile isDigit = ds.reverse ∧
      (ds.reverse ++ '[' :: rest).dropWhile isDigit = '[' :: rest := by
  have hdigits : ∀ d ∈ ds.reverse, isDigit d = true := fun d hd => hds d (List.mem_reverse.1 hd)
  have hopen : ¬ isDigit '[' = true := by simp [bracket_not_digit]
  rw [List.takeWhile_append_of_pos hdigits, List.dropWhile_append_of_pos hdigits,
    List.takeWhile_cons_of_neg hopen, List.dropWhile_cons_of_neg hopen, List.append_nil]
  exact ⟨rfl, rfl⟩

theorem reverse_bracketed (cs ds : List Char) :
    (cs ++ '[' :: (ds ++ [']'])).reverse = ']' :: (ds.reverse ++ '[' :: cs.reverse) := by
  simp

/-- The brackets at the end come off with the digits in them and the blanks before them. -/
theorem outerForm_brackets (hne : cs ≠ []) (hends : ∀ c ∈ cs.getLast?, isBlank c = false)
    {g : List Char} (hg : ∀ c ∈ g, isBlank c = true) (hds : ∀ d ∈ ds, isDigit d = true) :
    outerForm (cs ++ (g ++ '[' :: (ds ++ [']']))) = .array cs ds := by
  obtain ⟨htake, hdrop⟩ := cut_digits hds (cs ++ g).reverse
  have hblank : (cs ++ g).reverse.dropWhile isBlank = cs.reverse := by
    rw [List.reverse_append]
    exact dropWhile_append_of_head (fun c hc => hg c (List.mem_reverse.1 hc)) (by simpa using hends)
  rw [← List.append_assoc, outerForm, reverse_bracketed, outerFormRev, hdrop, htake]
  simp only [hblank, List.reverse_reverse]
  rw [if_neg (by simpa using hne)]

theorem no_blank_brackets (hds : ∀ d ∈ ds, isDigit d = true) :
    ∀ c ∈ '[' :: (ds ++ [']']), isBlank c = false := by
  refine List.forall_mem_cons.2 ⟨by decide, List.forall_mem_append.2 ⟨fun d hd => ?_, ?_⟩⟩
  · exact digit_not_blank (hds d hd)
  · exact forall_mem_of_all (by decide)

end Marks

/-! ## §3 Unmarked spellings -/

/-- The spelling is not blank, and const is no part of it. -/
structure ConstFree (cs : List Char) : Prop where
  nonblank : squeeze cs ≠ []
  noConst : ¬ "const".toList <:+: cs

/-- The spelling has no blank at its ends, and const is no part of it. -/
structure Unmarked (cs : List Char) : Prop where
  solid : Solid cs
  noConst : ¬ "const".toList <:+: cs

theorem const_part_of_phrases :
    "const".toList <:+: "const ".toList ∧ "const".toList <:+: " const".toList := by decide

/-- Nothing comes off a spelling without const. -/
theorem Unmarked.bareSpelling_eq {cs : List Char} (h : Unmarked cs) : bareSpelling cs = cs := by
  rw [bareSpelling, erase_of_no_part fun hpart => h.noConst (const_part_of_phrases.1.trans hpart),
    erase_of_no_part fun hpart => h.noConst (const_part_of_phrases.2.trans hpart), h.solid.trim_eq]

theorem Unmarked.withoutConst_eq {cs : List Char} (h : Unmarked cs) : withoutConst cs = squeeze cs := by
  rw [withoutConst, erase_of_no_part fun hpart => h.noConst (const_part_of_phrases.1.trans hpart),
    erase_of_no_part fun hpart => h.noConst (const_part_of_phrases.2.trans hpart)]

theorem Unmarked.hasConstMark_eq {cs : List Char} (h : Unmarked cs) : hasConstMark cs = false := by
  rw [hasConstMark, Bool.or_eq_false_iff, ← Bool.not_eq_true, ← Bool.not_eq_true,
    List.isPrefixOf_iff_prefix, List.isSuffixOf_iff_suffix]
  exact ⟨fun hopening => h.noConst (const_part_of_phrases.1.trans hopening.isInfix),
    fun hsuffix => h.noConst (const_part_of_phrases.2.trans hsuffix.isInfix)⟩

theorem Unmarked.constFree {cs : List Char} (h : Unmarked cs) : ConstFree cs :=
  ⟨squeeze_ne_nil h.solid, h.noConst⟩

theorem ConstFree.unmarked_squeeze {cs : List Char} (h : ConstFree cs) : Unmarked (squeeze cs) where
  solid := solid_squeeze h.nonblank
  noConst := fun hpart => h.noConst (infix_of_infix_squeeze (forall_mem_of_all (by decide)) hpart)

/-- A mark of one character that const does not have leaves a spelling unmarked. -/
theorem Unmarked.concat {cs : List Char} (h : Unmarked cs) {c : Char} (hc : c ∉ "const".toList)
    (hblank : isBlank c = false) : Unmarked (cs ++ [c]) where
  solid := h.solid.append (by simpa using hblank)
  noConst := fun hpart => by
    obtain hleft | hright := infix_of_infix_append_cons hc hpart
    · exact h.noConst hleft
    · exact absurd (List.eq_nil_of_infix_nil hright) (by decide)

theorem Unmarked.references {cs : List Char} (h : Unmarked cs) (n : Nat) :
    Unmarked (cs ++ List.replicate n '&') := by
  induction n with
  | zero => simpa using h
  | succ n ih =>
    rw [List.replicate_succ', ← List.append_assoc]
    exact ih.concat (by decide) (by decide)

theorem const_not_infix_digits {ds : List Char} (h : ∀ d ∈ ds, isDigit d = true) :
    ¬ "const".toList <:+: ds := fun hpart =>
  absurd (h 'c' (hpart.subset (by decide))) (by decide)

theorem ConstFree.bracketed {cs ds : List Char} (h : ConstFree cs)
    (hds : ∀ d ∈ ds, isDigit d = true) : ConstFree (cs ++ '[' :: (ds ++ [']'])) where
  nonblank := squeeze_ne_nil_of_mem (List.mem_append_right cs List.mem_cons_self) (by decide)
  noConst := fun hpart => by
    obtain hleft | hright := infix_of_infix_append_cons (by decide) hpart
    · exact h.noConst hleft
    · obtain hdigits | hnil := infix_of_infix_append_cons (by decide) hright
      · exact const_not_infix_digits hds hdigits
      · exact absurd (List.eq_nil_of_infix_nil hnil) (by decide)

/-! ## §4 Marks on unmarked spellings -/

section Unmarked

variable {cs : List Char}

namespace CppType

theorem ofChars_constFree (h : ConstFree cs) (hunresolved : squeeze cs ≠ "<unresolved>".toList) :
    ofChars cs = ofBare (String.ofList (squeeze cs)) false (squeeze cs) := by
  rw [ofChars_eq h.nonblank hunresolved, h.unmarked_squeeze.hasConstMark_eq,
    h.unmarked_squeeze.bareSpelling_eq]

/-- What is left of a spelling once a mark came off is read as the spelling. -/
theorem ofChars_trim_squeeze (h : Unmarked cs) : ofChars (trim (squeeze cs)) = ofChars cs := by
  rw [h.constFree.unmarked_squeeze.solid.trim_eq, ofChars_squeeze]

theorem ofChars_star (h : Unmarked cs) : ofChars (cs ++ ['*']) =
    (ofChars cs).map fun t =>
      ⟨String.ofList (squeeze (cs ++ ['*'])), .pointer, some 8, false, some t⟩ := by
  have hsqueeze : squeeze (cs ++ ['*']) = squeeze cs ++ ['*'] := squeeze_append h.solid
  have hother : squeeze cs ++ ['*'] ≠ "<unresolved>".toList := fun heq =>
    absurd (show '*' ∈ "<unresolved>".toList by simp [← heq]) (by decide)
  rw [ofChars_constFree (h.concat (by decide) (by decide)).constFree (hsqueeze ▸ hother), hsqueeze,
    ofBare_of_pointer (outerForm_star _), ofChars_trim_squeeze h]

theorem ofChars_references (h : Unmarked cs) (hlast : cs.getLast? ≠ some '&') {n : Nat} (hn : n ≠ 0) :
    ofChars (cs ++ List.replicate n '&') =
      (ofChars cs).map fun t =>
        ⟨String.ofList (squeeze (cs ++ List.replicate n '&')), .reference, some 8, false, some t⟩ := by
  have hblank : ∀ c ∈ List.replicate n '&', isBlank c = false := fun c hc => by
    rw [List.eq_of_mem_replicate hc]
    decide
  have hsqueeze : squeeze (cs ++ List.replicate n '&') = squeeze cs ++ List.replicate n '&' := by
    rw [squeeze_append h.solid, squeezeFrom_of_no_blank hblank]
  have hother : squeeze cs ++ List.replicate n '&' ≠ "<unresolved>".toList := fun heq =>
    absurd (show '&' ∈ "<unresolved>".toList by simp [← heq, hn]) (by decide)
  rw [ofChars_constFree (h.references n).constFree (hsqueeze ▸ hother), hsqueeze,
    ofBare_of_reference (outerForm_references (getLast?_squeeze h.solid ▸ hlast) hn),
    ofChars_trim_squeeze h]

/-- Blanks at either end of the elements are passed over. -/
theorem ofChars_brackets (h : ConstFree cs) {ds : List Char} (hds : ∀ d ∈ ds, isDigit d = true) :
    ofChars (cs ++ '[' :: (ds ++ [']'])) =
      (ofChars cs).bind fun t => (arraySize t ds).map fun size =>
        ⟨String.ofList (squeeze (cs ++ '[' :: (ds ++ [']']))), .array, size, false, some t⟩ := by
  obtain ⟨g, hg, hcut⟩ := exists_gap false false cs
  have hsqueeze : squeeze (cs ++ '[' :: (ds ++ [']'])) = squeeze cs ++ (g ++ '[' :: (ds ++ [']'])) :=
    hcut _ (List.cons_ne_nil _ _) (no_blank_brackets hds)
  have hother : squeeze cs ++ (g ++ '[' :: (ds ++ [']'])) ≠ "<unresolved>".toList := fun heq =>
    absurd (show '[' ∈ "<unresolved>".toList by simp [← heq]) (by decide)
  have hsolid := h.unmarked_squeeze.solid
  rw [ofChars_constFree (h.bracketed hds) (hsqueeze ▸ hother), hsqueeze,
    ofBare_of_array (outerForm_brackets hsolid.nonempty hsolid.ends hg hds), ofChars_squeeze]

end CppType

theorem squeeze_const_append (h : Solid cs) :
    squeeze ("const ".toList ++ cs) = "const ".toList ++ squeeze cs := by
  have hword : Solid "const".toList := by decide
  have hstart := @squeeze_append "const".toList (' ' :: cs) hword
  rw [squeezeFrom, if_pos (by decide), squeezeFrom_gap_eq h] at hstart
  exact hstart

theorem squeeze_append_const (h : Solid cs) :
    squeeze (cs ++ " const".toList) = squeeze cs ++ " const".toList :=
  squeeze_append h

theorem Unmarked.bareSpelling_const_append (h : Unmarked cs) :
    bareSpelling ("const ".toList ++ cs) = cs := by
  rw [bareSpelling, erase_phrase_append (by decide), ← bareSpelling, h.bareSpelling_eq]

/-- The const at the end is not followed by a blank, and the spelling in front of it has none. -/
theorem Unmarked.not_infix_append_const (h : Unmarked cs) :
    ¬ "const ".toList <:+: cs ++ " const".toList := by
  rintro ⟨before, after, heq⟩
  have hcut : (before ++ "const".toList) ++ ' ' :: after = cs ++ ' ' :: "const".toList := by
    simpa using heq
  obtain ⟨rest, hcs, -⟩ | ⟨rest, hbefore, hrest⟩ := List.append_eq_append_iff.1 hcut
  · exact h.noConst ⟨before, rest, hcs.symm⟩
  · cases rest with
    | nil => exact h.noConst ⟨before, [], by simpa using hbefore⟩
    | cons c rest =>
      obtain ⟨-, hrest⟩ := List.cons.inj hrest
      exact absurd (show ' ' ∈ "const".toList by simp [hrest]) (by decide)

theorem Unmarked.bareSpelling_append_const (h : Unmarked cs) :
    bareSpelling (cs ++ " const".toList) = cs := by
  have hfront : ¬ " const".toList <:+: cs ++ " const".toList.dropLast := fun hpart => by
    obtain hleft | hright := infix_of_infix_append_cons (by decide)
      (const_part_of_phrases.2.trans hpart)
    · exact h.noConst hleft
    · exact absurd hright (by decide)
  have hnil : erase " const".toList [] = [] := rfl
  have herase := erase_append_phrase (by decide) hfront []
  rw [List.append_nil, hnil, List.append_nil] at herase
  rw [bareSpelling, erase_of_no_part h.not_infix_append_const, herase, h.solid.trim_eq]

namespace CppType

/-- The type of a spelling that const was put in front of or behind. -/
theorem ofChars_of_bareSpelling (h : Unmarked cs) (hknown : cs ≠ "<unresolved>".toList) {marked : List Char}
    (hmark : hasConstMark (squeeze marked) = true) (hbare : bareSpelling (squeeze marked) = squeeze cs) :
    ofChars marked = (ofChars cs).map fun t =>
      { t with spelling := String.ofList (squeeze marked), isConst := true } := by
  have hne : squeeze marked ≠ [] := by
    intro hnil
    rw [hnil] at hmark
    exact absurd hmark (by decide)
  have hother : squeeze marked ≠ "<unresolved>".toList := by
    intro heq
    rw [heq] at hmark
    exact absurd hmark (by decide)
  have hcs : squeeze cs ≠ "<unresolved>".toList := by
    intro heq
    have hnone : ∀ c ∈ squeeze cs, isBlank c = false := heq ▸ forall_mem_of_all (by decide)
    exact hknown (squeeze_eq_self h.solid hnone ▸ heq)
  rw [ofChars_eq hne hother, hmark, hbare, ofChars_constFree h.constFree hcs]
  exact ofBare_eq ..

theorem ofChars_const_append (h : Unmarked cs) (hknown : cs ≠ "<unresolved>".toList) :
    ofChars ("const ".toList ++ cs) = (ofChars cs).map fun t =>
      { t with spelling := String.ofList (squeeze ("const ".toList ++ cs)), isConst := true } := by
  refine ofChars_of_bareSpelling h hknown ?_ ?_
  · rw [squeeze_const_append h.solid, hasConstMark, List.isPrefixOf_iff_prefix.2 (List.prefix_append _ _),
      Bool.true_or]
  · rw [squeeze_const_append h.solid, h.constFree.unmarked_squeeze.bareSpelling_const_append]

theorem ofChars_append_const (h : Unmarked cs) (hknown : cs ≠ "<unresolved>".toList) :
    ofChars (cs ++ " const".toList) = (ofChars cs).map fun t =>
      { t with spelling := String.ofList (squeeze (cs ++ " const".toList)), isConst := true } := by
  refine ofChars_of_bareSpelling h hknown ?_ ?_
  · rw [squeeze_append_const h.solid, hasConstMark, List.isSuffixOf_iff_suffix.2 (List.suffix_append _ _),
      Bool.or_true]
  · rw [squeeze_append_const h.solid, h.constFree.unmarked_squeeze.bareSpelling_append_const]

end CppType

end Unmarked

/-! ## §5 Strings -/

theorem head_not_blank {cs : List Char} (h : cs.dropWhile isBlank = cs) :
    ∀ c ∈ cs.head?, isBlank c = false := by
  cases cs with
  | nil => nofun
  | cons c cs =>
    rintro _ ⟨⟩
    have hhead := List.dropWhile_eq_self_iff.1 h (by simp)
    simpa using hhead

theorem solid_of_trimmed {s : String} (hne : s ≠ "") (h : trimmed s = s) : Solid s.toList := by
  have htrim : trim s.toList = s.toList := by
    rw [← String.toList_ofList (l := trim s.toList), ← trimmed, h]
  obtain ⟨hstart, hend⟩ := htrim ▸ trim_ends s.toList
  refine ⟨by simpa using hne, head_not_blank hstart, ?_⟩
  simpa using head_not_blank hend

namespace CppType

section Strings

variable {s : String} {t : CppType} (h : Unmarked s.toList)
include h

theorem ofValue_star (hs : ofChars s.toList = .ok t) :
    ofValue (.str (s ++ "*")) =
      .ok (some ⟨squeezed (s ++ "*"), .pointer, some 8, false, some t⟩) := by
  have hstar := ofChars_star h
  rw [hs] at hstar
  exact ofValue_str_eq_ok.2 (by simpa [squeezed, Except.map] using hstar)

theorem ofValue_references (hs : ofChars s.toList = .ok t) (hlast : s.toList.getLast? ≠ some '&')
    {mark : String} (hmark : mark ∈ ["&", "&&"]) : ofValue (.str (s ++ mark)) =
      .ok (some ⟨squeezed (s ++ mark), .reference, some 8, false, some t⟩) := by
  have hcount : ∃ n, n ≠ 0 ∧ mark.toList = List.replicate n '&' := by
    simp only [List.mem_cons, List.not_mem_nil, or_false] at hmark
    obtain rfl | rfl := hmark
    · exact ⟨1, by decide, rfl⟩
    · exact ⟨2, by decide, rfl⟩
  obtain ⟨n, hn, htext⟩ := hcount
  have hreferences := ofChars_references h hlast hn
  rw [hs, ← htext] at hreferences
  exact ofValue_str_eq_ok.2 (by simpa [squeezed, Except.map] using hreferences)

theorem ofValue_const_append (hknown : s ≠ "<unresolved>") (hs : ofChars s.toList = .ok t) :
    ofValue (.str ("const " ++ s)) =
      .ok (some { t with spelling := squeezed ("const " ++ s), isConst := true }) := by
  have hconst := ofChars_const_append h fun heq => hknown (String.toList_inj.1 heq)
  rw [hs] at hconst
  exact ofValue_str_eq_ok.2 (by simpa [squeezed, Except.map] using hconst)

theorem ofValue_append_const (hknown : s ≠ "<unresolved>") (hs : ofChars s.toList = .ok t) :
    ofValue (.str (s ++ " const")) =
      .ok (some { t with spelling := squeezed (s ++ " const"), isConst := true }) := by
  have hconst := ofChars_append_const h fun heq => hknown (String.toList_inj.1 heq)
  rw [hs] at hconst
  exact ofValue_str_eq_ok.2 (by simpa [squeezed, Except.map] using hconst)

variable {digits : String} (hdigits : ∀ d ∈ digits.toList, isDigit d = true)
include hdigits

theorem ofChars_extent : ofChars (s ++ "[" ++ digits ++ "]").toList =
    (ofChars s.toList).bind fun t => (arraySize t digits.toList).map fun size =>
      ⟨squeezed (s ++ "[" ++ digits ++ "]"), .array, size, false, some t⟩ := by
  simpa [squeezed] using ofChars_brackets h.constFree hdigits

/-- The size is that of all elements, if the extent is given and the size of one is known. -/
theorem ofValue_extent (hs : ofChars s.toList = .ok t) (hlength : digits.length ≤ digitLimit) :
    ofValue (.str (s ++ "[" ++ digits ++ "]")) =
      .ok (some ⟨squeezed (s ++ "[" ++ digits ++ "]"), .array,
        if digits.toList.isEmpty then none else t.size.map ((decimalNat digits.toList : Int) * ·),
        false, some t⟩) := by
  refine ofValue_str_eq_ok.2 ?_
  rw [ofChars_extent h hdigits, hs, Except.bind, arraySize_of_fits (by rwa [String.length_toList])]
  simp only [Int.mul_comm]
  rfl

/-- An extent with too many digits is not read, whatever stands in front of it. -/
theorem ofValue_long_extent (hlong : ¬ digits.toList.length ≤ digitLimit) :
    ofValue (.str (s ++ "[" ++ digits ++ "]")) = .error .badValue := by
  rw [ofValue_str, ofSpelling, ofChars_extent h hdigits]
  obtain ⟨-, t, ht⟩ | ⟨-, herror⟩ := ofChars_cases s.toList
  · rw [ht, Except.bind, arraySize_of_long hlong]
    rfl
  · rw [herror]
    rfl

end Strings

/-- Whatever a spelling holds that is read as a type, as long as it is not empty, has no blank at its ends
and no const in it and does not say that the type is unknown: a star behind it makes a pointer to its
type, one or two reference marks a reference, brackets an array with the size of all its elements if that
is known, and const before or behind it changes the spelling and the const mark and nothing else. An
extent with too many digits is not read, behind whatever spelling it stands. Every text without such an
extent is read, in at most one step more than it has characters, and no other text is. -/
theorem shorthand_is_compositional (s : String) (hne : s ≠ "") (hends : trimmed s = s)
    (hconst : ¬ "const".toList <:+: s.toList) (hknown : s ≠ "<unresolved>") :
    let reads (text : String) (t : CppType) := ofValue (.str text) = .ok (some t)
    (∀ t, reads s t →
      reads (s ++ "*") ⟨squeezed (s ++ "*"), .pointer, some 8, false, some t⟩ ∧
      (s.toList.getLast? ≠ some '&' → ∀ mark ∈ ["&", "&&"],
        reads (s ++ mark) ⟨squeezed (s ++ mark), .reference, some 8, false, some t⟩) ∧
      (∀ n : Nat, n < 10 ^ digitLimit → reads (s ++ "[" ++ toString n ++ "]")
        ⟨squeezed (s ++ "[" ++ toString n ++ "]"), .array, t.size.map ((n : Int) * ·), false, some t⟩) ∧
      (∀ digits : String, digits ≠ "" → (∀ d ∈ digits.toList, isDigit d = true) →
        digits.length ≤ digitLimit →
        reads (s ++ "[" ++ digits ++ "]") ⟨squeezed (s ++ "[" ++ digits ++ "]"), .array,
          t.size.map ((decimalNat digits.toList : Int) * ·), false, some t⟩) ∧
      reads (s ++ "[]") ⟨squeezed (s ++ "[]"), .array, none, false, some t⟩ ∧
      reads ("const " ++ s) { t with spelling := squeezed ("const " ++ s), isConst := true } ∧
      reads (s ++ " const") { t with spelling := squeezed (s ++ " const"), isConst := true }) ∧
    (∀ n : Nat, 10 ^ digitLimit ≤ n →
      ofValue (.str (s ++ "[" ++ toString n ++ "]")) = .error .badValue) ∧
    ∀ text : String,
      (ExtentsFit text.toList → ∃ u, reads text u ∧ u.chain.length ≤ text.length + 1) ∧
      (¬ ExtentsFit text.toList → ofValue (.str text) = .error .badValue) := by
  intro reads
  have h : Unmarked s.toList := ⟨solid_of_trimmed hne hends, hconst⟩
  refine ⟨fun t ht => ?_, fun n hn => ?_, fun text => ⟨fun hfit => ?_, ofValue_str_of_not_fits⟩⟩
  · have hs : ofChars s.toList = .ok t := ofValue_str_eq_ok.1 ht
    have hextent (digits : String) (hne : digits ≠ "") (hdigits : ∀ d ∈ digits.toList, isDigit d = true)
        (hlength : digits.length ≤ digitLimit) :
        reads (s ++ "[" ++ digits ++ "]") ⟨squeezed (s ++ "[" ++ digits ++ "]"), .array,
          t.size.map ((decimalNat digits.toList : Int) * ·), false, some t⟩ := by
      have hread := ofValue_extent h hdigits hs hlength
      rwa [if_neg (by simpa using hne)] at hread
    refine ⟨ofValue_star h hs, fun hlast mark hmark => ofValue_references h hs hlast hmark,
      fun n hn => ?_, hextent, ?_, ofValue_const_append h hknown hs, ofValue_append_const h hknown hs⟩
    · have hlength : (toString n).length ≤ digitLimit := by
        rw [← String.length_toList, toList_toString]
        exact length_toDigits_le_digitLimit.2 hn
      have hnumber := hextent (toString n) (by simp) (isDigit_of_mem_toString n) hlength
      rwa [toList_toString, decimalNat_toDigits] at hnumber
    · have hempty := @ofValue_extent s t h "" (List.forall_mem_nil _) hs (Nat.zero_le _)
      rwa [String.append_assoc, String.append_assoc] at hempty
  · refine ofValue_long_extent h (isDigit_of_mem_toString n) ?_
    rw [toList_toString, length_toDigits_le_digitLimit]
    omega
  · obtain ⟨u, hu, hchars⟩ := ofValue_str_of_fits hfit
    have hlevels := length_chain_le hchars
    rw [String.length_toList] at hlevels
    exact ⟨u, hu, hlevels⟩

theorem ofSpelling_unsigned_pointer : ofSpelling "unsigned long*" =
    .ok ⟨"unsigned long*", .pointer, some 8, false,
      some ⟨"unsigned long", .builtin, some 8, false, none⟩⟩ := by
  have hunmarked : Unmarked "unsigned long".toList := ⟨by decide, by decide⟩
  have hplain : ofChars "unsigned long".toList =
      .ok ⟨"unsigned long", .builtin, some 8, false, none⟩ := by
    rw [ofChars_eq (by decide) (by decide)]
    rfl
  have hstar := ofChars_star hunmarked
  rw [hplain] at hstar
  exact hstar

/-- Marks behind a spelling that ends with a mark itself. -/
theorem shorthand_of_unsigned_pointer :
    let s := "unsigned long*"
    let t : CppType :=
      ⟨s, .pointer, some 8, false, some ⟨"unsigned long", .builtin, some 8, false, none⟩⟩
    (s ≠ "" ∧ trimmed s = s ∧ ¬ "const".toList <:+: s.toList ∧ s ≠ "<unresolved>") ∧
      ofValue (.str "unsigned long*[12]") =
        .ok (some ⟨"unsigned long*[12]", .array, some 96, false, some t⟩) ∧
      ofValue (.str "unsigned long*&&") =
        .ok (some ⟨"unsigned long*&&", .reference, some 8, false, some t⟩) ∧
      ofValue (.str "unsigned long* const") =
        .ok (some { t with spelling := "unsigned long* const", isConst := true }) := by
  intro s t
  have hs : s ≠ "" ∧ trimmed s = s ∧ ¬ "const".toList <:+: s.toList ∧ s ≠ "<unresolved>" :=
    ⟨by decide, by decide, by decide, by decide⟩
  obtain ⟨hne, hends, hconst, hknown⟩ := hs
  have ht : ofValue (.str s) = .ok (some t) := by
    rw [ofValue_str, ofSpelling_unsigned_pointer]
    rfl
  obtain ⟨-, hreferences, hextents, -, -, -, hbehind⟩ :=
    (shorthand_is_compositional s hne hends hconst hknown).1 t ht
  have hextent : s ++ "[" ++ toString 12 ++ "]" = "unsigned long*[12]" := by decide
  have htwelve := hextents 12 (by decide +kernel)
  rw [hextent, show squeezed "unsigned long*[12]" = "unsigned long*[12]" by decide] at htwelve
  have hrefers := hreferences (by decide) "&&" (by simp)
  rw [show squeezed (s ++ "&&") = "unsigned long*&&" by decide] at hrefers
  rw [show squeezed (s ++ " const") = "unsigned long* const" by decide] at hbehind
  exact ⟨⟨hne, hends, hconst, hknown⟩, htwelve, hrefers, hbehind⟩

/-- An array of a class with an extent of one digit more than can be read. -/
theorem long_extent_not_read :
    let s := "T"
    let n := 10 ^ digitLimit
    (s ≠ "" ∧ trimmed s = s ∧ ¬ "const".toList <:+: s.toList ∧ s ≠ "<unresolved>") ∧
      (∃ t, ofValue (.str s) = .ok (some t)) ∧
      ofValue (.str (s ++ "[" ++ toString n ++ "]")) = .error .badValue := by
  intro s n
  have h : Unmarked s.toList := ⟨by decide, by decide⟩
  have hread : ∃ t, ofChars s.toList = .ok t := by
    rw [ofChars_eq (by decide) (by decide), ofBare_of_plain (by decide)]
    exact ⟨_, rfl⟩
  obtain ⟨t, ht⟩ := hread
  have hlong : ¬ (toString n).toList.length ≤ digitLimit := by
    rw [toList_toString, length_toDigits_le_digitLimit]
    exact Nat.lt_irrefl n
  exact ⟨⟨by decide, by decide, by decide, by decide⟩, ⟨t, ofValue_str_eq_ok.2 ht⟩,
    ofValue_long_extent h (isDigit_of_mem_toString n) hlong⟩

end CppType

end CppIdioms
