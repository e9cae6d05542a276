import CppIdioms.Proofs.Identifiers
import CppIdioms.Proofs.Likeness
import CppIdioms.Proofs.TypeShorthand
import CppIdioms.Rule.CopiedParameter

/-!
# What erasing const does to names

Const is erased with a space on one side of it, wherever the letters stand. A name that starts or ends
with these letters is cut, and may grow together with what stands next to it; any other name is kept as
it is. A const that no space separates from its neighbours stays.

## Contents

* `names`: the identifiers of a text other than const.
* `Sturdy`, `SturdyText`: words that erasing const cannot cut, and texts of such words.
* `GluedConst`: texts with a const that no space separates.
* `mergeConst`: a text in pieces without every const that a space follows.
* `OuterForm.extent`: the extent in an outer form.
* `Finds`: what an inspection finds has a property.

## Main statements

* `names_eraseConst`, `const_mem_identifiers_iff`: the names, and the const that stays.
* `sturdy_iff_kept`: every other word is cut in some spelling.
* `outerForm_identifiers`: taking off a mark takes off no more than an extent.
* `const_erasure_keeps_sturdy_names`: names of types, of their elements and in suggestions.
-/

namespace CppIdioms

open CppIdioms.Text

/-! ## §1 Sturdy words -/

/-- The word const. -/
def constWord : List Char := "const".toList

/-- The identifiers of a text other than const. -/
def names (cs : List Char) : List (List Char) := (identifiers cs).filter (· ≠ constWord)

/-- The word is const, or it neither starts nor ends with it. -/
def Sturdy (w : List Char) : Prop := constWord <+: w ∨ constWord <:+ w → w = constWord

/-- All identifiers of the text are sturdy. -/
def SturdyText (cs : List Char) : Prop := ∀ w ∈ identifiers cs, Sturdy w

instance (w : List Char) : Decidable (Sturdy w) := inferInstanceAs (Decidable (_ → _))

instance (cs : List Char) : Decidable (SturdyText cs) :=
  inferInstanceAs (Decidable (∀ w ∈ identifiers cs, Sturdy w))

/-- Const, once more than the number says, with a space between neighbours. -/
def constRun : Nat → List Char
  | 0 => constWord
  | n + 1 => constWord ++ ' ' :: constRun n

/-- Const stands in the text, once or several times with a space between neighbours, and no space or
other word character is before the first or behind the last one. -/
def GluedConst (cs : List Char) : Prop :=
  ∃ before n behind, cs = before ++ constRun n ++ behind ∧
    (∀ c ∈ before.getLast?, isWord c = false ∧ c ≠ ' ') ∧
    ∀ c ∈ behind.head?, isWord c = false ∧ c ≠ ' '

/-- The text without const as it is erased, the one that a space follows first. -/
def eraseConst (cs : List Char) : List Char :=
  erase " const".toList (erase "const ".toList cs)

theorem const_word : ∀ c ∈ constWord, isWord c = true := forall_mem_of_all (by decide)

theorem const_space_eq : "const ".toList = constWord ++ [' '] := by decide

theorem const_space_append (cs : List Char) : "const ".toList ++ cs = constWord ++ ' ' :: cs := by
  rw [const_space_eq, List.append_assoc, List.singleton_append]

theorem space_const_eq : " const".toList = ' ' :: constWord := by decide

theorem space_not_word : isWord ' ' = false := by decide

theorem sturdy_nil : Sturdy [] := by decide

theorem mem_names {w cs : List Char} : w ∈ names cs ↔ w ∈ identifiers cs ∧ w ≠ constWord := by
  simp [names]

/-! ## §2 Erasing in pieces -/

/-- The words of the pieces are sturdy. -/
structure SturdyPieces (w : List Char) (rest : List (Char × List Char)) : Prop
    extends Pieces w rest where
  sturdyFirst : Sturdy w
  sturdyWords : ∀ p ∈ rest, Sturdy p.2

/-- The pieces without every const that a space follows: the word behind the space takes its place. -/
def mergeConst (w : List Char) : List (Char × List Char) → List Char × List (Char × List Char)
  | [] => (w, [])
  | (c, v) :: rest =>
    let merged := mergeConst v rest
    if w = constWord ∧ c = ' ' then merged else (w, (c, merged.1) :: merged.2)

section Pieces

variable {w v : List Char} {c : Char} {rest : List (Char × List Char)}

theorem SturdyPieces.tail (h : SturdyPieces w ((c, v) :: rest)) : SturdyPieces v rest where
  toPieces := h.toPieces.tail
  sturdyFirst := h.sturdyWords _ List.mem_cons_self
  sturdyWords := fun p hp => h.sturdyWords p (List.mem_cons_of_mem _ hp)

theorem SturdyText.exists_pieces {cs : List Char} (h : SturdyText cs) :
    ∃ w rest, SturdyPieces w rest ∧ joined w rest = cs := by
  obtain ⟨w, rest, hpieces, rfl⟩ := Text.exists_pieces cs
  have hsturdy : ∀ x ∈ w :: rest.map (·.2), Sturdy x := by
    intro x hx
    by_cases hnil : x = []
    · exact hnil ▸ sturdy_nil
    · refine h x ?_
      rw [identifiers_joined hpieces]
      exact List.mem_filter.2 ⟨hx, by simpa using hnil⟩
  obtain ⟨hfirst, hwords⟩ := List.forall_mem_cons.1 hsturdy
  exact ⟨w, rest, ⟨hpieces, hfirst, fun p hp => hwords p.2 (List.mem_map_of_mem hp)⟩, rfl⟩

theorem mergeConst_of_const (v : List Char) (rest : List (Char × List Char)) :
    mergeConst constWord ((' ', v) :: rest) = mergeConst v rest := by
  simp [mergeConst]

theorem mergeConst_of_not (h : ¬ (w = constWord ∧ c = ' ')) (v : List Char)
    (rest : List (Char × List Char)) :
    mergeConst w ((c, v) :: rest) = (w, (c, (mergeConst v rest).1) :: (mergeConst v rest).2) := by
  simp only [mergeConst, if_neg h]

theorem SturdyPieces.mergeConst (h : SturdyPieces w rest) :
    SturdyPieces (mergeConst w rest).1 (mergeConst w rest).2 := by
  induction rest generalizing w with
  | nil => exact h
  | cons p rest ih =>
    obtain ⟨c, v⟩ := p
    by_cases hconst : w = constWord ∧ c = ' '
    · obtain ⟨rfl, rfl⟩ := hconst
      rw [mergeConst_of_const]
      exact ih h.tail
    · rw [mergeConst_of_not hconst]
      have hrest := ih h.tail
      exact ⟨⟨h.first, List.forall_mem_cons.2 ⟨h.head_break, hrest.breaks⟩,
        List.forall_mem_cons.2 ⟨hrest.first, hrest.words⟩⟩, h.sturdyFirst,
        List.forall_mem_cons.2 ⟨hrest.sturdyFirst, hrest.sturdyWords⟩⟩

/-- A const that a space follows ends with a word: nothing starts within a sturdy word but const. -/
theorem erase_const_space_of_break (hw : ∀ d ∈ w, isWord d = true) (hsturdy : Sturdy w)
    (hc : isWord c = false) (hconst : ¬ (w = constWord ∧ c = ' ')) (cs : List Char) :
    erase "const ".toList (w ++ c :: cs) = w ++ c :: erase "const ".toList cs := by
  have hstart : ∀ x, x ≠ [] → x <:+ w ++ [c] → ¬ "const ".toList <+: x ++ cs := by
    intro x hx hsuffix hopening
    obtain hnil | ⟨y, rfl, hy⟩ := List.suffix_concat_iff.1 hsuffix
    · exact hx hnil
    have hc' : c ∉ constWord := fun hmem => by simp [const_word c hmem] at hc
    rw [const_space_eq, List.append_assoc, List.singleton_append] at hopening
    obtain ⟨z, rfl⟩ := prefix_of_prefix_append_cons hc' ((List.prefix_append _ _).trans hopening)
    rw [List.append_assoc, List.prefix_append_right_inj] at hopening
    cases z with
    | nil =>
      obtain ⟨rfl, -⟩ := List.cons_prefix_cons.1 hopening
      rw [List.append_nil] at hy
      exact hconst ⟨hsturdy (.inr hy), rfl⟩
    | cons d z =>
      obtain ⟨rfl, -⟩ := List.cons_prefix_cons.1 hopening
      have hspace := hw ' ' (hy.subset (by simp))
      simp [space_not_word] at hspace
  have herase := erase_append_of_no_start (by decide) hstart
  simpa using herase

theorem erase_const_space_joined (h : SturdyPieces w rest) : erase "const ".toList (joined w rest) =
    joined (mergeConst w rest).1 (mergeConst w rest).2 := by
  induction rest generalizing w with
  | nil =>
    refine erase_of_no_part fun hpart => ?_
    have hspace := h.first ' ' (by simpa [joined, joinedRest] using hpart.subset (by decide))
    simp [space_not_word] at hspace
  | cons p rest ih =>
    obtain ⟨c, v⟩ := p
    rw [joined_cons]
    by_cases hconst : w = constWord ∧ c = ' '
    · obtain ⟨rfl, rfl⟩ := hconst
      rw [← const_space_append, erase_phrase_append (by decide), ih h.tail, mergeConst_of_const]
    · rw [erase_const_space_of_break h.first h.sturdyFirst h.head_break hconst, ih h.tail,
        mergeConst_of_not hconst, joined_cons]

theorem erase_space_const_joinedRest (h : SturdyPieces w rest) : erase " const".toList (joinedRest rest) =
    joinedRest (rest.filter (· ≠ (' ', constWord))) := by
  induction rest generalizing w with
  | nil => rfl
  | cons p rest ih =>
    obtain ⟨c, v⟩ := p
    have htail := h.tail
    rw [joinedRest_cons, joined]
    by_cases hconst : (c, v) = (' ', constWord)
    · rw [List.filter_cons_of_neg (by simpa using hconst)]
      obtain ⟨rfl, rfl⟩ := Prod.mk.inj hconst
      rw [← List.cons_append, ← space_const_eq, erase_phrase_append (by decide), ih htail]
    · have hstart : ∀ x, x ≠ [] → x <:+ c :: v → ¬ " const".toList <+: x ++ joinedRest rest := by
        intro x hx hsuffix hopening
        rw [space_const_eq] at hopening
        obtain rfl | hsuffix := List.suffix_cons_iff.1 hsuffix
        · obtain ⟨rfl, hwords⟩ := List.cons_prefix_cons.1 hopening
          have hfirst := prefix_of_prefix_joined htail.breaks const_word hwords
          exact hconst (by rw [htail.sturdyFirst (.inl hfirst)])
        · obtain ⟨d, x, rfl⟩ := List.exists_cons_of_ne_nil hx
          obtain ⟨rfl, -⟩ := List.cons_prefix_cons.1 hopening
          have hspace := htail.first ' ' (hsuffix.subset List.mem_cons_self)
          simp [space_not_word] at hspace
      rw [← List.cons_append, erase_append_of_no_start (by decide) hstart, ih htail,
        List.filter_cons_of_pos (by simpa only [decide_eq_true_eq] using hconst), joinedRest_cons, joined,
        List.cons_append]

theorem erase_space_const_joined (h : SturdyPieces w rest) : erase " const".toList (joined w rest) =
    joined w (rest.filter (· ≠ (' ', constWord))) := by
  have hstart : ∀ x, x ≠ [] → x <:+ w → ¬ " const".toList <+: x ++ joinedRest rest := by
    intro x hx hsuffix hopening
    obtain ⟨d, x, rfl⟩ := List.exists_cons_of_ne_nil hx
    obtain ⟨rfl, -⟩ := List.cons_prefix_cons.1 (space_const_eq ▸ hopening)
    have hspace := h.first ' ' (hsuffix.subset List.mem_cons_self)
    simp [space_not_word] at hspace
  rw [joined, erase_append_of_no_start (by decide) hstart, erase_space_const_joinedRest h, joined]

/-- What is left of a text in pieces: const goes with the space behind it, or else with the one before
it. -/
theorem identifiers_eraseConst (h : SturdyPieces w rest) : identifiers (eraseConst (joined w rest)) =
    ((mergeConst w rest).1 ::
      ((mergeConst w rest).2.filter (· ≠ (' ', constWord))).map (·.2)).filter (!·.isEmpty) := by
  have hmerged := h.mergeConst
  rw [eraseConst, erase_const_space_joined h, erase_space_const_joined hmerged, identifiers_joined]
  exact ⟨hmerged.first, fun p hp => hmerged.breaks p (List.mem_of_mem_filter hp),
    fun p hp => hmerged.words p (List.mem_of_mem_filter hp)⟩

end Pieces

/-! ## §3 Names -/

section Names

variable {w : List Char} {rest : List (Char × List Char)} {cs : List Char}

/-- Merging drops no word but const. -/
theorem names_mergeConst (w : List Char) (rest : List (Char × List Char)) :
    ((mergeConst w rest).1 :: (mergeConst w rest).2.map (·.2)).filter (· ≠ constWord) =
      (w :: rest.map (·.2)).filter (· ≠ constWord) := by
  induction rest generalizing w with
  | nil => rfl
  | cons p rest ih =>
    obtain ⟨c, v⟩ := p
    by_cases hconst : w = constWord ∧ c = ' '
    · obtain ⟨rfl, rfl⟩ := hconst
      rw [mergeConst_of_const, ih, List.map_cons]
      exact (List.filter_cons_of_neg (by simp)).symm
    · rw [mergeConst_of_not hconst]
      simp only [List.map_cons, @List.filter_cons _ w, ih]

theorem filter_space_const (rest : List (Char × List Char)) :
    ((rest.filter (· ≠ (' ', constWord))).map (·.2)).filter (· ≠ constWord) =
      (rest.map (·.2)).filter (· ≠ constWord) := by
  rw [List.filter_map, List.filter_filter, List.filter_map]
  refine congrArg _ (List.filter_congr fun p _ => ?_)
  obtain ⟨c, v⟩ := p
  by_cases hv : v = constWord <;> simp [hv]

/-- Erasing const keeps every sturdy name, and their order. -/
theorem names_eraseConst (h : SturdyText cs) : names (eraseConst cs) = names cs := by
  obtain ⟨w, rest, hpieces, rfl⟩ := h.exists_pieces
  have hcomm (l : List (List Char)) : (l.filter (!·.isEmpty)).filter (· ≠ constWord) =
      (l.filter (· ≠ constWord)).filter (!·.isEmpty) := by
    rw [List.filter_filter, List.filter_filter]
    exact List.filter_congr fun x _ => Bool.and_comm _ _
  have hfilter : ((mergeConst w rest).1 ::
      ((mergeConst w rest).2.filter (· ≠ (' ', constWord))).map (·.2)).filter (· ≠ constWord) =
      (w :: rest.map (·.2)).filter (· ≠ constWord) := by
    rw [← names_mergeConst w rest, List.filter_cons, filter_space_const, List.filter_cons]
  rw [names, names, identifiers_eraseConst hpieces, identifiers_joined hpieces.toPieces, hcomm, hcomm,
    hfilter]

theorem SturdyText.eraseConst (h : SturdyText cs) : SturdyText (eraseConst cs) := by
  intro w hw
  by_cases hconst : w = constWord
  · exact fun _ => hconst
  · have hname : w ∈ names (CppIdioms.eraseConst cs) := mem_names.2 ⟨hw, hconst⟩
    rw [names_eraseConst h] at hname
    exact h w (mem_names.1 hname).1

end Names

/-! ## §4 The const that stays -/

section Glued

variable {w : List Char} {c : Char} {rest : List (Char × List Char)} {cs : List Char}

theorem exists_run_of_first (h : Pieces w rest) (hfirst : (mergeConst w rest).1 = constWord) :
    ∃ n behind, joined w rest = constRun n ++ behind ∧
      ∀ c ∈ behind.head?, isWord c = false ∧ c ≠ ' ' := by
  induction rest generalizing w with
  | nil =>
    obtain rfl : w = constWord := hfirst
    exact ⟨0, [], rfl, nofun⟩
  | cons p rest ih =>
    obtain ⟨c, v⟩ := p
    by_cases hconst : w = constWord ∧ c = ' '
    · obtain ⟨rfl, rfl⟩ := hconst
      rw [mergeConst_of_const] at hfirst
      obtain ⟨n, behind, hjoined, hbehind⟩ := ih h.tail hfirst
      refine ⟨n + 1, behind, ?_, hbehind⟩
      rw [joined_cons, hjoined, constRun, List.append_assoc, List.cons_append]
    · rw [mergeConst_of_not hconst] at hfirst
      obtain rfl : w = constWord := hfirst
      refine ⟨0, c :: joined v rest, joined_cons _ c v rest, ?_⟩
      rintro _ ⟨⟩
      exact ⟨h.head_break, fun hspace => hconst ⟨rfl, hspace⟩⟩

theorem exists_run_of_mem (h : Pieces w rest) (hmem : (c, constWord) ∈ (mergeConst w rest).2) :
    ∃ before n behind, joined w rest = before ++ c :: (constRun n ++ behind) ∧
      ∀ c ∈ behind.head?, isWord c = false ∧ c ≠ ' ' := by
  induction rest generalizing w with
  | nil => cases hmem
  | cons p rest ih =>
    obtain ⟨d, v⟩ := p
    rw [joined_cons]
    by_cases hconst : w = constWord ∧ d = ' '
    · obtain ⟨rfl, rfl⟩ := hconst
      rw [mergeConst_of_const] at hmem
      obtain ⟨before, n, behind, hjoined, hbehind⟩ := ih h.tail hmem
      exact ⟨constWord ++ ' ' :: before, n, behind, by simp [hjoined], hbehind⟩
    · rw [mergeConst_of_not hconst] at hmem
      obtain heq | hmem := List.mem_cons.1 hmem
      · obtain ⟨rfl, hfirst⟩ := Prod.mk.inj heq
        obtain ⟨n, behind, hjoined, hbehind⟩ := exists_run_of_first h.tail hfirst.symm
        exact ⟨w, n, behind, by rw [hjoined], hbehind⟩
      · obtain ⟨before, n, behind, hjoined, hbehind⟩ := ih h.tail hmem
        exact ⟨w ++ d :: before, n, behind, by simp [hjoined], hbehind⟩

theorem glued_of_const_mem (h : SturdyText cs) (hmem : constWord ∈ identifiers (eraseConst cs)) :
    GluedConst cs := by
  obtain ⟨w, rest, hpieces, rfl⟩ := h.exists_pieces
  rw [identifiers_eraseConst hpieces] at hmem
  obtain hfirst | hword := List.mem_cons.1 (List.mem_of_mem_filter hmem)
  · obtain ⟨n, behind, hjoined, hbehind⟩ := exists_run_of_first hpieces.toPieces hfirst.symm
    exact ⟨[], n, behind, hjoined, nofun, hbehind⟩
  · obtain ⟨⟨c, v⟩, hp, rfl⟩ := List.mem_map.1 hword
    obtain ⟨hp, hspace⟩ := List.mem_filter.1 hp
    obtain ⟨before, n, behind, hjoined, hbehind⟩ := exists_run_of_mem hpieces.toPieces hp
    refine ⟨before ++ [c], n, behind, by simp [hjoined], ?_, hbehind⟩
    rw [List.getLast?_concat]
    rintro _ ⟨⟩
    exact ⟨hpieces.mergeConst.breaks _ hp, by simpa using hspace⟩

theorem eraseConst_append_cons (hc : c ∉ "const ".toList) (us vs : List Char) :
    eraseConst (us ++ c :: vs) = eraseConst us ++ c :: eraseConst vs := by
  have hc' : c ∉ " const".toList := fun hmem => hc <| by
    rw [space_const_eq] at hmem
    rw [const_space_eq]
    simpa [or_comm] using hmem
  simp only [eraseConst, erase_append_cons (by decide : "const ".toList ≠ []) hc,
    erase_append_cons (by decide : " const".toList ≠ []) hc']

theorem eraseConst_constRun (n : Nat) : eraseConst (constRun n) = constWord := by
  induction n with
  | zero => decide
  | succ n ih =>
    rwa [constRun, ← const_space_append, eraseConst, erase_phrase_append (by decide), ← eraseConst]

theorem not_mem_const_space (hc : isWord c = false ∧ c ≠ ' ') : c ∉ "const ".toList := by
  rw [const_space_eq, List.mem_append, List.mem_singleton, not_or]
  exact ⟨fun hmem => by simp [const_word c hmem] at hc, hc.2⟩

/-- What stands on either side keeps the const from being erased. -/
theorem const_mem_of_glued (h : GluedConst cs) : constWord ∈ identifiers (eraseConst cs) := by
  obtain ⟨before, n, behind, rfl, hbefore, hbehind⟩ := h
  have hword : identifiers constWord = [constWord] := identifiers_of_word const_word
  have hrun : constWord ∈ identifiers (eraseConst (constRun n ++ behind)) := by
    cases behind with
    | nil => rw [List.append_nil, eraseConst_constRun, hword, List.mem_singleton]
    | cons c behind =>
      have hc := hbehind c rfl
      rw [eraseConst_append_cons (not_mem_const_space hc), eraseConst_constRun,
        identifiers_append_cons hc.1, hword]
      simp
  obtain rfl | ⟨before, c, rfl⟩ := List.eq_nil_or_concat' before
  · simpa using hrun
  · have hc := hbefore c (by simp)
    rw [List.append_assoc, List.append_assoc, List.singleton_append,
      eraseConst_append_cons (not_mem_const_space hc), identifiers_append_cons hc.1]
    exact List.mem_append_right _ hrun

theorem const_mem_identifiers_iff (h : SturdyText cs) :
    constWord ∈ identifiers (eraseConst cs) ↔ GluedConst cs :=
  ⟨glued_of_const_mem h, const_mem_of_glued⟩

/-- Const is gone exactly if it stood nowhere without a space. -/
theorem identifiers_eraseConst_eq_names_iff (h : SturdyText cs) :
    identifiers (eraseConst cs) = names cs ↔ ¬ GluedConst cs := by
  rw [← const_mem_identifiers_iff h, ← names_eraseConst h, names, eq_comm, List.filter_eq_self]
  constructor
  · intro hall hmem
    simpa using hall _ hmem
  · intro hmem w hw
    refine decide_eq_true fun hconst => hmem (hconst ▸ hw)

end Glued

/-! ## §5 Levels -/

/-- The extent in an outer form, if there is one. -/
def OuterForm.extent : OuterForm → List Char
  | .reference _ => []
  | .pointer _ => []
  | .array _ extent => extent
  | .plain => []

section Levels

variable {cs inner : List Char}

/-- The marks that are taken off are no part of an identifier. -/
theorem outerFormRev_identifiers (h : (outerFormRev cs).inner? = some inner) :
    identifiers cs.reverse = identifiers inner ++ identifiers (outerFormRev cs).extent ∧
      ∀ d ∈ (outerFormRev cs).extent, isDigit d = true := by
  have hmark (c : Char) (hc : isWord c = false) (rest : List Char) :
      identifiers (c :: rest).reverse = identifiers rest.reverse := by
    rw [List.reverse_cons, identifiers_append_cons hc, identifiers_nil, List.append_nil]
  generalize hform : outerFormRev cs = form at h ⊢
  unfold outerFormRev at hform
  split at hform
  · rename_i rest
    subst hform
    obtain rfl := Option.some.inj h
    have hreferences : ∀ c, (c == '&') = true → isWord c = false := fun c hc => by
      rw [beq_iff_eq.1 hc]
      decide
    refine ⟨?_, nofun⟩
    rw [hmark _ (by decide), OuterForm.extent, identifiers_nil, List.append_nil, identifiers_trim,
      identifiers_reverse_dropWhile hreferences]
  · rename_i rest
    subst hform
    obtain rfl := Option.some.inj h
    refine ⟨?_, nofun⟩
    rw [hmark _ (by decide), OuterForm.extent, identifiers_nil, List.append_nil, identifiers_trim]
  · rename_i rest
    split at hform
    · rename_i before hbefore
      dsimp only at hform
      split at hform
      · subst hform
        cases h
      · subst hform
        obtain rfl := Option.some.inj h
        have hrest : rest.reverse = before.reverse ++ '[' :: (rest.takeWhile isDigit).reverse := by
          have hcut : rest.takeWhile isDigit ++ '[' :: before = rest := by
            rw [← hbefore, List.takeWhile_append_dropWhile]
          have hreverse := congrArg List.reverse hcut
          simpa using hreverse.symm
        refine ⟨?_, fun d hd => List.mem_takeWhile_imp (List.mem_reverse.1 hd)⟩
        rw [hmark _ (by decide), hrest, identifiers_append_cons (by decide), OuterForm.extent,
          identifiers_reverse_dropWhile fun _ => blank_not_word]
    · subst hform
      cases h
  · subst hform
    cases h

/-- Taking off a mark takes off no identifier but the extent of an array. -/
theorem outerForm_identifiers (h : (outerForm cs).inner? = some inner) :
    identifiers cs = identifiers inner ++ identifiers (outerForm cs).extent ∧
      ∀ d ∈ (outerForm cs).extent, isDigit d = true := by
  have hrev := outerFormRev_identifiers h
  rwa [List.reverse_reverse] at hrev

theorem identifiers_bareSpelling (cs : List Char) :
    identifiers (bareSpelling cs) = identifiers (eraseConst cs) := identifiers_trim _

theorem SturdyText.squeeze (h : SturdyText cs) : SturdyText (squeeze cs) := by
  rwa [SturdyText, identifiers_squeeze]

theorem SturdyText.of_inner (h : SturdyText cs)
    (hinner : (outerForm (bareSpelling (Text.squeeze cs))).inner? = some inner) : SturdyText inner := by
  intro w hw
  refine h.squeeze.eraseConst w ?_
  rw [← identifiers_bareSpelling, (outerForm_identifiers hinner).1]
  exact List.mem_append_left _ hw

theorem identifiers_digits {ds : List Char} (h : ∀ d ∈ ds, isDigit d = true) :
    (identifiers ds).filter (· ≠ constWord) = identifiers ds := by
  rw [List.filter_eq_self, identifiers_of_word fun d hd => digit_word (h d hd)]
  intro w hw
  obtain rfl := List.mem_singleton.1 (List.mem_of_mem_filter hw)
  refine decide_eq_true fun hconst => ?_
  exact absurd (h 'c' (hconst ▸ by decide)) (by decide)

namespace CppType

theorem identifiers_base (t : CppType) :
    identifiers t.base.toList = identifiers (eraseConst t.spelling.toList) := by
  rw [base, String.toList_ofList, withoutConst, identifiers_squeeze, ← eraseConst]

theorem names_base_eq (t : CppType) :
    names t.base.toList = names (eraseConst t.spelling.toList) := by
  rw [names, identifiers_base, ← names]

theorem names_base {t : CppType} (h : SturdyText t.spelling.toList) :
    names t.base.toList = names t.spelling.toList := by
  rw [names_base_eq, names_eraseConst h]

section Reading

variable {t : CppType} (hread : ofChars cs = .ok t)
include hread

theorem names_spelling_of_ofChars : names t.spelling.toList = names cs := by
  rw [spelling_of_ofChars hread, String.toList_ofList, names, identifiers_squeeze, ← names]

theorem sturdy_spelling_of_ofChars (h : SturdyText cs) : SturdyText t.spelling.toList := by
  rw [spelling_of_ofChars hread, String.toList_ofList]
  exact h.squeeze

theorem names_base_of_ofChars (h : SturdyText cs) : names t.base.toList = names cs := by
  rw [names_base (sturdy_spelling_of_ofChars hread h), names_spelling_of_ofChars hread]

/-- Only an array has an extent, and then its element is read from what stands in front of it. -/
theorem extent_of_ofChars (hcategory : t.category ≠ .array) {e : CppType} (he : t.element = some e) :
    (outerForm (bareSpelling (squeeze cs))).extent = [] := by
  obtain ⟨-, rfl⟩ | ⟨-, hform⟩ := unknown_or_formOf hread
  · cases he
  · cases hform with
    | array => exact absurd rfl hcategory
    | reference form => rw [form]; rfl
    | pointer form => rw [form]; rfl
    | plain form => rw [form]; rfl

/-- From a type to its element no name is lost but the extent. -/
theorem names_of_element {e : CppType} (h : SturdyText cs) (helement : t.element = some e) :
    ∃ extent : List Char, (∀ d ∈ extent, isDigit d = true) ∧
      (t.category ≠ .array → extent = []) ∧
      names t.base.toList = names e.base.toList ++ identifiers extent := by
  obtain ⟨inner, he, hinner⟩ := exists_inner_of_ofChars hread helement
  obtain ⟨hcut, hdigits⟩ := outerForm_identifiers hinner
  refine ⟨_, hdigits, fun hcategory => extent_of_ofChars hread hcategory helement, ?_⟩
  rw [names_base_of_ofChars hread h, names_base_of_ofChars he (h.of_inner hinner)]
  calc names cs = names (eraseConst (squeeze cs)) := by
        rw [names_eraseConst h.squeeze, names, names, identifiers_squeeze]
    _ = (identifiers (bareSpelling (squeeze cs))).filter (· ≠ constWord) := by
        rw [identifiers_bareSpelling, names]
    _ = names inner ++ identifiers (outerForm (bareSpelling (squeeze cs))).extent := by
        rw [hcut, List.filter_append, identifiers_digits hdigits, names]

end Reading

/-- Every level of a type is read from a text of sturdy words if the type is. -/
theorem exists_of_mem_chain {u t : CppType} (hread : ofChars cs = .ok u) (h : SturdyText cs)
    (ht : t ∈ u.chain) : ∃ ds, SturdyText ds ∧ ofChars ds = .ok t := by
  induction hread using ofChars_induction with
  | step cs u hread ih =>
    rw [chain_eq] at ht
    obtain rfl | ht := List.mem_cons.1 ht
    · exact ⟨cs, h, hread⟩
    · cases helement : u.element with
      | none =>
        rw [helement, elementChain] at ht
        cases ht
      | some e =>
        rw [helement, elementChain] at ht
        obtain ⟨inner, he, hinner⟩ := exists_inner_of_ofChars hread helement
        exact ih inner e hinner he (h.of_inner hinner) ht

end CppType

end Levels

/-! ## §6 Words that are cut -/

section Cut

variable {w z : List Char}

theorem space_not_mem (hw : ∀ c ∈ w, isWord c = true) : ' ' ∉ w := fun hmem => by
  simpa [space_not_word] using hw ' ' hmem

theorem not_infix_of_space {phrase : List Char} (hphrase : ' ' ∈ phrase) (hw : ' ' ∉ w) :
    ¬ phrase <:+: w := fun hpart => hw (hpart.subset hphrase)

theorem identifiers_enum (hne : w ≠ []) (hw : ∀ c ∈ w, isWord c = true) :
    identifiers ("enum ".toList ++ w) = ["enum".toList, w] := by
  have henum : identifiers "enum".toList = ["enum".toList] :=
    identifiers_of_word (forall_mem_of_all (by decide))
  have hsplit := identifiers_append_cons space_not_word "enum".toList w
  rw [henum, identifiers_of_word hw, List.filter_cons_of_pos (by simpa using hne)] at hsplit
  exact hsplit

theorem identifiers_star (hne : w ≠ []) (hw : ∀ c ∈ w, isWord c = true) :
    identifiers (w ++ " *".toList) = [w] := by
  rw [identifiers_append_of_no_word (forall_mem_of_all (by decide)), identifiers_of_word hw,
    List.filter_cons_of_pos (by simpa using hne)]
  rfl

/-- Behind a space a word that starts with const loses it and grows together with the word before. -/
theorem eraseConst_enum (hz : ∀ c ∈ z, isWord c = true) :
    eraseConst ("enum ".toList ++ (constWord ++ z)) = "enum".toList ++ z := by
  have hword : ∀ c ∈ constWord ++ z, isWord c = true := List.forall_mem_append.2 ⟨const_word, hz⟩
  have hfirst : erase "const ".toList ("enum ".toList ++ (constWord ++ z)) =
      "enum ".toList ++ (constWord ++ z) := by
    have hbreak := @erase_const_space_of_break "enum".toList ' ' (forall_mem_of_all (by decide))
      (by decide) space_not_word (by decide) (constWord ++ z)
    rw [erase_of_no_part (not_infix_of_space (by decide) (space_not_mem hword))] at hbreak
    exact hbreak
  have hphrase : "enum ".toList ++ (constWord ++ z) = "enum".toList ++ " const".toList ++ z := by
    rw [space_const_eq]
    rfl
  rw [eraseConst, hfirst, hphrase, erase_append_phrase (by decide) (by decide),
    erase_of_no_part (not_infix_of_space (by decide) (space_not_mem hz))]

/-- In front of a space a word that ends with const loses it. -/
theorem eraseConst_star (hz : ∀ c ∈ z, isWord c = true) :
    eraseConst (z ++ constWord ++ " *".toList) = z ++ ['*'] := by
  have hword : ∀ c ∈ z ++ constWord, isWord c = true := List.forall_mem_append.2 ⟨hz, const_word⟩
  have hphrase : z ++ constWord ++ " *".toList = z ++ "const ".toList ++ ['*'] := by
    rw [List.append_assoc z, List.append_assoc z, const_space_append]
    rfl
  have hstar : ' ' ∉ z ++ ['*'] := by
    rw [List.mem_append, not_or]
    exact ⟨space_not_mem hz, by decide⟩
  have hfirst : erase "const ".toList (z ++ constWord ++ " *".toList) = z ++ ['*'] := by
    rw [hphrase, erase_append_phrase (by decide)
      (not_infix_of_space (by decide) (space_not_mem hword))]
    rfl
  rw [eraseConst, hfirst, erase_of_no_part (not_infix_of_space (by decide) hstar)]

/-- A word is kept behind another one and in front of a pointer mark exactly if it is sturdy. -/
theorem sturdy_iff_kept (hne : w ≠ []) (hw : ∀ c ∈ w, isWord c = true) : Sturdy w ↔
    ∀ cs ∈ ["enum ".toList ++ w, w ++ " *".toList], names (eraseConst cs) = names cs := by
  constructor
  · intro hsturdy cs hcs
    refine names_eraseConst fun x hx => ?_
    have henum : Sturdy "enum".toList := by decide
    simp only [List.mem_cons, List.not_mem_nil, or_false] at hcs
    obtain rfl | rfl := hcs
    · rw [identifiers_enum hne hw] at hx
      simp only [List.mem_cons, List.not_mem_nil, or_false] at hx
      obtain rfl | rfl := hx
      · exact henum
      · exact hsturdy
    · rw [identifiers_star hne hw, List.mem_singleton] at hx
      exact hx ▸ hsturdy
  · rintro hkept (⟨z, rfl⟩ | ⟨z, rfl⟩)
    · by_contra hconst
      have hz : ∀ c ∈ z, isWord c = true := fun c hc => hw c (List.mem_append_right _ hc)
      have hjoined : ∀ c ∈ "enum".toList ++ z, isWord c = true :=
        List.forall_mem_append.2 ⟨forall_mem_of_all (by decide), hz⟩
      have hnames := hkept _ List.mem_cons_self
      rw [eraseConst_enum hz, names, names, identifiers_enum hne hw, identifiers_of_word hjoined] at hnames
      have hmem : constWord ++ z ∈ (["enum".toList ++ z].filter (!·.isEmpty)).filter (· ≠ constWord) := by
        rw [hnames]
        exact List.mem_filter.2 ⟨by simp, by simpa using hconst⟩
      have hself := List.mem_singleton.1 (List.mem_of_mem_filter (List.mem_of_mem_filter hmem))
      exact absurd (List.append_cancel_right hself) (by decide)
    · by_contra hconst
      have hz : ∀ c ∈ z, isWord c = true := fun c hc => hw c (List.mem_append_left _ hc)
      have hnames := hkept _ (List.mem_cons_of_mem _ List.mem_cons_self)
      rw [eraseConst_star hz, names, names, identifiers_star hne hw,
        identifiers_append_of_no_word (forall_mem_of_all (by decide)), identifiers_of_word hz] at hnames
      have hmem : z ++ constWord ∈ ([z].filter (!·.isEmpty)).filter (· ≠ constWord) := by
        rw [hnames]
        simp [hconst]
      have hself := List.mem_singleton.1 (List.mem_of_mem_filter (List.mem_of_mem_filter hmem))
      exact absurd (List.append_right_eq_self.1 hself) (by decide)

/-- The two spellings, as lists and as those of types. -/
theorem kept_iff_base_kept (w : List Char) :
    (∀ cs ∈ ["enum ".toList ++ w, w ++ " *".toList], names (eraseConst cs) = names cs) ↔
      ∀ t : CppType, t.spelling ∈ ["enum " ++ String.ofList w, String.ofList w ++ " *"] →
        names t.base.toList = names t.spelling.toList := by
  simp only [List.mem_cons, List.not_mem_nil, or_false]
  constructor
  · intro hkept t ht
    rw [CppType.names_base_eq]
    exact hkept _ (ht.imp (fun h => by simp [h]) fun h => by simp [h])
  · intro hkept cs hcs
    have ht := hkept { spelling := String.ofList cs } (hcs.imp
      (fun h => String.toList_inj.1 (by simp [h])) fun h => String.toList_inj.1 (by simp [h]))
    rw [CppType.names_base_eq] at ht
    simpa using ht

end Cut

/-! ## §7 Types -/

/-- What is found has the property. -/
def Finds (P : Finding → Prop) (x : Except Error (List Finding)) : Prop :=
  ∀ findings, x = .ok findings → ∀ f ∈ findings, P f

section Finds

variable {P : Finding → Prop} {x : Except Error (List Finding)}

theorem Finds.nil : Finds P (.ok []) := by
  rintro _ ⟨⟩ f hf
  cases hf

theorem Finds.one {f : Finding} (h : P f) : Finds P (.ok [f]) := by
  rintro _ ⟨⟩ g hg
  exact List.mem_singleton.1 hg ▸ h

theorem Finds.unless {c : Prop} [Decidable c] (h : Finds P x) :
    Finds P (if c then .ok [] else x) := by
  split
  · exact .nil
  · exact h

theorem Finds.bind {α : Type} {z : Except Error α} {g : α → Except Error (List Finding)}
    (h : ∀ a, z = .ok a → Finds P (g a)) : Finds P (z >>= g) := by
  cases z with
  | error e => nofun
  | ok a => exact h a rfl

end Finds

/-- What is said of a parameter of a type that is copied on every call. -/
def copiedParameterMessage (n : Node) (t : CppType) (suggestion : String) : String :=
  "parameter '" ++ n.nameOr "<unnamed>" ++ "' copies a '" ++ t.spelling
    ++ "' on every call; pass it as 'const " ++ suggestion ++ "&'"

/-- A report of a copied parameter suggests the type of the parameter without const. -/
theorem message_of_copiedParameter (threshold : Value) (c : Cursor) :
    Finds (fun f => ∃ t, c.node.knownType = .ok (some t) ∧
      f.message = copiedParameterMessage c.node t t.base)
      ((Rules.copiedParameter threshold).inspect c) := by
  refine .unless (.unless (.bind fun known hknown => ?_))
  cases known with
  | none => exact .nil
  | some t => exact .unless (.bind fun _ _ => .unless (.one ⟨t, hknown, rfl⟩))

/-- A parameter of a class that is only read is reported. -/
theorem inspect_copiedParameter {threshold : Value} {c : Cursor} {t : CppType}
    (hdefined : Rules.belongsToDefinition c = true) (hread : c.node.denies "is_modified" = true)
    (hmoved : c.node.has "moved_from" = false) (hknown : c.node.knownType = .ok (some t))
    (hclass : t.category = .record) : (Rules.copiedParameter threshold).inspect c =
      .ok [Rules.copiedParameterRule.finding c.node (copiedParameterMessage c.node t t.base)] := by
  have hnonTrivial : t.isNonTrivial threshold = .ok true := by
    rw [CppType.isNonTrivial, CppType.isClass, hclass]
    rfl
  simp only [Rules.copiedParameter, hdefined, hread, hmoved, hknown, bind, Except.bind, pure, Except.pure,
    hclass, hnonTrivial, Except.mapError]
  rfl

/-- If no name in a spelling starts or ends with const, erasing const keeps all of them, in their order,
and const goes too unless it stands somewhere without a space; a report of a copied parameter suggests
the type so freed. The same holds of every level of the type that is read from the spelling, where from
a type to its element nothing is lost but the extent of an array; a type is read unless an extent has
too many digits. A name is kept behind another word and in front of a pointer mark exactly if it neither
starts nor ends with const. -/
theorem const_erasure_keeps_sturdy_names (s : String) :
    (SturdyText s.toList →
      (∀ t : CppType, t.spelling = s →
        names t.base.toList = names s.toList ∧
          (identifiers t.base.toList = names s.toList ↔ ¬ GluedConst s.toList) ∧
          ∀ (threshold : Value) (c : Cursor) (findings : List Finding),
            c.node.knownType = .ok (some t) →
              (Rules.copiedParameter threshold).inspect c = .ok findings →
                ∀ f ∈ findings, f.message = copiedParameterMessage c.node t t.base) ∧
      (CppType.ExtentsFit s.toList → ∃ u, CppType.ofSpelling s = .ok u) ∧
      ∀ u, CppType.ofSpelling s = .ok u → names u.base.toList = names s.toList ∧
        ∀ t ∈ u.chain, SturdyText t.spelling.toList ∧
          ∀ e, t.element = some e → ∃ extent : List Char, (∀ d ∈ extent, isDigit d = true) ∧
            (t.category ≠ .array → extent = []) ∧
            names t.base.toList = names e.base.toList ++ identifiers extent) ∧
    ∀ w ∈ identifiers s.toList, (Sturdy w ↔ ∀ t : CppType,
      t.spelling ∈ ["enum " ++ String.ofList w, String.ofList w ++ " *"] →
        names t.base.toList = names t.spelling.toList) := by
  refine ⟨fun h => ⟨?_, fun hfit => hfit.exists_ofChars,
    fun u hu => ⟨CppType.names_base_of_ofChars hu h, fun t ht => ?_⟩⟩, fun w hw => ?_⟩
  · rintro t rfl
    refine ⟨CppType.names_base h, ?_, fun threshold c findings hknown hinspect f hf => ?_⟩
    · rw [CppType.identifiers_base, identifiers_eraseConst_eq_names_iff h]
    · obtain ⟨u, hu, hmessage⟩ := message_of_copiedParameter threshold c findings hinspect f hf
      obtain rfl : t = u := Option.some.inj (Except.ok.inj (hknown.symm.trans hu))
      exact hmessage
  · obtain ⟨ds, hds, hread⟩ := CppType.exists_of_mem_chain hu h ht
    exact ⟨CppType.sturdy_spelling_of_ofChars hread hds,
      fun e he => CppType.names_of_element hread hds he⟩
  · obtain ⟨hne, hword⟩ := of_mem_identifiers hw
    rw [sturdy_iff_kept hne hword]
    exact kept_iff_base_kept w

theorem ofSpelling_const_vector : CppType.ofSpelling "std::vector<const Key *> const" =
    .ok ⟨"std::vector<const Key *> const", .record, none, true, none⟩ := by
  rw [CppType.ofSpelling, CppType.ofChars_eq (by decide) (by decide)]
  rfl

/-- A parameter of a class that is const and has const in its spelling once more. -/
theorem parameter_of_const_vector :
    let s := "std::vector<const Key *> const"
    let t : CppType := ⟨s, .record, none, true, none⟩
    let parameter : Node := ⟨.parameterDecl, ⟨"a.cpp", 1, 8, 1, 43⟩,
      [(.str "name", .str "keys"), (.str "type", .str s), (.str "is_modified", .bool false)], []⟩
    let body : Node := ⟨.compoundStatement, ⟨"a.cpp", 1, 45, 1, 47⟩, [], []⟩
    let function : Node :=
      ⟨.functionDecl, ⟨"a.cpp", 1, 1, 1, 47⟩, [], [("parameters", parameter), ("body", body)]⟩
    let c : Cursor := ⟨parameter, [⟨function, "parameters", 0⟩]⟩
    let reported := Rules.copiedParameterRule.finding parameter
      (copiedParameterMessage parameter t "std::vector<Key *>")
    SturdyText s.toList ∧ CppType.ofSpelling s = .ok t ∧ parameter.knownType = .ok (some t) ∧
      (Rules.copiedParameter (.int 16)).inspect c = .ok [reported] ∧
      reported.message = copiedParameterMessage parameter t t.base ∧
      names t.base.toList = ["std".toList, "vector".toList, "Key".toList] ∧
      identifiers t.base.toList = names s.toList ∧ ¬ GluedConst s.toList := by
  intro s t parameter body function c reported
  have hsturdy : SturdyText s.toList := by decide
  have hread : CppType.ofSpelling s = .ok t := ofSpelling_const_vector
  have hchain : t ∈ t.chain := by
    rw [CppType.chain_eq]
    exact List.mem_cons_self
  have hknown : parameter.knownType = .ok (some t) := by
    rw [Node.knownType_eq, Node.typeAt, Node.typeOf, show parameter.attr "type" = .str s by rfl,
      CppType.ofValue_str, ofSpelling_const_vector]
    rfl
  have hinspect : (Rules.copiedParameter (.int 16)).inspect c = .ok [reported] := by
    have hbase : t.base = "std::vector<Key *>" := by decide
    have hreported := @inspect_copiedParameter (.int 16) c t rfl rfl rfl hknown rfl
    rwa [hbase] at hreported
  obtain ⟨htypes, -, hreads⟩ := (const_erasure_keeps_sturdy_names s).1 hsturdy
  obtain ⟨-, hlevels⟩ := hreads t hread
  obtain ⟨hnames, hglued, hreports⟩ := htypes t rfl
  have hmessage := hreports (.int 16) c [reported] hknown hinspect reported List.mem_cons_self
  have hsame : identifiers t.base.toList = names s.toList := by decide
  have hspelled : names s.toList = ["std".toList, "vector".toList, "Key".toList] := by decide
  exact ⟨(hlevels t hchain).1, hread, hknown, hinspect, hmessage, hnames.trans hspelled, hsame,
    hglued.1 hsame⟩

/-- An iterator that is the second argument of a template grows together with the comma. -/
theorem second_argument_is_cut :
    ∃ t, CppType.ofSpelling "std::pair<int, const_iterator>" = .ok t ∧
      t.base = "std::pair<int,_iterator>" ∧
      identifiers t.base.toList ≠ names "std::pair<int, const_iterator>".toList := by
  obtain ⟨t, ht⟩ : ∃ t, CppType.ofSpelling "std::pair<int, const_iterator>" = .ok t := by
    rw [CppType.ofSpelling, CppType.ofChars_eq (by decide) (by decide),
      CppType.ofBare_of_plain (by decide)]
    exact ⟨_, rfl⟩
  have hbase : t.base = "std::pair<int,_iterator>" := by
    rw [CppType.base, CppType.spelling_of_ofChars ht]
    decide
  refine ⟨t, ht, hbase, ?_⟩
  rw [hbase]
  decide

end CppIdioms
