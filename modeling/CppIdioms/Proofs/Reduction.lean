import CppIdioms.Proofs.Numerals
import CppIdioms.Text.Erase
import Mathlib.Data.List.Infix

/-!
# What trimming, squeezing and erasing leave

Types are read after their spelling has been squeezed, freed from a phrase and trimmed. Each of these
leaves a text alone that has nothing to remove, and works piece by piece on a text that is cut at the
right place.

## Contents

* §1 the parts of a text that is cut at a character;
* §2 trimming and squeezing;
* §3 erasing.

## Main statements

* `squeeze_append`: a text is squeezed up to a character that is no blank, and then behind it.
* `squeeze_squeeze`, `solid_squeeze`: what squeezing leaves.
* `infix_of_infix_squeeze`: squeezing makes no new words.
* `erase_of_no_part`, `erase_append_phrase`: erasing goes from one occurrence to the next.
* `erase_append_cons`: a character that the phrase does not have keeps two parts apart.
-/

namespace CppIdioms.Text

/-! ## §1 Parts -/

section Parts

variable {α : Type*} {w u v : List α} {c : α}

theorem prefix_of_prefix_append_cons (hc : c ∉ w) (h : w <+: u ++ c :: v) : w <+: u := by
  obtain hwu | ⟨t, rfl⟩ := List.prefix_or_prefix_of_prefix h (List.prefix_append u (c :: v))
  · exact hwu
  · cases t with
    | nil => simp
    | cons d t =>
      have hd : d :: t <+: c :: v := (List.prefix_append_right_inj u).1 h
      obtain ⟨rfl, -⟩ := List.cons_prefix_cons.1 hd
      simp at hc

/-- A part that does not have the character at which a text is cut lies on one side of it. -/
theorem infix_of_infix_append_cons (hc : c ∉ w) (h : w <:+: u ++ c :: v) : w <:+: u ∨ w <:+: v := by
  induction u with
  | nil =>
    obtain hopening | hpart := List.infix_cons_iff.1 h
    · exact .inl (prefix_of_prefix_append_cons hc (by simpa using hopening)).isInfix
    · exact .inr hpart
  | cons d u ih =>
    obtain hopening | hpart := List.infix_cons_iff.1 h
    · exact .inl (prefix_of_prefix_append_cons hc hopening).isInfix
    · exact (ih hpart).imp_left List.infix_cons

theorem suffix_of_suffix_append_cons (hc : c ∉ w) (h : w <:+ u ++ c :: v) : w <:+ v := by
  rw [← List.reverse_prefix] at h ⊢
  refine @prefix_of_prefix_append_cons _ w.reverse v.reverse u.reverse c ?_ (by simpa using h)
  rwa [List.mem_reverse]

end Parts

/-! ## §2 Trimming and squeezing -/

theorem Solid.trim_eq {cs : List Char} (h : Solid cs) : trim cs = cs := by
  simpa using @trim_between [] cs [] nofun nofun h

theorem solid_iff {cs : List Char} : Solid cs ↔ cs ≠ [] ∧ cs.head?.all (!isBlank ·) = true ∧
    cs.getLast?.all (!isBlank ·) = true := by
  simp only [Option.all_eq_true, Bool.not_eq_true']
  exact ⟨fun h => ⟨h.nonempty, h.starts, h.ends⟩, fun h => ⟨h.1, h.2.1, h.2.2⟩⟩

instance (cs : List Char) : Decidable (Solid cs) := decidable_of_iff' _ solid_iff

theorem Solid.append {cs ds : List Char} (hcs : Solid cs) (hds : ∀ c ∈ ds.getLast?, isBlank c = false) :
    Solid (cs ++ ds) where
  nonempty := List.append_ne_nil_of_left_ne_nil hcs.nonempty ds
  starts := by
    rw [List.head?_append_of_ne_nil _ hcs.nonempty]
    exact hcs.starts
  ends := by
    rw [List.getLast?_append]
    cases hlast : ds.getLast? with
    | none => simpa using hcs.ends
    | some d => simpa using hds d hlast

section Squeezing

variable {cs ds : List Char}

theorem squeezeFrom_append (hne : cs ≠ []) (hends : ∀ c ∈ cs.getLast?, isBlank c = false)
    (started gap : Bool) :
    squeezeFrom started gap (cs ++ ds) = squeezeFrom started gap cs ++ squeezeFrom true false ds := by
  induction cs generalizing started gap with
  | nil => exact absurd rfl hne
  | cons c cs ih =>
    cases cs with
    | nil =>
      have hc : isBlank c = false := hends c rfl
      simp only [List.singleton_append, squeezeFrom, hc, Bool.false_eq_true, if_false]
      split <;> rfl
    | cons d cs =>
      have hrest := ih (by simp) (by simpa using hends)
      rw [List.cons_append, squeezeFrom, squeezeFrom, hrest, hrest]
      split
      · rfl
      · split <;> rfl

/-- A text is squeezed up to a character that is no blank, and then behind it. -/
theorem squeeze_append (h : Solid cs) : squeeze (cs ++ ds) = squeeze cs ++ squeezeFrom true false ds :=
  squeezeFrom_append h.nonempty h.ends false false

theorem squeezeFrom_of_no_blank (h : ∀ c ∈ cs, isBlank c = false) : squeezeFrom true false cs = cs := by
  induction cs with
  | nil => rfl
  | cons c cs ih =>
    obtain ⟨hc, hcs⟩ := List.forall_mem_cons.1 h
    simp [squeezeFrom, hc, ih hcs]

/-- What follows a blank that was passed is nothing, or it starts with a space. -/
theorem squeezeFrom_gap (cs : List Char) :
    squeezeFrom true true cs = [] ∨ ∃ rest, squeezeFrom true true cs = ' ' :: rest := by
  induction cs with
  | nil => exact .inl rfl
  | cons c cs ih =>
    rw [squeezeFrom]
    split
    · exact ih
    · exact .inr ⟨_, rfl⟩

theorem squeezeFrom_eq_nil {started gap : Bool} (h : squeezeFrom started gap cs = []) :
    ∀ c ∈ cs, isBlank c = true := by
  induction cs generalizing gap with
  | nil => nofun
  | cons c cs ih =>
    rw [squeezeFrom] at h
    split at h
    · next hc => exact List.forall_mem_cons.2 ⟨hc, ih h⟩
    · split at h <;> cases h

theorem mem_of_mem_squeezeFrom {started gap : Bool} {c : Char} (h : c ∈ squeezeFrom started gap cs) :
    c = ' ' ∨ c ∈ cs := by
  induction cs generalizing started gap with
  | nil => cases h
  | cons d cs ih =>
    have hrest (h : c ∈ d :: squeezeFrom true false cs) : c = ' ' ∨ c ∈ d :: cs := by
      obtain rfl | hmem := List.mem_cons.1 h
      · exact .inr List.mem_cons_self
      · exact (ih hmem).imp_right (List.mem_cons_of_mem d)
    rw [squeezeFrom] at h
    split at h
    · exact (ih h).imp_right (List.mem_cons_of_mem d)
    · split at h
      · obtain rfl | hmem := List.mem_cons.1 h
        · exact .inl rfl
        · exact hrest hmem
      · exact hrest h

theorem squeezeFrom_squeezeFrom (gap : Bool) (cs : List Char) :
    squeezeFrom true false (squeezeFrom true gap cs) = squeezeFrom true gap cs := by
  induction cs generalizing gap with
  | nil => rfl
  | cons c cs ih =>
    by_cases hc : isBlank c
    · rw [squeezeFrom, if_pos hc, ih]
    · have hspace : isBlank ' ' = true := by decide
      cases gap <;> simp [squeezeFrom, hc, hspace, ih]

theorem squeeze_squeeze (cs : List Char) : squeeze (squeeze cs) = squeeze cs := by
  unfold squeeze
  induction cs with
  | nil => rfl
  | cons c cs ih =>
    by_cases hc : isBlank c
    · rw [squeezeFrom, if_pos hc, ih]
    · simp [squeezeFrom, hc, squeezeFrom_squeezeFrom]

theorem squeeze_dropWhile_blank (cs : List Char) : squeeze (cs.dropWhile isBlank) = squeeze cs := by
  unfold squeeze
  induction cs with
  | nil => rfl
  | cons c cs ih =>
    by_cases hc : isBlank c
    · rw [List.dropWhile_cons_of_pos hc, ih, squeezeFrom, if_pos hc]
    · rw [List.dropWhile_cons_of_neg hc]

theorem squeezeFrom_append_blanks (hds : ∀ d ∈ ds, isBlank d = true)
    (started gap : Bool) (cs : List Char) :
    squeezeFrom started gap (cs ++ ds) = squeezeFrom started gap cs := by
  induction cs generalizing started gap with
  | nil =>
    induction ds generalizing started gap with
    | nil => rfl
    | cons d ds ih =>
      obtain ⟨hd, hds⟩ := List.forall_mem_cons.1 hds
      rw [List.nil_append, squeezeFrom.eq_2, if_pos hd]
      exact ih hds started started
  | cons c cs ih => rw [List.cons_append, squeezeFrom, squeezeFrom, ih, ih]

/-- Blanks at the ends are left out by squeezing as well. -/
theorem squeeze_trim (cs : List Char) : squeeze (trim cs) = squeeze cs := by
  have hblank : ∀ d ∈ (trimStart cs).rtakeWhile isBlank, isBlank d = true :=
    fun d hd => List.mem_rtakeWhile_imp hd
  have hcut : trim cs ++ (trimStart cs).rtakeWhile isBlank = trimStart cs := by
    rw [trim, trimEnd, dropEndWhile_eq_rdropWhile, List.rdropWhile_append_rtakeWhile]
  have hstart : squeeze (trimStart cs) = squeeze (trim cs) := by
    conv_lhs => rw [← hcut]
    exact squeezeFrom_append_blanks hblank false false _
  rw [← hstart, trimStart, squeeze_dropWhile_blank]

theorem squeeze_starts (cs : List Char) : ∀ c ∈ (squeeze cs).head?, isBlank c = false := by
  unfold squeeze
  induction cs with
  | nil => nofun
  | cons c cs ih =>
    by_cases hc : isBlank c
    · rwa [squeezeFrom, if_pos hc]
    · simp [squeezeFrom, hc]

theorem squeezeFrom_ends (started gap : Bool) (cs : List Char) :
    ∀ c ∈ (squeezeFrom started gap cs).getLast?, isBlank c = false := by
  induction cs generalizing started gap with
  | nil => nofun
  | cons c cs ih =>
    by_cases hc : isBlank c
    · rw [squeezeFrom, if_pos hc]
      exact ih started started
    · have hlast : ∀ d ∈ (c :: squeezeFrom true false cs).getLast?, isBlank d = false := by
        rw [List.getLast?_cons]
        cases h : (squeezeFrom true false cs).getLast? with
        | none => simpa using hc
        | some d => simpa using ih true false d h
      cases gap
      · simpa [squeezeFrom, hc] using hlast
      · simpa [squeezeFrom, hc] using hlast

theorem getLast?_squeezeFrom {c : Char} (hc : isBlank c = false) (started gap : Bool) :
    (squeezeFrom started gap (cs ++ [c])).getLast? = some c := by
  induction cs generalizing started gap with
  | nil => cases gap <;> simp [squeezeFrom, hc]
  | cons d cs ih =>
    rw [List.cons_append, squeezeFrom]
    split
    · exact ih started started
    · split <;> simp [List.getLast?_cons, ih]

/-- A text that does not end with a blank ends as it did. -/
theorem getLast?_squeeze (h : Solid cs) : (squeeze cs).getLast? = cs.getLast? := by
  obtain ⟨rest, c, rfl⟩ := (List.eq_nil_or_concat' cs).resolve_left h.nonempty
  rw [List.getLast?_concat]
  exact getLast?_squeezeFrom (h.ends c (by simp)) false false

/-- A blank that was passed is put in front of a text that starts with none. -/
theorem squeezeFrom_gap_eq (h : Solid cs) : squeezeFrom true true cs = ' ' :: squeeze cs := by
  obtain ⟨c, rest, rfl⟩ := List.exists_cons_of_ne_nil h.nonempty
  simp [squeeze, squeezeFrom, h.starts c rfl]

/-- What squeezing leaves has no blank at either end. -/
theorem solid_squeeze (h : squeeze cs ≠ []) : Solid (squeeze cs) :=
  ⟨h, squeeze_starts cs, squeezeFrom_ends false false cs⟩

theorem squeeze_ne_nil_of_mem {c : Char} (hmem : c ∈ cs) (hc : isBlank c = false) :
    squeeze cs ≠ [] := by
  intro hnil
  have hblank := squeezeFrom_eq_nil hnil c hmem
  simp [hc] at hblank

theorem squeeze_ne_nil_of_trim (h : trim cs ≠ []) : squeeze cs ≠ [] := by
  intro hnil
  have hblank : cs.dropWhile isBlank = [] := List.dropWhile_eq_nil_iff.2 (squeezeFrom_eq_nil hnil)
  exact h (by rw [trim, trimStart, hblank]; rfl)

theorem squeeze_ne_nil (h : Solid cs) : squeeze cs ≠ [] :=
  squeeze_ne_nil_of_mem (List.getLast_mem h.nonempty)
    (h.ends _ (List.getLast?_eq_some_getLast h.nonempty))

theorem prefix_of_prefix_squeezeFrom {w : List Char} (hw : ∀ c ∈ w, isBlank c = false)
    (h : w <+: squeezeFrom true false cs) : w <+: cs := by
  induction cs generalizing w with
  | nil => exact h
  | cons c cs ih =>
    cases w with
    | nil => exact List.nil_prefix
    | cons d w =>
      obtain ⟨hd, hw⟩ := List.forall_mem_cons.1 hw
      rw [squeezeFrom] at h
      split at h
      · obtain hgap | ⟨rest, hgap⟩ := squeezeFrom_gap cs
        · simp [hgap] at h
        · obtain ⟨rfl, -⟩ := List.cons_prefix_cons.1 (hgap ▸ h)
          exact absurd hd (by decide)
      · obtain ⟨rfl, hrest⟩ := List.cons_prefix_cons.1 h
        exact List.cons_prefix_cons.2 ⟨rfl, ih hw hrest⟩

/-- Squeezing makes no new words. -/
theorem infix_of_infix_squeeze {w : List Char} (hw : ∀ c ∈ w, isBlank c = false)
    (h : w <:+: squeeze cs) : w <:+: cs := by
  suffices hfrom : ∀ started gap, w <:+: squeezeFrom started gap cs → w <:+: cs from hfrom _ _ h
  clear h
  intro started gap h
  induction cs generalizing started gap with
  | nil => exact h
  | cons c cs ih =>
    have hword (h : w <:+: c :: squeezeFrom true false cs) : w <:+: c :: cs := by
      obtain hopening | hpart := List.infix_cons_iff.1 h
      · cases w with
        | nil => exact List.nil_infix
        | cons d w =>
          obtain ⟨rfl, hrest⟩ := List.cons_prefix_cons.1 hopening
          have hwrest := prefix_of_prefix_squeezeFrom (List.forall_mem_cons.1 hw).2 hrest
          exact (List.cons_prefix_cons.2 ⟨rfl, hwrest⟩).isInfix
      · exact List.infix_cons (ih _ _ hpart)
    rw [squeezeFrom] at h
    split at h
    · exact List.infix_cons (ih _ _ h)
    · split at h
      · have hspace : ' ' ∉ w := fun hmem => absurd (hw _ hmem) (by decide)
        obtain hnil | hrest := @infix_of_infix_append_cons _ w [] _ ' ' hspace h
        · exact List.eq_nil_of_infix_nil hnil ▸ List.nil_infix
        · exact hword hrest
      · exact hword h

theorem getLast?_of_cons {c : Char} (h : ∀ d ∈ (c :: cs).getLast?, isBlank d = false) :
    ∀ d ∈ cs.getLast?, isBlank d = false := fun d hd =>
  h d (by simp [List.getLast?_cons, Option.mem_def.1 hd])

theorem squeezeFrom_eq_self (hends : ∀ c ∈ cs.getLast?, isBlank c = false)
    (hnone : ∀ c ∈ squeezeFrom true false cs, isBlank c = false) : squeezeFrom true false cs = cs := by
  induction cs with
  | nil => rfl
  | cons c cs ih =>
    by_cases hc : isBlank c
    · rw [squeezeFrom, if_pos hc] at hnone
      obtain hgap | ⟨rest, hgap⟩ := squeezeFrom_gap cs
      · have hblank : ∀ d ∈ c :: cs, isBlank d = true :=
          List.forall_mem_cons.2 ⟨hc, squeezeFrom_eq_nil hgap⟩
        have hlast := List.getLast?_eq_some_getLast (List.cons_ne_nil c cs)
        have hfalse := hends _ hlast
        rw [hblank _ (List.getLast_mem _)] at hfalse
        cases hfalse
      · exact absurd (hnone ' ' (by simp [hgap])) (by decide)
    · simp only [squeezeFrom, hc, Bool.false_eq_true, if_false, List.mem_cons,
        forall_eq_or_imp] at hnone ⊢
      rw [ih (getLast?_of_cons hends) hnone.2]

/-- A text that has no blank once it is squeezed, and none at its ends, has none to be squeezed. -/
theorem squeeze_eq_self (h : Solid cs) (hnone : ∀ c ∈ squeeze cs, isBlank c = false) :
    squeeze cs = cs := by
  obtain ⟨c, rest, rfl⟩ := List.exists_cons_of_ne_nil h.nonempty
  have hc : isBlank c = false := h.starts c rfl
  simp only [squeeze, squeezeFrom, hc, Bool.false_eq_true, if_false, List.mem_cons,
    forall_eq_or_imp] at hnone ⊢
  rw [squeezeFrom_eq_self (getLast?_of_cons h.ends) hnone.2]

end Squeezing

/-- Only the gap in front of it is added to a text without blanks that comes last. -/
theorem exists_gap (started gap : Bool) (cs : List Char) : ∃ g, (∀ c ∈ g, isBlank c = true) ∧
    ∀ ds, ds ≠ [] → (∀ d ∈ ds, isBlank d = false) →
      squeezeFrom started gap (cs ++ ds) = squeezeFrom started gap cs ++ (g ++ ds) := by
  induction cs generalizing started gap with
  | nil =>
    refine ⟨if gap then [' '] else [], ?_, fun ds hne hds => ?_⟩
    · cases gap
      · nofun
      · exact forall_mem_of_all (by decide)
    · obtain ⟨d, ds, rfl⟩ := List.exists_cons_of_ne_nil hne
      obtain ⟨hd, hrest⟩ := List.forall_mem_cons.1 hds
      cases gap <;> simp [squeezeFrom, hd, squeezeFrom_of_no_blank hrest]
  | cons c cs ih =>
    by_cases hc : isBlank c
    · obtain ⟨g, hg, hcut⟩ := ih started started
      refine ⟨g, hg, fun ds hne hds => ?_⟩
      rw [List.cons_append, squeezeFrom, if_pos hc, hcut ds hne hds, squeezeFrom, if_pos hc]
    · obtain ⟨g, hg, hcut⟩ := ih true false
      refine ⟨g, hg, fun ds hne hds => ?_⟩
      rw [List.cons_append, squeezeFrom, if_neg hc, hcut ds hne hds, squeezeFrom, if_neg hc]
      split <;> rfl

/-- A trimmed text ends with the last character of the text that is no blank. -/
theorem getLast?_trim (cs : List Char) : (trim cs).getLast? = cs.reverse.find? (!isBlank ·) := by
  have hnone : (cs.takeWhile isBlank).reverse.find? (!isBlank ·) = none :=
    List.find?_eq_none.2 fun c hc => by simpa using List.mem_takeWhile_imp (List.mem_reverse.1 hc)
  have hcut : cs.reverse = (cs.dropWhile isBlank).reverse ++ (cs.takeWhile isBlank).reverse := by
    rw [← List.reverse_append, List.takeWhile_append_dropWhile]
  rw [trim, trimEnd, dropEndWhile, List.getLast?_reverse, ← List.find?_not_eq_head?_dropWhile, hcut,
    List.find?_append, hnone, Option.or_none, trimStart]

/-! ## §3 Erasing -/

section Erasing

variable {phrase : List Char}

theorem eraseFrom_eq (phrase : List Char) (skip : Nat) (cs : List Char) :
    eraseFrom phrase skip cs = erase phrase (cs.drop skip) := by
  induction cs generalizing skip with
  | nil => cases skip <;> rfl
  | cons c cs ih =>
    cases skip with
    | zero => rfl
    | succ skip => exact ih skip

/-- An occurrence is passed over; any other character is kept. -/
theorem erase_cons (hne : phrase ≠ []) (c : Char) (cs : List Char) :
    erase phrase (c :: cs) = if phrase <+: c :: cs then erase phrase ((c :: cs).drop phrase.length)
      else c :: erase phrase cs := by
  obtain ⟨n, hn⟩ := Nat.exists_eq_succ_of_ne_zero (mt List.length_eq_zero_iff.1 hne)
  rw [erase, eraseFrom, eraseFrom_eq phrase (phrase.length - 1), hn]
  simp [hne, erase]

theorem mem_of_mem_erase {cs : List Char} {c : Char} (h : c ∈ erase phrase cs) : c ∈ cs := by
  suffices hfrom : ∀ skip, c ∈ eraseFrom phrase skip cs → c ∈ cs from hfrom 0 h
  clear h
  intro skip h
  induction cs generalizing skip with
  | nil => cases skip <;> cases h
  | cons d cs ih =>
    cases skip with
    | succ skip => exact List.mem_cons_of_mem d (ih skip h)
    | zero =>
      rw [eraseFrom] at h
      split at h
      · exact List.mem_cons_of_mem d (ih _ h)
      · obtain rfl | hmem := List.mem_cons.1 h
        · exact List.mem_cons_self
        · exact List.mem_cons_of_mem d (ih 0 hmem)

theorem erase_of_no_part {cs : List Char} (h : ¬ phrase <:+: cs) : erase phrase cs = cs := by
  have hne : phrase ≠ [] := by
    rintro rfl
    exact h List.nil_infix
  induction cs with
  | nil => rfl
  | cons c cs ih =>
    rw [List.infix_cons_iff, not_or] at h
    rw [erase_cons hne, if_neg h.1, ih h.2]

theorem erase_phrase_append (hne : phrase ≠ []) (cs : List Char) :
    erase phrase (phrase ++ cs) = erase phrase cs := by
  obtain ⟨c, rest, rfl⟩ := List.exists_cons_of_ne_nil hne
  have hopening : c :: rest <+: c :: (rest ++ cs) := List.prefix_append (c :: rest) cs
  rw [List.cons_append, erase_cons hne, if_pos hopening, ← List.cons_append, List.drop_left]

/-- Nothing is erased in front of the first occurrence. -/
theorem erase_append_phrase (hne : phrase ≠ []) {us : List Char}
    (h : ¬ phrase <:+: us ++ phrase.dropLast) (vs : List Char) :
    erase phrase (us ++ phrase ++ vs) = us ++ erase phrase vs := by
  induction us with
  | nil => exact erase_phrase_append hne vs
  | cons u us ih =>
    rw [List.cons_append, List.infix_cons_iff, not_or] at h
    have hlength : phrase.dropLast.length + 1 = phrase.length := by
      have := List.length_pos_iff.2 hne
      rw [List.length_dropLast]
      omega
    have hnot : ¬ phrase <+: u :: (us ++ phrase ++ vs) := by
      intro hopening
      refine h.1 (List.prefix_of_prefix_length_le hopening ?_ (by simp; omega))
      rw [List.append_assoc, ← List.cons_append, ← List.cons_append]
      have hlast : phrase.dropLast <+: phrase := List.dropLast_prefix phrase
      exact (List.prefix_append_right_inj _).2 (hlast.trans (List.prefix_append _ _))
    rw [List.cons_append, List.cons_append, erase_cons hne, if_neg hnot, ih h.2, List.cons_append]

/-- Nothing is erased where no occurrence starts. -/
theorem erase_append_of_no_start (hne : phrase ≠ []) {us vs : List Char}
    (h : ∀ x, x ≠ [] → x <:+ us → ¬ phrase <+: x ++ vs) :
    erase phrase (us ++ vs) = us ++ erase phrase vs := by
  induction us with
  | nil => rfl
  | cons u us ih =>
    have hnot : ¬ phrase <+: u :: (us ++ vs) := h (u :: us) (by simp) List.suffix_rfl
    rw [List.cons_append, erase_cons hne, if_neg hnot,
      ih fun x hx hsuffix => h x hx (hsuffix.trans (List.suffix_cons u us)), List.cons_append]

/-- A character that the phrase does not have keeps what is on either side of it apart. -/
theorem erase_append_cons (hne : phrase ≠ []) {c : Char} (hc : c ∉ phrase) (us vs : List Char) :
    erase phrase (us ++ c :: vs) = erase phrase us ++ c :: erase phrase vs := by
  induction hlength : us.length using Nat.strong_induction_on generalizing us with
  | _ n ih =>
    subst hlength
    cases us with
    | nil =>
      have hnot : ¬ phrase <+: c :: vs := fun hopening =>
        hne (List.prefix_nil.1 (@prefix_of_prefix_append_cons _ phrase [] vs c hc hopening))
      rw [List.nil_append, erase_cons hne, if_neg hnot]
      rfl
    | cons u us =>
      have hpos : 0 < phrase.length := List.length_pos_iff.2 hne
      rw [List.cons_append, erase_cons hne, erase_cons hne u us]
      by_cases hopening : phrase <+: u :: us
      · have hwhole : phrase <+: u :: (us ++ c :: vs) := hopening.trans (List.prefix_append (u :: us) _)
        have hle := hopening.length_le
        have hdrop : (u :: (us ++ c :: vs)).drop phrase.length =
            (u :: us).drop phrase.length ++ c :: vs := by
          rw [← List.cons_append, List.drop_append_of_le_length hle]
        rw [if_pos hwhole, if_pos hopening, hdrop]
        refine ih _ ?_ _ rfl
        rw [List.length_drop]
        omega
      · have hnot : ¬ phrase <+: u :: (us ++ c :: vs) := fun hwhole =>
          hopening (@prefix_of_prefix_append_cons _ phrase (u :: us) vs c hc hwhole)
        rw [if_neg hnot, if_neg hopening, ih us.length (by simp) us rfl, List.cons_append]

end Erasing

end CppIdioms.Text
