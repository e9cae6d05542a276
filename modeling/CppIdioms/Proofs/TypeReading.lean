import CppIdioms.CppType.Reading
import CppIdioms.Proofs.Reduction

/-!
# Types by their spelling

A type that is given by its spelling alone is taken apart from the end: reference marks, a pointer
mark or a pair of brackets are taken off, and the reader goes on with what is left. What it does in one
step is said once here, for spellings that say nothing of the type and for all others by their outer
form. A spelling is read unless one of the extents that the reader comes upon has too many digits.

## Contents

* `CppType.ofBare`: what is read once the const marks are gone.
* `CppType.Unknown`, `CppType.FormOf`: what one step of the reader gives.
* `CppType.chain`: a type with all that it is made of.
* `CppType.extents`, `CppType.ExtentsFit`: the extents in a spelling, and that none is too long.

## Main statements

* `CppType.ofChars_eq`: the reader, with its outermost step taken.
* `CppType.unknown_or_formOf`: the types that are read.
* `CppType.length_chain_le`: a spelling has no more levels than characters.
* `CppType.ofChars_cases`: the spellings that are read.
-/

namespace CppIdioms

open CppIdioms.Text

/-! ## §1 The outermost step -/

namespace CppType

/-- The type of a spelling without const marks, given the text and the const mark of the whole. -/
def ofBare (text : String) (isConst : Bool) (bare : List Char) : Except Fault CppType :=
  match outerForm bare with
  | .reference inner =>
    (ofChars inner).map fun element => ⟨text, .reference, some 8, isConst, some element⟩
  | .pointer inner =>
    (ofChars inner).map fun element => ⟨text, .pointer, some 8, isConst, some element⟩
  | .array inner extent =>
    (ofChars inner).bind fun element =>
      (arraySize element extent).map fun size => ⟨text, .array, size, isConst, some element⟩
  | .plain => .ok (plainType text isConst bare)

section OfBare

variable {text : String} {isConst : Bool} {bare inner extent : List Char}

theorem ofBare_of_reference (h : outerForm bare = .reference inner) :
    ofBare text isConst bare =
      (ofChars inner).map fun element => ⟨text, .reference, some 8, isConst, some element⟩ := by
  rw [ofBare, h]

theorem ofBare_of_pointer (h : outerForm bare = .pointer inner) :
    ofBare text isConst bare =
      (ofChars inner).map fun element => ⟨text, .pointer, some 8, isConst, some element⟩ := by
  rw [ofBare, h]

theorem ofBare_of_array (h : outerForm bare = .array inner extent) :
    ofBare text isConst bare =
      (ofChars inner).bind fun element =>
        (arraySize element extent).map fun size => ⟨text, .array, size, isConst, some element⟩ := by
  rw [ofBare, h]

theorem ofBare_of_plain (h : outerForm bare = .plain) :
    ofBare text isConst bare = .ok (plainType text isConst bare) := by
  rw [ofBare, h]

end OfBare

/-- A spelling that says nothing of the type. -/
def Unknown (cs : List Char) : Prop := squeeze cs = [] ∨ squeeze cs = "<unresolved>".toList

theorem unknown_iff {cs : List Char} :
    ((squeeze cs).isEmpty || squeeze cs == "<unresolved>".toList) = true ↔ Unknown cs := by
  simp [Unknown]

theorem ofChars_of_unknown {cs : List Char} (h : Unknown cs) :
    ofChars cs = .ok { spelling := String.ofList (squeeze cs) } := by
  rw [ofChars]
  dsimp only
  rw [if_pos (unknown_iff.2 h)]

theorem ofChars_of_known {cs : List Char} (h : ¬ Unknown cs) :
    ofChars cs = ofBare (String.ofList (squeeze cs)) (hasConstMark (squeeze cs))
      (bareSpelling (squeeze cs)) := by
  rw [ofChars, ofBare]
  dsimp only
  rw [if_neg (mt unknown_iff.1 h)]
  split <;> rename_i h <;> rw [h]

theorem ofChars_eq {cs : List Char} (hne : squeeze cs ≠ [])
    (hunresolved : squeeze cs ≠ "<unresolved>".toList) :
    ofChars cs = ofBare (String.ofList (squeeze cs)) (hasConstMark (squeeze cs))
      (bareSpelling (squeeze cs)) :=
  ofChars_of_known fun h => h.elim hne hunresolved

/-- Only the squeezed spelling matters. -/
theorem ofChars_squeeze (cs : List Char) : ofChars (squeeze cs) = ofChars cs := by
  have hunknown : Unknown (squeeze cs) ↔ Unknown cs := by rw [Unknown, Unknown, squeeze_squeeze]
  by_cases h : Unknown cs
  · rw [ofChars_of_unknown h, ofChars_of_unknown (hunknown.2 h), squeeze_squeeze]
  · rw [ofChars_of_known h, ofChars_of_known (mt hunknown.1 h), squeeze_squeeze]

/-! ## §2 What is read -/

/-- What an outer form gives a type that is read: what it surrounds is read as the element. -/
inductive FormOf (text : String) (isConst : Bool) (bare : List Char) : CppType → Prop where
  | reference {inner : List Char} {e : CppType} (form : outerForm bare = .reference inner)
      (element : ofChars inner = .ok e) :
      FormOf text isConst bare ⟨text, .reference, some 8, isConst, some e⟩
  | pointer {inner : List Char} {e : CppType} (form : outerForm bare = .pointer inner)
      (element : ofChars inner = .ok e) :
      FormOf text isConst bare ⟨text, .pointer, some 8, isConst, some e⟩
  | array {inner extent : List Char} {e : CppType} {size : Option Int}
      (form : outerForm bare = .array inner extent) (element : ofChars inner = .ok e)
      (extents : arraySize e extent = .ok size) :
      FormOf text isConst bare ⟨text, .array, size, isConst, some e⟩
  | plain (form : outerForm bare = .plain) :
      FormOf text isConst bare (plainType text isConst bare)

theorem formOf_of_ofBare {text : String} {isConst : Bool} {bare : List Char} {t : CppType}
    (h : ofBare text isConst bare = .ok t) : FormOf text isConst bare t := by
  cases hform : outerForm bare with
  | reference inner =>
    rw [ofBare_of_reference hform] at h
    cases helement : ofChars inner <;> rw [helement] at h <;> cases h
    exact .reference hform helement
  | pointer inner =>
    rw [ofBare_of_pointer hform] at h
    cases helement : ofChars inner <;> rw [helement] at h <;> cases h
    exact .pointer hform helement
  | array inner extent =>
    rw [ofBare_of_array hform] at h
    cases helement : ofChars inner with
    | error f => rw [helement] at h; cases h
    | ok e =>
      rw [helement, Except.bind] at h
      cases hsize : arraySize e extent <;> rw [hsize] at h <;> cases h
      exact .array hform helement hsize
  | plain =>
    rw [ofBare_of_plain hform] at h
    cases h
    exact .plain hform

/-- A spelling that is read says nothing, or its outer form decides. -/
theorem unknown_or_formOf {cs : List Char} {t : CppType} (h : ofChars cs = .ok t) :
    Unknown cs ∧ t = { spelling := String.ofList (squeeze cs) } ∨
      ¬ Unknown cs ∧ FormOf (String.ofList (squeeze cs)) (hasConstMark (squeeze cs))
        (bareSpelling (squeeze cs)) t := by
  by_cases hunknown : Unknown cs
  · rw [ofChars_of_unknown hunknown] at h
    exact .inl ⟨hunknown, (Except.ok.inj h).symm⟩
  · rw [ofChars_of_known hunknown] at h
    exact .inr ⟨hunknown, formOf_of_ofBare h⟩

theorem plainType_parts (text : String) (isConst : Bool) (bare : List Char) :
    (plainType text isConst bare).spelling = text ∧ (plainType text isConst bare).isConst = isConst ∧
      (plainType text isConst bare).element = none := by
  unfold plainType
  split
  · exact ⟨rfl, rfl, rfl⟩
  · split <;> exact ⟨rfl, rfl, rfl⟩

namespace FormOf

variable {text : String} {isConst : Bool} {bare : List Char} {t : CppType}

theorem spelling_eq (h : FormOf text isConst bare t) : t.spelling = text := by
  cases h with
  | plain => exact (plainType_parts ..).1
  | _ => rfl

theorem isConst_eq (h : FormOf text isConst bare t) : t.isConst = isConst := by
  cases h with
  | plain => exact (plainType_parts ..).2.1
  | _ => rfl

/-- An element is read from what the outer form surrounds. -/
theorem exists_inner (h : FormOf text isConst bare t) {e : CppType} (he : t.element = some e) :
    ∃ inner, ofChars inner = .ok e ∧ (outerForm bare).inner? = some inner := by
  cases h with
  | reference form element => exact ⟨_, Option.some.inj he ▸ element, by rw [form]; rfl⟩
  | pointer form element => exact ⟨_, Option.some.inj he ▸ element, by rw [form]; rfl⟩
  | array form element => exact ⟨_, Option.some.inj he ▸ element, by rw [form]; rfl⟩
  | plain =>
    rw [(plainType_parts ..).2.2] at he
    cases he

end FormOf

/-- The spelling of a type is the squeezed text. -/
theorem spelling_of_ofChars {cs : List Char} {t : CppType} (h : ofChars cs = .ok t) :
    t.spelling = String.ofList (squeeze cs) := by
  obtain ⟨-, rfl⟩ | ⟨-, hform⟩ := unknown_or_formOf h
  · rfl
  · exact hform.spelling_eq

/-- The element of a type is read from what the outer form of its bare spelling surrounds. -/
theorem exists_inner_of_ofChars {cs : List Char} {t e : CppType} (h : ofChars cs = .ok t)
    (he : t.element = some e) :
    ∃ inner, ofChars inner = .ok e ∧ (outerForm (bareSpelling (squeeze cs))).inner? = some inner := by
  obtain ⟨-, rfl⟩ | ⟨-, hform⟩ := unknown_or_formOf h
  · cases he
  · exact hform.exists_inner he

/-- What an outer form in a spelling surrounds is shorter than the spelling. -/
theorem length_inner_lt_spelling {spelling inner : List Char}
    (h : (outerForm (bareSpelling (squeeze spelling))).inner? = some inner) :
    inner.length < spelling.length := by
  have hinner := length_inner_lt h
  have hbare := length_bareSpelling_le (squeeze spelling)
  have hsqueeze := length_squeeze_le spelling
  omega

/-- What holds of a type that is read if it holds of its element, holds of all types that are read. -/
theorem ofChars_induction {motive : ∀ cs t, ofChars cs = .ok t → Prop}
    (step : ∀ cs t h,
      (∀ inner e, (outerForm (bareSpelling (squeeze cs))).inner? = some inner →
        ∀ he : ofChars inner = .ok e, motive inner e he) → motive cs t h)
    {cs : List Char} {t : CppType} (h : ofChars cs = .ok t) : motive cs t h := by
  induction hlength : cs.length using Nat.strongRecOn generalizing cs t with
  | ind n ih =>
    exact step cs t h fun inner e hinner he =>
      ih inner.length (hlength ▸ length_inner_lt_spelling hinner) he rfl

/-! ## §3 Levels -/

mutual

/-- The type, what it points to, refers to or repeats, and so on to the innermost type. -/
def chain : CppType → List CppType
  | ⟨spelling, category, size, isConst, element⟩ =>
    ⟨spelling, category, size, isConst, element⟩ :: elementChain element

/-- The chain of the element, if there is one. -/
def elementChain : Option CppType → List CppType
  | none => []
  | some t => chain t

end

theorem chain_eq (t : CppType) : t.chain = t :: elementChain t.element := by
  cases t
  rw [chain]

theorem chain_of_none {t : CppType} (h : t.element = none) : t.chain = [t] := by
  rw [chain_eq, h, elementChain]

theorem chain_of_some {t e : CppType} (h : t.element = some e) : t.chain = t :: e.chain := by
  rw [chain_eq, h, elementChain]

/-- Each level of a type is read from a spelling that is shorter than that of the level above. -/
theorem length_chain_le {spelling : List Char} {t : CppType} (h : ofChars spelling = .ok t) :
    t.chain.length ≤ spelling.length + 1 := by
  induction h using ofChars_induction with
  | step cs t h ih =>
    cases helement : t.element with
    | none => simp [chain_of_none helement]
    | some e =>
      obtain ⟨inner, he, hinner⟩ := exists_inner_of_ofChars h helement
      have hlt := length_inner_lt_spelling hinner
      have hchain := ih inner e hinner he
      rw [chain_of_some helement, List.length_cons]
      omega

/-! ## §4 Extents -/

/-- The digits between the brackets that the reader comes upon, from the outermost level inwards. -/
def extents (spelling : List Char) : List (List Char) :=
  let text := squeeze spelling
  if text.isEmpty || text == "<unresolved>".toList then []
  else
    match _h : outerForm (bareSpelling text) with
    | .reference inner => extents inner
    | .pointer inner => extents inner
    | .array inner extent => extent :: extents inner
    | .plain => []
termination_by spelling.length
decreasing_by
  all_goals exact length_inner_lt_spelling (by rw [_h]; rfl)

/-- No extent in a spelling has too many digits. -/
def ExtentsFit (spelling : List Char) : Prop := ∀ ds ∈ extents spelling, ds.length ≤ digitLimit

instance (spelling : List Char) : Decidable (ExtentsFit spelling) :=
  inferInstanceAs (Decidable (∀ _ ∈ _, _))

/-- The extents of a spelling, with its outermost step taken. -/
theorem extents_of_known {cs : List Char} (h : ¬ Unknown cs) :
    extents cs =
      match outerForm (bareSpelling (squeeze cs)) with
      | .reference inner => extents inner
      | .pointer inner => extents inner
      | .array inner extent => extent :: extents inner
      | .plain => [] := by
  rw [extents, if_neg (mt unknown_iff.1 h)]
  split <;> rename_i h <;> rw [h]

theorem arraySize_of_fits {extent : List Char} (h : extent.length ≤ digitLimit) (element : CppType) :
    arraySize element extent =
      .ok (if extent.isEmpty then none else element.size.map (· * (decimalNat extent : Int))) := by
  rw [arraySize, decimal?_eq_some h]
  split <;> rfl

theorem arraySize_of_long {extent : List Char} (h : ¬ extent.length ≤ digitLimit) (element : CppType) :
    arraySize element extent = .error .badValue := by
  have hne : ¬ extent.isEmpty = true := fun hempty => by
    rw [List.isEmpty_iff.1 hempty] at h
    exact h (Nat.zero_le _)
  rw [arraySize, if_neg hne, decimal?_eq_none h]

/-- A spelling is read if its extents fit, and else there is one way to fail. -/
theorem ofChars_cases (cs : List Char) :
    (ExtentsFit cs ∧ ∃ t, ofChars cs = .ok t) ∨ (¬ ExtentsFit cs ∧ ofChars cs = .error .badValue) := by
  induction hlength : cs.length using Nat.strongRecOn generalizing cs with
  | ind n ih =>
    by_cases hunknown : Unknown cs
    · refine .inl ⟨?_, _, ofChars_of_unknown hunknown⟩
      rw [ExtentsFit, extents, if_pos (unknown_iff.2 hunknown)]
      exact List.forall_mem_nil _
    · rw [ExtentsFit, extents_of_known hunknown, ofChars_of_known hunknown]
      have hinner : ∀ inner, (outerForm (bareSpelling (squeeze cs))).inner? = some inner → _ :=
        fun inner h => ih inner.length (hlength ▸ length_inner_lt_spelling h) inner rfl
      cases hform : outerForm (bareSpelling (squeeze cs)) with
      | reference inner =>
        rw [ofBare_of_reference hform]
        obtain ⟨hfit, e, he⟩ | ⟨hlong, he⟩ := hinner inner (by rw [hform]; rfl)
        · exact .inl ⟨hfit, _, by rw [he]; rfl⟩
        · exact .inr ⟨hlong, by rw [he]; rfl⟩
      | pointer inner =>
        rw [ofBare_of_pointer hform]
        obtain ⟨hfit, e, he⟩ | ⟨hlong, he⟩ := hinner inner (by rw [hform]; rfl)
        · exact .inl ⟨hfit, _, by rw [he]; rfl⟩
        · exact .inr ⟨hlong, by rw [he]; rfl⟩
      | array inner extent =>
        rw [ofBare_of_array hform, List.forall_mem_cons]
        obtain ⟨hfit, e, he⟩ | ⟨hlong, he⟩ := hinner inner (by rw [hform]; rfl)
        · rw [he, Except.bind]
          by_cases hextent : extent.length ≤ digitLimit
          · exact .inl ⟨⟨hextent, hfit⟩, _, by rw [arraySize_of_fits hextent]; rfl⟩
          · exact .inr ⟨fun h => hextent h.1, by rw [arraySize_of_long hextent]; rfl⟩
        · exact .inr ⟨fun h => hlong h.2, by rw [he]; rfl⟩
      | plain =>
        exact .inl ⟨List.forall_mem_nil _, _, ofBare_of_plain hform⟩

theorem ExtentsFit.exists_ofChars {cs : List Char} (h : ExtentsFit cs) : ∃ t, ofChars cs = .ok t := by
  obtain ⟨-, ht⟩ | ⟨hlong, -⟩ := ofChars_cases cs
  · exact ht
  · exact absurd h hlong

theorem ofChars_of_not_fits {cs : List Char} (h : ¬ ExtentsFit cs) : ofChars cs = .error .badValue := by
  obtain ⟨hfit, -⟩ | ⟨-, herror⟩ := ofChars_cases cs
  · exact absurd hfit h
  · exact herror

theorem ofValue_str (s : String) : ofValue (.str s) = (ofSpelling s).map some := by
  rw [ofValue]

/-- A text is read as a type exactly if its characters are. -/
theorem ofValue_str_eq_ok {text : String} {t : CppType} :
    ofValue (.str text) = .ok (some t) ↔ ofChars text.toList = .ok t := by
  rw [ofValue_str, ofSpelling]
  cases ofChars text.toList <;> simp [Except.map]

theorem ofValue_str_of_not_fits {text : String} (h : ¬ ExtentsFit text.toList) :
    ofValue (.str text) = .error .badValue := by
  rw [ofValue_str, ofSpelling, ofChars_of_not_fits h]
  rfl

theorem ofValue_str_of_fits {text : String} (h : ExtentsFit text.toList) :
    ∃ t, ofValue (.str text) = .ok (some t) ∧ ofChars text.toList = .ok t := by
  obtain ⟨t, ht⟩ := h.exists_ofChars
  exact ⟨t, ofValue_str_eq_ok.2 ht, ht⟩

end CppType

end CppIdioms
