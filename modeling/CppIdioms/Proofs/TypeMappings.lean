import CppIdioms.Proofs.TypeReading
import Mathlib.Data.Option.Basic

/-!
# Types written as mappings

A type written as a mapping leaves out what it does not have, and reading fills in what is left out: a
fundamental type of known spelling gets its size. So a written type is read back with its sizes filled
in, at every level of its elements, and as it was exactly if there is nothing to fill in. Every type
that is read from a value is of this sort, be it from a spelling or from a mapping.

## Contents

* `CppType.impliedSize`: the size that a type has once it is read back.
* `CppType.filled`: the type with the implied sizes at every level.

## Main statements

* `CppType.ofValue_toValue`: a written type is read back with its sizes filled in.
* `CppType.reads_back_iff`: exactly the types with nothing to fill in are read back as they were.
* `CppType.filled_of_ofChars`, `CppType.filled_of_ofValue`: in what is read nothing is left to fill in.
* `CppType.obtained_type_reads_back`: what is read is read back.
-/

namespace CppIdioms

namespace CppType

/-! ## §1 Filling in -/

/-- The size of the type, or the one that its spelling gives to a fundamental type. -/
def impliedSize (t : CppType) : Option Int :=
  t.size.or (if t.category = .builtin then (builtin? t.spelling).map (·.size) else none)

mutual

/-- The type with the implied sizes at every level. -/
def filled : CppType → CppType
  | ⟨spelling, category, size, isConst, element⟩ =>
    ⟨spelling, category, impliedSize ⟨spelling, category, size, isConst, element⟩, isConst,
      filledElement element⟩

/-- The element, if there is one, with the implied sizes at every level. -/
def filledElement : Option CppType → Option CppType
  | none => none
  | some t => some (filled t)

end

theorem filled_eq (t : CppType) :
    t.filled = { t with size := t.impliedSize, element := t.element.map filled } := by
  obtain ⟨spelling, category, size, isConst, element⟩ := t
  cases element <;> simp [filled, filledElement]

theorem impliedSize_of_size {t : CppType} {n : Int} (h : t.size = some n) :
    t.impliedSize = t.size := by
  rw [impliedSize, h, Option.some_or]

theorem impliedSize_of_category {t : CppType} (h : t.category ≠ .builtin) :
    t.impliedSize = t.size := by
  rw [impliedSize, if_neg h, Option.or_none]

/-- Nothing is left to fill in if nothing is at this level and nothing in the element. -/
theorem filled_eq_self {t : CppType} (hsize : t.impliedSize = t.size)
    (helement : ∀ e, t.element = some e → e.filled = e) : t.filled = t := by
  have hmap : t.element.map filled = t.element := by
    cases h : t.element with
    | none => rfl
    | some e => rw [Option.map_some, helement e h]
  rw [filled_eq, hsize, hmap]
  cases t
  rfl

/-! ## §2 Reading a written type -/

/-- What is found in a written type is what the type has. -/
theorem exists_fields (t : CppType) : ∃ fields : Entries, t.toValue = .map fields ∧
    Entries.get? "spelling" fields = some (.str t.spelling) ∧
    Entries.get? "category" fields = some (.str t.category.name) ∧
    fields.find "size" = (t.size.map Value.int).getD .null ∧
    (fields.find "is_const").isTrue = t.isConst ∧
    Entries.get? "element" fields = t.element.map toValue := by
  obtain ⟨spelling, category, size, isConst, element⟩ := t
  refine ⟨_, by rw [toValue], ?_, ?_, ?_, ?_, ?_⟩ <;>
    cases size <;> cases isConst <;> cases element <;>
      simp [Entries.find, Entries.get?, elementEntry, Value.isTrue]

/-- A size that was left out is the one that is filled in. -/
theorem mappedSize_eq (t : CppType) :
    mappedSize ((t.size.map Value.int).getD .null) t.category t.spelling = .ok t.impliedSize := by
  cases hsize : t.size with
  | none =>
    simp only [impliedSize, hsize, Option.map_none, Option.getD_none, mappedSize, Option.none_or]
    split <;> rfl
  | some n =>
    simp only [impliedSize, hsize, Option.map_some, Option.getD_some, Option.some_or]
    rfl

/-- A written type is read back with its sizes filled in. -/
theorem ofValue_toValue (t : CppType) : ofValue t.toValue = .ok (some t.filled) := by
  obtain ⟨fields, hfields, hspelling, hcategory, hsize, hconst, helement⟩ := t.exists_fields
  have hname : Category.ofName (Value.str t.category.name).text = t.category :=
    Category.ofName_name t.category
  have htext : (Value.str t.spelling).text = t.spelling := rfl
  rw [hfields, ofValue, filled_eq]
  simp only [hspelling, hcategory, hsize, hconst, Option.getD_some, hname, htext, mappedSize_eq]
  split
  · next hnone =>
    rw [hnone] at helement
    rw [Option.map_eq_none_iff.1 helement.symm, Option.map_none]
  · next v hsome =>
    rw [hsome] at helement
    obtain ⟨e, he, rfl⟩ := Option.map_eq_some_iff.1 helement.symm
    rw [ofValue_toValue e, he, Option.map_some]
termination_by sizeOf t
decreasing_by
  cases t
  simp_all
  omega

/-- Exactly the types in which nothing is left to fill in are read back as they were. -/
theorem reads_back_iff {t : CppType} : ofValue t.toValue = .ok (some t) ↔ t.filled = t := by
  rw [ofValue_toValue, Except.ok.injEq, Option.some.injEq]

example : filled ⟨"int", .builtin, none, false, none⟩ = ⟨"int", .builtin, some 4, false, none⟩ := by
  rfl

/-! ## §3 What is read -/

theorem impliedSize_plainType (text : String) (isConst : Bool) (bare : List Char) :
    (plainType text isConst bare).impliedSize = (plainType text isConst bare).size := by
  unfold plainType
  split
  · exact impliedSize_of_size rfl
  · split
    · exact impliedSize_of_size rfl
    · exact impliedSize_of_category nofun

/-- The outermost size of a type that is read from its spelling is not filled in. -/
theorem impliedSize_of_ofChars {spelling : List Char} {t : CppType} (h : ofChars spelling = .ok t) :
    t.impliedSize = t.size := by
  obtain ⟨-, rfl⟩ | ⟨-, hform⟩ := unknown_or_formOf h
  · exact impliedSize_of_category nofun
  · cases hform with
    | reference => exact impliedSize_of_size rfl
    | pointer => exact impliedSize_of_size rfl
    | array => exact impliedSize_of_category nofun
    | plain => exact impliedSize_plainType ..

/-- In a type that is read from its spelling nothing is left to fill in. -/
theorem filled_of_ofChars {spelling : List Char} {t : CppType} (h : ofChars spelling = .ok t) :
    t.filled = t := by
  induction h using ofChars_induction with
  | step cs t h ih =>
    refine filled_eq_self (impliedSize_of_ofChars h) fun e helement => ?_
    obtain ⟨inner, he, hinner⟩ := exists_inner_of_ofChars h helement
    exact ih inner e hinner he

/-- The size that a mapping gives or implies is not filled in a second time. -/
theorem impliedSize_of_mappedSize {v : Value} {t : CppType}
    (h : mappedSize v t.category t.spelling = .ok t.size) : t.impliedSize = t.size := by
  unfold mappedSize at h
  split at h
  · split at h
    · next hbuiltin => rw [impliedSize, if_pos hbuiltin, Except.ok.inj h, Option.or_self]
    · next hother => exact impliedSize_of_category hother
  · cases hn : v.toInt with
    | error e =>
      rw [hn] at h
      cases h
    | ok n =>
      rw [hn] at h
      exact impliedSize_of_size (Except.ok.inj h).symm

/-- In a type that is read from a value nothing is left to fill in. -/
theorem filled_of_ofValue {v : Value} {t : CppType} (h : ofValue v = .ok (some t)) :
    t.filled = t := by
  fun_induction ofValue v generalizing t with
  | case1 spelling =>
    cases hchars : ofSpelling spelling <;> rw [hchars] at h <;> cases h
    exact filled_of_ofChars hchars
  | case2 => cases h
  | case3 fields category spelling size hsize isConst =>
    obtain rfl := Option.some.inj (Except.ok.inj h)
    exact filled_eq_self (impliedSize_of_mappedSize hsize) nofun
  | case4 => cases h
  | case5 fields category spelling size hsize isConst inner hget element hinner =>
    rename_i ih
    obtain rfl := Option.some.inj (Except.ok.inj h)
    refine filled_eq_self (impliedSize_of_mappedSize hsize) fun e he => ih ?_
    rw [hinner]
    exact congrArg Except.ok he
  | case6 => cases h

/-- A mapping whose size and element can be read is read part by part. -/
theorem ofValue_of_element {fields : Entries} {size : Option Int} {v : Value}
    {element : Option CppType}
    (hsize : mappedSize (fields.find "size")
      (Category.ofName ((Entries.get? "category" fields).getD (.str "unresolved")).text)
      ((Entries.get? "spelling" fields).getD (.str "")).text = .ok size)
    (hget : Entries.get? "element" fields = some v) (helement : ofValue v = .ok element) :
    ofValue (.map fields) = .ok (some
      ⟨((Entries.get? "spelling" fields).getD (.str "")).text,
        Category.ofName ((Entries.get? "category" fields).getD (.str "unresolved")).text, size,
        (fields.find "is_const").isTrue, element⟩) := by
  rw [ofValue, hsize]
  dsimp only
  split
  · next hnone => cases hget.symm.trans hnone
  · next w hsome =>
    cases hget.symm.trans hsome
    rw [helement]

/-- A type that is read from a value, from its spelling or from a mapping of any depth, is read back
from the mapping that it is written as: with its spelling, its category, its size, its const mark and
all levels of its element. -/
theorem obtained_type_reads_back (v : Value) (t : CppType) (h : ofValue v = .ok (some t)) :
    ofValue t.toValue = .ok (some t) :=
  reads_back_iff.2 (filled_of_ofValue h)

/-- A pointer with its size as a text, to a constant integer whose size is left out. -/
theorem pointer_mapping_reads_back :
    let pointee : Value := .map [(.str "category", .str "builtin"), (.str "spelling", .str "int"),
      (.str "is_const", .int 1)]
    let v : Value := .map [(.str "spelling", .str "const int *"), (.str "category", .str "pointer"),
      (.str "size", .str " 8 "), (.str "element", pointee)]
    let t : CppType :=
      ⟨"const int *", .pointer, some 8, false, some ⟨"int", .builtin, some 4, true, none⟩⟩
    ofValue v = .ok (some t) ∧ ofValue t.toValue = .ok (some t) := by
  intro pointee v t
  have hpointee : ofValue pointee = .ok (some ⟨"int", .builtin, some 4, true, none⟩) := by
    rw [ofValue]
    rfl
  have h : ofValue v = .ok (some t) := ofValue_of_element rfl rfl hpointee
  exact ⟨h, obtained_type_reads_back v t h⟩

end CppType

end CppIdioms
