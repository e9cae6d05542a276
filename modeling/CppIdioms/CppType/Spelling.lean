import CppIdioms.CppType.Basic
import CppIdioms.Fault
import CppIdioms.Text.Numeral

/-!
# Types from their spelling

A dump may give a simple type by its spelling alone. The outermost part of the spelling decides:
references, then pointers, then arrays; what is left is a fundamental type, an enumeration or a
class. The one thing that cannot be read is an extent with too many digits.

## Contents

* `OuterForm`, `outerForm`: the outermost part of a spelling without const marks.
* `CppType.ofSpelling`: the type a spelling denotes.

## Main statements

* `length_inner_lt`: what an outer form surrounds is shorter than the whole, so reading ends.
-/

namespace CppIdioms

open CppIdioms.Text

/-! ## §1 Outer forms -/

/-- The outermost part of a spelling and what it surrounds. -/
inductive OuterForm where
  | reference (inner : List Char)
  | pointer (inner : List Char)
  | array (inner extent : List Char)
  | plain
  deriving DecidableEq, Repr

/-- What an outer form surrounds. -/
def OuterForm.inner? : OuterForm → Option (List Char)
  | .reference inner => some inner
  | .pointer inner => some inner
  | .array inner _ => some inner
  | .plain => none

/-- The outer form of a spelling given last character first. All reference marks at the end are
taken together, and the last pair of brackets is an extent if it holds digits only. -/
def outerFormRev : List Char → OuterForm
  | '&' :: rest => .reference (trim (rest.dropWhile (· == '&')).reverse)
  | '*' :: rest => .pointer (trim rest.reverse)
  | ']' :: rest =>
    match rest.dropWhile isDigit with
    | '[' :: before =>
      let inner := (before.dropWhile isBlank).reverse
      if inner.isEmpty then .plain else .array inner (rest.takeWhile isDigit).reverse
    | _ => .plain
  | _ => .plain

/-- The outer form of a spelling. -/
def outerForm (cs : List Char) : OuterForm := outerFormRev cs.reverse

theorem length_innerRev_lt {cs inner : List Char} (h : (outerFormRev cs).inner? = some inner) :
    inner.length < cs.length := by
  unfold outerFormRev at h
  split at h
  · rename_i rest
    simp only [OuterForm.inner?, Option.some.injEq] at h
    subst h
    have h₁ := length_trim_le (rest.dropWhile (· == '&')).reverse
    have h₂ := (List.dropWhile_suffix (l := rest) (· == '&')).length_le
    simp only [List.length_reverse] at h₁
    simp only [List.length_cons]
    omega
  · rename_i rest
    simp only [OuterForm.inner?, Option.some.injEq] at h
    subst h
    have h₁ := length_trim_le rest.reverse
    simp only [List.length_reverse] at h₁
    simp only [List.length_cons]
    omega
  · rename_i rest
    split at h
    · rename_i before hb
      have h₁ := (List.dropWhile_suffix (l := rest) isDigit).length_le
      rw [hb] at h₁
      have h₂ := (List.dropWhile_suffix (l := before) isBlank).length_le
      dsimp only at h
      split at h
      · simp [OuterForm.inner?] at h
      · simp only [OuterForm.inner?, Option.some.injEq] at h
        subst h
        simp only [List.length_cons, List.length_reverse] at *
        omega
    · simp [OuterForm.inner?] at h
  · simp [OuterForm.inner?] at h

/-- What an outer form surrounds is shorter than the whole. -/
theorem length_inner_lt {cs inner : List Char} (h : (outerForm cs).inner? = some inner) :
    inner.length < cs.length := by
  simpa using length_innerRev_lt h

/-! ## §2 Spellings -/

/-- A spelling marked const at its start or end. -/
def hasConstMark (cs : List Char) : Bool :=
  "const ".toList.isPrefixOf cs || " const".toList.isSuffixOf cs

/-- A squeezed spelling without its const marks, trimmed. -/
def bareSpelling (text : List Char) : List Char :=
  trim (erase " const".toList (erase "const ".toList text))

theorem length_bareSpelling_le (text : List Char) : (bareSpelling text).length ≤ text.length :=
  Nat.le_trans (length_trim_le _) <|
    Nat.le_trans (length_erase_le _ _) (length_erase_le _ _)

/-- The type of a spelling that no outer form surrounds. -/
def plainType (text : String) (isConst : Bool) (bare : List Char) : CppType :=
  match builtin? (String.ofList bare) with
  | some b => ⟨text, .builtin, some b.size, isConst, none⟩
  | none =>
    if "enum ".toList.isPrefixOf bare then ⟨text, .enumeration, some 4, isConst, none⟩
    else ⟨text, .record, none, isConst, none⟩

/-- The size of an array, when the size of its elements and its extent are known. An extent with too
many digits cannot be read. -/
def arraySize (element : CppType) (extent : List Char) : Except Fault (Option Int) :=
  if extent.isEmpty then .ok none
  else
    match decimal? extent with
    | some n => .ok (element.size.map (· * (n : Int)))
    | none => .error .badValue

/-- The type that a spelling denotes (`TypeRef._from_spelling`). References and pointers have eight
bytes, enumerations four; an empty spelling and `<unresolved>` denote no known type. -/
def CppType.ofChars (spelling : List Char) : Except Fault CppType :=
  let text := squeeze spelling
  if text.isEmpty || text == "<unresolved>".toList then .ok { spelling := String.ofList text }
  else
    let isConst := hasConstMark text
    match _h : outerForm (bareSpelling text) with
    | .reference inner =>
      (ofChars inner).map fun element =>
        ⟨String.ofList text, .reference, some 8, isConst, some element⟩
    | .pointer inner =>
      (ofChars inner).map fun element =>
        ⟨String.ofList text, .pointer, some 8, isConst, some element⟩
    | .array inner extent =>
      (ofChars inner).bind fun element =>
        (arraySize element extent).map fun size =>
          ⟨String.ofList text, .array, size, isConst, some element⟩
    | .plain => .ok (plainType (String.ofList text) isConst (bareSpelling text))
termination_by spelling.length
decreasing_by
  all_goals
    have h₁ := length_squeeze_le spelling
    have h₂ := length_bareSpelling_le (squeeze spelling)
    have h₃ := @length_inner_lt (bareSpelling (squeeze spelling)) inner (by rw [_h]; rfl)
    omega

/-- The type that a spelling denotes, from a string. -/
def CppType.ofSpelling (spelling : String) : Except Fault CppType := CppType.ofChars spelling.toList

end CppIdioms
