import CppIdioms.Text.Blank
import CppIdioms.Text.Erase
import CppIdioms.Value.Basic

/-!
# Types

A type as the dump gives it: the spelling of the source, a category and, where known, a size, the
const mark and the type pointed to, referred to or repeated.

## Contents

* `Category`: the categories of types and their names.
* `Builtin`, `builtins`, `builtin?`: the fundamental types.
* `CppType`: types; `base`, `isClass`, `isIntegral`, `isSignedIntegral`: what rules ask of them.
* `CppType.referent`: what a reference stands for.
* `CppType.toValue`: a type as a mapping.
-/

namespace CppIdioms

open CppIdioms.Text

/-! ## §1 Categories -/

/-- The category of a type (`CATEGORIES`). -/
inductive Category where
  | builtin
  | record
  | enumeration
  | pointer
  | reference
  | array
  | unresolved
  deriving DecidableEq, Repr, Inhabited

/-- The name of a category. -/
def Category.name : Category → String
  | .builtin => "builtin"
  | .record => "class"
  | .enumeration => "enum"
  | .pointer => "pointer"
  | .reference => "reference"
  | .array => "array"
  | .unresolved => "unresolved"

/-- Every category. -/
def Category.all : List Category :=
  [.builtin, .record, .enumeration, .pointer, .reference, .array, .unresolved]

/-- The category of a given name; a name that no category has belongs to `unresolved`. -/
def Category.ofName (name : String) : Category :=
  (Category.all.find? (·.name == name)).getD .unresolved

/-- A category is recovered from its name. -/
theorem Category.ofName_name (c : Category) : Category.ofName c.name = c := by
  cases c <;> decide

/-! ## §2 Fundamental types -/

/-- A fundamental type: its size in bytes, and whether it is integral and signed. -/
structure Builtin where
  size : Int
  integral : Bool
  signed : Bool
  deriving DecidableEq, Repr

/-- The fundamental types by spelling (`BUILTIN_TYPES`). -/
def builtins : List (String × Builtin) := [
  ("bool", ⟨1, true, false⟩),
  ("char", ⟨1, true, true⟩),
  ("signed char", ⟨1, true, true⟩),
  ("unsigned char", ⟨1, true, false⟩),
  ("wchar_t", ⟨4, true, true⟩),
  ("char8_t", ⟨1, true, false⟩),
  ("char16_t", ⟨2, true, false⟩),
  ("char32_t", ⟨4, true, false⟩),
  ("short", ⟨2, true, true⟩),
  ("unsigned short", ⟨2, true, false⟩),
  ("int", ⟨4, true, true⟩),
  ("unsigned", ⟨4, true, false⟩),
  ("unsigned int", ⟨4, true, false⟩),
  ("long", ⟨8, true, true⟩),
  ("unsigned long", ⟨8, true, false⟩),
  ("long long", ⟨8, true, true⟩),
  ("unsigned long long", ⟨8, true, false⟩),
  ("int8_t", ⟨1, true, true⟩),
  ("int16_t", ⟨2, true, true⟩),
  ("int32_t", ⟨4, true, true⟩),
  ("int64_t", ⟨8, true, true⟩),
  ("uint8_t", ⟨1, true, false⟩),
  ("uint16_t", ⟨2, true, false⟩),
  ("uint32_t", ⟨4, true, false⟩),
  ("uint64_t", ⟨8, true, false⟩),
  ("size_t", ⟨8, true, false⟩),
  ("ptrdiff_t", ⟨8, true, true⟩),
  ("ssize_t", ⟨8, true, true⟩),
  ("float", ⟨4, false, true⟩),
  ("double", ⟨8, false, true⟩),
  ("long double", ⟨16, false, true⟩),
  ("void", ⟨0, false, false⟩)]

/-- A spelling without the standard namespace in front of it. -/
def dropStd : List Char → List Char
  | 's' :: 't' :: 'd' :: ':' :: ':' :: rest => rest
  | cs => cs

/-- The fundamental type of a given spelling, in the standard namespace or outside it
(`_builtin_info`). -/
def builtin? (spelling : String) : Option Builtin :=
  builtins.lookup (String.ofList (dropStd spelling.toList))

/-! ## §3 Types -/

/-- A type as the dump gives it (`TypeRef`). -/
structure CppType where
  spelling : String
  category : Category := .unresolved
  size : Option Int := none
  isConst : Bool := false
  element : Option CppType := none
  deriving Inhabited

/-- A spelling without the const marks that a blank separates, squeezed. -/
def withoutConst (cs : List Char) : List Char :=
  squeeze (erase " const".toList (erase "const ".toList cs))

namespace CppType

/-- The type is known. -/
def resolved (t : CppType) : Bool := t.category != .unresolved

/-- The spelling without const marks (`base_spelling`). -/
def base (t : CppType) : String := String.ofList (withoutConst t.spelling.toList)

/-- Classes and structures (`is_class`). -/
def isClass (t : CppType) : Bool := t.category == .record

/-- Fundamental types that hold whole numbers (`is_integral`). -/
def isIntegral (t : CppType) : Bool :=
  t.category == .builtin && ((builtin? t.base).map (·.integral)).getD false

/-- Fundamental types that hold whole numbers with a sign (`is_signed_integral`). -/
def isSignedIntegral (t : CppType) : Bool :=
  t.isIntegral && ((builtin? t.base).map (·.signed)).getD false && t.base != "bool"

/-- A reference stands for what it refers to. -/
def referent (t : CppType) : CppType :=
  match t.category, t.element with
  | .reference, some e => e
  | _, _ => t

mutual

/-- A type as a mapping: what is unknown or unset is left out (`TypeRef.to_dict`). -/
def toValue : CppType → Value
  | ⟨spelling, category, size, isConst, element⟩ =>
    .map ([(.str "spelling", .str spelling), (.str "category", .str category.name)]
      ++ (size.map fun n => (Value.str "size", Value.int n)).toList
      ++ (if isConst then [(.str "is_const", .bool true)] else [])
      ++ elementEntry element)

/-- The entry of the element, if there is one. -/
def elementEntry : Option CppType → List (Value × Value)
  | none => []
  | some t => [(.str "element", toValue t)]

end

end CppType

end CppIdioms
