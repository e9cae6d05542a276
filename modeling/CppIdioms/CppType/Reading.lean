import CppIdioms.CppType.Spelling
import CppIdioms.Value.Compare
import CppIdioms.Value.Text

/-!
# Types from values

A type attribute is a mapping of its parts, or a text that spells it. Any other value is no type.

## Contents

* `mappedSize`: the size that a mapping gives or implies.
* `CppType.ofValue`: the type that a value denotes.
-/

namespace CppIdioms

/-- The size that a mapping gives; for a fundamental type of known spelling it may be left out. -/
def mappedSize (size : Value) (category : Category) (spelling : String) :
    Except Fault (Option Int) :=
  match size with
  | .null =>
    if category = .builtin then .ok ((builtin? spelling).map (·.size)) else .ok none
  | v => v.toInt.map some

/-- The type that a value denotes, if it denotes one (`TypeRef.from_value`). An unreadable size is a
fault, found before the element is read. -/
def CppType.ofValue : Value → Except Fault (Option CppType)
  | .str spelling => (CppType.ofSpelling spelling).map some
  | .map fields =>
    let category := Category.ofName ((Entries.get? "category" fields).getD (.str "unresolved")).text
    let spelling := ((Entries.get? "spelling" fields).getD (.str "")).text
    match mappedSize (Entries.find fields "size") category spelling with
    | .error e => .error e
    | .ok size =>
      let isConst := (Entries.find fields "is_const").isTrue
      match _h : Entries.get? "element" fields with
      | none => .ok (some ⟨spelling, category, size, isConst, none⟩)
      | some v =>
        match ofValue v with
        | .error e => .error e
        | .ok element => .ok (some ⟨spelling, category, size, isConst, element⟩)
  | _ => .ok none
termination_by v => v.weight
decreasing_by exact Entries.weight_get?_lt _h

end CppIdioms
