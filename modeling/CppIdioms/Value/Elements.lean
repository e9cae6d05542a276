import CppIdioms.Value.Compare

/-!
# Elements

What a value holds when it is gone through one by one.

## Contents

* `Value.elements`: the elements of a value.
* `Value.texts`: the texts among the elements of a value that is used as a set.
-/

namespace CppIdioms

/-- The elements of a value: the items of a list or set, the characters of a text, the keys of a
mapping. Nothing else has elements. -/
def Value.elements : Value → Except Fault (List Value)
  | .list items => .ok items
  | .set items => .ok items
  | .str s => .ok (s.toList.map fun c => .str (String.singleton c))
  | .map entries => .ok (entries.map (·.1))
  | _ => .error .wrongType

/-- The texts among the elements of a value that is used as a set: a set holds no lists and no
mappings. -/
def Value.texts (v : Value) : Except Fault (List String) :=
  match v.elements with
  | .error f => .error f
  | .ok items =>
    if items.all (·.isHashable) then
      .ok (items.filterMap fun
        | .str s => some s
        | _ => none)
    else .error .wrongType

end CppIdioms
