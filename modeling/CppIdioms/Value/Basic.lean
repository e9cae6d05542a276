import CppIdioms.Number.Binary64

/-!
# Values

The values that a dump or a settings file is made of: the usual scalars, calendar dates, lists,
mappings that remember the order of their entries, and sets. Attribute values of nodes are values
too, because a rule may meet anything there.

A document can also hold what no value here stands for: runs of bytes (the tag `!!binary`) and pairs
(the tags `!!omap` and `!!pairs`). Such documents are left out, and so are collections that hold
themselves.

## Contents

* `Date`, `daysIn`, `ClockTime`: calendar dates and times of day.
* `Value`, `Entries`: values and the ordered entries of a mapping.
* `Value.typeName`: the name of a value's type, as messages give it.
* `Entries.get?`, `Entries.find`: what is stored under a text.
* `Value.weight`: the measure that a look-up decreases.

## Main statements

* `Entries.weight_get?_lt`: what is stored in a mapping weighs less than the mapping.
-/

namespace CppIdioms

open CppIdioms.Number

/-- A day of the calendar. -/
structure Date where
  year : Nat
  month : Nat
  day : Nat
  deriving DecidableEq, Repr, Inhabited

/-- The year has a leap day. -/
def isLeap (year : Nat) : Bool := (year % 4 = 0 && year % 100 ≠ 0) || year % 400 = 0

/-- The number of days of a month. -/
def daysIn (year month : Nat) : Nat :=
  if month = 2 then (if isLeap year then 29 else 28)
  else if [4, 6, 9, 11].contains month then 30
  else 31

/-- A time of day with microseconds and, if known, its offset from universal time in minutes. -/
structure ClockTime where
  hour : Nat
  minute : Nat
  second : Nat
  micro : Nat
  offset : Option Int
  deriving DecidableEq, Repr, Inhabited

/-- A value of a dump or a settings file. -/
inductive Value where
  | null
  | bool (b : Bool)
  | int (n : Int)
  | float (x : Binary64)
  | str (s : String)
  | date (day : Date) (time : Option ClockTime)
  | list (items : List Value)
  | map (entries : List (Value × Value))
  | set (items : List Value)
  deriving Inhabited

/-- The entries of a mapping, in the order in which they were written. -/
abbrev Entries := List (Value × Value)

/-- The name of a value's type. -/
def Value.typeName : Value → String
  | .null => "NoneType"
  | .bool _ => "bool"
  | .int _ => "int"
  | .float _ => "float"
  | .str _ => "str"
  | .date _ none => "date"
  | .date _ (some _) => "datetime"
  | .list _ => "list"
  | .map _ => "dict"
  | .set _ => "set"

/-- Lists, mappings and sets cannot be looked up in a mapping or a set. -/
def Value.isHashable : Value → Bool
  | .list _ => false
  | .map _ => false
  | .set _ => false
  | _ => true

/-! ## §1 Entries -/

namespace Entries

/-- What is stored under a text. -/
def get? (key : String) : Entries → Option Value
  | [] => none
  | (.str k, v) :: rest => if k == key then some v else get? key rest
  | _ :: rest => get? key rest

/-- What is stored under a text, or `null`. -/
def find (entries : Entries) (key : String) : Value := (get? key entries).getD .null

/-- A mapping that is found is stored. -/
theorem get?_of_find {entries inner : Entries} {key : String}
    (h : entries.find key = .map inner) : get? key entries = some (.map inner) := by
  unfold find at h
  cases hget : get? key entries with
  | none => rw [hget] at h; cases h
  | some v => rw [hget] at h; exact congrArg some h

/-- Something is stored under a text. -/
def hasKey (entries : Entries) (key : String) : Bool := (get? key entries).isSome

/-- The entries with `value` under `key` at their end, unless something is stored there already. -/
def putNew (entries : Entries) (key : String) (value : Value) : Entries :=
  if entries.hasKey key then entries else entries ++ [(.str key, value)]

end Entries

/-! ## §2 Weight -/

mutual

/-- The number of values that a value is made of, itself included. -/
def Value.weight : Value → Nat
  | .list items => Value.weightAll items + 1
  | .map entries => Entries.weight entries + 1
  | .set items => Value.weightAll items + 1
  | _ => 1

/-- The weight of the values of a list. -/
def Value.weightAll : List Value → Nat
  | [] => 0
  | v :: vs => Value.weight v + Value.weightAll vs

/-- The weight of keys and values. -/
def Entries.weight : List (Value × Value) → Nat
  | [] => 0
  | e :: es => Entries.weightOne e + Entries.weight es

/-- The weight of a key and its value. -/
def Entries.weightOne : Value × Value → Nat
  | (k, v) => Value.weight k + Value.weight v

end

theorem Value.weight_pos (v : Value) : 0 < v.weight := by
  cases v <;> simp [Value.weight]

theorem Entries.weight_cons (k v : Value) (es : Entries) :
    Entries.weight ((k, v) :: es) = k.weight + v.weight + Entries.weight es := by
  simp [Entries.weight, Entries.weightOne]

/-- What is stored in a mapping weighs less than the mapping. -/
theorem Entries.weight_get?_lt {key : String} {entries : Entries} {v : Value}
    (h : Entries.get? key entries = some v) : v.weight < (Value.map entries).weight := by
  suffices v.weight ≤ Entries.weight entries by simp only [Value.weight]; omega
  induction entries with
  | nil => simp [Entries.get?] at h
  | cons e es ih =>
    obtain ⟨k, w⟩ := e
    rw [Entries.weight_cons]
    unfold Entries.get? at h
    split at h
    · contradiction
    · rename_i k' v' rest heq
      simp only [List.cons.injEq, Prod.mk.injEq] at heq
      obtain ⟨⟨rfl, rfl⟩, rfl⟩ := heq
      split at h
      · simp only [Option.some.injEq] at h
        subst h
        omega
      · have := ih h
        omega
    · rename_i e' rest _ heq
      simp only [List.cons.injEq] at heq
      obtain ⟨_, rfl⟩ := heq
      have := ih h
      omega

end CppIdioms
