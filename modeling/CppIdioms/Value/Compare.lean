import CppIdioms.Fault
import CppIdioms.Text.Numeral
import CppIdioms.Value.Basic

/-!
# Truth, equality and order of values

Truth values count as zero and one, and numbers are compared by value whatever their form.

## Contents

* `Value.isTrue`: a value used as a condition.
* `Numeric`, `Value.numeric?`: a value as a number; equality and order of numbers.
* `Date.ordinal`, `instant`, `sameMoment`: days and times of day by the moments that they are.
* `Value.same`: equality of values that are neither lists nor mappings.
* `Value.toInt`: the whole number that a value denotes.
* `Entries.put`: storing under a key, by equality of keys.
-/

namespace CppIdioms

open CppIdioms.Number CppIdioms.Text

/-! ## §1 Truth -/

/-- Nothing, false, zero and everything empty are false; all else is true. -/
def Value.isTrue : Value → Bool
  | .null => false
  | .bool b => b
  | .int n => n != 0
  | .float x => !x.isZero
  | .str s => s != ""
  | .date _ _ => true
  | .list items => !items.isEmpty
  | .map entries => !entries.isEmpty
  | .set items => !items.isEmpty

/-- The first value if it is true, else the second. -/
def Value.orElse (v : Value) (other : Value) : Value := if v.isTrue then v else other

/-! ## §2 Numbers -/

/-- A number in one of its two forms. -/
inductive Numeric where
  | whole (n : Int)
  | binary (x : Binary64)

/-- Equality of numbers by value. -/
def Numeric.eq : Numeric → Numeric → Bool
  | .whole m, .whole n => m == n
  | .whole m, .binary y => y.eqInt m
  | .binary x, .whole n => x.eqInt n
  | .binary x, .binary y => x.eq y

/-- Equality of stored numbers: by value, and of what is no number there is only one. -/
def Numeric.same : Numeric → Numeric → Bool
  | .binary .nan, .binary .nan => true
  | x, y => x.eq y

/-- Order of numbers by value. -/
def Numeric.lt : Numeric → Numeric → Bool
  | .whole m, .whole n => m < n
  | .whole m, .binary y => Binary64.intLt m y
  | .binary x, .whole n => x.ltInt n
  | .binary x, .binary y => x.lt y

/-- The number that a value is, if it is one. -/
def Value.numeric? : Value → Option Numeric
  | .bool b => some (.whole (if b then 1 else 0))
  | .int n => some (.whole n)
  | .float x => some (.binary x)
  | _ => none

/-- Whether a whole number lies below a value; only numbers can be compared with it. -/
def Value.exceeds (v : Value) (n : Int) : Except Fault Bool :=
  match v.numeric? with
  | some x => .ok (Numeric.lt (.whole n) x)
  | none => .error .wrongType

/-- Whether a whole number lies above a value; only numbers can be compared with it. -/
def Value.isBelow (v : Value) (n : Int) : Except Fault Bool :=
  match v.numeric? with
  | some x => .ok (Numeric.lt x (.whole n))
  | none => .error .wrongType

/-! ## §3 Equality -/

/-- The number of a day, counted from the first one of the calendar. -/
def Date.ordinal (d : Date) : Nat :=
  let years := d.year - 1
  let leapDays := years / 4 - years / 100 + years / 400
  let monthsBefore := (List.range d.month).drop 1
  365 * years + leapDays + monthsBefore.foldl (fun days m => days + daysIn d.year m) 0 + d.day

/-- The millionths of a second up to a time of day, in universal time if its offset is known. -/
def instant (d : Date) (t : ClockTime) : Int :=
  let minutes : Int := (d.ordinal * 24 + t.hour) * 60 + t.minute - t.offset.getD 0
  (minutes * 60 + t.second) * 1000000 + t.micro

/-- Equality of dates and times: times of day with known offsets are equal when they are the same
moment, and a time of day with a known offset equals none without. -/
def sameMoment (d : Date) (t : Option ClockTime) (e : Date) (u : Option ClockTime) : Bool :=
  match t, u with
  | none, none => d == e
  | some t, some u => t.offset.isSome == u.offset.isSome && instant d t == instant e u
  | _, _ => false

/-- Equality of scalars that are stored, as members or as keys. -/
def Value.sameScalar (a b : Value) : Bool :=
  match a.numeric?, b.numeric? with
  | some x, some y => x.same y
  | none, none =>
    match a, b with
    | .null, .null => true
    | .str s, .str t => s == t
    | .date d t, .date e u => sameMoment d t e u
    | _, _ => false
  | _, _ => false

/-- The second list holds what the first one holds. -/
def holdsAll (xs ys : List Value) : Bool := xs.all fun x => ys.any x.sameScalar

/-- Equality of values that are neither lists nor mappings; sets are equal when each holds what the
other holds. -/
def Value.same : Value → Value → Bool
  | .set xs, .set ys => holdsAll xs ys && holdsAll ys xs
  | a, b => a.sameScalar b

/-- Equality with a text. -/
def Value.isText (v : Value) (s : String) : Bool :=
  match v with
  | .str t => t == s
  | _ => false

/-- The value occurs among the texts of a set; lists and mappings cannot be asked for. -/
def Value.isOneOf (v : Value) (texts : List String) : Except Fault Bool :=
  match v with
  | .str s => .ok (texts.contains s)
  | .list _ => .error .wrongType
  | .map _ => .error .wrongType
  | _ => .ok false

/-! ## §4 Whole numbers -/

/-- The whole number a value denotes: numbers are cut towards zero, texts are read. -/
def Value.toInt : Value → Except Fault Int
  | .bool b => .ok (if b then 1 else 0)
  | .int n => .ok n
  | .float .nan => .error .badValue
  | .float x =>
    match x.truncate? with
    | some n => .ok n
    | none => .error .overflow
  | .str s =>
    match readInt? .decimal s.toList with
    | some n => .ok n
    | none => .error .badValue
  | _ => .error .wrongType

/-! ## §5 Storing -/

/-- The entries with `value` under `key`: in place of what was stored under an equal key, else at
the end. -/
def Entries.put (entries : Entries) (key value : Value) : Entries :=
  match entries with
  | [] => [(key, value)]
  | (k, v) :: rest =>
    if k.sameScalar key then (k, value) :: rest else (k, v) :: Entries.put rest key value

end CppIdioms
