import CppIdioms.Number.Decimal
import CppIdioms.Text.Numeral
import CppIdioms.Text.Quoted
import CppIdioms.Value.Basic

/-!
# The text of a value

Messages quote attribute values, and a role or a spelling may be any value. A text stands for
itself; inside lists and mappings it is quoted.

Whole numbers are written up to `digitLimit` digits. Settings check this, with `Value.isWritable`;
names, spellings, roles and messages are written as if there were no limit.

## Contents

* `Value.numberStyle`: how numbers with a fraction are written.
* `Date.text`, `ClockTime.text`: dates and times of day.
* `Value.shown`: a value as it stands inside a list or mapping.
* `Value.text`: a value on its own.
* `Value.isWritable`: no number in a value has too many digits to be written.
-/

namespace CppIdioms

open CppIdioms.Number CppIdioms.Text

/-- Numbers are written out in full from a ten-thousandth to below `10 ^ 16`, an exponent has a
sign and at least two digits. -/
def Value.numberStyle : DecimalStyle := ⟨-4, 15, 2, "inf", "nan"⟩

/-- A number with leading zeros up to a width. -/
def padded (width n : Nat) : String :=
  let digits := Nat.toDigits 10 n
  String.ofList (List.replicate (width - digits.length) '0' ++ digits)

/-- Year, month and day. -/
def Date.text (d : Date) : String :=
  padded 4 d.year ++ "-" ++ padded 2 d.month ++ "-" ++ padded 2 d.day

/-- An offset from universal time, in hours and minutes. -/
def offsetText (minutes : Int) : String :=
  (if minutes < 0 then "-" else "+") ++ padded 2 (minutes.natAbs / 60) ++ ":"
    ++ padded 2 (minutes.natAbs % 60)

/-- Hour, minute and second, then the fraction and the offset where there is one. -/
def ClockTime.text (t : ClockTime) : String :=
  padded 2 t.hour ++ ":" ++ padded 2 t.minute ++ ":" ++ padded 2 t.second
    ++ (if t.micro = 0 then "" else "." ++ padded 6 t.micro)
    ++ (t.offset.map offsetText).getD ""

/-- A date with its time of day after a divider. -/
def dateText (divider : String) (d : Date) : Option ClockTime → String
  | none => d.text
  | some t => d.text ++ divider ++ t.text

/-- A date as it stands inside a list. -/
def dateShown (d : Date) : Option ClockTime → String
  | none => "datetime.date(" ++ ", ".intercalate ([d.year, d.month, d.day].map toString) ++ ")"
  | some t =>
    let fraction := if t.micro = 0 then [] else [t.micro]
    let clock := if t.second = 0 && t.micro = 0 then [] else t.second :: fraction
    let numbers := [d.year, d.month, d.day, t.hour, t.minute] ++ clock
    "datetime.datetime(" ++ ", ".intercalate (numbers.map toString) ++ ")"

mutual

/-- A value as it stands inside a list or mapping (`repr`): texts are quoted. -/
def Value.shown : Value → String
  | .null => "None"
  | .bool b => if b then "True" else "False"
  | .int n => toString n
  | .float x => Value.numberStyle.write x
  | .str s => quoted s
  | .date d t => dateShown d t
  | .list items => "[" ++ ", ".intercalate (Value.shownAll items) ++ "]"
  | .map entries => "\x7b" ++ ", ".intercalate (Value.shownEntries entries) ++ "\x7d"
  | .set items =>
    if items.isEmpty then "set()"
    else "\x7b" ++ ", ".intercalate (Value.shownAll items) ++ "\x7d"

/-- The values of a list, each as it stands inside it. -/
def Value.shownAll : List Value → List String
  | [] => []
  | v :: vs => Value.shown v :: Value.shownAll vs

/-- The entries of a mapping, each as it stands inside it. -/
def Value.shownEntries : List (Value × Value) → List String
  | [] => []
  | e :: es => Value.shownEntry e :: Value.shownEntries es

/-- A key and its value. -/
def Value.shownEntry : Value × Value → String
  | (k, v) => Value.shown k ++ ": " ++ Value.shown v

end

/-- A value on its own (`str`): a text stands for itself. -/
def Value.text : Value → String
  | .str s => s
  | .date d t => dateText " " d t
  | v => v.shown

/-! ## Limits -/

mutual

/-- No number in a value has too many digits to be written. -/
def Value.isWritable : Value → Bool
  | .int n => n.natAbs < 10 ^ digitLimit
  | .list items => Value.allWritable items
  | .map entries => Entries.allWritable entries
  | .set items => Value.allWritable items
  | _ => true

/-- All values of a list can be written. -/
def Value.allWritable : List Value → Bool
  | [] => true
  | v :: vs => Value.isWritable v && Value.allWritable vs

/-- All keys and values can be written. -/
def Entries.allWritable : List (Value × Value) → Bool
  | [] => true
  | e :: es => Entries.oneWritable e && Entries.allWritable es

/-- A key and its value can be written. -/
def Entries.oneWritable : Value × Value → Bool
  | (k, v) => Value.isWritable k && Value.isWritable v

end

end CppIdioms
