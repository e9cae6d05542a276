import CppIdioms.Fault
import CppIdioms.Text.Numeral
import CppIdioms.Value.Basic

/-!
# Dates and times

A date is year, month and day. A time of day may follow, with a fraction of a second and an offset
from universal time.

## Contents

* `Stamp`: a date and time as written; `readStamp?` reads one.
* `Stamp.check`: the date and time that it denotes, if the calendar and the clock have it.
-/

namespace CppIdioms.Yaml

open CppIdioms.Text

/-- A date and perhaps a time of day, as written. -/
structure Stamp where
  date : Date
  time : Option ClockTime
  deriving DecidableEq, Repr

/-! ## §1 Reading -/

/-- A number of at least `least` and at most `most` digits, and what comes after it. -/
def shortNumber? (least most : Nat) (cs : List Char) : Option (Nat × List Char) :=
  let ds := (cs.take most).takeWhile (·.isDigit)
  if ds.length < least then none else some (decimalNat ds, cs.drop ds.length)

/-- What comes after a character. -/
def after? (c : Char) : List Char → Option (List Char)
  | d :: cs => if c == d then some cs else none
  | [] => none

/-- Year, month and day, and what comes after them. -/
def readDate? (cs : List Char) : Option (Date × List Char) := do
  let (year, cs) ← shortNumber? 4 4 cs
  let (month, cs) ← shortNumber? 1 2 (← after? '-' cs)
  let (day, cs) ← shortNumber? 1 2 (← after? '-' cs)
  return (⟨year, month, day⟩, cs)

/-- The number of millionths that the digits of a fraction stand for; further digits are cut off. -/
def microseconds (ds : List Char) : Nat :=
  let ds := ds.take 6
  decimalNat ds * Nat.pow 10 (6 - ds.length)

/-- A fraction of a second, if one follows, and what comes after it. -/
def readFraction (cs : List Char) : Nat × List Char :=
  match cs with
  | '.' :: rest => (microseconds (rest.takeWhile (·.isDigit)), rest.dropWhile (·.isDigit))
  | _ => (0, cs)

/-- Hours and perhaps minutes of an offset, which end the text. -/
def readOffsetSize? (cs : List Char) : Option Int := do
  let (hours, cs) ← shortNumber? 1 2 cs
  match cs with
  | [] => return hours * 60
  | _ =>
    let (minutes, cs) ← shortNumber? 2 2 (← after? ':' cs)
    if cs.isEmpty then return hours * 60 + minutes else none

/-- An offset from universal time up to the end of the text, if there is one. -/
def readOffset? (cs : List Char) : Option (Option Int) :=
  match cs with
  | [] => some none
  | _ =>
    match cs.dropWhile fun c => c == ' ' || c == '\t' with
    | ['Z'] => some (some 0)
    | '+' :: cs => (readOffsetSize? cs).map some
    | '-' :: cs => (readOffsetSize? cs).map fun n => some (-n)
    | _ => none

/-- A time of day up to the end of the text. -/
def readClock? (cs : List Char) : Option ClockTime := do
  let (hour, cs) ← shortNumber? 1 2 cs
  let (minute, cs) ← shortNumber? 2 2 (← after? ':' cs)
  let (second, cs) ← shortNumber? 2 2 (← after? ':' cs)
  let (micro, cs) := readFraction cs
  let offset ← readOffset? cs
  return ⟨hour, minute, second, micro, offset⟩

/-- What stands between a date and a time of day: a letter or blanks. -/
def afterDivider? (cs : List Char) : Option (List Char) :=
  match cs with
  | 'T' :: rest => some rest
  | 't' :: rest => some rest
  | _ =>
    let rest := cs.dropWhile fun c => c == ' ' || c == '\t'
    if rest.length < cs.length then some rest else none

/-- A date and perhaps a time of day. -/
def readStamp? (cs : List Char) : Option Stamp := do
  let (date, cs) ← readDate? cs
  match cs with
  | [] => return ⟨date, none⟩
  | _ => return ⟨date, some (← readClock? (← afterDivider? cs))⟩

/-! ## §2 The calendar -/

/-- The calendar has the date. -/
def isDate (d : Date) : Bool :=
  1 ≤ d.year && 1 ≤ d.month && d.month ≤ 12 && 1 ≤ d.day && d.day ≤ daysIn d.year d.month

/-- The clock has the time, and the offset is less than a day. -/
def isClockTime (t : ClockTime) : Bool :=
  t.hour < 24 && t.minute < 60 && t.second < 60
    && (t.offset.map fun n => decide (n.natAbs < 24 * 60)).getD true

/-- The date and time, if the calendar and the clock have it. -/
def Stamp.check (s : Stamp) : Except Fault Value :=
  if isDate s.date && (s.time.map isClockTime).getD true then .ok (.date s.date s.time)
  else .error .badValue

end CppIdioms.Yaml
