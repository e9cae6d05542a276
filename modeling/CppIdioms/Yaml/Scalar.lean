import CppIdioms.Error
import CppIdioms.Number.Decimal
import CppIdioms.Value.Compare
import CppIdioms.Yaml.Schema

/-!
# Values of scalars

The value that a text denotes under a tag. A tag may be written in front of any text, so a text may
not have the form that the tag asks for.

## Contents

* `truthValue`, `intValue`, `floatValue`, `stampValue`: the values of texts under the standard tags.
* `scalarValue`: the value of a text under a tag of scalars.
-/

namespace CppIdioms.Yaml

open CppIdioms.Number CppIdioms.Text

/-- The truth value of a word, in any case. -/
def truthValue (cs : List Char) : Except Fault Value :=
  let word := String.ofList (cs.map Char.toLower)
  if ["yes", "true", "on"].contains word then .ok (.bool true)
  else if ["no", "false", "off"].contains word then .ok (.bool false)
  else .error .missingKey

/-- The sign of a number, and what comes after it; a number has at least one character. -/
def splitSign : List Char → Except Fault (Bool × List Char)
  | [] => .error .outOfBounds
  | '-' :: cs => .ok (true, cs)
  | '+' :: cs => .ok (false, cs)
  | cs => .ok (false, cs)

/-- A whole number in a radix. -/
def inRadix (radix : Radix) (cs : List Char) : Except Fault Int :=
  match readInt? radix cs with
  | some n => .ok n
  | none => .error .badValue

/-- The parts of a text between colons. -/
def betweenColons (cs : List Char) : List (List Char) := cs.splitOn ':'

/-- The whole number that a text without sign denotes: in radix two, eight or sixteen by its start, in
groups of sixty, or in radix ten. -/
def wholeNumber (cs : List Char) : Except Fault Int :=
  match cs with
  | [] => .error .outOfBounds
  | ['0'] => .ok 0
  | '0' :: 'b' :: ds => inRadix .binary ds
  | '0' :: 'x' :: ds => inRadix .hexadecimal ds
  | '0' :: _ => inRadix .octal cs
  | _ =>
    if cs.contains ':' then
      ((betweenColons cs).mapM (inRadix .decimal)).map fun parts =>
        parts.foldl (fun n d => n * 60 + d) 0
    else inRadix .decimal cs

/-- A whole number; low lines do not count. -/
def intValue (cs : List Char) : Except Fault Value := do
  let (negative, body) ← splitSign (cs.filter (· != '_'))
  let n ← wholeNumber body
  return .int (if negative then -n else n)

/-- A number in radix ten. -/
def decimalNumber (cs : List Char) : Except Fault Binary64 :=
  match readDecimal? cs with
  | some x => .ok x
  | none => .error .badValue

/-- The sum of groups of sixty, least group first. -/
def sumSixties (parts : List Binary64) : Binary64 :=
  let step (state : Binary64 × Nat) (part : Binary64) : Binary64 × Nat :=
    (state.1.add (part.mul (.ofInt state.2)), state.2 * 60)
  (parts.foldl step (Binary64.zero, 1)).1

/-- The number that a text without sign denotes. -/
def pointedNumber (cs : List Char) : Except Fault Binary64 :=
  if cs == ".inf".toList then .ok (.infinite false)
  else if cs == ".nan".toList then .ok .nan
  else if cs.contains ':' then
    ((betweenColons cs).mapM decimalNumber).map fun parts => sumSixties parts.reverse
  else decimalNumber cs

/-- A number; low lines do not count. -/
def floatValue (cs : List Char) : Except Fault Value := do
  let (negative, body) ← splitSign ((cs.filter (· != '_')).map Char.toLower)
  let x ← pointedNumber body
  return .float (if negative then x.neg else x)

/-- A date, perhaps with a time of day. -/
def stampValue (cs : List Char) : Except Fault Value :=
  match readStamp? (chomped cs) with
  | some s => s.check
  | none => .error .missingPart

/-- The value of a text under a tag of scalars. -/
def scalarValue (tag : Tag) (text : String) : Except Error Value :=
  let cs := text.toList
  match tag with
  | .null => .ok .null
  | .bool => (truthValue cs).mapError .fault
  | .int => (intValue cs).mapError .fault
  | .float => (floatValue cs).mapError .fault
  | .timestamp => (stampValue cs).mapError .fault
  | .str => .ok (.str text)
  | _ => .error .malformedDocument

end CppIdioms.Yaml
