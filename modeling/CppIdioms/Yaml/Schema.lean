import CppIdioms.Yaml.Node
import CppIdioms.Yaml.Timestamp

/-!
# What a plain text is

The text of an open scalar decides its tag: truth values, numbers, dates, nothing and two special
keys are told by their form, and all else is a text.

## Contents

* `isTruth`, `isFloat`, `isInt`, `isNothing`, `isStamp`: the forms.
* `implicitTag`: the tag that a text decides.
* `Node.tag`: the tag of a node.
-/

namespace CppIdioms.Yaml

open CppIdioms.Text

/-! ## §1 Forms -/

/-- A word in small letters, with a capital, or in capitals. -/
def inCases (word : String) (cs : List Char) : Bool :=
  let small := word.toList
  let capitals := small.map Char.toUpper
  cs == small || cs == capitals.take 1 ++ small.drop 1 || cs == capitals

/-- A truth value. -/
def isTruth (cs : List Char) : Bool :=
  ["yes", "no", "true", "false", "on", "off"].any (inCases · cs)

/-- Nothing. -/
def isNothing (cs : List Char) : Bool := cs == ['~'] || inCases "null" cs

/-- What comes after a sign, if there is one. -/
def skipSign (cs : List Char) : List Char :=
  match cs with
  | '-' :: rest => rest
  | '+' :: rest => rest
  | _ => cs

/-- A digit or a low line. -/
def isDigitOrLine (c : Char) : Bool := c.isDigit || c == '_'

/-- An exponent, which needs a sign, or nothing. -/
def isExponent (cs : List Char) : Bool :=
  match cs with
  | [] => true
  | mark :: sign :: ds =>
    (mark == 'e' || mark == 'E') && (sign == '-' || sign == '+') && !ds.isEmpty
      && ds.all (·.isDigit)
  | _ => false

/-- Digits and low lines, and perhaps an exponent. -/
def isFraction (cs : List Char) : Bool := isExponent (cs.dropWhile isDigitOrLine)

/-- Groups after colons, each a number below sixty, one at least; `closing` accepts what comes
after them. The number of characters bounds the number of groups. -/
def areSixties (closing : List Char → Bool) : Nat → List Char → Bool
  | 0, _ => false
  | fuel + 1, cs =>
    match cs with
    | ':' :: a :: rest =>
      let goesOn (cs : List Char) : Bool := closing cs || areSixties closing fuel cs
      (a.isDigit && goesOn rest)
        || (match rest with
          | b :: rest => ('0' ≤ a && a ≤ '5') && b.isDigit && goesOn rest
          | [] => false)
    | _ => false

/-- A number with a point. -/
def isFloat (cs : List Char) : Bool :=
  let body := skipSign cs
  let special (words : List String) (cs : List Char) : Bool :=
    words.any fun w => cs == '.' :: w.toList
  let afterWhole := body.dropWhile isDigitOrLine
  let startsWithDigit := (body.head?.map Char.isDigit).getD false
  let pointed (cs : List Char) : Bool :=
    match cs with
    | '.' :: rest => rest.all isDigitOrLine
    | _ => false
  (startsWithDigit
      && ((match afterWhole with
          | '.' :: rest => isFraction rest
          | _ => false)
        || areSixties pointed afterWhole.length afterWhole))
    || (match cs with
      | '.' :: d :: rest => d.isDigit && isFraction rest
      | _ => false)
    || special ["inf", "Inf", "INF"] body
    || special ["nan", "NaN", "NAN"] cs

/-- A whole number: in radix two, eight, ten, sixteen, or in groups of sixty. -/
def isInt (cs : List Char) : Bool :=
  match skipSign cs with
  | ['0'] => true
  | '0' :: 'b' :: ds => !ds.isEmpty && ds.all fun c => c == '0' || c == '1' || c == '_'
  | '0' :: 'x' :: ds => !ds.isEmpty && ds.all fun c => (numeralDigit? c).isSome || c == '_'
  | '0' :: ds => ds.all fun c => ('0' ≤ c && c ≤ '7') || c == '_'
  | d :: ds =>
    let rest := ds.dropWhile isDigitOrLine
    d.isDigit && (rest.isEmpty || areSixties List.isEmpty rest.length rest)
  | [] => false

/-- A date in full, or a date with a time of day. -/
def isStamp (cs : List Char) : Bool :=
  match readStamp? cs with
  | some ⟨_, some _⟩ => true
  | some ⟨_, none⟩ => cs.length = 10
  | none => false

/-! ## §2 Tags -/

/-- A text without the line feed at its end, if there is one. -/
def chomped (cs : List Char) : List Char :=
  if cs.getLast? == some '\n' then cs.dropLast else cs

/-- The tag that a text decides; a line feed at its end does not count. -/
def implicitTag (text : String) : Tag :=
  let cs := chomped text.toList
  if text.isEmpty || isNothing cs then .null
  else if isTruth cs then .bool
  else if isFloat cs then .float
  else if isInt cs then .int
  else if cs == ['<', '<'] then .merge
  else if isStamp cs then .timestamp
  else if cs == ['='] then .value
  else if [['!'], ['&'], ['*']].contains cs then .unknown
  else .str

/-- The tag of a node. -/
def Node.tag : Node → Tag
  | .scalar (some t) _ _ => t
  | .scalar none true text => implicitTag text
  | .scalar none false _ => .str
  | .seq t _ => t.getD .seq
  | .map t _ => t.getD .map

end CppIdioms.Yaml
