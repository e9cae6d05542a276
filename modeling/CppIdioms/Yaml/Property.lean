import CppIdioms.Text.Numeral
import CppIdioms.Yaml.Token
import CppIdioms.Yaml.Point

/-!
# Anchors, tags and directives

What stands in front of a node or of a document.

## Contents

* `anchorName?`: the name of an anchor or alias.
* `tagHandle?`, `tagUri?`, `tagToken?`: tags.
* `directive?`: directives.
-/

namespace CppIdioms.Yaml

open CppIdioms.Text

/-! ## §1 Anchors -/

/-- What may follow a name. -/
def endsName (c : Char) : Bool := isGap c || "?:,]\x7d%@\x60".toList.contains c

/-- The name of an anchor or alias, and what comes after it. -/
def anchorName? (s : List Point) : Option (String × List Point) :=
  let name := chars (s.takeWhile (isNameChar ·.char))
  let rest := s.dropWhile (isNameChar ·.char)
  if name.isEmpty || !endsName (here rest) then none else some (String.ofList name, rest)

/-! ## §2 Tags -/

/-- The handle of a tag: a mark alone in front of a space, else a mark, a name and a mark. -/
def tagHandle? (s : List Point) : Option (String × List Point) :=
  if here s != '!' then none
  else if next s == ' ' then some ("!", s.tail)
  else
    let name := chars (s.tail.takeWhile (isNameChar ·.char))
    let rest := s.tail.dropWhile (isNameChar ·.char)
    if here rest != '!' then none
    else some (String.ofList ('!' :: name ++ ['!']), rest.tail)

/-- The characters of tags. -/
def isUriChar (c : Char) : Bool :=
  c.isAlphanum || "-;/?:@&=+$,_.!~*\x27()[]%".toList.contains c

/-- The text that escaped bytes stand for. -/
def decodeBytes? (bytes : List Nat) : Option (List Char) :=
  (String.fromUTF8? ⟨(bytes.map Nat.toUInt8).toArray⟩).map (·.toList)

/-- The characters of a tag from a place on, with the bytes escaped directly in front of it. -/
def uriFrom (bytes : List Nat) : List Point → Option (List Char × List Point)
  | [] => (decodeBytes? bytes.reverse).map (·, [])
  | p :: rest =>
    if p.char == '%' then
      match rest with
      | a :: b :: rest =>
        match numeralDigit? a.char, numeralDigit? b.char with
        | some m, some n => uriFrom ((m * 16 + n) :: bytes) rest
        | _, _ => none
      | _ => none
    else
      match decodeBytes? bytes.reverse with
      | none => none
      | some decoded =>
        if isUriChar p.char then
          (uriFrom [] rest).map fun (cs, rest) => (decoded ++ p.char :: cs, rest)
        else some (decoded, p :: rest)

/-- A tag or the start of one: at least one character of tags. -/
def tagUri? (s : List Point) : Option (String × List Point) :=
  if !isUriChar (here s) then none
  else (uriFrom [] s).map fun (cs, rest) => (String.ofList cs, rest)

/-- A tag is written with a handle of its own if a second mark stands in its word. -/
def hasHandle (s : List Point) : Bool :=
  (s.takeWhile fun p => !isSpaceOrEnd p.char).any (·.char == '!')

/-- A tag up to its end: in full between brackets, as a mark alone, or by a handle. -/
def tagParts? (s : List Point) : Option (Option String × String × List Point) :=
  if next s == '<' then
    match tagUri? (s.drop 2) with
    | some (uri, rest) => if here rest == '>' then some (none, uri, rest.tail) else none
    | none => none
  else if isGap (next s) then some (none, "!", s.tail)
  else
    let handle? := if hasHandle s.tail then tagHandle? s else some ("!", s.tail)
    match handle? with
    | none => none
    | some (handle, rest) =>
      (tagUri? rest).map fun (suffix, rest) => (some handle, suffix, rest)

/-- A tag, followed by a space or the end of the line, and what comes after it. -/
def tagToken? (s : List Point) : Option (Token × List Point) :=
  match tagParts? s with
  | some (handle, suffix, rest) =>
    if isSpaceOrEnd (here rest) then some (.tag handle suffix, rest) else none
  | none => none

/-! ## §3 Directives -/

/-- A run of digits, and what comes after it. -/
def digits? (s : List Point) : Option (Nat × List Point) :=
  let ds := chars (s.takeWhile (·.char.isDigit))
  if ds.isEmpty then none else some (decimalNat ds, s.dropWhile (·.char.isDigit))

/-- The version of the format. -/
def versionDirective? (s : List Point) : Option (Directive × List Point) := do
  let (major, rest) ← digits? (skipSpaces s)
  if here rest != '.' then none
  else
    let (_, rest) ← digits? rest.tail
    some (.version major, rest)

/-- A handle and what it stands for. -/
def handleDirective? (s : List Point) : Option (Directive × List Point) := do
  let (handle, rest) ← tagHandle? (skipSpaces s)
  if here rest != ' ' then none
  else
    let (start, rest) ← tagUri? (skipSpaces rest)
    some (.handle handle start, rest)

/-- A directive after its mark, up to the end of its line. -/
def directive? (s : List Point) : Option (Directive × List Point) := do
  let name := String.ofList (chars (s.takeWhile (isNameChar ·.char)))
  let rest := s.dropWhile (isNameChar ·.char)
  if name.isEmpty || !isSpaceOrEnd (here rest) then none
  else
    let (d, rest) ←
      if name == "YAML" then versionDirective? rest
      else if name == "TAG" then handleDirective? rest
      else some (.unknown, rest.dropWhile fun p => !isLineEnd p.char)
    if !isSpaceOrEnd (here rest) then none
    else (closeLine? rest).map (d, ·)

end CppIdioms.Yaml
