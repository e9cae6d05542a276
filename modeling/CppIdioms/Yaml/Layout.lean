import CppIdioms.Yaml.Block
import CppIdioms.Yaml.Plain
import CppIdioms.Yaml.Property
import CppIdioms.Yaml.Quoted

/-!
# Layout

The text of a document as tokens. Blocks are told apart by their indentation. A key without a mark
in front of it is known only by the colon after it: what may be a key is remembered until then, and
the tokens that belong in front of it are put there afterwards. A key and its colon stand on one
line, and not further apart than a limit.

## Contents

* `KeyMark`: what may turn out to be a key.
* `Layout`: what has been read and what is open.
* `Layout.step`: the next token.
* `tokens`: the tokens of a text.
-/

namespace CppIdioms.Yaml

/-! ## §1 State -/

/-- What may turn out to be a key. -/
structure KeyMark where
  /-- The number of tokens in front of it. -/
  number : Nat
  /-- Nothing else than a key can stand at its place. -/
  required : Bool
  line : Nat
  column : Nat
  index : Nat
  deriving Repr

/-- The greatest distance between the start of a key and its colon. -/
def keyLimit : Nat := 1024

/-- What has been read and what is open. -/
structure Layout where
  rest : List Point
  /-- The tokens so far, latest first. -/
  read : List Token := []
  /-- The number of tokens so far. -/
  count : Nat := 0
  /-- The column of the innermost block, -1 outside all blocks. -/
  indent : Int := -1
  /-- The columns of the blocks around it, innermost first. -/
  outer : List Int := []
  /-- The number of open flow collections. -/
  flow : Nat := 0
  /-- A key may stand next. -/
  keyAllowed : Bool := true
  /-- What may turn out to be a key, by the number of flow collections around it. -/
  keys : List (Nat × KeyMark) := []

namespace Layout

/-- The text cannot be read on. -/
def malformed {α : Type} : Except Error α := .error .malformedDocument

/-- The result, if there is one. -/
def need {α : Type} : Option α → Except Error α
  | some a => .ok a
  | none => malformed

/-- No flow collection is open. -/
def inBlock (l : Layout) : Bool := l.flow == 0

/-- Add a token. -/
def emit (l : Layout) (t : Token) : Layout := { l with read := t :: l.read, count := l.count + 1 }

/-- Add a token and go on after it. -/
def emitThen (l : Layout) (t : Token) (rest : List Point) : Layout :=
  { l.emit t with rest := rest }

/-- Put tokens, given last first, in front of the token of a number. -/
def insertAt (l : Layout) (number : Nat) (ts : List Token) : Layout :=
  let recent := l.count - number
  { l with
    read := l.read.take recent ++ ts ++ l.read.drop recent
    count := l.count + ts.length }

/-! ## §2 Keys -/

/-- A mark is too old to be a key. -/
def isStale (p : Point) (k : KeyMark) : Bool :=
  k.line != p.line || keyLimit < p.index - k.index

/-- Forget what can no longer be a key; it is an error if it had to be one. -/
def dropStale (l : Layout) : Except Error Layout :=
  match l.rest with
  | [] => .ok l
  | p :: _ =>
    if l.keys.any fun (_, k) => isStale p k && k.required then malformed
    else .ok { l with keys := l.keys.filter fun (_, k) => !isStale p k }

/-- Forget what could be a key at this depth; it is an error if it had to be one. -/
def dropKey (l : Layout) : Except Error Layout :=
  match l.keys.lookup l.flow with
  | some k =>
    if k.required then malformed else .ok { l with keys := l.keys.filter (·.1 != l.flow) }
  | none => .ok l

/-- Remember that what comes next may be a key. -/
def markKey (l : Layout) : Except Error Layout :=
  match l.rest with
  | [] => .ok l
  | p :: _ =>
    if !l.keyAllowed then .ok l
    else
      l.dropKey.map fun l =>
        let required := l.inBlock && l.indent == (p.column : Int)
        { l with keys := (l.flow, ⟨l.count, required, p.line, p.column, p.index⟩) :: l.keys }

/-! ## §3 Blocks -/

/-- Close the blocks that stand to the right of a column. -/
def closeBlocks (column : Int) : Int → List Int → Layout → Layout
  | indent, [], l => { l with indent := indent, outer := [] }
  | indent, i :: outer, l =>
    if column < indent then closeBlocks column i outer (l.emit .blockEnd)
    else { l with indent := indent, outer := i :: outer }

/-- Close the blocks that stand to the right of a column; there are none inside flow collections. -/
def unwind (l : Layout) (column : Int) : Layout :=
  if l.inBlock then closeBlocks column l.indent l.outer l else l

/-- A block at this column would stand to the right of the innermost one. -/
def opens (l : Layout) (column : Int) : Bool := l.indent < column

/-- Open a block at a column. -/
def openBlock (l : Layout) (column : Int) : Layout :=
  { l with indent := column, outer := l.indent :: l.outer }

/-- Open a block at a column to the right of the innermost one, with the token for its start. -/
def openIfDeeper (l : Layout) (column : Int) (start : Token) : Layout :=
  if l.opens column then (l.openBlock column).emit start else l

/-! ## §4 Tokens -/

/-- What comes after spaces, comments and ends of lines, and whether a line ended. -/
def skipBlank (ended comment : Bool) : List Point → Bool × List Point
  | [] => (ended, [])
  | p :: rest =>
    if isBreak p.char then skipBlank true false rest
    else if p.char == stop then (ended, p :: rest)
    else if comment || p.char == ' ' then skipBlank ended comment rest
    else if p.char == '#' then skipBlank ended true rest
    else (ended, p :: rest)

/-- Go to the next token. A key may stand at the start of a line. -/
def advance (l : Layout) : Layout :=
  let (ended, rest) := skipBlank false false l.rest
  { l with rest := rest, keyAllowed := l.keyAllowed || (ended && l.inBlock) }

/-- Leave all blocks before something that stands between documents. -/
def leaveDocument (l : Layout) : Except Error Layout :=
  (l.unwind (-1)).dropKey.map fun l => { l with keyAllowed := false }

/-- The end of the text. -/
def atEnd (l : Layout) : Except Error Layout := l.leaveDocument.map (·.emit .streamEnd)

/-- A directive. -/
def atDirective (l : Layout) : Except Error Layout := do
  let l ← l.leaveDocument
  let (d, rest) ← need (directive? l.rest.tail)
  return l.emitThen (.directive d) rest

/-- A mark between documents. -/
def atDocumentMark (l : Layout) (t : Token) : Except Error Layout := do
  let l ← l.leaveDocument
  return l.emitThen t (l.rest.drop 3)

/-- The start of a flow collection. -/
def atFlowStart (l : Layout) (t : Token) : Except Error Layout := do
  let l ← l.markKey
  return ({ l with flow := l.flow + 1, keyAllowed := true }).emitThen t l.rest.tail

/-- The end of a flow collection; one must be open. -/
def atFlowEnd (l : Layout) (t : Token) : Except Error Layout := do
  let l ← l.dropKey
  if l.flow = 0 then malformed
  else return ({ l with flow := l.flow - 1, keyAllowed := false }).emitThen t l.rest.tail

/-- A comma. -/
def atComma (l : Layout) : Except Error Layout := do
  let l ← l.dropKey
  return ({ l with keyAllowed := true }).emitThen .comma l.rest.tail

/-- The start of a block at this place, unless a flow collection is open; a key must be allowed. -/
def blockHere (l : Layout) (start : Token) : Except Error Layout :=
  if !l.inBlock then .ok l
  else if !l.keyAllowed then malformed
  else .ok (l.openIfDeeper (column l.rest) start)

/-- The dash of a sequence entry. -/
def atDash (l : Layout) : Except Error Layout := do
  let l ← l.blockHere .blockSequence
  let l ← l.dropKey
  return ({ l with keyAllowed := true }).emitThen .dash l.rest.tail

/-- The mark of a key. -/
def atKey (l : Layout) : Except Error Layout := do
  let l ← l.blockHere .blockMapping
  let l ← l.dropKey
  return ({ l with keyAllowed := l.inBlock }).emitThen .key l.rest.tail

/-- The colon of a value. If something in front of it may be a key, it is one. -/
def atValue (l : Layout) : Except Error Layout :=
  match l.keys.lookup l.flow with
  | some k =>
    let l := { l with keys := l.keys.filter (·.1 != l.flow), keyAllowed := false }
    let l :=
      if l.inBlock && l.opens k.column then
        (l.openBlock k.column).insertAt k.number [.key, .blockMapping]
      else l.insertAt k.number [.key]
    .ok (l.emitThen .value l.rest.tail)
  | none => do
    let l ← l.blockHere .blockMapping
    return ({ l with keyAllowed := l.inBlock }).emitThen .value l.rest.tail

/-- An anchor or alias. -/
def atName (l : Layout) (token : String → Token) : Except Error Layout := do
  let l ← l.markKey
  let (name, rest) ← need (anchorName? l.rest.tail)
  return ({ l with keyAllowed := false }).emitThen (token name) rest

/-- A tag. -/
def atTag (l : Layout) : Except Error Layout := do
  let l ← l.markKey
  let (tag, rest) ← need (tagToken? l.rest)
  return ({ l with keyAllowed := false }).emitThen tag rest

/-- A block scalar. -/
def atBlockScalar (l : Layout) (folded : Bool) : Except Error Layout := do
  let l ← l.dropKey
  let (text, rest) ← need (blockScalar? folded l.indent l.rest.tail)
  return ({ l with keyAllowed := true }).emitThen (.scalar (String.ofList text) false) rest

/-- A quoted scalar. -/
def atQuoted (l : Layout) (q : Quoting) : Except Error Layout := do
  let l ← l.markKey
  let (text, rest) ← quotedScalar q l.rest.tail
  return ({ l with keyAllowed := false }).emitThen (.scalar (String.ofList text) false) rest

/-- A plain scalar. -/
def atPlain (l : Layout) : Except Error Layout := do
  let l ← l.markKey
  let (text, left, rest) := plainScalar (!l.inBlock) l.indent l.rest
  return ({ l with keyAllowed := left }).emitThen (.scalar (String.ofList text) true) rest

/-- The next token, by its first character. -/
def token (l : Layout) : Except Error Layout :=
  let c := here l.rest
  let spaced := isGap (next l.rest)
  let atStart := column l.rest == 0
  if c == stop then l.atEnd
  else if c == '%' && atStart then l.atDirective
  else if c == '-' && atStart && atSeparator l.rest then l.atDocumentMark .documentStart
  else if c == '.' && atStart && atSeparator l.rest then l.atDocumentMark .documentEnd
  else if c == '[' then l.atFlowStart .flowSequence
  else if c == '\x7b' then l.atFlowStart .flowMapping
  else if c == ']' then l.atFlowEnd .flowSequenceEnd
  else if c == '\x7d' then l.atFlowEnd .flowMappingEnd
  else if c == ',' then l.atComma
  else if c == '-' && spaced then l.atDash
  else if c == '?' && (!l.inBlock || spaced) then l.atKey
  else if c == ':' && (!l.inBlock || spaced) then l.atValue
  else if c == '*' then l.atName .alias
  else if c == '&' then l.atName .anchor
  else if c == '!' then l.atTag
  else if c == '|' && l.inBlock then l.atBlockScalar false
  else if c == '>' && l.inBlock then l.atBlockScalar true
  else if c == '\x27' then l.atQuoted .single
  else if c == '"' then l.atQuoted .double
  else if startsPlain (!l.inBlock) c (next l.rest) then l.atPlain
  else malformed

/-- Go to the next token and read it. -/
def step (l : Layout) : Except Error Layout := do
  let l ← l.advance.dropStale
  (l.unwind (column l.rest)).token

/-- The tokens from a state on. Each token takes at least one character, so the length of the text
and one more is enough for `fuel`. -/
def tokensFrom : Nat → Layout → List Token
  | 0, l => (Token.broken .malformedDocument :: l.read).reverse
  | fuel + 1, l =>
    match l.step with
    | .error e => (Token.broken e :: l.read).reverse
    | .ok l => if l.read.head? == some .streamEnd then l.read.reverse else tokensFrom fuel l

end Layout

/-- The tokens of a text. -/
def tokens (text : String) : List Token :=
  if !text.toList.all isPrintable then [.broken .malformedDocument]
  else
    let s := points text
    let s := if here s == orderMark then s.tail else s
    Layout.tokensFrom (s.length + 1) { rest := s }

end CppIdioms.Yaml
