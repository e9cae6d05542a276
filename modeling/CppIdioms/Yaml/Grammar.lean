import CppIdioms.Yaml.Layout
import CppIdioms.Yaml.Node

/-!
# From tokens to nodes

## Contents

* `Stream`: the tokens that are left, with the anchors and tag handles known so far.
* `node`: the node that comes next, in a block or in a flow collection.
* `document?`: the only document of a text.
-/

namespace CppIdioms.Yaml

/-! ## §1 Reading -/

/-- The tokens that are left, with the anchors and tag handles known so far. -/
structure Stream where
  left : List Token
  anchors : List (String × Node) := []
  handles : List (String × String) := []

/-- A step that reads tokens. -/
abbrev Reader := StateT Stream (Except Error)

namespace Reader

/-- The next token. -/
def peek : Reader Token := fun s => .ok (s.left.headD .streamEnd, s)

/-- Pass over the next token. -/
def pass : Reader Unit := fun s => .ok ((), { s with left := s.left.tail })

/-- The error about a token that cannot stand where it stands. -/
def unexpected : Token → Error
  | .broken e => e
  | _ => .malformedDocument

/-- The next token cannot stand where it stands. -/
def refuse {α : Type} : Reader α := do throw (unexpected (← peek))

/-- The text is not a document. -/
def malformed {α : Type} : Reader α := throw .malformedDocument

/-- Pass over the next token, which must be the one given. -/
def expect (t : Token) : Reader Unit := do
  if (← peek) = t then pass else refuse

/-- The node of an anchor. -/
def aliased (name : String) : Reader Node := do
  match (← get).anchors.lookup name with
  | some n => return n
  | none => malformed

/-- An anchor may be used for one node only. -/
def checkAnchor (name : Option String) : Reader Unit := do
  match name with
  | some a => if ((← get).anchors.lookup a).isSome then malformed
  | none => return ()

/-- Remember the node of an anchor. -/
def bindAnchor (name : Option String) (n : Node) : Reader Unit := do
  match name with
  | some a =>
    checkAnchor (some a)
    modify fun s => { s with anchors := (a, n) :: s.anchors }
  | none => return ()

end Reader

open Reader

/-! ## §2 Properties -/

/-- The anchor, if one comes next. -/
def anchor? : Reader (Option String) := do
  match ← peek with
  | .anchor name => pass; return some name
  | _ => return none

/-- The tag, if one comes next, in full. -/
def tag? : Reader (Option String) := do
  match ← peek with
  | .tag none text => pass; return some text
  | .tag (some handle) suffix =>
    pass
    match (← get).handles.lookup handle with
    | some start => return some (start ++ suffix)
    | none => malformed
  | _ => return none

/-- Anchor and tag of a node, in either order. -/
def properties : Reader (Option String × Option String) := do
  match ← anchor? with
  | some a => return (some a, ← tag?)
  | none =>
    let tag ← tag?
    return (← anchor?, tag)

/-- A tag that is a mark alone says nothing about a collection, and about a scalar it says that its
text decides. -/
def properTag (tag : Option String) : Option Tag := (tag.filter (· != "!")).map Tag.ofText

/-- A scalar with the tag in front of it. -/
def taggedScalar (tag : Option String) (text : String) (plain : Bool) : Node :=
  .scalar (properTag tag) (tag == some "!" || (tag.isNone && plain)) text

/-! ## §3 Nodes -/

/-- What ends an entry of a block mapping that is not written. -/
def endsBlockPart : Token → Bool
  | .key => true
  | .value => true
  | .blockEnd => true
  | _ => false

/-- What ends the key of a flow mapping that is not written. -/
def endsFlowKey (close : Token) (t : Token) : Bool := t = .value || t = .comma || t = close

/-- What ends the value of a flow mapping that is not written. -/
def endsFlowValue (close : Token) (t : Token) : Bool := t = .comma || t = close

mutual

/-- The node that comes next. In a flow collection blocks do not count, and only in a block mapping a
sequence may stand as far left as the mapping. `fuel` bounds the number of steps. -/
def node (block indentless : Bool) : Nat → Reader Node
  | 0 => malformed
  | fuel + 1 => do
    match ← peek with
    | .alias name => pass; aliased name
    | _ =>
      let (anchor, tag) ← properties
      checkAnchor anchor
      let n ← content block indentless anchor tag fuel
      bindAnchor anchor n
      return n

/-- The content of a node after its properties. -/
def content (block indentless : Bool) (anchor tag : Option String) : Nat → Reader Node
  | 0 => malformed
  | fuel + 1 => do
    let t ← peek
    if indentless && t = .dash then
      return .seq (properTag tag) (← indentlessItems fuel)
    else
      match t with
      | .scalar text plain => pass; return taggedScalar tag text plain
      | .flowSequence => pass; return .seq (properTag tag) (← flowItems true fuel)
      | .flowMapping => pass; return .map (properTag tag) (← flowEntries true fuel)
      | _ =>
        if block && t = .blockSequence then
          pass
          return .seq (properTag tag) (← blockItems fuel)
        else if block && t = .blockMapping then
          pass
          return .map (properTag tag) (← blockEntries fuel)
        else if anchor.isSome || tag.isSome then
          return .scalar (properTag tag) (tag.isNone || tag == some "!") ""
        else refuse

/-- The items of a block sequence. -/
def blockItems : Nat → Reader (List Node)
  | 0 => malformed
  | fuel + 1 => do
    match ← peek with
    | .dash =>
      pass
      let t ← peek
      let item ← if t = .dash || t = .blockEnd then pure .empty else node true false fuel
      return item :: (← blockItems fuel)
    | _ =>
      expect .blockEnd
      return []

/-- The items of a sequence that stands as far left as the mapping it is in. -/
def indentlessItems : Nat → Reader (List Node)
  | 0 => malformed
  | fuel + 1 => do
    match ← peek with
    | .dash =>
      pass
      let t ← peek
      let item ← if t = .dash || endsBlockPart t then pure .empty else node true false fuel
      return item :: (← indentlessItems fuel)
    | _ => return []

/-- A key or value of a block mapping, after its mark. -/
def blockPart : Nat → Reader Node
  | 0 => malformed
  | fuel + 1 => do
    if endsBlockPart (← peek) then return .empty else node true true fuel

/-- The entries of a block mapping. -/
def blockEntries : Nat → Reader (List (Node × Node))
  | 0 => malformed
  | fuel + 1 => do
    match ← peek with
    | .key =>
      pass
      let k ← blockPart fuel
      let v ← blockValue fuel
      return (k, v) :: (← blockEntries fuel)
    | _ =>
      expect .blockEnd
      return []

/-- The value of a block mapping entry, if there is one. -/
def blockValue : Nat → Reader Node
  | 0 => malformed
  | fuel + 1 => do
    match ← peek with
    | .value => pass; blockPart fuel
    | _ => return .empty

/-- The items of a flow sequence. An item may be a mapping of one entry, without brackets. -/
def flowItems (first : Bool) : Nat → Reader (List Node)
  | 0 => malformed
  | fuel + 1 => do
    if (← peek) = .flowSequenceEnd then
      pass
      return []
    else
      if !first then expect .comma
      match ← peek with
      | .flowSequenceEnd => pass; return []
      | .key =>
        let entry ← flowEntry .flowSequenceEnd fuel
        return .map none [entry] :: (← flowItems false fuel)
      | _ =>
        let item ← node false false fuel
        return item :: (← flowItems false fuel)

/-- The entries of a flow mapping. A key without a value needs no mark. -/
def flowEntries (first : Bool) : Nat → Reader (List (Node × Node))
  | 0 => malformed
  | fuel + 1 => do
    if (← peek) = .flowMappingEnd then
      pass
      return []
    else
      if !first then expect .comma
      match ← peek with
      | .flowMappingEnd => pass; return []
      | .key =>
        let entry ← flowEntry .flowMappingEnd fuel
        return entry :: (← flowEntries false fuel)
      | _ =>
        let k ← node false false fuel
        return (k, .empty) :: (← flowEntries false fuel)

/-- An entry of a flow collection from the mark of its key on. -/
def flowEntry (close : Token) : Nat → Reader (Node × Node)
  | 0 => malformed
  | fuel + 1 => do
    pass
    let k ← if endsFlowKey close (← peek) then pure .empty else node false false fuel
    if (← peek) = .value then
      pass
      let v ← if endsFlowValue close (← peek) then pure .empty else node false false fuel
      return (k, v)
    else return (k, .empty)

end

/-! ## §4 Documents -/

/-- The tag handles that are always known. -/
def defaultHandles : List (String × String) := [("!", "!"), ("!!", standardStart)]

/-- The tag handles after the directives in front of a document. Each directive may stand once. -/
def directives (version : Bool) (handles : List (String × String)) :
    List Token → Except Error (List (String × String) × List Token)
  | .directive d :: ts =>
    match d with
    | .version major =>
      if version || major ≠ 1 then .error .malformedDocument else directives true handles ts
    | .handle name start =>
      if (handles.lookup name).isSome then .error .malformedDocument
      else directives version ((name, start) :: handles) ts
    | .unknown => directives version handles ts
  | ts => .ok (handles ++ defaultHandles, ts)

/-- Nothing is written in the document. -/
def endsDocument : Token → Bool
  | .directive _ => true
  | .documentStart => true
  | .documentEnd => true
  | .streamEnd => true
  | _ => false

/-- What comes after the document is marks of its end only. -/
def closeStream (ts : List Token) : Except Error Unit :=
  match ts.dropWhile (· = .documentEnd) with
  | .streamEnd :: _ => .ok ()
  | t :: _ => .error (unexpected t)
  | [] => .ok ()

/-- A bound on the number of steps that tokens take. -/
def stepBound (ts : List Token) : Nat := 4 * ts.length + 8

/-- The node of a document that begins without a mark, and what comes after it. -/
def bareDocument (handles : List (String × String)) (ts : List Token) :
    Except Error (Node × List Token) :=
  match node true false (stepBound ts) { left := ts, handles := handles } with
  | .ok (n, s) => .ok (n, s.left)
  | .error e => .error e

/-- The node of a document after its mark, and what comes after it. -/
def markedDocument (handles : List (String × String)) (ts : List Token) :
    Except Error (Node × List Token) :=
  if endsDocument (ts.headD .streamEnd) then .ok (.empty, ts) else bareDocument handles ts

/-- The only document of a text, if there is one. -/
def document? (ts : List Token) : Except Error (Option Node) := do
  match ts with
  | [] => return none
  | [.streamEnd] => return none
  | t :: _ =>
    let (n, rest) ←
      if endsDocument t && t ≠ .documentEnd then do
        let (handles, ts) ← directives false [] ts
        match ts with
        | .documentStart :: ts => markedDocument handles ts
        | t :: _ => throw (unexpected t)
        | [] => throw .malformedDocument
      else bareDocument defaultHandles ts
    closeStream rest
    return some n

end CppIdioms.Yaml
