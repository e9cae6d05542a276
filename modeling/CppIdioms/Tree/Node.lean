import CppIdioms.CppType.Reading
import CppIdioms.Error
import CppIdioms.Tree.Kind
import CppIdioms.Tree.Span

/-!
# Syntax trees

A node has a kind, a place, attributes, and children that each hang under a role. Children are kept
as one list of pairs, in the order in which the tree is walked; the children of one role stand
together.

## Contents

* `Node`: nodes.
* `Node.attr`, `Node.name?`, `Node.typeOf`, `Node.requireType`: attributes.
* `Node.called?`, `Node.called`, `Node.nameOr`: what a node is called in messages.
* `Node.child?`, `Node.childrenOf`, `Node.roles`: children by role.
* `Node.label`: a node as messages name it.
* `Node.size`, `Node.totalSize`: the number of nodes of a tree, and of several.

## Main statements

* `Node.size_child_lt`: a child has fewer nodes than its parent.
* `Node.totalSize_children`: the children have one node less than the tree, so a walk that replaces a
  node by its children ends.
-/

namespace CppIdioms

/-- A syntax tree (`SyntaxNode`). -/
structure Node where
  kind : Kind
  span : Span
  attrs : Entries
  children : List (String × Node)
  deriving Inhabited

namespace Node

/-! ## §1 Attributes -/

/-- The value of an attribute, `null` if it is not set. -/
def attr (n : Node) (name : String) : Value := Entries.find n.attrs name

/-- The value of an attribute, or `default` if it is not set (`attr`). -/
def attrOr (n : Node) (name : String) (default : Value) : Value :=
  (Entries.get? name n.attrs).getD default

/-- The attribute is set to a value that counts as true. -/
def has (n : Node) (name : String) : Bool := (n.attr name).isTrue

/-- The attribute is set to `false`; zero and other values that count as false are not meant. -/
def denies (n : Node) (name : String) : Bool :=
  match n.attr name with
  | .bool false => true
  | _ => false

/-- The name of the entity that the node declares or refers to. -/
def name? (n : Node) : Option String :=
  match n.attr "name" with
  | .null => none
  | v => some v.text

/-- The name, if it is not empty. -/
def properName? (n : Node) : Option String := n.name?.filter (· != "")

/-- The type stored in an attribute, if there is one (`type_of`). -/
def typeOf (n : Node) (key : String) : Except Fault (Option CppType) :=
  CppType.ofValue (n.attr key)

/-- The type stored in an attribute (`require_type`). It is an error if it is missing or not known,
or if the node is marked unresolved. -/
def requireType (n : Node) (key : String) : Except Error CppType :=
  let unresolved : Error := .unresolved (key ++ " of " ++ n.kind.name) n.span
  if n.denies "resolved" then .error unresolved
  else
    match n.typeOf key with
    | .error f => .error (.fault f)
    | .ok none => .error unresolved
    | .ok (some t) => if t.resolved then .ok t else .error unresolved

/-- The text of an attribute if that counts as true, else the name if it is not empty. -/
def called? (n : Node) (key : String) : Option String :=
  if n.has key then some (n.attr key).text else n.properName?

/-- What the node is called in messages, by an attribute, by its name or by a default. -/
def called (n : Node) (key default : String) : String := (n.called? key).getD default

/-- The name of the node in messages. -/
def nameOr (n : Node) (default : String) : String := n.properName?.getD default

/-! ## §2 Children -/

/-- The children under a role (`children_of`). -/
def childrenOf (n : Node) (role : String) : List Node :=
  (n.children.filter (·.1 == role)).map (·.2)

/-- The first child under a role. -/
def child? (n : Node) (role : String) : Option Node :=
  (n.children.find? (·.1 == role)).map (·.2)

/-- The roles in order, each with the number of its children. -/
def roles (n : Node) : List (String × Nat) :=
  (n.children.map (·.1)).eraseDups.map fun role => (role, (n.childrenOf role).length)

/-- The only child of a node that has exactly one. -/
def onlyChild? (n : Node) : Option Node :=
  match n.children with
  | [(_, c)] => some c
  | _ => none

/-! ## §3 Labels -/

/-- Kind, name and place of a node. -/
def label (n : Node) : String :=
  let name := (n.properName?.map (" " ++ ·)).getD ""
  "<" ++ n.kind.name ++ name ++ " @ " ++ n.span.text ++ ">"

/-! ## §4 Size -/

mutual

/-- The number of nodes of a tree. -/
def size : Node → Nat
  | ⟨_, _, _, children⟩ => sizeAll children + 1

/-- The number of nodes below the children of a node. -/
def sizeAll : List (String × Node) → Nat
  | [] => 0
  | c :: cs => sizeOne c + sizeAll cs

/-- The number of nodes of one child. -/
def sizeOne : String × Node → Nat
  | (_, n) => size n

end

theorem size_eq (n : Node) : n.size = sizeAll n.children + 1 := by
  cases n; simp [size]

theorem sizeAll_cons (role : String) (n : Node) (cs : List (String × Node)) :
    sizeAll ((role, n) :: cs) = n.size + sizeAll cs := by
  simp [sizeAll, sizeOne]

theorem size_pos (n : Node) : 0 < n.size := by
  rw [size_eq]; omega

theorem size_le_sizeAll {c : String × Node} {cs : List (String × Node)} (h : c ∈ cs) :
    c.2.size ≤ sizeAll cs := by
  induction cs with
  | nil => cases h
  | cons d ds ih =>
    obtain ⟨role, n⟩ := d
    rw [sizeAll_cons]
    rcases List.mem_cons.1 h with rfl | h
    · simp
    · have := ih h
      omega

/-- A child has fewer nodes than its parent. -/
theorem size_child_lt {n : Node} {c : String × Node} (h : c ∈ n.children) :
    c.2.size < n.size := by
  have := size_le_sizeAll h
  rw [size_eq n]
  omega

/-- The number of nodes of several trees. -/
def totalSize : List Node → Nat
  | [] => 0
  | n :: ns => n.size + totalSize ns

@[simp] theorem totalSize_nil : totalSize [] = 0 := rfl

@[simp] theorem totalSize_cons (n : Node) (ns : List Node) :
    totalSize (n :: ns) = n.size + totalSize ns := rfl

@[simp] theorem totalSize_append (xs ys : List Node) :
    totalSize (xs ++ ys) = totalSize xs + totalSize ys := by
  induction xs with
  | nil => simp
  | cons n ns ih => simp [ih, Nat.add_assoc]

/-- The children of a node have one node less than its tree. -/
theorem totalSize_children (n : Node) : totalSize (n.children.map (·.2)) + 1 = n.size := by
  have h : ∀ cs : List (String × Node), totalSize (cs.map (·.2)) = sizeAll cs := by
    intro cs
    induction cs with
    | nil => simp [sizeAll]
    | cons c cs ih => obtain ⟨role, m⟩ := c; rw [sizeAll_cons, ← ih]; simp
  rw [size_eq, h]

end Node

end CppIdioms
