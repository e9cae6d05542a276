import CppIdioms.Tree.Node

/-!
# Looking through wrappers

Parentheses and implicit conversions around an expression do not change what it designates, and a
member access or a subscript designates a part of the object it starts from.

## Contents

* `Node.peel`: an expression without the wrappers around it.
* `Node.accessed?`: the object that an expression designates or a part of which it designates.
* `Node.designates`: the expression designates a variable or a part of it.

## Main statements

* `Node.size_peel_le`: peeling never enlarges a tree, so following accesses ends.
-/

namespace CppIdioms

namespace Node

/-! ## §1 Wrappers -/

theorem size_onlyChild?_lt {n c : Node} (h : n.onlyChild? = some c) : c.size < n.size := by
  unfold onlyChild? at h
  split at h
  · rename_i role d hc
    simp only [Option.some.injEq] at h
    subst h
    rw [size_eq n, hc, sizeAll_cons]
    omega
  · contradiction

/-- The expression inside the wrappers around it (`strip_parens`). A wrapper without exactly one
child is kept. -/
def peel (n : Node) : Node :=
  if n.kind.isWrapper then
    match _h : n.onlyChild? with
    | some c => c.peel
    | none => n
  else n
termination_by n.size
decreasing_by exact size_onlyChild?_lt _h

/-- Peeling never enlarges a tree. -/
theorem size_peel_le (n : Node) : n.peel.size ≤ n.size := by
  fun_induction peel n with
  | case1 n _ c h ih => exact Nat.le_trans ih (Nat.le_of_lt (size_onlyChild?_lt h))
  | case2 => exact Nat.le_refl _
  | case3 => exact Nat.le_refl _

/-! ## §2 Accesses -/

/-- The role of the object that an access starts from. -/
def accessRole? : Kind → Option String
  | .memberExpr => some "base"
  | .containerIndexExpr => some "container"
  | _ => none

theorem size_child?_lt {n c : Node} {role : String} (h : n.child? role = some c) :
    c.size < n.size := by
  obtain ⟨d, hd, rfl⟩ := Option.map_eq_some_iff.1 h
  exact size_child_lt (List.mem_of_find?_eq_some hd)

/-- The object that an expression designates or a part of which it designates, if every access on
the way names the object it starts from (`base_object`). -/
def accessed? (n : Node) : Option Node :=
  match accessRole? n.peel.kind with
  | none => some n.peel
  | some role =>
    match _h : n.peel.child? role with
    | none => none
    | some c => c.accessed?
termination_by n.size
decreasing_by exact Nat.lt_of_lt_of_le (size_child?_lt _h) (size_peel_le n)

/-- The expression designates the variable of a given name, or a part of it (`names_variable`). -/
def designates (n : Node) (name : String) : Bool :=
  match n.accessed? with
  | some target => target.kind == .declRefExpr && target.name? == some name
  | none => false

/-- The first child under a role, without wrappers. -/
def peeled? (n : Node) (role : String) : Option Node := (n.child? role).map peel

theorem size_peeled?_lt {n c : Node} {role : String} (h : n.peeled? role = some c) :
    c.size < n.size := by
  obtain ⟨d, hd, rfl⟩ := Option.map_eq_some_iff.1 h
  exact Nat.lt_of_le_of_lt (size_peel_le d) (size_child?_lt hd)

end Node

end CppIdioms
