import CppIdioms.Proofs.SwitchChains

/-!
# What a shape does not tell

Casts, constructions and allocations name a type, and a node of unknown kind has the kind that it was
written with. None of this is among the telling attributes. So let every node of a tree name another
type and another kind: its shape stays, and what the tree spells changes exactly at such nodes. An
expression without them is spelled like all others of its shape; for any other expression there is
one of the same shape that is spelled otherwise.

## Contents

* `Kind.namesMore`: the kinds whose nodes spell more than the shape tells.
* `Node.SpelledSame`: nodes that tell the same and spell the rest alike.
* `Node.respell`: the tree in which all nodes name a given type and kind.

## Main statements

* `Lockstep.of_mem`: what holds of corresponding nodes, node by node.
* `lockstep_respell`: a respelled tree tells the same.
* `shape_settles_spelling_iff`: which expressions their shape identifies, and what this means for the
  subjects of a reported chain.
-/

namespace CppIdioms

open CppIdioms.Rules

/-! ## §1 Spelled alike -/

/-- Nodes of the kind spell more than the telling attributes: the type that they name, or the kind
that they were written with. -/
def Kind.namesMore : Kind → Bool
  | .cStyleCastExpr | .constructExpr | .newExpr | .unknown => true
  | _ => false

/-- The nodes tell the same, and they name the same type or unknown kind where they name one. -/
structure Node.SpelledSame (n m : Node) : Prop extends n.TellsSame m where
  castType : n.kind = .cStyleCastExpr → n.typeOf "type" = m.typeOf "type"
  constructedType : n.kind = .constructExpr → n.typeOf "type" = m.typeOf "type"
  allocatedType : n.kind = .newExpr → n.typeOf "allocated_type" = m.typeOf "allocated_type"
  rawKind : n.kind = .unknown → n.attr "raw_kind" = m.attr "raw_kind"

theorem Node.TellsSame.spelledSame {n m : Node} (h : n.TellsSame m)
    (hkind : n.kind.namesMore = false) : n.SpelledSame m := by
  refine ⟨h, ?_, ?_, ?_, ?_⟩ <;>
  · intro hn
    rw [hn] at hkind
    cases hkind

/-- What follows from the relation at every node of the first tree holds of all that correspond. -/
theorem Lockstep.of_mem {r s : Node → Node → Prop} {n m : Node} (h : Lockstep r n m)
    (hrs : ∀ d ∈ n.walk, ∀ e, r d e → s d e) : Lockstep s n m := by
  induction hsize : n.size using Nat.strongRecOn generalizing n m with
  | ind size ih =>
    obtain ⟨here, below⟩ := lockstep_iff.1 h
    have hbelow := (List.forall₂_and_left (p := (· ∈ n.children)) _ _).2 ⟨fun _ hc => hc, below⟩
    refine lockstep_iff.2 ⟨hrs n n.self_mem_walk m here, hbelow.imp ?_⟩
    rintro c d ⟨hc, hrole, hcd⟩
    refine ⟨hrole, ih _ (hsize ▸ Node.size_child_lt hc) hcd (fun e he => ?_) rfl⟩
    exact hrs e (Node.mem_walk_of_child hc he)

/-- Each node of the second tree corresponds to one of the first. -/
theorem Lockstep.exists_mem {r : Node → Node → Prop} {n m e : Node} (h : Lockstep r n m)
    (he : e ∈ m.walk) : ∃ d ∈ n.walk, r d e := by
  induction hsize : n.size using Nat.strongRecOn generalizing n m with
  | ind size ih =>
    obtain ⟨here, below⟩ := lockstep_iff.1 h
    rw [Node.walk_eq] at he
    rcases List.mem_cons.1 he with rfl | he
    · exact ⟨n, n.self_mem_walk, here⟩
    · obtain ⟨_, hmem, he⟩ := List.mem_flatMap.1 he
      obtain ⟨c', hc', rfl⟩ := List.mem_map.1 hmem
      obtain ⟨c, hc, -, hcc'⟩ := exists_mem_of_forall₂ below hc'
      obtain ⟨d, hd, hde⟩ := ih _ (hsize ▸ Node.size_child_lt hc) hcc' he rfl
      exact ⟨d, Node.mem_walk_of_child hc hd, hde⟩

/-- Trees that tell the same are spelled alike if no node of the first names more. -/
theorem lockstep_spelledSame {n m : Node} (h : Lockstep Node.TellsSame n m)
    (hplain : ∀ d ∈ n.walk, d.kind.namesMore = false) : Lockstep Node.SpelledSame n m :=
  h.of_mem fun d hd _ htells => htells.spelledSame (hplain d hd)

/-- A text matches itself. -/
theorem Value.matches_str (s : String) : (Value.str s).Matches (.str s) := by
  refine ⟨.leaf (.str s), .leaf (.str s), ?_, ?_, ?_⟩
  · exact Comparable.ofValue_of_isCompound rfl
  · exact Comparable.ofValue_of_isCompound rfl
  · simp [Comparable.same, Value.same, Value.sameScalar, Value.numeric?]

/-! ## §2 Other attributes -/

mutual

/-- The tree with other attributes at every node. -/
def Node.mapAttrs (f : Entries → Entries) : Node → Node
  | ⟨kind, span, attrs, children⟩ => ⟨kind, span, f attrs, Node.mapAttrsAll f children⟩

/-- The children of a node with other attributes. -/
def Node.mapAttrsAll (f : Entries → Entries) : List (String × Node) → List (String × Node)
  | [] => []
  | c :: cs => Node.mapAttrsOne f c :: Node.mapAttrsAll f cs

/-- A child with other attributes, under its role. -/
def Node.mapAttrsOne (f : Entries → Entries) : String × Node → String × Node
  | (role, n) => (role, Node.mapAttrs f n)

end

namespace Node

variable (f : Entries → Entries) (n : Node)

theorem mapAttrsAll_eq (cs : List (String × Node)) :
    mapAttrsAll f cs = cs.map fun c => (c.1, c.2.mapAttrs f) := by
  induction cs with
  | nil => rw [mapAttrsAll, List.map_nil]
  | cons c cs ih => rw [mapAttrsAll, ih, mapAttrsOne, List.map_cons]

theorem mapAttrs_eq :
    n.mapAttrs f = ⟨n.kind, n.span, f n.attrs, n.children.map fun c => (c.1, c.2.mapAttrs f)⟩ := by
  cases n
  rw [mapAttrs, mapAttrsAll_eq]

@[simp] theorem kind_mapAttrs : (n.mapAttrs f).kind = n.kind := by rw [mapAttrs_eq]

@[simp] theorem attrs_mapAttrs : (n.mapAttrs f).attrs = f n.attrs := by rw [mapAttrs_eq]

@[simp] theorem children_mapAttrs :
    (n.mapAttrs f).children = n.children.map fun c => (c.1, c.2.mapAttrs f) := by rw [mapAttrs_eq]

theorem wrapped?_mapAttrs : (n.mapAttrs f).wrapped? = n.wrapped?.map (mapAttrs f) := by
  unfold wrapped? onlyChild?
  rw [kind_mapAttrs, children_mapAttrs]
  split
  · cases n.children with
    | nil => rfl
    | cons c cs => cases cs <;> rfl
  · rfl

theorem bare_mapAttrs (n : Node) : (n.mapAttrs f).bare = n.bare.mapAttrs f := by
  induction hsize : n.size using Nat.strongRecOn generalizing n with
  | ind size ih =>
    have hwrapped := wrapped?_mapAttrs f n
    cases hn : n.wrapped? with
    | some c =>
      rw [hn] at hwrapped
      rw [bare_of_wrapped?_eq_some hn, bare_of_wrapped?_eq_some hwrapped]
      exact ih c.size (hsize ▸ size_wrapped?_lt hn) c rfl
    | none =>
      rw [hn] at hwrapped
      rw [bare_of_wrapped?_eq_none hn, bare_of_wrapped?_eq_none hwrapped, mapAttrs_eq,
        mapAttrs_eq]
      simp only [List.map_map]
      congr 1
      refine List.map_congr_left fun c hc => ?_
      simp [ih _ (hsize ▸ size_child_lt hc) c.2 rfl]

end Node

/-- A tree that tells what it tells itself does so with other attributes that tell the same. -/
theorem lockstep_mapAttrs {r : Node → Node → Prop} {f : Entries → Entries}
    (hf : ∀ n, r n n → r n (n.mapAttrs f)) {n : Node} (h : Lockstep r n n) :
    Lockstep r n (n.mapAttrs f) := by
  induction hsize : n.size using Nat.strongRecOn generalizing n with
  | ind size ih =>
    obtain ⟨here, below⟩ := lockstep_iff.1 h
    refine lockstep_iff.2 ⟨hf n here, ?_⟩
    rw [Node.children_mapAttrs, List.forall₂_map_right_iff, List.forall₂_same]
    intro c hc
    have hself := (List.forall₂_same.1 below c hc).2
    exact ⟨rfl, ih _ (hsize ▸ Node.size_child_lt hc) hself rfl⟩

/-- Each node corresponds to itself with other attributes. -/
theorem Lockstep.of_mapAttrs {r : Node → Node → Prop} {f : Entries → Entries} {n : Node}
    (h : Lockstep r n (n.mapAttrs f)) : ∀ d ∈ n.walk, r d (d.mapAttrs f) := by
  induction hsize : n.size using Nat.strongRecOn generalizing n with
  | ind size ih =>
    obtain ⟨here, below⟩ := lockstep_iff.1 h
    rw [Node.children_mapAttrs, List.forall₂_map_right_iff, List.forall₂_same] at below
    intro d hd
    rw [Node.walk_eq] at hd
    rcases List.mem_cons.1 hd with rfl | hd
    · exact here
    · obtain ⟨_, hmem, hd⟩ := List.mem_flatMap.1 hd
      obtain ⟨c, hc, rfl⟩ := List.mem_map.1 hmem
      exact ih _ (hsize ▸ Node.size_child_lt hc) (below c hc).2 rfl d hd

/-! ## §3 Respelling -/

/-- The attributes of a node that names a given type and kind. -/
def respelled (v : Value) (attrs : Entries) : Entries :=
  (.str "type", v) :: (.str "allocated_type", v) :: (.str "raw_kind", v) :: attrs

theorem get?_respelled (v : Value) (attrs : Entries) :
    ∀ key ∈ shapeAttributes, Entries.get? key (respelled v attrs) = Entries.get? key attrs := by
  simp [shapeAttributes, respelled, Entries.get?]

theorem Node.TellsSame.respelled {n : Node} (h : n.TellsSame n) (v : Value) :
    n.TellsSame (n.mapAttrs (respelled v)) := by
  refine ⟨by simp, fun key hkey => ?_⟩
  rw [Node.attrs_mapAttrs, get?_respelled v n.attrs key hkey]
  exact h.attrs key hkey

/-- A respelled tree has the shape of the tree. -/
theorem Node.SameShape.respelled {a : Node} (h : a.SameShape a) (v : Value) :
    a.SameShape (a.mapAttrs (respelled v)) := by
  rw [sameShape_iff_lockstep] at h ⊢
  rw [Node.bare_mapAttrs]
  exact lockstep_mapAttrs (fun n hn => hn.respelled v) h

/-- A node that names more is not spelled the same under both of two values that denote different
types. -/
theorem namesMore_eq_false_of_respelled {n : Node} {v w : Value}
    (hvw : CppType.ofValue v ≠ CppType.ofValue w) (hv : n.SpelledSame (n.mapAttrs (respelled v)))
    (hw : n.SpelledSame (n.mapAttrs (respelled w))) : n.kind.namesMore = false := by
  have htype (u : Value) : (n.mapAttrs (respelled u)).typeOf "type" = CppType.ofValue u := by
    simp [Node.typeOf, Node.attr, respelled, Entries.find, Entries.get?]
  have hallocated (u : Value) :
      (n.mapAttrs (respelled u)).typeOf "allocated_type" = CppType.ofValue u := by
    simp [Node.typeOf, Node.attr, respelled, Entries.find, Entries.get?]
  have hraw (u : Value) : (n.mapAttrs (respelled u)).attr "raw_kind" = u := by
    simp [Node.attr, respelled, Entries.find, Entries.get?]
  by_contra hmore
  have hkinds : n.kind = .cStyleCastExpr ∨ n.kind = .constructExpr ∨ n.kind = .newExpr ∨
      n.kind = .unknown := by
    cases hkind : n.kind <;> simp [hkind, Kind.namesMore] at hmore ⊢
  rcases hkinds with hkind | hkind | hkind | hkind
  · exact hvw (by rw [← htype v, ← hv.castType hkind, hw.castType hkind, htype])
  · exact hvw (by rw [← htype v, ← hv.constructedType hkind, hw.constructedType hkind, htype])
  · exact hvw (by rw [← hallocated v, ← hv.allocatedType hkind, hw.allocatedType hkind, hallocated])
  · exact hvw (by rw [← hraw v, ← hv.rawKind hkind, hw.rawKind hkind, hraw])

theorem ofValue_char_ne_long : CppType.ofValue (.str "char") ≠ CppType.ofValue (.str "long") := by
  obtain ⟨char, hchar, hcharRead⟩ :=
    CppType.ofValue_str_of_fits (by decide +kernel : CppType.ExtentsFit "char".toList)
  obtain ⟨long, hlong, hlongRead⟩ :=
    CppType.ofValue_str_of_fits (by decide +kernel : CppType.ExtentsFit "long".toList)
  rw [hchar, hlong]
  rintro ⟨⟩
  have hspelling := (CppType.spelling_of_ofChars hcharRead).symm.trans
    (CppType.spelling_of_ofChars hlongRead)
  revert hspelling
  decide +kernel

/-- All expressions of the shape of one are spelled like it exactly if none of its nodes names
more. -/
theorem Node.SameShape.settles_iff {a : Node} (ha : a.SameShape a) :
    (∀ b : Node, a.SameShape b → Lockstep Node.SpelledSame a.bare b.bare) ↔
      ∀ n ∈ a.bare.walk, n.kind.namesMore = false := by
  constructor
  · intro h n hn
    have hat (v : Value) : n.SpelledSame (n.mapAttrs (CppIdioms.respelled v)) := by
      have hlockstep := h _ (ha.respelled v)
      rw [Node.bare_mapAttrs] at hlockstep
      exact hlockstep.of_mapAttrs n hn
    exact namesMore_eq_false_of_respelled ofValue_char_ne_long (hat _) (hat _)
  · intro hplain b hab
    exact lockstep_spelledSame (sameShape_iff_lockstep.1 hab) hplain

/-! ## §4 Subjects of chains -/

/-- If the first subject of a chain names no more than its shape tells, all of them are spelled like
it. -/
theorem CouldBeSwitch.pairwise_spelledSame {min : Int} {c : Cursor} {subject : Node}
    {cases : List (Node × CaseLabel)} (h : CouldBeSwitch min c subject cases)
    (hplain : ∀ n ∈ subject.bare.walk, n.kind.namesMore = false) :
    cases.Pairwise fun j k => Lockstep Node.SpelledSame j.1.bare k.1.bare := by
  obtain ⟨first, hfirst, rfl⟩ := Option.map_eq_some_iff.1 h.first
  have hall : ∀ k ∈ cases, ∀ n ∈ k.1.bare.walk, n.kind.namesMore = false := by
    obtain ⟨rest, rfl⟩ := List.head?_eq_some_iff.1 hfirst
    refine List.forall_mem_cons.2 ⟨hplain, fun k hk n hn => ?_⟩
    have hsame := (List.pairwise_cons.1 h.alike).1 k hk
    obtain ⟨d, hd, hdn⟩ := (sameShape_iff_lockstep.1 hsame).exists_mem hn
    exact hdn.kind ▸ hplain d hd
  exact h.alike.imp_of_mem fun hj _ hjk =>
    lockstep_spelledSame (sameShape_iff_lockstep.1 hjk) (hall _ hj)

/-- The shape of an expression determines how it is spelled exactly if none of its nodes names a type
or an unknown kind. So the subjects of a reported chain tell the same, and they are spelled the same
if the first of them has no such node. -/
theorem shape_settles_spelling_iff (a : Node) (ha : a.SameShape a) :
    ((∀ b : Node, a.SameShape b → Lockstep Node.SpelledSame a.bare b.bare) ↔
      ∀ n ∈ a.bare.walk, n.kind.namesMore = false) ∧
    ∀ (min : Int) (root : Node) (c : Cursor) (message : String), root.Legible →
      c ∈ (Cursor.root root).walk → c.node.kind = .ifStatement →
      (switchChain (.int min)).inspect c = .ok [switchChainRule.finding c.node message] →
      ∃ subject cases, CouldBeSwitch min c subject cases ∧
        (cases.Pairwise fun j k => Lockstep Node.TellsSame j.1.bare k.1.bare) ∧
        ((∀ n ∈ subject.bare.walk, n.kind.namesMore = false) →
          cases.Pairwise fun j k => Lockstep Node.SpelledSame j.1.bare k.1.bare) := by
  refine ⟨ha.settles_iff, fun min root c message hroot hc hif hreported => ?_⟩
  have hlegible : c.node.Legible := hroot.of_mem_walk (List.mem_map_of_mem hc)
  obtain ⟨found, hfound, hjudged⟩ := hlegible.answers_switchChain hif min
  cases hfound.symm.trans hreported
  obtain ⟨subject, cases, hcould, -⟩ := (hjudged.reported message).1 rfl
  exact ⟨subject, cases, hcould, hcould.alike.imp sameShape_iff_lockstep.1,
    hcould.pairwise_spelledSame⟩

/-- The negation of a variable is spelled like all expressions of its shape, and a chain that compares
it has subjects that tell the same. -/
theorem spelling_of_negation :
    let s : Span := ⟨"a.cpp", 3, 3, 7, 4⟩
    let x : Node := ⟨.declRefExpr, s, [(.str "name", .str "x")], []⟩
    let negation : Node := ⟨.unaryOperator, s, [(.str "operator", .str "-")], [("operand", x)]⟩
    let equality (n : Int) : Node := ⟨.binaryOperator, s, [(.str "operator", .str "==")],
      [("lhs", negation), ("rhs", ⟨.literal, s, [(.str "value", .int n)], []⟩)]⟩
    let head := Cursor.root ⟨.ifStatement, s, [], [("condition", equality 1),
      ("else", ⟨.ifStatement, s, [], [("condition", equality 2)]⟩)]⟩
    (∀ b, negation.SameShape b → Lockstep Node.SpelledSame negation.bare b.bare) ∧
      ∃ subject cases, CouldBeSwitch 2 head subject cases ∧
        cases.Pairwise fun j k => Lockstep Node.TellsSame j.1.bare k.1.bare := by
  intro s x negation equality head
  have hbare : negation.bare = negation := by
    simp [negation, x, Node.bare, Node.bareAll, Node.bareOne, Kind.isWrapper]
  have hself : negation.SameShape negation := by
    rw [sameShape_iff_lockstep, hbare]
    refine .node ⟨rfl, ?_⟩ (.cons (.node ⟨rfl, ?_⟩ .nil) .nil)
    · simp [negation, shapeAttributes, Entries.get?, Value.matches_str]
    · simp [x, shapeAttributes, Entries.get?, Value.matches_str]
  obtain ⟨hsettles, hchains⟩ := shape_settles_spelling_iff negation hself
  have hplain : ∀ n ∈ negation.bare.walk, n.kind.namesMore = false := by
    rw [hbare]
    simp [negation, x, Node.walk_eq, Kind.namesMore]
  have hlegible : head.node.Legible := by
    intro n hn
    simp only [head, equality, negation, x, Cursor.root, Node.walk_eq, List.map_cons, List.map_nil,
      List.flatMap_cons, List.flatMap_nil, List.append_nil, List.cons_append, List.nil_append,
      List.mem_cons, List.not_mem_nil, or_false] at hn
    rcases hn with rfl | rfl | rfl | rfl | rfl | rfl | rfl | rfl | rfl | rfl
    all_goals
      refine .of_untyped ?_ rfl
      simp [shapeAttributes, Entries.get?, Value.isCompound]
  have hmem : head ∈ head.walk := Cursor.mem_walk_root.2 .here
  have hverdict : (switchChain (.int 2)).inspect head = .ok [switchChainRule.finding head.node
      ("if/else-if chain compares 'expression' against 2 distinct constants; "
        ++ "convert it to a switch statement")] := by
    decide +kernel
  obtain ⟨subject, cases, hcould, halike, -⟩ := hchains 2 _ head _ hlegible hmem rfl hverdict
  exact ⟨hsettles.2 hplain, subject, cases, hcould, halike⟩

/-- The casts of a variable to two types have the same shape and are spelled differently, and a chain
that compares them in turn is reported. -/
theorem shape_merges_casts :
    let s : Span := ⟨"a.cpp", 3, 3, 7, 4⟩
    let x : Node := ⟨.declRefExpr, s, [(.str "name", .str "x")], []⟩
    let cast (type : String) : Node :=
      ⟨.cStyleCastExpr, s, [(.str "type", .str type)], [("operand", x)]⟩
    let branch (type : String) (n : Int) (rest : List (String × Node)) : Node :=
      ⟨.ifStatement, s, [], ("condition", ⟨.binaryOperator, s, [(.str "operator", .str "==")],
        [("lhs", cast type), ("rhs", ⟨.literal, s, [(.str "value", .int n)], []⟩)]⟩) :: rest⟩
    let chain := branch "char" 1 [("else", branch "long" 2 [("else",
      branch "char" 3 [("else", branch "long" 4 [])])])]
    (cast "char").SameShape (cast "long") ∧
      ¬Lockstep Node.SpelledSame (cast "char").bare (cast "long").bare ∧
      (switchChain (.int 4)).inspect (.root chain) = .ok [switchChainRule.finding chain
        ("if/else-if chain compares 'expression' against 4 distinct constants; "
          ++ "convert it to a switch statement")] := by
  intro s x cast branch chain
  have hbare (type : String) : (cast type).bare = cast type := by
    simp [cast, x, Node.bare, Node.bareAll, Node.bareOne, Kind.isWrapper]
  rw [sameShape_iff_lockstep, hbare, hbare]
  refine ⟨?_, fun h => ?_, by decide +kernel⟩
  · have hx : x.TellsSame x := by
      refine ⟨rfl, ?_⟩
      simp [x, shapeAttributes, Entries.get?, Value.matches_str]
    have hcast : (cast "char").TellsSame (cast "long") := by
      refine ⟨rfl, ?_⟩
      simp [cast, shapeAttributes, Entries.get?]
    exact .node hcast (.cons (.node hx .nil) .nil)
  · have htypes := (lockstep_iff.1 h).1.castType rfl
    exact ofValue_char_ne_long htypes

end CppIdioms
