import CppIdioms.Proofs.Robustness
import CppIdioms.Proofs.Spelling

/-!
# Which chains could be a switch

A chain of if-statements is judged by a loop that leaves at the first condition that does not fit. It
remembers the shape of the first subject and the constants seen so far. Here the verdict is described
without the loop: what each condition compares, that the subjects have the same shape pairwise and
that the constants differ pairwise.

## Contents

* `Node.Readable`, `Node.Legible`: nodes and trees of which all can be read that the verdict needs.
* `Node.Denotes`, `Compares`: constants, and conditions that compare a subject with a constant.
* `Cursor.else?`, `Cursor.chain`: the if-statements along the `else` branches.
* `CouldBeSwitch`: what is asked of a chain.
* `Node.Exchanges`, `SameComparison`, `Restates`: chains with the operands of comparisons exchanged.

## Main statements

* `Node.Legible.answers_splitEquality`: a condition is split exactly if it compares.
* `chainConditions?_eq_mapM`: a chain has conditions exactly if each of its statements has one.
* `answers_commonSubject_some`, `answers_commonSubject_none`: what the loop says from within, and
  from its start.
* `switch_chain_reported_iff`: the head of a chain is reported exactly if the chain could be a switch.
-/

namespace CppIdioms

open CppIdioms.Rules

/-! ## §1 Legible trees -/

/-- The attributes that are compared hold neither lists nor mappings, and no type is faulty. -/
structure Node.Readable (n : Node) : Prop where
  single : ∀ key ∈ "literal_kind" :: shapeAttributes, ∀ v,
    Entries.get? key n.attrs = some v → v.isCompound = false
  type : ∃ t, n.typeAt "type" = .ok t

/-- Without a type there is none to be faulty. -/
theorem Node.Readable.of_untyped {n : Node} (hsingle : ∀ key ∈ "literal_kind" :: shapeAttributes,
    ∀ v, Entries.get? key n.attrs = some v → v.isCompound = false) (htype : n.attr "type" = .null) :
    n.Readable := by
  refine ⟨hsingle, none, ?_⟩
  rw [Node.typeAt, Node.typeOf, htype, CppType.ofValue]
  · rfl
  · rintro _ ⟨⟩
  · rintro _ ⟨⟩

/-- All nodes of the tree are readable. -/
def Node.Legible (root : Node) : Prop := ∀ n ∈ root.walk, n.Readable

namespace Node.Legible

variable {n m : Node}

theorem readable (h : n.Legible) : n.Readable := h n n.self_mem_walk

theorem of_mem_walk (h : n.Legible) (hm : m ∈ n.walk) : m.Legible :=
  fun d hd => h d (Node.mem_walk_trans hd hm)

theorem peeled? (h : n.Legible) {role : String} (hm : n.peel.peeled? role = some m) : m.Legible :=
  h.of_mem_walk (Node.mem_walk_trans (Node.mem_walk_of_peeled? hm) n.peel_mem_walk)

theorem replies_shape (h : n.Legible) : Replies n.shape :=
  Node.replies_shape fun m hm => replies_tellingAttributes fun key hkey =>
    (h m hm).single key (List.mem_cons_of_mem _ hkey)

end Node.Legible

/-! ## §2 Constants -/

/-- The constant that an expression is: a literal of a kind that can be switched on, by its value, or
an enumerator, by its name. -/
inductive Node.Denotes (n : Node) : CaseLabel → Prop where
  | literal (kind : n.kind = .literal)
      (switchable : ∃ word ∈ ["integer", "character", "bool"],
        n.attrOr "literal_kind" (.str "integer") = .str word) :
      n.Denotes (.literal (Literal.literalValue n))
  | enumerator (kind : n.kind = .declRefExpr) (marked : n.has "is_enumerator") :
      n.Denotes (.enumerator (if n.has "qualified_name" then (n.attr "qualified_name").text
        else n.name?.getD Value.null.text))

theorem Value.answers_among {v : Value} (h : v.isCompound = false) (texts : List String) :
    Answers (fun b => b = true ↔ ∃ s ∈ texts, v = .str s) (v.among texts) := by
  cases v with
  | list items => cases h
  | map entries => cases h
  | str s => exact .ok (by simp)
  | _ => exact .ok (by simp)

theorem Node.Readable.isCompound_literal_kind {n : Node} (h : n.Readable) :
    (n.attrOr "literal_kind" (.str "integer")).isCompound = false := by
  unfold Node.attrOr
  cases hget : Entries.get? "literal_kind" n.attrs with
  | none => rfl
  | some v => exact h.single _ List.mem_cons_self v hget

theorem Node.Readable.answers_caseLabel? {n : Node} (h : n.Readable) :
    Answers (fun found => ∀ label, found = some label ↔ n.Denotes label) (caseLabel? n) := by
  unfold caseLabel?
  split
  · next hkind =>
    refine (Value.answers_among h.isCompound_literal_kind _).bind fun switchable hswitchable =>
      .ok fun label => ?_
    constructor
    · intro hlabel
      split at hlabel
      · next hyes =>
        cases hlabel
        exact .literal hkind (hswitchable.1 hyes)
      · cases hlabel
    · rintro (⟨-, hword⟩ | ⟨hkind', -⟩)
      · rw [if_pos (hswitchable.2 hword)]
      · cases hkind.symm.trans hkind'
  · next hkind =>
    split
    · next hmarked =>
      simp only [Bool.and_eq_true, decide_eq_true_eq] at hmarked
      refine .ok fun label => ⟨?_, ?_⟩
      · rintro ⟨⟩
        exact .enumerator hmarked.1 hmarked.2
      · rintro (⟨hkind', -⟩ | -)
        · exact absurd hkind' hkind
        · rfl
    · next hmarked =>
      simp only [Bool.and_eq_true, decide_eq_true_eq] at hmarked
      refine .ok fun label => ⟨nofun, ?_⟩
      rintro (⟨hkind', -⟩ | ⟨hkind', hmarked'⟩)
      · exact absurd hkind' hkind
      · exact absurd ⟨hkind', hmarked'⟩ hmarked

theorem Value.among_eq_true_iff {v : Value} {texts : List String} :
    v.among texts = .ok true ↔ ∃ s ∈ texts, v = .str s := by
  cases v with
  | str s => simp [Value.among, Value.isOneOf, Except.mapError]
  | _ => simp [Value.among, Value.isOneOf, Except.mapError]

/-- An expression is found to be the constant that it denotes, and no other one. -/
theorem caseLabel?_eq_some_iff {n : Node} {label : CaseLabel} :
    caseLabel? n = .ok (some label) ↔ n.Denotes label := by
  constructor
  · intro h
    unfold caseLabel? at h
    split at h
    · next hkind =>
      obtain ⟨switchable, hswitchable, h⟩ := exists_of_bind_eq_ok h
      cases switchable with
      | false => cases h
      | true =>
        cases h
        exact .literal hkind (Value.among_eq_true_iff.1 hswitchable)
    · split at h
      · next hmarked =>
        simp only [Bool.and_eq_true, decide_eq_true_eq] at hmarked
        cases h
        exact .enumerator hmarked.1 hmarked.2
      · cases h
  · rintro (⟨hkind, hword⟩ | ⟨hkind, hmarked⟩)
    · rw [caseLabel?, if_pos hkind, Value.among_eq_true_iff.2 hword]
      rfl
    · have hliteral : n.kind ≠ .literal := by rw [hkind]; decide
      rw [caseLabel?, if_neg hliteral, if_pos (by simp [hkind, hmarked])]
      rfl

/-! ## §3 Conditions -/

/-- Inside its wrappers the condition is an equality of exactly one constant and a subject, in either
order and each within wrappers. -/
structure Compares (condition subject : Node) (label : CaseLabel) : Prop where
  kind : condition.peel.kind = .binaryOperator
  operator : condition.peel.attr "operator" = .str "=="
  operands : ∃ constant : Node, constant.Denotes label ∧ (∀ l, ¬subject.Denotes l) ∧
    (condition.peel.peeled? "lhs" = some subject ∧ condition.peel.peeled? "rhs" = some constant ∨
      condition.peel.peeled? "lhs" = some constant ∧ condition.peel.peeled? "rhs" = some subject)

theorem Value.isText_iff {v : Value} {s : String} : v.isText s ↔ v = .str s := by
  cases v <;> simp [Value.isText]

/-- A condition is split exactly if it compares, and into what it compares. -/
theorem Node.Legible.answers_splitEquality {condition : Node} (h : condition.Legible) :
    Answers (fun split => ∀ subject label,
      split = some (subject, label) ↔ Compares condition subject label) (splitEquality condition) := by
  unfold splitEquality
  dsimp only
  split
  · next hequality =>
    simp only [Bool.and_eq_true, decide_eq_true_eq, Value.isText_iff] at hequality
    split
    · next lhs rhs hlhs hrhs =>
      refine (h.peeled? hlhs).readable.answers_caseLabel?.bind fun left hleft =>
        (h.peeled? hrhs).readable.answers_caseLabel?.bind fun right hright => ?_
      have hcompares (subject : Node) (label : CaseLabel) :
          Compares condition subject label ↔
            (left = none ∧ right = some label ∧ lhs = subject) ∨
              (left = some label ∧ right = none ∧ rhs = subject) := by
        have hnone {found : Option CaseLabel} {n : Node}
            (hn : ∀ l, found = some l ↔ n.Denotes l) : found = none ↔ ∀ l, ¬n.Denotes l := by
          simp [← hn, Option.eq_none_iff_forall_ne_some]
        constructor
        · rintro ⟨-, -, constant, hconstant, hsubject, ⟨hl, hr⟩ | ⟨hl, hr⟩⟩
          · cases hlhs.symm.trans hl
            cases hrhs.symm.trans hr
            exact .inl ⟨(hnone hleft).2 hsubject, (hright label).2 hconstant, rfl⟩
          · cases hlhs.symm.trans hl
            cases hrhs.symm.trans hr
            exact .inr ⟨(hleft label).2 hconstant, (hnone hright).2 hsubject, rfl⟩
        · rintro (⟨hl, hr, rfl⟩ | ⟨hl, hr, rfl⟩)
          · exact ⟨hequality.1, hequality.2, rhs, (hright label).1 hr, (hnone hleft).1 hl,
              .inl ⟨hlhs, hrhs⟩⟩
          · exact ⟨hequality.1, hequality.2, lhs, (hleft label).1 hl, (hnone hright).1 hr,
              .inr ⟨hlhs, hrhs⟩⟩
      split
      · exact .ok fun subject label => by rw [hcompares]; simp [eq_comm, and_comm]
      · exact .ok fun subject label => by rw [hcompares]; simp [eq_comm, and_comm]
      · next hleft hright => 
        exact .ok fun subject label => by rw [hcompares]; cases left <;> cases right <;> simp_all
    · next hmissing =>
      refine .ok fun subject label => ⟨nofun, ?_⟩
      rintro ⟨-, -, constant, -, -, ⟨hl, hr⟩ | ⟨hl, hr⟩⟩
      · exact absurd hr (hmissing _ _ hl)
      · exact absurd hr (hmissing _ _ hl)
  · next hequality =>
    simp only [Bool.and_eq_true, decide_eq_true_eq, Value.isText_iff] at hequality
    exact .ok fun subject label => ⟨nofun, fun hc => absurd ⟨hc.kind, hc.operator⟩ hequality⟩

/-! ## §4 Chains -/

namespace Cursor

/-- The cursor at the first `else` branch. -/
def else? (c : Cursor) : Option Cursor := c.children.find? fun d => d.role? == some "else"

theorem map_node_else? (c : Cursor) : c.else?.map (·.node) = c.node.child? "else" := by
  have hchild : c.node.child? "else" =
      (c.node.children.zipIdx.find? fun x => x.1.1 == "else").map (·.1.2) := by
    rw [Node.child?]
    conv_lhs => rw [← List.zipIdx_map_fst 0 c.node.children]
    rw [List.find?_map, Option.map_map]
    rfl
  rw [hchild, else?, children, List.find?_map, Option.map_map]
  rfl

theorem size_else?_lt {c d : Cursor} (h : c.else? = some d) : d.node.size < c.node.size :=
  size_lt_of_mem_children (List.mem_of_find?_eq_some h)

/-- The if-statement and those that follow it along first `else` branches. -/
def chain (c : Cursor) : List Cursor :=
  if c.node.kind = .ifStatement then
    match _h : c.else? with
    | none => [c]
    | some d => c :: d.chain
  else []
termination_by c.node.size
decreasing_by exact size_else?_lt _h

theorem chain_of_else?_eq_none {c : Cursor} (hkind : c.node.kind = .ifStatement)
    (h : c.else? = none) : c.chain = [c] := by
  rw [chain, if_pos hkind]
  split
  · rfl
  · next hd => cases h.symm.trans hd

theorem chain_of_else?_eq_some {c d : Cursor} (hkind : c.node.kind = .ifStatement)
    (h : c.else? = some d) : c.chain = c :: d.chain := by
  rw [chain, if_pos hkind]
  split
  · next hd => cases h.symm.trans hd
  · next hd =>
    cases h.symm.trans hd
    rfl

theorem continuesChain_else? {c d : Cursor} (hkind : c.node.kind = .ifStatement)
    (h : c.else? = some d) : continuesChain d := by
  have hrole := List.find?_some h
  obtain ⟨role, position, -, hpath⟩ := mem_children.1 (List.mem_of_find?_eq_some h)
  simp only [role?, hpath, List.head?_cons, Option.map_some] at hrole
  simp [continuesChain, parent?, role?, hpath, hkind, beq_iff_eq.1 hrole]

/-- The if-statement comes first in its chain, and all that follow are `else` branches. -/
theorem chain_eq_cons {c : Cursor} (hkind : c.node.kind = .ifStatement) :
    ∃ rest, c.chain = c :: rest ∧ ∀ d ∈ rest, continuesChain d := by
  induction hsize : c.node.size using Nat.strongRecOn generalizing c with
  | ind size ih =>
    cases helse : c.else? with
    | none => exact ⟨[], chain_of_else?_eq_none hkind helse, List.forall_mem_nil _⟩
    | some d =>
      refine ⟨d.chain, chain_of_else?_eq_some hkind helse, ?_⟩
      by_cases hd : d.node.kind = .ifStatement
      · obtain ⟨rest, hrest, hcontinue⟩ := ih _ (hsize ▸ size_else?_lt helse) hd rfl
        rw [hrest]
        exact List.forall_mem_cons.2 ⟨continuesChain_else? hkind helse, hcontinue⟩
      · rw [chain, if_neg hd]
        exact List.forall_mem_nil _

end Cursor

/-- The condition of one statement of a chain. -/
def branchCondition? (n : Node) : Option Node :=
  if n.has "constexpr" || (n.child? "init").isSome then none else n.child? "condition"

theorem branchCondition?_eq_some {n condition : Node} :
    branchCondition? n = some condition ↔
      n.has "constexpr" = false ∧ n.child? "init" = none ∧ n.child? "condition" = some condition := by
  simp [branchCondition?, and_assoc]

/-- A chain has conditions exactly if each of its statements has one. -/
theorem chainConditions?_eq_mapM (c : Cursor) :
    chainConditions? c.node = c.chain.mapM fun d => branchCondition? d.node := by
  induction hsize : c.node.size using Nat.strongRecOn generalizing c with
  | ind size ih =>
    rw [chainConditions?_eq]
    by_cases hkind : c.node.kind = .ifStatement
    · rw [if_neg (not_not_intro hkind)]
      have hnode := c.map_node_else?
      cases helse : c.else? with
      | none =>
        rw [helse] at hnode
        rw [Cursor.chain_of_else?_eq_none hkind helse, ← hnode, List.mapM_cons]
        simp only [branchCondition?]
        split
        · rfl
        · cases c.node.child? "condition" <;> rfl
      | some d =>
        rw [helse] at hnode
        rw [Cursor.chain_of_else?_eq_some hkind helse, ← hnode, List.mapM_cons,
          ← ih _ (hsize ▸ Cursor.size_else?_lt helse) d rfl]
        simp only [branchCondition?]
        split
        · rfl
        · cases c.node.child? "condition" with
          | none => rfl
          | some condition => cases h : chainConditions? d.node <;> simp [h]
    · rw [if_pos hkind, Cursor.chain, if_neg hkind]
      rfl

theorem mapM_eq_some_iff {α β : Type} {f : α → Option β} {as : List α} {bs : List β} :
    as.mapM f = some bs ↔ List.Forall₂ (fun a b => f a = some b) as bs := by
  induction as generalizing bs with
  | nil => simp [eq_comm]
  | cons a as ih =>
    rw [List.mapM_cons, List.forall₂_cons_left_iff]
    simp [Option.bind_eq_some_iff, ih, eq_comm (b := bs)]

/-- A chain has as many conditions as statements. -/
theorem length_conditions {c : Cursor} {conditions : List Node}
    (h : chainConditions? c.node = some conditions) : conditions.length = c.chain.length := by
  rw [chainConditions?_eq_mapM, mapM_eq_some_iff] at h
  exact h.length_eq.symm

theorem Node.Legible.conditions {n : Node} (h : n.Legible) {conditions : List Node}
    (hconditions : chainConditions? n = some conditions) :
    ∀ condition ∈ conditions, condition.Legible := fun condition hmem =>
  h.of_mem_walk (mem_walk_of_chainConditions? hconditions condition hmem)

/-! ## §5 The loop -/

/-- Each condition compares a subject with a constant, in the order of the list. -/
def CompareAll (conditions : List Node) (cases : List (Node × CaseLabel)) : Prop :=
  List.Forall₂ (fun condition k => Compares condition k.1 k.2) conditions cases

theorem Compares.legible {condition subject : Node} {label : CaseLabel}
    (h : Compares condition subject label) (hcondition : condition.Legible) : subject.Legible := by
  obtain ⟨_, _, _, ⟨hlhs, _⟩ | ⟨_, hrhs⟩⟩ := h.operands
  · exact hcondition.peeled? hlhs
  · exact hcondition.peeled? hrhs

theorem CompareAll.legible_first {conditions : List Node} {cases : List (Node × CaseLabel)}
    (h : CompareAll conditions cases) (hconditions : ∀ condition ∈ conditions, condition.Legible)
    {subject : Node} (hfirst : cases.head?.map (·.1) = some subject) : subject.Legible := by
  cases h with
  | nil => cases hfirst
  | cons hcompares _ =>
    cases hfirst
    exact hcompares.legible (hconditions _ List.mem_cons_self)

/-- What a condition compares is determined, so the first case of a chain is. -/
theorem exists_compareAll_cons {condition subject : Node} {label : CaseLabel}
    (hcondition : condition.Legible) (h : Compares condition subject label) {rest : List Node}
    {p : List (Node × CaseLabel) → Prop} :
    (∃ cases, CompareAll (condition :: rest) cases ∧ p cases) ↔
      ∃ cases, CompareAll rest cases ∧ p ((subject, label) :: cases) := by
  obtain ⟨split, -, hsplit⟩ := hcondition.answers_splitEquality
  constructor
  · rintro ⟨_, hall, hp⟩
    obtain ⟨k, cases, hk, hcases, rfl⟩ := List.forall₂_cons_left_iff.1 hall
    cases ((hsplit subject label).2 h).symm.trans ((hsplit _ _).2 hk)
    exact ⟨cases, hcases, hp⟩
  · rintro ⟨cases, hcases, hp⟩
    exact ⟨_, .cons h hcases, hp⟩

theorem Node.Legible.decides_sameShape {first subject : Node} (h : subject.Legible)
    {firstShape : List ShapePart} (hfirst : first.shape = .ok firstShape) :
    Answers (fun shape => sameShape shape firstShape ↔ subject.SameShape first)
      (subject.shape.mapError Error.fault) := by
  obtain ⟨shape, hshape, -⟩ := h.replies_shape
  refine ⟨shape, by rw [hshape]; rfl, fun hsame => ⟨shape, firstShape, hshape, hfirst, hsame⟩, ?_⟩
  rintro ⟨k, l, hk, hl, hsame⟩
  cases hshape.symm.trans hk
  cases hfirst.symm.trans hl
  exact hsame

/-- From within the loop: the remaining conditions compare expressions of the shape of the first with
constants that differ from each other and from those seen. -/
theorem answers_commonSubject_some {first : Node} {firstShape : List ShapePart}
    (hfirst : first.shape = .ok firstShape) {conditions : List Node}
    (h : ∀ condition ∈ conditions, condition.Legible) (seen : List CaseLabel) :
    Answers (fun answer => ∀ subject, answer = some subject ↔ subject = first ∧
      ∃ cases, CompareAll conditions cases ∧ (∀ k ∈ cases, k.1.SameShape first ∧ k.2 ∉ seen) ∧
        (cases.map (·.2)).Nodup) (commonSubject (some (first, firstShape)) seen conditions) := by
  induction conditions generalizing seen with
  | nil => exact .ok fun subject => by simp [CompareAll, eq_comm (b := first)]
  | cons condition rest ih =>
    obtain ⟨hcondition, hrest⟩ := List.forall_mem_cons.1 h
    rw [commonSubject]
    refine hcondition.answers_splitEquality.bind fun split hsplit => ?_
    cases split with
    | none =>
      refine .ok fun subject => ⟨by rintro ⟨⟩, ?_⟩
      rintro ⟨-, cases, hcompare, -⟩
      obtain ⟨k, -, hk, -⟩ := List.forall₂_cons_left_iff.1 hcompare
      cases (hsplit _ _).2 hk
    | some found =>
      obtain ⟨subject, label⟩ := found
      have hcompares := (hsplit subject label).1 rfl
      refine ((hcompares.legible hcondition).decides_sameShape hfirst).bind fun shape hshape => ?_
      dsimp only
      split
      · next hfits =>
        simp only [Bool.and_eq_true, hshape, Bool.not_eq_true', List.contains_eq_mem,
          decide_eq_false_iff_not] at hfits
        obtain ⟨answer, hanswer, hspec⟩ := ih hrest (label :: seen)
        refine ⟨answer, hanswer, fun s => ?_⟩
        rw [hspec, exists_compareAll_cons hcondition hcompares]
        refine and_congr_right fun _ => exists_congr fun cases => and_congr_right fun _ => ?_
        rw [List.forall_mem_cons, List.map_cons, List.nodup_cons]
        simp only [List.mem_cons, not_or]
        -- The constant of this condition is seen from now on, or does not occur again.
        constructor
        · rintro ⟨hall, hnodup⟩
          refine ⟨⟨hfits, fun k hk => ⟨(hall k hk).1, (hall k hk).2.2⟩⟩, fun hlabel => ?_, hnodup⟩
          obtain ⟨k, hk, hsame⟩ := List.mem_map.1 hlabel
          exact (hall k hk).2.1 hsame
        · rintro ⟨⟨-, hall⟩, hlabel, hnodup⟩
          refine ⟨fun k hk => ⟨(hall k hk).1, fun hsame => hlabel ?_, (hall k hk).2⟩, hnodup⟩
          exact List.mem_map.2 ⟨k, hk, hsame⟩
      · next hstops =>
        refine .ok fun s => ⟨by rintro ⟨⟩, ?_⟩
        rw [exists_compareAll_cons hcondition hcompares]
        rintro ⟨-, cases, -, hall, -⟩
        obtain ⟨hsame, hnew⟩ := hall (subject, label) List.mem_cons_self
        exact absurd (by simp [hshape.2 hsame, hnew]) hstops

/-- From the start of the loop: the conditions compare expressions of the same shape with different
constants, and the answer is the first of these expressions. -/
theorem answers_commonSubject_none {conditions : List Node} (hsome : conditions ≠ [])
    (h : ∀ condition ∈ conditions, condition.Legible) :
    Answers (fun answer => ∀ subject, answer = some subject ↔
      ∃ cases, CompareAll conditions cases ∧ cases.Pairwise (fun j k => j.1.SameShape k.1) ∧
        (cases.map (·.2)).Nodup ∧ cases.head?.map (·.1) = some subject)
      (commonSubject none [] conditions) := by
  obtain ⟨condition, rest, rfl⟩ := List.exists_cons_of_ne_nil hsome
  obtain ⟨hcondition, hrest⟩ := List.forall_mem_cons.1 h
  rw [commonSubject]
  refine hcondition.answers_splitEquality.bind fun split hsplit => ?_
  cases split with
  | none =>
    refine .ok fun subject => ⟨by rintro ⟨⟩, ?_⟩
    rintro ⟨cases, hcompare, -⟩
    obtain ⟨k, -, hk, -⟩ := List.forall₂_cons_left_iff.1 hcompare
    cases (hsplit _ _).2 hk
  | some found =>
    obtain ⟨first, label⟩ := found
    have hcompares := (hsplit first label).1 rfl
    obtain ⟨shape, hshape, -⟩ := (hcompares.legible hcondition).replies_shape
    obtain ⟨answer, hanswer, hspec⟩ := answers_commonSubject_some hshape hrest [label]
    refine ⟨answer, by dsimp only; rw [hshape]; exact hanswer, fun subject => ?_⟩
    rw [hspec, exists_compareAll_cons hcondition hcompares]
    simp only [List.pairwise_cons, List.map_cons, List.nodup_cons, List.head?_cons, Option.map_some,
      Option.some.injEq, List.mem_singleton]
    constructor
    · rintro ⟨rfl, cases, hall, hfit, hnodup⟩
      refine ⟨cases, hall, ⟨fun k hk => (hfit k hk).1.symm, ?_⟩, ⟨fun hlabel => ?_, hnodup⟩, rfl⟩
      · exact List.pairwise_of_forall_mem_list fun j hj k hk => (hfit j hj).1.trans (hfit k hk).1.symm
      · obtain ⟨k, hk, hsame⟩ := List.mem_map.1 hlabel
        exact (hfit k hk).2 hsame
    · rintro ⟨cases, hall, ⟨halike, -⟩, ⟨hlabel, hnodup⟩, rfl⟩
      refine ⟨rfl, cases, hall, fun k hk => ⟨(halike k hk).symm, fun hsame => hlabel ?_⟩, hnodup⟩
      exact List.mem_map.2 ⟨k, hk, hsame⟩

/-! ## §6 The verdict -/

/-- The type of the expression is not known, or its values are whole numbers or enumerators. -/
def Node.Switchable (n : Node) : Prop :=
  ∀ t, n.typeAt "type" = .ok (some t) → t.resolved → t.isIntegral ∨ t.category = .enumeration

theorem Node.Readable.answers_isSwitchable {n : Node} (h : n.Readable) :
    Answers (fun b => b = true ↔ n.Switchable) (isSwitchable n) := by
  obtain ⟨t, ht⟩ := h.type
  unfold isSwitchable Node.Switchable
  rw [ht]
  cases t with
  | none => exact .ok (by simp)
  | some t => exact .ok (by cases hresolved : t.resolved <;> simp [hresolved])

/-- The chain that begins at a cursor could be a switch over a subject: the statement is not the
`else` branch of another one; along the chain no statement is evaluated at compile time or declares
a variable, and each has a condition that compares; there are enough of them; the subjects have the
same shape and the constants differ; and the first subject can be switched on. -/
structure CouldBeSwitch (min : Int) (c : Cursor) (subject : Node) (cases : List (Node × CaseLabel)) :
    Prop where
  head : ¬(c.parent?.map (·.kind) = some .ifStatement ∧ c.role? = some "else")
  branches : List.Forall₂ (fun d k => d.node.has "constexpr" = false ∧ d.node.child? "init" = none ∧
    ∃ condition, d.node.child? "condition" = some condition ∧ Compares condition k.1 k.2)
    c.chain cases
  long : min ≤ c.chain.length
  alike : cases.Pairwise fun j k => j.1.SameShape k.1
  distinct : (cases.map (·.2)).Nodup
  first : cases.head?.map (·.1) = some subject
  switchable : subject.Switchable

/-- What is reported about a chain. -/
def chainMessage (subject : Node) (branches : Nat) : String :=
  "if/else-if chain compares '" ++ subject.called "text" "expression" ++ "' against "
    ++ toString branches ++ " distinct constants; convert it to a switch statement"

theorem answers_exceeds (min n : Int) :
    Answers (fun tooShort => tooShort = true ↔ n < min)
      (((Value.int min).exceeds n).mapError Error.fault) :=
  .ok decide_eq_true_iff

theorem continuesChain_iff {c : Cursor} :
    continuesChain c ↔ c.parent?.map (·.kind) = some .ifStatement ∧ c.role? = some "else" := by
  simp [continuesChain]

theorem exists_mem_of_forall₂ {α β : Type} {r : α → β → Prop} {as : List α} {bs : List β}
    (h : List.Forall₂ r as bs) {b : β} (hb : b ∈ bs) : ∃ a ∈ as, r a b := by
  induction h with
  | nil => cases hb
  | cons hab _ ih =>
    rcases List.mem_cons.1 hb with rfl | hb
    · exact ⟨_, List.mem_cons_self, hab⟩
    · obtain ⟨a, ha, hab⟩ := ih hb
      exact ⟨a, List.mem_cons_of_mem _ ha, hab⟩

theorem forall₂_exists_iff {α β γ : Type} {r : α → β → Prop} {s : β → γ → Prop} {as : List α}
    {cs : List γ} : List.Forall₂ (fun a c => ∃ b, r a b ∧ s b c) as cs ↔
      ∃ bs, List.Forall₂ r as bs ∧ List.Forall₂ s bs cs := by
  constructor
  · intro h
    induction h with
    | nil => exact ⟨[], .nil, .nil⟩
    | cons hac _ ih =>
      obtain ⟨b, hab, hbc⟩ := hac
      obtain ⟨bs, has, hcs⟩ := ih
      exact ⟨b :: bs, .cons hab has, .cons hbc hcs⟩
  · rintro ⟨bs, has, hcs⟩
    exact forall₂_trans (fun _ b _ hab hbc => ⟨b, hab, hbc⟩) has hcs

/-- The conditions of the chain are those of its statements. -/
theorem chain_branches_iff {c : Cursor} {cases : List (Node × CaseLabel)} :
    List.Forall₂ (fun d k => d.node.has "constexpr" = false ∧ d.node.child? "init" = none ∧
      ∃ condition, d.node.child? "condition" = some condition ∧ Compares condition k.1 k.2)
      c.chain cases ↔
    ∃ conditions, chainConditions? c.node = some conditions ∧ CompareAll conditions cases := by
  rw [chainConditions?_eq_mapM]
  simp only [mapM_eq_some_iff, CompareAll, ← forall₂_exists_iff, branchCondition?_eq_some, and_assoc,
    exists_and_left]

/-- The findings at the head of a chain are right: one that says what the chain compares if it could
be a switch, and none otherwise. -/
structure JudgesChain (min : Int) (c : Cursor) (found : List Finding) : Prop where
  atMostOne : found = [] ∨ ∃ message, found = [switchChainRule.finding c.node message]
  reported : ∀ message, found = [switchChainRule.finding c.node message] ↔
    ∃ subject cases, CouldBeSwitch min c subject cases ∧
      message = chainMessage subject c.chain.length

theorem JudgesChain.none {min : Int} {c : Cursor}
    (h : ∀ subject cases, ¬CouldBeSwitch min c subject cases) : JudgesChain min c [] := by
  refine ⟨.inl rfl, fun message => ⟨nofun, ?_⟩⟩
  rintro ⟨subject, cases, hcould, -⟩
  exact absurd hcould (h subject cases)

theorem JudgesChain.one {min : Int} {c : Cursor} {subject : Node}
    (h : ∀ s, s = subject ↔ ∃ cases, CouldBeSwitch min c s cases) :
    JudgesChain min c [switchChainRule.finding c.node (chainMessage subject c.chain.length)] := by
  refine ⟨.inr ⟨_, rfl⟩, fun message => ?_⟩
  simp only [Rule.finding, List.cons.injEq, Finding.mk.injEq, true_and, and_true, eq_comm]
  constructor
  · rintro rfl
    obtain ⟨cases, hcould⟩ := (h subject).1 rfl
    exact ⟨subject, cases, hcould, rfl⟩
  · rintro ⟨s, cases, hcould, rfl⟩
    rw [(h s).2 ⟨cases, hcould⟩]

/-- What a chain with conditions has to be apart from its length. -/
theorem couldBeSwitch_iff {min : Int} {c : Cursor} {conditions : List Node}
    (hhead : ¬continuesChain c) (h : chainConditions? c.node = some conditions) {subject : Node}
    {cases : List (Node × CaseLabel)} :
    CouldBeSwitch min c subject cases ↔ min ≤ c.chain.length ∧ subject.Switchable ∧
      CompareAll conditions cases ∧ cases.Pairwise (fun j k => j.1.SameShape k.1) ∧
        (cases.map (·.2)).Nodup ∧ cases.head?.map (·.1) = some subject := by
  rw [continuesChain_iff] at hhead
  constructor
  · intro hcould
    obtain ⟨_, hconditions, hall⟩ := chain_branches_iff.1 hcould.branches
    cases h.symm.trans hconditions
    exact ⟨hcould.long, hcould.switchable, hall, hcould.alike, hcould.distinct, hcould.first⟩
  · rintro ⟨hlong, hswitchable, hall, halike, hdistinct, hfirst⟩
    exact ⟨hhead, chain_branches_iff.2 ⟨conditions, h, hall⟩, hlong, halike, hdistinct, hfirst,
      hswitchable⟩

/-- At an if-statement the inspection answers, and with the right findings. -/
theorem Node.Legible.answers_switchChain {c : Cursor} (h : c.node.Legible)
    (hif : c.node.kind = .ifStatement) (min : Int) :
    Answers (JudgesChain min c) ((switchChain (.int min)).inspect c) := by
  simp only [switchChain]
  split
  · next hcontinues =>
    exact .ok (.none fun _ _ hcould => hcould.head (continuesChain_iff.1 hcontinues))
  · next hhead =>
    cases hconditions : chainConditions? c.node with
    | none =>
      refine .ok (.none fun _ _ hcould => ?_)
      obtain ⟨_, hsome, -⟩ := chain_branches_iff.1 hcould.branches
      cases hconditions.symm.trans hsome
    | some conditions =>
      have hcould := @couldBeSwitch_iff min c conditions hhead hconditions
      have hlength := length_conditions hconditions
      have hlegible := h.conditions hconditions
      have hne : conditions ≠ [] := by
        rintro rfl
        exact chainConditions?_ne_nil hif hconditions
      refine (answers_exceeds min conditions.length).bind fun tooShort htooShort => ?_
      rw [hlength] at htooShort
      split
      · next hyes =>
        exact .ok (.none fun _ _ h => absurd (hcould.1 h).1 (not_le.2 (htooShort.1 hyes)))
      · next hno =>
        rw [htooShort, not_lt] at hno
        refine (answers_commonSubject_none hne hlegible).bind fun answer hanswer => ?_
        cases answer with
        | none =>
          refine .ok (.none fun subject cases h => ?_)
          cases (hanswer subject).2 ⟨cases, (hcould.1 h).2.2⟩
        | some subject =>
          have hsubject : subject.Legible := by
            obtain ⟨cases, hall, -, -, hfirst⟩ := (hanswer subject).1 rfl
            exact hall.legible_first hlegible hfirst
          refine hsubject.readable.answers_isSwitchable.bind fun switchable hswitchable => ?_
          split
          · next hyes =>
            refine .ok ?_
            rw [hlength]
            refine .one fun s => ⟨?_, ?_⟩
            · rintro rfl
              obtain ⟨cases, hcases⟩ := (hanswer s).1 rfl
              exact ⟨cases, hcould.2 ⟨hno, hswitchable.1 hyes, hcases⟩⟩
            · rintro ⟨cases, h⟩
              cases (hanswer s).2 ⟨cases, (hcould.1 h).2.2⟩
              rfl
          · next hno =>
            refine .ok (.none fun s cases h => ?_)
            cases (hanswer s).2 ⟨cases, (hcould.1 h).2.2⟩
            exact hno (hswitchable.2 h.switchable)

/-! ## §7 Exchanged operands -/

/-- The second node is the first with its operands exchanged. -/
structure Node.Exchanges (n m : Node) : Prop where
  kind : m.kind = n.kind
  attrs : m.attrs = n.attrs
  lhs : m.child? "lhs" = n.child? "rhs"
  rhs : m.child? "rhs" = n.child? "lhs"

/-- The second condition is the first, or the first with its operands exchanged, wrappers around
either aside. -/
def SameComparison (a b : Node) : Prop := b.peel = a.peel ∨ a.peel.Exchanges b.peel

theorem SameComparison.splitEquality_eq {a b : Node} (h : SameComparison a b) (ha : a.Legible) :
    splitEquality b = splitEquality a := by
  rcases h with h | h
  · rw [splitEquality, splitEquality, h]
  · rw [splitEquality, splitEquality]
    simp only [Node.peeled?, h.kind, attr_congr h.attrs, h.lhs, h.rhs]
    split
    · cases hl : a.peel.child? "lhs" with
      | none => cases a.peel.child? "rhs" <;> rfl
      | some lhs =>
        cases hr : a.peel.child? "rhs" with
        | none => rfl
        | some rhs =>
          have hlhs : lhs.peel.Legible := ha.peeled? (by rw [Node.peeled?, hl]; rfl)
          have hrhs : rhs.peel.Legible := ha.peeled? (by rw [Node.peeled?, hr]; rfl)
          obtain ⟨left, hleft, -⟩ := hlhs.readable.answers_caseLabel?
          obtain ⟨right, hright, -⟩ := hrhs.readable.answers_caseLabel?
          simp only [Option.map_some, hleft, hright]
          cases left <;> cases right <;> rfl
    · rfl

/-- The loop asks of a condition only what it compares. -/
theorem commonSubject_congr {conditions conditions' : List Node}
    (h : List.Forall₂ (fun a b => splitEquality b = splitEquality a) conditions conditions')
    (first : Option (Node × List ShapePart)) (seen : List CaseLabel) :
    commonSubject first seen conditions' = commonSubject first seen conditions := by
  induction h generalizing first seen with
  | nil => rfl
  | cons hsplit _ ih =>
    rw [commonSubject, commonSubject, hsplit]
    simp only [ih]

/-- The second chain begins at the same place and in the same position, and its statements are those
of the first in all that is asked of them, up to exchanged operands of comparisons. -/
structure Restates (c c' : Cursor) : Prop where
  span : c'.node.span = c.node.span
  parent : c'.parent?.map (·.kind) = c.parent?.map (·.kind)
  role : c'.role? = c.role?
  branches : List.Forall₂ (fun d d' => d'.node.has "constexpr" = d.node.has "constexpr" ∧
    (d'.node.child? "init").isSome = (d.node.child? "init").isSome ∧
    Option.Rel SameComparison (d.node.child? "condition") (d'.node.child? "condition"))
    c.chain c'.chain

theorem rel_mapM {α β γ δ : Type} {r : γ → δ → Prop} {f : α → Option γ} {g : β → Option δ}
    {as : List α} {bs : List β} (h : List.Forall₂ (fun a b => Option.Rel r (f a) (g b)) as bs) :
    Option.Rel (List.Forall₂ r) (as.mapM f) (bs.mapM g) := by
  induction h with
  | nil => exact .some .nil
  | cons hab _ ih =>
    rw [List.mapM_cons, List.mapM_cons]
    obtain ⟨ha, hb⟩ | ⟨c, d, ha, hb, hcd⟩ := rel_cases hab
    · rw [ha, hb]
      exact .none
    · obtain ⟨has, hbs⟩ | ⟨cs, ds, has, hbs, hcds⟩ := rel_cases ih
      · rw [ha, hb, has, hbs]
        exact .none
      · rw [ha, hb, has, hbs]
        exact .some (.cons hcd hcds)

theorem Restates.rel_chainConditions? {c c' : Cursor} (h : Restates c c') :
    Option.Rel (List.Forall₂ SameComparison) (chainConditions? c.node)
      (chainConditions? c'.node) := by
  rw [chainConditions?_eq_mapM, chainConditions?_eq_mapM]
  refine rel_mapM (h.branches.imp fun d d' hbranch => ?_)
  obtain ⟨hconstexpr, hinit, hcondition⟩ := hbranch
  simp only [branchCondition?, hconstexpr, hinit]
  split
  · exact .none
  · exact hcondition

/-- A restated chain gets the same verdict, in the same words and at the same place. -/
theorem Restates.inspect_eq {c c' : Cursor} (h : Restates c c') (hc : c.node.Legible)
    (minBranches : Value) :
    (switchChain minBranches).inspect c' = (switchChain minBranches).inspect c := by
  have hcontinues : continuesChain c' = continuesChain c := by
    rw [continuesChain, continuesChain, h.parent, h.role]
  simp only [switchChain, hcontinues]
  obtain ⟨hnone, hnone'⟩ | ⟨conditions, conditions', hsome, hsome', hsame⟩ :=
    rel_cases h.rel_chainConditions?
  · rw [hnone, hnone']
  · have hlegible := (List.forall₂_and_left _ _).2 ⟨hc.conditions hsome, hsame⟩
    have hsplit : List.Forall₂ (fun a b => splitEquality b = splitEquality a)
        conditions conditions' :=
      hlegible.imp fun a b hab => hab.2.splitEquality_eq hab.1
    rw [hsome, hsome']
    simp only [commonSubject_congr hsplit, hsame.length_eq, Rule.finding, h.span]

/-! ## §8 Reported chains -/

theorem inspect_of_continuesChain {c : Cursor} (h : continuesChain c) (minBranches : Value) :
    (switchChain minBranches).inspect c = .ok [] := by
  simp only [switchChain, h, if_true]
  rfl

theorem mapM_eq_ok_nil {α β : Type} {f : α → Except Error (List β)} {as : List α}
    (h : ∀ a ∈ as, f a = .ok []) : as.mapM f = .ok (as.map fun _ => []) := by
  induction as with
  | nil => rfl
  | cons a as ih =>
    obtain ⟨ha, has⟩ := List.forall_mem_cons.1 h
    rw [List.mapM_cons, ha, ih has]
    rfl

/-- At most the first statement of a chain is reported. -/
theorem Node.Legible.answers_chain {c : Cursor} (h : c.node.Legible)
    (hif : c.node.kind = .ifStatement) (min : Int) :
    Answers (fun found => found.flatten.length ≤ 1)
      (c.chain.mapM (switchChain (.int min)).inspect) := by
  obtain ⟨found, hfound, hjudged⟩ := h.answers_switchChain hif min
  obtain ⟨rest, hchain, hcontinue⟩ := Cursor.chain_eq_cons hif
  have hrest := mapM_eq_ok_nil fun d hd => inspect_of_continuesChain (hcontinue d hd) (.int min)
  rw [hchain, List.mapM_cons, hfound, hrest]
  refine .ok ?_
  rcases hjudged.atMostOne with rfl | ⟨message, rfl⟩ <;> simp

/-- At an if-statement of a legible tree the chain that begins there is reported, in one finding at
the statement, exactly if it could be a switch; else there is no finding, and never an error. Chains
that differ in exchanged operands of comparisons get the same verdict. All statements of a chain
together give at most one finding. -/
theorem switch_chain_reported_iff (min : Int) (root : Node) (hroot : root.Legible) (c : Cursor)
    (hc : c ∈ (Cursor.root root).walk) (hif : c.node.kind = .ifStatement) :
    let verdict := (switchChain (.int min)).inspect
    (∀ message, verdict c = .ok [switchChainRule.finding c.node message] ↔
      ∃ subject cases, CouldBeSwitch min c subject cases ∧
        message = chainMessage subject c.chain.length) ∧
    (verdict c = .ok [] ∨ ∃ message, verdict c = .ok [switchChainRule.finding c.node message]) ∧
    (∀ c', Restates c c' → verdict c' = verdict c) ∧
    ∃ found, c.chain.mapM verdict = .ok found ∧ found.flatten.length ≤ 1 := by
  intro verdict
  have hlegible : c.node.Legible := hroot.of_mem_walk (List.mem_map_of_mem hc)
  obtain ⟨found, hfound, hjudged⟩ := hlegible.answers_switchChain hif min
  refine ⟨fun message => ?_, ?_, fun c' h => h.inspect_eq hlegible _, hlegible.answers_chain hif min⟩
  · rw [← hjudged.reported, show verdict c = .ok found from hfound, Except.ok.injEq]
  · rcases hjudged.atMostOne with rfl | ⟨message, rfl⟩
    · exact .inl hfound
    · exact .inr ⟨message, hfound⟩

/-- A chain of two comparisons in different order, and the same chain with the first comparison turned
around: both are reported, in the same words. -/
theorem switch_chain_of_two :
    let s : Span := ⟨"a.cpp", 3, 3, 7, 4⟩
    let x : Node := ⟨.declRefExpr, s, [(.str "name", .str "x")], []⟩
    let number (n : Int) : Node := ⟨.literal, s, [(.str "value", .int n)], []⟩
    let equality (l r : Node) : Node :=
      ⟨.binaryOperator, s, [(.str "operator", .str "==")], [("lhs", l), ("rhs", r)]⟩
    let second : Node := ⟨.ifStatement, s, [], [("condition", equality (number 2) x)]⟩
    let chain (first : Node) : Node :=
      ⟨.ifStatement, s, [], [("condition", first), ("else", second)]⟩
    let message :=
      "if/else-if chain compares 'x' against 2 distinct constants; convert it to a switch statement"
    let head := Cursor.root (chain (equality x (number 1)))
    (∃ subject cases, CouldBeSwitch 2 head subject cases) ∧
      (switchChain (.int 2)).inspect (.root (chain (equality (number 1) x))) =
        .ok [switchChainRule.finding head.node message] := by
  intro s x number equality second chain message head
  have hlegible : head.node.Legible := by
    intro n hn
    simp only [head, chain, second, equality, number, x, Cursor.root, Node.walk_eq, List.map_cons,
      List.map_nil, List.flatMap_cons, List.flatMap_nil, List.append_nil, List.cons_append,
      List.nil_append, List.mem_cons, List.not_mem_nil, or_false] at hn
    rcases hn with rfl | rfl | rfl | rfl | rfl | rfl | rfl | rfl
    all_goals
      refine .of_untyped ?_ rfl
      simp [shapeAttributes, Entries.get?, Value.isCompound]
  have hmem : head ∈ head.walk := Cursor.mem_walk_root.2 .here
  obtain ⟨hreported, -, hrestated, -⟩ := switch_chain_reported_iff 2 _ hlegible head hmem rfl
  have hverdict : (switchChain (.int 2)).inspect head =
      .ok [switchChainRule.finding head.node message] := by
    decide +kernel
  obtain ⟨subject, cases, hcould, -⟩ := (hreported message).1 hverdict
  have hchain (first : Node) : (Cursor.root (chain first)).chain =
      [.root (chain first), ⟨second, [⟨chain first, "else", 1⟩]⟩] := by
    rw [Cursor.chain_of_else?_eq_some rfl rfl, Cursor.chain_of_else?_eq_none rfl rfl]
    rfl
  have hpeel (l r : Node) : (equality l r).peel = equality l r := Node.peel_of_wrapped?_eq_none rfl
  have hrestates : Restates head (.root (chain (equality (number 1) x))) := by
    refine ⟨rfl, rfl, rfl, ?_⟩
    rw [hchain, hchain]
    refine .cons ⟨rfl, rfl, .some (.inr ?_)⟩ (.cons ⟨rfl, rfl, .some (.inl rfl)⟩ .nil)
    rw [hpeel, hpeel]
    exact ⟨rfl, rfl, rfl, rfl⟩
  exact ⟨⟨subject, cases, hcould⟩, (hrestated _ hrestates).trans hverdict⟩

end CppIdioms
