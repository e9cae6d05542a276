import CppIdioms.Catalog.Builtin
import CppIdioms.Proofs.Inspection
import CppIdioms.Proofs.Likeness

/-!
# Rules that do not see places and parentheses

A detector is insensitive if, at corresponding nodes of alike trees, it reports the same violations
at corresponding places: what it says depends neither on line numbers, nor on parentheses around
expressions, nor on what else hangs from the root of a unit. Every rule of the catalog is shown to
be insensitive, one after the other, along the steps of its inspection.

## Contents

* `Agree`: computations that end alike.
* `SameFinding`, `Detector.Insensitive`: the same violation at corresponding places, and detectors
  that report alike.

## Main statements

* `builtin_insensitive`: every rule of the catalog is insensitive.
-/

namespace CppIdioms

open CppIdioms.Rules

/-! ## §1 Computations that end alike -/

/-- Both computations give an answer, and the answers are related, or both fail for the same
reason. -/
inductive Agree {ε α β : Type} (r : α → β → Prop) : Except ε α → Except ε β → Prop where
  | ok {a : α} {b : β} (h : r a b) : Agree r (.ok a) (.ok b)
  | error (e : ε) : Agree r (.error e) (.error e)

section Agree

variable {ε α β γ δ : Type} {r : α → β → Prop} {s : γ → δ → Prop}

theorem Agree.bind {x : Except ε α} {y : Except ε β} {f : α → Except ε γ} {g : β → Except ε δ}
    (h : Agree r x y) (hf : ∀ a b, r a b → Agree s (f a) (g b)) : Agree s (x >>= f) (y >>= g) := by
  cases h with
  | ok h => exact hf _ _ h
  | error e => exact .error e

/-- The same computation, continued in two ways. -/
theorem Agree.bind_same (x : Except ε α) {f : α → Except ε γ} {g : α → Except ε δ}
    (hf : ∀ a, Agree s (f a) (g a)) : Agree s (x >>= f) (x >>= g) := by
  cases x with
  | ok a => exact hf a
  | error e => exact .error e

end Agree

/-! ## §2 Detectors that report alike -/

/-- The same violation of a rule, at corresponding nodes. -/
def SameFinding (rule : Rule) (move : Span → Span) (f f' : Finding) : Prop :=
  ∃ n n' message, n'.span = move n.span ∧ f = rule.finding n message ∧ f' = rule.finding n' message

/-- Inspections that report the same violations. -/
abbrev ReportAlike (rule : Rule) (move : Span → Span) :
    Except Error (List Finding) → Except Error (List Finding) → Prop :=
  Agree (List.Forall₂ (SameFinding rule move))

/-- At corresponding nodes of alike trees the detector reports the same violations. -/
def Detector.Insensitive (d : Detector) : Prop :=
  ∀ move c c', Cursor.Twin move c c' → d.looksAt c.node.kind →
    ReportAlike d.rule move (d.inspect c) (d.inspect c')

theorem Detector.mem_kinds {d : Detector} {k : Kind} (h : d.looksAt k) : k ∈ d.kinds := by
  simpa [looksAt] using h

section Report

variable {rule : Rule} {move : Span → Span}

theorem reportAlike_nil : ReportAlike rule move (pure []) (pure []) := .ok .nil

/-- Both inspections end early, or both go on. -/
theorem reportAlike_unless {p : Prop} [Decidable p] {x y : Except Error (List Finding)}
    (h : ReportAlike rule move x y) :
    ReportAlike rule move (if p then pure [] else x) (if p then pure [] else y) := by
  split
  · exact reportAlike_nil
  · exact h

theorem reportAlike_one {n n' : Node} (h : n'.span = move n.span) (message : String) :
    ReportAlike rule move (pure [rule.finding n message]) (pure [rule.finding n' message]) :=
  .ok (.cons ⟨n, n', message, h, rfl, rfl⟩ .nil)

end Report

/-! ## §3 Rules that read one node -/

variable {move : Span → Span} {n n' : Node} {c c' : Cursor}

theorem castStyle_insensitive : castStyle.Insensitive := by
  intro move c c' h _
  simp only [castStyle, knownType_congr h.node.attrs, attr_congr h.node.attrs]
  refine .bind_same _ fun known => ?_
  cases known with
  | none => exact reportAlike_nil
  | some t =>
    dsimp only
    refine reportAlike_unless ?_
    exact reportAlike_one h.node.span _

theorem macroConstant_insensitive : macroConstant.Insensitive := by
  intro move c c' h _
  have htokens : replacementTokens c'.node = replacementTokens c.node :=
    h.node.congr replacementTokens fun _ _ _ _ _ _ => rfl
  simp only [macroConstant, htokens, has_congr h.node.attrs, nameOr_congr h.node.attrs]
  refine reportAlike_unless ?_
  split
  · exact reportAlike_nil
  · exact reportAlike_one h.node.span _

theorem Cursor.Twin.inCLinkage (h : c.Twin move c') : inCLinkage c' = inCLinkage c := by
  refine h.any_ancestors (fun n hn => by simp [declaresCLinkage, hn]) fun q q' hq => ?_
  rw [declaresCLinkage, declaresCLinkage, hq.kind, Node.attrOr, Node.attrOr, hq.attrs]

theorem typedefAlias_insensitive : typedefAlias.Insensitive := by
  intro move c c' h _
  simp only [typedefAlias, has_congr h.node.attrs, nameOr_congr h.node.attrs,
    typeAt_congr h.node.attrs, h.inCLinkage]
  refine reportAlike_unless ?_
  exact .bind_same _ fun _ => reportAlike_one h.node.span _

theorem unscopedEnum_insensitive : unscopedEnum.Insensitive := by
  intro move c c' h _
  simp only [unscopedEnum, has_congr h.node.attrs, properName?_congr h.node.attrs, h.inCLinkage]
  cases c.node.properName? with
  | none => exact reportAlike_nil
  | some name =>
    dsimp only
    refine reportAlike_unless ?_
    exact reportAlike_one h.node.span _

theorem namespaceImport_insensitive : namespaceImport.Insensitive := by
  intro move c c' h hlooks
  have hkind : c.node.kind.isExpression = false := by
    rw [List.mem_singleton.1 (Detector.mem_kinds hlooks)]
    rfl
  have hnames : importedNames c'.node = importedNames c.node :=
    h.node.congr importedNames fun _ _ _ _ _ _ => rfl
  have hnearest := isSome_eq_of_rel (h.nearest? [.namespaceDecl] rfl)
  have hscope : atFileScope c' = atFileScope c := by
    rw [atFileScope, atFileScope, h.scope hkind, ← Option.not_isSome, ← Option.not_isSome, hnearest]
  simp only [namespaceImport, hnames, hscope]
  exact reportAlike_one h.node.span _

theorem rawArray_insensitive : rawArray.Insensitive := by
  intro move c c' h hlooks
  have hkind : c.node.kind.isExpression = false := by
    have hkind : c.node.kind ∈ [.rawArrayDecl, .variableDecl, .fieldDecl] :=
      Detector.mem_kinds hlooks
    generalize c.node.kind = k at hkind
    revert k
    decide
  have hreplacement : ∀ t, arrayReplacement c'.node t = arrayReplacement c.node t := fun t =>
    h.node.congr (arrayReplacement · t) fun _ _ _ _ _ _ => rfl
  simp only [rawArray, has_congr h.node.attrs, nameOr_congr h.node.attrs,
    typeAt_congr h.node.attrs, h.scope hkind, h.node.kind, hreplacement]
  refine reportAlike_unless ?_
  refine reportAlike_unless ?_
  refine .bind_same _ fun t => ?_
  refine reportAlike_unless ?_
  exact reportAlike_one h.node.span _

/-! ## §4 Rules about declarations and their surroundings -/

theorem Twin.neverChanges (h : Twin move n n') : neverChanges n' = neverChanges n := by
  simp only [Rules.neverChanges, denies_congr h.attrs, has_congr h.attrs,
    isSome_eq_of_rel (h.children.child? "init")]

theorem constLocal_insensitive : constLocal.Insensitive := by
  intro move c c' h hlooks
  have hkind : c.node.kind = .variableDecl := List.mem_singleton.1 (Detector.mem_kinds hlooks)
  simp only [constLocal, h.node.neverChanges, h.scope (by rw [hkind]; rfl),
    knownType_congr h.node.attrs, nameOr_congr h.node.attrs]
  refine reportAlike_unless ?_
  refine reportAlike_unless ?_
  refine .bind_same _ fun known => ?_
  cases known with
  | none => exact reportAlike_nil
  | some t =>
    dsimp only
    refine reportAlike_unless ?_
    exact reportAlike_one h.node.span _

/-- Whether a function has a body is not hidden by what else changes. -/
theorem Cursor.Twin.belongsToDefinition (h : c.Twin move c') :
    belongsToDefinition c' = belongsToDefinition c := by
  unfold Rules.belongsToDefinition
  obtain ⟨hc, hc'⟩ | ⟨f, f', hc, hc', hf, hcallable⟩ := rel_cases (h.nearest? callableKinds rfl)
  · rw [hc, hc']
  · have hkind : f.kind ≠ .translationUnit := by
      intro hkind
      rw [hkind] at hcallable
      cases hcallable
    rw [hc, hc']
    exact isSome_eq_of_rel ((hf.children hkind).child? "body")

theorem copiedParameter_insensitive (threshold : Value) :
    (copiedParameter threshold).Insensitive := by
  intro move c c' h _
  simp only [copiedParameter, h.belongsToDefinition, denies_congr h.node.attrs,
    has_congr h.node.attrs, knownType_congr h.node.attrs, nameOr_congr h.node.attrs]
  refine reportAlike_unless ?_
  refine reportAlike_unless ?_
  refine .bind_same _ fun known => ?_
  cases known with
  | none => exact reportAlike_nil
  | some t =>
    dsimp only
    refine reportAlike_unless ?_
    refine .bind_same _ fun worthIt => ?_
    refine reportAlike_unless ?_
    exact reportAlike_one h.node.span _

/-- The parameters of alike constructors are read as they stand. -/
theorem Twin.singleParameter? (h : Twin move n n') (hkind : n.kind = .constructorDecl) :
    Option.Rel (fun p p' => p'.attrs = p.attrs) (singleParameter? n) (singleParameter? n') := by
  have hparameters : List.Forall₂ (fun p p' : Node => p'.attrs = p.attrs)
      (n.childrenOf "parameters") (n'.childrenOf "parameters") :=
    (h.children.childrenOf "parameters").imp fun p p' hp => hp.bare (by rw [hkind]; rfl)
  simp only [Rules.singleParameter?, has_congr h.attrs]
  generalize n.childrenOf "parameters" = ps, n'.childrenOf "parameters" = ps' at hparameters
  have hcount : ps'.countP (fun p => !p.has "has_default")
      = ps.countP fun p => !p.has "has_default" := by
    induction hparameters with
    | nil => rfl
    | cons hp _ ih => rw [List.countP_cons, List.countP_cons, ih, has_congr hp]
  rw [hcount]
  split
  · exact .none
  · cases hparameters with
    | nil => exact .none
    | cons hp _ => exact .some hp

theorem Cursor.Twin.constructedClass (h : c.Twin move c') :
    constructedClass c' = constructedClass c := by
  unfold Rules.constructedClass
  rw [attr_congr h.node.attrs, name?_congr h.node.attrs]
  obtain ⟨hc, hc'⟩ | ⟨r, r', hc, hc', hr, _⟩ := rel_cases (h.nearest? [.recordDecl] rfl)
  · rw [hc, hc']
  · rw [hc, hc', Option.bind_some, Option.bind_some, properName?_congr hr.attrs]

theorem implicitConversion_insensitive : implicitConversion.Insensitive := by
  intro move c c' h hlooks
  have hkind : c.node.kind = .constructorDecl := List.mem_singleton.1 (Detector.mem_kinds hlooks)
  simp only [implicitConversion, isExempt, has_congr h.node.attrs, h.constructedClass,
    nameOr_congr h.node.attrs]
  refine reportAlike_unless ?_
  obtain ⟨hn, hn'⟩ | ⟨p, p', hn, hn', hp⟩ := rel_cases (h.node.singleParameter? hkind)
  · simp only [hn, hn']
    exact reportAlike_nil
  · simp only [hn, hn', typeAt_congr hp]
    refine .bind_same _ fun known => ?_
    cases known.filter (·.resolved) with
    | none => exact reportAlike_nil
    | some t =>
      dsimp only
      refine .bind_same _ fun copies => ?_
      refine reportAlike_unless ?_
      refine reportAlike_unless ?_
      exact reportAlike_one h.node.span _

/-! ## §5 Rules about loops and initializers -/

theorem Twin.changes (h : Twin move n n') (name : String) : changes name n' = changes name n := by
  have hoperand : Option.Rel (Alike move) (changedOperand? n) (changedOperand? n') := by
    have hchild := h.children.alikeChild?
    unfold changedOperand?
    rw [h.kind, denies_congr h.attrs]
    split
    case h_6 =>
      split
      · exact hchild _
      · exact .none
    case h_7 => exact .none
    all_goals exact hchild _
  unfold Rules.changes
  obtain ⟨hn, hn'⟩ | ⟨a, a', hn, hn', ha⟩ := rel_cases hoperand
  · rw [hn, hn']
  · rw [hn, hn']
    exact ha.designates name

theorem isModified_alike {binding binding' : Node} {body body' : Option Node}
    (hbinding : binding'.attrs = binding.attrs)
    (hbody : Option.Rel (Alike move) body body') (name : String) :
    isModified binding' body' name = isModified binding body name := by
  unfold isModified
  rw [attr_congr hbinding]
  split
  · cases hbody with
    | none => rfl
    | some hbody =>
      -- Parentheses change nothing themselves.
      exact hbody.any_walk (fun _ => rfl) fun m m' hm => hm.changes name
  · rfl

theorem copyingLoop_insensitive (threshold : Value) : (copyingLoop threshold).Insensitive := by
  intro move c c' h hlooks
  have hkind : c.node.kind = .rangeForStatement := List.mem_singleton.1 (Detector.mem_kinds hlooks)
  simp only [copyingLoop]
  obtain ⟨hc, hc'⟩ | ⟨b, b', hc, hc', hb⟩ := rel_cases (h.node.children.child? "binding")
  · simp only [hc, hc']
    exact reportAlike_nil
  · have hattrs : b'.attrs = b.attrs := hb.bare (by rw [hkind]; rfl)
    simp only [hc, hc', has_congr hattrs, knownType_congr hattrs, properName?_congr hattrs,
      isModified_alike hattrs (h.node.children.alikeChild? "body")]
    refine reportAlike_unless ?_
    refine .bind_same _ fun known => ?_
    cases known with
    | none => exact reportAlike_nil
    | some t =>
      dsimp only
      refine reportAlike_unless ?_
      refine .bind_same _ fun worthIt => ?_
      refine reportAlike_unless ?_
      cases b.properName? with
      | none => exact reportAlike_nil
      | some name =>
        dsimp only
        refine reportAlike_unless ?_
        exact reportAlike_one hb.alike.span _

theorem narrowingCast?_eq (n : Node) :
    narrowingCast? n =
      if !n.kind.isWrapper then none
      else if n.kind = .implicitCastExpr && n.has "narrowing" then some n
      else (n.child? "operand").bind narrowingCast? := by
  rw [narrowingCast?]
  split
  · rfl
  · split
    · rfl
    · split
      · next h => rw [h]; rfl
      · next h => rw [h]; rfl

/-- Parentheses are looked through by their role, on the way to a narrowing conversion too. -/
theorem Alike.narrowingCast? (h : Alike move n n') :
    Option.Rel (Twin move) (narrowingCast? n) (narrowingCast? n') := by
  induction hsize : n'.size using Nat.strongRecOn generalizing n n' with
  | ind size ih =>
    cases h with
    | @parens _ inner _ h =>
      rw [narrowingCast?_eq inner.inParens]
      exact ih inner.size (by rw [← hsize, Node.size_inParens]; omega) h rfl
    | node kind span attrs children =>
      rw [narrowingCast?_eq n, narrowingCast?_eq n', kind, has_congr attrs]
      split
      · exact .none
      · split
        · exact .some ⟨kind, span, attrs, children⟩
        · refine rel_bind (children.alikeChild? "operand") fun a a' hn' ha => ?_
          exact ih a'.size (hsize ▸ Node.size_child?_lt hn') ha rfl

theorem sourceType_alike {init init' cast cast' : Option Node}
    (hinit : Option.Rel (Alike move) init init') (hcast : Option.Rel (Twin move) cast cast') :
    sourceType init' cast' = sourceType init cast := by
  unfold sourceType
  cases hcast with
  | none =>
    cases hinit with
    | none => rfl
    | some hinit => simp only [hinit.typeAt]
  | some hcast =>
    obtain ⟨hn, hn'⟩ | ⟨a, a', hn, hn', ha⟩ := rel_cases (hcast.children.alikeChild? "operand")
    · simp only [hn, hn']
    · simp only [hn, hn', ha.typeAt]

theorem narrowingInit_insensitive : narrowingInit.Insensitive := by
  intro move c c' h _
  have hinit := h.node.children.alikeChild? "init"
  have hcast : Option.Rel (Twin move) ((c.node.child? "init").bind narrowingCast?)
      ((c'.node.child? "init").bind narrowingCast?) :=
    rel_bind hinit fun _ _ _ ha => ha.narrowingCast?
  simp only [narrowingInit, attr_congr h.node.attrs, has_congr h.node.attrs,
    ← Option.not_isSome, isSome_eq_of_rel hcast, typeAt_congr h.node.attrs,
    nameOr_congr h.node.attrs, sourceType_alike hinit hcast]
  refine .bind_same _ fun styled => ?_
  refine reportAlike_unless ?_
  refine reportAlike_unless ?_
  exact .bind_same _ fun _ => .bind_same _ fun _ => reportAlike_one h.node.span _

/-! ## §6 Rules about operands -/

theorem Twin.isEndl (h : Twin move n n') : isEndl n' = isEndl n :=
  h.congr Rules.isEndl fun _ _ _ _ _ _ => rfl

theorem innermostStream?_eq (n : Node) :
    innermostStream? n =
      if n.kind = .streamInsertExpr then (n.peeled? "stream").bind innermostStream? else some n := by
  rw [innermostStream?]
  split
  · split
    · next h => rw [h]; rfl
    · next h => rw [h]; rfl
  · rfl

theorem Twin.innermostStream? (h : Twin move n n') :
    Option.Rel (Twin move) (innermostStream? n) (innermostStream? n') := by
  induction hsize : n'.size using Nat.strongRecOn generalizing n n' with
  | ind size ih =>
    rw [innermostStream?_eq n, innermostStream?_eq n', h.kind]
    split
    · refine rel_bind (h.children.peeled? "stream") fun s s' hn' hs => ?_
      exact ih s'.size (hsize ▸ Node.size_peeled?_lt hn') hs rfl
    · exact .some h

theorem streamLabel_alike {s s' : Option Node} (h : Option.Rel (Twin move) s s') :
    streamLabel s' = streamLabel s := by
  unfold streamLabel
  cases h with
  | none => rfl
  | @some s s' h =>
    rw [Option.bind_some, Option.bind_some]
    obtain ⟨hs, hs'⟩ | ⟨a, a', hs, hs', ha⟩ := rel_cases h.innermostStream?
    · rw [hs, hs']
    · simp only [hs, hs', properName?_congr ha.attrs, called_congr ha.attrs]

theorem flushingNewline_insensitive : flushingNewline.Insensitive := by
  intro move c c' h _
  simp only [flushingNewline, streamLabel_alike (h.node.children.peeled? "stream")]
  obtain ⟨hc, hc'⟩ | ⟨a, a', hc, hc', ha⟩ := rel_cases (h.node.children.peeled? "operand")
  · simp only [hc, hc']
    exact reportAlike_nil
  · simp only [hc, hc', ha.isEndl]
    split
    · exact reportAlike_one ha.span _
    · exact reportAlike_nil

theorem mayBeObject_alike {s s' : Option Node} (h : Option.Rel (Twin move) s s') :
    mayBeObject s' = mayBeObject s := by
  cases h with
  | none => rfl
  | some h => simp only [mayBeObject, typeAt_congr h.attrs]

theorem signedIndex_insensitive : signedIndex.Insensitive := by
  intro move c c' h _
  simp only [signedIndex, mayBeObject_alike (h.node.children.peeled? "container")]
  obtain ⟨hc, hc'⟩ | ⟨a, a', hc, hc', ha⟩ := rel_cases (h.node.children.peeled? "index")
  · simp only [hc, hc']
    exact reportAlike_nil
  · simp only [hc, hc', ha.kind, knownType_congr ha.attrs, called_congr ha.attrs]
    refine reportAlike_unless ?_
    refine .bind_same _ fun known => ?_
    cases known with
    | none => exact reportAlike_nil
    | some t =>
      dsimp only
      refine reportAlike_unless ?_
      refine .bind_same _ fun object => ?_
      refine reportAlike_unless ?_
      exact reportAlike_one ha.span _

theorem Alike.isNullMacro (h : Alike move n n') : isNullMacro n' = isNullMacro n := by
  have hpeel := h.peel
  simp only [Rules.isNullMacro, attr_congr hpeel.attrs, hpeel.kind, name?_congr hpeel.attrs]

theorem anyNullMacro_alike {ns ns' : List Node} (h : List.Forall₂ (Alike move) ns ns') :
    anyNullMacro ns' = anyNullMacro ns := by
  induction h with
  | nil => rfl
  | cons h _ ih => rw [anyNullMacro, anyNullMacro, h.isNullMacro, ih]

/-- The findings stand at the arguments themselves, with their wrappers. -/
theorem nullFindings_alike (callee : String) {ns ns' : List Node}
    (h : List.Forall₂ (Alike move) ns ns') (position : Nat) (ps : List Value) :
    ReportAlike nullArgumentRule move (nullFindings callee position ns ps)
      (nullFindings callee position ns' ps) := by
  induction h generalizing position ps with
  | nil =>
    rw [nullFindings]
    exact reportAlike_nil
  | cons h _ ih =>
    cases ps with
    | nil =>
      rw [nullFindings, nullFindings, h.isNullMacro]
      exact .bind_same _ fun _ => ih _ _
    | cons p ps =>
      rw [nullFindings, nullFindings, h.isNullMacro]
      refine .bind_same _ fun isNull => ?_
      split
      · refine .bind_same _ fun t => (ih _ _).bind fun rest rest' hrest => ?_
        split
        · exact .ok (.cons ⟨_, _, _, h.span, rfl, rfl⟩ hrest)
        · exact .ok hrest
      · exact ih _ _

theorem nullArgument_insensitive : nullArgument.Insensitive := by
  intro move c c' h _
  have harguments : List.Forall₂ (Alike move) (c.node.childrenOf "arguments")
      (c'.node.childrenOf "arguments") :=
    (h.node.children.childrenOf "arguments").imp fun _ _ ha => ha.alike
  simp only [nullArgument, anyNullMacro_alike harguments, attr_congr h.node.attrs, calleeName]
  refine .bind_same _ fun any => ?_
  refine reportAlike_unless ?_
  split
  · split
    · exact nullFindings_alike _ harguments _ _
    · exact reportAlike_nil
  · exact reportAlike_nil

/-! ## §7 Rules that look above wrappers -/

theorem isDiscarded_eq (c : Cursor) :
    isDiscarded c =
      match c.climb.path with
      | [] => .ok false
      | step :: rest =>
        let parent := step.parent
        if parent.kind = .exprStatement then .ok true
        else if parent.kind = .forStatement then .ok (step.role == "increment")
        else if parent.kind = .binaryOperator && (parent.attr "operator").isText "," then
          if step.role == "lhs" then .ok true else isDiscarded ⟨parent, rest⟩
        else if parent.kind = .cStyleCastExpr then
          (parent.typeAt "type").map fun t => (t.map (·.base)) == some "void"
        else .ok false := by
  rw [isDiscarded]
  split <;> next h => rw [h]

/-- Whether a value is discarded is decided above the wrappers around it. -/
theorem WaysAlike.isDiscarded {k : Kind} {path path' : List Step}
    (h : WaysAlike move k path path') (n n' : Node) :
    isDiscarded ⟨n', path'⟩ = isDiscarded ⟨n, path⟩ := by
  induction hlength : path'.length using Nat.strongRecOn generalizing k path path' n n' with
  | ind length ih =>
    rw [isDiscarded_eq ⟨n', path'⟩, isDiscarded_eq ⟨n, path⟩]
    have hshort := Cursor.length_climbFrom_le n' path'
    have hclimb := h.climb n n'
    unfold Cursor.climb
    generalize (Cursor.climbFrom n path).path = up at hclimb ⊢
    generalize (Cursor.climbFrom n' path').path = up' at hclimb hshort ⊢
    cases hclimb with
    | root => rfl
    | @step s s' rest rest' role parent rise =>
      have hrest := ih rest'.length (by rw [List.length_cons] at hshort; omega) rise
        s.parent s'.parent rfl
      simp only [role, parent.kind, attr_congr parent.attrs, typeAt_congr parent.attrs, hrest]

theorem discardedPostfix_insensitive : discardedPostfix.Insensitive := by
  intro move c c' h _
  have hdiscarded : isDiscarded c' = isDiscarded c := h.path.isDiscarded c.node c'.node
  simp only [discardedPostfix, hdiscarded, h.node.kind]
  obtain ⟨hc, hc'⟩ | ⟨a, a', hc, hc', ha⟩ := rel_cases (h.node.children.peeled? "operand")
  · simp only [hc, hc']
    exact reportAlike_nil
  · simp only [hc, hc', knownType_congr ha.attrs, called_congr ha.attrs]
    refine .bind_same _ fun known => ?_
    cases known with
    | none => exact reportAlike_nil
    | some t =>
      dsimp only
      refine reportAlike_unless ?_
      refine .bind_same _ fun discarded => ?_
      refine reportAlike_unless ?_
      exact reportAlike_one h.node.span _

theorem Cursor.Twin.isHandedOver (h : c.Twin move c') : isHandedOver c' = isHandedOver c := by
  unfold Rules.isHandedOver
  have hclimb := h.climb
  generalize c.climb.path = up, c'.climb.path = up' at hclimb
  cases hclimb with
  | root => rfl
  | @step s s' rest rest' role parent _ =>
    simp only [role, parent.kind, attr_congr parent.attrs, typeAt_congr parent.attrs]
    split
    · rfl
    · split
      · rfl
      · split
        · next hreset =>
          -- The owner is read below the parent, which is a call and not a whole unit.
          have hcall : s.parent.kind = .memberCallExpr :=
            of_decide_eq_true (Bool.and_eq_true_iff.1 hreset).1
          have howner := (parent.children (by rw [hcall]; decide)).peeled? "object"
          obtain ⟨hs, hs'⟩ | ⟨a, a', hs, hs', ha⟩ := rel_cases howner
          · rw [hs, hs']
          · rw [hs, hs']
            simp only [typeAt_congr ha.attrs]
        · rfl

theorem rawOwnership_insensitive : rawOwnership.Insensitive := by
  intro move c c' h _
  simp only [rawOwnership, h.node.kind, deleteMessage, has_congr h.node.attrs, h.isHandedOver,
    typeAt_congr h.node.attrs]
  split
  · exact reportAlike_one h.node.span _
  · refine reportAlike_unless ?_
    refine .bind_same _ fun handed => ?_
    refine reportAlike_unless ?_
    exact .bind_same _ fun _ => reportAlike_one h.node.span _

/-! ## §8 Rules about comparisons -/

theorem Twin.isSizeCall (h : Twin move n n') : isSizeCall n' = isSizeCall n := by
  have harguments : (n'.childrenOf "arguments").isEmpty = (n.childrenOf "arguments").isEmpty := by
    have harguments := h.children.childrenOf "arguments"
    generalize n.childrenOf "arguments" = ns, n'.childrenOf "arguments" = ns' at harguments
    cases harguments <;> rfl
  simp only [Rules.isSizeCall, h.kind, attr_congr h.attrs, harguments]

theorem Twin.isZero (h : Twin move n n') : isZero n' = isZero n :=
  h.congr Rules.isZero fun _ _ _ _ _ _ => rfl

/-- The size stands on the same side. -/
theorem sizeSide_alike {lhs lhs' rhs rhs' : Node} (hl : Twin move lhs lhs')
    (hr : Twin move rhs rhs') :
    Agree (Option.Rel fun s s' : Node × Bool => Twin move s.1 s'.1 ∧ s'.2 = s.2)
      (sizeSide lhs rhs) (sizeSide lhs' rhs') := by
  simp only [sizeSide, hl.isSizeCall, hl.isZero, hr.isSizeCall, hr.isZero]
  refine .bind_same _ fun left => ?_
  split
  · exact .ok (.some ⟨hl, rfl⟩)
  · refine .bind_same _ fun right => ?_
    split
    · exact .ok (.some ⟨hr, rfl⟩)
    · exact .ok .none

/-- Comparisons of corresponding calls that ask the same. -/
structure SizeComparison.Twin (move : Span → Span) (s s' : SizeComparison) : Prop where
  call : CppIdioms.Twin move s.call s'.call
  operator : s'.operator = s.operator
  sizeOnLeft : s'.sizeOnLeft = s.sizeOnLeft
  asksEmpty : s'.asksEmpty = s.asksEmpty

theorem Twin.sizeComparison (h : Twin move n n') :
    Agree (Option.Rel (SizeComparison.Twin move)) (sizeComparison n) (sizeComparison n') := by
  unfold Rules.sizeComparison
  rw [attr_congr h.attrs]
  obtain ⟨hl, hl'⟩ | ⟨l, l', hl, hl', htwinl⟩ := rel_cases (h.children.peeled? "lhs")
  · rw [hl, hl']
    exact .ok .none
  · obtain ⟨hr, hr'⟩ | ⟨r, r', hr, hr', htwinr⟩ := rel_cases (h.children.peeled? "rhs")
    · rw [hl, hl', hr, hr']
      exact .ok .none
    · rw [hl, hl', hr, hr']
      refine (sizeSide_alike htwinl htwinr).bind fun side side' hside => ?_
      cases hside with
      | none => exact .ok .none
      | @some s s' hside =>
        obtain ⟨call, onLeft⟩ := s
        obtain ⟨call', onLeft'⟩ := s'
        obtain ⟨hcall, honLeft⟩ := hside
        cases honLeft
        dsimp only
        split
        · next operator _ =>
          cases asksEmpty? operator onLeft with
          | none => exact .ok .none
          | some asks => exact .ok (.some ⟨hcall, rfl, rfl, rfl⟩)
        · split
          · exact .ok .none
          · exact .error _

theorem emptinessTest_insensitive : emptinessTest.Insensitive := by
  intro move c c' h _
  simp only [emptinessTest]
  refine h.node.sizeComparison.bind fun s s' hs => ?_
  cases hs with
  | none => exact reportAlike_nil
  | @some s s' hs =>
    dsimp only
    obtain ⟨ho, ho'⟩ | ⟨a, a', ho, ho', ha⟩ := rel_cases (hs.call.children.peeled? "object")
    · simp only [ho, ho']
      exact reportAlike_nil
    · simp only [ho, ho', knownType_congr ha.attrs, called_congr ha.attrs, SizeComparison.written,
        SizeComparison.replacement, attr_congr hs.call.attrs, hs.operator, hs.sizeOnLeft,
        hs.asksEmpty]
      refine .bind_same _ fun known => ?_
      cases known with
      | none => exact reportAlike_nil
      | some t =>
        dsimp only
        refine reportAlike_unless ?_
        exact reportAlike_one h.node.span _

/-! ## §9 Chains -/

theorem chainConditions?_eq (n : Node) :
    chainConditions? n =
      if n.kind ≠ .ifStatement then some []
      else if n.has "constexpr" || (n.child? "init").isSome then none
      else
        match n.child? "condition" with
        | none => none
        | some condition =>
          match n.child? "else" with
          | none => some [condition]
          | some other => (chainConditions? other).map (condition :: ·) := by
  rw [chainConditions?]
  split
  · rfl
  · split
    · rfl
    · cases n.child? "condition" with
      | none => rfl
      | some condition =>
        dsimp only
        split <;> next he => rw [he]

/-- An expression continues no chain, whether it stands in parentheses or not. -/
theorem Alike.chainConditions? (h : Alike move n n') :
    Option.Rel (List.Forall₂ (Alike move)) (chainConditions? n) (chainConditions? n') := by
  induction hsize : n'.size using Nat.strongRecOn generalizing n n' with
  | ind size ih =>
    rw [chainConditions?_eq n, chainConditions?_eq n']
    cases h with
    | @parens _ inner expression h =>
      have hkind : n.kind ≠ .ifStatement := by
        intro hkind
        rw [hkind] at expression
        cases expression
      rw [if_pos hkind, if_pos (by simp [Node.inParens])]
      exact .some .nil
    | node kind span attrs children =>
      rw [kind, has_congr attrs, isSome_eq_of_rel (children.child? "init")]
      split
      · exact .some .nil
      · split
        · exact .none
        · obtain ⟨hc, hc'⟩ | ⟨a, a', hc, hc', ha⟩ := rel_cases (children.alikeChild? "condition")
          · rw [hc, hc']
            exact .none
          · rw [hc, hc']
            obtain ⟨he, he'⟩ | ⟨b, b', he, he', hb⟩ := rel_cases (children.alikeChild? "else")
            · rw [he, he']
              exact .some (.cons ha .nil)
            · rw [he, he']
              have hrest := ih b'.size (hsize ▸ Node.size_child?_lt he') hb rfl
              obtain ⟨hb, hb'⟩ | ⟨cs, cs', hb, hb', hcs⟩ := rel_cases hrest
              · simp only [hb, hb']
                exact .none
              · simp only [hb, hb']
                exact .some (.cons ha hcs)

theorem Twin.caseLabel? (h : Twin move n n') : caseLabel? n' = caseLabel? n :=
  h.congr Rules.caseLabel? fun _ _ _ _ _ _ => rfl

theorem Alike.splitEquality (h : Alike move n n') :
    Agree (Option.Rel fun s s' : Node × CaseLabel => Twin move s.1 s'.1 ∧ s'.2 = s.2)
      (splitEquality n) (splitEquality n') := by
  have hpeel := h.peel
  unfold Rules.splitEquality
  simp only [hpeel.kind, attr_congr hpeel.attrs]
  split
  · obtain ⟨hl, hl'⟩ | ⟨l, l', hl, hl', htwinl⟩ := rel_cases (hpeel.children.peeled? "lhs")
    · rw [hl, hl']
      exact .ok .none
    · obtain ⟨hr, hr'⟩ | ⟨r, r', hr, hr', htwinr⟩ := rel_cases (hpeel.children.peeled? "rhs")
      · rw [hl, hl', hr, hr']
        exact .ok .none
      · rw [hl, hl', hr, hr']
        simp only [htwinl.caseLabel?, htwinr.caseLabel?]
        refine .bind_same _ fun left => .bind_same _ fun right => ?_
        split
        · exact .ok (.some ⟨htwinl, rfl⟩)
        · exact .ok (.some ⟨htwinr, rfl⟩)
        · exact .ok .none
  · exact .ok .none

/-- The same shapes and labels are met along the conditions, so the subjects correspond. -/
theorem commonSubject_alike {ns ns' : List Node} (h : List.Forall₂ (Alike move) ns ns')
    {first first' : Option (Node × List ShapePart)}
    (hfirst : Option.Rel (fun s s' => Twin move s.1 s'.1 ∧ s'.2 = s.2) first first')
    (seen : List CaseLabel) :
    Agree (Option.Rel (Twin move)) (commonSubject first seen ns) (commonSubject first' seen ns') := by
  induction h generalizing first first' seen with
  | nil =>
    cases hfirst with
    | none => exact .error _
    | some hfirst => exact .ok (.some hfirst.1)
  | cons h _ ih =>
    rw [commonSubject, commonSubject]
    refine h.splitEquality.bind fun split split' hsplit => ?_
    cases hsplit with
    | none => exact .ok .none
    | @some s s' hs =>
      obtain ⟨subject, label⟩ := s
      obtain ⟨subject', label'⟩ := s'
      obtain ⟨htwin, hlabel⟩ := hs
      cases hlabel
      dsimp only
      rw [htwin.alike.shape]
      refine .bind_same _ fun shape => ?_
      cases hfirst with
      | none =>
        have hnew : Option.Rel (fun s s' => Twin move s.1 s'.1 ∧ s'.2 = s.2)
            (some (subject, shape)) (some (subject', shape)) := .some ⟨htwin, rfl⟩
        exact ih hnew _
      | @some f f' hf =>
        obtain ⟨node, firstShape⟩ := f
        obtain ⟨node', firstShape'⟩ := f'
        obtain ⟨hnode, hshape⟩ := hf
        cases hshape
        dsimp only
        split
        · exact ih (.some ⟨hnode, rfl⟩) _
        · exact .ok .none

theorem switchChain_insensitive (minBranches : Value) : (switchChain minBranches).Insensitive := by
  intro move c c' h hlooks
  have hkind : c.node.kind = .ifStatement := List.mem_singleton.1 (Detector.mem_kinds hlooks)
  have hexpression : c.node.kind.isExpression = false := by rw [hkind]; rfl
  have hchain : continuesChain c' = continuesChain c := by
    rw [continuesChain, continuesChain, h.kind_parent? hexpression, h.role? hexpression]
  simp only [switchChain, hchain]
  refine reportAlike_unless ?_
  obtain ⟨hc, hc'⟩ | ⟨ns, ns', hc, hc', hns⟩ := rel_cases h.node.alike.chainConditions?
  · simp only [hc, hc']
    exact reportAlike_nil
  · simp only [hc, hc', ← hns.length_eq]
    refine .bind_same _ fun tooShort => ?_
    refine reportAlike_unless ?_
    refine (commonSubject_alike hns .none []).bind fun subject subject' hsubject => ?_
    cases hsubject with
    | none => exact reportAlike_nil
    | some hsubject =>
      simp only [isSwitchable, typeAt_congr hsubject.attrs, called_congr hsubject.attrs]
      refine .bind_same _ fun switchable => ?_
      split
      · exact reportAlike_one h.node.span _
      · exact reportAlike_nil

/-! ## §10 The catalog -/

/-- Every rule of the catalog is insensitive. -/
theorem builtin_insensitive (s : Settings) : ∀ d ∈ builtinDetectors s, d.Insensitive := by
  simp only [builtinDetectors, List.forall_mem_cons, List.not_mem_nil, false_implies, implies_true,
    and_true]
  exact ⟨namespaceImport_insensitive, flushingNewline_insensitive, switchChain_insensitive _,
    discardedPostfix_insensitive, rawArray_insensitive, macroConstant_insensitive,
    copyingLoop_insensitive _, signedIndex_insensitive, nullArgument_insensitive,
    narrowingInit_insensitive, constLocal_insensitive, copiedParameter_insensitive _,
    castStyle_insensitive, rawOwnership_insensitive, typedefAlias_insensitive,
    unscopedEnum_insensitive, emptinessTest_insensitive, implicitConversion_insensitive⟩

/-- No rule of the catalog is about parentheses or whole units. -/
theorem builtin_looksAt (s : Settings) (d : Detector) (hd : d ∈ builtinDetectors s) :
    d.looksAt .parenExpr = false ∧ d.looksAt .translationUnit = false := by
  simp only [builtinDetectors, List.mem_cons, List.not_mem_nil, or_false] at hd
  rcases hd with rfl | rfl | rfl | rfl | rfl | rfl | rfl | rfl | rfl | rfl | rfl | rfl | rfl |
    rfl | rfl | rfl | rfl | rfl <;> exact ⟨rfl, rfl⟩

end CppIdioms
