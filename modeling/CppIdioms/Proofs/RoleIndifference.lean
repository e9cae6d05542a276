import CppIdioms.Proofs.Insensitivity
import CppIdioms.Proofs.Rehanging

/-!
# Rules that do not read the roles below wrappers

Most detectors give the same answers after the roles below wrappers are renamed in any way, since they
look through wrappers by the only child and ask for roles below other nodes. Each is shown to do so
along the steps of its inspection.

Three rules ask for the scope of a declaration, and a declaration that hangs under `parameters` belongs
to the parameters whatever it hangs from. They ignore a renaming that keeps this role apart. The rule
about narrowing follows a role through wrappers and is not treated here.

## Contents

* `Detector.IgnoresRoles`: detectors that a renaming does not touch.
* `scopeDetectors`: the detectors that ask for the scope of a declaration.

## Main statements

* `scopeDetectors_ignoreRoles`: the rules that ask for a scope, if parameters stay apart.
* `builtin_ignoresRoles`: the rules that no renaming touches.
-/

namespace CppIdioms

open CppIdioms.Rules

/-! ## §1 Detectors -/

/-- At nodes that it looks at, the detector answers the same after renaming. -/
def Detector.IgnoresRoles (ρ : Renaming) (d : Detector) : Prop :=
  ∀ c : Cursor, d.looksAt c.node.kind → d.inspect (c.rehang ρ) = d.inspect c

section Detectors

variable (ρ : Renaming)

@[simp] theorem Rule.finding_rehang (rule : Rule) (n : Node) (message : String) :
    rule.finding (n.rehang ρ) message = rule.finding n message := by
  rw [Rule.finding, Rule.finding, Node.span_rehang]

theorem Agree.refl {ε α : Type} (x : Except ε α) : Agree Eq x x := by
  cases x with
  | ok a => exact .ok rfl
  | error e => exact .error e

/-- Computations that give the same answer, or fail for the same reason, are the same. -/
theorem Agree.eq {ε α : Type} {x y : Except ε α} (h : Agree Eq x y) : y = x := by
  cases h with
  | ok h => rw [h]
  | error e => rfl

/-- A detector does not look at wrappers if none is among its kinds. -/
theorem Detector.wrapped?_eq_none {d : Detector} {n : Node} (h : d.looksAt n.kind)
    (hkinds : ∀ k ∈ d.kinds, k.isWrapper = false) : n.wrapped? = none :=
  Node.wrapped?_of_kind (hkinds _ (Detector.mem_kinds h))

/-! ## §2 Rules about declarations and loops -/

theorem castStyle_ignoresRoles : castStyle.IgnoresRoles ρ := by
  intro c _
  simp [castStyle]

theorem macroConstant_ignoresRoles : macroConstant.IgnoresRoles ρ := by
  intro c _
  simp [macroConstant, replacementTokens]

theorem inCLinkage_rehang (c : Cursor) : inCLinkage (c.rehang ρ) = inCLinkage c := by
  have hdeclares : declaresCLinkage ∘ Node.rehang ρ = declaresCLinkage := by
    funext n
    rw [Function.comp_apply, declaresCLinkage, Node.kind_rehang, Node.attrOr_rehang, declaresCLinkage]
  rw [inCLinkage, inCLinkage, Cursor.ancestors_rehang, List.any_map, hdeclares]

theorem typedefAlias_ignoresRoles : typedefAlias.IgnoresRoles ρ := by
  intro c _
  simp [typedefAlias, inCLinkage_rehang]

theorem unscopedEnum_ignoresRoles : unscopedEnum.IgnoresRoles ρ := by
  intro c _
  simp [unscopedEnum, inCLinkage_rehang]

theorem belongsToDefinition_rehang (c : Cursor) :
    belongsToDefinition (c.rehang ρ) = belongsToDefinition c := by
  unfold belongsToDefinition
  rw [Cursor.nearest?_rehang]
  cases hnearest : c.nearest? callableKinds with
  | none => rfl
  | some f =>
    -- A function is no wrapper, so that its body is found under the same role.
    have hcallable : ∀ k ∈ callableKinds, k.isWrapper = false := by decide
    have hkind : f.kind ∈ callableKinds := by
      unfold Cursor.nearest? at hnearest
      simpa using List.find?_some hnearest
    have hbare := Node.wrapped?_of_kind (hcallable f.kind hkind)
    simp [Node.child?_rehang ρ hbare]

theorem copiedParameter_ignoresRoles (threshold : Value) :
    (copiedParameter threshold).IgnoresRoles ρ := by
  intro c _
  simp [copiedParameter, belongsToDefinition_rehang]

theorem implicitConversion_ignoresRoles : implicitConversion.IgnoresRoles ρ := by
  intro c hlooks
  have hbare := Detector.wrapped?_eq_none hlooks (by decide)
  have hclass : constructedClass (c.rehang ρ) = constructedClass c := by
    unfold constructedClass
    rw [Cursor.nearest?_rehang]
    cases c.nearest? [.recordDecl] <;> simp
  have hparameter : singleParameter? (c.node.rehang ρ) = (singleParameter? c.node).map (Node.rehang ρ) := by
    simp only [singleParameter?, Node.childrenOf_rehang ρ hbare, Node.has_rehang, List.countP_map,
      Function.comp_def]
    split
    · rfl
    · rw [List.head?_map]
  simp only [implicitConversion, Cursor.node_rehang, isExempt, Node.has_rehang, hparameter, hclass,
    Node.nameOr_rehang, Rule.finding_rehang]
  cases singleParameter? c.node with
  | none => rfl
  | some p => simp only [Option.map_some, Node.typeAt_rehang]

theorem changes_rehang (name : String) (n : Node) : changes name (n.rehang ρ) = changes name n := by
  have hoperand : changedOperand? (n.rehang ρ) = (changedOperand? n).map (Node.rehang ρ) := by
    have hchild : ∀ role, n.kind.isWrapper = false →
        (n.rehang ρ).child? role = (n.child? role).map (Node.rehang ρ) := fun role hkind =>
      Node.child?_rehang ρ (Node.wrapped?_of_kind hkind) role
    unfold changedOperand?
    rw [Node.kind_rehang, Node.denies_rehang]
    -- Nothing that changes an operand is a wrapper; a call asks first whether it is constant.
    split
    case h_6 hkind =>
      split
      · exact hchild _ (by rw [hkind]; rfl)
      · rfl
    case h_7 => rfl
    all_goals
      next hkind => exact hchild _ (by rw [hkind]; rfl)
  unfold changes
  rw [hoperand]
  cases changedOperand? n with
  | none => rfl
  | some operand => exact Node.designates_rehang ρ operand name

theorem isModified_rehang (binding : Node) (body : Option Node) (name : String) :
    isModified (binding.rehang ρ) (body.map (Node.rehang ρ)) name = isModified binding body name := by
  unfold isModified
  rw [Node.attr_rehang]
  split
  · cases body with
    | none => rfl
    | some b =>
      simp only [Option.map_some, Node.walk_rehang, List.any_map, Function.comp_def, changes_rehang]
  · rfl

theorem copyingLoop_ignoresRoles (threshold : Value) : (copyingLoop threshold).IgnoresRoles ρ := by
  intro c hlooks
  have hbare := Detector.wrapped?_eq_none hlooks (List.forall_mem_singleton.2 rfl)
  simp only [copyingLoop, Cursor.node_rehang, Node.child?_rehang ρ hbare]
  cases c.node.child? "binding" with
  | none => rfl
  | some b =>
    simp only [Option.map_some, Node.has_rehang, Node.knownType_rehang, Node.properName?_rehang,
      isModified_rehang, Rule.finding_rehang]

/-! ## §3 Rules about operands -/

theorem innermostStream?_rehang (n : Node) :
    innermostStream? (n.rehang ρ) = (innermostStream? n).map (Node.rehang ρ) := by
  induction hsize : n.size using Nat.strongRecOn generalizing n with
  | ind size ih =>
    rw [innermostStream?_eq, innermostStream?_eq n, Node.kind_rehang]
    split
    · next hkind =>
      have hbare : n.wrapped? = none := Node.wrapped?_of_kind (by rw [hkind]; rfl)
      rw [Node.peeled?_rehang ρ hbare]
      cases hstream : n.peeled? "stream" with
      | none => rfl
      | some s => exact ih s.size (hsize ▸ Node.size_peeled?_lt hstream) s rfl
    · rfl

theorem streamLabel_rehang (stream : Option Node) :
    streamLabel (stream.map (Node.rehang ρ)) = streamLabel stream := by
  unfold streamLabel
  cases stream with
  | none => rfl
  | some s =>
    rw [Option.map_some, Option.bind_some, Option.bind_some, innermostStream?_rehang]
    cases innermostStream? s <;> simp

theorem flushingNewline_ignoresRoles : flushingNewline.IgnoresRoles ρ := by
  intro c hlooks
  have hbare := Detector.wrapped?_eq_none hlooks (by decide)
  simp only [flushingNewline, Cursor.node_rehang, Node.peeled?_rehang ρ hbare, streamLabel_rehang]
  cases c.node.peeled? "operand" with
  | none => rfl
  | some operand => simp [isEndl]

theorem signedIndex_ignoresRoles : signedIndex.IgnoresRoles ρ := by
  intro c hlooks
  have hbare := Detector.wrapped?_eq_none hlooks (by decide)
  have hobject : mayBeObject ((c.node.peeled? "container").map (Node.rehang ρ))
      = mayBeObject (c.node.peeled? "container") := by
    cases c.node.peeled? "container" <;> simp [mayBeObject]
  simp only [signedIndex, Cursor.node_rehang, Node.peeled?_rehang ρ hbare, hobject]
  cases c.node.peeled? "index" with
  | none => rfl
  | some index => simp

theorem isNullMacro_rehang (n : Node) : isNullMacro (n.rehang ρ) = isNullMacro n := by
  simp [isNullMacro]

theorem anyNullMacro_rehang (ns : List Node) :
    anyNullMacro (ns.map (Node.rehang ρ)) = anyNullMacro ns := by
  induction ns with
  | nil => rfl
  | cons n ns ih => rw [List.map_cons, anyNullMacro, anyNullMacro, isNullMacro_rehang, ih]

theorem nullFindings_rehang (callee : String) (position : Nat) (ns : List Node) (ps : List Value) :
    nullFindings callee position (ns.map (Node.rehang ρ)) ps = nullFindings callee position ns ps := by
  induction ns generalizing position ps with
  | nil => rfl
  | cons n ns ih =>
    cases ps with
    | nil => simp only [List.map_cons, nullFindings, isNullMacro_rehang, ih]
    | cons p ps => simp only [List.map_cons, nullFindings, isNullMacro_rehang, ih, Rule.finding_rehang]

theorem nullArgument_ignoresRoles : nullArgument.IgnoresRoles ρ := by
  intro c hlooks
  have hbare := Detector.wrapped?_eq_none hlooks (by decide)
  simp only [nullArgument, Cursor.node_rehang, Node.childrenOf_rehang ρ hbare, anyNullMacro_rehang,
    Node.attr_rehang, calleeName, nullFindings_rehang]

/-! ## §4 Rules that look above wrappers -/

/-- Whether a value is discarded is decided above the wrappers around it. -/
theorem isDiscarded_rehang (c : Cursor) : isDiscarded (c.rehang ρ) = isDiscarded c := by
  induction hlength : c.path.length using Nat.strongRecOn generalizing c with
  | ind length ih =>
    rw [isDiscarded_eq, isDiscarded_eq c]
    have hshort := Cursor.length_climb_le c
    cases hclimb : c.climb.path with
    | nil => rw [Cursor.climb_rehang, Cursor.rehang, hclimb, rehangPath]
    | cons s rest =>
      rw [hclimb, List.length_cons] at hshort
      have hrest : isDiscarded ⟨s.parent.rehang ρ, rehangPath ρ s.parent.kind rest⟩
          = isDiscarded ⟨s.parent, rest⟩ := ih rest.length (by omega) ⟨s.parent, rest⟩ rfl
      simp only [Cursor.path_climb_rehang ρ hclimb, Node.kind_rehang, Node.attr_rehang,
        Node.typeAt_rehang, hrest]

theorem discardedPostfix_ignoresRoles : discardedPostfix.IgnoresRoles ρ := by
  intro c hlooks
  have hbare := Detector.wrapped?_eq_none hlooks (by decide)
  simp only [discardedPostfix, Cursor.node_rehang, Node.peeled?_rehang ρ hbare, isDiscarded_rehang]
  cases c.node.peeled? "operand" with
  | none => rfl
  | some operand => simp

theorem isHandedOver_rehang (c : Cursor) : isHandedOver (c.rehang ρ) = isHandedOver c := by
  unfold isHandedOver
  cases hclimb : c.climb.path with
  | nil => rw [Cursor.climb_rehang, Cursor.rehang, hclimb, rehangPath]
  | cons s rest =>
    have hbare := Node.wrapped?_of_kind (Cursor.isWrapper_of_climb hclimb)
    simp only [Cursor.path_climb_rehang ρ hclimb, Node.kind_rehang, Node.attr_rehang,
      Node.typeAt_rehang, Node.peeled?_rehang ρ hbare]
    cases s.parent.peeled? "object" with
    | none => rfl
    | some owner => simp

theorem rawOwnership_ignoresRoles : rawOwnership.IgnoresRoles ρ := by
  intro c _
  simp [rawOwnership, isHandedOver_rehang, deleteMessage]

/-! ## §5 Rules about comparisons -/

theorem isSizeCall_rehang {n : Node} (h : n.wrapped? = none) :
    isSizeCall (n.rehang ρ) = isSizeCall n := by
  simp only [isSizeCall, Node.kind_rehang, Node.attr_rehang, Node.childrenOf_rehang ρ h,
    List.isEmpty_map]

theorem isZero_rehang (n : Node) : isZero (n.rehang ρ) = isZero n := by
  simp [isZero, Node.attrOr_rehang]

/-- The size stands on the same side, and its call is not looked through. -/
theorem sizeSide_rehang {lhs rhs : Node} (hl : lhs.wrapped? = none) (hr : rhs.wrapped? = none) :
    Agree (Option.Rel fun s s' : Node × Bool => s.1.wrapped? = none ∧ s' = (s.1.rehang ρ, s.2))
      (sizeSide lhs rhs) (sizeSide (lhs.rehang ρ) (rhs.rehang ρ)) := by
  simp only [sizeSide, isSizeCall_rehang ρ hl, isSizeCall_rehang ρ hr, isZero_rehang]
  refine .bind_same _ fun left => ?_
  split
  · exact .ok (.some ⟨hl, rfl⟩)
  · refine .bind_same _ fun right => ?_
    split
    · exact .ok (.some ⟨hr, rfl⟩)
    · exact .ok .none

theorem sizeComparison_rehang {n : Node} (h : n.wrapped? = none) :
    Agree (Option.Rel fun s s' : SizeComparison =>
        s.call.wrapped? = none ∧ s' = { s with call := s.call.rehang ρ })
      (sizeComparison n) (sizeComparison (n.rehang ρ)) := by
  unfold sizeComparison
  rw [Node.peeled?_rehang ρ h, Node.peeled?_rehang ρ h, Node.attr_rehang]
  cases hl : n.peeled? "lhs" with
  | none => exact .ok .none
  | some l =>
    cases hr : n.peeled? "rhs" with
    | none => exact .ok .none
    | some r =>
      have hbare : ∀ {role : String} {m : Node}, n.peeled? role = some m → m.wrapped? = none := by
        intro role m hm
        obtain ⟨d, _, rfl⟩ := Option.map_eq_some_iff.1 hm
        exact Node.wrapped?_peel d
      refine (sizeSide_rehang ρ (hbare hl) (hbare hr)).bind fun side side' hside => ?_
      cases hside with
      | none => exact .ok .none
      | @some s s' hside =>
        obtain ⟨call, onLeft⟩ := s
        obtain ⟨hcall, rfl⟩ := hside
        dsimp only
        split
        · next operator _ =>
          cases asksEmpty? operator onLeft with
          | none => exact .ok .none
          | some asks => exact .ok (.some ⟨hcall, rfl⟩)
        · split
          · exact .ok .none
          · exact .error _

theorem emptinessTest_ignoresRoles : emptinessTest.IgnoresRoles ρ := by
  intro c hlooks
  have hbare := Detector.wrapped?_eq_none hlooks (by decide)
  refine Agree.eq ((sizeComparison_rehang ρ hbare).bind fun s s' hs => ?_)
  cases hs with
  | none => exact .ok rfl
  | @some s s' hs =>
    obtain ⟨hcall, rfl⟩ := hs
    simp only [Node.peeled?_rehang ρ hcall, SizeComparison.written, SizeComparison.replacement,
      Node.attr_rehang]
    cases s.call.peeled? "object" with
    | none => exact .ok rfl
    | some owner =>
      simp only [Option.map_some, Node.knownType_rehang, Node.called_rehang, Cursor.node_rehang,
        Rule.finding_rehang]
      exact .refl _

/-! ## §6 Chains -/

theorem chainConditions?_rehang (n : Node) :
    chainConditions? (n.rehang ρ) = (chainConditions? n).map (List.map (Node.rehang ρ)) := by
  induction hsize : n.size using Nat.strongRecOn generalizing n with
  | ind size ih =>
    rw [chainConditions?_eq, chainConditions?_eq n, Node.kind_rehang]
    by_cases hkind : n.kind = .ifStatement
    · have hchild := Node.child?_rehang ρ (Node.wrapped?_of_kind (by rw [hkind]; rfl : n.kind.isWrapper = false))
      simp only [hkind, hchild, Node.has_rehang, Option.isSome_map]
      split
      · rfl
      · split
        · rfl
        · cases n.child? "condition" with
          | none => rfl
          | some condition =>
            cases helse : n.child? "else" with
            | none => rfl
            | some other =>
              have hother := ih other.size (hsize ▸ Node.size_child?_lt helse) other rfl
              simp only [Option.map_some, hother, Option.map_map]
              rfl
    · rw [if_pos hkind, if_pos hkind]
      rfl

theorem caseLabel?_rehang (n : Node) : caseLabel? (n.rehang ρ) = caseLabel? n := by
  simp [caseLabel?, Literal.literalValue, Node.attrOr_rehang]

theorem splitEquality_rehang (condition : Node) :
    splitEquality (condition.rehang ρ) =
      (splitEquality condition).map (Option.map fun found => (found.1.rehang ρ, found.2)) := by
  unfold splitEquality
  simp only [Node.peel_rehang, Node.kind_rehang, Node.attr_rehang,
    Node.peeled?_rehang ρ (Node.wrapped?_peel condition)]
  split
  · cases condition.peel.peeled? "lhs" with
    | none => rfl
    | some lhs =>
      cases condition.peel.peeled? "rhs" with
      | none => rfl
      | some rhs =>
        simp only [Option.map_some, caseLabel?_rehang]
        cases caseLabel? lhs with
        | error e => rfl
        | ok left =>
          cases caseLabel? rhs with
          | error e => rfl
          | ok right => cases left <;> cases right <;> rfl
  · rfl

theorem commonSubject_rehang (first : Option (Node × List ShapePart)) (seen : List CaseLabel)
    (conditions : List Node) :
    commonSubject (first.map fun found => (found.1.rehang ρ, found.2)) seen
        (conditions.map (Node.rehang ρ)) =
      (commonSubject first seen conditions).map (Option.map (Node.rehang ρ)) := by
  induction conditions generalizing first seen with
  | nil => cases first <;> rfl
  | cons condition rest ih =>
    rw [List.map_cons, commonSubject, commonSubject, splitEquality_rehang]
    cases splitEquality condition with
    | error e => rfl
    | ok found =>
      cases found with
      | none => rfl
      | some found =>
        obtain ⟨subject, label⟩ := found
        change ((subject.rehang ρ).shape.mapError Error.fault >>= _) = Except.map _
          (subject.shape.mapError Error.fault >>= _)
        rw [Node.shape_rehang]
        cases subject.shape.mapError Error.fault with
        | error e => rfl
        | ok shape =>
          cases first with
          | none => exact ih (some (subject, shape)) (label :: seen)
          | some found =>
            simp only [bind, Except.bind, Option.map_some]
            split
            · exact ih (some found) (label :: seen)
            · rfl

/-- The role decides only below an if-statement, which is no wrapper. -/
theorem continuesChain_rehang (c : Cursor) : continuesChain (c.rehang ρ) = continuesChain c := by
  unfold continuesChain Cursor.parent? Cursor.role? Cursor.rehang
  cases c.path with
  | nil => rfl
  | cons s rest =>
    by_cases hkind : s.parent.kind = .ifStatement
    · have hbare : s.parent.wrapped? = none := Node.wrapped?_of_kind (by rw [hkind]; rfl)
      simp [rehangPath, Node.hook_of_wrapped?_eq_none ρ hbare]
    · simp [rehangPath, beq_false_of_ne hkind]

theorem switchChain_ignoresRoles (minBranches : Value) :
    (switchChain minBranches).IgnoresRoles ρ := by
  intro c _
  simp only [switchChain, continuesChain_rehang, Cursor.node_rehang, chainConditions?_rehang,
    Rule.finding_rehang]
  cases chainConditions? c.node with
  | none => rfl
  | some conditions =>
    have hsubject := commonSubject_rehang ρ none [] conditions
    rw [Option.map_none] at hsubject
    simp only [Option.map_some, List.length_map, hsubject]
    cases commonSubject none [] conditions with
    | error e => rfl
    | ok found =>
      cases found with
      | none => rfl
      | some subject =>
        simp only [Except.map, Option.map_some, bind, Except.bind, isSwitchable, Node.typeAt_rehang,
          Node.called_rehang]

/-! ## §7 Scopes -/

/-- The detectors that ask for the scope of a declaration. -/
def scopeDetectors : List Detector := [namespaceImport, rawArray, constLocal]

/-- A detector that asks for the scope ignores a renaming that tells, for the declarations it looks at,
parameters from everything else. -/
theorem scopeDetectors_ignoreRoles {d : Detector} (hd : d ∈ scopeDetectors)
    (hρ : ∀ k, d.looksAt k → ∀ role, ρ k role = "parameters" ↔ role = "parameters") :
    d.IgnoresRoles ρ := by
  intro c hlooks
  have hscope := c.scope_rehang ρ (hρ _ hlooks)
  simp only [scopeDetectors, List.mem_cons, List.not_mem_nil, or_false] at hd
  rcases hd with rfl | rfl | rfl
  · have hfile : atFileScope (c.rehang ρ) = atFileScope c := by
      rw [atFileScope, atFileScope, hscope, Cursor.nearest?_rehang, Option.isNone_map]
    simp [namespaceImport, hfile, importedNames, Node.called?]
  · simp [rawArray, hscope, arrayReplacement, declaredExtent?]
  · have hbare := Detector.wrapped?_eq_none hlooks (by decide)
    simp [constLocal, hscope, neverChanges, Node.child?_rehang ρ hbare]

/-- The rules that neither ask for a scope nor follow a role through wrappers. -/
theorem builtin_ignoresRoles (s : Settings) {d : Detector} (hd : d ∈ builtinDetectors s)
    (hscope : d ∉ scopeDetectors) (hnarrowing : d ≠ narrowingInit) : d.IgnoresRoles ρ := by
  simp only [builtinDetectors, List.mem_cons, List.not_mem_nil, or_false] at hd
  rcases hd with rfl | rfl | rfl | rfl | rfl | rfl | rfl | rfl | rfl | rfl | rfl | rfl | rfl | rfl |
    rfl | rfl | rfl | rfl
  · exact absurd (by simp [scopeDetectors]) hscope
  · exact flushingNewline_ignoresRoles ρ
  · exact switchChain_ignoresRoles ρ _
  · exact discardedPostfix_ignoresRoles ρ
  · exact absurd (by simp [scopeDetectors]) hscope
  · exact macroConstant_ignoresRoles ρ
  · exact copyingLoop_ignoresRoles ρ _
  · exact signedIndex_ignoresRoles ρ
  · exact nullArgument_ignoresRoles ρ
  · exact absurd rfl hnarrowing
  · exact absurd (by simp [scopeDetectors]) hscope
  · exact copiedParameter_ignoresRoles ρ _
  · exact castStyle_ignoresRoles ρ
  · exact rawOwnership_ignoresRoles ρ
  · exact typedefAlias_ignoresRoles ρ
  · exact unscopedEnum_ignoresRoles ρ
  · exact emptinessTest_ignoresRoles ρ
  · exact implicitConversion_ignoresRoles ρ

end Detectors

end CppIdioms
