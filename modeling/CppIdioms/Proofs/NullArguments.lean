import CppIdioms.Proofs.Locations
import CppIdioms.Proofs.SwitchChains
import CppIdioms.Proofs.TypeShorthand
import Mathlib.Data.List.Perm.Subperm

/-!
# Null macros among arguments

Arguments and parameters of a call are gone through side by side until either of them ends. Every position
is judged on its own, and the message tells the position. So one call has as many findings as it has
positions to report, and none of them is dropped from a report for being like another one, wherever the
arguments stand.

## Contents

* `Node.IsNull`, `CppType.IsKnownIntegral`: null macros, and the parameter types that are reported.
* `PassedNull`: a null macro that a parameter takes as a whole number, with its message and its finding.
* `Taken`: all of them, in the order of the arguments.

## Main statements

* `Taken.report`, `Taken.skip`: one more argument in front.
* `exists_taken`: what is found from a position on.
* `PassedNull.position_eq_of_key`: findings of one key are about one position.
* `null_arguments_reported`: what is reported of a call, and that the report of the tree has all of it.
-/

namespace CppIdioms

open CppIdioms.Text CppIdioms.Rules

/-! ## §1 Null macros and whole numbers -/

/-- The expression, wrappers aside, comes from the null macro or is a name spelled like it. -/
def Node.IsNull (n : Node) : Prop :=
  n.peel.attr "macro" = .str "NULL" ∨ n.peel.kind = .declRefExpr ∧ n.peel.name? = some "NULL"

/-- A type that is known, fundamental and one of whole numbers. -/
structure CppType.IsKnownIntegral (t : CppType) : Prop where
  known : t.resolved = true
  fundamental : t.category = .builtin
  whole : ∃ b, builtin? t.base = some b ∧ b.integral = true

theorem answers_isNullMacro {n : Node} (h : (n.peel.attr "macro").isCompound = false) :
    Answers (fun b => b = true ↔ n.IsNull) (isNullMacro n) := by
  refine (Value.answers_among h ["NULL"]).bind fun named hnamed => ?_
  simp only [List.mem_singleton, exists_eq_left] at hnamed
  cases named with
  | true => exact .ok (iff_of_true rfl (.inl (hnamed.1 rfl)))
  | false =>
    have hnot : n.peel.attr "macro" ≠ .str "NULL" := fun hnull => by simpa using hnamed.2 hnull
    exact .ok (by simp [Node.IsNull, hnot])

/-- An argument list is searched for a null macro to its end, or up to the first one. -/
theorem answers_anyNullMacro {ns : List Node}
    (h : ∀ n ∈ ns, (n.peel.attr "macro").isCompound = false) :
    Answers (fun b => b = true ↔ ∃ n ∈ ns, n.IsNull) (anyNullMacro ns) := by
  induction ns with
  | nil => exact .ok (by simp)
  | cons n ns ih =>
    obtain ⟨hn, hns⟩ := List.forall_mem_cons.1 h
    refine (answers_isNullMacro hn).bind fun isNull hnull => ?_
    cases isNull with
    | true => exact .ok (iff_of_true rfl ⟨n, List.mem_cons_self, hnull.1 rfl⟩)
    | false =>
      obtain ⟨any, hany, hrest⟩ := ih hns
      have hnot : ¬ n.IsNull := fun hyes => by simpa using hnull.2 hyes
      exact ⟨any, hany, by simpa [hnot] using hrest⟩

theorem parameterType_of_ofValue {p : Value} {t : Option CppType} (h : CppType.ofValue p = .ok t) :
    parameterType p = .ok (t.filter (·.resolved)) := by
  rw [parameterType, h]
  rfl

theorem CppType.isKnownIntegral_iff {t : CppType} :
    t.IsKnownIntegral ↔ t.resolved = true ∧ t.isIntegral = true := by
  have hwhole : ((builtin? t.base).map (·.integral)).getD false = true ↔
      ∃ b, builtin? t.base = some b ∧ b.integral = true := by
    cases builtin? t.base <;> simp
  rw [isIntegral, Bool.and_eq_true, hwhole, beq_iff_eq]
  exact ⟨fun h => ⟨h.known, h.fundamental, h.whole⟩, fun h => ⟨h.1, h.2.1, h.2.2⟩⟩

/-! ## §2 Positions -/

/-- A null macro among the arguments of a call: its position, and the type of the parameter there. -/
structure PassedNull where
  position : Nat
  argument : Node
  type : CppType

namespace PassedNull

/-- At the position the first list has the null macro, and the second one a known type of whole
numbers. -/
structure Among (x : PassedNull) (arguments : List Node) (parameters : List Value) : Prop where
  argument : arguments[x.position]? = some x.argument
  isNull : x.argument.IsNull
  parameter : ∃ p, parameters[x.position]? = some p ∧ CppType.ofValue p = .ok (some x.type)
  integral : x.type.IsKnownIntegral

/-- What is said of it, in a call of `callee`. -/
def message (callee : String) (x : PassedNull) : String :=
  "NULL passed as argument " ++ toString (x.position + 1) ++ " of '" ++ callee
    ++ "' selects the integer parameter '" ++ x.type.spelling ++ "'; pass nullptr"

/-- The finding at the argument. -/
def finding (callee : String) (x : PassedNull) : Finding :=
  nullArgumentRule.finding x.argument (x.message callee)

/-- The same with so many arguments in front of it. -/
def behind (start : Nat) (x : PassedNull) : PassedNull := { x with position := start + x.position }

theorem behind_zero (x : PassedNull) : x.behind 0 = x := by
  simp [behind]

theorem behind_behind (start more : Nat) (x : PassedNull) :
    (x.behind more).behind start = x.behind (start + more) := by
  simp [behind, Nat.add_assoc]

theorem not_among_nil_left (x : PassedNull) (parameters : List Value) : ¬ x.Among [] parameters := by
  intro h
  simpa using h.argument

theorem not_among_nil_right (x : PassedNull) (arguments : List Node) : ¬ x.Among arguments [] := by
  intro h
  simpa using h.parameter

/-- It is the first argument, or among the others. -/
theorem among_cons_iff {x : PassedNull} {n : Node} {p : Value} {arguments : List Node}
    {parameters : List Value} : x.Among (n :: arguments) (p :: parameters) ↔
      (n.IsNull ∧ x.type.IsKnownIntegral ∧ CppType.ofValue p = .ok (some x.type) ∧
        x = ⟨0, n, x.type⟩) ∨
      ∃ y : PassedNull, y.Among arguments parameters ∧ y.behind 1 = x := by
  obtain ⟨position, argument, t⟩ := x
  constructor
  · rintro ⟨hargument, hnull, ⟨p', hparameter, htype⟩, hintegral⟩
    cases position with
    | zero =>
      simp only [List.getElem?_cons_zero, Option.some.injEq] at hargument hparameter
      subst hargument hparameter
      exact .inl ⟨hnull, hintegral, htype, rfl⟩
    | succ position =>
      simp only [List.getElem?_cons_succ] at hargument hparameter
      refine .inr ⟨⟨position, argument, t⟩, ⟨hargument, hnull, ⟨p', hparameter, htype⟩, hintegral⟩, ?_⟩
      simp [behind, Nat.add_comm]
  · rintro (⟨hnull, hintegral, htype, hx⟩ | ⟨y, hy, hbehind⟩)
    · simp only [mk.injEq] at hx
      obtain ⟨rfl, rfl, -⟩ := hx
      exact ⟨rfl, hnull, ⟨p, rfl, htype⟩, hintegral⟩
    · rw [← hbehind]
      obtain ⟨p', hparameter, htype⟩ := hy.parameter
      refine ⟨?_, hy.isNull, ⟨p', ?_, htype⟩, hy.integral⟩
      · simpa [behind, Nat.add_comm] using hy.argument
      · simpa [behind, Nat.add_comm] using hparameter

end PassedNull

/-- These are the null macros among the arguments that a parameter takes as a whole number, in
order. -/
structure Taken (arguments : List Node) (parameters : List Value) (taken : List PassedNull) :
    Prop where
  mem_iff : ∀ x, x ∈ taken ↔ x.Among arguments parameters
  ordered : taken.Pairwise fun x y => x.position < y.position

namespace Taken

variable {arguments : List Node} {parameters : List Value} {taken : List PassedNull} {n : Node}
  {p : Value} {t : CppType}

theorem nil_left (parameters : List Value) : Taken [] parameters [] :=
  ⟨fun x => by simp [x.not_among_nil_left], .nil⟩

theorem nil_right (arguments : List Node) : Taken arguments [] [] :=
  ⟨fun x => by simp [x.not_among_nil_right], .nil⟩

theorem eq_nil_of_no_parameters (h : Taken arguments [] taken) : taken = [] :=
  List.eq_nil_iff_forall_not_mem.2 fun x hx => x.not_among_nil_right _ ((h.mem_iff x).1 hx)

theorem ordered_behind (h : Taken arguments parameters taken) :
    (taken.map (·.behind 1)).Pairwise fun x y => x.position < y.position := by
  refine h.ordered.map _ fun x y hlt => ?_
  simpa [PassedNull.behind] using hlt

/-- One more argument in front that is not to be reported. -/
theorem skip (h : Taken arguments parameters taken)
    (hnot : ∀ t, CppType.ofValue p = .ok (some t) → n.IsNull → ¬ t.IsKnownIntegral) :
    Taken (n :: arguments) (p :: parameters) (taken.map (·.behind 1)) := by
  refine ⟨fun x => ?_, h.ordered_behind⟩
  rw [PassedNull.among_cons_iff, List.mem_map]
  simp only [h.mem_iff]
  refine (or_iff_right ?_).symm
  rintro ⟨hnull, hintegral, htype, -⟩
  exact hnot _ htype hnull hintegral

/-- One more argument in front that is to be reported. -/
theorem report (h : Taken arguments parameters taken) (hnull : n.IsNull)
    (htype : CppType.ofValue p = .ok (some t)) (hintegral : t.IsKnownIntegral) :
    Taken (n :: arguments) (p :: parameters) (⟨0, n, t⟩ :: taken.map (·.behind 1)) := by
  refine ⟨fun x => ?_, List.pairwise_cons.2 ⟨fun y hy => ?_, h.ordered_behind⟩⟩
  · rw [PassedNull.among_cons_iff, List.mem_cons, List.mem_map]
    simp only [h.mem_iff]
    refine or_congr_left ⟨?_, ?_⟩
    · rintro rfl
      exact ⟨hnull, hintegral, htype, rfl⟩
    · rintro ⟨-, -, htype', hx⟩
      rw [htype] at htype'
      cases htype'
      exact hx
  · obtain ⟨z, -, rfl⟩ := List.mem_map.1 hy
    simp [PassedNull.behind]

/-- Without null macros there is nothing to report. -/
theorem nil_of_no_null (h : ¬ ∃ n ∈ arguments, n.IsNull) : Taken arguments parameters [] := by
  refine ⟨fun x => ?_, .nil⟩
  simp only [List.not_mem_nil, false_iff]
  intro hx
  exact h ⟨x.argument, List.mem_of_getElem? hx.argument, hx.isNull⟩

end Taken

/-! ## §3 What is found -/

section Found

variable {callee : String} {start : Nat} {n : Node} {p : Value} {arguments : List Node}
  {parameters : List Value} {rest : List Finding}

/-- Behind the last parameter nothing is reported. -/
theorem nullFindings_past_parameters {isNull : Bool} (h : isNullMacro n = .ok isNull) :
    nullFindings callee start (n :: arguments) [] = nullFindings callee (start + 1) arguments [] := by
  rw [nullFindings, h]
  rfl

theorem nullFindings_of_not_null (h : isNullMacro n = .ok false) :
    nullFindings callee start (n :: arguments) (p :: parameters)
      = nullFindings callee (start + 1) arguments parameters := by
  rw [nullFindings, h]
  rfl

theorem nullFindings_of_not_integral (h : isNullMacro n = .ok true) {t : Option CppType}
    (ht : CppType.ofValue p = .ok t) (hnot : ∀ t', t = some t' → ¬ t'.IsKnownIntegral)
    (hrest : nullFindings callee (start + 1) arguments parameters = .ok rest) :
    nullFindings callee start (n :: arguments) (p :: parameters) = .ok rest := by
  have hnone : (t.filter (·.resolved)).filter (·.isIntegral) = none := by
    simp only [CppType.isKnownIntegral_iff] at hnot
    simpa [Option.filter_filter, Option.filter_eq_none_iff, and_comm] using hnot
  simp only [nullFindings, h, parameterType_of_ofValue ht, hrest, hnone, bind, Except.bind]
  rfl

theorem nullFindings_of_integral (h : isNullMacro n = .ok true) {t : CppType}
    (ht : CppType.ofValue p = .ok (some t)) (hintegral : t.IsKnownIntegral)
    (hrest : nullFindings callee (start + 1) arguments parameters = .ok rest) :
    nullFindings callee start (n :: arguments) (p :: parameters)
      = .ok (PassedNull.finding callee ⟨start, n, t⟩ :: rest) := by
  have hsome : ((some t).filter (·.resolved)).filter (·.isIntegral) = some t := by
    obtain ⟨hknown, hwhole⟩ := CppType.isKnownIntegral_iff.1 hintegral
    simp [Option.filter, hknown, hwhole]
  simp only [nullFindings, h, parameterType_of_ofValue ht, hrest, hsome, bind, Except.bind]
  rfl

end Found

/-- What is found from a position on are the findings of the positions from there on. -/
theorem exists_taken (callee : String) {arguments : List Node} {parameters : List Value}
    (hmacros : ∀ n ∈ arguments, (n.peel.attr "macro").isCompound = false)
    (htypes : ∀ p ∈ parameters, ∃ t, CppType.ofValue p = .ok t) (start : Nat) :
    ∃ taken, Taken arguments parameters taken ∧ nullFindings callee start arguments parameters =
      .ok (taken.map fun x => (x.behind start).finding callee) := by
  induction arguments generalizing parameters start with
  | nil => exact ⟨[], .nil_left _, by rw [nullFindings, List.map_nil]⟩
  | cons n arguments ih =>
    obtain ⟨hscalar, hmacros⟩ := List.forall_mem_cons.1 hmacros
    obtain ⟨isNull, hisNull, hnull⟩ := answers_isNullMacro hscalar
    cases parameters with
    | nil =>
      obtain ⟨taken, htaken, hfound⟩ := ih hmacros htypes (start + 1)
      have hnone : taken = [] := htaken.eq_nil_of_no_parameters
      rw [hnone, List.map_nil] at hfound
      refine ⟨[], .nil_right _, ?_⟩
      rw [nullFindings_past_parameters hisNull, hfound, List.map_nil]
    | cons p parameters =>
      obtain ⟨⟨t, ht⟩, htypes⟩ := List.forall_mem_cons.1 htypes
      obtain ⟨taken, htaken, hfound⟩ := ih hmacros htypes (start + 1)
      have hbehind : taken.map (fun x => (x.behind (start + 1)).finding callee) =
          (taken.map (·.behind 1)).map fun x => (x.behind start).finding callee := by
        simp only [List.map_map, Function.comp_def, PassedNull.behind_behind]
      rw [hbehind] at hfound
      cases isNull with
      | false =>
        have hnot : ¬ n.IsNull := fun hyes => by simpa using hnull.2 hyes
        refine ⟨_, htaken.skip fun _ _ hyes => absurd hyes hnot, ?_⟩
        exact (nullFindings_of_not_null hisNull).trans hfound
      | true =>
        by_cases hintegral : ∃ t', t = some t' ∧ t'.IsKnownIntegral
        · obtain ⟨t, rfl, hintegral⟩ := hintegral
          refine ⟨_, htaken.report (hnull.1 rfl) ht hintegral, ?_⟩
          exact nullFindings_of_integral hisNull ht hintegral hfound
        · have hnot : ∀ t', t = some t' → ¬ t'.IsKnownIntegral := by simpa using hintegral
          refine ⟨_, htaken.skip fun t' ht' _ => hnot t' ?_, ?_⟩
          · rw [ht] at ht'
            exact Except.ok.inj ht'
          · exact nullFindings_of_not_integral hisNull ht hnot hfound

/-! ## §4 What is reported -/

theorem space_not_digit : isDigit ' ' = false := by decide

/-- A number is told by its digits, if a blank follows. -/
theorem eq_of_toDigits_append {m n : Nat} {rest rest' : List Char}
    (h : Nat.toDigits 10 m ++ ' ' :: rest = Nat.toDigits 10 n ++ ' ' :: rest') : m = n := by
  have hread (k : Nat) (rest : List Char) :
      takeDigits? (Nat.toDigits 10 k ++ ' ' :: rest) = some (Nat.toDigits 10 k, ' ' :: rest) :=
    takeDigits?_append (isDigits_toDigits k) (by simp [space_not_digit])
  have hboth := congrArg takeDigits? h
  rw [hread, hread] at hboth
  have hdigits : Nat.toDigits 10 m = Nat.toDigits 10 n :=
    congrArg Prod.fst (Option.some.inj hboth)
  rw [← decimalNat_toDigits m, hdigits, decimalNat_toDigits]

theorem PassedNull.toList_message (callee : String) (x : PassedNull) :
    (x.message callee).toList = "NULL passed as argument ".toList
      ++ (Nat.toDigits 10 (x.position + 1) ++ ' ' :: ("of '" ++ callee
        ++ "' selects the integer parameter '" ++ x.type.spelling ++ "'; pass nullptr").toList) := by
  have hof : " of '".toList = ' ' :: "of '".toList := by decide
  unfold message
  simp only [String.toList_append, List.append_assoc, toList_toString, hof, List.cons_append]

/-- The message tells the position, whatever the call is named. -/
theorem PassedNull.position_eq_of_message {callee callee' : String} {x y : PassedNull}
    (h : x.message callee = y.message callee') : x.position = y.position := by
  have hchars := congrArg String.toList h
  rw [toList_message, toList_message, List.append_right_inj] at hchars
  have hsame := eq_of_toDigits_append hchars
  omega

theorem PassedNull.position_eq_of_key {callee callee' : String} {x y : PassedNull}
    (h : (x.finding callee).key = (y.finding callee').key) : x.position = y.position :=
  position_eq_of_message (congrArg FindingKey.message h)

/-- Whatever places the arguments have, the findings of a call have different keys. -/
theorem Taken.pairwise_keys {arguments : List Node} {parameters : List Value}
    {taken : List PassedNull} (h : Taken arguments parameters taken) (callee : String) :
    (taken.map (PassedNull.finding callee)).Pairwise (·.key ≠ ·.key) := by
  refine h.ordered.map _ fun x y hlt hkey => ?_
  have hsame := PassedNull.position_eq_of_key hkey
  omega

theorem exists_taken_inspect (c : Cursor) {overload : Entries} {parameters : List Value}
    (hoverload : c.node.attr "overload" = .map overload)
    (hparameters : overload.find "parameter_types" = .list parameters)
    (hmacros : ∀ n ∈ c.node.childrenOf "arguments", (n.peel.attr "macro").isCompound = false)
    (htypes : ∀ p ∈ parameters, ∃ t, CppType.ofValue p = .ok t) :
    ∃ taken, Taken (c.node.childrenOf "arguments") parameters taken ∧
      nullArgument.inspect c = .ok (taken.map (PassedNull.finding (calleeName overload c.node))) := by
  obtain ⟨any, hany, hnull⟩ := answers_anyNullMacro hmacros
  cases any with
  | false =>
    have hnone : ¬ ∃ n ∈ c.node.childrenOf "arguments", n.IsNull := fun hyes => by
      simpa using hnull.2 hyes
    refine ⟨[], .nil_of_no_null hnone, ?_⟩
    simp only [nullArgument, hany, bind, Except.bind]
    rfl
  | true =>
    obtain ⟨taken, htaken, hfound⟩ := exists_taken (calleeName overload c.node) hmacros htypes 0
    simp only [PassedNull.behind_zero] at hfound
    refine ⟨taken, htaken, ?_⟩
    simp only [nullArgument, hany, hoverload, hparameters, bind, Except.bind]
    exact hfound

/-- For a call with a chosen overload whose parameter types can be read, there is one finding for each
position at which an argument is the null macro and the parameter is of a known fundamental type of
whole numbers, in the order of the arguments, and no other one. Their keys differ, also if the arguments
stand at one place, and all of them are in the report of a tree that has the call, unless the rule is left
out. -/
theorem null_arguments_reported (c : Cursor) {overload : Entries} {parameters : List Value}
    (hoverload : c.node.attr "overload" = .map overload)
    (hparameters : overload.find "parameter_types" = .list parameters)
    (hmacros : ∀ n ∈ c.node.childrenOf "arguments", (n.peel.attr "macro").isCompound = false)
    (htypes : ∀ p ∈ parameters, ∃ t, CppType.ofValue p = .ok t) :
    ∃ taken : List PassedNull,
      (∀ x, x ∈ taken ↔ x.Among (c.node.childrenOf "arguments") parameters) ∧
      taken.Pairwise (fun x y => x.position < y.position) ∧
      let findings := taken.map (PassedNull.finding (calleeName overload c.node))
      nullArgument.inspect c = .ok findings ∧
      findings.Pairwise (·.key ≠ ·.key) ∧
      ∀ made used requested root, c ∈ (Cursor.root root).walk →
        c.node.kind ∈ [Kind.callExpr, .memberCallExpr, .constructExpr] →
        "R09" ∉ (Engine.withAllRules made used).skipped requested →
        ∃ report, ((Engine.withAllRules made used).analyze root requested .absent).result
            = .ok report ∧ findings.Subperm report.findings := by
  obtain ⟨taken, htaken, hinspect⟩ :=
    exists_taken_inspect c hoverload hparameters hmacros htypes
  have hkeys := htaken.pairwise_keys (calleeName overload c.node)
  refine ⟨taken, htaken.mem_iff, htaken.ordered, hinspect, hkeys, ?_⟩
  intro made used requested root hc hkind hkept
  have hreport := Engine.analyze_eq_foundBelow (.withAllRules made used) root requested
  refine ⟨_, hreport, ?_⟩
  have hnodup : (taken.map (PassedNull.finding (calleeName overload c.node))).Nodup :=
    hkeys.imp fun hne hsame => hne (congrArg Finding.key hsame)
  have hbuiltin : nullArgument ∈ builtinDetectors made := by simp [builtinDetectors]
  have hlooks : nullArgument.looksAt c.node.kind := List.contains_iff_mem.2 hkind
  exact hnodup.subperm (subset_findings_builtin hreport hbuiltin hkept hc hlooks hinspect)

/-- Four null macros at one place, the third inside an implicit conversion. The second goes to a pointer
and the fourth to no parameter, so the first and the third are reported, both. -/
theorem two_nulls_at_one_place :
    let place : Span := ⟨"a.cpp", 3, 3, 3, 9⟩
    let null : Node := ⟨.literal, place, [(.str "macro", .str "NULL")], []⟩
    let named : Node := ⟨.declRefExpr, place, [(.str "name", .str "NULL")], []⟩
    let cast : Node := ⟨.implicitCastExpr, place, [], [("operand", named)]⟩
    let long : Value := .map [(.str "spelling", .str "long"), (.str "category", .str "builtin")]
    let overload : Value := .map [(.str "name", .str "open"),
      (.str "parameter_types", .list [.str "int", .str "char *", long])]
    let call : Node := ⟨.callExpr, place, [(.str "overload", overload)],
      [("arguments", null), ("arguments", null), ("arguments", cast), ("arguments", null)]⟩
    let findings := [
      nullArgumentRule.finding null
        "NULL passed as argument 1 of 'open' selects the integer parameter 'int'; pass nullptr",
      nullArgumentRule.finding cast
        "NULL passed as argument 3 of 'open' selects the integer parameter 'long'; pass nullptr"]
    nullArgument.inspect (.root call) = .ok findings ∧
      ∃ report, ((Engine.withAllRules {} {}).analyze call [] .absent).result = .ok report ∧
        findings.Subperm report.findings := by
  intro place null named cast long overload call findings
  have hinspect : nullArgument.inspect (.root call) = .ok findings := by decide +kernel
  have hcast : cast.peel = named :=
    (Node.peel_of_wrapped?_eq_some rfl).trans (Node.peel_of_wrapped?_eq_none rfl)
  have hnull : null.peel = null := Node.peel_of_wrapped?_eq_none rfl
  have hmacros : ∀ n ∈ [null, null, cast, null], (n.peel.attr "macro").isCompound = false := by
    simp only [List.forall_mem_cons, hnull, hcast]
    exact ⟨rfl, rfl, rfl, rfl, List.forall_mem_nil _⟩
  have hlong : CppType.ofValue long = .ok (some ⟨"long", .builtin, some 8, false, none⟩) := by
    rw [CppType.ofValue]
    rfl
  have htypes : ∀ p ∈ [.str "int", .str "char *", long], ∃ t, CppType.ofValue p = .ok t := by
    simp only [List.forall_mem_cons]
    obtain ⟨int, hint, -⟩ :=
      CppType.ofValue_str_of_fits (by decide +kernel : CppType.ExtentsFit "int".toList)
    obtain ⟨pointer, hpointer, -⟩ :=
      CppType.ofValue_str_of_fits (by decide +kernel : CppType.ExtentsFit "char *".toList)
    exact ⟨⟨_, hint⟩, ⟨_, hpointer⟩, ⟨_, hlong⟩, List.forall_mem_nil _⟩
  obtain ⟨taken, -, -, hfound, -, hreport⟩ :=
    null_arguments_reported (.root call) rfl rfl hmacros htypes
  have hskipped : (Engine.withAllRules {} {}).skipped [] = [] := by decide +kernel
  have hsame := Except.ok.inj (hfound.symm.trans hinspect)
  rw [hsame] at hreport
  exact ⟨hinspect, hreport {} {} [] call (Cursor.mem_walk_root.2 .here) List.mem_cons_self
    (by simp [hskipped])⟩

end CppIdioms
