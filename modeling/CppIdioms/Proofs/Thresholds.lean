import CppIdioms.Proofs.ReportAlgebra
import CppIdioms.Proofs.ValueEquality

/-!
# Thresholds

Two settings are thresholds: how many branches a chain must have, and how many bytes a type may have
before its copies count. Raising them only takes findings away, and only those of the rules that ask
for them. Numbers may be given in any form, and what is no number makes a detector fail whatever it
is.

## Contents

* `Numeric.Place.Before`, `Numeric.le`: the order of places, and of numbers.
* `Value.AtMost`: one value is at most another.
* `Detector.Quieter`: a detector that answers like another one or finds nothing.
* `thresholdRules`: the rules that ask for a threshold.

## Main statements

* `Numeric.lt_iff`: the order of numbers is that of their places.
* `switchChain_quieter`, `copyingLoop_quieter`, `copiedParameter_quieter`: higher thresholds.
* `exists_quieter_builtin`, `mem_builtin_of_not_threshold`: the rules under two settings.
* `higher_thresholds_silence`: reports under higher thresholds.
-/

namespace CppIdioms

open CppIdioms.Number CppIdioms.Rules

/-! ## §1 The order of numbers -/

namespace Numeric

/-- One place comes before another. -/
def Place.Before (a b : Place) : Prop := a.side < b.side ∨ a.side = b.side ∧ a.units < b.units

theorem Place.Before.trans {a b c : Place} (hab : a.Before b) (hbc : b.Before c) : a.Before c := by
  unfold Place.Before at *
  omega

/-- Numbers are in the order of their places, whatever their forms. -/
theorem lt_iff {x y : Numeric} :
    x.lt y ↔ ∃ a b, x.place? = some a ∧ y.place? = some b ∧ a.Before b := by
  have hscale : ∀ m n : Int, m * unitsInOne < n * unitsInOne ↔ m < n := fun m n =>
    Int.mul_lt_mul_right unitsInOne_pos
  generalize hunits : (unitsInOne : Int) = units at hscale
  rcases x with m | ⟨s, u⟩ | ⟨_ | _⟩ | _ <;> rcases y with n | ⟨t, v⟩ | ⟨_ | _⟩ | _ <;>
    simp only [lt, place?, Binary64.lt, Binary64.ltInt, Binary64.intLt, hunits] <;>
    simp [Place.Before, hscale]

/-- One number is below another or equal to it. -/
def le (x y : Numeric) : Bool := x.lt y || x.eq y

theorem le_iff {x y : Numeric} :
    x.le y ↔ ∃ a b, x.place? = some a ∧ y.place? = some b ∧ (a.Before b ∨ a = b) := by
  rw [le, Bool.or_eq_true, lt_iff, eq_iff]
  constructor
  · rintro (⟨a, b, hx, hy, hlt⟩ | ⟨hsome, heq⟩)
    · exact ⟨a, b, hx, hy, .inl hlt⟩
    · obtain ⟨a, hx⟩ := Option.ne_none_iff_exists'.1 hsome
      exact ⟨a, a, hx, heq ▸ hx, .inr rfl⟩
  · rintro ⟨a, b, hx, hy, hlt | rfl⟩
    · exact .inl ⟨a, b, hx, hy, hlt⟩
    · exact .inr ⟨by simp [hx], by rw [hx, hy]⟩

theorem lt_of_lt_of_le {x y z : Numeric} (hxy : x.lt y) (hyz : y.le z) : x.lt z := by
  obtain ⟨a, b, hx, hy, hab⟩ := lt_iff.1 hxy
  obtain ⟨b', c, hy', hz, hbc⟩ := le_iff.1 hyz
  cases hy.symm.trans hy'
  rcases hbc with hbc | rfl
  · exact lt_iff.2 ⟨a, c, hx, hz, hab.trans hbc⟩
  · exact lt_iff.2 ⟨a, b, hx, hz, hab⟩

theorem lt_of_le_of_lt {x y z : Numeric} (hxy : x.le y) (hyz : y.lt z) : x.lt z := by
  obtain ⟨a, b, hx, hy, hab⟩ := le_iff.1 hxy
  obtain ⟨b', c, hy', hz, hbc⟩ := lt_iff.1 hyz
  cases hy.symm.trans hy'
  rcases hab with hab | rfl
  · exact lt_iff.2 ⟨a, c, hx, hz, hab.trans hbc⟩
  · exact lt_iff.2 ⟨a, c, hx, hz, hbc⟩

end Numeric

/-- One value is at most another: both are numbers in this order, or neither is a number. -/
inductive Value.AtMost (v w : Value) : Prop where
  | numbers {x y : Numeric} (left : v.numeric? = some x) (right : w.numeric? = some y)
      (order : x.le y)
  | others (left : v.numeric? = none) (right : w.numeric? = none)

/-- What lies below a value lies below a greater one. -/
theorem Value.AtMost.exceeds {v w : Value} (h : v.AtMost w) (n : Int) :
    w.exceeds n = v.exceeds n ∨ w.exceeds n = .ok true := by
  cases h with
  | others left right => simp [Value.exceeds, left, right]
  | @numbers x y left right order =>
    simp only [Value.exceeds, left, right]
    cases hx : Numeric.lt (.whole n) x with
    | true => exact .inr (by rw [Numeric.lt_of_lt_of_le hx order])
    | false => cases Numeric.lt (.whole n) y <;> simp

/-- What lies above a value lies above a smaller one. -/
theorem Value.AtMost.isBelow {v w : Value} (h : v.AtMost w) (n : Int) :
    w.isBelow n = v.isBelow n ∨ w.isBelow n = .ok false := by
  cases h with
  | others left right => simp [Value.isBelow, left, right]
  | @numbers x y left right order =>
    simp only [Value.isBelow, left, right]
    cases hy : Numeric.lt y (.whole n) with
    | true => exact .inl (by rw [Numeric.lt_of_le_of_lt order hy])
    | false => exact .inr rfl

theorem CppType.isNonTrivial_cases {v w : Value} (h : v.AtMost w) (t : CppType) :
    t.isNonTrivial w = t.isNonTrivial v ∨ t.isNonTrivial w = .ok false := by
  unfold isNonTrivial
  split
  · exact .inl rfl
  · split
    · exact h.isBelow _
    · exact .inl rfl

/-! ## §2 Detectors that find less -/

/-- The second inspection ends like the first, or finds nothing. -/
def NoLouder (x y : Except Error (List Finding)) : Prop := y = x ∨ y = .ok []

section NoLouder

variable {x y : Except Error (List Finding)}

theorem NoLouder.refl (x : Except Error (List Finding)) : NoLouder x x := .inl rfl

theorem NoLouder.unless {c : Prop} [Decidable c] {z : Except Error (List Finding)}
    (h : NoLouder x y) : NoLouder (if c then z else x) (if c then z else y) := by
  split
  · exact .refl z
  · exact h

theorem NoLouder.bind_same {α : Type} {f g : α → Except Error (List Finding)} (z : Except Error α)
    (h : ∀ a, NoLouder (f a) (g a)) : NoLouder (z >>= f) (z >>= g) := by
  cases z with
  | error e => exact .refl _
  | ok a => exact h a

/-- A question may be answered otherwise if the other answer ends the inspection. -/
theorem NoLouder.bind_question {q r : Except Fault Bool} {b : Bool}
    {f : Bool → Except Error (List Finding)} (h : r = q ∨ r = .ok b) (hsilent : f b = .ok []) :
    NoLouder (q.mapError Error.fault >>= f) (r.mapError Error.fault >>= f) := by
  rcases h with rfl | rfl
  · exact .refl _
  · exact .inr hsilent

end NoLouder

/-- The second detector is about the same rule and nodes as the first, and finds no more. -/
structure Detector.Quieter (d d' : Detector) : Prop where
  rule : d'.rule = d.rule
  kinds : d'.kinds = d.kinds
  inspect : ∀ c, NoLouder (d.inspect c) (d'.inspect c)

theorem Detector.Quieter.refl (d : Detector) : d.Quieter d := ⟨rfl, rfl, fun _ => .refl _⟩

theorem Detector.Quieter.mem_found {d d' : Detector} (h : d.Quieter d') {c : Cursor} {f : Finding}
    (hf : f ∈ d'.found c) : f ∈ d.found c := by
  obtain ⟨findings, hinspect, hf⟩ := Detector.mem_found_iff.1 hf
  rcases h.inspect c with hsame | hnone
  · exact Detector.mem_found_iff.2 ⟨findings, hsame ▸ hinspect, hf⟩
  · rw [hnone] at hinspect
    cases hinspect
    cases hf

/-- What quieter detectors find, the others find too. -/
theorem mem_foundBelow_of_quieter {ds ds' : List Detector} (h : ∀ d' ∈ ds', ∃ d ∈ ds, d.Quieter d')
    {cs : List Cursor} {f : Finding} (hf : f ∈ foundBelow ds' cs) : f ∈ foundBelow ds cs := by
  obtain ⟨d', hd', c, hc, hlooks, hfound⟩ := mem_foundBelow_iff.1 hf
  obtain ⟨d, hd, hquieter⟩ := h d' hd'
  have hlooks' : d.looksAt c.node.kind := by
    rwa [Detector.looksAt, hquieter.kinds] at hlooks
  exact mem_foundBelow_iff.2 ⟨d, hd, c, hc, hlooks', hquieter.mem_found hfound⟩

/-! ## §3 Rules with thresholds -/

theorem switchChain_quieter {v w : Value} (h : v.AtMost w) :
    (switchChain v).Quieter (switchChain w) := by
  refine ⟨rfl, rfl, fun c => ?_⟩
  simp only [switchChain]
  refine .unless ?_
  cases chainConditions? c.node with
  | none => exact .refl _
  | some conditions => exact .bind_question (h.exceeds conditions.length) rfl

theorem copyingLoop_quieter {v w : Value} (h : v.AtMost w) :
    (copyingLoop v).Quieter (copyingLoop w) := by
  refine ⟨rfl, rfl, fun c => ?_⟩
  simp only [copyingLoop]
  cases c.node.child? "binding" with
  | none => exact .refl _
  | some binding =>
    refine .unless (.bind_same _ fun known => ?_)
    cases known with
    | none => exact .refl _
    | some t => exact .unless (.bind_question (t.isNonTrivial_cases h) rfl)

theorem copiedParameter_quieter {v w : Value} (h : v.AtMost w) :
    (copiedParameter v).Quieter (copiedParameter w) := by
  refine ⟨rfl, rfl, fun c => ?_⟩
  refine .unless (.unless (.bind_same _ fun known => ?_))
  cases known with
  | none => exact .refl _
  | some t => exact .unless (.bind_question (t.isNonTrivial_cases h) rfl)

/-- The rules that ask for a threshold. -/
def thresholdRules : List String := ["R03", "R07", "R12"]

theorem filter_threshold_builtin (s : Settings) :
    (builtinDetectors s).filter (fun d => thresholdRules.contains d.rule.id)
      = [switchChain s.minBranches, copyingLoop s.sizeThreshold, copiedParameter s.sizeThreshold] :=
  rfl

/-- The detectors of the other rules do not depend on the settings. -/
theorem filter_not_threshold_builtin (s s' : Settings) :
    (builtinDetectors s).filter (fun d => !thresholdRules.contains d.rule.id)
      = (builtinDetectors s').filter (fun d => !thresholdRules.contains d.rule.id) :=
  rfl

theorem mem_builtin_of_not_threshold {s : Settings} {d : Detector} (hd : d ∈ builtinDetectors s)
    (hrule : d.rule.id ∉ thresholdRules) (s' : Settings) : d ∈ builtinDetectors s' := by
  have hother : d ∈ (builtinDetectors s).filter fun d => !thresholdRules.contains d.rule.id :=
    List.mem_filter.2 ⟨hd, by simpa using hrule⟩
  rw [filter_not_threshold_builtin s s'] at hother
  exact (List.mem_filter.1 hother).1

/-- Each rule has a detector under settings with lower thresholds that finds no less. -/
theorem exists_quieter_builtin {s s' : Settings} (hbranches : s.minBranches.AtMost s'.minBranches)
    (hsize : s.sizeThreshold.AtMost s'.sizeThreshold) {d' : Detector}
    (hd' : d' ∈ builtinDetectors s') : ∃ d ∈ builtinDetectors s, d.Quieter d' := by
  by_cases hrule : d'.rule.id ∈ thresholdRules
  · have hlower : ∀ d ∈ [switchChain s.minBranches, copyingLoop s.sizeThreshold,
        copiedParameter s.sizeThreshold], d ∈ builtinDetectors s := fun d hd =>
      (List.mem_filter.1 (filter_threshold_builtin s ▸ hd)).1
    have hthree : d' ∈ (builtinDetectors s').filter fun d => thresholdRules.contains d.rule.id :=
      List.mem_filter.2 ⟨hd', by simpa using hrule⟩
    rw [filter_threshold_builtin s'] at hthree
    simp only [List.mem_cons, List.not_mem_nil, or_false] at hthree
    rcases hthree with rfl | rfl | rfl
    · exact ⟨_, hlower _ (by simp), switchChain_quieter hbranches⟩
    · exact ⟨_, hlower _ (by simp), copyingLoop_quieter hsize⟩
    · exact ⟨_, hlower _ (by simp), copiedParameter_quieter hsize⟩
  · exact ⟨d', mem_builtin_of_not_threshold hd' hrule s, .refl d'⟩

/-! ## §4 Reports under thresholds -/

theorem mem_keptOfAll {made used : Settings} {requested : List Value} {d : Detector} :
    d ∈ keptOfAll made used requested ↔ d ∈ builtinDetectors made ∧
      d.rule.id ∉ used.excluded ∧ d.rule.id ∉ requested.map ruleId := by
  have hskipped : (Engine.withAllRules made used).skipped requested
      = inOrder (used.excluded ++ requested.map ruleId) := rfl
  rw [keptOfAll, Catalog.kept, List.mem_filter, hskipped]
  refine and_congr_right fun _ => ?_
  rw [List.contains_eq_mem, ← decide_not, decide_eq_true_eq, mem_inOrder, List.mem_append, not_or]

/-- Findings in the name of a rule that asks for no threshold do not depend on the thresholds. -/
theorem mem_foundBelow_of_not_threshold {s s' : Settings}
    (hexcluded : ∀ id, id ∈ s.excluded ↔ id ∈ s'.excluded) {requested : List Value}
    {cs : List Cursor} {f : Finding} (hrule : f.rule ∉ thresholdRules)
    (hf : f ∈ foundBelow (keptOfAll s s requested) cs) :
    f ∈ foundBelow (keptOfAll s' s' requested) cs := by
  obtain ⟨d, hd, c, hc, hlooks, hfound⟩ := mem_foundBelow_iff.1 hf
  obtain ⟨hbuiltin, hkept, hrequested⟩ := mem_keptOfAll.1 hd
  have hown := ownFindings_of_insensitive (builtin_insensitive s)
  obtain ⟨n, message, rfl⟩ := hown d hbuiltin c hlooks f hfound
  refine mem_foundBelow_iff.2 ⟨d, mem_keptOfAll.2 ⟨?_, ?_, hrequested⟩, c, hc, hlooks, hfound⟩
  · exact mem_builtin_of_not_threshold hbuiltin hrule s'
  · rwa [← hexcluded]

/-- Under higher thresholds a report has no findings but those that it has under lower ones, and as
for the rules that ask for no threshold it is the same. -/
theorem higher_thresholds_silence (s s' : Settings)
    (hexcluded : ∀ id, id ∈ s.excluded ↔ id ∈ s'.excluded)
    (hbranches : s.minBranches.AtMost s'.minBranches)
    (hsize : s.sizeThreshold.AtMost s'.sizeThreshold) (requested : List Value) (root : Node) :
    ∃ lower higher : Report,
      ((Engine.ofParts none (some s)).1.analyze root requested .absent).result = .ok lower ∧
      ((Engine.ofParts none (some s')).1.analyze root requested .absent).result = .ok higher ∧
      (∀ f ∈ higher.findings, f ∈ lower.findings) ∧
      ∀ rule, rule ∉ ["R03", "R07", "R12"] → higher.forRule rule = lower.forRule rule := by
  refine ⟨_, _, Engine.analyze_eq_foundBelow _ root requested,
    Engine.analyze_eq_foundBelow _ root requested, fun f hf => ?_, fun rule hrule => ?_⟩
  · have hquieter : ∀ d' ∈ keptOfAll s' s' requested, ∃ d ∈ keptOfAll s s requested,
        d.Quieter d' := by
      intro d' hd'
      obtain ⟨hbuiltin, hkept, hrequested⟩ := mem_keptOfAll.1 hd'
      obtain ⟨d, hd, hq⟩ := exists_quieter_builtin hbranches hsize hbuiltin
      rw [hq.rule] at hkept hrequested
      exact ⟨d, mem_keptOfAll.2 ⟨hd, by rwa [hexcluded], hrequested⟩, hq⟩
    have hfound := mem_foundBelow_of_quieter hquieter (Report.mem_of_mem_ofFindings hf)
    exact (Report.mem_ofFindings_of_keysTell (keysTell_keptOfAll s s requested _)).2 hfound
  · have hkey : ∀ f g : Finding, f.key = g.key → (f.rule == rule) = (g.rule == rule) := by
      intro f g hkey
      have hsame : f.rule = g.rule := congrArg FindingKey.rule hkey
      rw [hsame]
    rw [Report.forRule, Report.forRule, Report.filter_ofFindings hkey, Report.filter_ofFindings hkey]
    congr 1
    refine Report.ofFindings_eq_of_mem_iff ?_ fun f => ?_
    · intro f hf g hg
      exact keysTell_keptOfAll s' s' requested _ f (List.mem_filter.1 hf).1 g (List.mem_filter.1 hg).1
    · rw [List.mem_filter, List.mem_filter]
      refine and_congr_left fun hf => ?_
      have hother : f.rule ∉ thresholdRules := by rwa [eq_of_beq hf]
      exact ⟨mem_foundBelow_of_not_threshold (fun id => (hexcluded id).symm) hother,
        mem_foundBelow_of_not_threshold hexcluded hother⟩

/-- A loop that copies sixteen bytes is reported under a threshold of eight and not under one of
sixteen; an enumeration is reported under both. -/
theorem higher_threshold_of_copying_loop :
    let binding : Node := ⟨.variableDecl, ⟨"a.cpp", 3, 3, 3, 9⟩,
      [(.str "name", .str "x"), (.str "type", .str "long double")], []⟩
    let loop : Node := ⟨.rangeForStatement, ⟨"a.cpp", 3, 1, 4, 1⟩, [], [("binding", binding)]⟩
    let enumeration : Node := ⟨.enumDecl, ⟨"a.cpp", 2, 1, 2, 9⟩, [(.str "name", .str "A")], []⟩
    let unit : Node := ⟨.translationUnit, ⟨"a.cpp", 1, 1, 5, 1⟩, [],
      [("declarations", enumeration), ("declarations", loop)]⟩
    let s : Settings := { sizeThreshold := .int 8 }
    let s' : Settings := { minBranches := .int 5, sizeThreshold := .int 16 }
    s.minBranches.AtMost s'.minBranches ∧ s.sizeThreshold.AtMost s'.sizeThreshold ∧
      ∃ lower higher : Report,
        ((Engine.ofParts none (some s)).1.analyze unit [] .absent).result = .ok lower ∧
        ((Engine.ofParts none (some s')).1.analyze unit [] .absent).result = .ok higher ∧
        (∀ f ∈ higher.findings, f ∈ lower.findings) ∧
        lower.findings.map (·.rule) = ["R16", "R07"] ∧ higher.findings.map (·.rule) = ["R16"] := by
  intro binding loop enumeration unit s s'
  have hbranches : s.minBranches.AtMost s'.minBranches := .numbers rfl rfl rfl
  have hsize : s.sizeThreshold.AtMost s'.sizeThreshold := .numbers rfl rfl rfl
  obtain ⟨lower, higher, hlower, hhigher, hsubset, _⟩ :=
    higher_thresholds_silence s s' (fun _ => Iff.rfl) hbranches hsize [] unit
  refine ⟨hbranches, hsize, lower, higher, hlower, hhigher, hsubset, ?_, ?_⟩
  · rw [Engine.eq_of_analyze hlower, Report.findings_ofFindings (by decide +kernel)]
    decide +kernel
  · rw [Engine.eq_of_analyze hhigher, Report.findings_ofFindings (by decide +kernel)]
    decide +kernel

end CppIdioms
