import CppIdioms.Tree.Shape
import Mathlib.Data.List.Forall2

/-!
# Equality of values

Values are compared by what they are and not by their form: `1`, `1.0` and `true` are equal. This
equality, and with it the equality of comparable values and of shapes, is symmetric and transitive.

## Contents

* `Numeric.Place`, `Numeric.place?`: where a number lies.

## Main statements

* `Numeric.eq_iff`, `Numeric.same_iff`: numbers are equal if they lie at the same place.
* `Value.same_symm`, `Value.same_trans`: equality of values.
* `Comparable.same_symm`, `Comparable.same_trans`: equality of comparable values.
* `sameShape_symm`, `sameShape_trans`: equality of shapes.
-/

namespace CppIdioms

open CppIdioms.Number

/-! ## §1 Numbers -/

theorem unitsInOne_pos : (0 : Int) < unitsInOne := Int.natCast_pos.2 (by decide +kernel)

namespace Numeric

/-- Where a number lies: how many units from zero, or at one of the two ends. -/
structure Place where
  /-- Negative at the lower end, positive at the upper end, else zero. -/
  side : Int
  units : Int

/-- The place of a number; what is no number lies nowhere. -/
def place? : Numeric → Option Place
  | .whole n => some ⟨0, n * unitsInOne⟩
  | .binary (.finite s u) => some ⟨0, Binary64.signedUnits s u⟩
  | .binary (.infinite s) => some ⟨if s then -1 else 1, 0⟩
  | .binary .nan => none

/-- Numbers are equal if they lie at the same place. -/
theorem eq_iff {x y : Numeric} : x.eq y ↔ x.place? ≠ none ∧ x.place? = y.place? := by
  have hscale : ∀ m n : Int, m * unitsInOne = n * unitsInOne ↔ m = n := fun m n =>
    Int.mul_eq_mul_right_iff (Int.ne_of_gt unitsInOne_pos)
  generalize hunits : (unitsInOne : Int) = units at hscale
  rcases x with m | ⟨s, u⟩ | ⟨_ | _⟩ | _ <;> rcases y with n | ⟨t, v⟩ | ⟨_ | _⟩ | _ <;>
    simp only [eq, place?, Binary64.eq, Binary64.eqInt, hunits] <;>
    simp [hscale]
  exact eq_comm

theorem place?_eq_none {x : Numeric} : x.place? = none ↔ x = .binary .nan := by
  rcases x with m | ⟨s, u⟩ | _ | _ <;> simp only [place?, reduceCtorEq, Numeric.binary.injEq]

/-- Stored numbers are equal if they lie at the same place or both nowhere. -/
theorem same_iff {x y : Numeric} : x.same y ↔ x.place? = y.place? := by
  unfold same
  split
  · simp
  · next hnan =>
    rw [eq_iff]
    refine ⟨fun h => h.2, fun h => ⟨fun hx => ?_, h⟩⟩
    exact hnan (place?_eq_none.1 hx) (place?_eq_none.1 (h.symm.trans hx))

theorem same_symm {x y : Numeric} (h : x.same y) : y.same x := same_iff.2 (same_iff.1 h).symm

theorem same_trans {x y z : Numeric} (hxy : x.same y) (hyz : y.same z) : x.same z :=
  same_iff.2 ((same_iff.1 hxy).trans (same_iff.1 hyz))

end Numeric

/-! ## §2 Values -/

theorem sameMoment_symm {d e : Date} {t u : Option ClockTime} (h : sameMoment d t e u) :
    sameMoment e u d t := by
  cases t <;> cases u <;> simp_all [sameMoment]

theorem sameMoment_trans {d e f : Date} {t u v : Option ClockTime} (hde : sameMoment d t e u)
    (hef : sameMoment e u f v) : sameMoment d t f v := by
  cases t <;> cases u <;> cases v <;> simp_all [sameMoment]

namespace Value

/-- Scalars that are equal are both numbers, both nothing, both texts or both dates. -/
theorem sameScalar_cases {a b : Value} (h : a.sameScalar b) :
    (∃ x y, a.numeric? = some x ∧ b.numeric? = some y ∧ x.same y) ∨ (a = .null ∧ b = .null) ∨
      (∃ s, a = .str s ∧ b = .str s) ∨
      ∃ d t e u, a = .date d t ∧ b = .date e u ∧ sameMoment d t e u := by
  unfold sameScalar at h
  split at h
  · next x y ha hb => exact .inl ⟨x, y, ha, hb, h⟩
  · split at h
    · exact .inr (.inl ⟨rfl, rfl⟩)
    · next s t _ _ =>
      rw [beq_iff_eq] at h
      exact .inr (.inr (.inl ⟨s, rfl, by rw [h]⟩))
    · next d t e u _ _ => exact .inr (.inr (.inr ⟨d, t, e, u, rfl, rfl, h⟩))
    · cases h
  · cases h

theorem sameScalar_of_numbers {a b : Value} {x y : Numeric} (ha : a.numeric? = some x)
    (hb : b.numeric? = some y) (h : x.same y) : a.sameScalar b := by
  simpa only [sameScalar, ha, hb] using h

theorem sameScalar_symm {a b : Value} (h : a.sameScalar b) : b.sameScalar a := by
  obtain ⟨x, y, ha, hb, hxy⟩ | ⟨rfl, rfl⟩ | ⟨s, rfl, rfl⟩ | ⟨d, t, e, u, rfl, rfl, hde⟩ :=
    sameScalar_cases h
  · exact sameScalar_of_numbers hb ha (Numeric.same_symm hxy)
  · rfl
  · exact h
  · exact sameMoment_symm hde

theorem sameScalar_trans {a b c : Value} (hab : a.sameScalar b) (hbc : b.sameScalar c) :
    a.sameScalar c := by
  obtain ⟨x, y, ha, hb, hxy⟩ | ⟨rfl, rfl⟩ | ⟨s, rfl, rfl⟩ | ⟨d, t, e, u, rfl, rfl, hde⟩ :=
    sameScalar_cases hab
  · obtain ⟨y', z, hb', hc, hyz⟩ | ⟨rfl, rfl⟩ | ⟨s, rfl, rfl⟩ | ⟨d, t, e, u, rfl, rfl, hde⟩ :=
      sameScalar_cases hbc
    · cases hb.symm.trans hb'
      exact sameScalar_of_numbers ha hc (Numeric.same_trans hxy hyz)
    all_goals cases hb
  · exact hbc
  · exact hbc
  · obtain ⟨y', z, hb', hc, hyz⟩ | ⟨hb, _⟩ | ⟨s, hb, _⟩ | ⟨e', u', f, v, hb, rfl, hef⟩ :=
      sameScalar_cases hbc
    · cases hb'
    · cases hb
    · cases hb
    · cases hb
      exact sameMoment_trans hde hef

theorem holdsAll_trans {xs ys zs : List Value} (hxy : holdsAll xs ys) (hyz : holdsAll ys zs) :
    holdsAll xs zs := by
  simp only [holdsAll, List.all_eq_true, List.any_eq_true] at *
  intro x hx
  obtain ⟨y, hy, hsame⟩ := hxy x hx
  obtain ⟨z, hz, hsame'⟩ := hyz y hy
  exact ⟨z, hz, sameScalar_trans hsame hsame'⟩

/-- Values that are equal are sets that hold the same, or scalars. -/
theorem same_cases {a b : Value} (h : a.same b) :
    (∃ xs ys, a = .set xs ∧ b = .set ys ∧ holdsAll xs ys ∧ holdsAll ys xs) ∨ a.sameScalar b := by
  unfold same at h
  split at h
  · next xs ys =>
    rw [Bool.and_eq_true] at h
    exact .inl ⟨xs, ys, rfl, rfl, h⟩
  · exact .inr h

/-- Scalars that are equal are no sets. -/
theorem same_of_sameScalar {a b : Value} (h : a.sameScalar b) : a.same b := by
  obtain ⟨x, y, ha, hb, hxy⟩ | ⟨rfl, rfl⟩ | ⟨s, rfl, rfl⟩ | ⟨d, t, e, u, rfl, rfl, hde⟩ :=
    sameScalar_cases h
  · cases a with
    | set xs => cases ha
    | _ => exact h
  all_goals exact h

theorem not_sameScalar_set {xs : List Value} {c : Value} : ¬(Value.set xs).sameScalar c := by
  intro h
  rcases sameScalar_cases h with ⟨x, y, ha, _⟩ | ⟨ha, _⟩ | ⟨s, ha, _⟩ | ⟨d, t, e, u, ha, _⟩ <;>
    cases ha

theorem same_symm {a b : Value} (h : a.same b) : b.same a := by
  obtain ⟨xs, ys, rfl, rfl, hxy, hyx⟩ | h := same_cases h
  · simp [same, hxy, hyx]
  · exact same_of_sameScalar (sameScalar_symm h)

theorem same_trans {a b c : Value} (hab : a.same b) (hbc : b.same c) : a.same c := by
  obtain ⟨xs, ys, rfl, rfl, hxy, hyx⟩ | hab := same_cases hab
  · obtain ⟨ys', zs, heq, rfl, hyz, hzy⟩ | hbc := same_cases hbc
    · cases heq
      simp [same, holdsAll_trans hxy hyz, holdsAll_trans hzy hyx]
    · exact absurd hbc not_sameScalar_set
  · obtain ⟨ys, zs, rfl, rfl, _⟩ | hbc := same_cases hbc
    · exact absurd (sameScalar_symm hab) not_sameScalar_set
    · exact same_of_sameScalar (sameScalar_trans hab hbc)

end Value

/-! ## §3 Comparable values -/

namespace Comparable

mutual

theorem same_symm : ∀ {a b : Comparable}, a.same b → b.same a
  | .leaf a, .leaf b, h => by
    rw [same] at h ⊢
    exact Value.same_symm h
  | .tuple xs, .tuple ys, h => by
    rw [same] at h ⊢
    exact sameAll_symm h
  | .leaf _, .tuple _, h => by simp [same] at h
  | .tuple _, .leaf _, h => by simp [same] at h

theorem sameAll_symm : ∀ {xs ys : List Comparable}, sameAll xs ys → sameAll ys xs
  | [], [], h => h
  | x :: xs, y :: ys, h => by
    rw [sameAll, Bool.and_eq_true] at h ⊢
    exact ⟨same_symm h.1, sameAll_symm h.2⟩
  | [], _ :: _, h => by simp [sameAll] at h
  | _ :: _, [], h => by simp [sameAll] at h

end

mutual

theorem same_trans : ∀ {a b c : Comparable}, a.same b → b.same c → a.same c
  | .leaf a, .leaf b, .leaf c, hab, hbc => by
    rw [same] at hab hbc ⊢
    exact Value.same_trans hab hbc
  | .tuple xs, .tuple ys, .tuple zs, hab, hbc => by
    rw [same] at hab hbc ⊢
    exact sameAll_trans hab hbc
  | .leaf _, .tuple _, _, hab, _ => by simp [same] at hab
  | .tuple _, .leaf _, _, hab, _ => by simp [same] at hab
  | _, .leaf _, .tuple _, _, hbc => by simp [same] at hbc
  | _, .tuple _, .leaf _, _, hbc => by simp [same] at hbc

theorem sameAll_trans : ∀ {xs ys zs : List Comparable}, sameAll xs ys → sameAll ys zs → sameAll xs zs
  | [], [], _, _, hbc => hbc
  | x :: xs, y :: ys, z :: zs, hab, hbc => by
    rw [sameAll, Bool.and_eq_true] at hab hbc ⊢
    exact ⟨same_trans hab.1 hbc.1, sameAll_trans hab.2 hbc.2⟩
  | [], _ :: _, _, hab, _ => by simp [sameAll] at hab
  | _ :: _, [], _, hab, _ => by simp [sameAll] at hab
  | _, _ :: _, [], _, hbc => by simp [sameAll] at hbc

end

end Comparable

/-! ## §4 Shapes -/

theorem sameAttributes_iff {as bs : List (String × Comparable)} :
    sameAttributes as bs ↔ List.Forall₂ (fun a b => a.1 = b.1 ∧ a.2.same b.2) as bs := by
  induction as generalizing bs with
  | nil => cases bs <;> simp [sameAttributes]
  | cons a as ih => cases bs <;> simp [sameAttributes, ih]

theorem sameAttributes_symm {as bs : List (String × Comparable)} (h : sameAttributes as bs) :
    sameAttributes bs as := by
  refine sameAttributes_iff.2 ((sameAttributes_iff.1 h).flip.imp fun _ _ hab => ?_)
  exact ⟨hab.1.symm, Comparable.same_symm hab.2⟩

theorem sameShape_iff {as bs : List ShapePart} :
    sameShape as bs ↔ List.Forall₂ (fun a b => a.same b) as bs := by
  induction as generalizing bs with
  | nil => cases bs <;> simp [sameShape]
  | cons a as ih => cases bs <;> simp [sameShape, ih]

theorem forall₂_trans {α β γ : Type} {r : α → β → Prop} {s : β → γ → Prop} {t : α → γ → Prop}
    (ht : ∀ a b c, r a b → s b c → t a c) {as : List α} {bs : List β} {cs : List γ}
    (hab : List.Forall₂ r as bs) (hbc : List.Forall₂ s bs cs) : List.Forall₂ t as cs := by
  induction hab generalizing cs with
  | nil =>
    cases hbc
    exact .nil
  | cons h _ ih =>
    cases hbc with
    | cons h' hbc => exact .cons (ht _ _ _ h h') (ih hbc)

theorem ShapePart.same_iff {a b : ShapePart} :
    a.same b ↔ a.depth = b.depth ∧ a.role = b.role ∧ a.kind = b.kind ∧
      sameAttributes a.attrs b.attrs := by
  simp [ShapePart.same, and_assoc]

theorem ShapePart.same_symm {a b : ShapePart} (h : a.same b) : b.same a := by
  obtain ⟨hdepth, hrole, hkind, hattrs⟩ := same_iff.1 h
  exact same_iff.2 ⟨hdepth.symm, hrole.symm, hkind.symm, sameAttributes_symm hattrs⟩

theorem ShapePart.same_trans {a b c : ShapePart} (hab : a.same b) (hbc : b.same c) : a.same c := by
  obtain ⟨hdepth, hrole, hkind, hattrs⟩ := same_iff.1 hab
  obtain ⟨hdepth', hrole', hkind', hattrs'⟩ := same_iff.1 hbc
  refine same_iff.2 ⟨hdepth.trans hdepth', hrole.trans hrole', hkind.trans hkind', ?_⟩
  refine sameAttributes_iff.2 (forall₂_trans ?_ (sameAttributes_iff.1 hattrs)
    (sameAttributes_iff.1 hattrs'))
  exact fun _ _ _ hab hbc => ⟨hab.1.trans hbc.1, Comparable.same_trans hab.2 hbc.2⟩

theorem sameShape_symm {as bs : List ShapePart} (h : sameShape as bs) : sameShape bs as :=
  sameShape_iff.2 ((sameShape_iff.1 h).flip.imp fun _ _ => ShapePart.same_symm)

theorem sameShape_trans {as bs cs : List ShapePart} (hab : sameShape as bs) (hbc : sameShape bs cs) :
    sameShape as cs := by
  refine sameShape_iff.2 (forall₂_trans ?_ (sameShape_iff.1 hab) (sameShape_iff.1 hbc))
  intro p q r hpq hqr
  exact ShapePart.same_trans hpq hqr

end CppIdioms
