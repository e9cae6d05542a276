import CppIdioms.Error

/-!
# Computations that answer

A computation answers or fails. What its steps answer decides what it answers as a whole.

## Contents

* `Answers`, `Replies`: a computation gives an answer with a property, or any answer.

## Main statements

* `exists_of_bind_eq_ok`, `map_eq_ok_iff`, `mapError_eq_ok_iff`: the answer of a step from that of the
  whole.
* `Answers.bind`: the answer of the whole from those of its steps.
-/

namespace CppIdioms

section Answers

variable {ε ε' α β : Type} {p : α → Prop} {q : β → Prop}

/-- The computation gives an answer, and the answer has a property. -/
def Answers (p : α → Prop) (x : Except ε α) : Prop := ∃ a, x = .ok a ∧ p a

/-- The computation gives an answer. -/
abbrev Replies (x : Except ε α) : Prop := Answers (fun _ => True) x

theorem Answers.ok {a : α} (h : p a) : Answers p (.ok a : Except ε α) := ⟨a, rfl, h⟩

theorem replies_ok (a : α) : Replies (.ok a : Except ε α) := ⟨a, rfl, trivial⟩

/-- A computation that ends well has passed its first step. -/
theorem exists_of_bind_eq_ok {x : Except ε α} {f : α → Except ε β} {b : β} (h : x >>= f = .ok b) :
    ∃ a, x = .ok a ∧ f a = .ok b := by
  cases x with
  | error e => cases h
  | ok a => exact ⟨a, rfl, h⟩

theorem map_eq_ok_iff {f : α → β} {x : Except ε α} {b : β} :
    f <$> x = .ok b ↔ ∃ a, x = .ok a ∧ b = f a := by
  constructor
  · intro h
    cases x with
    | error e => cases h
    | ok a =>
      cases h
      exact ⟨a, rfl, rfl⟩
  · rintro ⟨a, rfl, rfl⟩
    rfl

theorem mapError_eq_ok_iff {f : ε → ε'} {x : Except ε α} {a : α} :
    x.mapError f = .ok a ↔ x = .ok a := by
  constructor
  · intro h
    cases x with
    | error e => cases h
    | ok b =>
      cases h
      rfl
  · rintro rfl
    rfl

theorem Answers.bind {x : Except ε α} {f : α → Except ε β} (hx : Answers p x)
    (hf : ∀ a, p a → Answers q (f a)) : Answers q (x >>= f) := by
  obtain ⟨a, rfl, ha⟩ := hx
  exact hf a ha

theorem Answers.map {x : Except ε α} {f : α → β} (hx : Answers p x) (hf : ∀ a, p a → q (f a)) :
    Answers q (x.map f) := by
  obtain ⟨a, rfl, ha⟩ := hx
  exact ⟨f a, rfl, hf a ha⟩

theorem Answers.mapError {x : Except ε α} (hx : Answers p x) (f : ε → ε') :
    Answers p (x.mapError f) := by
  obtain ⟨a, rfl, ha⟩ := hx
  exact ⟨a, rfl, ha⟩

/-- The computation ends early, or goes on. -/
theorem Answers.unless {c : Prop} [Decidable c] {a : α} {x : Except ε α} (ha : p a)
    (hx : Answers p x) : Answers p (if c then pure a else x) := by
  split
  · exact .ok ha
  · exact hx

end Answers

end CppIdioms
