/-!
# Tables by key

A table lists values by key, each key once, in the order in which the keys were first entered.

## Contents

* `upsert`: a table with a new value for one key.

## Main statements

* `lookup_upsert`: what is found in a table with a new value.
* `keys_upsert`, `nodup_keys_upsert`: its keys, in order and each once.
-/

namespace CppIdioms

variable {κ β : Type} [BEq κ]

/-- The table with a new value for a key, made from the old one if there is one: it stands in place
of the old value, or else at the end. -/
def upsert (key : κ) (new : Option β → β) : List (κ × β) → List (κ × β)
  | [] => [(key, new none)]
  | (k, v) :: rest =>
    if k == key then (k, new (some v)) :: rest else (k, v) :: upsert key new rest

variable [LawfulBEq κ]

/-- The new value is found under its key, and the other keys keep theirs. -/
theorem lookup_upsert (key k : κ) (new : Option β → β) (table : List (κ × β)) :
    (upsert key new table).lookup k
      = if k == key then some (new (table.lookup key)) else table.lookup k := by
  induction table with
  | nil => cases hk : k == key <;> simp [upsert, List.lookup_cons, hk]
  | cons entry rest ih =>
    obtain ⟨k', v⟩ := entry
    by_cases hkey : k' = key
    · subst hkey
      cases hk : k == k' <;> simp [upsert, List.lookup_cons, hk]
    · have hother : (key == k') = false := by simpa using Ne.symm hkey
      rw [upsert, if_neg (by simpa using hkey)]
      cases hk : k == k' with
      | true =>
        obtain rfl := eq_of_beq hk
        simp [hkey]
      | false => simp [List.lookup_cons, hk, hother, ih]

/-- A new key stands behind the others, and one that is there stays where it is. -/
theorem keys_upsert (key : κ) (new : Option β → β) (table : List (κ × β)) :
    (upsert key new table).map (·.1)
      = if table.any (·.1 == key) then table.map (·.1) else table.map (·.1) ++ [key] := by
  induction table with
  | nil => simp [upsert]
  | cons entry rest ih =>
    obtain ⟨k', v⟩ := entry
    by_cases hkey : k' = key
    · simp [upsert, hkey]
    · rw [upsert, if_neg (by simpa using hkey), List.map_cons, ih, List.any_cons]
      simp only [beq_false_of_ne hkey, Bool.false_or]
      split <;> rfl

theorem nodup_keys_upsert {key : κ} {new : Option β → β} {table : List (κ × β)}
    (h : (table.map (·.1)).Nodup) : ((upsert key new table).map (·.1)).Nodup := by
  rw [keys_upsert]
  split
  · exact h
  · next hnew =>
    refine List.nodup_append.2 ⟨h, by simp, ?_⟩
    intro k hk k' hk' heq
    obtain ⟨entry, hentry, rfl⟩ := List.mem_map.1 hk
    rw [List.mem_singleton.1 hk'] at heq
    exact hnew (List.any_eq_true.2 ⟨entry, hentry, by simpa using heq⟩)

end CppIdioms
