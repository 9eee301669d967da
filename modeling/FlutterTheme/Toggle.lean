import Mathlib.Algebra.Ring.Parity
import Mathlib.Data.List.Induction

/-!
# Toggling by key

A list of chosen values, of which a value is taken out if one with its key is among them, and
otherwise put at the end.

* `lasts` — the values of a list that no later one has the key of.
* `chosen` — of the values that were toggled one after the other, the last ones of those keys that
  were toggled an odd number of times.
* `toggle_chosen` — toggling one more value chooses so again.
-/

namespace Toggle

variable {α κ : Type} [DecidableEq κ] (key : α → κ)

/-- Toggling `x`. -/
def toggle (xs : List α) (x : α) : List α :=
  if xs.any (key · = key x) then xs.filter (key · ≠ key x) else xs ++ [x]

/-- The values that no later one has the key of, in their order. -/
def lasts : List α → List α
  | [] => []
  | x :: xs => if xs.any (key · = key x) then lasts xs else x :: lasts xs

/-- How often the key is toggled. -/
def times (k : κ) (xs : List α) : ℕ := xs.countP (key · = k)

variable {key} {k : κ} {x y : α} {xs : List α}

theorem times_concat : times key k (xs ++ [x]) = times key k xs + if key x = k then 1 else 0 := by
  simp [times, List.countP_append, List.countP_singleton]

/-! ## The last values -/

theorem lasts_sublist : ∀ xs : List α, (lasts key xs).Sublist xs
  | [] => .slnil
  | x :: xs => by
    rw [lasts]
    split
    · exact (lasts_sublist xs).cons x
    · exact (lasts_sublist xs).cons_cons x

/-- No key has two last values. By recursion on the list. -/
theorem nodup_lasts : ∀ xs : List α, ((lasts key xs).map key).Nodup
  | [] => List.nodup_nil
  | x :: xs => by
    rw [lasts]
    split
    · exact nodup_lasts xs
    · rename_i hx
      refine List.nodup_cons.mpr ⟨fun hmem => hx ?_, nodup_lasts xs⟩
      obtain ⟨y, hy, heq⟩ := List.mem_map.mp hmem
      exact List.any_eq_true.mpr ⟨y, (lasts_sublist xs).subset hy, decide_eq_true heq⟩

/-- A new last value takes the place of those with its key. -/
theorem lasts_concat : ∀ xs : List α,
    lasts key (xs ++ [x]) = (lasts key xs).filter (key · ≠ key x) ++ [x]
  | [] => by simp [lasts]
  | y :: xs => by
    have ih := lasts_concat xs
    by_cases hyx : key x = key y
    · have hany : (xs ++ [x]).any (key · = key y) = true := by simp [hyx]
      rw [List.cons_append, lasts, if_pos hany, ih, lasts]
      split
      · rfl
      · rw [List.filter_cons_of_neg (by simp [hyx])]
    · have hany : (xs ++ [x]).any (key · = key y) = xs.any (key · = key y) := by simp [hyx]
      rw [List.cons_append, lasts, hany, lasts]
      split
      · exact ih
      · rw [ih, List.filter_cons_of_pos (by simpa using Ne.symm hyx), List.cons_append]

/-- Every key has a last value. -/
theorem mem_map_lasts : k ∈ (lasts key xs).map key ↔ 0 < times key k xs := by
  induction xs using List.reverseRecOn with
  | nil => simp [lasts, times]
  | append_singleton xs x ih =>
    rw [lasts_concat, times_concat, List.map_append, List.mem_append]
    by_cases hk : key x = k
    · simp [hk]
    · rw [if_neg hk, Nat.add_zero, ← ih]
      simp only [List.mem_map, List.mem_filter, List.mem_singleton, decide_eq_true_eq]
      constructor
      · rintro (⟨y, ⟨hy, -⟩, rfl⟩ | ⟨y, rfl, rfl⟩)
        · exact ⟨y, hy, rfl⟩
        · exact absurd rfl hk
      · rintro ⟨y, hy, rfl⟩
        exact .inl ⟨y, ⟨hy, Ne.symm hk⟩, rfl⟩

/-- What is among the last values is the last one with its key. -/
theorem getLast_of_mem_lasts (h : y ∈ lasts key xs) :
    (xs.filter (key · = key y)).getLast? = some y := by
  induction xs using List.reverseRecOn with
  | nil => exact absurd h List.not_mem_nil
  | append_singleton xs x ih =>
    rw [lasts_concat, List.mem_append, List.mem_filter, List.mem_singleton] at h
    rw [List.filter_append]
    obtain ⟨hy, hne⟩ | rfl := h
    · have hne' : key y ≠ key x := by simpa using hne
      rw [List.filter_cons_of_neg (by simpa using Ne.symm hne'), List.filter_nil, List.append_nil]
      exact ih hy
    · rw [List.filter_cons_of_pos (by simp), List.filter_nil, List.getLast?_concat]

/-! ## Toggling one after the other -/

variable (key) in
/-- What is chosen in the end. -/
def chosen (xs : List α) : List α := (lasts key xs).filter fun y => Odd (times key (key y) xs)

/-- A key is chosen just when it occurs an odd number of times. -/
theorem mem_map_chosen : k ∈ (chosen key xs).map key ↔ Odd (times key k xs) := by
  constructor
  · intro h
    obtain ⟨y, hy, rfl⟩ := List.mem_map.mp h
    exact of_decide_eq_true (List.mem_filter.mp hy).2
  · intro h
    obtain ⟨n, hn⟩ := h
    have hmem : k ∈ (lasts key xs).map key := mem_map_lasts.mpr (hn ▸ Nat.succ_pos _)
    obtain ⟨y, hy, rfl⟩ := List.mem_map.mp hmem
    exact List.mem_map_of_mem (List.mem_filter.mpr ⟨hy, decide_eq_true ⟨n, hn⟩⟩)

theorem nodup_chosen : ((chosen key xs).map key).Nodup :=
  (nodup_lasts xs).sublist (List.filter_sublist.map key)

/-- One more value takes out what was chosen with its key, and comes in at the end if the key had
occurred an even number of times. -/
theorem chosen_concat : chosen key (xs ++ [x]) =
    (chosen key xs).filter (key · ≠ key x) ++ if Odd (times key (key x) xs) then [] else [x] := by
  rw [chosen, lasts_concat, List.filter_append, chosen, List.filter_filter, List.filter_filter]
  congr 1
  · refine List.filter_congr fun y _ => ?_
    by_cases hyx : key y = key x
    · simp [hyx]
    · rw [times_concat, if_neg (Ne.symm hyx), Nat.add_zero, Bool.and_comm]
  · have hodd : Odd (times key (key x) (xs ++ [x])) ↔ ¬ Odd (times key (key x) xs) := by
      rw [times_concat, if_pos rfl, Nat.odd_add_one]
    by_cases h : Odd (times key (key x) xs)
    · rw [if_pos h, List.filter_cons_of_neg (by simpa [hodd] using h), List.filter_nil]
    · rw [if_neg h, List.filter_cons_of_pos (by simpa [hodd] using h), List.filter_nil]

/-- One more is toggled. -/
theorem toggle_chosen : toggle key (chosen key xs) x = chosen key (xs ++ [x]) := by
  have hany : (chosen key xs).any (key · = key x) = true ↔ Odd (times key (key x) xs) := by
    rw [← mem_map_chosen, List.any_eq_true, List.mem_map]
    simp only [decide_eq_true_eq]
  rw [toggle, chosen_concat]
  by_cases hodd : Odd (times key (key x) xs)
  · rw [if_pos (hany.mpr hodd), if_pos hodd, List.append_nil]
  · have hself : (chosen key xs).filter (key · ≠ key x) = chosen key xs := by
      refine List.filter_eq_self.mpr fun y hy => decide_eq_true fun heq => hodd ?_
      exact mem_map_chosen.mp (heq ▸ List.mem_map_of_mem hy)
    rw [if_neg (mt hany.mp hodd), if_neg hodd, hself]

end Toggle
