import Mathlib.Data.List.Induction
import Mathlib.Data.List.Sort

/-!
# The greatest elements of a list

* `descending` — a list ordered by a key, the greatest one first.
* `greatest_take` — the first ones in that order are as many of the greatest.
* `head?_descending` — the first one is found by going through the list once.
-/

namespace Greatest

variable {α β : Type} [LinearOrder β] (key : α → β)

/-- `a` may stand before `b`. -/
def before (a b : α) : Bool := key b ≤ key a

/-- In descending order; of those with the same key the later one comes first. -/
def descending (l : List α) : List α := l.reverse.mergeSort (before key)

/-- `r` are the `n` greatest elements of `l`, or all of them, in descending order. -/
structure IsGreatest (n : ℕ) (l r : List α) : Prop where
  length : r.length = min n l.length
  sorted : r.Pairwise fun a b => key b ≤ key a
  others : ∃ rest, (r ++ rest).Perm l ∧ ∀ a ∈ r, ∀ b ∈ rest, key b ≤ key a

variable {key} {key' : α → ℕ} {n : ℕ} {l r : List α} {a : α}

theorem before_iff {b : α} : before key a b = true ↔ key b ≤ key a := decide_eq_true_iff

variable (key) in
theorem before_trans (a b c : α) (hab : before key a b = true) (hbc : before key b c = true) :
    before key a c = true :=
  before_iff.mpr ((before_iff.mp hbc).trans (before_iff.mp hab))

theorem before_total (a b : α) : (before key a b || before key b a) = true := by
  rw [Bool.or_eq_true, before_iff, before_iff]
  exact le_total (key b) (key a)

theorem perm_descending : (descending key l).Perm l :=
  (List.mergeSort_perm ..).trans l.reverse_perm

variable (key l) in
theorem sorted_descending : (descending key l).Pairwise fun a b => key b ≤ key a :=
  (List.pairwise_mergeSort (before_trans key) before_total l.reverse).imp before_iff.mp

/-- **The first ones are the greatest.** -/
theorem greatest_take : IsGreatest key n l ((descending key l).take n) where
  length := by rw [List.length_take, perm_descending.length_eq]
  sorted := (sorted_descending key l).sublist (List.take_sublist ..)
  others := by
    refine ⟨(descending key l).drop n, ?_, ?_⟩
    · rw [List.take_append_drop]
      exact perm_descending
    · have hsorted := sorted_descending key l
      rw [← List.take_append_drop n (descending key l)] at hsorted
      exact (List.pairwise_append.mp hsorted).2.2

/-- The greatest ones for another key that orders them the same. -/
theorem IsGreatest.congr (h : IsGreatest key n l r)
    (hkey : ∀ a ∈ l, ∀ b ∈ l, key a ≤ key b → key' a ≤ key' b) : IsGreatest key' n l r := by
  obtain ⟨rest, hperm, hrest⟩ := h.others
  have hmem : ∀ a ∈ r, a ∈ l := fun a ha => hperm.subset (List.mem_append_left _ ha)
  refine ⟨h.length, ?_, rest, hperm, fun a ha b hb => ?_⟩
  · exact h.sorted.imp_of_mem fun ha hb hab => hkey _ (hmem _ hb) _ (hmem _ ha) hab
  · exact hkey b (hperm.subset (List.mem_append_right _ hb)) a (hmem a ha) (hrest a ha b hb)

/-- The greatest one. -/
theorem IsGreatest.one (h : IsGreatest key 1 l r) (hl : l ≠ []) :
    ∃ a ∈ l, r = [a] ∧ ∀ b ∈ l, key b ≤ key a := by
  have hlength : r.length = 1 := by
    rw [h.length]
    exact Nat.min_eq_left (List.length_pos_of_ne_nil hl)
  obtain ⟨a, rfl⟩ := List.length_eq_one_iff.mp hlength
  obtain ⟨rest, hperm, hrest⟩ := h.others
  refine ⟨a, hperm.subset (List.mem_append_left _ (List.mem_singleton_self a)), rfl, fun b hb => ?_⟩
  rcases List.mem_append.mp (hperm.symm.subset hb) with hb | hb
  · obtain rfl := List.mem_singleton.mp hb
    exact le_refl _
  · exact hrest a (List.mem_singleton_self a) b hb

/-! ## Going through the list -/

variable (key) in
/-- The greater of two, the second one if they have the same key. -/
def greater (found : Option α) (a : α) : Option α :=
  match found with
  | none => some a
  | some b => if key b ≤ key a then some a else some b

/-- One more element. -/
theorem head?_concat :
    (descending key (l ++ [a])).head? = greater key (descending key l).head? a := by
  obtain ⟨l₁, l₂, hnew, hold, hfirst⟩ :=
    List.mergeSort_cons (before_trans key) before_total a l.reverse
  have hnew' : descending key (l ++ [a]) = l₁ ++ a :: l₂ := by
    rw [descending, List.reverse_concat, hnew]
  have hold' : descending key l = l₁ ++ l₂ := hold
  have hsorted := sorted_descending key (l ++ [a])
  rw [hnew'] at hsorted
  rw [hnew', hold']
  cases l₁ with
  | nil =>
    cases l₂ with
    | nil => rfl
    | cons b l₂ =>
      have hb : key b ≤ key a := (List.pairwise_cons.mp hsorted).1 b (List.mem_cons_self ..)
      exact (if_pos hb).symm
  | cons b l₁ =>
    have hb : ¬ key b ≤ key a := by
      have hfirst' := hfirst b (List.mem_cons_self ..)
      rwa [Bool.not_eq_true', ← Bool.not_eq_true, before_iff] at hfirst'
    exact (if_neg hb).symm

theorem head?_descending : (descending key l).head? = l.foldl (greater key) none := by
  induction l using List.reverseRecOn with
  | nil => rw [descending, List.reverse_nil, List.mergeSort_nil, List.head?_nil, List.foldl_nil]
  | append_singleton l a ih =>
    rw [head?_concat, ih, List.foldl_append, List.foldl_cons, List.foldl_nil]

end Greatest
