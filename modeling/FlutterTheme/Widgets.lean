import Mathlib.Data.List.DropRight
import Mathlib.Data.List.ReduceOption

/-!
# Widgets that keep their State

A place on the screen shows one widget after another. Where a widget has a State, the first one at
the place makes it, and those that follow are built with the same State as long as they are of the
same kind.

* `Stateful` — a family of widgets with a State.
* `update_element` — what a widget is built with: the State that was made for the first widget since
  the place last showed something of another kind, and what the builds have made of it.
-/

namespace Widgets

variable {κ ι σ β : Type}

/-- Widgets with a State. -/
structure Stateful (κ ι σ β : Type) where
  /-- a State is kept between widgets of the same kind -/
  kind : ι → κ
  /-- the State that is made for a widget, `none` where that throws -/
  initState : ι → Option σ
  /-- what is left in the State, and what is shown -/
  build : ι → σ → σ × β

namespace Stateful

variable [DecidableEq κ] (W : Stateful κ ι σ β)

/-- The State that a widget is built with, where the place has the given one. -/
def update (element : Option (κ × σ)) (i : ι) : Option σ :=
  match element with
  | some (k, s) => if k = W.kind i then some s else W.initState i
  | none => W.initState i

/-- The place shows a widget, or something without such a State. -/
def next (element : Option (κ × σ)) : Option ι → Option (κ × σ)
  | some i => (W.update element i).map fun s => (W.kind i, (W.build i s).1)
  | none => none

/-- The State at a place that has shown all this. -/
def element (builds : List (Option ι)) : Option (κ × σ) := builds.foldl W.next none

/-- What a widget shows at such a place, `none` where making its State throws. -/
def shown (builds : List (Option ι)) (i : ι) : Option β :=
  (W.update (W.element builds) i).map fun s => (W.build i s).2

/-- The widgets that the place has shown since it last showed something of another kind. -/
def since (builds : List (Option ι)) (i : ι) : List ι :=
  (builds.rtakeWhile fun b => b.map W.kind = some (W.kind i)).reduceOption

/-- The widget that the State was made for with which another one is built. -/
def first (builds : List (Option ι)) (i : ι) : ι := (W.since builds i).head?.getD i

/-- What builds leave in a State. -/
def built (s : σ) (builds : List ι) : σ := builds.foldl (fun s i => (W.build i s).1) s

variable {W} {builds : List (Option ι)} {i j : ι}

theorem since_of_kind (h : W.kind i = W.kind j) : W.since builds i = W.since builds j := by
  rw [since, since, h]

theorem since_concat (h : W.kind j = W.kind i) :
    W.since (builds ++ [some j]) i = W.since builds j ++ [j] := by
  rw [since_of_kind h, since, List.rtakeWhile_concat_pos _ _ _ (by simp [h]),
    List.reduceOption_append]
  rfl

theorem since_concat_of_ne {b : Option ι} (h : ∀ j, b = some j → W.kind j ≠ W.kind i) :
    W.since (builds ++ [b]) i = [] := by
  have hb : ¬ b.map W.kind = some (W.kind i) := by
    intro hkind
    obtain ⟨j, hj, hji⟩ := Option.map_eq_some_iff.mp hkind
    exact h j hj hji
  rw [since, List.rtakeWhile_concat_neg _ _ _ (by simpa using hb)]
  rfl

theorem first_concat (h : W.kind j = W.kind i) :
    W.first (builds ++ [some j]) i = W.first builds j := by
  rw [first, since_concat h, first]
  cases W.since builds j <;> rfl

theorem first_of_since (h : W.since builds i = []) : W.first builds i = i := by
  rw [first, h]
  rfl

/-- The State is one that was made for a widget that the place has shown, or for the new one. -/
theorem exists_first (W : Stateful κ ι σ β) (builds : List (Option ι)) (i : ι) : ∃ before after,
    builds ++ [some i] = before ++ some (W.first builds i) :: after ∧
      W.since before (W.first builds i) = [] ∧ W.kind (W.first builds i) = W.kind i := by
  induction builds using List.reverseRecOn generalizing i with
  | nil => exact ⟨[], [], rfl, rfl, rfl⟩
  | append_singleton builds b ih =>
    by_cases h : ∃ j, b = some j ∧ W.kind j = W.kind i
    · obtain ⟨j, rfl, hkind⟩ := h
      obtain ⟨before, after, heq, hsince, hfirst⟩ := ih j
      rw [first_concat hkind]
      refine ⟨before, after ++ [some i], ?_, hsince, hfirst.trans hkind⟩
      rw [heq]
      simp
    · have hsince : W.since (builds ++ [b]) i = [] :=
        since_concat_of_ne fun j hj hkind => h ⟨j, hj, hkind⟩
      rw [first_of_since hsince]
      exact ⟨builds ++ [b], [], rfl, hsince, rfl⟩

theorem first_mem : some (W.first builds i) ∈ builds ++ [some i] := by
  obtain ⟨before, after, heq, -⟩ := exists_first W builds i
  rw [heq]
  exact List.mem_append_right _ (List.mem_cons_self ..)

/-- **What a widget is built with**: the State made for the first widget since the place showed
something of another kind, after the builds since then. -/
theorem update_element (h : ∀ j, some j ∈ builds → (W.initState j).isSome = true) :
    W.update (W.element builds) i =
      (W.initState (W.first builds i)).map fun s => W.built s (W.since builds i) := by
  -- the State before the last build is the one of the widget that was built then
  induction builds using List.reverseRecOn generalizing i with
  | nil => simp [element, update, first, since, built]
  | append_singleton builds b ih =>
    have helement : W.element (builds ++ [b]) = W.next (W.element builds) b := by
      rw [element, List.foldl_append]
      rfl
    rw [helement]
    cases b with
    | none =>
      have hsince : W.since (builds ++ [none]) i = [] := since_concat_of_ne fun j hj => by cases hj
      rw [first_of_since hsince, hsince]
      simp [next, update, built]
    | some j =>
      obtain ⟨s, hs⟩ := Option.isSome_iff_exists.mp (h _ (first_mem (W := W) (i := j)))
      rw [next, ih fun j hj => h j (List.mem_append_left _ hj), hs]
      by_cases hkind : W.kind j = W.kind i
      · rw [first_concat hkind, since_concat hkind, hs]
        simp [update, hkind, built]
      · have hsince : W.since (builds ++ [some j]) i = [] :=
          since_concat_of_ne fun k hk => by cases hk; exact hkind
        rw [first_of_since hsince, hsince]
        simp [update, hkind, built]

/-- What is shown, once the State is known. -/
theorem shown_eq (h : ∀ j, some j ∈ builds → (W.initState j).isSome = true) :
    W.shown builds i = (W.initState (W.first builds i)).map fun s =>
      (W.build i (W.built s (W.since builds i))).2 := by
  rw [shown, update_element h, Option.map_map]
  rfl

end Stateful

end Widgets
