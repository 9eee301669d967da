import Mathlib.Data.List.Basic

/-!
# Histories of events

A deterministic program takes one step for each event. `Each step ok s es` says of a history `es`
that every event of it is all right where it happens, when it begins in `s`.

* `each_iff` — the same, said of the events after each beginning of the history.
* `foldl_eq_iff` — two programs agree after every event if they take the same steps.
* `each_congr` — two such conditions agree on all histories if they agree where an invariant holds.
-/

namespace History

variable {σ α : Type} {step : σ → α → σ} {ok ok' : σ → α → Prop} {s : σ} {e : α} {es : List α}

/-- Every event of the history is all right in the state it happens in. -/
def Each (step : σ → α → σ) (ok : σ → α → Prop) : σ → List α → Prop
  | _, [] => True
  | s, e :: es => ok s e ∧ Each step ok (step s e) es

instance decidableEach [∀ s e, Decidable (ok s e)] : (s : σ) → (es : List α) →
    Decidable (Each step ok s es)
  | _, [] => inferInstanceAs (Decidable True)
  | s, e :: es =>
    have := decidableEach (step s e) es
    inferInstanceAs (Decidable (ok s e ∧ Each step ok (step s e) es))

/-- The condition holds at each event of the run exactly if it holds at the last event of each
prefix. -/
theorem each_iff : Each step ok s es ↔
    ∀ es' e, es' ++ [e] <+: es → ok (es'.foldl step s) e := by
  induction es generalizing s with
  | nil =>
    refine iff_of_true trivial fun es' e h => ?_
    exact absurd (List.prefix_nil.mp h) (List.append_ne_nil_of_right_ne_nil es' (List.cons_ne_nil e []))
  | cons e es ih =>
    rw [Each, ih]
    constructor
    · rintro ⟨hfirst, hrest⟩ es' e' h
      cases es' with
      | nil =>
        obtain rfl := (List.cons_prefix_cons.mp h).1
        exact hfirst
      | cons a es' =>
        obtain ⟨rfl, hprefix⟩ := List.cons_prefix_cons.mp h
        exact hrest es' e' hprefix
    · intro h
      refine ⟨h [] e (List.cons_prefix_cons.mpr ⟨rfl, List.nil_prefix⟩), fun es' e' h' => ?_⟩
      exact h (e :: es') e' (List.cons_prefix_cons.mpr ⟨rfl, h'⟩)

/-- **Two programs agree** after every event if they take the same step at every event. -/
theorem foldl_eq_iff {step' : σ → α → σ} :
    (∀ es' e, es' ++ [e] <+: es → (es' ++ [e]).foldl step' s = (es' ++ [e]).foldl step s) ↔
      Each step (fun s e => step' s e = step s e) s es := by
  induction es generalizing s with
  | nil =>
    refine iff_of_true (fun es' e h => ?_) trivial
    exact absurd (List.prefix_nil.mp h) (List.append_ne_nil_of_right_ne_nil es' (List.cons_ne_nil e []))
  | cons e es ih =>
    rw [Each, ← ih]
    constructor
    · intro h
      have hfirst : step' s e = step s e := h [] e (List.cons_prefix_cons.mpr ⟨rfl, List.nil_prefix⟩)
      refine ⟨hfirst, fun es' e' h' => ?_⟩
      have hrest := h (e :: es') e' (List.cons_prefix_cons.mpr ⟨rfl, h'⟩)
      rwa [List.cons_append, List.foldl_cons, List.foldl_cons, hfirst] at hrest
    · rintro ⟨hfirst, hrest⟩ es' e' h
      cases es' with
      | nil =>
        obtain rfl := (List.cons_prefix_cons.mp h).1
        exact hfirst
      | cons a es' =>
        obtain ⟨rfl, hprefix⟩ := List.cons_prefix_cons.mp h
        rw [List.cons_append, List.foldl_cons, List.foldl_cons, hfirst]
        exact hrest es' e' hprefix

/-- What every event keeps that is all right holds at the end. -/
theorem Each.inv {I : σ → Prop} (hstep : ∀ s e, I s → ok s e → I (step s e)) :
    ∀ {es : List α} {s : σ}, Each step ok s es → I s → I (es.foldl step s)
  | [], _, _, hs => hs
  | _ :: _, _, h, hs => by
    have hrest := Each.inv hstep h.2 (hstep _ _ hs h.1)
    exact hrest

/-- What is all right under an invariant is all right in another sense as well. -/
theorem Each.imp {I : σ → Prop} (hok : ∀ s e, I s → ok s e → ok' s e)
    (hstep : ∀ s e, I s → ok s e → I (step s e)) :
    ∀ {es : List α} {s : σ}, I s → Each step ok s es → Each step ok' s es
  | [], _, _, _ => trivial
  | _ :: _, _, hs, h => ⟨hok _ _ hs h.1, Each.imp hok hstep (hstep _ _ hs h.1) h.2⟩

/-- **Two conditions on events agree** on a history if they agree where an invariant holds that the
events keep that are all right. -/
theorem each_congr {I : σ → Prop} (hok : ∀ s e, I s → (ok s e ↔ ok' s e))
    (hstep : ∀ s e, I s → ok s e → I (step s e)) (hs : I s) :
    Each step ok s es ↔ Each step ok' s es :=
  ⟨Each.imp (fun s e hi => (hok s e hi).mp) hstep hs,
    Each.imp (fun s e hi => (hok s e hi).mpr) (fun s e hi h => hstep s e hi ((hok s e hi).mpr h)) hs⟩

/-- A condition on the events alone. -/
theorem each_forall {p : α → Prop} : Each step (fun _ e => p e) s es ↔ ∀ e ∈ es, p e := by
  induction es generalizing s with
  | nil => exact iff_of_true trivial fun _ h => absurd h List.not_mem_nil
  | cons e es ih => rw [Each, ih, List.forall_mem_cons]

/-- A further condition on the events alone. -/
theorem each_and {p : α → Prop} :
    Each step (fun s e => ok s e ∧ p e) s es ↔ Each step ok s es ∧ ∀ e ∈ es, p e := by
  induction es generalizing s with
  | nil => exact iff_of_true trivial ⟨trivial, fun _ h => absurd h List.not_mem_nil⟩
  | cons e es ih =>
    rw [Each, Each, ih, List.forall_mem_cons]
    exact and_and_and_comm

end History
