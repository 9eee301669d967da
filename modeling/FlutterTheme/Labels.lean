import FlutterTheme.EventLoop
import Mathlib.Algebra.BigOperators.Group.List.Basic

/-!
# Labels of suspended calls

A suspended call can be told by what it still has to do. `L th r` says that the suspended call `th`
has `r` to do, an element of a commutative monoid; how calls get from one label to another is up to
the program.

* `Config.Labelled` — the suspended calls have labels, and `r` is their sum.
* `System.labelled_call`, `System.labelled_resume` — what an event makes of the sum: the labels of
  the calls suspended at the event are added, and the one of a call that is resumed is taken out.
-/

namespace EventLoop

variable {σ ℓ α β M : Type} [AddCommMonoid M]

/-- One of the summands is taken out. -/
theorem forall₂_eraseIdx {R : β → M → Prop} {bs : List β} {rs : List M} {b : β}
    (h : List.Forall₂ R bs rs) : ∀ {i : ℕ}, bs[i]? = some b →
      ∃ r rs', R b r ∧ List.Forall₂ R (bs.eraseIdx i) rs' ∧ rs.sum = r + rs'.sum := by
  induction h with
  | nil => exact fun hi => by simp at hi
  | @cons b' r bs rs hb hbs ih =>
    intro i hi
    cases i with
    | zero =>
      obtain rfl : b' = b := by simpa using hi
      exact ⟨r, rs, hb, hbs, List.sum_cons⟩
    | succ i =>
      obtain ⟨r', rs', hr', hrs', hsum⟩ := ih (by simpa using hi)
      refine ⟨r', r :: rs', hr', .cons hb hrs', ?_⟩
      rw [List.sum_cons, List.sum_cons, hsum, add_left_comm]

/-- The calls have labels, and `r` is their sum. -/
def Labelled (L : Thread σ ℓ → M → Prop) (ths : List (Thread σ ℓ)) (r : M) : Prop :=
  ∃ rs : List M, List.Forall₂ L ths rs ∧ rs.sum = r

variable {L : Thread σ ℓ → M → Prop} {ths ths' : List (Thread σ ℓ)} {r r' : M} {th : Thread σ ℓ}

theorem labelled_nil : Labelled L [] 0 := ⟨[], .nil, rfl⟩

theorem Labelled.cons (hth : L th r) (h : Labelled L ths r') :
    Labelled L (th :: ths) (r + r') := by
  obtain ⟨rs, hrs, rfl⟩ := h
  exact ⟨r :: rs, .cons hth hrs, List.sum_cons⟩

theorem Labelled.append (h : Labelled L ths r) (h' : Labelled L ths' r') :
    Labelled L (ths ++ ths') (r + r') := by
  obtain ⟨rs, hrs, rfl⟩ := h
  obtain ⟨rs', hrs', rfl⟩ := h'
  exact ⟨rs ++ rs', List.rel_append hrs hrs', List.sum_append⟩

theorem Labelled.mono {L' : Thread σ ℓ → M → Prop} (h : Labelled L ths r)
    (hL : ∀ th r, L th r → L' th r) : Labelled L' ths r := by
  obtain ⟨rs, hrs, hsum⟩ := h
  exact ⟨rs, hrs.imp hL, hsum⟩

/-- The label of one of the calls is taken out. -/
theorem Labelled.eraseIdx (h : Labelled L ths r) {i : ℕ} (hi : ths[i]? = some th) :
    ∃ r₁ r₂, L th r₁ ∧ Labelled L (ths.eraseIdx i) r₂ ∧ r = r₁ + r₂ := by
  obtain ⟨rs, hrs, rfl⟩ := h
  obtain ⟨r₁, rs', hth, hrs', hsum⟩ := forall₂_eraseIdx hrs hi
  exact ⟨r₁, rs'.sum, hth, ⟨rs', hrs', rfl⟩, hsum⟩

/-- Calls that have nothing to do. -/
theorem labelled_zero (h : ∀ th ∈ ths, L th 0) : Labelled L ths 0 := by
  induction ths with
  | nil => exact labelled_nil
  | cons th ths ih =>
    have hrest := ih fun th' hth' => h th' (List.mem_cons_of_mem _ hth')
    have hall := Labelled.cons (h th (List.mem_cons_self ..)) hrest
    rwa [add_zero] at hall

/-- The suspended calls have labels, and `r` is their sum. -/
def Config.Labelled (L : Thread σ ℓ → M → Prop) (c : Config σ ℓ) (r : M) : Prop :=
  EventLoop.Labelled L c.threads r

variable {c : Config σ ℓ}

/-- Nothing is suspended, so nothing is left to do. -/
theorem Config.Labelled.settled (h : c.Labelled L r) (hc : c.Settled) : r = 0 := by
  obtain ⟨rs, hrs, rfl⟩ := h
  rw [hc] at hrs
  rw [List.forall₂_nil_left_iff.mp hrs, List.sum_nil]

namespace System

variable {S : System σ ℓ α}

/-- A call that is started adds the labels of what it leaves. -/
theorem labelled_call (h : c.Labelled L r) {a : α} {ticks : ℕ → Tick}
    (ho : Labelled L (S.outcome c (.call a ticks)).threads r') :
    (S.apply c (.call a ticks)).Labelled L (r + r') :=
  Labelled.append h ho

/-- Nothing is resumed, or a call with one of the labels is, whose label is replaced by those of
what it leaves. -/
theorem labelled_resume (h : c.Labelled L r) (i : ℕ) (ticks : ℕ → Tick) :
    S.apply c (.resume i ticks) = c ∨
      ∃ th, c.threads[i]? = some th ∧ ∃ r₁ r₂, L th r₁ ∧ r = r₁ + r₂ ∧
        (S.apply c (.resume i ticks)).world = (th.task.run ticks th.scope 0 c.world).world ∧
        ∀ r', Labelled L (th.task.run ticks th.scope 0 c.world).threads r' →
          (S.apply c (.resume i ticks)).Labelled L (r₂ + r') := by
  cases hth : c.threads[i]? with
  | none =>
    exact .inl (apply_resume_none hth ticks)
  | some th =>
    right
    obtain ⟨r₁, r₂, hlabel, hrest, rfl⟩ := Labelled.eraseIdx h hth
    have ho : S.outcome c (.resume i ticks) = th.task.run ticks th.scope 0 c.world := by
      simp only [outcome, hth]
    refine ⟨th, rfl, r₁, r₂, hlabel, rfl, by rw [apply, ho], ?_⟩
    intro r' hr'
    rw [apply, ho]
    exact hrest.append hr'

end System

end EventLoop
