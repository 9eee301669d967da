import FlutterTheme.Rely
import FlutterTheme.Actions

/-!
# Calls over a world that only evolves

The protocols in which calls have no labels and the scheduler promises nothing: an
order in which the world evolves, an invariant, and a property of every single action.
`Keeps E m w Q` says that the call `m`, started in the world `w`, keeps the protocol and
hands on only later worlds with the invariant and results that satisfy `Q`; `Runs E m w`
is the case without a result to speak of. The rules are those of `KeepsOn`, with the actions
that `E` allows.
-/

namespace EventLoop

variable {σ ℓ α β : Type}

/-- How a world evolves, what holds of it all along, and of every single action. -/
structure Evolving (σ : Type) where
  le : σ → σ → Prop
  inv : σ → Prop
  step : σ → σ → Prop := fun _ _ => True
  le_refl : ∀ w, le w w
  le_trans : ∀ {w w' w''}, le w w' → le w' w'' → le w w''
  step_refl : ∀ w, step w w

namespace Evolving

variable (E : Evolving σ)

/-- The protocol, whatever the calls work on. -/
def protocol (ℓ : Type) : Protocol σ ℓ where
  rely := E.le
  inv := E.inv
  step _ := E.step
  rely_refl := E.le_refl
  rely_trans := E.le_trans
  step_refl _ := E.step_refl

/-- An action that the protocol allows. -/
structure Permits (w w' : σ) : Prop where
  le : E.le w w'
  inv : E.inv w'
  step : E.step w w'

variable {E}

theorem Permits.refl {w : σ} (hi : E.inv w) : E.Permits w w := ⟨E.le_refl w, hi, E.step_refl w⟩

end Evolving

/-- An action that the protocol allows, whatever the call works on. -/
theorem Evolving.Permits.permits {E : Evolving σ} {w w' : σ} (h : E.Permits w w') :
    (E.protocol ℓ).Permits (fun _ => True) w w' :=
  ⟨h.le, h.inv, fun _ _ => h.step⟩

/-- The call keeps the protocol, and its result satisfies `Q` in the world it is handed on
in. -/
abbrev Keeps (E : Evolving σ) (m : Async σ ℓ α) (w : σ) (Q : α → σ → Prop) : Prop :=
  KeepsOn (E.protocol ℓ) (fun _ => True) m w Q

/-- The call keeps the protocol. -/
abbrev Runs (E : Evolving σ) (m : Async σ ℓ Unit) (w : σ) : Prop := Keeps E m w fun _ _ => True

variable {E : Evolving σ} {w : σ} {m : Async σ ℓ α} {Q : α → σ → Prop}

theorem Keeps.safe {m : Async σ ℓ Unit} {Q : Unit → σ → Prop} (h : Keeps E m w Q) (l : ℓ) :
    m.task.Safe (E.protocol ℓ) l w :=
  h.task_safe trivial

theorem keeps_sync {f : Tick → σ → α × σ}
    (h : ∀ t, E.Permits w (f t w).2 ∧ Q (f t w).1 (f t w).2) :
    Keeps E (Async.sync f : Async σ ℓ α) w Q :=
  keepsOn_sync fun t => (h t).imp_left Evolving.Permits.permits

theorem keeps_modify {f : σ → σ} {Q : Unit → σ → Prop} (h : E.Permits w (f w)) (hq : Q () (f w)) :
    Keeps E (Async.modify f : Async σ ℓ Unit) w Q :=
  keeps_sync fun _ => ⟨h, hq⟩

theorem runs_modify {f : σ → σ} (h : E.Permits w (f w)) :
    Runs E (Async.modify f : Async σ ℓ Unit) w :=
  keeps_modify h trivial

theorem runs_enter {l : ℓ} (hi : E.inv w) : Runs E (Async.enter l : Async σ ℓ Unit) w :=
  fun _ _ => Async.meets_enter ⟨trivial, E.le_refl w, hi, trivial⟩

/-- From here on the call works on something else, in the same world. -/
theorem keeps_enter {l : ℓ} {m : Async σ ℓ β} {R : β → σ → Prop} (h : Keeps E m w R) :
    Keeps E (Async.enter l >>= fun _ => m) w R :=
  fun _ _ => Async.meets_bind (Async.meets_enter (h l trivial))

/-- What an operation answers is told of the world in which it takes effect. -/
theorem keeps_remote {f : Tick → σ → α × σ}
    (h : ∀ w', E.le w w' → E.inv w' → ∀ t, E.Permits w' (f t w').2 ∧
      ∀ w'', E.le (f t w').2 w'' → E.inv w'' → Q (f t w').1 w'') :
    Keeps E (Async.remote f : Async σ ℓ α) w Q :=
  keepsOn_remote fun w' hw hi t => (h w' hw hi t).imp_left Evolving.Permits.permits

theorem keeps_attempt {f : Tick → σ → α × σ} {Q : Option α → σ → Prop}
    (h : ∀ w', E.le w w' → E.inv w' → ∀ t, E.Permits w' (f t w').2 ∧
      ∀ w'', E.le (f t w').2 w'' → E.inv w'' → Q (some (f t w').1) w'')
    (hfail : ∀ w', E.le w w' → E.inv w' → Q none w') :
    Keeps E (Async.attempt f : Async σ ℓ (Option α)) w Q :=
  keepsOn_attempt (fun w' hw hi t => (h w' hw hi t).imp_left Evolving.Permits.permits) hfail

/-- A call whose actions are deeds that the protocol allows. -/
theorem Task.All.safe {D : Deeds σ} (hD : ∀ t w w', E.inv w → D.rel t w w' → E.Permits w w')
    {t : Task σ ℓ} : ∀ {l : ℓ} {w : σ}, t.All D → E.inv w → t.Safe (E.protocol ℓ) l w := by
  induction t with
  | done => exact fun _ _ => trivial
  | throw => exact fun _ _ => trivial
  | act f k ih =>
    intro l w h hi t
    obtain ⟨hle, hinv, hstep⟩ := hD t w _ hi (h t w).1
    exact ⟨hle, hinv, hstep, ih t w (h t w).2 hinv⟩
  | fork p k ihp ihk => exact fun h hi => ⟨ihp h.1 hi, fun w' _ hi' => ihk h.2 hi'⟩
  | enter l k ih => exact fun h hi => ih h hi
  | await k ih => exact fun h _ w' _ hi' _ => ih h hi'

/-! ## Runs -/

namespace System

variable {S : System σ ℓ α} {ok : Config σ ℓ → Event α → Prop} {c₀ c : Config σ ℓ}
  {es : List (Event α)}

/-- Handlers that keep the protocol whenever they can be started. -/
theorem provides_of_runs
    (hbody : ∀ a w, E.inv w → S.enabled w a → Runs E (S.body a) w) {e : Event α}
    (hc : c.Kept (E.protocol ℓ)) (he : S.admits c e) : S.Provides (E.protocol ℓ) c e := by
  cases e with
  | call a ticks => exact (hbody a c.world hc.inv he).safe _
  | resume i ticks => exact fun _ _ => trivial

/-- **Safety of runs** of handlers that keep the protocol. -/
theorem Run.kept (hi : E.inv c₀.world) (hths : c₀.threads = [])
    (hbody : ∀ a w, E.inv w → S.enabled w a → Runs E (S.body a) w)
    (h : S.Run S.admits c₀ es c) : c.Kept (E.protocol ℓ) := by
  refine Run.safe ⟨hi, ?_⟩ (fun c e hc he => provides_of_runs hbody hc he) h
  intro th hth
  rw [hths] at hth
  exact absurd hth List.not_mem_nil

end System

end EventLoop
