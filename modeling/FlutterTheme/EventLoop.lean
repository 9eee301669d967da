import Mathlib.Order.Basic
import Mathlib.Data.List.Basic

/-!
# The event loop: suspended calls over a shared world

A program written with `async`/`await` is a set of *calls*, each of which runs
without interruption up to its next `await` and then waits until the event loop
resumes it. Three layers:

* `Task σ ℓ` — what a call still has to do, over a world `σ`. Actions are
  atomic; `await` is the only point where another call may come in between.
* `Async σ ℓ α` — the monad the programs are written in: a call that returns an
  `α`, given by what its caller does with the result.
* `Config σ ℓ` and `Run` — the suspended calls of all parties over one world,
  and the runs in which users start calls and the event loop resumes them in
  any order.

What the environment decides (the clock, the outcome of a remote operation,
where a new record sorts) comes in through a `Tick`, one for each action.
-/

namespace EventLoop

variable {σ ℓ α β : Type}

/-! ## Tasks -/

/-- What the environment decides at one action. -/
structure Tick where
  /-- the reading of the clock, in microseconds since the epoch -/
  now : ℕ
  /-- where a record added by the action sorts among the records there -/
  pos : ℕ := 0
  /-- whether a remote operation fails -/
  fails : Bool := false
  deriving DecidableEq, Repr

/-- What a call still has to do. The label of type `ℓ` says what the call is
working on; it is the value of a local variable made visible, and no action
depends on it. -/
inductive Task (σ ℓ : Type) : Type where
  /-- nothing is left -/
  | done : Task σ ℓ
  /-- an error nobody catches: the rest of the call is abandoned -/
  | throw : Task σ ℓ
  /-- change the world and go on, knowing the world before the change -/
  | act : (Tick → σ → σ) → (Tick → σ → Task σ ℓ) → Task σ ℓ
  /-- start a call without awaiting it: it runs up to its first `await` -/
  | fork : Task σ ℓ → Task σ ℓ → Task σ ℓ
  /-- from here on the call works on `l` -/
  | enter : ℓ → Task σ ℓ → Task σ ℓ
  /-- suspend, to be resumed by the event loop -/
  | await : Task σ ℓ → Task σ ℓ

/-- A suspended call: what it works on and what it does when it is resumed. -/
structure Thread (σ ℓ : Type) where
  /-- what the call works on -/
  scope : ℓ
  /-- the rest of the call -/
  task : Task σ ℓ

/-- One action of one call, with the worlds before and after it. -/
structure Step (σ ℓ : Type) where
  /-- what the acting call works on -/
  scope : ℓ
  /-- the world before the action -/
  before : σ
  /-- the world after the action -/
  after : σ

/-- What running a call up to its next `await` leaves. -/
structure Outcome (σ ℓ : Type) where
  /-- the world then -/
  world : σ
  /-- the calls suspended on the way, in order of suspension -/
  threads : List (Thread σ ℓ)
  /-- the scopes of the calls that ended in an uncaught error -/
  uncaught : List ℓ
  /-- the actions taken, in order -/
  steps : List (Step σ ℓ)
  /-- how many ticks of the segment have been used up -/
  used : ℕ

/-- Run a call up to its next `await`. The `n`-th action of the segment reads
the `n`-th tick. A forked call runs first, up to its own first `await`. -/
def Task.run (ticks : ℕ → Tick) : Task σ ℓ → ℓ → ℕ → σ → Outcome σ ℓ
  | .done, _, n, w => ⟨w, [], [], [], n⟩
  | .throw, l, n, w => ⟨w, [], [l], [], n⟩
  | .act f k, l, n, w =>
    let o := (k (ticks n) w).run ticks l (n + 1) (f (ticks n) w)
    { o with steps := ⟨l, w, f (ticks n) w⟩ :: o.steps }
  | .fork p k, l, n, w =>
    let o := p.run ticks l n w
    let o' := k.run ticks l o.used o.world
    ⟨o'.world, o.threads ++ o'.threads, o.uncaught ++ o'.uncaught, o.steps ++ o'.steps, o'.used⟩
  | .enter l k, _, n, w => k.run ticks l n w
  | .await k, l, n, w => ⟨w, [⟨l, k⟩], [], [], n⟩

/-- What each action of a segment does, the segment does, for a relation that is reflexive and
transitive. By induction on the task. -/
theorem Task.run_steps {R : σ → σ → Prop} (hrefl : ∀ w, R w w)
    (htrans : ∀ {w w' w''}, R w w' → R w' w'' → R w w'') {ticks : ℕ → Tick} {t : Task σ ℓ} :
    ∀ {l : ℓ} {n : ℕ} {w : σ}, (∀ st ∈ (t.run ticks l n w).steps, R st.before st.after) →
      R w (t.run ticks l n w).world := by
  induction t with
  | done => exact fun _ => hrefl _
  | throw => exact fun _ => hrefl _
  | act f k ih =>
    intro l n w h
    have hfirst := h _ (List.mem_cons_self ..)
    exact htrans hfirst (ih (ticks n) w fun st hst => h st (List.mem_cons_of_mem _ hst))
  | fork p k ihp ihk =>
    intro l n w h
    have hp := ihp fun st hst => h st (List.mem_append_left _ hst)
    exact htrans hp (ihk fun st hst => h st (List.mem_append_right _ hst))
  | enter l k ih => exact fun h => ih h
  | await k => exact fun _ => hrefl _

/-- What no action of a segment changes is the same at its end. -/
theorem Task.run_invariant {g : σ → β} {ticks : ℕ → Tick} {t : Task σ ℓ} {l : ℓ} {n : ℕ} {w : σ}
    (h : ∀ st ∈ (t.run ticks l n w).steps, g st.after = g st.before) :
    g (t.run ticks l n w).world = g w :=
  Task.run_steps (R := fun w w' => g w' = g w) (fun _ => rfl) (fun h h' => h'.trans h) h

/-! ## The monad of calls -/

/-- A call that returns an `α`, given by what is done with the result. -/
def Async (σ ℓ α : Type) : Type := (α → Task σ ℓ) → Task σ ℓ

namespace Async

instance : Monad (Async σ ℓ) where
  pure a := fun k => k a
  bind m f := fun k => m fun a => f a k

theorem bind_apply (m : Async σ ℓ α) (f : α → Async σ ℓ β) (k : β → Task σ ℓ) :
    (m >>= f) k = m fun a => f a k := rfl

/-- The task of a call whose result nobody uses. -/
def task (m : Async σ ℓ Unit) : Task σ ℓ := m fun _ => .done

/-- An action of the call's own device: atomic, and not a point of suspension. -/
def sync (f : Tick → σ → α × σ) : Async σ ℓ α :=
  fun k => .act (fun t w => (f t w).2) (fun t w => k (f t w).1)

/-- Look at the world without changing it. -/
def get (g : σ → α) : Async σ ℓ α := sync fun _ w => (g w, w)

/-- Change the world. -/
def modify (f : σ → σ) : Async σ ℓ Unit := sync fun _ w => ((), f w)

/-- Suspend the call. -/
def pause : Async σ ℓ Unit := fun k => .await (k ())

/-- An awaited remote operation: the request is on its way, the operation takes
effect, the answer is on its way back. A failing operation has no effect and
throws. -/
def remote (f : Tick → σ → α × σ) : Async σ ℓ α :=
  fun k => .await (.act (fun t w => if t.fails then w else (f t w).2)
    (fun t w => if t.fails then .throw else .await (k (f t w).1)))

/-- An awaited remote operation whose failure the program catches: the answer is
`none` when it fails. -/
def attempt (f : Tick → σ → α × σ) : Async σ ℓ (Option α) :=
  fun k => .await (.act (fun t w => if t.fails then w else (f t w).2)
    (fun t w => .await (k (if t.fails then none else some (f t w).1))))

/-- Start a call without awaiting it. -/
def spawn (m : Async σ ℓ Unit) : Async σ ℓ Unit := fun k => .fork m.task (k ())

/-- An error nobody catches. -/
def throw : Async σ ℓ α := fun _ => .throw

/-- From here on the call works on `l`. -/
def enter (l : ℓ) : Async σ ℓ Unit := fun k => .enter l (k ())

/-- Start a call for every element of a list, in order, without awaiting any. -/
def forEach : List α → (α → Async σ ℓ Unit) → Async σ ℓ Unit
  | [], _ => pure ()
  | a :: as, f => do spawn (f a); forEach as f

end Async

/-! ## Configurations and runs -/

/-- The world, the suspended calls of all parties, and the scopes of the calls
that ended in an uncaught error. -/
structure Config (σ ℓ : Type) where
  /-- the world -/
  world : σ
  /-- the suspended calls -/
  threads : List (Thread σ ℓ) := []
  /-- the scopes of the calls that threw, oldest first -/
  uncaught : List ℓ := []

/-- A configuration is settled when no call is suspended. -/
def Config.Settled (c : Config σ ℓ) : Prop := c.threads = []

instance (c : Config σ ℓ) : Decidable c.Settled :=
  decidable_of_iff (c.threads.isEmpty = true) List.isEmpty_iff

/-- The handlers users can start: the scope a handler starts in, what it does,
and when it can be started. -/
structure System (σ ℓ α : Type) where
  /-- the scope a handler starts in -/
  scope : α → σ → ℓ
  /-- the handler -/
  body : α → Async σ ℓ Unit
  /-- when a user can start it -/
  enabled : σ → α → Prop

/-- An event: a user starts a handler, or the event loop resumes the `i`-th
suspended call. -/
inductive Event (α : Type) : Type where
  /-- a user starts a handler -/
  | call : α → (ℕ → Tick) → Event α
  /-- the event loop resumes a suspended call -/
  | resume : ℕ → (ℕ → Tick) → Event α

/-- No operation fails at the event. -/
def Event.Succeeds : Event α → Prop
  | .call _ ticks | .resume _ ticks => ∀ n, (ticks n).fails = false

theorem Event.succeeds_replicate {n : ℕ} {e : Event α} (he : e.Succeeds) :
    ∀ e' ∈ List.replicate n e, e'.Succeeds :=
  fun _ he' => List.eq_of_mem_replicate he' ▸ he

/-- The calls an event does not resume. -/
def Config.kept (c : Config σ ℓ) : Event α → List (Thread σ ℓ)
  | .call _ _ => c.threads
  | .resume i _ => c.threads.eraseIdx i

namespace System

variable (S : System σ ℓ α)

/-- What the segment run by an event leaves. -/
def outcome (c : Config σ ℓ) : Event α → Outcome σ ℓ
  | .call a ticks => (S.body a).task.run ticks (S.scope a c.world) 0 c.world
  | .resume i ticks =>
    match c.threads[i]? with
    | some th => th.task.run ticks th.scope 0 c.world
    | none => ⟨c.world, [], [], [], 0⟩

/-- One event. -/
def apply (c : Config σ ℓ) (e : Event α) : Config σ ℓ :=
  let o := S.outcome c e
  ⟨o.world, c.kept e ++ o.threads, c.uncaught ++ o.uncaught⟩

variable {S} in
/-- Nothing is resumed. -/
theorem apply_resume_none {c : Config σ ℓ} {i : ℕ} (h : c.threads[i]? = none) (ticks : ℕ → Tick) :
    S.apply c (.resume i ticks) = c := by
  have hlen : c.threads.length ≤ i := List.getElem?_eq_none_iff.mp h
  simp only [apply, outcome, h, Config.kept, List.eraseIdx_of_length_le hlen, List.append_nil]

variable {S} in
/-- What each action at an event does, the event does. -/
theorem apply_steps {R : σ → σ → Prop} (hrefl : ∀ w, R w w)
    (htrans : ∀ {w w' w''}, R w w' → R w' w'' → R w w'') {c : Config σ ℓ} {e : Event α}
    (h : ∀ st ∈ (S.outcome c e).steps, R st.before st.after) : R c.world (S.apply c e).world := by
  cases e with
  | call a ticks => exact Task.run_steps hrefl htrans h
  | resume i ticks =>
    cases hth : c.threads[i]? with
    | none =>
      simp only [apply, outcome, hth]
      exact hrefl _
    | some th =>
      simp only [apply, outcome, hth] at h ⊢
      exact Task.run_steps hrefl htrans h

/-- Any handler may be started when it is enabled, any suspended call may be
resumed. -/
def admits (c : Config σ ℓ) : Event α → Prop
  | .call a _ => S.enabled c.world a
  | .resume _ _ => True

/-- The configuration a list of events leads to. -/
def exec (c : Config σ ℓ) (es : List (Event α)) : Config σ ℓ := es.foldl S.apply c

/-- The runs from `c₀` whose events all satisfy `ok`, with their events in order
and the configuration they reach. -/
inductive Run (ok : Config σ ℓ → Event α → Prop) (c₀ : Config σ ℓ) :
    List (Event α) → Config σ ℓ → Prop where
  /-- the empty run -/
  | nil : Run ok c₀ [] c₀
  /-- one more event -/
  | snoc {es : List (Event α)} {c : Config σ ℓ} (h : Run ok c₀ es c) (e : Event α)
      (he : ok c e) : Run ok c₀ (es ++ [e]) (S.apply c e)

variable {S} {ok ok' : Config σ ℓ → Event α → Prop} {c₀ c : Config σ ℓ} {es : List (Event α)}

/-- A run is the execution of its events. -/
theorem Run.exec_eq (h : S.Run ok c₀ es c) : c = S.exec c₀ es := by
  induction h with
  | nil => rfl
  | snoc h e he ih =>
    rw [exec, List.foldl_append, List.foldl_cons, List.foldl_nil]
    exact congrArg (S.apply · e) ih

/-- Every event of `es` satisfies `ok` where it happens, starting from `c₀`. -/
def Allowed (S : System σ ℓ α) (ok : Config σ ℓ → Event α → Prop) :
    Config σ ℓ → List (Event α) → Prop
  | _, [] => True
  | c, e :: es => ok c e ∧ Allowed S ok (S.apply c e) es

instance decidableAllowed [∀ c e, Decidable (ok c e)] :
    (c : Config σ ℓ) → (es : List (Event α)) → Decidable (S.Allowed ok c es)
  | _, [] => inferInstanceAs (Decidable True)
  | c, e :: es =>
    have := decidableAllowed (S.apply c e) es
    inferInstanceAs (Decidable (ok c e ∧ S.Allowed ok (S.apply c e) es))

/-- Events that are allowed on further conditions that do not depend on where they happen. -/
theorem Allowed.imp {q : Event α → Prop} (hok : ∀ c e, ok c e → q e → ok' c e) :
    ∀ {es : List (Event α)} {c : Config σ ℓ}, S.Allowed ok c es → (∀ e ∈ es, q e) →
      S.Allowed ok' c es
  | [], _, _, _ => trivial
  | e :: _, c, h, hq =>
    ⟨hok c e h.1 (hq e (List.mem_cons_self ..)),
      Allowed.imp hok h.2 fun e' he' => hq e' (List.mem_cons_of_mem _ he')⟩

/-- Runs can be put together. -/
theorem Run.append {c' : Config σ ℓ} {es' : List (Event α)} (h : S.Run ok c₀ es c)
    (h' : S.Run ok c es' c') : S.Run ok c₀ (es ++ es') c' := by
  induction h' with
  | nil => rwa [List.append_nil]
  | snoc _ e he ih => rw [← List.append_assoc]; exact .snoc ih e he

theorem exec_append {es' : List (Event α)} {c : Config σ ℓ} :
    S.exec c (es ++ es') = S.exec (S.exec c es) es' :=
  List.foldl_append

theorem allowed_append {es' : List (Event α)} : ∀ {es : List (Event α)} {c : Config σ ℓ},
    S.Allowed ok c (es ++ es') ↔ S.Allowed ok c es ∧ S.Allowed ok (S.exec c es) es'
  | [], _ => by simp [Allowed, exec]
  | e :: es, c => by
    rw [List.cons_append, Allowed, Allowed, allowed_append, and_assoc]
    rfl

/-- The events of a run are allowed. -/
theorem Run.allowed (h : S.Run ok c₀ es c) : S.Allowed ok c₀ es := by
  induction h with
  | nil => trivial
  | snoc h e he ih =>
    refine allowed_append.mpr ⟨ih, ?_, trivial⟩
    rwa [← h.exec_eq]

/-- Executing allowed events is a run. -/
theorem run_exec : ∀ {es : List (Event α)} {c₀ : Config σ ℓ},
    S.Allowed ok c₀ es → S.Run ok c₀ es (S.exec c₀ es)
  | [], _, _ => .nil
  | e :: _, _, h => Run.append (Run.snoc .nil e h.1) (run_exec h.2)

/-- A run up to one of its events, and from there on. -/
theorem Run.of_mem {e : Event α} (h : S.Run ok c₀ es c) (he : e ∈ es) :
    ∃ es₁ es₂ c₁, es = es₁ ++ e :: es₂ ∧ S.Run ok c₀ es₁ c₁ ∧ ok c₁ e ∧
      S.Run ok (S.apply c₁ e) es₂ c := by
  obtain ⟨es₁, es₂, rfl⟩ := List.append_of_mem he
  obtain ⟨h₁, he, h₂⟩ := allowed_append.mp h.allowed
  refine ⟨es₁, es₂, S.exec c₀ es₁, rfl, run_exec h₁, he, ?_⟩
  rw [h.exec_eq, exec_append]
  exact run_exec h₂

/-- Executing events that are all as they should be is a run. -/
theorem run_of_forall {ok : Event α → Prop} : ∀ {es : List (Event α)} {c₀ : Config σ ℓ},
    (∀ e ∈ es, ok e) → S.Run (fun _ e => ok e) c₀ es (S.exec c₀ es)
  | [], _, _ => .nil
  | e :: _, _, h => Run.append (Run.snoc .nil e (h e (List.mem_cons_self ..)))
      (run_of_forall fun e' he' => h e' (List.mem_cons_of_mem _ he'))

/-- The same event again and again. -/
theorem run_replicate {ok : Event α → Prop} {e : Event α} {n : ℕ} {c₀ : Config σ ℓ} (he : ok e) :
    S.Run (fun _ e => ok e) c₀ (List.replicate n e) (S.exec c₀ (List.replicate n e)) :=
  run_of_forall fun _ he' => List.eq_of_mem_replicate he' ▸ he

/-- **Invariant induction**: what holds at the start and is kept by every
admitted event holds after every run. -/
theorem Run.induct {I : Config σ ℓ → Prop} (h₀ : I c₀)
    (hstep : ∀ c e, I c → ok c e → I (S.apply c e)) (h : S.Run ok c₀ es c) : I c := by
  induction h with
  | nil => exact h₀
  | snoc h e he ih => exact hstep _ _ ih he

/-- Runs under a stronger condition are runs under a weaker one. -/
theorem Run.mono (hok : ∀ c e, ok c e → ok' c e) (h : S.Run ok c₀ es c) : S.Run ok' c₀ es c := by
  induction h with
  | nil => exact .nil
  | snoc h e he ih => exact .snoc ih e (hok _ _ he)

end System

end EventLoop
