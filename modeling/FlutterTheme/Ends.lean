import FlutterTheme.Rely
import FlutterTheme.Actions

/-!
# What calls bring about

`Protocol` is about what calls never do. This file is about what they have done
once nothing is suspended any more.

* `Protocol.strengthen` — a protocol with a stronger invariant, rely and step
  property, all of which follow from the single steps; a call that is safe under
  the old protocol is safe under the new one; `Task.Safe.transfer` goes on to any protocol
  that the single steps keep.
* `Task.Ends` — the call, carried on to its end without a failing operation, has
  reached a `Goal`: a state of the world, or an action that was to be taken.
  `Async.Reaches` is the form for calls with a result.
* `Pending` — a goal has been reached, or a suspended call will reach it. It is
  kept by every event at which no such action is taken (`System.Run.taken_or_pending`),
  so that in a settled configuration the goal is reached (`Config.Settled.reached`).
-/

namespace EventLoop

variable {σ ℓ α β : Type}

/-! ## Stronger protocols -/

/-- What every single step of a protocol has besides: it keeps an invariant, changes
the world only as a further rely allows, and has a further property. -/
structure Strengthening (P : Protocol σ ℓ) where
  /-- the further rely -/
  rely : σ → σ → Prop
  /-- the further invariant -/
  inv : σ → Prop
  /-- the further property of steps -/
  step : ℓ → σ → σ → Prop
  rely_refl : ∀ w, rely w w
  rely_trans : ∀ {w w' w''}, rely w w' → rely w' w'' → rely w w''
  step_refl : ∀ l w, step l w w
  /-- all of it follows from the step property of the protocol -/
  of_step : ∀ {l w w'}, P.inv w → inv w → P.step l w w' → rely w w' ∧ inv w' ∧ step l w w'

/-- The protocol with everything that its steps have besides. -/
def Protocol.strengthen (P : Protocol σ ℓ) (S : Strengthening P) : Protocol σ ℓ where
  rely w w' := P.rely w w' ∧ S.rely w w'
  inv w := P.inv w ∧ S.inv w
  step l w w' := P.step l w w' ∧ S.step l w w'
  promise := P.promise
  rely_refl w := ⟨P.rely_refl w, S.rely_refl w⟩
  rely_trans h h' := ⟨P.rely_trans h.1 h'.1, S.rely_trans h.2 h'.2⟩
  step_refl l w := ⟨P.step_refl l w, S.step_refl l w⟩

variable {P : Protocol σ ℓ}

/-- A safe call is safe under the stronger protocol, whose invariant the weaker one carries on. By
induction on the task. -/
theorem Task.Safe.strengthen (S : Strengthening P) {t : Task σ ℓ} : ∀ {l : ℓ} {w : σ},
    P.inv w → S.inv w → t.Safe P l w → t.Safe (P.strengthen S) l w := by
  induction t with
  | done => exact fun _ _ _ => trivial
  | throw => exact fun _ _ _ => trivial
  | act f k ih =>
    intro l w hi hj hs t
    obtain ⟨hle, hinv, hstep, hk⟩ := hs t
    obtain ⟨hle', hinv', hstep'⟩ := S.of_step hi hj hstep
    exact ⟨⟨hle, hle'⟩, ⟨hinv, hinv'⟩, ⟨hstep, hstep'⟩, ih t w hinv hinv' hk⟩
  | fork p k ihp ihk =>
    intro l w hi hj hs
    exact ⟨ihp hi hj hs.1, fun w' hw hi' => ihk hi'.1 hi'.2 (hs.2 w' hw.1 hi'.1)⟩
  | enter l k ih => exact fun hi hj hs => ih hi hj hs
  | await k ih => exact fun _ _ hs w' hw hi' hp => ih hi'.1 hi'.2 (hs w' hw.1 hi'.1 hp)

/-- A safe call is safe under another protocol that promises it as much, if what its steps are
allowed to do there follows. -/
theorem Task.Safe.transfer {P' : Protocol σ ℓ} (hrely : ∀ {w w'}, P'.rely w w' → P.rely w w')
    (hinv : ∀ {w}, P'.inv w → P.inv w) (hpromise : ∀ {l w}, P'.promise l w → P.promise l w)
    (hstep : ∀ {l w w'}, P'.inv w → P.rely w w' → P.inv w' → P.step l w w' →
      P'.rely w w' ∧ P'.inv w' ∧ P'.step l w w') {t : Task σ ℓ} :
    ∀ {l : ℓ} {w : σ}, P'.inv w → t.Safe P l w → t.Safe P' l w := by
  induction t with
  | done => exact fun _ _ => trivial
  | throw => exact fun _ _ => trivial
  | act f k ih =>
    intro l w hi hs t
    obtain ⟨hle, hi', hst, hk⟩ := hs t
    obtain ⟨hle', hinv', hst'⟩ := hstep hi hle hi' hst
    exact ⟨hle', hinv', hst', ih t w hinv' hk⟩
  | fork p k ihp ihk =>
    exact fun hi hs => ⟨ihp hi hs.1, fun w' hw hi' => ihk hi' (hs.2 w' (hrely hw) (hinv hi'))⟩
  | enter l k ih => exact fun hi hs => ih hi hs
  | await k ih =>
    exact fun _ hs w' hw hi' hp => ih hi' (hs w' (hrely hw) (hinv hi') (hpromise hp))

/-! ## Goals -/

/-- Something to be reached, by calls that wait only in certain scopes. -/
structure Goal (P : Protocol σ ℓ) where
  /-- what is to be reached -/
  reached : σ → Prop
  /-- the actions with which it is reached as well -/
  taken : ℓ → σ → σ → Prop := fun _ _ _ => False
  /-- the scopes in which a call that is to reach it may be suspended -/
  scope : ℓ → Prop
  /-- it is never undone -/
  stable : ∀ {w w'}, P.rely w w' → reached w → reached w'

variable {g : Goal P}

/-- The goal is a state of the world. -/
def Goal.OfWorld (g : Goal P) : Prop := ∀ l w w', ¬ g.taken l w w'

/-- The call reaches the goal: carried on to its end, or to an error, without a failing
operation, it has brought it about. -/
def Task.Ends (g : Goal P) : Task σ ℓ → ℓ → σ → Prop
  | .done, _, w => g.reached w
  | .throw, _, w => g.reached w
  | .act f k, l, w => ∀ t, t.fails = false → g.taken l w (f t w) ∨ (k t w).Ends g l (f t w)
  | .fork p k, l, w => p.Ends g l w ∨ ∀ w', P.rely w w' → P.inv w' → k.Ends g l w'
  | .enter l k, _, w => k.Ends g l w
  | .await k, l, w => g.scope l ∧ ∀ w', P.rely w w' → P.inv w' → P.promise l w' → k.Ends g l w'

/-- The suspended call reaches the goal, whenever it is resumed after `w`. -/
def Thread.Ends (g : Goal P) (th : Thread σ ℓ) (w : σ) : Prop :=
  g.scope th.scope ∧
  ∀ w', P.rely w w' → P.inv w' → P.promise th.scope w' → th.task.Ends g th.scope w'

theorem Thread.Ends.mono {th : Thread σ ℓ} {w w' : σ} (h : th.Ends g w) (hw : P.rely w w') :
    th.Ends g w' :=
  ⟨h.1, fun w'' hw' hi hp => h.2 w'' (P.rely_trans hw hw') hi hp⟩

/-- What has been reached stays so, whatever a safe call does. -/
theorem Task.Safe.ends (hg : ∀ l, g.scope l) {t : Task σ ℓ} : ∀ {l : ℓ} {w : σ},
    t.Safe P l w → g.reached w → t.Ends g l w := by
  induction t with
  | done => exact fun _ hr => hr
  | throw => exact fun _ hr => hr
  | act f k ih =>
    intro l w hs hr t _
    obtain ⟨hle, -, -, hk⟩ := hs t
    exact Or.inr (ih t w hk (g.stable hle hr))
  | fork p k ihp ihk => exact fun hs hr => Or.inl (ihp hs.1 hr)
  | enter l k ih => exact fun hs hr => ih hs hr
  | await k ih =>
    exact fun hs hr => ⟨hg _, fun w' hw hi hp => ih (hs w' hw hi hp) (g.stable hw hr)⟩

/-- The goal is reached, or one of the suspended calls will reach it. -/
def Pending (g : Goal P) (w : σ) (ths : List (Thread σ ℓ)) : Prop :=
  g.reached w ∨ ∃ th ∈ ths, th.Ends g w

theorem Pending.mono {w w' : σ} {ths ths' : List (Thread σ ℓ)} (h : Pending g w ths)
    (hw : P.rely w w') (hths : ∀ th ∈ ths, th ∈ ths') : Pending g w' ths' := by
  rcases h with h | ⟨th, hth, h⟩
  · exact Or.inl (g.stable hw h)
  · exact Or.inr ⟨th, hths th hth, h.mono hw⟩

/-- An action with which the goal is reached is among these. -/
def Taken (g : Goal P) (steps : List (Step σ ℓ)) : Prop :=
  ∃ st ∈ steps, g.taken st.scope st.before st.after

theorem Taken.mono {steps steps' : List (Step σ ℓ)} (h : Taken g steps)
    (hsteps : ∀ st ∈ steps, st ∈ steps') : Taken g steps' := by
  obtain ⟨st, hst, h⟩ := h
  exact ⟨st, hsteps st hst, h⟩

/-- Running a call that reaches the goal up to its next `await`: either a step that reaches it has
been taken, or a thread that is left goes on to it. By induction on the task. -/
theorem Task.Ends.run {ticks : ℕ → Tick} (ht : ∀ n, (ticks n).fails = false) {t : Task σ ℓ} :
    ∀ {l : ℓ} {n : ℕ} {w : σ}, P.inv w → t.Safe P l w → t.Ends g l w →
      Taken g (t.run ticks l n w).steps ∨
        Pending g (t.run ticks l n w).world (t.run ticks l n w).threads := by
  induction t with
  | done => exact fun _ _ he => Or.inr (Or.inl he)
  | throw => exact fun _ _ he => Or.inr (Or.inl he)
  | act f k ih =>
    intro l n w _ hs he
    obtain ⟨-, hinv, -, hk⟩ := hs (ticks n)
    rcases he (ticks n) (ht n) with htaken | he
    · exact Or.inl ⟨_, List.mem_cons_self .., htaken⟩
    · exact (ih (ticks n) w (n := n + 1) hinv hk he).imp_left
        (·.mono fun st hst => List.mem_cons_of_mem _ hst)
  | fork p k ihp ihk =>
    intro l n w hi hs he
    have hp := hs.1.run ticks (n := n) hi
    have hks := hs.2 _ hp.le hp.inv
    have hk := hks.run ticks (n := (p.run ticks l n w).used) hp.inv
    rcases he with he | he
    · exact (ihp hi hs.1 he).imp (·.mono fun st hst => List.mem_append_left _ hst)
        (·.mono hk.le fun th hth => List.mem_append_left _ hth)
    · exact (ihk hp.inv hks (he _ hp.le hp.inv)).imp
        (·.mono fun st hst => List.mem_append_right _ hst)
        (·.mono (P.rely_refl _) fun th hth => List.mem_append_right _ hth)
  | enter l k ih => exact fun hi hs he => ih hi hs he
  | await k ih => exact fun _ _ he => Or.inr (Or.inr ⟨_, List.mem_singleton_self _, he⟩)

theorem Goal.OfWorld.not_taken (hg : g.OfWorld) {steps : List (Step σ ℓ)} : ¬ Taken g steps := by
  rintro ⟨st, -, h⟩
  exact hg _ _ _ h

/-! ## Runs -/

namespace System

variable {S : System σ ℓ α} {c : Config σ ℓ}

/-- No operation fails at the event if it resumes a call in one of the scopes. -/
def Succeeds (scope : ℓ → Prop) (c : Config σ ℓ) : Event α → Prop
  | .call _ _ => True
  | .resume i ticks => ∀ th, c.threads[i]? = some th → scope th.scope →
      ∀ n, (ticks n).fails = false

/-- A goal that is pending stays so, or is reached with an action: the calls that are to reach
it are carried on. -/
theorem taken_or_pending_apply (hc : c.Kept P) {e : Event α} (he : S.Provides P c e)
    (hsucc : Succeeds g.scope c e) (h : Pending g c.world c.threads) :
    Taken g (S.outcome c e).steps ∨ Pending g (S.apply c e).world (S.apply c e).threads := by
  have ho := outcome_kept hc he
  have hkeep : ∀ th ∈ c.kept e, th ∈ (S.apply c e).threads :=
    fun th hth => List.mem_append_left _ hth
  cases e with
  | call a ticks => exact Or.inr (h.mono ho.le hkeep)
  | resume i ticks =>
    rcases h with h | ⟨th, hth, h⟩
    · exact Or.inr (Or.inl (g.stable ho.le h))
    · obtain ⟨j, hj, rfl⟩ := List.getElem_of_mem hth
      by_cases hij : j = i
      · -- the call that is to reach the goal is the one resumed
        subst hij
        have hget := List.getElem?_eq_getElem hj
        have hs := hc.threads _ hth _ (P.rely_refl _) hc.inv (he _ hget)
        have hrun := Task.Ends.run (hsucc _ hget h.1) (n := 0) hc.inv hs
          (h.2 _ (P.rely_refl _) hc.inv (he _ hget))
        have hout : S.outcome c (.resume j ticks) =
            c.threads[j].task.run ticks c.threads[j].scope 0 c.world := by
          simp only [outcome, hget]
        rw [← hout] at hrun
        exact hrun.imp_right (·.mono (P.rely_refl _) fun th hth => List.mem_append_right _ hth)
      · refine Or.inr (Or.inr ⟨_, hkeep _ ?_, h.mono ho.le⟩)
        exact List.mem_eraseIdx_iff_getElem.mpr ⟨j, hj, hij, rfl⟩

/-- A state of the world that is pending stays so. -/
theorem pending_apply (hg : g.OfWorld) (hc : c.Kept P) {e : Event α} (he : S.Provides P c e)
    (hsucc : Succeeds g.scope c e) (h : Pending g c.world c.threads) :
    Pending g (S.apply c e).world (S.apply c e).threads :=
  (taken_or_pending_apply hc he hsucc h).resolve_left hg.not_taken

theorem succeeds_of_event {scope : ℓ → Prop} {e : Event α} (h : e.Succeeds) :
    Succeeds scope c e := by
  cases e with
  | call a ticks => trivial
  | resume i ticks => exact fun _ _ _ => h

variable {ok : Config σ ℓ → Event α → Prop} {c₀ : Config σ ℓ} {es : List (Event α)}

/-- A goal that is pending is reached with an action, or stays pending, in a run in which the
calls that are to reach it are carried on. -/
theorem Run.taken_or_pending (hc₀ : c₀.Kept P) (h₀ : Pending g c₀.world c₀.threads)
    (hok : ∀ c e, c.Kept P → ok c e → S.Provides P c e ∧ Succeeds g.scope c e)
    (h : S.Run ok c₀ es c) : Taken g (S.moves c₀ es) ∨ Pending g c.world c.threads := by
  suffices hkept : c.Kept P ∧ (Taken g (S.moves c₀ es) ∨ Pending g c.world c.threads) from hkept.2
  induction h with
  | nil => exact ⟨hc₀, Or.inr h₀⟩
  | @snoc es c h e he ih =>
    obtain ⟨hc, hpending⟩ := ih
    obtain ⟨hprov, hsucc⟩ := hok c e hc he
    refine ⟨apply_kept hc hprov, ?_⟩
    rw [moves_append, ← h.exec_eq, moves_cons]
    rcases hpending with htaken | hpending
    · exact Or.inl (htaken.mono fun st hst => List.mem_append_left _ hst)
    · refine (taken_or_pending_apply hc hprov hsucc hpending).imp_left (·.mono fun st hst => ?_)
      exact List.mem_append_right _ (List.mem_append_left _ hst)

/-- A state of the world that is pending stays so in such a run. -/
theorem Run.pending (hg : g.OfWorld) (hc₀ : c₀.Kept P) (h₀ : Pending g c₀.world c₀.threads)
    (hok : ∀ c e, c.Kept P → ok c e → S.Provides P c e ∧ Succeeds g.scope c e)
    (h : S.Run ok c₀ es c) : Pending g c.world c.threads :=
  (h.taken_or_pending hc₀ h₀ hok).resolve_left hg.not_taken

end System

/-- When nothing is suspended any more, every pending goal is reached. -/
theorem Config.Settled.reached {c : Config σ ℓ} (hc : c.Settled)
    (h : Pending g c.world c.threads) : g.reached c.world := by
  rcases h with h | ⟨th, hth, -⟩
  · exact h
  · rw [hc] at hth
    exact absurd hth List.not_mem_nil

namespace System

variable {S : System σ ℓ α} {c c' : Config σ ℓ} {ok : Config σ ℓ → Event α → Prop}
  {es : List (Event α)} {a : α} {ticks : ℕ → Tick}

/-- A call that reaches a goal, and is carried on in the run after it until nothing is suspended
any more, has reached it then, or has taken an action with which it is reached. -/
theorem Run.taken_or_reached (hc : c.Kept P) (hprov : S.Provides P c (.call a ticks))
    (ht : ∀ n, (ticks n).fails = false) (hends : (S.body a).task.Ends g (S.scope a c.world) c.world)
    (hok : ∀ c e, c.Kept P → ok c e → S.Provides P c e ∧ Succeeds g.scope c e)
    (h : S.Run ok (S.apply c (.call a ticks)) es c') (hset : c'.Settled) :
    Taken g (S.moves c (.call a ticks :: es)) ∨ g.reached c'.world := by
  rw [moves_cons]
  rcases Task.Ends.run ht (n := 0) hc.inv hprov hends with htaken | hpending
  · exact Or.inl (htaken.mono fun st hst => List.mem_append_left _ hst)
  · have hstart : Pending g (S.apply c (.call a ticks)).world (S.apply c (.call a ticks)).threads :=
      hpending.mono (P.rely_refl _) fun th hth => List.mem_append_right _ hth
    rcases h.taken_or_pending (apply_kept hc hprov) hstart hok with htaken | hpending
    · exact Or.inl (htaken.mono fun st hst => List.mem_append_right _ hst)
    · exact Or.inr (hset.reached hpending)

end System

/-! ## Calls with a result -/

namespace Async

/-- From world `w`, the call goes on until its result is handed on with `Q`, or
reaches the goal by itself. -/
def Reaches (g : Goal P) (m : Async σ ℓ α) (l : ℓ) (w : σ) (Q : ℓ → α → σ → Prop) : Prop :=
  ∀ k : α → Task σ ℓ, (∀ l' a w', Q l' a w' → (k a).Ends g l' w') → (m k).Ends g l w

variable {l : ℓ} {w : σ} {Q : ℓ → α → σ → Prop} {m : Async σ ℓ α}

theorem Reaches.ends {m : Async σ ℓ Unit} (h : Reaches g m l w fun _ _ w' => g.reached w') :
    m.task.Ends g l w :=
  h _ fun _ _ _ hq => hq

theorem Reaches.mono {Q' : ℓ → α → σ → Prop} (h : Reaches g m l w Q)
    (hQ : ∀ l' a w', Q l' a w' → Q' l' a w') : Reaches g m l w Q' :=
  fun k hk => h k fun l' a w' hq => hk l' a w' (hQ l' a w' hq)

theorem reaches_pure {a : α} (h : Q l a w) : Reaches g (pure a) l w Q := fun _ hk => hk l a w h

theorem reaches_bind {Q : ℓ → β → σ → Prop} {f : α → Async σ ℓ β}
    (h : Reaches g m l w fun l' a w' => Reaches g (f a) l' w' Q) : Reaches g (m >>= f) l w Q :=
  fun k hk => h _ fun _ _ _ hf => hf k hk

theorem reaches_sync {f : Tick → σ → α × σ} (h : ∀ t, Q l (f t w).1 (f t w).2) :
    Reaches g (sync f) l w Q :=
  fun _ hk t _ => Or.inr (hk _ _ _ (h t))

theorem reaches_enter {l' : ℓ} {Q : ℓ → Unit → σ → Prop} (h : Q l' () w) :
    Reaches g (enter l') l w Q :=
  fun _ hk => hk l' () w h

/-- The goal is reached with the action. -/
theorem reaches_sync_taken {f : Tick → σ → α × σ} (h : ∀ t, g.taken l w (f t w).2) :
    Reaches g (sync f) l w Q :=
  fun _ _ t _ => Or.inl (h t)

/-- The goal is reached with an operation that does not fail, or its answer arrives at a later
world. -/
theorem reaches_remote_or {f : Tick → σ → α × σ} (hl : g.scope l)
    (h : ∀ w', P.rely w w' → P.inv w' → ∀ t, g.taken l w' (f t w').2 ∨
      ∀ w'', P.rely (f t w').2 w'' → P.inv w'' → Q l (f t w').1 w'') :
    Reaches g (remote f) l w Q := by
  intro k hk
  refine ⟨hl, fun w' hw hi _ t ht => ?_⟩
  simp only [ht, Bool.false_eq_true, if_false]
  exact (h w' hw hi t).imp_right fun hq => ⟨hl, fun w'' hw' hi' _ => hk _ _ _ (hq w'' hw' hi')⟩

theorem reaches_remote {f : Tick → σ → α × σ} (hl : g.scope l)
    (h : ∀ w', P.rely w w' → P.inv w' → ∀ t, ∀ w'', P.rely (f t w').2 w'' → P.inv w'' →
      Q l (f t w').1 w'') : Reaches g (remote f) l w Q :=
  reaches_remote_or hl fun w' hw hi t => Or.inr (h w' hw hi t)

theorem reaches_remote_taken {f : Tick → σ → α × σ} (hl : g.scope l)
    (h : ∀ w', P.rely w w' → P.inv w' → ∀ t, g.taken l w' (f t w').2) :
    Reaches g (remote f) l w Q :=
  reaches_remote_or hl fun w' hw hi t => Or.inl (h w' hw hi t)

/-- The goal is reached with an operation whose failure the program catches. -/
theorem reaches_attempt_taken {f : Tick → σ → α × σ} {Q : ℓ → Option α → σ → Prop}
    (hl : g.scope l) (h : ∀ w', P.rely w w' → P.inv w' → ∀ t, g.taken l w' (f t w').2) :
    Reaches g (attempt f) l w Q := by
  intro k _
  refine ⟨hl, fun w' hw hi _ t ht => Or.inl ?_⟩
  simp only [ht, Bool.false_eq_true, if_false]
  exact h w' hw hi t

/-- The call that is started reaches the goal. -/
theorem reaches_spawn_ends {m : Async σ ℓ Unit} {Q : ℓ → Unit → σ → Prop} (h : m.task.Ends g l w) :
    Reaches g (spawn m) l w Q :=
  fun _ _ => Or.inl h

/-- One of the calls that are started for the elements of a list reaches the goal. -/
theorem reaches_forEach_ends {as : List α} {f : α → Async σ ℓ Unit} {a : α}
    {Q : ℓ → Unit → σ → Prop} (ha : a ∈ as) (hf : ∀ w', (f a).task.Ends g l w') :
    Reaches g (forEach as f) l w Q := by
  induction as generalizing w with
  | nil => exact absurd ha List.not_mem_nil
  | cons b bs ih =>
    rcases List.mem_cons.mp ha with rfl | ha
    · exact reaches_bind (reaches_spawn_ends (hf w))
    · exact fun k hk => Or.inr fun w' _ _ => ih ha k hk

/-- The call goes on without the one it has started. -/
theorem reaches_spawn {m : Async σ ℓ Unit} {Q : ℓ → Unit → σ → Prop}
    (h : ∀ w', P.rely w w' → P.inv w' → Q l () w') : Reaches g (spawn m) l w Q :=
  fun _ hk => Or.inr fun w' hw hi => hk _ _ _ (h w' hw hi)

end Async

end EventLoop
