import FlutterTheme.EventLoop

/-!
# Rely and guarantee over a growing world

A `Protocol` fixes what every call relies on and guarantees: how the world may
have changed when a suspended call is resumed (what the call has learnt stays
true), an invariant of the world, a property of every single action that depends
on what the acting call works on, and what the scheduler promises a call when it
resumes it.

* `Task.Safe` — the call keeps the protocol from here on, whatever the other
  calls do while it is suspended. It is a forcing-style clause: at an `await` it
  quantifies over all later worlds.
* `Async.Meets` — the same for a call with a result, in the form of a
  postcondition; one rule for each way calls are put together.
* `System.Run.safe` — if every handler is safe when it starts, then the
  invariant holds after every run and every suspended call is safe.
* `KeepsOn` — the same for a call that stays on some labels and hands on later
  worlds with the invariant.
-/

namespace EventLoop

variable {σ ℓ α β : Type}

/-- What calls rely on and guarantee. -/
structure Protocol (σ ℓ : Type) where
  /-- how the world may change between two points of a call -/
  rely : σ → σ → Prop
  /-- holds whenever a call is suspended or resumed -/
  inv : σ → Prop
  /-- holds of every single action of a call that works on the label -/
  step : ℓ → σ → σ → Prop
  /-- what the scheduler promises a call that is resumed -/
  promise : ℓ → σ → Prop := fun _ _ => True
  /-- the world may stay as it is -/
  rely_refl : ∀ w, rely w w
  /-- changes add up -/
  rely_trans : ∀ {w w' w''}, rely w w' → rely w' w'' → rely w w''
  /-- an action that changes nothing is always allowed -/
  step_refl : ∀ l w, step l w w

/-- The call keeps the protocol from world `w` on. -/
def Task.Safe (P : Protocol σ ℓ) : Task σ ℓ → ℓ → σ → Prop
  | .done, _, _ => True
  | .throw, _, _ => True
  | .act f k, l, w => ∀ t, P.rely w (f t w) ∧ P.inv (f t w) ∧ P.step l w (f t w) ∧
      (k t w).Safe P l (f t w)
  | .fork p k, l, w => p.Safe P l w ∧ ∀ w', P.rely w w' → P.inv w' → k.Safe P l w'
  | .enter l k, _, w => k.Safe P l w
  | .await k, l, w => ∀ w', P.rely w w' → P.inv w' → P.promise l w' → k.Safe P l w'

/-- The suspended call keeps the protocol whenever it is resumed after `w`. -/
def Thread.Safe (P : Protocol σ ℓ) (th : Thread σ ℓ) (w : σ) : Prop :=
  ∀ w', P.rely w w' → P.inv w' → P.promise th.scope w' → th.task.Safe P th.scope w'

variable {P : Protocol σ ℓ}

/-- Safety of a suspended call outlasts what the other calls do. -/
theorem Thread.Safe.mono {th : Thread σ ℓ} {w w' : σ} (h : th.Safe P w) (hw : P.rely w w') :
    th.Safe P w' :=
  fun w'' hw'' hi hp => h w'' (P.rely_trans hw hw'') hi hp

/-- What running a safe call up to its next `await` leaves: a later world with
the invariant, allowed steps, and suspended calls that are safe there. -/
structure Outcome.Kept (P : Protocol σ ℓ) (w : σ) (o : Outcome σ ℓ) : Prop where
  /-- the world has only evolved -/
  le : P.rely w o.world
  /-- the invariant holds -/
  inv : P.inv o.world
  /-- every action was allowed -/
  steps : ∀ st ∈ o.steps, P.step st.scope st.before st.after
  /-- the calls suspended on the way are safe -/
  threads : ∀ th ∈ o.threads, th.Safe P o.world

/-- The run rule of the protocol: a segment that starts with the invariant makes only permitted
steps, ends with the invariant, and leaves only threads that are safe under the promise of their
scope. By induction on the task. -/
theorem Task.Safe.run (ticks : ℕ → Tick) {t : Task σ ℓ} :
    ∀ {l : ℓ} {n : ℕ} {w : σ}, P.inv w → t.Safe P l w →
      (t.run ticks l n w).Kept P w := by
  induction t with
  | done => exact fun hi _ => ⟨P.rely_refl _, hi, by simp [Task.run], by simp [Task.run]⟩
  | throw => exact fun hi _ => ⟨P.rely_refl _, hi, by simp [Task.run], by simp [Task.run]⟩
  | act f k ih =>
    intro l n w _ hs
    obtain ⟨hle, hinv, hstep, hk⟩ := hs (ticks n)
    obtain ⟨hle', hinv', hsteps, hths⟩ := ih (ticks n) w (n := n + 1) hinv hk
    refine ⟨P.rely_trans hle hle', hinv', ?_, hths⟩
    intro st hst
    rcases List.mem_cons.mp hst with rfl | hst
    · exact hstep
    · exact hsteps st hst
  | fork p k ihp ihk =>
    intro l n w hi hs
    obtain ⟨hle, hinv, hsteps, hths⟩ := ihp (n := n) hi hs.1
    obtain ⟨hle', hinv', hsteps', hths'⟩ :=
      ihk (n := (p.run ticks l n w).used) hinv (hs.2 _ hle hinv)
    refine ⟨P.rely_trans hle hle', hinv', ?_, ?_⟩
    · intro st hst
      rcases List.mem_append.mp hst with hst | hst
      · exact hsteps st hst
      · exact hsteps' st hst
    · intro th hth
      rcases List.mem_append.mp hth with hth | hth
      · exact (hths th hth).mono hle'
      · exact hths' th hth
  | enter l k ih => exact fun hi hs => ih hi hs
  | await k ih =>
    intro l n w hi hs
    refine ⟨P.rely_refl _, hi, by simp [Task.run], ?_⟩
    intro th hth
    obtain rfl := List.mem_singleton.mp hth
    exact hs

/-! ## Runs -/

/-- The invariant holds and every suspended call is safe. -/
structure Config.Kept (P : Protocol σ ℓ) (c : Config σ ℓ) : Prop where
  /-- the invariant holds -/
  inv : P.inv c.world
  /-- every suspended call is safe -/
  threads : ∀ th ∈ c.threads, th.Safe P c.world

namespace System

variable {S : System σ ℓ α} {ok : Config σ ℓ → Event α → Prop} {c₀ c : Config σ ℓ}
  {es : List (Event α)}

/-- What a scheduler has to provide at an event: a handler is safe when it
starts, and a resumed call gets what it has been promised. -/
def Provides (S : System σ ℓ α) (P : Protocol σ ℓ) (c : Config σ ℓ) : Event α → Prop
  | .call a _ => (S.body a).task.Safe P (S.scope a c.world) c.world
  | .resume i _ => ∀ th, c.threads[i]? = some th → P.promise th.scope c.world

/-- The segment run by an event keeps the protocol. -/
theorem outcome_kept (hc : c.Kept P) {e : Event α} (he : S.Provides P c e) :
    (S.outcome c e).Kept P c.world := by
  cases e with
  | call a ticks => exact Task.Safe.run ticks hc.inv he
  | resume i ticks =>
    rcases hth : c.threads[i]? with _ | th
    · simp only [outcome, hth]
      exact ⟨P.rely_refl _, hc.inv, by simp, by simp⟩
    · simp only [outcome, hth]
      exact Task.Safe.run ticks hc.inv
        (hc.threads th (List.mem_of_getElem? hth) _ (P.rely_refl _) hc.inv (he th hth))

/-- One event keeps the protocol. -/
theorem apply_kept (hc : c.Kept P) {e : Event α} (he : S.Provides P c e) :
    (S.apply c e).Kept P := by
  have ho := outcome_kept hc he
  refine ⟨ho.inv, ?_⟩
  intro th hth
  rcases List.mem_append.mp hth with hth | hth
  · refine (hc.threads th ?_).mono ho.le
    cases e with
    | call a ticks => exact hth
    | resume i ticks => exact List.mem_of_mem_eraseIdx hth
  · exact ho.threads th hth

/-- **Safety of runs**: if the scheduler provides at every event what the
protocol needs, the protocol is kept all along. -/
theorem Run.safe (h₀ : c₀.Kept P)
    (hok : ∀ c e, c.Kept P → ok c e → S.Provides P c e) (h : S.Run ok c₀ es c) : c.Kept P :=
  h.induct h₀ fun _ _ hc he => apply_kept hc (hok _ _ hc he)

/-- What the world is like later in such a run. -/
theorem Run.later (h₀ : c₀.Kept P)
    (hok : ∀ c e, c.Kept P → ok c e → S.Provides P c e) (h : S.Run ok c₀ es c) :
    P.rely c₀.world c.world := by
  refine (h.induct (I := fun c => c.Kept P ∧ P.rely c₀.world c.world) ⟨h₀, P.rely_refl _⟩ ?_).2
  rintro c e ⟨hc, hle⟩ he
  have hprov := hok c e hc he
  exact ⟨apply_kept hc hprov, P.rely_trans hle (outcome_kept hc hprov).le⟩

end System

/-! ## Calls with a result -/

namespace Async

/-- From world `w`, the call keeps the protocol and hands on only results,
labels and worlds that satisfy `Q`. -/
def Meets (P : Protocol σ ℓ) (m : Async σ ℓ α) (l : ℓ) (w : σ) (Q : ℓ → α → σ → Prop) : Prop :=
  ∀ k : α → Task σ ℓ, (∀ l' a w', Q l' a w' → (k a).Safe P l' w') → (m k).Safe P l w

variable {l : ℓ} {w : σ} {Q Q' : ℓ → α → σ → Prop} {m : Async σ ℓ α}

/-- A call that meets any postcondition is safe. -/
theorem Meets.safe {m : Async σ ℓ Unit} {Q : ℓ → Unit → σ → Prop} (h : Meets P m l w Q) :
    m.task.Safe P l w :=
  h _ fun _ _ _ _ => trivial

/-- Weakening the postcondition. -/
theorem Meets.mono (h : Meets P m l w Q) (hQ : ∀ l' a w', Q l' a w' → Q' l' a w') :
    Meets P m l w Q' :=
  fun k hk => h k fun l' a w' hq => hk l' a w' (hQ l' a w' hq)

theorem meets_pure {a : α} (h : Q l a w) : Meets P (pure a) l w Q :=
  fun _ hk => hk l a w h

theorem meets_bind {Q : ℓ → β → σ → Prop} {f : α → Async σ ℓ β}
    (h : Meets P m l w fun l' a w' => Meets P (f a) l' w' Q) : Meets P (m >>= f) l w Q :=
  fun k hk => h _ fun _ _ _ hf => hf k hk

theorem meets_throw : Meets P (throw : Async σ ℓ α) l w Q := fun _ _ => trivial

theorem meets_enter {l' : ℓ} {Q : ℓ → Unit → σ → Prop} (h : Q l' () w) :
    Meets P (enter l') l w Q :=
  fun _ hk => hk l' () w h

theorem meets_sync {f : Tick → σ → α × σ}
    (h : ∀ t, P.rely w (f t w).2 ∧ P.inv (f t w).2 ∧ P.step l w (f t w).2 ∧
      Q l (f t w).1 (f t w).2) :
    Meets P (sync f) l w Q := by
  intro k hk t
  obtain ⟨hle, hinv, hstep, hq⟩ := h t
  exact ⟨hle, hinv, hstep, hk _ _ _ hq⟩

theorem meets_get {g : σ → α} (hi : P.inv w) (h : Q l (g w) w) : Meets P (get g) l w Q :=
  meets_sync fun _ => ⟨P.rely_refl _, hi, P.step_refl _ _, h⟩

theorem meets_modify {f : σ → σ} {Q : ℓ → Unit → σ → Prop} (hle : P.rely w (f w))
    (hi : P.inv (f w)) (hs : P.step l w (f w)) (h : Q l () (f w)) : Meets P (modify f) l w Q :=
  meets_sync fun _ => ⟨hle, hi, hs, h⟩

theorem meets_pause {Q : ℓ → Unit → σ → Prop}
    (h : ∀ w', P.rely w w' → P.inv w' → P.promise l w' → Q l () w') : Meets P pause l w Q :=
  fun _ hk w' hw hi hp => hk _ _ _ (h w' hw hi hp)

/-- A remote operation takes effect at some later world, and its answer arrives
at a still later one. -/
theorem meets_remote {f : Tick → σ → α × σ}
    (h : ∀ w', P.rely w w' → P.inv w' → P.promise l w' → ∀ t, t.fails = false →
      P.rely w' (f t w').2 ∧ P.inv (f t w').2 ∧ P.step l w' (f t w').2 ∧
      ∀ w'', P.rely (f t w').2 w'' → P.inv w'' → P.promise l w'' → Q l (f t w').1 w'') :
    Meets P (remote f) l w Q := by
  intro k hk w' hw hi hp t
  by_cases ht : t.fails = true
  · simp only [if_pos ht]
    exact ⟨P.rely_refl w', hi, P.step_refl l w', trivial⟩
  · obtain ⟨hle, hinv, hstep, hq⟩ := h w' hw hi hp t (Bool.eq_false_iff.mpr ht)
    simp only [if_neg ht]
    exact ⟨hle, hinv, hstep, fun w'' hw' hi' hp' => hk _ _ _ (hq w'' hw' hi' hp')⟩

/-- A request whose failure the code catches: it goes on with the value where the request succeeds,
and with `none`, in a world that only others have changed, where it fails. -/
theorem meets_attempt {f : Tick → σ → α × σ} {Q : ℓ → Option α → σ → Prop}
    (h : ∀ w', P.rely w w' → P.inv w' → P.promise l w' → ∀ t, t.fails = false →
      P.rely w' (f t w').2 ∧ P.inv (f t w').2 ∧ P.step l w' (f t w').2 ∧
      ∀ w'', P.rely (f t w').2 w'' → P.inv w'' → P.promise l w'' → Q l (some (f t w').1) w'')
    (hfail : ∀ w', P.rely w w' → P.inv w' → P.promise l w' → Q l none w') :
    Meets P (attempt f) l w Q := by
  intro k hk w' hw hi hp t
  by_cases ht : t.fails = true
  · simp only [if_pos ht]
    exact ⟨P.rely_refl w', hi, P.step_refl l w', fun w'' hw' hi' hp' =>
      hk _ _ _ (hfail w'' (P.rely_trans hw hw') hi' hp')⟩
  · obtain ⟨hle, hinv, hstep, hq⟩ := h w' hw hi hp t (Bool.eq_false_iff.mpr ht)
    simp only [if_neg ht]
    exact ⟨hle, hinv, hstep, fun w'' hw' hi' hp' => hk _ _ _ (hq w'' hw' hi' hp')⟩

/-- The caller of an unawaited call goes on at whatever world the first segment
of that call leaves. -/
theorem meets_spawn {m : Async σ ℓ Unit} {Q : ℓ → Unit → σ → Prop} (hm : m.task.Safe P l w)
    (h : ∀ w', P.rely w w' → P.inv w' → Q l () w') : Meets P (spawn m) l w Q :=
  fun _ hk => ⟨hm, fun w' hw hi => hk _ _ _ (h w' hw hi)⟩

/-- Unawaited calls for all elements of a list, when what each needs outlasts
the others. -/
theorem meets_forEach {as : List α} {f : α → Async σ ℓ Unit} {Q : ℓ → Unit → σ → Prop}
    (hi : P.inv w)
    (hf : ∀ a ∈ as, ∀ w', P.rely w w' → P.inv w' → (f a).task.Safe P l w')
    (h : ∀ w', P.rely w w' → P.inv w' → Q l () w') : Meets P (forEach as f) l w Q := by
  induction as generalizing w with
  | nil => exact meets_pure (h w (P.rely_refl w) hi)
  | cons a as ih =>
    refine meets_bind (meets_spawn (hf a (List.mem_cons_self ..) w (P.rely_refl w) hi) ?_)
    intro w' hw hi'
    refine ih hi' ?_ fun w'' hw' hi'' => h w'' (P.rely_trans hw hw') hi''
    exact fun b hb w'' hw' hi'' => hf b (List.mem_cons_of_mem _ hb) w'' (P.rely_trans hw hw') hi''

end Async

/-! ## Calls that stay on their labels -/

/-- What a call on one of the labels may do at once. -/
structure Protocol.Permits (P : Protocol σ ℓ) (L : ℓ → Prop) (w w' : σ) : Prop where
  le : P.rely w w'
  inv : P.inv w'
  step : ∀ l, L l → P.step l w w'

theorem Protocol.Permits.refl {L : ℓ → Prop} {w : σ} (hi : P.inv w) : P.Permits L w w :=
  ⟨P.rely_refl w, hi, fun l _ => P.step_refl l w⟩

/-- On each of the labels, the call keeps the protocol from the world `w` on. It hands on only later
worlds with the invariant, on one of the labels, and results that satisfy `Q`. -/
def KeepsOn (P : Protocol σ ℓ) (L : ℓ → Prop) (m : Async σ ℓ α) (w : σ) (Q : α → σ → Prop) : Prop :=
  ∀ l, L l → m.Meets P l w fun l' a w' => L l' ∧ P.rely w w' ∧ P.inv w' ∧ Q a w'

section KeepsOn

variable {L : ℓ → Prop} {w : σ} {m : Async σ ℓ α} {Q Q' : α → σ → Prop}

theorem KeepsOn.task_safe {m : Async σ ℓ Unit} {Q : Unit → σ → Prop} {l : ℓ}
    (h : KeepsOn P L m w Q) (hl : L l) : m.task.Safe P l w :=
  (h l hl).safe

theorem KeepsOn.mono (h : KeepsOn P L m w Q)
    (hQ : ∀ a w', P.rely w w' → P.inv w' → Q a w' → Q' a w') : KeepsOn P L m w Q' := by
  intro l hl
  refine (h l hl).mono ?_
  rintro l' a w' ⟨hl', hw, hi, hq⟩
  exact ⟨hl', hw, hi, hQ a w' hw hi hq⟩

/-- A call whose result does not matter. -/
theorem KeepsOn.runs {m : Async σ ℓ Unit} {Q : Unit → σ → Prop} (h : KeepsOn P L m w Q) :
    KeepsOn P L m w fun _ _ => True :=
  h.mono fun _ _ _ _ _ => trivial

theorem keeps_pure {a : α} (hi : P.inv w) (h : Q a w) : KeepsOn P L (pure a : Async σ ℓ α) w Q :=
  fun _ hl => Async.meets_pure ⟨hl, P.rely_refl w, hi, h⟩

/-- The next call starts in a later world. -/
theorem keeps_bind {f : α → Async σ ℓ β} {R : β → σ → Prop} (h : KeepsOn P L m w Q)
    (hf : ∀ a w', P.rely w w' → P.inv w' → Q a w' → KeepsOn P L (f a) w' R) :
    KeepsOn P L (m >>= f) w R := by
  intro l hl
  refine Async.meets_bind ((h l hl).mono ?_)
  rintro l' a w' ⟨hl', hw, hi, hq⟩
  refine (hf a w' hw hi hq l' hl').mono ?_
  rintro l'' b w'' ⟨hl'', hw', hi', hr⟩
  exact ⟨hl'', P.rely_trans hw hw', hi', hr⟩

/-- Two calls one after the other. -/
theorem keeps_seq {m : Async σ ℓ Unit} {m' : Async σ ℓ β} {R : β → σ → Prop}
    (h : KeepsOn P L m w fun _ _ => True)
    (h' : ∀ w', P.rely w w' → P.inv w' → KeepsOn P L m' w' R) :
    KeepsOn P L (m >>= fun _ => m') w R :=
  keeps_bind h fun _ w' hw hi _ => h' w' hw hi

theorem keeps_throw : KeepsOn P L (Async.throw : Async σ ℓ α) w Q := fun _ _ => Async.meets_throw

theorem keepsOn_sync {f : Tick → σ → α × σ}
    (h : ∀ t, P.Permits L w (f t w).2 ∧ Q (f t w).1 (f t w).2) :
    KeepsOn P L (Async.sync f : Async σ ℓ α) w Q := by
  intro l hl
  refine Async.meets_sync fun t => ?_
  obtain ⟨⟨hle, hi, hs⟩, hq⟩ := h t
  exact ⟨hle, hi, hs l hl, hl, hle, hi, hq⟩

theorem keeps_get {g : σ → α} (hi : P.inv w) (h : Q (g w) w) :
    KeepsOn P L (Async.get g : Async σ ℓ α) w Q :=
  keepsOn_sync fun _ => ⟨.refl hi, h⟩

theorem runs_pause : KeepsOn P L (Async.pause : Async σ ℓ Unit) w fun _ _ => True :=
  fun _ hl => Async.meets_pause fun _ hw hi _ => ⟨hl, hw, hi, trivial⟩

/-- What an operation answers is told of the world in which it takes effect. -/
theorem keepsOn_remote {f : Tick → σ → α × σ}
    (h : ∀ w', P.rely w w' → P.inv w' → ∀ t, P.Permits L w' (f t w').2 ∧
      ∀ w'', P.rely (f t w').2 w'' → P.inv w'' → Q (f t w').1 w'') :
    KeepsOn P L (Async.remote f : Async σ ℓ α) w Q := by
  intro l hl
  refine Async.meets_remote fun w' hw hi _ t _ => ?_
  obtain ⟨⟨hle, hi', hs⟩, hq⟩ := h w' hw hi t
  refine ⟨hle, hi', hs l hl, fun w'' hw'' hi'' _ => ?_⟩
  exact ⟨hl, P.rely_trans hw (P.rely_trans hle hw''), hi'', hq w'' hw'' hi''⟩

/-- A request whose failure the code catches keeps what its success keeps, if the code can go on
with `none` as well. -/
theorem keepsOn_attempt {f : Tick → σ → α × σ} {Q : Option α → σ → Prop}
    (h : ∀ w', P.rely w w' → P.inv w' → ∀ t, P.Permits L w' (f t w').2 ∧
      ∀ w'', P.rely (f t w').2 w'' → P.inv w'' → Q (some (f t w').1) w'')
    (hfail : ∀ w', P.rely w w' → P.inv w' → Q none w') :
    KeepsOn P L (Async.attempt f : Async σ ℓ (Option α)) w Q := by
  intro l hl
  refine Async.meets_attempt (fun w' hw hi _ t _ => ?_) fun w' hw hi _ =>
    ⟨hl, hw, hi, hfail w' hw hi⟩
  obtain ⟨⟨hle, hi', hs⟩, hq⟩ := h w' hw hi t
  refine ⟨hle, hi', hs l hl, fun w'' hw'' hi'' _ => ?_⟩
  exact ⟨hl, P.rely_trans hw (P.rely_trans hle hw''), hi'', hq w'' hw'' hi''⟩

theorem runs_spawn {m : Async σ ℓ Unit} (hm : KeepsOn P L m w fun _ _ => True) :
    KeepsOn P L (Async.spawn m) w fun _ _ => True :=
  fun _ hl => Async.meets_spawn (hm.task_safe hl) fun _ hw hi => ⟨hl, hw, hi, trivial⟩

theorem runs_forEach {as : List α} {f : α → Async σ ℓ Unit} (hi : P.inv w)
    (hf : ∀ a ∈ as, ∀ w', P.rely w w' → P.inv w' → KeepsOn P L (f a) w' fun _ _ => True) :
    KeepsOn P L (Async.forEach as f) w fun _ _ => True :=
  fun _ hl => Async.meets_forEach hi (fun a ha w' hw hi' => (hf a ha w' hw hi').task_safe hl)
    fun _ hw hi' => ⟨hl, hw, hi', trivial⟩

end KeepsOn

end EventLoop
