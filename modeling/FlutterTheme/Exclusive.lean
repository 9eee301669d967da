import FlutterTheme.Evolving

/-!
# Calls that come one after the other

Some calls have a part of the world to themselves: they come one after the other, and the
other calls leave that part alone. Such a call can be reasoned about as if it ran by
itself.

* `Exclusive` — a protocol whose `step` says what the other calls do; it adds up.
* `Task.Alone X Post t w` — the call `t`, carried on from `w` without a failing operation
  while the others do no more than `step`, ends in a world that satisfies `Post`.
  `Async.Solo` is the form for calls with a result.
* `System.Run.guarded` — where the calls on `u` come one after the other, what each of
  them re-establishes holds whenever none of them is suspended.
-/

namespace EventLoop

variable {σ ℓ α β : Type}

/-- A protocol whose `step` says what the other calls do. -/
structure Exclusive (σ : Type) extends Evolving σ where
  /-- what they do adds up -/
  step_trans : ∀ {w w' w''}, step w w' → step w' w'' → step w w''

/-! ## A call by itself -/

/-- The call, carried on to its end while the others do no more than `step`, leads to
`Post`. A call that is started without being awaited takes its place. -/
def Task.Alone (X : Exclusive σ) (Post : σ → Prop) : Task σ ℓ → σ → Prop
  | .done, w => Post w
  | .throw, w => Post w
  | .act f k, w => ∀ t, t.fails = false →
      X.le w (f t w) ∧ X.inv (f t w) ∧ (k t w).Alone X Post (f t w)
  | .fork p k, w => p.Alone X Post w ∧ k = .done
  | .enter _ _, _ => False
  | .await k, w => ∀ w', X.le w w' → X.inv w' → X.step w w' → k.Alone X Post w'

variable {X : Exclusive σ} {Post : σ → Prop}

/-- What running such a call up to its next `await` leaves: the call is at its end, or is
suspended. -/
inductive Outcome.Alone (X : Exclusive σ) (Post : σ → Prop) (l : ℓ) (o : Outcome σ ℓ) : Prop where
  | ended (threads : o.threads = []) (post : Post o.world)
  | waits {k : Task σ ℓ} (threads : o.threads = [⟨l, k⟩])
      (alone : ∀ w', X.le o.world w' → X.inv w' → X.step o.world w' → k.Alone X Post w')

/-- The run rule of a call by itself: a segment in which no operation fails ends with the call's
result, or leaves just the rest of this call as a thread. By induction on the task. -/
theorem Task.Alone.run {ticks : ℕ → Tick} (ht : ∀ n, (ticks n).fails = false) {t : Task σ ℓ} :
    ∀ {l : ℓ} {n : ℕ} {w : σ}, X.inv w → t.Alone X Post w →
      X.le w (t.run ticks l n w).world ∧ X.inv (t.run ticks l n w).world ∧
        (t.run ticks l n w).Alone X Post l := by
  induction t with
  | done => exact fun hi h => ⟨X.le_refl _, hi, .ended rfl h⟩
  | throw => exact fun hi h => ⟨X.le_refl _, hi, .ended rfl h⟩
  | act f k ih =>
    intro l n w _ h
    obtain ⟨hle, hi, hk⟩ := h (ticks n) (ht n)
    obtain ⟨hle', hi', ho⟩ := ih (ticks n) w (l := l) (n := n + 1) hi hk
    refine ⟨X.le_trans hle hle', hi', ?_⟩
    cases ho with
    | ended hths hpost => exact .ended hths hpost
    | waits hths hk => exact .waits hths hk
  | fork p k ihp ihk =>
    rintro l n w hi ⟨h, rfl⟩
    obtain ⟨hle, hi', ho⟩ := ihp (l := l) (n := n) hi h
    refine ⟨hle, hi', ?_⟩
    cases ho with
    | ended hths hpost => exact .ended (by simp [Task.run, hths]) hpost
    | waits hths hk => exact .waits (by simp [Task.run, hths]) hk
  | enter l k => exact fun _ h => h.elim
  | await k => exact fun hi h => ⟨X.le_refl _, hi, .waits rfl h⟩

/-! ## Calls with a result -/

namespace Async

/-- The call goes on by itself until its result is handed on with `Q`. -/
def Solo (X : Exclusive σ) (Post : σ → Prop) (m : Async σ ℓ α) (w : σ) (Q : α → σ → Prop) : Prop :=
  ∀ k : α → Task σ ℓ, (∀ a w', X.le w w' → X.inv w' → Q a w' → (k a).Alone X Post w') →
    (m k).Alone X Post w

variable {w : σ} {Q : α → σ → Prop} {m : Async σ ℓ α}

theorem Solo.task {m : Async σ ℓ Unit} (h : Solo X Post m w fun _ => Post) :
    m.task.Alone X Post w :=
  h _ fun _ _ _ _ hpost => hpost

/-- A call that goes on with the last one, which may be one nobody awaits. -/
theorem Solo.andThen {f : α → Async σ ℓ Unit} (h : Solo X Post m w Q)
    (hf : ∀ a w', X.le w w' → X.inv w' → Q a w' → (f a).task.Alone X Post w') :
    (m >>= f).task.Alone X Post w :=
  h _ hf

theorem solo_pure {a : α} (hi : X.inv w) (h : Q a w) : Solo X Post (pure a : Async σ ℓ α) w Q :=
  fun _ hk => hk a w (X.le_refl w) hi h

theorem solo_bind {f : α → Async σ ℓ β} {R : β → σ → Prop} (h : Solo X Post m w Q)
    (hf : ∀ a w', X.le w w' → X.inv w' → Q a w' → Solo X Post (f a) w' R) :
    Solo X Post (m >>= f) w R := by
  intro k hk
  refine h _ fun a w' hw hi hq => hf a w' hw hi hq k ?_
  exact fun b w'' hw' hi' hr => hk b w'' (X.le_trans hw hw') hi' hr

/-- An error nobody catches ends the call. -/
theorem solo_throw (h : Post w) : Solo X Post (throw : Async σ ℓ α) w Q := fun _ _ => h

theorem solo_sync {f : Tick → σ → α × σ}
    (h : ∀ t, X.le w (f t w).2 ∧ X.inv (f t w).2 ∧ Q (f t w).1 (f t w).2) :
    Solo X Post (sync f : Async σ ℓ α) w Q := by
  intro k hk t _
  obtain ⟨hle, hi, hq⟩ := h t
  exact ⟨hle, hi, hk _ _ hle hi hq⟩

theorem solo_get {g : σ → α} (hi : X.inv w) (h : Q (g w) w) :
    Solo X Post (get g : Async σ ℓ α) w Q :=
  solo_sync fun _ => ⟨X.le_refl w, hi, h⟩

theorem solo_modify {f : σ → σ} {Q : Unit → σ → Prop} (hle : X.le w (f w)) (hi : X.inv (f w))
    (h : Q () (f w)) : Solo X Post (modify f : Async σ ℓ Unit) w Q :=
  solo_sync fun _ => ⟨hle, hi, h⟩

theorem solo_pause {Q : Unit → σ → Prop}
    (h : ∀ w', X.le w w' → X.inv w' → X.step w w' → Q () w') :
    Solo X Post (pause : Async σ ℓ Unit) w Q :=
  fun _ hk w' hw hi hs => hk _ _ hw hi (h w' hw hi hs)

/-- While an operation is on its way, and its answer, the other calls go on. -/
theorem solo_remote {f : Tick → σ → α × σ}
    (h : ∀ w', X.le w w' → X.inv w' → X.step w w' → ∀ t,
      X.le w' (f t w').2 ∧ X.inv (f t w').2 ∧
        ∀ w'', X.le (f t w').2 w'' → X.inv w'' → X.step (f t w').2 w'' → Q (f t w').1 w'') :
    Solo X Post (remote f : Async σ ℓ α) w Q := by
  intro k hk w' hw hi hs t ht
  obtain ⟨hle, hi', hq⟩ := h w' hw hi hs t
  simp only [ht, Bool.false_eq_true, if_false]
  refine ⟨hle, hi', fun w'' hw'' hi'' hs'' => ?_⟩
  exact hk _ _ (X.le_trans hw (X.le_trans hle hw'')) hi'' (hq w'' hw'' hi'' hs'')

end Async

/-- The last thing a call does is to start another. -/
theorem alone_spawn {m : Async σ ℓ Unit} {w : σ} (h : m.task.Alone X Post w) :
    (Async.spawn m).task.Alone X Post w :=
  ⟨h, rfl⟩

/-! ## Runs -/

/-- No call on `u` is under way and `J` holds, or one is, and is going to re-establish it.
The other calls keep to what they may do. -/
inductive Guarded (X : Exclusive σ) (u : ℓ) (J : σ → Prop) (w : σ) (ths : List (Thread σ ℓ)) :
    Prop where
  | idle (others : ∀ th ∈ ths, th.Safe (X.protocol ℓ) w) (post : J w)
  | busy {before after : List (Thread σ ℓ)} {k : Task σ ℓ} (threads : ths = before ++ ⟨u, k⟩ :: after)
      (others : ∀ th ∈ before ++ after, th.Safe (X.protocol ℓ) w)
      (alone : ∀ w', X.le w w' → X.inv w' → X.step w w' → k.Alone X J w')

variable {u : ℓ} {J : σ → Prop}

/-- When no call on `u` is under way, what they re-establish holds. -/
theorem Guarded.post {w : σ} {ths : List (Thread σ ℓ)} (h : Guarded X u J w ths)
    (hnone : ∀ th ∈ ths, th.scope ≠ u) : J w := by
  cases h with
  | idle _ hpost => exact hpost
  | @busy before after k hths _ _ =>
    refine absurd rfl (hnone ⟨u, k⟩ ?_)
    rw [hths]
    simp

/-- A segment of another call leaves alone what the calls on `u` work on. -/
theorem Guarded.other {w : σ} {kept : List (Thread σ ℓ)} (h : Guarded X u J w kept)
    (hstable : ∀ {w w'}, X.le w w' → X.step w w' → J w → J w') {o : Outcome σ ℓ}
    (ho : o.Kept (X.protocol ℓ) w) (hstep : X.step w o.world) :
    Guarded X u J o.world (kept ++ o.threads) := by
  cases h with
  | idle hothers hpost =>
    refine .idle (fun th hth => ?_) (hstable ho.le hstep hpost)
    rcases List.mem_append.mp hth with hth | hth
    · exact (hothers th hth).mono ho.le
    · exact ho.threads th hth
  | @busy before after k hths hothers halone =>
    subst hths
    have hths : before ++ ⟨u, k⟩ :: after ++ o.threads = before ++ ⟨u, k⟩ :: (after ++ o.threads) := by
      simp
    refine .busy hths (fun th hth => ?_) fun w' hw hi' hs => ?_
    · rw [← List.append_assoc] at hth
      rcases List.mem_append.mp hth with hth | hth
      · exact (hothers th hth).mono ho.le
      · exact ho.threads th hth
    · exact halone w' (X.le_trans ho.le hw) hi' (X.step_trans hstep hs)

/-- A segment of the call on `u`. -/
theorem Outcome.Alone.guarded {w : σ} {o : Outcome σ ℓ} {others : List (Thread σ ℓ)}
    (ho : o.Alone X J u) (hle : X.le w o.world)
    (hothers : ∀ th ∈ others, th.Safe (X.protocol ℓ) w) :
    Guarded X u J o.world (others ++ o.threads) := by
  have hsafe : ∀ th ∈ others, th.Safe (X.protocol ℓ) o.world :=
    fun th hth => (hothers th hth).mono hle
  cases ho with
  | ended hths hpost =>
    rw [hths, List.append_nil]
    exact .idle hsafe hpost
  | waits hths halone =>
    rw [hths]
    exact .busy rfl (by simpa using hsafe) halone

namespace System

variable (S : System σ ℓ α)

/-- The calls on `u` come one after the other, and none of their operations fails. -/
def Exclusively (u : ℓ) (c : Config σ ℓ) : Event α → Prop
  | .call a ticks => S.scope a c.world = u →
      (∀ th ∈ c.threads, th.scope ≠ u) ∧ ∀ n, (ticks n).fails = false
  | .resume i ticks => ∀ th, c.threads[i]? = some th → th.scope = u → ∀ n, (ticks n).fails = false

variable {S} {c c₀ : Config σ ℓ} {es : List (Event α)}

/-- A segment of a call that is safe does what the other calls do. -/
theorem safe_segment {t : Task σ ℓ} {l : ℓ} {w : σ} (ticks : ℕ → Tick) (hi : X.inv w)
    (h : t.Safe (X.protocol ℓ) l w) :
    (t.run ticks l 0 w).Kept (X.protocol ℓ) w ∧ X.step w (t.run ticks l 0 w).world := by
  have ho := h.run ticks (n := 0) hi
  exact ⟨ho, Task.run_steps X.step_refl X.step_trans ho.steps⟩

/-- A suspended call is resumed. If it is the guarded one it goes on by itself; any other one leaves
the condition as it is, which is stable under the steps of the others. -/
theorem resume_guarded (hstable : ∀ {w w'}, X.le w w' → X.step w w' → J w → J w')
    (hi : X.inv c.world) (h : Guarded X u J c.world c.threads) {i : ℕ} {ticks : ℕ → Tick}
    {th : Thread σ ℓ} (hth : c.threads[i]? = some th)
    (hsucc : th.scope = u → ∀ n, (ticks n).fails = false) :
    X.inv (th.task.run ticks th.scope 0 c.world).world ∧
      Guarded X u J (th.task.run ticks th.scope 0 c.world).world
        (c.threads.eraseIdx i ++ (th.task.run ticks th.scope 0 c.world).threads) := by
  -- another call is resumed, and the rest is guarded
  have hother : th.Safe (X.protocol ℓ) c.world → Guarded X u J c.world (c.threads.eraseIdx i) →
      X.inv (th.task.run ticks th.scope 0 c.world).world ∧
        Guarded X u J (th.task.run ticks th.scope 0 c.world).world
          (c.threads.eraseIdx i ++ (th.task.run ticks th.scope 0 c.world).threads) := by
    intro hsafe hrest
    obtain ⟨ho, hstep⟩ := safe_segment ticks hi (hsafe _ (X.le_refl _) hi trivial)
    exact ⟨ho.inv, hrest.other hstable ho hstep⟩
  cases h with
  | idle hothers hpost =>
    refine hother (hothers th (List.mem_of_getElem? hth)) (.idle ?_ hpost)
    exact fun th' hth' => hothers th' (List.mem_of_mem_eraseIdx hth')
  | @busy before after k hths hothers halone =>
    rw [hths] at hth hother ⊢
    rcases Nat.lt_trichotomy i before.length with hlt | rfl | hgt
    · rw [List.getElem?_append_left hlt] at hth
      have hmem := List.mem_of_getElem? hth
      refine hother (hothers th (List.mem_append_left _ hmem)) ?_
      rw [List.eraseIdx_append_of_lt_length hlt]
      refine .busy rfl (fun th' hth' => hothers th' ?_) halone
      exact (List.mem_append.mp hth').elim
        (fun h => List.mem_append_left _ (List.mem_of_mem_eraseIdx h))
        fun h => List.mem_append_right _ h
    · -- the call on `u` is the one resumed
      obtain rfl : (⟨u, k⟩ : Thread σ ℓ) = th := by simpa using hth
      obtain ⟨hle, hi', ho⟩ := Task.Alone.run (hsucc rfl) (l := u) (n := 0) hi
        (halone _ (X.le_refl _) hi (X.step_refl _))
      rw [List.eraseIdx_append_of_length_le (Nat.le_refl _)]
      simp only [Nat.sub_self, List.eraseIdx_cons_zero]
      exact ⟨hi', ho.guarded hle hothers⟩
    · obtain ⟨j, rfl⟩ := Nat.exists_eq_add_of_lt hgt
      rw [List.getElem?_append_right (by omega)] at hth
      have hj : before.length + j + 1 - before.length = j + 1 := by omega
      rw [hj, List.getElem?_cons_succ] at hth
      have hmem := List.mem_of_getElem? hth
      refine hother (hothers th (List.mem_append_right _ hmem)) ?_
      rw [List.eraseIdx_append_of_length_le (by omega), hj, List.eraseIdx_cons_succ]
      refine .busy rfl (fun th' hth' => hothers th' ?_) halone
      exact (List.mem_append.mp hth').elim (fun h => List.mem_append_left _ h)
        fun h => List.mem_append_right _ (List.mem_of_mem_eraseIdx h)

/-- One event keeps the guard: a new call of the user starts only when none is under way, and calls
of others do not touch what is guarded. -/
theorem apply_guarded {e : Event α} (hstable : ∀ {w w'}, X.le w w' → X.step w w' → J w → J w')
    (hothers : ∀ a ticks, e = .call a ticks → S.scope a c.world ≠ u →
      Runs X.toEvolving (S.body a) c.world)
    (hown : ∀ a ticks, e = .call a ticks → S.scope a c.world = u → J c.world →
      (S.body a).task.Alone X J c.world)
    (hi : X.inv c.world) (h : Guarded X u J c.world c.threads) (hexcl : S.Exclusively u c e) :
    X.inv (S.apply c e).world ∧ Guarded X u J (S.apply c e).world (S.apply c e).threads := by
  cases e with
  | call a ticks =>
    by_cases hu : S.scope a c.world = u
    · obtain ⟨hnone, hsucc⟩ := hexcl hu
      obtain ⟨hle, hi', ho⟩ := Task.Alone.run hsucc (l := u) (n := 0) hi
        (hown a ticks rfl hu (h.post hnone))
      have hsafe : ∀ th ∈ c.threads, th.Safe (X.protocol ℓ) c.world := by
        cases h with
        | idle hothers _ => exact hothers
        | @busy before after k hths _ _ =>
          refine absurd rfl (hnone ⟨u, k⟩ ?_)
          rw [hths]
          simp
      rw [← hu] at hi' hle ho
      exact ⟨hi', hu ▸ ho.guarded hle hsafe⟩
    · have hsafe := (hothers a ticks rfl hu).safe (S.scope a c.world)
      obtain ⟨ho, hstep⟩ := safe_segment ticks hi hsafe
      exact ⟨ho.inv, h.other hstable ho hstep⟩
  | resume i ticks =>
    rcases hth : c.threads[i]? with _ | th
    · rw [apply_resume_none hth]
      exact ⟨hi, h⟩
    · simp only [apply, outcome, hth, Config.kept]
      exact resume_guarded hstable hi h hth (hexcl th hth)

/-- **Runs in which the calls on `u` come one after the other**: what each of them
re-establishes holds whenever none of them is under way. -/
theorem Run.guarded {ok : Config σ ℓ → Event α → Prop}
    (hexcl : ∀ {c e}, ok c e → S.Exclusively u c e)
    (hstable : ∀ {w w'}, X.le w w' → X.step w w' → J w → J w')
    (hothers : ∀ c a ticks, X.inv c.world → ok c (.call a ticks) → S.scope a c.world ≠ u →
      Runs X.toEvolving (S.body a) c.world)
    (hown : ∀ c a ticks, X.inv c.world → ok c (.call a ticks) → S.scope a c.world = u →
      J c.world → (S.body a).task.Alone X J c.world)
    (hi₀ : X.inv c₀.world) (h₀ : Guarded X u J c₀.world c₀.threads) (h : S.Run ok c₀ es c) :
    X.inv c.world ∧ Guarded X u J c.world c.threads := by
  refine h.induct (I := fun c => X.inv c.world ∧ Guarded X u J c.world c.threads) ⟨hi₀, h₀⟩ ?_
  rintro c e ⟨hi, hc⟩ he
  refine apply_guarded hstable ?_ ?_ hi hc (hexcl he)
  · rintro a ticks rfl hu
    exact hothers c a ticks hi he hu
  · rintro a ticks rfl hu hj
    exact hown c a ticks hi he hu hj

/-- Suspended calls are carried on without a failing operation, and no call is started. -/
def CarriesOn (_ : Config σ ℓ) : Event α → Prop
  | .call _ _ => False
  | .resume _ ticks => ∀ n, (ticks n).fails = false

/-- Calls that can be carried on to their end from any world. -/
def Settles (S : System σ ℓ α) (ths : List (Thread σ ℓ)) : Prop :=
  ∀ w uncaught, ∃ es c, S.Run CarriesOn ⟨w, ths, uncaught⟩ es c ∧ c.Settled

theorem settles_nil : S.Settles [] := fun _ _ => ⟨[], _, .nil, rfl⟩

/-- A call leaves calls that can be carried on to their end. -/
theorem Settles.append_run (t : Task σ ℓ) : ∀ (ticks : ℕ → Tick) (l : ℓ) (n : ℕ) (w : σ)
    {ths : List (Thread σ ℓ)}, S.Settles ths → S.Settles (ths ++ (t.run ticks l n w).threads) := by
  induction t with
  | done => exact fun _ _ _ _ _ h => by simpa [Task.run] using h
  | throw => exact fun _ _ _ _ _ h => by simpa [Task.run] using h
  | act f k ih => exact fun ticks l n w _ h => ih (ticks n) w ticks l (n + 1) _ h
  | fork p k ihp ihk =>
    intro ticks l n w ths h
    have hk := ihk ticks l (p.run ticks l n w).used (p.run ticks l n w).world (ihp ticks l n w h)
    rwa [List.append_assoc] at hk
  | enter l k ih => exact fun ticks _ n w _ h => ih ticks l n w h
  | await k ih =>
    intro ticks l n w ths h w' uncaught
    let e : Event α := .resume ths.length fun _ => ⟨0, 0, false⟩
    have hget : (ths ++ [(⟨l, k⟩ : Thread σ ℓ)])[ths.length]? = some ⟨l, k⟩ := by simp
    have hkept : (ths ++ [(⟨l, k⟩ : Thread σ ℓ)]).eraseIdx ths.length = ths := by
      rw [List.eraseIdx_append_of_length_le (Nat.le_refl _), Nat.sub_self]
      simp
    obtain ⟨es, c, hrun, hc⟩ := ih (fun _ => ⟨0, 0, false⟩) l 0 w' h
      (S.apply ⟨w', ths ++ [⟨l, k⟩], uncaught⟩ e).world
      (S.apply ⟨w', ths ++ [⟨l, k⟩], uncaught⟩ e).uncaught
    have hthreads : (S.apply ⟨w', ths ++ [⟨l, k⟩], uncaught⟩ e).threads =
        ths ++ (k.run (fun _ => ⟨0, 0, false⟩) l 0 w').threads := by
      simp only [apply, outcome, Config.kept, e, hget, hkept]
    rw [← hthreads] at hrun
    exact ⟨e :: es, c, Run.append (.snoc .nil e fun _ => rfl) hrun, hc⟩

theorem Settles.append : ∀ (ths : List (Thread σ ℓ)) {before : List (Thread σ ℓ)},
    S.Settles before → S.Settles (before ++ ths)
  | [], _, h => by rwa [List.append_nil]
  | th :: ths, before, h => by
    intro w
    have hth := h.append_run (.await th.task) (fun _ => ⟨0, 0, false⟩) th.scope 0 w
    have hths := Settles.append ths hth
    rw [List.append_assoc] at hths
    exact hths w

/-- **Whatever is suspended can be carried on to its end.** -/
theorem exists_settled (S : System σ ℓ α) (c : Config σ ℓ) :
    ∃ es c', S.Run CarriesOn c es c' ∧ c'.Settled :=
  Settles.append c.threads settles_nil c.world c.uncaught

/-- **A call by itself**, started when nothing is suspended: at its end `J` holds. -/
theorem Run.alone (hstable : ∀ {w w'}, X.le w w' → X.step w w' → J w → J w')
    (hsettled : c₀.Settled) (hi : X.inv c₀.world) {a : α} {ticks : ℕ → Tick}
    (ht : ∀ n, (ticks n).fails = false) (ha : (S.body a).task.Alone X J c₀.world)
    (h : S.Run CarriesOn (S.apply c₀ (.call a ticks)) es c) (hc : c.Settled) : J c.world := by
  obtain ⟨hle, hi', ho⟩ := Task.Alone.run ht (l := S.scope a c₀.world) (n := 0) hi ha
  have hnone : ∀ th ∈ c₀.threads, th.Safe (X.protocol ℓ) c₀.world := by
    rw [hsettled]
    simp
  have h₀ := ho.guarded hle hnone
  have hguarded : X.inv c.world ∧ Guarded X (S.scope a c₀.world) J c.world c.threads := by
    refine h.induct
      (I := fun c => X.inv c.world ∧ Guarded X (S.scope a c₀.world) J c.world c.threads)
      ⟨hi', h₀⟩ ?_
    rintro c e ⟨hi, hc⟩ he
    cases e with
    | call a' ticks' => exact he.elim
    | resume i ticks' =>
      rcases hth : c.threads[i]? with _ | th
      · rw [apply_resume_none hth]
        exact ⟨hi, hc⟩
      · simp only [apply, outcome, hth, Config.kept]
        exact resume_guarded hstable hi hc hth fun _ => he
  refine hguarded.2.post fun th hth => ?_
  rw [hc] at hth
  exact absurd hth List.not_mem_nil

end System

end EventLoop
