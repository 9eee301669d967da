import FlutterTheme.Duties

/-!
# A call carried on to its end

A call is looked at on its own: it is resumed at every one of its awaits, and nothing else comes in
between. What counts is the world at its end, the calls it has started without awaiting them, and
how many of them all threw.

* `Task.Finishes ok t s R` — whatever the environment decides with `ok`, the call `t`, started when
  things stand as in `s`, comes to its end with `R`. `Async.Finishes` is the form for calls with a
  result, with one rule for each way calls are put together.
* `Task.Finishes.outcome` — there is such an end, and it is in `R` whenever the call finishes with
  `R`.
* `Task.Finishes.exec` — the event loop gets the call there by resuming it again and again.
-/

namespace EventLoop

variable {σ ℓ α β : Type}

/-- How far a call has come. -/
structure Progress (σ ℓ : Type) where
  world : σ
  /-- the calls it has started and does not await, oldest first -/
  started : List (Task σ ℓ) := []
  /-- how many calls threw -/
  thrown : ℕ := 0

/-- The call, run up to its first `await`, leads to `R`. -/
def Task.UpToAwait (ok : Tick → Prop) : Task σ ℓ → Progress σ ℓ → (Progress σ ℓ → Prop) → Prop
  | .done, s, R => R s
  | .throw, s, R => R { s with thrown := s.thrown + 1 }
  | .act f k, s, R => ∀ t, ok t → (k t s.world).UpToAwait ok { s with world := f t s.world } R
  | .fork p k, s, R =>
    p.UpToAwait ok { s with started := s.started ++ [p] } fun s' => k.UpToAwait ok s' R
  | .enter _ k, s, R => k.UpToAwait ok s R
  | .await _, s, R => R s

/-- The call, carried on to its end with nothing in between, leads to `R`. -/
def Task.Finishes (ok : Tick → Prop) : Task σ ℓ → Progress σ ℓ → (Progress σ ℓ → Prop) → Prop
  | .done, s, R => R s
  | .throw, s, R => R { s with thrown := s.thrown + 1 }
  | .act f k, s, R => ∀ t, ok t → (k t s.world).Finishes ok { s with world := f t s.world } R
  | .fork p k, s, R =>
    p.UpToAwait ok { s with started := s.started ++ [p] } fun s' => k.Finishes ok s' R
  | .enter _ k, s, R => k.Finishes ok s R
  | .await k, s, R => k.Finishes ok s R

variable {ok : Tick → Prop} {t : Task σ ℓ} {s : Progress σ ℓ} {R R' : Progress σ ℓ → Prop}

/-! ## Ends -/

theorem Task.UpToAwait.mono : ∀ {s : Progress σ ℓ} {R R' : Progress σ ℓ → Prop},
    t.UpToAwait ok s R → (∀ s', R s' → R' s') → t.UpToAwait ok s R' := by
  induction t with
  | done => exact fun h hR => hR _ h
  | throw => exact fun h hR => hR _ h
  | act f k ih => exact fun h hR tick htick => ih _ _ (h tick htick) hR
  | fork p k ihp ihk => exact fun h hR => ihp h fun _ hk => ihk hk hR
  | enter l k ih => exact fun h hR => ih h hR
  | await k => exact fun h hR => hR _ h

theorem Task.Finishes.mono : ∀ {s : Progress σ ℓ} {R R' : Progress σ ℓ → Prop},
    t.Finishes ok s R → (∀ s', R s' → R' s') → t.Finishes ok s R' := by
  induction t with
  | done => exact fun h hR => hR _ h
  | throw => exact fun h hR => hR _ h
  | act f k ih => exact fun h hR tick htick => ih _ _ (h tick htick) hR
  | fork p k ihp ihk => exact fun h hR => Task.UpToAwait.mono h fun _ hk => ihk hk hR
  | enter l k ih => exact fun h hR => ih h hR
  | await k ih => exact fun h hR => ih h hR

/-- The first segment comes to a point that is in all that it leads to. -/
theorem Task.UpToAwait.outcome {tick : Tick} (htick : ok tick) (t : Task σ ℓ) :
    ∀ s : Progress σ ℓ, ∃ e, ∀ R, t.UpToAwait ok s R → R e := by
  induction t with
  | done => exact fun s => ⟨s, fun _ h => h⟩
  | throw => exact fun s => ⟨_, fun _ h => h⟩
  | act f k ih =>
    intro s
    obtain ⟨e, he⟩ := ih tick s.world { s with world := f tick s.world }
    exact ⟨e, fun R h => he R (h tick htick)⟩
  | fork p k ihp ihk =>
    intro s
    obtain ⟨e, he⟩ := ihp { s with started := s.started ++ [p] }
    obtain ⟨e', he'⟩ := ihk e
    exact ⟨e', fun R h => he' R (he _ h)⟩
  | enter l k ih => exact ih
  | await k => exact fun s => ⟨s, fun _ h => h⟩

/-- **The call comes to an end** that is in all that it leads to. -/
theorem Task.Finishes.outcome {tick : Tick} (htick : ok tick) (t : Task σ ℓ) :
    ∀ s : Progress σ ℓ, ∃ e, ∀ R, t.Finishes ok s R → R e := by
  induction t with
  | done => exact fun s => ⟨s, fun _ h => h⟩
  | throw => exact fun s => ⟨_, fun _ h => h⟩
  | act f k ih =>
    intro s
    obtain ⟨e, he⟩ := ih tick s.world { s with world := f tick s.world }
    exact ⟨e, fun R h => he R (h tick htick)⟩
  | fork p k ihp ihk =>
    intro s
    obtain ⟨e, he⟩ := Task.UpToAwait.outcome htick p { s with started := s.started ++ [p] }
    obtain ⟨e', he'⟩ := ihk e
    exact ⟨e', fun R h => he' R (he _ h)⟩
  | enter l k ih => exact ih
  | await k ih => exact ih

/-! ## The event loop -/

/-- The segment as the event loop runs it ends as it does here: the calls it starts are those it
leaves, and what it has thrown is counted. By induction on the task. -/
theorem Task.UpToAwait.run {ticks : ℕ → Tick} (hticks : ∀ n, ok (ticks n)) :
    ∀ {s : Progress σ ℓ} {R : Progress σ ℓ → Prop} {l : ℓ} {n : ℕ}, t.UpToAwait ok s R →
      ∃ started, R ⟨(t.run ticks l n s.world).world, started,
        s.thrown + (t.run ticks l n s.world).uncaught.length⟩ := by
  induction t with
  | done => exact fun h => ⟨_, h⟩
  | throw => exact fun h => ⟨_, h⟩
  | act f k ih =>
    intro s R l n h
    exact ih (ticks n) s.world (s := { s with world := f (ticks n) s.world }) (h _ (hticks n))
  | fork p k ihp ihk =>
    intro s R l n h
    obtain ⟨started, hk⟩ := ihp (s := { s with started := s.started ++ [p] }) (l := l) (n := n) h
    obtain ⟨started', hR⟩ := ihk (l := l) (n := (p.run ticks l n s.world).used) hk
    refine ⟨started', ?_⟩
    simpa only [Task.run, List.length_append, Nat.add_assoc] using hR
  | enter l k ih => exact fun h => ih h
  | await k => exact fun h => ⟨_, h⟩

/-- **The event loop carries the call on to its end**, by resuming it whenever it is suspended. -/
theorem Task.Finishes.exec {ticks : ℕ → Tick} (hticks : ∀ n, ok (ticks n)) :
    ∀ {s : Progress σ ℓ} {R : Progress σ ℓ → Prop} {l : ℓ} {n : ℕ} (ths : List (Thread σ ℓ))
      (uncaught : List ℓ), t.Finishes ok s R → uncaught.length = s.thrown →
        let o := t.run ticks l n s.world
        ∃ (es : List (Event Empty)) (started : List (Task σ ℓ)), (∀ e ∈ es, e.ticks = ticks) ∧
          let c := (System.quiet σ ℓ).exec ⟨o.world, ths ++ o.threads, uncaught ++ o.uncaught⟩ es
          R ⟨c.world, started, c.uncaught.length⟩ := by
  induction t with
  | done =>
    rintro ⟨w, started, thrown⟩ R l n ths uncaught h rfl
    exact ⟨[], started, by simp, by simpa [System.exec, Task.run, Task.Finishes] using h⟩
  | throw =>
    rintro ⟨w, started, thrown⟩ R l n ths uncaught h rfl
    exact ⟨[], started, by simp, by simpa [System.exec, Task.run, Task.Finishes] using h⟩
  | act f k ih =>
    intro s R l n ths uncaught h hthrown
    exact ih (ticks n) s.world (s := { s with world := f (ticks n) s.world }) ths uncaught
      (h _ (hticks n)) hthrown
  | fork p k ihp ihk =>
    intro s R l n ths uncaught h hthrown
    obtain ⟨started, hk⟩ := Task.UpToAwait.run hticks (l := l) (n := n) h
    have hrest := ihk (l := l) (n := (p.run ticks l n s.world).used)
      (ths ++ (p.run ticks l n s.world).threads)
      (uncaught ++ (p.run ticks l n s.world).uncaught) hk (by simp [hthrown])
    simpa only [Task.run, List.append_assoc] using hrest
  | enter l k ih => exact ih
  | await k ih =>
    intro s R l n ths uncaught h hthrown
    obtain ⟨es, started, hes, hR⟩ := ih (l := l) (n := 0) ths uncaught h hthrown
    refine ⟨.resume ths.length ticks :: es, started, ?_, ?_⟩
    · intro e he
      rcases List.mem_cons.mp he with rfl | he
      · rfl
      · exact hes e he
    · have hth : (ths ++ [(⟨l, k⟩ : Thread σ ℓ)])[ths.length]? = some ⟨l, k⟩ := by simp
      have hkept : (ths ++ [(⟨l, k⟩ : Thread σ ℓ)]).eraseIdx ths.length = ths := by
        simp [List.eraseIdx_append_of_length_le (Nat.le_refl _)]
      simpa only [Task.run, System.exec, List.foldl_cons, System.apply, System.outcome, hth,
        Config.kept, hkept, List.append_nil] using hR

/-! ## Calls with a result -/

namespace Async

/-- The call, carried on with nothing in between, hands on a result with `Q`, or throws and leads to
`R`. -/
def Finishes (ok : Tick → Prop) (m : Async σ ℓ α) (s : Progress σ ℓ) (R : Progress σ ℓ → Prop)
    (Q : α → Progress σ ℓ → Prop) : Prop :=
  ∀ k : α → Task σ ℓ, (∀ a s', Q a s' → (k a).Finishes ok s' R) → (m k).Finishes ok s R

variable {m : Async σ ℓ α} {Q Q' : α → Progress σ ℓ → Prop}

/-- A call that is over when it hands on its result. -/
theorem Finishes.task {m : Async σ ℓ Unit} (h : m.Finishes ok s R fun _ => R) :
    m.task.Finishes ok s R :=
  h _ fun _ _ hr => hr

theorem finishes_pure {a : α} (h : Q a s) : (pure a : Async σ ℓ α).Finishes ok s R Q :=
  fun _ hk => hk a s h

theorem finishes_bind {f : α → Async σ ℓ β} {Q : β → Progress σ ℓ → Prop}
    (h : m.Finishes ok s R fun a s' => (f a).Finishes ok s' R Q) : (m >>= f).Finishes ok s R Q :=
  fun k hk => h _ fun _ _ hf => hf k hk

theorem finishes_throw (h : R { s with thrown := s.thrown + 1 }) :
    (throw : Async σ ℓ α).Finishes ok s R Q :=
  fun _ _ => h

theorem finishes_enter {l : ℓ} {Q : Unit → Progress σ ℓ → Prop} (h : Q () s) :
    (enter l : Async σ ℓ Unit).Finishes ok s R Q :=
  fun _ hk => hk () s h

theorem finishes_sync {f : Tick → σ → α × σ}
    (h : ∀ t, ok t → Q (f t s.world).1 { s with world := (f t s.world).2 }) :
    (sync f : Async σ ℓ α).Finishes ok s R Q :=
  fun _ hk t ht => hk _ _ (h t ht)

theorem finishes_get {g : σ → α} (h : Q (g s.world) s) :
    (get g : Async σ ℓ α).Finishes ok s R Q :=
  finishes_sync fun _ _ => h

theorem finishes_modify {f : σ → σ} {Q : Unit → Progress σ ℓ → Prop}
    (h : Q () { s with world := f s.world }) : (modify f : Async σ ℓ Unit).Finishes ok s R Q :=
  finishes_sync fun _ _ => h

/-- A remote operation that does not fail. -/
theorem finishes_remote {f : Tick → σ → α × σ}
    (h : ∀ t, ok t → t.fails = false ∧ Q (f t s.world).1 { s with world := (f t s.world).2 }) :
    (remote f : Async σ ℓ α).Finishes ok s R Q := by
  intro k hk t ht
  obtain ⟨hfails, hq⟩ := h t ht
  simp only [hfails, Bool.false_eq_true, if_false]
  exact hk _ _ hq

/-- A call that is started and not awaited. -/
theorem finishes_spawn {m : Async σ ℓ Unit} {Q : Unit → Progress σ ℓ → Prop}
    (h : m.task.UpToAwait ok { s with started := s.started ++ [m.task] } (Q ())) :
    (spawn m).Finishes ok s R Q :=
  fun _ hk => Task.UpToAwait.mono h fun _ hq => hk () _ hq

end Async

end EventLoop
