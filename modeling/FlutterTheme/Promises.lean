import FlutterTheme.Rely

/-!
# Promises that are kept

A program makes a promise when it writes an entry to a log and then waits to be carried
on with what the entry says. `Task.Honours` says of a call that this is the only way it
writes to the log. Then in every configuration of a run, every promise has been kept, or
the call that keeps it as soon as it is resumed is among the suspended ones.
-/

namespace EventLoop

variable {σ ℓ ρ α β : Type}

/-- The promises made: where they are written down, the call that keeps each of them,
and what it is to have kept one. -/
structure Promises (P : Protocol σ ℓ) (ρ : Type) where
  /-- the promises made so far -/
  log : σ → List ρ
  /-- the call that keeps a promise -/
  answer : ρ → Task σ ℓ
  /-- the promise has been kept -/
  kept : ρ → σ → Prop
  /-- what has been kept stays so -/
  stable : ∀ {r w w'}, P.rely w w' → kept r w → kept r w'
  /-- the call keeps the promise before it is suspended again -/
  prompt : ∀ {r w}, P.inv w → ∀ ticks l n, kept r ((answer r).run ticks l n w).world

variable {P : Protocol σ ℓ} {A : Promises P ρ}

/-- The call makes promises only by waiting to keep them. -/
def Task.Honours (A : Promises P ρ) : Task σ ℓ → ℓ → σ → Prop
  | .done, _, _ => True
  | .throw, _, _ => True
  | .act f k, l, w => ∀ t, (k t w).Honours A l (f t w) ∧
      (A.log (f t w) = A.log w ∨
        ∃ r, A.log (f t w) = A.log w ++ [r] ∧ k t w = .await (A.answer r))
  | .fork p k, l, w => p.Honours A l w ∧ ∀ w', P.rely w w' → P.inv w' → k.Honours A l w'
  | .enter l k, _, w => k.Honours A l w
  | .await k, l, w => ∀ w', P.rely w w' → P.inv w' → P.promise l w' → k.Honours A l w'

/-- The suspended call honours what it promises. -/
def Thread.Honours (A : Promises P ρ) (th : Thread σ ℓ) (w : σ) : Prop :=
  ∀ w', P.rely w w' → P.inv w' → P.promise th.scope w' → th.task.Honours A th.scope w'

theorem Thread.Honours.mono {th : Thread σ ℓ} {w w' : σ} (h : th.Honours A w)
    (hw : P.rely w w') : th.Honours A w' :=
  fun w'' hw'' hi hp => h w'' (P.rely_trans hw hw'') hi hp

/-- The promise has been kept, or one of the suspended calls keeps it. -/
def Promises.Due (A : Promises P ρ) (r : ρ) (w : σ) (ths : List (Thread σ ℓ)) : Prop :=
  A.kept r w ∨ ∃ th ∈ ths, th.task = A.answer r

theorem Promises.Due.mono {r : ρ} {w w' : σ} {ths ths' : List (Thread σ ℓ)}
    (h : A.Due r w ths) (hw : P.rely w w') (hths : ∀ th ∈ ths, th ∈ ths') :
    A.Due r w' ths' := by
  rcases h with h | ⟨th, hth, h⟩
  · exact Or.inl (A.stable hw h)
  · exact Or.inr ⟨th, hths th hth, h⟩

/-- A call that is safe under a protocol in which no promise is made honours them all. -/
theorem Task.Safe.honours (P' : Protocol σ ℓ) (hrely : ∀ {w w'}, P.rely w w' → P'.rely w w')
    (hinv : ∀ {w}, P.inv w → P'.inv w) (hpromise : ∀ {l w}, P.promise l w → P'.promise l w)
    (hstep : ∀ {l w w'}, P'.step l w w' → A.log w' = A.log w) {t : Task σ ℓ} :
    ∀ {l : ℓ} {w : σ}, t.Safe P' l w → t.Honours A l w := by
  induction t with
  | done => exact fun _ => trivial
  | throw => exact fun _ => trivial
  | act f k ih =>
    intro l w h t
    obtain ⟨-, -, hs, hk⟩ := h t
    exact ⟨ih t w hk, Or.inl (hstep hs)⟩
  | fork p k ihp ihk =>
    exact fun h => ⟨ihp h.1, fun w' hw hi => ihk (h.2 w' (hrely hw) (hinv hi))⟩
  | enter l k ih => exact fun h => ih h
  | await k ih => exact fun h w' hw hi hp => ih (h w' (hrely hw) (hinv hi) (hpromise hp))

/-- What running a call up to its next `await` leaves. -/
structure Outcome.Honoured (A : Promises P ρ) (w : σ) (o : Outcome σ ℓ) : Prop where
  /-- the suspended calls honour what they promise -/
  threads : ∀ th ∈ o.threads, th.Honours A o.world
  /-- the promises made on the way are kept, or will be -/
  due : ∀ r ∈ A.log o.world, r ∈ A.log w ∨ A.Due r o.world o.threads

/-- The run rule of promises: whatever a segment has promised is kept by a thread it leaves behind.
By induction on the task; a promise is made by the action just before the suspension. -/
theorem Task.Honours.run (ticks : ℕ → Tick) {t : Task σ ℓ} : ∀ {l : ℓ} {n : ℕ} {w : σ},
    P.inv w → t.Safe P l w → t.Honours A l w → (t.run ticks l n w).Honoured A w := by
  induction t with
  | done => exact fun _ _ _ => ⟨by simp [Task.run], fun r hr => Or.inl hr⟩
  | throw => exact fun _ _ _ => ⟨by simp [Task.run], fun r hr => Or.inl hr⟩
  | act f k ih =>
    intro l n w _ hs hh
    obtain ⟨-, hinv, -, hk⟩ := hs (ticks n)
    obtain ⟨hh', hlog⟩ := hh (ticks n)
    obtain ⟨hths, hdue⟩ := ih (ticks n) w (n := n + 1) hinv hk hh'
    refine ⟨hths, fun r hr => ?_⟩
    rcases hdue r hr with hr' | hr'
    · rcases hlog with hlog | ⟨r', hlog, hawait⟩
      · rw [hlog] at hr'
        exact Or.inl hr'
      · rw [hlog, List.mem_append, List.mem_singleton] at hr'
        rcases hr' with hr' | rfl
        · exact Or.inl hr'
        · -- the promise just made: the call waits to keep it
          refine Or.inr (Or.inr ⟨⟨l, A.answer r⟩, ?_, rfl⟩)
          simp [Task.run, hawait]
    · exact Or.inr hr'
  | fork p k ihp ihk =>
    intro l n w hi hs hh
    have hp := hs.1.run ticks (n := n) hi
    have hks := hs.2 _ hp.le hp.inv
    have hk := hks.run ticks (n := (p.run ticks l n w).used) hp.inv
    obtain ⟨hths, hdue⟩ := ihp (n := n) hi hs.1 hh.1
    obtain ⟨hths', hdue'⟩ :=
      ihk (n := (p.run ticks l n w).used) hp.inv hks (hh.2 _ hp.le hp.inv)
    refine ⟨fun th hth => ?_, fun r hr => ?_⟩
    · rcases List.mem_append.mp hth with hth | hth
      · exact (hths th hth).mono hk.le
      · exact hths' th hth
    · rcases hdue' r hr with hr' | hr'
      · refine (hdue r hr').imp_right fun h => ?_
        exact h.mono hk.le fun th hth => List.mem_append_left _ hth
      · exact Or.inr (hr'.mono (P.rely_refl _) fun th hth => List.mem_append_right _ hth)
  | enter l k ih => exact fun hi hs hh => ih hi hs hh
  | await k ih =>
    intro l n w _ _ hh
    refine ⟨fun th hth => ?_, fun r hr => Or.inl hr⟩
    obtain rfl := List.mem_singleton.mp hth
    exact hh

/-! ## Runs -/

/-- Every suspended call honours what it promises, and every promise made is kept or
will be. -/
structure Config.Honoured (A : Promises P ρ) (c : Config σ ℓ) : Prop where
  threads : ∀ th ∈ c.threads, th.Honours A c.world
  due : ∀ r ∈ A.log c.world, A.Due r c.world c.threads

namespace System

variable {S : System σ ℓ α} {ok : Config σ ℓ → Event α → Prop} {c₀ c : Config σ ℓ}
  {es : List (Event α)}

/-- One event honours the promises made before: the resumed call keeps its own, and the calls that
wait are still there to keep theirs. -/
theorem apply_honoured (hc : c.Kept P) (hh : c.Honoured A) {e : Event α}
    (he : S.Provides P c e)
    (hbody : ∀ a ticks, e = .call a ticks → (S.body a).task.Honours A (S.scope a c.world) c.world) :
    (S.apply c e).Honoured A := by
  have ho := outcome_kept hc he
  have hout : (S.outcome c e).Honoured A c.world := by
    cases e with
    | call a ticks => exact (hbody a ticks rfl).run ticks hc.inv he
    | resume i ticks =>
      rcases hth : c.threads[i]? with _ | th
      · simp only [outcome, hth]
        exact ⟨by simp, fun r hr => Or.inl hr⟩
      · simp only [outcome, hth]
        have hmem := List.mem_of_getElem? hth
        exact (hh.threads th hmem _ (P.rely_refl _) hc.inv (he th hth)).run ticks hc.inv
          (hc.threads th hmem _ (P.rely_refl _) hc.inv (he th hth))
  refine ⟨fun th hth => ?_, fun r hr => ?_⟩
  · rcases List.mem_append.mp hth with hth | hth
    · refine (hh.threads th ?_).mono ho.le
      cases e with
      | call a ticks => exact hth
      | resume i ticks => exact List.mem_of_mem_eraseIdx hth
    · exact hout.threads th hth
  · rcases hout.due r hr with hr' | hr'
    · rcases hh.due r hr' with h | ⟨th, hth, h⟩
      · exact Or.inl (A.stable ho.le h)
      · cases e with
        | call a ticks => exact Or.inr ⟨th, List.mem_append_left _ hth, h⟩
        | resume i ticks =>
          obtain ⟨j, hj, rfl⟩ := List.getElem_of_mem hth
          by_cases hij : j = i
          · -- the call that keeps the promise is the one resumed
            subst hij
            refine Or.inl ?_
            have hworld : (S.apply c (.resume j ticks)).world =
                ((A.answer r).run ticks c.threads[j].scope 0 c.world).world := by
              simp only [apply, outcome, List.getElem?_eq_getElem hj, h]
            rw [hworld]
            exact A.prompt hc.inv ticks _ 0
          · refine Or.inr ⟨_, List.mem_append_left _ ?_, h⟩
            exact List.mem_eraseIdx_iff_getElem.mpr ⟨j, hj, hij, rfl⟩
    · exact hr'.mono (P.rely_refl _) fun th hth => List.mem_append_right _ hth

/-- **Promises of runs**: every promise made has been kept, or the call that keeps it is
suspended. -/
theorem Run.honoured (h₀ : c₀.Kept P) (hh₀ : c₀.Honoured A)
    (hok : ∀ c e, c.Kept P → ok c e → S.Provides P c e)
    (hbody : ∀ c a ticks, c.Kept P → ok c (.call a ticks) →
      (S.body a).task.Honours A (S.scope a c.world) c.world)
    (h : S.Run ok c₀ es c) : c.Honoured A := by
  refine (h.induct (I := fun c => c.Kept P ∧ c.Honoured A) ⟨h₀, hh₀⟩ ?_).2
  rintro c e ⟨hc, hh⟩ he
  have hprov := hok c e hc he
  refine ⟨apply_kept hc hprov, apply_honoured hc hh hprov ?_⟩
  rintro a ticks rfl
  exact hbody c a ticks hc he

/-- A promise that is due is kept once the call that keeps it is resumed. -/
theorem kept_of_due (hc : c.Kept P) {r : ρ} (h : A.Due r c.world c.threads) (ticks : ℕ → Tick) :
    A.kept r c.world ∨ ∃ i, A.kept r (S.apply c (.resume i ticks)).world := by
  rcases h with h | ⟨th, hth, h⟩
  · exact Or.inl h
  · obtain ⟨i, hi, rfl⟩ := List.getElem_of_mem hth
    refine Or.inr ⟨i, ?_⟩
    simp only [apply, outcome, List.getElem?_eq_getElem hi, h]
    exact A.prompt hc.inv ticks _ 0

end System

/-! ## Calls with a result -/

namespace Async

/-- The call honours what it promises, as long as the rest does. -/
def Honours (A : Promises P ρ) (m : Async σ ℓ α) (l : ℓ) (w : σ) (Q : ℓ → α → σ → Prop) : Prop :=
  ∀ k : α → Task σ ℓ, (∀ l' a w', Q l' a w' → (k a).Honours A l' w') → (m k).Honours A l w

variable {l : ℓ} {w : σ} {Q : ℓ → α → σ → Prop} {m : Async σ ℓ α}

theorem Honours.task {m : Async σ ℓ Unit} {Q : ℓ → Unit → σ → Prop} (h : Honours A m l w Q) :
    m.task.Honours A l w :=
  h _ fun _ _ _ _ => trivial

theorem honours_bind {Q : ℓ → β → σ → Prop} {f : α → Async σ ℓ β}
    (h : Honours A m l w fun l' a w' => Honours A (f a) l' w' Q) : Honours A (m >>= f) l w Q :=
  fun k hk => h _ fun _ _ _ hf => hf k hk

theorem honours_throw : Honours A (throw : Async σ ℓ α) l w Q := fun _ _ => trivial

/-- An action that promises nothing. -/
theorem honours_sync {f : Tick → σ → α × σ}
    (h : ∀ t, A.log (f t w).2 = A.log w ∧ Q l (f t w).1 (f t w).2) :
    Honours A (sync f) l w Q := by
  intro k hk t
  obtain ⟨hlog, hq⟩ := h t
  exact ⟨hk _ _ _ hq, Or.inl hlog⟩

/-- An operation that promises nothing. -/
theorem honours_attempt {f : Tick → σ → α × σ} {Q : ℓ → Option α → σ → Prop}
    (h : ∀ w', P.rely w w' → P.inv w' → ∀ t, A.log (f t w').2 = A.log w' ∧
      ∀ w'', P.rely (f t w').2 w'' → P.inv w'' → Q l (some (f t w').1) w'')
    (hfail : ∀ w', P.rely w w' → P.inv w' → Q l none w') : Honours A (attempt f) l w Q := by
  intro k hk w' hw hi _ t
  by_cases ht : t.fails = true
  · simp only [if_pos ht]
    exact ⟨fun w'' hw' hi' _ => hk _ _ _ (hfail w'' (P.rely_trans hw hw') hi'), Or.inl trivial⟩
  · obtain ⟨hlog, hq⟩ := h w' hw hi t
    simp only [if_neg ht]
    exact ⟨fun w'' hw' hi' _ => hk _ _ _ (hq w'' hw' hi'), Or.inl hlog⟩

theorem honours_spawn {m : Async σ ℓ Unit} {Q : ℓ → Unit → σ → Prop} (hm : m.task.Honours A l w)
    (h : ∀ w', P.rely w w' → P.inv w' → Q l () w') : Honours A (spawn m) l w Q :=
  fun _ hk => ⟨hm, fun w' hw hi => hk _ _ _ (h w' hw hi)⟩

end Async

end EventLoop
