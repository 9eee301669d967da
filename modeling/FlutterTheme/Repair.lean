import FlutterTheme.Actions
import FlutterTheme.Rely

/-!
# What is broken is repaired

A condition on the world, and calls of two kinds. Calm calls keep it. The others may break it, at
any time and together with any number of others, but each of them repairs it before it is over,
or starts a call that does.

* `Repair` — the condition, and the changes that keep it.
* `Task.Repairs` — the call, carried on without a failing operation, brings the condition about.
  While it is suspended anything may happen, unless it is one of the calm calls: these may wait
  under a condition of their own that the calm changes keep.
* `System.Run.tended` — in every run the condition holds or a suspended call is going to repair it,
  so that it holds once nothing is suspended.
-/

namespace EventLoop

variable {σ ℓ α β : Type} {P : Protocol σ ℓ}

/-- A condition that some calls break and repair. -/
structure Repair (P : Protocol σ ℓ) where
  met : σ → Prop
  /-- the changes that keep it -/
  calm : σ → σ → Prop
  refl : ∀ w, calm w w
  trans : ∀ {w w' w''}, calm w w' → calm w' w'' → calm w w''
  keeps : ∀ {w w'}, calm w w' → met w → met w'
  /-- what is worked on by calls that make calm changes only -/
  quiet : ℓ → Prop
  calm_of_quiet : ∀ {l w w'}, quiet l → P.inv w → P.step l w w' → calm w w'

namespace Repair

/-- The calls that make calm changes only. -/
def protocol (R : Repair P) : Protocol σ ℓ where
  rely := P.rely
  inv := P.inv
  step l w w' := P.step l w w' ∧ R.calm w w'
  promise := P.promise
  rely_refl := P.rely_refl
  rely_trans := P.rely_trans
  step_refl l w := ⟨P.step_refl l w, R.refl w⟩

/-- The calm changes keep it. -/
def Stable (R : Repair P) (C : σ → Prop) : Prop := ∀ ⦃w w'⦄, R.calm w w' → C w → C w'

end Repair

variable {R : Repair P} {l : ℓ} {w w' : σ}

/-! ## Calm calls -/

/-- What running a calm call up to its next `await` leaves. -/
structure Outcome.Calm (R : Repair P) (w : σ) (o : Outcome σ ℓ) : Prop where
  calm : R.calm w o.world
  threads : ∀ th ∈ o.threads, th.Safe R.protocol o.world

theorem Task.Safe.run_calm (ticks : ℕ → Tick) {t : Task σ ℓ} {n : ℕ} (h : t.Safe R.protocol l w)
    (hi : P.inv w) : (t.run ticks l n w).Calm R w := by
  have hkept := Task.Safe.run (P := R.protocol) ticks (n := n) hi h
  exact ⟨Task.run_steps R.refl R.trans fun st hst => (hkept.steps st hst).2, hkept.threads⟩

/-- All actions of the call are calm. -/
theorem Task.Safe.calm_of_all {D : Deeds σ} (hD : ∀ t w w', D.rel t w w' → R.calm w w')
    {t : Task σ ℓ} : ∀ {l : ℓ} {w : σ}, t.Safe P l w → t.All D → t.Safe R.protocol l w := by
  induction t with
  | done => exact fun _ _ => trivial
  | throw => exact fun _ _ => trivial
  | act f k ih =>
    intro l w hs hall t
    obtain ⟨hle, hinv, hstep, hk⟩ := hs t
    obtain ⟨hrel, hall⟩ := hall t w
    exact ⟨hle, hinv, ⟨hstep, hD t _ _ hrel⟩, ih t w hk hall⟩
  | fork p k ihp ihk =>
    exact fun hs hall => ⟨ihp hs.1 hall.1, fun w' hw hi => ihk (hs.2 w' hw hi) hall.2⟩
  | enter l k ih => exact fun hs hall => ih hs hall
  | await k ih => exact fun hs hall w' hw hi hp => ih (hs w' hw hi hp) hall

/-- The call works on these labels only. -/
def Task.Within (L : ℓ → Prop) : Task σ ℓ → Prop
  | .done => True
  | .throw => True
  | .act _ k => ∀ t w, (k t w).Within L
  | .fork p k => p.Within L ∧ k.Within L
  | .enter l k => L l ∧ k.Within L
  | .await k => k.Within L

/-- A call that works on quiet labels only is calm, since what is permitted there is. By induction
on the task. -/
theorem Task.Safe.calm {t : Task σ ℓ} : ∀ {l : ℓ} {w : σ}, t.Safe P l w → P.inv w → R.quiet l →
    t.Within R.quiet → t.Safe R.protocol l w := by
  induction t with
  | done => exact fun _ _ _ _ => trivial
  | throw => exact fun _ _ _ _ => trivial
  | act f k ih =>
    intro l w hs hi hl hwithin t
    obtain ⟨hle, hinv, hstep, hk⟩ := hs t
    exact ⟨hle, hinv, ⟨hstep, R.calm_of_quiet hl hi hstep⟩, ih t w hk hinv hl (hwithin t w)⟩
  | fork p k ihp ihk =>
    exact fun hs hi hl hwithin => ⟨ihp hs.1 hi hl hwithin.1,
      fun w' hw hi' => ihk (hs.2 w' hw hi') hi' hl hwithin.2⟩
  | enter l k ih => exact fun hs hi _ hwithin => ih hs hi hwithin.1 hwithin.2
  | await k ih => exact fun hs _ hl hwithin w' hw hi hp => ih (hs w' hw hi hp) hi hl hwithin

/-! ## Calls that repair -/

/-- The call, carried on without a failing operation, brings the condition about. -/
def Task.Repairs (R : Repair P) : Task σ ℓ → ℓ → σ → Prop
  | .done, _, w => R.met w
  | .throw, _, w => R.met w
  | .act f k, l, w => ∀ t, t.fails = false → (k t w).Repairs R l (f t w)
  | .fork p k, l, w =>
    (p.Repairs R l w ∧ ∀ w', P.rely w w' → P.inv w' → k.Safe R.protocol l w') ∨
      p.Safe R.protocol l w ∧ ∀ w', P.rely w w' → P.inv w' → k.Repairs R l w'
  | .enter l k, _, w => k.Repairs R l w
  | .await k, l, w =>
    (∀ w', P.rely w w' → P.inv w' → P.promise l w' → k.Repairs R l w') ∨
      Thread.Safe R.protocol ⟨l, k⟩ w ∧ ∃ C, R.Stable C ∧ C w ∧
        ∀ w', P.rely w w' → P.inv w' → P.promise l w' → C w' → k.Repairs R l w'

/-- The suspended call repairs the condition, whatever happens until it is resumed. -/
def Thread.Repairs (R : Repair P) (th : Thread σ ℓ) (w : σ) : Prop :=
  ∀ w', P.rely w w' → P.inv w' → P.promise th.scope w' → th.task.Repairs R th.scope w'

/-- The suspended call repairs the condition, if only calm changes happen until it is resumed. -/
def Thread.Waits (R : Repair P) (th : Thread σ ℓ) (w : σ) : Prop :=
  ∃ C, R.Stable C ∧ C w ∧
    ∀ w', P.rely w w' → P.inv w' → P.promise th.scope w' → C w' → th.task.Repairs R th.scope w'

variable {th : Thread σ ℓ} {ths ths' : List (Thread σ ℓ)}

theorem Thread.Repairs.mono (h : th.Repairs R w) (hw : P.rely w w') : th.Repairs R w' :=
  fun w'' hw' hi hp => h w'' (P.rely_trans hw hw') hi hp

theorem Thread.Repairs.waits (h : th.Repairs R w) : th.Waits R w :=
  ⟨fun _ => True, fun _ _ _ _ => trivial, trivial, fun w' hw hi hp _ => h w' hw hi hp⟩

theorem Thread.Waits.mono (h : th.Waits R w) (hw : P.rely w w') (hcalm : R.calm w w') :
    th.Waits R w' := by
  obtain ⟨C, hstable, hC, hrepairs⟩ := h
  exact ⟨C, hstable, hstable hcalm hC,
    fun w'' hw' hi hp hC' => hrepairs w'' (P.rely_trans hw hw') hi hp hC'⟩

/-- The suspended calls are calm or repair the condition, and it holds or one of them is going to
repair it. -/
structure Tended (R : Repair P) (w : σ) (ths : List (Thread σ ℓ)) : Prop where
  kinds : ∀ th ∈ ths, th.Safe R.protocol w ∨ th.Repairs R w
  met : R.met w ∨ ∃ th ∈ ths, th.Waits R w

/-- Once nothing is suspended, the condition holds. -/
theorem Tended.settled (h : Tended R w []) : R.met w :=
  h.met.resolve_right fun ⟨_, hth, _⟩ => List.not_mem_nil hth

/-- A calm change, and calm calls come in. -/
theorem Tended.calm (h : Tended R w ths) (hw : P.rely w w') (hcalm : R.calm w w')
    (hths' : ∀ th ∈ ths', th.Safe R.protocol w') : Tended R w' (ths ++ ths') where
  kinds th hth := by
    rcases List.mem_append.mp hth with hth | hth
    · exact (h.kinds th hth).imp (·.mono hw) (·.mono hw)
    · exact .inl (hths' th hth)
  met := by
    rcases h.met with hmet | ⟨th, hth, hwaits⟩
    · exact .inl (R.keeps hcalm hmet)
    · exact .inr ⟨th, List.mem_append_left _ hth, hwaits.mono hw hcalm⟩

/-- Whatever has happened, the calls that have come in see to the condition. -/
theorem Tended.append (h : Tended R w' ths') (hw : P.rely w w')
    (hths : ∀ th ∈ ths, th.Safe R.protocol w ∨ th.Repairs R w) : Tended R w' (ths ++ ths') where
  kinds th hth := by
    rcases List.mem_append.mp hth with hth | hth
    · exact (hths th hth).imp (·.mono hw) (·.mono hw)
    · exact h.kinds th hth
  met := h.met.imp_right fun ⟨th, hth, hwaits⟩ => ⟨th, List.mem_append_right _ hth, hwaits⟩

/-- Running a call that repairs the condition up to its next `await`: it holds at the end of the
segment, or a thread that is left repairs it. By induction on the task. -/
theorem Task.Repairs.run {ticks : ℕ → Tick} (hticks : ∀ i, (ticks i).fails = false)
    {t : Task σ ℓ} : ∀ {l : ℓ} {n : ℕ} {w : σ}, P.inv w → t.Safe P l w → t.Repairs R l w →
      Tended R (t.run ticks l n w).world (t.run ticks l n w).threads := by
  induction t with
  | done => exact fun _ _ h => ⟨fun _ hth => absurd hth List.not_mem_nil, .inl h⟩
  | throw => exact fun _ _ h => ⟨fun _ hth => absurd hth List.not_mem_nil, .inl h⟩
  | act f k ih =>
    intro l n w _ hs h
    obtain ⟨-, hinv, -, hk⟩ := hs (ticks n)
    exact ih (ticks n) w (n := n + 1) hinv hk (h (ticks n) (hticks n))
  | fork p k ihp ihk =>
    intro l n w hi hs h
    have hp := hs.1.run ticks (n := n) hi
    have hks := hs.2 _ hp.le hp.inv
    rcases h with ⟨hrepairs, hcalm⟩ | ⟨hcalm, hrepairs⟩
    · have hk := hks.run ticks (n := (p.run ticks l n w).used) hp.inv
      have hcalm' := (hcalm _ hp.le hp.inv).run_calm ticks
        (n := (p.run ticks l n w).used) hp.inv
      exact (ihp hi hs.1 hrepairs).calm hk.le hcalm'.calm hcalm'.threads
    · have hk := hks.run ticks (n := (p.run ticks l n w).used) hp.inv
      refine (ihk hp.inv hks (hrepairs _ hp.le hp.inv)).append hk.le fun th hth => ?_
      exact .inl ((hcalm.run_calm ticks hi).threads th hth)
  | enter l k ih => exact fun hi hs h => ih hi hs h
  | await k ih =>
    intro l n w _ _ h
    refine ⟨fun th hth => ?_, .inr ⟨_, List.mem_singleton_self _, ?_⟩⟩
    · obtain rfl := List.mem_singleton.mp hth
      exact (h.imp_right And.left).symm
    · rcases h with h | ⟨-, hwaits⟩
      · exact Thread.Repairs.waits h
      · exact hwaits

/-! ## Runs -/

namespace System

variable {S : System σ ℓ α} {ok : Config σ ℓ → Event α → Prop} {c₀ c : Config σ ℓ}
  {es : List (Event α)}

/-- One event: a call is resumed, or one is started that is calm or sees to the condition. -/
theorem apply_tended (hc : c.Kept P) (h : Tended R c.world c.threads) {e : Event α}
    (he : S.Provides P c e) (hsucc : e.Succeeds)
    (hcall : ∀ a ticks, e = .call a ticks → (S.outcome c e).Calm R c.world ∨
      Tended R (S.outcome c e).world (S.outcome c e).threads) :
    Tended R (S.apply c e).world (S.apply c e).threads := by
  have ho := outcome_kept hc he
  cases e with
  | call a ticks =>
    rcases hcall a ticks rfl with hcalm | htended
    · exact h.calm ho.le hcalm.calm hcalm.threads
    · exact htended.append ho.le h.kinds
  | resume i ticks =>
    cases hth : c.threads[i]? with
    | none =>
      rw [apply_resume_none hth]
      exact h
    | some th =>
      have hs := hc.threads th (List.mem_of_getElem? hth) _ (P.rely_refl _) hc.inv (he th hth)
      have hout : S.outcome c (.resume i ticks) = th.task.run ticks th.scope 0 c.world := by
        simp only [outcome, hth]
      simp only [apply, hout, Config.kept] at ho ⊢
      have hkinds : ∀ th' ∈ c.threads.eraseIdx i, th'.Safe R.protocol c.world ∨
          th'.Repairs R c.world := fun th' hth' => h.kinds th' (List.mem_of_mem_eraseIdx hth')
      -- the call that is resumed sees to the condition
      have hrepairs (hwaits : th.Waits R c.world) :
          Tended R (th.task.run ticks th.scope 0 c.world).world
            (c.threads.eraseIdx i ++ (th.task.run ticks th.scope 0 c.world).threads) := by
        obtain ⟨C, -, hC, hrepairs⟩ := hwaits
        have htask := hrepairs _ (P.rely_refl _) hc.inv (he th hth) hC
        exact (htask.run hsucc hc.inv hs).append ho.le hkinds
      rcases h.kinds th (List.mem_of_getElem? hth) with hsafe | hwill
      · have hcalm := (hsafe _ (P.rely_refl _) hc.inv (he th hth)).run_calm ticks (n := 0)
          hc.inv
        rcases h.met with hmet | ⟨th', hth', hwaits⟩
        · have hrest : Tended R c.world (c.threads.eraseIdx i) := ⟨hkinds, .inl hmet⟩
          exact hrest.calm ho.le hcalm.calm hcalm.threads
        · obtain ⟨j, hj, rfl⟩ := List.getElem_of_mem hth'
          by_cases hij : j = i
          · subst hij
            rw [List.getElem?_eq_getElem hj, Option.some.injEq] at hth
            exact hrepairs (hth ▸ hwaits)
          · have hmem := List.mem_eraseIdx_iff_getElem.mpr ⟨j, hj, hij, rfl⟩
            have hrest : Tended R c.world (c.threads.eraseIdx i) := ⟨hkinds, .inr ⟨_, hmem, hwaits⟩⟩
            exact hrest.calm ho.le hcalm.calm hcalm.threads
      · exact hrepairs hwill.waits

/-- **What is broken is repaired**: in every run the condition holds, or a suspended call is going
to repair it. -/
theorem Run.tended (hc₀ : c₀.Kept P) (h₀ : Tended R c₀.world c₀.threads)
    (hok : ∀ c e, c.Kept P → ok c e → S.Provides P c e ∧ e.Succeeds ∧
      ∀ a ticks, e = .call a ticks → (S.outcome c e).Calm R c.world ∨
        Tended R (S.outcome c e).world (S.outcome c e).threads)
    (h : S.Run ok c₀ es c) : Tended R c.world c.threads := by
  refine (h.induct (I := fun c => c.Kept P ∧ Tended R c.world c.threads) ⟨hc₀, h₀⟩ ?_).2
  rintro c e ⟨hc, htended⟩ he
  obtain ⟨hprovides, hsucc, hcall⟩ := hok c e hc he
  exact ⟨apply_kept hc hprovides, apply_tended hc htended hprovides hsucc hcall⟩

end System

/-! ## Calls with a result -/

namespace Async

/-- The call, if it is safe, goes on until its result is handed on with `Q`. -/
def Repairs (R : Repair P) (m : Async σ ℓ α) (l : ℓ) (w : σ) (Q : ℓ → α → σ → Prop) : Prop :=
  ∀ k : α → Task σ ℓ,
    (∀ l' a w', Q l' a w' → (k a).Safe P l' w' → (k a).Repairs R l' w') →
      (m k).Safe P l w → (m k).Repairs R l w

variable {Q : ℓ → α → σ → Prop} {m : Async σ ℓ α}

theorem Repairs.mono {Q' : ℓ → α → σ → Prop} (h : m.Repairs R l w Q)
    (hQ : ∀ l' a w', Q l' a w' → Q' l' a w') : m.Repairs R l w Q' :=
  fun k hk hs => h k (fun l' a w' hq hs' => hk l' a w' (hQ l' a w' hq) hs') hs

theorem repairs_pure {a : α} (h : Q l a w) : (pure a : Async σ ℓ α).Repairs R l w Q :=
  fun _ hk hs => hk l a w h hs

theorem repairs_bind {f : α → Async σ ℓ β} {Q' : ℓ → β → σ → Prop}
    (h : m.Repairs R l w fun l' a w' => (f a).Repairs R l' w' Q') :
    (m >>= f).Repairs R l w Q' :=
  fun k hk hs => h _ (fun _ _ _ hf hs' => hf k hk hs') hs

theorem repairs_sync {f : Tick → σ → α × σ}
    (h : ∀ t, P.rely w (f t w).2 → P.inv (f t w).2 → Q l (f t w).1 (f t w).2) :
    (sync f : Async σ ℓ α).Repairs R l w Q := by
  intro k hk hs t _
  obtain ⟨hle, hi, -, hs⟩ := hs t
  exact hk _ _ _ (h t hle hi) hs

theorem repairs_get {g : σ → α} (h : Q l (g w) w) : (get g : Async σ ℓ α).Repairs R l w Q :=
  repairs_sync fun _ _ _ => h

theorem repairs_modify {f : σ → σ} {Q : ℓ → Unit → σ → Prop}
    (h : P.rely w (f w) → P.inv (f w) → Q l () (f w)) :
    (modify f : Async σ ℓ Unit).Repairs R l w Q :=
  repairs_sync fun _ => h

theorem repairs_enter {l' : ℓ} {Q : ℓ → Unit → σ → Prop} (h : Q l' () w) :
    (enter l' : Async σ ℓ Unit).Repairs R l w Q :=
  fun _ hk hs => hk _ _ _ h hs

/-- While an operation is on its way, and its answer, anything may happen. -/
theorem repairs_remote {f : Tick → σ → α × σ}
    (h : ∀ w', P.rely w w' → P.inv w' → ∀ t, P.rely w' (f t w').2 → ∀ w'',
      P.rely (f t w').2 w'' → P.inv w'' → Q l (f t w').1 w'') :
    (remote f : Async σ ℓ α).Repairs R l w Q := by
  refine fun k hk hs => .inl fun w' hw hi hp t ht => ?_
  obtain ⟨hle, -, -, hs⟩ := hs w' hw hi hp t
  simp only [ht, Bool.false_eq_true, if_false] at hle hs ⊢
  exact .inl fun w'' hw' hi' hp' =>
    hk _ _ _ (h w' hw hi t hle w'' hw' hi') (hs w'' hw' hi' hp')

/-- A calm operation. It is on its way while `C` holds, and so is its answer while what it leaves
behind holds. -/
theorem repairs_remote_waits {f : Tick → σ → α × σ} {k : α → Task σ ℓ} {C : σ → Prop}
    (hsafe : ((remote f : Async σ ℓ α) k).Safe R.protocol l w) (hstable : R.Stable C) (hC : C w)
    (h : ∀ w', P.rely w w' → P.inv w' → C w' → ∀ t, ∃ C', R.Stable C' ∧ C' (f t w').2 ∧
      ∀ w'', P.rely (f t w').2 w'' → P.inv w'' → C' w'' → (k (f t w').1).Safe R.protocol l w'' →
        (k (f t w').1).Repairs R l w'') :
    ((remote f : Async σ ℓ α) k).Repairs R l w := by
  refine .inr ⟨hsafe, C, hstable, hC, fun w' hw hi hp hC t ht => ?_⟩
  obtain ⟨C', hstable', hC', h⟩ := h w' hw hi hC t
  obtain ⟨-, -, -, hk⟩ := hsafe w' hw hi hp t
  simp only [ht, Bool.false_eq_true, if_false] at hk ⊢
  exact .inr ⟨hk, C', hstable', hC', fun w'' hw' hi' hp' hC'' =>
    h w'' hw' hi' hC'' (hk w'' hw' hi' hp')⟩

/-- The call, if it is safe, repairs the condition. -/
def Mends (R : Repair P) (m : Async σ ℓ Unit) (l : ℓ) (w : σ) : Prop :=
  m.task.Safe P l w → m.task.Repairs R l w

theorem mends_bind {f : α → Async σ ℓ Unit}
    (h : m.Repairs R l w fun l' a w' => (f a).Mends R l' w') : (m >>= f).Mends R l w :=
  h _ fun _ _ _ hf => hf

theorem mends_assoc {f : α → Async σ ℓ β} {g : β → Async σ ℓ Unit}
    (h : (m >>= fun a => f a >>= g).Mends R l w) : (m >>= f >>= g).Mends R l w :=
  h

/-! ### Labels -/

/-- The call works on these labels only. -/
def Within (L : ℓ → Prop) (m : Async σ ℓ α) : Prop :=
  ∀ k : α → Task σ ℓ, (∀ a, (k a).Within L) → (m k).Within L

variable {L : ℓ → Prop}

theorem Within.task {m : Async σ ℓ Unit} (h : m.Within L) : m.task.Within L :=
  h _ fun _ => trivial

theorem within_pure {a : α} : (pure a : Async σ ℓ α).Within L := fun _ hk => hk a

theorem within_bind {f : α → Async σ ℓ β} (h : m.Within L) (hf : ∀ a, (f a).Within L) :
    (m >>= f).Within L :=
  fun k hk => h _ fun a => hf a k hk

theorem within_sync {f : Tick → σ → α × σ} : (sync f : Async σ ℓ α).Within L :=
  fun _ hk _ _ => hk _

theorem within_pause : (pause : Async σ ℓ Unit).Within L := fun _ hk => hk ()

theorem within_remote {f : Tick → σ → α × σ} : (remote f : Async σ ℓ α).Within L := by
  intro k hk t w
  by_cases hf : t.fails = true
  · simp only [if_pos hf]
    trivial
  · simp only [if_neg hf]
    exact hk _

theorem within_attempt {f : Tick → σ → α × σ} : (attempt f : Async σ ℓ (Option α)).Within L :=
  fun _ hk _ _ => hk _

theorem within_spawn {m : Async σ ℓ Unit} (h : m.Within L) : (spawn m).Within L :=
  fun _ hk => ⟨h.task, hk ()⟩

theorem within_throw : (throw : Async σ ℓ α).Within L := fun _ _ => trivial

theorem within_enter {l : ℓ} (hl : L l) : (enter l : Async σ ℓ Unit).Within L :=
  fun _ hk => ⟨hl, hk ()⟩

theorem within_forEach {as : List α} {f : α → Async σ ℓ Unit} (hf : ∀ a, (f a).Within L) :
    (forEach as f).Within L := by
  induction as with
  | nil => exact within_pure
  | cons a as ih => exact within_bind (within_spawn (hf a)) fun _ => ih

/-- A call that depends on a condition. -/
theorem within_ite {p : Prop} [Decidable p] {m m' : Async σ ℓ α} (h : m.Within L)
    (h' : m'.Within L) : (if p then m else m').Within L := by
  split
  · exact h
  · exact h'

/-! ### Calm calls -/

/-- The call, if it is safe, makes calm changes only. -/
def Calms (R : Repair P) (m : Async σ ℓ Unit) (l : ℓ) (w : σ) : Prop :=
  P.inv w → m.task.Safe P l w → m.task.Safe R.protocol l w

theorem calms_of_within (hl : R.quiet l) {m : Async σ ℓ Unit} (h : m.Within R.quiet) :
    m.Calms R l w :=
  fun hi hs => hs.calm hi hl h.task

theorem calms_of_all {D : Deeds σ} (hD : ∀ t w w', D.rel t w w' → R.calm w w')
    {m : Async σ ℓ Unit} (h : m.All D) : m.Calms R l w :=
  fun _ hs => hs.calm_of_all hD h.task

/-- The call starts one that repairs the condition, and makes calm changes from then on. -/
theorem mends_spawn {m : Async σ ℓ Unit} {f : Unit → Async σ ℓ Unit} (hm : m.Mends R l w)
    (hf : ∀ w', (f ()).Calms R l w') : (spawn m >>= f).Mends R l w :=
  fun hs => .inl ⟨hm hs.1, fun w' hw hi => hf w' hi (hs.2 w' hw hi)⟩

/-- The call starts one that makes calm changes, and goes on. -/
theorem repairs_spawn {m : Async σ ℓ Unit} {Q : ℓ → Unit → σ → Prop} (hi : P.inv w)
    (hm : m.Calms R l w) (h : ∀ w', P.rely w w' → P.inv w' → Q l () w') :
    (spawn m).Repairs R l w Q :=
  fun _ hk hs => .inr ⟨hm hi hs.1, fun w' hw hi' => hk _ _ _ (h w' hw hi') (hs.2 w' hw hi')⟩

end Async

end EventLoop
