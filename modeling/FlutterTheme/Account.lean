import FlutterTheme.Rely
import FlutterTheme.Actions
import FlutterTheme.Labels
import Mathlib

/-!
# Accounting for suspended calls

A `Ledger` counts something in the world: the `balance` of what has been paid so far
and what is due. A suspended call *owes* what it will still add to the balance,
whatever the other calls do in the meantime. No event changes the sum of the balance
and of what all suspended calls owe.

* `Task.Owes` — running the call up to its next `await` leaves a world and
  suspended calls that owe a certain amount in all; at an `await` the amount is
  fixed once and for all.
* `Config.Balanced` — that sum has a given value, which no event changes
  (`System.balanced_resume`) but for what a new call owes (`System.balanced_call`).
  In a settled configuration nothing is owed.
* `Async.Pays` — the form of `Owes` for calls with a result.

A ledger is `exact`, or it only bounds what is paid. A failing operation drops what
its call still owes, so an exact ledger has scopes in which it is `strict`: there no
operation fails, and elsewhere nothing is owed.
-/

namespace EventLoop

variable {σ ℓ α β : Type}

/-! ## Ledgers -/

/-- What is counted. -/
structure Ledger (σ ℓ : Type) where
  /-- what has been paid, less what is due -/
  balance : σ → ℤ
  /-- what a call that is suspended in a scope may owe -/
  limit : ℓ → ℤ → Prop := fun _ _ => True
  /-- the scopes in which no operation fails -/
  strict : ℓ → Prop := fun _ => False
  /-- the count is exact, not only a bound -/
  exact : Prop

namespace Ledger

variable (A : Ledger σ ℓ)

/-- `a` fits in `b`, exactly if the ledger is exact. -/
def Fits (a b : ℤ) : Prop := a ≤ b ∧ (A.exact → a = b)

/-- Between `w` and `w'` the amount owed has gone from `n` to `m`. -/
def Settles (w w' : σ) (m n : ℤ) : Prop := A.Fits (A.balance w' + m) (A.balance w + n)

variable {A} {w w' w'' : σ} {a b c d m n k : ℤ}

theorem fits_refl (A : Ledger σ ℓ) (a : ℤ) : A.Fits a a := ⟨Int.le_refl a, fun _ => rfl⟩

/-- Comparisons add up, and what is on both sides cancels. -/
theorem Fits.add_cancel (h : A.Fits a b) (h' : A.Fits c d) (hl : n + k = a + c) (hr : m + k = b + d) :
    A.Fits n m := by
  obtain ⟨hle, heq⟩ := h
  obtain ⟨hle', heq'⟩ := h'
  refine ⟨by omega, fun he => ?_⟩
  have h₁ := heq he
  have h₂ := heq' he
  omega

/-- Nothing paid and nothing more due. -/
theorem settles_of_eq (h : A.balance w' = A.balance w) : A.Settles w w' n n := by
  rw [Settles, h]
  exact A.fits_refl _

theorem Settles.trans (h : A.Settles w w' m n) (h' : A.Settles w' w'' k m) :
    A.Settles w w'' k n :=
  h.add_cancel h' (k := A.balance w' + m) (by omega) (by omega)

end Ledger

/-! ## Tasks -/

/-- Running the call up to its next `await` leaves a world and suspended calls that
owe, in all, an amount with `R`; `R` sees the amount as if it was still owed at the
start. -/
def Task.Owes (P : Protocol σ ℓ) (A : Ledger σ ℓ) : Task σ ℓ → ℓ → σ → (σ → ℤ → Prop) → Prop
  | .done, _, w, R => R w 0
  | .throw, _, w, R => R w 0
  | .act f k, l, w, R => ∀ t, (A.strict l → t.fails = false) →
      P.rely w (f t w) ∧ P.inv (f t w) ∧ P.step l w (f t w) ∧
      (k t w).Owes P A l (f t w) fun w' m => ∃ n, A.Settles w (f t w) m n ∧ R w' n
  | .fork p k, l, w, R => p.Owes P A l w fun w' n => k.Owes P A l w' fun w'' m => R w'' (n + m)
  | .enter l' k, l, w, R => (A.strict l' → A.strict l) ∧ k.Owes P A l' w R
  | .await k, l, w, R => ∃ n, R w n ∧ A.limit l n ∧
      ∀ w', P.rely w w' → P.inv w' → P.promise l w' → k.Owes P A l w' fun _ m => m = n

variable {P : Protocol σ ℓ} {A : Ledger σ ℓ}

/-- The suspended call owes `n`, whenever it is resumed after `w`. -/
def Thread.Owes (P : Protocol σ ℓ) (A : Ledger σ ℓ) (w : σ) (th : Thread σ ℓ) (n : ℤ) : Prop :=
  A.limit th.scope n ∧
  ∀ w', P.rely w w' → P.inv w' → P.promise th.scope w' →
    th.task.Owes P A th.scope w' fun _ m => m = n

theorem Thread.Owes.mono {th : Thread σ ℓ} {n : ℤ} {w w' : σ} (h : th.Owes P A w n)
    (hw : P.rely w w') : th.Owes P A w' n :=
  ⟨h.1, fun w'' hw' hi hp => h.2 w'' (P.rely_trans hw hw') hi hp⟩

/-- A task that pays a debt also pays it towards a weaker condition on what is left. By induction on
the task; only the leaves and the suspension points look at the condition. -/
theorem Task.Owes.mono {t : Task σ ℓ} : ∀ {l : ℓ} {w : σ} {R R' : σ → ℤ → Prop},
    t.Owes P A l w R → (∀ w n, R w n → R' w n) → t.Owes P A l w R' := by
  induction t with
  | done => exact fun h hR => hR _ _ h
  | throw => exact fun h hR => hR _ _ h
  | act f k ih =>
    intro l w R R' h hR t ht
    obtain ⟨hle, hinv, hstep, hk⟩ := h t ht
    refine ⟨hle, hinv, hstep, ih t w hk ?_⟩
    rintro w' m ⟨n, hn, hr⟩
    exact ⟨n, hn, hR w' n hr⟩
  | fork p k ihp ihk =>
    exact fun h hR => ihp h fun w' n hk => ihk hk fun w'' m hr => hR w'' (n + m) hr
  | enter l k ih => exact fun h hR => ⟨h.1, ih h.2 hR⟩
  | await k ih =>
    intro l w R R' h hR
    obtain ⟨n, hr, hl, hk⟩ := h
    exact ⟨n, hR w n hr, hl, hk⟩

/-- The world that a segment leaves is a later one, with the invariant. -/
theorem Task.Owes.later {t : Task σ ℓ} : ∀ {l : ℓ} {w : σ} {R : σ → ℤ → Prop}, P.inv w →
    t.Owes P A l w R → t.Owes P A l w fun w' n => P.rely w w' ∧ P.inv w' ∧ R w' n := by
  induction t with
  | done => exact fun hi h => ⟨P.rely_refl _, hi, h⟩
  | throw => exact fun hi h => ⟨P.rely_refl _, hi, h⟩
  | act f k ih =>
    intro l w R _ h t ht
    obtain ⟨hle, hinv, hstep, hk⟩ := h t ht
    refine ⟨hle, hinv, hstep, (ih t w hinv hk).mono ?_⟩
    rintro w' m ⟨hle', hinv', n, hn, hr⟩
    exact ⟨n, hn, P.rely_trans hle hle', hinv', hr⟩
  | fork p k ihp ihk =>
    intro l w R hi h
    refine (ihp hi h).mono ?_
    rintro w' n ⟨hle, hinv, hk⟩
    refine (ihk hinv hk).mono ?_
    rintro w'' m ⟨hle', hinv', hr⟩
    exact ⟨P.rely_trans hle hle', hinv', hr⟩
  | enter l k ih => exact fun hi h => ⟨h.1, ih hi h.2⟩
  | await k ih =>
    intro l w R hi h
    obtain ⟨n, hr, hl, hk⟩ := h
    exact ⟨n, ⟨P.rely_refl _, hi, hr⟩, hl, hk⟩

/-- A call that is suspended at once owes the amount it owes later. -/
theorem Task.Owes.await {t : Task σ ℓ} {l : ℓ} {w : σ} {n : ℤ} {R : σ → ℤ → Prop}
    (h : (Task.await t).Owes P A l w fun _ m => m = n) (hr : R w n) :
    (Task.await t).Owes P A l w R := by
  obtain ⟨_, rfl, hl, hk⟩ := h
  exact ⟨_, hr, hl, hk⟩

/-- A call whose actions are deeds that leave nothing to be settled owes nothing. -/
theorem Task.All.owes {D : Deeds σ} (hD : ∀ l t w w', P.inv w → D.rel t w w' →
      P.rely w w' ∧ P.inv w' ∧ P.step l w w' ∧ A.Settles w w' 0 0)
    (hlimit : ∀ l, A.limit l 0) (hstrict : ∀ l l', A.strict l → A.strict l') {t : Task σ ℓ} :
    ∀ {l : ℓ} {w : σ}, t.All D → P.inv w → t.Owes P A l w fun _ m => m = 0 := by
  induction t with
  | done => exact fun _ _ => rfl
  | throw => exact fun _ _ => rfl
  | act f k ih =>
    intro l w h hi t _
    obtain ⟨hle, hinv, hstep, hsettles⟩ := hD l t w _ hi (h t w).1
    refine ⟨hle, hinv, hstep, (ih t w (h t w).2 hinv).mono ?_⟩
    rintro w' m rfl
    exact ⟨0, hsettles, rfl⟩
  | fork p k ihp ihk =>
    intro l w h hi
    refine ((ihp h.1 hi).later hi).mono ?_
    rintro w' n ⟨-, hinv, rfl⟩
    refine (ihk h.2 hinv).mono ?_
    rintro w'' m rfl
    rfl
  | enter l' k ih => exact fun h hi => ⟨hstrict l' _, ih h hi⟩
  | await k ih =>
    exact fun {l} _ h _ => ⟨0, rfl, hlimit l, fun w' _ hi _ => ih h hi⟩

/-- What a segment has done to the account. -/
structure Outcome.Accounted (P : Protocol σ ℓ) (A : Ledger σ ℓ) (w : σ) (o : Outcome σ ℓ)
    (R : σ → ℤ → Prop) : Prop where
  /-- the world has only evolved -/
  le : P.rely w o.world
  /-- the invariant holds -/
  inv : P.inv o.world
  /-- every action was allowed -/
  steps : ∀ st ∈ o.steps, P.step st.scope st.before st.after
  /-- what the suspended calls owe -/
  owes : ∃ ns, List.Forall₂ (Thread.Owes P A o.world) o.threads ns ∧
    ∃ n, A.Settles w o.world ns.sum n ∧ R o.world n

/-- The run rule of accounts: a segment that starts with the invariant settles what its task owes,
up to the debts of the threads it leaves behind. By induction on the task; a `fork` adds the
accounts of the two halves. -/
theorem Task.Owes.run {ticks : ℕ → Tick} {t : Task σ ℓ} :
    ∀ {l : ℓ} {i : ℕ} {w : σ} {R : σ → ℤ → Prop}, (A.strict l → ∀ n, (ticks n).fails = false) →
      P.inv w → t.Owes P A l w R → (t.run ticks l i w).Accounted P A w R := by
  induction t with
  | done =>
    exact fun _ hi h => ⟨P.rely_refl _, hi, by simp [Task.run],
      [], .nil, 0, Ledger.settles_of_eq rfl, h⟩
  | throw =>
    exact fun _ hi h => ⟨P.rely_refl _, hi, by simp [Task.run],
      [], .nil, 0, Ledger.settles_of_eq rfl, h⟩
  | act f k ih =>
    intro l i w R ht _ h
    -- the action settles its part, the rest of the segment what is left
    obtain ⟨hle, hinv, hstep, hk⟩ := h (ticks i) fun hs => ht hs i
    obtain ⟨hle', hinv', hsteps, ns, hns, m, hm, n, hn, hr⟩ :=
      ih (ticks i) w (i := i + 1) ht hinv hk
    refine ⟨P.rely_trans hle hle', hinv', ?_, ns, hns, n, hn.trans hm, hr⟩
    intro st hst
    rcases List.mem_cons.mp hst with rfl | hst
    · exact hstep
    · exact hsteps st hst
  | fork p k ihp ihk =>
    intro l i w R ht hi h
    obtain ⟨hle, hinv, hsteps, ns, hns, n, hn, hk⟩ := ihp (i := i) ht hi h
    obtain ⟨hle', hinv', hsteps', ms, hms, m, hm, hr⟩ :=
      ihk (i := (p.run ticks l i w).used) ht hinv hk
    refine ⟨P.rely_trans hle hle', hinv', ?_, ns ++ ms, ?_, n + m, ?_, hr⟩
    · intro st hst
      rcases List.mem_append.mp hst with hst | hst
      · exact hsteps st hst
      · exact hsteps' st hst
    · exact List.rel_append (hns.imp fun _ _ h => h.mono hle') hms
    · -- both calls settle their own accounts
      rw [List.sum_append]
      exact hn.add_cancel hm (k := A.balance (p.run ticks l i w).world)
        (by simp only [Task.run]; omega) (by omega)
  | enter l k ih => exact fun ht hi h => ih (fun hs => ht (h.1 hs)) hi h.2
  | await k ih =>
    intro l i w R _ hi h
    obtain ⟨n, hr, hl, hk⟩ := h
    refine ⟨P.rely_refl _, hi, by simp [Task.run], [n], .cons ⟨hl, hk⟩ .nil, n, ?_, hr⟩
    rw [List.sum_singleton]
    exact Ledger.settles_of_eq rfl

/-! ## Runs -/

/-- The balance and what the suspended calls owe add up to `total`. -/
structure Config.Balanced (P : Protocol σ ℓ) (A : Ledger σ ℓ) (c : Config σ ℓ) (total : ℤ) :
    Prop where
  /-- the invariant holds -/
  inv : P.inv c.world
  /-- every suspended call owes something -/
  owes : ∃ ns, List.Forall₂ (Thread.Owes P A c.world) c.threads ns ∧
    A.Fits (A.balance c.world + ns.sum) total

namespace System

variable {S : System σ ℓ α} {c : Config σ ℓ} {ticks : ℕ → Tick} {total : ℤ}

/-- No operation fails at the event in a scope in which the ledger is strict. -/
def Admits (S : System σ ℓ α) (A : Ledger σ ℓ) (c : Config σ ℓ) : Event α → Prop
  | .call a ticks => A.strict (S.scope a c.world) → ∀ n, (ticks n).fails = false
  | .resume i ticks => ∀ th, c.threads[i]? = some th → A.strict th.scope →
      ∀ n, (ticks n).fails = false

/-- A handler that is started adds what it owes to the total. -/
theorem balanced_call (hc : c.Balanced P A total) {a : α} (ht : S.Admits A c (.call a ticks))
    {R : σ → ℤ → Prop} (h : (S.body a).task.Owes P A (S.scope a c.world) c.world R) :
    ∃ n, (S.apply c (.call a ticks)).Balanced P A (total + n) ∧
      P.rely c.world (S.apply c (.call a ticks)).world ∧
      R (S.apply c (.call a ticks)).world n := by
  obtain ⟨hle, hinv, -, ms, hms, n, hn, hr⟩ := Task.Owes.run (i := 0) ht hc.inv h
  obtain ⟨ns, hns, hfits⟩ := hc.owes
  refine ⟨n, ⟨hinv, ns ++ ms, ?_, ?_⟩, hle, hr⟩
  · exact List.rel_append (hns.imp fun _ _ h => h.mono hle) hms
  · rw [List.sum_append]
    exact hfits.add_cancel hn (k := A.balance c.world)
      (by simp only [apply, outcome]; omega) (by omega)

/-- A handler of which the first actions have changed nothing, and of which `t` is left. -/
theorem balanced_rest (hc : c.Balanced P A total) {a : α} {t : Task σ ℓ} {l : ℓ} {i : ℕ}
    {steps : List (Step σ ℓ)} (ht : A.strict l → ∀ n, (ticks n).fails = false)
    (ho : S.outcome c (.call a ticks) = { t.run ticks l i c.world with steps := steps })
    {n : ℤ} (h : t.Owes P A l c.world fun _ m => m = n) :
    (S.apply c (.call a ticks)).Balanced P A (total + n) := by
  obtain ⟨hle, hinv, -, ms, hms, _, hn, rfl⟩ := Task.Owes.run (i := i) ht hc.inv h
  obtain ⟨ns, hns, hfits⟩ := hc.owes
  simp only [apply, ho, Config.kept]
  refine ⟨hinv, ns ++ ms, List.rel_append (hns.imp fun _ _ h => h.mono hle) hms, ?_⟩
  rw [List.sum_append]
  exact hfits.add_cancel hn (k := A.balance c.world) (by dsimp only; omega) (by omega)

/-- A handler that is carried on settles its own account: what its thread has owed is taken off,
what the segment pays and what its new threads owe is put on, and the total stays. -/
theorem balanced_resume (hc : c.Balanced P A total) {i : ℕ}
    (ht : S.Admits A c (.resume i ticks))
    (hp : ∀ th, c.threads[i]? = some th → P.promise th.scope c.world) :
    (S.apply c (.resume i ticks)).Balanced P A total ∧
      P.rely c.world (S.apply c (.resume i ticks)).world := by
  obtain ⟨ns, hns, hfits⟩ := hc.owes
  cases hth : c.threads[i]? with
  | none =>
    rw [apply_resume_none hth]
    exact ⟨hc, P.rely_refl _⟩
  | some th =>
    obtain ⟨n, ns', hn, hns', hsum⟩ := forall₂_eraseIdx hns hth
    have howes := hn.2 c.world (P.rely_refl _) hc.inv (hp th hth)
    obtain ⟨hle, hinv, -, ms, hms, n', hn', rfl⟩ :=
      Task.Owes.run (i := 0) (ht th hth) hc.inv howes
    refine ⟨⟨?_, ns' ++ ms, ?_, ?_⟩, ?_⟩ <;> simp only [apply, outcome, hth, Config.kept]
    · exact hinv
    · exact List.rel_append (hns'.imp fun _ _ h => h.mono hle) hms
    · rw [List.sum_append]
      exact hfits.add_cancel hn' (k := A.balance c.world + n') (by omega) (by omega)
    · exact hle

end System

/-- In a settled configuration nothing is owed. -/
theorem Config.Balanced.settled {c : Config σ ℓ} {total : ℤ} (hc : c.Balanced P A total)
    (hset : c.Settled) : A.Fits (A.balance c.world) total := by
  obtain ⟨ns, hns, hfits⟩ := hc.owes
  rw [hset] at hns
  cases hns
  rwa [List.sum_nil, add_zero] at hfits

/-- Where no suspended call may owe less than nothing, the total is a bound. -/
theorem Config.Balanced.le {c : Config σ ℓ} {total : ℤ} (hc : c.Balanced P A total)
    (hl : ∀ l n, A.limit l n → 0 ≤ n) : A.balance c.world ≤ total := by
  obtain ⟨ns, hns, hle, -⟩ := hc.owes
  have hsum : 0 ≤ ns.sum := by
    refine List.sum_nonneg fun n hn => ?_
    obtain ⟨i, hi, rfl⟩ := List.getElem_of_mem hn
    have hi' : i < c.threads.length := hns.length_eq ▸ hi
    exact hl _ _ (hns.get hi' hi).1
  omega

/-- Where no suspended call may owe anything, nothing is owed. -/
theorem Config.Balanced.nothing_owed {c : Config σ ℓ} {total : ℤ} (hc : c.Balanced P A total)
    (hl : ∀ th ∈ c.threads, ∀ n, A.limit th.scope n → n = 0) :
    ∃ ns, List.Forall₂ (Thread.Owes P A c.world) c.threads ns ∧ ns.sum = 0 ∧
      A.Fits (A.balance c.world) total := by
  obtain ⟨ns, hns, hfits⟩ := hc.owes
  have hzero : ns.sum = 0 := by
    refine List.sum_eq_zero fun n hn => ?_
    obtain ⟨i, hi, rfl⟩ := List.getElem_of_mem hn
    have hi' : i < c.threads.length := hns.length_eq ▸ hi
    exact hl _ (List.getElem_mem hi') _ (hns.get hi' hi).1
  rw [hzero, add_zero] at hfits
  exact ⟨ns, hns, hzero, hfits⟩

/-- The total may then be taken anew. -/
theorem Config.Balanced.restart {c : Config σ ℓ} {total total' : ℤ} (hc : c.Balanced P A total)
    (hl : ∀ th ∈ c.threads, ∀ n, A.limit th.scope n → n = 0)
    (h : A.Fits (A.balance c.world) total') : c.Balanced P A total' := by
  obtain ⟨ns, hns, hzero, -⟩ := hc.nothing_owed hl
  refine ⟨hc.inv, ns, hns, ?_⟩
  rwa [hzero, add_zero]

/-! ## Calls with a result -/

namespace Async

/-- The call owes `n`, and leaves it to its caller to owe `r` of it, where its
result is handed on with `Q`. -/
def Pays (P : Protocol σ ℓ) (A : Ledger σ ℓ) (m : Async σ ℓ α) (l : ℓ) (w : σ) (n : ℤ)
    (Q : ℓ → α → σ → ℤ → Prop) : Prop :=
  ∀ k : α → Task σ ℓ, (∀ l' a w' r, Q l' a w' r → (k a).Owes P A l' w' fun _ m => m = r) →
    (m k).Owes P A l w fun _ m => m = n

variable {l : ℓ} {w : σ} {n : ℤ} {m : Async σ ℓ α} {Q : ℓ → α → σ → ℤ → Prop}

/-- A call that leaves nothing to its caller. -/
theorem Pays.owes {m : Async σ ℓ Unit} (h : Pays P A m l w n fun _ _ _ r => r = 0) :
    m.task.Owes P A l w fun _ m => m = n :=
  h _ fun _ _ _ _ hr => hr.symm

theorem Pays.mono {Q' : ℓ → α → σ → ℤ → Prop} (h : Pays P A m l w n Q)
    (hQ : ∀ l' a w' r, Q l' a w' r → Q' l' a w' r) : Pays P A m l w n Q' :=
  fun k hk => h k fun l' a w' r hq => hk l' a w' r (hQ l' a w' r hq)

theorem pays_pure {a : α} (h : Q l a w n) : Pays P A (pure a) l w n Q := fun _ hk => hk l a w n h

theorem pays_bind {Q : ℓ → β → σ → ℤ → Prop} {f : α → Async σ ℓ β}
    (h : Pays P A m l w n fun l' a w' r => Pays P A (f a) l' w' r Q) :
    Pays P A (m >>= f) l w n Q :=
  fun k hk => h _ fun _ _ _ _ hf => hf k hk

/-- A call that leaves what it still owes to the rest of its caller. -/
theorem Pays.seq {f : α → Async σ ℓ Unit} (h : Pays P A m l w n Q)
    (hf : ∀ l' a w' r, Q l' a w' r → (f a).task.Owes P A l' w' fun _ m => m = r) :
    (m >>= f).task.Owes P A l w fun _ m => m = n :=
  h _ hf

theorem pays_throw (h : n = 0) : Pays P A (throw : Async σ ℓ α) l w n Q := fun _ _ => h.symm

theorem pays_enter {l' : ℓ} {Q : ℓ → Unit → σ → ℤ → Prop} (hl : A.strict l' → A.strict l)
    (h : Q l' () w n) : Pays P A (enter l') l w n Q :=
  fun _ hk => ⟨hl, hk l' () w n h⟩

theorem pays_sync {f : Tick → σ → α × σ}
    (h : ∀ t, P.rely w (f t w).2 ∧ P.inv (f t w).2 ∧ P.step l w (f t w).2 ∧
      ∃ r, A.Settles w (f t w).2 r n ∧ Q l (f t w).1 (f t w).2 r) : Pays P A (sync f) l w n Q := by
  intro k hk t _
  obtain ⟨hle, hinv, hstep, r, hr, hq⟩ := h t
  refine ⟨hle, hinv, hstep, (hk _ _ _ r hq).mono ?_⟩
  rintro w' _ rfl
  exact ⟨n, hr, rfl⟩

theorem pays_get {g : σ → α} (hi : P.inv w) (h : Q l (g w) w n) : Pays P A (get g) l w n Q :=
  pays_sync fun _ => ⟨P.rely_refl _, hi, P.step_refl _ _, n, Ledger.settles_of_eq rfl, h⟩

theorem pays_pause {Q : ℓ → Unit → σ → ℤ → Prop} (hl : A.limit l n)
    (h : ∀ w', P.rely w w' → P.inv w' → P.promise l w' → Q l () w' n) :
    Pays P A pause l w n Q :=
  fun _ hk => ⟨n, rfl, hl, fun w' hw hi hp => hk _ _ _ n (h w' hw hi hp)⟩

/-- A remote operation pays when it takes effect. Where it may fail, what is owed may be
dropped. -/
theorem pays_remote {f : Tick → σ → α × σ} (hl : A.limit l n) (hn : A.strict l ∨ A.Fits 0 n)
    (h : ∀ w', P.rely w w' → P.inv w' → P.promise l w' → ∀ t, t.fails = false →
      P.rely w' (f t w').2 ∧ P.inv (f t w').2 ∧ P.step l w' (f t w').2 ∧
      ∃ r, A.Settles w' (f t w').2 r n ∧ A.limit l r ∧
        ∀ w'', P.rely (f t w').2 w'' → P.inv w'' → P.promise l w'' → Q l (f t w').1 w'' r) :
    Pays P A (remote f) l w n Q := by
  intro k hk
  refine ⟨n, rfl, hl, fun w' hw hi hp t ht => ?_⟩
  by_cases hf : t.fails = true
  · simp only [if_pos hf]
    refine ⟨P.rely_refl w', hi, P.step_refl l w', ?_⟩
    rcases hn with hs | hn
    · rw [ht hs] at hf
      cases hf
    · exact ⟨n, hn.add_cancel (A.fits_refl (A.balance w')) (k := 0) (by omega) (by omega), rfl⟩
  · obtain ⟨hle, hinv, hstep, r, hr, hlr, hq⟩ := h w' hw hi hp t (Bool.eq_false_iff.mpr hf)
    simp only [if_neg hf]
    exact ⟨hle, hinv, hstep, r, ⟨n, hr, rfl⟩, hlr,
      fun w'' hw' hi' hp' => hk _ _ _ r (hq w'' hw' hi' hp')⟩

/-- An operation whose failure is caught. What is owed when it fails is what its caller is
left with then. -/
theorem pays_attempt {f : Tick → σ → α × σ} {Q : ℓ → Option α → σ → ℤ → Prop} (hl : A.limit l n)
    (h : ∀ w', P.rely w w' → P.inv w' → P.promise l w' → ∀ t, t.fails = false →
      P.rely w' (f t w').2 ∧ P.inv (f t w').2 ∧ P.step l w' (f t w').2 ∧
      ∃ r, A.Settles w' (f t w').2 r n ∧ A.limit l r ∧
        ∀ w'', P.rely (f t w').2 w'' → P.inv w'' → P.promise l w'' →
          Q l (some (f t w').1) w'' r)
    (hfail : ∃ r, A.Fits r n ∧ A.limit l r ∧ ∀ w', P.inv w' → Q l none w' r) :
    Pays P A (attempt f) l w n Q := by
  intro k hk
  refine ⟨n, rfl, hl, fun w' hw hi hp t _ => ?_⟩
  by_cases hf : t.fails = true
  · simp only [if_pos hf]
    obtain ⟨r, hr, hlr, hq⟩ := hfail
    refine ⟨P.rely_refl w', hi, P.step_refl l w', r, ⟨n, ?_, rfl⟩, hlr,
      fun w'' _ hi' _ => hk _ _ _ r (hq w'' hi')⟩
    exact hr.add_cancel (A.fits_refl (A.balance w')) (k := 0) (by omega) (by omega)
  · obtain ⟨hle, hinv, hstep, r, hr, hlr, hq⟩ := h w' hw hi hp t (Bool.eq_false_iff.mpr hf)
    simp only [if_neg hf]
    exact ⟨hle, hinv, hstep, r, ⟨n, hr, rfl⟩, hlr,
      fun w'' hw' hi' hp' => hk _ _ _ r (hq w'' hw' hi' hp')⟩

/-- A call that is started takes over a part of what is owed. -/
theorem pays_spawn {m : Async σ ℓ Unit} {Q : ℓ → Unit → σ → ℤ → Prop} {p : ℤ} (hi : P.inv w)
    (hm : m.task.Owes P A l w fun _ r => r = p)
    (h : ∀ w', P.rely w w' → P.inv w' → ∃ r, n = p + r ∧ Q l () w' r) :
    Pays P A (spawn m) l w n Q := by
  intro k hk
  refine (hm.later hi).mono ?_
  rintro w' _ ⟨hle, hinv, rfl⟩
  obtain ⟨r, hr, hq⟩ := h w' hle hinv
  refine (hk _ _ _ r hq).mono ?_
  rintro w'' _ rfl
  exact hr.symm

/-! ### Before the first `await` -/

theorem owes_bind {f : α → Async σ ℓ β} {k : β → Task σ ℓ} {R : σ → ℤ → Prop}
    (h : (m fun a => f a k).Owes P A l w R) : ((m >>= f) k).Owes P A l w R := h

/-- An action that neither pays nor makes anything due. -/
theorem owes_sync_of_eq {f : Tick → σ → α × σ} {k : α → Task σ ℓ} {R : σ → ℤ → Prop}
    (h : ∀ t, P.rely w (f t w).2 ∧ P.inv (f t w).2 ∧ P.step l w (f t w).2 ∧
      A.balance (f t w).2 = A.balance w ∧ (k (f t w).1).Owes P A l (f t w).2 R) :
    (sync f k).Owes P A l w R := by
  intro t _
  obtain ⟨hle, hinv, hstep, hbal, hk⟩ := h t
  exact ⟨hle, hinv, hstep, hk.mono fun _ n hr => ⟨n, Ledger.settles_of_eq hbal, hr⟩⟩

/-- A change of the world that settles `r` at once. -/
theorem owes_modify {f : σ → σ} {k : Unit → Task σ ℓ} {R : σ → ℤ → Prop} {r : ℤ}
    (hle : P.rely w (f w)) (hi : P.inv (f w)) (hs : P.step l w (f w))
    (hbal : A.balance (f w) = A.balance w + r)
    (h : (k ()).Owes P A l (f w) fun w' m => R w' (m + r)) : (modify f k).Owes P A l w R := by
  refine fun t _ => ⟨hle, hi, hs, h.mono ?_⟩
  refine fun w' m hr => ⟨m + r, ⟨?_, fun _ => ?_⟩, hr⟩ <;> simp only [hbal] <;> omega

theorem owes_get {g : σ → α} {k : α → Task σ ℓ} {R : σ → ℤ → Prop} (hi : P.inv w)
    (h : (k (g w)).Owes P A l w R) : (get g k).Owes P A l w R :=
  owes_sync_of_eq fun _ => ⟨P.rely_refl _, hi, P.step_refl _ _, rfl, h⟩

/-- Calls started for all elements of a list: together they owe the sum of what they
owe one by one, an amount `D` that is known, and does not change any more, once a
call has been started. What they leave as it is before they are suspended is `G`. -/
theorem owes_forEach {as : List α} {f : α → Async σ ℓ Unit} {k : Unit → Task σ ℓ}
    {R : σ → ℤ → Prop} (Started : α → σ → Prop) (D : α → σ → ℤ) (G : σ → β) (hi : P.inv w)
    (hstable : ∀ a w w', P.rely w w' → Started a w → Started a w' ∧ D a w' = D a w)
    (hf : ∀ a ∈ as, ∀ w', P.rely w w' → P.inv w' →
      (f a).task.Owes P A l w' fun w'' n => Started a w'' ∧ n = D a w'' ∧ G w'' = G w')
    (h : ∀ w', P.rely w w' → P.inv w' → (∀ a ∈ as, Started a w') → G w' = G w →
      (k ()).Owes P A l w' fun w'' m => R w'' ((as.map (D · w')).sum + m)) :
    (forEach as f k).Owes P A l w R := by
  induction as generalizing w R with
  | nil =>
    refine (h w (P.rely_refl w) hi (by simp) rfl).mono ?_
    intro w' m hr
    rwa [List.map_nil, List.sum_nil, zero_add] at hr
  | cons a as ih =>
    refine ((hf a (List.mem_cons_self ..) w (P.rely_refl w) hi).later hi).mono ?_
    rintro w₁ n ⟨hw₁, hi₁, hstarted, rfl, hg⟩
    refine ih hi₁ (fun b hb w' hw' => hf b (List.mem_cons_of_mem _ hb) w' (P.rely_trans hw₁ hw')) ?_
    intro w' hw' hi' hall hg'
    obtain ⟨hstarted', hd⟩ := hstable a w₁ w' hw' hstarted
    refine (h w' (P.rely_trans hw₁ hw') hi' ?_ (hg'.trans hg)).mono ?_
    · intro b hb
      rcases List.mem_cons.mp hb with rfl | hb
      · exact hstarted'
      · exact hall b hb
    · intro w'' m hr
      rwa [List.map_cons, List.sum_cons, hd, add_assoc] at hr

end Async

end EventLoop
