import FlutterTheme.Actions
import FlutterTheme.Ends
import FlutterTheme.Labels

/-!
# What calls take back

A call may do something to the world that a later part of it takes back, such as setting a flag. An
`Upkeep` says what the suspended calls and the world have to do with each other then, what may be
done by a call that owes nothing, and in which scopes no operation fails.

* `Task.Gives` — running the call up to its next `await`, whatever the environment decides, leaves
  a world and suspended calls with certain labels.
* `Task.Repays` — a suspended call that owes something: it goes on through operations that change
  nothing and do not fail, and takes back what it owes in its last segment.
* `Config.Upheld` — the invariant holds of the world and of what all suspended calls owe. Every event
  keeps it (`System.apply_upheld`), so it holds with nothing owed when nothing is suspended.
-/

namespace EventLoop

variable {σ ℓ α M : Type} [AddCommMonoid M]

/-! ## Segments -/

/-- Running the call up to its next `await` leaves a world and suspended calls whose labels add up
to what satisfies `R`. -/
def Task.Gives (L : Thread σ ℓ → M → Prop) : Task σ ℓ → ℓ → σ → (σ → M → Prop) → Prop
  | .done, _, w, R => R w 0
  | .throw, _, w, R => R w 0
  | .act f k, l, w, R => ∀ t, (k t w).Gives L l (f t w) R
  | .fork p k, l, w, R => p.Gives L l w fun w' r => k.Gives L l w' fun w'' r' => R w'' (r + r')
  | .enter l k, _, w, R => k.Gives L l w R
  | .await k, l, w, R => ∃ r, L ⟨l, k⟩ r ∧ R w r

/-- The run rule of labels: the threads that a segment leaves behind have labels whose sum is what
its task gives. By induction on the task. -/
theorem Task.Gives.run {L : Thread σ ℓ → M → Prop} (ticks : ℕ → Tick) {t : Task σ ℓ} :
    ∀ {l : ℓ} {n : ℕ} {w : σ} {R : σ → M → Prop}, t.Gives L l w R →
      ∃ r, Labelled L (t.run ticks l n w).threads r ∧ R (t.run ticks l n w).world r := by
  induction t with
  | done => exact fun h => ⟨0, labelled_nil, h⟩
  | throw => exact fun h => ⟨0, labelled_nil, h⟩
  | act f k ih => exact fun {_ n w _} h => ih (ticks n) w (h (ticks n))
  | fork p k ihp ihk =>
    intro l n w R h
    obtain ⟨r, hr, hk⟩ := ihp (l := l) (n := n) h
    obtain ⟨r', hr', hR⟩ := ihk (l := l) (n := (p.run ticks l n w).used) hk
    exact ⟨r + r', hr.append hr', hR⟩
  | enter l k ih => exact fun h => ih h
  | await k ih =>
    intro l n w R h
    obtain ⟨r, hr, hR⟩ := h
    refine ⟨r, ?_, hR⟩
    have hone := Labelled.cons hr (labelled_nil (L := L))
    rwa [add_zero] at hone

/-! ## Debts -/

/-- What the suspended calls and the world have to do with each other. -/
structure Upkeep (σ ℓ M : Type) [AddCommMonoid M] where
  /-- what a call does that owes nothing -/
  deeds : Deeds σ
  /-- holds of the world and of what all suspended calls owe -/
  inv : σ → M → Prop
  /-- the scopes in which no operation fails -/
  firm : ℓ → Prop
  keeps : ∀ {t w w' r}, deeds.rel t w w' → inv w r → inv w' r

variable {U : Upkeep σ ℓ M} {r f : M} {l : ℓ} {w : σ} {t : Task σ ℓ}

/-- The suspended call owes nothing, and takes nothing back. -/
def Upkeep.Quiet (U : Upkeep σ ℓ M) (th : Thread σ ℓ) (r : M) : Prop :=
  th.task.All U.deeds ∧ r = 0

/-- A call that owes nothing leaves the invariant and calls that owe nothing. -/
theorem Task.All.gives {L : Thread σ ℓ → M → Prop} (hL : ∀ th, th.task.All U.deeds → L th 0)
    {t : Task σ ℓ} : ∀ {l : ℓ} {w : σ} {R : σ → M → Prop}, t.All U.deeds → U.inv w f →
      (∀ w', U.inv w' f → R w' 0) → t.Gives L l w R := by
  induction t with
  | done => exact fun _ hi hR => hR _ hi
  | throw => exact fun _ hi hR => hR _ hi
  | act g k ih => exact fun h hi hR t => ih t _ (h t _).2 (U.keeps (h t _).1 hi) hR
  | fork p k ihp ihk =>
    refine fun h hi hR => ihp h.1 hi fun w' hi' => ihk h.2 hi' fun w'' hi'' => ?_
    rw [zero_add]
    exact hR w'' hi''
  | enter l k ih => exact fun h hi hR => ih h hi hR
  | await k ih => exact fun h hi hR => ⟨0, hL _ h, hR _ hi⟩

/-- What the suspended call owes is `r`. -/
inductive Task.Repays (U : Upkeep σ ℓ M) (r : M) : ℓ → Task σ ℓ → Prop where
  /-- everything is taken back before the call is suspended again -/
  | last {l : ℓ} {t : Task σ ℓ} (h : ∀ w f, U.inv w (r + f) →
      t.Gives U.Quiet l w fun w' r' => r' = 0 ∧ U.inv w' f) : Repays U r l t
  | await {l : ℓ} {t : Task σ ℓ} (h : Repays U r l t) : Repays U r l (.await t)
  /-- an operation that changes nothing, and must not fail if anything is owed -/
  | remote {l : ℓ} {k : Tick → σ → Task σ ℓ} (hl : r = 0 ∨ U.firm l)
      (hk : ∀ t w, Repays U r l (k t w)) :
      Repays U r l (.act (fun t w => if t.fails then w else w)
        fun t w => if t.fails then .throw else .await (k t w))
  /-- an operation that changes nothing, of which a failure is caught -/
  | attempt {l : ℓ} {k : Tick → σ → Task σ ℓ} (hk : ∀ t w, Repays U r l (k t w)) :
      Repays U r l (.act (fun t w => if t.fails then w else w) fun t w => .await (k t w))
  | fork {l : ℓ} {p k : Task σ ℓ} (hp : Repays U r l p) (hk : k.All U.deeds) :
      Repays U r l (.fork p k)
  | enter {l l' : ℓ} {t : Task σ ℓ} (h : Repays U r l' t) : Repays U r l (.enter l' (.await t))

/-- What a suspended call owes. -/
def Upkeep.owing (U : Upkeep σ ℓ M) (th : Thread σ ℓ) (r : M) : Prop := th.task.Repays U r th.scope

theorem Task.All.repays (h : t.All U.deeds) : t.Repays U 0 l :=
  .last fun w f hi => h.gives (fun _ hth => ⟨hth, rfl⟩) hi fun w' hi' => ⟨rfl, by rwa [zero_add] at hi'⟩

theorem Upkeep.Quiet.owing {th : Thread σ ℓ} (h : U.Quiet th r) : U.owing th r := by
  obtain ⟨hall, rfl⟩ := h
  exact hall.repays

theorem labelled_quiet {ths : List (Thread σ ℓ)} (h : ∀ th ∈ ths, th.task.All U.deeds) :
    Labelled U.owing ths 0 :=
  labelled_zero fun th hth => (h th hth).repays

theorem labelled_one {th : Thread σ ℓ} (h : U.owing th r) : Labelled U.owing [th] r := by
  have hone := Labelled.cons h (labelled_nil (L := U.owing))
  rwa [add_zero] at hone

/-- A segment of a call that owes nothing. -/
theorem Task.All.upheld (h : t.All U.deeds) (ticks : ℕ → Tick) (n : ℕ) (hi : U.inv w f) :
    Labelled U.owing (t.run ticks l n w).threads 0 ∧ U.inv (t.run ticks l n w).world f := by
  obtain ⟨r, hr, rfl, hi'⟩ := Task.Gives.run ticks (l := l) (n := n)
    (h.gives (L := U.Quiet) (R := fun w' r => r = 0 ∧ U.inv w' f) (fun _ hth => ⟨hth, rfl⟩) hi
      fun w' hi' => ⟨rfl, hi'⟩)
  exact ⟨labelled_quiet fun th hth => h.threads th hth, hi'⟩

/-- A segment of a call that owes something: what is owed is taken back or handed on. -/
theorem Task.Repays.run (h : t.Repays U r l) (ticks : ℕ → Tick)
    (hticks : U.firm l → ∀ n, (ticks n).fails = false) :
    ∀ {n : ℕ} {w : σ}, U.inv w (r + f) → ∃ r', Labelled U.owing (t.run ticks l n w).threads r' ∧
      U.inv (t.run ticks l n w).world (r' + f) := by
  induction h with
  | @last l t h =>
    intro n w hi
    obtain ⟨r', hr', rfl, hi'⟩ := (h w f hi).run ticks (n := n)
    exact ⟨0, hr'.mono fun _ _ => Upkeep.Quiet.owing, by rwa [zero_add]⟩
  | @await l t h => exact fun hi => ⟨r, labelled_one h, hi⟩
  | @remote l k hl hk ih =>
    intro n w hi
    by_cases hf : (ticks n).fails = true
    · have hr : r = 0 := hl.resolve_right fun hfirm => by
        rw [hticks hfirm n] at hf
        exact Bool.noConfusion hf
      refine ⟨0, ?_, ?_⟩ <;> simp only [Task.run, if_pos hf]
      · exact labelled_nil
      · rwa [hr] at hi
    · refine ⟨r, ?_, ?_⟩ <;> simp only [Task.run, if_neg hf]
      · exact labelled_one (hk _ _)
      · exact hi
  | @attempt l k hk ih =>
    intro n w hi
    refine ⟨r, labelled_one (hk _ _), ?_⟩
    simp only [Task.run, ite_self]
    exact hi
  | @fork l p k hp hk ih =>
    intro n w hi
    obtain ⟨r', hr', hi'⟩ := ih hticks (n := n) hi
    obtain ⟨hquiet, hi''⟩ := hk.upheld (l := l) ticks (p.run ticks l n w).used hi'
    refine ⟨r' + 0, hr'.append hquiet, ?_⟩
    rwa [add_zero]
  | @enter l l' t h => exact fun hi => ⟨r, labelled_one h, hi⟩

/-! ## Runs -/

/-- The invariant holds of the world and of what all suspended calls owe. -/
def Config.Upheld (U : Upkeep σ ℓ M) (c : Config σ ℓ) : Prop :=
  ∃ r, c.Labelled U.owing r ∧ U.inv c.world r

/-- When nothing is suspended, nothing is owed. -/
theorem Config.Upheld.settled {c : Config σ ℓ} (h : c.Upheld U) (hc : c.Settled) :
    U.inv c.world 0 := by
  obtain ⟨r, hr, hi⟩ := h
  obtain rfl := hr.settled hc
  exact hi

namespace System

variable {S : System σ ℓ α} {ok : Config σ ℓ → Event α → Prop} {c₀ c : Config σ ℓ} {e : Event α}
  {es : List (Event α)}

/-- A call that is started leaves the invariant together with what it owes then. -/
def Starts (S : System σ ℓ α) (U : Upkeep σ ℓ M) (a : α) (w : σ) : Prop :=
  ∀ f, U.inv w f → (S.body a).task.Gives U.owing (S.scope a w) w fun w' r => U.inv w' (r + f)

/-- One event keeps the invariant with the labels of what is under way: a call that starts brings
its own, and one that goes on gives up the one it had. -/
theorem apply_upheld (hc : c.Upheld U) (hfirm : Succeeds U.firm c e)
    (hcall : ∀ a ticks, e = .call a ticks → S.Starts U a c.world) : (S.apply c e).Upheld U := by
  obtain ⟨r, hr, hi⟩ := hc
  cases e with
  | call a ticks =>
    obtain ⟨r', hr', hi'⟩ := (hcall a ticks rfl r hi).run ticks (n := 0)
    exact ⟨r + r', labelled_call hr hr', by rwa [add_comm]⟩
  | resume i ticks =>
    obtain heq | ⟨th, hth, r₁, r₂, howing, rfl, hworld, hlater⟩ :=
      labelled_resume (S := S) hr i ticks
    · rw [heq]
      exact ⟨r, hr, hi⟩
    · obtain ⟨r', hr', hi'⟩ := howing.run ticks (fun h => hfirm th hth h) (n := 0) hi
      refine ⟨r₂ + r', hlater r' hr', ?_⟩
      rwa [hworld, add_comm]

/-- **What is owed along a run.** -/
theorem Run.upheld (h₀ : c₀.Upheld U) (hfirm : ∀ c e, ok c e → Succeeds U.firm c e)
    (hcall : ∀ c a ticks, ok c (.call a ticks) → S.Starts U a c.world) (h : S.Run ok c₀ es c) :
    c.Upheld U :=
  h.induct h₀ fun c e hc he =>
    apply_upheld hc (hfirm c e he) fun a ticks heq => hcall c a ticks (heq ▸ he)

end System

end EventLoop
