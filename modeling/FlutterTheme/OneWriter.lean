import FlutterTheme.Actions
import FlutterTheme.Ends
import Mathlib.Data.List.Chain

/-!
# One writer at a time

Calls of which one at a time writes to a part of the world, while any number of others do no more
to it than a relation says. A writer can be reasoned about from its start to the point from which
on it is one of the others, with the readings of the clock in the order in which they are taken.

* `Task.Writes X Post t l n w` — the call `t`, carried on from the world `w` and the reading `n` of
  the clock without a failing operation, becomes one of the others when `Post` holds.
  `Async.Writes` is the form for calls with a result, with one rule for each way calls are put
  together.
* `System.Run.tidy` — where the writers come one after the other and the clocks never go back, what
  each of them establishes holds whenever none of them is under way.
-/

namespace EventLoop

variable {σ ℓ α β : Type}

/-- What the others do, and under which labels a writer waits. -/
structure OneWriter (σ ℓ : Type) where
  rel : σ → σ → Prop
  writing : ℓ → Prop
  refl : ∀ w, rel w w
  trans : ∀ {w w' w''}, rel w w' → rel w' w'' → rel w w''

/-- What the others do, whatever the clock shows. -/
def OneWriter.others (X : OneWriter σ ℓ) : Deeds σ := ⟨fun _ => X.rel, fun _ => X.refl⟩

/-- What the others do not bring to an end. -/
def OneWriter.Stable (X : OneWriter σ ℓ) (J : ℕ → σ → Prop) : Prop :=
  ∀ ⦃n n' w w'⦄, n ≤ n' → X.rel w w' → J n w → J n' w'

/-- The call, carried on while the others go on, becomes one of them when `Post` holds. -/
def Task.Writes (X : OneWriter σ ℓ) (Post : ℕ → σ → Prop) : Task σ ℓ → ℓ → ℕ → σ → Prop
  | .done, _, n, w => Post n w
  | .throw, _, n, w => Post n w
  | .act f k, l, n, w => ∀ t, t.fails = false → n ≤ t.now → (k t w).Writes X Post l t.now (f t w)
  | .fork p k, _, n, w => Post n w ∧ p.All X.others ∧ k.All X.others
  | .enter l k, _, n, w => k.Writes X Post l n w
  | .await k, l, n, w =>
    X.writing l ∧ ∀ n' w', n ≤ n' → X.rel w w' → k.Writes X Post l n' w'

variable {X : OneWriter σ ℓ} {Post : ℕ → σ → Prop} {l : ℓ} {n : ℕ} {w : σ}

/-! ## Segments -/

/-- The readings of the clock at the actions of a segment, from the `i`-th tick on. -/
def Outcome.readings (o : Outcome σ ℓ) (ticks : ℕ → Tick) (i : ℕ) : List ℕ :=
  o.steps.mapIdx fun j _ => (ticks (i + j)).now

theorem readings_eq (o : Outcome σ ℓ) (ticks : ℕ → Tick) (i : ℕ) :
    o.readings ticks i = (List.range o.steps.length).map fun j => (ticks (i + j)).now :=
  List.ext_getElem (by simp [Outcome.readings]) fun j _ _ => by simp [Outcome.readings]

theorem readings_act (ticks : ℕ → Tick) (f : Tick → σ → σ) (k : Tick → σ → Task σ ℓ) (l : ℓ) (i : ℕ)
    (w : σ) : (Task.run ticks (.act f k) l i w).readings ticks i =
      (ticks i).now ::
        ((k (ticks i) w).run ticks l (i + 1) (f (ticks i) w)).readings ticks (i + 1) := by
  simp only [Outcome.readings, Task.run, List.mapIdx_cons, Nat.add_zero, Nat.add_assoc,
    Nat.add_comm 1]

/-- A clock that never goes back does not show less than at the start. -/
theorem le_getLastD {readings : List ℕ} : ∀ {n : ℕ}, (n :: readings).IsChain (· ≤ ·) →
    n ≤ readings.getLastD n := by
  induction readings with
  | nil => exact fun _ => Nat.le_refl _
  | cons m readings ih =>
    intro n h
    obtain ⟨hle, hrest⟩ := List.isChain_cons_cons.mp h
    rw [List.getLastD_cons]
    exact Nat.le_trans hle (ih hrest)

/-- What a segment of another call does. -/
theorem Task.All.run_rel {ticks : ℕ → Tick} {t : Task σ ℓ} (h : t.All X.others) (i : ℕ) :
    X.rel w (t.run ticks l i w).world := by
  refine Task.run_steps X.refl X.trans fun st hst => ?_
  obtain ⟨j, hj⟩ := List.getElem?_of_mem hst
  exact h.steps j st hj

/-- What a segment of a writer leaves: it is one of the others now, or it waits. -/
inductive Outcome.Tidy (X : OneWriter σ ℓ) (Post : ℕ → σ → Prop) (n : ℕ) (o : Outcome σ ℓ) :
    Prop where
  | others (threads : ∀ th ∈ o.threads, th.task.All X.others) (post : Post n o.world)
  | waits {th : Thread σ ℓ} (threads : o.threads = [th]) (writing : X.writing th.scope)
      (writes : ∀ n' w', n ≤ n' → X.rel o.world w' → th.task.Writes X Post th.scope n' w')

/-- The run rule of a single writer: in a segment whose readings of the clock do not go back, the
writer either hands its result on or is the one thread that goes on with it. By induction on the
task. -/
theorem Task.Writes.run (hstable : X.Stable Post) {ticks : ℕ → Tick}
    (hticks : ∀ i, (ticks i).fails = false) {t : Task σ ℓ} : ∀ {l : ℓ} {n i : ℕ} {w : σ},
      t.Writes X Post l n w → (n :: (t.run ticks l i w).readings ticks i).IsChain (· ≤ ·) →
        (t.run ticks l i w).Tidy X Post (((t.run ticks l i w).readings ticks i).getLastD n) := by
  induction t with
  | done => exact fun h _ => .others (fun _ hth => absurd hth List.not_mem_nil) h
  | throw => exact fun h _ => .others (fun _ hth => absurd hth List.not_mem_nil) h
  | act f k ih =>
    intro l n i w h hchain
    rw [readings_act] at hchain ⊢
    obtain ⟨hle, hrest⟩ := List.isChain_cons_cons.mp hchain
    rw [List.getLastD_cons]
    cases ih (ticks i) w (h (ticks i) (hticks i) hle) hrest with
    | others hthreads hpost => exact .others hthreads hpost
    | waits hthreads hwriting hwrites => exact .waits hthreads hwriting hwrites
  | fork p k =>
    rintro l n i w ⟨hpost, hp, hk⟩ hchain
    have hall : (Task.fork p k).All X.others := ⟨hp, hk⟩
    exact .others hall.threads (hstable (le_getLastD hchain) (hall.run_rel i) hpost)
  | enter l k ih => exact fun h hchain => ih h hchain
  | await k => exact fun h _ => .waits rfl h.1 h.2

/-! ## Calls with a result -/

namespace Async

/-- The writer goes on until its result is handed on with `Q`. -/
def Writes (X : OneWriter σ ℓ) (Post : ℕ → σ → Prop) (m : Async σ ℓ α) (l : ℓ) (n : ℕ) (w : σ)
    (Q : α → ℕ → σ → Prop) : Prop :=
  ∀ k : α → Task σ ℓ, (∀ a n' w', Q a n' w' → (k a).Writes X Post l n' w') →
    (m k).Writes X Post l n w

variable {Q : α → ℕ → σ → Prop} {m : Async σ ℓ α}

theorem Writes.task_bind {f : α → Async σ ℓ Unit}
    (h : m.Writes X Post l n w fun a n' w' => (f a).task.Writes X Post l n' w') :
    (m >>= f).task.Writes X Post l n w :=
  h _ fun _ _ _ hf => hf

theorem writes_pure {a : α} (h : Q a n w) : (pure a : Async σ ℓ α).Writes X Post l n w Q :=
  fun _ hk => hk a n w h

theorem writes_bind {f : α → Async σ ℓ β} {R : β → ℕ → σ → Prop}
    (h : m.Writes X Post l n w fun a n' w' => (f a).Writes X Post l n' w' R) :
    (m >>= f).Writes X Post l n w R :=
  fun k hk => h _ fun _ _ _ hf => hf k hk

theorem writes_sync {f : Tick → σ → α × σ}
    (h : ∀ t, t.fails = false → n ≤ t.now → Q (f t w).1 t.now (f t w).2) :
    (sync f : Async σ ℓ α).Writes X Post l n w Q :=
  fun _ hk t ht hle => hk _ _ _ (h t ht hle)

theorem writes_get {g : σ → α} (h : ∀ n' ≥ n, Q (g w) n' w) :
    (get g : Async σ ℓ α).Writes X Post l n w Q :=
  writes_sync fun _ _ hle => h _ hle

theorem writes_modify {f : σ → σ} {Q : Unit → ℕ → σ → Prop} (h : ∀ n' ≥ n, Q () n' (f w)) :
    (modify f : Async σ ℓ Unit).Writes X Post l n w Q :=
  writes_sync fun _ _ hle => h _ hle

/-- While an operation is on its way, and its answer, the others go on. -/
theorem writes_remote {f : Tick → σ → α × σ} (hl : X.writing l)
    (h : ∀ t w', n ≤ t.now → X.rel w w' → ∀ n' w'', t.now ≤ n' → X.rel (f t w').2 w'' →
      Q (f t w').1 n' w'') :
    (remote f : Async σ ℓ α).Writes X Post l n w Q := by
  intro k hk
  refine ⟨hl, fun n₁ w' hle hrel t ht hle' => ?_⟩
  simp only [ht, Bool.false_eq_true, if_false]
  refine ⟨hl, fun n₂ w'' hle'' hrel' => hk _ _ _ ?_⟩
  exact h t w' (Nat.le_trans hle hle') hrel n₂ w'' hle'' hrel'

/-- The writer starts a call, and all that is left is what the others do as well. -/
theorem writes_spawn {m : Async σ ℓ Unit} {f : Unit → Async σ ℓ Unit} (hpost : Post n w)
    (hm : m.All X.others) (hf : (f ()).All X.others) :
    (spawn m >>= f).task.Writes X Post l n w :=
  ⟨hpost, hm.task, hf _ fun _ => trivial⟩

end Async

/-! ## Runs -/

/-- No writer is under way and `J` holds, or one is, and is going to establish it. -/
inductive Tidy (X : OneWriter σ ℓ) (J : ℕ → σ → Prop) (n : ℕ) (w : σ) (ths : List (Thread σ ℓ)) :
    Prop where
  | idle (others : ∀ th ∈ ths, th.task.All X.others) (post : J n w)
  | busy {before after : List (Thread σ ℓ)} {th : Thread σ ℓ}
      (threads : ths = before ++ th :: after)
      (others : ∀ th ∈ before ++ after, th.task.All X.others) (writing : X.writing th.scope)
      (writes : ∀ n' w', n ≤ n' → X.rel w w' → th.task.Writes X J th.scope n' w')

variable {J : ℕ → σ → Prop} {ths : List (Thread σ ℓ)}

/-- Where no writer is under way, what they establish holds. -/
theorem Tidy.idle_of (h : Tidy X J n w ths) (hnone : ∀ th ∈ ths, ¬ X.writing th.scope) :
    (∀ th ∈ ths, th.task.All X.others) ∧ J n w := by
  cases h with
  | idle hothers hpost => exact ⟨hothers, hpost⟩
  | busy hths _ hwriting _ =>
    refine absurd hwriting (hnone _ ?_)
    rw [hths]
    simp

/-- A segment of another call. -/
theorem Tidy.other (h : Tidy X J n w ths) (hstable : X.Stable J) {o : Outcome σ ℓ} {n' : ℕ}
    (hle : n ≤ n') (hrel : X.rel w o.world) (hothers : ∀ th ∈ o.threads, th.task.All X.others) :
    Tidy X J n' o.world (ths ++ o.threads) := by
  cases h with
  | idle hall hpost =>
    refine .idle (fun th hth => ?_) (hstable hle hrel hpost)
    exact (List.mem_append.mp hth).elim (hall th) (hothers th)
  | @busy before after th hths hall hwriting hwrites =>
    have hths' : ths ++ o.threads = before ++ th :: (after ++ o.threads) := by simp [hths]
    refine .busy hths' (fun th hth => ?_) hwriting fun n'' w'' hle' hrel' => ?_
    · rw [← List.append_assoc] at hth
      exact (List.mem_append.mp hth).elim (hall th) (hothers th)
    · exact hwrites n'' w'' (Nat.le_trans hle hle') (X.trans hrel hrel')

/-- A segment of a writer, when no other is under way. -/
theorem Outcome.Tidy.tidy {o : Outcome σ ℓ} {n : ℕ} (h : o.Tidy X J n)
    (hothers : ∀ th ∈ ths, th.task.All X.others) :
    EventLoop.Tidy X J n o.world (ths ++ o.threads) := by
  cases h with
  | others hthreads hpost =>
    refine .idle (fun th hth => ?_) hpost
    exact (List.mem_append.mp hth).elim (hothers th) (hthreads th)
  | waits hthreads hwriting hwrites =>
    rw [hthreads]
    exact .busy rfl (by simpa using hothers) hwriting hwrites

namespace System

variable {S : System σ ℓ α} {c : Config σ ℓ}

/-- A suspended call is resumed: the writer goes on or hands its result on, and the others leave
what it works on as it is. The clock of the segment is later than all readings before. -/
theorem resume_tidy (hstable : X.Stable J) (h : Tidy X J n c.world c.threads) {i : ℕ}
    {ticks : ℕ → Tick} {th : Thread σ ℓ} (hth : c.threads[i]? = some th)
    (hsucc : X.writing th.scope → ∀ j, (ticks j).fails = false)
    (hchain : (n :: (th.task.run ticks th.scope 0 c.world).readings ticks 0).IsChain (· ≤ ·)) :
    Tidy X J (((th.task.run ticks th.scope 0 c.world).readings ticks 0).getLastD n)
      (th.task.run ticks th.scope 0 c.world).world
      (c.threads.eraseIdx i ++ (th.task.run ticks th.scope 0 c.world).threads) := by
  -- one of the others is resumed
  have hother : th.task.All X.others → Tidy X J n c.world (c.threads.eraseIdx i) →
      Tidy X J (((th.task.run ticks th.scope 0 c.world).readings ticks 0).getLastD n)
        (th.task.run ticks th.scope 0 c.world).world
        (c.threads.eraseIdx i ++ (th.task.run ticks th.scope 0 c.world).threads) :=
    fun hall hrest => hrest.other hstable (le_getLastD hchain) (hall.run_rel 0) hall.threads
  cases h with
  | idle hall hpost =>
    refine hother (hall th (List.mem_of_getElem? hth)) (.idle (fun th' hth' => ?_) hpost)
    exact hall th' (List.mem_of_mem_eraseIdx hth')
  | @busy before after writer hths hall hwriting hwrites =>
    rw [hths] at hth hother ⊢
    rcases Nat.lt_trichotomy i before.length with hlt | rfl | hgt
    · rw [List.getElem?_append_left hlt] at hth
      refine hother (hall th (List.mem_append_left _ (List.mem_of_getElem? hth))) ?_
      rw [List.eraseIdx_append_of_lt_length hlt]
      refine .busy rfl (fun th' hth' => hall th' ?_) hwriting hwrites
      exact (List.mem_append.mp hth').elim
        (fun h => List.mem_append_left _ (List.mem_of_mem_eraseIdx h))
        fun h => List.mem_append_right _ h
    · -- the writer is the one resumed
      obtain rfl : writer = th := by simpa using hth
      have hrun := (hwrites n c.world (Nat.le_refl n) (X.refl _)).run hstable (hsucc hwriting)
        hchain
      rw [List.eraseIdx_append_of_length_le (Nat.le_refl _)]
      simp only [Nat.sub_self, List.eraseIdx_cons_zero]
      exact hrun.tidy hall
    · obtain ⟨j, rfl⟩ := Nat.exists_eq_add_of_lt hgt
      rw [List.getElem?_append_right (by omega)] at hth
      have hj : before.length + j + 1 - before.length = j + 1 := by omega
      rw [hj, List.getElem?_cons_succ] at hth
      refine hother (hall th (List.mem_append_right _ (List.mem_of_getElem? hth))) ?_
      rw [List.eraseIdx_append_of_length_le (by omega), hj, List.eraseIdx_cons_succ]
      refine .busy rfl (fun th' hth' => hall th' ?_) hwriting hwrites
      exact (List.mem_append.mp hth').elim (fun h => List.mem_append_left _ h)
        fun h => List.mem_append_right _ (List.mem_of_mem_eraseIdx h)

variable (S) in
/-- What the clock shows at the last action. -/
def latest (c : Config σ ℓ) (es : List (Event α)) : ℕ :=
  ((S.trace c es).map (·.1.now)).getLastD 0

/-- The suspended calls and the world after an event, at the last reading of the clock. -/
def TidyAfter (S : System σ ℓ α) (X : OneWriter σ ℓ) (J : ℕ → σ → Prop) (n : ℕ) (c : Config σ ℓ)
    (e : Event α) : Prop :=
  Tidy X J (((S.outcome c e).readings e.ticks 0).getLastD n) (S.apply c e).world
    (S.apply c e).threads

variable {e : Event α}

/-- Any call is resumed. -/
theorem tidyAfter_resume (hstable : X.Stable J) (h : Tidy X J n c.world c.threads) {i : ℕ}
    {ticks : ℕ → Tick} (hsucc : Succeeds X.writing c (.resume i ticks : Event α))
    (hchain : (n :: (S.outcome c (.resume i ticks)).readings ticks 0).IsChain (· ≤ ·)) :
    S.TidyAfter X J n c (.resume i ticks) := by
  unfold TidyAfter
  cases hth : c.threads[i]? with
  | none =>
    rw [apply_resume_none hth]
    simpa [outcome, hth, Outcome.readings] using h
  | some th =>
    simp only [outcome, hth] at hchain
    simp only [apply, outcome, hth, Config.kept]
    exact resume_tidy hstable h hth (hsucc th hth) hchain

/-- One of the others is started. -/
theorem tidyAfter_other (hstable : X.Stable J) (h : Tidy X J n c.world c.threads) {a : α}
    {ticks : ℕ → Tick} (ha : (S.body a).All X.others)
    (hchain : (n :: (S.outcome c (.call a ticks)).readings ticks 0).IsChain (· ≤ ·)) :
    S.TidyAfter X J n c (.call a ticks) :=
  h.other hstable (le_getLastD hchain) (ha.task.run_rel 0) ha.task.threads

/-- A writer is started, when no other is under way. -/
theorem tidyAfter_writer {a : α} {ticks : ℕ → Tick}
    (hothers : ∀ th ∈ c.threads, th.task.All X.others)
    (ho : (S.outcome c (.call a ticks)).Tidy X J
      (((S.outcome c (.call a ticks)).readings ticks 0).getLastD n)) :
    S.TidyAfter X J n c (.call a ticks) :=
  ho.tidy hothers

variable {ok : Config σ ℓ → Event α → Prop} {c₀ : Config σ ℓ} {es : List (Event α)}

theorem trace_readings (c : Config σ ℓ) (e : Event α) (es : List (Event α)) :
    (S.trace c (e :: es)).map (·.1.now) =
      (S.outcome c e).readings e.ticks 0 ++ (S.trace (S.apply c e) es).map (·.1.now) := by
  simp only [trace, List.map_append, Outcome.readings, Nat.zero_add]
  congr 1
  exact List.ext_getElem (by simp) fun i _ _ => by simp

theorem trace_snoc : ∀ {es : List (Event α)} {c : Config σ ℓ},
    (S.trace c (es ++ [e])).map (·.1.now) =
      (S.trace c es).map (·.1.now) ++ (S.outcome (S.exec c es) e).readings e.ticks 0
  | [], c => by
    rw [List.nil_append, trace_readings]
    simp [trace, exec]
  | e' :: es, c => by
    rw [List.cons_append, trace_readings, trace_readings, trace_snoc, List.append_assoc]
    rfl

/-- **Runs in which the writers come one after the other**: what each of them establishes holds
whenever none of them is under way. -/
theorem Run.tidy {J : List (Event α) → ℕ → σ → Prop} (h₀ : Tidy X (J []) 0 c₀.world c₀.threads)
    (hstep : ∀ es c e n, S.Run ok c₀ es c → ok c e → Tidy X (J es) n c.world c.threads →
      (n :: (S.outcome c e).readings e.ticks 0).IsChain (· ≤ ·) →
      S.TidyAfter X (J (es ++ [e])) n c e)
    (h : S.Run ok c₀ es c) (hclock : S.NonDecreasing c₀ es) :
    Tidy X (J es) (S.latest c₀ es) c.world c.threads := by
  induction h with
  | nil => exact h₀
  | @snoc es c h e he ih =>
    rw [NonDecreasing, trace_snoc, ← h.exec_eq] at hclock
    obtain ⟨hbefore, hsegment, hle⟩ := List.isChain_append.mp hclock
    have htidy := ih hbefore
    have hchain : (S.latest c₀ es :: (S.outcome c e).readings e.ticks 0).IsChain (· ≤ ·) := by
      rw [List.isChain_cons]
      refine ⟨fun m hm => ?_, hsegment⟩
      rw [latest]
      cases hlast : ((S.trace c₀ es).map (·.1.now)).getLast? with
      | none => simp [List.getLastD_eq_getLast?, hlast]
      | some m' =>
        rw [List.getLastD_eq_getLast?, hlast]
        exact hle m' hlast m hm
    have hafter := hstep es c e _ h he htidy hchain
    rw [TidyAfter] at hafter
    convert hafter using 1
    rw [latest, trace_snoc, ← h.exec_eq, latest]
    simp only [List.getLastD_eq_getLast?, List.getLast?_append]
    cases ((S.outcome c e).readings e.ticks 0).getLast? <;> rfl

end System

end EventLoop
