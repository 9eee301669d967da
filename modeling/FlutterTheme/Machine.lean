import FlutterTheme.Duties
import Mathlib.Algebra.Order.Group.Multiset

/-!
# Programs given by their points of suspension

A call is suspended at few points of its program, and what it does when it is resumed depends on
the point and on the values it has read so far. A `Machine` says this directly: which points a call
comes to from its start or from one of its points. It is a second description of a system, and
`Machine.Models` connects the two.

* `Config.At` — the calls of a configuration are suspended at the points in a list.
* `Models.run` — what the machine keeps, step by step, every run of the system keeps. The order of
  the points does not matter, and the events so far may be spoken of.
* `Machine.exec`, `Models.run_is` — the machine run by the same events, with its points in the order
  of the suspended calls.
* `Machine.Follows`, `Follows.run` — a machine over another world, which is related to the one of
  the system: it may say what has happened, and the system what that has led to.
* `Segment.Rel`, `apply_rel` — two machines whose worlds and points are related, event by event.
-/

namespace EventLoop

variable {σ τ ℓ α P : Type}

/-- What a segment leaves: the world, the points at which calls are suspended, and how many calls
threw. -/
structure Segment (σ P : Type) where
  /-- the world then -/
  world : σ
  /-- the points calls have come to -/
  points : List P := []
  /-- how many calls threw -/
  thrown : ℕ := 0

/-- Two segments whose worlds and points are related, where as many calls threw. -/
structure Segment.Rel {Q : Type} (R : σ → τ → Prop) (T : P → Q → Prop) (s : Segment σ P)
    (t : Segment τ Q) : Prop where
  world : R s.world t.world
  points : List.Forall₂ T s.points t.points
  thrown : s.thrown = t.thrown

/-- A segment in which the call threw. -/
def Segment.threw (w : σ) : Segment σ P := { world := w, thrown := 1 }

/-- What a call does whose remote operation is on its way. -/
def Task.request {β : Type} (f : Tick → σ → β × σ) (k : β → Task σ ℓ) : Task σ ℓ :=
  .act (fun t w => if t.fails then w else (f t w).2)
    (fun t w => if t.fails then .throw else .await (k (f t w).1))

/-- What a call does whose remote operation is on its way and that goes on when it fails. -/
def Task.tryRequest {β : Type} (f : Tick → σ → β × σ) (k : Option β → Task σ ℓ) : Task σ ℓ :=
  .act (fun t w => if t.fails then w else (f t w).2)
    (fun t w => .await (k (if t.fails then none else some (f t w).1)))

/-- A program given by the points at which its calls are suspended. -/
structure Machine (σ P α : Type) where
  /-- what the start of a call leaves -/
  call : α → (ℕ → Tick) → σ → Segment σ P
  /-- what a call leaves that is resumed at a point -/
  resume : P → (ℕ → Tick) → σ → Segment σ P

/-- The segment leaves what the machine says, where a call that is suspended at a point goes on
with its task. -/
structure Outcome.Follows (R : σ → τ → Prop) (task : P → Task σ ℓ) (o : Outcome σ ℓ)
    (s : Segment τ P) : Prop where
  world : R o.world s.world
  threads : o.threads.map (·.task) = s.points.map task
  uncaught : o.uncaught.length = s.thrown

/-- The same with the world of the machine. -/
abbrev Outcome.Is (task : P → Task σ ℓ) (o : Outcome σ ℓ) (s : Segment σ P) : Prop :=
  o.Follows Eq task s

/-- The machine is a description of the system. -/
structure Machine.Models (M : Machine σ P α) (S : System σ ℓ α) (task : P → Task σ ℓ) : Prop where
  call : ∀ a ticks l w, ((S.body a).task.run ticks l 0 w).Is task (M.call a ticks w)
  resume : ∀ p ticks l w, ((task p).run ticks l 0 w).Is task (M.resume p ticks w)

/-- The machine says what happens in the system, whose world is related to that of the machine. -/
structure Machine.Follows (M : Machine τ P α) (S : System σ ℓ α) (task : P → Task σ ℓ)
    (R : σ → τ → Prop) : Prop where
  call : ∀ a ticks l w t, R w t →
    ((S.body a).task.run ticks l 0 w).Follows R task (M.call a ticks t)
  resume : ∀ p ticks l w t, R w t →
    ((task p).run ticks l 0 w).Follows R task (M.resume p ticks t)

theorem Machine.Models.follows {M : Machine σ P α} {S : System σ ℓ α} {task : P → Task σ ℓ}
    (h : M.Models S task) : M.Follows S task Eq where
  call a ticks l w _ heq := heq ▸ h.call a ticks l w
  resume p ticks l w _ heq := heq ▸ h.resume p ticks l w

/-- The calls are suspended at the points. -/
def Config.At (task : P → Task σ ℓ) (c : Config σ ℓ) (r : Multiset P) : Prop :=
  ∃ ps : List P, c.threads.map (·.task) = ps.map task ∧ (ps : Multiset P) = r

variable {task : P → Task σ ℓ} {c : Config σ ℓ}

/-- Nothing is suspended. -/
theorem Config.at_nil {w : σ} {uncaught : List ℓ} : (⟨w, [], uncaught⟩ : Config σ ℓ).At task 0 :=
  ⟨[], rfl, rfl⟩

theorem Config.At.settled {r : Multiset P} (h : c.At task r) (hc : c.Settled) : r = 0 := by
  obtain ⟨ps, hps, rfl⟩ := h
  rw [hc, List.map_nil, eq_comm, List.map_eq_nil_iff] at hps
  rw [hps, Multiset.coe_nil]

/-- What an action is followed by. -/
theorem Outcome.Follows.act {R : σ → τ → Prop} {f : Tick → σ → σ} {k : Tick → σ → Task σ ℓ}
    {ticks : ℕ → Tick} {l : ℓ} {n : ℕ} {w : σ} {s : Segment τ P}
    (h : ((k (ticks n) w).run ticks l (n + 1) (f (ticks n) w)).Follows R task s) :
    ((Task.act f k).run ticks l n w).Follows R task s :=
  ⟨h.world, h.threads, h.uncaught⟩

/-- A remote operation that is on its way fails, or the call comes to the point where the answer
arrives. -/
theorem Task.request_follows {R : σ → τ → Prop} {β : Type} {f : Tick → σ → β × σ}
    {k : β → Task σ ℓ} {p : P} {ticks : ℕ → Tick} {l : ℓ} {w : σ} {t t' : τ} (ht : R w t)
    (hw : R (f (ticks 0) w).2 t') (h : k (f (ticks 0) w).1 = task p) :
    ((Task.request f k).run ticks l 0 w).Follows R task
      (if (ticks 0).fails then .threw t else { world := t', points := [p] }) := by
  by_cases hf : (ticks 0).fails = true
  · simp only [Task.request, Task.run, hf, if_true]
    exact ⟨ht, rfl, rfl⟩
  · simp only [Task.request, Task.run, hf, h]
    exact ⟨hw, rfl, rfl⟩

theorem Task.request_is {β : Type} {f : Tick → σ → β × σ} {k : β → Task σ ℓ} {p : P}
    {ticks : ℕ → Tick} {l : ℓ} {w w' : σ} (hw : (f (ticks 0) w).2 = w')
    (h : k (f (ticks 0) w).1 = task p) : ((Task.request f k).run ticks l 0 w).Is task
      (if (ticks 0).fails then .threw w else { world := w', points := [p] }) :=
  request_follows rfl hw h

/-- A remote operation that is on its way fails or not, and the call goes on in both cases. -/
theorem Task.tryRequest_follows {R : σ → τ → Prop} {β : Type} {f : Tick → σ → β × σ}
    {k : Option β → Task σ ℓ} {p : P} {ticks : ℕ → Tick} {l : ℓ} {w : σ} {t' : τ}
    (hw : R (if (ticks 0).fails then w else (f (ticks 0) w).2) t')
    (h : k (if (ticks 0).fails then none else some (f (ticks 0) w).1) = task p) :
    ((Task.tryRequest f k).run ticks l 0 w).Follows R task { world := t', points := [p] } :=
  ⟨hw, congrArg (fun t => [t]) h, rfl⟩

theorem Task.tryRequest_is {β : Type} {f : Tick → σ → β × σ} {k : Option β → Task σ ℓ} {p : P}
    {ticks : ℕ → Tick} {l : ℓ} {w w' : σ}
    (hw : (if (ticks 0).fails then w else (f (ticks 0) w).2) = w')
    (h : k (if (ticks 0).fails then none else some (f (ticks 0) w).1) = task p) :
    ((Task.tryRequest f k).run ticks l 0 w).Is task { world := w', points := [p] } :=
  tryRequest_follows hw h

/-- What every event of a run satisfies. -/
theorem System.Run.forall_mem {S : System σ ℓ α} {ok : Config σ ℓ → Event α → Prop}
    {q : Event α → Prop} {c₀ c : Config σ ℓ} {es : List (Event α)} (h : S.Run ok c₀ es c)
    (hq : ∀ c e, ok c e → q e) : ∀ e ∈ es, q e := by
  induction h with
  | nil => exact fun e he => absurd he List.not_mem_nil
  | snoc _ e he ih =>
    intro e' he'
    rcases List.mem_append.mp he' with he' | he'
    · exact ih e' he'
    · exact List.mem_singleton.mp he' ▸ hq _ e he

/-- The same event over and over, allowed each time. -/
theorem System.allowed_replicate {S : System σ ℓ α} {ok : Config σ ℓ → Event α → Prop}
    {e : Event α} : ∀ {n : ℕ} {c : Config σ ℓ},
      (∀ k < n, ok (S.exec c (List.replicate k e)) e) → S.Allowed ok c (List.replicate n e)
  | 0, _, _ => trivial
  | n + 1, _, h =>
    ⟨h 0 (Nat.succ_pos n), allowed_replicate fun k hk => h (k + 1) (Nat.succ_lt_succ hk)⟩

/-- Calls for the elements of a list, each of which is suspended at once. -/
theorem Task.run_forEach {β : Type} {f : β → Async σ ℓ Unit} {p : β → P} {k : Unit → Task σ ℓ}
    {ticks : ℕ → Tick} {l : ℓ} {n : ℕ} {w : σ} {s : Segment σ P} :
    ∀ {as : List β}, (∀ a ∈ as, (f a).task = .await (task (p a))) →
      ((k ()).run ticks l n w).Is task s →
      ((Async.forEach as f k).run ticks l n w).Is task { s with points := as.map p ++ s.points }
  | [], _, h => h
  | a :: as, hf, h => by
    have ha := hf a (List.mem_cons_self ..)
    obtain ⟨hworld, hthreads, huncaught⟩ :=
      run_forEach (fun b hb => hf b (List.mem_cons_of_mem _ hb)) h
    have hrun : (Async.forEach (a :: as) f k).run ticks l n w =
        (Task.fork (f a).task (Async.forEach as f k)).run ticks l n w := rfl
    rw [hrun, ha]
    exact ⟨hworld, congrArg (List.cons _) hthreads, huncaught⟩

namespace Machine

variable {M : Machine σ P α} {S : System σ ℓ α} {ok : Config σ ℓ → Event α → Prop}
  {c₀ : Config σ ℓ} {es : List (Event α)}

/-- A call that starts, on the side of the machine: the world, the points it leaves and the errors
are those of the segment. -/
theorem Models.apply_call (hm : M.Models S task) {r : Multiset P} (h : c.At task r) (a : α)
    (ticks : ℕ → Tick) :
    (S.apply c (.call a ticks)).world = (M.call a ticks c.world).world ∧
      (S.apply c (.call a ticks)).At task ((M.call a ticks c.world).points + r) ∧
      (S.apply c (.call a ticks)).uncaught.length =
        c.uncaught.length + (M.call a ticks c.world).thrown := by
  obtain ⟨ps, hps, rfl⟩ := h
  obtain ⟨hworld, hthreads, huncaught⟩ := hm.call a ticks (S.scope a c.world) c.world
  refine ⟨hworld, ⟨ps ++ (M.call a ticks c.world).points, ?_, ?_⟩, ?_⟩
  · rw [List.map_append, ← hps, ← hthreads, ← List.map_append]
    rfl
  · rw [← Multiset.coe_add, add_comm]
  · rw [← huncaught, ← List.length_append]
    rfl

/-- A call that is resumed at a point. -/
theorem Models.apply_at (hm : M.Models S task) {ps : List P} (h : c.threads.map (·.task) = ps.map task)
    {i : ℕ} {p : P} (hp : ps[i]? = some p) (ticks : ℕ → Tick) :
    (S.apply c (.resume i ticks)).world = (M.resume p ticks c.world).world ∧
      (S.apply c (.resume i ticks)).threads.map (·.task) =
        (ps.eraseIdx i ++ (M.resume p ticks c.world).points).map task ∧
      (S.apply c (.resume i ticks)).uncaught.length =
        c.uncaught.length + (M.resume p ticks c.world).thrown := by
  have hget : (c.threads.map (·.task))[i]? = some (task p) := by
    rw [h, List.getElem?_map, hp, Option.map_some]
  rw [List.getElem?_map, Option.map_eq_some_iff] at hget
  obtain ⟨th, hth, htask⟩ := hget
  have ho : S.outcome c (.resume i ticks) = (task p).run ticks th.scope 0 c.world := by
    simp only [System.outcome, hth, htask]
  obtain ⟨hworld, hthreads, huncaught⟩ := hm.resume p ticks th.scope c.world
  have happly : S.apply c (.resume i ticks) =
      ⟨((task p).run ticks th.scope 0 c.world).world,
        c.threads.eraseIdx i ++ ((task p).run ticks th.scope 0 c.world).threads,
        c.uncaught ++ ((task p).run ticks th.scope 0 c.world).uncaught⟩ := by
    rw [System.apply, ho]
    rfl
  rw [happly]
  refine ⟨hworld, ?_, ?_⟩
  · rw [List.map_append, List.map_append, hthreads, ← List.eraseIdx_map, h, List.eraseIdx_map]
  · rw [← huncaught, ← List.length_append]

/-- A call that is resumed, whichever it is: there is none of this number, or one point of the
collection is replaced by those it leads to. -/
theorem Models.apply_resume (hm : M.Models S task) {r : Multiset P} (h : c.At task r) (i : ℕ)
    (ticks : ℕ → Tick) :
    S.apply c (.resume i ticks) = c ∨ ∃ p r', r = p ::ₘ r' ∧
      (S.apply c (.resume i ticks)).world = (M.resume p ticks c.world).world ∧
      (S.apply c (.resume i ticks)).At task ((M.resume p ticks c.world).points + r') ∧
      (S.apply c (.resume i ticks)).uncaught.length =
        c.uncaught.length + (M.resume p ticks c.world).thrown := by
  obtain ⟨ps, hps, rfl⟩ := h
  cases hp : ps[i]? with
  | none =>
    left
    have hlen : c.threads.length ≤ i := by
      rw [← List.length_map (·.task), hps, List.length_map]
      exact List.getElem?_eq_none_iff.mp hp
    have hth : c.threads[i]? = none := List.getElem?_eq_none_iff.mpr hlen
    exact System.apply_resume_none hth ticks
  | some p =>
    right
    obtain ⟨hworld, hthreads, huncaught⟩ := hm.apply_at hps hp ticks
    obtain ⟨hi, rfl⟩ := List.getElem?_eq_some_iff.mp hp
    refine ⟨ps[i], ps.eraseIdx i, ?_, hworld, ⟨_, hthreads, ?_⟩, huncaught⟩
    · exact Multiset.coe_eq_coe.mpr (List.getElem_cons_eraseIdx_perm hi).symm
    · rw [← Multiset.coe_add, add_comm]

/-- An event, as the machine has it. The points are in the order of the calls. -/
def apply (M : Machine σ P α) (s : Segment σ P) : Event α → Segment σ P
  | .call a ticks =>
    let o := M.call a ticks s.world
    ⟨o.world, s.points ++ o.points, s.thrown + o.thrown⟩
  | .resume i ticks =>
    match s.points[i]? with
    | some p =>
      let o := M.resume p ticks s.world
      ⟨o.world, s.points.eraseIdx i ++ o.points, s.thrown + o.thrown⟩
    | none => s

/-- What a list of events leads to. -/
def exec (M : Machine σ P α) (s : Segment σ P) (es : List (Event α)) : Segment σ P :=
  es.foldl M.apply s

theorem exec_snoc {M : Machine σ P α} {s : Segment σ P} {e : Event α} :
    M.exec s (es ++ [e]) = M.apply (M.exec s es) e := by
  rw [exec, List.foldl_append]
  rfl

/-- The elements of two related lists. -/
theorem getElem?_rel {α β : Type} {T : α → β → Prop} {as : List α} {bs : List β}
    (h : List.Forall₂ T as bs) (i : ℕ) :
    as[i]? = none ∧ bs[i]? = none ∨ ∃ a b, as[i]? = some a ∧ bs[i]? = some b ∧ T a b ∧
      List.Forall₂ T (as.eraseIdx i) (bs.eraseIdx i) := by
  induction h generalizing i with
  | nil => exact Or.inl ⟨rfl, rfl⟩
  | cons hab h ih =>
    cases i with
    | zero => exact Or.inr ⟨_, _, rfl, rfl, hab, h⟩
    | succ i => exact (ih i).imp_right fun ⟨a, b, ha, hb, hT, herase⟩ =>
        ⟨a, b, ha, hb, hT, .cons ‹_› herase⟩

/-- **Two machines side by side**: an event that does related things at related points leaves
related states. -/
theorem apply_rel {Q : Type} {M : Machine σ P α} {N : Machine τ Q α} {R : σ → τ → Prop}
    {T : P → Q → Prop} {s : Segment σ P} {t : Segment τ Q} {e : Event α} (h : s.Rel R T t)
    (hcall : ∀ a ticks, e = .call a ticks →
      (M.call a ticks s.world).Rel R T (N.call a ticks t.world))
    (hresume : ∀ i ticks p q, e = .resume i ticks → s.points[i]? = some p → T p q →
      (M.resume p ticks s.world).Rel R T (N.resume q ticks t.world)) :
    (M.apply s e).Rel R T (N.apply t e) := by
  cases e with
  | call a ticks =>
    obtain ⟨hworld, hpoints, hthrown⟩ := hcall a ticks rfl
    refine ⟨hworld, List.rel_append h.points hpoints, ?_⟩
    simp only [apply, h.thrown, hthrown]
  | resume i ticks =>
    rcases getElem?_rel h.points i with ⟨hp, hq⟩ | ⟨p, q, hp, hq, hT, herase⟩
    · simp only [apply, hp, hq]
      exact h
    · obtain ⟨hworld, hpoints, hthrown⟩ := hresume i ticks p q rfl hp hT
      simp only [apply, hp, hq]
      refine ⟨hworld, List.rel_append herase hpoints, ?_⟩
      simp only [h.thrown, hthrown]

end Machine

/-- The configuration is in the state of the machine. -/
structure Config.Follows (R : σ → τ → Prop) (task : P → Task σ ℓ) (c : Config σ ℓ)
    (s : Segment τ P) : Prop where
  world : R c.world s.world
  threads : c.threads.map (·.task) = s.points.map task
  uncaught : c.uncaught.length = s.thrown

/-- The same with the world of the machine. -/
abbrev Config.Is (task : P → Task σ ℓ) (c : Config σ ℓ) (s : Segment σ P) : Prop :=
  c.Follows Eq task s

namespace Machine

variable {M : Machine σ P α} {S : System σ ℓ α} {ok : Config σ ℓ → Event α → Prop}
  {c₀ : Config σ ℓ} {es : List (Event α)} {s₀ : Segment σ P}

/-- **The machine follows the system** event by event: related states stay related, and the
suspended calls of the system are those of the machine's points, in the same places. -/
theorem Follows.apply {M : Machine τ P α} {R : σ → τ → Prop} {s : Segment τ P}
    (hm : M.Follows S task R) (h : c.Follows R task s) (e : Event α) :
    (S.apply c e).Follows R task (M.apply s e) := by
  obtain ⟨hworld, hthreads, huncaught⟩ := h
  cases e with
  | call a ticks =>
    obtain ⟨hw, hths, hun⟩ := hm.call a ticks (S.scope a c.world) c.world s.world hworld
    simp only [System.apply, System.outcome, Config.kept, Machine.apply]
    refine ⟨hw, ?_, ?_⟩
    · rw [List.map_append, List.map_append, hthreads, hths]
    · rw [List.length_append, huncaught, hun]
  | resume i ticks =>
    cases hp : s.points[i]? with
    | none =>
      have hlen : c.threads.length ≤ i := by
        rw [← List.length_map (·.task), hthreads, List.length_map]
        exact List.getElem?_eq_none_iff.mp hp
      have hth : c.threads[i]? = none := List.getElem?_eq_none_iff.mpr hlen
      rw [System.apply_resume_none hth, Machine.apply, hp]
      exact ⟨hworld, hthreads, huncaught⟩
    | some p =>
      obtain ⟨th, hth, htask⟩ : ∃ th, c.threads[i]? = some th ∧ th.task = task p := by
        have hget : (c.threads.map (·.task))[i]? = some (task p) := by
          rw [hthreads, List.getElem?_map, hp, Option.map_some]
        rwa [List.getElem?_map, Option.map_eq_some_iff] at hget
      obtain ⟨hw, hths, hun⟩ := hm.resume p ticks th.scope c.world s.world hworld
      simp only [System.apply, System.outcome, Config.kept, Machine.apply, hth, hp, htask]
      refine ⟨hw, ?_, ?_⟩
      · rw [List.map_append, List.map_append, hths, ← List.eraseIdx_map, hthreads, List.eraseIdx_map]
      · rw [List.length_append, huncaught, hun]

/-- **The machine follows the system** all along. -/
theorem Follows.run {M : Machine τ P α} {R : σ → τ → Prop} {s₀ : Segment τ P}
    (hm : M.Follows S task R) (h₀ : c₀.Follows R task s₀) (h : S.Run ok c₀ es c) :
    c.Follows R task (M.exec s₀ es) := by
  induction h with
  | nil => exact h₀
  | snoc _ e _ ih =>
    rw [exec_snoc]
    exact hm.apply ih e

theorem Models.run_is (hm : M.Models S task) (h₀ : c₀.Is task s₀) (h : S.Run ok c₀ es c) :
    c.Is task (M.exec s₀ es) :=
  hm.follows.run h₀ h

/-- **What the machine keeps, every run keeps**: `I` speaks of the events so far, the world, the
points, and how many calls have thrown. -/
theorem Models.run (hm : M.Models S task) {I : List (Event α) → σ → Multiset P → ℕ → Prop}
    {r₀ : Multiset P} (hat₀ : c₀.At task r₀) (h₀ : I [] c₀.world r₀ c₀.uncaught.length)
    (hcall : ∀ es c r a ticks, S.Run ok c₀ es c → c.At task r → ok c (.call a ticks) →
      I es c.world r c.uncaught.length →
        I (es ++ [.call a ticks]) (M.call a ticks c.world).world
          ((M.call a ticks c.world).points + r)
          (c.uncaught.length + (M.call a ticks c.world).thrown))
    (hresume : ∀ es c r i p ticks, S.Run ok c₀ es c → ok c (.resume i ticks) →
      I es c.world (p ::ₘ r) c.uncaught.length →
        I (es ++ [.resume i ticks]) (M.resume p ticks c.world).world
          ((M.resume p ticks c.world).points + r)
          (c.uncaught.length + (M.resume p ticks c.world).thrown))
    (hnone : ∀ es i ticks w r n, I es w r n → I (es ++ [.resume i ticks]) w r n)
    (h : S.Run ok c₀ es c) :
    ∃ r, c.At task r ∧ I es c.world r c.uncaught.length := by
  induction h with
  | nil => exact ⟨r₀, hat₀, h₀⟩
  | @snoc es c hrun e he ih =>
    obtain ⟨r, hat, hi⟩ := ih
    cases e with
    | call a ticks =>
      obtain ⟨hworld, hat', hlen⟩ := hm.apply_call hat a ticks
      exact ⟨_, hat', hworld ▸ hlen ▸ hcall es c r a ticks hrun hat he hi⟩
    | resume i ticks =>
      rcases hm.apply_resume hat i ticks with heq | ⟨p, r', rfl, hworld, hat', hlen⟩
      · exact ⟨r, heq.symm ▸ hat, heq.symm ▸ hnone es i ticks _ r _ hi⟩
      · exact ⟨_, hat', hworld ▸ hlen ▸ hresume es c r' i p ticks hrun he hi⟩

/-- **Calls carried on to their end**, with no other call coming in between. -/
theorem Models.settles {M : Machine σ P Empty} (hm : M.Models (System.quiet σ ℓ) task)
    (ok : Tick → Prop) {c₀ : Config σ ℓ} {es : List (Event Empty)} {I : σ → Multiset P → ℕ → Prop}
    {r₀ : Multiset P} (hat₀ : c₀.At task r₀) (h₀ : I c₀.world r₀ c₀.uncaught.length)
    (hresume : ∀ p ticks w r n, (∀ k, ok (ticks k)) → I w (p ::ₘ r) n →
      I (M.resume p ticks w).world ((M.resume p ticks w).points + r)
        (n + (M.resume p ticks w).thrown))
    (h : (System.quiet σ ℓ).Run (fun _ e => ∀ k, ok (e.ticks k)) c₀ es c) (hc : c.Settled) :
    I c.world 0 c.uncaught.length := by
  obtain ⟨r, hat, hi⟩ := hm.run (I := fun _ => I) hat₀ h₀ (fun _ _ _ a => a.elim)
    (fun _ c r _ p ticks _ hok hi => hresume p ticks c.world r _ hok hi)
    (fun _ _ _ _ _ _ hi => hi) h
  rwa [← hat.settled hc]

/-- An idle call is resumed, or the one that matters. -/
theorem resume_cases {p : P} {o : Option P} {r rest : Multiset P}
    (h : p ::ₘ r = (o.toList : Multiset P) + rest) :
    (∃ rest', rest = p ::ₘ rest' ∧ r = (o.toList : Multiset P) + rest') ∨
      o = some p ∧ r = rest := by
  cases o with
  | none => exact Or.inl ⟨r, by simpa using h.symm, by simp⟩
  | some q =>
    have hq : p ::ₘ r = q ::ₘ rest := by simpa using h
    rcases Multiset.cons_eq_cons.mp hq with ⟨rfl, rfl⟩ | ⟨-, rest', rfl, rfl⟩
    · exact Or.inr ⟨rfl, rfl⟩
    · exact Or.inl ⟨rest', rfl, by simp⟩

/-- **One call carried on to its end**: at most one point matters, and the calls suspended at others
are idle, they have nothing left to do. -/
theorem Models.settles_one {M : Machine σ P Empty} (hm : M.Models (System.quiet σ ℓ) task)
    (ok : Tick → Prop) {c₀ : Config σ ℓ} {es : List (Event Empty)} {I : σ → Option P → ℕ → Prop}
    (idle : P → Prop) (o₀ : Option P) {rest₀ : List P}
    (hat₀ : c₀.At task ((o₀.toList : Multiset P) + rest₀)) (hrest₀ : ∀ p ∈ rest₀, idle p)
    (h₀ : I c₀.world o₀ c₀.uncaught.length)
    (hidle : ∀ p ticks w, idle p → (∀ k, ok (ticks k)) → M.resume p ticks w = { world := w })
    (hstep : ∀ p ticks w n, (∀ k, ok (ticks k)) → I w (some p) n → ∃ o rest,
      (M.resume p ticks w).points = o.toList ++ rest ∧ (∀ q ∈ rest, idle q) ∧
        I (M.resume p ticks w).world o (n + (M.resume p ticks w).thrown))
    (h : (System.quiet σ ℓ).Run (fun _ e => ∀ k, ok (e.ticks k)) c₀ es c) (hc : c.Settled) :
    I c.world none c.uncaught.length := by
  have hsettled : ∃ (o : Option P) (rest : Multiset P), 0 = (o.toList : Multiset P) + rest ∧
      (∀ q ∈ rest, idle q) ∧ I c.world o c.uncaught.length := by
    refine hm.settles ok (I := fun w r n => ∃ (o : Option P) (rest : Multiset P),
      r = (o.toList : Multiset P) + rest ∧ (∀ q ∈ rest, idle q) ∧ I w o n) hat₀
      ⟨o₀, rest₀, rfl, hrest₀, h₀⟩ ?_ h hc
    rintro p ticks w r n hok ⟨o, rest, hr, hrest, hi⟩
    rcases resume_cases hr with ⟨rest', rfl, rfl⟩ | ⟨rfl, rfl⟩
    · rw [hidle p ticks w (hrest p (Multiset.mem_cons_self ..)) hok]
      exact ⟨o, rest', by simp, fun q hq => hrest q (Multiset.mem_cons_of_mem hq), hi⟩
    · obtain ⟨o', rest', hpoints, hrest', hi'⟩ := hstep p ticks w n hok hi
      refine ⟨o', rest' + r, ?_, fun q hq => ?_, hi'⟩
      · rw [hpoints, ← Multiset.coe_add, add_assoc]
      · rcases Multiset.mem_add.mp hq with hq | hq
        · exact hrest' q hq
        · exact hrest q hq
  obtain ⟨o, rest, hr, -, hi⟩ := hsettled
  cases o with
  | none => exact hi
  | some p =>
    have hp : p ∈ (0 : Multiset P) := hr ▸ Multiset.mem_add.mpr (Or.inl (List.mem_cons_self ..))
    exact absurd hp (Multiset.notMem_zero p)

end Machine

end EventLoop
