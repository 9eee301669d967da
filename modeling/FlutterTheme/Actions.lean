import FlutterTheme.EventLoop

/-!
# The actions calls are made of

`Task.All D t` says of every action of the task `t` that it relates the worlds before and after
it by `D`, whatever the world it is taken in: a property of the program, not of its runs. The
rules go through a program once, without an invariant. Every action of every run of such
programs then satisfies `D`, together with the reading of the clock it was taken at
(`System.trace_all`), and the actions of a run lead from its first world to its last
(`System.leads_moves`).
-/

namespace EventLoop

variable {σ ℓ α β : Type}

/-- What an action may do, given its tick; it may do nothing. -/
structure Deeds (σ : Type) where
  rel : Tick → σ → σ → Prop
  refl : ∀ t w, rel t w w

/-- Every action of the task is one of the deeds. -/
def Task.All (D : Deeds σ) : Task σ ℓ → Prop
  | .done => True
  | .throw => True
  | .act f k => ∀ t w, D.rel t w (f t w) ∧ (k t w).All D
  | .fork p k => p.All D ∧ k.All D
  | .enter _ k => k.All D
  | .await k => k.All D

/-- Every action of the call is one of the deeds. -/
def Async.All (D : Deeds σ) (m : Async σ ℓ α) : Prop :=
  ∀ k : α → Task σ ℓ, (∀ a, (k a).All D) → (m k).All D

variable {D D' : Deeds σ}

namespace Async

variable {m : Async σ ℓ α}

theorem All.task {m : Async σ ℓ Unit} (h : m.All D) : m.task.All D := h _ fun _ => trivial

theorem all_pure {a : α} : (pure a : Async σ ℓ α).All D := fun _ hk => hk a

theorem all_bind {f : α → Async σ ℓ β} (h : m.All D) (hf : ∀ a, (f a).All D) : (m >>= f).All D :=
  fun k hk => h _ fun a => hf a k hk

theorem all_sync {f : Tick → σ → α × σ} (h : ∀ t w, D.rel t w (f t w).2) :
    (sync f : Async σ ℓ α).All D :=
  fun _ hk t w => ⟨h t w, hk _⟩

theorem all_get {g : σ → α} : (get g : Async σ ℓ α).All D := all_sync D.refl

theorem all_modify {f : σ → σ} (h : ∀ t w, D.rel t w (f w)) : (modify f : Async σ ℓ Unit).All D :=
  all_sync h

theorem all_pause : (pause : Async σ ℓ Unit).All D := fun _ hk => hk ()

theorem all_remote {f : Tick → σ → α × σ} (h : ∀ t w, D.rel t w (f t w).2) :
    (remote f : Async σ ℓ α).All D := by
  intro k hk t w
  by_cases ht : t.fails = true
  · simp only [if_pos ht]
    exact ⟨D.refl t w, trivial⟩
  · simp only [if_neg ht]
    exact ⟨h t w, hk _⟩

theorem all_attempt {f : Tick → σ → α × σ} (h : ∀ t w, D.rel t w (f t w).2) :
    (attempt f : Async σ ℓ (Option α)).All D := by
  intro k hk t w
  by_cases ht : t.fails = true
  · simp only [if_pos ht]
    exact ⟨D.refl t w, hk none⟩
  · simp only [if_neg ht]
    exact ⟨h t w, hk _⟩

theorem all_spawn {m : Async σ ℓ Unit} (h : m.All D) : (spawn m).All D :=
  fun _ hk => ⟨h.task, hk ()⟩

theorem all_throw : (throw : Async σ ℓ α).All D := fun _ _ => trivial

theorem all_enter {l : ℓ} : (enter l : Async σ ℓ Unit).All D := fun _ hk => hk ()

theorem all_forEach {as : List α} {f : α → Async σ ℓ Unit} (hf : ∀ a ∈ as, (f a).All D) :
    (forEach as f).All D := by
  induction as with
  | nil => exact all_pure
  | cons a as ih =>
    refine all_bind (all_spawn (hf a (List.mem_cons_self ..))) fun _ => ih ?_
    exact fun b hb => hf b (List.mem_cons_of_mem _ hb)

/-- A call that depends on a condition. -/
theorem all_ite {p : Prop} [Decidable p] {m m' : Async σ ℓ α} (h : m.All D) (h' : m'.All D) :
    (if p then m else m').All D := by
  split
  · exact h
  · exact h'

end Async

/-! ## Segments -/

/-- The actions lead from one world to the other. -/
def Leads : σ → List (Step σ ℓ) → σ → Prop
  | w, [], w' => w' = w
  | w, st :: sts, w' => st.before = w ∧ Leads st.after sts w'

theorem Leads.append {w w' w'' : σ} {sts sts' : List (Step σ ℓ)} (h : Leads w sts w')
    (h' : Leads w' sts' w'') : Leads w (sts ++ sts') w'' := by
  induction sts generalizing w with
  | nil =>
    obtain rfl : w' = w := h
    exact h'
  | cons st sts ih => exact ⟨h.1, ih h.2⟩

/-- What each of the actions keeps, all of them keep. -/
theorem Leads.keeps {P : σ → Prop} {sts : List (Step σ ℓ)}
    (hP : ∀ st ∈ sts, P st.before → P st.after) :
    ∀ {w w' : σ}, Leads w sts w' → P w → P w' := by
  induction sts with
  | nil =>
    rintro w _ rfl hw
    exact hw
  | cons st sts ih =>
    rintro _ w' ⟨rfl, hleads⟩ hw
    refine ih (fun st' hst' => hP st' (List.mem_cons_of_mem _ hst')) hleads ?_
    exact hP st (List.mem_cons_self ..) hw

/-- What holds at the start and of one more action each time holds of all of them. -/
theorem Leads.keeps_past {P : List (Step σ ℓ) → σ → Prop} {sts : List (Step σ ℓ)}
    (hP : ∀ past, ∀ st ∈ sts, P past st.before → P (past ++ [st]) st.after) :
    ∀ {past : List (Step σ ℓ)} {w w' : σ}, Leads w sts w' → P past w → P (past ++ sts) w' := by
  induction sts with
  | nil =>
    rintro past w _ rfl hw
    rwa [List.append_nil]
  | cons st sts ih =>
    rintro past _ w' ⟨rfl, hleads⟩ hw
    have hfirst := hP past st (List.mem_cons_self ..) hw
    have hrest := ih (fun past' st' hst' => hP past' st' (List.mem_cons_of_mem _ hst')) hleads hfirst
    rwa [List.append_assoc] at hrest

/-- The steps of a segment lead from the state it starts in to the one it ends in, each from where
the last one has come to. -/
theorem Task.run_leads {ticks : ℕ → Tick} {t : Task σ ℓ} :
    ∀ {l : ℓ} {n : ℕ} {w : σ}, Leads w (t.run ticks l n w).steps (t.run ticks l n w).world := by
  induction t with
  | done => exact rfl
  | throw => exact rfl
  | act f k ih =>
    intro l n w
    exact ⟨rfl, ih (ticks n) w⟩
  | fork p k ihp ihk => exact ihp.append ihk
  | enter l k ih => exact ih
  | await k => exact rfl

/-- Every action uses up one tick. -/
theorem Task.run_used {ticks : ℕ → Tick} {t : Task σ ℓ} :
    ∀ {l : ℓ} {n : ℕ} {w : σ},
      (t.run ticks l n w).used = n + (t.run ticks l n w).steps.length := by
  induction t with
  | done => exact rfl
  | throw => exact rfl
  | act f k ih =>
    intro l n w
    change (((k (ticks n) w).run ticks l (n + 1) (f (ticks n) w)).used) = _
    rw [ih]
    simp only [run, List.length_cons]
    omega
  | fork p k ihp ihk =>
    intro l n w
    change (k.run ticks l (p.run ticks l n w).used (p.run ticks l n w).world).used = _
    rw [ihk]
    nth_rewrite 1 [ihp]
    simp only [run, List.length_append]
    omega
  | enter l k ih => exact ih
  | await k => exact rfl

/-- The `i`-th action of a segment is a deed at the `i`-th tick. -/
theorem Task.All.steps {ticks : ℕ → Tick} {t : Task σ ℓ} :
    ∀ {l : ℓ} {n : ℕ} {w : σ}, t.All D → ∀ i st, (t.run ticks l n w).steps[i]? = some st →
      D.rel (ticks (n + i)) st.before st.after := by
  induction t with
  | done => exact fun _ _ _ hi => absurd hi (by simp [Task.run])
  | throw => exact fun _ _ _ hi => absurd hi (by simp [Task.run])
  | act f k ih =>
    intro l n w h i st hi
    cases i with
    | zero =>
      obtain rfl : (⟨l, w, f (ticks n) w⟩ : Step σ ℓ) = st := Option.some.inj hi
      exact (h (ticks n) w).1
    | succ i =>
      have hrest := ih (ticks n) w (l := l) (n := n + 1) (h (ticks n) w).2 i st hi
      rwa [Nat.add_right_comm, Nat.add_assoc] at hrest
  | fork p k ihp ihk =>
    intro l n w h i st hi
    change ((p.run ticks l n w).steps ++ _)[i]? = some st at hi
    by_cases hlt : i < (p.run ticks l n w).steps.length
    · rw [List.getElem?_append_left hlt] at hi
      exact ihp h.1 i st hi
    · rw [List.getElem?_append_right (Nat.le_of_not_lt hlt)] at hi
      have hrest := ihk h.2 _ st hi
      rw [Task.run_used, Nat.add_assoc, Nat.add_sub_cancel' (Nat.le_of_not_lt hlt)] at hrest
      exact hrest
  | enter l k ih => exact fun h => ih h
  | await k => exact fun _ _ _ hi => absurd hi (by simp [Task.run])

/-- What a segment suspends is made of deeds, as the call that is run is. By induction on the task;
an `await` leaves the rest of the task as it is. -/
theorem Task.All.threads {ticks : ℕ → Tick} {t : Task σ ℓ} :
    ∀ {l : ℓ} {n : ℕ} {w : σ}, t.All D → ∀ th ∈ (t.run ticks l n w).threads, th.task.All D := by
  induction t with
  | done => exact fun _ _ hth => absurd hth List.not_mem_nil
  | throw => exact fun _ _ hth => absurd hth List.not_mem_nil
  | act f k ih =>
    intro l n w h
    exact ih (ticks n) w (h (ticks n) w).2
  | fork p k ihp ihk =>
    intro l n w h th hth
    rcases List.mem_append.mp hth with hth | hth
    · exact ihp h.1 th hth
    · exact ihk h.2 th hth
  | enter l k ih => exact fun h => ih h
  | await k =>
    intro l n w h th hth
    obtain rfl := List.mem_singleton.mp hth
    exact h

/-! ## Runs -/

/-- Every suspended call is made of deeds. -/
def Config.All (D : Deeds σ) (c : Config σ ℓ) : Prop := ∀ th ∈ c.threads, th.task.All D

/-- The ticks of an event. -/
def Event.ticks : Event α → ℕ → Tick
  | .call _ ticks | .resume _ ticks => ticks

namespace System

variable {S : System σ ℓ α} {ok : Config σ ℓ → Event α → Prop} {c₀ c : Config σ ℓ} {e : Event α}
  {es : List (Event α)}

/-- What an event does is made of deeds. -/
def Acts (S : System σ ℓ α) (D : Deeds σ) : Event α → Prop
  | .call a _ => (S.body a).All D
  | .resume _ _ => True

/-- One event keeps the suspended calls made of deeds: a new call's body is, and the rest of a
resumed one is as before. -/
theorem apply_all (hc : c.All D) (he : S.Acts D e) : (S.apply c e).All D := by
  intro th hth
  cases e with
  | call a ticks =>
    rcases List.mem_append.mp hth with hth | hth
    · exact hc th hth
    · exact he.task.threads th hth
  | resume i ticks =>
    rcases List.mem_append.mp hth with hth | hth
    · exact hc th (List.mem_of_mem_eraseIdx hth)
    · cases hget : c.threads[i]? with
      | none =>
        simp only [outcome, hget] at hth
        exact absurd hth List.not_mem_nil
      | some th' =>
        simp only [outcome, hget] at hth
        exact (hc th' (List.mem_of_getElem? hget)).threads th hth

/-- A run keeps to the deeds. -/
theorem Run.all (h₀ : c₀.All D) (hok : ∀ c e, ok c e → S.Acts D e) (h : S.Run ok c₀ es c) :
    c.All D :=
  h.induct h₀ fun c e hc he => apply_all hc (hok c e he)

/-- The actions of one event. -/
theorem outcome_all (hc : c.All D) (he : S.Acts D e) (i : ℕ) (st : Step σ ℓ)
    (hi : (S.outcome c e).steps[i]? = some st) : D.rel (e.ticks i) st.before st.after := by
  cases e with
  | call a ticks =>
    have hstep := he.task.steps i st hi
    rwa [Nat.zero_add] at hstep
  | resume j ticks =>
    cases hget : c.threads[j]? with
    | none =>
      simp only [outcome, hget] at hi
      exact absurd hi (by simp)
    | some th =>
      simp only [outcome, hget] at hi
      have hstep := (hc th (List.mem_of_getElem? hget)).steps i st hi
      rwa [Nat.zero_add] at hstep

theorem rel_of_mem_steps (hc : c.All D) (he : S.Acts D e) {st : Step σ ℓ}
    (hst : st ∈ (S.outcome c e).steps) : ∃ t, D.rel t st.before st.after := by
  obtain ⟨i, hi⟩ := List.getElem?_of_mem hst
  exact ⟨_, outcome_all hc he i st hi⟩

theorem outcome_leads : Leads c.world (S.outcome c e).steps (S.apply c e).world := by
  cases e with
  | call a ticks => exact Task.run_leads
  | resume i ticks =>
    cases hget : c.threads[i]? with
    | none => simp [apply, outcome, hget, Leads]
    | some th =>
      simp only [apply, outcome, hget]
      exact Task.run_leads

variable (S) in
/-- The actions of a run, each with its tick. -/
def trace : Config σ ℓ → List (Event α) → List (Tick × Step σ ℓ)
  | _, [] => []
  | c, e :: es =>
    (S.outcome c e).steps.mapIdx (fun i st => (e.ticks i, st)) ++ trace (S.apply c e) es

variable (S) in
/-- The clocks never go back, on any device. -/
def NonDecreasing (c : Config σ ℓ) (es : List (Event α)) : Prop :=
  ((S.trace c es).map (·.1.now)).IsChain (· ≤ ·)

instance (c : Config σ ℓ) (es : List (Event α)) : Decidable (S.NonDecreasing c es) :=
  inferInstanceAs (Decidable (List.IsChain (· ≤ ·) ((S.trace c es).map (·.1.now))))

variable (S) in
/-- The actions of a run. -/
def moves (c : Config σ ℓ) (es : List (Event α)) : List (Step σ ℓ) := (S.trace c es).map Prod.snd

theorem moves_cons : S.moves c (e :: es) = (S.outcome c e).steps ++ S.moves (S.apply c e) es := by
  have hsteps : ((S.outcome c e).steps.mapIdx fun i st => (e.ticks i, st)).map Prod.snd =
      (S.outcome c e).steps :=
    List.ext_getElem (by simp) fun i _ _ => by simp
  rw [moves, trace, List.map_append, hsteps]
  rfl

theorem moves_append {es' : List (Event α)} : ∀ {es : List (Event α)} {c : Config σ ℓ},
    S.moves c (es ++ es') = S.moves c es ++ S.moves (S.exec c es) es'
  | [], _ => rfl
  | e :: es, c => by
    rw [List.cons_append, moves_cons, moves_append, moves_cons, List.append_assoc]
    rfl

/-- The actions of a run lead to where it ends. -/
theorem leads_moves : ∀ {es : List (Event α)} {c : Config σ ℓ},
    Leads c.world (S.moves c es) (S.exec c es).world
  | [], _ => rfl
  | e :: es, c => by
    rw [moves_cons]
    exact outcome_leads.append leads_moves

/-- What holds of the actions of every event holds of the actions of a run. -/
theorem Run.forall_moves {P : Step σ ℓ → Prop} (h : S.Run ok c₀ es c)
    (hP : ∀ es c e, S.Run ok c₀ es c → ok c e → ∀ st ∈ (S.outcome c e).steps, P st) :
    ∀ st ∈ S.moves c₀ es, P st := by
  induction h with
  | nil => exact fun st hst => absurd hst List.not_mem_nil
  | @snoc es c h e he ih =>
    intro st hst
    rw [moves_append, ← h.exec_eq, moves_cons] at hst
    rcases List.mem_append.mp hst with hst | hst
    · exact ih st hst
    · exact hP es c e h he st (by simpa [moves, trace] using hst)

/-- **Every action of a run is a deed** if the calls started in it are made of deeds. -/
theorem trace_all : ∀ {es : List (Event α)} {c : Config σ ℓ}, c.All D → (∀ e ∈ es, S.Acts D e) →
    ∀ a ∈ S.trace c es, D.rel a.1 a.2.before a.2.after
  | [], _, _, _, _, ha => absurd ha List.not_mem_nil
  | e :: es, c, hc, he, a, ha => by
    have hfirst := he e (List.mem_cons_self ..)
    rcases List.mem_append.mp ha with ha | ha
    · obtain ⟨i, hi, rfl⟩ := List.mem_mapIdx.mp ha
      exact outcome_all hc hfirst i _ (List.getElem?_eq_getElem hi)
    · exact trace_all (apply_all hc hfirst) (fun e' he' => he e' (List.mem_cons_of_mem _ he')) a ha

end System

end EventLoop
