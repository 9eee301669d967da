import FlutterTheme.Actions

/-!
# What calls do first when they are resumed

`Task.Guarded R acts t` says that every action of the task `t` relates the worlds before and after
it by `R`, except for what a call does first when it is resumed, which may be one of `acts`. So
which segments do something else than `R` can be told from the suspended calls
(`System.apply_resumed`).
-/

namespace EventLoop

variable {σ ℓ α β ε : Type} {R : σ → σ → Prop} {acts : ε → σ → σ}

/-- The task begins with the action. -/
def Task.Begins (acts : ε → σ → σ) (e : ε) (t rest : Task σ ℓ) : Prop :=
  t = .act (fun _ w => acts e w) fun _ _ => rest

/-- Every action of the task is permitted, except for those that come first. -/
inductive Task.Guarded (R : σ → σ → Prop) (acts : ε → σ → σ) :
    Task σ ℓ → Prop where
  | done : Guarded R acts .done
  | throw : Guarded R acts .throw
  | act {f : Tick → σ → σ} {k : Tick → σ → Task σ ℓ} (hf : ∀ t w, R w (f t w))
      (hk : ∀ t w, Guarded R acts (k t w)) : Guarded R acts (.act f k)
  | fork {p k : Task σ ℓ} (hp : Guarded R acts p) (hk : Guarded R acts k) :
      Guarded R acts (.fork p k)
  | enter {l : ℓ} {k : Task σ ℓ} (hk : Guarded R acts k) : Guarded R acts (.enter l k)
  | await {k : Task σ ℓ} (hk : Guarded R acts k) : Guarded R acts (.await k)
  /-- the call does something else when it is resumed -/
  | awaitFirst {k rest : Task σ ℓ} (e : ε) (hfirst : k.Begins acts e rest)
      (hrest : Guarded R acts rest) : Guarded R acts (.await k)

/-- A suspended call that may do something else first. -/
def Task.Ready (R : σ → σ → Prop) (acts : ε → σ → σ) (t : Task σ ℓ) : Prop :=
  t.Guarded R acts ∨ ∃ e rest, t.Begins acts e rest ∧ rest.Guarded R acts

/-- What comes after a first action is guarded. -/
theorem Task.Ready.rest {t rest : Task σ ℓ} {e : ε} (h : t.Ready R acts)
    (ht : t.Begins acts e rest) (w : σ) : rest.Guarded R acts := by
  rw [Begins] at ht
  subst ht
  rcases h with h | ⟨_, rest', hbegins, hrest⟩
  · cases h with
    | act _ hk => exact hk ⟨0, 0, false⟩ w
  · injection hbegins with _ hk
    have heq : rest = rest' := congrFun (congrFun hk ⟨0, 0, false⟩) w
    exact heq ▸ hrest

/-- What a segment of a guarded call leaves: the state is as it was, and the threads may act only
when they begin. By induction on the task. -/
theorem Task.Guarded.run (hrefl : ∀ w, R w w) (htrans : ∀ {w w' w''}, R w w' → R w' w'' → R w w'')
    (ticks : ℕ → Tick) {t : Task σ ℓ} (h : t.Guarded R acts) : ∀ (l : ℓ) (n : ℕ) (w : σ),
      R w (t.run ticks l n w).world ∧
        ∀ th ∈ (t.run ticks l n w).threads, th.task.Ready R acts := by
  induction h with
  | done => exact fun _ _ _ => ⟨hrefl _, fun _ hth => absurd hth List.not_mem_nil⟩
  | throw => exact fun _ _ _ => ⟨hrefl _, fun _ hth => absurd hth List.not_mem_nil⟩
  | @act f k hf _ ih =>
    intro l n w
    obtain ⟨hworld, hthreads⟩ := ih (ticks n) w l (n + 1) (f (ticks n) w)
    exact ⟨htrans (hf _ _) hworld, hthreads⟩
  | @fork p k _ _ ihp ihk =>
    intro l n w
    obtain ⟨hworld, hthreads⟩ := ihp l n w
    obtain ⟨hworld', hthreads'⟩ := ihk l (p.run ticks l n w).used (p.run ticks l n w).world
    refine ⟨htrans hworld hworld', fun th hth => ?_⟩
    rcases List.mem_append.mp hth with hth | hth
    · exact hthreads th hth
    · exact hthreads' th hth
  | enter _ ih => exact fun _ => ih _
  | @await k hk =>
    intro l n w
    refine ⟨hrefl _, fun th hth => ?_⟩
    obtain rfl := List.mem_singleton.mp hth
    exact Or.inl hk
  | @awaitFirst k rest e hfirst hrest =>
    intro l n w
    refine ⟨hrefl _, fun th hth => ?_⟩
    obtain rfl := List.mem_singleton.mp hth
    exact Or.inr ⟨e, rest, hfirst, hrest⟩

/-! ## Calls with a result -/

namespace Async

/-- Every action of the call is permitted, except for those that come first. -/
def Guarded (R : σ → σ → Prop) (acts : ε → σ → σ) (m : Async σ ℓ α) : Prop :=
  ∀ k : α → Task σ ℓ, (∀ a, (k a).Guarded R acts) → (m k).Guarded R acts

theorem Guarded.task {m : Async σ ℓ Unit} (h : m.Guarded R acts) : m.task.Guarded R acts :=
  h _ fun _ => .done

theorem guarded_pure {a : α} : (pure a : Async σ ℓ α).Guarded R acts := fun _ hk => hk a

theorem guarded_bind {m : Async σ ℓ α} {f : α → Async σ ℓ β} (h : m.Guarded R acts)
    (hf : ∀ a, (f a).Guarded R acts) : (m >>= f).Guarded R acts :=
  fun k hk => h _ fun a => hf a k hk

theorem guarded_sync {f : Tick → σ → α × σ} (h : ∀ t w, R w (f t w).2) :
    (sync f : Async σ ℓ α).Guarded R acts :=
  fun _ hk => .act h fun _ _ => hk _

theorem guarded_modify {f : σ → σ} (h : ∀ w, R w (f w)) :
    (modify f : Async σ ℓ Unit).Guarded R acts :=
  guarded_sync fun _ => h

theorem guarded_pause : (pause : Async σ ℓ Unit).Guarded R acts := fun _ hk => .await (hk ())

theorem guarded_throw : (throw : Async σ ℓ α).Guarded R acts := fun _ _ => .throw

theorem guarded_enter {l : ℓ} : (enter l : Async σ ℓ Unit).Guarded R acts :=
  fun _ hk => .enter (hk ())

theorem guarded_spawn {m : Async σ ℓ Unit} (h : m.Guarded R acts) :
    (spawn m).Guarded R acts :=
  fun _ hk => .fork h.task (hk ())

theorem guarded_forEach {as : List α} {f : α → Async σ ℓ Unit}
    (hf : ∀ a, (f a).Guarded R acts) : (forEach as f).Guarded R acts := by
  induction as with
  | nil => exact guarded_pure
  | cons a as ih => exact guarded_bind (guarded_spawn (hf a)) fun _ => ih

theorem guarded_ite {p : Prop} [Decidable p] {m m' : Async σ ℓ α} (h : m.Guarded R acts)
    (h' : m'.Guarded R acts) : (if p then m else m').Guarded R acts := by
  split
  · exact h
  · exact h'

section Operations

variable (hrefl : ∀ w, R w w)
include hrefl

theorem guarded_get {g : σ → α} : (get g : Async σ ℓ α).Guarded R acts :=
  guarded_sync fun _ => hrefl

/-- A remote operation, where the answer may be followed by something else. -/
theorem guarded_remote_then {f : Tick → σ → α × σ} {k : α → Task σ ℓ}
    (h : ∀ t w, R w (f t w).2) (hk : ∀ a, (Task.await (k a)).Guarded R acts) :
    ((remote f : Async σ ℓ α) k).Guarded R acts := by
  refine .await (.act (fun t w => ?_) fun t w => ?_)
  · split
    · exact hrefl w
    · exact h t w
  · split
    · exact .throw
    · exact hk _

theorem guarded_remote {f : Tick → σ → α × σ} (h : ∀ t w, R w (f t w).2) :
    (remote f : Async σ ℓ α).Guarded R acts :=
  fun _ hk => guarded_remote_then hrefl h fun a => .await (hk a)

theorem guarded_attempt {f : Tick → σ → α × σ} (h : ∀ t w, R w (f t w).2) :
    (attempt f : Async σ ℓ (Option α)).Guarded R acts := by
  refine fun _ hk => .await (.act (fun t w => ?_) fun _ _ => .await (hk _))
  split
  · exact hrefl w
  · exact h t w

end Operations

end Async

/-! ## Runs -/

/-- Every suspended call is ready. -/
def Config.Ready (R : σ → σ → Prop) (acts : ε → σ → σ) (c : Config σ ℓ) : Prop :=
  ∀ th ∈ c.threads, th.task.Ready R acts

namespace System

variable (S : System σ ℓ α) {c : Config σ ℓ}

/-- **A call that is resumed** does only what is permitted, or begins with something else. -/
theorem apply_resumed (hrefl : ∀ w, R w w) (htrans : ∀ {w w' w''}, R w w' → R w' w'' → R w w'')
    (hc : c.Ready R acts) (i : ℕ) (ticks : ℕ → Tick) :
    (S.apply c (.resume i ticks)).Ready R acts ∧
      (R c.world (S.apply c (.resume i ticks)).world ∨
        ∃ th e rest, c.threads[i]? = some th ∧ th.task.Begins acts e rest ∧
          R (acts e c.world) (S.apply c (.resume i ticks)).world) := by
  cases hget : c.threads[i]? with
  | none =>
    simp only [Config.Ready, apply, outcome, hget, Config.kept, List.append_nil]
    exact ⟨fun th hth => hc th (List.mem_of_mem_eraseIdx hth), Or.inl (hrefl _)⟩
  | some th =>
    simp only [Config.Ready, apply, outcome, hget, Config.kept]
    have hkept : ∀ th' ∈ c.threads.eraseIdx i, th'.task.Ready R acts := fun th' hth' =>
      hc th' (List.mem_of_mem_eraseIdx hth')
    rcases hc th (List.mem_of_getElem? hget) with hguarded | ⟨e, rest, hbegins, hrest⟩
    · obtain ⟨hworld, hthreads⟩ := hguarded.run hrefl htrans ticks th.scope 0 c.world
      refine ⟨fun th' hth' => ?_, Or.inl hworld⟩
      exact (List.mem_append.mp hth').elim (hkept th') (hthreads th')
    · have htask : th.task = .act (fun _ w => acts e w) fun _ _ => rest := hbegins
      obtain ⟨hworld, hthreads⟩ := hrest.run hrefl htrans ticks th.scope 1 (acts e c.world)
      have hrun : (th.task.run ticks th.scope 0 c.world).world =
            (rest.run ticks th.scope 1 (acts e c.world)).world ∧
          (th.task.run ticks th.scope 0 c.world).threads =
            (rest.run ticks th.scope 1 (acts e c.world)).threads := by
        rw [htask]
        exact ⟨rfl, rfl⟩
      rw [hrun.1, hrun.2]
      refine ⟨fun th' hth' => ?_, Or.inr ⟨th, e, rest, rfl, hbegins, hworld⟩⟩
      exact (List.mem_append.mp hth').elim (hkept th') (hthreads th')

end System

end EventLoop
