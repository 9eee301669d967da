import FlutterTheme.Ends
import FlutterTheme.Evolving

/-!
# Calls that get to their end

Over a world that only evolves, `Completes E m w Q` says that the call `m` keeps the protocol
and does not throw by itself: unless one of its operations fails, it hands on a result that
satisfies `Q`. `Brings g m w` says that the call reaches the goal `g`, which a part of it may
do that completes, or a call it starts without awaiting it; what it does afterwards only has
to keep the protocol.
-/

namespace EventLoop

variable {σ ℓ α β : Type} {E : Evolving σ} {w : σ}

/-- Something to be reached over an evolving world, by calls that may wait anywhere. -/
def Evolving.goal (E : Evolving σ) (ℓ : Type) (reached : σ → Prop)
    (stable : ∀ {w w'}, E.le w w' → reached w → reached w') : Goal (E.protocol ℓ) where
  reached := reached
  scope _ := True
  stable := stable

/-- The call keeps the protocol and, unless one of its operations fails, hands on a result
that satisfies `Q` in the world it is handed on in. -/
structure Completes (E : Evolving σ) (m : Async σ ℓ α) (w : σ) (Q : α → σ → Prop) : Prop where
  keeps : Keeps E m w Q
  reaches : ∀ g : Goal (E.protocol ℓ), (∀ l, g.scope l) → ∀ l,
    m.Reaches g l w fun _ a w' => E.le w w' ∧ E.inv w' ∧ Q a w'

section Completes

variable {m : Async σ ℓ α} {Q Q' : α → σ → Prop}

theorem Completes.mono (h : Completes E m w Q)
    (hQ : ∀ a w', E.le w w' → E.inv w' → Q a w' → Q' a w') : Completes E m w Q' := by
  refine ⟨h.keeps.mono hQ, fun g hg l => (h.reaches g hg l).mono ?_⟩
  rintro _ a w' ⟨hw, hi, hq⟩
  exact ⟨hw, hi, hQ a w' hw hi hq⟩

theorem Completes.runs {m : Async σ ℓ Unit} {Q : Unit → σ → Prop} (h : Completes E m w Q) :
    Runs E m w :=
  h.keeps.runs

theorem completes_pure {a : α} (hi : E.inv w) (h : Q a w) :
    Completes E (pure a : Async σ ℓ α) w Q :=
  ⟨keeps_pure hi h, fun _ _ _ => Async.reaches_pure ⟨E.le_refl w, hi, h⟩⟩

theorem completes_bind {f : α → Async σ ℓ β} {R : β → σ → Prop} (h : Completes E m w Q)
    (hf : ∀ a w', E.le w w' → E.inv w' → Q a w' → Completes E (f a) w' R) :
    Completes E (m >>= f) w R := by
  refine ⟨keeps_bind h.keeps fun a w' hw hi hq => (hf a w' hw hi hq).keeps, fun g hg l => ?_⟩
  refine Async.reaches_bind ((h.reaches g hg l).mono ?_)
  rintro l' a w' ⟨hw, hi, hq⟩
  refine ((hf a w' hw hi hq).reaches g hg l').mono ?_
  rintro _ b w'' ⟨hw', hi', hr⟩
  exact ⟨E.le_trans hw hw', hi', hr⟩

theorem completes_sync {f : Tick → σ → α × σ}
    (h : ∀ t, E.Permits w (f t w).2 ∧ Q (f t w).1 (f t w).2) :
    Completes E (Async.sync f : Async σ ℓ α) w Q := by
  refine ⟨keeps_sync h, fun g _ l => Async.reaches_sync fun t => ?_⟩
  obtain ⟨⟨hle, hi, -⟩, hq⟩ := h t
  exact ⟨hle, hi, hq⟩

theorem completes_get {g : σ → α} (hi : E.inv w) (h : Q (g w) w) :
    Completes E (Async.get g : Async σ ℓ α) w Q :=
  completes_sync fun _ => ⟨.refl hi, h⟩

theorem completes_modify {f : σ → σ} {Q : Unit → σ → Prop} (h : E.Permits w (f w))
    (hq : Q () (f w)) : Completes E (Async.modify f : Async σ ℓ Unit) w Q :=
  completes_sync fun _ => ⟨h, hq⟩

theorem completes_enter {l' : ℓ} (hi : E.inv w) :
    Completes E (Async.enter l' : Async σ ℓ Unit) w fun _ _ => True :=
  ⟨runs_enter hi, fun _ _ _ _ hk => hk l' () w ⟨E.le_refl w, hi, trivial⟩⟩

theorem completes_remote {f : Tick → σ → α × σ}
    (h : ∀ w', E.le w w' → E.inv w' → ∀ t, E.Permits w' (f t w').2 ∧
      ∀ w'', E.le (f t w').2 w'' → E.inv w'' → Q (f t w').1 w'') :
    Completes E (Async.remote f : Async σ ℓ α) w Q := by
  refine ⟨keeps_remote h, fun g hg l => ?_⟩
  refine Async.reaches_remote (hg l) fun w' hw hi t w'' hw'' hi'' => ?_
  obtain ⟨⟨hle, -, -⟩, hq⟩ := h w' hw hi t
  exact ⟨E.le_trans hw (E.le_trans hle hw''), hi'', hq w'' hw'' hi''⟩

/-- The call goes on without the one it has started. -/
theorem completes_spawn {m : Async σ ℓ Unit} {Q : Unit → σ → Prop} (hm : Runs E m w)
    (h : ∀ w', E.le w w' → E.inv w' → Q () w') : Completes E (Async.spawn m) w Q := by
  refine ⟨(runs_spawn hm).mono fun _ w' hw hi _ => h w' hw hi, fun g _ l => ?_⟩
  exact Async.reaches_spawn fun w' hw hi => ⟨hw, hi, h w' hw hi⟩

theorem completes_pause : Completes E (Async.pause : Async σ ℓ Unit) w fun _ _ => True :=
  ⟨runs_pause, fun _ hg l _ hk =>
    ⟨hg l, fun w' hw hi' _ => hk l () w' ⟨hw, hi', trivial⟩⟩⟩

/-- The calls for the elements of a list are started one after the other. -/
theorem completes_forEach {as : List α} {f : α → Async σ ℓ Unit} (hi : E.inv w)
    (hf : ∀ a ∈ as, ∀ w', E.le w w' → E.inv w' → Runs E (f a) w') :
    Completes E (Async.forEach as f) w fun _ _ => True := by
  induction as generalizing w with
  | nil => exact completes_pure hi trivial
  | cons a as ih =>
    refine completes_bind (completes_spawn (Q := fun _ _ => True)
      (hf a (List.mem_cons_self ..) w (E.le_refl w) hi) fun _ _ _ => trivial) ?_
    intro _ w' hw hi' _
    exact ih hi' fun b hb w'' hw' => hf b (List.mem_cons_of_mem _ hb) w'' (E.le_trans hw hw')

end Completes

/-! ## Goals -/

section Brings

variable {g : Goal (E.protocol ℓ)} {m : Async σ ℓ α} {Q : α → σ → Prop}

/-- The call brings about the goal. -/
def Brings (g : Goal (E.protocol ℓ)) (m : Async σ ℓ Unit) (w : σ) : Prop :=
  ∀ l, m.task.Ends g l w

/-- The goal has been reached, and the rest of the call does not undo it. -/
theorem brings_of_reached {m : Async σ ℓ Unit} (hg : ∀ l, g.scope l) (h : Runs E m w)
    (hr : g.reached w) : Brings g m w :=
  fun l => (h.safe l).ends hg hr

theorem brings_of_completes {m : Async σ ℓ Unit} {Q : Unit → σ → Prop} (hg : ∀ l, g.scope l)
    (h : Completes E m w Q) (hr : ∀ w', Q () w' → g.reached w') : Brings g m w := by
  intro l
  refine ((h.reaches g hg l).mono ?_).ends
  rintro _ _ w' ⟨-, -, hq⟩
  exact hr w' hq

theorem brings_bind {f : α → Async σ ℓ Unit} (hg : ∀ l, g.scope l) (h : Completes E m w Q)
    (hf : ∀ a w', E.le w w' → E.inv w' → Q a w' → Brings g (f a) w') : Brings g (m >>= f) w := by
  intro l
  refine h.reaches g hg l _ ?_
  rintro l' a w' ⟨hw, hi, hq⟩
  exact hf a w' hw hi hq l'

/-- A call that is started and not awaited brings about the goal. -/
theorem brings_spawn {m : Async σ ℓ Unit} {f : Unit → Async σ ℓ Unit} (h : Brings g m w) :
    Brings g (Async.spawn m >>= f) w :=
  fun l => Or.inl (h l)

/-- One of the calls that are started for the elements of a list does. -/
theorem brings_forEach {as : List α} {f : α → Async σ ℓ Unit} {f' : Unit → Async σ ℓ Unit} {a : α}
    (ha : a ∈ as) (hi : E.inv w) (hf : ∀ w', E.le w w' → E.inv w' → Brings g (f a) w') :
    Brings g (Async.forEach as f >>= f') w := by
  induction as generalizing w with
  | nil => exact absurd ha List.not_mem_nil
  | cons b bs ih =>
    intro l
    rcases List.mem_cons.mp ha with rfl | ha
    · exact Or.inl (hf w (E.le_refl w) hi l)
    · exact Or.inr fun w' hw hi' =>
        ih ha hi' (fun w'' hw' hi'' => hf w'' (E.le_trans hw hw') hi'') l

end Brings

/-! ## The first actions of a call -/

namespace Async

/-- The call `m`, run from `w` on, has come to where `m'` is left of it in the world `w'`. -/
def Advances (ticks : ℕ → Tick) (m : Async σ ℓ Unit) (l : ℓ) (n : ℕ) (w : σ)
    (m' : Async σ ℓ Unit) (l' : ℓ) (n' : ℕ) (w' : σ) : Prop :=
  ∃ steps, m.task.run ticks l n w = { m'.task.run ticks l' n' w' with steps := steps }

variable {ticks : ℕ → Tick} {l l' l'' : ℓ} {n n' n'' : ℕ} {w w' w'' : σ}
  {m m' m'' : Async σ ℓ Unit}

theorem Advances.refl : m.Advances ticks l n w m l n w := ⟨_, rfl⟩

theorem Advances.trans (h : m.Advances ticks l n w m' l' n' w')
    (h' : m'.Advances ticks l' n' w' m'' l'' n'' w'') : m.Advances ticks l n w m'' l'' n'' w'' := by
  obtain ⟨steps, h⟩ := h
  obtain ⟨steps', h'⟩ := h'
  exact ⟨steps, by rw [h, h']⟩

theorem advances_sync {f : Tick → σ → α × σ} {k : α → Async σ ℓ Unit} :
    (sync f >>= k).Advances ticks l n w (k (f (ticks n) w).1) l (n + 1) (f (ticks n) w).2 :=
  ⟨_, rfl⟩

theorem advances_get {g : σ → α} {k : α → Async σ ℓ Unit} :
    (get g >>= k).Advances ticks l n w (k (g w)) l (n + 1) w :=
  advances_sync

theorem advances_modify {f : σ → σ} {k : Unit → Async σ ℓ Unit} :
    (modify f >>= k).Advances ticks l n w (k ()) l (n + 1) (f w) :=
  advances_sync

theorem advances_enter {k : Unit → Async σ ℓ Unit} :
    (enter l' >>= k).Advances ticks l n w (k ()) l' n w :=
  ⟨_, rfl⟩

theorem bind_assoc {m : Async σ ℓ α} {f : α → Async σ ℓ β} {k : β → Async σ ℓ Unit} :
    (m >>= f) >>= k = m >>= fun a => f a >>= k := rfl

end Async

/-! ## Runs -/

namespace System

variable {S : System σ ℓ α} {c : Config σ ℓ} {g : Goal (E.protocol ℓ)}

/-- A call of which the first actions have been taken: in the world `w`, the rest `m` is run
up to its first `await`. -/
structure Started (S : System σ ℓ α) (E : Evolving σ) (c : Config σ ℓ) (a : α) (ticks : ℕ → Tick)
    (m : Async σ ℓ Unit) (w : σ) : Prop where
  advances : ∃ l n, (S.body a).Advances ticks (S.scope a c.world) 0 c.world m l n w
  le : E.le c.world w
  inv : E.inv w

variable {a : α} {ticks : ℕ → Tick} {m : Async σ ℓ Unit}

/-- What the rest of the call does to the world. -/
theorem Started.rest_le (h : S.Started E c a ticks m w) (hm : Runs E m w) :
    E.le w (S.apply c (.call a ticks)).world := by
  obtain ⟨l, n, steps, hrun⟩ := h.advances
  have ho : S.outcome c (.call a ticks) = { m.task.run ticks l n w with steps := steps } := hrun
  unfold apply
  rw [ho]
  exact ((hm.safe l).run ticks h.inv).le

/-- A call whose rest keeps the protocol. -/
theorem Started.kept (h : S.Started E c a ticks m w) (hc : c.Kept (E.protocol ℓ))
    (hm : Runs E m w) :
    (S.apply c (.call a ticks)).Kept (E.protocol ℓ) ∧
      E.le c.world (S.apply c (.call a ticks)).world := by
  obtain ⟨l, n, steps, hrun⟩ := h.advances
  have ho : S.outcome c (.call a ticks) = { m.task.run ticks l n w with steps := steps } := hrun
  obtain ⟨hle, hinv, -, hths⟩ := (hm.safe l).run ticks (n := n) h.inv
  have hfrom : E.le c.world (m.task.run ticks l n w).world := E.le_trans h.le hle
  unfold apply
  rw [ho]
  refine ⟨⟨hinv, fun th hth => ?_⟩, hfrom⟩
  rcases List.mem_append.mp hth with hth | hth
  · exact (hc.threads th hth).mono hfrom
  · exact hths th hth

/-- A call whose rest brings about a state of the world. -/
theorem Started.pending (hγ : g.OfWorld) (h : S.Started E c a ticks m w)
    (ht : ∀ n, (ticks n).fails = false) (hm : Runs E m w) (hg : Brings g m w) :
    Pending g (S.apply c (.call a ticks)).world (S.apply c (.call a ticks)).threads := by
  obtain ⟨l, n, steps, hrun⟩ := h.advances
  have ho : S.outcome c (.call a ticks) = { m.task.run ticks l n w with steps := steps } := hrun
  unfold apply
  rw [ho]
  exact (((hg l).run ht (n := n) h.inv (hm.safe l)).resolve_left hγ.not_taken).mono (E.le_refl _)
    fun th hth => List.mem_append_right _ hth

end System

end EventLoop
