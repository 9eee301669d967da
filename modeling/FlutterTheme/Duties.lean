import FlutterTheme.Actions
import FlutterTheme.Labels

/-!
# The duties of suspended calls

What the suspended calls still have to do is kept as an element of a commutative monoid, the sum
of what every single call has to do, and an invariant ties it to the world. A `Duties` says what
the environment may decide in the runs that are looked at and what the invariant is.

* `Task.Leaves` — running the call up to its next `await` leaves a world and suspended calls with
  certain duties. Within such a segment nothing is asked of the world.
* `Task.Bears` — a suspended call bears certain duties: whatever the others have to do, resuming
  it turns its duties into duties with which the invariant holds again.
* `Config.Bears` — the suspended calls share out duties with which the invariant holds. Every
  event keeps it (`System.apply_bears`), so the world of a settled configuration satisfies the
  invariant without any duty left (`Config.Bears.settled`).
* `Async.Leaves` — the form for calls with a result.
-/

namespace EventLoop

variable {σ ℓ α β M : Type}

/-- What the environment may decide, and what the suspended calls and the world have to do with
each other. -/
structure Duties (σ ℓ M : Type) where
  /-- what may be decided at an action -/
  admits : Tick → Prop
  /-- holds of the world and of the duties of all suspended calls -/
  inv : σ → M → Prop
  /-- which suspended calls may have certain duties -/
  tag : Task σ ℓ → M → Prop := fun _ _ => True
  /-- what the scheduler promises a call it resumes about the duties of the others -/
  promise : Task σ ℓ → M → Prop := fun _ _ => True

/-- Any suspended call may have the duties. -/
def Duties.Plain (D : Duties σ ℓ M) (r : M) : Prop := ∀ t, D.tag t r

variable [AddCommMonoid M]

/-- The invariant, if the others have the duties `f`. -/
def Duties.after (D : Duties σ ℓ M) (f : M) (w : σ) (r : M) : Prop := D.inv w (r + f)

/-- Running the call up to its next `await` leaves a world and suspended calls with duties that
satisfy `R`. -/
def Task.Leaves (D : Duties σ ℓ M) : Task σ ℓ → σ → (σ → M → Prop) → Prop
  | .done, w, R => R w 0
  | .throw, w, R => R w 0
  | .act g k, w, R => ∀ t, D.admits t → (k t w).Leaves D (g t w) R
  | .fork p k, w, R => p.Leaves D w fun w' r => k.Leaves D w' fun w'' r' => R w'' (r + r')
  | .enter _ k, w, R => k.Leaves D w R
  | .await k, w, R => ∃ r, R w r ∧ D.tag k r ∧
      ∀ w' f, D.promise k f → D.inv w' (r + f) → k.Leaves D w' (D.after f)

/-- The suspended call bears the duties `r`. -/
def Task.Bears (D : Duties σ ℓ M) (t : Task σ ℓ) (r : M) : Prop :=
  D.tag t r ∧ ∀ w f, D.promise t f → D.inv w (r + f) → t.Leaves D w (D.after f)

variable {D : Duties σ ℓ M}

/-- The second call is what is left of the first after one of its awaits. -/
inductive Task.Rest : Task σ ℓ → Task σ ℓ → Prop
  | here {k : Task σ ℓ} : Rest (.await k) k
  | await {k t : Task σ ℓ} : Rest k t → Rest (.await k) t
  | act {g : Tick → σ → σ} {k : Tick → σ → Task σ ℓ} {t : Task σ ℓ} (tick : Tick) (w : σ) :
    Rest (k tick w) t → Rest (.act g k) t
  | forked {p k t : Task σ ℓ} : Rest p t → Rest (.fork p k) t
  | fork {p k t : Task σ ℓ} : Rest k t → Rest (.fork p k) t
  | enter {l : ℓ} {k t : Task σ ℓ} : Rest k t → Rest (.enter l k) t

/-- What a task leaves may be weakened. By induction on the task. -/
theorem Task.Leaves.mono {t : Task σ ℓ} : ∀ {w : σ} {R R' : σ → M → Prop},
    t.Leaves D w R → (∀ w r, R w r → R' w r) → t.Leaves D w R' := by
  induction t with
  | done => exact fun h hR => hR _ _ h
  | throw => exact fun h hR => hR _ _ h
  | act g k ih => exact fun h hR t ht => ih t _ (h t ht) hR
  | fork p k ihp ihk => exact fun h hR => ihp h fun _ _ hk => ihk hk fun _ _ hr => hR _ _ hr
  | enter l k ih => exact fun h hR => ih h hR
  | await k ih =>
    intro w R R' h hR
    obtain ⟨r, hr, htag, hk⟩ := h
    exact ⟨r, hR w r hr, htag, hk⟩

/-- The suspended calls bear the duties in the list, one after the other. -/
abbrev Shares (D : Duties σ ℓ M) (ths : List (Thread σ ℓ)) (rs : List M) : Prop :=
  List.Forall₂ (fun th r => th.task.Bears D r) ths rs

/-- The calls suspended in a segment share out duties with which the invariant holds, if the others
have the duties `f`. -/
def Outcome.Bears (D : Duties σ ℓ M) (o : Outcome σ ℓ) (f : M) : Prop :=
  ∃ rs, Shares D o.threads rs ∧ D.after f o.world rs.sum

/-- What is left of a call are the calls suspended on the way. -/
theorem Task.Leaves.run {ticks : ℕ → Tick} (ht : ∀ n, D.admits (ticks n)) {t : Task σ ℓ} :
    ∀ {l : ℓ} {n : ℕ} {w : σ} {R : σ → M → Prop}, t.Leaves D w R →
      ∃ rs, Shares D (t.run ticks l n w).threads rs ∧ R (t.run ticks l n w).world rs.sum := by
  induction t with
  | done => exact fun h => ⟨[], .nil, h⟩
  | throw => exact fun h => ⟨[], .nil, h⟩
  | act g k ih => exact fun {_ n _ _} h => ih (ticks n) _ (h (ticks n) (ht n))
  | fork p k ihp ihk =>
    intro l n w R h
    obtain ⟨rs, hrs, hk⟩ := ihp (l := l) (n := n) h
    obtain ⟨rs', hrs', hr⟩ := ihk (l := l) (n := (p.run ticks l n w).used) hk
    refine ⟨rs ++ rs', List.rel_append hrs hrs', ?_⟩
    rwa [List.sum_append]
  | enter l k ih => exact fun h => ih h
  | await k ih =>
    intro l n w R h
    obtain ⟨r, hr, hk⟩ := h
    exact ⟨[r], .cons hk .nil, by rwa [List.sum_singleton]⟩

/-- A segment as a whole. -/
theorem Task.Leaves.bears {ticks : ℕ → Tick} (ht : ∀ n, D.admits (ticks n)) {t : Task σ ℓ} {l : ℓ}
    {n : ℕ} {w : σ} {f : M} (h : t.Leaves D w (D.after f)) : (t.run ticks l n w).Bears D f :=
  h.run ht

/-! ## Runs -/

/-- The suspended calls share out duties with which the invariant holds. -/
def Config.Bears (D : Duties σ ℓ M) (c : Config σ ℓ) : Prop :=
  ∃ rs, Shares D c.threads rs ∧ D.inv c.world rs.sum

/-- When nothing is suspended, nothing is left to be done. -/
theorem Config.Bears.settled {c : Config σ ℓ} (h : c.Bears D) (hc : c.Settled) :
    D.inv c.world 0 := by
  obtain ⟨rs, hrs, hi⟩ := h
  rw [hc] at hrs
  obtain rfl := List.forall₂_nil_left_iff.mp hrs
  exact hi

/-- The duties of one call are taken out. -/
theorem Shares.eraseIdx {ths : List (Thread σ ℓ)} {rs : List M} {th : Thread σ ℓ}
    (h : Shares D ths rs) {i : ℕ} (hi : ths[i]? = some th) :
    ∃ r rs', th.task.Bears D r ∧ Shares D (ths.eraseIdx i) rs' ∧ rs.sum = r + rs'.sum :=
  forall₂_eraseIdx h hi

/-- The calls suspended in a segment, and those that are suspended already. -/
theorem Outcome.Bears.config {o : Outcome σ ℓ} {ths : List (Thread σ ℓ)} {rs : List M}
    {uncaught : List ℓ} (h : o.Bears D rs.sum) (hths : Shares D ths rs) :
    (⟨o.world, ths ++ o.threads, uncaught⟩ : Config σ ℓ).Bears D := by
  obtain ⟨rs', hrs', hi⟩ := h
  refine ⟨rs ++ rs', List.rel_append hths hrs', ?_⟩
  rwa [List.sum_append, add_comm]

namespace System

variable {S : System σ ℓ α} {ok : Config σ ℓ → Event α → Prop} {c₀ c : Config σ ℓ}
  {es : List (Event α)}

/-- At the event, the environment decides what it may, a call that is started leaves duties with
which the invariant holds, and a call that is resumed gets what it has been promised. -/
structure Charges (S : System σ ℓ α) (D : Duties σ ℓ M) (c : Config σ ℓ) (e : Event α) :
    Prop where
  admits : ∀ n, D.admits (e.ticks n)
  call : ∀ a ticks, e = .call a ticks → ∀ f, D.inv c.world f →
    (S.outcome c (.call a ticks)).Bears D f
  promise : ∀ i ticks th rs, e = .resume i ticks → c.threads[i]? = some th →
    Shares D (c.threads.eraseIdx i) rs → D.promise th.task rs.sum

/-- One event passes the duties on: those of a new call are added, and those of a resumed one are
given to what it leaves. -/
theorem apply_bears (hc : c.Bears D) {e : Event α} (he : S.Charges D c e) :
    (S.apply c e).Bears D := by
  obtain ⟨rs, hrs, hi⟩ := hc
  obtain ⟨hticks, hcall, hpromise⟩ := he
  cases e with
  | call a ticks => exact (hcall a ticks rfl _ hi).config hrs
  | resume i ticks =>
    cases hth : c.threads[i]? with
    | none =>
      rw [apply_resume_none hth]
      exact ⟨rs, hrs, hi⟩
    | some th =>
      obtain ⟨r, rs', hb, hrs', hsum⟩ := hrs.eraseIdx hth
      rw [hsum] at hi
      have ho : S.outcome c (.resume i ticks) = th.task.run ticks th.scope 0 c.world := by
        simp only [outcome, hth]
      rw [apply, ho]
      have hleaves := hb.2 _ _ (hpromise i ticks th rs' rfl hth hrs') hi
      exact (hleaves.bears hticks).config hrs'

/-- **The duties along a run.** -/
theorem Run.bears (h₀ : c₀.Bears D) (hok : ∀ c e, ok c e → S.Charges D c e)
    (h : S.Run ok c₀ es c) : c.Bears D :=
  h.induct h₀ fun c e hc he => apply_bears hc (hok c e he)

/-- Nobody starts a call any more. -/
def quiet (σ ℓ : Type) : System σ ℓ Empty where
  scope a _ := a.elim
  body a := a.elim
  enabled _ a := a.elim

end System

/-- What starting the call in a world where nothing is suspended leaves. -/
def Async.start (m : Async σ ℓ Unit) (l : ℓ) (ticks : ℕ → Tick) (w : σ) : Config σ ℓ :=
  let o := m.task.run ticks l 0 w
  ⟨o.world, o.threads, o.uncaught⟩

/-- **One call on its own**, carried on until nothing is suspended: its duties are done. -/
theorem System.Run.done {m : Async σ ℓ Unit} {l : ℓ} {ticks : ℕ → Tick} {w : σ} {c : Config σ ℓ}
    {es : List (Event Empty)} (hpromise : ∀ t f, D.promise t f)
    (hm : m.task.Leaves D w (D.after 0)) (ht : ∀ n, D.admits (ticks n))
    (h : (System.quiet σ ℓ).Run (fun _ e => ∀ n, D.admits (e.ticks n)) (m.start l ticks w) es c)
    (hc : c.Settled) : D.inv c.world 0 := by
  have h₀ : (m.start l ticks w).Bears D := (hm.bears ht).config .nil
  exact (h.bears h₀ fun c e he =>
    ⟨he, fun a => a.elim, fun _ _ th rs _ _ _ => hpromise th.task rs.sum⟩).settled hc

/-! ## Calls with a result -/

namespace Async

/-- The call, run from `w` up to its next `await`, leaves what satisfies `R`; where it hands on a
result, the rest of the caller's segment has to see to that, and `Q` holds of the result, the world
and what the rest of the segment has to leave. -/
def Leaves (D : Duties σ ℓ M) (m : Async σ ℓ α) (w : σ) (R : σ → M → Prop)
    (Q : α → σ → (σ → M → Prop) → Prop) : Prop :=
  ∀ k : α → Task σ ℓ, (∀ a w' R', Q a w' R' → (k a).Leaves D w' R') → (m k).Leaves D w R

variable {m : Async σ ℓ α} {w : σ} {R : σ → M → Prop} {Q Q' : α → σ → (σ → M → Prop) → Prop}

/-- A call that is over when it hands on its result. -/
theorem Leaves.task {m : Async σ ℓ Unit} (h : m.Leaves D w R fun _ w' R' => R' w' 0) :
    m.task.Leaves D w R :=
  h _ fun _ _ _ hq => hq

theorem leaves_pure {a : α} (h : Q a w R) : (pure a : Async σ ℓ α).Leaves D w R Q :=
  fun _ hk => hk a w R h

theorem leaves_bind {f : α → Async σ ℓ β} {Q : β → σ → (σ → M → Prop) → Prop}
    (h : m.Leaves D w R fun a w' R' => (f a).Leaves D w' R' Q) : (m >>= f).Leaves D w R Q :=
  fun k hk => h _ fun _ _ _ hf => hf k hk

theorem leaves_throw (h : R w 0) : (throw : Async σ ℓ α).Leaves D w R Q := fun _ _ => h

theorem leaves_sync {f : Tick → σ → α × σ} (h : ∀ t, D.admits t → Q (f t w).1 (f t w).2 R) :
    (sync f : Async σ ℓ α).Leaves D w R Q :=
  fun _ hk t ht => hk _ _ _ (h t ht)

theorem leaves_get {g : σ → α} (h : Q (g w) w R) : (get g : Async σ ℓ α).Leaves D w R Q :=
  leaves_sync fun _ _ => h

theorem leaves_modify {f : σ → σ} {Q : Unit → σ → (σ → M → Prop) → Prop} (h : Q () (f w) R) :
    (modify f : Async σ ℓ Unit).Leaves D w R Q :=
  leaves_sync fun _ _ => h

/-- A remote operation: the duties until it takes effect, and those until the answer arrives. -/
theorem leaves_remote {f : Tick → σ → α × σ} (r : M) (hplain : D.Plain r) (hr : R w r)
    (h : ∀ t, D.admits t → t.fails = false → ∀ w' f', D.inv w' (r + f') →
      ∃ r', D.Plain r' ∧ D.inv (f t w').2 (r' + f') ∧
        ∀ w'' f'', D.inv w'' (r' + f'') → Q (f t w').1 w'' (D.after f''))
    (hfails : ∀ t, D.admits t → t.fails = true → ∀ w' f', D.inv w' (r + f') → D.inv w' (0 + f')) :
    (remote f : Async σ ℓ α).Leaves D w R Q := by
  refine fun k hk => ⟨r, hr, hplain _, fun w' f' _ hi t ht => ?_⟩
  by_cases hf : t.fails = true
  · simp only [if_pos hf]
    exact hfails t ht hf w' f' hi
  · obtain ⟨r', hplain', hi', hq⟩ := h t ht (Bool.eq_false_iff.mpr hf) w' f' hi
    simp only [if_neg hf]
    exact ⟨r', hi', hplain' _, fun w'' f'' _ hi'' => hk _ _ _ (hq w'' f'' hi'')⟩

/-- A remote operation of which a failure is caught. -/
theorem leaves_attempt {f : Tick → σ → α × σ} {Q : Option α → σ → (σ → M → Prop) → Prop} (r : M)
    (hplain : D.Plain r) (hr : R w r)
    (h : ∀ t, D.admits t → t.fails = false → ∀ w' f', D.inv w' (r + f') →
      ∃ r', D.Plain r' ∧ D.inv (f t w').2 (r' + f') ∧
        ∀ w'' f'', D.inv w'' (r' + f'') → Q (some (f t w').1) w'' (D.after f''))
    (hfails : ∀ t, D.admits t → t.fails = true → ∀ w' f', D.inv w' (r + f') →
      Q none w' (D.after f')) :
    (attempt f : Async σ ℓ (Option α)).Leaves D w R Q := by
  refine fun k hk => ⟨r, hr, hplain _, fun w' f' _ hi t ht => ?_⟩
  by_cases hf : t.fails = true
  · simp only [if_pos hf]
    exact ⟨r, hi, hplain _, fun w'' f'' _ hi'' => hk _ _ _ (hfails t ht hf w'' f'' hi'')⟩
  · obtain ⟨r', hplain', hi', hq⟩ := h t ht (Bool.eq_false_iff.mpr hf) w' f' hi
    simp only [if_neg hf]
    exact ⟨r', hi', hplain' _, fun w'' f'' _ hi'' => hk _ _ _ (hq w'' f'' hi'')⟩

/-- What a call that is started and not awaited leaves is added to what the rest leaves. -/
theorem leaves_spawn {m : Async σ ℓ Unit} {Q : Unit → σ → (σ → M → Prop) → Prop}
    (h : m.task.Leaves D w fun w' r => Q () w' fun w'' r' => R w'' (r + r')) :
    (spawn m).Leaves D w R Q :=
  fun k hk =>
    show m.task.Leaves D w fun w' r => (k ()).Leaves D w' fun w'' r' => R w'' (r + r') from
      h.mono fun w' _ hq => hk () w' _ hq

/-- Calls for the elements of a list, each of which leaves its share in a world with `J`. -/
theorem leaves_forEach {as : List α} {f : α → Async σ ℓ Unit}
    {Q : Unit → σ → (σ → M → Prop) → Prop} (share : α → M) (J : σ → Prop) (hw : J w)
    (hf : ∀ a ∈ as, ∀ w', J w' → (f a).task.Leaves D w' fun w'' r => J w'' ∧ r = share a)
    (h : ∀ w', J w' → Q () w' fun w'' r => R w'' ((as.map share).sum + r)) :
    (forEach as f).Leaves D w R Q := by
  induction as generalizing w R with
  | nil =>
    have hq := h w hw
    simp only [List.map_nil, List.sum_nil, zero_add] at hq
    exact leaves_pure hq
  | cons a as ih =>
    refine leaves_bind (leaves_spawn ((hf a (List.mem_cons_self ..) w hw).mono ?_))
    rintro w' r ⟨hw', rfl⟩
    refine ih hw' (fun b hb => hf b (List.mem_cons_of_mem _ hb)) fun w'' hw'' => ?_
    have hq := h w'' hw''
    simp only [List.map_cons, List.sum_cons, add_assoc] at hq
    exact hq

end Async

end EventLoop
