import FlutterTheme.EventLoop

/-!
# Two runs that differ in what is hidden

Some labels are hidden, and `rel` says when two worlds look alike to everybody else. Two runs
advance side by side (`System.Twin`): an event on which nothing hidden acts happens in both, at
the same tick and to corresponding calls; an event on which something hidden acts happens in
one of them.

* `Task.Open` — from worlds that look alike the call does the same, and they go on looking
  alike.
* `Task.Hidden` — what the call does makes no difference to how the world looks.
* `System.Twin.alike` — if every call is open or hidden, two runs look alike wherever they
  have got to.
-/

namespace EventLoop

variable {σ ℓ α β : Type}

/-- What is hidden, and when two worlds look alike. -/
structure Cover (σ ℓ : Type) where
  /-- the labels of the calls that are hidden -/
  hidden : ℓ → Bool
  /-- the worlds look alike -/
  rel : σ → σ → Prop
  symm : ∀ {w w'}, rel w w' → rel w' w

/-- From worlds that look alike the call does the same, and they go on looking alike. -/
def Task.Open (V : Cover σ ℓ) : Task σ ℓ → Prop
  | .done => True
  | .throw => True
  | .act f k => ∀ t w w', V.rel w w' → V.rel (f t w) (f t w') ∧ k t w = k t w' ∧ (k t w).Open V
  | .fork p k => p.Open V ∧ k.Open V
  | .enter l k => V.hidden l = false ∧ k.Open V
  | .await k => k.Open V

/-- The world looks the same whether the call has been carried on or not. -/
def Task.Hidden (V : Cover σ ℓ) : Task σ ℓ → Prop
  | .done => True
  | .throw => True
  | .act f k => ∀ t w w', V.rel w w' → V.rel (f t w) w' ∧ (k t w).Hidden V
  | .fork p k => p.Hidden V ∧ k.Hidden V
  | .enter l k => V.hidden l = true ∧ k.Hidden V
  | .await k => k.Hidden V

/-- A suspended call is open or hidden, as its label says. -/
def Thread.Fits (V : Cover σ ℓ) (th : Thread σ ℓ) : Prop :=
  if V.hidden th.scope = true then th.task.Hidden V else th.task.Open V

variable {V : Cover σ ℓ}

/-- Running an open call in both worlds: they stay related, and the calls suspended are the same on
both sides. By induction on the task. -/
theorem Task.Open.run (ticks : ℕ → Tick) {t : Task σ ℓ} : ∀ {l : ℓ} {n : ℕ} {w w' : σ},
    V.hidden l = false → t.Open V → V.rel w w' →
      V.rel (t.run ticks l n w).world (t.run ticks l n w').world ∧
      (t.run ticks l n w).threads = (t.run ticks l n w').threads ∧
      (t.run ticks l n w).used = (t.run ticks l n w').used ∧
      ∀ th ∈ (t.run ticks l n w).threads, V.hidden th.scope = false ∧ th.task.Open V := by
  induction t with
  | done => exact fun _ _ h => ⟨h, rfl, rfl, fun _ hth => absurd hth List.not_mem_nil⟩
  | throw => exact fun _ _ h => ⟨h, rfl, rfl, fun _ hth => absurd hth List.not_mem_nil⟩
  | act f k ih =>
    intro l n w w' hl ho h
    obtain ⟨hrel, hsame, hk⟩ := ho (ticks n) w w' h
    have hrest := ih (ticks n) w (n := n + 1) hl hk hrel
    simp only [Task.run]
    rw [← hsame]
    exact hrest
  | fork p k ihp ihk =>
    intro l n w w' hl ho h
    obtain ⟨hrel, hths, hused, hp⟩ := ihp (n := n) hl ho.1 h
    obtain ⟨hrel', hths', hused', hk⟩ := ihk (n := (p.run ticks l n w).used) hl ho.2 hrel
    simp only [Task.run]
    rw [← hused]
    refine ⟨hrel', congrArg₂ (· ++ ·) hths hths', hused', fun th hth => ?_⟩
    rcases List.mem_append.mp hth with hth | hth
    · exact hp th hth
    · exact hk th hth
  | enter l k ih => exact fun _ ho h => ih ho.1 ho.2 h
  | await k =>
    intro l n w w' hl ho h
    refine ⟨h, rfl, rfl, fun th hth => ?_⟩
    obtain rfl := List.mem_singleton.mp hth
    exact ⟨hl, ho⟩

/-- Running a hidden call in one of the worlds: it stays related to the other one, and what is
suspended is hidden again. By induction on the task. -/
theorem Task.Hidden.run (ticks : ℕ → Tick) {t : Task σ ℓ} : ∀ {l : ℓ} {n : ℕ} {w w' : σ},
    V.hidden l = true → t.Hidden V → V.rel w w' →
      V.rel (t.run ticks l n w).world w' ∧
      ∀ th ∈ (t.run ticks l n w).threads, V.hidden th.scope = true ∧ th.task.Hidden V := by
  induction t with
  | done => exact fun _ _ h => ⟨h, fun _ hth => absurd hth List.not_mem_nil⟩
  | throw => exact fun _ _ h => ⟨h, fun _ hth => absurd hth List.not_mem_nil⟩
  | act f k ih =>
    intro l n w w' hl hh h
    obtain ⟨hrel, hk⟩ := hh (ticks n) w w' h
    exact ih (ticks n) w (n := n + 1) hl hk hrel
  | fork p k ihp ihk =>
    intro l n w w' hl hh h
    obtain ⟨hrel, hp⟩ := ihp (n := n) hl hh.1 h
    obtain ⟨hrel', hk⟩ := ihk (n := (p.run ticks l n w).used) hl hh.2 hrel
    refine ⟨hrel', fun th hth => ?_⟩
    rcases List.mem_append.mp hth with hth | hth
    · exact hp th hth
    · exact hk th hth
  | enter l k ih => exact fun _ hh h => ih hh.1 hh.2 h
  | await k =>
    intro l n w w' hl hh h
    refine ⟨h, fun th hth => ?_⟩
    obtain rfl := List.mem_singleton.mp hth
    exact ⟨hl, hh⟩

/-! ## Calls with a result -/

namespace Async

/-- The call is open, whatever is done with its result. -/
def Open (V : Cover σ ℓ) (m : Async σ ℓ α) : Prop :=
  ∀ k : α → Task σ ℓ, (∀ a, (k a).Open V) → (m k).Open V

/-- The call is hidden, whatever is done with its result, which satisfies `Q`. -/
def Hidden (V : Cover σ ℓ) (m : Async σ ℓ α) (Q : α → Prop) : Prop :=
  ∀ k : α → Task σ ℓ, (∀ a, Q a → (k a).Hidden V) → (m k).Hidden V

variable {m : Async σ ℓ α} {Q : α → Prop}

theorem Open.task {m : Async σ ℓ Unit} (h : m.Open V) : m.task.Open V := h _ fun _ => trivial

theorem Hidden.task {m : Async σ ℓ Unit} {Q : Unit → Prop} (h : m.Hidden V Q) :
    m.task.Hidden V :=
  h _ fun _ _ => trivial

theorem open_pure {a : α} : (pure a : Async σ ℓ α).Open V := fun _ hk => hk a

theorem hidden_pure {a : α} (h : Q a) : (pure a : Async σ ℓ α).Hidden V Q := fun _ hk => hk a h

theorem open_bind {f : α → Async σ ℓ β} (h : m.Open V) (hf : ∀ a, (f a).Open V) :
    (m >>= f).Open V :=
  fun k hk => h _ fun a => hf a k hk

theorem hidden_bind {f : α → Async σ ℓ β} {R : β → Prop} (h : m.Hidden V Q)
    (hf : ∀ a, Q a → (f a).Hidden V R) : (m >>= f).Hidden V R :=
  fun k hk => h _ fun a ha => hf a ha k hk

theorem open_throw : (throw : Async σ ℓ α).Open V := fun _ _ => trivial

theorem hidden_throw : (throw : Async σ ℓ α).Hidden V Q := fun _ _ => trivial

/-- In worlds that look alike the action has the same result. -/
theorem open_sync {f : Tick → σ → α × σ}
    (h : ∀ t w w', V.rel w w' → (f t w).1 = (f t w').1 ∧ V.rel (f t w).2 (f t w').2) :
    (sync f : Async σ ℓ α).Open V := by
  intro k hk t w w' hrel
  obtain ⟨hresult, hrel'⟩ := h t w w' hrel
  exact ⟨hrel', congrArg k hresult, hk _⟩

theorem hidden_sync {f : Tick → σ → α × σ}
    (h : ∀ t w w', V.rel w w' → V.rel (f t w).2 w' ∧ Q (f t w).1) :
    (sync f : Async σ ℓ α).Hidden V Q :=
  fun _ hk t w w' hrel => ⟨(h t w w' hrel).1, hk _ (h t w w' hrel).2⟩

theorem open_get {g : σ → α} (h : ∀ w w', V.rel w w' → g w = g w') :
    (get g : Async σ ℓ α).Open V :=
  open_sync fun _ w w' hrel => ⟨h w w' hrel, hrel⟩

theorem hidden_get {g : σ → α} (h : ∀ w w', V.rel w w' → Q (g w)) :
    (get g : Async σ ℓ α).Hidden V Q :=
  hidden_sync fun _ w w' hrel => ⟨hrel, h w w' hrel⟩

theorem open_modify {f : σ → σ} (h : ∀ w w', V.rel w w' → V.rel (f w) (f w')) :
    (modify f : Async σ ℓ Unit).Open V :=
  open_sync fun _ w w' hrel => ⟨rfl, h w w' hrel⟩

theorem hidden_modify {f : σ → σ} (h : ∀ w w', V.rel w w' → V.rel (f w) w') :
    (modify f : Async σ ℓ Unit).Hidden V fun _ => True :=
  hidden_sync fun _ w w' hrel => ⟨h w w' hrel, trivial⟩

/-- A request is open if it answers the same in related worlds and leaves them related. -/
theorem open_remote {f : Tick → σ → α × σ}
    (h : ∀ t w w', V.rel w w' → (f t w).1 = (f t w').1 ∧ V.rel (f t w).2 (f t w').2) :
    (remote f : Async σ ℓ α).Open V := by
  intro k hk t w w' hrel
  obtain ⟨hresult, hrel'⟩ := h t w w' hrel
  by_cases ht : t.fails = true
  · simp only [if_pos ht]
    exact ⟨hrel, trivial, trivial⟩
  · simp only [if_neg ht]
    exact ⟨hrel', by rw [hresult], hk _⟩

theorem hidden_remote {f : Tick → σ → α × σ} (h : ∀ t w w', V.rel w w' → V.rel (f t w).2 w') :
    (remote f : Async σ ℓ α).Hidden V fun _ => True := by
  intro k hk t w w' hrel
  by_cases ht : t.fails = true
  · simp only [if_pos ht]
    exact ⟨hrel, trivial⟩
  · simp only [if_neg ht]
    exact ⟨h t w w' hrel, hk _ trivial⟩

theorem open_spawn {m : Async σ ℓ Unit} (h : m.Open V) : (spawn m).Open V :=
  fun _ hk => ⟨h.task, hk ()⟩

theorem hidden_spawn {m : Async σ ℓ Unit} {Q : Unit → Prop} (h : m.Hidden V Q) :
    (spawn m).Hidden V fun _ => True :=
  fun _ hk => ⟨h.task, hk () trivial⟩

theorem open_forEach {as : List α} {f : α → Async σ ℓ Unit} (hf : ∀ a ∈ as, (f a).Open V) :
    (forEach as f).Open V := by
  induction as with
  | nil => exact open_pure
  | cons a as ih =>
    refine open_bind (open_spawn (hf a (List.mem_cons_self ..))) fun _ => ih ?_
    exact fun b hb => hf b (List.mem_cons_of_mem _ hb)

theorem hidden_forEach {as : List α} {f : α → Async σ ℓ Unit} {Q : Unit → Prop}
    (hf : ∀ a ∈ as, (f a).Hidden V Q) : (forEach as f).Hidden V fun _ => True := by
  induction as with
  | nil => exact hidden_pure trivial
  | cons a as ih =>
    refine hidden_bind (hidden_spawn (hf a (List.mem_cons_self ..))) fun _ _ => ih ?_
    exact fun b hb => hf b (List.mem_cons_of_mem _ hb)

end Async

/-! ## The suspended calls that can be seen -/

/-- The suspended calls that are not hidden. -/
def Config.seen (V : Cover σ ℓ) (c : Config σ ℓ) : List (Thread σ ℓ) :=
  c.threads.filter fun th => !V.hidden th.scope

/-- How many of the first `i` suspended calls are not hidden. -/
def Config.rank (V : Cover σ ℓ) (c : Config σ ℓ) (i : ℕ) : ℕ :=
  ((c.threads.take i).filter fun th => !V.hidden th.scope).length

section Filter

variable {p : α → Bool} {as : List α} {a : α} {i : ℕ}

/-- An element that is filtered out may be taken out before. -/
theorem filter_eraseIdx_of_false (hi : as[i]? = some a) (ha : p a = false) :
    (as.eraseIdx i).filter p = as.filter p := by
  induction as generalizing i with
  | nil => simp at hi
  | cons b bs ih =>
    cases i with
    | zero =>
      obtain rfl : b = a := by simpa using hi
      simp [ha]
    | succ i => simp [List.filter_cons, ih (by simpa using hi)]

/-- An element that stays may be taken out afterwards, at its new place. -/
theorem filter_eraseIdx_of_true (hi : as[i]? = some a) (ha : p a = true) :
    (as.eraseIdx i).filter p = (as.filter p).eraseIdx ((as.take i).filter p).length ∧
      (as.filter p)[((as.take i).filter p).length]? = some a := by
  induction as generalizing i with
  | nil => simp at hi
  | cons b bs ih =>
    cases i with
    | zero =>
      obtain rfl : b = a := by simpa using hi
      simp [ha]
    | succ i =>
      obtain ⟨hlist, hget⟩ := ih (by simpa using hi)
      by_cases hb : p b = true
      · simp [hb, hlist, hget]
      · simp [hb, hlist, hget]

end Filter

/-! ## Runs -/

/-- The two configurations look alike: the worlds do, and the suspended calls that can be seen
are the same. -/
structure Config.Alike (V : Cover σ ℓ) (c c' : Config σ ℓ) : Prop where
  world : V.rel c.world c'.world
  seen : c.seen V = c'.seen V
  fits : ∀ th ∈ c.threads, th.Fits V
  fits' : ∀ th ∈ c'.threads, th.Fits V

theorem Config.Alike.symm {c c' : Config σ ℓ} (h : c.Alike V c') : c'.Alike V c :=
  ⟨V.symm h.world, h.seen.symm, h.fits', h.fits⟩

namespace System

variable {S : System σ ℓ α} {c₀ c c' : Config σ ℓ} {es es' : List (Event α)}

/-- On the event something hidden acts. -/
def Hides (S : System σ ℓ α) (V : Cover σ ℓ) (c : Config σ ℓ) : Event α → Prop
  | .call a _ => V.hidden (S.scope a c.world) = true
  | .resume i _ => ∃ th, c.threads[i]? = some th ∧ V.hidden th.scope = true

/-- The two events are the same one where nothing hidden acts: the same call is started, or
corresponding calls are resumed. -/
inductive Corresponds (S : System σ ℓ α) (V : Cover σ ℓ) (c c' : Config σ ℓ) :
    Event α → Event α → Prop where
  | call (a : α) (ticks : ℕ → Tick) (h : V.hidden (S.scope a c.world) = false) :
    Corresponds S V c c' (.call a ticks) (.call a ticks)
  | resume {i i' : ℕ} {th th' : Thread σ ℓ} (ticks : ℕ → Tick) (hi : c.threads[i]? = some th)
    (hi' : c'.threads[i']? = some th') (h : V.hidden th.scope = false)
    (h' : V.hidden th'.scope = false) (hrank : c.rank V i = c'.rank V i') :
    Corresponds S V c c' (.resume i ticks) (.resume i' ticks)

/-- Two runs side by side, with their events and the configurations they have got to: they
differ at most in what is hidden. -/
inductive Twin (S : System σ ℓ α) (V : Cover σ ℓ) (c₀ : Config σ ℓ) :
    List (Event α) → Config σ ℓ → List (Event α) → Config σ ℓ → Prop where
  | nil : Twin S V c₀ [] c₀ [] c₀
  | both {es es' : List (Event α)} {c c' : Config σ ℓ} (h : Twin S V c₀ es c es' c')
    {e e' : Event α} (hadm : S.admits c e) (hadm' : S.admits c' e')
    (he : S.Corresponds V c c' e e') :
    Twin S V c₀ (es ++ [e]) (S.apply c e) (es' ++ [e']) (S.apply c' e')
  | left {es es' : List (Event α)} {c c' : Config σ ℓ} (h : Twin S V c₀ es c es' c')
    {e : Event α} (hadm : S.admits c e) (he : S.Hides V c e) :
    Twin S V c₀ (es ++ [e]) (S.apply c e) es' c'
  | right {es es' : List (Event α)} {c c' : Config σ ℓ} (h : Twin S V c₀ es c es' c')
    {e : Event α} (hadm : S.admits c' e) (he : S.Hides V c' e) :
    Twin S V c₀ es c (es' ++ [e]) (S.apply c' e)

/-- Each of the two is a run. -/
theorem Twin.runs (h : S.Twin V c₀ es c es' c') :
    S.Run S.admits c₀ es c ∧ S.Run S.admits c₀ es' c' := by
  induction h with
  | nil => exact ⟨.nil, .nil⟩
  | both _ hadm hadm' _ ih => exact ⟨.snoc ih.1 _ hadm, .snoc ih.2 _ hadm'⟩
  | left _ hadm _ ih => exact ⟨.snoc ih.1 _ hadm, ih.2⟩
  | right _ hadm _ ih => exact ⟨ih.1, .snoc ih.2 _ hadm⟩

/-- Every call is open or hidden, as its label says, which is the same in worlds that look
alike. -/
structure Covered (S : System σ ℓ α) (V : Cover σ ℓ) : Prop where
  scope : ∀ a w w', V.rel w w' → S.scope a w = S.scope a w'
  opened : ∀ a w, V.hidden (S.scope a w) = false → (S.body a).task.Open V
  hidden : ∀ a w, V.hidden (S.scope a w) = true → (S.body a).task.Hidden V

/-- What a hidden event leaves looks as if it had not happened: a hidden call that starts, or one
that goes on, in the first run alone. -/
theorem Hides.alike (hS : S.Covered V) {e : Event α} (h : c.Alike V c') (he : S.Hides V c e) :
    (S.apply c e).Alike V c' := by
  cases e with
  | call a ticks =>
    obtain ⟨hworld, hths⟩ := (hS.hidden a _ he).run ticks (n := 0) he h.world
    refine ⟨hworld, ?_, fun th hth => ?_, h.fits'⟩
    · have hnone : ((S.outcome c (.call a ticks)).threads.filter fun th => !V.hidden th.scope) =
          [] := List.filter_eq_nil_iff.mpr fun th hth => by simp [(hths th hth).1]
      rw [← h.seen, Config.seen, Config.seen, apply, Config.kept, List.filter_append, hnone,
        List.append_nil]
    · rcases List.mem_append.mp hth with hth | hth
      · exact h.fits th hth
      · rw [Thread.Fits, if_pos (hths th hth).1]
        exact (hths th hth).2
  | resume i ticks =>
    obtain ⟨th₀, hi, hhidden⟩ := he
    have htask := h.fits th₀ (List.mem_of_getElem? hi)
    rw [Thread.Fits, if_pos hhidden] at htask
    obtain ⟨hworld, hths⟩ := htask.run ticks (n := 0) hhidden h.world
    have ho : S.outcome c (.resume i ticks) = th₀.task.run ticks th₀.scope 0 c.world := by
      simp only [outcome, hi]
    refine ⟨by rwa [apply, ho], ?_, fun th hth => ?_, h.fits'⟩
    · have hnone : ((S.outcome c (.resume i ticks)).threads.filter fun th =>
          !V.hidden th.scope) = [] := by
        rw [ho]
        exact List.filter_eq_nil_iff.mpr fun th hth => by simp [(hths th hth).1]
      rw [← h.seen, Config.seen, Config.seen, apply, Config.kept, List.filter_append, hnone,
        List.append_nil, filter_eraseIdx_of_false hi (by simp [hhidden])]
    · rcases List.mem_append.mp hth with hth | hth
      · exact h.fits th (List.mem_of_mem_eraseIdx hth)
      · rw [ho] at hth
        rw [Thread.Fits, if_pos (hths th hth).1]
        exact (hths th hth).2

/-- Calls that are suspended in both runs. -/
theorem fits_of_open {th : Thread σ ℓ} (h : V.hidden th.scope = false ∧ th.task.Open V) :
    th.Fits V := by
  rw [Thread.Fits, if_neg (by simp [h.1])]
  exact h.2

/-- The same event in both runs: a call that starts does so on both sides, and a resumption carries
on the calls that correspond to each other, wherever they stand. -/
theorem Corresponds.alike (hS : S.Covered V) {e e' : Event α} (h : c.Alike V c')
    (he : S.Corresponds V c c' e e') : (S.apply c e).Alike V (S.apply c' e') := by
  cases he with
  | call a ticks hl =>
    obtain ⟨hworld, hsame, -, hths⟩ :=
      (hS.opened a _ hl).run ticks (n := 0) hl h.world
    have hscope := hS.scope a _ _ h.world
    have hthreads : (S.outcome c (.call a ticks)).threads =
        (S.outcome c' (.call a ticks)).threads := by
      simp only [outcome, ← hscope]
      exact hsame
    have hfits : ∀ th ∈ (S.outcome c (.call a ticks)).threads, th.Fits V :=
      fun th hth => fits_of_open (hths th hth)
    refine ⟨?_, ?_, fun th hth => ?_, fun th hth => ?_⟩
    · simp only [apply, outcome, ← hscope]
      exact hworld
    · simp only [Config.seen, apply, Config.kept, List.filter_append, ← hthreads]
      exact congrArg (· ++ _) h.seen
    · exact (List.mem_append.mp hth).elim (h.fits th) (hfits th)
    · exact (List.mem_append.mp hth).elim (h.fits' th) fun hth => hfits th (hthreads ▸ hth)
  | @resume i i' th th' ticks hi hi' hl hl' hrank =>
    -- the two calls are at the same place among those that can be seen
    obtain ⟨hlist, hget⟩ := filter_eraseIdx_of_true (p := fun th => !V.hidden th.scope) hi
      (by simp [hl])
    obtain ⟨hlist', hget'⟩ := filter_eraseIdx_of_true (p := fun th => !V.hidden th.scope) hi'
      (by simp [hl'])
    have hseen := h.seen
    simp only [Config.seen] at hseen
    simp only [Config.rank] at hrank
    obtain rfl : th = th' := by
      rw [hseen, hrank, hget'] at hget
      exact (Option.some.inj hget).symm
    have hopen := h.fits th (List.mem_of_getElem? hi)
    rw [Thread.Fits, if_neg (by simp [hl])] at hopen
    obtain ⟨hworld, hsame, -, hths⟩ := hopen.run ticks (n := 0) hl h.world
    have ho : S.outcome c (.resume i ticks) = th.task.run ticks th.scope 0 c.world := by
      simp only [outcome, hi]
    have ho' : S.outcome c' (.resume i' ticks) = th.task.run ticks th.scope 0 c'.world := by
      simp only [outcome, hi']
    refine ⟨by rwa [apply, apply, ho, ho'], ?_, fun th' hth => ?_, fun th' hth => ?_⟩
    · simp only [Config.seen, apply, Config.kept, ho, ho', List.filter_append, hlist, hlist',
        hseen, hrank, hsame]
    · rcases List.mem_append.mp hth with hth | hth
      · exact h.fits th' (List.mem_of_mem_eraseIdx hth)
      · exact fits_of_open (hths th' (ho ▸ hth))
    · rcases List.mem_append.mp hth with hth | hth
      · exact h.fits' th' (List.mem_of_mem_eraseIdx hth)
      · exact fits_of_open (hths th' (hsame ▸ ho' ▸ hth))

/-- **Two runs** that differ in what is hidden look alike, wherever they have got to. -/
theorem Twin.alike (hS : S.Covered V) (h₀ : V.rel c₀.world c₀.world) (hths : c₀.threads = [])
    (h : S.Twin V c₀ es c es' c') : c.Alike V c' := by
  induction h with
  | nil =>
    have hnone : ∀ th ∈ c₀.threads, th.Fits V := by
      rw [hths]
      exact fun _ hth => absurd hth List.not_mem_nil
    exact ⟨h₀, rfl, hnone, hnone⟩
  | both _ _ _ he ih => exact he.alike hS ih
  | left _ _ he ih => exact he.alike hS ih
  | right _ _ he ih => exact (he.alike hS ih.symm).symm

end System

end EventLoop
