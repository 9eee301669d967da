import FlutterTheme.History
import FlutterTheme.IntParse
import Mathlib.Data.List.Infix

/-!
# The timer of an audio call

`AudioCallController.onUserJoined` starts a stopwatch, at a re-join another one. Every stopwatch
counts its own seconds and writes them to the same three texts.

* `tellsTime_iff` — which ticks write how long the call has taken.
* `timer_iff` — the first tick of a call does not, so that the texts are right in no call that has
  come to a tick.
-/

namespace FlutterTheme.CallTimer

open History

/-- What `stopWatchStream` keeps for itself: when its timer was started, in milliseconds, how often
that has fired, and `timerInterval`, in seconds. -/
structure Stopwatch where
  started : ℕ
  ticks : ℕ := 0
  timerInterval : ℕ := 1
  deriving DecidableEq, Repr

/-- The controller: its stopwatches, the oldest first, and when the last event was. -/
structure AudioCallController where
  stopwatches : List Stopwatch := []
  clock : ℕ := 0
  hoursStr : String := "00"
  minutesStr : String := "00"
  secondsStr : String := "00"
  deriving DecidableEq, Repr

/-- The events: somebody joins, or the timer of the `k`-th stopwatch fires. -/
inductive TimerEvent : Type where
  | onUserJoined (now : ℕ)
  | tick (k now : ℕ)
  deriving DecidableEq, Repr

/-- When the event is. -/
def TimerEvent.time : TimerEvent → ℕ
  | onUserJoined now | tick _ now => now

/-- `padLeft` with zeros. -/
def padLeft (s : String) (width : ℕ) : String :=
  String.ofList (List.replicate (width - s.length) '0' ++ s.toList)

/-- What `startTimerNow` does at each number in the stream. -/
def AudioCallController.newTick (c : AudioCallController) (newTick : ℕ) : AudioCallController :=
  { c with
    hoursStr := padLeft (toString (newTick / (60 * 60) % 60)) 2
    minutesStr := padLeft (toString (newTick / 60 % 60)) 2
    secondsStr := padLeft (toString (newTick % 60)) 2 }

/-- `setCountDown`. An older stopwatch adds to the stream of the newest one, for that is the
`streamController`, and what listens to that one does the same. -/
def AudioCallController.setCountDown (c : AudioCallController) (k : ℕ) (watch : Stopwatch) :
    AudioCallController :=
  let seconds := watch.timerInterval + 1
  let watch := { watch with ticks := watch.ticks + 1, timerInterval := seconds }
  { c with stopwatches := c.stopwatches.set k watch }.newTick seconds

/-- What an event does. -/
def step (c : AudioCallController) : TimerEvent → AudioCallController
  | .onUserJoined now => { c with stopwatches := c.stopwatches ++ [{ started := now }], clock := now }
  | .tick k now =>
    match c.stopwatches[k]? with
    | some watch => { c with clock := now }.setCountDown k watch
    | none => { c with clock := now }

/-- The controller after the events of a call. -/
def run (es : List TimerEvent) : AudioCallController := es.foldl step {}

/-! ## Time -/

/-- When the next second of the stopwatch is over. -/
def Stopwatch.due (watch : Stopwatch) : ℕ := watch.started + 1000 * (watch.ticks + 1)

/-- Time does not go back, no stopwatch lags by a second, and none fires early. -/
def Timely (c : AudioCallController) (e : TimerEvent) : Prop :=
  c.clock ≤ e.time ∧ (∀ watch ∈ c.stopwatches, e.time < watch.due + 1000) ∧
    match e with
    | .onUserJoined _ => True
    | .tick k now => ∃ watch ∈ c.stopwatches[k]?, watch.due ≤ now

instance (c : AudioCallController) : (e : TimerEvent) → Decidable (Timely c e)
  | .onUserJoined now =>
    inferInstanceAs (Decidable
      (c.clock ≤ now ∧ (∀ watch ∈ c.stopwatches, now < watch.due + 1000) ∧ True))
  | .tick k now =>
    inferInstanceAs (Decidable (c.clock ≤ now ∧ (∀ watch ∈ c.stopwatches, now < watch.due + 1000) ∧
      ∃ watch ∈ c.stopwatches[k]?, watch.due ≤ now))

/-- When somebody joined first. -/
def firstJoin : List TimerEvent → Option ℕ
  | [] => none
  | .onUserJoined now :: _ => some now
  | .tick _ _ :: es => firstJoin es

/-- The texts say that this many seconds are over. -/
def AudioCallController.Shows (c : AudioCallController) (seconds : ℕ) : Prop :=
  ∃ h m s, c.hoursStr = padLeft (toString h) 2 ∧ c.minutesStr = padLeft (toString m) 2 ∧
    c.secondsStr = padLeft (toString s) 2 ∧ 3600 * h + 60 * m + s = seconds ∧ m < 60 ∧ s < 60

/-- After the event the texts say how long ago somebody joined first. -/
def TellsTime (es : List TimerEvent) (e : TimerEvent) : Prop :=
  ∃ first ∈ firstJoin es, (run (es ++ [e])).Shows ((e.time - first) / 1000)

/-- The tick is the `n`-th one of its stopwatch, and `n + 1` seconds are over since somebody joined
first, less than sixty hours. -/
def SecondLate (es : List TimerEvent) (k now : ℕ) : Prop :=
  ∃ first ∈ firstJoin es, ∃ watch ∈ (run es).stopwatches[k]?,
    (now - first) / 1000 = watch.ticks + 1 + 1 ∧ watch.ticks + 1 + 1 < 60 * 3600

/-! ## The three texts -/

/-- Padding with zeros loses nothing: reading the text gives the number back. -/
theorem padLeft_inj {m n : ℕ} (width : ℕ) :
    padLeft (toString m) width = padLeft (toString n) width ↔ m = n := by
  have hread (n : ℕ) : intParse (padLeft (toString n) width) = some (n : ℤ) := by
    rw [intParse_of_isDigit]
    · rw [padLeft, String.toList_ofList, Nat.ofDigitChars_append, Nat.ofDigitChars_replicate_zero,
        Nat.mul_zero, ofDigitChars_toString]
    · intro c hc
      rw [padLeft, String.toList_ofList, List.mem_append] at hc
      obtain hzero | hc := hc
      · rw [List.eq_of_mem_replicate hzero]
        decide
      · exact isDigit_of_mem_toString c hc
    · rw [padLeft, String.toList_ofList]
      exact List.append_ne_nil_of_right_ne_nil _ toList_toString_ne_nil
  refine ⟨fun h => ?_, fun h => h ▸ rfl⟩
  have hparse := congrArg intParse h
  rw [hread, hread] at hparse
  exact Int.ofNat.inj (Option.some.inj hparse)

/-- The hours begin again after sixty. -/
theorem shows_newTick {c : AudioCallController} {newTick seconds : ℕ} :
    (c.newTick newTick).Shows seconds ↔ newTick % (60 * 3600) = seconds := by
  constructor
  · rintro ⟨h, m, s, hh, hm, hs, rfl, hm60, hs60⟩
    have hhours : newTick / (60 * 60) % 60 = h := (padLeft_inj 2).mp hh
    have hminutes : newTick / 60 % 60 = m := (padLeft_inj 2).mp hm
    have hseconds : newTick % 60 = s := (padLeft_inj 2).mp hs
    omega
  · rintro rfl
    refine ⟨newTick / (60 * 60) % 60, newTick / 60 % 60, newTick % 60, rfl, rfl, rfl, ?_, ?_, ?_⟩
    all_goals omega

/-! ## The stopwatches -/

/-- Every stopwatch was started after the first one, and its interval counts the seconds from one. -/
structure Sound (c : AudioCallController) (first : Option ℕ) : Prop where
  started : c.stopwatches.head?.map (·.started) = first
  later : ∀ watch ∈ c.stopwatches, ∀ t ∈ first, t ≤ watch.started
  before : ∀ watch ∈ c.stopwatches, watch.started ≤ c.clock
  interval : ∀ watch ∈ c.stopwatches, watch.timerInterval = watch.ticks + 1

section Stopwatches

variable {c : AudioCallController} {es : List TimerEvent} {e : TimerEvent}

theorem run_append : run (es ++ [e]) = step (run es) e := by
  rw [run, List.foldl_append]
  rfl

theorem firstJoin_append : firstJoin (es ++ [e]) = (firstJoin es).or (firstJoin [e]) := by
  induction es with
  | nil => rfl
  | cons e' es ih =>
    cases e' with
    | onUserJoined now => rfl
    | tick k now => exact ih

/-- What a tick does to the stopwatches. -/
theorem stopwatches_tick {k : ℕ} (now : ℕ) {watch : Stopwatch} (hk : c.stopwatches[k]? = some watch) :
    (step c (.tick k now)).stopwatches =
      c.stopwatches.set k
        { watch with ticks := watch.ticks + 1, timerInterval := watch.timerInterval + 1 } := by
  rw [step, hk]
  rfl

theorem clock_step : (step c e).clock = e.time := by
  cases e with
  | onUserJoined now => rfl
  | tick k now =>
    rw [step]
    split
    · rfl
    · rfl

/-- The stopwatch that fires goes on from the time when it was started. -/
theorem head?_set {watches : List Stopwatch} {k : ℕ} {watch watch' : Stopwatch}
    (hk : watches[k]? = some watch) (hstarted : watch'.started = watch.started) :
    (watches.set k watch').head?.map (·.started) = watches.head?.map (·.started) := by
  cases watches with
  | nil => rfl
  | cons oldest watches =>
    cases k with
    | zero =>
      obtain rfl : oldest = watch := Option.some.inj hk
      exact congrArg some hstarted
    | succ k => rfl

theorem sound_nil : Sound {} (firstJoin []) where
  started := rfl
  later := fun _ h => absurd h List.not_mem_nil
  before := fun _ h => absurd h List.not_mem_nil
  interval := fun _ h => absurd h List.not_mem_nil

/-- A user who joins keeps the stopwatches sound: the new one starts now, which is not before the
first, and the first to join stays the first. -/
theorem Sound.join {first : Option ℕ} {now : ℕ} (hs : Sound c first) (hclock : c.clock ≤ now) :
    Sound (step c (.onUserJoined now)) (first.or (some now)) := by
  have hbefore : ∀ watch ∈ c.stopwatches, watch.started ≤ now :=
    fun watch hw => (hs.before watch hw).trans hclock
  have hcases {P : Stopwatch → Prop} (hold : ∀ watch ∈ c.stopwatches, P watch)
      (hnew : P { started := now }) :
      ∀ watch ∈ (step c (.onUserJoined now)).stopwatches, P watch := by
    intro watch hw
    obtain hw | hw := List.mem_append.mp hw
    · exact hold watch hw
    · rwa [List.mem_singleton.mp hw]
  constructor
  · rw [← hs.started, step]
    cases c.stopwatches with
    | nil => rfl
    | cons watch watches => rfl
  · rw [← hs.started]
    cases hw : c.stopwatches with
    | nil => exact hcases (by simp [hw]) (by simp)
    | cons oldest watches =>
      have holdest : oldest ∈ c.stopwatches := hw ▸ List.mem_cons_self ..
      have hfirst : oldest.started ∈ first := by rw [← hs.started, hw]; rfl
      refine hcases (fun watch hwatch t ht => ?_) fun t ht => ?_
      · obtain rfl : oldest.started = t := Option.some.inj ht
        exact hs.later watch hwatch _ hfirst
      · obtain rfl : oldest.started = t := Option.some.inj ht
        exact hbefore oldest holdest
  · exact hcases hbefore le_rfl
  · exact hcases hs.interval rfl

/-- A tick of one stopwatch keeps them sound: it adds one to the ticks and to the interval shown,
and no stopwatch changes its start. -/
theorem Sound.tick {first : Option ℕ} {k now : ℕ} {watch : Stopwatch} (hs : Sound c first)
    (hk : c.stopwatches[k]? = some watch) (hclock : c.clock ≤ now) :
    Sound (step c (.tick k now)) first := by
  have hwatch : watch ∈ c.stopwatches := List.mem_of_getElem? hk
  have hset := stopwatches_tick now hk
  have hcases {P : Stopwatch → Prop} (hold : ∀ watch ∈ c.stopwatches, P watch)
      (hnew : P { watch with ticks := watch.ticks + 1, timerInterval := watch.timerInterval + 1 }) :
      ∀ watch ∈ (step c (.tick k now)).stopwatches, P watch := by
    rw [hset]
    intro watch' hw
    obtain hw | hw := List.mem_or_eq_of_mem_set hw
    · exact hold watch' hw
    · rwa [hw]
  constructor
  · rw [hset, ← hs.started]
    exact head?_set hk rfl
  · exact hcases hs.later (hs.later watch hwatch)
  · rw [clock_step]
    exact hcases (fun w hw => (hs.before w hw).trans hclock) ((hs.before watch hwatch).trans hclock)
  · exact hcases hs.interval (congrArg (· + 1) (hs.interval watch hwatch))

theorem Sound.step {first : Option ℕ} (hs : Sound c first) (ht : Timely c e) :
    Sound (step c e) (first.or (firstJoin [e])) := by
  cases e with
  | onUserJoined now => exact hs.join ht.1
  | tick k now =>
    obtain ⟨hclock, -, watch, hk, -⟩ := ht
    rw [show first.or (firstJoin [.tick k now]) = first from Option.or_none]
    exact hs.tick hk hclock

/-- In a timely call the stopwatches are sound. -/
theorem sound_run (h : Each step Timely {} es) : Sound (run es) (firstJoin es) := by
  have hinit := each_iff.mp h
  induction es using List.reverseRecOn with
  | nil => exact sound_nil
  | append_singleton es e ih =>
    have hes : Each step Timely {} es :=
      each_iff.mpr fun es' e' h' => hinit es' e' (h'.trans (List.prefix_append es [e]))
    have hlast : Timely (run es) e := hinit es e List.prefix_rfl
    rw [run_append, firstJoin_append]
    exact (ih hes (each_iff.mp hes)).step hlast

/-- **A tick tells the time** if and only if its stopwatch is a second late. -/
theorem tellsTime_iff {k now : ℕ} (hs : Sound (run es) (firstJoin es))
    (ht : Timely (run es) (.tick k now)) :
    TellsTime es (.tick k now) ↔ SecondLate es k now := by
  obtain ⟨hclock, -, watch, hk, hdue⟩ := ht
  have hwatch : watch ∈ (run es).stopwatches := List.mem_of_getElem? hk
  have hrun : run (es ++ [.tick k now]) =
      { run es with clock := now }.setCountDown k watch := by
    rw [run_append, step, show (run es).stopwatches[k]? = some watch from hk]
  have hlate : ∀ first ∈ firstJoin es, watch.ticks + 1 ≤ (now - first) / 1000 := by
    intro first hfirst
    have hlater := hs.later watch hwatch first hfirst
    rw [Stopwatch.due] at hdue
    omega
  have hshows (seconds : ℕ) : (run (es ++ [.tick k now])).Shows seconds ↔
      (watch.ticks + 1 + 1) % (60 * 3600) = seconds := by
    rw [hrun, ← hs.interval watch hwatch]
    exact shows_newTick
  constructor
  · rintro ⟨first, hfirst, htells⟩
    have hmod : (watch.ticks + 1 + 1) % (60 * 3600) = (now - first) / 1000 := (hshows _).mp htells
    have hle := hlate first hfirst
    refine ⟨first, hfirst, watch, hk, ?_, ?_⟩
    all_goals omega
  · rintro ⟨first, hfirst, watch', hk', hsecond, hlt⟩
    obtain rfl : watch = watch' := Option.some.inj (hk.symm.trans hk')
    refine ⟨first, hfirst, (hshows _).mpr ?_⟩
    rw [Nat.mod_eq_of_lt hlt]
    exact hsecond.symm

/-- Before the first tick no stopwatch has counted. -/
theorem ticks_run (h : ∀ k now, .tick k now ∉ es) :
    ∀ watch ∈ (run es).stopwatches, watch.ticks = 0 := by
  induction es using List.reverseRecOn with
  | nil => exact fun _ hw => absurd hw List.not_mem_nil
  | append_singleton es e ih =>
    cases e with
    | tick k now => exact absurd (List.mem_append_right es (List.mem_singleton_self _)) (h k now)
    | onUserJoined now =>
      intro watch hw
      rw [run_append] at hw
      obtain hw | hw := List.mem_append.mp hw
      · exact ih (fun k now hmem => h k now (List.mem_append_left _ hmem)) watch hw
      · rw [List.mem_singleton.mp hw]

/-- The first tick of a call does not tell the time. -/
theorem not_secondLate {k now : ℕ} (hs : Sound (run es) (firstJoin es))
    (ht : Timely (run es) (.tick k now)) (h : ∀ k now, .tick k now ∉ es) : ¬ SecondLate es k now := by
  rintro ⟨first, hfirst, watch, hk, hsecond, -⟩
  have hticks := ticks_run h watch (List.mem_of_getElem? hk)
  -- the stopwatch of the first join would lag by a second
  obtain ⟨oldest, hhead, rfl⟩ := Option.map_eq_some_iff.mp (hs.started.trans hfirst)
  have holdest : oldest ∈ (run es).stopwatches := List.mem_of_head? hhead
  have hlag := ht.2.1 oldest holdest
  rw [Stopwatch.due, ticks_run h oldest holdest] at hlag
  change now < _ at hlag
  omega

/-- A history with a tick has a first one. -/
theorem exists_first_tick (h : ∃ k now, .tick k now ∈ es) :
    ∃ es' k now, es' ++ [.tick k now] <+: es ∧ ∀ k now, .tick k now ∉ es' := by
  induction es with
  | nil => exact absurd h (by simp)
  | cons e es ih =>
    cases e with
    | tick k now => exact ⟨[], k, now, ⟨es, rfl⟩, by simp⟩
    | onUserJoined now =>
      obtain ⟨k, t, hmem⟩ := h
      obtain ⟨es', k, t, hinit, hno⟩ := ih ⟨k, t, by simpa using hmem⟩
      refine ⟨.onUserJoined now :: es', k, t, List.cons_prefix_cons.mpr ⟨rfl, hinit⟩, ?_⟩
      simpa using hno

/-- Every tick of the call tells the time. -/
def TimerRight (es : List TimerEvent) : Prop :=
  ∀ es' k now, es' ++ [.tick k now] <+: es → TellsTime es' (.tick k now)

/-- **The call timer tells the time** at a tick if and only if the stopwatch that ticks is a second
late; it does so at every tick if and only if there is none. -/
theorem timer_iff (h : Each step Timely {} es) :
    (∀ es' k now, es' ++ [.tick k now] <+: es →
      (TellsTime es' (.tick k now) ↔ SecondLate es' k now)) ∧
    (TimerRight es ↔ ∀ k now, .tick k now ∉ es) := by
  have hinit {es' : List TimerEvent} {k now : ℕ} (h' : es' ++ [.tick k now] <+: es) :
      Sound (run es') (firstJoin es') ∧ Timely (run es') (.tick k now) := by
    have htimely := each_iff.mp h
    refine ⟨sound_run (each_iff.mpr fun es'' e h'' => ?_), htimely es' _ h'⟩
    exact htimely es'' e (h''.trans ((List.prefix_append es' _).trans h'))
  refine ⟨fun es' k now h' => tellsTime_iff (hinit h').1 (hinit h').2, ?_⟩
  constructor
  · intro hright k now hmem
    obtain ⟨es', k, now, h', hno⟩ := exists_first_tick ⟨k, now, hmem⟩
    have hlate := (tellsTime_iff (hinit h').1 (hinit h').2).mp (hright es' k now h')
    exact not_secondLate (hinit h').1 (hinit h').2 hno hlate
  · intro hno es' k now h'
    exact absurd (h'.subset (List.mem_append_right es' (List.mem_singleton_self _))) (hno k now)

end Stopwatches

/-- Somebody joins, and once more after a second and a half. -/
def answered : List TimerEvent :=
  [.onUserJoined 0, .tick 0 1000, .onUserJoined 1500, .tick 0 2000, .tick 1 2500]

theorem timer_iff_answered : Each step Timely {} answered ∧
    (TimerRight answered ↔ ∀ k now, .tick k now ∉ answered) :=
  have htimely : Each step Timely {} answered := by decide
  ⟨htimely, (timer_iff htimely).2⟩

/-- After one second the timer shows two. -/
theorem timer_starts_at_two : ¬ ∀ es, Each step Timely {} es → TimerRight es := by
  intro h
  have htimely : Each step Timely {} answered := by decide
  obtain ⟨first, hfirst, hours, minutes, seconds, -, -, hs, hsum, -, -⟩ :=
    h answered htimely [.onUserJoined 0] 0 1000 (by decide)
  obtain rfl : 0 = first := Option.some.inj hfirst
  have htwo : 2 = seconds := (padLeft_inj 2).mp hs
  have hone : 3600 * hours + 60 * minutes + seconds = 1 := hsum
  omega

end FlutterTheme.CallTimer
