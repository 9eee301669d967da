import FlutterTheme.Loader
import Mathlib.Data.Finset.Lattice.Fold

/-!
# Sharing the position

`getCurrentPosition` asks the location service for the permission and then for the position. When
the permission is refused it requests it once more and calls itself, and neither awaits that call
nor returns what it gives.

* `requests_bounded_iff` — the requests come to an end exactly when the permission is granted at
  some time.
* `locationShare_answers_iff` — the position is asked for and shared as it should be exactly when
  the permission is granted to the first call and the service then gives a position.
* `refused_forever` — when the permission is refused for ever, `locationShare` throws and the
  requests go on.
-/

namespace FlutterTheme.Location

open Loader (Screen)

/-! ## The permission handler -/

inductive LocationPermission : Type where
  | denied | deniedForever | whileInUse | always | unableToDetermine
  deriving DecidableEq, Repr

inductive PositionItemType : Type where
  | log | position
  deriving DecidableEq, Repr

structure Position where
  /-- the numbers as they are printed -/
  latitude : String
  longitude : String
  /-- `toString` of the position -/
  text : String
  deriving DecidableEq, Repr

/-- What the location service and its dialog answer to one call of `getCurrentPosition`, which asks
for each of them once at most. -/
structure Answers where
  isLocationServiceEnabled : Bool
  checkPermission : LocationPermission
  /-- the answer to the request of `handlePermission`; `getCurrentPosition` awaits one more request,
  but does not use its answer -/
  requestPermission : LocationPermission
  /-- null when the service throws -/
  getCurrentPosition : Option Position

/-- `PermissionHandlerController`. -/
structure PermissionHandlerController where
  positionItems : List (PositionItemType × String) := []
  /-- how often the permission has been requested -/
  requests : ℕ := 0

/-- A function of the controller, up to its return. -/
abbrev Handler (α : Type) : Type := StateM PermissionHandlerController α

def kLocationServicesDisabledMessage : String := "Location services are disabled."

def kPermissionDeniedMessage : String := "Permission denied."

def kPermissionDeniedForeverMessage : String := "Permission denied forever."

def kPermissionGrantedMessage : String := "Permission granted."

def updatePositionList (type : PositionItemType) (displayValue : String) : Handler Unit :=
  modify fun s => { s with positionItems := s.positionItems ++ [(type, displayValue)] }

/-- The dialog is shown. -/
def requestPermission (a : Answers) : Handler LocationPermission := do
  modify fun s => { s with requests := s.requests + 1 }
  return a.requestPermission

def handlePermission (a : Answers) : Handler Bool := do
  if !a.isLocationServiceEnabled then
    updatePositionList .log kLocationServicesDisabledMessage
    return false
  let mut permission := a.checkPermission
  if permission = .denied then
    permission ← requestPermission a
    if permission = .denied then
      updatePositionList .log kPermissionDeniedMessage
      return false
  if permission = .deniedForever then
    updatePositionList .log kPermissionDeniedForeverMessage
    return false
  updatePositionList .log kPermissionGrantedMessage
  return true

/-- What the caller of `getCurrentPosition` gets. -/
inductive Reply : Type where
  | position (p : Position) : Reply
  | null : Reply
  | error : Reply
  deriving DecidableEq, Repr

/-- One call of `getCurrentPosition`: what it replies, and whether it has called itself. -/
def getCurrentPosition (a : Answers) : Handler (Reply × Bool) := do
  let hasPermission ← handlePermission a
  if !hasPermission then
    let _ ← requestPermission a
    -- the call it makes here is not awaited
    return (.null, true)
  else
    match a.getCurrentPosition with
    | none => return (.error, false)
    | some position =>
      updatePositionList .position position.text
      return (.position position, false)

/-- A call of `getCurrentPosition` and the calls that come of it. -/
structure Calls where
  controller : PermissionHandlerController
  /-- a call has still to be answered -/
  waiting : Bool := true

/-- The call that waits is answered. -/
def Calls.next (c : Calls) (a : Answers) : Calls :=
  if c.waiting then
    let r := getCurrentPosition a c.controller
    { controller := r.2, waiting := r.1.2 }
  else c

/-- After `n` answers; the call of number `n` gets the answers of this number. -/
def calls (answers : ℕ → Answers) (s : PermissionHandlerController) : ℕ → Calls
  | 0 => { controller := s }
  | n + 1 => (calls answers s n).next (answers n)

/-- The reply to the first call, which is the one the caller awaits. -/
def reply (answers : ℕ → Answers) (s : PermissionHandlerController) : Reply :=
  (getCurrentPosition (answers 0) s).1.1

/-! ## The screens -/

def locationString (value : Position) : String :=
  "https://www.google.com/maps/search/?api=1&query=" ++ value.latitude ++ "," ++ value.longitude

/-- What `locationShare` does when it has the reply. -/
structure Shared where
  /-- the messages it hands over -/
  sent : List FlutterTheme.Action := []
  throws : Bool := false

/-- `locationShare`, which is the same in the three controllers: `value!` throws when there is no
position, and an error of `getCurrentPosition` is not caught. -/
def share (onSendMessage : String → MessageType → FlutterTheme.Action) : Reply → Shared
  | .position value => { sent := [onSendMessage (locationString value) .location] }
  | .null => { throws := true }
  | .error => { throws := true }

/-- `ChatController.locationShare`. -/
def Chat.locationShare (c : ℕ) : Reply → Shared :=
  share (.onSendMessage c)

/-- `GroupChatMessageController.locationShare`. -/
def GroupChat.locationShare (g : ℕ) : Reply → Shared :=
  share (.sendToGroup g)

/-- `BroadcastChatController.locationShare`. -/
def BroadcastChat.locationShare (b : ℕ) : Reply → Shared :=
  share (.sendToBroadcast b)

def locationShare : Screen → Reply → Shared
  | .chat c => Chat.locationShare c
  | .group g => GroupChat.locationShare g
  | .broadcast b => BroadcastChat.locationShare b

/-- The message with a position, from a screen. -/
def message (value : Position) : Screen → FlutterTheme.Action
  | .chat c => .onSendMessage c (locationString value) .location
  | .group g => .sendToGroup g (locationString value) .location
  | .broadcast b => .sendToBroadcast b (locationString value) .location

/-! ## What is asked for -/

/-- The permission is not refused. -/
def LocationPermission.Given (p : LocationPermission) : Prop :=
  p ≠ .denied ∧ p ≠ .deniedForever

instance (p : LocationPermission) : Decidable p.Given :=
  inferInstanceAs (Decidable (_ ∧ _))

/-- The service is enabled, and the permission is there or given when it is requested. -/
def Answers.Granted (a : Answers) : Prop :=
  a.isLocationServiceEnabled = true ∧
    (a.checkPermission.Given ∨ a.checkPermission = .denied ∧ a.requestPermission.Given)

instance (a : Answers) : Decidable a.Granted :=
  inferInstanceAs (Decidable (_ ∧ (_ ∨ _ ∧ _)))

/-- The permission is granted to the call of number `n` for the first time, and there is a
position. -/
def Obtained (answers : ℕ → Answers) (n : ℕ) (p : Position) : Prop :=
  (answers n).Granted ∧ (∀ m < n, ¬ (answers m).Granted) ∧ (answers n).getCurrentPosition = some p

/-- There is one position at most. -/
theorem Obtained.unique {answers : ℕ → Answers} {n m : ℕ} {p q : Position}
    (hp : Obtained answers n p) (hq : Obtained answers m q) : p = q := by
  obtain ⟨hgp, hfirstp, hp⟩ := hp
  obtain ⟨hgq, hfirstq, hq⟩ := hq
  have hnm : n = m := by
    rcases Nat.lt_trichotomy n m with hlt | heq | hgt
    · exact absurd hgp (hfirstq n hlt)
    · exact heq
    · exact absurd hgq (hfirstp m hgt)
  subst hnm
  exact Option.some.inj (hp.symm.trans hq)

/-- Asking for the position ends and answers, and what is obtained is shared from a screen. -/
structure Answered (answers : ℕ → Answers) (s : PermissionHandlerController) (screen : Screen) :
    Prop where
  /-- the permission is requested a finite number of times -/
  ends : ∃ N, ∀ n, (calls answers s n).controller.requests ≤ N
  /-- the position is returned when there is one -/
  position : ∀ n p, Obtained answers n p → reply answers s = .position p
  /-- otherwise it is null -/
  null : (∀ n p, ¬ Obtained answers n p) → reply answers s = .null
  /-- a position is sent in one message -/
  sent : ∀ p, reply answers s = .position p →
    (locationShare screen (reply answers s)).sent = [message p screen]
  /-- and nothing is sent without one -/
  quiet : (∀ p, reply answers s ≠ .position p) →
    (locationShare screen (reply answers s)).sent = []
  returns : (locationShare screen (reply answers s)).throws = false

/-! ## One call -/

section Call

variable (a : Answers) (s : PermissionHandlerController)

theorem handlePermission_fst : (handlePermission a s).1 = decide a.Granted := by
  obtain ⟨service, check, request, position⟩ := a
  cases service with
  | false => rfl
  | true => cases check <;> cases request <;> rfl

/-- The dialog of `handlePermission` comes on top of what has been requested before. -/
theorem le_requests_handlePermission : s.requests ≤ (handlePermission a s).2.requests := by
  obtain ⟨service, check, request, position⟩ := a
  cases service with
  | false => exact le_rfl
  | true =>
    cases check with
    | denied => cases request <;> exact Nat.le_succ _
    | deniedForever | whileInUse | always | unableToDetermine => exact le_rfl

/-- What `handlePermission` leaves, whether or not the permission is granted. -/
theorem exists_handlePermission :
    ∃ s', handlePermission a s = (decide a.Granted, s') ∧ s.requests ≤ s'.requests :=
  ⟨(handlePermission a s).2, Prod.ext (handlePermission_fst a s) rfl,
    le_requests_handlePermission a s⟩

variable {a s}

/-- A call that gets the permission goes on to ask for the position. -/
theorem getCurrentPosition_of_granted (h : a.Granted) :
    (getCurrentPosition a s).1 = (match a.getCurrentPosition with
      | none => .error
      | some position => .position position, false) := by
  obtain ⟨s', hs', -⟩ := exists_handlePermission a s
  rw [decide_eq_true h] at hs'
  simp only [getCurrentPosition, bind, StateT.bind, hs']
  cases a.getCurrentPosition <;> rfl

/-- A call without the permission requests it, calls itself and gives null. -/
theorem getCurrentPosition_of_not_granted (h : ¬ a.Granted) :
    (getCurrentPosition a s).1 = (.null, true) ∧
      s.requests + 1 ≤ (getCurrentPosition a s).2.requests := by
  obtain ⟨s', hs', hle⟩ := exists_handlePermission a s
  rw [decide_eq_false h] at hs'
  simp only [getCurrentPosition, bind, StateT.bind, hs']
  exact ⟨rfl, Nat.succ_le_succ hle⟩

end Call

/-! ## The calls that come of it -/

section Chain

variable {answers : ℕ → Answers} {s : PermissionHandlerController}

/-- A call is made as long as the calls before it have not got the permission, and each of those has
requested it. -/
theorem calls_waiting {n : ℕ} (h : ∀ m < n, ¬ (answers m).Granted) :
    (calls answers s n).waiting = true ∧
      s.requests + n ≤ (calls answers s n).controller.requests := by
  induction n with
  | zero => exact ⟨rfl, le_rfl⟩
  | succ n ih =>
    obtain ⟨hwait, hreq⟩ := ih fun m hm => h m (Nat.lt_succ_of_lt hm)
    obtain ⟨hreply, hnext⟩ := getCurrentPosition_of_not_granted
      (s := (calls answers s n).controller) (h n (Nat.lt_succ_self n))
    simp only [calls, Calls.next, hwait, if_true, hreply]
    exact ⟨trivial, by omega⟩

/-- After a call that gets the permission no further call is made. -/
theorem calls_stopped {n : ℕ} (h : (answers n).Granted) (hfirst : ∀ m < n, ¬ (answers m).Granted) :
    (calls answers s (n + 1)).waiting = false := by
  obtain ⟨hwait, -⟩ := calls_waiting (s := s) hfirst
  simp only [calls, Calls.next, hwait, if_true, getCurrentPosition_of_granted h]

/-- When no call waits, nothing changes any more. -/
theorem calls_of_stopped {n : ℕ} (h : (calls answers s n).waiting = false) (k : ℕ) :
    calls answers s (n + k) = calls answers s n := by
  induction k with
  | zero => rfl
  | succ k ih =>
    rw [← Nat.add_assoc]
    simp only [calls, Calls.next, ih, h, Bool.false_eq_true, if_false]

/-- The permission is requested a finite number of times exactly when it is granted at some time. -/
theorem requests_bounded_iff :
    (∃ N, ∀ n, (calls answers s n).controller.requests ≤ N) ↔ ∃ n, (answers n).Granted := by
  constructor
  · rintro ⟨N, hN⟩
    by_contra hnever
    obtain ⟨-, hreq⟩ := calls_waiting (s := s) (n := N + 1) fun m _ hm => hnever ⟨m, hm⟩
    have := hN (N + 1)
    omega
  · intro h
    have hstop := calls_stopped (s := s) (Nat.find_spec h) fun m hm => Nat.find_min h hm
    -- nothing changes from the call `k` on, so the calls up to it give the bound
    generalize Nat.find h + 1 = k at hstop
    let requests : ℕ → ℕ := fun n => (calls answers s n).controller.requests
    refine ⟨(Finset.range (k + 1)).sup requests, fun n => ?_⟩
    rcases Nat.le_total n k with hn | hn
    · exact Finset.le_sup (f := requests) (Finset.mem_range.2 (Nat.lt_succ_of_le hn))
    · obtain ⟨m, rfl⟩ := Nat.exists_eq_add_of_le hn
      rw [calls_of_stopped hstop m]
      exact Finset.le_sup (f := requests) (Finset.self_mem_range_succ k)

/-- The first call replies with a position exactly when it gets the permission and the service gives
a position. -/
theorem reply_eq_position_iff {p : Position} :
    reply answers s = .position p ↔
      (answers 0).Granted ∧ (answers 0).getCurrentPosition = some p := by
  by_cases h : (answers 0).Granted
  · rw [reply, getCurrentPosition_of_granted h]
    cases (answers 0).getCurrentPosition <;> simp [h]
  · rw [reply, (getCurrentPosition_of_not_granted h).1]
    simp [h]

end Chain

/-! ## The screens -/

section Screens

variable (screen : Screen)

theorem locationShare_position (p : Position) :
    locationShare screen (.position p) = { sent := [message p screen] } := by
  cases screen <;> rfl

theorem locationShare_null : locationShare screen .null = { throws := true } := by
  cases screen <;> rfl

theorem locationShare_error : locationShare screen .error = { throws := true } := by
  cases screen <;> rfl

variable (answers : ℕ → Answers) (s : PermissionHandlerController)

/-- **Asking for the position ends and answers, and the position is shared, exactly when the first
call gets the permission and a position.** -/
theorem locationShare_answers_iff :
    Answered answers s screen ↔
      (answers 0).Granted ∧ (answers 0).getCurrentPosition ≠ none := by
  constructor
  · intro h
    have hthrows := h.returns
    cases hr : reply answers s with
    | position p =>
      obtain ⟨hg, hp⟩ := reply_eq_position_iff.1 hr
      exact ⟨hg, by simp [hp]⟩
    | null => simp [hr, locationShare_null] at hthrows
    | error => simp [hr, locationShare_error] at hthrows
  · rintro ⟨hg, hp⟩
    obtain ⟨p, hp⟩ := Option.ne_none_iff_exists'.1 hp
    have hr : reply answers s = .position p := reply_eq_position_iff.2 ⟨hg, hp⟩
    have hobt : Obtained answers 0 p := ⟨hg, fun m hm => absurd hm (Nat.not_lt_zero m), hp⟩
    exact {
      ends := requests_bounded_iff.2 ⟨0, hg⟩
      position := fun n q hq => by rw [hr, hobt.unique hq]
      null := fun hnone => absurd hobt (hnone 0 p)
      sent := fun q hq => by
        obtain rfl : p = q := Reply.position.inj (hr.symm.trans hq)
        rw [hr, locationShare_position]
      quiet := fun hnone => absurd hr (hnone p)
      returns := by rw [hr, locationShare_position] }

end Screens

/-- The service is enabled, but the permission is refused for ever. -/
def refused : Answers where
  isLocationServiceEnabled := true
  checkPermission := .deniedForever
  requestPermission := .deniedForever
  getCurrentPosition := none

/-- When the permission is refused for ever, `locationShare` throws and the requests go on. -/
theorem refused_forever :
    ¬ Answered (fun _ => refused) {} (.chat 0) ∧
      (locationShare (.chat 0) (reply (fun _ => refused) {})).throws = true ∧
      ∀ N, ∃ n, N < (calls (fun _ => refused) {} n).controller.requests := by
  have hthrows : (locationShare (.chat 0) (reply (fun _ => refused) {})).throws = true := by decide
  refine ⟨fun h => absurd hthrows (by rw [h.returns]; exact Bool.false_ne_true), hthrows, ?_⟩
  by_contra! hN
  obtain ⟨n, hn⟩ := requests_bounded_iff.1 hN
  exact absurd hn (by decide)

end FlutterTheme.Location
