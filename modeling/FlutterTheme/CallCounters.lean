import FlutterTheme.CallDeeds
import FlutterTheme.CallHistory
import FlutterTheme.History
import FlutterTheme.Labels
import Mathlib

/-!
# The counters of calls

`audioCallMade`, `audioCallReceived` and their two counterparts for video calls are incremented by
`onUserJoined`, on the device of the caller, for everyone who joins. `Counted` says that they count
the calls that have been answered, and that `started` is the time of the first answer.

* `leaves_onUserJoined` — what is on its way when somebody has joined (`Answer.dues`).
* `Ledger` — what is on its way and what has been written are what the answers write; every event
  keeps it.
* `calls_counted` — the counters are right where every call is answered once, by the one user whose
  counter goes up, and nothing that clears `started` is written after it.
* `answer_counted_twice` — somebody joins again.
-/

namespace FlutterTheme.Calls.Counters

open EventLoop DocStore History

/-! ## Answers -/

/-- The counter of the calls that a user has made. -/
def made (isVideo : Bool) : Key := if isVideo then .videoCallMade else .audioCallMade

/-- The counter of the calls that a user has received. -/
def received (isVideo : Bool) : Key := if isVideo then .videoCallReceived else .audioCallReceived

/-- A counter of a user, which is 0 where there is none. -/
def counter (w : World) (user : String) (k : Key) : ℕ :=
  (Value.toInt? (w.store.fieldsAt .calls (.named user) k)).getD 0

/-- A participant has joined the channel of a caller whose screen shows a call. -/
structure Answer where
  caller : String
  timestamp : ℕ
  isVideo : Bool
  /-- the user who has joined -/
  joined : String
  /-- the users who have been called -/
  callees : List String
  /-- the users whose counter of received calls goes up -/
  reached : List String
  ticks : ℕ → Tick

namespace Answer

/-- What tells a call from others. -/
def call (a : Answer) : String × ℕ := (a.caller, a.timestamp)

/-- The call has been answered by somebody who was called. -/
def ByCallee (a : Answer) : Prop := a.joined ∈ a.callees

instance (a : Answer) : Decidable a.ByCallee := inferInstanceAs (Decidable (_ ∈ _))

end Answer

/-- `who` tells which user an identifier of the engine belongs to. -/
def answer (who : ℕ → String) (w : World) (k remoteUid : ℕ) (ticks : ℕ → Tick) : Option Answer :=
  let s := w.ctrl.get k
  s.call.bind fun call => call.ids.bind fun ids =>
    if s.userData.id = ids.callerId then
      some {
        caller := ids.callerId
        timestamp := ids.timestamp
        isVideo := s.isVideo
        joined := who remoteUid
        callees := call.others ids s.userData
        reached := if s.isVideo then call.others ids s.userData else [ids.receiverId]
        ticks := ticks }
    else none

/-- The answer that an event is. -/
def answerAt (who : ℕ → String) (c : Config World Scope) : Event Action → Option Answer
  | .call (.onUserJoined k remoteUid) ticks => answer who c.world k remoteUid ticks
  | _ => none

/-- The calls among some answers by callees. -/
def callsOf (answers : List Answer) : List (String × ℕ) :=
  ((answers.filter (·.ByCallee)).map Answer.call).dedup

/-- The first answer to a call. -/
def firstAnswer (answers : List Answer) (call : String × ℕ) : Option Answer :=
  answers.find? fun a => a.call = call ∧ a.ByCallee

/-- **What the counters should be**: every answered call counts once for its caller, and once for
every callee who has joined; `started` is the time of the first answer, in the history of each. -/
structure Counted (answers : List Answer) (w : World) : Prop where
  made : ∀ user isVideo, counter w user (made isVideo) =
    (callsOf (answers.filter fun a => a.caller = user ∧ a.isVideo = isVideo)).length
  received : ∀ user isVideo, counter w user (received isVideo) =
    (callsOf (answers.filter fun a => a.joined = user ∧ a.isVideo = isVideo)).length
  started : ∀ a ∈ answers, a.ByCallee → ∀ first, firstAnswer answers a.call = some first →
    ∀ user ∈ [a.caller, a.joined], ∃ n,
      w.historyAt user a.timestamp .started = some (.time (first.ticks n).now)

/-! ## Runs -/

/-- The system, and the answers so far. -/
structure Record where
  config : Config World Scope
  answers : List Answer := []

/-- One event. -/
def step (who : ℕ → String) (s : Record) (e : Event Action) : Record where
  config := calling.apply s.config e
  answers := s.answers ++ (answerAt who s.config e).toList

/-- Some events, from a start at which no call has been placed. -/
def run (who : ℕ → String) (c₀ : Config World Scope) (es : List (Event Action)) : Record :=
  es.foldl (step who) { config := c₀ }

/-- Nothing that clears `started` is carried on for a call that has been answered. -/
def unanswered : Scope → World → Prop
  | .history x, w => x.writer.Clears → ¬ Answered (w.historyAt x.user x.timestamp)
  | .idle, _ => True

instance : (l : Scope) → (w : World) → Decidable (unanswered l w)
  | .history x, w => inferInstanceAs
      (Decidable (x.writer.Clears → ¬ isNull (w.historyAt x.user x.timestamp .started) = false))
  | .idle, _ => inferInstanceAs (Decidable True)

/-- The answer is the only one to its call: who joins is the one whose counter goes up, and was
called; and there has been no other answer whose documents are these. -/
structure Answer.Sole (earlier : List Answer) (a : Answer) : Prop where
  byCallee : a.ByCallee
  reached : a.reached = [a.joined]
  apart : ∀ b ∈ earlier, b.timestamp = a.timestamp →
    ∀ user ∈ [a.caller, a.joined], user ∉ [b.caller, b.joined]

instance (earlier : List Answer) (a : Answer) : Decidable (a.Sole earlier) :=
  decidable_of_iff (a.ByCallee ∧ a.reached = [a.joined] ∧
      ∀ b ∈ earlier, b.timestamp = a.timestamp →
        ∀ user ∈ [a.caller, a.joined], user ∉ [b.caller, b.joined])
    ⟨fun h => ⟨h.1, h.2.1, h.2.2⟩, fun h => ⟨h.byCallee, h.reached, h.apart⟩⟩

/-- What is asked of an event: a call is answered once, and one that has been answered stays so. -/
structure Orderly (who : ℕ → String) (s : Record) (e : Event Action) : Prop where
  kept : Keeping unanswered s.config e
  sole : ∀ a ∈ answerAt who s.config e, a.Sole s.answers

instance (who : ℕ → String) (s : Record) (e : Event Action) : Decidable (Orderly who s e) :=
  decidable_of_iff
    (Keeping unanswered s.config e ∧ ∀ a ∈ answerAt who s.config e, a.Sole s.answers)
    ⟨fun h => ⟨h.1, h.2⟩, fun h => ⟨h.kept, h.sole⟩⟩

/-! ## What an answer writes -/

/-- A write that is on its way when somebody has joined. -/
inductive Due : Type where
  /-- a counter goes up -/
  | count (user : String) (k : Key) : Due
  /-- a history document gets its `started` -/
  | pickUp (user : String) (timestamp started : ℕ) : Due
  deriving DecidableEq

/-- The writes for a user whose counter `k` goes up. -/
def duesOf (timestamp : ℕ) (k : Key) (user : String) (time : ℕ) : Multiset Due :=
  {.pickUp user timestamp time} + {.count user k}

/-- The writes for those who are reached, the first of which reads the `n`-th tick. -/
def duesOfReached (timestamp : ℕ) (k : Key) (ticks : ℕ → Tick) : ℕ → List String → Multiset Due
  | _, [] => 0
  | n, user :: users =>
    duesOf timestamp k user (ticks n).now + duesOfReached timestamp k ticks (n + 2) users

/-- The writes of an answer. -/
def Answer.dues (a : Answer) : Multiset Due :=
  duesOf a.timestamp (made a.isVideo) a.caller (a.ticks 3).now +
    duesOfReached a.timestamp (received a.isVideo) a.ticks 5 a.reached

/-- What is left of an increment. -/
def counting (user : String) (k : Key) : Task World Scope :=
  Async.task <| Async.sync fun t w =>
    ((), if t.fails then w else
      let count := (Value.toInt? (w.store.fieldsAt .calls (.named user) k)).getD 0
      { w with store := w.store.setMerge .calls user t.pos (.ofList [(k, .int (count + 1))]) })

/-- What is left of a write to a history document. -/
def filing (user : String) (timestamp : ℕ) (u : Data) : Task World Scope :=
  Async.task <| Async.sync fun t w =>
    ((), if t.fails then w else
      { w with store := w.store.setMerge (.history user) (toString timestamp) t.pos u })

/-- Nothing is counted, and no call is answered. -/
def unanswering : Deeds World where
  rel _ w w' :=
    (∀ user, w'.store.fieldsAt .calls (.named user) = w.store.fieldsAt .calls (.named user)) ∧
      ∀ user timestamp, w'.historyAt user timestamp .started = w.historyAt user timestamp .started ∨
        w'.historyAt user timestamp .started = some .null
  refl _ _ := ⟨fun _ => rfl, fun _ _ => Or.inl rfl⟩

/-- What a suspended call still has to write. -/
inductive Owing : Task World Scope → Multiset Due → Prop where
  | nothing {t : Task World Scope} (h : t.All unanswering) : Owing t 0
  | count (user : String) (k : Key) : Owing (counting user k) {.count user k}
  | pickUp (user : String) (timestamp : ℕ) {u : Data} {time : ℕ}
      (h : u .started = some (.time time)) :
      Owing (filing user timestamp u) {.pickUp user timestamp time}

/-- What a segment leaves that has stored nothing yet. -/
structure Leaves (w : World) (o : Outcome World Scope) (r : Multiset Due) : Prop where
  store : o.world.store = w.store
  labelled : Labelled (Owing ·.task) o.threads r

theorem Leaves.of_store {w w' : World} {o : Outcome World Scope} {r : Multiset Due}
    (h : Leaves w' o r) (hw : w'.store = w.store) : Leaves w o r :=
  ⟨h.store.trans hw, h.labelled⟩

section Joined

variable {ticks : ℕ → Tick} {l : Scope} {w : World} {timestamp n : ℕ} {i : Ids}

/-- A history document and a counter of a user are written, and the call goes on. -/
theorem leaves_duesOf (ticks : ℕ → Tick) (l : Scope) (w : World) (timestamp : ℕ) (k : Key)
    (user : String) {time n : ℕ} {u : Data} {t : Task World Scope} {r : Multiset Due}
    (hu : u .started = some (.time time))
    (ht : ∀ w' : World, w'.store = w.store → Leaves w (t.run ticks l (n + 1) w') r) :
    Leaves w (((do
      writeHistory .onUserJoined user timestamp u
      increment user k) fun _ => t : Task World Scope).run ticks l n w)
      (duesOf timestamp k user time + r) := by
  have hrest := ht { w with writes := ⟨.onUserJoined, user, timestamp⟩ :: w.writes } rfl
  have hwrites : Labelled (Owing ·.task)
      ([⟨.history ⟨.onUserJoined, user, timestamp⟩, filing user timestamp u⟩,
        ⟨l, counting user k⟩] : List (Thread World Scope)) ({.pickUp user timestamp time} + ({.count user k} + 0)) :=
    .cons (.pickUp user timestamp hu) (.cons (.count user k) labelled_nil)
  exact ⟨hrest.store, hwrites.append hrest.labelled⟩

theorem leaves_pickedUpEach : ∀ {users : List String} {n : ℕ} {w : World},
    Leaves w ((pickedUpEach timestamp users).task.run ticks l n w)
      (duesOfReached timestamp .videoCallReceived ticks n users)
  | [], _, _ => ⟨rfl, labelled_nil⟩
  | user :: users, n, w => by
    have hfirst := leaves_duesOf ticks l w timestamp .videoCallReceived user (n := n + 1)
      (u := receiverPickedUp (ticks n).now) (t := (pickedUpEach timestamp users).task) rfl
      fun w' hw' => (leaves_pickedUpEach (n := n + 2) (w := w')).of_store hw'
    exact ⟨hfirst.store, hfirst.labelled⟩

/-- What the audio controller of the caller writes when the peer has joined: the time for both
parties, with two readings of the clock, and one count for each. -/
theorem leaves_audioPickedUp : Leaves w
    ((do
      let time ← now
      writeHistory .onUserJoined i.callerId i.timestamp (callerPickedUp time)
      let time ← now
      writeHistory .onUserJoined i.receiverId i.timestamp (receiverPickedUp time)
      increment i.callerId .audioCallMade
      increment i.receiverId .audioCallReceived : Handler Unit).task.run ticks l n w)
    (duesOf i.timestamp .audioCallMade i.callerId (ticks n).now +
      duesOfReached i.timestamp .audioCallReceived ticks (n + 2) [i.receiverId]) := by
  refine ⟨rfl, ?_⟩
  have hcaller : Owing (filing i.callerId i.timestamp (callerPickedUp (ticks n).now)) _ :=
    .pickUp _ _ rfl
  have hreceiver : Owing (filing i.receiverId i.timestamp (receiverPickedUp (ticks (n + 2)).now)) _ :=
    .pickUp _ _ rfl
  have hsum : duesOf i.timestamp .audioCallMade i.callerId (ticks n).now +
      duesOfReached i.timestamp .audioCallReceived ticks (n + 2) [i.receiverId] =
        {.pickUp i.callerId i.timestamp (ticks n).now} +
          ({.pickUp i.receiverId i.timestamp (ticks (n + 2)).now} +
            ({.count i.callerId .audioCallMade} + ({.count i.receiverId .audioCallReceived} + 0))) := by
    simp only [duesOf, duesOfReached]
    abel
  rw [hsum]
  exact .cons hcaller (.cons hreceiver (.cons (.count _ _) (.cons (.count _ _) labelled_nil)))

/-- What the video controller of the caller writes. -/
theorem leaves_videoPickedUp (users : List String) : Leaves w
    ((do
      let time ← now
      writeHistory .onUserJoined i.callerId i.timestamp (callerPickedUp time)
      increment i.callerId .videoCallMade
      pickedUpEach i.timestamp users : Handler Unit).task.run ticks l n w)
    (duesOf i.timestamp .videoCallMade i.callerId (ticks n).now +
      duesOfReached i.timestamp .videoCallReceived ticks (n + 2) users) := by
  have hfirst := leaves_duesOf ticks l w i.timestamp .videoCallMade i.callerId (n := n + 1)
    (u := callerPickedUp (ticks n).now) (t := (pickedUpEach i.timestamp users).task) rfl
    fun w' hw' => (leaves_pickedUpEach (n := n + 2) (w := w')).of_store hw'
  exact ⟨hfirst.store, hfirst.labelled⟩

/-- A screen writes only for a call that its user has placed: the controller of anybody else leaves
nothing owed. -/
theorem leaves_ofCaller {s : CallController} {f : Call → Ids → Handler Unit}
    {r : Call → Ids → Multiset Due}
    (hf : ∀ call ids, Leaves w ((f call ids).task.run ticks l n w) (r call ids)) :
    Leaves w
      ((do
        let x ← currentCall s
        if s.userData.id = x.2.callerId then f x.1 x.2 else pure () : Handler Unit).task.run ticks l n w)
      (((s.call.bind fun call => call.ids.bind fun ids =>
        if s.userData.id = ids.callerId then some (r call ids) else none)).getD 0) := by
  have hthrow : Leaves w ⟨w, [], [l], [], n⟩ 0 := ⟨rfl, labelled_nil⟩
  cases hcall : s.call with
  | none =>
    simp only [currentCall, hcall]
    exact hthrow
  | some call =>
    cases hids : call.ids with
    | none =>
      simp only [currentCall, hcall, hids, Option.bind_some, Option.bind_none]
      exact hthrow
    | some ids =>
      simp only [currentCall, hcall, hids, Option.bind_some]
      change Leaves w ((if s.userData.id = ids.callerId then f call ids else pure () :
        Handler Unit).task.run ticks l n w) _
      split
      · exact hf call ids
      · exact ⟨rfl, labelled_nil⟩

/-- A callback changes the fields of a controller and looks at them. -/
theorem leaves_modifyCtrl {k : ℕ} {f : CallController → CallController}
    {g : CallController → Handler Unit} {r : Multiset Due}
    (hg : ∀ w' : World, w'.store = w.store →
      Leaves w' ((g (f (w.ctrl.get k))).task.run ticks l (n + 2) w') r) :
    Leaves w ((do modifyCtrl k f; let s ← callCtrl k; g s : Handler Unit).task.run ticks l n w) r := by
  have hget : (w.ctrl.modify k f).get k = f (w.ctrl.get k) := by rw [Heap.get_modify, if_pos rfl]
  have hrest := hg { w with ctrl := w.ctrl.modify k f } rfl
  rw [← hget] at hrest
  exact ⟨hrest.store, hrest.labelled⟩

theorem leaves_onCtrl {k : ℕ} {audio video : Handler Unit} {r : Multiset Due}
    (h : Leaves w ((if (w.ctrl.get k).isVideo then video else audio).task.run ticks l 1 w) r) :
    Leaves w ((onCtrl k audio video).task.run ticks l 0 w) r :=
  ⟨h.store, h.labelled⟩

/-- **Somebody joins**: what is on its way then is what the answer says, if there is one. -/
theorem leaves_onUserJoined (who : ℕ → String) (k remoteUid : ℕ) (ticks : ℕ → Tick) (l : Scope)
    (w : World) :
    Leaves w ((Action.onUserJoined k remoteUid).body.task.run ticks l 0 w)
      ((answer who w k remoteUid ticks).elim 0 Answer.dues) := by
  have hanswer : (answer who w k remoteUid ticks).elim 0 Answer.dues =
      (((w.ctrl.get k).call.bind fun call => call.ids.bind fun ids =>
        if (w.ctrl.get k).userData.id = ids.callerId then
          some (duesOf ids.timestamp (made (w.ctrl.get k).isVideo) ids.callerId (ticks 3).now +
            duesOfReached ids.timestamp (received (w.ctrl.get k).isVideo) ticks 5
              (if (w.ctrl.get k).isVideo then call.others ids (w.ctrl.get k).userData
                else [ids.receiverId]))
        else none)).getD 0 := by
    rw [answer]
    cases (w.ctrl.get k).call with
    | none => rfl
    | some call =>
      cases hids : call.ids with
      | none => simp [hids]
      | some ids =>
        simp only [Option.bind_some, hids]
        split
        · rfl
        · rfl
  rw [hanswer]
  -- the two controllers write to different users
  cases hvideo : (w.ctrl.get k).isVideo with
  | false =>
    refine leaves_onCtrl ?_
    rw [hvideo, if_neg Bool.false_ne_true]
    exact leaves_modifyCtrl fun w' _ =>
      leaves_ofCaller fun call ids => leaves_audioPickedUp (i := ids)
  | true =>
    refine leaves_onCtrl ?_
    rw [hvideo, if_pos rfl]
    exact leaves_modifyCtrl fun w' _ =>
      leaves_ofCaller fun call ids =>
        leaves_videoPickedUp (i := ids) (call.others ids (w.ctrl.get k).userData)

end Joined

/-! ## What the others write -/

section Others

variable {w w' : World}

/-- Nothing is counted or answered where the counters and the history are left as they are. -/
theorem unanswering_of_docs {t : Tick} (hcalls : w'.store.docs .calls = w.store.docs .calls)
    (hhistory : ∀ user, w'.store.docs (.history user) = w.store.docs (.history user)) :
    unanswering.rel t w w' :=
  ⟨fun _ => w.store.fieldsAt_congr hcalls _,
    fun user _ => Or.inl (congrFun (w.store.fieldsAt_congr (hhistory user) _) _)⟩

theorem writes_unanswering (op : CallingWrite) : Writes unanswering op := by
  intro t w
  cases op with
  | add user call hasDialled =>
    exact unanswering_of_docs (Store.docs_add_of_ne (by simp)) fun _ => Store.docs_add_of_ne (by simp)
  | delete user id =>
    exact unanswering_of_docs (Store.docs_delete_of_ne (by simp)) fun _ =>
      Store.docs_delete_of_ne (by simp)
  | ended user timestamp time nameList =>
    exact unanswering_of_docs (Store.docs_setMerge_of_ne (by simp)) fun _ =>
      Store.docs_setMerge_of_ne (by simp)

/-- A write to the history changes no counter. -/
theorem fieldsAt_calls_setMerge (w : World) (user name : String) (pos : ℕ) (u : Data) (id : DocId) :
    (w.store.setMerge (.history user) name pos u).fieldsAt .calls id = w.store.fieldsAt .calls id :=
  w.store.fieldsAt_congr (Store.docs_setMerge_of_ne (by simp)) id

instance : Allows unanswering where
  other hstore _ := unanswering_of_docs (by rw [hstore]) fun _ => by rw [hstore]
  files {user u} hu timestamp t w := by
    refine ⟨fun _ => fieldsAt_calls_setMerge w user _ t.pos u _, fun user' timestamp' => ?_⟩
    rw [historyAt_setMerge w ⟨.onUserJoined, user, timestamp⟩ t.pos u user' timestamp']
    split
    · exact hu.imp (fun h => Fields.merge_of_none h) fun h => Fields.merge_of_some h
    · exact Or.inl rfl
  blank {t w user} := by
    refine ⟨fun id => w.store.fieldsAt_congr (Store.docs_add_of_ne (by simp)) _, fun _ _ => Or.inl ?_⟩
    simp [World.historyAt, Store.fieldsAt_add]

/-- Whatever is started, unless somebody has joined. -/
theorem all_unanswering {a : Action} (ha : ∀ k remoteUid, a ≠ .onUserJoined k remoteUid) :
    a.body.All unanswering := by
  refine all_action ?_ ?_ ?_ ?_ ?_
  · exact fun _ _ _ _ _ _ _ _ => writes_unanswering _
  · exact fun _ _ => writes_unanswering _
  · exact fun _ _ _ _ => writes_unanswering _
  · rintro user rfl
    exact Async.all_modify fun _ _ => unanswering_of_docs rfl fun _ => rfl
  · exact fun k remoteUid heq => absurd heq (ha k remoteUid)

/-- A segment of a call that answers nothing: it leaves no thread that owes anything, and what it
writes is apart from counters and times. -/
theorem run_unanswering {t : Task World Scope} (ht : t.All unanswering) (ticks : ℕ → Tick) (l : Scope)
    (n : ℕ) (w : World) (tick : Tick) :
    unanswering.rel tick w (t.run ticks l n w).world ∧
      Labelled (Owing ·.task) (t.run ticks l n w).threads 0 := by
  refine ⟨?_, labelled_zero fun th hth => .nothing (ht.threads th hth)⟩
  refine Task.run_steps (R := unanswering.rel tick) (unanswering.refl tick) ?_ fun st hst => ?_
  · rintro w w' w'' ⟨hcalls, hstarted⟩ ⟨hcalls', hstarted'⟩
    refine ⟨fun user => (hcalls' user).trans (hcalls user), fun user timestamp => ?_⟩
    obtain hsame | hnull := hstarted' user timestamp
    · rw [hsame]
      exact hstarted user timestamp
    · exact Or.inr hnull
  · obtain ⟨i, hi⟩ := List.getElem?_of_mem hst
    exact ht.steps i st hi

end Others

/-! ## The promise -/

/-- What has been answered stays so, added to the protocol. -/
def staying : Strengthening (callProtocol unanswered) where
  rely w w' := ∀ user timestamp, Answered (w.historyAt user timestamp) →
    Answered (w'.historyAt user timestamp)
  inv _ := True
  step _ _ _ := True
  rely_refl _ _ _ := id
  rely_trans h h' user timestamp ha := h' user timestamp (h user timestamp ha)
  step_refl _ _ := trivial
  of_step {l w w'} _ _ h := by
    refine ⟨fun user timestamp ha => ?_, trivial, trivial⟩
    obtain hsame | ⟨x, call, ids, u, promised, -, hf, hu⟩ := h.historyAt
    · rwa [hsame]
    rw [hu]
    split
    · next hx =>
      obtain ⟨rfl, rfl⟩ := hx
      obtain ⟨writer, user, timestamp⟩ := x
      cases hf with
      | audioJoinCaller | audioJoinReceiver | videoJoinCaller | videoJoinReceiver | rejectCaller
      | rejectReceiver => exact absurd ha (promised trivial)
      | audioEndCaller | audioEndReceiver => exact absurd ha (promised rfl)
      | callerPickedUp | receiverPickedUp => exact answered_merge rfl _
      | onUserOffline | onLeaveChannel | onToggleMute | ended => exact (answered_merge_iff rfl _).mpr ha
    · exact ha

/-! ## The ledger -/

/-- The writes have been made. -/
structure Written (r : Multiset Due) (w : World) : Prop where
  counter : ∀ user k, counter w user k = r.count (.count user k)
  /-- the last of them is what `started` is -/
  started : ∀ user timestamp time, .pickUp user timestamp time ∈ r → ∃ time',
    .pickUp user timestamp time' ∈ r ∧ w.historyAt user timestamp .started = some (.time time')

section Written

variable {r : Multiset Due} {w w' : World}

theorem written_initial {users : String → Option User} {session : ℕ → User}
    {agoraToken : ℕ → Option String} : Written 0 (World.initial users session agoraToken) where
  counter _ _ := rfl
  started _ _ _ h := absurd h (Multiset.notMem_zero _)

/-- What the others write leaves counters and times as they are, as long as no field of an answer is
cleared. -/
theorem Written.unanswering {t : Tick} (h : Written r w) (hw : unanswering.rel t w w')
    (hstays : staying.rely w w') : Written r w' where
  counter user k := by
    rw [Counters.counter, hw.1]
    exact h.counter user k
  started user timestamp time hmem := by
    obtain ⟨time', hmem', hstarted⟩ := h.started user timestamp time hmem
    refine ⟨time', hmem', ?_⟩
    have hanswered : Answered (w.historyAt user timestamp) := by
      rw [Answered, hstarted]
      rfl
    obtain hsame | hnull := hw.2 user timestamp
    · rw [hsame, hstarted]
    · have hstill := hstays user timestamp hanswered
      rw [Answered, hnull] at hstill
      exact absurd hstill (by decide)

theorem Written.of_store (h : Written r w) (hw : w'.store = w.store) : Written r w' where
  counter user k := by
    rw [Counters.counter, hw]
    exact h.counter user k
  started user timestamp time hmem := by
    rw [World.historyAt, hw]
    exact h.started user timestamp time hmem

/-- A counter goes up: the write adds one to what is stored, so that the count owed is now written.
-/
theorem Written.count (h : Written r w) (user : String) (k : Key) {ticks : ℕ → Tick} {l : Scope}
    (hticks : (ticks 0).fails = false) :
    Written ({.count user k} + r) ((counting user k).run ticks l 0 w).world := by
  have hworld : ((counting user k).run ticks l 0 w).world = { w with
      store := w.store.setMerge .calls user (ticks 0).pos
        (.ofList [(k, .int (Counters.counter w user k + 1))]) } := by
    simp only [counting, Async.task, Async.sync, Task.run, hticks, Bool.false_eq_true, if_false]
    rfl
  rw [hworld]
  refine ⟨fun user' k' => ?_, fun user' timestamp time hmem => ?_⟩
  · have hold := h.counter user' k'
    rw [Counters.counter] at hold
    rw [Counters.counter, Store.fieldsAt_setMerge, Multiset.count_add, Multiset.count_singleton]
    by_cases huser : user' = user
    · subst huser
      by_cases hk : k' = k
      · subst hk
        have hnew : (.ofList [(k', .int (Counters.counter w user' k' + 1))] : Data) k' =
            some (.int (Counters.counter w user' k' + 1)) := if_pos rfl
        rw [if_pos ⟨rfl, rfl⟩, if_pos rfl, Fields.merge_of_some hnew, ← h.counter, Nat.add_comm]
        rfl
      · have hother : Due.count user' k' ≠ .count user' k := by simpa using hk
        rw [if_pos ⟨rfl, rfl⟩, if_neg hother, Fields.merge_of_none (by simp [Fields.ofList, hk]), hold,
          Nat.zero_add]
    · have hother : Due.count user' k' ≠ .count user k := by simp [huser]
      rw [if_neg (by simp [huser]), if_neg hother, hold, Nat.zero_add]
  · obtain hmem | hmem := Multiset.mem_add.mp hmem
    · simp at hmem
    · obtain ⟨time', hmem', hstarted⟩ := h.started user' timestamp time hmem
      refine ⟨time', Multiset.mem_add.mpr (Or.inr hmem'), ?_⟩
      rw [World.historyAt, Store.fieldsAt_congr _ (Store.docs_setMerge_of_ne (by simp))]
      exact hstarted

/-- `started` is written: the document has the time of the answer from then on, whatever it had
before. -/
theorem Written.pickUp (h : Written r w) (user : String) (timestamp : ℕ) {u : Data} {time : ℕ}
    (hu : u .started = some (.time time)) {ticks : ℕ → Tick} {l : Scope}
    (hticks : (ticks 0).fails = false) :
    Written ({.pickUp user timestamp time} + r) ((filing user timestamp u).run ticks l 0 w).world := by
  have hworld : ((filing user timestamp u).run ticks l 0 w).world = { w with
      store := w.store.setMerge (.history user) (toString timestamp) (ticks 0).pos u } := by
    simp only [filing, Async.task, Async.sync, Task.run, hticks, Bool.false_eq_true, if_false]
  rw [hworld]
  refine ⟨fun user' k' => ?_, fun user' timestamp' time' hmem => ?_⟩
  · rw [Counters.counter, fieldsAt_calls_setMerge, Multiset.count_add, Multiset.count_singleton,
      if_neg (by simp), Nat.zero_add]
    exact h.counter user' k'
  · rw [historyAt_setMerge w ⟨.onUserJoined, user, timestamp⟩ (ticks 0).pos u user' timestamp']
    by_cases hsame : user' = user ∧ timestamp' = timestamp
    · obtain ⟨rfl, rfl⟩ := hsame
      refine ⟨time, Multiset.mem_add.mpr (Or.inl (Multiset.mem_singleton_self _)), ?_⟩
      rw [if_pos ⟨rfl, rfl⟩, Fields.merge_of_some hu]
    · rw [if_neg hsame]
      obtain hmem | hmem := Multiset.mem_add.mp hmem
      · have hnew := Multiset.mem_singleton.mp hmem
        exact absurd ⟨(Due.pickUp.inj hnew).1, (Due.pickUp.inj hnew).2.1⟩ hsame
      · obtain ⟨time'', hmem', hstarted⟩ := h.started user' timestamp' time' hmem
        exact ⟨time'', Multiset.mem_add.mpr (Or.inr hmem'), hstarted⟩

end Written

/-- What the answers have written and what is still on its way is what they write. -/
structure Ledger (s : Record) : Prop where
  kept : s.config.Kept ((callProtocol unanswered).strengthen staying)
  written : ∃ r r', s.config.Labelled (Owing ·.task) r' ∧ (s.answers.map Answer.dues).sum = r + r' ∧
    Written r s.config.world

variable {who : ℕ → String} {s : Record} {e : Event Action}

/-- A call that goes on keeps the ledger: a thread that owes a count or a time pays it with the
write it is resumed for, and every other thread touches neither the counters nor the times. -/
theorem Ledger.resume {i : ℕ} {ticks : ℕ → Tick} (h : Ledger s)
    (he : Keeping unanswered s.config (.resume i ticks)) (hticks : (ticks 0).fails = false) :
    Ledger (step who s (.resume i ticks)) := by
  have hprovides := provides staying s.config (.resume i ticks) h.kept he
  refine ⟨System.apply_kept h.kept hprovides, ?_⟩
  have hstays : staying.rely s.config.world (calling.apply s.config (.resume i ticks)).world :=
    (System.outcome_kept h.kept hprovides).le.2
  obtain ⟨r, r', hlabelled, hsum, hwritten⟩ := h.written
  have hanswers : (step who s (.resume i ticks)).answers = s.answers := List.append_nil _
  rw [hanswers, hsum, step]
  obtain heq | ⟨th, -, r₁, r₂, howing, rfl, hworld, hlater⟩ :=
    System.labelled_resume (S := calling) hlabelled i ticks
  · rw [heq]
    exact ⟨r, r', hlabelled, rfl, hwritten⟩
  · rw [hworld] at hstays ⊢
    obtain ⟨scope, task⟩ := th
    cases howing with
    | nothing hall =>
      obtain ⟨hrel, hnothing⟩ := run_unanswering hall ticks scope 0 s.config.world (ticks 0)
      refine ⟨r, r₂ + 0, hlater 0 hnothing, ?_, hwritten.unanswering hrel hstays⟩
      rw [zero_add, add_zero]
    | count user k =>
      refine ⟨{.count user k} + r, r₂ + 0, hlater 0 labelled_nil, ?_, hwritten.count user k hticks⟩
      rw [add_zero, add_left_comm, add_assoc]
    | pickUp user timestamp hu =>
      refine ⟨_, r₂ + 0, hlater 0 labelled_nil, ?_, hwritten.pickUp user timestamp hu hticks⟩
      rw [add_zero, add_left_comm, add_assoc]

/-- A new call keeps the ledger: `onUserJoined` starts exactly the counts and times of the answer it
records, without a write of its own, and no other action owes anything. -/
theorem Ledger.call {a : Action} {ticks : ℕ → Tick} (h : Ledger s)
    (he : Keeping unanswered s.config (.call a ticks)) : Ledger (step who s (.call a ticks)) := by
  have hprovides := provides staying s.config (.call a ticks) h.kept he
  refine ⟨System.apply_kept h.kept hprovides, ?_⟩
  have hstays : staying.rely s.config.world (calling.apply s.config (.call a ticks)).world :=
    (System.outcome_kept h.kept hprovides).le.2
  obtain ⟨r, r', hlabelled, hsum, hwritten⟩ := h.written
  by_cases ha : ∃ k remoteUid, a = .onUserJoined k remoteUid
  · obtain ⟨k, remoteUid, rfl⟩ := ha
    obtain ⟨hstore, hdues⟩ := leaves_onUserJoined who k remoteUid ticks .idle s.config.world
    refine ⟨r, _, System.labelled_call hlabelled hdues, ?_, hwritten.of_store hstore⟩
    rw [step, answerAt, List.map_append, List.sum_append, hsum, add_assoc]
    cases answer who s.config.world k remoteUid ticks with
    | none => rfl
    | some a => simp
  · have hnone : answerAt who s.config (.call a ticks) = none := by
      cases a with
      | onUserJoined k remoteUid => exact absurd ⟨k, remoteUid, rfl⟩ ha
      | _ => rfl
    have hall := all_unanswering fun k remoteUid heq => ha ⟨k, remoteUid, heq⟩
    obtain ⟨hrel, hnothing⟩ := run_unanswering hall.task ticks .idle 0 s.config.world (ticks 0)
    refine ⟨r, r' + 0, System.labelled_call hlabelled hnothing, ?_, hwritten.unanswering hrel hstays⟩
    rw [step, hnone, Option.toList_none, List.append_nil, hsum, add_zero]

/-! ## Runs -/

variable {es : List (Event Action)}

/-- Every answer is the only one to its call. -/
structure Soles (answers : List Answer) : Prop where
  each : ∀ a ∈ answers, a.ByCallee ∧ a.reached = [a.joined]
  apart : answers.Pairwise fun a b => a.timestamp = b.timestamp →
    ∀ user ∈ [b.caller, b.joined], user ∉ [a.caller, a.joined]

theorem soles_nil : Soles [] := ⟨fun _ ha => absurd ha List.not_mem_nil, .nil⟩

/-- An answer that is the only one of its call so far may be recorded with the others. -/
theorem Soles.append {answers : List Answer} (h : Soles answers) {o : Option Answer}
    (ho : ∀ a ∈ o, a.Sole answers) : Soles (answers ++ o.toList) := by
  cases o with
  | none =>
    rw [Option.toList_none, List.append_nil]
    exact h
  | some a =>
    obtain ⟨hcallee, hreached, hapart⟩ := ho a rfl
    refine ⟨fun b hb => ?_, List.pairwise_append.mpr ⟨h.apart, List.pairwise_singleton _ a, ?_⟩⟩
    · obtain hb | hb := List.mem_append.mp hb
      · exact h.each b hb
      · rw [List.mem_singleton.mp hb]
        exact ⟨hcallee, hreached⟩
    · intro b hb a' ha' htime
      obtain rfl := List.mem_singleton.mp ha'
      exact hapart b hb htime

/-- Two answers that have a document in common are the same. -/
theorem Soles.eq_of_mem {answers : List Answer} (h : Soles answers) {a b : Answer}
    (ha : a ∈ answers) (hb : b ∈ answers) (htime : a.timestamp = b.timestamp) {user : String}
    (hmem : user ∈ [a.caller, a.joined]) (hmem' : user ∈ [b.caller, b.joined]) : a = b := by
  have hsymm : Std.Symm fun a b : Answer => a.timestamp = b.timestamp →
      ∀ user ∈ [b.caller, b.joined], user ∉ [a.caller, a.joined] :=
    ⟨fun a b hab htime user hmem hmem' => hab htime.symm user hmem' hmem⟩
  by_contra hne
  exact h.apart.forall ha hb hne htime user hmem' hmem

/-- The answers are to different calls. -/
theorem Soles.nodup {answers : List Answer} (h : Soles answers) : (answers.map Answer.call).Nodup := by
  rw [List.Nodup, List.pairwise_map]
  refine h.apart.imp fun {a b} hapart heq => ?_
  obtain ⟨hcaller, htime⟩ := Prod.mk.inj heq
  refine hapart htime b.caller (List.mem_cons_self ..) ?_
  rw [← hcaller]
  exact List.mem_cons_self ..

/-- The ledger over a run: from a start on which nothing is owed, every event keeps it, so that
after any orderly run the counters are those of the answers recorded, up to what is still under way.
-/
theorem ledger_run {users : String → Option User} {session : ℕ → User}
    {agoraToken : ℕ → Option String}
    (h : Each (step who) (Orderly who) { config := start users session agoraToken } es)
    (hsucceeds : ∀ e ∈ es, e.Succeeds) :
    Ledger (run who (start users session agoraToken) es) ∧
      Soles (run who (start users session agoraToken) es).answers := by
  refine Each.inv (I := fun s => Ledger s ∧ Soles s.answers) ?_ (each_and.mpr ⟨h, hsucceeds⟩) ?_
  · rintro s e ⟨hledger, hsoles⟩ ⟨⟨hkept, hsole⟩, hticks⟩
    refine ⟨?_, hsoles.append hsole⟩
    cases e with
    | call a ticks => exact hledger.call hkept
    | resume i ticks => exact hledger.resume hkept (hticks 0)
  · have hlabelled : (start users session agoraToken).Labelled (Owing ·.task) 0 := labelled_nil
    exact ⟨⟨kept_start staying trivial, 0, 0, hlabelled, rfl, written_initial⟩, soles_nil⟩

/-- As many of the answers are of a kind as there are calls with such an answer. -/
theorem Soles.length_callsOf {answers : List Answer} (h : Soles answers) (p : Answer → Prop)
    [DecidablePred p] : (callsOf (answers.filter p)).length =
      (answers.map fun a => if p a then 1 else 0).sum := by
  have hcallees : (answers.filter p).filter (·.ByCallee) = answers.filter p :=
    List.filter_eq_self.mpr fun a ha => decide_eq_true (h.each a (List.mem_of_mem_filter ha)).1
  have hnodup : ((answers.filter p).map Answer.call).Nodup :=
    h.nodup.sublist (List.filter_sublist.map Answer.call)
  rw [callsOf, hcallees, hnodup.dedup, List.length_map]
  clear h hcallees hnodup
  induction answers with
  | nil => rfl
  | cons a answers ih =>
    rw [List.map_cons, List.sum_cons, ← ih, List.filter_cons]
    by_cases hp : p a
    · simp only [hp, decide_true, if_true, List.length_cons]
      exact Nat.add_comm _ _
    · simp [hp]

/-- What an answer by the one who is reached writes. -/
theorem dues_of_reached {a : Answer} (h : a.reached = [a.joined]) : a.dues =
    duesOf a.timestamp (made a.isVideo) a.caller (a.ticks 3).now +
      duesOf a.timestamp (received a.isVideo) a.joined (a.ticks 5).now := by
  rw [Answer.dues, h, duesOfReached, duesOfReached, add_zero]

theorem made_inj (v v' : Bool) : made v = made v' ↔ v = v' := by decide +revert

theorem received_inj (v v' : Bool) : received v = received v' ↔ v = v' := by decide +revert

theorem made_ne_received (v v' : Bool) : made v ≠ received v' := by decide +revert

theorem count_duesOf (timestamp : ℕ) (k k' : Key) (user user' : String) (time : ℕ) :
    (duesOf timestamp k user time).count (.count user' k') = if user = user' ∧ k = k' then 1 else 0 := by
  have hpickUp : Due.count user' k' ≠ .pickUp user timestamp time := by simp
  rw [duesOf, Multiset.count_add, Multiset.count_singleton, Multiset.count_singleton, if_neg hpickUp,
    Nat.zero_add]
  simp only [Due.count.injEq, eq_comm]

theorem count_made {a : Answer} (h : a.reached = [a.joined]) (user : String) (isVideo : Bool) :
    a.dues.count (.count user (made isVideo)) =
      if a.caller = user ∧ a.isVideo = isVideo then 1 else 0 := by
  have hother := (made_ne_received isVideo a.isVideo).symm
  simp only [dues_of_reached h, Multiset.count_add, count_duesOf, made_inj, hother, and_false, if_false,
    Nat.add_zero]

theorem count_received {a : Answer} (h : a.reached = [a.joined]) (user : String) (isVideo : Bool) :
    a.dues.count (.count user (received isVideo)) =
      if a.joined = user ∧ a.isVideo = isVideo then 1 else 0 := by
  have hother := made_ne_received a.isVideo isVideo
  simp only [dues_of_reached h, Multiset.count_add, count_duesOf, received_inj, hother, and_false,
    if_false, Nat.zero_add]

theorem pickUp_mem_duesOf {timestamp timestamp' time time' : ℕ} {k : Key} {user user' : String} :
    .pickUp user' timestamp' time' ∈ duesOf timestamp k user time ↔
      user' = user ∧ timestamp' = timestamp ∧ time' = time := by
  simp [duesOf]

/-- The history documents that an answer writes, with a reading of the clock. -/
theorem pickUp_mem {a : Answer} (h : a.reached = [a.joined]) {user : String} {timestamp time : ℕ}
    (hmem : .pickUp user timestamp time ∈ a.dues) :
    user ∈ [a.caller, a.joined] ∧ timestamp = a.timestamp ∧ ∃ n, time = (a.ticks n).now := by
  rw [dues_of_reached h, Multiset.mem_add, pickUp_mem_duesOf, pickUp_mem_duesOf] at hmem
  obtain ⟨rfl, rfl, rfl⟩ | ⟨rfl, rfl, rfl⟩ := hmem
  · exact ⟨List.mem_cons_self .., rfl, 3, rfl⟩
  · exact ⟨List.mem_cons_of_mem _ (List.mem_cons_self ..), rfl, 5, rfl⟩

theorem exists_pickUp {a : Answer} (h : a.reached = [a.joined]) {user : String}
    (huser : user ∈ [a.caller, a.joined]) : ∃ time, .pickUp user a.timestamp time ∈ a.dues := by
  rw [dues_of_reached h]
  obtain rfl | hjoined := List.mem_cons.mp huser
  · refine ⟨(a.ticks 3).now, Multiset.mem_add.mpr (Or.inl ?_)⟩
    exact pickUp_mem_duesOf.mpr ⟨rfl, rfl, rfl⟩
  · refine ⟨(a.ticks 5).now, Multiset.mem_add.mpr (Or.inr ?_)⟩
    exact pickUp_mem_duesOf.mpr ⟨List.mem_singleton.mp hjoined, rfl, rfl⟩

/-- How often something is written by the answers. -/
theorem count_dues (answers : List Answer) (d : Due) :
    (answers.map Answer.dues).sum.count d = (answers.map fun a => a.dues.count d).sum := by
  induction answers with
  | nil => rfl
  | cons a answers ih =>
    rw [List.map_cons, List.map_cons, List.sum_cons, List.sum_cons, Multiset.count_add, ih]

theorem mem_dues {answers : List Answer} {d : Due} :
    d ∈ (answers.map Answer.dues).sum ↔ ∃ a ∈ answers, d ∈ a.dues := by
  induction answers with
  | nil => simp
  | cons a answers ih => rw [List.map_cons, List.sum_cons, Multiset.mem_add, ih, List.exists_mem_cons_iff]

/-- **Counters**: in every run in which no write fails, every call is answered once, by the one user
whose counter goes up, and nothing that clears `started` is carried on after that, the counters
count the calls that have been answered and `started` is the time of the answer, once everything has
been written. -/
theorem calls_counted {users : String → Option User} {session : ℕ → User}
    {agoraToken : ℕ → Option String}
    (h : Each (step who) (Orderly who) { config := start users session agoraToken } es)
    (hsucceeds : ∀ e ∈ es, e.Succeeds)
    (hsettled : (run who (start users session agoraToken) es).config.Settled) :
    Counted (run who (start users session agoraToken) es).answers
      (run who (start users session agoraToken) es).config.world := by
  obtain ⟨⟨-, r, r', hlabelled, hsum, hwritten⟩, hsoles⟩ := ledger_run h hsucceeds
  generalize run who (start users session agoraToken) es = s at *
  obtain rfl := hlabelled.settled hsettled
  rw [add_zero] at hsum
  subst hsum
  have hreached : ∀ a ∈ s.answers, a.reached = [a.joined] := fun a ha => (hsoles.each a ha).2
  refine ⟨fun user isVideo => ?_, fun user isVideo => ?_, ?_⟩
  · rw [hwritten.counter, count_dues, hsoles.length_callsOf]
    exact congrArg List.sum (List.map_congr_left fun a ha => count_made (hreached a ha) user isVideo)
  · rw [hwritten.counter, count_dues, hsoles.length_callsOf]
    exact congrArg List.sum
      (List.map_congr_left fun a ha => count_received (hreached a ha) user isVideo)
  · intro a ha _ first hfirst user huser
    have hsame : first = a := by
      rw [firstAnswer] at hfirst
      have hcall := List.find?_some hfirst
      exact List.inj_on_of_nodup_map hsoles.nodup (List.mem_of_find?_eq_some hfirst) ha
        (of_decide_eq_true hcall).1
    obtain ⟨time, htime⟩ := exists_pickUp (hreached a ha) huser
    obtain ⟨time', hmem, hstarted⟩ :=
      hwritten.started user a.timestamp time (mem_dues.mpr ⟨a, ha, htime⟩)
    -- what has been written there last is the answer's own
    obtain ⟨b, hb, hmem⟩ := mem_dues.mp hmem
    obtain ⟨huser', htimestamp, n, rfl⟩ := pickUp_mem (hreached b hb) hmem
    obtain rfl := hsoles.eq_of_mem ha hb htimestamp huser huser'
    exact ⟨n, hsame ▸ hstarted⟩

/-! ## Two runs -/

theorem succeeds_alone {time : ℕ} {a : Action} : ∀ e ∈ alone time a, e.Succeeds :=
  List.forall_mem_cons.mpr ⟨fun _ => rfl, Event.succeeds_replicate fun _ => rfl⟩

theorem succeeds_bobAnswers (isVideoCall : Bool) : ∀ e ∈ bobAnswers isVideoCall, e.Succeeds := by
  rw [bobAnswers, aliceCallsBob]
  simp only [List.forall_mem_append]
  exact ⟨⟨⟨succeeds_alone, succeeds_alone⟩, succeeds_alone⟩, succeeds_alone⟩

/-- Bob's are all identifiers of the engine but Alice's. -/
def bobs : ℕ → String := fun _ => "bob"

/-- Alice calls Bob, who answers. -/
theorem calls_counted_bobAnswers :
    Counted (run bobs threeUsers (bobAnswers false)).answers
      (run bobs threeUsers (bobAnswers false)).config.world :=
  calls_counted (by decide +kernel) (succeeds_bobAnswers false) (by decide +kernel)

/-- Bob loses the connection and joins again: the one call of Alice's counts twice. -/
theorem answer_counted_twice :
    Each (step bobs) (fun s e => calling.admits s.config e) { config := threeUsers }
      (bobAnswers false ++ alone 8000000 (.onUserOffline 0) ++ alone 9000000 (.onUserJoined 0 43)) ∧
    (run bobs threeUsers (bobAnswers false ++ alone 8000000 (.onUserOffline 0) ++
      alone 9000000 (.onUserJoined 0 43))).config.Settled ∧
    ¬ Counted
      (run bobs threeUsers (bobAnswers false ++ alone 8000000 (.onUserOffline 0) ++
        alone 9000000 (.onUserJoined 0 43))).answers
      (run bobs threeUsers (bobAnswers false ++ alone 8000000 (.onUserOffline 0) ++
        alone 9000000 (.onUserJoined 0 43))).config.world := by
  refine ⟨by decide +kernel, by decide +kernel, fun h => ?_⟩
  have hmade := h.made "alice" false
  revert hmade
  decide +kernel

end FlutterTheme.Calls.Counters
