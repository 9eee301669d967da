import FlutterTheme.Actions
import FlutterTheme.Calls

/-!
# What is done to the pending calls

A walk through the handlers of calls, whatever the world: an action makes one of the writes
`CallingWrite` to `calling`, or leaves the documents there as they are (`Apart`). Only placing
a call and ending one make such writes; the screens and the engine, the notifications and the
history of calls are apart.

The walk is the same for all deeds that allow what the handlers do (`Allows`); only the callbacks
of a participant who joins answer a call (`AllowsAnswers`).
-/

namespace FlutterTheme.Calls

open EventLoop DocStore

/-- The documents of `calling` are left as they are. -/
structure Apart (w w' : World) : Prop where
  calling : ∀ u, w'.store.docs (.calling u) = w.store.docs (.calling u)
  users : w'.users = w.users
  /-- identifiers may be generated for documents elsewhere -/
  next : w.store.next ≤ w'.store.next

theorem Apart.refl (w : World) : Apart w w := ⟨fun _ => rfl, rfl, Nat.le_refl _⟩

/-- A write to `calling`. -/
inductive CallingWrite : Type where
  /-- a document of a call that is placed -/
  | add (user : String) (call : Call) (hasDialled : Bool) : CallingWrite
  /-- the first document of a party is deleted -/
  | delete (user : String) (id : DocId) : CallingWrite
  /-- the end of a call to a group -/
  | ended (user : String) (timestamp time : ℕ) (nameList : String) : CallingWrite

/-- The store after the write; `pos` is where a new document sorts. -/
def CallingWrite.apply (s : Store Path Key Value) (pos : ℕ) : CallingWrite → Store Path Key Value
  | add user call hasDialled => s.add (.calling user) pos (callingFields call hasDialled)
  | delete user id => s.delete (.calling user) id
  | ended user timestamp time nameList =>
    s.setMerge (.calling user) (toString timestamp) pos (.ofList [
      (.status, .str "ended"), (.ended, .time time), (.callName, .str nameList)])

/-- What a single action of a handler does that makes the writes `W` to `calling`. -/
inductive CallDeed (W : CallingWrite → Prop) (t : Tick) (w : World) : World → Prop where
  | apart {w' : World} (h : Apart w w') : CallDeed W t w w'
  | write (op : CallingWrite) (permitted : W op) :
      CallDeed W t w { w with store := op.apply w.store t.pos }

/-- The actions of handlers that make the writes `W` to `calling`. -/
def deeds (W : CallingWrite → Prop) : Deeds World where
  rel := CallDeed W
  refl _ w := .apart (.refl w)

variable {W : CallingWrite → Prop}

/-- The fields do not answer a call: they leave `started` alone, or set it to null. -/
def Unanswering (u : Data) : Prop := u .started = none ∨ u .started = some .null

/-- The deeds allow a write to `calling`. -/
def Writes (D : Deeds World) (op : CallingWrite) : Prop :=
  ∀ t w, D.rel t w { w with store := op.apply w.store t.pos }

/-- The deeds allow that the fields are written into the history documents of a user. -/
def Files (D : Deeds World) (user : String) (u : Data) : Prop :=
  ∀ (timestamp : ℕ) (t : Tick) (w : World),
    D.rel t w { w with store := w.store.setMerge (.history user) (toString timestamp) t.pos u }

/-- The deeds allow what all handlers do that answer no call. -/
class Allows (D : Deeds World) : Prop where
  /-- nothing is stored, and no user changes -/
  other : ∀ {t : Tick} {w w' : World}, w'.store = w.store → w'.users = w.users → D.rel t w w'
  files : ∀ {user : String} {u : Data}, Unanswering u → Files D user u
  blank : ∀ {t : Tick} {w : World} {user : String},
    D.rel t w { w with store := w.store.add (.history user) t.pos .empty }

/-- The deeds allow what is done when a call is answered. -/
class AllowsAnswers (D : Deeds World) : Prop where
  files : ∀ {user : String} {u : Data}, Files D user u
  count : ∀ {t : Tick} {w : World} {id : String} {u : Data},
    D.rel t w { w with store := w.store.setMerge .calls id t.pos u }

/-- Nothing is stored, and no user changes. -/
theorem deed_of_store {t : Tick} {w w' : World} (hstore : w'.store = w.store)
    (husers : w'.users = w.users) : CallDeed W t w w' :=
  .apart ⟨fun _ => by rw [hstore], husers, by rw [hstore]⟩

/-- A document under a chosen identifier of another collection is written. -/
theorem deed_setMerge {p : Path} (hp : ∀ u, .calling u ≠ p) (t : Tick) (w : World) (name : String)
    (u : Data) : CallDeed W t w { w with store := w.store.setMerge p name t.pos u } := by
  refine .apart ⟨fun v => Store.docs_setMerge_of_ne (hp v), rfl, ?_⟩
  simp only [Store.setMerge]
  split <;> exact Nat.le_refl _

theorem writes_deeds {op : CallingWrite} (h : W op) : Writes (deeds W) op := fun _ _ => .write op h

instance : Allows (deeds W) where
  other := deed_of_store
  files _ _ t w := deed_setMerge (by simp) t w ..
  blank {_ w _} := .apart ⟨fun _ => Store.docs_add_of_ne nofun, rfl, Nat.le_succ w.store.next⟩

instance : AllowsAnswers (deeds W) where
  files _ t w := deed_setMerge (by simp) t w ..
  count := deed_setMerge (by simp) ..

/-! ## Operations -/

section Plain

variable {D : Deeds World}

theorem all_now : now.All D := Async.all_sync D.refl

theorem all_callCtrl {k : ℕ} : (callCtrl k).All D := Async.all_get

theorem all_sessionUser {d : ℕ} : (sessionUser d).All D := Async.all_get

theorem all_engine : engine.All D := Async.all_remote D.refl

theorem all_currentCall {s : CallController} : (currentCall s).All D := by
  unfold currentCall
  split
  · split
    · exact Async.all_pure
    · exact Async.all_throw
  · exact Async.all_throw

/-- The call of the controller of a screen. -/
theorem all_ctrlCall {k : ℕ} {f : CallController → Call × Ids → Handler Unit}
    (hf : ∀ s x, (f s x).All D) :
    (do let s ← callCtrl k; let x ← currentCall s; f s x : Handler Unit).All D :=
  Async.all_bind all_callCtrl fun s => Async.all_bind all_currentCall fun x => hf s x

theorem all_getFirst {p : Path} {k : Key} {v : String} : (getFirst p k v).All D :=
  Async.all_attempt D.refl

theorem all_readToken {d : ℕ} : (readToken d).All D := by
  refine Async.all_bind Async.all_get fun token => ?_
  split
  · exact Async.all_pure
  · exact Async.all_throw

theorem all_offeredCall {d : ℕ} : (offeredCall d).All D := by
  refine Async.all_bind all_sessionUser fun user => ?_
  refine Async.all_bind (Async.all_remote D.refl) fun docs => ?_
  split
  · exact Async.all_pure
  · simp only
    split
    · exact Async.all_throw
    · exact Async.all_pure
    · exact Async.all_pure

theorem all_onCtrl {k : ℕ} {audio video : Handler Unit} (haudio : audio.All D)
    (hvideo : video.All D) : (onCtrl k audio video).All D :=
  Async.all_bind all_callCtrl fun _ => Async.all_ite hvideo haudio

/-- The end of a call is written unless it has ended already. -/
theorem all_unlessEnded {k : ℕ} {f : CallController → Call × Ids → Handler Unit}
    (hf : ∀ s x, (f s x).All D) :
    (do
      let s ← callCtrl k
      if s.isAlreadyEnded = false then do let x ← currentCall s; f s x
      else pure () : Handler Unit).All D :=
  Async.all_bind all_callCtrl fun s =>
    Async.all_ite (Async.all_bind all_currentCall fun x => hf s x) Async.all_pure

/-- A document of a call. -/
theorem all_addCalling {user : String} {call : Call} {hasDialled : Bool}
    (h : Writes D (.add user call hasDialled)) :
    (add (.calling user) (callingFields call hasDialled)).All D :=
  Async.all_remote fun t w => h t w

theorem all_deleteFirst {user : String} {party : Key} (h : ∀ id, Writes D (.delete user id)) :
    (deleteFirst user party).All D := by
  refine Async.all_bind all_getFirst fun value => ?_
  match value with
  | none => exact Async.all_pure
  | some none => exact Async.all_pure
  | some (some doc) =>
    refine Async.all_bind (Async.all_spawn (Async.all_remote fun t w => ?_)) fun _ => Async.all_pure
    exact h doc.id t w

/-- The end of a call to a group starts a write below each member, which nobody waits for and which
may fail. By recursion on the members. -/
theorem all_endCalling {timestamp time : ℕ} {nameList : String}
    (h : ∀ user, Writes D (.ended user timestamp time nameList)) :
    ∀ {receiver : List Member}, (endCalling timestamp time nameList receiver).All D
  | [] => Async.all_pure
  | element :: _ => by
    refine Async.all_bind (Async.all_spawn (Async.all_bind Async.all_pause fun _ =>
      Async.all_sync fun t w => ?_)) fun _ => all_endCalling h
    simp only
    split
    · exact D.refl t w
    · exact h element.id t w

theorem all_audioEndCall {ids : Ids} (hdelete : ∀ user id, Writes D (.delete user id)) :
    (AudioCall.endCall ids).All D :=
  Async.all_bind (all_deleteFirst (hdelete _)) fun _ =>
    Async.all_ite (all_deleteFirst (hdelete _)) Async.all_pure

theorem all_videoEndCall {call : Call} {ids : Ids}
    (hdelete : ∀ user id, Writes D (.delete user id)) : (VideoCall.endCall call ids).All D := by
  unfold VideoCall.endCall
  split
  · refine Async.all_bind (Async.all_forEach fun element _ => ?_) fun _ =>
      all_deleteFirst (hdelete _)
    exact Async.all_bind (all_deleteFirst (hdelete _)) fun _ => Async.all_pure
  · exact all_audioEndCall hdelete

theorem all_writeHistory [Allows D] {writer : Writer} {user : String} {timestamp : ℕ} {u : Data}
    (h : Files D user u) : (writeHistory writer user timestamp u).All D := by
  refine Async.all_bind (Async.all_modify fun _ _ => Allows.other rfl rfl) fun _ => ?_
  refine Async.all_spawn (Async.all_bind Async.all_enter fun _ => ?_)
  refine Async.all_bind Async.all_pause fun _ => Async.all_sync fun t w => ?_
  simp only
  split
  · exact D.refl t w
  · exact h timestamp t w

section Files

variable [Allows D] {user receiverId type status : String} {name : Option String} {ended : Value}

theorem files_callerRecord {call : Call} : Files D user (callerRecord call type status name ended) :=
  Allows.files (Or.inr rfl)

theorem files_receiverRecord {call : Call} :
    Files D user (receiverRecord call receiverId type status name ended) :=
  Allows.files (Or.inr rfl)

theorem files_endedFields {time : ℕ} : Files D user (endedFields time) := Allows.files (Or.inl rfl)

end Files

theorem all_increment [AllowsAnswers D] {id : String} {k : Key} : (increment id k).All D := by
  refine Async.all_spawn (Async.all_bind Async.all_pause fun _ => Async.all_sync fun t w => ?_)
  simp only
  split
  · exact D.refl t w
  · exact AllowsAnswers.count

end Plain

variable {D : Deeds World} [Allows D]

theorem all_modifyCtrl {k : ℕ} {f : CallController → CallController} :
    (modifyCtrl k f).All D :=
  Async.all_modify fun _ _ => Allows.other rfl rfl

theorem all_putCtrl {d : ℕ} {isVideo : Bool} : (putCtrl d isVideo).All D := by
  refine Async.all_sync fun t w => ?_
  split
  · exact D.refl t w
  · exact Allows.other rfl rfl

theorem all_removeCtrl {d : ℕ} {isVideo : Bool} : (removeCtrl d isVideo).All D :=
  Async.all_modify fun _ _ => Allows.other rfl rfl

theorem all_sendNotification {n : Notification} : (sendNotification n).All D :=
  Async.all_spawn (Async.all_bind (Async.all_attempt fun _ _ => Allows.other rfl rfl)
    fun _ => Async.all_pure)

theorem all_awaitHistory {writer : Writer} {user : String} {timestamp : ℕ} {u : Data}
    (h : Files D user u) : (awaitHistory writer user timestamp u).All D := by
  refine Async.all_bind (Async.all_modify fun _ _ => Allows.other rfl rfl) fun _ => ?_
  refine Async.all_bind Async.all_enter fun _ => ?_
  exact Async.all_bind (Async.all_remote fun t w => h timestamp t w) fun _ => Async.all_enter

theorem all_addBlank {user : String} : (add (.history user) .empty).All D :=
  Async.all_remote fun _ _ => Allows.blank

/-! ## The screens -/

theorem all_joinChannel {k : ℕ} : (joinChannel k).All D := by
  refine Async.all_remote fun t w => ?_
  simp only
  split
  · exact Allows.other rfl rfl
  · exact D.refl t w

/-- The token is read and the channel joined. -/
theorem all_joinWithToken {k : ℕ} :
    (do let s ← callCtrl k; readToken s.device; joinChannel k : Handler Unit).All D :=
  Async.all_bind all_callCtrl fun _ => Async.all_bind all_readToken fun _ => all_joinChannel

theorem all_audioInitAgora {k : ℕ} : (AudioCall.initAgora k).All D := by
  refine Async.all_bind all_engine fun _ => ?_
  refine Async.all_bind all_engine fun _ => ?_
  exact Async.all_bind all_engine fun _ => all_joinWithToken

theorem all_videoInitAgora {k : ℕ} : (VideoCall.initAgora k).All D := by
  refine Async.all_bind all_engine fun _ => ?_
  refine Async.all_bind all_engine fun _ => ?_
  refine Async.all_bind all_engine fun _ => ?_
  refine Async.all_bind all_engine fun _ => ?_
  exact Async.all_bind all_engine fun _ => all_joinWithToken

variable {channelName : Option String} {call : Call}

theorem all_setArguments {k : ℕ} : (setArguments k channelName call).All D := by
  refine Async.all_bind all_callCtrl fun _ => ?_
  exact Async.all_bind all_sessionUser fun _ => all_modifyCtrl

theorem all_audioOnReady {k : ℕ} : (AudioCall.onReady k channelName call).All D := by
  refine Async.all_bind all_setArguments fun _ => ?_
  exact Async.all_bind all_engine fun _ => all_audioInitAgora

theorem all_audioOpen {d : ℕ} : (AudioCall.open d channelName call).All D := by
  refine Async.all_bind all_putCtrl fun x => ?_
  refine Async.all_bind all_setArguments fun _ => ?_
  refine Async.all_bind (Async.all_spawn all_audioOnReady) fun _ => ?_
  exact Async.all_ite (Async.all_spawn all_audioOnReady) Async.all_pure

theorem all_videoOpen {d : ℕ} : (VideoCall.open d channelName call).All D := by
  refine Async.all_bind all_putCtrl fun x => ?_
  refine Async.all_bind all_setArguments fun _ => ?_
  refine Async.all_bind (Async.all_spawn all_videoInitAgora) fun _ => ?_
  exact Async.all_ite all_setArguments Async.all_pure

theorem all_toCall {d : ℕ} {isVideo : Bool} : (toCall d isVideo channelName call).All D :=
  Async.all_ite all_videoOpen all_audioOpen

/-! ## The callbacks of the engine -/

theorem all_writeEach {writer : Writer} {timestamp : ℕ} {u : String → Data}
    (h : ∀ user, Files D user (u user)) :
    ∀ {users : List String}, (writeEach writer timestamp users u).All D
  | [] => Async.all_pure
  | _ :: _ => Async.all_bind (all_writeHistory (h _)) fun _ => all_writeEach h

theorem all_endEach {writer : Writer} {timestamp : ℕ} :
    ∀ {users : List String}, (endEach writer timestamp users).All D
  | [] => Async.all_pure
  | _ :: _ => Async.all_bind all_now fun _ =>
      Async.all_bind (all_writeHistory files_endedFields) fun _ => all_endEach

theorem all_audioJoin {k : ℕ} : (AudioCall.onJoinChannelSuccess k).All D := by
  refine Async.all_bind all_modifyCtrl fun _ => all_ctrlCall fun s x => ?_
  refine Async.all_ite (Async.all_bind (all_writeHistory files_callerRecord) fun _ => ?_) Async.all_pure
  exact all_writeHistory files_receiverRecord

theorem all_videoJoin {k : ℕ} : (VideoCall.onJoinChannelSuccess k).All D := by
  refine Async.all_bind all_modifyCtrl fun _ => all_ctrlCall fun s x => ?_
  refine Async.all_bind all_modifyCtrl fun _ => ?_
  refine Async.all_ite (Async.all_bind (all_writeHistory files_callerRecord) fun _ => ?_) Async.all_pure
  exact all_writeEach fun _ => files_receiverRecord

section Answers

variable [AllowsAnswers D]

theorem all_pickedUpEach {timestamp : ℕ} :
    ∀ {users : List String}, (pickedUpEach timestamp users).All D
  | [] => Async.all_pure
  | _ :: _ => Async.all_bind all_now fun _ =>
      Async.all_bind (all_writeHistory AllowsAnswers.files) fun _ =>
        Async.all_bind all_increment fun _ => all_pickedUpEach

theorem all_audioUserJoined {k uid : ℕ} : (AudioCall.onUserJoined k uid).All D := by
  refine Async.all_bind all_modifyCtrl fun _ => all_ctrlCall fun s x => ?_
  refine Async.all_ite (Async.all_bind all_now fun _ => ?_) Async.all_pure
  refine Async.all_bind (all_writeHistory AllowsAnswers.files) fun _ => ?_
  refine Async.all_bind all_now fun _ => ?_
  refine Async.all_bind (all_writeHistory AllowsAnswers.files) fun _ => ?_
  exact Async.all_bind all_increment fun _ => all_increment

theorem all_videoUserJoined {k uid : ℕ} : (VideoCall.onUserJoined k uid).All D := by
  refine Async.all_bind all_modifyCtrl fun _ => all_ctrlCall fun s x => ?_
  refine Async.all_ite (Async.all_bind all_now fun _ => ?_) Async.all_pure
  refine Async.all_bind (all_writeHistory AllowsAnswers.files) fun _ => ?_
  exact Async.all_bind all_increment fun _ => all_pickedUpEach

end Answers

theorem all_audioUserOffline {k : ℕ} : (AudioCall.onUserOffline k).All D :=
  Async.all_bind all_modifyCtrl fun _ => all_unlessEnded fun _ _ => all_endEach

theorem all_videoUserOffline {k : ℕ} : (VideoCall.onUserOffline k).All D :=
  Async.all_bind all_modifyCtrl fun _ => all_unlessEnded fun _ _ => all_endEach

theorem all_audioLeaveChannel {k : ℕ} : (AudioCall.onLeaveChannel k).All D :=
  Async.all_bind all_modifyCtrl fun _ => all_unlessEnded fun _ _ => all_endEach

theorem all_videoLeaveChannel {k : ℕ} : (VideoCall.onLeaveChannel k).All D :=
  Async.all_bind all_modifyCtrl fun _ => all_unlessEnded fun _ _ =>
    Async.all_bind (Async.all_spawn all_addBlank) fun _ => all_endEach

theorem all_toggleMute {k : ℕ} : (onToggleMute k).All D :=
  Async.all_bind all_modifyCtrl fun _ => all_ctrlCall fun _ _ =>
    all_writeHistory (Allows.files (Or.inl rfl))

/-! ## Placing and ending a call -/

/-- What `onCallEnd` of the audio controller does after `endCall`. -/
theorem all_audioEnded {k time : ℕ} :
    (do
      let s ← callCtrl k
      let (call, ids) ← currentCall s
      let later ← now
      writeHistory (.onCallEnd false) ids.callerId ids.timestamp
        (callerRecord call "outGoing" "ended" call.callerName (.time later))
      writeHistory (.onCallEnd false) ids.receiverId ids.timestamp
        (receiverRecord call ids.receiverId "inComing" "ended" call.callerName
          (.time time)) : Handler Unit).All D :=
  all_ctrlCall fun _ _ => Async.all_bind all_now fun _ =>
    Async.all_bind (all_writeHistory files_callerRecord) fun _ =>
      all_writeHistory files_receiverRecord

/-- What `onCallEnd` of the video controller does after `endCall`. -/
theorem all_videoEnded {k : ℕ} (h : ∀ user timestamp time nameList,
      Writes D (.ended user timestamp time nameList)) :
    (do
      let time ← now
      let s ← callCtrl k
      let (call, ids) ← currentCall s
      match call.receiver with
      | some receiver => endCalling ids.timestamp time s.nameList receiver
      | none => do
        writeHistory (.onCallEnd true) ids.callerId ids.timestamp (endedFields time)
        writeHistory (.onCallEnd true) ids.receiverId ids.timestamp (endedFields time)
      modifyCtrl k fun s =>
        { s with remoteUId := none, channelName := some "" } : Handler Unit).All D := by
  refine Async.all_bind all_now fun time => all_ctrlCall fun s x => ?_
  simp only
  split
  · exact Async.all_bind (all_endCalling fun user => h user _ _ _) fun _ => all_modifyCtrl
  · refine Async.all_bind (all_writeHistory files_endedFields) fun _ => ?_
    exact Async.all_bind (all_writeHistory files_endedFields) fun _ => all_modifyCtrl

theorem all_placeCall {d : ℕ} {userData toData : User} {isVideoCall : Bool}
    (h : ∀ user hasDialled, Writes D (.add user call hasDialled)) :
    (placeCall d userData toData call isVideoCall).All D := by
  refine Async.all_bind (Async.all_modify fun _ _ => Allows.other rfl rfl) fun _ => ?_
  refine Async.all_bind (all_addCalling (h _ _)) fun _ => ?_
  refine Async.all_bind (all_addCalling (h _ _)) fun _ => ?_
  exact Async.all_bind all_sendNotification fun _ => all_toCall

section Ending

variable (hdelete : ∀ user id, Writes D (.delete user id))
include hdelete

theorem all_audioCallEnd {k : ℕ} : (AudioCall.onCallEnd k).All D := by
  refine Async.all_bind all_now fun time => all_ctrlCall fun s x => ?_
  refine Async.all_ite (Async.all_bind (all_awaitHistory files_endedFields) fun _ => ?_) ?_
  · exact all_awaitHistory files_endedFields
  · exact Async.all_bind (all_audioEndCall hdelete) fun _ => all_audioEnded

theorem all_rejectCall {d : ℕ} {ids : Ids} : (rejectCall d call ids).All D := by
  refine Async.all_bind all_putCtrl fun _ => ?_
  refine Async.all_bind (all_videoEndCall hdelete) fun _ => ?_
  refine Async.all_bind all_now fun _ => ?_
  refine Async.all_bind (all_writeHistory files_callerRecord) fun _ => ?_
  exact Async.all_bind all_now fun _ => all_writeHistory files_receiverRecord

variable (hended : ∀ user timestamp time nameList, Writes D (.ended user timestamp time nameList))
include hended

theorem all_videoCallEnd {k : ℕ} : (VideoCall.onCallEnd k).All D :=
  all_ctrlCall fun _ _ => Async.all_bind (all_videoEndCall hdelete) fun _ => all_videoEnded hended

theorem all_endButton {k : ℕ} {status : Option String} : (endButton k status).All D :=
  Async.all_bind all_modifyCtrl fun _ => Async.all_bind all_callCtrl fun _ =>
    Async.all_ite (all_videoCallEnd hdelete hended) (all_audioCallEnd hdelete)

end Ending

/-! ## Picking up -/

theorem all_accept {d : ℕ} : (accept d).All D := by
  refine Async.all_bind all_offeredCall fun offered => ?_
  split
  · exact Async.all_pure
  · split
    · exact Async.all_throw
    · exact all_toCall

theorem all_reject {d : ℕ} (hdelete : ∀ user id, Writes D (.delete user id)) :
    (reject d).All D := by
  refine Async.all_bind all_offeredCall fun offered => ?_
  split
  · exact Async.all_pure
  · split
    · exact Async.all_throw
    · exact all_rejectCall hdelete

/-! ## The actions -/

/-- Every action, where the deeds allow what is done to `calling` and what is said of the two other
actions. -/
theorem all_action {a : Action}
    (hadd : ∀ userData toData timestamp channelId isVideoCall receiver user hasDialled,
      Writes D (.add user (Call.make userData toData timestamp channelId isVideoCall receiver)
        hasDialled))
    (hdelete : ∀ user id, Writes D (.delete user id))
    (hended : ∀ user timestamp time nameList, Writes D (.ended user timestamp time nameList))
    (hsave : ∀ user, a = .saveUser user → a.body.All D)
    (hjoined : ∀ k uid, a = .onUserJoined k uid → a.body.All D) : a.body.All D := by
  cases a with
  | saveUser user => exact hsave user rfl
  | audioAndVideoCallApi d toData isVideoCall =>
    refine Async.all_bind all_sessionUser fun userData => ?_
    refine Async.all_bind (Async.all_sync D.refl) fun channelId => ?_
    refine Async.all_bind all_now fun time => ?_
    cases toData with
    | none => exact Async.all_throw
    | some toData => exact all_placeCall (hadd _ _ _ _ _ _)
  | audioAndVideoCall d receiver isVideoCall =>
    refine Async.all_bind all_sessionUser fun userData => ?_
    refine Async.all_bind (Async.all_sync D.refl) fun channelId => ?_
    refine Async.all_bind all_now fun time => Async.all_forEach fun element _ => ?_
    refine Async.all_bind (Async.all_remote D.refl) fun snap => ?_
    cases snap with
    | none => exact Async.all_throw
    | some toData => exact all_placeCall (hadd _ _ _ _ _ _)
  | accept d => exact all_accept
  | reject d => exact all_reject hdelete
  | removeCtrl d isVideo => exact all_removeCtrl
  | onJoinChannelSuccess k => exact all_onCtrl all_audioJoin all_videoJoin
  | onUserJoined k uid => exact hjoined k uid rfl
  | onUserOffline k => exact all_onCtrl all_audioUserOffline all_videoUserOffline
  | onLeaveChannel k => exact all_onCtrl all_audioLeaveChannel all_videoLeaveChannel
  | onToggleMute k => exact all_toggleMute
  | onCallEnd k status => exact all_endButton hdelete hended

end FlutterTheme.Calls
