import FlutterTheme.EventLoop
import FlutterTheme.Heap
import FlutterTheme.DocStore

/-!
# Audio and video calls

The collections below `calls` and the controllers of the call screens.

* `audioAndVideoCallApi`, `audioAndVideoCall` — placing a call to a user or to a group.
* `PickupLayout`, `PickupBody` — how the receiver is offered the call, takes it or
  rejects it.
* `initAgora` and the callbacks of the Agora engine, `onToggleMute`, `endCall` and
  `onCallEnd` — the audio and the video controller.
* `CallList` — how the history of calls is shown.

The engine is outside the application: its operations have no effect here but the
channel that is joined, and its callbacks may come at any time. A `set` nobody awaits
is on its way until it takes effect, whatever happens meanwhile.

`World.placed`, `World.joined` and `World.writes` are history variables: no handler
reads them.
-/

namespace FlutterTheme.Calls

open EventLoop DocStore

/-! ## Documents -/

/-- The collections; `calling u` is `calls/u/calling`, `history u` is
`calls/u/collectionCallHistory`. -/
inductive Path : Type where
  | calls : Path
  | calling : String → Path
  | history : String → Path
  deriving DecidableEq, Repr

/-- The field names of these documents. -/
inductive Key : Type where
  | timestamp | callerId | callerName | callerPic | callerImage | receiverId | receiverName
  | receiverPic | receiverImage | callerToken | receiverToken | hasDialled | channelId | isVideoCall
  | type | id | dp | isMuted | isJoin | status | started | ended | callName
  | audioCallMade | audioCallReceived | videoCallMade | videoCallReceived
  deriving DecidableEq, Repr

/-- The values stored in these documents. -/
inductive Value : Type where
  | null : Value
  | bool : Bool → Value
  | str : String → Value
  | int : ℕ → Value
  /-- a `DateTime`, in microseconds since the epoch -/
  | time : ℕ → Value
  deriving DecidableEq, Repr

/-- The fields of a document. -/
abbrev Data : Type := Fields Key Value

/-- A document with its identifier. -/
abbrev Document : Type := Doc Key Value

namespace Value

/-- A `String?` as it is stored. -/
def ofString : Option String → Value
  | none => null
  | some s => str s

/-- A `bool?` as it is stored. -/
def ofBool : Option Bool → Value
  | none => null
  | some b => bool b

/-- An `int?` as it is stored. -/
def ofInt : Option ℕ → Value
  | none => null
  | some n => int n

/-- A field that is read as a `String?`. -/
def toString? : Option Value → Option String
  | some (str s) => some s
  | _ => none

/-- A field that is read as a `bool?`. -/
def toBool? : Option Value → Option Bool
  | some (bool b) => some b
  | _ => none

/-- A field that is read as an `int?`. -/
def toInt? : Option Value → Option ℕ
  | some (int n) => some n
  | _ => none

@[simp] theorem toString?_ofString (s : Option String) : toString? (some (ofString s)) = s := by
  cases s <;> rfl

@[simp] theorem toBool?_ofBool (b : Option Bool) : toBool? (some (ofBool b)) = b := by
  cases b <;> rfl

@[simp] theorem toBool?_bool (b : Bool) : toBool? (some (bool b)) = some b := rfl

@[simp] theorem toString?_none : toString? none = none := rfl

@[simp] theorem toInt?_ofInt (n : Option ℕ) : toInt? (some (ofInt n)) = n := by
  cases n <;> rfl

end Value

/-- The map kept as `session.user`, or a document of `users`, as far as calls read it. -/
structure User where
  id : String
  name : Option String
  image : Option String
  pushToken : Option String
  deriving DecidableEq, Repr, Inhabited

/-- A member of a group, as far as calls read it. -/
structure Member where
  id : String
  name : String
  deriving DecidableEq, Repr

/-- `Call`. -/
structure Call where
  callerId : Option String
  callerName : Option String
  callerPic : Option String
  receiverId : Option String
  receiverName : Option String
  receiverPic : Option String
  channelId : Option String
  timestamp : Option ℕ
  hasDialled : Option Bool
  isVideoCall : Option Bool
  callerToken : Option String
  receiverToken : Option String
  /-- the members, for a call to a group -/
  receiver : Option (List Member)
  deriving DecidableEq, Repr, Inhabited

/-- `Call.fromMap`. -/
def Call.fromMap (callMap : Data) : Call where
  callerId := Value.toString? (callMap .callerId)
  callerName := Value.toString? (callMap .callerName)
  callerPic := Value.toString? (callMap .callerImage)
  receiverId := Value.toString? (callMap .receiverId)
  receiverName := Value.toString? (callMap .receiverName)
  receiverPic := Value.toString? (callMap .receiverImage)
  channelId := Value.toString? (callMap .channelId)
  hasDialled := Value.toBool? (callMap .hasDialled)
  isVideoCall := Value.toBool? (callMap .isVideoCall)
  timestamp := Value.toInt? (callMap .timestamp)
  callerToken := Value.toString? (callMap .callerToken)
  receiverToken := Value.toString? (callMap .receiverToken)
  receiver := none

/-! ## The world -/

/-- The handlers that write the history of calls. -/
inductive Writer : Type where
  /-- `onJoinChannelSuccess` of the audio or the video controller -/
  | join (isVideo : Bool) : Writer
  | onUserJoined : Writer
  | onUserOffline : Writer
  | onLeaveChannel : Writer
  | onToggleMute : Writer
  /-- the reject button of `PickupBody` -/
  | reject : Writer
  /-- `onCallEnd` of the audio or the video controller -/
  | onCallEnd (isVideo : Bool) : Writer
  deriving DecidableEq, Repr

/-- A history document that a handler has started to write. -/
structure HistoryWrite where
  writer : Writer
  user : String
  timestamp : ℕ
  deriving DecidableEq, Repr

/-- `AudioCallController` or `VideoCallController`. -/
structure CallController where
  /-- the device the screen is on -/
  device : ℕ
  isVideo : Bool
  /-- null until a screen has been opened with the controller -/
  call : Option Call := none
  channelName : Option String := none
  userData : User := default
  /-- `isAlreadyEnded`, or `isAlreadyEndedCall` -/
  isAlreadyEnded : Bool := false
  localUserJoined : Bool := false
  muted : Bool := false
  remoteUId : Option ℕ := none
  remoteUidValue : Option ℕ := none
  users : List ℕ := []
  nameList : String := ""
  deriving Inhabited

/-- A participant that has joined a channel. -/
structure Participant where
  device : ℕ
  /-- the call placed or accepted -/
  call : Call
  /-- the channel -/
  channel : String
  deriving DecidableEq, Repr

/-- The arguments of one `sendNotification`. -/
structure Notification where
  title : String
  msg : String
  token : Option String
  pName : Option String
  image : Option String
  dataTitle : Option String
  deriving DecidableEq, Repr

/-- Firestore, the devices, and the history variables. -/
structure World where
  store : Store Path Key Value
  /-- the documents of `users` -/
  users : String → Option User
  /-- `session.user` of each device -/
  session : ℕ → User
  /-- `session.agoraToken["token"]` of each device, null if there is no token -/
  agoraToken : ℕ → Option String
  ctrl : Heap CallController
  /-- the audio and the video controller that are registered on each device -/
  registered : ℕ → Bool → Option ℕ
  /-- the notifications sent, newest first -/
  notifications : List Notification
  /-- the calls placed, newest first -/
  placed : List Call
  /-- the participants that have joined a channel, newest first -/
  joined : List Participant
  /-- the writes to the history of calls that have been started, newest first -/
  writes : List HistoryWrite

/-- Nothing is stored but the users, and no screen is open. -/
def World.initial (users : String → Option User) (session : ℕ → User)
    (agoraToken : ℕ → Option String) : World where
  store := .empty
  users := users
  session := session
  agoraToken := agoraToken
  ctrl := .empty
  registered _ _ := none
  notifications := []
  placed := []
  joined := []
  writes := []

/-- What a handler is working on. -/
inductive Scope : Type where
  | idle : Scope
  /-- a write to the history document of a user for the calls of an instant -/
  | history : HistoryWrite → Scope
  deriving DecidableEq, Repr

/-- A handler, or a part of one. -/
abbrev Handler (α : Type) : Type := Async World Scope α

/-! ## The device and Firestore -/

/-- `DateTime.now()`. -/
def now : Handler ℕ := Async.sync fun t w => (t.now, w)

/-- `Random().nextInt(n)`. -/
def nextInt (n : ℕ) : Handler ℕ := Async.sync fun t w => (t.pos % n, w)

/-- `appCtrl.storage.read(session.user)`. -/
def sessionUser (d : ℕ) : Handler User := Async.get fun w => w.session d

/-- `collection(users).doc(id).get()`. -/
def getUser (id : String) : Handler (Option User) := Async.remote fun _ w => (w.users id, w)

/-- `collection(p).add(d)`. -/
def add (p : Path) (d : Data) : Handler Unit :=
  Async.remote fun t w => ((), { w with store := w.store.add p t.pos d })

/-- `collection(p).doc(id).delete()`. -/
def delete (p : Path) (id : DocId) : Handler Unit :=
  Async.remote fun _ w => ((), { w with store := w.store.delete p id })

/-- `collection(p).where(k, isEqualTo: v).limit(1).get()`, with what goes wrong caught. -/
def getFirst (p : Path) (k : Key) (v : String) : Handler (Option (Option Document)) :=
  Async.attempt fun _ w => ((w.store.query p (Fields.isEqualTo k (.str v))).head?, w)

/-- `collection(p).doc(name).set(u, SetOptions(merge: true))` that nobody awaits: it is on
its way, and takes effect unless it fails. -/
def setMerge (p : Path) (name : String) (u : Data) : Handler Unit := Async.spawn do
  Async.pause
  Async.sync fun t w =>
    ((), if t.fails then w else { w with store := w.store.setMerge p name t.pos u })

/-- `collection(calls).doc(id).set({k: FieldValue.increment(1)}, SetOptions(merge: true))`. -/
def increment (id : String) (k : Key) : Handler Unit := Async.spawn do
  Async.pause
  Async.sync fun t w =>
    ((), if t.fails then w else
      let count := (Value.toInt? (w.store.fieldsAt .calls (.named id) k)).getD 0
      { w with store := w.store.setMerge .calls id t.pos (.ofList [(k, .int (count + 1))]) })

/-- `FirebaseCommonController.sendNotification`; a failure is caught and logged. -/
def sendNotification (n : Notification) : Handler Unit := Async.spawn do
  let _ ← Async.attempt fun _ w => ((), { w with notifications := n :: w.notifications })
  pure ()

/-- An operation of the Agora engine. -/
def engine : Handler Unit := Async.remote fun _ w => ((), w)

/-! ## The controllers -/

/-- Read the fields of a controller. -/
def callCtrl (k : ℕ) : Handler CallController := Async.get fun w => w.ctrl.get k

/-- Change the fields of a controller. -/
def modifyCtrl (k : ℕ) (f : CallController → CallController) : Handler Unit :=
  Async.modify fun w => { w with ctrl := w.ctrl.modify k f }

/-- `Get.put(AudioCallController())` or `Get.put(VideoCallController())`: the registered
controller if there is one, or else a new one. The flag says whether it is new. -/
def putCtrl (d : ℕ) (isVideo : Bool) : Handler (ℕ × Bool) := Async.sync fun _ w =>
  match w.registered d isVideo with
  | some k => ((k, false), w)
  | none => ((w.ctrl.size, true),
      { w with
        ctrl := w.ctrl.alloc { device := d, isVideo := isVideo }
        registered := Function.update w.registered d
          (Function.update (w.registered d) isVideo (some w.ctrl.size)) })

/-- A controller is removed when its route is closed. Callbacks of its engine may still
come. -/
def removeCtrl (d : ℕ) (isVideo : Bool) : Handler Unit := Async.modify fun w =>
  { w with
    registered := Function.update w.registered d
      (Function.update (w.registered d) isVideo none) }

/-- What identifies a call and its history documents. -/
structure Ids where
  callerId : String
  receiverId : String
  timestamp : ℕ
  deriving DecidableEq, Repr

/-- The identifiers of a call, if none of them is null. -/
def Call.ids (call : Call) : Option Ids :=
  match call.callerId, call.receiverId, call.timestamp with
  | some callerId, some receiverId, some timestamp => some ⟨callerId, receiverId, timestamp⟩
  | _, _, _ => none

/-- `call!` of a controller, with the identifiers its documents are addressed by; null
there is an error. -/
def currentCall (s : CallController) : Handler (Call × Ids) :=
  match s.call with
  | some call =>
    match call.ids with
    | some ids => pure (call, ids)
    | none => Async.throw
  | none => Async.throw

/-! ## Joining a channel -/

/-- `fonts.channel`. -/
def channel : String := "flutterTheme"

/-- `engine.joinChannel` with the channel that both controllers give. -/
def joinChannel (k : ℕ) : Handler Unit := Async.remote fun _ w =>
  let s := w.ctrl.get k
  ((), match s.call with
    | some call => { w with joined := ⟨s.device, call, channel⟩ :: w.joined }
    | none => w)

/-- The token is read; `agoraToken["token"]` is an error if there is none. -/
def readToken (d : ℕ) : Handler Unit := do
  let token ← Async.get fun w => w.agoraToken d
  match token with
  | some _ => pure ()
  | none => Async.throw

/-- `AudioCallController.initAgora`. -/
def AudioCall.initAgora (k : ℕ) : Handler Unit := do
  engine -- initialize
  engine -- setClientRole
  engine -- startPreview
  let s ← callCtrl k
  readToken s.device
  joinChannel k

/-- `VideoCallController.initAgora`. -/
def VideoCall.initAgora (k : ℕ) : Handler Unit := do
  engine -- the permissions
  engine -- initialize
  engine -- setClientRole
  engine -- enableVideo
  engine -- startPreview
  let s ← callCtrl k
  readToken s.device
  joinChannel k

/-- The arguments of the route, with the user of the device. -/
def setArguments (k : ℕ) (channelName : Option String) (call : Call) : Handler Unit := do
  let s ← callCtrl k
  let userData ← sessionUser s.device
  modifyCtrl k fun s =>
    { s with channelName := channelName, call := some call, userData := userData }

/-- `AudioCallController.onReady`. -/
def AudioCall.onReady (k : ℕ) (channelName : Option String) (call : Call) : Handler Unit := do
  setArguments k channelName call
  engine -- the permission
  AudioCall.initAgora k

/-- `AudioCall` opens: `initState` calls `onReady`, and so does the framework for a new
controller. -/
def AudioCall.open (d : ℕ) (channelName : Option String) (call : Call) : Handler Unit := do
  let (k, isNew) ← putCtrl d false
  setArguments k channelName call
  Async.spawn (AudioCall.onReady k channelName call)
  if isNew then Async.spawn (AudioCall.onReady k channelName call) else pure ()

/-- `VideoCall` opens: `initState`, and `onReady` by the framework for a new controller. -/
def VideoCall.open (d : ℕ) (channelName : Option String) (call : Call) : Handler Unit := do
  let (k, isNew) ← putCtrl d true
  setArguments k channelName call
  Async.spawn (VideoCall.initAgora k)
  if isNew then setArguments k channelName call else pure ()

/-- `Get.toNamed(routeName.videoCall)` or `Get.toNamed(routeName.audioCall)`. -/
def toCall (d : ℕ) (isVideo : Bool) (channelName : Option String) (call : Call) : Handler Unit :=
  if isVideo then VideoCall.open d channelName call else AudioCall.open d channelName call

/-! ## Placing a call -/

/-- The fields of a document in `calling`. -/
def callingFields (call : Call) (hasDialled : Bool) : Data :=
  .ofList [
    (.timestamp, .ofInt call.timestamp),
    (.callerId, .ofString call.callerId),
    (.callerName, .ofString call.callerName),
    (.callerPic, .ofString call.callerPic),
    (.receiverId, .ofString call.receiverId),
    (.receiverName, .ofString call.receiverName),
    (.receiverPic, .ofString call.receiverPic),
    (.callerToken, .ofString call.callerToken),
    (.receiverToken, .ofString call.receiverToken),
    (.hasDialled, .bool hasDialled),
    (.channelId, .ofString call.channelId),
    (.isVideoCall, .ofBool call.isVideoCall)]

/-- `Call(...)` by one user to another. -/
def Call.make (userData toData : User) (timestamp : ℕ) (channelId : String) (isVideoCall : Bool)
    (receiver : Option (List Member)) : Call where
  timestamp := some timestamp
  callerId := some userData.id
  callerName := userData.name
  callerPic := userData.image
  receiverId := some toData.id
  receiverName := toData.name
  receiverPic := toData.image
  callerToken := userData.pushToken
  receiverToken := toData.pushToken
  channelId := some channelId
  isVideoCall := some isVideoCall
  hasDialled := none
  receiver := receiver

/-- The two documents of a call, the notification, and the screen of the caller. -/
def placeCall (d : ℕ) (userData toData : User) (call : Call) (isVideoCall : Bool) :
    Handler Unit := do
  Async.modify fun w => { w with placed := call :: w.placed }
  add (.calling userData.id) (callingFields call true)
  add (.calling toData.id) (callingFields call false)
  let title := if isVideoCall then "Incoming Video Call..." else "Incoming Audio Call..."
  let kind := if isVideoCall then " video call" else " audio call"
  sendNotification {
    title := title
    msg := call.callerName.getD "null" ++ kind
    token := call.receiverToken
    pName := call.callerName
    image := userData.image
    dataTitle := call.callerName }
  toCall d isVideoCall call.channelId { call with hasDialled := some true }

/-- `ChatMessageApi.audioAndVideoCallApi`; without data of the peer, `toData["id"]` is an
error. -/
def audioAndVideoCallApi (d : ℕ) (toData : Option User) (isVideoCall : Bool) : Handler Unit := do
  let userData ← sessionUser d
  let channelId ← nextInt 1000
  let time ← now
  match toData with
  | none => Async.throw
  | some toData =>
    placeCall d userData toData
      (Call.make userData toData (time / 1000) (toString channelId) isVideoCall none) isVideoCall

/-- The part of a call to a group for one member. -/
def callMember (d : ℕ) (userData : User) (channelId : String) (timestamp : ℕ)
    (receiver : List Member) (isVideoCall : Bool) (element : Member) : Handler Unit := do
  let snap ← getUser element.id
  match snap with
  | none => Async.throw
  | some toData =>
    placeCall d userData toData
      (Call.make userData toData timestamp channelId isVideoCall (some receiver)) isVideoCall

/-- `GroupChatMessageController.audioAndVideoCall`. -/
def audioAndVideoCall (d : ℕ) (receiver : List Member) (isVideoCall : Bool) : Handler Unit := do
  let userData ← sessionUser d
  let channelId ← nextInt 1000
  let time ← now
  Async.forEach receiver
    (callMember d userData (toString channelId) (time / 1000) receiver isVideoCall)

/-! ## The history of calls -/

/-- A write to a history document that nobody awaits. -/
def writeHistory (writer : Writer) (user : String) (timestamp : ℕ) (u : Data) : Handler Unit := do
  Async.modify fun w => { w with writes := ⟨writer, user, timestamp⟩ :: w.writes }
  Async.spawn do
    Async.enter (.history ⟨writer, user, timestamp⟩)
    Async.pause
    Async.sync fun t w => ((), if t.fails then w else
      { w with store := w.store.setMerge (.history user) (toString timestamp) t.pos u })

/-- The complete history document of the caller. -/
def callerRecord (call : Call) (type status : String) (callerName : Option String) (ended : Value) :
    Data :=
  .ofList [
    (.type, .str type),
    (.isVideoCall, .ofBool call.isVideoCall),
    (.id, .ofString call.receiverId),
    (.timestamp, .ofInt call.timestamp),
    (.dp, .ofString call.receiverPic),
    (.isMuted, .bool false),
    (.receiverId, .ofString call.receiverId),
    (.isJoin, .bool false),
    (.status, .str status),
    (.started, .null),
    (.ended, ended),
    (.callerName, .ofString callerName)]

/-- The complete history document of a receiver. -/
def receiverRecord (call : Call) (receiverId type status : String) (callerName : Option String)
    (ended : Value) : Data :=
  .ofList [
    (.type, .str type),
    (.isVideoCall, .ofBool call.isVideoCall),
    (.id, .ofString call.callerId),
    (.timestamp, .ofInt call.timestamp),
    (.dp, .ofString call.callerPic),
    (.isMuted, .bool false),
    (.receiverId, .str receiverId),
    (.isJoin, .bool true),
    (.status, .str status),
    (.started, .null),
    (.ended, ended),
    (.callerName, .ofString callerName)]

/-- What is written of a call that has come to its end. -/
def endedFields (ended : ℕ) : Data := .ofList [(.status, .str "ended"), (.ended, .time ended)]

/-- The users other than the caller whose documents the video controller writes. -/
def Call.others (call : Call) (ids : Ids) (userData : User) : List String :=
  match call.receiver with
  | some receiver => (receiver.filter (·.id ≠ userData.id)).map Member.id
  | none => [ids.receiverId]

/-- Writes to the documents of several users, in order. -/
def writeEach (writer : Writer) (timestamp : ℕ) (users : List String) (u : String → Data) :
    Handler Unit :=
  match users with
  | [] => pure ()
  | user :: users => do
    writeHistory writer user timestamp (u user)
    writeEach writer timestamp users u

/-! ## The callbacks of the engine -/

/-- `onJoinChannelSuccess` of the audio controller. -/
def AudioCall.onJoinChannelSuccess (k : ℕ) : Handler Unit := do
  modifyCtrl k fun s => { s with localUserJoined := true }
  let s ← callCtrl k
  let (call, ids) ← currentCall s
  if ids.callerId = s.userData.id then do
    writeHistory (.join false) ids.callerId ids.timestamp
      (callerRecord call "OUTGOING" "calling" call.callerName .null)
    writeHistory (.join false) ids.receiverId ids.timestamp
      (receiverRecord call ids.receiverId "INCOMING" "missedCall" call.callerName .null)
  else pure ()

/-- `nameList` after the loop over the members: a further name is never appended, since a
name is compared with itself. -/
def nameListOf (userData : User) : List Member → String → String
  | [], nameList => nameList
  | element :: receiver, nameList =>
    nameListOf userData receiver
      (if nameList ≠ "" then nameList
        else if some element.name ≠ userData.name then element.name else nameList)

/-- `onJoinChannelSuccess` of the video controller. -/
def VideoCall.onJoinChannelSuccess (k : ℕ) : Handler Unit := do
  modifyCtrl k fun s => { s with localUserJoined := true }
  let s ← callCtrl k
  let (call, ids) ← currentCall s
  let nameList := nameListOf s.userData (call.receiver.getD []) s.nameList
  modifyCtrl k fun s => { s with nameList := nameList }
  if ids.callerId = s.userData.id then do
    let callerName := if call.receiver.isSome then some nameList else call.callerName
    writeHistory (.join true) ids.callerId ids.timestamp
      (callerRecord call "outGoing" "calling" callerName .null)
    writeEach (.join true) ids.timestamp (call.others ids s.userData) fun receiverId =>
      receiverRecord call receiverId "inComing" "missedCall" callerName .null
  else pure ()

/-- What is written for the caller when the peer has joined. -/
def callerPickedUp (started : ℕ) : Data :=
  .ofList [(.started, .time started), (.status, .str "pickedUp"), (.isJoin, .bool true)]

/-- What is written for a receiver when the peer has joined. -/
def receiverPickedUp (started : ℕ) : Data :=
  .ofList [(.started, .time started), (.status, .str "pickedUp")]

/-- `onUserJoined` of the audio controller; the peer is kept in `remoteUidValue`. -/
def AudioCall.onUserJoined (k remoteUid : ℕ) : Handler Unit := do
  modifyCtrl k fun s => { s with remoteUidValue := some remoteUid }
  let s ← callCtrl k
  let (_, ids) ← currentCall s
  if s.userData.id = ids.callerId then do
    let time ← now
    writeHistory .onUserJoined ids.callerId ids.timestamp (callerPickedUp time)
    let time ← now
    writeHistory .onUserJoined ids.receiverId ids.timestamp (receiverPickedUp time)
    increment ids.callerId .audioCallMade
    increment ids.receiverId .audioCallReceived
  else pure ()

/-- `onUserJoined` of the video controller, for the users other than the caller. -/
def pickedUpEach (timestamp : ℕ) : List String → Handler Unit
  | [] => pure ()
  | user :: users => do
    let time ← now
    writeHistory .onUserJoined user timestamp (receiverPickedUp time)
    increment user .videoCallReceived
    pickedUpEach timestamp users

/-- `onUserJoined` of the video controller. -/
def VideoCall.onUserJoined (k remoteUid : ℕ) : Handler Unit := do
  modifyCtrl k fun s =>
    { s with remoteUidValue := some remoteUid, users := s.users ++ [remoteUid] }
  let s ← callCtrl k
  let (call, ids) ← currentCall s
  if s.userData.id = ids.callerId then do
    let time ← now
    writeHistory .onUserJoined ids.callerId ids.timestamp (callerPickedUp time)
    increment ids.callerId .videoCallMade
    pickedUpEach ids.timestamp (call.others ids s.userData)
  else pure ()

/-- The end of a call is written for several users, unless it has ended already. -/
def endEach (writer : Writer) (timestamp : ℕ) : List String → Handler Unit
  | [] => pure ()
  | user :: users => do
    let time ← now
    writeHistory writer user timestamp (endedFields time)
    endEach writer timestamp users

/-- `onUserOffline` of the audio controller; `remoteUid` has become 0 before it is removed
from `users`. -/
def AudioCall.onUserOffline (k : ℕ) : Handler Unit := do
  modifyCtrl k fun s => { s with users := s.users.erase 0 }
  let s ← callCtrl k
  if s.isAlreadyEnded = false then do
    let (_, ids) ← currentCall s
    endEach .onUserOffline ids.timestamp [ids.callerId, ids.receiverId]
  else pure ()

/-- `onUserOffline` of the video controller. -/
def VideoCall.onUserOffline (k : ℕ) : Handler Unit := do
  modifyCtrl k fun s => { s with users := s.users.erase 0 }
  let s ← callCtrl k
  if s.isAlreadyEnded = false then do
    let (call, ids) ← currentCall s
    endEach .onUserOffline ids.timestamp (ids.callerId :: call.others ids s.userData)
  else pure ()

/-- `onLeaveChannel` of the audio controller. -/
def AudioCall.onLeaveChannel (k : ℕ) : Handler Unit := do
  modifyCtrl k fun s => { s with users := [] }
  let s ← callCtrl k
  if s.isAlreadyEnded = false then do
    let (_, ids) ← currentCall s
    endEach .onLeaveChannel ids.timestamp [ids.callerId, ids.receiverId]
  else pure ()

/-- `onLeaveChannel` of the video controller, which also adds an empty document to the
history of the caller. -/
def VideoCall.onLeaveChannel (k : ℕ) : Handler Unit := do
  modifyCtrl k fun s => { s with remoteUId := none, users := [] }
  let s ← callCtrl k
  if s.isAlreadyEnded = false then do
    let (call, ids) ← currentCall s
    Async.spawn (add (.history ids.callerId) .empty)
    endEach .onLeaveChannel ids.timestamp (ids.callerId :: call.others ids s.userData)
  else pure ()

/-- `onToggleMute`, the same in both controllers. -/
def onToggleMute (k : ℕ) : Handler Unit := do
  modifyCtrl k fun s => { s with muted := !s.muted }
  let s ← callCtrl k
  let (_, ids) ← currentCall s
  writeHistory .onToggleMute s.userData.id ids.timestamp (.ofList [(.isMuted, .bool s.muted)])

/-! ## Ending a call -/

/-- The first document of `calling` in which the user is a party is deleted; the deletion
is not awaited. The answer is false where the query fails. -/
def deleteFirst (user : String) (party : Key) : Handler Bool := do
  let value ← getFirst (.calling user) party user
  match value with
  | none => pure false
  | some none => pure true
  | some (some doc) => do
    Async.spawn (delete (.calling user) doc.id)
    pure true

/-- `AudioCallController.endCall`, which does not look at `call.receiver`. -/
def AudioCall.endCall (ids : Ids) : Handler Bool := do
  let found ← deleteFirst ids.callerId .callerId
  if found then deleteFirst ids.receiverId .receiverId else pure false

/-- `VideoCallController.endCall`. -/
def VideoCall.endCall (call : Call) (ids : Ids) : Handler Bool :=
  match call.receiver with
  | some receiver => do
    Async.forEach receiver fun element => do
      let _ ← deleteFirst element.id .callerId
      pure ()
    deleteFirst ids.callerId .callerId
  | none => AudioCall.endCall ids

/-- A write to a history document that is awaited. -/
def awaitHistory (writer : Writer) (user : String) (timestamp : ℕ) (u : Data) : Handler Unit := do
  Async.modify fun w => { w with writes := ⟨writer, user, timestamp⟩ :: w.writes }
  Async.enter (.history ⟨writer, user, timestamp⟩)
  Async.remote fun t w =>
    ((), { w with store := w.store.setMerge (.history user) (toString timestamp) t.pos u })
  Async.enter .idle

/-- `AudioCallController.onCallEnd`. Its first branch is for a peer that has joined, but
`onUserJoined` does not set `remoteUId`. -/
def AudioCall.onCallEnd (k : ℕ) : Handler Unit := do
  let time ← now
  let s ← callCtrl k
  let (_, ids) ← currentCall s
  if s.remoteUId.isSome then do
    awaitHistory (.onCallEnd false) ids.callerId ids.timestamp (endedFields time)
    awaitHistory (.onCallEnd false) ids.receiverId ids.timestamp (endedFields time)
  else do
    let _ ← AudioCall.endCall ids
    let s ← callCtrl k
    let (call, ids) ← currentCall s
    let later ← now
    writeHistory (.onCallEnd false) ids.callerId ids.timestamp
      (callerRecord call "outGoing" "ended" call.callerName (.time later))
    writeHistory (.onCallEnd false) ids.receiverId ids.timestamp
      (receiverRecord call ids.receiverId "inComing" "ended" call.callerName (.time time))

/-- The end of a call to a group is written into `calling`, under the time of the call. -/
def endCalling (timestamp time : ℕ) (nameList : String) : List Member → Handler Unit
  | [] => pure ()
  | element :: receiver => do
    setMerge (.calling element.id) (toString timestamp) (.ofList [
      (.status, .str "ended"), (.ended, .time time), (.callName, .str nameList)])
    endCalling timestamp time nameList receiver

/-- `VideoCallController.onCallEnd`. -/
def VideoCall.onCallEnd (k : ℕ) : Handler Unit := do
  let s ← callCtrl k
  let (call, ids) ← currentCall s
  let _ ← VideoCall.endCall call ids
  let time ← now
  let s ← callCtrl k
  let (call, ids) ← currentCall s
  match call.receiver with
  | some receiver => endCalling ids.timestamp time s.nameList receiver
  | none => do
    writeHistory (.onCallEnd true) ids.callerId ids.timestamp (endedFields time)
    writeHistory (.onCallEnd true) ids.receiverId ids.timestamp (endedFields time)
  modifyCtrl k fun s => { s with remoteUId := none, channelName := some "" }

/-- The red button of the tool bars: `status` is the one that the screen shows. -/
def endButton (k : ℕ) (status : Option String) : Handler Unit := do
  modifyCtrl k fun s =>
    { s with isAlreadyEnded := status = some "ended" || status = some "rejected" }
  let s ← callCtrl k
  if s.isVideo then VideoCall.onCallEnd k else AudioCall.onCallEnd k

/-! ## Picking up -/

/-- The call that `PickupLayout` offers to the user of a device, from the first document
of `calling`; `call.hasDialled!` is an error where it is null. -/
def offeredCall (d : ℕ) : Handler (Option Call) := do
  let user ← sessionUser d
  let docs ← Async.remote fun _ w => ((w.store.docs (.calling user.id)).head?, w)
  match docs with
  | none => pure none
  | some doc =>
    let call := Call.fromMap doc.data
    match call.hasDialled with
    | none => Async.throw
    | some true => pure none
    | some false => pure (some call)

/-- The green button of `PickupBody`; `call!.isVideoCall!` is an error where it is null. -/
def accept (d : ℕ) : Handler Unit := do
  let offered ← offeredCall d
  match offered with
  | none => pure ()
  | some call =>
    match call.isVideoCall with
    | none => Async.throw
    | some isVideoCall => toCall d isVideoCall call.channelId call

/-- The red button of `PickupBody` on a call. -/
def rejectCall (d : ℕ) (call : Call) (ids : Ids) : Handler Unit := do
  let _ ← putCtrl d true
  let _ ← VideoCall.endCall call ids
  let time ← now
  writeHistory .reject ids.callerId ids.timestamp
    (callerRecord call "outGoing" "rejected" call.callerName (.time time))
  let time ← now
  writeHistory .reject ids.receiverId ids.timestamp
    (receiverRecord call ids.receiverId "INCOMING" "rejected" call.callerName (.time time))

/-- The red button of `PickupBody`. -/
def reject (d : ℕ) : Handler Unit := do
  let offered ← offeredCall d
  match offered with
  | none => pure ()
  | some call =>
    match call.ids with
    | none => Async.throw
    | some ids => rejectCall d call ids

/-! ## The list of calls -/

/-- The user whom `CallList` shows for a history document. -/
def CallList.shownUser (user : String) (data : Data) : Option Value :=
  if data .id = some (.str user) then data .receiverId else data .id

/-- `CallList` shows an incoming call. -/
def CallList.isIncoming (data : Data) : Bool := data .type = some (.str "inComing")

/-- A field that is null or absent. -/
def isNull (v : Option Value) : Bool := v = none ∨ v = some .null

/-- The icon is the one of a missed call. -/
def CallList.isMissed (data : Data) : Bool := CallList.isIncoming data && isNull (data .started)

/-! ## The system -/

/-- What can happen. -/
inductive Action : Type where
  /-- a user document changes -/
  | saveUser (user : User)
  /-- a call button of a chat screen; `toData` is the user document of the peer -/
  | audioAndVideoCallApi (d : ℕ) (toData : Option User) (isVideoCall : Bool)
  /-- a call button of a group screen with the given members -/
  | audioAndVideoCall (d : ℕ) (receiver : List Member) (isVideoCall : Bool)
  | accept (d : ℕ)
  | reject (d : ℕ)
  /-- a call screen is closed -/
  | removeCtrl (d : ℕ) (isVideo : Bool)
  | onJoinChannelSuccess (k : ℕ)
  | onUserJoined (k remoteUid : ℕ)
  | onUserOffline (k : ℕ)
  | onLeaveChannel (k : ℕ)
  | onToggleMute (k : ℕ)
  /-- the red button of a call screen -/
  | onCallEnd (k : ℕ) (status : Option String)
  deriving DecidableEq, Repr

/-- The callback of the controller of a screen: the audio or the video one. -/
def onCtrl (k : ℕ) (audio video : Handler Unit) : Handler Unit := do
  let s ← callCtrl k
  if s.isVideo then video else audio

/-- The handler of an action. -/
def Action.body : Action → Handler Unit
  | saveUser user => Async.modify fun w => { w with users := Function.update w.users user.id user }
  | audioAndVideoCallApi d toData isVideoCall => Calls.audioAndVideoCallApi d toData isVideoCall
  | audioAndVideoCall d receiver isVideoCall => Calls.audioAndVideoCall d receiver isVideoCall
  | accept d => Calls.accept d
  | reject d => Calls.reject d
  | removeCtrl d isVideo => Calls.removeCtrl d isVideo
  | onJoinChannelSuccess k =>
    onCtrl k (AudioCall.onJoinChannelSuccess k) (VideoCall.onJoinChannelSuccess k)
  | onUserJoined k remoteUid =>
    onCtrl k (AudioCall.onUserJoined k remoteUid) (VideoCall.onUserJoined k remoteUid)
  | onUserOffline k => onCtrl k (AudioCall.onUserOffline k) (VideoCall.onUserOffline k)
  | onLeaveChannel k => onCtrl k (AudioCall.onLeaveChannel k) (VideoCall.onLeaveChannel k)
  | onToggleMute k => Calls.onToggleMute k
  | onCallEnd k status => endButton k status

/-- Callbacks and buttons belong to a controller that exists. -/
def Action.enabled (w : World) : Action → Prop
  | saveUser _ | audioAndVideoCallApi _ _ _ | audioAndVideoCall _ _ _ | accept _ | reject _
  | removeCtrl _ _ => True
  | onJoinChannelSuccess k | onUserJoined k _ | onUserOffline k | onLeaveChannel k | onToggleMute k
  | onCallEnd k _ => k < w.ctrl.size

instance (w : World) : (a : Action) → Decidable (a.enabled w)
  | .saveUser _ | .audioAndVideoCallApi _ _ _ | .audioAndVideoCall _ _ _ | .accept _ | .reject _
  | .removeCtrl _ _ => inferInstanceAs (Decidable True)
  | .onJoinChannelSuccess k | .onUserJoined k _ | .onUserOffline k | .onLeaveChannel k
  | .onToggleMute k | .onCallEnd k _ => inferInstanceAs (Decidable (k < w.ctrl.size))

/-- The devices of all users over one Firestore. -/
def calling : System World Scope Action where
  scope _ _ := .idle
  body := Action.body
  enabled := Action.enabled

instance (c : Config World Scope) : (e : Event Action) → Decidable (calling.admits c e)
  | .call a _ => inferInstanceAs (Decidable (a.enabled c.world))
  | .resume _ _ => inferInstanceAs (Decidable True)

end FlutterTheme.Calls
