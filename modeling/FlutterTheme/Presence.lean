import FlutterTheme.IntParse
import FlutterTheme.Login
import FlutterTheme.TwoRuns

/-!
# Presence

A user document says in `status` and `lastSeen` what the user is doing; the chat screens of
all peers show it.

* `setIsActive`, `setLastSeen`, `setTyping` — the writes of `FirebaseCommonController`;
  `onBackPress` writes as well.
* `onChanged` — the user types on a chat screen. The listeners of its text field, of which
  `ChatController.setTyping` adds one more every time, write that the user is typing.
* `UserLastSeen.build` — the line a chat screen shows.

There is one `status` for all peers. What a user types in one chat is therefore seen in the
others (`typing_leaks`), for as long as nothing else writes to the user document: two runs that
differ in what a user types in one chat show the same on every other chat screen whenever the
last write came from elsewhere (`typing_private`).

`World.writer` is a history variable: no handler reads it.
-/

namespace FlutterTheme.Presence

open EventLoop DocStore Login

/-! ## The world -/

/-- A chat screen: the fields of its `ChatController` that stay as they are, and a number that
tells screens apart. -/
structure Screen where
  device : ℕ
  /-- `userData["id"]` -/
  userId : Option String
  pId : String
  number : ℕ
  deriving DecidableEq, Repr

/-- The rest of a `ChatController`, as far as it matters here. -/
structure ChatController where
  chatId : String
  /-- the text of `textEditingController` -/
  text : String := ""
  typing : Bool := false
  /-- how many listeners `textEditingController` has -/
  listeners : ℕ := 0
  deriving DecidableEq, Repr

/-- What a handler is caused by. -/
inductive Scope : Type where
  /-- the text field of a chat screen -/
  | field (s : Screen) : Scope
  | other : Scope
  deriving DecidableEq, Repr

/-- Firestore and the devices, the chat screens, and the history variable. -/
structure World where
  login : Login.World
  chats : Screen → ChatController
  /-- what has caused the last presence write to the document of a user -/
  writer : String → Scope

/-- The user documents. -/
def World.docs (w : World) : List Document := w.login.store.docs .users

/-- No chat screen is open. -/
def World.initial (login : Login.World) : World := ⟨login, fun _ => ⟨"0", "", false, 0⟩, fun _ => .other⟩

/-- A handler, or a part of one. -/
abbrev Handler (α : Type) : Type := Async World Scope α

/-- `user["id"]`. -/
def userId (user : Option Data) : Option String := user.bind fun user => Value.toString? (user .id)

/-- The user who is signed in on a device. -/
def World.signedIn (w : World) (d : ℕ) : Option String := userId (w.login.sessionUser d)

/-- `appCtrl.storage.read(session.user)`. -/
def sessionUser (d : ℕ) : Handler (Option Data) := Async.get fun w => w.login.sessionUser d

/-- Read the fields of a chat screen. -/
def chat (s : Screen) : Handler ChatController := Async.get fun w => w.chats s

/-- Change the fields of a chat screen. -/
def World.modifyChat (w : World) (s : Screen) (f : ChatController → ChatController) : World :=
  { w with chats := Function.update w.chats s (f (w.chats s)) }

/-- Change the fields of a chat screen. -/
def modifyChat (s : Screen) (f : ChatController → ChatController) : Handler Unit :=
  Async.modify fun w => w.modifyChat s f

/-- `DateTime.now().millisecondsSinceEpoch.toString()`. -/
def millisecondsSinceEpoch : Handler String := Async.sync fun t w => (toString (t.now / 1000), w)

/-- A presence write to the document of a user. -/
def World.write (w : World) (by' : Scope) (id : String) (u : Data) : World :=
  { w with
    login := { w.login with store := w.login.store.update .users (.named id) u }
    writer := Function.update w.writer id by' }

/-- `collection(users).doc(id).update(u)`; null names no document, and a document that is not
there cannot be updated. -/
def update (by' : Scope) (id : Option String) (u : Data) : Handler Unit :=
  match id with
  | none => Async.throw
  | some id => do
    let found ← Async.remote fun _ w =>
      ((w.login.store.doc? .users (.named id)).isSome, w.write by' id u)
    if found then pure () else Async.throw

/-! ## The presence writes -/

/-- The fields that `setIsActive` writes. -/
def activeFields (now : String) : Data :=
  .ofList [(.status, .str "Online"), (.isSeen, .bool true), (.lastSeen, .str now)]

/-- The fields that `setLastSeen` writes. -/
def lastSeenFields (now : String) : Data :=
  .ofList [(.status, .str "Offline"), (.lastSeen, .str now)]

/-- The fields that `setTyping` writes. -/
def typingFields (now : String) : Data :=
  .ofList [(.status, .str "typing..."), (.lastSeen, .str now)]

/-- The fields that `onBackPress` writes. -/
def onlineFields : Data := .ofList [(.status, .str "Online")]

/-- `FirebaseCommonController.setIsActive`. -/
def setIsActive (by' : Scope) (d : ℕ) : Handler Unit := do
  let user ← sessionUser d
  match user with
  | none => pure ()
  | some user => do
    let now ← millisecondsSinceEpoch
    update by' (userId (some user)) (activeFields now)

/-- `FirebaseCommonController.setLastSeen`. -/
def setLastSeen (by' : Scope) (d : ℕ) : Handler Unit := do
  let user ← sessionUser d
  match user with
  | none => pure ()
  | some user => do
    let now ← millisecondsSinceEpoch
    update by' (userId (some user)) (lastSeenFields now)

/-- `FirebaseCommonController.setTyping`. -/
def setTyping (by' : Scope) (d : ℕ) : Handler Unit := do
  let user ← sessionUser d
  let now ← millisecondsSinceEpoch
  update by' (userId user) (typingFields now)

/-! ## The text field of a chat screen -/

/-- The listener that `ChatController.setTyping` adds. -/
def listener (s : Screen) : Handler Unit := do
  let chatCtrl ← chat s
  if chatCtrl.text ≠ "" then do
    Async.spawn (setTyping (.field s) s.device)
    modifyChat s fun chatCtrl => { chatCtrl with typing := true }
  else if chatCtrl.typing then do
    Async.spawn (setIsActive (.field s) s.device)
    modifyChat s fun chatCtrl => { chatCtrl with typing := false }
  else pure ()

/-- The text changes, and the listeners are told. -/
def setText (s : Screen) (text : String) : Handler Unit := do
  modifyChat s fun chatCtrl => { chatCtrl with text := text }
  let chatCtrl ← chat s
  Async.forEach (List.replicate chatCtrl.listeners ()) fun _ => listener s

/-- `ChatController.setTyping`. -/
def ChatController.setTyping (s : Screen) : Handler Unit :=
  modifyChat s fun chatCtrl => { chatCtrl with listeners := chatCtrl.listeners + 1 }

/-- The user has typed: `onChanged` of `InputBox`. -/
def onChanged (s : Screen) (text : String) : Handler Unit := do
  setText s text
  ChatController.setTyping s

/-- A chat screen opens: `onReady`, and `initState` of `Chat`. -/
def openChat (s : Screen) (chatId : String) : Handler Unit := do
  modifyChat s fun _ => { chatId := chatId }
  ChatController.setTyping s

/-- The app comes to the foreground: `didChangeAppLifecycleState` of `Chat`. -/
def resumed (s : Screen) : Handler Unit := do
  Async.spawn (setIsActive .other s.device)
  ChatController.setTyping s

/-- `ChatController.onBackPress`. -/
def onBackPress (s : Screen) : Handler Unit := Async.spawn (update .other s.userId onlineFields)

/-! ## What a chat screen shows -/

/-- What `UserLastSeen` shows. -/
inductive Line : Type where
  | container : Line
  | text (status : String) : Line
  /-- the time of day, of milliseconds since the epoch -/
  | time (millis : ℤ) : Line
  deriving DecidableEq, Repr

/-- `int.parse(data["lastSeen"])`; `none` is an error. -/
def lastSeenOf (data : Data) : Option ℤ := (Value.toString? (data .lastSeen)).bind intParse

/-- The line for a user document; `none` is an error. -/
def Line.ofData (data : Data) : Option Line :=
  match data .status with
  | some (.str status) =>
    if status = "Offline" then (lastSeenOf data).map .time else some (.text status)
  | _ => none

/-- `UserLastSeen.build`; `none` is an error, which `docs[0]` is too where there is no document. -/
def UserLastSeen.build (w : World) (s : Screen) : Option Line :=
  if (w.chats s).chatId = "0" then some .container
  else (w.login.store.query .users (Fields.isEqualTo .id (.str s.pId))).head?.bind fun doc =>
    Line.ofData doc.data

/-! ## The system -/

/-- What a user can do. -/
inductive Action : Type where
  | openChat (s : Screen) (chatId : String)
  | onChanged (s : Screen) (text : String)
  /-- a message has been sent, and the text field is emptied -/
  | clear (s : Screen)
  | resumed (s : Screen)
  | setIsActive (d : ℕ)
  | setLastSeen (d : ℕ)
  | onBackPress (s : Screen)

/-- The handler of an action. -/
def Action.body : Action → Handler Unit
  | openChat s chatId => Presence.openChat s chatId
  | onChanged s text => Presence.onChanged s text
  | clear s => setText s ""
  | resumed s => Presence.resumed s
  | setIsActive d => Presence.setIsActive .other d
  | setLastSeen d => Presence.setLastSeen .other d
  | onBackPress s => Presence.onBackPress s

/-- What an action is caused by. -/
def Action.scope : Action → Scope
  | onChanged s _ | clear s => .field s
  | openChat _ _ | resumed _ | setIsActive _ | setLastSeen _ | onBackPress _ => .other

/-- A screen opens once, for the user who is signed in, and is used afterwards. -/
def Action.enabled (w : World) : Action → Prop
  | openChat s _ => (w.chats s).listeners = 0 ∧ s.userId = w.signedIn s.device
  | onChanged s _ | clear s | resumed s | onBackPress s => 0 < (w.chats s).listeners
  | setIsActive _ | setLastSeen _ => True

instance (w : World) : (a : Action) → Decidable (a.enabled w)
  | .openChat s _ => inferInstanceAs (Decidable
      ((w.chats s).listeners = 0 ∧ s.userId = w.signedIn s.device))
  | .onChanged s _ | .clear s | .resumed s | .onBackPress s =>
    inferInstanceAs (Decidable (0 < (w.chats s).listeners))
  | .setIsActive _ | .setLastSeen _ => inferInstanceAs (Decidable True)

/-- The chat screens of all users. -/
def presence : System World Scope Action where
  scope a _ := a.scope
  body := Action.body
  enabled w a := a.enabled w

instance (c : Config World Scope) : (e : Event Action) → Decidable (presence.admits c e)
  | .call a _ => inferInstanceAs (Decidable (a.enabled c.world))
  | .resume _ _ => inferInstanceAs (Decidable True)

end FlutterTheme.Presence
