import FlutterTheme.EventLoop
import FlutterTheme.Heap
import FlutterTheme.IntParse
import FlutterTheme.DocStore
import Mathlib.Data.Sym.Sym2

/-!
# The world of the chat application

What the message handlers read and write: the Firestore collections below
`users`, `messages`, `groups`, `groupMessage`, `broadcast` and
`broadcastMessage`, and on every device the controllers of the open screens.
Firestore is a store of schemaless documents with atomic single-document
operations; a controller is an object of its device's heap and outlives the
screen it was made for, since handlers that are still running keep a reference
to it.

`World.minted`, `World.blockLog` and `World.broadcastLog` are history variables: no
handler reads them.
-/

namespace FlutterTheme

open EventLoop DocStore

/-! ## Documents -/

/-- The collections; `chats u` is `users/u/chats`, `messages c` is
`messages/c/chat`, and likewise for `groupMessage` and `broadcastMessage`. -/
inductive Path : Type where
  | users : Path
  | chats : String → Path
  | messages : String → Path
  | groups : Path
  | groupMessage : String → Path
  | broadcast : Path
  | broadcastMessage : String → Path
  /-- the collection `contacts` of an earlier version, which `DeleteAlert` still reads -/
  | contacts : Path
  deriving DecidableEq, Repr

/-- The field names of these documents. -/
inductive Key : Type where
  | updateStamp | lastMessage | senderId | chatId | isSeen | isGroup | isBlock | isOneToOne
  | isBroadcast | isBroadcastSender | blockBy | blockUserId | receiverId | receiver | groupId
  | broadcastId | timestamp | sender | senderName | content | type | messageType | status
  | name | image | users | createdBy | id | phone | pushToken | email | isActive | statusDesc
  /-- read by the cards of the inbox, and never stored -/
  | group | blockUserMessage
  deriving DecidableEq, Repr

/-- The map kept as `session.user`, as far as the chat handlers read it. -/
structure UserData where
  id : String
  name : String
  phone : String
  image : String
  deriving DecidableEq, Repr, Inhabited

/-- An entry of a list of selected contacts or of broadcast recipients. The
entry `chatId` is absent, or null, until a conversation with the contact is
known. -/
structure SelectedContact where
  id : String
  name : String
  phone : String
  image : String
  chatId : Option String := none
  deriving DecidableEq, Repr, Inhabited

/-- The values stored in these documents. -/
inductive Value : Type where
  | null : Value
  | bool : Bool → Value
  | str : String → Value
  | contacts : List SelectedContact → Value
  | user : UserData → Value
  deriving DecidableEq, Repr

/-- The fields of a document. -/
abbrev Data : Type := Fields Key Value

/-- A document with its identifier. -/
abbrev Document : Type := Doc Key Value

/-- `MessageType`. -/
inductive MessageType : Type where
  | text | image | video | doc | location | contact | audio | messageType | gif
  deriving DecidableEq, Repr

/-- The name of an enumeration value, as `type.name` gives it. -/
def MessageType.name : MessageType → String
  | text => "text"
  | image => "image"
  | video => "video"
  | doc => "doc"
  | location => "location"
  | contact => "contact"
  | audio => "audio"
  | messageType => "messageType"
  | gif => "gif"

/-! ## Controllers -/

/-- `UserContactModel`, as far as a chat screen reads it. -/
structure UserContactModel where
  uid : String
  username : String
  phoneNumber : String
  image : String
  isRegister : Bool
  deriving DecidableEq, Repr, Inhabited

/-- `ChatController`. -/
structure ChatController where
  /-- the device the screen is on -/
  device : ℕ
  userData : UserData
  userContactModel : UserContactModel
  pId : String
  pName : String
  /-- `"0"` until the conversation has an identifier -/
  chatId : String
  /-- the user document of the peer, null until `getChatData` has loaded it -/
  pData : Option Data := none
  allData : Option Data := none
  isBlock : Bool := false
  isLoading : Bool := false
  /-- the text of `textEditingController` -/
  text : String := ""
  deriving Inhabited

/-- `BroadcastChatController`. -/
structure BroadcastChatController where
  device : ℕ
  userData : UserData
  /-- the identifier of the broadcast -/
  pId : String
  pData : List SelectedContact
  /-- references to entries of `pData`, in the order they were appended -/
  newpData : List ℕ := []
  /-- the text of `textEditingController` -/
  text : String := ""
  deriving Inhabited

/-- `CreateGroupController`. The selected contacts are maps the controller
refers to; `contacts` is the heap they live in. -/
structure CreateGroupController where
  device : ℕ
  isGroup : Bool
  contacts : Heap SelectedContact := .empty
  /-- references to the selected contacts -/
  selectedContact : List ℕ := []
  /-- references to the contacts whose chats have been looked up -/
  newContact : List ℕ := []
  isLoading : Bool := false
  imageUrl : String := ""
  /-- the file picked by the shared `PickerController`, if any -/
  imageFile : Option String := none
  /-- the text of `txtGroupName` -/
  txtGroupName : String := ""
  deriving Inhabited

/-- `GroupChatMessageController`. -/
structure GroupChatMessageController where
  device : ℕ
  /-- the identifier of the group -/
  pId : String
  pName : String
  /-- `pData["users"]` -/
  users : List SelectedContact
  isLoading : Bool := false
  /-- the text of `textEditingController` -/
  text : String := ""
  deriving Inhabited

/-- The arguments of one `sendNotification`. -/
structure Notification where
  title : String
  msg : String
  token : Value
  image : Option String := none
  dataTitle : String
  chatId : Option String := none
  groupId : Option String := none
  userContactModel : Option UserContactModel := none
  pId : Option String := none
  pName : Option String := none
  deriving DecidableEq, Repr

/-! ## The world -/

/-- One call of `blockUser`, with the flag it found. -/
structure BlockAction where
  /-- the user who called -/
  blocker : String
  /-- the peer -/
  blocked : String
  /-- the conversation -/
  chatId : String
  /-- whether it was the blocking branch -/
  block : Bool
  deriving DecidableEq, Repr

/-- Firestore, the devices, and the history variables. -/
structure World where
  store : Store Path Key Value
  /-- `session.user` of each device -/
  session : ℕ → UserData
  chatCtrl : Heap ChatController
  /-- the `ChatController` that `Get.find` returns on each device -/
  currentChat : ℕ → Option ℕ
  broadcastCtrl : Heap BroadcastChatController
  createCtrl : Heap CreateGroupController
  groupCtrl : Heap GroupChatMessageController
  /-- the notifications sent, newest first -/
  notifications : List Notification
  /-- the chat ids made from the clock, each with the two users it was made for,
  newest first -/
  minted : List (String × Sym2 String)
  /-- the calls of `blockUser`, newest first -/
  blockLog : List BlockAction
  /-- the messages sent to broadcasts, each with its screen, newest first -/
  broadcastLog : List (ℕ × String)

/-- Nothing is stored and no screen is open. -/
def World.initial (session : ℕ → UserData) : World where
  store := .empty
  session := session
  chatCtrl := .empty
  currentChat _ := none
  broadcastCtrl := .empty
  createCtrl := .empty
  groupCtrl := .empty
  notifications := []
  minted := []
  blockLog := []
  broadcastLog := []

/-! ## What a handler is working on -/

/-- What a handler is working on: the conversation, group or broadcast, given by
the local variables of the handler that name it. -/
inductive Scope : Type where
  /-- no stored document is written -/
  | idle : Scope
  /-- `userRegister` of a user -/
  | register : String → Scope
  /-- `onSendMessage` by the first user to the second in a conversation -/
  | send : String → String → String → Scope
  /-- `blockUser` by the first user in the conversation with the second -/
  | block : String → String → String → Scope
  /-- `getChatData` and `seenMessage` of the first user in the conversation with the second -/
  | seen : String → String → String → Scope
  /-- `DeleteAlert` on a message of a conversation -/
  | deleteMessage : String → DocId → Scope
  /-- `createGroup` and messages of a group -/
  | group : String → Scope
  /-- creation and messages of a broadcast, by its owner -/
  | broadcast : String → String → Scope
  /-- a message of a broadcast, while its handler gives the copies time to arrive -/
  | broadcastWait : String → String → Scope
  /-- the copy of a broadcast message for a recipient in a conversation, until
  the recipient is in `newpData` -/
  | firstCopy : String → String → String → String → Scope
  /-- the copy of a broadcast message for a recipient in a conversation -/
  | copy : String → String → String → String → Scope
  /-- the inbox entry of a user for a conversation, saved by itself -/
  | save : String → String → Scope
  deriving DecidableEq, Repr

/-- A handler, or a part of one. -/
abbrev Call (α : Type) : Type := Async World Scope α

/-! ## The Firestore calls -/

/-- `collection(p).where(q).get()`. -/
def getDocs (p : Path) (q : Data → Bool) : Call (List Document) :=
  Async.remote fun _ w => (w.store.query p q, w)

/-- `collection(p).doc(id).get()`. -/
def getDoc (p : Path) (id : DocId) : Call (Option Document) :=
  Async.remote fun _ w => (w.store.doc? p id, w)

/-- `collection(p).add(d)`. -/
def add (p : Path) (d : Data) : Call Unit :=
  Async.remote fun t w => ((), { w with store := w.store.add p t.pos d })

/-- `collection(p).doc(name).set(d)`. -/
def set (p : Path) (name : String) (d : Data) : Call Unit :=
  Async.remote fun t w => ((), { w with store := w.store.set p name t.pos d })

/-- `collection(p).doc(id).update(u)`, which throws if there is no such document. -/
def update (p : Path) (id : DocId) (u : Data) : Call Unit := do
  let found ← Async.remote fun _ w =>
    ((w.store.doc? p id).isSome, { w with store := w.store.update p id u })
  if found then pure () else Async.throw

/-- `collection(p).doc(id).delete()`. -/
def delete (p : Path) (id : DocId) : Call Unit :=
  Async.remote fun _ w => ((), { w with store := w.store.delete p id })

/-- `DateTime.now().millisecondsSinceEpoch.toString()`. -/
def millisecondsSinceEpoch : Call String :=
  Async.sync fun t w => (toString (t.now / 1000), w)

/-- A time, as a text. -/
def IsStamp (s : String) : Prop := ∃ n : ℕ, s = toString n

/-- `DateTime.now().microsecondsSinceEpoch.toString()`. -/
def microsecondsSinceEpoch : Call String :=
  Async.sync fun t w => (toString t.now, w)

/-- `Future.delayed(d)`. -/
def delayed : Call Unit := Async.pause

/-- `FirebaseCommonController.sendNotification`; a failure is caught and logged. -/
def sendNotification (n : Notification) : Call Unit := do
  let _ ← Async.attempt fun _ w => ((), { w with notifications := n :: w.notifications })
  pure ()

/-! ## The controllers of the open screens -/

/-- Change the fields of a `ChatController`. -/
def modifyChat (c : ℕ) (f : ChatController → ChatController) : Call Unit :=
  Async.modify fun w => { w with chatCtrl := w.chatCtrl.modify c f }

/-- Read the fields of a `ChatController`. -/
def chat (c : ℕ) : Call ChatController := Async.get fun w => w.chatCtrl.get c

/-- Change the fields of a `BroadcastChatController`. -/
def modifyBroadcast (b : ℕ) (f : BroadcastChatController → BroadcastChatController) : Call Unit :=
  Async.modify fun w => { w with broadcastCtrl := w.broadcastCtrl.modify b f }

/-- Read the fields of a `BroadcastChatController`. -/
def broadcastChat (b : ℕ) : Call BroadcastChatController := Async.get fun w => w.broadcastCtrl.get b

/-- Change the fields of a `CreateGroupController`. -/
def modifyCreate (g : ℕ) (f : CreateGroupController → CreateGroupController) : Call Unit :=
  Async.modify fun w => { w with createCtrl := w.createCtrl.modify g f }

/-- Read the fields of a `CreateGroupController`. -/
def createGroupCtrl (g : ℕ) : Call CreateGroupController := Async.get fun w => w.createCtrl.get g

/-- Change the fields of a `GroupChatMessageController`. -/
def modifyGroup (g : ℕ) (f : GroupChatMessageController → GroupChatMessageController) : Call Unit :=
  Async.modify fun w => { w with groupCtrl := w.groupCtrl.modify g f }

/-- Read the fields of a `GroupChatMessageController`. -/
def groupChat (g : ℕ) : Call GroupChatMessageController := Async.get fun w => w.groupCtrl.get g

/-- `appCtrl.storage.read(session.user)`. -/
def sessionUser (d : ℕ) : Call UserData := Async.get fun w => w.session d

/-- `content.trim() == ''`. -/
def isBlank (content : String) : Bool := content.toList.all isWhitespace

theorem ne_empty_of_not_isBlank {content : String} (h : ¬ isBlank content = true) :
    content ≠ "" := by
  rintro rfl
  exact h rfl

end FlutterTheme
