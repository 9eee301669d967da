import FlutterTheme.World

/-!
# One-to-one chats

The handlers behind a chat screen and the ways to open one.

* `saveMessageInUserCollection` — the inbox entry of a user for a conversation.
* `onSendMessage`, `blockUser`, `getChatData`, `seenMessage` — the handlers of
  `ChatController`; `buildItem` is how its screen shows a message.
* `deleteAlert` — the dialog that deletes a message.
* `saveContact`, `loadUser`, `tapCard` — opening a chat from a contact or from a
  card of the inbox.
* `userRegister` — how user documents come about.

`session.user` is read when a screen opens and kept there; `userData`, `pId`,
`pName` and `userContactModel` are not written after that, so a handler reads
them once.
-/

namespace FlutterTheme

open EventLoop DocStore

/-! ## The inbox entry of a conversation -/

/-- The fields that both branches of `saveMessageInUserCollection` write. -/
def inboxFields (updateStamp id : String) (receiverId : Value) (newChatId content senderId : String)
    (isBlock isBroadcast : Bool) : Data :=
  .ofList [
    (.updateStamp, .str updateStamp),
    (.lastMessage, .str content),
    (.senderId, .str senderId),
    (.chatId, .str newChatId),
    (.isSeen, .bool false),
    (.isGroup, .bool false),
    (.isBlock, .bool isBlock),
    (.isOneToOne, .bool true),
    (.isBroadcast, .bool isBroadcast),
    (.blockBy, .str (if isBlock then id else "")),
    (.blockUserId, if isBlock then receiverId else .str ""),
    (.receiverId, receiverId)]

/-- Write the fields to the first document found, or to a new one. -/
def saveFirst (p : Path) (found : List Document) (fields : Data) : Call Unit :=
  match found with
  | doc :: _ => update p doc.id fields
  | [] => add p fields

/-- The controller captured at the start has its text cleared and stops loading.
Where no chat screen is open, `Get.put` makes a controller nobody looks at. -/
def clearInput : Option ℕ → Call Unit
  | some chatCtrl => modifyChat chatCtrl fun s => { s with text := "", isLoading := false }
  | none => pure ()

/-- `ChatMessageApi.saveMessageInUserCollection`, called on device `d`. -/
def saveMessageInUserCollection (d : ℕ) (id : String) (receiverId : Value)
    (newChatId content senderId : String) (isBlock isBroadcast : Bool) : Call Unit := do
  let chatCtrl ← Async.get fun w => w.currentChat d
  let docs ← getDocs (.chats id) (Fields.isEqualTo .chatId (.str newChatId))
  let updateStamp ← millisecondsSinceEpoch
  saveFirst (.chats id) docs
    (inboxFields updateStamp id receiverId newChatId content senderId isBlock isBroadcast)
  clearInput chatCtrl

/-! ## Opening a chat screen -/

/-- Mark the first document found as seen. -/
def markSeen (p : Path) (found : List Document) : Call Unit :=
  match found with
  | doc :: _ => update p doc.id (.ofList [(.isSeen, .bool true)])
  | [] => pure ()

/-- The branch of `seenMessage` for a chat of a user with itself. -/
def seenOwn (s : ChatController) : Call Unit := do
  let docs ← getDocs (.messages s.chatId) (Fields.isEqualTo .isSeen (.bool false))
  Async.forEach docs fun doc =>
    update (.messages s.chatId) doc.id (.ofList [(.isSeen, .bool true)])

/-- The entry of a user for the conversation is marked as seen. -/
def seenInbox (user chatId : String) : Call Unit := do
  let docs ← getDocs (.chats user) (Fields.isEqualTo .chatId (.str chatId))
  markSeen (.chats user) docs

/-- `ChatController.seenMessage`. It runs only once the conversation has an
identifier, which does not change any more. -/
def seenMessage (c : ℕ) : Call Unit := do
  let s ← chat c
  (if s.userData.id = s.pId then seenOwn s else pure ())
  Async.spawn (seenInbox s.userData.id s.chatId)
  Async.spawn (seenInbox s.pId s.chatId)

/-- The first half of `getChatData`: the entry is looked up, but nothing is done
with it (`allData` stays as it is). -/
def lookUpEntry (c : ℕ) (s : ChatController) : Call Unit := do
  let _ ← getDocs (.chats s.userData.id) (Fields.isEqualTo .chatId (.str s.chatId))
  Async.spawn (seenMessage c)

/-- `ChatController.getChatData`. -/
def getChatData (c : ℕ) : Call Unit := do
  let s ← chat c
  Async.enter (.seen s.userData.id s.pId s.chatId)
  (if s.chatId ≠ "0" then lookUpEntry c s else pure ())
  let value ← getDoc .users (.named s.pId)
  modifyChat c fun s => { s with pData := value.map Doc.data }

/-- A chat screen opens on device `d` with the arguments `chatId` and `data`:
`ChatController.onReady`. -/
def openChat (d : ℕ) (chatId : String) (data : UserContactModel) : Call Unit := do
  let c ← Async.sync fun _ w =>
    (w.chatCtrl.size,
      { w with
        chatCtrl := w.chatCtrl.alloc {
          device := d
          userData := w.session d
          userContactModel := data
          pId := data.uid
          pName := data.username
          chatId := chatId }
        currentChat := Function.update w.currentChat d (some w.chatCtrl.size) })
  getChatData c

/-- The document is about the user `uid`: one of the tests in `saveContact`. -/
def isAbout (uid : String) (d : Data) : Bool :=
  d .senderId = some (.str uid) || d .receiverId = some (.str uid)

/-- Open the chat with the identifier stored in an inbox entry. -/
def openStored (d : ℕ) (data : UserContactModel) (document : Document) : Call Unit :=
  match document.data .chatId with
  | some (.str chatId) => openChat d chatId data
  | _ => Async.throw

/-- `MessageFirebaseApi.saveContact` for a registered contact. -/
def saveRegistered (d : ℕ) (userContact : UserContactModel) : Call Unit := do
  let user ← sessionUser d
  let docs ← getDocs (.chats user.id) (Fields.isEqualTo .isOneToOne (.bool true))
  match docs.filter (fun doc => isAbout userContact.uid doc.data) with
  | [] => openChat d "0" userContact
  | found => Async.forEach found (openStored d userContact)

/-- `MessageFirebaseApi.saveContact`; an unregistered contact gets an SMS. -/
def saveContact (d : ℕ) (userContact : UserContactModel) (isRegister : Bool) : Call Unit :=
  if isRegister then saveRegistered d userContact else pure ()

/-! ## The cards of the inbox -/

/-- The widgets `LoadUser` chooses from. -/
inductive Card : Type where
  | receiverMessageCard | messageCard | groupMessageCard | broadCastMessageCard | container
  deriving DecidableEq, Repr

/-- `user.where((element) => element["id"] == currentUserId).isNotEmpty`. -/
def isMember (currentUserId : String) (users : List SelectedContact) : Bool :=
  users.any fun element => element.id = currentUserId

/-- The card of a conversation of two users. -/
def oneToOneCard (document : Data) (currentUserId : String) : Option Card :=
  (document .senderId).map fun senderId =>
    if senderId = .str currentUserId then .receiverMessageCard else .messageCard

/-- The card of a group. -/
def groupCard (document : Data) (currentUserId : String) : Option Card :=
  match document .receiverId with
  | some (.contacts user) =>
    some (if isMember currentUserId user then .groupMessageCard else .container)
  | _ => none

/-- The card of a broadcast, or of a conversation last written by a broadcast. -/
def broadcastCard (document : Data) (currentUserId : String) : Option Card :=
  (document .senderId).map fun senderId =>
    if senderId = .str currentUserId then .broadCastMessageCard else .messageCard

/-- `LoadUser.build`: the card for an inbox entry, `none` where reading a field
that is not there throws. -/
def loadUser (document : Data) (currentUserId : String) : Option Card := do
  let isGroup ← document .isGroup
  if isGroup = .bool true then groupCard document currentUserId
  else
    let isBroadcast ← document .isBroadcast
    if isGroup = .bool false ∧ isBroadcast = .bool false then oneToOneCard document currentUserId
    else if isBroadcast = .bool true then broadcastCard document currentUserId
    else some .container

/-- The contact that a card passes on, made from the user document it shows;
`none` where reading a field that is not there throws. -/
def cardContact (uid : String) (user : Data) : Option UserContactModel :=
  match user .name, user .phone, user .image with
  | some (.str name), some (.str phone), some (.str image) =>
    some { uid := uid, username := name, phoneNumber := phone, image := image, isRegister := true }
  | _, _, _ => none

/-- `onTap` of `ReceiverMessageCard` (`peer` is the key `receiverId`) and of
`MessageCard` (`senderId`): the user document shown on the card is fetched, and
the chat opens with the peer and the identifier stored in the entry. -/
def tapMessageCard (d : ℕ) (document : Document) (peer : Key) : Call Unit :=
  match document.data peer with
  | some (.str uid) => do
    let snapshot ← getDoc .users (.named uid)
    match snapshot.bind (cardContact uid ·.data) with
    | some userContact => openStored d userContact document
    | none => Async.throw
  | _ => Async.throw

/-! ## Sending -/

/-- The fields of a message. -/
def messageFields (timestamp sender : String) (receiver : Value) (content chatId : String)
    (type : MessageType) (isBroadcast : Bool) : Data :=
  .ofList [
    (.sender, .str sender),
    (.receiver, receiver),
    (.content, .str content),
    (.chatId, .str chatId),
    (.type, .str type.name),
    (.messageType, .str "sender"),
    (.isBlock, .bool false),
    (.isSeen, .bool false),
    (.isBroadcast, .bool isBroadcast),
    (.blockBy, .str ""),
    (.blockUserId, .str ""),
    (.timestamp, .str timestamp)]

/-- `chatId == "0" ? now.microsecondsSinceEpoch.toString() : chatId`, which
becomes the controller's `chatId`. -/
def assignChatId (c : ℕ) (t : Tick) (w : World) : String × World :=
  let s := w.chatCtrl.get c
  if s.chatId = "0" then
    (toString t.now,
      { w with
        chatCtrl := w.chatCtrl.modify c fun s => { s with chatId := toString t.now }
        minted := (toString t.now, s(s.userData.id, s.pId)) :: w.minted })
  else (s.chatId, w)

/-- The identifier of the conversation, made now if there is none. -/
def newChatId (c : ℕ) : Call String := Async.sync (assignChatId c)

/-- `isLoading` of the chat screen. -/
def setLoading (c : ℕ) (isLoading : Bool) : Call Unit :=
  modifyChat c fun s => { s with isLoading := isLoading }

/-- A message of the screen's user goes into the log of the conversation. -/
def addMessage (s : ChatController) (receiver : Value) (newChatId content : String)
    (type : MessageType) : Call Unit := do
  let timestamp ← millisecondsSinceEpoch
  add (.messages newChatId)
    (messageFields timestamp s.userData.id receiver content newChatId type false)

/-- The message and the entries of both participants. -/
def deliver (c : ℕ) (s : ChatController) (newChatId content : String) (type : MessageType) :
    Call Unit := do
  addMessage s (.str s.pId) newChatId content type
  setLoading c false
  saveMessageInUserCollection s.device s.userData.id (.str s.pId) newChatId content s.userData.id
    false false
  saveMessageInUserCollection s.device s.pId (.str s.pId) newChatId content s.userData.id
    false false
  setLoading c false

/-- Someone else has blocked: the message and the entry of `pData["id"]` only. -/
def deliverBlocked (c : ℕ) (s : ChatController) (newChatId content : String) (type : MessageType) :
    Call Unit :=
  match s.pData.bind (· .id) with
  | some (.str id) => do
    addMessage s (.str id) newChatId content type
    setLoading c false
    saveMessageInUserCollection s.device id (.str s.userData.id) newChatId content s.userData.id
      false false
    setLoading c false
  | _ => Async.throw

/-- The branches of `onSendMessage` for a loaded `allData`. Where the user has
blocked the peer a snack bar says so. -/
def deliverKnown (c : ℕ) (s : ChatController) (allData : Data) (newChatId content : String)
    (type : MessageType) : Call Unit :=
  if allData .isBlock = some (.bool true) then
    if allData .blockUserId = some (.str s.pId) then pure ()
    else deliverBlocked c s newChatId content type
  else deliver c s newChatId content type

/-- The branches of `onSendMessage` on whether there is `allData`. -/
def dispatch (c : ℕ) (s : ChatController) (newChatId content : String) (type : MessageType) :
    Call Unit :=
  match s.allData with
  | some allData => do
    deliverKnown c s allData newChatId content type
    setLoading c false
  | none => do
    setLoading c false
    deliver c s newChatId content type
    Async.spawn (getChatData c)

/-- `onSendMessage` for a content that is not blank. -/
def send (c : ℕ) (content : String) (type : MessageType) : Call Unit := do
  modifyChat c fun s => { s with text := "" }
  let chatId ← newChatId c
  let s ← chat c
  Async.enter (.send s.userData.id s.pId chatId)
  dispatch c s chatId content type

/-- The push notification at the end of `onSendMessage`; `pData` is null until
the user document of the peer has been loaded. -/
def notify (c : ℕ) (content : String) : Call Unit := do
  let s ← chat c
  match s.pData with
  | none => Async.throw
  | some pData =>
    if pData .pushToken = some (.str "") then pure ()
    else Async.spawn (sendNotification {
      title := "Single Message"
      msg := content
      token := (pData .pushToken).getD .null
      image := some s.userData.image
      dataTitle := s.pName
      chatId := some s.chatId
      userContactModel := some s.userContactModel
      pId := some s.pId
      pName := some s.pName })

/-- `ChatController.onSendMessage`. -/
def onSendMessage (c : ℕ) (content : String) (type : MessageType) : Call Unit := do
  let s ← chat c
  Async.enter (.send s.userData.id s.pId s.chatId)
  setLoading c true
  (if isBlank content then pure () else send c content type)
  notify c content
  setLoading c false

/-! ## Blocking -/

/-- The fields of the message that records a block or its end. -/
def blockFields (timestamp sender receiver content chatId : String) : Data :=
  .ofList [
    (.sender, .str sender),
    (.receiver, .str receiver),
    (.content, .str content),
    (.chatId, .str chatId),
    (.type, .str MessageType.messageType.name),
    (.isBlock, .bool true),
    (.blockBy, .str sender),
    (.blockUserId, .str receiver),
    (.messageType, .str "sender"),
    (.timestamp, .str timestamp)]

/-- The message of `blockUser`, which is not awaited. -/
def addBlockMessage (s : ChatController) (newChatId content : String) : Call Unit := do
  let timestamp ← millisecondsSinceEpoch
  Async.spawn (add (.messages newChatId)
    (blockFields timestamp s.userData.id s.pId content newChatId))

/-- The first branch of `blockUser`. -/
def unblock (s : ChatController) (newChatId : String) : Call Unit := do
  addBlockMessage s newChatId "You unblock this contact"
  saveMessageInUserCollection s.device s.userData.id (.str s.pId) newChatId
    "You unblock this contact" s.userData.id true false

/-- The second branch of `blockUser`; `pData["id"]` throws while `pData` is null. -/
def block (s : ChatController) (newChatId : String) : Call Unit := do
  addBlockMessage s newChatId "You block this contact"
  match s.pData with
  | none => Async.throw
  | some pData =>
    saveMessageInUserCollection s.device s.userData.id ((pData .id).getD .null) newChatId
      "You block this contact" s.userData.id true false

/-- The action is entered in the history. -/
def logBlock (s : ChatController) (newChatId : String) : Call Unit :=
  Async.modify fun w =>
    { w with blockLog := ⟨s.userData.id, s.pId, newChatId, !s.isBlock⟩ :: w.blockLog }

/-- `ChatController.blockUser`. -/
def blockUser (c : ℕ) : Call Unit := do
  let newChatId ← newChatId c
  let s ← chat c
  Async.enter (.block s.userData.id s.pId newChatId)
  logBlock s newChatId
  (if s.isBlock then unblock s newChatId else block s newChatId)

/-! ## The messages on the screen -/

/-- The widgets `buildItem` chooses from. -/
inductive Item : Type where
  | senderMessage | receiverMessage | container
  deriving DecidableEq, Repr

/-- `ChatController.buildItem` on the screen of `user`, `none` where reading a
field that is not there throws. -/
def buildItem (document : Data) (user : String) : Option Item := do
  let sender ← document .sender
  if sender = .str user then some .senderMessage
  else
    let type ← document .type
    if type = .str MessageType.messageType.name then some .container
    else
      let isBlock ← document .isBlock
      some (if isBlock = .bool true then .container else .receiverMessage)

/-! ## Deleting a message -/

/-- The last part of the dialog, on the collection `contacts` of an earlier
version: without a message left the first contact is deleted, otherwise it is
updated with `sender["id"]`, which throws since `sender` is a text. -/
def deleteContact (chatId : String) (messages : List Document) : Call Unit := do
  let found ← getDocs .contacts (Fields.isEqualTo .chatId (.str chatId))
  match messages, found with
  | [], doc :: _ => delete .contacts doc.id
  | [], [] => Async.throw
  | _ :: _, _ :: _ => Async.throw
  | _ :: _, [] => pure ()

/-- "Yes" in `DeleteAlert` for a message of the open chat. -/
def deleteAlert (c : ℕ) (documentReference : DocId) : Call Unit := do
  let s ← chat c
  Async.enter (.deleteMessage s.chatId documentReference)
  Async.spawn (delete (.messages s.chatId) documentReference)
  -- `runTransaction` with an empty body
  Async.remote fun _ w => ((), w)
  let s ← chat c
  let messages ← getDocs (.messages s.chatId) fun _ => true
  let s ← chat c
  Async.spawn (deleteContact s.chatId messages)

/-! ## Registration -/

/-- A text that may be null. -/
def Value.ofOption : Option String → Value
  | some s => .str s
  | none => .null

/-- The fields of a user document, as far as the chat handlers read them. -/
def userFields (user : UserData) (email : String) (pushToken : Option String) : Data :=
  .ofList [
    (.id, .str user.id),
    (.image, .str user.image),
    (.name, .str user.name),
    (.pushToken, .ofOption pushToken),
    (.status, .str "Offline"),
    (.phone, .str user.phone),
    (.email, .str email),
    (.statusDesc, .str "Hello, I am using Chatter")]

/-- `FirebaseAuthController.userRegister`. -/
def userRegister (user : UserData) (email : String) (pushToken : Option String) : Call Unit := do
  Async.enter (.register user.id)
  let value ← getDocs .users (Fields.isEqualTo .email (.str email))
  match value with
  | _ :: _ => pure ()
  | [] => set .users user.id (userFields user email pushToken)

end FlutterTheme
