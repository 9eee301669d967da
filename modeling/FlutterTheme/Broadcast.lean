import FlutterTheme.Chat
import FlutterTheme.Group

/-!
# Broadcasts

* `addGroupBottomSheet` — creating a broadcast, with `checkChatAvailable`, which
  looks up the conversations with its recipients.
* `BroadcastChat.onSendMessage` — a message to a broadcast; `saveMessageInLoop`
  starts one copy for each recipient and awaits none of them.
-/

namespace FlutterTheme

open EventLoop DocStore

/-! ## The conversations with the selected contacts -/

/-- The document is of the conversation between the two users. -/
def isBetween (a b : String) (d : Data) : Bool :=
  (d .senderId = some (.str a) && d .receiverId = some (.str b)) ||
    (d .senderId = some (.str b) && d .receiverId = some (.str a))

/-- The identifier of the conversation of an inbox entry. -/
def chatIdOf (d : Data) : Option String :=
  match d .chatId with
  | some (.str chatId) => some chatId
  | _ => none

/-- The `chatId` of the contact `e` is set, and the contact is in `newContact`. -/
def CreateGroupController.setChatId (s : CreateGroupController) (e : ℕ) (chatId : Option String) :
    CreateGroupController :=
  { s with
    contacts := s.contacts.modify e fun value => { value with chatId := chatId }
    newContact := if e ∈ s.newContact then s.newContact else s.newContact ++ [e] }

/-- One inbox entry is compared with the contact `e`. -/
def CreateGroupController.compare (user : String) (e : ℕ) (s : CreateGroupController)
    (element : Document) : CreateGroupController :=
  s.setChatId e
    (if isBetween user (s.contacts.get e).id element.data then chatIdOf element.data else none)

/-- The inbox entries are compared with the contact `e` one after the other. -/
def CreateGroupController.available (user : String) (e : ℕ) (docs : List Document)
    (s : CreateGroupController) : CreateGroupController :=
  match docs with
  | [] => s.setChatId e none
  | docs => docs.foldl (CreateGroupController.compare user e) s

/-- The conversation with one selected contact is looked up. -/
def checkContact (g : ℕ) (user : String) (e : ℕ) : Call Unit := do
  let docs ← getDocs (.chats user) (Fields.isEqualTo .isOneToOne (.bool true))
  modifyCreate g (CreateGroupController.available user e docs)

/-- `CreateGroupController.checkChatAvailable`. -/
def checkChatAvailable (g : ℕ) : Call Unit := do
  let s ← createGroupCtrl g
  let user ← sessionUser s.device
  Async.forEach s.selectedContact (checkContact g user.id)

/-! ## The broadcast screen -/

/-- A broadcast screen opens with the owner's entry for it:
`BroadcastChatController.onReady`. -/
def openBroadcast (d : ℕ) (broadcastId : String) (data : Data) : Call Unit :=
  match data .receiverId with
  | some (.contacts pData) =>
    Async.modify fun w =>
      { w with broadcastCtrl := w.broadcastCtrl.alloc {
          device := d, userData := w.session d, pId := broadcastId, pData := pData } }
  | _ => Async.throw

/-- `onTap` of `BroadCastMessageCard`. -/
def tapBroadcastCard (d : ℕ) (document : Document) : Call Unit :=
  match document.data .broadcastId with
  | some (.str broadcastId) => openBroadcast d broadcastId document.data
  | _ => Async.throw

/-! ## Creating a broadcast -/

/-- The fields of a broadcast. -/
def broadcastFields (users : List SelectedContact) (broadcastId : String) (user : UserData)
    (timestamp : String) : Data :=
  .ofList [
    (.users, .contacts users),
    (.broadcastId, .str broadcastId),
    (.createdBy, .user user),
    (.timestamp, .str timestamp)]

/-- The fields of a message in the log of a broadcast. -/
def broadcastMessageFields (user : UserData) (receiver : List SelectedContact)
    (content broadcastId : String) (type : MessageType) (timestamp : String) : Data :=
  .ofList [
    (.sender, .str user.id),
    (.senderName, .str user.name),
    (.receiver, .contacts receiver),
    (.content, .str content),
    (.broadcastId, .str broadcastId),
    (.type, .str type.name),
    (.messageType, .str "sender"),
    (.status, .str ""),
    (.timestamp, .str timestamp)]

/-- The fields of the owner's inbox entry for a broadcast. -/
def broadcastEntryFields (receiverId : List SelectedContact) (broadcastId : String)
    (user : UserData) (timestamp : String) : Data :=
  .ofList [
    (.receiver, .null),
    (.broadcastId, .str broadcastId),
    (.receiverId, .contacts receiverId),
    (.senderId, .str user.id),
    (.timestamp, .str timestamp),
    (.lastMessage, .str "You created this broadcast"),
    (.isBroadcast, .bool true),
    (.isGroup, .bool false),
    (.isBlock, .bool false),
    (.updateStamp, .str timestamp)]

/-- The first message of a broadcast. -/
def addBroadcastCreated (s : CreateGroupController) (user : UserData) (broadcastId : String) :
    Call Unit := do
  let timestamp ← millisecondsSinceEpoch
  add (.broadcastMessage broadcastId)
    (broadcastMessageFields user (s.entries s.newContact) "You created this broadcast" broadcastId
      .messageType timestamp)

/-- The screen of the broadcast just created opens. -/
def openCreated (d : ℕ) (user : UserData) (broadcastId : String) : Call Unit := do
  let value ← getDocs (.chats user.id) (Fields.isEqualTo .broadcastId (.str broadcastId))
  match value with
  | doc :: _ => openBroadcast d broadcastId doc.data
  | [] => Async.throw

/-- `addGroupBottomSheet` for a broadcast, from the time its recipients have been
looked up. -/
def createBroadcastDocs (g d : ℕ) (user : UserData) (broadcastId : String) : Call Unit := do
  delayed
  let timestamp ← millisecondsSinceEpoch
  let s ← createGroupCtrl g
  set .broadcast broadcastId (broadcastFields (s.entries s.newContact) broadcastId user timestamp)
  let s ← createGroupCtrl g
  Async.spawn (addBroadcastCreated s user broadcastId)
  let timestamp ← millisecondsSinceEpoch
  let s ← createGroupCtrl g
  add (.chats user.id)
    (broadcastEntryFields (s.entries s.newContact) broadcastId user timestamp)
  modifyCreate g fun s => { s with selectedContact := [], newContact := [], isLoading := false }
  Async.spawn (openCreated d user broadcastId)

/-- `addGroupBottomSheet` for a broadcast. -/
def createBroadcast (g : ℕ) (s : CreateGroupController) : Call Unit := do
  let user ← sessionUser s.device
  modifyCreate g fun s => { s with isLoading := true }
  let broadcastId ← microsecondsSinceEpoch
  Async.enter (.broadcast user.id broadcastId)
  checkChatAvailable g
  createBroadcastDocs g s.device user broadcastId

/-- `CreateGroupController.addGroupBottomSheet`; for a group the sheet with
`createGroup` is shown. -/
def addGroupBottomSheet (g : ℕ) : Call Unit := do
  let s ← createGroupCtrl g
  if s.isGroup then pure () else createBroadcast g s

/-! ## Messages to a broadcast -/

/-- The entry of `pData` at an index. -/
def BroadcastChatController.recipient (s : BroadcastChatController) (i : ℕ) : SelectedContact :=
  s.pData.getD i default

/-- The entries that `newpData` refers to. -/
def BroadcastChatController.reached (s : BroadcastChatController) : List SelectedContact :=
  s.newpData.map s.recipient

/-- `element.value["chatId"] = chatId`. -/
def BroadcastChatController.setChatId (s : BroadcastChatController) (i : ℕ) (chatId : String) :
    BroadcastChatController :=
  { s with pData := s.pData.modify i fun value => { value with chatId := some chatId } }

namespace BroadcastChatController

variable {s : BroadcastChatController} {i j : ℕ} {chatId : String}

theorem recipient_eq (hi : i < s.pData.length) : s.recipient i = s.pData[i] := by
  rw [recipient, List.getD_eq_getElem?_getD, List.getElem?_eq_getElem hi, Option.getD_some]

theorem recipient_mem (hi : i < s.pData.length) : s.recipient i ∈ s.pData := by
  rw [recipient_eq hi]
  exact List.getElem_mem hi

/-- The entries of `pData` are the recipients at the indices below its length. -/
theorem mem_pData {e : SelectedContact} (he : e ∈ s.pData) :
    ∃ i, i < s.pData.length ∧ s.recipient i = e := by
  obtain ⟨i, hi, he⟩ := List.getElem_of_mem he
  exact ⟨i, hi, (recipient_eq hi).trans he⟩

theorem length_setChatId : (s.setChatId i chatId).pData.length = s.pData.length :=
  List.length_modify ..

theorem recipient_setChatId (hj : j < s.pData.length) :
    (s.setChatId i chatId).recipient j =
      if i = j then { s.recipient j with chatId := some chatId } else s.recipient j := by
  have hj' : j < (s.setChatId i chatId).pData.length := by rwa [length_setChatId]
  rw [recipient_eq hj, recipient_eq hj']
  simp only [setChatId, List.getElem_modify]

/-- Setting a chat id leaves the recipients the same users. -/
theorem ids_setChatId :
    (s.setChatId i chatId).pData.map SelectedContact.id = s.pData.map SelectedContact.id := by
  refine List.ext_getElem (by simp [length_setChatId]) ?_
  intro j _ hj
  simp only [List.length_map] at hj
  simp only [List.getElem_map, setChatId, List.getElem_modify]
  split <;> rfl

end BroadcastChatController

/-- `newpData.add(element.value)`. -/
def addReached (b i : ℕ) : Call Unit :=
  modifyBroadcast b fun s => { s with newpData := s.newpData ++ [i] }

/-- `now.microsecondsSinceEpoch.toString()`, which becomes the `chatId` of the
recipient. -/
def newRecipientChatId (b i : ℕ) : Call String :=
  Async.sync fun t w =>
    let s := w.broadcastCtrl.get b
    (toString t.now,
      { w with
        broadcastCtrl := w.broadcastCtrl.modify b (·.setChatId i (toString t.now))
        minted := (toString t.now, s(s.userData.id, (s.recipient i).id)) :: w.minted })

/-- The copy of the message for one recipient. -/
def addCopy (s : BroadcastChatController) (recipient chatId content : String)
    (type : MessageType) : Call Unit := do
  let timestamp ← millisecondsSinceEpoch
  add (.messages chatId)
    (messageFields timestamp s.userData.id (.str recipient) content chatId type true)

/-- The inbox entry of one recipient. -/
def saveCopy (s : BroadcastChatController) (recipient chatId content : String) : Call Unit :=
  saveMessageInUserCollection s.device recipient (.str recipient) chatId content s.userData.id
    false true

/-- The branch of `saveMessageInLoop` for a known conversation. -/
def copyKnown (b i : ℕ) (s : BroadcastChatController) (chatId content : String)
    (type : MessageType) : Call Unit := do
  let recipient := (s.recipient i).id
  addReached b i
  Async.enter (.copy s.userData.id s.pId recipient chatId)
  addCopy s recipient chatId content type
  saveCopy s recipient chatId content

/-- The branch of `saveMessageInLoop` for a new conversation. -/
def copyNew (b i : ℕ) (s : BroadcastChatController) (content : String) (type : MessageType) :
    Call Unit := do
  let recipient := (s.recipient i).id
  let chatId ← newRecipientChatId b i
  Async.enter (.firstCopy s.userData.id s.pId recipient chatId)
  addCopy s recipient chatId content type
  addReached b i
  Async.enter (.copy s.userData.id s.pId recipient chatId)
  saveCopy s recipient chatId content

/-- The closure that `saveMessageInLoop` runs for the recipient at `i`. -/
def copyTo (b : ℕ) (content : String) (type : MessageType) (i : ℕ) : Call Unit := do
  let s ← broadcastChat b
  match (s.recipient i).chatId with
  | some chatId => copyKnown b i s chatId content type
  | none => copyNew b i s content type

/-- `BroadcastChatController.saveMessageInLoop`. -/
def saveMessageInLoop (b : ℕ) (content : String) (type : MessageType) : Call Unit := do
  let s ← broadcastChat b
  Async.forEach (List.range s.pData.length) (copyTo b content type)

/-- The list of recipients reached goes into the owner's entry, without awaiting
it; `docs[0]` throws if there is no entry. -/
def updateReached (s : BroadcastChatController) (content : String) (snap : List Document) :
    Call Unit :=
  match snap with
  | [] => Async.throw
  | doc :: _ => do
    let updateStamp ← millisecondsSinceEpoch
    Async.spawn (update (.chats s.userData.id) doc.id (.ofList [
      (.receiverId, .contacts s.reached),
      (.updateStamp, .str updateStamp),
      (.lastMessage, .str content)]))

/-- The message in the log of the broadcast. -/
def addBroadcastMessage (s : BroadcastChatController) (content : String) (type : MessageType) :
    Call Unit := do
  let timestamp ← millisecondsSinceEpoch
  add (.broadcastMessage s.pId)
    (broadcastMessageFields s.userData s.reached content s.pId type timestamp)
  let _ ← getDocs (.chats s.userData.id) (Fields.isEqualTo .broadcastId (.str s.pId))

/-- The message is entered in the history. -/
def logBroadcast (b : ℕ) (content : String) : Call Unit :=
  Async.modify fun w => { w with broadcastLog := (b, content) :: w.broadcastLog }

/-- `onSendMessage` for a content that is not blank. -/
def sendToBroadcast (b : ℕ) (content : String) (type : MessageType) : Call Unit := do
  modifyBroadcast b fun s => { s with text := "" }
  let s ← broadcastChat b
  saveMessageInLoop b content type
  logBroadcast b content
  Async.enter (.broadcastWait s.userData.id s.pId)
  delayed
  let snap ← getDocs (.chats s.userData.id) (Fields.isEqualTo .broadcastId (.str s.pId))
  let s ← broadcastChat b
  Async.enter (.broadcast s.userData.id s.pId)
  updateReached s content snap
  Async.spawn (addBroadcastMessage s content type)

/-- `BroadcastChatController.onSendMessage`. -/
def BroadcastChat.onSendMessage (b : ℕ) (content : String) (type : MessageType) : Call Unit :=
  if isBlank content then pure () else sendToBroadcast b content type

end FlutterTheme
