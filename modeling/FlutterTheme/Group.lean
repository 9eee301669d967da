import FlutterTheme.World

/-!
# Groups

* `selectUserTap` — choosing the contacts for a group or a broadcast.
* `createGroup` — the group, its first message and the entries of its members.
* `GroupChat.onSendMessage` — a message to a group, with `saveGroupData`.
-/

namespace FlutterTheme

open EventLoop DocStore

/-! ## Choosing contacts -/

/-- The screen that creates a group or a broadcast opens:
`CreateGroupController.onReady`. -/
def openCreate (d : ℕ) (isGroup : Bool) : Call Unit :=
  Async.modify fun w =>
    { w with createCtrl := w.createCtrl.alloc { device := d, isGroup := isGroup } }

/-- The selected contacts after a tap on a user: removed if the phone number is
among them, added otherwise. -/
def CreateGroupController.tap (s : CreateGroupController) (value : UserData) :
    CreateGroupController :=
  if s.selectedContact.any (fun file => (s.contacts.get file).phone = value.phone) then
    { s with
      selectedContact :=
        s.selectedContact.filter fun element => (s.contacts.get element).phone ≠ value.phone }
  else
    { s with
      contacts := s.contacts.alloc {
        id := value.id, name := value.name, phone := value.phone, image := value.image }
      selectedContact := s.selectedContact ++ [s.contacts.size] }

/-- `CreateGroupController.selectUserTap`. -/
def selectUserTap (g : ℕ) (value : UserData) : Call Unit := modifyCreate g (·.tap value)

/-- The group is given a name and an image. -/
def editGroup (g : ℕ) (name : String) (imageFile : Option String) : Call Unit :=
  modifyCreate g fun s => { s with txtGroupName := name, imageFile := imageFile }

/-- The maps that a list of selected contacts refers to. -/
def CreateGroupController.entries (s : CreateGroupController) (l : List ℕ) : List SelectedContact :=
  l.map s.contacts.get

/-! ## The group screen -/

/-- A group screen opens with the data of the group:
`GroupChatMessageController.onReady`. -/
def openGroup (d : ℕ) (data : Data) : Call Unit :=
  match data .groupId, data .name, data .users with
  | some (.str pId), some (.str pName), some (.contacts users) =>
    Async.modify fun w =>
      { w with groupCtrl := w.groupCtrl.alloc {
          device := d, pId := pId, pName := pName, users := users } }
  | _, _, _ => Async.throw

/-- `onTap` of `GroupMessageCard`: the group shown on the card is fetched. -/
def tapGroupCard (d : ℕ) (document : Document) : Call Unit :=
  match document.data .groupId with
  | some (.str groupId) => do
    let snapshot ← getDoc .groups (.named groupId)
    match snapshot with
    | some group => openGroup d group.data
    | none => Async.throw
  | _ => Async.throw

/-! ## Creating a group -/

/-- The image of the group is put into the storage under the time as its name;
its address is fetched without awaiting it, and a failure is shown to the user. -/
def uploadFile (g : ℕ) : Call Unit := do
  let fileName ← millisecondsSinceEpoch
  Async.remote fun _ w => ((), w)
  Async.spawn do
    let downloadUrl ← Async.attempt fun _ w => ((), w)
    match downloadUrl with
    | some _ => modifyCreate g fun s => { s with imageUrl := fileName }
    | none => pure ()

/-- The fields of a group. -/
def groupFields (name image : String) (users : List SelectedContact) (id : String) (user : UserData)
    (timestamp : String) : Data :=
  .ofList [
    (.name, .str name),
    (.image, .str image),
    (.users, .contacts users),
    (.groupId, .str id),
    (.status, .str ""),
    (.createdBy, .user user),
    (.timestamp, .str timestamp)]

/-- The fields of a message in the log of a group. -/
def groupMessageFields (sender senderName : String) (receiver : List SelectedContact)
    (content groupId : String) (type : MessageType) (timestamp : String) : Data :=
  .ofList [
    (.sender, .str sender),
    (.senderName, .str senderName),
    (.receiver, .contacts receiver),
    (.content, .str content),
    (.groupId, .str groupId),
    (.type, .str type.name),
    (.messageType, .str "sender"),
    (.status, .str ""),
    (.timestamp, .str timestamp)]

/-- The fields of a member's inbox entry for a group. -/
def groupEntryFields (receiverId : List SelectedContact) (user : UserData) (id timestamp : String) :
    Data :=
  .ofList [
    (.isSeen, .bool false),
    (.receiverId, .contacts receiverId),
    (.senderId, .str user.id),
    (.chatId, .str ""),
    (.timestamp, .str timestamp),
    (.lastMessage, .str (user.name ++ " created this group")),
    (.isGroup, .bool true),
    (.isBlock, .bool false),
    (.isBroadcast, .bool false),
    (.isBroadcastSender, .bool false),
    (.isOneToOne, .bool false),
    (.blockBy, .str ""),
    (.blockUserId, .str ""),
    (.groupId, .str id),
    (.updateStamp, .str timestamp)]

/-- The creator joins the selected contacts. -/
def CreateGroupController.addSelf (s : CreateGroupController) (user : UserData) :
    CreateGroupController :=
  { s with
    isLoading := true
    contacts := s.contacts.alloc {
      id := user.id, name := user.name, phone := user.phone, image := user.image }
    selectedContact := s.selectedContact ++ [s.contacts.size] }

/-- The entry of one member. -/
def addGroupEntry (receiverId : List SelectedContact) (user : UserData) (id : String)
    (e : SelectedContact) : Call Unit := do
  let timestamp ← millisecondsSinceEpoch
  add (.chats e.id) (groupEntryFields receiverId user id timestamp)

/-- The entries of all members, none of them awaited. -/
def addGroupEntries (s : CreateGroupController) (user : UserData) (id : String) : Call Unit :=
  let selectedContact := s.entries s.selectedContact
  Async.forEach selectedContact (addGroupEntry selectedContact user id)

/-- The first message of a group. -/
def addGroupCreated (s : CreateGroupController) (user : UserData) (id : String) : Call Unit := do
  let timestamp ← millisecondsSinceEpoch
  add (.groupMessage id)
    (groupMessageFields user.id user.name (s.entries s.selectedContact)
      (user.name ++ " created this group") id .messageType timestamp)

/-- `GroupFirebaseApi.createGroup` from the time its identifier is made. -/
def createGroupDocs (g : ℕ) (d : ℕ) (user : UserData) (id : String) : Call Unit := do
  delayed
  let timestamp ← millisecondsSinceEpoch
  let s ← createGroupCtrl g
  set .groups id
    (groupFields s.txtGroupName s.imageUrl (s.entries s.selectedContact) id user timestamp)
  let s ← createGroupCtrl g
  Async.spawn (addGroupCreated s user id)
  let value ← getDoc .groups (.named id)
  let s ← createGroupCtrl g
  addGroupEntries s user id
  modifyCreate g fun s =>
    { s with selectedContact := [], txtGroupName := "", isLoading := false, imageUrl := "",
             imageFile := none }
  match value with
  | some group => openGroup d group.data
  | none => Async.throw

/-- `GroupFirebaseApi.createGroup`. -/
def createGroup (g : ℕ) : Call Unit := do
  let s ← createGroupCtrl g
  let user ← sessionUser s.device
  modifyCreate g (·.addSelf user)
  (if s.imageFile.isSome then uploadFile g else pure ())
  let id ← microsecondsSinceEpoch
  Async.enter (.group id)
  createGroupDocs g s.device user id

/-! ## Messages to a group -/

/-- The push notification to a member other than the sender. -/
def notifyMember (groupId content name : String) (element : SelectedContact) : Call Unit := do
  let snap ← getDoc .users (.named element.id)
  match snap with
  | none => Async.throw
  | some user =>
    if user.data .pushToken = some (.str "") then pure ()
    else Async.spawn (sendNotification {
      title := "Group Message"
      msg := content
      token := (user.data .pushToken).getD .null
      dataTitle := name
      groupId := some groupId })

/-- The entry of one member after a message. -/
def saveGroupEntry (user : UserData) (groupId content name : String) (element : SelectedContact) :
    Call Unit := do
  let value ← getDocs (.chats element.id) (Fields.isEqualTo .groupId (.str groupId))
  match value with
  | [] => pure ()
  | doc :: _ => do
    let updateStamp ← millisecondsSinceEpoch
    Async.spawn (update (.chats element.id) doc.id (.ofList [
      (.updateStamp, .str updateStamp),
      (.lastMessage, .str content),
      (.senderId, .str user.id)]))
    if user.id ≠ element.id then Async.spawn (notifyMember groupId content name element)
    else pure ()

/-- `ChatMessageApi.saveGroupData`. -/
def saveGroupData (d : ℕ) (groupId content : String) (pData : GroupChatMessageController) :
    Call Unit := do
  let user ← sessionUser d
  Async.forEach pData.users (saveGroupEntry user groupId content pData.pName)

/-- The message and the entries of the members. -/
def deliverToGroup (g : ℕ) (content : String) (type : MessageType) : Call Unit := do
  let s ← groupChat g
  let user ← sessionUser s.device
  Async.enter (.group s.pId)
  let timestamp ← millisecondsSinceEpoch
  Async.spawn (add (.groupMessage s.pId)
    (groupMessageFields user.id user.name s.users content s.pId type timestamp))
  saveGroupData s.device s.pId content s
  modifyGroup g fun s => { s with isLoading := false }

/-- `GroupChatMessageController.onSendMessage`. -/
def GroupChat.onSendMessage (g : ℕ) (content : String) (type : MessageType) : Call Unit := do
  modifyGroup g fun s => { s with isLoading := true, text := "" }
  if isBlank content then pure () else deliverToGroup g content type

end FlutterTheme
