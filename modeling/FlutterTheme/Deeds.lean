import FlutterTheme.Actions
import FlutterTheme.Messaging

/-!
# The actions of the handlers

A walk through all handlers of `messaging`: whatever the world, an action moves screens, makes
a conversation identifier out of the reading of its clock, sends the notification of a message
(`Notifies`), or makes one of the writes `Written`. The only write that can mark a message as
seen is an update with this one field, which opening a chat may make (`Marks`).

The walk is the same for all deeds that allow what the handlers do (`AllowsHandlers`); only a
message that is sent in a chat or to a group makes its screen load (`AllowsLoading`).
-/

namespace FlutterTheme

open EventLoop DocStore

/-- The notification of a message of a chat. -/
def singleNotification (s : ChatController) (content : String) (token : Value) : Notification where
  title := "Single Message"
  msg := content
  token := token
  image := some s.userData.image
  dataTitle := s.pName
  chatId := some s.chatId
  userContactModel := some s.userContactModel
  pId := some s.pId
  pName := some s.pName

/-- The notification of a message to a group. -/
def groupNotification (groupId content name : String) (token : Value) : Notification where
  title := "Group Message"
  msg := content
  token := token
  dataTitle := name
  groupId := some groupId

/-- The notifications that handlers send. -/
inductive Notifies : Notification → Prop where
  | single (s : ChatController) (content : String) (token : Value) :
      Notifies (singleNotification s content token)
  | group (groupId content name : String) (token : Value) :
      Notifies (groupNotification groupId content name token)

/-- What a single action of a handler does that makes the writes `W`. -/
inductive Deed (W : Write Path Key Value → Prop) (t : Tick) (w : World) : World → Prop where
  /-- nothing is stored or sent, and no conversation gets an identifier -/
  | screens {w' : World} (store : w'.store = w.store) (minted : w'.minted = w.minted)
      (notifications : w'.notifications = w.notifications) : Deed W t w w'
  /-- two users get the reading of the clock as the identifier of their conversation -/
  | mint {w' : World} (users : Sym2 String) (store : w'.store = w.store)
      (minted : w'.minted = (toString t.now, users) :: w.minted)
      (notifications : w'.notifications = w.notifications) : Deed W t w w'
  /-- a notification -/
  | notify (n : Notification) (sent : Notifies n) :
      Deed W t w { w with notifications := n :: w.notifications }
  /-- a write -/
  | write (op : Write Path Key Value) (permitted : W op) :
      Deed W t w { w with store := w.store.write op }

/-- The actions of handlers that make the writes `W`. -/
def handlers (W : Write Path Key Value → Prop) : Deeds World where
  rel := Deed W
  refl _ _ := .screens rfl rfl rfl

/-- A chat screen is loading only if it was before, and its `allData` is left alone. -/
structure ChatController.Dims (s s' : ChatController) : Prop where
  isLoading : s'.isLoading = true → s.isLoading = true
  allData : s'.allData = none ∨ s'.allData = s.allData

theorem ChatController.Dims.refl (s : ChatController) : s.Dims s := ⟨id, .inr rfl⟩

/-- No screen starts to load. -/
structure Dims (w w' : World) : Prop where
  chat : ∀ c : ℕ, (w.chatCtrl.get c).Dims (w'.chatCtrl.get c)
  group : ∀ g, (w'.groupCtrl.get g).isLoading = true → (w.groupCtrl.get g).isLoading = true

theorem Dims.of_eq {w w' : World} (hchat : w'.chatCtrl = w.chatCtrl)
    (hgroup : w'.groupCtrl = w.groupCtrl) : Dims w w' :=
  ⟨fun _ => hchat ▸ .refl _, fun _ => hgroup ▸ id⟩

theorem Dims.refl (w : World) : Dims w w := .of_eq rfl rfl

/-- The deeds allow what handlers do besides writing and loading. -/
class AllowsHandlers (D : Deeds World) : Prop where
  screens : ∀ {t : Tick} {w w' : World}, w'.store = w.store → w'.minted = w.minted →
    w'.notifications = w.notifications → Dims w w' → D.rel t w w'
  mint : ∀ {t : Tick} {w w' : World} (users : Sym2 String), w'.store = w.store →
    w'.minted = (toString t.now, users) :: w.minted → w'.notifications = w.notifications →
    Dims w w' → D.rel t w w'
  notify : ∀ {t : Tick} {w : World} {n : Notification}, Notifies n →
    D.rel t w { w with notifications := n :: w.notifications }

/-- The deeds allow that a screen starts to load. -/
class AllowsLoading (D : Deeds World) : Prop where
  screens : ∀ {t : Tick} {w w' : World}, w'.store = w.store → w'.minted = w.minted →
    w'.notifications = w.notifications → D.rel t w w'

/-- The deeds allow a write. -/
def AllowsWrite (D : Deeds World) (op : Write Path Key Value) : Prop :=
  ∀ t w, D.rel t w { w with store := w.store.write op }

instance {W : Write Path Key Value → Prop} : AllowsHandlers (handlers W) where
  screens hstore hminted hnotifications _ := .screens hstore hminted hnotifications
  mint users hstore hminted hnotifications _ := .mint users hstore hminted hnotifications
  notify := .notify _

instance {W : Write Path Key Value → Prop} : AllowsLoading (handlers W) where
  screens := .screens

theorem allowsWrite_handlers {W : Write Path Key Value → Prop} {op : Write Path Key Value}
    (h : W op) : AllowsWrite (handlers W) op := fun _ _ => .write op h

/-- `{"isSeen": true}`. -/
def seenFields : Data := .ofList [(.isSeen, .bool true)]

/-- The writes with which a chat opens. -/
inductive Marks : Write Path Key Value → Prop where
  /-- an inbox entry is marked as seen -/
  | entry (u : String) (id : DocId) : Marks (.update (.chats u) id seenFields)
  /-- a message is marked as seen -/
  | message (c : String) (id : DocId) : Marks (.update (.messages c) id seenFields)

/-- The writes of all handlers, as far as they concern messages. -/
inductive Written : Write Path Key Value → Prop where
  /-- a message that nobody has seen -/
  | message {c : String} {pos : ℕ} {d : Data} (unseen : d .isSeen ≠ some (.bool true)) :
      Written (.add (.messages c) pos d)
  /-- a message is deleted -/
  | delete (c : String) (id : DocId) : Written (.delete (.messages c) id)
  /-- a message or an entry is marked as seen -/
  | marks {op : Write Path Key Value} (h : Marks op) : Written op
  /-- another collection -/
  | other {op : Write Path Key Value} (h : ∀ c, op.path ≠ .messages c) : Written op

/-- The deeds allow the writes of all handlers. -/
class AllowsWritten (D : Deeds World) : Prop where
  write : ∀ {op : Write Path Key Value}, Written op → AllowsWrite D op

instance : AllowsWritten (handlers Written) where
  write := allowsWrite_handlers

variable {D : Deeds World} {p : Path} {id : DocId} {d : Data}

/-! ## Single calls -/

theorem all_getDocs {q : Data → Bool} : (getDocs p q).All D := Async.all_remote D.refl

theorem all_getDoc : (getDoc p id).All D := Async.all_remote D.refl

theorem all_add (h : ∀ pos, AllowsWrite D (.add p pos d)) : (add p d).All D :=
  Async.all_remote fun t w => h t.pos t w

theorem all_set {name : String} (h : ∀ pos, AllowsWrite D (.set p name pos d)) :
    (set p name d).All D :=
  Async.all_remote fun t w => h t.pos t w

theorem all_update (h : AllowsWrite D (.update p id d)) : (update p id d).All D := by
  refine Async.all_bind (Async.all_remote h) fun found => ?_
  exact Async.all_ite Async.all_pure Async.all_throw

theorem all_delete (h : AllowsWrite D (.delete p id)) : (delete p id).All D := Async.all_remote h

theorem all_millisecondsSinceEpoch : millisecondsSinceEpoch.All D := Async.all_sync D.refl

theorem all_microsecondsSinceEpoch : microsecondsSinceEpoch.All D := Async.all_sync D.refl

theorem allowsWrite_written [AllowsWritten D] {op : Write Path Key Value} (h : Written op) :
    AllowsWrite D op :=
  AllowsWritten.write h

theorem allowsWrite_other [AllowsWritten D] {op : Write Path Key Value}
    (h : ∀ c, op.path ≠ .messages c) : AllowsWrite D op :=
  allowsWrite_written (.other h)

/-! ## Marks -/

section Marking

variable (hmarks : ∀ op, Marks op → AllowsWrite D op)
include hmarks

theorem all_seenInbox {u cid : String} : (seenInbox u cid).All D := by
  refine Async.all_bind all_getDocs fun docs => ?_
  cases docs with
  | nil => exact Async.all_pure
  | cons doc docs => exact all_update (hmarks _ (.entry u doc.id))

theorem all_seenOwn {s : ChatController} : (seenOwn s).All D := by
  refine Async.all_bind all_getDocs fun docs => ?_
  exact Async.all_forEach fun doc _ => all_update (hmarks _ (.message s.chatId doc.id))

theorem all_seenMessage {c : ℕ} : (seenMessage c).All D := by
  refine Async.all_bind Async.all_get fun s => ?_
  refine Async.all_bind (Async.all_ite (all_seenOwn hmarks) Async.all_pure) fun _ => ?_
  refine Async.all_bind (Async.all_spawn (all_seenInbox hmarks)) fun _ => ?_
  exact Async.all_spawn (all_seenInbox hmarks)

theorem all_lookUpEntry {c : ℕ} {s : ChatController} : (lookUpEntry c s).All D :=
  Async.all_bind all_getDocs fun _ => Async.all_spawn (all_seenMessage hmarks)

end Marking

/-! ## Screens and notifications -/

/-- A screen starts to load. -/
theorem all_startLoading [AllowsLoading D] {f : World → World} (h : ∀ w, (f w).store = w.store ∧
    (f w).minted = w.minted ∧ (f w).notifications = w.notifications) :
    (Async.modify f : Call Unit).All D :=
  Async.all_modify fun _ w => AllowsLoading.screens (h w).1 (h w).2.1 (h w).2.2

section Plain

variable [AllowsHandlers D]

/-- A change of screens of which none starts to load. -/
theorem all_screens {f : World → World} (h : ∀ w, (f w).store = w.store ∧
    (f w).minted = w.minted ∧ (f w).notifications = w.notifications) (hf : ∀ w, Dims w (f w)) :
    (Async.modify f : Call Unit).All D :=
  Async.all_modify fun _ w => AllowsHandlers.screens (h w).1 (h w).2.1 (h w).2.2 (hf w)

theorem all_modifyChat {c : ℕ} {f : ChatController → ChatController}
    (hf : ∀ s : ChatController, s.Dims (f s)) : (modifyChat c f).All D :=
  all_screens (fun _ => ⟨rfl, rfl, rfl⟩) fun w =>
    ⟨Heap.each_modify ChatController.Dims.refl w.chatCtrl c (hf _), fun _ => id⟩

/-- The loader of a chat screen goes away. -/
theorem all_setLoading {c : ℕ} : (setLoading c false).All D :=
  all_modifyChat fun _ => ⟨nofun, .inr rfl⟩

theorem all_modifyBroadcast {b : ℕ} {f : BroadcastChatController → BroadcastChatController} :
    (modifyBroadcast b f).All D :=
  all_screens (fun _ => ⟨rfl, rfl, rfl⟩) fun _ => .of_eq rfl rfl

theorem all_modifyCreate {g : ℕ} {f : CreateGroupController → CreateGroupController} :
    (modifyCreate g f).All D :=
  all_screens (fun _ => ⟨rfl, rfl, rfl⟩) fun _ => .of_eq rfl rfl

theorem all_modifyGroup {g : ℕ} {f : GroupChatMessageController → GroupChatMessageController}
    (hf : ∀ s, (f s).isLoading = true → s.isLoading = true) : (modifyGroup g f).All D :=
  all_screens (fun _ => ⟨rfl, rfl, rfl⟩) fun w => by
    refine ⟨fun _ => .refl _, Heap.each_modify (R := fun s s' =>
      s'.isLoading = true → s.isLoading = true) (fun _ => id) w.groupCtrl g (hf _)⟩

theorem all_sendNotification {n : Notification} (h : Notifies n) : (sendNotification n).All D := by
  refine Async.all_bind (Async.all_attempt fun _ _ => AllowsHandlers.notify h) fun _ => ?_
  exact Async.all_pure

theorem all_clearInput {o : Option ℕ} : (clearInput o).All D := by
  cases o with
  | none => exact Async.all_pure
  | some i => exact all_modifyChat fun _ => ⟨nofun, .inr rfl⟩

/-! ## The screens of groups and broadcasts -/

theorem all_openGroup {n : ℕ} : (openGroup n d).All D := by
  unfold openGroup
  split
  · refine all_screens (fun _ => ⟨rfl, rfl, rfl⟩) fun w => ⟨fun _ => .refl _, ?_⟩
    exact Heap.each_alloc (R := fun s s' => s'.isLoading = true → s.isLoading = true)
      (fun _ => id) w.groupCtrl fun _ (h : false = true) => nomatch h
  · exact Async.all_throw

theorem all_openBroadcast {n : ℕ} {b : String} : (openBroadcast n b d).All D := by
  unfold openBroadcast
  split
  · exact all_screens (fun _ => ⟨rfl, rfl, rfl⟩) fun _ => .of_eq rfl rfl
  · exact Async.all_throw

theorem all_tapGroupCard {n : ℕ} {document : Document} :
    (tapGroupCard n document).All D := by
  unfold tapGroupCard
  split
  · refine Async.all_bind all_getDoc fun snapshot => ?_
    split
    · exact all_openGroup
    · exact Async.all_throw
  · exact Async.all_throw

theorem all_tapBroadcastCard {n : ℕ} {document : Document} :
    (tapBroadcastCard n document).All D := by
  unfold tapBroadcastCard
  split
  · exact all_openBroadcast
  · exact Async.all_throw

/-! ## Opening a chat -/

section Opening

variable (hmarks : ∀ op, Marks op → AllowsWrite D op)
include hmarks

theorem all_getChatData {c : ℕ} : (getChatData c).All D := by
  refine Async.all_bind Async.all_get fun s => ?_
  refine Async.all_bind Async.all_enter fun _ => ?_
  refine Async.all_bind (Async.all_ite (all_lookUpEntry hmarks) Async.all_pure) fun _ => ?_
  exact Async.all_bind all_getDoc fun _ => all_modifyChat fun _ => ⟨id, .inr rfl⟩

theorem all_openChat {n : ℕ} {cid : String} {data : UserContactModel} :
    (openChat n cid data).All D := by
  refine Async.all_bind (Async.all_sync fun _ w => ?_) fun _ => all_getChatData hmarks
  refine AllowsHandlers.screens rfl rfl rfl ⟨?_, fun _ => id⟩
  exact Heap.each_alloc ChatController.Dims.refl w.chatCtrl fun _ => ⟨nofun, .inl rfl⟩

theorem all_openStored {n : ℕ} {data : UserContactModel} {document : Document} :
    (openStored n data document).All D := by
  unfold openStored
  split
  · exact all_openChat hmarks
  · exact Async.all_throw

theorem all_saveContact {n : ℕ} {contact : UserContactModel} {isRegister : Bool} :
    (saveContact n contact isRegister).All D := by
  refine Async.all_ite ?_ Async.all_pure
  refine Async.all_bind Async.all_get fun user => ?_
  refine Async.all_bind all_getDocs fun docs => ?_
  split
  · exact all_openChat hmarks
  · exact Async.all_forEach fun _ _ => all_openStored hmarks

theorem all_tapMessageCard {n : ℕ} {document : Document} {peer : Key} :
    (tapMessageCard n document peer).All D := by
  unfold tapMessageCard
  split
  · refine Async.all_bind all_getDoc fun snapshot => ?_
    split
    · exact all_openStored hmarks
    · exact Async.all_throw
  · exact Async.all_throw

/-- A tap on an entry of the inbox does only what one of the five cards does, and only the cards of
a conversation between two users mark anything. -/
theorem all_tapCard {n : ℕ} : (tapCard n id).All D := by
  refine Async.all_bind Async.all_get fun user => ?_
  refine Async.all_bind all_getDoc fun document => ?_
  cases document with
  | none => exact Async.all_pure
  | some document =>
    cases hcard : loadUser document.data user.id with
    | none =>
      simp only [hcard]
      exact Async.all_throw
    | some card =>
      simp only [hcard]
      cases card with
      | receiverMessageCard => exact all_tapMessageCard hmarks
      | messageCard => exact all_tapMessageCard hmarks
      | groupMessageCard => exact all_tapGroupCard
      | broadCastMessageCard => exact all_tapBroadcastCard
      | container => exact Async.all_pure

end Opening

theorem all_newChatId {c : ℕ} : (newChatId c).All D := by
  refine Async.all_sync fun t w => ?_
  by_cases h : (w.chatCtrl.get c).chatId = "0"
  · simp only [assignChatId, if_pos h]
    refine AllowsHandlers.mint _ rfl rfl rfl ⟨?_, fun _ => id⟩
    exact Heap.each_modify ChatController.Dims.refl w.chatCtrl c
      (f := fun s => { s with chatId := toString t.now }) ⟨id, .inr rfl⟩
  · simp only [assignChatId, if_neg h]
    exact D.refl t w

theorem all_newRecipientChatId {b i : ℕ} : (newRecipientChatId b i).All D :=
  Async.all_sync fun _ _ => AllowsHandlers.mint _ rfl rfl rfl (.of_eq rfl rfl)

theorem all_notify {c : ℕ} {content : String} : (notify c content).All D := by
  refine Async.all_bind Async.all_get fun s => ?_
  split
  · exact Async.all_throw
  · next pData _ =>
    have hsent := Notifies.single s content ((pData .pushToken).getD .null)
    exact Async.all_ite Async.all_pure (Async.all_spawn (all_sendNotification hsent))

theorem all_notifyMember {groupId content name : String} {element : SelectedContact} :
    (notifyMember groupId content name element).All D := by
  refine Async.all_bind all_getDoc fun snap => ?_
  split
  · exact Async.all_throw
  · next _ user =>
    have hsent := Notifies.group groupId content name ((user.data .pushToken).getD .null)
    exact Async.all_ite Async.all_pure (Async.all_spawn (all_sendNotification hsent))

/-! ## Messages of a conversation -/

section Writing

variable [AllowsWritten D]

omit [AllowsHandlers D] in
theorem all_addMessage {s : ChatController} {receiver : Value} {cid content : String}
    {type : MessageType} : (addMessage s receiver cid content type).All D := by
  refine Async.all_bind all_millisecondsSinceEpoch fun timestamp => ?_
  exact all_add fun _ => allowsWrite_written (.message (by simp [messageFields, Fields.ofList]))

omit [AllowsHandlers D] in
theorem all_saveFirst {u : String} {found : List Document} :
    (saveFirst (.chats u) found d).All D := by
  cases found with
  | nil => exact all_add fun _ => allowsWrite_other fun _ => Path.noConfusion
  | cons doc found => exact all_update (allowsWrite_other fun _ => Path.noConfusion)

theorem all_saveMessageInUserCollection {n : ℕ} {x cid content sender : String} {receiverId : Value}
    {isBlock isBroadcast : Bool} :
    (saveMessageInUserCollection n x receiverId cid content sender isBlock isBroadcast).All D := by
  refine Async.all_bind Async.all_get fun chatCtrl => ?_
  refine Async.all_bind all_getDocs fun docs => ?_
  refine Async.all_bind all_millisecondsSinceEpoch fun updateStamp => ?_
  exact Async.all_bind all_saveFirst fun _ => all_clearInput

section Sending

variable {c : ℕ} {s : ChatController} {cid content : String} {type : MessageType}

theorem all_deliver : (deliver c s cid content type).All D := by
  refine Async.all_bind all_addMessage fun _ => ?_
  refine Async.all_bind all_setLoading fun _ => ?_
  refine Async.all_bind all_saveMessageInUserCollection fun _ => ?_
  exact Async.all_bind all_saveMessageInUserCollection fun _ => all_setLoading

theorem all_deliverBlocked : (deliverBlocked c s cid content type).All D := by
  unfold deliverBlocked
  split
  · refine Async.all_bind all_addMessage fun _ => ?_
    refine Async.all_bind all_setLoading fun _ => ?_
    exact Async.all_bind all_saveMessageInUserCollection fun _ => all_setLoading
  · exact Async.all_throw

theorem all_dispatch : (dispatch c s cid content type).All D := by
  unfold dispatch
  split
  · refine Async.all_bind (Async.all_ite ?_ all_deliver) fun _ => all_setLoading
    exact Async.all_ite Async.all_pure all_deliverBlocked
  · refine Async.all_bind all_setLoading fun _ => ?_
    refine Async.all_bind all_deliver fun _ => ?_
    exact Async.all_spawn (all_getChatData fun _ h => allowsWrite_written (.marks h))

theorem all_send : (send c content type).All D := by
  refine Async.all_bind (all_modifyChat fun _ => ⟨id, .inr rfl⟩) fun _ => ?_
  refine Async.all_bind all_newChatId fun cid => ?_
  refine Async.all_bind Async.all_get fun s => ?_
  exact Async.all_bind Async.all_enter fun _ => all_dispatch

theorem all_onSendMessage [AllowsLoading D] : (onSendMessage c content type).All D := by
  refine Async.all_bind Async.all_get fun s => ?_
  refine Async.all_bind Async.all_enter fun _ => ?_
  refine Async.all_bind (all_startLoading fun _ => ⟨rfl, rfl, rfl⟩) fun _ => ?_
  refine Async.all_bind (Async.all_ite Async.all_pure all_send) fun _ => ?_
  exact Async.all_bind all_notify fun _ => all_setLoading

omit [AllowsHandlers D] in
theorem all_addBlockMessage : (addBlockMessage s cid content).All D := by
  refine Async.all_bind all_millisecondsSinceEpoch fun timestamp => ?_
  refine Async.all_spawn (all_add fun _ => allowsWrite_written (.message ?_))
  simp [blockFields, Fields.ofList]

/-- `blockUser`, write by write: the message that announces the block, and the owner's entry. -/
theorem all_blockUser : (blockUser c).All D := by
  refine Async.all_bind all_newChatId fun cid => ?_
  refine Async.all_bind Async.all_get fun s => ?_
  refine Async.all_bind Async.all_enter fun _ => ?_
  refine Async.all_bind (all_screens (fun _ => ⟨rfl, rfl, rfl⟩) fun _ => .of_eq rfl rfl) fun _ => ?_
  refine Async.all_ite ?_ ?_
  · exact Async.all_bind all_addBlockMessage fun _ => all_saveMessageInUserCollection
  · refine Async.all_bind all_addBlockMessage fun _ => ?_
    split
    · exact Async.all_throw
    · exact all_saveMessageInUserCollection

omit [AllowsHandlers D] in
theorem all_deleteContact {messages : List Document} :
    (deleteContact cid messages).All D := by
  refine Async.all_bind all_getDocs fun found => ?_
  split
  · exact all_delete (allowsWrite_other fun _ => Path.noConfusion)
  · exact Async.all_throw
  · exact Async.all_throw
  · exact Async.all_pure

omit [AllowsHandlers D] in
theorem all_deleteAlert : (deleteAlert c id).All D := by
  refine Async.all_bind Async.all_get fun s => ?_
  refine Async.all_bind Async.all_enter fun _ => ?_
  have hdelete : AllowsWrite D _ := allowsWrite_written (.delete s.chatId id)
  refine Async.all_bind (Async.all_spawn (all_delete hdelete)) fun _ => ?_
  refine Async.all_bind (Async.all_remote D.refl) fun _ => ?_
  refine Async.all_bind Async.all_get fun s => ?_
  refine Async.all_bind all_getDocs fun messages => ?_
  exact Async.all_bind Async.all_get fun s => Async.all_spawn all_deleteContact

end Sending

omit [AllowsHandlers D] in
theorem all_userRegister {user : UserData} {email : String} {pushToken : Option String} :
    (userRegister user email pushToken).All D := by
  refine Async.all_bind Async.all_enter fun _ => ?_
  refine Async.all_bind all_getDocs fun value => ?_
  split
  · exact Async.all_pure
  · exact all_set fun _ => allowsWrite_other fun _ => Path.noConfusion

/-! ## Groups -/

/-- `createGroup`, write by write: the group's document, its first message and the members' entries;
the image only changes the controller. -/
theorem all_createGroup {g : ℕ} : (createGroup g).All D := by
  refine Async.all_bind Async.all_get fun s => ?_
  refine Async.all_bind Async.all_get fun user => ?_
  refine Async.all_bind all_modifyCreate fun _ => ?_
  refine Async.all_bind (Async.all_ite ?_ Async.all_pure) fun _ => ?_
  · refine Async.all_bind all_millisecondsSinceEpoch fun fileName => ?_
    refine Async.all_bind (Async.all_remote D.refl) fun _ => ?_
    refine Async.all_spawn (Async.all_bind (Async.all_attempt D.refl) fun downloadUrl => ?_)
    cases downloadUrl with
    | some _ => exact all_modifyCreate
    | none => exact Async.all_pure
  refine Async.all_bind all_microsecondsSinceEpoch fun groupId => ?_
  refine Async.all_bind Async.all_enter fun _ => ?_
  refine Async.all_bind Async.all_pause fun _ => ?_
  refine Async.all_bind all_millisecondsSinceEpoch fun timestamp => ?_
  refine Async.all_bind Async.all_get fun s => ?_
  refine Async.all_bind (all_set fun _ => allowsWrite_other fun _ => Path.noConfusion) fun _ => ?_
  refine Async.all_bind Async.all_get fun s => ?_
  refine Async.all_bind (Async.all_spawn ?_) fun _ => ?_
  · refine Async.all_bind all_millisecondsSinceEpoch fun timestamp => ?_
    exact all_add fun _ => allowsWrite_other fun _ => Path.noConfusion
  refine Async.all_bind all_getDoc fun value => ?_
  refine Async.all_bind Async.all_get fun s => ?_
  refine Async.all_bind (Async.all_forEach fun e _ => ?_) fun _ => ?_
  · refine Async.all_bind all_millisecondsSinceEpoch fun timestamp => ?_
    exact all_add fun _ => allowsWrite_other fun _ => Path.noConfusion
  refine Async.all_bind all_modifyCreate fun _ => ?_
  split
  · exact all_openGroup
  · exact Async.all_throw

theorem all_saveGroupEntry {user : UserData} {groupId content name : String}
    {element : SelectedContact} :
    (saveGroupEntry user groupId content name element).All D := by
  refine Async.all_bind all_getDocs fun value => ?_
  split
  · exact Async.all_pure
  · refine Async.all_bind all_millisecondsSinceEpoch fun updateStamp => ?_
    refine Async.all_bind (Async.all_spawn (all_update ?_)) fun _ => ?_
    · exact allowsWrite_other fun _ => Path.noConfusion
    exact Async.all_ite (Async.all_spawn all_notifyMember) Async.all_pure

theorem all_deliverToGroup {g : ℕ} {content : String} {type : MessageType} :
    (deliverToGroup g content type).All D := by
  refine Async.all_bind Async.all_get fun s => ?_
  refine Async.all_bind Async.all_get fun user => ?_
  refine Async.all_bind Async.all_enter fun _ => ?_
  refine Async.all_bind all_millisecondsSinceEpoch fun timestamp => ?_
  refine Async.all_bind (Async.all_spawn (all_add fun _ => ?_)) fun _ => ?_
  · exact allowsWrite_other fun _ => Path.noConfusion
  refine Async.all_bind ?_ fun _ => all_modifyGroup fun _ => nofun
  exact Async.all_bind Async.all_get fun user => Async.all_forEach fun _ _ => all_saveGroupEntry

theorem all_sendToGroup [AllowsLoading D] {g : ℕ} {content : String} {type : MessageType} :
    (GroupChat.onSendMessage g content type).All D := by
  refine Async.all_bind (all_startLoading fun _ => ⟨rfl, rfl, rfl⟩) fun _ => ?_
  exact Async.all_ite Async.all_pure all_deliverToGroup

/-! ## Broadcasts -/

/-- `addGroupBottomSheet`, write by write: the broadcast's document, its first message and the
owner's entry, after lookups that change only the controller. -/
theorem all_addGroupBottomSheet {g : ℕ} : (addGroupBottomSheet g).All D := by
  refine Async.all_bind Async.all_get fun s => ?_
  refine Async.all_ite Async.all_pure ?_
  refine Async.all_bind Async.all_get fun user => ?_
  refine Async.all_bind all_modifyCreate fun _ => ?_
  refine Async.all_bind all_microsecondsSinceEpoch fun broadcastId => ?_
  refine Async.all_bind Async.all_enter fun _ => ?_
  refine Async.all_bind ?_ fun _ => ?_
  · refine Async.all_bind Async.all_get fun s => ?_
    refine Async.all_bind Async.all_get fun user => ?_
    exact Async.all_forEach fun _ _ => Async.all_bind all_getDocs fun _ => all_modifyCreate
  refine Async.all_bind Async.all_pause fun _ => ?_
  refine Async.all_bind all_millisecondsSinceEpoch fun timestamp => ?_
  refine Async.all_bind Async.all_get fun s => ?_
  refine Async.all_bind (all_set fun _ => allowsWrite_other fun _ => Path.noConfusion) fun _ => ?_
  refine Async.all_bind Async.all_get fun s => ?_
  refine Async.all_bind (Async.all_spawn ?_) fun _ => ?_
  · refine Async.all_bind all_millisecondsSinceEpoch fun timestamp => ?_
    exact all_add fun _ => allowsWrite_other fun _ => Path.noConfusion
  refine Async.all_bind all_millisecondsSinceEpoch fun timestamp => ?_
  refine Async.all_bind Async.all_get fun s => ?_
  refine Async.all_bind (all_add fun _ => allowsWrite_other fun _ => Path.noConfusion) fun _ => ?_
  refine Async.all_bind all_modifyCreate fun _ => ?_
  refine Async.all_spawn (Async.all_bind all_getDocs fun value => ?_)
  split
  · exact all_openBroadcast
  · exact Async.all_throw

section Copies

variable {b i : ℕ} {s : BroadcastChatController} {content : String} {type : MessageType}

omit [AllowsHandlers D] in
theorem all_addCopy {recipient cid : String} :
    (addCopy s recipient cid content type).All D := by
  refine Async.all_bind all_millisecondsSinceEpoch fun timestamp => ?_
  exact all_add fun _ => allowsWrite_written (.message (by simp [messageFields, Fields.ofList]))

/-- The copy for one recipient: it is written into a known or a new conversation, with the entries
of both. -/
theorem all_copyTo : (copyTo b content type i).All D := by
  refine Async.all_bind Async.all_get fun s => ?_
  split
  · refine Async.all_bind all_modifyBroadcast fun _ => ?_
    refine Async.all_bind Async.all_enter fun _ => ?_
    exact Async.all_bind all_addCopy fun _ => all_saveMessageInUserCollection
  · refine Async.all_bind all_newRecipientChatId fun cid => ?_
    refine Async.all_bind Async.all_enter fun _ => ?_
    refine Async.all_bind all_addCopy fun _ => ?_
    refine Async.all_bind all_modifyBroadcast fun _ => ?_
    exact Async.all_bind Async.all_enter fun _ => all_saveMessageInUserCollection

omit [AllowsHandlers D] in
theorem all_updateReached {snap : List Document} :
    (updateReached s content snap).All D := by
  cases snap with
  | nil => exact Async.all_throw
  | cons doc snap =>
    refine Async.all_bind all_millisecondsSinceEpoch fun updateStamp => ?_
    exact Async.all_spawn (all_update (allowsWrite_other fun _ => Path.noConfusion))

/-- A message to a broadcast: each recipient's copy, the owner's entry and the message of the
broadcast itself. A blank one does nothing. -/
theorem all_sendToBroadcast : (BroadcastChat.onSendMessage b content type).All D := by
  refine Async.all_ite Async.all_pure ?_
  refine Async.all_bind all_modifyBroadcast fun _ => ?_
  refine Async.all_bind Async.all_get fun s => ?_
  refine Async.all_bind ?_ fun _ => ?_
  · exact Async.all_bind Async.all_get fun s => Async.all_forEach fun _ _ => all_copyTo
  refine Async.all_bind (all_screens (fun _ => ⟨rfl, rfl, rfl⟩) fun _ => .of_eq rfl rfl) fun _ => ?_
  refine Async.all_bind Async.all_enter fun _ => ?_
  refine Async.all_bind Async.all_pause fun _ => ?_
  refine Async.all_bind all_getDocs fun snap => ?_
  refine Async.all_bind Async.all_get fun s => ?_
  refine Async.all_bind Async.all_enter fun _ => ?_
  refine Async.all_bind all_updateReached fun _ => ?_
  refine Async.all_spawn (Async.all_bind all_millisecondsSinceEpoch fun timestamp => ?_)
  refine Async.all_bind (all_add fun _ => allowsWrite_other fun _ => Path.noConfusion) fun _ => ?_
  exact Async.all_bind all_getDocs fun _ => Async.all_pure

end Copies

/-- What the handlers do that make no screen load. -/
theorem all_quiet_body : ∀ a : Action, (∀ c content type, a ≠ .onSendMessage c content type) →
    (∀ g content type, a ≠ .sendToGroup g content type) → a.body.All D
  | .userRegister .., _, _ => all_userRegister
  | .saveContact .., _, _ => all_saveContact fun _ h => allowsWrite_written (.marks h)
  | .tapCard .., _, _ => all_tapCard fun _ h => allowsWrite_written (.marks h)
  | .onSendMessage c content type, h, _ => absurd rfl (h c content type)
  | .blockUser _, _, _ => all_blockUser
  | .deleteAlert .., _, _ => all_deleteAlert
  | .openCreate .., _, _ =>
    all_screens (fun _ => ⟨rfl, rfl, rfl⟩) fun _ => .of_eq rfl rfl
  | .editGroup .., _, _ => all_modifyCreate
  | .selectUserTap .., _, _ => all_modifyCreate
  | .addGroupBottomSheet _, _, _ => all_addGroupBottomSheet
  | .createGroup _, _, _ => all_createGroup
  | .sendToGroup g content type, _, h => absurd rfl (h g content type)
  | .sendToBroadcast .., _, _ => all_sendToBroadcast

end Writing

end Plain

/-! ## All handlers -/

/-- The actions of every handler. -/
theorem all_body [AllowsHandlers D] [AllowsWritten D] [AllowsLoading D] (a : Action) :
    a.body.All D := by
  by_cases hsend : ∃ c content type, a = .onSendMessage c content type
  · obtain ⟨c, content, type, rfl⟩ := hsend
    exact all_onSendMessage
  by_cases hgroup : ∃ g content type, a = .sendToGroup g content type
  · obtain ⟨g, content, type, rfl⟩ := hgroup
    exact all_sendToGroup
  exact all_quiet_body a (fun c content type h => hsend ⟨c, content, type, h⟩)
    fun g content type h => hgroup ⟨g, content, type, h⟩

/-- The actions of a run of the system, at the readings of their clocks. -/
theorem deed_of_trace {es : List (Event Action)} {c : Clients} (hc : c.All (handlers Written)) :
    ∀ a ∈ messaging.trace c es, Deed Written a.1 a.2.before a.2.after := by
  refine System.trace_all hc fun e _ => ?_
  cases e with
  | call a ticks => exact all_body a
  | resume i ticks => trivial

end FlutterTheme
