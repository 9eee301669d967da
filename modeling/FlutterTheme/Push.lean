import FlutterTheme.Receipts

/-!
# Push notifications

The data that `sendNotification` sends along with a notification, and what the handlers of
`CustomNotificationController` make of it when the app is opened from the notification.

Firebase Cloud Messaging is outside the application: `fcm` is what becomes of the data on the way.
All that matters here is that a text arrives as it is.

* `sent_of_mem` — every notification of a reachable world tells of a message of a chat or of a
  message to a group (`Sent`).
* `identifies_iff` — the data never name a group, and they name the recipient as the peer.
* `push_lost` — neither handler ever opens a conversation.
-/

namespace FlutterTheme.Push

open EventLoop DocStore

/-! ## The data -/

/-- The keys of the data. -/
inductive DataKey : Type where
  | clickAction | alertMessage | title | chatId | groupId | userContactModel | userContact | pId
  | pName | imageUrl | isGroup
  deriving DecidableEq, Repr

/-- The values of the data. -/
inductive DataValue : Type where
  | null : DataValue
  | bool : Bool → DataValue
  | str : String → DataValue
  | contact : UserContactModel → DataValue
  deriving DecidableEq, Repr

/-- `message.data`. -/
abbrev Payload : Type := Fields DataKey DataValue

/-- A `String?`. -/
def DataValue.ofString : Option String → DataValue
  | none => null
  | some s => str s

/-- A `UserContactModel?`. -/
def DataValue.ofContact : Option UserContactModel → DataValue
  | none => null
  | some m => contact m

/-- The data that `FirebaseCommonController.sendNotification` builds. -/
def data (n : Notification) : Payload :=
  .ofList [
    (.clickAction, .str "FLUTTER_NOTIFICATION_CLICK"),
    (.alertMessage, .str "true"),
    (.title, .str n.title),
    (.chatId, .ofString n.chatId),
    (.groupId, .ofString n.groupId),
    (.userContactModel, .ofContact n.userContactModel),
    (.pId, .ofString n.pId),
    (.pName, .ofString n.pName),
    (.imageUrl, .ofString n.image),
    (.isGroup, .bool false)]

/-! ## Opening the app -/

/-- A screen, with its arguments. -/
inductive Navigation : Type where
  /-- `routeName.chat`; the arguments are `chatId` and `data` -/
  | chat (chatId data : Option DataValue)
  /-- `routeName.groupChatMessage`; the argument is the document of the group -/
  | groupChatMessage (arguments : Option Data)

/-- What a handler does. -/
inductive Act : Type where
  | cancelAll
  /-- a notification of the app's own is shown -/
  | createNotification | show
  | toNamed (screen : Navigation)

/-- The titles with which the handlers open nothing. -/
def titles : List String :=
  ["Call Ended", "Single Message", "Missed Call", "Incoming Video Call...",
    "Incoming Audio Call...", "Incoming Call ended", "Group Message"]

/-- `notificationData['title']` is none of these. -/
def isOther (message : Payload) : Bool := titles.all fun title => message .title ≠ some (.str title)

/-- The condition on the title under which a notification with buttons is created. -/
def isCall (message : Payload) : Bool :=
  message .title = some (.str "Incoming Video Call...") &&
    message .title = some (.str "Incoming Audio Call...")

/-- `showFlutterNotification`; the flag says whether the message has an Android notification. -/
def showFlutterNotification (android : Bool) (message : Payload) : List Act :=
  if isCall message then [.createNotification] else if android then [.show] else []

/-- The screen `getInitialMessage` opens. -/
def screenOf (store : Store Path Key Value) (message : Payload) : List Act :=
  if message .isGroup = some (.bool true) then
    match message .groupId with
    | some (.str groupId) =>
      [.toNamed (.groupChatMessage ((store.doc? .groups (.named groupId)).map Doc.data))]
    | _ => []
  else
    [.toNamed (.chat (message .chatId) (message .userContact))]

/-- The handler of `getInitialMessage`: the app was not running. -/
def getInitialMessage (store : Store Path Key Value) (android : Bool) (message : Option Payload) :
    List Act :=
  match message with
  | none => []
  | some message =>
    .cancelAll :: if isOther message then
      .cancelAll :: screenOf store message ++ showFlutterNotification android message
    else []

/-- The handler of `onMessageOpenedApp`: the app was in the background. -/
def onMessageOpenedApp (android : Bool) (message : Payload) : List Act :=
  .cancelAll :: if android then
    if message .title = some (.str "Call Ended") then [.cancelAll]
    else if isOther message then [.cancelAll]
    else if isCall message then [.createNotification]
    else [.cancelAll]
  else []

/-! ## Conversations -/

/-- A conversation as one of its users sees it. -/
inductive Conversation : Type where
  | chat (peer chatId : String)
  | group (groupId : String)
  deriving DecidableEq, Repr

/-- The notification tells of a message in the conversation, as its recipient sees it. -/
inductive Sent : Notification → Conversation → Prop where
  | chat (s : ChatController) (content : String) (token : Value) :
      Sent (singleNotification s content token) (.chat s.userData.id s.chatId)
  | group (groupId content name : String) (token : Value) :
      Sent (groupNotification groupId content name token) (.group groupId)

/-- The data name the conversation. -/
def Identifies (message : Payload) : Conversation → Prop
  | .chat peer chatId =>
    message .pId = some (.str peer) ∧ message .chatId = some (.str chatId) ∧
      message .isGroup = some (.bool false)
  | .group groupId =>
    message .groupId = some (.str groupId) ∧ message .isGroup = some (.bool true)

/-- The conversation that the `onReady` of a screen shows; other arguments are an error there. -/
def Navigation.conversation : Navigation → Option Conversation
  | chat (some (.str chatId)) (some (.contact m)) => some (.chat m.uid chatId)
  | chat _ _ => none
  | groupChatMessage (some d) =>
    match d .groupId with
    | some (.str groupId) => some (.group groupId)
    | _ => none
  | groupChatMessage none => none

/-- The handler opens exactly this conversation. -/
def Opens (acts : List Act) (conv : Conversation) : Prop :=
  (∃ screen, .toNamed screen ∈ acts) ∧
    ∀ screen, .toNamed screen ∈ acts → screen.conversation = some conv

/-- From the message to the conversation. -/
structure RoundTrips (fcm : Payload → Payload) (store : Store Path Key Value) (android : Bool)
    (n : Notification) (conv : Conversation) : Prop where
  identifies : Identifies (data n) conv
  initial : Opens (getInitialMessage store android (some (fcm (data n)))) conv
  opened : Opens (onMessageOpenedApp android (fcm (data n))) conv

variable {fcm : Payload → Payload} {store : Store Path Key Value} {android : Bool}
  {n : Notification} {conv : Conversation} {message : Payload}

/-! ## What the data say -/

/-- The data name the conversation exactly if it is a chat of the sender with himself. -/
theorem identifies_iff (h : Sent n conv) :
    Identifies (data n) conv ↔ ∃ peer chatId, conv = .chat peer chatId ∧ n.pId = some peer := by
  cases h with
  | chat s content token =>
    constructor
    · rintro ⟨hpeer, -, -⟩
      exact ⟨_, _, rfl, congrArg some (DataValue.str.inj (Option.some.inj hpeer))⟩
    · rintro ⟨peer, chatId, heq, hpeer⟩
      obtain ⟨rfl, rfl⟩ := Conversation.chat.inj heq
      refine ⟨?_, rfl, rfl⟩
      change some (DataValue.ofString (singleNotification s content token).pId) = _
      rw [hpeer]
      rfl
  | group groupId content name token =>
    constructor
    · rintro ⟨-, hgroup⟩
      cases Option.some.inj hgroup
    · rintro ⟨peer, chatId, heq, -⟩
      cases heq

/-! ## What the handlers do -/

/-- With one of the titles, the app opens where it always does. -/
theorem not_opens_initial (h : isOther message = false) :
    ¬ Opens (getInitialMessage store android (some message)) conv := by
  rintro ⟨⟨screen, hmem⟩, -⟩
  simp [getInitialMessage, h] at hmem

/-- Nothing is ever opened. -/
theorem not_opens_opened : ¬ Opens (onMessageOpenedApp android message) conv := by
  rintro ⟨⟨screen, hmem⟩, -⟩
  unfold onMessageOpenedApp at hmem
  split_ifs at hmem <;> simp at hmem

/-- The title of a message is one of these. -/
theorem Sent.not_isOther (h : Sent n conv) (hmessage : message .title = some (.str n.title)) :
    isOther message = false := by
  have hmem : n.title ∈ titles := by
    cases h with
    | chat s content token => exact List.mem_of_elem_eq_true rfl
    | group groupId content name token => exact List.mem_of_elem_eq_true rfl
  rw [isOther, List.all_eq_false]
  exact ⟨n.title, hmem, by simp [hmessage]⟩

/-! ## Runs -/

variable {es : List (Event Action)} {c : Clients} {session : ℕ → UserData}

theorem sent_of_notifies (h : Notifies n) : ∃ conv, Sent n conv := by
  cases h with
  | single s content token => exact ⟨_, .chat s content token⟩
  | group groupId content name token => exact ⟨_, .group groupId content name token⟩

/-- One action. -/
theorem notifies_of_deed {W : Write Path Key Value → Prop} {t : Tick} {w w' : World}
    (h : Deed W t w w') (hw : ∀ n ∈ w.notifications, Notifies n) :
    ∀ n ∈ w'.notifications, Notifies n := by
  cases h with
  | screens _ _ notifications | mint _ _ _ notifications => rwa [notifications]
  | notify n sent =>
    intro n' hn'
    rcases List.mem_cons.mp hn' with rfl | hn'
    · exact sent
    · exact hw n' hn'
  | write => exact hw

/-- The notifications of a reachable world. -/
theorem sent_of_mem (h : messaging.Run messaging.admits (Clients.initial session) es c)
    (hn : n ∈ c.world.notifications) : ∃ conv, Sent n conv := by
  have hall : (Clients.initial session).All (handlers Written) := fun th hth =>
    absurd hth List.not_mem_nil
  have hleads : Leads _ (messaging.moves (Clients.initial session) es) _ := System.leads_moves
  rw [← h.exec_eq] at hleads
  have hnotifies := hleads.keeps (P := fun w => ∀ n ∈ w.notifications, Notifies n)
    (fun st hst => ?_) fun n hn => absurd hn List.not_mem_nil
  · exact sent_of_notifies (hnotifies n hn)
  · obtain ⟨a, ha, rfl⟩ := List.mem_map.mp hst
    exact notifies_of_deed (deed_of_trace hall a ha)

/-- **Notifications open nothing.** Every notification tells of a message in some conversation, and
of no message does the notification lead anywhere: neither handler opens a conversation. -/
theorem push_lost
    (hfcm : ∀ d title, d .title = some (.str title) → fcm d .title = some (.str title))
    (h : messaging.Run messaging.admits (Clients.initial session) es c)
    (hn : n ∈ c.world.notifications) :
    (∃ conv, Sent n conv) ∧ ∀ conv,
      ¬ Opens (getInitialMessage store android (some (fcm (data n)))) conv ∧
      ¬ Opens (onMessageOpenedApp android (fcm (data n))) conv ∧
      ¬ RoundTrips fcm store android n conv := by
  obtain ⟨conv, hsent⟩ := sent_of_mem h hn
  refine ⟨⟨conv, hsent⟩, fun conv' => ⟨?_, not_opens_opened, fun hround => ?_⟩⟩
  · exact not_opens_initial (hsent.not_isOther (hfcm _ _ rfl))
  · exact not_opens_opened hround.opened

/-! ## Alice and Bob -/

/-- `UserContactModel.toJson`, as a text. -/
def jsonOf (m : UserContactModel) : String :=
  "\x7b\"uid\":\"" ++ m.uid ++ "\",\"username\":\"" ++ m.username ++
    "\",\"phoneNumber\":\"" ++ m.phoneNumber ++ "\",\"image\":\"" ++ m.image ++
    "\",\"isRegister\":" ++ toString m.isRegister ++ "\x7d"

/-- All values arrive as texts. -/
def asTexts (d : Payload) : Payload := fun k =>
  (d k).bind fun
    | .null => none
    | .bool b => some (.str (toString b))
    | .str s => some (.str s)
    | .contact m => some (.str (jsonOf m))

/-- What Bob gets when Alice has written to him. -/
def hello : Notification :=
  singleNotification (written.world.chatCtrl.get 0) "hello" (.str "tokenB")

theorem push_lost_hello :
    ¬ RoundTrips asTexts written.world.store true hello (.chat "alice" "5000") := by
  refine ((push_lost (fun d title h => ?_) run_firstMessage (by decide +kernel)).2 _).2.2
  simp [asTexts, h]

/-- Bob opens the app from the notification of Alice's message. -/
theorem push_opens_nothing :
    ¬ ∀ (es : List (Event Action)) (c : Clients) (n : Notification) (conv : Conversation),
      messaging.Run messaging.admits (Clients.initial aliceAndBob) es c →
      n ∈ c.world.notifications → Sent n conv → RoundTrips asTexts c.world.store true n conv := by
  intro h
  have hsent : Sent hello (.chat "alice" "5000") := by
    have hchat : (written.world.chatCtrl.get 0).userData.id = "alice" ∧
        (written.world.chatCtrl.get 0).chatId = "5000" := by decide +kernel
    have hsent := Sent.chat (written.world.chatCtrl.get 0) "hello" (.str "tokenB")
    rwa [hchat.1, hchat.2] at hsent
  have hround := h _ _ hello _ run_firstMessage (by decide +kernel) hsent
  exact not_opens_opened hround.opened

end FlutterTheme.Push
