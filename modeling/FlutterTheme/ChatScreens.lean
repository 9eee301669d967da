import FlutterTheme.Stamps
import FlutterTheme.Transcript

/-!
# What chat screens and inboxes show

`MessageBox` shows the newest twenty messages of a conversation, `ChatCard` the newest fifteen
entries of an inbox; both are ordered by texts with the time. Where these texts have the same length
and no two of them are the same, what is shown is the account of `Transcript`: the messages in the
order in which they were sent, each on the side of its sender (`messages_shown`), and the
conversations in the order of their latest messages (`inbox_shown`).
-/

namespace FlutterTheme.Transcript

open EventLoop DocStore Stamps Greatest

/-! ## The screens -/

/-- `MessageBox.build`: the widgets for the messages, the newest one first. It is at the bottom. -/
def messageBox (w : World) (s : ChatController) : List (Option Item × Document) :=
  (orderByLimit .timestamp 20 (w.store.docs (.messages s.chatId))).map
    fun document => (buildItem document.data s.userData.id, document)

/-- `MessageFirebaseApi.chatListWidget`. -/
def chatListWidget (snapshot : List Document) : List Document :=
  (List.range snapshot.length).foldl (fun message a => message ++ snapshot[a]?.toList) []

/-- `ChatCard.build` for the signed-in user: the cards, the newest one first. -/
def chatCard (w : World) (currentUserId : String) : List (Option Card × Document) :=
  (chatListWidget (orderByLimit .updateStamp 15 (w.store.docs (.chats currentUserId)))).map
    fun document => (loadUser document.data currentUserId, document)

theorem chatListWidget_eq (snapshot : List Document) : chatListWidget snapshot = snapshot := by
  have htake : ∀ n, (List.range n).foldl (fun message a => message ++ snapshot[a]?.toList) [] =
      snapshot.take n := by
    intro n
    induction n with
    | zero => rfl
    | succ n ih => rw [List.range_succ, List.foldl_append, ih, List.take_add_one]; rfl
  rw [chatListWidget, htake, List.take_length]

/-! ## Documents in order -/

/-- The texts of a field differ, and are of the same length. -/
structure Differ (k : Key) (docs : List Document) : Prop where
  nodup : (docs.map (fieldText k)).Nodup
  length : ∀ doc ∈ docs, ∀ doc' ∈ docs,
    (fieldText k doc).toList.length = (fieldText k doc').toList.length

/-- The text of a field among the fields of a document. -/
def textOf (k : Key) (d : Data) : String := fieldText k ⟨.auto 0, d⟩

theorem textOf_unseen {k : Key} (hk : k ≠ .isSeen) (doc : Document) :
    textOf k (unseen doc.data) = fieldText k doc := by
  simp only [textOf, fieldText, unseen_of_ne hk]

variable {fields : Sent → ℕ → Data} {ms : List Sent} {n : ℕ} {docs : List Document} {k : Key}

/-- The documents of an account, in the order of a field with the stamp. -/
theorem Holds.ordered (h : Holds fields ms n docs) (hdiffer : Differ k docs) (hk : k ≠ .isSeen)
    (hfield : ∀ m stamp, fields m stamp k = some (.str (toString stamp))) (i : ℕ) :
    ∃ l : List (Sent × ℕ), l.map Prod.fst = ms.take i ∧
      (orderByLimit k i docs).map (fun doc => unseen doc.data) =
        l.map fun x => unseen (fields x.1 x.2) := by
  obtain ⟨l, rfl, hperm, hstamps⟩ := h
  have hstamp : ∀ x : Sent × ℕ, unseen (fields x.1 x.2) k = some (.str (toString x.2)) :=
    fun x => (unseen_of_ne hk).trans (hfield x.1 x.2)
  have htext : ∀ x : Sent × ℕ, textOf k (unseen (fields x.1 x.2)) = toString x.2 := fun x => by
    simp only [textOf, fieldText, hstamp]
  -- the texts of the account are those of the documents
  have htexts : (docs.map (fieldText k)).Perm (l.map fun x => toString x.2) := by
    have hmap := hperm.map (textOf k)
    simpa only [List.map_map, Function.comp_def, textOf_unseen hk, htext] using hmap
  -- every document has the field
  have hall : docs.filter (fun doc => (doc.data k).isSome) = docs := by
    refine List.filter_eq_self.mpr fun doc hdoc => ?_
    obtain ⟨x, -, hx⟩ := List.mem_map.mp (hperm.subset (List.mem_map_of_mem hdoc))
    have hsome : unseen doc.data k = some (.str (toString x.2)) := hx ▸ hstamp x
    rw [unseen_of_ne hk] at hsome
    rw [hsome]
    rfl
  have hsorted : (descending (fieldText k) docs).map (fun doc => unseen doc.data) =
      l.map fun x => unseen (fields x.1 x.2) := by
    have hantisymm : ∀ d d' : Data, textOf k d' < textOf k d → textOf k d < textOf k d' → d = d' :=
      fun _ _ hlt hlt' => absurd hlt' (lt_asymm hlt)
    refine List.Perm.eq_of_pairwise (fun d d' _ _ => hantisymm d d') ?_ ?_ ?_
    · have hnodup : ((descending (fieldText k) docs).map (fieldText k)).Nodup :=
        (perm_descending.map _).nodup_iff.mpr hdiffer.nodup
      rw [List.pairwise_map]
      refine ((sorted_descending (fieldText k) docs).and (List.pairwise_map.mp hnodup)).imp ?_
      intro doc doc' h
      rw [textOf_unseen hk, textOf_unseen hk]
      exact lt_of_le_of_ne h.1 h.2.symm
    · have hnodup : (l.map fun x => toString x.2).Nodup := htexts.nodup_iff.mp hdiffer.nodup
      have hlength : ∀ x ∈ l, ∀ x' ∈ l,
          (toString x.2).toList.length = (toString x'.2).toList.length := by
        intro x hx x' hx'
        obtain ⟨doc, hdoc, he⟩ := List.mem_map.mp (htexts.symm.subset (List.mem_map_of_mem hx))
        obtain ⟨doc', hdoc', he'⟩ := List.mem_map.mp (htexts.symm.subset (List.mem_map_of_mem hx'))
        rw [← he, ← he']
        exact hdiffer.length doc hdoc doc' hdoc'
      have hstamps := List.pairwise_map.mp (List.pairwise_cons.mp hstamps).2
      rw [List.pairwise_map]
      refine (hstamps.and (List.pairwise_map.mp hnodup)).imp_of_mem ?_
      intro x x' hx hx' h
      rw [htext, htext, toString_lt_iff (hlength x' hx' x hx)]
      exact lt_of_le_of_ne h.1 fun he => h.2 (by rw [he])
    · exact (perm_descending.map _).trans hperm
  refine ⟨l.take i, by rw [List.map_take], ?_⟩
  rw [orderByLimit, hall, List.map_take, hsorted, List.map_take]

/-! ## What is shown -/

/-- How a message is shown to a user. -/
def Sent.item (m : Sent) (user : String) : Item :=
  if m.sender = user then .senderMessage
  else if m.type = .messageType then .container
  else .receiverMessage

/-- The card for the latest message of a conversation. -/
def Sent.card (m : Sent) (user : String) : Card :=
  if m.sender = user then .receiverMessageCard else .messageCard

theorem buildItem_unseen (d : Data) (user : String) :
    buildItem (unseen d) user = buildItem d user := by
  simp only [buildItem, unseen_of_ne (show Key.sender ≠ .isSeen by decide),
    unseen_of_ne (show Key.type ≠ .isSeen by decide),
    unseen_of_ne (show Key.isBlock ≠ .isSeen by decide)]

theorem loadUser_unseen (d : Data) (user : String) :
    loadUser (unseen d) user = loadUser d user := by
  simp only [loadUser, groupCard, oneToOneCard, broadcastCard,
    unseen_of_ne (show Key.isGroup ≠ .isSeen by decide),
    unseen_of_ne (show Key.isBroadcast ≠ .isSeen by decide),
    unseen_of_ne (show Key.senderId ≠ .isSeen by decide),
    unseen_of_ne (show Key.receiverId ≠ .isSeen by decide)]

/-- What a stored message is built to on a screen depends on its sender and its type, not on its
stamp. -/
theorem buildItem_message (m : Sent) (stamp : ℕ) (user : String) :
    buildItem (m.message stamp) user = some (m.item user) := by
  have hsender : m.message stamp .sender = some (.str m.sender) := rfl
  have htype : m.message stamp .type = some (.str m.type.name) := rfl
  have hblock : m.message stamp .isBlock = some (.bool false) := rfl
  have hname : m.type.name = MessageType.messageType.name ↔ m.type = .messageType := by
    cases m.type <;> decide
  simp only [buildItem, hsender, htype, hblock, Option.bind_eq_bind, Option.bind_some,
    Value.str.injEq, hname, Sent.item]
  split_ifs <;> simp_all

theorem loadUser_entry (m : Sent) (stamp : ℕ) (user : String) :
    loadUser (m.entry stamp) user = some (m.card user) := by
  have hgroup : m.entry stamp .isGroup = some (.bool false) := rfl
  have hbroadcast : m.entry stamp .isBroadcast = some (.bool false) := rfl
  have hsender : m.entry stamp .senderId = some (.str m.sender) := rfl
  simp [loadUser, oneToOneCard, hgroup, hbroadcast, hsender, Sent.card]

variable {session : ℕ → UserData} {es : List (Event Action)} {c : Clients}

/-- **A conversation is shown as it was sent.** Once no message to the conversation is under way,
the chat screens in it show the newest messages in the order in which they were sent, those of the
other user on the other side. -/
theorem messages_shown {cid : String} (s : ChatController) (hs : s.chatId = cid)
    (h : messaging.Run (Orderly (.ofConversation cid)) (Clients.initial session) es c)
    (hclock : messaging.NonDecreasing (Clients.initial session) es)
    (hnone : ∀ th ∈ c.threads, (Region.ofConversation cid).concerns th.scope = false)
    (hdiffer : Differ .timestamp (c.world.store.docs (.messages cid))) :
    (messageBox c.world s).map (fun x => (x.1, x.2.data .content)) =
      ((conversation cid (sentIn (Clients.initial session) es)).take 20).map
        fun m => (some (m.item s.userData.id), some (.str m.content)) := by
  have hmessages := (kept_of_run h hclock hnone).messages cid (decide_eq_true rfl)
  obtain ⟨l, hl, hordered⟩ := hmessages.ordered hdiffer (by decide) (fun _ _ => rfl) 20
  have hshown : ∀ d : Data, (buildItem (unseen d) s.userData.id, unseen d .content) =
      (buildItem d s.userData.id, d .content) := fun d => by
    rw [buildItem_unseen, unseen_of_ne (by decide)]
  have hmap := congrArg (List.map fun d => (buildItem d s.userData.id, d .content)) hordered
  simp only [List.map_map, Function.comp_def, hshown, buildItem_message] at hmap
  rw [← hl, messageBox, List.map_map, List.map_map, hs]
  exact hmap

/-- Alice's screen of the chat with Bob. -/
def alicesScreen : ChatController where
  device := 0
  userData := person "alice"
  userContactModel := contact "bob"
  pId := "bob"
  pName := "bob"
  chatId := "5000000"

theorem messages_shown_answered :
    (messageBox (messaging.exec (Clients.initial aliceAndBob) answered).world alicesScreen).map
        (fun x => (x.1, x.2.data .content)) =
      [(some .receiverMessage, some (.str "hi")), (some .senderMessage, some (.str "hello"))] := by
  have hshown := messages_shown alicesScreen rfl (orderly_answered _ (by decide +kernel))
    (by decide +kernel) (by decide +kernel) ⟨by decide +kernel, by decide +kernel⟩
  exact hshown.trans (by decide +kernel)

/-- **An inbox shows the latest messages.** Once no message from or to the user is under way, the
cards are those of the newest conversations in the order of their latest messages, each with this
message and the identifier under which a tap on it opens the chat. -/
theorem inbox_shown {u : String}
    (h : messaging.Run (Orderly (.ofUser u)) (Clients.initial session) es c)
    (hclock : messaging.NonDecreasing (Clients.initial session) es)
    (hnone : ∀ th ∈ c.threads, (Region.ofUser u).concerns th.scope = false)
    (hdiffer : Differ .updateStamp (c.world.store.docs (.chats u))) :
    (chatCard c.world u).map (fun x => (x.1, x.2.data .lastMessage, x.2.data .chatId)) =
      ((inbox u (sentIn (Clients.initial session) es)).take 15).map
        fun m => (some (m.card u), some (.str m.content), some (.str m.chatId)) := by
  have hentries := (kept_of_run h hclock hnone).entries u (decide_eq_true rfl)
  obtain ⟨l, hl, hordered⟩ := hentries.ordered hdiffer (by decide) (fun _ _ => rfl) 15
  have hshown : ∀ d : Data, (loadUser (unseen d) u, unseen d .lastMessage, unseen d .chatId) =
      (loadUser d u, d .lastMessage, d .chatId) := fun d => by
    rw [loadUser_unseen, unseen_of_ne (by decide), unseen_of_ne (by decide)]
  have hmap := congrArg (List.map fun d => (loadUser d u, d .lastMessage, d .chatId)) hordered
  simp only [List.map_map, Function.comp_def, hshown, loadUser_entry] at hmap
  rw [← hl, chatCard, chatListWidget_eq, List.map_map, List.map_map]
  exact hmap

theorem inbox_shown_answered :
    (chatCard (messaging.exec (Clients.initial aliceAndBob) answered).world "alice").map
        (fun x => (x.1, x.2.data .lastMessage, x.2.data .chatId)) =
      [(some .messageCard, some (.str "hi"), some (.str "5000000"))] := by
  have hshown := inbox_shown (u := "alice") (orderly_answered _ (by decide +kernel))
    (by decide +kernel) (by decide +kernel) ⟨by decide +kernel, by decide +kernel⟩
  exact hshown.trans (by decide +kernel)

end FlutterTheme.Transcript
