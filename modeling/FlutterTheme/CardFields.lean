import FlutterTheme.Cards
import FlutterTheme.Clients

/-!
# What the cards find in the inbox

Several handlers write the entries of an inbox, with different fields. `Displayed` says what
is in every entry, whoever wrote it last, and `Suits` that an entry has all that the card
which `LoadUser` chooses for it reads, as the type it is read as.

* `Layout.Shows` — a part of a card finds what it reads, and shows something.
* `Permits.displayed`, `Clients.displayed` — every write, and so every run, leaves every entry
  `Displayed`.
* `inbox_suits` — every entry suits its card.
-/

namespace FlutterTheme

open EventLoop DocStore

/-- The fields that the cards mention and nothing stores. -/
def unstored : List Key := [.blockUserMessage, .group, .sender]

/-! ## Finding what is read -/

namespace Layout

variable {α β : Type} {d : Data}

/-- Every field read is there, as what it is used as, and none of them is one that nothing
stores; what is shown satisfies `Q`. -/
def Shows (m : Layout α) (d : Data) (Q : α → Prop) : Prop :=
  (∀ k ∈ (m d).1, k ∉ unstored ∧ (d k).isSome = true) ∧ ∃ a, (m d).2 = some a ∧ Q a

variable {m : Layout α} {Q Q' : α → Prop} {k : Key}

theorem Shows.imp (h : m.Shows d Q) (hQ : ∀ a, Q a → Q' a) : m.Shows d Q' := by
  obtain ⟨hkeys, a, ha, hq⟩ := h
  exact ⟨hkeys, a, ha, hQ a hq⟩

theorem shows_pure {a : α} (h : Q a) : Shows (pure a) d Q :=
  ⟨fun _ hk => absurd hk List.not_mem_nil, a, rfl, h⟩

/-- A card that reads one field and goes on with it shows what it should if both parts do; the
fields it reads are those of both. -/
theorem shows_bind {f : α → Layout β} {R : β → Prop} (h : m.Shows d Q)
    (hf : ∀ a, Q a → (f a).Shows d R) : Shows (m >>= f) d R := by
  obtain ⟨hkeys, a, ha, hq⟩ := h
  obtain ⟨hkeys', b, hb, hr⟩ := hf a hq
  have hbind : (m >>= f) d = ((m d).1 ++ (f a d).1, (f a d).2) := by
    change Layout.bind m f d = _
    unfold Layout.bind
    split
    · next keys a' hm =>
      rw [hm] at ha ⊢
      cases ha
      rfl
    · next keys hm =>
      rw [hm] at ha
      cases ha
  unfold Shows
  rw [hbind]
  refine ⟨?_, b, hb, hr⟩
  intro k hk
  rcases List.mem_append.mp hk with hk | hk
  · exact hkeys k hk
  · exact hkeys' k hk

theorem shows_map {f : α → β} {R : β → Prop} (h : m.Shows d fun a => R (f a)) :
    Shows (f <$> m) d R :=
  shows_bind h fun _ hr => shows_pure hr

theorem shows_field {Q : Value → Prop} {v : Value} (hd : d k = some v) (hk : k ∉ unstored)
    (hq : Q v) : Shows (field k) d Q := by
  refine ⟨?_, v, hd, hq⟩
  intro k' hk'
  obtain rfl := List.mem_singleton.mp hk'
  rw [hd]
  exact ⟨hk, rfl⟩

theorem shows_text {Q : String → Prop} {s : String} (hd : d k = some (.str s))
    (hk : k ∉ unstored) (hq : Q s) : Shows (text k) d Q := by
  refine shows_bind (shows_field hd hk (Q := fun v => v = .str s) rfl) ?_
  rintro _ rfl
  exact shows_pure hq

/-- A text that is only looked up. -/
theorem shows_bind_text {f : String → Layout β} {R : β → Prop} {s : String}
    (hd : d k = some (.str s)) (hk : k ∉ unstored) (hf : ∀ s, (f s).Shows d R) :
    Shows (text k >>= f) d R :=
  shows_bind (shows_text hd hk (Q := fun _ => True) trivial) fun s _ => hf s

theorem shows_bool {Q : Bool → Prop} {b : Bool} (hd : d k = some (.bool b))
    (hk : k ∉ unstored) (hq : Q b) : Shows (bool k) d Q := by
  refine shows_bind (shows_field hd hk (Q := fun v => v = .bool b) rfl) ?_
  rintro _ rfl
  exact shows_pure hq

theorem shows_list {Q : List SelectedContact → Prop} {l : List SelectedContact}
    (hd : d k = some (.contacts l)) (hk : k ∉ unstored) (hq : Q l) : Shows (list k) d Q := by
  refine shows_bind (shows_field hd hk (Q := fun v => v = .contacts l) rfl) ?_
  rintro _ rfl
  exact shows_pure hq

end Layout

/-! ## What is in an entry -/

/-- What is in an entry of the inbox of `u`, whoever wrote it last. -/
structure Displayed (u : String) (d : Data) : Prop where
  updateStamp : ∃ n : ℕ, d .updateStamp = some (.str (toString n))
  lastMessage : ∃ s, d .lastMessage = some (.str s) ∧ s ≠ ""
  senderId : ∃ s, d .senderId = some (.str s)
  /-- the ticks and the block of a conversation -/
  oneToOne : d .isOneToOne = some (.bool true) →
    (∃ isSeen, d .isSeen = some (.bool isSeen)) ∧ ∃ isBlock, d .isBlock = some (.bool isBlock)
  /-- a group is one of the groups of `u` -/
  group : d .isGroup = some (.bool true) →
    (∃ users, d .receiverId = some (.contacts users) ∧ isMember u users = true) ∧
      ∃ groupId, d .groupId = some (.str groupId)
  /-- a broadcast, which is neither a conversation nor a group, has a name -/
  broadcast : d .isOneToOne = none → ∃ broadcastId, d .broadcastId = some (.str broadcastId)
  /-- only a broadcast has the name of one -/
  owner : (d .broadcastId).isSome = true → d .isGroup = some (.bool false)
  others : ∀ k ∈ unstored, d k = none

/-! ### What the parts of a card show -/

section Parts

open Layout

variable {lastMessage media blockBy name title : String}

theorem Displayed.shows_text (h : Displayed u d) : (text .lastMessage).Shows d (· ≠ "") := by
  obtain ⟨s, hs, hne⟩ := h.lastMessage
  exact Layout.shows_text hs (by decide) hne

theorem Displayed.shows_senderId (h : Displayed u d) : (field .senderId).Shows d fun _ => True := by
  obtain ⟨s, hs⟩ := h.senderId
  exact shows_field hs (by decide) trivial

theorem Displayed.shows_updateTime (h : Displayed u d) : updateTime.Shows d fun _ => True := by
  obtain ⟨n, hn⟩ := h.updateStamp
  refine shows_bind (Layout.shows_text hn (by decide) (Q := fun s => s = toString n) rfl) ?_
  rintro _ rfl
  simp only [intParse_toString]
  exact shows_pure trivial

theorem Displayed.shows_trailingLayout (h : Displayed u d) :
    (trailingLayout u).Shows d fun _ => True := by
  refine shows_bind h.shows_updateTime fun _ _ => ?_
  refine shows_bind h.shows_senderId fun _ _ => ?_
  exact shows_pure trivial

/-- A `bool` is not the text `"true"`. -/
theorem Displayed.shows_isBlocked (h : Displayed u d) (hone : d .isOneToOne = some (.bool true)) :
    isBlocked.Shows d (· = false) := by
  obtain ⟨-, isBlock, hblock⟩ := h.oneToOne hone
  refine shows_bind (shows_field hblock (by decide) (Q := fun _ => True) trivial) fun v _ => ?_
  split
  · refine shows_bind (shows_field hblock (by decide) (Q := fun v => v = .bool isBlock) rfl) ?_
    rintro _ rfl
    exact shows_pure rfl
  · exact shows_pure rfl

/-- A message is never shown as blocked, so the name of a block is not read. -/
theorem Displayed.shows_messageText (h : Displayed u d)
    (hone : d .isOneToOne = some (.bool true)) :
    (messageText lastMessage media blockBy).Shows d fun _ => True := by
  unfold messageText
  split
  · exact shows_pure trivial
  · refine shows_bind (h.shows_isBlocked hone) ?_
    rintro _ rfl
    rw [if_neg Bool.false_ne_true]
    split <;> exact shows_pure trivial

theorem Displayed.shows_subTitleLayout (h : Displayed u d)
    (hone : d .isOneToOne = some (.bool true)) :
    (subTitleLayout blockBy).Shows d fun _ => True := by
  obtain ⟨⟨isSeen, hseen⟩, -⟩ := h.oneToOne hone
  refine shows_bind (shows_bool hseen (by decide) (Q := fun _ => True) trivial) fun _ _ => ?_
  refine shows_bind h.shows_text fun s _ => ?_
  split
  · exact shows_pure trivial
  · exact shows_bind (h.shows_messageText hone) fun _ _ => shows_pure trivial

theorem Displayed.shows_ownTick (h : Displayed u d) (hone : d .isOneToOne = some (.bool true)) :
    (ownTick u).Shows d fun _ => True := by
  obtain ⟨⟨isSeen, hseen⟩, -⟩ := h.oneToOne hone
  refine shows_bind h.shows_senderId fun senderId _ => ?_
  split
  · exact shows_map (shows_bool hseen (by decide) trivial)
  · exact shows_pure trivial

theorem Displayed.shows_messageCardSubTitle (h : Displayed u d)
    (hone : d .isOneToOne = some (.bool true)) :
    (messageCardSubTitle u blockBy name).Shows d fun _ => True := by
  refine shows_bind (h.shows_ownTick hone) fun _ _ => ?_
  refine shows_bind h.shows_text fun s _ => ?_
  exact shows_bind (h.shows_messageText hone) fun _ _ => shows_pure trivial

/-- The message is not empty, so the group and the sender are not read. -/
theorem Displayed.shows_groupCardSubTitle (h : Displayed u d) :
    (groupCardSubTitle u name).Shows d fun _ => True := by
  refine shows_bind h.shows_text fun s hs => ?_
  rw [if_neg hs]
  split
  · exact shows_pure trivial
  split
  · exact shows_pure trivial
  split <;> exact shows_pure trivial

/-- The last message is not null. -/
theorem Displayed.shows_notNull (h : Displayed u d) {m m' : Layout View} {Q : View → Prop}
    (hm : m'.Shows d Q) :
    (field .lastMessage >>= fun v => if v = .null then m else m').Shows d Q := by
  obtain ⟨s, hs, -⟩ := h.lastMessage
  refine shows_bind (shows_field hs (by decide) (Q := fun v => v = .str s) rfl) ?_
  rintro _ rfl
  rwa [if_neg nofun]

/-- The card of a conversation the user has sent to last finds all it reads in an entry that is
displayed. -/
theorem Displayed.shows_messageCard (h : Displayed u d)
    (hone : d .isOneToOne = some (.bool true)) {chatId : String}
    (hchat : d .chatId = some (.str chatId)) :
    (messageCard u blockBy name).Shows d fun _ => True := by
  obtain ⟨sender, hsender⟩ := h.senderId
  refine shows_bind_text hsender (by decide) fun _ => ?_
  refine shows_bind_text hchat (by decide) fun _ => ?_
  refine shows_bind h.shows_trailingLayout fun _ _ => ?_
  refine h.shows_notNull ?_
  refine shows_bind h.shows_text fun s _ => ?_
  split
  · exact shows_pure trivial
  · exact shows_bind (h.shows_messageCardSubTitle hone) fun _ _ => shows_pure trivial

theorem Displayed.shows_receiverMessageCard (h : Displayed u d)
    (hone : d .isOneToOne = some (.bool true)) {chatId receiver : String}
    (hchat : d .chatId = some (.str chatId)) (hreceiver : d .receiverId = some (.str receiver)) :
    (receiverMessageCard u blockBy name).Shows d fun _ => True := by
  refine shows_bind_text hreceiver (by decide) fun _ => ?_
  refine shows_bind_text hchat (by decide) fun _ => ?_
  refine shows_bind h.shows_trailingLayout fun _ _ => ?_
  refine h.shows_notNull ?_
  exact shows_bind (h.shows_subTitleLayout hone) fun _ _ => shows_pure trivial

/-- The card of a group finds all it reads in an entry that is displayed, the list of members
included. -/
theorem Displayed.shows_groupMessageCard (h : Displayed u d)
    (hgroup : d .isGroup = some (.bool true)) :
    (groupMessageCard u title name).Shows d fun _ => True := by
  obtain ⟨-, groupId, hid⟩ := h.group hgroup
  obtain ⟨sender, hsender⟩ := h.senderId
  refine shows_bind_text hid (by decide) fun _ => ?_
  refine shows_bind_text hsender (by decide) fun _ => ?_
  refine shows_bind h.shows_updateTime fun _ _ => ?_
  refine h.shows_notNull ?_
  exact shows_bind h.shows_groupCardSubTitle fun _ _ => shows_pure trivial

theorem Displayed.shows_broadCastMessageCard (h : Displayed u d)
    (hone : d .isOneToOne = none) {pData : List SelectedContact}
    (hreceiver : d .receiverId = some (.contacts pData)) :
    broadCastMessageCard.Shows d fun _ => True := by
  obtain ⟨b, hb⟩ := h.broadcast hone
  refine shows_bind (shows_list hreceiver (by decide) (Q := fun _ => True) trivial) fun _ _ => ?_
  refine shows_bind_text hb (by decide) fun _ => ?_
  refine shows_bind h.shows_text fun _ _ => ?_
  exact shows_bind h.shows_updateTime fun _ _ => shows_pure trivial

end Parts

/-! ### Every write -/

/-- What is said about the documents of a collection. -/
def Shown : Path → Document → Prop
  | .chats u, x => Displayed u x.data
  | _, _ => True

/-- Every entry of an inbox is displayed. -/
def World.Displays (w : World) : Prop := ∀ q, ∀ x ∈ w.store.docs q, Shown q x

variable {u : String} {d : Data}

/-- Writing fields that are stored leaves the others out. -/
theorem unstored_merge {fields : Data} (h : ∀ k ∈ unstored, d k = none)
    (hf : ∀ k ∈ unstored, fields k = none) : ∀ k ∈ unstored, d.merge fields k = none := by
  intro k hk
  rw [Fields.merge_of_none (hf k hk)]
  exact h k hk

theorem unstored_inboxFields {stamp x c content : String} {receiver : Value}
    {isBlock isBroadcast : Bool} : ∀ k ∈ unstored,
      inboxFields stamp x receiver c content u isBlock isBroadcast k = none := by
  simp [unstored, inboxFields, Fields.ofList]

/-- What `saveMessageInUserCollection` leaves of an entry. -/
theorem Displayed.saved {stamp x c content p : String} {isBlock isBroadcast : Bool}
    (stamped : IsStamp stamp) (nonempty : content ≠ "")
    (hf : ∀ k v, inboxFields stamp x (.str p) c content u isBlock isBroadcast k = some v →
      d k = some v)
    (hun : ∀ k ∈ unstored, d k = none) : Displayed x d := by
  have hgroup : d .isGroup = some (.bool false) := hf _ _ rfl
  have hone : d .isOneToOne = some (.bool true) := hf _ _ rfl
  refine ⟨?_, ⟨content, hf _ _ rfl, nonempty⟩, ⟨u, hf _ _ rfl⟩, ?_, ?_, ?_, fun _ => hgroup, hun⟩
  · obtain ⟨n, rfl⟩ := stamped
    exact ⟨n, hf _ _ rfl⟩
  · exact fun _ => ⟨⟨false, hf _ _ rfl⟩, isBlock, hf _ _ rfl⟩
  · intro htrue
    rw [hgroup] at htrue
    cases htrue
  · intro hnone
    rw [hone] at hnone
    cases hnone

/-- Marking an entry as seen leaves all of it there. -/
theorem Displayed.seen (h : Displayed u d) :
    Displayed u (d.merge (.ofList [(.isSeen, .bool true)])) where
  updateStamp := h.updateStamp
  lastMessage := h.lastMessage
  senderId := h.senderId
  oneToOne hone := ⟨⟨true, rfl⟩, (h.oneToOne hone).2⟩
  group := h.group
  broadcast := h.broadcast
  owner := h.owner
  others := unstored_merge h.others (by simp [unstored, Fields.ofList])

/-- The entry that `createGroup` writes has all that the group's card reads, for every member on its
list. -/
theorem displayed_groupEntry {users : List SelectedContact} {user : UserData} {g stamp : String}
    (member : isMember u users = true) (stamped : IsStamp stamp) :
    Displayed u (groupEntryFields users user g stamp) where
  updateStamp := stamped.imp fun n hn => by rw [← hn]; rfl
  lastMessage := by
    refine ⟨_, rfl, fun hempty => ?_⟩
    obtain ⟨-, hcreated⟩ := String.append_eq_empty_iff.mp hempty
    exact absurd hcreated (by decide)
  senderId := ⟨user.id, rfl⟩
  oneToOne hone := by cases hone
  group _ := ⟨⟨users, rfl, member⟩, g, rfl⟩
  broadcast hnone := by cases hnone
  owner hsome := by cases hsome
  others := by simp [unstored, groupEntryFields, Fields.ofList]

/-- A new message in the entry of a group. -/
theorem Displayed.groupMessage {stamp content sender : String} (h : Displayed u d)
    (stamped : IsStamp stamp) (nonempty : content ≠ "") :
    Displayed u (d.merge (.ofList [
      (.updateStamp, .str stamp), (.lastMessage, .str content), (.senderId, .str sender)])) where
  updateStamp := stamped.imp fun n hn => by rw [← hn]; rfl
  lastMessage := ⟨content, rfl, nonempty⟩
  senderId := ⟨sender, rfl⟩
  oneToOne := h.oneToOne
  group := h.group
  broadcast := h.broadcast
  owner := h.owner
  others := unstored_merge h.others (by simp [unstored, Fields.ofList])

/-- The entry that `addGroupBottomSheet` writes has all that the broadcast's card reads. -/
theorem displayed_broadcastEntry {pData : List SelectedContact} {b stamp : String}
    {user : UserData} (stamped : IsStamp stamp) :
    Displayed u (broadcastEntryFields pData b user stamp) where
  updateStamp := stamped.imp fun n hn => by rw [← hn]; rfl
  lastMessage := ⟨_, rfl, by decide⟩
  senderId := ⟨user.id, rfl⟩
  oneToOne hone := by cases hone
  group hgroup := by cases hgroup
  broadcast _ := ⟨b, rfl⟩
  owner _ := rfl
  others := by simp [unstored, broadcastEntryFields, Fields.ofList]

/-- A new message in the entry of a broadcast. -/
theorem Displayed.broadcastMessage {pData : List SelectedContact} {stamp content b : String}
    (h : Displayed u d) (hb : d .broadcastId = some (.str b)) (stamped : IsStamp stamp)
    (nonempty : content ≠ "") :
    Displayed u (d.merge (.ofList [(.receiverId, .contacts pData), (.updateStamp, .str stamp),
      (.lastMessage, .str content)])) where
  updateStamp := stamped.imp fun n hn => by rw [← hn]; rfl
  lastMessage := ⟨content, rfl, nonempty⟩
  senderId := h.senderId
  oneToOne := h.oneToOne
  group htrue := by
    have hgroup := h.owner (by rw [hb]; rfl)
    have htrue : d .isGroup = some (.bool true) := htrue
    rw [hgroup] at htrue
    cases htrue
  broadcast := h.broadcast
  owner := h.owner
  others := unstored_merge h.others (by simp [unstored, Fields.ofList])

/-! ## Every run -/

variable {w w' : World} {l : Scope}

/-- A write of a handler puts in only entries that are displayed. One case for each write; those
that write an entry again rely on what it was before. -/
theorem Permits.displayed {op : Write Path Key Value} (h : Permits w l op)
    (hd : w.Displays) : ∀ q x, w.store.Puts op q x → Shown q x := by
  cases h with
  | message | register | group | groupMessage | broadcast | broadcastMessage =>
    rintro _ _ ⟨rfl, rfl⟩
    trivial
  | addEntry _ _ stamped nonempty =>
    rintro _ _ ⟨rfl, rfl⟩
    exact Displayed.saved stamped nonempty (fun _ _ hk => hk) unstored_inboxFields
  | updateEntry _ _ _ stamped nonempty =>
    rintro _ _ ⟨rfl, y, hy, -, rfl⟩
    have hy' : Displayed _ y.data := hd _ y hy
    exact Displayed.saved stamped nonempty (fun _ _ => Fields.merge_of_some)
      (unstored_merge hy'.others unstored_inboxFields)
  | seen =>
    rintro _ _ ⟨rfl, y, hy, -, rfl⟩
    exact Displayed.seen (hd _ y hy)
  | deleteMessage => exact fun _ _ hput => hput.elim
  | addGroupEntry member stamped =>
    rintro _ _ ⟨rfl, rfl⟩
    exact displayed_groupEntry member stamped
  | updateGroupEntry _ stamped nonempty =>
    rintro _ _ ⟨rfl, y, hy, -, rfl⟩
    exact Displayed.groupMessage (hd _ y hy) stamped nonempty
  | addBroadcastEntry _ stamped =>
    rintro _ _ ⟨rfl, rfl⟩
    exact displayed_broadcastEntry stamped
  | updateBroadcastEntry _ found stamped nonempty =>
    rintro _ _ ⟨rfl, y, hy, hid, rfl⟩
    exact Displayed.broadcastMessage (hd _ y hy) (found y hy hid) stamped nonempty

theorem Effect.displayed {π : Terms} (h : Effect π l w w')
    (hd : w.Displays) : w'.Displays := by
  cases h with
  | screens store | mint _ store =>
    unfold World.Displays
    rw [store]
    exact hd
  | block | notify => exact hd
  | write op _ permitted => exact Store.forall_write hd (permitted.displayed hd)

variable {session : ℕ → UserData} {es : List (Event Action)} {c : Clients}

/-- Every run leaves every entry of an inbox displayed. -/
theorem Clients.displayed
    (h : messaging.Run messaging.admits (Clients.initial session) es c) : c.world.Displays := by
  induction h with
  | nil => exact fun _ _ hx => absurd hx List.not_mem_nil
  | @snoc es c h e he ih =>
    refine System.apply_steps (R := fun w w' : World => w.Displays → w'.Displays)
      (fun _ hd => hd) (fun h h' hd => h' (h hd)) ?_ ih
    exact fun st hst hd => (Clients.steps h he st hst).displayed hd

/-! ## Every entry suits its card -/

/-- The entry of an inbox of `u` is well formed for the card that shows it. -/
structure Suits (u : String) (d : Data) (card : Card) : Prop where
  /-- the entries of groups -/
  group : card = .groupMessageCard ↔ d .isGroup = some (.bool true)
  groupId : card = .groupMessageCard ↔ (d .groupId).isSome = true
  /-- the entries of the owners of broadcasts -/
  broadcast : card = .broadCastMessageCard ↔ (d .broadcastId).isSome = true
  /-- the entries of conversations -/
  oneToOne : card = .messageCard ∨ card = .receiverMessageCard ↔
    d .isOneToOne = some (.bool true)
  shown : card ≠ .container
  list : card = .groupMessageCard ∨ card = .broadCastMessageCard →
    ∃ contacts, d .receiverId = some (.contacts contacts)
  text : card = .messageCard ∨ card = .receiverMessageCard →
    ∃ receiver, d .receiverId = some (.str receiver)
  updateStamp : ∃ n : ℕ, d .updateStamp = some (.str (toString n))
  lastMessage : ∃ s, d .lastMessage = some (.str s) ∧ s ≠ ""
  isSeen : card = .messageCard ∨ card = .receiverMessageCard →
    ∃ isSeen, d .isSeen = some (.bool isSeen)
  /-- nothing stores the fields that the layouts do not reach -/
  others : ∀ k ∈ unstored, d k = none
  /-- the card finds all it reads, and is not the empty `Container` -/
  shows : ∀ blockBy title name,
    (card.build u blockBy title name).Shows d fun view => view.isSome = true

/-- The main lemma about cards: every entry in the inbox of its owner gets the card of its kind,
which finds the fields it reads. One case for each kind of entry; between two users it is one of two
cards. -/
theorem Entry.suits {m : Registry} (he : Entry m u d) (h : Displayed u d) :
    ∃ card, loadUser d u = some card ∧ Suits u d card := by
  cases he with
  | @oneToOne sender receiver chatId p isBroadcast hsender hreceiver hchat _ _ hone hgroup hbroadcast
      received hgroupId hbroadcastId =>
    refine ⟨_, loadUser_oneToOne hgroup hbroadcast hsender received, ?_⟩
    obtain ⟨hseen, -⟩ := h.oneToOne hone
    -- the two cards of a conversation differ only in what they show
    have hcard : ∀ card : Card, card = .messageCard ∨ card = .receiverMessageCard →
        (∀ blockBy title name,
          (card.build u blockBy title name).Shows d fun view => view.isSome = true) →
        Suits u d card := by
      rintro card hcard hshows
      have hnot : card ≠ .groupMessageCard ∧ card ≠ .broadCastMessageCard ∧ card ≠ .container := by
        rcases hcard with rfl | rfl <;> decide
      obtain ⟨hng, hnb, hnc⟩ := hnot
      exact {
        group := by simp [hng, hgroup]
        groupId := by simp [hng, hgroupId]
        broadcast := by simp [hnb, hbroadcastId]
        oneToOne := ⟨fun _ => hone, fun _ => hcard⟩
        shown := hnc
        list := fun hl => hl.elim (fun hl => absurd hl hng) fun hl => absurd hl hnb
        text := fun _ => ⟨receiver, hreceiver⟩
        updateStamp := h.updateStamp
        lastMessage := h.lastMessage
        isSeen := fun _ => hseen
        others := h.others
        shows := hshows }
    split
    · refine hcard _ (Or.inr rfl) fun blockBy title name => ?_
      exact Layout.shows_map ((h.shows_receiverMessageCard hone hchat hreceiver).imp fun _ _ => rfl)
    · refine hcard _ (Or.inl rfl) fun blockBy title name => ?_
      exact Layout.shows_map ((h.shows_messageCard hone hchat).imp fun _ _ => rfl)
  | group _ hone hgroup hbroadcastId =>
    obtain ⟨⟨users, husers, hmember⟩, groupId, hgroupId⟩ := h.group hgroup
    have hload : loadUser d u = some .groupMessageCard := by
      simp [loadUser, groupCard, hgroup, husers, hmember]
    refine ⟨.groupMessageCard, hload, ?_⟩
    exact {
      group := by simp [hgroup]
      groupId := by simp [hgroupId]
      broadcast := by simp [hbroadcastId]
      oneToOne := by simp [hone]
      shown := by decide
      list := fun _ => ⟨users, husers⟩
      text := by simp
      updateStamp := h.updateStamp
      lastMessage := h.lastMessage
      isSeen := by simp
      others := h.others
      shows := fun blockBy title name =>
        Layout.shows_map ((h.shows_groupMessageCard hgroup).imp fun _ _ => rfl) }
  | @broadcast pData hsender hreceiver _ _ hone hgroup hbroadcast hgroupId =>
    refine ⟨.broadCastMessageCard, loadUser_broadcast hgroup hbroadcast hsender, ?_⟩
    obtain ⟨b, hb⟩ := h.broadcast hone
    exact {
      group := by simp [hgroup]
      groupId := by simp [hgroupId]
      broadcast := by simp [hb]
      oneToOne := by simp [hone]
      shown := by decide
      list := fun _ => ⟨pData, hreceiver⟩
      text := by simp
      updateStamp := h.updateStamp
      lastMessage := h.lastMessage
      isSeen := by simp
      others := h.others
      shows := fun blockBy title name =>
        Layout.shows_map ((h.shows_broadCastMessageCard hone hreceiver).imp fun _ _ => rfl) }

/-- **Inbox documents are well formed for the card that shows them.** After every run each
entry of an inbox is shown by the card of its kind, and the card finds every field it reads. -/
theorem inbox_suits (h : messaging.Run messaging.admits (Clients.initial session) es c)
    {u : String} {d : Document} (hd : d ∈ c.world.store.docs (.chats u)) :
    ∃ card, loadUser d.data u = some card ∧ Suits u d.data card := by
  have hentry : Entry c.world.minted u d.data := (Clients.consistent h).docs _ d hd
  exact hentry.suits (Clients.displayed h _ d hd)

/-- Alice has written to Bob. -/
def aliceWrote : Clients :=
  messaging.exec (Clients.initial aliceAndBob)
    (bothOpen ++ alone 5 (.onSendMessage 0 "hello" .text))

theorem inbox_suits_aliceWrote :
    (aliceWrote.world.store.docs (.chats "bob")).length = 1 ∧
      ∀ d ∈ aliceWrote.world.store.docs (.chats "bob"),
        ∃ card, loadUser d.data "bob" = some card ∧ Suits "bob" d.data card := by
  have hrun : messaging.Run messaging.admits (Clients.initial aliceAndBob)
      (bothOpen ++ alone 5 (.onSendMessage 0 "hello" .text)) aliceWrote :=
    System.run_exec (by decide +kernel)
  exact ⟨by decide +kernel, fun d hd => inbox_suits hrun hd⟩

end FlutterTheme
