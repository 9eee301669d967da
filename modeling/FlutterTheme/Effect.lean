import FlutterTheme.Rely
import FlutterTheme.Evolution

/-!
# What a handler may do

`Effect π l w w'` lists everything a single action of a handler can do to the
world, given the scope `l` it works in: move its screens, register a conversation,
enter a block in the history, send a push notification, or make one of the writes
that `Permits` lists. The properties of conversations, groups and broadcasts are
derived from this list and never go back into the handlers.

The `Terms` `π` have a condition that the scheduler promises to the handlers it
resumes; writes and notifications, which follow a resumption, happen under it.
-/

namespace FlutterTheme

open EventLoop DocStore

/-! ## Scopes -/

/-- The user `r` is a recipient on a screen of the broadcast `b` of `u`. -/
def IsRecipient (w : World) (u b r : String) : Prop :=
  ∃ i < w.broadcastCtrl.size, (w.broadcastCtrl.get i).userData.id = u ∧
    (w.broadcastCtrl.get i).pId = b ∧
    r ∈ (w.broadcastCtrl.get i).pData.map SelectedContact.id

theorem IsRecipient.later {w w' : World} {u b r : String} (h : IsRecipient w u b r)
    (hw : w.Evolves w') : IsRecipient w' u b r := by
  obtain ⟨i, hi, hu, hb, hr⟩ := h
  have hl := hw.broadcast.2 i hi
  exact ⟨i, lt_of_lt_of_le hi hw.broadcast.1, hl.userData ▸ hu, hl.pId ▸ hb, hl.ids ▸ hr⟩

/-- In this scope messages go from `u` to `p` in the conversation `c`. -/
inductive Posts (w : World) : Scope → String → String → String → Prop where
  | send (u p c : String) : Posts w (.send u p c) u p c
  | block (u p c : String) : Posts w (.block u p c) u p c
  | firstCopy {u b p : String} (c : String) (h : IsRecipient w u b p) :
    Posts w (.firstCopy u b p c) u p c
  | copy {u b p : String} (c : String) (h : IsRecipient w u b p) : Posts w (.copy u b p c) u p c

/-- In this scope the entry of `x` is written for the conversation `c` of `u` with
`p`, with these values of `isBlock` and `isBroadcast`. -/
inductive Saves (w : World) : Scope → String → String → String → String → Bool → Bool → Prop where
  /-- the entry of the sender -/
  | own (u p c : String) : Saves w (.send u p c) u p c u false false
  /-- the entry of the receiver -/
  | peer (u p c : String) : Saves w (.send u p c) u p c p false false
  /-- the entry of the user who blocks -/
  | block {u p c : String} (h : ⟨u, p, c, true⟩ ∈ w.blockLog) :
    Saves w (.block u p c) u p c u true false
  /-- the entry of a recipient of a broadcast -/
  | copy {u b p : String} (c : String) (h : IsRecipient w u b p) :
    Saves w (.copy u b p c) u p c p false true

variable {w w' : World} {l : Scope} {u p c x : String} {isBlock isBroadcast : Bool}

theorem Posts.later (h : Posts w l u p c) (hw : w.Evolves w') : Posts w' l u p c := by
  cases h with
  | send => exact .send u p c
  | block => exact .block u p c
  | firstCopy _ h => exact .firstCopy c (h.later hw)
  | copy _ h => exact .copy c (h.later hw)

theorem Saves.later (h : Saves w l u p c x isBlock isBroadcast) (hw : w.Evolves w') :
    Saves w' l u p c x isBlock isBroadcast := by
  cases h with
  | own => exact .own u p c
  | peer => exact .peer u p c
  | block h => exact .block (hw.blockLog.subset h)
  | copy _ h => exact .copy c (h.later hw)

/-- The entry is one of the two users'. -/
theorem Saves.member (h : Saves w l u p c x isBlock isBroadcast) : x = u ∨ x = p := by
  cases h with
  | own | block => exact Or.inl rfl
  | peer | copy => exact Or.inr rfl

/-- Only a recipient's entry is marked as written by a broadcast. -/
theorem Saves.received (h : Saves w l u p c x isBlock isBroadcast) (hb : isBroadcast = true) :
    x = p := by
  cases h with
  | own | peer | block => cases hb
  | copy => rfl

/-! ## Writes -/

/-- The writes that handlers make, with what they know when they make them. -/
inductive Permits (w : World) : Scope → Write Path Key Value → Prop where
  /-- a message of a conversation -/
  | message {l : Scope} {u p c : String} {pos : ℕ} {d : Data} (hl : Posts w l u p c)
      (registered : (c, s(u, p)) ∈ w.minted) (sender : d .sender = some (.str u))
      (receiver : d .receiver = some (.str p)) : Permits w l (.add (.messages c) pos d)
  /-- a new inbox entry of a conversation -/
  | addEntry {l : Scope} {u p c x stamp content : String} {isBlock isBroadcast : Bool} {pos : ℕ}
      (hl : Saves w l u p c x isBlock isBroadcast) (registered : (c, s(u, p)) ∈ w.minted)
      (stamped : IsStamp stamp) (nonempty : content ≠ "") :
      Permits w l (.add (.chats x) pos
        (inboxFields stamp x (.str p) c content u isBlock isBroadcast))
  /-- the inbox entry of a conversation, written again -/
  | updateEntry {l : Scope} {u p c x stamp content : String} {isBlock isBroadcast : Bool}
      {id : DocId} (hl : Saves w l u p c x isBlock isBroadcast)
      (registered : (c, s(u, p)) ∈ w.minted)
      (found : ∀ d ∈ w.store.docs (.chats x), d.id = id → d.data .chatId = some (.str c))
      (stamped : IsStamp stamp) (nonempty : content ≠ "") :
      Permits w l (.update (.chats x) id
        (inboxFields stamp x (.str p) c content u isBlock isBroadcast))
  /-- an inbox entry is marked as seen -/
  | seen {u p c x : String} {id : DocId} (hx : x = u ∨ x = p)
      (registered : (c, s(u, p)) ∈ w.minted)
      (found : ∀ d ∈ w.store.docs (.chats x), d.id = id → d.data .chatId = some (.str c)) :
      Permits w (.seen u p c) (.update (.chats x) id (.ofList [(.isSeen, .bool true)]))
  /-- the message that was chosen is deleted -/
  | deleteMessage (c : String) (id : DocId) :
      Permits w (.deleteMessage c id) (.delete (.messages c) id)
  /-- a user document -/
  | register (user : UserData) (email : String) (pushToken : Option String) (pos : ℕ) :
      Permits w (.register user.id) (.set .users user.id pos (userFields user email pushToken))
  /-- a group document -/
  | group (g : String) (pos : ℕ) (d : Data) : Permits w (.group g) (.set .groups g pos d)
  /-- a message to a group -/
  | groupMessage (g : String) (pos : ℕ) (d : Data) :
      Permits w (.group g) (.add (.groupMessage g) pos d)
  /-- a new inbox entry of a group -/
  | addGroupEntry {g x stamp : String} {pos : ℕ} {users : List SelectedContact} {user : UserData}
      (member : isMember x users = true) (stamped : IsStamp stamp) :
      Permits w (.group g) (.add (.chats x) pos (groupEntryFields users user g stamp))
  /-- the inbox entry of a group, after a message -/
  | updateGroupEntry {g x stamp content sender : String} {id : DocId}
      (found : ∀ d ∈ w.store.docs (.chats x), d.id = id → d.data .groupId = some (.str g))
      (stamped : IsStamp stamp) (nonempty : content ≠ "") :
      Permits w (.group g) (.update (.chats x) id (.ofList [
        (.updateStamp, .str stamp), (.lastMessage, .str content), (.senderId, .str sender)]))
  /-- a broadcast document -/
  | broadcast (u b : String) (pos : ℕ) (d : Data) :
      Permits w (.broadcast u b) (.set .broadcast b pos d)
  /-- a message in the log of a broadcast -/
  | broadcastMessage (u b : String) (pos : ℕ) (d : Data) :
      Permits w (.broadcast u b) (.add (.broadcastMessage b) pos d)
  /-- the owner's inbox entry of a broadcast -/
  | addBroadcastEntry {b stamp : String} {pos : ℕ} {pData : List SelectedContact}
      {user : UserData} (recipients : ∀ e ∈ pData, Recipient w.minted user.id e)
      (stamped : IsStamp stamp) :
      Permits w (.broadcast user.id b)
        (.add (.chats user.id) pos (broadcastEntryFields pData b user stamp))
  /-- the owner's inbox entry of a broadcast, after a message -/
  | updateBroadcastEntry {u b stamp content : String} {id : DocId} {pData : List SelectedContact}
      (recipients : ∀ e ∈ pData, Recipient w.minted u e)
      (found : ∀ d ∈ w.store.docs (.chats u), d.id = id → d.data .broadcastId = some (.str b))
      (stamped : IsStamp stamp) (nonempty : content ≠ "") :
      Permits w (.broadcast u b) (.update (.chats u) id (.ofList [
        (.receiverId, .contacts pData), (.updateStamp, .str stamp), (.lastMessage, .str content)]))

/-- A write of a handler leaves the identifiers of inbox entries as they are. -/
theorem Permits.keeps {op : Write Path Key Value} (h : Permits w l op) (u : String) :
    Store.Keeps entryIds (.chats u) w.store (w.store.write op) := by
  cases h with
  | message | addEntry | addGroupEntry | groupMessage | broadcastMessage | addBroadcastEntry =>
    exact Store.keeps_add
  | deleteMessage => exact Store.keeps_delete (by simp)
  | register | group | broadcast => exact Store.keeps_set (by simp)
  | updateEntry _ _ found =>
    refine Store.keeps_update ?_
    rintro hu d hd hid
    cases hu
    simp only [entryIds, Prod.mk.injEq]
    exact ⟨(found d hd hid).symm, rfl, rfl⟩
  | seen | updateGroupEntry | updateBroadcastEntry => exact Store.keeps_update fun _ _ _ _ => rfl

/-- A write of a handler keeps the store consistent with the registry: what it puts in carries ids
that are registered for the two users it is about. One case for each write. -/
theorem Permits.stored {op : Write Path Key Value} (h : Permits w l op) (hc : Consistent w) :
    ∀ q x, w.store.Puts op q x → Stored w.minted q x := by
  cases h with
  | message _ registered sender receiver =>
    rintro _ _ ⟨rfl, rfl⟩
    exact ⟨_, _, sender, receiver, registered⟩
  | addEntry hl registered =>
    rintro _ _ ⟨rfl, rfl⟩
    exact .saved registered (hc.ne registered).2 hl.member hl.received (fun _ _ h => h) rfl rfl
  | updateEntry hl registered found =>
    rintro _ _ ⟨rfl, y, hy, hid, rfl⟩
    obtain ⟨hcne, hne⟩ := hc.ne registered
    have hy' : Entry w.minted _ y.data := hc.docs _ y hy
    -- an entry found by a `chatId` that is not empty is not of a group or a broadcast
    obtain ⟨hg, hb⟩ := hy'.ids_of_chatId (found y hy hid) hcne
    exact .saved registered hne hl.member hl.received (fun _ _ => Fields.merge_of_some) hg hb
  | seen =>
    rintro _ _ ⟨rfl, y, hy, -, rfl⟩
    exact Entry.seen (hc.docs _ y hy)
  | deleteMessage => exact fun _ _ hput => hput.elim
  | register user =>
    rintro _ _ ⟨rfl, rfl⟩
    exact ⟨user.id, rfl, rfl⟩
  | group | groupMessage | broadcast | broadcastMessage => rintro _ _ ⟨rfl, rfl⟩; trivial
  | addGroupEntry => rintro _ _ ⟨rfl, rfl⟩; exact .group rfl rfl rfl rfl
  | updateGroupEntry found =>
    rintro _ _ ⟨rfl, y, hy, hid, rfl⟩
    have hy' : Entry w.minted _ y.data := hc.docs _ y hy
    obtain ⟨h₁, h₂, h₃, h₄⟩ := hy'.of_groupId (found y hy hid)
    exact .group h₁ h₂ h₃ h₄
  | addBroadcastEntry recipients =>
    rintro _ _ ⟨rfl, rfl⟩
    exact .broadcast rfl rfl recipients rfl rfl rfl rfl rfl
  | updateBroadcastEntry recipients found =>
    rintro _ _ ⟨rfl, y, hy, hid, rfl⟩
    have hy' : Entry w.minted _ y.data := hc.docs _ y hy
    obtain ⟨h₁, h₂, h₃, h₄, h₅, h₆⟩ := hy'.of_broadcastId (found y hy hid)
    exact .broadcast h₁ rfl recipients h₂ h₃ h₄ h₅ h₆

theorem Permits.consistent {op : Write Path Key Value} (h : Permits w l op) (hc : Consistent w) :
    Consistent { w with store := w.store.write op } :=
  { hc with docs := Store.forall_write hc.docs (h.stored hc) }

/-! ## Effects -/

/-- The terms on which handlers are run. -/
structure Terms where
  /-- what is promised to a handler that is resumed -/
  promise : Scope → World → Prop
  /-- whether blocks may be entered in the history -/
  blocking : Prop

/-- What one action in the scope `l` does to the world. -/
inductive Effect (π : Terms) (l : Scope) (w : World) : World → Prop where
  /-- only controllers change -/
  | screens {w' : World} (store : w'.store = w.store) (minted : w'.minted = w.minted)
      (blockLog : w'.blockLog = w.blockLog) (notifications : w'.notifications = w.notifications) :
      Effect π l w w'
  /-- a conversation gets its identifier -/
  | mint {w' : World} (e : String × Sym2 String) (store : w'.store = w.store)
      (minted : w'.minted = e :: w.minted) (blockLog : w'.blockLog = w.blockLog)
      (notifications : w'.notifications = w.notifications) : Effect π l w w'
  /-- `blockUser` has been called -/
  | block (a : BlockAction) (blocking : π.blocking)
      (scope : l = .block a.blocker a.blocked a.chatId) (blocks : a.block = true) : Effect π l w { w with blockLog := a :: w.blockLog }
  /-- a push notification -/
  | notify (n : Notification) (promised : π.promise l w) :
      Effect π l w { w with notifications := n :: w.notifications }
  /-- a write -/
  | write (op : Write Path Key Value) (promised : π.promise l w) (permitted : Permits w l op) :
      Effect π l w { w with store := w.store.write op }

theorem Effect.refl (π : Terms) (l : Scope) (w : World) : Effect π l w w :=
  .screens rfl rfl rfl rfl

/-- What the handlers of all clients rely on and guarantee. -/
def clientProtocol (π : Terms) : Protocol World Scope where
  rely := World.Evolves
  inv := Consistent
  step := Effect π
  promise := π.promise
  rely_refl := World.Evolves.refl
  rely_trans := World.Evolves.trans
  step_refl := Effect.refl π

end FlutterTheme
