import FlutterTheme.Registry

/-!
# Evolution of the world

What a suspended handler has learnt about the world and can still count on when
it is resumed: `World.Evolves w w'`. Documents of an inbox stay, and keep the
identifiers they are found by; a controller keeps its device, its user and its
peer, and its conversation once it has one; registrations stay.

The lemmas at the end say how the world evolves under each kind of action.
-/

namespace FlutterTheme

open EventLoop DocStore

/-! ## Controllers -/

/-- How a chat screen may change. -/
structure ChatController.Later (s s' : ChatController) : Prop where
  userData : s'.userData = s.userData
  pId : s'.pId = s.pId
  /-- once a conversation has an identifier, it keeps it -/
  chatId : s.chatId ≠ "0" → s'.chatId = s.chatId

theorem ChatController.Later.refl (s : ChatController) : s.Later s := ⟨rfl, rfl, fun _ => rfl⟩

theorem ChatController.Later.trans {s s' s'' : ChatController} (h : s.Later s')
    (h' : s'.Later s'') : s.Later s'' := by
  refine ⟨h'.userData.trans h.userData, h'.pId.trans h.pId, ?_⟩
  intro hc
  have he := h.chatId hc
  rw [h'.chatId (he ▸ hc), he]

/-- How a broadcast screen may change. -/
structure BroadcastChatController.Later (s s' : BroadcastChatController) : Prop where
  userData : s'.userData = s.userData
  pId : s'.pId = s.pId
  /-- the recipients stay the same -/
  ids : s'.pData.map SelectedContact.id = s.pData.map SelectedContact.id

theorem BroadcastChatController.Later.refl (s : BroadcastChatController) : s.Later s :=
  ⟨rfl, rfl, rfl⟩

theorem BroadcastChatController.Later.trans {s s' s'' : BroadcastChatController}
    (h : s.Later s') (h' : s'.Later s'') : s.Later s'' :=
  ⟨h'.userData.trans h.userData, h'.pId.trans h.pId, h'.ids.trans h.ids⟩

theorem BroadcastChatController.later_setChatId (s : BroadcastChatController) (i : ℕ)
    (chatId : String) : s.Later (s.setChatId i chatId) :=
  ⟨rfl, rfl, ids_setChatId⟩

/-- The list of recipients keeps its length. -/
theorem BroadcastChatController.Later.length {s s' : BroadcastChatController} (h : s.Later s') :
    s'.pData.length = s.pData.length := by
  have hlen := congrArg List.length h.ids
  rwa [List.length_map, List.length_map] at hlen

/-- How a selected contact may change: it stays the same user. -/
def SelectedContact.Later (e e' : SelectedContact) : Prop := e'.id = e.id

theorem SelectedContact.Later.refl (e : SelectedContact) : e.Later e := rfl

/-- How a screen for a new group or broadcast may change. -/
structure CreateGroupController.Later (s s' : CreateGroupController) : Prop where
  device : s'.device = s.device
  isGroup : s'.isGroup = s.isGroup
  contacts : s.contacts.Evolves SelectedContact.Later s'.contacts

theorem CreateGroupController.Later.refl (s : CreateGroupController) : s.Later s :=
  ⟨rfl, rfl, Heap.Evolves.refl SelectedContact.Later.refl _⟩

theorem CreateGroupController.Later.trans {s s' s'' : CreateGroupController} (h : s.Later s')
    (h' : s'.Later s'') : s.Later s'' :=
  ⟨h'.device.trans h.device, h'.isGroup.trans h.isGroup,
    h.contacts.trans (fun hab hbc => Eq.trans hbc hab) h'.contacts⟩

theorem CreateGroupController.later_tap (s : CreateGroupController) (value : UserData) :
    s.Later (s.tap value) := by
  unfold CreateGroupController.tap
  split
  · exact ⟨rfl, rfl, Heap.Evolves.refl SelectedContact.Later.refl _⟩
  · exact ⟨rfl, rfl, Heap.evolves_alloc SelectedContact.Later.refl _ _⟩

theorem CreateGroupController.later_addSelf (s : CreateGroupController) (user : UserData) :
    s.Later (s.addSelf user) :=
  ⟨rfl, rfl, Heap.evolves_alloc SelectedContact.Later.refl _ _⟩

theorem CreateGroupController.later_setChatId (s : CreateGroupController) (e : ℕ)
    (chatId : Option String) : s.Later (s.setChatId e chatId) :=
  ⟨rfl, rfl, Heap.evolves_modify SelectedContact.Later.refl _ _ rfl⟩

/-- The answers of the lookups change ids of contacts and add to those looked up; the contacts
themselves and their order stay. By induction on the documents. -/
theorem CreateGroupController.later_available (user : String) (e : ℕ) (docs : List Document)
    (s : CreateGroupController) : s.Later (s.available user e docs) := by
  have hfold : ∀ (docs : List Document) (s : CreateGroupController),
      s.Later (docs.foldl (CreateGroupController.compare user e) s) := by
    intro docs
    induction docs with
    | nil => exact fun s => .refl s
    | cons d docs ih => exact fun s => (s.later_setChatId e _).trans (ih _)
  unfold CreateGroupController.available
  split
  · exact s.later_setChatId e none
  · exact hfold docs s

/-! ## The world -/

/-- The identifiers an inbox entry is found by. -/
def entryIds (d : Data) : Option Value × Option Value × Option Value :=
  (d .chatId, d .groupId, d .broadcastId)

/-- How the world may change while a handler is suspended. -/
structure World.Evolves (w w' : World) : Prop where
  session : w'.session = w.session
  /-- registrations stay -/
  minted : w.minted <:+ w'.minted
  /-- the history of blocking is only extended -/
  blockLog : w.blockLog <:+ w'.blockLog
  /-- inbox entries stay and keep their identifiers -/
  entries : ∀ u, Store.Keeps entryIds (.chats u) w.store w'.store
  chat : w.chatCtrl.Evolves ChatController.Later w'.chatCtrl
  broadcast : w.broadcastCtrl.Evolves BroadcastChatController.Later w'.broadcastCtrl
  create : w.createCtrl.Evolves CreateGroupController.Later w'.createCtrl

namespace World.Evolves

variable {w w' w'' : World}

theorem refl (w : World) : w.Evolves w where
  session := rfl
  minted := List.suffix_refl _
  blockLog := List.suffix_refl _
  entries _ := Store.Keeps.refl _ _ _
  chat := Heap.Evolves.refl ChatController.Later.refl _
  broadcast := Heap.Evolves.refl BroadcastChatController.Later.refl _
  create := Heap.Evolves.refl CreateGroupController.Later.refl _

theorem trans (h : w.Evolves w') (h' : w'.Evolves w'') : w.Evolves w'' where
  session := h'.session.trans h.session
  minted := h.minted.trans h'.minted
  blockLog := h.blockLog.trans h'.blockLog
  entries u := (h.entries u).trans (h'.entries u)
  chat := h.chat.trans ChatController.Later.trans h'.chat
  broadcast := h.broadcast.trans BroadcastChatController.Later.trans h'.broadcast
  create := h.create.trans CreateGroupController.Later.trans h'.create

/-! ### Actions -/

theorem of_store {s : Store Path Key Value}
    (h : ∀ u, Store.Keeps entryIds (.chats u) w.store s) : w.Evolves { w with store := s } :=
  { refl w with entries := h }

theorem of_chat {h : Heap ChatController} (hh : w.chatCtrl.Evolves ChatController.Later h)
    (current : ℕ → Option ℕ) : w.Evolves { w with chatCtrl := h, currentChat := current } :=
  { refl w with chat := hh }

theorem of_broadcast {h : Heap BroadcastChatController}
    (hh : w.broadcastCtrl.Evolves BroadcastChatController.Later h) :
    w.Evolves { w with broadcastCtrl := h } :=
  { refl w with broadcast := hh }

theorem of_create {h : Heap CreateGroupController}
    (hh : w.createCtrl.Evolves CreateGroupController.Later h) :
    w.Evolves { w with createCtrl := h } :=
  { refl w with create := hh }

theorem of_blockLog (a : BlockAction) : w.Evolves { w with blockLog := a :: w.blockLog } :=
  { refl w with blockLog := List.suffix_cons _ _ }

theorem of_notifications (n : Notification) :
    w.Evolves { w with notifications := n :: w.notifications } :=
  { refl w with }

theorem of_group (h : Heap GroupChatMessageController) : w.Evolves { w with groupCtrl := h } :=
  { refl w with }

/-! ### What is kept -/

theorem mem_minted (h : w.Evolves w') {e : String × Sym2 String} (he : e ∈ w.minted) :
    e ∈ w'.minted :=
  h.minted.subset he

/-- An entry that was found by an identifier is later still found by it. -/
theorem entry_of_id (h : w.Evolves w') {u : String} {d d' : Document}
    (hd : d ∈ w.store.docs (.chats u)) (hd' : d' ∈ w'.store.docs (.chats u))
    (hid : d'.id = d.id) : entryIds d'.data = entryIds d.data :=
  (h.entries u).of_id hd hd' hid

end World.Evolves

end FlutterTheme
