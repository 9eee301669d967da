import FlutterTheme.ChatSafe
import FlutterTheme.Broadcast

/-!
# The handlers of groups and broadcasts keep the protocol

The counterpart of `ChatSafe` for `Group` and `Broadcast`. A group touches only
entries found by its identifier. The lists of recipients that a broadcast writes
and reads are lists of `Recipient`s throughout.
-/

namespace FlutterTheme

open EventLoop DocStore

variable {π : Terms} {l : Scope} {w w' : World}

/-! ## Groups -/

/-- A change of a screen for a new group or broadcast is kept if it keeps the screen's contacts
registered; the screens of groups have nothing to keep. -/
theorem keeps_modifyCreate {g : ℕ} {f : CreateGroupController → CreateGroupController}
    (hc : Consistent w) (hl : (w.createCtrl.get g).Later (f (w.createCtrl.get g)))
    (hs : g < w.createCtrl.size → (w.createCtrl.get g).isGroup = false →
      (w.createCtrl.get g).Sound w.minted (w.session (w.createCtrl.get g).device).id →
      (f (w.createCtrl.get g)).Sound w.minted (w.session (w.createCtrl.get g).device).id) :
    Keeps π (modifyCreate g f) l w := by
  have hev : w.Evolves { w with createCtrl := w.createCtrl.modify g f } :=
    .of_create (Heap.evolves_modify CreateGroupController.Later.refl _ _ hl)
  have hcon : Consistent { w with createCtrl := w.createCtrl.modify g f } := by
    refine { hc with create := ?_ }
    refine Heap.forall_modify (p := fun s : CreateGroupController => s.isGroup = false →
      s.Sound w.minted (w.session s.device).id) hc.create ?_
    intro hg h hgroup
    rw [hl.isGroup] at hgroup
    rw [hl.device]
    exact hs hg hgroup (h hgroup)
  exact keeps_screens hev hcon (.screens rfl rfl rfl rfl)

/-- A change of a screen for a new group. -/
theorem keeps_modifyGroupScreen {g : ℕ} {f : CreateGroupController → CreateGroupController}
    (hc : Consistent w) (hl : (w.createCtrl.get g).Later (f (w.createCtrl.get g)))
    (hg : (w.createCtrl.get g).isGroup = true) : Keeps π (modifyCreate g f) l w :=
  keeps_modifyCreate hc hl fun _ hgroup => by rw [hg] at hgroup; cases hgroup

theorem keeps_modifyGroup {g : ℕ} {f : GroupChatMessageController → GroupChatMessageController}
    (hc : Consistent w) : Keeps π (modifyGroup g f) l w :=
  keeps_screens (.of_group _) { hc with } (.screens rfl rfl rfl rfl)

/-- A new screen for groups or broadcasts has nothing selected and nothing looked up, so there is
nothing that could fail to be registered. -/
theorem keeps_openCreate {d : ℕ} {isGroup : Bool} (hc : Consistent w) :
    Keeps π (openCreate d isGroup) l w := by
  have hev : w.Evolves { w with createCtrl := w.createCtrl.alloc { device := d, isGroup := isGroup } } :=
    .of_create (Heap.evolves_alloc CreateGroupController.Later.refl _ _)
  have hcon : Consistent { w with createCtrl := w.createCtrl.alloc { device := d, isGroup := isGroup } } := by
    refine { hc with create := ?_ }
    refine Heap.forall_alloc (p := fun s : CreateGroupController => s.isGroup = false →
      s.Sound w.minted (w.session s.device).id) hc.create fun _ => ⟨?_, ?_, ?_⟩
    · exact fun _ he => absurd he (Nat.not_lt_zero _)
    · exact fun _ he => absurd he List.not_mem_nil
    · exact fun _ he => absurd he List.not_mem_nil
  exact keeps_screens hev hcon (.screens rfl rfl rfl rfl)

theorem keeps_editGroup {g : ℕ} {name : String} {imageFile : Option String} (hc : Consistent w) :
    Keeps π (editGroup g name imageFile) l w :=
  keeps_modifyCreate hc ⟨rfl, rfl, Heap.Evolves.refl SelectedContact.Later.refl _⟩
    fun _ _ h => { h with }

theorem keeps_selectUserTap {g : ℕ} {value : UserData} (hc : Consistent w)
    (hv : value.id ≠ (w.session (w.createCtrl.get g).device).id) :
    Keeps π (selectUserTap g value) l w :=
  keeps_modifyCreate hc (CreateGroupController.later_tap _ _) fun _ _ h => h.tap hv

theorem keeps_openGroup {d : ℕ} {data : Data} (hc : Consistent w) :
    Keeps π (openGroup d data) l w := by
  unfold openGroup
  split
  · exact keeps_screens (.of_group _) { hc with } (.screens rfl rfl rfl rfl)
  · exact keeps_throw

theorem runs_tapGroupCard {d : ℕ} {document : Document} :
    Runs π (tapGroupCard d document) l w := by
  unfold tapGroupCard
  split
  · refine Async.meets_bind (meets_getDoc ?_)
    intro w₁ w₂ _ _ _ hc₂
    split
    · exact (keeps_openGroup hc₂).runs
    · exact Async.meets_throw
  · exact Async.meets_throw

section CreateGroup

variable {g d : ℕ} {user : UserData} {id : String}

/-- The screen `g` creates a group, not a broadcast. -/
def IsGroupScreen (w : World) (g : ℕ) : Prop :=
  g < w.createCtrl.size ∧ (w.createCtrl.get g).isGroup = true

theorem IsGroupScreen.later (h : IsGroupScreen w g) (hw : w.Evolves w') : IsGroupScreen w' g :=
  ⟨lt_of_lt_of_le h.1 hw.create.1, (hw.create.2 g h.1).isGroup.trans h.2⟩

theorem keeps_uploadFile (hc : Consistent w) (hg : IsGroupScreen w g) :
    Keeps π (uploadFile g) l w := by
  refine Async.meets_bind (meets_millisecondsSinceEpoch hc fun fileName _ => ?_)
  refine keeps_remote_skip.trans fun w₁ hw₁ _ => keeps_spawn (Keeps.runs ?_)
  refine keeps_attempt_skip fun downloadUrl w₂ hw₂ hc₂ => ?_
  cases downloadUrl with
  | some _ =>
    exact keeps_modifyGroupScreen hc₂ ⟨rfl, rfl, Heap.Evolves.refl SelectedContact.Later.refl _⟩
      (hg.later (hw₁.trans hw₂)).2
  | none => exact keeps_pure hc₂

theorem keeps_addGroupCreated {s : CreateGroupController} (hc : Consistent w) :
    Keeps π (addGroupCreated s user id) (.group id) w :=
  Async.meets_bind (meets_millisecondsSinceEpoch hc fun _ _ =>
    keeps_add fun _ _ _ pos => .groupMessage id pos _)

theorem keeps_addGroupEntries {s : CreateGroupController} (hc : Consistent w) :
    Keeps π (addGroupEntries s user id) (.group id) w := by
  refine keeps_forEach hc fun e he w₁ _ hc₁ => ?_
  have hmember : isMember e.id (s.entries s.selectedContact) = true :=
    List.any_eq_true.mpr ⟨e, he, by simp⟩
  refine Async.meets_bind (meets_millisecondsSinceEpoch hc₁ fun stamp hstamp => ?_)
  exact (keeps_add fun _ _ _ _ => .addGroupEntry hmember hstamp).runs

/-- The documents of a new group, each written under the scope of the group: its document, its first
message, and one entry for each member that the document lists when it is read back. -/
theorem runs_createGroupDocs (hg : IsGroupScreen w g) :
    Runs π (createGroupDocs g d user id) (.group id) w := by
  refine Async.meets_bind (Async.meets_pause fun w₁ hw₁ hc₁ _ => ?_)
  refine Async.meets_bind (meets_millisecondsSinceEpoch hc₁ fun stamp _ => ?_)
  refine Async.meets_bind (meets_get hc₁ ?_)
  refine (keeps_set fun _ _ _ pos => .group id pos _).bind fun w₂ hw₂ hc₂ => ?_
  refine Async.meets_bind (meets_get hc₂ ?_)
  refine (keeps_spawn (keeps_addGroupCreated hc₂).runs).bind fun w₃ hw₃ hc₃ => ?_
  refine Async.meets_bind (meets_getDoc ?_)
  intro w₄ w₅ hw₄ _ hw₅ hc₅
  refine Async.meets_bind (meets_get hc₅ ?_)
  refine (keeps_addGroupEntries hc₅).bind fun w₆ hw₆ hc₆ => ?_
  have hg₆ : IsGroupScreen w₆ g :=
    hg.later (hw₁.trans (hw₂.trans (hw₃.trans (hw₄.trans (hw₅.trans hw₆)))))
  refine Keeps.bind (keeps_modifyGroupScreen hc₆
    ⟨rfl, rfl, Heap.Evolves.refl SelectedContact.Later.refl _⟩ hg₆.2) fun w₇ _ hc₇ => ?_
  split
  · exact (keeps_openGroup hc₇).runs
  · exact Async.meets_throw

/-- `createGroup` up to the point where the group has its id; from there on the scope is that of the
group, and `runs_createGroupDocs` says the rest. -/
theorem runs_createGroup (hc : Consistent w) (hg : IsGroupScreen w g) :
    Runs π (createGroup g) l w := by
  refine Async.meets_bind (meets_get hc ?_)
  refine Async.meets_bind (meets_get hc ?_)
  refine Keeps.bind (keeps_modifyGroupScreen hc (CreateGroupController.later_addSelf _ _) hg.2)
    fun w₁ hw₁ hc₁ => ?_
  have hupload : Keeps π (if (w.createCtrl.get g).imageFile.isSome then uploadFile g else pure ())
      l w₁ := by
    split
    · exact keeps_uploadFile hc₁ (hg.later hw₁)
    · exact keeps_pure hc₁
  refine hupload.bind fun w₂ hw₂ hc₂ => ?_
  refine Async.meets_bind (Async.meets_sync fun t => ⟨.refl w₂, hc₂, .refl π l w₂, ?_⟩)
  refine Async.meets_bind (Async.meets_enter ?_)
  exact runs_createGroupDocs (hg.later (hw₁.trans hw₂))

end CreateGroup

section SendToGroup

variable {groupId content name : String} {user : UserData} {element : SelectedContact}

theorem keeps_notifyMember : Keeps π (notifyMember groupId content name element) l w := by
  refine Async.meets_bind (meets_getDoc ?_)
  intro w₁ w₂ hw₁ _ hw₂ hc₂
  split
  · exact keeps_throw
  · split
    · exact Async.meets_pure ⟨rfl, hw₁.trans hw₂, hc₂⟩
    · refine Async.Meets.mono (keeps_spawn (keeps_sendNotification _).runs) ?_
      exact fun _ _ _ h => ⟨h.1, hw₁.trans (hw₂.trans h.2.1), h.2.2⟩

/-- The entry of one member after a message to the group: the query only finds entries of that
member about that group, so the update is of a group entry, with a stamp and a text that is not
empty. -/
theorem runs_saveGroupEntry (hne : content ≠ "") :
    Runs π (saveGroupEntry user groupId content name element) (.group groupId) w := by
  refine Async.meets_bind (meets_getDocs ?_)
  intro w₁ w₂ _ _ hw₂ hc₂
  have hfound : Found w₂ element.id .groupId (.str groupId)
      (w₁.store.query (.chats element.id) (Fields.isEqualTo .groupId (.str groupId))) :=
    found_query (by simp) hw₂
  cases hdocs : w₁.store.query (.chats element.id) (Fields.isEqualTo .groupId (.str groupId)) with
  | nil => exact Async.meets_pure trivial
  | cons d docs =>
    rw [hdocs] at hfound
    refine Async.meets_bind (meets_millisecondsSinceEpoch hc₂ fun stamp hstamp => ?_)
    refine Keeps.bind (keeps_spawn (keeps_update fun w' hw' _ =>
      .updateGroupEntry (hfound d (List.mem_cons_self ..) w' hw') hstamp hne).runs) fun w₃ _ hc₃ => ?_
    split
    · exact (keeps_spawn keeps_notifyMember.runs).runs
    · exact (keeps_pure hc₃).runs

theorem keeps_saveGroupData {d : ℕ} {pData : GroupChatMessageController} (hc : Consistent w)
    (hne : content ≠ "") : Keeps π (saveGroupData d groupId content pData) (.group groupId) w :=
  Async.meets_bind (meets_get hc (keeps_forEach hc fun _ _ _ _ _ => runs_saveGroupEntry hne))

theorem runs_deliverToGroup {g : ℕ} {type : MessageType} (hc : Consistent w) (hne : content ≠ "") :
    Runs π (deliverToGroup g content type) l w := by
  refine Async.meets_bind (meets_get hc ?_)
  refine Async.meets_bind (meets_get hc ?_)
  refine Async.meets_bind (Async.meets_enter ?_)
  refine Async.meets_bind (meets_millisecondsSinceEpoch hc fun stamp _ => ?_)
  refine (keeps_spawn (keeps_add fun _ _ _ pos => .groupMessage _ pos _).runs).bind
    fun w₁ _ hc₁ => ?_
  exact (keeps_saveGroupData hc₁ hne).bind fun w₂ _ hc₂ => (keeps_modifyGroup hc₂).runs

theorem runs_sendToGroup {g : ℕ} {type : MessageType} (hc : Consistent w) :
    Runs π (GroupChat.onSendMessage g content type) l w := by
  refine (keeps_modifyGroup hc).bind fun w₁ _ hc₁ => ?_
  split
  · exact (keeps_pure hc₁).runs
  · next hblank => exact runs_deliverToGroup hc₁ (ne_empty_of_not_isBlank hblank)

end SendToGroup

/-! ## Creating a broadcast -/

/-- The screen `g` creates a broadcast of `owner`. -/
def IsBroadcastScreen (w : World) (g : ℕ) (owner : String) : Prop :=
  g < w.createCtrl.size ∧ (w.createCtrl.get g).isGroup = false ∧
    (w.session (w.createCtrl.get g).device).id = owner

section CreateBroadcast

variable {g d : ℕ} {user : UserData} {b owner : String}

theorem IsBroadcastScreen.later (h : IsBroadcastScreen w g owner) (hw : w.Evolves w') :
    IsBroadcastScreen w' g owner := by
  obtain ⟨hlt, hgroup, howner⟩ := h
  have hl := hw.create.2 g hlt
  refine ⟨lt_of_lt_of_le hlt hw.create.1, hl.isGroup.trans hgroup, ?_⟩
  rw [hl.device, hw.session, howner]

theorem IsBroadcastScreen.sound (h : IsBroadcastScreen w g owner) (hc : Consistent w) :
    (w.createCtrl.get g).Sound w.minted owner := by
  obtain ⟨hlt, hgroup, rfl⟩ := h
  exact hc.create g hlt hgroup

/-- One chat lookup of a new broadcast: whatever entry the query finds belongs to the owner and is
about the contact, so that the contact takes over a `chatId` that is registered for the two of them.
-/
theorem runs_checkContact {e : ℕ} (hg : IsBroadcastScreen w g owner)
    (he : e < (w.createCtrl.get g).contacts.size) : Runs π (checkContact g owner e) l w := by
  refine Async.meets_bind (meets_getDocs ?_)
  intro w₁ w₂ hw₁ hc₁ hw₂ hc₂
  have hw := hw₁.trans hw₂
  have he₂ := lt_of_lt_of_le he (hw.create.2 g hg.1).contacts.1
  have howner := (hg.later hw).2.2
  refine (keeps_modifyCreate hc₂ (CreateGroupController.later_available ..) ?_).runs
  intro _ _ hsound
  rw [howner] at hsound ⊢
  refine hsound.available he₂ ?_
  intro doc hdoc
  obtain ⟨hmem, hone⟩ := (Store.mem_query _).mp hdoc
  have hentry : Entry w₁.minted owner doc.data := hc₁.docs _ doc hmem
  exact ⟨hentry.mono hw₂.minted.subset, Fields.isEqualTo_iff.mp hone⟩

theorem keeps_checkChatAvailable (hc : Consistent w) (hg : IsBroadcastScreen w g owner) :
    Keeps π (checkChatAvailable g) l w := by
  refine Async.meets_bind (meets_get hc ?_)
  refine Async.meets_bind (meets_get hc ?_)
  rw [hg.2.2]
  refine keeps_forEach hc fun e he w₁ hw₁ _ => ?_
  refine runs_checkContact (hg.later hw₁) ?_
  exact lt_of_lt_of_le ((hg.sound hc).selected e he) (hw₁.create.2 g hg.1).contacts.1

/-- A broadcast screen may be opened with a list of recipients that are registered with the user who
is signed in; without a list in the document the handler throws. -/
theorem keeps_openBroadcast {data : Data} (hc : Consistent w)
    (hdata : ∀ pData, data .receiverId = some (.contacts pData) →
      ∀ e ∈ pData, Recipient w.minted (w.session d).id e) :
    Keeps π (openBroadcast d b data) l w := by
  unfold openBroadcast
  split
  · next pData h =>
    have hev : w.Evolves { w with broadcastCtrl := w.broadcastCtrl.alloc {
        device := d, userData := w.session d, pId := b, pData := pData } } :=
      .of_broadcast (Heap.evolves_alloc BroadcastChatController.Later.refl _ _)
    have hcon : Consistent { w with broadcastCtrl := w.broadcastCtrl.alloc {
        device := d, userData := w.session d, pId := b, pData := pData } } :=
      { hc with
        broadcast := Heap.forall_alloc hc.broadcast
          ⟨hdata pData h, fun _ hi => absurd hi List.not_mem_nil⟩ }
    exact keeps_screens hev hcon (.screens rfl rfl rfl rfl)
  · exact keeps_throw

/-- The list in an entry that has a broadcast id is a list of recipients. -/
theorem Entry.recipients_of_broadcastId {m : Registry} {u : String} {data : Data} {v : Value}
    {pData : List SelectedContact} (h : Entry m u data) (hb : data .broadcastId = some v)
    (hr : data .receiverId = some (.contacts pData)) : ∀ e ∈ pData, Recipient m u e := by
  cases h with
  | oneToOne _ _ _ _ _ _ _ _ _ _ broadcastId => rw [broadcastId] at hb; cases hb
  | group _ _ _ broadcastId => rw [broadcastId] at hb; cases hb
  | broadcast _ receiverId recipients _ _ _ _ _ =>
    rw [receiverId] at hr
    cases hr
    exact recipients

/-- The screen opened behind a new broadcast takes its recipients from the entry it finds, and an
entry with a `broadcastId` of the owner lists only recipients registered with the owner. -/
theorem keeps_openCreated (hd : w.session d = user) : Keeps π (openCreated d user b) l w := by
  refine Async.meets_bind (meets_getDocs ?_)
  intro w₁ w₂ hw₁ hc₁ hw₂ hc₂
  have hw := hw₁.trans hw₂
  cases hdocs : w₁.store.query (.chats user.id) (Fields.isEqualTo .broadcastId (.str b)) with
  | nil => exact keeps_throw
  | cons doc docs =>
    obtain ⟨hmem, hq⟩ := (Store.mem_query _).mp (hdocs ▸ List.mem_cons_self ..)
    have hentry : Entry w₁.minted user.id doc.data := hc₁.docs _ doc hmem
    refine Async.Meets.mono (keeps_openBroadcast hc₂ ?_)
      fun _ _ _ h => ⟨h.1, hw.trans h.2.1, h.2.2⟩
    intro pData hr e he
    rw [hw.session, hd]
    have hrec := hentry.recipients_of_broadcastId (Fields.isEqualTo_iff.mp hq) hr e he
    exact hrec.mono hw₂.minted.subset

/-- The documents of a new broadcast, each written under its scope. The entry takes the contacts the
screen has collected by then, which are registered with the owner; afterwards they are dropped. -/
theorem runs_createBroadcastDocs (hg : IsBroadcastScreen w g user.id) (hd : w.session d = user) :
    Runs π (createBroadcastDocs g d user b) (.broadcast user.id b) w := by
  refine Async.meets_bind (Async.meets_pause fun w₁ hw₁ hc₁ _ => ?_)
  refine Async.meets_bind (meets_millisecondsSinceEpoch hc₁ fun stamp _ => ?_)
  refine Async.meets_bind (meets_get hc₁ ?_)
  refine (keeps_set fun _ _ _ pos => .broadcast user.id b pos _).bind fun w₂ hw₂ hc₂ => ?_
  refine Async.meets_bind (meets_get hc₂ ?_)
  have hmessage : Keeps π (addBroadcastCreated (w₂.createCtrl.get g) user b)
      (.broadcast user.id b) w₂ :=
    Async.meets_bind (meets_millisecondsSinceEpoch hc₂ fun _ _ =>
      keeps_add fun _ _ _ pos => .broadcastMessage user.id b pos _)
  refine (keeps_spawn hmessage.runs).bind fun w₃ hw₃ hc₃ => ?_
  refine Async.meets_bind (meets_millisecondsSinceEpoch hc₃ fun stamp' hstamp => ?_)
  refine Async.meets_bind (meets_get hc₃ ?_)
  have hg₃ := hg.later (hw₁.trans (hw₂.trans hw₃))
  refine (keeps_add fun w' hw' _ pos => .addBroadcastEntry (fun e he =>
    ((hg₃.sound hc₃).entries e he).mono hw'.minted.subset) hstamp).bind fun w₄ hw₄ hc₄ => ?_
  refine Keeps.bind (keeps_modifyCreate hc₄
    ⟨rfl, rfl, Heap.Evolves.refl SelectedContact.Later.refl _⟩ fun _ _ h => ?_)
    fun w₅ hw₅ hc₅ => ?_
  · exact ⟨h.contacts, fun _ he => absurd he List.not_mem_nil,
      fun _ he => absurd he List.not_mem_nil⟩
  · refine (keeps_spawn (keeps_openCreated ?_).runs).runs
    rw [hw₅.session, hw₄.session, hw₃.session, hw₂.session, hw₁.session, hd]

/-- `addGroupBottomSheet` on a broadcast screen: the lookups are started, and the scope is the new
broadcast's before any document is written. On a group screen nothing is done. -/
theorem runs_addGroupBottomSheet (hc : Consistent w) (hlt : g < w.createCtrl.size) :
    Runs π (addGroupBottomSheet g) l w := by
  refine Async.meets_bind (meets_get hc ?_)
  split
  · exact Async.meets_pure trivial
  · next hgroup =>
    have hg : IsBroadcastScreen w g (w.session (w.createCtrl.get g).device).id :=
      ⟨hlt, Bool.eq_false_iff.mpr hgroup, rfl⟩
    refine Async.meets_bind (meets_get hc ?_)
    refine Keeps.bind (keeps_modifyCreate hc
      ⟨rfl, rfl, Heap.Evolves.refl SelectedContact.Later.refl _⟩ fun _ _ h => { h with })
      fun w₁ hw₁ hc₁ => ?_
    refine Async.meets_bind (Async.meets_sync fun t => ⟨.refl w₁, hc₁, .refl π l w₁, ?_⟩)
    refine Async.meets_bind (Async.meets_enter ?_)
    have hg₁ := hg.later hw₁
    refine (keeps_checkChatAvailable hc₁ hg₁).bind fun w₂ hw₂ hc₂ => ?_
    refine runs_createBroadcastDocs (hg₁.later hw₂) ?_
    rw [hw₂.session, hw₁.session]

end CreateBroadcast

/-! ## Messages to a broadcast -/

section SendToBroadcast

variable {b i : ℕ} {s : BroadcastChatController} {r chatId content : String}
  {type : MessageType}

/-- The broadcast screen `b` is open, and `s` is what it was at some earlier time. -/
def ShowsBroadcast (w : World) (b : ℕ) (s : BroadcastChatController) : Prop :=
  b < w.broadcastCtrl.size ∧ s.Later (w.broadcastCtrl.get b)

theorem ShowsBroadcast.later (h : ShowsBroadcast w b s) (hw : w.Evolves w') :
    ShowsBroadcast w' b s :=
  ⟨lt_of_lt_of_le h.1 hw.broadcast.1, h.2.trans (hw.broadcast.2 b h.1)⟩

/-- An entry of the list of recipients is a recipient of the broadcast. -/
theorem ShowsBroadcast.isRecipient (h : ShowsBroadcast w b s) (hi : i < s.pData.length) :
    IsRecipient w s.userData.id s.pId (s.recipient i).id := by
  refine ⟨b, h.1, by rw [h.2.userData], h.2.pId, ?_⟩
  rw [h.2.ids]
  exact List.mem_map_of_mem (BroadcastChatController.recipient_mem hi)

/-- A change of a broadcast screen that leaves it sound. -/
theorem keeps_modifyBroadcast {f : BroadcastChatController → BroadcastChatController}
    (hc : Consistent w) (hl : (w.broadcastCtrl.get b).Later (f (w.broadcastCtrl.get b)))
    (hs : b < w.broadcastCtrl.size → (w.broadcastCtrl.get b).Sound w.minted →
      (f (w.broadcastCtrl.get b)).Sound w.minted) : Keeps π (modifyBroadcast b f) l w := by
  have hev : w.Evolves { w with broadcastCtrl := w.broadcastCtrl.modify b f } :=
    .of_broadcast (Heap.evolves_modify BroadcastChatController.Later.refl _ _ hl)
  have hcon : Consistent { w with broadcastCtrl := w.broadcastCtrl.modify b f } :=
    { hc with broadcast := Heap.forall_modify hc.broadcast hs }
  exact keeps_screens hev hcon (.screens rfl rfl rfl rfl)

theorem keeps_addReached (hc : Consistent w) (hs : ShowsBroadcast w b s) (hi : i < s.pData.length) :
    Keeps π (addReached b i) l w := by
  refine keeps_modifyBroadcast hc ⟨rfl, rfl, rfl⟩ fun _ h => h.addReached ?_
  rw [hs.2.length]
  exact hi

theorem keeps_addCopy {u : String} (hc : Consistent w) (hu : s.userData.id = u)
    (hl : Posts w l u r chatId) (hreg : (chatId, s(u, r)) ∈ w.minted) :
    Keeps π (addCopy s r chatId content type) l w := by
  subst hu
  refine Async.meets_bind (meets_millisecondsSinceEpoch hc fun stamp _ => ?_)
  exact keeps_add fun w' hw _ pos => .message (hl.later hw) (hw.mem_minted hreg) rfl rfl

theorem keeps_saveCopy (hc : Consistent w)
    (hl : IsRecipient w s.userData.id s.pId r)
    (hreg : (chatId, s(s.userData.id, r)) ∈ w.minted) (hne : content ≠ "") :
    Keeps π (saveCopy s r chatId content) (.copy s.userData.id s.pId r chatId) w :=
  keeps_saveMessageInUserCollection hc (.copy chatId hl) hreg hne

/-- A copy to a recipient whose conversation is known goes into this conversation, and both entries
are saved under its scope. -/
theorem runs_copyKnown (hc : Consistent w) (hs : ShowsBroadcast w b s) (hi : i < s.pData.length)
    (hreg : (chatId, s(s.userData.id, (s.recipient i).id)) ∈ w.minted) (hne : content ≠ "") :
    Runs π (copyKnown b i s chatId content type) l w := by
  have hrec := hs.isRecipient hi
  refine (keeps_addReached hc hs hi).bind fun w₁ hw₁ hc₁ => ?_
  refine Async.meets_bind (Async.meets_enter ?_)
  refine (keeps_addCopy hc₁ rfl (.copy chatId (hrec.later hw₁)) (hw₁.mem_minted hreg)).bind
    fun w₂ hw₂ hc₂ => ?_
  have hw := hw₁.trans hw₂
  exact (keeps_saveCopy hc₂ (hrec.later hw) (hw.mem_minted hreg) hne).runs

/-- The recipient has a conversation, or gets a new one, which is registered for the owner and the
recipient at the moment it is made. -/
theorem meets_newRecipientChatId {Q : Scope → String → World → Prop} (hc : Consistent w)
    (hb : b < w.broadcastCtrl.size) (hi : i < (w.broadcastCtrl.get b).pData.length)
    (h : ∀ w' id, w.Evolves w' → Consistent w' →
      (id, s((w.broadcastCtrl.get b).userData.id, ((w.broadcastCtrl.get b).recipient i).id)) ∈
        w'.minted → Q l id w') :
    (newRecipientChatId b i).Meets (clientProtocol π) l w Q := by
  refine Async.meets_sync fun t => ?_
  have hsound := hc.broadcast b hb
  have hne := (hsound.recipients _ (BroadcastChatController.recipient_mem hi)).1
  generalize hid : toString t.now = id
  have hmint := hc.mint
    (e := (id, s((w.broadcastCtrl.get b).userData.id, ((w.broadcastCtrl.get b).recipient i).id)))
    ⟨hid ▸ toString_ne_empty t.now, fun hd => hne (Sym2.mk_isDiag_iff.mp hd).symm⟩
  have hev : w.Evolves
      { w with
        broadcastCtrl := w.broadcastCtrl.modify b (·.setChatId i id)
        minted := (id, s((w.broadcastCtrl.get b).userData.id,
          ((w.broadcastCtrl.get b).recipient i).id)) :: w.minted } :=
    { World.Evolves.refl w with
      minted := List.suffix_cons _ _
      broadcast := Heap.evolves_modify BroadcastChatController.Later.refl _ _
        (BroadcastChatController.later_setChatId ..) }
  have hcon : Consistent
      { w with
        broadcastCtrl := w.broadcastCtrl.modify b (·.setChatId i id)
        minted := (id, s((w.broadcastCtrl.get b).userData.id,
          ((w.broadcastCtrl.get b).recipient i).id)) :: w.minted } :=
    { hmint with
      broadcast := Heap.forall_modify hmint.broadcast fun _ h =>
        h.setChatId (List.mem_cons_self ..) }
  exact ⟨hev, hcon, .mint _ rfl rfl rfl rfl, h _ id hev hcon (List.mem_cons_self ..)⟩

/-- The first copy to a recipient: the `chatId` is assigned and registered for the pair before the
copy is written, and the two entries are saved under the scope of that pair. -/
theorem runs_copyNew (hc : Consistent w) (hb : b < w.broadcastCtrl.size)
    (hi : i < (w.broadcastCtrl.get b).pData.length) (hne : content ≠ "") :
    Runs π (copyNew b i (w.broadcastCtrl.get b) content type) l w := by
  have hs : ShowsBroadcast w b (w.broadcastCtrl.get b) := ⟨hb, .refl _⟩
  refine Async.meets_bind (meets_newRecipientChatId hc hb hi ?_)
  generalize w.broadcastCtrl.get b = s at hs hi ⊢
  have hrec := hs.isRecipient hi
  intro w₁ chatId hw₁ hc₁ hreg
  refine Async.meets_bind (Async.meets_enter ?_)
  refine (keeps_addCopy hc₁ rfl (.firstCopy chatId (hrec.later hw₁)) hreg).bind
    fun w₂ hw₂ hc₂ => ?_
  refine (keeps_addReached hc₂ (hs.later (hw₁.trans hw₂)) hi).bind fun w₃ hw₃ hc₃ => ?_
  refine Async.meets_bind (Async.meets_enter ?_)
  have hw := hw₂.trans hw₃
  exact (keeps_saveCopy hc₃ (hrec.later (hw₁.trans hw)) (hw.mem_minted hreg) hne).runs

/-- The closure for one recipient: a first copy if there is no conversation yet, and a copy into the
conversation there is otherwise. -/
theorem runs_copyTo (hc : Consistent w) (hb : b < w.broadcastCtrl.size)
    (hi : i < (w.broadcastCtrl.get b).pData.length) (hne : content ≠ "") :
    Runs π (copyTo b content type i) l w := by
  refine Async.meets_bind (meets_get hc ?_)
  split
  · next chatId h =>
    have hmem := BroadcastChatController.recipient_mem hi
    have hreg := ((hc.broadcast b hb).recipients _ hmem).2 chatId h
    exact runs_copyKnown hc ⟨hb, .refl _⟩ hi hreg hne
  · exact runs_copyNew hc hb hi hne

theorem keeps_saveMessageInLoop (hc : Consistent w) (hb : b < w.broadcastCtrl.size)
    (hne : content ≠ "") : Keeps π (saveMessageInLoop b content type) l w := by
  refine Async.meets_bind (meets_get hc ?_)
  refine keeps_forEach hc fun i hi w₁ hw₁ hc₁ => ?_
  have hl := hw₁.broadcast.2 b hb
  refine runs_copyTo hc₁ (lt_of_lt_of_le hb hw₁.broadcast.1) ?_ hne
  rw [hl.length]
  exact List.mem_range.mp hi

theorem keeps_logBroadcast (hc : Consistent w) : Keeps π (logBroadcast b content) l w :=
  keeps_screens { World.Evolves.refl w with } { hc with } (.screens rfl rfl rfl rfl)

/-- The owner's entry is updated with the recipients reached, which are registered with the owner;
where it has not been found the handler throws. -/
theorem keeps_updateReached {snap : List Document} (hc : Consistent w)
    (hr : ∀ e ∈ s.reached, Recipient w.minted s.userData.id e)
    (hfound : Found w s.userData.id .broadcastId (.str s.pId) snap) (hne : content ≠ "") :
    Keeps π (updateReached s content snap) (.broadcast s.userData.id s.pId) w := by
  cases snap with
  | nil => exact keeps_throw
  | cons d docs =>
    refine Async.meets_bind (meets_millisecondsSinceEpoch hc fun stamp hstamp => ?_)
    refine keeps_spawn (keeps_update fun w' hw' _ => ?_).runs
    exact .updateBroadcastEntry (fun e he => (hr e he).mono hw'.minted.subset)
      (hfound d (List.mem_cons_self ..) w' hw') hstamp hne

theorem runs_addBroadcastMessage (hc : Consistent w) :
    Runs π (addBroadcastMessage s content type) (.broadcast s.userData.id s.pId) w := by
  refine Async.meets_bind (meets_millisecondsSinceEpoch hc fun stamp _ => ?_)
  refine (keeps_add fun _ _ _ pos => .broadcastMessage _ _ pos _).bind fun w₁ _ _ => ?_
  exact Async.meets_bind (meets_getDocs fun _ _ _ _ _ _ => Async.meets_pure trivial)

/-- A message to a broadcast, from the copies to the wait and the update of the owner's entry: what
is found after the wait is still the entry of this broadcast, for the screen's ids never change. -/
theorem runs_sendToBroadcast (hc : Consistent w) (hb : b < w.broadcastCtrl.size)
    (hne : content ≠ "") :
    Runs π (sendToBroadcast b content type) l w := by
  refine Keeps.bind (keeps_modifyBroadcast hc ⟨rfl, rfl, rfl⟩ fun _ h => { h with })
    fun w₁ hw₁ hc₁ => ?_
  have hb₁ := lt_of_lt_of_le hb hw₁.broadcast.1
  refine Async.meets_bind (meets_get hc₁ ?_)
  have hs : ShowsBroadcast w₁ b (w₁.broadcastCtrl.get b) := ⟨hb₁, .refl _⟩
  generalize w₁.broadcastCtrl.get b = s at hs ⊢
  refine (keeps_saveMessageInLoop hc₁ hb₁ hne).bind fun w' hw' hc' => ?_
  refine (keeps_logBroadcast hc').bind fun w₂ hw₂' hc₂ => ?_
  have hw₂ := hw'.trans hw₂'
  refine Async.meets_bind (Async.meets_enter ?_)
  refine Async.meets_bind (Async.meets_pause fun w₃ hw₃ hc₃ _ => ?_)
  refine Async.meets_bind (meets_getDocs ?_)
  intro w₄ w₅ hw₄ _ hw₅ hc₅
  have hs₅ := hs.later (hw₂.trans (World.Evolves.trans hw₃ (hw₄.trans hw₅)))
  have hfound : Found w₅ s.userData.id .broadcastId (.str s.pId)
      (w₄.store.query (.chats s.userData.id) (Fields.isEqualTo .broadcastId (.str s.pId))) :=
    found_query (by simp) hw₅
  rw [← hs₅.2.userData, ← hs₅.2.pId] at hfound ⊢
  refine Async.meets_bind (meets_get hc₅ ?_)
  refine Async.meets_bind (Async.meets_enter ?_)
  refine (keeps_updateReached hc₅ (hc₅.broadcast b hs₅.1).reached_recipients hfound hne).bind
    fun w₆ _ hc₆ => ?_
  exact (keeps_spawn (runs_addBroadcastMessage hc₆)).runs

theorem runs_broadcastOnSendMessage (hc : Consistent w) (hb : b < w.broadcastCtrl.size) :
    Runs π (BroadcastChat.onSendMessage b content type) l w := by
  unfold BroadcastChat.onSendMessage
  split
  · exact (keeps_pure hc).runs
  · next hblank => exact runs_sendToBroadcast hc hb (ne_empty_of_not_isBlank hblank)

end SendToBroadcast

end FlutterTheme
