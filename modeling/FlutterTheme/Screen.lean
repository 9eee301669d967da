import FlutterTheme.Completes
import FlutterTheme.Clients

/-!
# The conversation of a chat screen

`onSendMessage` and `blockUser` make an identifier for the conversation where the screen has
none, and put it into the controller before they are first suspended. So however many calls on
a screen are under way at the same time, the first of them that gets past the check for a
blank message decides, and all messages and inbox entries they write are of one conversation
(`screen_keeps_chatId`). A clock that reads `0` makes the identifier that stands for none
(`screen_splits`).
-/

namespace FlutterTheme

open EventLoop DocStore

namespace Screen

/-- The calls on an open chat screen. -/
inductive ScreenCall : Type where
  /-- when the screen opens, and after a message -/
  | getChatData
  | onSendMessage (content : String) (type : MessageType)
  | blockUser

/-- The handler of a call. -/
def ScreenCall.body (c : ℕ) : ScreenCall → Call Unit
  | getChatData => FlutterTheme.getChatData c
  | onSendMessage content type => FlutterTheme.onSendMessage c content type
  | blockUser => FlutterTheme.blockUser c

/-- Any number of calls on the screen `c`, started at any time. -/
def screen (c : ℕ) : System World Scope ScreenCall where
  scope _ _ := .idle
  body := ScreenCall.body c
  enabled _ _ := True

/-- The action at which a call makes an identifier if the screen has none; a blank message makes
none. -/
def ScreenCall.idAction : ScreenCall → Option ℕ
  | getChatData => none
  | onSendMessage content _ => if isBlank content then none else some 3
  | blockUser => some 0

/-- The identifier made by the first call that makes one. -/
def firstId : List (Event ScreenCall) → Option String
  | [] => none
  | .call a ticks :: es =>
    match a.idAction with
    | some n => some (toString (ticks n).now)
    | none => firstId es
  | .resume _ _ :: es => firstId es

/-- The conversation of a screen on which these calls are made. -/
def idOf (s : ChatController) (es : List (Event ScreenCall)) : Option String :=
  if s.chatId = "0" then firstId es else some s.chatId

/-- A message or an inbox entry of the conversation. -/
def OfChat (chatId : String) (p : Path) (d : Document) : Prop :=
  (p = .messages chatId ∨ ∃ x, p = .chats x) ∧ d.data .chatId = some (.str chatId)

/-- Something of the conversation, if there is one. -/
def Own (o : Option String) (p : Path) (d : Document) : Prop := ∃ chatId ∈ o, OfChat chatId p d

/-! ## The protocol -/

/-- How the world may change while calls on the screen `c`, of the conversation `o`, are under
way. -/
structure Later (c : ℕ) (o : Option String) (w w' : World) : Prop where
  userData : (w'.chatCtrl.get c).userData = (w.chatCtrl.get c).userData
  pId : (w'.chatCtrl.get c).pId = (w.chatCtrl.get c).pId
  /-- an identifier is made at most once -/
  chatId : (w'.chatCtrl.get c).chatId = (w.chatCtrl.get c).chatId ∧ w'.minted = w.minted ∨
    (w.chatCtrl.get c).chatId = "0" ∧ o = some (w'.chatCtrl.get c).chatId ∧
      w'.minted = ((w'.chatCtrl.get c).chatId,
        s((w.chatCtrl.get c).userData.id, (w.chatCtrl.get c).pId)) :: w.minted
  /-- inbox entries stay in their conversations -/
  entries : ∀ x, Store.Keeps (fun d : Data => d .chatId) (.chats x) w.store w'.store
  /-- what is written is of the conversation -/
  frame : Store.Frame (Own o) w.store w'.store

/-- What holds of the screen all along. -/
structure Sound (c : ℕ) (o : Option String) (w : World) : Prop where
  chatId : (w.chatCtrl.get c).chatId = "0" ∨ o = some (w.chatCtrl.get c).chatId
  /-- nothing writes `allData` -/
  allData : (w.chatCtrl.get c).allData = none
  peer : (w.chatCtrl.get c).userData.id ≠ (w.chatCtrl.get c).pId

/-- No identifier is made. -/
def NoMint (c : ℕ) (w w' : World) : Prop :=
  (w'.chatCtrl.get c).chatId = (w.chatCtrl.get c).chatId ∧ w'.minted = w.minted

variable {c : ℕ} {o : Option String} {w w' w'' : World}

theorem Later.refl (w : World) : Later c o w w :=
  ⟨rfl, rfl, Or.inl ⟨rfl, rfl⟩, fun _ => Store.Keeps.refl _ _ _, Store.Frame.refl _ _⟩

/-- What comes later than something later comes later. An id that has been found is not the mark for
none, so the screen does not lose it in between. -/
theorem Later.trans (h0 : o ≠ some "0") (h : Later c o w w') (h' : Later c o w' w'') :
    Later c o w w'' := by
  refine ⟨h'.userData.trans h.userData, h'.pId.trans h.pId, ?_,
    fun x => (h.entries x).trans (h'.entries x), h.frame.trans h'.frame⟩
  rcases h.chatId with ⟨hid, hm⟩ | ⟨hnone, hid, hm⟩
  · rcases h'.chatId with ⟨hid', hm'⟩ | ⟨hnone', hid', hm'⟩
    · exact Or.inl ⟨hid'.trans hid, hm'.trans hm⟩
    · rw [h.userData, h.pId, hm] at hm'
      exact Or.inr ⟨hid ▸ hnone', hid', hm'⟩
  · rcases h'.chatId with ⟨hid', hm'⟩ | ⟨hnone', -, -⟩
    · rw [← hid'] at hid hm
      exact Or.inr ⟨hnone, hid, hm'.trans hm⟩
    · exact absurd (hnone' ▸ hid) h0

/-- The protocol of the calls on the screen `c`, of the conversation `o`. -/
def keeping (c : ℕ) (o : Option String) (h0 : o ≠ some "0") : Evolving World where
  le := Later c o
  inv := Sound c o
  step := NoMint c
  le_refl := Later.refl
  le_trans := Later.trans h0
  step_refl _ := ⟨rfl, rfl⟩

variable {h0 : o ≠ some "0"} {cid : String}

/-! ## Single actions -/

/-- A change of screens that keeps what the handlers rely on. -/
theorem permits_screens (hi : Sound c o w) (hstore : w'.store = w.store) (hm : w'.minted = w.minted)
    (hs : (w'.chatCtrl.get c).userData = (w.chatCtrl.get c).userData ∧
      (w'.chatCtrl.get c).pId = (w.chatCtrl.get c).pId ∧
      (w'.chatCtrl.get c).chatId = (w.chatCtrl.get c).chatId ∧
      (w'.chatCtrl.get c).allData = (w.chatCtrl.get c).allData) :
    (keeping c o h0).Permits w w' := by
  obtain ⟨huser, hpeer, hid, hall⟩ := hs
  refine ⟨⟨huser, hpeer, Or.inl ⟨hid, hm⟩, fun x => ?_, ?_⟩, ⟨?_, ?_, ?_⟩, ⟨hid, hm⟩⟩
  · rw [hstore]
    exact Store.Keeps.refl _ _ _
  · rw [hstore]
    exact Store.Frame.refl _ _
  · rw [hid]
    exact hi.chatId
  · rw [hall]
    exact hi.allData
  · rw [huser, hpeer]
    exact hi.peer

/-- A change of a chat screen, perhaps another one. -/
theorem permits_chat {i : ℕ} {f : ChatController → ChatController} (hi : Sound c o w)
    (hf : ∀ s, (f s).userData = s.userData ∧ (f s).pId = s.pId ∧ (f s).chatId = s.chatId ∧
      (f s).allData = s.allData) :
    (keeping c o h0).Permits w { w with chatCtrl := w.chatCtrl.modify i f } := by
  refine permits_screens hi rfl rfl ?_
  simp only [Heap.get_modify]
  split
  · next heq =>
    subst heq
    exact hf _
  · exact ⟨rfl, rfl, rfl, rfl⟩

/-- A write of the conversation. -/
theorem permits_write (op : Write Path Key Value) (hi : Sound c o w)
    (hkeeps : ∀ x, Store.Keeps (fun d : Data => d .chatId) (.chats x) w.store (w.store.write op))
    (hframe : Store.Frame (Own o) w.store (w.store.write op)) :
    (keeping c o h0).Permits w { w with store := w.store.write op } :=
  ⟨⟨rfl, rfl, Or.inl ⟨rfl, rfl⟩, hkeeps, hframe⟩, ⟨hi.chatId, hi.allData, hi.peer⟩, rfl, rfl⟩

/-! ## Reading and writing -/

theorem keeps_getDocs {p : Path} {q : Data → Bool} {Q : List Document → World → Prop}
    (h : ∀ w₁ w₂, Sound c o w₁ → Later c o w₁ w₂ → Q (w₁.store.query p q) w₂) :
    EventLoop.Keeps (keeping c o h0) (getDocs p q) w Q :=
  keeps_remote fun w₁ _ hi₁ _ => ⟨.refl hi₁, fun w₂ hw₂ _ => h w₁ w₂ hi₁ hw₂⟩

theorem keeps_getDoc {p : Path} {id : DocId} :
    EventLoop.Keeps (keeping c o h0) (getDoc p id) w fun _ _ => True :=
  keeps_remote fun _ _ hi₁ _ => ⟨.refl hi₁, fun _ _ _ => trivial⟩

theorem keeps_millisecondsSinceEpoch (hi : Sound c o w) :
    EventLoop.Keeps (keeping c o h0) millisecondsSinceEpoch w fun _ _ => True :=
  keeps_sync fun _ => ⟨.refl hi, trivial⟩

theorem runs_modifyChat {i : ℕ} {f : ChatController → ChatController} (hi : Sound c o w)
    (hf : ∀ s, (f s).userData = s.userData ∧ (f s).pId = s.pId ∧ (f s).chatId = s.chatId ∧
      (f s).allData = s.allData) :
    EventLoop.Runs (keeping c o h0) (modifyChat i f) w :=
  runs_modify (permits_chat hi hf)

theorem runs_setLoading {isLoading : Bool} (hi : Sound c o w) :
    EventLoop.Runs (keeping c o h0) (setLoading c isLoading) w :=
  runs_modifyChat hi fun _ => ⟨rfl, rfl, rfl, rfl⟩

theorem runs_clearInput {i : Option ℕ} (hi : Sound c o w) :
    EventLoop.Runs (keeping c o h0) (clearInput i) w := by
  cases i with
  | none => exact EventLoop.keeps_pure hi trivial
  | some i => exact runs_modifyChat hi fun _ => ⟨rfl, rfl, rfl, rfl⟩

theorem notifying : Notifying (keeping c o h0) :=
  fun _ _ hi => permits_screens hi rfl rfl ⟨rfl, rfl, rfl, rfl⟩

/-- A message of the conversation is stored. -/
theorem runs_add {d : Data} (hd : d .chatId = some (.str cid)) (ho : o = some cid) :
    EventLoop.Runs (keeping c o h0) (add (.messages cid) d) w := by
  refine keeps_remote fun w₁ _ hi₁ t => ⟨?_, fun _ _ _ => trivial⟩
  refine permits_write (.add (.messages cid) t.pos d) hi₁ (fun x => Store.keeps_add) ?_
  refine Store.frame_write ?_ fun _ _ _ htake => htake.elim
  rintro _ _ ⟨rfl, rfl⟩
  exact ⟨cid, ho, Or.inl rfl, hd⟩

/-- A new inbox entry of the conversation. -/
theorem runs_addEntry {x : String} {d : Data} (hd : d .chatId = some (.str cid))
    (ho : o = some cid) : EventLoop.Runs (keeping c o h0) (add (.chats x) d) w := by
  refine keeps_remote fun w₁ _ hi₁ t => ⟨?_, fun _ _ _ => trivial⟩
  refine permits_write (.add (.chats x) t.pos d) hi₁ (fun y => Store.keeps_add) ?_
  refine Store.frame_write ?_ fun _ _ _ htake => htake.elim
  rintro _ _ ⟨rfl, rfl⟩
  exact ⟨cid, ho, Or.inr ⟨x, rfl⟩, hd⟩

/-- The document is an entry of the conversation. -/
def IsEntry (cid x : String) (id : DocId) (w : World) : Prop :=
  ∃ d ∈ w.store.docs (.chats x), d.id = id ∧ d.data .chatId = some (.str cid)

theorem IsEntry.later {x : String} {id : DocId} (h : IsEntry cid x id w) (hw : Later c o w w') :
    IsEntry cid x id w' := by
  obtain ⟨d, hd, hid, hcid⟩ := h
  obtain ⟨d', hd', hid', hcid'⟩ := hw.entries x d hd
  exact ⟨d', hd', hid'.trans hid, hcid'.trans hcid⟩

/-- An inbox entry of the conversation is written again: it still carries the `chatId` it was found
by. -/
theorem runs_updateEntry {x : String} {id : DocId} {u : Data} (hid : IsEntry cid x id w)
    (hu : ∀ d : Data, d .chatId = some (.str cid) → d.merge u .chatId = some (.str cid))
    (ho : o = some cid) : EventLoop.Runs (keeping c o h0) (update (.chats x) id u) w := by
  refine keeps_bind (Q := fun _ _ => True) (keeps_remote fun w₁ hw₁ hi₁ _ => ⟨?_, fun _ _ _ => trivial⟩)
    fun found w₂ _ hi₂ _ => ?_
  · obtain ⟨d, hd, rfl, hcid⟩ := hid.later hw₁
    have hsame : ∀ y ∈ w₁.store.docs (.chats x), y.id = d.id → y.data .chatId = some (.str cid) :=
      fun y hy hyid => w₁.store.eq_of_id hy hd hyid ▸ hcid
    refine permits_write (.update (.chats x) d.id u) hi₁ (fun y => ?_) ?_
    · refine Store.keeps_update fun hxy y' hy' hyid => ?_
      cases hxy
      exact (hu _ (hsame y' hy' hyid)).trans (hsame y' hy' hyid).symm
    · refine Store.frame_write ?_ ?_
      · rintro _ _ ⟨rfl, y, hy, hyid, rfl⟩
        exact ⟨cid, ho, Or.inr ⟨x, rfl⟩, hu _ (hsame y hy hyid)⟩
      · rintro _ y hy ⟨rfl, hyid⟩
        exact ⟨cid, ho, Or.inr ⟨x, rfl⟩, hsame y hy hyid⟩
  · cases found with
    | true => exact EventLoop.keeps_pure hi₂ trivial
    | false => exact EventLoop.keeps_throw

/-- The query for the entries of the conversation. -/
theorem keeps_getEntries {x : String} :
    EventLoop.Keeps (keeping c o h0) (getDocs (.chats x) (Fields.isEqualTo .chatId (.str cid))) w
      fun docs w' => ∀ d ∈ docs, IsEntry cid x d.id w' := by
  refine keeps_getDocs fun w₁ w₂ _ hw₂ d hd => ?_
  obtain ⟨hd, hcid⟩ := (Store.mem_query _).mp hd
  exact IsEntry.later ⟨d, hd, rfl, Fields.isEqualTo_iff.mp hcid⟩ hw₂

/-! ## The handlers -/

theorem runs_seenInbox {x : String} (ho : o = some cid) :
    EventLoop.Runs (keeping c o h0) (seenInbox x cid) w := by
  refine keeps_bind keeps_getEntries fun docs w₁ _ hi₁ hdocs => ?_
  cases docs with
  | nil => exact EventLoop.keeps_pure hi₁ trivial
  | cons doc docs => exact runs_updateEntry (hdocs doc (List.mem_cons_self ..)) (fun _ h => h) ho

/-- The controller of the screen, as a handler reads it. -/
theorem keeps_chat (hi : Sound c o w) :
    EventLoop.Keeps (keeping c o h0) (chat c) w fun s w' => w' = w ∧ s = w.chatCtrl.get c :=
  keeps_get hi ⟨rfl, rfl⟩

theorem runs_seenMessage (hi : Sound c o w) (ho : o = some (w.chatCtrl.get c).chatId) :
    EventLoop.Runs (keeping c o h0) (seenMessage c) w := by
  refine keeps_bind (keeps_chat hi) ?_
  rintro _ _ - - ⟨rfl, rfl⟩
  rw [if_neg hi.peer]
  refine keeps_seq (EventLoop.keeps_pure hi trivial) fun w₁ _ _ => ?_
  refine keeps_seq (runs_spawn (runs_seenInbox ho)) fun w₂ _ _ => ?_
  exact runs_spawn (runs_seenInbox ho)

/-- A screen that has a conversation keeps it. -/
theorem Later.own (h : Later c o w w') (h0 : o ≠ some "0")
    (ho : o = some (w.chatCtrl.get c).chatId) : o = some (w'.chatCtrl.get c).chatId := by
  rcases h.chatId with ⟨hid, -⟩ | ⟨hnone, -, -⟩
  · rw [hid]
    exact ho
  · exact absurd (hnone ▸ ho) h0

/-- `getChatData` reads the `chatId` before its query and uses it after; the two are the same unless
the screen had none, in which case nothing is marked. -/
theorem runs_getChatData (hi : Sound c o w) :
    EventLoop.Runs (keeping c o h0) (FlutterTheme.getChatData c) w := by
  refine keeps_bind (keeps_chat hi) ?_
  rintro _ w₁ - - ⟨rfl, rfl⟩
  refine keeps_enter ?_
  refine keeps_seq ?_ fun w₁ _ _ => ?_
  · split
    · next hne =>
      have ho := hi.chatId.resolve_left hne
      refine keeps_bind (Q := fun _ w' => o = some (w'.chatCtrl.get c).chatId)
        (keeps_remote fun w₁ hw₁ hi₁ _ => ⟨.refl hi₁, fun w₂ hw₂ _ =>
          hw₂.own h0 (hw₁.own h0 ho)⟩) fun _ w₂ _ hi₂ ho₂ => ?_
      exact runs_spawn (runs_seenMessage hi₂ ho₂)
    · exact EventLoop.keeps_pure hi trivial
  · refine keeps_bind keeps_getDoc fun value w₂ _ hi₂ _ => ?_
    exact runs_modifyChat hi₂ fun _ => ⟨rfl, rfl, rfl, rfl⟩

/-- The entry of the conversation is saved. -/
theorem runs_save {n : ℕ} {x content sender : String} {receiverId : Value}
    {isBlock isBroadcast : Bool} (hi : Sound c o w) (ho : o = some cid) :
    EventLoop.Runs (keeping c o h0)
      (saveMessageInUserCollection n x receiverId cid content sender isBlock isBroadcast) w := by
  refine keeps_bind (keeps_get hi (Q := fun _ _ => True) trivial) fun i w₁ _ _ _ => ?_
  refine keeps_bind keeps_getEntries fun docs w₂ _ hi₂ hdocs => ?_
  refine keeps_bind (Q := fun _ w' => w' = w₂) (keeps_sync fun _ => ⟨.refl hi₂, rfl⟩) ?_
  rintro stamp _ - - rfl
  refine keeps_seq ?_ fun w₃ _ hi₃ => runs_clearInput hi₃
  cases docs with
  | nil => exact runs_addEntry rfl ho
  | cons doc docs => exact runs_updateEntry (hdocs doc (List.mem_cons_self ..)) (fun _ _ => rfl) ho

theorem runs_addMessage {s : ChatController} {receiver : Value} {content : String}
    {type : MessageType} (hi : Sound c o w) (ho : o = some cid) :
    EventLoop.Runs (keeping c o h0) (addMessage s receiver cid content type) w := by
  refine keeps_bind (keeps_millisecondsSinceEpoch hi) fun timestamp w₁ _ _ _ => ?_
  exact runs_add rfl ho

theorem runs_deliver {s : ChatController} {content : String} {type : MessageType}
    (hi : Sound c o w) (ho : o = some cid) :
    EventLoop.Runs (keeping c o h0) (deliver c s cid content type) w := by
  refine keeps_seq (runs_addMessage hi ho) fun w₁ _ hi₁ => ?_
  refine keeps_seq (runs_setLoading hi₁) fun w₂ _ hi₂ => ?_
  refine keeps_seq (runs_save hi₂ ho) fun w₃ _ hi₃ => ?_
  exact keeps_seq (runs_save hi₃ ho) fun w₄ _ hi₄ => runs_setLoading hi₄

theorem runs_dispatch {s : ChatController} {content : String} {type : MessageType}
    (hi : Sound c o w) (hs : s.allData = none) (ho : o = some cid) :
    EventLoop.Runs (keeping c o h0) (dispatch c s cid content type) w := by
  unfold dispatch
  rw [hs]
  refine keeps_seq (runs_setLoading hi) fun w₁ _ hi₁ => ?_
  refine keeps_seq (runs_deliver hi₁ ho) fun w₂ _ hi₂ => ?_
  exact runs_spawn (runs_getChatData hi₂)

/-- What is left of `onSendMessage` when the conversation has its identifier. -/
def afterChatId (c : ℕ) (content : String) (type : MessageType) (chatId : String) : Call Unit := do
  let s ← chat c
  Async.enter (.send s.userData.id s.pId chatId)
  dispatch c s chatId content type
  notify c content
  setLoading c false

theorem send_then (c : ℕ) (content : String) (type : MessageType) :
    (do send c content type; notify c content; setLoading c false) = (do
      modifyChat c fun s => { s with text := "" }
      let chatId ← newChatId c
      afterChatId c content type chatId) := rfl

theorem runs_afterChatId {content : String} {type : MessageType} (hi : Sound c o w)
    (ho : o = some cid) : EventLoop.Runs (keeping c o h0) (afterChatId c content type cid) w := by
  refine keeps_bind (keeps_chat hi) ?_
  rintro _ w₁ - - ⟨rfl, rfl⟩
  refine keeps_enter ?_
  refine keeps_seq (runs_dispatch hi hi.allData ho) fun w₁ _ hi₁ => ?_
  exact keeps_seq (notifying.notify hi₁) fun w₂ _ hi₂ => runs_setLoading hi₂

/-- What is left of `blockUser` when the conversation has its identifier. -/
def blockAfterChatId (c : ℕ) (chatId : String) : Call Unit := do
  let s ← chat c
  Async.enter (.block s.userData.id s.pId chatId)
  logBlock s chatId
  (if s.isBlock then unblock s chatId else block s chatId)

theorem runs_addBlockMessage {s : ChatController} {content : String} (hi : Sound c o w)
    (ho : o = some cid) : EventLoop.Runs (keeping c o h0) (addBlockMessage s cid content) w := by
  refine keeps_bind (keeps_millisecondsSinceEpoch hi) fun timestamp w₁ _ _ _ => ?_
  exact runs_spawn (runs_add rfl ho)

/-- The rest of `blockUser`, once the conversation has its id: what it writes is of this
conversation. -/
theorem runs_blockAfterChatId (hi : Sound c o w) (ho : o = some cid) :
    EventLoop.Runs (keeping c o h0) (blockAfterChatId c cid) w := by
  refine keeps_bind (keeps_get hi (Q := fun _ _ => True) trivial) fun s w₁ _ hi₁ _ => ?_
  refine keeps_enter ?_
  refine keeps_seq (runs_modify (permits_screens hi₁ rfl rfl ⟨rfl, rfl, rfl, rfl⟩)) fun w₃ _ hi₃ => ?_
  split
  · exact keeps_seq (runs_addBlockMessage hi₃ ho) fun w₄ _ hi₄ => runs_save hi₄ ho
  · refine keeps_seq (runs_addBlockMessage hi₃ ho) fun w₄ _ hi₄ => ?_
    split
    · exact EventLoop.keeps_throw
    · exact runs_save hi₄ ho

/-- The identifier of a screen that has a conversation. -/
theorem keeps_newChatId (hi : Sound c o w) (ho : o = some (w.chatCtrl.get c).chatId) :
    EventLoop.Keeps (keeping c o h0) (newChatId c) w fun cid _ => o = some cid := by
  refine keeps_sync fun t => ?_
  have hne : (w.chatCtrl.get c).chatId ≠ "0" := fun heq => h0 (heq ▸ ho)
  simp only [assignChatId, if_neg hne]
  exact ⟨.refl hi, ho⟩

/-- A call that makes no identifier, or finds one, keeps to the conversation of the screen. One case
for each call of the screen. -/
theorem runs_body {a : ScreenCall} (hi : Sound c o w)
    (ha : a.idAction = none ∨ o = some (w.chatCtrl.get c).chatId) :
    EventLoop.Runs (keeping c o h0) (a.body c) w := by
  cases a with
  | getChatData => exact runs_getChatData hi
  | blockUser =>
    have ho := ha.resolve_left (by simp [ScreenCall.idAction])
    exact keeps_bind (keeps_newChatId hi ho) fun cid w₁ _ hi₁ hcid => runs_blockAfterChatId hi₁ hcid
  | onSendMessage content type =>
    refine keeps_bind (Q := fun _ w' => w' = w) (keeps_get hi rfl) ?_
    rintro s w₁ - - rfl
    refine keeps_enter ?_
    refine keeps_seq (runs_setLoading hi) fun w₁ hw₁ hi₁ => ?_
    by_cases hblank : isBlank content = true
    · rw [if_pos hblank]
      refine keeps_seq (EventLoop.keeps_pure hi₁ trivial) fun w₂ _ hi₂ => ?_
      exact keeps_seq (notifying.notify hi₂) fun w₃ _ hi₃ => runs_setLoading hi₃
    · have ho := ha.resolve_left (by simp [ScreenCall.idAction, hblank])
      rw [if_neg hblank]
      rw [send_then]
      refine keeps_seq (runs_modifyChat hi₁ fun _ => ⟨rfl, rfl, rfl, rfl⟩) fun w₂ hw₂ hi₂ => ?_
      have ho₂ := Later.own hw₂ h0 (Later.own hw₁ h0 ho)
      exact keeps_bind (keeps_newChatId hi₂ ho₂) fun cid w₃ _ hi₃ hcid => runs_afterChatId hi₃ hcid

/-! ## The first identifier -/

/-- The conversation gets its identifier, the reading of the clock, which is the one the screen
keeps to from now on. -/
theorem assignChatId_none {t : Tick} (hi : Sound c o w) (hnone : (w.chatCtrl.get c).chatId = "0")
    (ho : o = some (toString t.now)) :
    Later c o w (assignChatId c t w).2 ∧ Sound c o (assignChatId c t w).2 ∧
      o = some ((assignChatId c t w).2.chatCtrl.get c).chatId ∧
      o = some (assignChatId c t w).1 := by
  simp only [assignChatId, if_pos hnone]
  have hget : ∀ f : ChatController → ChatController,
      (w.chatCtrl.modify c f).get c = f (w.chatCtrl.get c) := fun f => by simp [Heap.get_modify]
  refine ⟨⟨?_, ?_, Or.inr ⟨hnone, ?_, ?_⟩, fun x => Store.Keeps.refl _ _ _, Store.Frame.refl _ _⟩,
    ⟨Or.inr ?_, ?_, ?_⟩, ?_, ho⟩
  all_goals simp only [hget]
  · exact ho
  · exact ho
  · exact hi.allData
  · exact hi.peer
  · exact ho

variable {cfg : Config World Scope} {ticks : ℕ → Tick} {content : String} {type : MessageType}

/-- `blockUser` on a screen without a conversation. -/
theorem started_blockUser (hi : Sound c o cfg.world)
    (hnone : (cfg.world.chatCtrl.get c).chatId = "0") (ho : o = some (toString (ticks 0).now)) :
    ∃ cid w₁, (screen c).Started (keeping c o h0) cfg .blockUser ticks (blockAfterChatId c cid) w₁ ∧
      o = some (w₁.chatCtrl.get c).chatId ∧ o = some cid := by
  obtain ⟨hle, hinv, ho₁, hcid⟩ := assignChatId_none hi hnone ho
  exact ⟨_, _, ⟨⟨.idle, 1, Async.advances_sync⟩, hle, hinv⟩, ho₁, hcid⟩

/-- The world after the fields of the screen have been changed. -/
def edited (w : World) (c : ℕ) (f : ChatController → ChatController) : World :=
  { w with chatCtrl := w.chatCtrl.modify c f }

/-- `onSendMessage` on a screen without a conversation: it makes the identifier in its first
segment, before anything is written. -/
theorem started_onSendMessage (hi : Sound c o cfg.world)
    (hnone : (cfg.world.chatCtrl.get c).chatId = "0") (hblank : ¬ isBlank content = true)
    (ho : o = some (toString (ticks 3).now)) :
    ∃ cid w₁, (screen c).Started (keeping c o h0) cfg (.onSendMessage content type) ticks
      (afterChatId c content type cid) w₁ ∧ o = some (w₁.chatCtrl.get c).chatId ∧ o = some cid := by
  -- the screen is loading, and its text is cleared
  have h₁ : (keeping c o h0).Permits cfg.world
      (edited cfg.world c fun s => { s with isLoading := true }) :=
    permits_chat hi fun _ => ⟨rfl, rfl, rfl, rfl⟩
  generalize hw₁ : edited cfg.world c (fun s => { s with isLoading := true }) = w₁ at h₁
  have h₂ : (keeping c o h0).Permits w₁ (edited w₁ c fun s => { s with text := "" }) :=
    permits_chat h₁.inv fun _ => ⟨rfl, rfl, rfl, rfl⟩
  generalize hw₂ : edited w₁ c (fun s => { s with text := "" }) = w₂ at h₂
  have hnone₂ : (w₂.chatCtrl.get c).chatId = "0" := h₂.step.1.trans (h₁.step.1.trans hnone)
  obtain ⟨hle, hinv, ho₁, hcid⟩ := assignChatId_none h₂.inv hnone₂ ho
  have hw : Later c o cfg.world (assignChatId c (ticks 3) w₂).2 :=
    (Later.trans h0 h₁.le h₂.le).trans h0 hle
  generalize hs : cfg.world.chatCtrl.get c = s
  refine ⟨_, _, ⟨⟨.send s.userData.id s.pId s.chatId, 4, ?_⟩, hw, hinv⟩, ho₁, hcid⟩
  change Async.Advances ticks (FlutterTheme.onSendMessage c content type) _ _ _ _ _ _ _
  unfold FlutterTheme.onSendMessage
  rw [if_neg hblank, send_then]
  refine Async.advances_get.trans (Async.advances_enter.trans (Async.advances_modify.trans ?_))
  change Async.Advances ticks _ _ 2 (edited cfg.world c fun s => { s with isLoading := true }) _ _ _ _
  rw [hw₁, hs]
  refine Async.advances_modify.trans ?_
  change Async.Advances ticks _ _ 3 (edited w₁ c fun s => { s with text := "" }) _ _ _ _
  rw [hw₂]
  exact Async.advances_sync

/-! ## Runs -/

/-- Either the screen has its conversation, or the calls still to come make the identifier. -/
def Coming (c : ℕ) (o : Option String) (w : World) (es : List (Event ScreenCall)) : Prop :=
  (w.chatCtrl.get c).chatId = "0" ∧ firstId es = o ∨ o = some (w.chatCtrl.get c).chatId

/-- An event at which no identifier is made. -/
theorem kept_of_provides {e : Event ScreenCall} {es : List (Event ScreenCall)}
    (hc : cfg.Kept ((keeping c o h0).protocol Scope))
    (he : (screen c).Provides ((keeping c o h0).protocol Scope) cfg e)
    (hcoming : Coming c o cfg.world es) :
    ((screen c).apply cfg e).Kept ((keeping c o h0).protocol Scope) ∧
      Later c o cfg.world ((screen c).apply cfg e).world ∧
      Coming c o ((screen c).apply cfg e).world es := by
  have hout := System.outcome_kept hc he
  have hmint : NoMint c cfg.world ((screen c).apply cfg e).world :=
    System.apply_steps (R := NoMint c) (fun _ => ⟨rfl, rfl⟩)
      (fun h h' => ⟨h'.1.trans h.1, h'.2.trans h.2⟩) hout.steps
  refine ⟨System.apply_kept hc he, hout.le, ?_⟩
  rw [Coming, hmint.1]
  exact hcoming

theorem kept_of_started {a : ScreenCall} {es : List (Event ScreenCall)} {m : Call Unit}
    (hc : cfg.Kept ((keeping c o h0).protocol Scope))
    (h : (screen c).Started (keeping c o h0) cfg a ticks m w)
    (hm : EventLoop.Runs (keeping c o h0) m w) (ho : o = some (w.chatCtrl.get c).chatId) :
    ((screen c).apply cfg (.call a ticks)).Kept ((keeping c o h0).protocol Scope) ∧
      Later c o cfg.world ((screen c).apply cfg (.call a ticks)).world ∧
      Coming c o ((screen c).apply cfg (.call a ticks)).world es := by
  obtain ⟨hkept, hle⟩ := h.kept hc hm
  exact ⟨hkept, hle, Or.inr (Later.own (h.rest_le hm) h0 ho)⟩

/-- One event: it makes the identifier, on a screen that has none, or keeps to the one there is.
What is to come is told from the rest of the run. -/
theorem kept_apply {e : Event ScreenCall} {es : List (Event ScreenCall)}
    (hc : cfg.Kept ((keeping c o h0).protocol Scope)) (hcoming : Coming c o cfg.world (e :: es)) :
    ((screen c).apply cfg e).Kept ((keeping c o h0).protocol Scope) ∧
      Later c o cfg.world ((screen c).apply cfg e).world ∧
      Coming c o ((screen c).apply cfg e).world es := by
  cases e with
  | resume i ticks => exact kept_of_provides hc (fun _ _ => trivial) hcoming
  | call a ticks =>
    rcases hcoming with ⟨hnone, hfirst⟩ | ho
    · cases hid : a.idAction with
      | none =>
        simp only [firstId, hid] at hfirst
        exact kept_of_provides hc ((runs_body hc.inv (Or.inl hid)).safe _) (Or.inl ⟨hnone, hfirst⟩)
      | some n =>
        simp only [firstId, hid] at hfirst
        cases a with
        | getChatData => cases hid
        | blockUser =>
          cases hid
          obtain ⟨cid, w₁, hstarted, ho₁, hcid⟩ := started_blockUser hc.inv hnone hfirst.symm
          exact kept_of_started hc hstarted (runs_blockAfterChatId hstarted.inv hcid) ho₁
        | onSendMessage content type =>
          by_cases hblank : isBlank content = true
          · rw [ScreenCall.idAction, if_pos hblank] at hid
            cases hid
          · rw [ScreenCall.idAction, if_neg hblank] at hid
            cases hid
            obtain ⟨cid, w₁, hstarted, ho₁, hcid⟩ :=
              started_onSendMessage hc.inv hnone hblank hfirst.symm
            exact kept_of_started hc hstarted (runs_afterChatId hstarted.inv hcid) ho₁
    · exact kept_of_provides hc ((runs_body hc.inv (Or.inr ho)).safe _) (Or.inr ho)

/-- **A run.** -/
theorem later_exec {es : List (Event ScreenCall)} :
    ∀ {cfg : Config World Scope}, cfg.Kept ((keeping c o h0).protocol Scope) →
      Coming c o cfg.world es → Later c o cfg.world ((screen c).exec cfg es).world ∧
        Coming c o ((screen c).exec cfg es).world [] := by
  induction es with
  | nil => exact fun _ hcoming => ⟨Later.refl _, hcoming⟩
  | cons e es ih =>
    intro cfg hc hcoming
    obtain ⟨hkept, hle, hcoming'⟩ := kept_apply hc hcoming
    obtain ⟨hle', hend⟩ := ih hkept hcoming'
    exact ⟨hle.trans h0 hle', hend⟩

/-- What the calls on the screen `c` have done. -/
structure KeepsTo (c : ℕ) (es : List (Event ScreenCall)) (w w' : World) : Prop where
  /-- all messages and inbox entries that were written are of the screen's conversation -/
  frame : Store.Frame (Own (idOf (w.chatCtrl.get c) es)) w.store w'.store
  /-- the screen has this conversation, if any -/
  chatId : (w'.chatCtrl.get c).chatId = (idOf (w.chatCtrl.get c) es).getD "0"
  /-- no other identifier has been made -/
  minted : w'.minted = ((idOf (w.chatCtrl.get c) es).filter
    (fun _ => (w.chatCtrl.get c).chatId = "0")).toList.map
      (·, s((w.chatCtrl.get c).userData.id, (w.chatCtrl.get c).pId)) ++ w.minted

variable {session : ℕ → UserData} {es₀ : List (Event Action)} {c₀ : Clients}
  {es : List (Event ScreenCall)}

/-- **A chat screen keeps to one conversation**, however the calls on it overlap: to the one it was
opened with, or else to the one of the first call that is not a blank message, unless that call
reads `0` on its clock. -/
theorem screen_keeps_chatId
    (h₀ : messaging.Run messaging.admits (Clients.initial session) es₀ c₀)
    (hc : c < c₀.world.chatCtrl.size) (h0 : idOf (c₀.world.chatCtrl.get c) es ≠ some "0")
    (h : (screen c).Run (fun _ _ => True) { world := c₀.world } es cfg) :
    KeepsTo c es c₀.world cfg.world := by
  have hsound := (Clients.consistent h₀).chat c hc
  generalize ho : idOf (c₀.world.chatCtrl.get c) es = o at h0
  have hcoming : Coming c o c₀.world es := by
    unfold idOf at ho
    split at ho
    · next hnone => exact Or.inl ⟨hnone, ho⟩
    · exact Or.inr ho.symm
  have hinv : Sound c o c₀.world := ⟨hcoming.imp And.left id, hsound.allData, hsound.peer⟩
  have hkept : Config.Kept ((keeping c o h0).protocol Scope) { world := c₀.world } :=
    ⟨hinv, fun th hth => absurd hth List.not_mem_nil⟩
  -- no call has decided which conversation it is, or the screen has its own
  obtain ⟨hlater, hend⟩ := later_exec hkept hcoming
  rw [← h.exec_eq] at hlater hend
  refine ⟨ho ▸ hlater.frame, ?_, ?_⟩
  · rw [ho]
    rcases hend with ⟨hnone, hfirst⟩ | hown
    · rw [hnone, ← hfirst]
      rfl
    · rw [hown]
      rfl
  · rw [ho]
    rcases hend with ⟨hnone, hfirst⟩ | hown
    · rcases hlater.chatId with ⟨-, hm⟩ | ⟨-, hsome, -⟩
      · rw [hm, ← hfirst]
        rfl
      · rw [← hfirst] at hsome
        cases hsome
    · rcases hlater.chatId with ⟨hid, hm⟩ | ⟨hnone, -, hm⟩
      · have hne : (c₀.world.chatCtrl.get c).chatId ≠ "0" := fun heq => h0 (by rw [hown, hid, heq])
        rw [hm, hown]
        simp [hne]
      · have hzero : (c₀.world.chatCtrl.get c).chatId = "0" := hnone
        rw [hm, hown]
        simp [hzero, Option.filter]

/-! ## Alice's screen -/

/-- Alice writes twice and blocks Bob, all at once. -/
def allAtOnce : List (Event ScreenCall) :=
  [.call (.onSendMessage "one" .text) (clock 5000), .call .blockUser (clock 6000),
    .call (.onSendMessage "two" .text) (clock 7000)] ++
    List.replicate 60 (.resume 0 (clock 8000))

/-- The two have the chat open. -/
def bothReady : Clients := messaging.exec (Clients.initial aliceAndBob) bothOpen

theorem run_bothOpen :
    messaging.Run messaging.admits (Clients.initial aliceAndBob) bothOpen bothReady :=
  System.run_exec (by decide +kernel)

theorem screen_keeps_chatId_allAtOnce :
    KeepsTo 0 allAtOnce bothReady.world
      ((screen 0).exec { world := bothReady.world } allAtOnce).world ∧
    idOf (bothReady.world.chatCtrl.get 0) allAtOnce = some "5000" := by
  have hid : idOf (bothReady.world.chatCtrl.get 0) allAtOnce = some "5000" := by decide +kernel
  have hallowed : (screen 0).Allowed (fun _ _ => True) { world := bothReady.world } allAtOnce := by
    decide +kernel
  refine ⟨screen_keeps_chatId run_bothOpen (by decide +kernel) ?_ (System.run_exec hallowed), hid⟩
  rw [hid]
  decide

/-- A clock at the beginning of the epoch makes an identifier that the next message takes for
none. -/
def atEpoch : List (Event ScreenCall) :=
  [.call (.onSendMessage "one" .text) (clock 0), .call (.onSendMessage "two" .text) (clock 7000)] ++
    List.replicate 60 (.resume 0 (clock 8000))

/-- With the clock at the epoch the id of a new conversation is the mark for none, so that each
message gets an id of its own and the conversation of the screen is split. -/
theorem screen_splits :
    ¬ ∀ (c : ℕ) (es₀ : List (Event Action)) (c₀ : Clients) (es : List (Event ScreenCall))
      (cfg : Config World Scope),
      messaging.Run messaging.admits (Clients.initial aliceAndBob) es₀ c₀ →
      c < c₀.world.chatCtrl.size →
      (screen c).Run (fun _ _ => True) { world := c₀.world } es cfg →
      KeepsTo c es c₀.world cfg.world := by
  intro h
  have hallowed : (screen 0).Allowed (fun _ _ => True) { world := bothReady.world } atEpoch := by
    decide +kernel
  have hkeeps := h 0 _ _ _ _ run_bothOpen (by decide +kernel) (System.run_exec hallowed)
  have hid : idOf (bothReady.world.chatCtrl.get 0) atEpoch = some "0" := by decide +kernel
  have hnew : ((screen 0).exec { world := bothReady.world } atEpoch).world.store.docs
      (.messages "7000") ≠ [] := by decide +kernel
  have hold : bothReady.world.store.docs (.messages "7000") = [] := by decide +kernel
  obtain ⟨m, hm⟩ := List.exists_mem_of_ne_nil _ hnew
  have hother : ¬ Own (some "0") (.messages "7000") m := by
    rintro ⟨cid, hcid, hpath | ⟨x, hpath⟩, -⟩
    · cases hcid
      exact absurd hpath (by decide)
    · cases hpath
  have hframe := hkeeps.frame
  rw [hid] at hframe
  have hmem := (hframe (.messages "7000") m hother).mpr hm
  rw [hold] at hmem
  exact absurd hmem List.not_mem_nil

end Screen

end FlutterTheme
