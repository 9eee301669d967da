import FlutterTheme.Broadcast
import FlutterTheme.Machine
import FlutterTheme.Resumption

/-!
# Drafts

What a user types into a chat stays in the text field until the user changes or sends it, unless a
message, a block or a broadcast that is still being saved clears the field when its entry has been
written: `saveMessageInUserCollection` empties the text field of the chat screen then, whatever has
been typed meanwhile.

* `draft_kept_iff` — a run keeps all drafts just when no save that completes finds one.
-/

namespace FlutterTheme.Drafts

open EventLoop DocStore

/-! ## Typing and sending -/

/-- What a user can do. -/
inductive Action : Type where
  /-- the text field of the chat gets another text -/
  | edit (c : ℕ) (text : String)
  | onSendMessage (c : ℕ) (content : String) (type : MessageType)
  | blockUser (c : ℕ)
  /-- a message to a broadcast -/
  | sendToBroadcast (b : ℕ) (content : String) (type : MessageType)
  /-- a chat screen opens -/
  | openChat (d : ℕ) (chatId : String) (data : UserContactModel)

/-- The handler of an action. -/
def Action.body : Action → Call Unit
  | .edit c text => modifyChat c fun s => { s with text := text }
  | .onSendMessage c content type => FlutterTheme.onSendMessage c content type
  | .blockUser c => FlutterTheme.blockUser c
  | .sendToBroadcast b content type => BroadcastChat.onSendMessage b content type
  | .openChat d chatId data => FlutterTheme.openChat d chatId data

/-- An action needs its screen. -/
def Action.enabled (w : World) : Action → Prop
  | .edit c _ | .onSendMessage c _ _ | .blockUser c => c < w.chatCtrl.size
  | .sendToBroadcast b _ _ => b < w.broadcastCtrl.size
  | .openChat _ _ _ => True

instance (w : World) : (a : Action) → Decidable (a.enabled w)
  | .edit c _ | .onSendMessage c _ _ | .blockUser c => inferInstanceAs (Decidable (c < w.chatCtrl.size))
  | .sendToBroadcast b _ _ => inferInstanceAs (Decidable (b < w.broadcastCtrl.size))
  | .openChat _ _ _ => inferInstanceAs (Decidable True)

/-- Chats in which users type, and what saves messages. -/
def typing : System World Scope Action where
  scope _ _ := .idle
  body := Action.body
  enabled := Action.enabled

instance (conf : Config World Scope) : (e : Event Action) → Decidable (typing.admits conf e)
  | .call a _ => inferInstanceAs (Decidable (a.enabled conf.world))
  | .resume _ _ => inferInstanceAs (Decidable True)

/-- The text of a field after an action: what the user has typed, and nothing when it has been
sent. -/
def Action.leaves (c : ℕ) (text : String) : Action → String
  | .edit c' text' => if c = c' then text' else text
  | .onSendMessage c' content _ => if c = c' ∧ isBlank content = false then "" else text
  | .blockUser _ | .sendToBroadcast _ _ _ | .openChat _ _ _ => text

/-- What the user has left in the text field of a chat. -/
def draft (w₀ : World) (c : ℕ) (es : List (Event Action)) : String :=
  es.foldl
    (fun text e => match e with
      | .call a _ => a.leaves c text
      | .resume _ _ => text)
    (if c < w₀.chatCtrl.size then (w₀.chatCtrl.get c).text else "")

/-- All text fields hold what has been left in them. -/
def Kept (w₀ : World) (es : List (Event Action)) (w : World) : Prop :=
  ∀ c < w.chatCtrl.size, (w.chatCtrl.get c).text = draft w₀ c es

/-! ## What clears a text field -/

/-- What `saveMessageInUserCollection` does when the entry has been written. -/
def cleared (c : ℕ) (w : World) : World :=
  { w with chatCtrl := w.chatCtrl.modify c fun s => { s with text := "", isLoading := false } }

/-- At the event no save completes while the user has a draft in the text field. -/
def Careful (conf : Config World Scope) : Event Action → Prop
  | .call _ _ => True
  | .resume i _ => ∀ th c rest, conf.threads[i]? = some th → th.task.Begins cleared c rest →
      c < conf.world.chatCtrl.size → (conf.world.chatCtrl.get c).text = ""

/-- The text fields are as before, and new ones are empty. -/
structure Still (w w' : World) : Prop where
  size : w.chatCtrl.size ≤ w'.chatCtrl.size
  text : ∀ c < w.chatCtrl.size, (w'.chatCtrl.get c).text = (w.chatCtrl.get c).text
  fresh : ∀ c, w.chatCtrl.size ≤ c → c < w'.chatCtrl.size → (w'.chatCtrl.get c).text = ""

namespace Still

variable {w w' w'' : World}

/-- No chat is changed. -/
theorem of_eq (h : w'.chatCtrl = w.chatCtrl) : Still w w' := by
  refine ⟨h ▸ Nat.le_refl _, fun c _ => h ▸ rfl, fun c hc hc' => ?_⟩
  rw [h] at hc'
  exact absurd hc' (Nat.not_lt.mpr hc)

theorem refl (w : World) : Still w w := of_eq rfl

/-- A chat that has opened before is still empty. -/
theorem fresh_after (h' : Still w' w'') {c : ℕ}
    (h : c < w'.chatCtrl.size → (w'.chatCtrl.get c).text = "") (hc : c < w''.chatCtrl.size) :
    (w''.chatCtrl.get c).text = "" := by
  by_cases hc' : c < w'.chatCtrl.size
  · exact (h'.text c hc').trans (h hc')
  · exact h'.fresh c (Nat.le_of_not_lt hc') hc

theorem trans (h : Still w w') (h' : Still w' w'') : Still w w'' where
  size := h.size.trans h'.size
  text c hc := (h'.text c (Nat.lt_of_lt_of_le hc h.size)).trans (h.text c hc)
  fresh c hc := h'.fresh_after (h.fresh c hc)

/-- A field that is not a text changes. -/
theorem modify {c : ℕ} {f : ChatController → ChatController}
    (hw : w'.chatCtrl = w.chatCtrl.modify c f) (h : ∀ s, (f s).text = s.text) : Still w w' := by
  refine ⟨by simp [hw], fun c' _ => ?_, fun c' hc hc' => absurd hc' ?_⟩
  · by_cases hc : c' = c
    · simp [hw, Heap.get_modify, hc, h]
    · simp [hw, Heap.get_modify, hc]
  · simpa [hw] using hc

/-- A screen opens. -/
theorem alloc {s : ChatController} {current : ℕ → Option ℕ} (h : s.text = "") :
    Still w { w with chatCtrl := w.chatCtrl.alloc s, currentChat := current } := by
  refine ⟨Nat.le_succ _, fun c hc => ?_, fun c hc hc' => ?_⟩
  · simp [Heap.get_alloc, Nat.ne_of_lt hc]
  · obtain rfl : c = w.chatCtrl.size := Nat.le_antisymm (Nat.le_of_lt_succ hc') hc
    simp [Heap.get_alloc, h]

end Still

/-! ## The handlers -/

/-- The call leaves the text fields as they are, except where it is resumed and begins with
clearing one. -/
abbrev Orderly {α : Type} (m : Call α) : Prop := m.Guarded Still cleared

section Handlers

variable {p : Path} {id : DocId} {u : Data} {s : ChatController} {c b i n : ℕ}
  {content chatId user : String} {type : MessageType}

theorem orderly_get {α : Type} {g : World → α} : Orderly (Async.get g) :=
  Async.guarded_get Still.refl

theorem orderly_getDocs {q : Data → Bool} : Orderly (getDocs p q) :=
  Async.guarded_remote Still.refl fun _ w => .refl w

theorem orderly_getDoc : Orderly (getDoc p id) :=
  Async.guarded_remote Still.refl fun _ w => .refl w

theorem orderly_add : Orderly (add p u) := Async.guarded_remote Still.refl fun _ _ => .of_eq rfl

theorem orderly_update : Orderly (update p id u) := by
  refine Async.guarded_bind (Async.guarded_remote Still.refl fun _ _ => .of_eq rfl) fun found => ?_
  exact Async.guarded_ite Async.guarded_pure Async.guarded_throw

theorem orderly_stamp : Orderly millisecondsSinceEpoch := Async.guarded_sync fun _ w => .refl w

theorem orderly_modifyChat {f : ChatController → ChatController} (h : ∀ s, (f s).text = s.text) :
    Orderly (modifyChat c f) :=
  Async.guarded_modify fun _ => .modify rfl h

theorem orderly_modifyBroadcast {f : BroadcastChatController → BroadcastChatController} :
    Orderly (modifyBroadcast b f) :=
  Async.guarded_modify fun _ => .of_eq rfl

theorem orderly_setLoading {isLoading : Bool} : Orderly (setLoading c isLoading) :=
  orderly_modifyChat fun _ => rfl

/-- The entry is written, and the text field is cleared when the answer arrives. -/
theorem orderly_saveFirst {found : List Document} {o : Option ℕ} :
    Orderly (saveFirst p found u >>= fun _ => clearInput o) := by
  intro k hk
  -- what follows on the answer
  have hclear : (Task.await (clearInput o k)).Guarded Still cleared := by
    cases o with
    | none => exact .await (hk ())
    | some c =>
      have hbegins : (clearInput (some c) k).Begins cleared c (k ()) := rfl
      exact .awaitFirst c hbegins (hk ())
  cases found with
  | nil =>
    exact Async.guarded_remote_then (f := fun t w => ((), { w with store := w.store.add p t.pos u }))
      Still.refl (fun _ _ => .of_eq rfl) fun _ => hclear
  | cons doc found =>
    refine Async.guarded_remote_then
      (f := fun _ w => ((w.store.doc? p doc.id).isSome, { w with store := w.store.update p doc.id u }))
      (k := fun found => (if found then pure () else Async.throw : Call Unit) fun _ => clearInput o k)
      Still.refl (fun _ _ => .of_eq rfl) fun found => ?_
    cases found with
    | true => exact hclear
    | false => exact .await .throw

theorem orderly_save {receiverId : Value} {senderId : String} {isBlock isBroadcast : Bool} :
    Orderly (saveMessageInUserCollection n user receiverId chatId content senderId isBlock
      isBroadcast) := by
  refine Async.guarded_bind orderly_get fun chatCtrl => ?_
  refine Async.guarded_bind orderly_getDocs fun docs => ?_
  exact Async.guarded_bind orderly_stamp fun updateStamp => orderly_saveFirst

/-! ### Opening a chat -/

theorem orderly_seenInbox : Orderly (seenInbox user chatId) := by
  refine Async.guarded_bind orderly_getDocs fun docs => ?_
  cases docs with
  | nil => exact Async.guarded_pure
  | cons doc docs => exact orderly_update

theorem orderly_seenMessage : Orderly (seenMessage c) := by
  refine Async.guarded_bind orderly_get fun s => ?_
  refine Async.guarded_bind (Async.guarded_ite ?_ Async.guarded_pure) fun _ => ?_
  · refine Async.guarded_bind orderly_getDocs fun docs => ?_
    exact Async.guarded_forEach fun doc => orderly_update
  · refine Async.guarded_bind (Async.guarded_spawn orderly_seenInbox) fun _ => ?_
    exact Async.guarded_spawn orderly_seenInbox

theorem orderly_getChatData : Orderly (getChatData c) := by
  refine Async.guarded_bind orderly_get fun s => ?_
  refine Async.guarded_bind Async.guarded_enter fun _ => ?_
  refine Async.guarded_bind (Async.guarded_ite ?_ Async.guarded_pure) fun _ => ?_
  · refine Async.guarded_bind orderly_getDocs fun _ => ?_
    exact Async.guarded_spawn orderly_seenMessage
  · exact Async.guarded_bind orderly_getDoc fun _ => orderly_modifyChat fun _ => rfl

theorem orderly_openChat {data : UserContactModel} : Orderly (openChat n chatId data) := by
  refine Async.guarded_bind (Async.guarded_sync fun _ _ => .alloc rfl) fun c => ?_
  exact orderly_getChatData

/-! ### Sending and blocking -/

theorem orderly_newChatId : Orderly (newChatId c) := by
  refine Async.guarded_sync fun t w => ?_
  rw [assignChatId]
  split
  · exact .modify (f := fun s => { s with chatId := toString t.now }) rfl fun _ => rfl
  · exact .refl w

theorem orderly_addMessage {receiver : Value} :
    Orderly (addMessage s receiver chatId content type) :=
  Async.guarded_bind orderly_stamp fun _ => orderly_add

theorem orderly_deliver : Orderly (deliver c s chatId content type) := by
  refine Async.guarded_bind orderly_addMessage fun _ => ?_
  refine Async.guarded_bind orderly_setLoading fun _ => ?_
  refine Async.guarded_bind orderly_save fun _ => ?_
  exact Async.guarded_bind orderly_save fun _ => orderly_setLoading

theorem orderly_deliverBlocked : Orderly (deliverBlocked c s chatId content type) := by
  unfold deliverBlocked
  split
  · refine Async.guarded_bind orderly_addMessage fun _ => ?_
    refine Async.guarded_bind orderly_setLoading fun _ => ?_
    exact Async.guarded_bind orderly_save fun _ => orderly_setLoading
  · exact Async.guarded_throw

theorem orderly_dispatch : Orderly (dispatch c s chatId content type) := by
  unfold dispatch
  split
  · refine Async.guarded_bind ?_ fun _ => orderly_setLoading
    refine Async.guarded_ite (Async.guarded_ite Async.guarded_pure ?_) orderly_deliver
    exact orderly_deliverBlocked
  · refine Async.guarded_bind orderly_setLoading fun _ => ?_
    refine Async.guarded_bind orderly_deliver fun _ => ?_
    exact Async.guarded_spawn orderly_getChatData

theorem orderly_notify : Orderly (notify c content) := by
  refine Async.guarded_bind orderly_get fun s => ?_
  split
  · exact Async.guarded_throw
  · refine Async.guarded_ite Async.guarded_pure (Async.guarded_spawn ?_)
    refine Async.guarded_bind (Async.guarded_attempt Still.refl fun _ _ => .of_eq rfl) fun _ => ?_
    exact Async.guarded_pure

theorem orderly_addBlockMessage : Orderly (addBlockMessage s chatId content) :=
  Async.guarded_bind orderly_stamp fun _ => Async.guarded_spawn orderly_add

/-- `blockUser` touches a text field only in the entry it saves, which clears it as the answer
arrives. -/
theorem orderly_blockUser : Orderly (blockUser c) := by
  refine Async.guarded_bind orderly_newChatId fun newChatId => ?_
  refine Async.guarded_bind orderly_get fun s => ?_
  refine Async.guarded_bind Async.guarded_enter fun _ => ?_
  refine Async.guarded_bind (Async.guarded_modify fun _ => .of_eq rfl) fun _ => ?_
  refine Async.guarded_ite ?_ ?_
  · exact Async.guarded_bind orderly_addBlockMessage fun _ => orderly_save
  · refine Async.guarded_bind orderly_addBlockMessage fun _ => ?_
    split
    · exact Async.guarded_throw
    · exact orderly_save

/-! ### Broadcasts -/

/-- The copy for one recipient touches a text field only in the entries it saves. -/
theorem orderly_copyTo : Orderly (copyTo b content type i) := by
  refine Async.guarded_bind orderly_get fun s => ?_
  split
  · refine Async.guarded_bind orderly_modifyBroadcast fun _ => ?_
    refine Async.guarded_bind Async.guarded_enter fun _ => ?_
    refine Async.guarded_bind (Async.guarded_bind orderly_stamp fun _ => orderly_add) fun _ => ?_
    exact orderly_save
  · refine Async.guarded_bind (Async.guarded_sync fun _ _ => .of_eq rfl) fun chatId => ?_
    refine Async.guarded_bind Async.guarded_enter fun _ => ?_
    refine Async.guarded_bind (Async.guarded_bind orderly_stamp fun _ => orderly_add) fun _ => ?_
    refine Async.guarded_bind orderly_modifyBroadcast fun _ => ?_
    exact Async.guarded_bind Async.guarded_enter fun _ => orderly_save

theorem orderly_updateReached {s : BroadcastChatController} {snap : List Document} :
    Orderly (updateReached s content snap) := by
  cases snap with
  | nil => exact Async.guarded_throw
  | cons doc snap =>
    exact Async.guarded_bind orderly_stamp fun _ => Async.guarded_spawn orderly_update

theorem orderly_addBroadcastMessage {s : BroadcastChatController} :
    Orderly (addBroadcastMessage s content type) := by
  refine Async.guarded_bind orderly_stamp fun _ => ?_
  refine Async.guarded_bind orderly_add fun _ => ?_
  exact Async.guarded_bind orderly_getDocs fun _ => Async.guarded_pure

/-- A message to a broadcast touches a text field only in the entries it saves, each of which clears
one as the answer of its write arrives. -/
theorem orderly_sendToBroadcast : Orderly (BroadcastChat.onSendMessage b content type) := by
  refine Async.guarded_ite Async.guarded_pure ?_
  refine Async.guarded_bind orderly_modifyBroadcast fun _ => ?_
  refine Async.guarded_bind orderly_get fun s => ?_
  refine Async.guarded_bind ?_ fun _ => ?_
  · refine Async.guarded_bind orderly_get fun s => ?_
    exact Async.guarded_forEach fun i => orderly_copyTo
  refine Async.guarded_bind (Async.guarded_modify fun _ => .of_eq rfl) fun _ => ?_
  refine Async.guarded_bind Async.guarded_enter fun _ => ?_
  refine Async.guarded_bind Async.guarded_pause fun _ => ?_
  refine Async.guarded_bind orderly_getDocs fun snap => ?_
  refine Async.guarded_bind orderly_get fun s => ?_
  refine Async.guarded_bind Async.guarded_enter fun _ => ?_
  refine Async.guarded_bind orderly_updateReached fun _ => ?_
  exact Async.guarded_spawn orderly_addBroadcastMessage

end Handlers

/-! ## Starting a handler -/

/-- What a user does leaves this in the text fields. -/
structure Leaves (a : Action) (w w' : World) : Prop where
  size : w.chatCtrl.size ≤ w'.chatCtrl.size
  text : ∀ c < w.chatCtrl.size, (w'.chatCtrl.get c).text = a.leaves c (w.chatCtrl.get c).text
  fresh : ∀ c, w.chatCtrl.size ≤ c → c < w'.chatCtrl.size → (w'.chatCtrl.get c).text = ""

section Calls

variable {a : Action} {w w' w'' : World} {ticks : ℕ → Tick} {l : Scope} {c n : ℕ}
  {content text : String} {type : MessageType}

/-- An action that is not about a text field. -/
theorem Still.leaves (h : Still w w') (ha : ∀ c text, a.leaves c text = text) : Leaves a w w' :=
  ⟨h.size, fun c hc => (h.text c hc).trans (ha c _).symm, h.fresh⟩

/-- The text fields are not changed afterwards. -/
theorem Leaves.still (h : Leaves a w w') (h' : Still w' w'') : Leaves a w w'' where
  size := h.size.trans h'.size
  text c hc := (h'.text c (Nat.lt_of_lt_of_le hc h.size)).trans (h.text c hc)
  fresh c hc := h'.fresh_after (h.fresh c hc)

/-- No screen opens. -/
theorem Leaves.of_size (hsize : w'.chatCtrl.size = w.chatCtrl.size)
    (htext : ∀ c, (w'.chatCtrl.get c).text = a.leaves c (w.chatCtrl.get c).text) : Leaves a w w' := by
  refine ⟨hsize.ge, fun c _ => htext c, fun c hc hc' => ?_⟩
  rw [hsize] at hc'
  exact absurd hc' (Nat.not_lt.mpr hc)

/-- The user types. -/
theorem leaves_edit : Leaves (.edit c text) w
    { w with chatCtrl := w.chatCtrl.modify c fun s => { s with text := text } } := by
  refine .of_size rfl fun c' => ?_
  by_cases hc : c' = c
  · simp [Heap.get_modify, Action.leaves, hc]
  · simp [Heap.get_modify, Action.leaves, hc]

/-- The text field is cleared because its text is being sent. -/
theorem leaves_onSendMessage (h : isBlank content = false) :
    Leaves (.onSendMessage c content type) w
      { w with chatCtrl := (w.chatCtrl.modify c fun s =>
        { s with isLoading := true }).modify c fun s => { s with text := "" } } := by
  refine .of_size rfl fun c' => ?_
  by_cases hc : c' = c
  · simp [Heap.get_modify, Action.leaves, hc, h]
  · simp [Heap.get_modify, Action.leaves, hc]

/-- `onSendMessage` for a content that is not blank, from the time the text field has been
cleared. -/
def afterClear (c : ℕ) (content : String) (type : MessageType) : Call Unit := do
  let chatId ← newChatId c
  let s ← chat c
  Async.enter (.send s.userData.id s.pId chatId)
  dispatch c s chatId content type
  notify c content
  setLoading c false

theorem orderly_afterClear : Orderly (afterClear c content type) := by
  refine Async.guarded_bind orderly_newChatId fun chatId => ?_
  refine Async.guarded_bind orderly_get fun s => ?_
  refine Async.guarded_bind Async.guarded_enter fun _ => ?_
  refine Async.guarded_bind orderly_dispatch fun _ => ?_
  exact Async.guarded_bind orderly_notify fun _ => orderly_setLoading

/-- A handler that changes no text field when it starts. -/
theorem call_orderly {m : Call Unit} (hm : Orderly m) (ha : ∀ c text, a.leaves c text = text) :
    Leaves a w (m.task.run ticks l n w).world ∧
      ∀ th ∈ (m.task.run ticks l n w).threads, th.task.Ready Still cleared := by
  obtain ⟨hworld, hthreads⟩ := hm.task.run Still.refl Still.trans ticks l n w
  exact ⟨hworld.leaves ha, hthreads⟩

/-- A message is sent, which clears the text field at once. The entries it saves clear one as well,
when their answers come, and these are the threads it leaves. -/
theorem call_onSendMessage : Leaves (.onSendMessage c content type) w
      ((onSendMessage c content type).task.run ticks l 0 w).world ∧
    ∀ th ∈ ((onSendMessage c content type).task.run ticks l 0 w).threads,
      th.task.Ready Still cleared := by
  cases hblank : isBlank content with
  | true =>
    have hbody : Orderly (onSendMessage c content type) := by
      refine Async.guarded_bind orderly_get fun s => ?_
      refine Async.guarded_bind Async.guarded_enter fun _ => ?_
      refine Async.guarded_bind orderly_setLoading fun _ => ?_
      rw [hblank, if_pos rfl]
      refine Async.guarded_bind Async.guarded_pure fun _ => ?_
      exact Async.guarded_bind orderly_notify fun _ => orderly_setLoading
    exact call_orderly hbody fun _ _ => if_neg fun h => Bool.noConfusion (hblank.symm.trans h.2)
  | false =>
    -- the world in which the text field has been cleared
    have hrest : ∃ l' w', Leaves (.onSendMessage c content type) w w' ∧
        ((onSendMessage c content type).task.run ticks l 0 w).world =
          ((afterClear c content type).task.run ticks l' 3 w').world ∧
        ((onSendMessage c content type).task.run ticks l 0 w).threads =
          ((afterClear c content type).task.run ticks l' 3 w').threads := by
      have hbody : onSendMessage c content type = (do
          let s ← chat c
          Async.enter (.send s.userData.id s.pId s.chatId)
          setLoading c true
          modifyChat c fun s => { s with text := "" }
          afterClear c content type) := by
        rw [onSendMessage, hblank]
        rfl
      rw [hbody]
      exact ⟨.send (w.chatCtrl.get c).userData.id (w.chatCtrl.get c).pId (w.chatCtrl.get c).chatId,
        _, leaves_onSendMessage hblank, rfl, rfl⟩
    obtain ⟨l', w', hleaves, hw, hths⟩ := hrest
    obtain ⟨hworld, hthreads⟩ := orderly_afterClear.task.run Still.refl Still.trans ticks l' 3 w'
    rw [hw, hths]
    exact ⟨hleaves.still hworld, hthreads⟩

/-- **What a user does**: the text fields hold what the action leaves in them. -/
theorem call_leaves (a : Action) (w : World) (ticks : ℕ → Tick) (l : Scope) :
    Leaves a w (a.body.task.run ticks l 0 w).world ∧
      ∀ th ∈ (a.body.task.run ticks l 0 w).threads, th.task.Ready Still cleared := by
  cases a with
  | edit c text => exact ⟨leaves_edit, fun _ hth => absurd hth List.not_mem_nil⟩
  | onSendMessage c content type => exact call_onSendMessage
  | blockUser c => exact call_orderly orderly_blockUser fun _ _ => rfl
  | sendToBroadcast b content type => exact call_orderly orderly_sendToBroadcast fun _ _ => rfl
  | openChat d chatId data => exact call_orderly orderly_openChat fun _ _ => rfl

end Calls

/-! ## Runs -/

section Runs

variable {w₀ : World} {c₀ conf : Config World Scope} {es : List (Event Action)} {e : Event Action}
  {c : ℕ}

theorem draft_snoc_call {a : Action} {ticks : ℕ → Tick} :
    draft w₀ c (es ++ [.call a ticks]) = a.leaves c (draft w₀ c es) := by
  simp [draft, List.foldl_append]

theorem draft_snoc_resume {i : ℕ} {ticks : ℕ → Tick} :
    draft w₀ c (es ++ [.resume i ticks]) = draft w₀ c es := by
  simp [draft, List.foldl_append]

/-- What every run keeps: the suspended calls clear text fields only where they are resumed, and
nobody has typed where there is no screen. -/
structure Sound (w₀ : World) (es : List (Event Action)) (conf : Config World Scope) : Prop where
  ready : conf.Ready Still cleared
  unborn : ∀ c, conf.world.chatCtrl.size ≤ c → draft w₀ c es = ""

/-- A screen that is not there is not typed into. -/
theorem leaves_unborn {a : Action} {w : World} (ha : a.enabled w) (hc : w.chatCtrl.size ≤ c) :
    a.leaves c "" = "" := by
  cases a with
  | edit c' text =>
    have hlt : c' < w.chatCtrl.size := ha
    exact if_neg (Nat.ne_of_gt (Nat.lt_of_lt_of_le hlt hc))
  | onSendMessage c' content type => exact ite_self _
  | _ => rfl

/-- One event keeps the drafts: a call changes the field as it says, and a call that goes on changes
it only by the clearing it begins with. -/
theorem Sound.step (h : Sound w₀ es conf) (he : typing.admits conf e) :
    Sound w₀ (es ++ [e]) (typing.apply conf e) := by
  cases e with
  | call a ticks =>
    obtain ⟨hleaves, hthreads⟩ := call_leaves a conf.world ticks
      (typing.scope a conf.world)
    refine ⟨fun th hth => (List.mem_append.mp hth).elim (h.ready th) (hthreads th), fun c hc => ?_⟩
    have hc' : conf.world.chatCtrl.size ≤ c := hleaves.size.trans hc
    rw [draft_snoc_call, h.unborn c hc']
    exact leaves_unborn he hc'
  | resume i ticks =>
    obtain ⟨hready, hworld⟩ := typing.apply_resumed Still.refl Still.trans h.ready i ticks
    refine ⟨hready, fun c hc => ?_⟩
    rw [draft_snoc_resume]
    refine h.unborn c (Nat.le_trans ?_ hc)
    rcases hworld with hstill | ⟨_, _, _, _, _, hstill⟩
    · exact hstill.size
    · exact hstill.size

/-- A call that clears a text field does so. -/
theorem text_resumed (h : conf.Ready Still cleared) {i : ℕ} {ticks : ℕ → Tick}
    {th : Thread World Scope} {rest : Task World Scope} (hth : conf.threads[i]? = some th)
    (hbegins : th.task.Begins cleared c rest) (hc : c < conf.world.chatCtrl.size) :
    ((typing.apply conf (.resume i ticks)).world.chatCtrl.get c).text = "" := by
  have hrest := (h th (List.mem_of_getElem? hth)).rest hbegins conf.world
  obtain ⟨hworld, -⟩ := hrest.run Still.refl Still.trans ticks th.scope 1 (cleared c conf.world)
  have htask : th.task = .act (fun _ w => cleared c w) fun _ _ => rest := hbegins
  have happly : (typing.apply conf (.resume i ticks)).world =
      (rest.run ticks th.scope 1 (cleared c conf.world)).world := by
    simp only [System.apply, System.outcome, hth, htask]
    rfl
  rw [happly, hworld.text c hc]
  simp [cleared, Heap.get_modify]

/-- **One event** keeps the drafts just when no save that completes finds one. -/
theorem kept_step (h : Sound w₀ es conf) (hkept : Kept w₀ es conf.world)
    (he : typing.admits conf e) :
    Careful conf e ↔ Kept w₀ (es ++ [e]) (typing.apply conf e).world := by
  cases e with
  | call a ticks =>
    obtain ⟨hleaves, -⟩ := call_leaves a conf.world ticks
      (typing.scope a conf.world)
    refine ⟨fun _ c hc => ?_, fun _ => trivial⟩
    rw [draft_snoc_call]
    by_cases hold : c < conf.world.chatCtrl.size
    · exact (hleaves.text c hold).trans (congrArg (a.leaves c) (hkept c hold))
    · have hc' := Nat.le_of_not_lt hold
      rw [h.unborn c hc', leaves_unborn he hc']
      exact hleaves.fresh c hc' hc
  | resume i ticks =>
    constructor
    · intro hcareful c hc
      rw [draft_snoc_resume]
      -- a text field that is cleared was empty
      have hcleared : ∃ w', Still w' (typing.apply conf (.resume i ticks)).world ∧
          w'.chatCtrl.size = conf.world.chatCtrl.size ∧ ∀ c < conf.world.chatCtrl.size,
            (w'.chatCtrl.get c).text = (conf.world.chatCtrl.get c).text := by
        rcases (typing.apply_resumed Still.refl Still.trans h.ready i ticks).2 with
          hstill | ⟨th, c', rest, hth, hbegins, hstill⟩
        · exact ⟨_, hstill, rfl, fun _ _ => rfl⟩
        · refine ⟨_, hstill, rfl, fun c hc => ?_⟩
          by_cases hcc : c = c'
          · subst hcc
            rw [hcareful th c rest hth hbegins hc]
            simp [cleared, Heap.get_modify]
          · simp [cleared, Heap.get_modify, hcc]
      obtain ⟨w', hstill, hsize, htext⟩ := hcleared
      by_cases hold : c < conf.world.chatCtrl.size
      · rw [hstill.text c (hsize ▸ hold), htext c hold]
        exact hkept c hold
      · have hc' := Nat.le_of_not_lt hold
        rw [h.unborn c hc']
        exact hstill.fresh c (hsize ▸ hc') hc
    · intro hkept' th c rest hth hbegins hc
      have hsize : c < (typing.apply conf (.resume i ticks)).world.chatCtrl.size := by
        rcases (typing.apply_resumed Still.refl Still.trans h.ready i ticks).2 with
          hstill | ⟨_, _, _, _, _, hstill⟩
        · exact Nat.lt_of_lt_of_le hc hstill.size
        · exact Nat.lt_of_lt_of_le hc hstill.size
      have hdraft := hkept' c hsize
      rw [draft_snoc_resume, text_resumed h.ready hth hbegins hc] at hdraft
      rw [hkept c hc, ← hdraft]

theorem Sound.run (hc₀ : c₀.threads = []) (h : typing.Run typing.admits c₀ es conf) :
    Sound c₀.world es conf := by
  induction h with
  | nil =>
    refine ⟨fun th hth => ?_, fun c hc => if_neg (Nat.not_lt.mpr hc)⟩
    rw [hc₀] at hth
    exact absurd hth List.not_mem_nil
  | snoc _ e he ih => exact ih.step he

/-- **When no draft is lost.** In a run of any number of chats, in which users type, send, block and
broadcast, every text field holds at all times what its user has left in it just when no save that
completes finds a text in its chat's text field. -/
theorem draft_kept_iff (hc₀ : c₀.threads = []) (h : typing.Run typing.admits c₀ es conf) :
    typing.Allowed Careful c₀ es ↔
      ∀ es₁, es₁ <+: es → Kept c₀.world es₁ (typing.exec c₀ es₁).world := by
  induction h with
  | nil =>
    refine iff_of_true trivial fun es₁ hes₁ => ?_
    obtain rfl := List.prefix_nil.mp hes₁
    exact fun c hc => (if_pos hc).symm
  | @snoc es conf hrun e he ih =>
    have hsound := Sound.run hc₀ hrun
    have hlast : typing.exec c₀ (es ++ [e]) = typing.apply conf e := by
      rw [System.exec_append, ← hrun.exec_eq]
      rfl
    constructor
    · intro hallowed
      obtain ⟨hes, hcareful, -⟩ := System.allowed_append.mp hallowed
      have hkept := ih.mp hes
      intro es₁ hes₁
      -- the run itself, or one of its earlier prefixes
      rcases List.prefix_concat_iff.mp hes₁ with rfl | hes₁
      · rw [hlast]
        refine (kept_step hsound ?_ he).mp (hrun.exec_eq ▸ hcareful)
        rw [hrun.exec_eq]
        exact hkept es (List.prefix_refl es)
      · exact hkept es₁ hes₁
    · intro hkept
      have hes := ih.mpr fun es₁ hes₁ => hkept es₁ (hes₁.trans (List.prefix_append es [e]))
      refine System.allowed_append.mpr ⟨hes, ?_, trivial⟩
      rw [← hrun.exec_eq]
      refine (kept_step hsound ?_ he).mpr ?_
      · rw [hrun.exec_eq]
        exact hkept es (List.prefix_append es [e])
      · rw [← hlast]
        exact hkept (es ++ [e]) (List.prefix_refl _)

end Runs

/-! ## Two drafts -/

/-- Alice has a chat with Bob open, and nothing is stored yet. -/
def opened : World :=
  { World.initial fun _ => ⟨"alice", "Alice", "1", ""⟩ with
    chatCtrl := Heap.empty.alloc {
      device := 0, userData := ⟨"alice", "Alice", "1", ""⟩
      userContactModel := ⟨"bob", "Bob", "2", "", true⟩
      pId := "bob", pName := "Bob", chatId := "0"
      pData := some (.ofList [(.id, .str "bob"), (.pushToken, .str "")]) }
    currentChat := fun _ => some 0 }

/-- Every operation succeeds. -/
def succeeds (_ : ℕ) : Tick := ⟨5000, 0, false⟩

/-- Alice types a text and sends it. -/
def sends : List (Event Action) :=
  [.call (.edit 0 "hi") succeeds, .call (.onSendMessage 0 "hi" .text) succeeds]

/-- The message is saved. -/
def saves (n : ℕ) : List (Event Action) := List.replicate n (.resume 0 succeeds)

/-- Alice types the next text. -/
def types : List (Event Action) := [.call (.edit 0 "bye") succeeds]

theorem allowed_saves : typing.Allowed Careful (typing.exec ⟨opened, [], []⟩ sends) (saves 22) := by
  refine System.allowed_replicate fun k hk _ c _ _ _ hc => ?_
  -- nothing has been typed since the text was sent
  have hempty : ∀ k < 22, ((typing.exec (typing.exec ⟨opened, [], []⟩ sends)
      (List.replicate k (.resume 0 succeeds))).world.chatCtrl.size = 1 ∧
      ((typing.exec (typing.exec ⟨opened, [], []⟩ sends)
        (List.replicate k (.resume 0 succeeds))).world.chatCtrl.get 0).text = "") := by
    decide +kernel
  obtain ⟨hsize, htext⟩ := hempty k hk
  rw [hsize] at hc
  obtain rfl := Nat.lt_one_iff.mp hc
  exact htext

/-- Alice types the next text when the first has been saved. -/
theorem draft_kept_bye : Kept opened (sends ++ saves 22 ++ types)
    (typing.exec ⟨opened, [], []⟩ (sends ++ saves 22 ++ types)).world := by
  have hallowed : typing.Allowed typing.admits ⟨opened, [], []⟩ (sends ++ saves 22 ++ types) := by
    decide +kernel
  refine (draft_kept_iff rfl (System.run_exec hallowed)).mp ?_ _ (List.prefix_refl _)
  refine System.allowed_append.mpr ⟨System.allowed_append.mpr ⟨?_, allowed_saves⟩, ?_⟩
  · exact ⟨trivial, trivial, trivial⟩
  · exact ⟨trivial, trivial⟩

/-- **A draft is lost**: Alice types the next text while the first is being saved, and the text
field is cleared. -/
theorem draft_cleared : ¬ ∀ {c₀ conf : Config World Scope} {es : List (Event Action)},
    c₀.threads = [] → typing.Run typing.admits c₀ es conf → Kept c₀.world es conf.world := by
  intro hclaim
  have hallowed : typing.Allowed typing.admits ⟨opened, [], []⟩ (sends ++ types ++ saves 6) := by
    decide +kernel
  have hkept := hclaim rfl (System.run_exec hallowed) 0 (by decide +kernel)
  exact absurd hkept (by decide +kernel)

end FlutterTheme.Drafts
