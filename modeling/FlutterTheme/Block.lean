import FlutterTheme.Clients
import FlutterTheme.Ends

/-!
# What a block does not prevent

`Blocks w a b` — the last `blockUser` of `a` towards `b` was a block. `Enforced`
says what a block is for: the handlers of a blocked sender show, file and notify
nothing, and the blocking user cannot send either.

`onSendMessage` decides on `allData`, and nothing ever loads it: `getChatData`
only logs the entry it has found. So no block keeps out anything: whatever is sent
between the two users while a block of either stands is stored and shown, filed and
notified, in every order of steps in which the send is carried on
(`block_never_enforced`).
-/

namespace FlutterTheme

open EventLoop DocStore

variable {w w₀ w₁ w' : World} {l : Scope} {a b u p cid content x : String} {type : MessageType}

/-! ## Blocks -/

/-- The last call of `blockUser` by `a` towards `b` was a block. -/
def Blocks (w : World) (a b : String) : Prop :=
  (w.blockLog.find? fun x => x.blocker = a ∧ x.blocked = b).map BlockAction.block = some true

instance (w : World) (a b : String) : Decidable (Blocks w a b) :=
  inferInstanceAs (Decidable (_ = _))

/-- One action of a handler respects the blocks that stand when it happens. -/
structure Enforced (st : Step World Scope) : Prop where
  /-- a blocked sender adds no message that the screen of `a` shows -/
  messages : ∀ a b cid, Blocks st.before a b → st.scope = .send b a cid →
    ∀ chatId, ∀ d ∈ st.after.store.docs (.messages chatId),
      buildItem d.data a = some .receiverMessage → d ∈ st.before.store.docs (.messages chatId)
  /-- a blocked sender leaves the inbox of `a` as it is -/
  entries : ∀ a b cid, Blocks st.before a b → st.scope = .send b a cid →
    st.after.store.docs (.chats a) = st.before.store.docs (.chats a)
  /-- a blocked sender does not notify `a` -/
  notifications : ∀ a b cid, Blocks st.before a b → st.scope = .send b a cid →
    st.after.notifications = st.before.notifications
  /-- a message of `a` to somebody `a` blocks is refused -/
  refused : ∀ a b cid, Blocks st.before a b → st.scope = .send a b cid →
    st.after.store = st.before.store ∧ st.after.notifications = st.before.notifications

/-- Every action of a segment respects the blocks. -/
def StepsEnforced (o : Outcome World Scope) : Prop := ∀ st ∈ o.steps, Enforced st

/-! ## Blocks are not lifted -/

/-- The blocks that stand in `w` stand in `w'`. -/
def Standing (w w' : World) : Prop := ∀ a b, Blocks w a b → Blocks w' a b

theorem Standing.of_blockLog (h : w'.blockLog = w.blockLog) : Standing w w' := by
  intro a b hblock
  rwa [Blocks, h]

/-- An action that enters a block in the history lifts none. -/
theorem Standing.of_cons {x : BlockAction} (hx : x.block = true)
    (h : w'.blockLog = x :: w.blockLog) : Standing w w' := by
  intro a b hblock
  rw [Blocks, h, List.find?_cons]
  split
  · exact congrArg some hx
  · exact hblock

/-- The flag that selects unblocking is never set, so no action of a handler lifts a block. -/
theorem Effect.standing {π : Terms} (h : Effect π l w w') : Standing w w' := by
  cases h with
  | screens _ _ blockLog _ => exact .of_blockLog blockLog
  | mint _ _ _ blockLog _ => exact .of_blockLog blockLog
  | block _ _ _ blocks => exact .of_cons blocks rfl
  | notify | write => exact .of_blockLog rfl

/-- The blocks, on top of what the handlers of all clients rely on and guarantee. -/
def blocksStand : Strengthening (clientProtocol freely) where
  rely := Standing
  inv _ := True
  step _ _ _ := True
  rely_refl _ _ _ h := h
  rely_trans h h' a b hblock := h' a b (h a b hblock)
  step_refl _ _ := trivial
  of_step _ _ hstep := ⟨Effect.standing hstep, trivial, trivial⟩

/-- What the handlers rely on and guarantee, with the blocks. -/
abbrev blockProtocol : Protocol World Scope := (clientProtocol freely).strengthen blocksStand

theorem rely_store {s : Store Path Key Value}
    (h : ∀ u, Store.Keeps entryIds (.chats u) w.store s) :
    blockProtocol.rely w { w with store := s } :=
  ⟨.of_store h, .of_blockLog rfl⟩

theorem rely_modifyChat {i : ℕ} {f : ChatController → ChatController}
    (h : (w.chatCtrl.get i).Later (f (w.chatCtrl.get i))) :
    blockProtocol.rely w { w with chatCtrl := w.chatCtrl.modify i f } :=
  ⟨.of_chat (Heap.evolves_modify ChatController.Later.refl _ _ h) _, .of_blockLog rfl⟩

theorem rely_assignChatId (i : ℕ) (t : Tick) : blockProtocol.rely w (assignChatId i t w).2 := by
  refine ⟨evolves_assignChatId i t, .of_blockLog ?_⟩
  simp only [assignChatId]
  split <;> rfl

/-! ## What a message does -/

/-- The action adds a message of `u`, which the screen of `p` shows. -/
def AddsShown (u p cid content : String) (type : MessageType) (w w' : World) : Prop :=
  ∃ pos d, w'.store = w.store.add (.messages cid) pos d ∧ d .sender = some (.str u) ∧
    d .content = some (.str content) ∧ d .isBlock = some (.bool false) ∧
    (type ≠ .messageType → buildItem d p = some .receiverMessage)

/-- The action writes the entry of `p` for the conversation. -/
def FilesEntry (u p cid content : String) (w w' : World) : Prop :=
  ∃ d : Data, d .chatId = some (.str cid) ∧ d .senderId = some (.str u) ∧
    d .lastMessage = some (.str content) ∧ d .isBlock = some (.bool false) ∧
    ((∃ pos, w'.store = w.store.add (.chats p) pos d) ∨
      ∃ doc ∈ w.store.docs (.chats p), doc.data .chatId = some (.str cid) ∧
        w'.store = w.store.update (.chats p) doc.id d)

/-- The action sends a push notification to `p`. -/
def SendsPush (p content : String) (w w' : World) : Prop :=
  ∃ n, n.msg = content ∧ n.pId = some p ∧ w'.notifications = n :: w.notifications

/-- The peer's user document is loaded on the screen, with a push token that is not empty. -/
def HasToken (i : ℕ) (w : World) : Prop :=
  ∃ d, (w.chatCtrl.get i).pData = some d ∧ d .pushToken ≠ some (.str "")

/-- In the scope of a message of `u` to `p`, while all blocks of `w₀` stand. -/
def OnTheWay (w₀ : World) (u p cid : String) (l : Scope) (w : World) : Prop :=
  l = .send u p cid ∧ Standing w₀ w

/-- A message of `u` to `p` that is sent in the world `w` from the screen `i` goes through,
whatever is blocked. -/
structure GoesThrough (w : World) (i : ℕ) (u p content : String) (type : MessageType)
    (steps : List (Step World Scope)) : Prop where
  /-- it is stored, and the screen of `p` shows it -/
  stored : isBlank content = false → ∃ st ∈ steps, ∃ cid,
    OnTheWay w u p cid st.scope st.before ∧ AddsShown u p cid content type st.before st.after
  /-- it is filed in the inbox of `p` -/
  filed : isBlank content = false → ∃ st ∈ steps, ∃ cid,
    OnTheWay w u p cid st.scope st.before ∧ FilesEntry u p cid content st.before st.after
  /-- `p` is notified, even of a blank message -/
  notified : (∀ st ∈ steps, HasToken i st.before) → ∃ st ∈ steps, ∃ cid,
    OnTheWay w u p cid st.scope st.before ∧ SendsPush p content st.before st.after
  /-- the block is not enforced -/
  broken : isBlank content = false → type ≠ .messageType → ∃ st ∈ steps, ¬ Enforced st

/-- A call for a message of `u` to `p` takes such an action. -/
def taking (w₀ : World) (u p : String) (act : String → World → World → Prop) :
    Goal blockProtocol where
  reached _ := False
  taken l w w' := ∃ cid, OnTheWay w₀ u p cid l w ∧ act cid w w'
  scope l := ∃ cid, l = .send u p cid
  stable _ h := h

/-- A message that is stored with `isBlock` false is drawn on the screen of whoever it is not from,
as a message received, whatever blocks there are. -/
theorem buildItem_messageFields {stamp : String} (hne : u ≠ p) (htype : type ≠ .messageType) :
    buildItem (messageFields stamp u (.str p) content cid type false) p =
      some .receiverMessage := by
  have hname : type.name ≠ MessageType.messageType.name := by
    cases type <;> first | exact absurd rfl htype | decide
  have hsender : ¬ Value.str u = .str p := fun h => hne (Value.str.inj h)
  have hblock : ¬ Value.bool false = .bool true := by decide
  change (if Value.str u = .str p then some Item.senderMessage
    else if Value.str type.name = .str MessageType.messageType.name then some .container
    else some (if Value.bool false = .bool true then .container else .receiverMessage)) = _
  rw [if_neg hsender, if_neg fun h => hname (Value.str.inj h), if_neg hblock]

section Reaches

variable {g : Goal blockProtocol} {Q : Scope → Unit → World → Prop} {i : ℕ} {s : ChatController}

theorem passes_getDocs {p : Path} {q : Data → Bool} {Q : Scope → List Document → World → Prop}
    (hl : g.scope l)
    (h : ∀ w₁ w₂, blockProtocol.rely w w₁ → blockProtocol.rely w₁ w₂ →
      Q l (w₁.store.query p q) w₂) : (getDocs p q).Reaches g l w Q :=
  Async.reaches_remote hl fun w₁ hw₁ _ _ w₂ hw₂ _ => h w₁ w₂ hw₁ hw₂

theorem passes_modifyChat {f : ChatController → ChatController}
    (hf : ∀ s, ChatController.Later s (f s)) (h : ∀ w', blockProtocol.rely w w' → Q l () w') :
    (modifyChat i f).Reaches g l w Q :=
  Async.reaches_sync fun _ => h _ (rely_modifyChat (hf _))

theorem passes_setLoading {isLoading : Bool} (h : ∀ w', blockProtocol.rely w w' → Q l () w') :
    (setLoading i isLoading).Reaches g l w Q :=
  passes_modifyChat (fun _ => ⟨rfl, rfl, fun _ => rfl⟩) h

theorem passes_clearInput {o : Option ℕ} (h : ∀ w', blockProtocol.rely w w' → Q l () w') :
    (clearInput o).Reaches g l w Q := by
  cases o with
  | none => exact Async.reaches_pure (h _ (blockProtocol.rely_refl w))
  | some i => exact passes_modifyChat (fun _ => ⟨rfl, rfl, fun _ => rfl⟩) h

theorem passes_add {p : Path} {d : Data} (hl : g.scope l)
    (h : ∀ w', blockProtocol.rely w w' → Q l () w') : (add p d).Reaches g l w Q := by
  refine Async.reaches_remote hl fun w₁ hw₁ _ t w₂ hw₂ _ => h w₂ ?_
  have hadd : blockProtocol.rely w₁ { w₁ with store := w₁.store.add p t.pos d } :=
    rely_store fun _ => Store.keeps_add
  exact blockProtocol.rely_trans hw₁ (blockProtocol.rely_trans hadd hw₂)

/-- An update of an inbox entry that was found by its conversation goes through: the document is
still there when the request is answered, and its conversation is the same. -/
theorem passes_update {id : DocId} {fields : Data} (hl : g.scope l)
    (hthere : ∃ d ∈ w.store.docs (.chats x), d.id = id)
    (hfound : ∀ w', w.Evolves w' → ∀ d ∈ w'.store.docs (.chats x), d.id = id →
      entryIds (d.data.merge fields) = entryIds d.data)
    (h : ∀ w', blockProtocol.rely w w' → Q l () w') :
    (update (.chats x) id fields).Reaches g l w Q := by
  refine Async.reaches_bind (Async.reaches_remote hl fun w₁ hw₁ _ t w₂ hw₂ _ => ?_)
  obtain ⟨d, hd, rfl⟩ := hthere
  obtain ⟨d₁, hd₁, hid₁, -⟩ := hw₁.1.entries x d hd
  have hthere₁ : (w₁.store.doc? (.chats x) d.id).isSome = true := by
    rw [Store.doc?, List.find?_isSome]
    exact ⟨d₁, hd₁, by simpa using hid₁⟩
  rw [if_pos hthere₁]
  have hupdate : blockProtocol.rely w₁
      { w₁ with store := w₁.store.update (.chats x) d.id fields } := by
    refine rely_store fun y => Store.keeps_update ?_
    rintro hxy d' hd' hid
    cases hxy
    exact hfound w₁ hw₁.1 d' hd' hid
  exact Async.reaches_pure
    (h w₂ (blockProtocol.rely_trans hw₁ (blockProtocol.rely_trans hupdate hw₂)))

/-- What was found by the conversation `cid` is there, and belongs to it. -/
structure FoundBy (x cid : String) (docs : List Document) (w : World) : Prop where
  there : ∀ d ∈ docs, ∃ d' ∈ w.store.docs (.chats x), d'.id = d.id
  chatId : ∀ d ∈ docs, ∀ w', w.Evolves w' → ∀ d' ∈ w'.store.docs (.chats x), d'.id = d.id →
    d'.data .chatId = some (.str cid)

theorem foundBy_query (x cid : String) (hw : w.Evolves w') :
    FoundBy x cid (w.store.query (.chats x) (Fields.isEqualTo .chatId (.str cid))) w' := by
  refine ⟨fun d hd => ?_, found_query (by simp) hw⟩
  obtain ⟨d', hd', hid, -⟩ := hw.entries x d ((Store.mem_query _).mp hd).1
  exact ⟨d', hd', hid⟩

theorem FoundBy.later {docs : List Document} (h : FoundBy x cid docs w) (hw : w.Evolves w') :
    FoundBy x cid docs w' := by
  refine ⟨fun d hd => ?_, fun d hd w'' hw' => h.chatId d hd w'' (hw.trans hw')⟩
  obtain ⟨d', hd', hid⟩ := h.there d hd
  obtain ⟨d'', hd'', hid', -⟩ := hw.entries x d' hd'
  exact ⟨d'', hd'', hid'.trans hid⟩

/-- `saveMessageInUserCollection` goes on to its end. -/
theorem passes_save {d : ℕ} (hl : g.scope l) (h : ∀ w', blockProtocol.rely w w' → Q l () w') :
    (saveMessageInUserCollection d x (.str p) cid content u false false).Reaches g l w Q := by
  refine Async.reaches_bind (Async.reaches_sync fun _ => ?_)
  refine Async.reaches_bind (passes_getDocs hl fun w₁ w₂ hw₁ hw₂ => ?_)
  refine Async.reaches_bind (Async.reaches_sync fun t => Async.reaches_bind ?_)
  have hend : ∀ w₃, blockProtocol.rely w₂ w₃ →
      (clearInput (w.currentChat d)).Reaches g l w₃ Q := fun w₃ hw₃ =>
    passes_clearInput fun w₄ hw₄ => h w₄ (blockProtocol.rely_trans hw₁
      (blockProtocol.rely_trans hw₂ (blockProtocol.rely_trans hw₃ hw₄)))
  have hfound := foundBy_query x cid hw₂.1
  cases hdocs : w₁.store.query (.chats x) (Fields.isEqualTo .chatId (.str cid)) with
  | nil => exact passes_add hl hend
  | cons doc docs =>
    rw [hdocs] at hfound
    refine passes_update hl (hfound.there doc (List.mem_cons_self ..)) ?_ hend
    intro w₃ hw₃ d' hd' hid
    have hcid := hfound.chatId doc (List.mem_cons_self ..) w₃ hw₃ d' hd' hid
    simp only [entryIds, Prod.mk.injEq]
    exact ⟨hcid.symm, rfl, rfl⟩

/-- `saveMessageInUserCollection` files the message with the peer: in the entry that is found, or in
a new one where there is none. -/
theorem files_save {d : ℕ} (hw₀ : Standing w₀ w) :
    (saveMessageInUserCollection d p (.str p) cid content u false false).Reaches
      (taking w₀ u p (FilesEntry u p · content)) (.send u p cid) w Q := by
  refine Async.reaches_bind (Async.reaches_sync fun _ => ?_)
  refine Async.reaches_bind (passes_getDocs ⟨cid, rfl⟩ fun w₁ w₂ hw₁ hw₂ => ?_)
  refine Async.reaches_bind (Async.reaches_sync fun t => Async.reaches_bind ?_)
  have hstand : ∀ w₃, blockProtocol.rely w₂ w₃ → Standing w₀ w₃ := fun w₃ hw₃ a b h =>
    hw₃.2 a b (hw₂.2 a b (hw₁.2 a b (hw₀ a b h)))
  have hfound := foundBy_query p cid hw₂.1
  cases hdocs : w₁.store.query (.chats p) (Fields.isEqualTo .chatId (.str cid)) with
  | nil =>
    refine Async.reaches_remote_taken ⟨cid, rfl⟩ fun w₃ hw₃ _ t => ?_
    exact ⟨cid, ⟨rfl, hstand w₃ hw₃⟩, _, rfl, rfl, rfl, rfl, Or.inl ⟨t.pos, rfl⟩⟩
  | cons doc docs =>
    rw [hdocs] at hfound
    refine Async.reaches_bind (Async.reaches_remote_taken ⟨cid, rfl⟩ fun w₃ hw₃ _ t => ?_)
    obtain ⟨d₃, hd₃, hid⟩ := (hfound.later hw₃.1).there doc (List.mem_cons_self ..)
    have hcid := hfound.chatId doc (List.mem_cons_self ..) w₃ hw₃.1 d₃ hd₃ hid
    rw [← hid]
    exact ⟨cid, ⟨rfl, hstand w₃ hw₃⟩, _, rfl, rfl, rfl, rfl, Or.inr ⟨d₃, hd₃, hcid, rfl⟩⟩

/-- The message is stored and both entries are written. -/
theorem passes_deliver (hl : g.scope l) (h : ∀ w', blockProtocol.rely w w' → Q l () w') :
    (deliver i s cid content type).Reaches g l w Q := by
  refine Async.reaches_bind (Async.reaches_bind (Async.reaches_sync fun t => ?_))
  refine passes_add hl fun w₁ hw₁ => Async.reaches_bind (passes_setLoading fun w₂ hw₂ => ?_)
  refine Async.reaches_bind (passes_save hl fun w₃ hw₃ => ?_)
  refine Async.reaches_bind (passes_save hl fun w₄ hw₄ => ?_)
  refine passes_setLoading fun w₅ hw₅ => h w₅ ?_
  have hw₁₃ := blockProtocol.rely_trans hw₁ (blockProtocol.rely_trans hw₂ hw₃)
  exact blockProtocol.rely_trans hw₁₃ (blockProtocol.rely_trans hw₄ hw₅)

theorem adds_deliver (hu : s.userData.id = u) (hp : s.pId = p) (hne : u ≠ p)
    (hw₀ : Standing w₀ w) :
    (deliver i s cid content type).Reaches (taking w₀ u p (AddsShown u p · content type))
      (.send u p cid) w Q := by
  subst hu hp
  refine Async.reaches_bind (Async.reaches_bind (Async.reaches_sync fun t => ?_))
  refine Async.reaches_remote_taken ⟨cid, rfl⟩ fun w₁ hw₁ _ t => ?_
  refine ⟨cid, ⟨rfl, fun a b h => hw₁.2 a b (hw₀ a b h)⟩, t.pos, _, rfl, rfl, rfl, rfl, ?_⟩
  exact buildItem_messageFields hne

/-- `deliver` files the message with the peer in its second save; the first one, of the sender's own
entry, leaves the blocks standing. -/
theorem files_deliver (hu : s.userData.id = u) (hp : s.pId = p) (hw₀ : Standing w₀ w) :
    (deliver i s cid content type).Reaches (taking w₀ u p (FilesEntry u p · content))
      (.send u p cid) w Q := by
  subst hu hp
  refine Async.reaches_bind (Async.reaches_bind (Async.reaches_sync fun t => ?_))
  refine passes_add ⟨cid, rfl⟩ fun w₁ hw₁ => ?_
  refine Async.reaches_bind (passes_setLoading fun w₂ hw₂ => ?_)
  refine Async.reaches_bind (passes_save ⟨cid, rfl⟩ fun w₃ hw₃ => ?_)
  refine Async.reaches_bind (files_save fun a b h => ?_)
  exact hw₃.2 a b (hw₂.2 a b (hw₁.2 a b (hw₀ a b h)))

theorem allData_assignChatId (i : ℕ) (t : Tick) (w : World) :
    ((assignChatId i t w).2.chatCtrl.get i).allData = (w.chatCtrl.get i).allData := by
  by_cases h0 : (w.chatCtrl.get i).chatId = "0"
  · simp only [assignChatId, if_pos h0, Heap.get_modify, if_true]
  · simp only [assignChatId, if_neg h0]

/-- `send` comes to deliver the message, in the scope of its conversation: with `allData` unset
neither of the branches for a blocked conversation is taken. -/
theorem passes_send (hi : i < w.chatCtrl.size) (hall : (w.chatCtrl.get i).allData = none)
    (hu : (w.chatCtrl.get i).userData.id = u) (hp : (w.chatCtrl.get i).pId = p)
    (h : ∀ s cid w', s.userData.id = u → s.pId = p → blockProtocol.rely w w' →
      (do deliver i s cid content type; Async.spawn (getChatData i) : Call Unit).Reaches g
        (.send u p cid) w' Q) :
    (send i content type).Reaches g l w Q := by
  have hw₁ : blockProtocol.rely w
      { w with chatCtrl := w.chatCtrl.modify i fun s => { s with text := "" } } :=
    rely_modifyChat ⟨rfl, rfl, fun _ => rfl⟩
  have hall₁ : ((w.chatCtrl.modify i fun s => { s with text := "" }).get i).allData = none := by
    rw [Heap.get_modify, if_pos rfl]
    exact hall
  refine Async.reaches_bind (Async.reaches_sync fun _ => ?_)
  refine Async.reaches_bind (Async.reaches_sync fun t => Async.reaches_bind ?_)
  refine Async.reaches_sync fun _ => Async.reaches_bind (Async.reaches_enter ?_)
  have hw₂ := blockProtocol.rely_trans hw₁ (rely_assignChatId i t)
  have hall₂ : ((assignChatId i t { w with
      chatCtrl := w.chatCtrl.modify i fun s => { s with text := "" } }).2.chatCtrl.get i).allData =
      none := (allData_assignChatId i t _).trans hall₁
  have hlater := hw₂.1.chat.2 i hi
  simp only [dispatch, hall₂]
  refine Async.reaches_bind (passes_setLoading fun w₃ hw₃ => ?_)
  have hu₂ := (congrArg UserData.id hlater.userData).trans hu
  have hp₂ := hlater.pId.trans hp
  have hend := h _ (assignChatId i t { w with
    chatCtrl := w.chatCtrl.modify i fun s => { s with text := "" } }).1 w₃ hu₂ hp₂
    (blockProtocol.rely_trans hw₂ hw₃)
  rw [← hu₂, ← hp₂] at hend
  exact hend

/-- A push notification is sent, if the peer is known with a token. -/
theorem pushes_notify (hp : (w.chatCtrl.get i).pId = p) (hw₀ : Standing w₀ w) :
    (notify i content).Reaches
      (taking w₀ u p fun _ w w' => HasToken i w → SendsPush p content w w') (.send u p cid) w
      Q := by
  by_cases htoken : HasToken i w
  · obtain ⟨d, hd, hpush⟩ := htoken
    refine Async.reaches_bind (Async.reaches_sync fun _ => ?_)
    simp only [hd, if_neg hpush]
    refine Async.reaches_spawn_ends (Async.Reaches.ends (Async.reaches_bind ?_))
    refine Async.reaches_attempt_taken ⟨cid, rfl⟩ fun w₁ hw₁ _ _ => ?_
    refine ⟨cid, ⟨rfl, fun a b h => hw₁.2 a b (hw₀ a b h)⟩, fun _ => ⟨_, rfl, ?_, rfl⟩⟩
    exact congrArg some hp
  · refine Async.reaches_bind (Async.reaches_sync_taken fun _ => ?_)
    exact ⟨cid, ⟨rfl, hw₀⟩, fun h => absurd h htoken⟩

/-! ## The whole call -/

/-- `onSendMessage` comes to the test of the content with `allData` unset, since nothing ever sets
it; what is left is to be shown of the rest. -/
theorem ends_onSendMessage (hc : Consistent w) (hi : i < w.chatCtrl.size)
    (h : ∀ w', blockProtocol.rely w w' → (w'.chatCtrl.get i).allData = none →
      (do (if isBlank content then pure () else send i content type)
          notify i content
          setLoading i false : Call Unit).Reaches g
        (.send (w.chatCtrl.get i).userData.id (w.chatCtrl.get i).pId (w.chatCtrl.get i).chatId) w'
        fun _ _ _ => False) :
    (onSendMessage i content type).task.Ends g l w := by
  have hw₁ : blockProtocol.rely w
      { w with chatCtrl := w.chatCtrl.modify i fun s => { s with isLoading := true } } :=
    rely_modifyChat ⟨rfl, rfl, fun _ => rfl⟩
  refine Async.Reaches.ends (Async.reaches_bind (Async.reaches_sync fun _ => ?_))
  refine Async.reaches_bind (Async.reaches_enter (Async.reaches_bind ?_))
  refine Async.reaches_sync fun _ => Async.Reaches.mono (h _ hw₁ ?_) fun _ _ _ => False.elim
  rw [Heap.get_modify, if_pos rfl]
  exact (hc.chat i hi).allData

/-- A content that is not blank comes to be delivered, under the scope of the screen's two users,
whoever of the two has blocked the other. -/
theorem ends_of_deliver (hc : Consistent w) (hi : i < w.chatCtrl.size)
    (hu : (w.chatCtrl.get i).userData.id = u) (hp : (w.chatCtrl.get i).pId = p)
    (hblank : isBlank content = false)
    (h : ∀ s cid w', s.userData.id = u → s.pId = p → Standing w w' →
      (deliver i s cid content type).Reaches g (.send u p cid) w' fun _ _ _ => False) :
    (onSendMessage i content type).task.Ends g l w := by
  refine ends_onSendMessage hc hi fun w₁ hw₁ hall => ?_
  have hi₁ := lt_of_lt_of_le hi hw₁.1.chat.1
  have hlater := hw₁.1.chat.2 i hi
  rw [hblank, if_neg Bool.false_ne_true]
  refine Async.reaches_bind (Async.Reaches.mono (passes_send (Q := fun _ _ _ => False) hi₁ hall
    ((congrArg UserData.id hlater.userData).trans hu) (hlater.pId.trans hp) ?_)
      fun _ _ _ => False.elim)
  intro s cid w₂ hs hp hw₂
  have hstand : Standing w w₂ := fun a b hblock => hw₂.2 a b (hw₁.2 a b hblock)
  exact Async.reaches_bind (Async.Reaches.mono (h s cid w₂ hs hp hstand) fun _ _ _ => False.elim)

/-- The peer is notified, whatever the content. -/
theorem ends_of_notify (hc : Consistent w) (hi : i < w.chatCtrl.size)
    (hu : (w.chatCtrl.get i).userData.id = u) (hp : (w.chatCtrl.get i).pId = p) :
    (onSendMessage i content type).task.Ends
      (taking w u p fun _ w' w'' => HasToken i w' → SendsPush p content w' w'') l w := by
  refine ends_onSendMessage hc hi fun w₁ hw₁ hall => Async.reaches_bind ?_
  have hi₁ := lt_of_lt_of_le hi hw₁.1.chat.1
  have hlater := hw₁.1.chat.2 i hi
  have hp₁ := hlater.pId.trans hp
  subst hu hp
  split
  · exact Async.reaches_pure (Async.reaches_bind (pushes_notify hp₁ hw₁.2))
  · refine passes_send hi₁ hall (congrArg UserData.id hlater.userData) hp₁ ?_
    intro s cid w₂ hs hp hw₂
    refine Async.reaches_bind (passes_deliver ⟨cid, rfl⟩ fun w₃ hw₃ => ?_)
    refine Async.reaches_spawn fun w₄ hw₄ _ => Async.reaches_bind (pushes_notify ?_ ?_)
    · have hw₁₄ := blockProtocol.rely_trans hw₂ (blockProtocol.rely_trans hw₃ hw₄)
      exact (hw₁₄.1.chat.2 i hi₁).pId.trans hp₁
    · exact fun a b h => hw₄.2 a b (hw₃.2 a b (hw₂.2 a b (hw₁.2 a b h)))

end Reaches

/-! ## Runs -/

/-- An event at which no operation for a message of `u` to `p` fails. -/
def CarriedOn (u p : String) (c : Clients) (e : Event Action) : Prop :=
  messaging.admits c e ∧ System.Succeeds (fun l => ∃ cid, l = .send u p cid) c e

/-- What is added for a message under a block of one of its two users shows that the block
is not enforced. -/
theorem not_enforced_of_adds {st : Step World Scope} (hscope : st.scope = .send u p cid)
    (hblock : Blocks st.before p u ∨ Blocks st.before u p)
    (hadds : AddsShown u p cid content type st.before st.after) (htype : type ≠ .messageType) :
    ¬ Enforced st := by
  obtain ⟨pos, d, hstore, -, -, -, hshown⟩ := hadds
  intro henforced
  rcases hblock with hblock | hblock
  · have hnew : ⟨.auto st.before.store.next, d⟩ ∈ st.after.store.docs (.messages cid) := by
      rw [hstore]
      exact Store.mem_add.mpr (Or.inl ⟨rfl, rfl⟩)
    have hold := henforced.messages p u cid hblock hscope cid _ hnew (hshown htype)
    exact absurd (st.before.store.fresh _ _ hold _ rfl) (lt_irrefl _)
  · have hsame := (henforced.refused u p cid hblock hscope).1
    rw [hstore] at hsame
    have hnext := congrArg Store.next hsame
    exact absurd hnext (Nat.succ_ne_self _)

variable {session : ℕ → UserData} {es₀ es : List (Event Action)} {c c' : Clients} {i : ℕ}
  {ticks : ℕ → Tick}

theorem provides_blocks {e : Event Action} (hc : c.Kept blockProtocol) (he : messaging.admits c e) :
    messaging.Provides blockProtocol c e := by
  cases e with
  | call a ticks =>
    have hruns : Runs freely a.body .idle c.world := runs_action (fun _ => trivial) hc.inv.1 he
    exact hruns.safe.strengthen blocksStand hc.inv.1 trivial
  | resume i ticks => exact fun _ _ => trivial

theorem kept_blocks (h₀ : messaging.Run messaging.admits (Clients.initial session) es₀ c) :
    c.Kept blockProtocol := by
  have hinitial : (Clients.initial session).Kept blockProtocol :=
    ⟨⟨consistent_initial session, trivial⟩, fun _ hth => absurd hth List.not_mem_nil⟩
  exact h₀.safe hinitial fun _ _ => provides_blocks

/-- **No block is enforced.** A message that is sent while a block of one of the two users stands
goes through: in every run in which it is carried on without a failure to its end, whatever else
happens, it is stored and shown, filed and notified while the block stands. -/
theorem block_never_enforced
    (h₀ : messaging.Run messaging.admits (Clients.initial session) es₀ c)
    (hi : i < c.world.chatCtrl.size) (hu : (c.world.chatCtrl.get i).userData.id = u)
    (hp : (c.world.chatCtrl.get i).pId = p) (hblock : Blocks c.world p u ∨ Blocks c.world u p)
    (ht : ∀ n, (ticks n).fails = false)
    (h : messaging.Run (CarriedOn u p)
      (messaging.apply c (.call (.onSendMessage i content type) ticks)) es c')
    (hset : c'.Settled) :
    GoesThrough c.world i u p content type
      (messaging.moves c (.call (.onSendMessage i content type) ticks :: es)) := by
  have hc : Consistent c.world := Clients.consistent h₀
  have hkept := kept_blocks h₀
  have hprov : messaging.Provides blockProtocol c (.call (.onSendMessage i content type) ticks) :=
    provides_blocks hkept hi
  -- the call is carried on until it takes the action
  have htaken : ∀ act, (onSendMessage i content type).task.Ends (taking c.world u p act) .idle
      c.world → Taken (taking c.world u p act)
        (messaging.moves c (.call (.onSendMessage i content type) ticks :: es)) := by
    intro act hends
    refine (System.Run.taken_or_reached hkept hprov ht hends ?_ h hset).resolve_right id
    exact fun c e hc he => ⟨provides_blocks hc he.1, he.2⟩
  have hstored : isBlank content = false → Taken (taking c.world u p (AddsShown u p · content type))
      (messaging.moves c (.call (.onSendMessage i content type) ticks :: es)) := by
    intro hblank
    refine htaken _ (ends_of_deliver hc hi hu hp hblank fun s cid w' hs hsp hw => ?_)
    exact adds_deliver hs hsp (hu ▸ hp ▸ (hc.chat i hi).peer) hw
  refine ⟨hstored, fun hblank => ?_, fun htoken => ?_, fun hblank htype => ?_⟩
  · refine htaken _ (ends_of_deliver hc hi hu hp hblank fun s cid w' hs hsp hw => ?_)
    exact files_deliver hs hsp hw
  · obtain ⟨st, hst, cid, hway, hpush⟩ := htaken _ (ends_of_notify hc hi hu hp)
    exact ⟨st, hst, cid, hway, hpush (htoken st hst)⟩
  · obtain ⟨st, hst, cid, hway, hadds⟩ := hstored hblank
    refine ⟨st, hst, not_enforced_of_adds hway.1 ?_ hadds htype⟩
    exact hblock.imp (hway.2 p u) (hway.2 u p)

/-- Alice writes to Bob, who opens the chat; then she blocks him. -/
def aliceBlocksBob : List (Event Action) :=
  bothOpen ++ alone 5000 (.onSendMessage 0 "hello" .text) ++
    alone 6000 (.saveContact 1 (contact "alice") true) ++ alone 7000 (.blockUser 0)

theorem allowed_bobWrites : messaging.Allowed (CarriedOn "bob" "alice")
    (messaging.apply (messaging.exec (Clients.initial aliceAndBob) aliceBlocksBob)
      (.call (.onSendMessage 2 "let me in" .text) (clock 8000))) (settle 8000 32) := by
  have hadmits : messaging.Allowed messaging.admits
      (messaging.apply (messaging.exec (Clients.initial aliceAndBob) aliceBlocksBob)
        (.call (.onSendMessage 2 "let me in" .text) (clock 8000))) (settle 8000 32) := by
    decide +kernel
  have himp : ∀ c e, messaging.admits c e → e.Succeeds → CarriedOn "bob" "alice" c e :=
    fun _ _ he hsucc => ⟨he, System.succeeds_of_event hsucc⟩
  exact System.Allowed.imp himp hadmits (Event.succeeds_replicate fun _ => rfl)

/-- Bob writes to Alice after she has blocked him. -/
theorem block_never_enforced_aliceBlocksBob :
    GoesThrough (messaging.exec (Clients.initial aliceAndBob) aliceBlocksBob).world 2 "bob" "alice"
      "let me in" .text
      (messaging.moves (messaging.exec (Clients.initial aliceAndBob) aliceBlocksBob)
        (.call (.onSendMessage 2 "let me in" .text) (clock 8000) :: settle 8000 32)) :=
  block_never_enforced (System.run_exec (by decide +kernel)) (by decide +kernel) (by decide +kernel)
    (by decide +kernel) (by decide +kernel) (fun _ => rfl) (System.run_exec allowed_bobWrites)
    (by decide +kernel)

/-- Bob writes to Alice after she has blocked him, and his handler is resumed. -/
def bobWrites : Outcome World Scope :=
  messaging.outcome (messaging.exec (Clients.initial aliceAndBob)
    (aliceBlocksBob ++ [.call (.onSendMessage 2 "let me in" .text) (clock 8000)]))
    (.resume 0 (clock 8001))

/-- The first thing that happens then. -/
def bobWritesFirst : Step World Scope := bobWrites.steps.head (by decide +kernel)

/-- Bob's message appears on Alice's screen. -/
theorem block_not_enforced :
    ¬ ∀ es c e, messaging.Run messaging.admits (Clients.initial aliceAndBob) es c →
      messaging.admits c e → StepsEnforced (messaging.outcome c e) := by
  intro h
  have hsteps : StepsEnforced bobWrites := h _ _ _ (System.run_exec (by decide +kernel)) trivial
  have henforced : Enforced bobWritesFirst := hsteps _ (List.head_mem _)
  -- the last document of the log is new, and Alice's screen shows it
  have hold := henforced.messages "alice" "bob" "5000" (by decide +kernel) (by decide +kernel)
    "5000" _ (List.getLast_mem (by decide +kernel)) (by decide +kernel)
  have hnew : ∀ d ∈ bobWritesFirst.before.store.docs (.messages "5000"),
      d.data .content ≠ some (.str "let me in") := by decide +kernel
  exact hnew _ hold (by decide +kernel)

end FlutterTheme
