import FlutterTheme.Clients
import FlutterTheme.OneCall

/-!
# One send, one message, one notification

`onSendMessage` of a chat screen, carried on to its end with nothing in between, when the clients
have come to any state that they can come to.

* `onSendMessage_sent` — what it does, whatever the text and the peer.
* `onSendMessage_once_iff` — it does what it should exactly when the user document of the peer has
  been loaded and has a push token that is a text, which is empty if the text to be sent is blank.
* `blank_before_loading` — a blank text before that throws.
-/

namespace FlutterTheme.OneMessage

open EventLoop DocStore

/-- No operation fails. -/
def Works (t : Tick) : Prop := t.fails = false

/-! ## What is asked for -/

/-- The notifications that the calls send, each of which is a call of its own. -/
inductive Sends : List (Task World Scope) → List Notification → Prop where
  | nil : Sends [] []
  | send {ps : List (Task World Scope)} {ns : List Notification} (n : Notification) :
      Sends ps ns → Sends ((sendNotification n).task :: ps) (n :: ns)
  | other {ps : List (Task World Scope)} {ns : List Notification} {p : Task World Scope} :
      (∀ n, p ≠ (sendNotification n).task) → Sends ps ns → Sends (p :: ps) ns

variable {st st' : Store Path Key Value} {cid content user x : String}

/-- A document of `x` for the conversation shows the message of `user`. -/
def Shows (st : Store Path Key Value) (x cid content user : String) : Prop :=
  ∃ d ∈ st.query (.chats x) (Fields.isEqualTo .chatId (.str cid)),
    d.data .lastMessage = some (.str content) ∧ d.data .senderId = some (.str user)

/-- The messages are those there were, and one with the content. -/
structure AddsMessage (cid content : String) (st st' : Store Path Key Value) : Prop where
  message : ∃ d : Document, d.data .content = some (.str content) ∧
    (st'.docs (.messages cid)).Perm (d :: st.docs (.messages cid))
  others : ∀ cid' ≠ cid, st'.docs (.messages cid') = st.docs (.messages cid')

/-- The message of the screen has been stored, in its conversation or a new one. -/
def Stored (s : ChatController) (content : String) (st st' : Store Path Key Value) : Prop :=
  ∃ cid, (s.chatId ≠ "0" → cid = s.chatId) ∧ AddsMessage cid content st st' ∧
    Shows st' s.userData.id cid content s.userData.id ∧ Shows st' s.pId cid content s.userData.id

/-- **One send, one message, one notification**: how `onSendMessage` should end. -/
structure Once (w : World) (c : ℕ) (content : String) (e : Progress World Scope) : Prop where
  /-- it does not throw -/
  returns : e.thrown = 0
  /-- a blank text changes no document and sends no notification -/
  blank : isBlank content = true → e.world.store = w.store ∧ e.started = []
  message : isBlank content = false → Stored (w.chatCtrl.get c) content w.store e.world.store
  /-- a peer with a token gets one notification -/
  notified : isBlank content = false → ∀ peer t, (w.chatCtrl.get c).pData = some peer →
    peer .pushToken = some (.str t) → t ≠ "" →
      ∃ n, n.msg = content ∧ n.token = .str t ∧ Sends e.started [n]
  /-- and a peer without one gets none -/
  quiet : isBlank content = false → ∀ peer, (w.chatCtrl.get c).pData = some peer →
    (∀ t, peer .pushToken = some (.str t) → t = "") → Sends e.started []

/-! ## Notifications -/

section Notifications

variable {ps : List (Task World Scope)} {n : Notification}

theorem sends_nil (h : ∀ p ∈ ps, ∀ n, p ≠ (sendNotification n).task) : Sends ps [] := by
  induction ps with
  | nil => exact .nil
  | cons p ps ih =>
    exact .other (h p (List.mem_cons_self ..)) (ih fun q hq => h q (List.mem_cons_of_mem _ hq))

theorem sends_one (h : ∀ p ∈ ps, ∀ n, p ≠ (sendNotification n).task) :
    Sends (ps ++ [(sendNotification n).task]) [n] := by
  induction ps with
  | nil => exact .send n .nil
  | cons p ps ih =>
    exact .other (h p (List.mem_cons_self ..)) (ih fun q hq => h q (List.mem_cons_of_mem _ hq))

theorem not_sends_nil (h : (sendNotification n).task ∈ ps) : ¬ Sends ps [] := by
  induction ps with
  | nil => exact absurd h List.not_mem_nil
  | cons p ps ih =>
    rintro (_ | _ | ⟨hne, hsends⟩)
    rcases List.mem_cons.mp h with heq | h
    · exact hne n heq.symm
    · exact ih h hsends

/-- What is loaded of a chat is no notification. -/
theorem getChatData_ne {c : ℕ} : (getChatData c).task ≠ (sendNotification n).task := by
  intro h
  injection h

/-- The end of `onSendMessage`, after the calls `ps` have been started: it throws if the peer is not
known, and else sends a notification unless the push token is the empty text. -/
def Notified (pData : Option Data) (content : String) (ps : List (Task World Scope))
    (e : Progress World Scope) : Prop :=
  match pData with
  | none => e.thrown = 1
  | some peer => e.thrown = 0 ∧
    if peer .pushToken = some (.str "") then e.started = ps
    else ∃ n, n.msg = content ∧ n.token = (peer .pushToken).getD .null ∧
      e.started = ps ++ [(sendNotification n).task]

/-- The end of a send: without the peer's document the notification throws, with an empty token it
is left out, and otherwise it is sent as a call of its own. -/
theorem finishes_notify {c : ℕ} {s : Progress World Scope} {R : Progress World Scope → Prop}
    (hs : s.thrown = 0)
    (h : ∀ e : Progress World Scope, e.world.store = s.world.store →
      Notified (s.world.chatCtrl.get c).pData content s.started e → R e) :
    (do notify c content; setLoading c false : Call Unit).Finishes Works s R fun _ => R := by
  refine Async.finishes_bind (Async.finishes_bind (Async.finishes_get ?_))
  cases hpeer : (s.world.chatCtrl.get c).pData with
  | none =>
    simp only [hpeer] at h ⊢
    refine Async.finishes_throw (h _ rfl ?_)
    simp [Notified, hs]
  | some peer =>
    simp only [hpeer] at h ⊢
    split
    · next hempty =>
      refine Async.finishes_pure (Async.finishes_modify (h _ rfl ?_))
      exact ⟨hs, by rw [if_pos hempty]⟩
    · next hpush =>
      refine Async.finishes_spawn (Async.finishes_modify (h _ rfl ⟨hs, ?_⟩))
      rw [if_neg hpush]
      exact ⟨_, rfl, rfl, rfl⟩

end Notifications

/-! ## The inbox -/

/-- The screen has the same users and the same documents. -/
structure Same (s s' : ChatController) : Prop where
  userData : s'.userData = s.userData
  pId : s'.pId = s.pId
  pData : s'.pData = s.pData
  allData : s'.allData = s.allData

/-- All chat screens have. -/
def Steady (w w' : World) : Prop := ∀ c, Same (w.chatCtrl.get c) (w'.chatCtrl.get c)

variable {w w' w'' : World}

theorem Same.refl (s : ChatController) : Same s s := ⟨rfl, rfl, rfl, rfl⟩

theorem Same.trans {s s' s'' : ChatController} (h : Same s s') (h' : Same s' s'') : Same s s'' :=
  ⟨h'.userData.trans h.userData, h'.pId.trans h.pId, h'.pData.trans h.pData,
    h'.allData.trans h.allData⟩

theorem Steady.refl (w : World) : Steady w w := fun _ => .refl _

theorem Steady.trans (h : Steady w w') (h' : Steady w' w'') : Steady w w'' :=
  fun c => (h c).trans (h' c)

theorem steady_modify {i : ℕ} {f : ChatController → ChatController} (hf : ∀ s, Same s (f s)) :
    Steady w { w with chatCtrl := w.chatCtrl.modify i f } :=
  Heap.each_modify Same.refl w.chatCtrl i (hf _)

theorem shows_of_docs (h : Shows st x cid content user)
    (hdocs : st'.docs (.chats x) = st.docs (.chats x)) : Shows st' x cid content user := by
  obtain ⟨d, hd, hshows⟩ := h
  refine ⟨d, ?_, hshows⟩
  rwa [Store.query, hdocs]

/-- A document that is updated shows the message. -/
theorem shows_update {d : Document} {u : Data} (hd : d ∈ st.docs (.chats x))
    (hchat : u .chatId = some (.str cid)) (hlast : u .lastMessage = some (.str content))
    (hsender : u .senderId = some (.str user)) :
    Shows (st.update (.chats x) d.id u) x cid content user := by
  refine ⟨⟨d.id, d.data.merge u⟩, (Store.mem_query _).mpr ⟨?_, ?_⟩, ?_, ?_⟩
  · exact Store.mem_update.mpr ⟨d, hd, (if_pos ⟨rfl, rfl⟩).symm⟩
  · exact Fields.isEqualTo_iff.mpr (Fields.merge_of_some hchat)
  · exact Fields.merge_of_some hlast
  · exact Fields.merge_of_some hsender

/-- A document that is added shows the message. -/
theorem shows_add {pos : ℕ} {u : Data} (hchat : u .chatId = some (.str cid))
    (hlast : u .lastMessage = some (.str content)) (hsender : u .senderId = some (.str user)) :
    Shows (st.add (.chats x) pos u) x cid content user :=
  ⟨_, (Store.mem_query _).mpr ⟨Store.mem_add.mpr (Or.inl ⟨rfl, rfl⟩),
    Fields.isEqualTo_iff.mpr hchat⟩, hlast, hsender⟩

section Steps

variable {s : Progress World Scope} {R : Progress World Scope → Prop}
  {Q : Unit → Progress World Scope → Prop}

theorem finishes_clearInput {o : Option ℕ}
    (h : ∀ w', Steady s.world w' → w'.store = s.world.store → Q () { s with world := w' }) :
    (clearInput o).Finishes Works s R Q := by
  cases o with
  | none => exact Async.finishes_pure (h _ (.refl _) rfl)
  | some i => exact Async.finishes_modify (h _ (steady_modify fun _ => ⟨rfl, rfl, rfl, rfl⟩) rfl)

theorem finishes_add {p : Path} {d : Data}
    (h : ∀ pos, Q () { s with world.store := s.world.store.add p pos d }) :
    (add p d).Finishes Works s R Q :=
  Async.finishes_remote fun t ht => ⟨ht, h t.pos⟩

/-- A document that is there is updated. -/
theorem finishes_update {p : Path} {d : Document} {u : Data} (hd : d ∈ s.world.store.docs p)
    (h : Q () { s with world.store := s.world.store.update p d.id u }) :
    (update p d.id u).Finishes Works s R Q := by
  refine Async.finishes_bind (Async.finishes_remote fun t ht => ⟨ht, ?_⟩)
  rw [(s.world.store.doc?_eq_some).mpr ⟨hd, rfl⟩, Option.isSome_some, if_pos rfl]
  exact Async.finishes_pure h

/-- The message is shown in the inbox of `x`, and the other collections stay as they are. -/
theorem finishes_save {d : ℕ} {receiverId : Value}
    (h : ∀ w', Steady s.world w' → (∀ p ≠ .chats x, w'.store.docs p = s.world.store.docs p) →
      Shows w'.store x cid content user → Q () { s with world := w' }) :
    (saveMessageInUserCollection d x receiverId cid content user false false).Finishes
      Works s R Q := by
  refine Async.finishes_bind (Async.finishes_get (Async.finishes_bind ?_))
  refine Async.finishes_remote fun t ht => ⟨ht, ?_⟩
  refine Async.finishes_bind (Async.finishes_sync fun t _ => Async.finishes_bind ?_)
  have hclear (st : Store Path Key Value) (hshows : Shows st x cid content user)
      (hother : ∀ p ≠ .chats x, st.docs p = s.world.store.docs p) :
      (clearInput (s.world.currentChat d)).Finishes Works { s with world.store := st } R Q :=
    finishes_clearInput fun w' hsteady hstore =>
      h w' hsteady (fun p hp => (congrArg (·.docs p) hstore).trans (hother p hp))
        (hstore ▸ hshows)
  cases hfound : s.world.store.query (.chats x) (Fields.isEqualTo .chatId (.str cid)) with
  | nil =>
    exact finishes_add fun pos => hclear _ (shows_add rfl rfl rfl) fun p hp =>
      Store.docs_add_of_ne hp
  | cons doc rest =>
    have hmem : doc ∈ s.world.store.docs (.chats x) :=
      ((Store.mem_query _).mp (hfound ▸ List.mem_cons_self ..)).1
    exact finishes_update hmem (hclear _ (shows_update hmem rfl rfl rfl) fun p hp =>
      Store.docs_update_of_ne hp)

theorem finishes_setLoading {c : ℕ} {isLoading : Bool}
    (h : ∀ w', Steady s.world w' → w'.store = s.world.store → Q () { s with world := w' }) :
    (setLoading c isLoading).Finishes Works s R Q :=
  Async.finishes_modify (h _ (steady_modify fun _ => ⟨rfl, rfl, rfl, rfl⟩) rfl)

/-- The message and both entries are written, one after the other, while the screen's users and
conversation stay the same. -/
theorem finishes_deliver {c : ℕ} {s' : ChatController} {type : MessageType}
    (h : ∀ w', Steady s.world w' → AddsMessage cid content s.world.store w'.store →
      Shows w'.store s'.userData.id cid content s'.userData.id →
      Shows w'.store s'.pId cid content s'.userData.id → Q () { s with world := w' }) :
    (deliver c s' cid content type).Finishes Works s R Q := by
  refine Async.finishes_bind (Async.finishes_bind (Async.finishes_sync fun t _ => ?_))
  refine finishes_add fun pos => Async.finishes_bind (finishes_setLoading fun w₁ hw₁ hst₁ => ?_)
  refine Async.finishes_bind (finishes_save fun w₂ hw₂ hother₂ hshows₂ => ?_)
  refine Async.finishes_bind (finishes_save fun w₃ hw₃ hother₃ hshows₃ => ?_)
  refine finishes_setLoading fun w₄ hw₄ hst₄ => ?_
  let fields : Data := messageFields (toString (t.now / 1000)) s'.userData.id (.str s'.pId) content
    cid type false
  have hmessages (cid' : String) : w₄.store.docs (.messages cid') =
      (s.world.store.add (.messages cid) pos fields).docs (.messages cid') := by
    rw [hst₄, hother₃ _ Path.noConfusion, hother₂ _ Path.noConfusion, hst₁]
  refine h w₄ (((hw₁.trans hw₂).trans hw₃).trans hw₄)
    ⟨⟨⟨.auto s.world.store.next, fields⟩, rfl, ?_⟩, fun cid' hne => ?_⟩ ?_ ?_
  · rw [hmessages]
    exact Store.perm_docs_add _ _ _
  · rw [hmessages]
    exact Store.docs_add_of_ne fun heq => hne (Path.messages.inj heq)
  · rw [hst₄]
    by_cases hself : s'.userData.id = s'.pId
    · rw [hself] at hshows₃ ⊢
      exact hshows₃
    · exact shows_of_docs hshows₂ (hother₃ _ fun heq => hself (Path.chats.inj heq))
  · rw [hst₄]
    exact hshows₃

/-- The conversation of the screen, or a new one. -/
theorem finishes_newChatId {c : ℕ} {Q : String → Progress World Scope → Prop}
    (h : ∀ cid w', ((s.world.chatCtrl.get c).chatId ≠ "0" → cid = (s.world.chatCtrl.get c).chatId) →
      Steady s.world w' → w'.store = s.world.store → Q cid { s with world := w' }) :
    (newChatId c).Finishes Works s R Q := by
  refine Async.finishes_sync fun t _ => ?_
  unfold assignChatId
  by_cases h0 : (s.world.chatCtrl.get c).chatId = "0"
  · simp only [h0, if_true]
    refine h _ _ (fun hne => absurd h0 hne) ?_ rfl
    exact steady_modify (w := s.world) fun _ => ⟨rfl, rfl, rfl, rfl⟩
  · simp only [h0, if_false]
    exact h _ _ (fun _ => rfl) (.refl _) rfl

end Steps

/-! ## The whole call -/

section Call

variable {c : ℕ} {type : MessageType} {s : Progress World Scope} {R : Progress World Scope → Prop}

/-- What is loaded of a chat has to be waited for. -/
theorem upToAwait_getChatData {R : Progress World Scope → Prop} (h : R s) :
    (getChatData c).task.UpToAwait Works s R := by
  intro t _
  change Task.UpToAwait Works ((if (s.world.chatCtrl.get c).chatId ≠ "0" then
    lookUpEntry c (s.world.chatCtrl.get c) else pure ()) _) s R
  split
  · exact h
  · exact h

/-- A text that is not blank is stored, and then the chat is loaded again. -/
theorem finishes_send {Q : Unit → Progress World Scope → Prop}
    (hall : (s.world.chatCtrl.get c).allData = none)
    (h : ∀ w', Steady s.world w' →
      Stored (s.world.chatCtrl.get c) content s.world.store w'.store →
        Q () { s with world := w', started := s.started ++ [(getChatData c).task] }) :
    (send c content type).Finishes Works s R Q := by
  refine Async.finishes_bind (Async.finishes_modify (Async.finishes_bind ?_))
  refine finishes_newChatId fun cid w₂ hcid hw₂ hst₂ => ?_
  rw [Heap.get_modify, if_pos rfl] at hcid
  have hw : Steady s.world w₂ :=
    (steady_modify (f := fun s => { s with text := "" }) fun _ => ⟨rfl, rfl, rfl, rfl⟩).trans hw₂
  refine Async.finishes_bind (Async.finishes_get (Async.finishes_bind (Async.finishes_enter ?_)))
  obtain ⟨huserData, hpId, -, hallData⟩ := hw c
  unfold dispatch
  simp only [hallData, hall]
  refine Async.finishes_bind (finishes_setLoading fun w₃ hw₃ hst₃ => ?_)
  refine Async.finishes_bind (finishes_deliver fun w₄ hw₄ hadds huser hpeer => ?_)
  rw [huserData] at huser hpeer
  rw [hpId] at hpeer
  have hstore : w₃.store = s.world.store := hst₃.trans hst₂
  refine Async.finishes_spawn (upToAwait_getChatData (h w₄ ((hw.trans hw₃).trans hw₄) ?_))
  exact ⟨cid, hcid, hstore ▸ hadds, huser, hpeer⟩

/-- What `onSendMessage` does. -/
structure Sent (w : World) (c : ℕ) (content : String) (e : Progress World Scope) : Prop where
  blank : isBlank content = true → e.world.store = w.store ∧
    Notified (w.chatCtrl.get c).pData content [] e
  message : isBlank content = false →
    Stored (w.chatCtrl.get c) content w.store e.world.store ∧
      Notified (w.chatCtrl.get c).pData content [(getChatData c).task] e

/-- **What `onSendMessage` does**, whatever the text and the peer: a blank text writes nothing, any
other is stored and both entries show it; the notification is the same in both cases. -/
theorem onSendMessage_sent {w : World} (hall : (w.chatCtrl.get c).allData = none) :
    (onSendMessage c content type).task.Finishes Works { world := w } (Sent w c content) := by
  refine Async.Finishes.task (Async.finishes_bind (Async.finishes_get ?_))
  refine Async.finishes_bind (Async.finishes_enter (Async.finishes_bind ?_))
  refine Async.finishes_modify (Async.finishes_bind ?_)
  -- the loader covers the screen, and nothing else is changed
  have hscreen : (w.chatCtrl.modify c fun s => { s with isLoading := true }).get c =
      { w.chatCtrl.get c with isLoading := true } := by
    rw [Heap.get_modify, if_pos rfl]
  by_cases hblank : isBlank content = true
  · rw [if_pos hblank]
    refine Async.finishes_pure (finishes_notify rfl fun e hstore hnotified => ⟨fun _ => ?_, ?_⟩)
    · simp only [hscreen] at hnotified
      exact ⟨hstore, hnotified⟩
    · exact fun hnot => absurd hblank (by simp [hnot])
  · rw [if_neg hblank]
    refine finishes_send (by simp only [hscreen, hall]) fun w₂ hw₂ hstored => ?_
    refine finishes_notify rfl fun e hstore hnotified => ⟨fun h => absurd h hblank, fun _ => ?_⟩
    rw [(hw₂ c).pData] at hnotified
    simp only [hscreen] at hnotified hstored
    exact ⟨hstore ▸ hstored, hnotified⟩

end Call

/-! ## When it is as it should be -/

section Ready

variable {w : World} {c : ℕ} {e : Progress World Scope} {pData : Option Data}
  {ps : List (Task World Scope)}

/-- The user document of the peer has been loaded, and it has a push token, which is empty if the
text is blank. -/
def Ready (pData : Option Data) (content : String) : Prop :=
  ∃ peer t, pData = some peer ∧ peer .pushToken = some (.str t) ∧ (isBlank content = true → t = "")

/-- No notification and no error. -/
theorem Notified.quiet {peer : Data} (h : Notified (some peer) content ps e)
    (hempty : peer .pushToken = some (.str "")) : e.thrown = 0 ∧ e.started = ps := by
  obtain ⟨hthrown, hstarted⟩ := h
  exact ⟨hthrown, by rwa [if_pos hempty] at hstarted⟩

/-- One notification and no error. -/
theorem Notified.sends {peer : Data} (h : Notified (some peer) content ps e)
    (hps : ∀ p ∈ ps, ∀ n, p ≠ (sendNotification n).task)
    (hpush : peer .pushToken ≠ some (.str "")) : e.thrown = 0 ∧
      ∃ n, n.msg = content ∧ n.token = (peer .pushToken).getD .null ∧ Sends e.started [n] ∧
        ¬ Sends e.started [] := by
  obtain ⟨hthrown, hstarted⟩ := h
  rw [if_neg hpush] at hstarted
  obtain ⟨n, hmsg, htoken, hstarted⟩ := hstarted
  refine ⟨hthrown, n, hmsg, htoken, hstarted ▸ sends_one hps, fun hnil => ?_⟩
  exact not_sends_nil (n := n) (by simp [hstarted]) hnil

theorem getChatData_only : ∀ p ∈ [(getChatData c).task], ∀ n, p ≠ (sendNotification n).task :=
  fun _ hp _ => List.mem_singleton.mp hp ▸ getChatData_ne

/-- What has been sent when the call ends, whether or not the text is blank. -/
theorem Sent.notified (h : Sent w c content e) :
    ∃ ps, (∀ p ∈ ps, ∀ n, p ≠ (sendNotification n).task) ∧
      Notified (w.chatCtrl.get c).pData content ps e := by
  cases hblank : isBlank content with
  | true => exact ⟨[], fun p hp => absurd hp List.not_mem_nil, (h.blank hblank).2⟩
  | false => exact ⟨_, getChatData_only, (h.message hblank).2⟩

/-- If the peer is ready, the send ends as it should: nothing is thrown, and the only notification
is the one for the peer's token. A blank text needs the token to be empty. -/
theorem once_of_ready (h : Sent w c content e) (hready : Ready (w.chatCtrl.get c).pData content) :
    Once w c content e := by
  obtain ⟨peer, t, hpeer, htoken, hempty⟩ := hready
  obtain ⟨ps, hps, hnotified⟩ := h.notified
  rw [hpeer] at hnotified
  have hpeer' {peer' : Data} (h' : (w.chatCtrl.get c).pData = some peer') : peer' = peer :=
    Option.some.inj (h'.symm.trans hpeer)
  by_cases ht : t = ""
  · subst ht
    obtain ⟨hthrown, hstarted⟩ := hnotified.quiet htoken
    have hsends : Sends e.started [] := hstarted ▸ sends_nil hps
    refine ⟨hthrown, fun hb => ?_, fun hb => (h.message hb).1, ?_, fun _ _ _ _ => hsends⟩
    · obtain ⟨hstore, hblank⟩ := h.blank hb
      rw [hpeer] at hblank
      exact ⟨hstore, (hblank.quiet htoken).2⟩
    · intro _ peer' t' h' ht' hne
      rw [hpeer' h', htoken] at ht'
      exact absurd (Value.str.inj (Option.some.inj ht')).symm hne
  · have hpush : peer .pushToken ≠ some (.str "") := by simpa [htoken] using ht
    obtain ⟨hthrown, n, hmsg, hn, hsends, -⟩ := hnotified.sends hps hpush
    rw [htoken, Option.getD_some] at hn
    refine ⟨hthrown, fun hb => absurd (hempty hb) ht, fun hb => (h.message hb).1, ?_, ?_⟩
    · intro _ peer' t' h' ht' _
      rw [hpeer' h', htoken] at ht'
      exact ⟨n, hmsg, hn.trans (Option.some.inj ht'), hsends⟩
    · intro _ peer' h' hno
      exact absurd (hno t (hpeer' h' ▸ htoken)) ht

/-- The other direction: without the peer's document the send throws, and a blank text or a missing
token lets it send a notification that should not be sent. -/
theorem ready_of_once (h : Sent w c content e) (honce : Once w c content e) :
    Ready (w.chatCtrl.get c).pData content := by
  obtain ⟨ps, hps, hnotified⟩ := h.notified
  cases hpeer : (w.chatCtrl.get c).pData with
  | none =>
    rw [hpeer] at hnotified
    have hthrown : e.thrown = 1 := hnotified
    exact absurd (honce.returns.symm.trans hthrown) Nat.zero_ne_one
  | some peer =>
    rw [hpeer] at hnotified
    by_cases hpush : peer .pushToken = some (.str "")
    · exact ⟨peer, "", rfl, hpush, fun _ => rfl⟩
    · obtain ⟨-, n, -, -, -, hsent⟩ := hnotified.sends hps hpush
      have hblank : isBlank content = false := by
        by_contra hb
        exact hsent ((honce.blank (by simpa using hb)).2 ▸ .nil)
      by_contra hno
      refine hsent (honce.quiet hblank peer hpeer fun t ht => ?_)
      exact absurd ⟨peer, t, rfl, ht, fun hb => absurd hb (by simp [hblank])⟩ hno

/-- The call does as it should exactly when it is ready, if `allData` is null. -/
theorem once_iff_ready {type : MessageType} (hall : (w.chatCtrl.get c).allData = none) :
    (onSendMessage c content type).task.Finishes Works { world := w } (Once w c content) ↔
      Ready (w.chatCtrl.get c).pData content := by
  have hsent : (onSendMessage c content type).task.Finishes Works { world := w }
      (Sent w c content) := onSendMessage_sent hall
  constructor
  · intro honce
    have hworks : Works { now := 0 } := rfl
    obtain ⟨e, he⟩ := Task.Finishes.outcome hworks (onSendMessage c content type).task
      { world := w }
    exact ready_of_once (he _ hsent) (he _ honce)
  · exact fun hready => hsent.mono fun e he => once_of_ready he hready

/-- **One send, one message, one notification**: in every state that the clients can come to,
`onSendMessage` does so exactly when it is ready. -/
theorem onSendMessage_once_iff {session : ℕ → UserData} {es : List (Event Action)} {s : Clients}
    (h : messaging.Run messaging.admits (Clients.initial session) es s)
    (hc : c < s.world.chatCtrl.size) {type : MessageType} :
    (onSendMessage c content type).task.Finishes Works { world := s.world }
        (Once s.world c content) ↔ Ready (s.world.chatCtrl.get c).pData content :=
  once_iff_ready ((Clients.consistent h).chat c hc).allData

end Ready

/-- Alice and Bob have opened their chat, and each has loaded the other. -/
def chatting : Clients := messaging.exec (Clients.initial aliceAndBob) bothOpen

/-- Alice sends Bob a message. -/
theorem onSendMessage_once_hello : (onSendMessage 0 "hello" .text).task.Finishes Works
    { world := chatting.world } (Once chatting.world 0 "hello") := by
  have hready : Ready (chatting.world.chatCtrl.get 0).pData "hello" := by
    have htoken : ((chatting.world.chatCtrl.get 0).pData.bind fun peer => peer .pushToken) =
        some (.str "tokenB") := by decide +kernel
    obtain ⟨peer, hpeer, htoken⟩ := Option.bind_eq_some_iff.mp htoken
    exact ⟨peer, "tokenB", hpeer, htoken, fun h => absurd h (by decide)⟩
  have hrun : messaging.Run messaging.admits (Clients.initial aliceAndBob) bothOpen chatting :=
    System.run_exec (by decide +kernel)
  have hopen : 0 < chatting.world.chatCtrl.size := by decide +kernel
  rw [onSendMessage_once_iff hrun hopen]
  exact hready

/-- Alice opens the chat with Bob, but has not loaded him yet. -/
def opening : Clients :=
  messaging.exec (Clients.initial aliceAndBob)
    (alone 1 (.userRegister (person "alice") "alice@mail" (some "tokenA")) ++
      alone 2 (.userRegister (person "bob") "bob@mail" (some "tokenB")) ++
      .call (.saveContact 0 (contact "bob") true) (clock 3) :: settle 3 2)

/-- A blank text throws then. -/
theorem blank_before_loading : 0 < opening.world.chatCtrl.size ∧
    ¬ (onSendMessage 0 " " .text).task.Finishes Works { world := opening.world }
      (Once opening.world 0 " ") := by
  have hall : (opening.world.chatCtrl.get 0).allData = none :=
    Option.isNone_iff_eq_none.mp (by decide +kernel)
  have hnone : (opening.world.chatCtrl.get 0).pData = none :=
    Option.isNone_iff_eq_none.mp (by decide +kernel)
  refine ⟨by decide +kernel, ?_⟩
  rw [once_iff_ready hall, hnone]
  rintro ⟨peer, t, hpeer, -⟩
  exact Option.some_ne_none peer hpeer.symm

end FlutterTheme.OneMessage
