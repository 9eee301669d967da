import FlutterTheme.CallEffect

/-!
# The handlers of calls keep the protocol

One lemma for each operation and one for each handler of `Calls`, put together by the rules of
`KeepsOn` for calls that work on no document of the history in particular: it keeps `Consistent`
and does to the history of calls only what `Effect` lists. `calls_kept` puts them together for
runs.
-/

namespace FlutterTheme.Calls

open EventLoop DocStore

variable {promise : Scope → World → Prop} {w w' : World} {α β : Type}

/-! ## Rules -/

/-- The call keeps the protocol, and hands on its result with `Q`. -/
abbrev Keeps (promise : Scope → World → Prop) (m : Handler α) (w : World) (Q : α → World → Prop) :
    Prop :=
  KeepsOn (callProtocol promise) (· = .idle) m w Q

/-- The call keeps the protocol. -/
abbrev Runs (promise : Scope → World → Prop) (m : Handler Unit) (w : World) : Prop :=
  Keeps promise m w fun _ _ => True

theorem Keeps.safe {m : Handler Unit} {Q : Unit → World → Prop} (h : Keeps promise m w Q) :
    m.task.Safe (callProtocol promise) .idle w :=
  h.task_safe rfl

theorem runs_pure (hc : Consistent w) : Runs promise (pure ()) w := EventLoop.keeps_pure hc trivial

/-- Nothing happens to the history of calls. -/
structure Quiet (w w' : World) : Prop where
  later : w.Extends w'
  consistent : Consistent w'
  history : ∀ u, w'.store.docs (.history u) = w.store.docs (.history u)

theorem Quiet.refl (hc : Consistent w) : Quiet w w := ⟨.refl w, hc, fun _ => rfl⟩

/-- The protocol allows what leaves the history of calls alone. -/
theorem Quiet.permits (h : Quiet w w') : (callProtocol promise).Permits (· = .idle) w w' := by
  refine ⟨h.later, h.consistent, ?_⟩
  rintro _ rfl
  exact .other h.later h.history

theorem keeps_sync {f : Tick → World → α × World} {Q : α → World → Prop}
    (h : ∀ t, Quiet w (f t w).2 ∧ Q (f t w).1 (f t w).2) : Keeps promise (Async.sync f) w Q :=
  keepsOn_sync fun t => (h t).imp_left Quiet.permits

theorem runs_modify {f : World → World} (h : Quiet w (f w)) : Runs promise (Async.modify f) w :=
  keeps_sync fun _ => ⟨h, trivial⟩

/-- What an operation answers is told of the world in which it takes effect. -/
theorem keeps_remote {f : Tick → World → α × World} {Q : α → World → Prop}
    (h : ∀ w', w.Extends w' → Consistent w' → ∀ t, Quiet w' (f t w').2 ∧
      ∀ w'', (f t w').2.Extends w'' → Consistent w'' → Q (f t w').1 w'') :
    Keeps promise (Async.remote f) w Q :=
  keepsOn_remote fun w' hw hc t => (h w' hw hc t).imp_left Quiet.permits

theorem keeps_attempt {f : Tick → World → α × World} {Q : Option α → World → Prop}
    (h : ∀ w', w.Extends w' → Consistent w' → ∀ t, Quiet w' (f t w').2 ∧
      ∀ w'', (f t w').2.Extends w'' → Consistent w'' → Q (some (f t w').1) w'')
    (hfail : ∀ w', w.Extends w' → Consistent w' → Q none w') :
    Keeps promise (Async.attempt f) w Q :=
  keepsOn_attempt (fun w' hw hc t => (h w' hw hc t).imp_left Quiet.permits) hfail

/-! ## Operations -/

theorem keeps_now (hc : Consistent w) : Keeps promise now w fun _ w' => w' = w :=
  keeps_sync fun _ => ⟨.refl hc, rfl⟩

theorem keeps_nextInt (hc : Consistent w) (n : ℕ) :
    Keeps promise (nextInt n) w fun _ w' => w' = w :=
  keeps_sync fun _ => ⟨.refl hc, rfl⟩

theorem keeps_sessionUser (hc : Consistent w) (d : ℕ) :
    Keeps promise (sessionUser d) w fun user _ => user = w.session d :=
  keeps_get hc rfl

theorem keeps_getUser (id : String) : Keeps promise (getUser id) w fun _ _ => True :=
  keeps_remote fun _ _ hc _ => ⟨.refl hc, fun _ _ _ => trivial⟩

theorem runs_engine : Runs promise engine w :=
  keeps_remote fun _ _ hc _ => ⟨.refl hc, fun _ _ _ => trivial⟩

/-- A write to `calls` or to `calling`. -/
theorem quiet_store (hc : Consistent w) {s : Store Path Key Value}
    (hh : ∀ u, s.docs (.history u) = w.store.docs (.history u))
    (hp : ∀ u, ∀ d ∈ s.docs (.calling u), Pending w.placed u d) :
    Quiet w { w with store := s } :=
  ⟨⟨List.Subset.refl _, List.Subset.refl _, rfl⟩, hc.of_store hp, hh⟩

/-- A document in `calling` is that of a call that has been placed, below the caller as dialled and
below the receiver as not dialled; other users' documents are left as they are. -/
theorem runs_addCalling {user : String} {call : Call} {hasDialled : Bool} (hp : call ∈ w.placed)
    (huser : (call.callerId = some user ∧ hasDialled = true) ∨
      (call.receiverId = some user ∧ hasDialled = false)) :
    Runs promise (add (.calling user) (callingFields call hasDialled)) w := by
  refine keeps_remote fun w' hw hc t => ⟨quiet_store hc (fun u => ?_) fun u d hd => ?_, ?_⟩
  · exact Store.docs_add_of_ne (by simp)
  · rcases Store.mem_add.mp hd with ⟨hu, rfl⟩ | hd
    · cases hu
      refine Or.inr ⟨call, hw.placed hp, ⟨_, rfl⟩, ?_⟩
      rcases huser with ⟨hcaller, rfl⟩ | ⟨hreceiver, rfl⟩
      · exact Or.inl ⟨hcaller, rfl⟩
      · exact Or.inr ⟨hreceiver, rfl⟩
    · exact hc.calling u d hd
  · exact fun _ _ _ => trivial

theorem runs_addBlank (user : String) : Runs promise (add (.history user) .empty) w := by
  refine keepsOn_remote fun w' _ hc t => ⟨?_, fun _ _ _ => trivial⟩
  have hother : ∀ u, (w'.store.add (.history user) t.pos .empty).docs (.calling u) =
      w'.store.docs (.calling u) := fun u => Store.docs_add_of_ne (by simp)
  refine ⟨⟨List.Subset.refl _, List.Subset.refl _, rfl⟩, hc.of_history hother, ?_⟩
  rintro _ rfl
  exact .blank user t.pos

theorem runs_deleteCalling (user : String) (id : DocId) :
    Runs promise (delete (.calling user) id) w := by
  refine keeps_remote fun w' hw hc t => ⟨quiet_store hc (fun u => ?_) fun u d hd => ?_, ?_⟩
  · exact Store.docs_delete_of_ne (by simp)
  · exact hc.calling u d (Store.mem_delete.mp hd).1
  · exact fun _ _ _ => trivial

theorem keeps_getFirst (p : Path) (k : Key) (v : String) :
    Keeps promise (getFirst p k v) w fun _ _ => True :=
  keeps_attempt (fun _ _ hc _ => ⟨.refl hc, fun _ _ _ => trivial⟩) fun _ _ _ => trivial

/-- The end of a call to a group is written, which changes no document of a pending call: those
have identifiers that Firestore has generated. -/
theorem runs_setMergeCalling {user name : String} {u : Data}
    (hu : u .callerId = none ∧ u .receiverId = none ∧ u .hasDialled = none) :
    Runs promise (setMerge (.calling user) name u) w := by
  refine runs_spawn (keeps_seq runs_pause fun w₁ _ hc₁ => ?_)
  refine keeps_sync fun t => ⟨?_, trivial⟩
  by_cases hf : t.fails
  · simp only [hf, if_true]
    exact .refl hc₁
  · simp only [hf, if_false, Bool.false_eq_true]
    refine quiet_store hc₁ (fun x => Store.docs_setMerge_of_ne (by simp)) fun x d hd => ?_
    rcases Store.of_mem_setMerge hd with hd | ⟨hx, -, hdata⟩
    · exact hc₁.calling x d hd
    · cases hx
      obtain ⟨h₁, h₂, h₃⟩ := hu
      refine Or.inl ?_
      rw [hdata]
      rcases w₁.store.fieldsAt_cases (.calling user) (.named name) with
        ⟨y, hy, hid, hy'⟩ | ⟨-, hnone⟩
      · rw [hy']
        rcases hc₁.calling user y hy with ⟨hn₁, hn₂, hn₃⟩ | ⟨p, -, ⟨n, hn⟩, -⟩
        · exact ⟨(Fields.merge_of_none h₁).trans hn₁, (Fields.merge_of_none h₂).trans hn₂,
            (Fields.merge_of_none h₃).trans hn₃⟩
        · rw [hid] at hn
          cases hn
      · rw [hnone, Fields.empty_merge]
        exact ⟨h₁, h₂, h₃⟩

/-- A counter of calls, which is not in the history. -/
theorem runs_increment (id : String) (k : Key) : Runs promise (increment id k) w := by
  refine runs_spawn (keeps_seq runs_pause fun w₁ _ hc₁ => keeps_sync fun t => ⟨?_, trivial⟩)
  by_cases hf : t.fails
  · simp only [hf, if_true]
    exact .refl hc₁
  · simp only [hf, if_false, Bool.false_eq_true]
    refine quiet_store hc₁ (fun x => Store.docs_setMerge_of_ne (by simp)) fun x d hd => ?_
    rw [Store.docs_setMerge_of_ne (by simp)] at hd
    exact hc₁.calling x d hd

theorem runs_sendNotification (n : Notification) : Runs promise (sendNotification n) w := by
  refine runs_spawn (keeps_bind (Q := fun _ _ => True) ?_ fun _ _ _ hc _ => runs_pure hc)
  refine keeps_attempt (fun w' _ hc _ => ⟨?_, fun _ _ _ => trivial⟩) fun _ _ _ => trivial
  exact ⟨⟨List.Subset.refl _, List.Subset.refl _, rfl⟩, ⟨hc.placed, hc.ctrl, hc.calling, hc.joined⟩,
    fun _ => rfl⟩

/-! ## Controllers -/

/-- A change of the controllers and of nothing else. -/
theorem quiet_ctrl {ctrl : Heap CallController} {registered : ℕ → Bool → Option ℕ}
    (hc : Consistent w) (h : ∀ k call, (ctrl.get k).call = some call → Known w.placed call) :
    Quiet w { w with ctrl := ctrl, registered := registered } :=
  ⟨⟨List.Subset.refl _, List.Subset.refl _, rfl⟩, hc.of_ctrl h, fun _ => rfl⟩

theorem runs_modifyCtrl (hc : Consistent w) (k : ℕ) {f : CallController → CallController}
    (hf : ∀ call, (f (w.ctrl.get k)).call = some call → Known w.placed call) :
    Runs promise (modifyCtrl k f) w :=
  runs_modify ⟨⟨List.Subset.refl _, List.Subset.refl _, rfl⟩, hc.modify k hf, fun _ => rfl⟩

/-- A change of a controller that leaves its call alone. -/
theorem runs_modifyFields (hc : Consistent w) (k : ℕ) {f : CallController → CallController}
    (hf : ∀ s, (f s).call = s.call) : Runs promise (modifyCtrl k f) w :=
  runs_modifyCtrl hc k fun call h => hc.ctrl k call (hf _ ▸ h)

/-- The call of a controller has been placed. -/
theorem keeps_callCtrl (hc : Consistent w) (k : ℕ) :
    Keeps promise (callCtrl k) w fun s w' => ∀ call, s.call = some call → Known w'.placed call :=
  keeps_get hc (hc.ctrl k)

/-- The call a controller goes on with is known, and its ids are those of a call that can be
written. -/
theorem keeps_currentCall (hc : Consistent w) {s : CallController}
    (hs : ∀ call, s.call = some call → Known w.placed call) :
    Keeps promise (currentCall s) w fun x w' => Known w'.placed x.1 ∧ x.1.ids = some x.2 := by
  unfold currentCall
  split
  · next call hcall =>
    split
    · next ids hids => exact keeps_pure hc ⟨hs call hcall, hids⟩
    · exact keeps_throw
  · exact keeps_throw

/-- The call of the controller of a screen. -/
theorem keeps_ctrlCall {f : CallController → Call × Ids → Handler Unit} (hc : Consistent w) (k : ℕ)
    (hf : ∀ s call ids w', w.Extends w' → Consistent w' → Known w'.placed call →
      call.ids = some ids → Runs promise (f s (call, ids)) w') :
    Runs promise (do let s ← callCtrl k; let x ← currentCall s; f s x) w := by
  refine keeps_bind (keeps_callCtrl hc k) fun s w₁ hw₁ hc₁ hs => ?_
  refine keeps_bind (keeps_currentCall hc₁ hs) fun x w₂ hw₂ hc₂ hx => ?_
  exact hf s x.1 x.2 w₂ (hw₁.trans hw₂) hc₂ hx.1 hx.2

theorem keeps_putCtrl (hc : Consistent w) (d : ℕ) (isVideo : Bool) :
    Keeps promise (putCtrl d isVideo) w fun _ _ => True := by
  refine keeps_sync fun t => ⟨?_, trivial⟩
  split
  · exact .refl hc
  · refine quiet_ctrl hc fun j call hj => ?_
    rw [Heap.get_alloc] at hj
    split at hj
    · cases hj
    · exact hc.ctrl j call hj

theorem runs_setArguments (hc : Consistent w) (k : ℕ) (channelName : Option String) {call : Call}
    (hk : Known w.placed call) : Runs promise (setArguments k channelName call) w := by
  refine keeps_bind (keeps_callCtrl hc k) fun s w₁ hw₁ hc₁ _ => ?_
  refine keeps_bind (keeps_sessionUser hc₁ _) fun user w₂ hw₂ hc₂ _ => ?_
  refine runs_modifyCtrl hc₂ k fun c h => ?_
  cases h
  exact hk.mono (hw₁.trans hw₂).placed

/-! ## Joining a channel -/

theorem runs_readToken (hc : Consistent w) (d : ℕ) : Runs promise (readToken d) w := by
  refine keeps_bind (keeps_get (Q := fun _ _ => True) hc trivial) fun token w₁ _ hc₁ _ => ?_
  split
  · exact runs_pure hc₁
  · exact keeps_throw

/-- Joining asks the engine and nothing else: what is written comes with its callbacks. -/
theorem runs_joinChannel (k : ℕ) : Runs promise (joinChannel k) w := by
  refine keeps_remote fun w₁ _ hc t => ⟨?_, fun _ _ _ => trivial⟩
  simp only
  split
  · next call hcall =>
    refine ⟨⟨List.Subset.refl _, List.Subset.refl _, rfl⟩, ?_, fun _ => rfl⟩
    refine ⟨hc.placed, hc.ctrl, hc.calling, fun j hj => ?_⟩
    rcases List.mem_cons.mp hj with rfl | hj
    · exact ⟨rfl, hc.ctrl k call hcall⟩
    · exact hc.joined j hj
  · exact .refl hc

/-- The token is read and the channel joined. -/
theorem runs_joinWithToken (hc : Consistent w) (k : ℕ) :
    Runs promise (do let s ← callCtrl k; readToken s.device; joinChannel k) w := by
  refine keeps_bind (keeps_callCtrl hc k) fun s w₁ _ hc₁ _ => ?_
  exact keeps_seq (runs_readToken hc₁ _) fun _ _ _ => runs_joinChannel k

theorem runs_audioInitAgora (k : ℕ) : Runs promise (AudioCall.initAgora k) w :=
  keeps_seq runs_engine fun _ _ _ => keeps_seq runs_engine fun _ _ _ =>
    keeps_seq runs_engine fun _ _ hc => runs_joinWithToken hc k

theorem runs_videoInitAgora (k : ℕ) : Runs promise (VideoCall.initAgora k) w :=
  keeps_seq runs_engine fun _ _ _ => keeps_seq runs_engine fun _ _ _ =>
    keeps_seq runs_engine fun _ _ _ => keeps_seq runs_engine fun _ _ _ =>
      keeps_seq runs_engine fun _ _ hc => runs_joinWithToken hc k

theorem runs_audioOnReady (hc : Consistent w) (k : ℕ) (channelName : Option String) {call : Call}
    (hk : Known w.placed call) : Runs promise (AudioCall.onReady k channelName call) w :=
  keeps_seq (runs_setArguments hc k channelName hk) fun _ _ _ =>
    keeps_seq runs_engine fun _ _ _ => runs_audioInitAgora k

/-- The audio screen opens with a call that is known; its start-up writes no document. -/
theorem runs_audioOpen (hc : Consistent w) (d : ℕ) (channelName : Option String) {call : Call}
    (hk : Known w.placed call) : Runs promise (AudioCall.open d channelName call) w := by
  refine keeps_bind (keeps_putCtrl hc d false) fun x w₁ hw₁ hc₁ _ => ?_
  have hk₁ := hk.mono hw₁.placed
  refine keeps_seq (runs_setArguments hc₁ x.1 channelName hk₁) fun w₂ hw₂ hc₂ => ?_
  have hk₂ := hk₁.mono hw₂.placed
  refine keeps_seq (runs_spawn (runs_audioOnReady hc₂ x.1 channelName hk₂)) fun w₃ hw₃ hc₃ => ?_
  split
  · exact runs_spawn (runs_audioOnReady hc₃ x.1 channelName (hk₂.mono hw₃.placed))
  · exact runs_pure hc₃

theorem runs_videoOpen (hc : Consistent w) (d : ℕ) (channelName : Option String) {call : Call}
    (hk : Known w.placed call) : Runs promise (VideoCall.open d channelName call) w := by
  refine keeps_bind (keeps_putCtrl hc d true) fun x w₁ hw₁ hc₁ _ => ?_
  have hk₁ := hk.mono hw₁.placed
  refine keeps_seq (runs_setArguments hc₁ x.1 channelName hk₁) fun w₂ hw₂ hc₂ => ?_
  refine keeps_seq (runs_spawn (runs_videoInitAgora x.1)) fun w₃ hw₃ hc₃ => ?_
  split
  · exact runs_setArguments hc₃ x.1 channelName (hk₁.mono (hw₂.trans hw₃).placed)
  · exact runs_pure hc₃

theorem runs_toCall (hc : Consistent w) (d : ℕ) (isVideo : Bool) (channelName : Option String)
    {call : Call} (hk : Known w.placed call) :
    Runs promise (toCall d isVideo channelName call) w := by
  unfold toCall
  split
  · exact runs_videoOpen hc d channelName hk
  · exact runs_audioOpen hc d channelName hk

/-! ## Placing a call -/

/-- `placeCall` from the registration of the call on: both documents are of the call just placed,
the notification writes nothing, and the call screen opens with a call that is known. -/
theorem runs_placeCall (hc : Consistent w) (d : ℕ) {toData : User} {timestamp n : ℕ}
    {receiver : Option (List Member)} (isVideoCall : Bool) :
    Runs promise (placeCall d (w.session d) toData
      (Call.make (w.session d) toData timestamp (toString n) isVideoCall receiver) isVideoCall)
      w := by
  have hmade : (Call.make (w.session d) toData timestamp (toString n) isVideoCall
      receiver).MadeBy w.session := ⟨d, toData, timestamp, n, isVideoCall, receiver, rfl⟩
  generalize hcall : Call.make (w.session d) toData timestamp (toString n) isVideoCall receiver =
    call at hmade ⊢
  have hplace : Quiet w { w with placed := call :: w.placed } :=
    ⟨⟨List.subset_cons_self .., List.Subset.refl _, rfl⟩, hc.place hmade, fun _ => rfl⟩
  refine keeps_bind (Q := fun _ w' => call ∈ w'.placed) (keeps_sync fun _ => ⟨hplace, ?_⟩)
    fun _ w₁ _ hc₁ hp₁ => ?_
  · exact List.mem_cons_self ..
  refine keeps_seq (runs_addCalling hp₁ (Or.inl ⟨hcall ▸ rfl, rfl⟩)) fun w₂ hw₂ hc₂ => ?_
  have hp₂ := hw₂.placed hp₁
  refine keeps_seq (runs_addCalling hp₂ (Or.inr ⟨hcall ▸ rfl, rfl⟩)) fun w₃ hw₃ hc₃ => ?_
  refine keeps_seq (runs_sendNotification _) fun w₄ hw₄ hc₄ => ?_
  have hk₄ : Known w₄.placed call :=
    ⟨call, (hw₃.trans hw₄).placed hp₂, rfl, rfl, rfl, rfl, rfl, id⟩
  exact runs_toCall hc₄ d isVideoCall _ (hk₄.dialled _)

/-- A call to one user is placed with the user of the session as its caller; without the data of the
peer the handler throws. -/
theorem runs_audioAndVideoCallApi (hc : Consistent w) (d : ℕ) (toData : Option User)
    (isVideoCall : Bool) : Runs promise (audioAndVideoCallApi d toData isVideoCall) w := by
  refine keeps_bind (keeps_sessionUser hc d) fun userData w₁ hw₁ hc₁ huser => ?_
  refine keeps_bind (keeps_nextInt hc₁ 1000) fun channelId w₂ hw₂ hc₂ _ => ?_
  refine keeps_bind (keeps_now hc₂) fun time w₃ hw₃ hc₃ _ => ?_
  have huser₃ : userData = w₃.session d := by rw [huser, (hw₁.trans (hw₂.trans hw₃)).session]
  rw [huser₃]
  cases toData with
  | none => exact keeps_throw
  | some toData => exact runs_placeCall hc₃ d isVideoCall

theorem runs_callMember (d : ℕ) (channelId timestamp : ℕ) (receiver : List Member)
    (isVideoCall : Bool) (element : Member) :
    Runs promise (callMember d (w.session d) (toString channelId) timestamp receiver isVideoCall
      element) w := by
  refine keeps_bind (keeps_getUser element.id) fun snap w₁ hw₁ hc₁ _ => ?_
  rw [← hw₁.session]
  cases snap with
  | none => exact keeps_throw
  | some toData => exact runs_placeCall hc₁ d isVideoCall

/-- A call to a group is placed member by member, each with a document read for this member; the
channel and the time are the same for all. -/
theorem runs_audioAndVideoCall (hc : Consistent w) (d : ℕ) (receiver : List Member)
    (isVideoCall : Bool) : Runs promise (audioAndVideoCall d receiver isVideoCall) w := by
  refine keeps_bind (keeps_sessionUser hc d) fun userData w₁ hw₁ hc₁ huser => ?_
  refine keeps_bind (keeps_nextInt hc₁ 1000) fun channelId w₂ hw₂ hc₂ _ => ?_
  refine keeps_bind (keeps_now hc₂) fun time w₃ hw₃ hc₃ _ => ?_
  refine runs_forEach hc₃ fun element _ w₄ hw₄ _ => ?_
  have hsession := (hw₁.trans (hw₂.trans (hw₃.trans hw₄))).session
  have huser₄ : userData = w₄.session d := by rw [huser, hsession]
  rw [huser₄]
  exact runs_callMember d channelId _ receiver isVideoCall element

/-! ## The history of calls -/

section History

variable {call : Call} {ids : Ids} {writer : Writer} {user : String} {u : Data}

theorem quiet_start (hc : Consistent w) (x : HistoryWrite) :
    Quiet w { w with writes := x :: w.writes } :=
  ⟨⟨List.Subset.refl _, List.subset_cons_self .., rfl⟩, ⟨hc.placed, hc.ctrl, hc.calling, hc.joined⟩,
    fun _ => rfl⟩

/-- A write that has been started takes effect. -/
theorem history_step {x : HistoryWrite} (hc : Consistent w) (pos : ℕ)
    (hp : promise (.history x) w) (hx : x ∈ w.writes) (hk : Known w.placed call)
    (hids : call.ids = some ids) (ht : ids.timestamp = x.timestamp)
    (hf : HistoryFields call ids x.writer x.user u) {w' : World}
    (hw' : w' = { w with
      store := w.store.setMerge (.history x.user) (toString x.timestamp) pos u }) :
    w.Extends w' ∧ Consistent w' ∧ Effect promise (.history x) w w' := by
  subst hw'
  refine ⟨⟨List.Subset.refl _, List.Subset.refl _, rfl⟩, ?_, .write x pos rfl hp hx hk hids ht hf⟩
  exact hc.of_history fun _ => Store.docs_setMerge_of_ne (by simp)

/-- A write to the history that nobody waits for. It is noted as started at once and takes effect
later, under a scope of its own, when the call it is about is still known. -/
theorem runs_writeHistory (hc : Consistent w) (hk : Known w.placed call)
    (hids : call.ids = some ids) (hf : HistoryFields call ids writer user u) :
    Runs promise (writeHistory writer user ids.timestamp u) w := by
  have hstart : Keeps promise
      (Async.modify fun w => { w with writes := ⟨writer, user, ids.timestamp⟩ :: w.writes }) w
      fun _ w' => ⟨writer, user, ids.timestamp⟩ ∈ w'.writes :=
    keeps_sync fun _ => ⟨quiet_start hc _, List.mem_cons_self ..⟩
  refine keeps_bind hstart fun _ w₁ hw₁ hc₁ hx => ?_
  rintro _ rfl
  refine Async.meets_spawn ?_ fun w' hw' hc' => ⟨rfl, hw', hc', trivial⟩
  refine Async.Meets.safe (Q := fun _ _ _ => True) ?_
  refine Async.meets_bind (Async.meets_enter (Async.meets_bind (Async.meets_pause ?_)))
  intro w₂ hw₂ hc₂ hp
  refine Async.meets_sync fun t => ?_
  by_cases hfail : t.fails
  · simp only [hfail, if_true]
    exact ⟨.refl w₂, hc₂, .refl _ _ _, trivial⟩
  · simp only [hfail, if_false, Bool.false_eq_true]
    have hk₂ := hk.mono (hw₁.trans hw₂).placed
    obtain ⟨hle, hinv, hstep⟩ := history_step (x := ⟨writer, user, ids.timestamp⟩) hc₂ t.pos hp
      (hw₂.writes hx) hk₂ hids rfl hf rfl
    exact ⟨hle, hinv, hstep, trivial⟩

/-- A write to the history that the handler waits for: the same step as in `runs_writeHistory`,
after which the handler leaves the scope of the write again. -/
theorem runs_awaitHistory (hc : Consistent w) (hk : Known w.placed call)
    (hids : call.ids = some ids) (hf : HistoryFields call ids writer user u) :
    Runs promise (awaitHistory writer user ids.timestamp u) w := by
  have hstart : Keeps promise
      (Async.modify fun w => { w with writes := ⟨writer, user, ids.timestamp⟩ :: w.writes }) w
      fun _ w' => ⟨writer, user, ids.timestamp⟩ ∈ w'.writes :=
    keeps_sync fun _ => ⟨quiet_start hc _, List.mem_cons_self ..⟩
  refine keeps_bind hstart fun _ w₁ hw₁ hc₁ hx => ?_
  rintro _ rfl
  refine Async.meets_bind (Async.meets_enter (Async.meets_bind (Async.meets_remote ?_)))
  intro w₂ hw₂ hc₂ hp t _
  have hk₂ := hk.mono (hw₁.trans hw₂).placed
  obtain ⟨hle, hinv, hstep⟩ := history_step (x := ⟨writer, user, ids.timestamp⟩) hc₂ t.pos hp
    (hw₂.writes hx) hk₂ hids rfl hf rfl
  refine ⟨hle, hinv, hstep, fun w₃ hw₃ hc₃ _ => ?_⟩
  exact Async.meets_enter ⟨rfl, hw₂.trans (hle.trans hw₃), hc₃, trivial⟩

/-- One write to the history for each user of a list, nobody waiting for any of them. By induction
on the list. -/
theorem runs_writeEach {users : List String} {u : String → Data} (hc : Consistent w)
    (hk : Known w.placed call) (hids : call.ids = some ids)
    (hf : ∀ user ∈ users, HistoryFields call ids writer user (u user)) :
    Runs promise (writeEach writer ids.timestamp users u) w := by
  induction users generalizing w with
  | nil => exact runs_pure hc
  | cons user users ih =>
    refine keeps_seq (runs_writeHistory hc hk hids (hf user (List.mem_cons_self ..)))
      fun w' hw' hc' => ?_
    exact ih hc' (hk.mono hw'.placed) fun user huser => hf user (List.mem_cons_of_mem _ huser)

/-- The end of a call for each user of a list: every write has a reading of the clock of its own. -/
theorem runs_endEach {users : List String} (hc : Consistent w) (hk : Known w.placed call)
    (hids : call.ids = some ids)
    (hf : ∀ user time, HistoryFields call ids writer user (endedFields time)) :
    Runs promise (endEach writer ids.timestamp users) w := by
  induction users generalizing w with
  | nil => exact runs_pure hc
  | cons user users ih =>
    refine keeps_bind (keeps_now hc) fun time w₁ hw₁ hc₁ _ => ?_
    have hk₁ := hk.mono hw₁.placed
    refine keeps_seq (runs_writeHistory hc₁ hk₁ hids (hf user time)) fun w₂ hw₂ hc₂ => ?_
    exact ih hc₂ (hk₁.mono hw₂.placed)

/-- The time of the answer for each user of a list, as `receiverPickedUp` of a call that is known.
-/
theorem runs_pickedUpEach {users : List String} (hc : Consistent w) (hk : Known w.placed call)
    (hids : call.ids = some ids) : Runs promise (pickedUpEach ids.timestamp users) w := by
  induction users generalizing w with
  | nil => exact runs_pure hc
  | cons user users ih =>
    refine keeps_bind (keeps_now hc) fun time w₁ hw₁ hc₁ _ => ?_
    have hk₁ := hk.mono hw₁.placed
    refine keeps_seq (runs_writeHistory hc₁ hk₁ hids (.receiverPickedUp user time))
      fun w₂ hw₂ hc₂ => ?_
    refine keeps_seq (runs_increment user _) fun w₃ hw₃ hc₃ => ?_
    exact ih hc₃ (hk₁.mono (hw₂.trans hw₃).placed)

end History

/-- A user other than the caller, in a call to one user. -/
theorem Call.mem_others {call : Call} {ids : Ids} {userData : User} {user : String}
    (h : user ∈ call.others ids userData) (hone : call.receiver = none) : user = ids.receiverId := by
  simpa [Call.others, hone] using h

/-! ## The callbacks of the engine -/

theorem runs_audioJoin (hc : Consistent w) (k : ℕ) :
    Runs promise (AudioCall.onJoinChannelSuccess k) w := by
  refine keeps_seq (runs_modifyFields hc k fun _ => rfl) fun w₁ _ hc₁ => ?_
  refine keeps_ctrlCall hc₁ k fun s call ids w₂ _ hc₂ hk hids => ?_
  simp only
  split
  · refine keeps_seq (runs_writeHistory hc₂ hk hids .audioJoinCaller) fun w₃ hw₃ hc₃ => ?_
    exact runs_writeHistory hc₃ (hk.mono hw₃.placed) hids .audioJoinReceiver
  · exact runs_pure hc₂

/-- The video screen has joined: a caller's screen begins the histories of the caller and of the
receivers, if the controller still has its call. -/
theorem runs_videoJoin (hc : Consistent w) (k : ℕ) :
    Runs promise (VideoCall.onJoinChannelSuccess k) w := by
  refine keeps_seq (runs_modifyFields hc k fun _ => rfl) fun w₁ _ hc₁ => ?_
  refine keeps_ctrlCall hc₁ k fun s call ids w₂ _ hc₂ hk hids => ?_
  refine keeps_seq (runs_modifyFields hc₂ k fun _ => rfl) fun w₃ hw₃ hc₃ => ?_
  have hk₃ := hk.mono hw₃.placed
  split
  · refine keeps_seq (runs_writeHistory hc₃ hk₃ hids (.videoJoinCaller _)) fun w₄ hw₄ hc₄ => ?_
    exact runs_writeEach hc₄ (hk₃.mono hw₄.placed) hids fun user huser =>
      .videoJoinReceiver _ user (Call.mem_others huser)
  · exact runs_pure hc₃

/-- The peer has joined an audio call: the times of both parties are written and both are counted,
if the controller still has its call. -/
theorem runs_audioUserJoined (hc : Consistent w) (k remoteUid : ℕ) :
    Runs promise (AudioCall.onUserJoined k remoteUid) w := by
  refine keeps_seq (runs_modifyFields hc k fun _ => rfl) fun w₁ _ hc₁ => ?_
  refine keeps_ctrlCall hc₁ k fun s call ids w₂ _ hc₂ hk hids => ?_
  simp only
  split
  · refine keeps_bind (keeps_now hc₂) fun time w₃ hw₃ hc₃ _ => ?_
    have hk₃ := hk.mono hw₃.placed
    refine keeps_seq (runs_writeHistory hc₃ hk₃ hids (.callerPickedUp time)) fun w₄ hw₄ hc₄ => ?_
    refine keeps_bind (keeps_now hc₄) fun time' w₅ hw₅ hc₅ _ => ?_
    have hk₅ := hk₃.mono (hw₄.trans hw₅).placed
    refine keeps_seq (runs_writeHistory hc₅ hk₅ hids (.receiverPickedUp _ time')) fun w₆ _ _ => ?_
    exact keeps_seq (runs_increment _ _) fun _ _ _ => runs_increment _ _
  · exact runs_pure hc₂

/-- Somebody has joined the video call: a caller's screen writes the time of the answer for the
caller, counts the user, and writes the time for the receivers. -/
theorem runs_videoUserJoined (hc : Consistent w) (k remoteUid : ℕ) :
    Runs promise (VideoCall.onUserJoined k remoteUid) w := by
  refine keeps_seq (runs_modifyFields hc k fun _ => rfl) fun w₁ _ hc₁ => ?_
  refine keeps_ctrlCall hc₁ k fun s call ids w₂ _ hc₂ hk hids => ?_
  simp only
  split
  · refine keeps_bind (keeps_now hc₂) fun time w₃ hw₃ hc₃ _ => ?_
    have hk₃ := hk.mono hw₃.placed
    refine keeps_seq (runs_writeHistory hc₃ hk₃ hids (.callerPickedUp time)) fun w₄ hw₄ hc₄ => ?_
    refine keeps_seq (runs_increment _ _) fun w₅ hw₅ hc₅ => ?_
    exact runs_pickedUpEach hc₅ (hk₃.mono (hw₄.trans hw₅).placed) hids
  · exact runs_pure hc₂

/-- The end of a call is written unless it has ended already. -/
theorem runs_unlessEnded {f : CallController → Call × Ids → Handler Unit} (hc : Consistent w) (k : ℕ)
    (hf : ∀ s call ids w', w.Extends w' → Consistent w' → Known w'.placed call →
      call.ids = some ids → Runs promise (f s (call, ids)) w') :
    Runs promise (do
      let s ← callCtrl k
      if s.isAlreadyEnded = false then do let x ← currentCall s; f s x else pure ()) w := by
  refine keeps_bind (keeps_callCtrl hc k) fun s w₁ hw₁ hc₁ hs => ?_
  split
  · refine keeps_bind (keeps_currentCall hc₁ hs) fun x w₂ hw₂ hc₂ hx => ?_
    exact hf s x.1 x.2 w₂ (hw₁.trans hw₂) hc₂ hx.1 hx.2
  · exact runs_pure hc₁

theorem runs_audioUserOffline (hc : Consistent w) (k : ℕ) :
    Runs promise (AudioCall.onUserOffline k) w :=
  keeps_seq (runs_modifyFields hc k fun _ => rfl) fun _ _ hc₁ =>
    runs_unlessEnded hc₁ k fun _ _ _ _ _ hc₂ hk hids =>
      runs_endEach hc₂ hk hids .onUserOffline

theorem runs_videoUserOffline (hc : Consistent w) (k : ℕ) :
    Runs promise (VideoCall.onUserOffline k) w :=
  keeps_seq (runs_modifyFields hc k fun _ => rfl) fun _ _ hc₁ =>
    runs_unlessEnded hc₁ k fun _ _ _ _ _ hc₂ hk hids =>
      runs_endEach hc₂ hk hids .onUserOffline

theorem runs_audioLeaveChannel (hc : Consistent w) (k : ℕ) :
    Runs promise (AudioCall.onLeaveChannel k) w :=
  keeps_seq (runs_modifyFields hc k fun _ => rfl) fun _ _ hc₁ =>
    runs_unlessEnded hc₁ k fun _ _ _ _ _ hc₂ hk hids =>
      runs_endEach hc₂ hk hids .onLeaveChannel

theorem runs_videoLeaveChannel (hc : Consistent w) (k : ℕ) :
    Runs promise (VideoCall.onLeaveChannel k) w :=
  keeps_seq (runs_modifyFields hc k fun _ => rfl) fun _ _ hc₁ =>
    runs_unlessEnded hc₁ k fun _ _ _ _ _ _ hk hids =>
      keeps_seq (runs_spawn (runs_addBlank _)) fun _ hw₃ hc₃ =>
        runs_endEach hc₃ (hk.mono hw₃.placed) hids .onLeaveChannel

theorem runs_toggleMute (hc : Consistent w) (k : ℕ) : Runs promise (onToggleMute k) w :=
  keeps_seq (runs_modifyFields hc k fun _ => rfl) fun _ _ hc₁ =>
    keeps_ctrlCall hc₁ k fun s _ _ _ _ hc₂ hk hids =>
      runs_writeHistory hc₂ hk hids (.onToggleMute s.userData.id s.muted)

/-! ## Ending a call -/

theorem keeps_deleteFirst (user : String) (party : Key) :
    Keeps promise (deleteFirst user party) w fun _ _ => True := by
  refine keeps_bind (keeps_getFirst _ _ _) fun value w₁ _ hc₁ _ => ?_
  match value with
  | none => exact keeps_pure hc₁ trivial
  | some none => exact keeps_pure hc₁ trivial
  | some (some doc) =>
    exact keeps_seq (runs_spawn (runs_deleteCalling user doc.id)) fun _ _ hc₂ => keeps_pure hc₂ trivial

theorem keeps_audioEndCall (ids : Ids) :
    Keeps promise (AudioCall.endCall ids) w fun _ _ => True := by
  refine keeps_bind (keeps_deleteFirst _ _) fun found w₁ _ hc₁ _ => ?_
  split
  · exact keeps_deleteFirst _ _
  · exact keeps_pure hc₁ trivial

theorem keeps_videoEndCall (hc : Consistent w) (call : Call) (ids : Ids) :
    Keeps promise (VideoCall.endCall call ids) w fun _ _ => True := by
  unfold VideoCall.endCall
  split
  · refine keeps_seq (runs_forEach hc fun element _ w' _ _ => ?_) fun _ _ _ => keeps_deleteFirst _ _
    exact keeps_bind (keeps_deleteFirst _ _) fun _ _ _ hc' _ => runs_pure hc'
  · exact keeps_audioEndCall ids

/-- The red button of an audio call. If the peer has joined, the end is written for both and
awaited; if not, the documents in `calling` are removed first and the end is written afterwards. -/
theorem runs_audioCallEnd (hc : Consistent w) (k : ℕ) :
    Runs promise (AudioCall.onCallEnd k) w := by
  refine keeps_bind (keeps_now hc) fun time w₁ _ hc₁ _ => ?_
  refine keeps_ctrlCall hc₁ k fun s call ids w₂ _ hc₂ hk hids => ?_
  simp only
  split
  · refine keeps_seq (runs_awaitHistory hc₂ hk hids (.ended false _ time)) fun w₃ hw₃ hc₃ => ?_
    exact runs_awaitHistory hc₃ (hk.mono hw₃.placed) hids (.ended false _ time)
  · refine keeps_bind (keeps_audioEndCall ids) fun _ w₃ _ hc₃ _ => ?_
    refine keeps_ctrlCall hc₃ k fun s call ids w₄ _ hc₄ hk hids => ?_
    refine keeps_bind (keeps_now hc₄) fun later w₅ hw₅ hc₅ _ => ?_
    have hk₅ := hk.mono hw₅.placed
    refine keeps_seq (runs_writeHistory hc₅ hk₅ hids (.audioEndCaller later)) fun w₆ hw₆ hc₆ => ?_
    exact runs_writeHistory hc₆ (hk₅.mono hw₆.placed) hids (.audioEndReceiver time)

/-- What `onCallEnd` of a call to a group leaves in `calling`. -/
theorem runs_endCalling (hc : Consistent w) (timestamp time : ℕ) (nameList : String)
    (receiver : List Member) : Runs promise (endCalling timestamp time nameList receiver) w := by
  induction receiver generalizing w with
  | nil => exact runs_pure hc
  | cons element receiver ih =>
    exact keeps_seq (runs_setMergeCalling ⟨rfl, rfl, rfl⟩) fun _ _ hc' => ih hc'

/-- The red button of a video call. The end of a group call goes into `calling`, for every member;
that of a call between two users into the history of both. -/
theorem runs_videoCallEnd (hc : Consistent w) (k : ℕ) :
    Runs promise (VideoCall.onCallEnd k) w := by
  refine keeps_ctrlCall hc k fun s call ids w₁ _ hc₁ _ _ => ?_
  refine keeps_bind (keeps_videoEndCall hc₁ call ids) fun _ w₂ _ hc₂ _ => ?_
  refine keeps_bind (keeps_now hc₂) fun time w₃ _ hc₃ _ => ?_
  refine keeps_ctrlCall hc₃ k fun s call ids w₄ _ hc₄ hk hids => ?_
  simp only
  split
  · exact keeps_seq (runs_endCalling hc₄ _ _ _ _) fun _ _ hc₅ =>
      runs_modifyFields hc₅ k fun _ => rfl
  · refine keeps_seq (runs_writeHistory hc₄ hk hids (.ended true _ time)) fun w₅ hw₅ hc₅ => ?_
    have hend : HistoryFields call ids (.onCallEnd true) ids.receiverId (endedFields time) :=
      .ended true _ time
    exact keeps_seq (runs_writeHistory hc₅ (hk.mono hw₅.placed) hids hend) fun _ _ hc₆ =>
      runs_modifyFields hc₆ k fun _ => rfl

theorem runs_endButton (hc : Consistent w) (k : ℕ) (status : Option String) :
    Runs promise (endButton k status) w := by
  refine keeps_seq (runs_modifyFields hc k fun _ => rfl) fun w₁ _ hc₁ => ?_
  refine keeps_bind (keeps_callCtrl hc₁ k) fun s w₂ _ hc₂ _ => ?_
  split
  · exact runs_videoCallEnd hc₂ k
  · exact runs_audioCallEnd hc₂ k

/-! ## Picking up -/

/-- A call that is offered has been placed: the document the layout takes is one of `calling`, and
these are of calls that are known. -/
theorem keeps_offeredCall (hc : Consistent w) (d : ℕ) :
    Keeps promise (offeredCall d) w fun offered w' =>
      ∀ call, offered = some call → Known w'.placed call := by
  refine keeps_bind (keeps_sessionUser hc d) fun user w₁ _ hc₁ _ => ?_
  refine keeps_bind (Q := fun docs w' => ∀ doc, docs = some doc →
    Pending w'.placed user.id doc) ?_ fun docs w₂ _ hc₂ hdocs => ?_
  · refine keeps_remote fun w' _ hc' t => ⟨.refl hc', fun w'' hw'' _ doc hdoc => ?_⟩
    exact (hc'.calling user.id doc (List.mem_of_head? hdoc)).mono hw''.placed
  · match docs with
    | none => exact keeps_pure hc₂ fun _ h => by cases h
    | some doc =>
      have hdoc := hdocs doc rfl
      simp only
      split
      · exact keeps_throw
      · exact keeps_pure hc₂ fun _ h => by cases h
      · next hdialled =>
        refine keeps_pure hc₂ fun call h => ?_
        cases h
        rcases hdoc with ⟨-, -, hnone⟩ | ⟨p, hp, hstored⟩
        · simp [Call.fromMap, hnone, Value.toBool?] at hdialled
        · exact hstored.known hp

theorem runs_accept (hc : Consistent w) (d : ℕ) : Runs promise (accept d) w := by
  refine keeps_bind (keeps_offeredCall hc d) fun offered w₁ _ hc₁ hoffered => ?_
  match offered with
  | none => exact runs_pure hc₁
  | some call =>
    simp only
    split
    · exact keeps_throw
    · exact runs_toCall hc₁ d _ _ (hoffered call rfl)

/-- The red button of an incoming call: the documents in `calling` are removed, and the rejection
goes into the histories of caller and receiver. -/
theorem runs_rejectCall (hc : Consistent w) (d : ℕ) {call : Call} {ids : Ids}
    (hk : Known w.placed call) (hids : call.ids = some ids) :
    Runs promise (rejectCall d call ids) w := by
  refine keeps_bind (keeps_putCtrl hc d true) fun _ w₁ hw₁ hc₁ _ => ?_
  refine keeps_bind (keeps_videoEndCall hc₁ call ids) fun _ w₂ hw₂ hc₂ _ => ?_
  refine keeps_bind (keeps_now hc₂) fun time w₃ hw₃ hc₃ _ => ?_
  have hk₃ := hk.mono (hw₁.trans (hw₂.trans hw₃)).placed
  refine keeps_seq (runs_writeHistory hc₃ hk₃ hids (.rejectCaller time)) fun w₄ hw₄ hc₄ => ?_
  refine keeps_bind (keeps_now hc₄) fun time' w₅ hw₅ hc₅ _ => ?_
  exact runs_writeHistory hc₅ (hk₃.mono (hw₄.trans hw₅).placed) hids (.rejectReceiver time')

theorem runs_reject (hc : Consistent w) (d : ℕ) : Runs promise (reject d) w := by
  refine keeps_bind (keeps_offeredCall hc d) fun offered w₁ _ hc₁ hoffered => ?_
  match offered with
  | none => exact runs_pure hc₁
  | some call =>
    simp only
    split
    · exact keeps_throw
    · next ids hids => exact runs_rejectCall hc₁ d (hoffered call rfl) hids

/-! ## The system -/

theorem runs_onCtrl {audio video : Handler Unit} (hc : Consistent w) (k : ℕ)
    (haudio : ∀ w', Consistent w' → Runs promise audio w')
    (hvideo : ∀ w', Consistent w' → Runs promise video w') :
    Runs promise (onCtrl k audio video) w := by
  refine keeps_bind (keeps_callCtrl hc k) fun s w₁ _ hc₁ _ => ?_
  split
  · exact hvideo w₁ hc₁
  · exact haudio w₁ hc₁

/-- Every handler keeps the protocol of calls, in every state: whatever it writes into `calling` and
the history is of a call that has been placed. One case for each handler of the two controllers. -/
theorem runs_action (hc : Consistent w) (a : Action) : Runs promise a.body w := by
  cases a with
  | saveUser user =>
    refine runs_modify ⟨⟨List.Subset.refl _, List.Subset.refl _, rfl⟩, ?_, fun _ => rfl⟩
    exact ⟨hc.placed, hc.ctrl, hc.calling, hc.joined⟩
  | audioAndVideoCallApi d toData isVideoCall => exact runs_audioAndVideoCallApi hc d _ _
  | audioAndVideoCall d receiver isVideoCall => exact runs_audioAndVideoCall hc d _ _
  | accept d => exact runs_accept hc d
  | reject d => exact runs_reject hc d
  | removeCtrl d isVideo => exact runs_modify (quiet_ctrl hc hc.ctrl)
  | onJoinChannelSuccess k =>
    exact runs_onCtrl hc k (fun _ h => runs_audioJoin h k) fun _ h => runs_videoJoin h k
  | onUserJoined k uid =>
    exact runs_onCtrl hc k (fun _ h => runs_audioUserJoined h k uid)
      fun _ h => runs_videoUserJoined h k uid
  | onUserOffline k =>
    exact runs_onCtrl hc k (fun _ h => runs_audioUserOffline h k)
      fun _ h => runs_videoUserOffline h k
  | onLeaveChannel k =>
    exact runs_onCtrl hc k (fun _ h => runs_audioLeaveChannel h k)
      fun _ h => runs_videoLeaveChannel h k
  | onToggleMute k => exact runs_toggleMute hc k
  | onCallEnd k status => exact runs_endButton hc k status

/-- The configuration in which nothing has happened yet. -/
def start (users : String → Option User) (session : ℕ → User) (agoraToken : ℕ → Option String) :
    Config World Scope :=
  { world := World.initial users session agoraToken }

section Runs

variable {c : Config World Scope}

theorem provides_action {e : Event Action} (hc : c.Kept (callProtocol fun _ _ => True)) :
    calling.Provides (callProtocol fun _ _ => True) c e := by
  cases e with
  | call a ticks => exact (runs_action hc.inv a).safe
  | resume i ticks => exact fun _ _ => trivial

theorem start_kept (users : String → Option User) (session : ℕ → User)
    (agoraToken : ℕ → Option String) :
    (start users session agoraToken).Kept (callProtocol fun _ _ => True) :=
  ⟨consistent_initial users session agoraToken, fun _ hth => absurd hth List.not_mem_nil⟩

/-- Every run keeps the world consistent. -/
theorem calls_consistent {users : String → Option User} {session : ℕ → User}
    {agoraToken : ℕ → Option String} {es : List (Event Action)}
    (h : calling.Run calling.admits (start users session agoraToken) es c) : Consistent c.world :=
  (h.safe (start_kept users session agoraToken) fun _ _ hc _ => provides_action hc).inv

end Runs

/-! ## Some users -/

/-- A user document. -/
def person (name : String) : User :=
  { id := name, name := some name, image := some "", pushToken := some "token" }

/-- Alice, Bob and Carol have a device each. -/
def deviceUser (d : ℕ) : User :=
  person (if d = 0 then "alice" else if d = 1 then "bob" else "carol")

/-- Nothing has happened yet among the three. -/
def threeUsers : Config World Scope :=
  start (fun id => some (person id)) deviceUser fun _ => some "token"

/-- A handler that is started and carried on by itself. -/
def alone (time : ℕ) (a : Action) : List (Event Action) :=
  .call a (fun n => ⟨time + n, 0, false⟩) ::
    List.replicate 40 (.resume 0 fun n => ⟨time + n, 0, false⟩)

/-- Alice calls Bob at a given time, and her device has joined. -/
def aliceCallsBob (isVideoCall : Bool) (time : ℕ) : List (Event Action) :=
  alone time (.audioAndVideoCallApi 0 (some (person "bob")) isVideoCall) ++
    alone (time + 1000) (.onJoinChannelSuccess 0)

end FlutterTheme.Calls
