import FlutterTheme.Effect
import FlutterTheme.Chat

/-!
# The handlers of a chat screen keep the protocol

One lemma for each Firestore call and one for each handler of `Chat`: it relies on
`World.Evolves`, keeps `Consistent`, and does only what `Effect` lists. `Keeps` is
the form for the parts of a handler that hand on nothing but a later world.
-/

namespace FlutterTheme

open EventLoop DocStore

variable {π : Terms} {l : Scope} {w w' : World} {α β : Type}

/-! ## Firestore calls -/

/-- The call keeps the protocol and ends in the same scope in a later world. -/
def Keeps (π : Terms) (m : Call Unit) (l : Scope) (w : World) : Prop :=
  m.Meets (clientProtocol π) l w fun l' _ w' => l' = l ∧ w.Evolves w' ∧ Consistent w'

/-- The call keeps the protocol to its end. -/
def Runs (π : Terms) (m : Call Unit) (l : Scope) (w : World) : Prop :=
  m.Meets (clientProtocol π) l w fun _ _ _ => True

theorem Keeps.runs {m : Call Unit} (h : Keeps π m l w) : Runs π m l w :=
  Async.Meets.mono h fun _ _ _ _ => trivial

theorem Runs.safe {m : Call Unit} (h : Runs π m l w) : m.task.Safe (clientProtocol π) l w :=
  Async.Meets.safe h

/-- What is needed after a call that `Keeps` the protocol. -/
theorem Keeps.bind {m : Call Unit} {f : Unit → Call β} {Q : Scope → β → World → Prop}
    (hm : Keeps π m l w)
    (hf : ∀ w', w.Evolves w' → Consistent w' → (f ()).Meets (clientProtocol π) l w' Q) :
    (m >>= f).Meets (clientProtocol π) l w Q := by
  refine Async.meets_bind (Async.Meets.mono hm ?_)
  rintro _ _ w' ⟨rfl, hw, hc⟩
  exact hf w' hw hc

theorem Keeps.trans {m m' : Call Unit} (hm : Keeps π m l w)
    (hm' : ∀ w', w.Evolves w' → Consistent w' → Keeps π m' l w') : Keeps π (m >>= fun _ => m') l w :=
  hm.bind fun w' hw hc => Async.Meets.mono (hm' w' hw hc) fun _ _ _ h => ⟨h.1, hw.trans h.2.1, h.2.2⟩

theorem keeps_pure (hc : Consistent w) : Keeps π (pure ()) l w :=
  Async.meets_pure ⟨rfl, .refl w, hc⟩

theorem keeps_throw : Keeps π Async.throw l w := Async.meets_throw

/-- A spawned call has to be safe; its caller goes on in a later world. -/
theorem keeps_spawn {m : Call Unit} (hm : Runs π m l w) : Keeps π (Async.spawn m) l w :=
  Async.meets_spawn hm.safe fun _ hw hc => ⟨rfl, hw, hc⟩

/-- Calls for all elements of a list, none of them awaited. -/
theorem keeps_forEach {as : List α} {f : α → Call Unit} (hc : Consistent w)
    (hf : ∀ a ∈ as, ∀ w', w.Evolves w' → Consistent w' → Runs π (f a) l w') :
    Keeps π (Async.forEach as f) l w :=
  Async.meets_forEach hc (fun a ha w' hw hc' => (hf a ha w' hw hc').safe)
    fun _ hw hc' => ⟨rfl, hw, hc'⟩

theorem meets_get {g : World → α} {Q : Scope → α → World → Prop} (hc : Consistent w)
    (h : Q l (g w) w) : (Async.get g).Meets (clientProtocol π) l w Q :=
  Async.meets_get hc h

theorem meets_millisecondsSinceEpoch {Q : Scope → String → World → Prop} (hc : Consistent w)
    (h : ∀ stamp, IsStamp stamp → Q l stamp w) :
    millisecondsSinceEpoch.Meets (clientProtocol π) l w Q :=
  Async.meets_sync fun t =>
    ⟨.refl w, hc, .refl π l w, h (toString (t.now / 1000)) ⟨t.now / 1000, rfl⟩⟩

/-- A query answers with documents of an intermediate world. -/
theorem meets_getDocs {p : Path} {q : Data → Bool} {Q : Scope → List Document → World → Prop}
    (h : ∀ w' w'', w.Evolves w' → Consistent w' → w'.Evolves w'' → Consistent w'' →
      Q l (w'.store.query p q) w'') : (getDocs p q).Meets (clientProtocol π) l w Q :=
  Async.meets_remote fun w' hw hc _ _ _ =>
    ⟨.refl w', hc, .refl π l w', fun w'' hw' hc' _ => h w' w'' hw hc hw' hc'⟩

theorem meets_getDoc {p : Path} {id : DocId} {Q : Scope → Option Document → World → Prop}
    (h : ∀ w' w'', w.Evolves w' → Consistent w' → w'.Evolves w'' → Consistent w'' →
      Q l (w'.store.doc? p id) w'') : (getDoc p id).Meets (clientProtocol π) l w Q :=
  Async.meets_remote fun w' hw hc _ _ _ =>
    ⟨.refl w', hc, .refl π l w', fun w'' hw' hc' _ => h w' w'' hw hc hw' hc'⟩

/-- A remote operation that changes nothing. -/
theorem keeps_remote_skip : Keeps π (Async.remote fun _ w => ((), w)) l w :=
  Async.meets_remote fun w' hw hc _ _ _ =>
    ⟨.refl w', hc, .refl π l w', fun _ hw' hc' _ => ⟨rfl, hw.trans hw', hc'⟩⟩

/-- The same, when what follows goes on after a failure. -/
theorem keeps_attempt_skip {f : Option Unit → Call Unit}
    (hf : ∀ answer w', w.Evolves w' → Consistent w' → Keeps π (f answer) l w') :
    Keeps π (Async.attempt (fun _ w => ((), w)) >>= f) l w := by
  have hnext : ∀ answer w', w.Evolves w' → Consistent w' → (f answer).Meets (clientProtocol π) l w'
      fun l' _ w'' => l' = l ∧ w.Evolves w'' ∧ Consistent w'' := fun answer w' hw hc =>
    Async.Meets.mono (hf answer w' hw hc) fun _ _ _ h => ⟨h.1, hw.trans h.2.1, h.2.2⟩
  refine Async.meets_bind (Async.meets_attempt (fun w' hw hc _ t _ => ?_) fun w' hw hc _ => ?_)
  · exact ⟨.refl w', hc, .refl π l w', fun w'' hw' hc' _ => hnext _ w'' (hw.trans hw') hc'⟩
  · exact hnext none w' hw hc

/-- A write that is permitted whenever it takes effect. -/
theorem meets_write {f : Tick → World → α × World} {Q : Scope → α → World → Prop}
    {op : Tick → Write Path Key Value}
    (hf : ∀ t w', (f t w').2 = { w' with store := w'.store.write (op t) })
    (hop : ∀ w', w.Evolves w' → Consistent w' → ∀ t, Permits w' l (op t))
    (h : ∀ t w' w'', w.Evolves w'' → Consistent w'' → Q l (f t w').1 w'') :
    (Async.remote f).Meets (clientProtocol π) l w Q := by
  refine Async.meets_remote fun w' hw hc hp t _ => ?_
  have hperm := hop w' hw hc t
  have hev : w'.Evolves (f t w').2 := by rw [hf]; exact .of_store hperm.keeps
  refine ⟨hev, ?_, ?_, fun w'' hw' hc' _ => h t w' w'' (hw.trans (hev.trans hw')) hc'⟩
  · rw [hf]; exact hperm.consistent hc
  · rw [hf]; exact .write (op t) hp hperm

theorem keeps_add {p : Path} {d : Data}
    (hop : ∀ w', w.Evolves w' → Consistent w' → ∀ pos, Permits w' l (.add p pos d)) :
    Keeps π (add p d) l w :=
  meets_write (fun _ _ => rfl) (fun w' hw hc t => hop w' hw hc t.pos)
    fun _ _ _ hw hc => ⟨rfl, hw, hc⟩

theorem keeps_set {p : Path} {name : String} {d : Data}
    (hop : ∀ w', w.Evolves w' → Consistent w' → ∀ pos, Permits w' l (.set p name pos d)) :
    Keeps π (set p name d) l w :=
  meets_write (fun _ _ => rfl) (fun w' hw hc t => hop w' hw hc t.pos)
    fun _ _ _ hw hc => ⟨rfl, hw, hc⟩

theorem keeps_delete {p : Path} {id : DocId}
    (hop : ∀ w', w.Evolves w' → Consistent w' → Permits w' l (.delete p id)) :
    Keeps π (delete p id) l w :=
  meets_write (fun _ _ => rfl) (fun w' hw hc _ => hop w' hw hc) fun _ _ _ hw hc => ⟨rfl, hw, hc⟩

theorem keeps_update {p : Path} {id : DocId} {u : Data}
    (hop : ∀ w', w.Evolves w' → Consistent w' → Permits w' l (.update p id u)) :
    Keeps π (update p id u) l w := by
  refine Async.meets_bind (meets_write (fun _ _ => rfl) (fun w' hw hc _ => hop w' hw hc) ?_)
  intro _ w₁ w' hw hc
  split
  · exact Async.meets_pure ⟨rfl, hw, hc⟩
  · exact Async.meets_throw

theorem keeps_sendNotification (n : Notification) : Keeps π (sendNotification n) l w := by
  refine Async.meets_bind (Async.meets_attempt ?_ ?_)
  · intro w' hw hc hp _ _
    refine ⟨.of_notifications n, { hc with }, .notify n hp, ?_⟩
    exact fun w'' hw' hc' _ =>
      Async.meets_pure ⟨rfl, hw.trans ((World.Evolves.of_notifications n).trans hw'), hc'⟩
  · exact fun w' hw hc _ => Async.meets_pure ⟨rfl, hw, hc⟩

/-! ## Screens -/

/-- A change of the controllers alone. -/
theorem keeps_screens {f : World → World} (hev : w.Evolves (f w)) (hcon : Consistent (f w))
    (hscreens : Effect π l w (f w)) : Keeps π (Async.modify f) l w :=
  Async.meets_modify hev hcon hscreens ⟨rfl, hev, hcon⟩

/-- A change of a chat screen that leaves it sound. -/
theorem keeps_modifyChat {c : ℕ} {f : ChatController → ChatController} (hc : Consistent w)
    (hl : (w.chatCtrl.get c).Later (f (w.chatCtrl.get c)))
    (hs : c < w.chatCtrl.size → (w.chatCtrl.get c).Sound w.minted →
      (f (w.chatCtrl.get c)).Sound w.minted) : Keeps π (modifyChat c f) l w := by
  have hev : w.Evolves { w with chatCtrl := w.chatCtrl.modify c f } :=
    .of_chat (Heap.evolves_modify ChatController.Later.refl _ _ hl) w.currentChat
  have hcon : Consistent { w with chatCtrl := w.chatCtrl.modify c f } :=
    { hc with chat := Heap.forall_modify hc.chat hs }
  exact keeps_screens hev hcon (.screens rfl rfl rfl rfl)

theorem keeps_setLoading {c : ℕ} {isLoading : Bool} (hc : Consistent w) :
    Keeps π (setLoading c isLoading) l w :=
  keeps_modifyChat hc ⟨rfl, rfl, fun _ => rfl⟩ fun _ h => { h with }

theorem keeps_clearInput {c : Option ℕ} (hc : Consistent w) : Keeps π (clearInput c) l w := by
  cases c with
  | none => exact keeps_pure hc
  | some c => exact keeps_modifyChat hc ⟨rfl, rfl, fun _ => rfl⟩ fun _ h => { h with }

/-- The screen `c` is open, and `s` is what it was at some earlier time. -/
def Shows (w : World) (c : ℕ) (s : ChatController) : Prop :=
  c < w.chatCtrl.size ∧ s.Later (w.chatCtrl.get c)

theorem Shows.later {c : ℕ} {s : ChatController} (h : Shows w c s) (hw : w.Evolves w') :
    Shows w' c s :=
  ⟨lt_of_lt_of_le h.1 hw.chat.1, h.2.trans (hw.chat.2 c h.1)⟩

/-! ## The inbox entry of a conversation -/

/-- The documents are inbox entries of `x` with the value `v` under the key `k`,
and stay so. -/
def Found (w : World) (x : String) (k : Key) (v : Value) (docs : List Document) : Prop :=
  ∀ d ∈ docs, ∀ w', w.Evolves w' → ∀ d' ∈ w'.store.docs (.chats x), d'.id = d.id →
    d'.data k = some v

/-- What a query for an identifier has found. -/
theorem found_query {x : String} {k : Key} {v : Value} (hk : k ∈ [.chatId, .groupId, .broadcastId])
    (hw : w.Evolves w') :
    Found w' x k v (w.store.query (.chats x) (Fields.isEqualTo k v)) := by
  intro d hd w'' hw' d' hd' hid
  obtain ⟨hd, hq⟩ := (Store.mem_query _).mp hd
  have hids := (hw.trans hw').entry_of_id hd hd' hid
  simp only [entryIds, Prod.mk.injEq] at hids
  obtain ⟨h₁, h₂, h₃⟩ := hids
  rw [← Fields.isEqualTo_iff.mp hq]
  simp only [List.mem_cons, List.not_mem_nil, or_false] at hk
  rcases hk with rfl | rfl | rfl
  · exact h₁
  · exact h₂
  · exact h₃

section Save

variable {u p c x : String} {isBlock isBroadcast : Bool}

/-- An entry is saved in the place of what the query has found: the document found is of the user
and of the conversation, and a new one is registered. -/
theorem keeps_saveFirst {docs : List Document} {stamp content : String}
    (hl : Saves w l u p c x isBlock isBroadcast) (hreg : (c, s(u, p)) ∈ w.minted)
    (hdocs : Found w x .chatId (.str c) docs) (hstamp : IsStamp stamp) (hne : content ≠ "") :
    Keeps π (saveFirst (.chats x) docs
      (inboxFields stamp x (.str p) c content u isBlock isBroadcast)) l w := by
  cases docs with
  | nil => exact keeps_add fun w' hw _ _ => .addEntry (hl.later hw) (hw.mem_minted hreg) hstamp hne
  | cons d docs =>
    refine keeps_update fun w' hw _ =>
      .updateEntry (hl.later hw) (hw.mem_minted hreg) ?_ hstamp hne
    exact hdocs d (List.mem_cons_self ..) w' hw

/-- The entry of one user after a message of a registered conversation: it is updated where the
query has found it and added otherwise, and the text field of the peer is cleared. -/
theorem keeps_saveMessageInUserCollection {d : ℕ} {content : String} (hc : Consistent w)
    (hl : Saves w l u p c x isBlock isBroadcast) (hreg : (c, s(u, p)) ∈ w.minted)
    (hne : content ≠ "") :
    Keeps π (saveMessageInUserCollection d x (.str p) c content u isBlock isBroadcast) l w := by
  refine Async.meets_bind (meets_get hc ?_)
  refine Async.meets_bind (meets_getDocs ?_)
  intro w₁ w₂ hw₁ _ hw₂ hc₂
  have hw := hw₁.trans hw₂
  refine Async.meets_bind (meets_millisecondsSinceEpoch hc₂ fun stamp hstamp => ?_)
  have hsave : Keeps π (saveFirst (.chats x)
      (w₁.store.query (.chats x) (Fields.isEqualTo .chatId (.str c)))
      (inboxFields stamp x (.str p) c content u isBlock isBroadcast)) l w₂ :=
    keeps_saveFirst (hl.later hw) (hw.mem_minted hreg) (found_query (by simp) hw₂) hstamp hne
  refine Async.Meets.mono (hsave.trans fun w₃ _ hc₃ => keeps_clearInput hc₃) ?_
  exact fun _ _ _ h => ⟨h.1, hw.trans h.2.1, h.2.2⟩

end Save

/-! ## Opening a chat screen -/

section Seen

variable {u p cid x : String}

/-- Marking an entry as seen: the document that was found belongs to one of the two users and
carries their `chatId`, then and when the update arrives. -/
theorem keeps_seenInbox (hx : x = u ∨ x = p) (hreg : (cid, s(u, p)) ∈ w.minted) :
    Keeps π (seenInbox x cid) (.seen u p cid) w := by
  refine Async.meets_bind (meets_getDocs ?_)
  intro w₁ w₂ hw₁ _ hw₂ hc₂
  have hw := hw₁.trans hw₂
  have hfound : Found w₂ x .chatId (.str cid)
      (w₁.store.query (.chats x) (Fields.isEqualTo .chatId (.str cid))) :=
    found_query (by simp) hw₂
  cases hdocs : w₁.store.query (.chats x) (Fields.isEqualTo .chatId (.str cid)) with
  | nil => exact Async.meets_pure ⟨rfl, hw, hc₂⟩
  | cons d docs =>
    rw [hdocs] at hfound
    have hup : Keeps π (update (.chats x) d.id (.ofList [(.isSeen, .bool true)])) (.seen u p cid)
        w₂ :=
      keeps_update fun w' hw' _ => .seen hx ((hw.trans hw').mem_minted hreg)
        (hfound d (List.mem_cons_self ..) w' hw')
    exact Async.Meets.mono hup fun _ _ _ h => ⟨h.1, hw.trans h.2.1, h.2.2⟩

/-- On the screen `c` with the user `u`, the peer `p` and the conversation `cid`. -/
theorem runs_seenMessage {c : ℕ} {s : ChatController} (hc : Consistent w) (hs : Shows w c s)
    (hu : s.userData.id = u) (hp : s.pId = p) (hcid : s.chatId = cid) (h0 : cid ≠ "0") :
    Runs π (seenMessage c) (.seen u p cid) w := by
  refine Async.meets_bind (meets_get hc ?_)
  obtain ⟨hlt, hl⟩ := hs
  have hsound := hc.chat c hlt
  have hu' : (w.chatCtrl.get c).userData.id = u := by rw [hl.userData, hu]
  have hp' : (w.chatCtrl.get c).pId = p := by rw [hl.pId, hp]
  have hcid' : (w.chatCtrl.get c).chatId = cid := by rw [hl.chatId (hcid ▸ h0), hcid]
  have hreg := hsound.chatId.resolve_left (by rw [hcid']; exact h0)
  rw [hu', hp', hcid'] at hreg
  rw [if_neg hsound.peer, hu', hp', hcid']
  refine (keeps_pure hc).bind fun w₁ hw₁ _ => ?_
  have hreg₁ := hw₁.mem_minted hreg
  refine (keeps_spawn (keeps_seenInbox (Or.inl rfl) hreg₁).runs).bind fun w₂ hw₂ _ => ?_
  exact (keeps_spawn (keeps_seenInbox (Or.inr rfl) (hw₂.mem_minted hreg₁)).runs).runs

end Seen

theorem runs_lookUpEntry {c : ℕ} {s : ChatController} (hs : Shows w c s) (h0 : s.chatId ≠ "0") :
    Keeps π (lookUpEntry c s) (.seen s.userData.id s.pId s.chatId) w := by
  refine Async.meets_bind (meets_getDocs ?_)
  intro w₁ w₂ hw₁ _ hw₂ hc₂
  have hw := hw₁.trans hw₂
  refine Async.Meets.mono (keeps_spawn (runs_seenMessage hc₂ (hs.later hw) rfl rfl rfl h0)) ?_
  exact fun _ _ _ h => ⟨h.1, hw.trans h.2.1, h.2.2⟩

/-- The user document that is loaded is the peer's. -/
theorem Consistent.doc?_users {uid : String} (hc : Consistent w) {d : Document}
    (hd : w.store.doc? .users (.named uid) = some d) : d.data .id = some (.str uid) := by
  obtain ⟨hmem, hid⟩ := Store.mem_of_doc? _ hd
  obtain ⟨uid', hid', hdata⟩ := hc.docs .users d hmem
  rw [hid] at hid'
  cases hid'
  exact hdata

/-- `getChatData` marks nothing before the conversation has an id, and keeps the document of the
peer as `pData`; the peer of a screen never changes, so it is the right one when it comes. -/
theorem runs_getChatData {c : ℕ} (hc : Consistent w) (hlt : c < w.chatCtrl.size) :
    Runs π (getChatData c) l w := by
  refine Async.meets_bind (meets_get hc ?_)
  have hshow : Shows w c (w.chatCtrl.get c) := ⟨hlt, .refl _⟩
  generalize w.chatCtrl.get c = s at hshow ⊢
  refine Async.meets_bind (Async.meets_enter ?_)
  have hlook : Keeps π (if s.chatId ≠ "0" then lookUpEntry c s else pure ())
      (.seen s.userData.id s.pId s.chatId) w := by
    split
    · next h0 => exact runs_lookUpEntry hshow h0
    · exact keeps_pure hc
  refine hlook.bind fun w₁ hw₁ _ => ?_
  refine Async.meets_bind (meets_getDoc ?_)
  intro w₂ w₃ hw₂ hc₂ hw₃ hc₃
  have hshow' := hshow.later (hw₁.trans (hw₂.trans hw₃))
  refine (keeps_modifyChat hc₃ ⟨rfl, rfl, fun _ => rfl⟩ fun _ hsound => ?_).runs
  refine { hsound with pData := ?_ }
  intro d hd
  obtain ⟨doc, hdoc, rfl⟩ := Option.map_eq_some_iff.mp hd
  rw [hshow'.2.pId]
  exact hc₂.doc?_users hdoc

/-- A chat opens with somebody else, in a registered conversation or none yet. -/
theorem runs_openChat {d : ℕ} {chatId : String} {data : UserContactModel} (hc : Consistent w)
    (hne : (w.session d).id ≠ data.uid)
    (hreg : chatId = "0" ∨ (chatId, s((w.session d).id, data.uid)) ∈ w.minted) :
    Runs π (openChat d chatId data) l w := by
  refine Async.meets_bind (Async.meets_sync fun t => ?_)
  refine ⟨.of_chat (Heap.evolves_alloc ChatController.Later.refl _ _) _, ?_,
    .screens rfl rfl rfl rfl, ?_⟩
  · refine { hc with chat := Heap.forall_alloc hc.chat ⟨hne, hreg, ?_, rfl, rfl⟩ }
    intro d hd
    cases hd
  · refine runs_getChatData ?_ (Nat.lt_succ_self _)
    refine { hc with chat := Heap.forall_alloc hc.chat ⟨hne, hreg, ?_, rfl, rfl⟩ }
    intro d hd
    cases hd

/-- An inbox entry of a conversation leads to the chat with the other user. -/
theorem runs_openStored {d : ℕ} {data : UserContactModel} {document : Document}
    (hc : Consistent w) (hne : (w.session d).id ≠ data.uid)
    (hreg : ∀ c, document.data .chatId = some (.str c) →
      (c, s((w.session d).id, data.uid)) ∈ w.minted) :
    Runs π (openStored d data document) l w := by
  unfold openStored
  split
  · next chatId h => exact runs_openChat hc hne (Or.inr (hreg chatId h))
  · exact Async.meets_throw

/-- The peer of an entry of a conversation is whom the entry is about. -/
theorem Entry.registered_of_about {m : Registry} {u uid c : String} {d : Data}
    (h : Entry m u d) (hone : d .isOneToOne = some (.bool true)) (hne : u ≠ uid)
    (habout : isAbout uid d = true) (hcid : d .chatId = some (.str c)) : (c, s(u, uid)) ∈ m := by
  cases h with
  | @oneToOne sender receiver c' p _ senderId receiverId chatId pair registered _ _ _ _ _ _ =>
    rw [chatId] at hcid
    cases hcid
    simp only [isAbout, senderId, receiverId, Option.some.injEq, Value.str.injEq,
      Bool.or_eq_true, decide_eq_true_eq] at habout
    have hmem : uid ∈ s(u, p) := by
      rw [← pair]
      rcases habout with rfl | rfl
      · exact Sym2.mem_mk_left ..
      · exact Sym2.mem_mk_right ..
    rcases Sym2.mem_iff.mp hmem with rfl | rfl
    · exact absurd rfl hne
    · exact registered
  | group _ isOneToOne _ _ => rw [isOneToOne] at hone; cases hone
  | broadcast _ _ _ _ isOneToOne _ _ _ => rw [isOneToOne] at hone; cases hone

/-- Opening the chat with a contact who is registered: with no entry the conversation is a new one,
and every entry that is about the contact has a `chatId` registered for the two users. -/
theorem runs_saveRegistered {d : ℕ} {data : UserContactModel} (hc : Consistent w)
    (hne : (w.session d).id ≠ data.uid) : Runs π (saveRegistered d data) l w := by
  refine Async.meets_bind (meets_get hc ?_)
  refine Async.meets_bind (meets_getDocs ?_)
  intro w₁ w₂ hw₁ hc₁ hw₂ hc₂
  have hsession : w₂.session d = w.session d := by rw [hw₂.session, hw₁.session]
  split
  · exact runs_openChat hc₂ (hsession ▸ hne) (Or.inl rfl)
  · refine (keeps_forEach hc₂ ?_).runs
    intro document hdoc w₃ hw₃ hc₃
    have hsession₃ : w₃.session d = w.session d := by rw [hw₃.session, hsession]
    refine runs_openStored hc₃ (hsession₃ ▸ hne) ?_
    obtain ⟨hmem, habout⟩ := List.mem_filter.mp hdoc
    obtain ⟨hmem, hone⟩ := (Store.mem_query _).mp hmem
    intro c hcid
    rw [hsession₃]
    have hentry : Entry w₁.minted (w.session d).id document.data := hc₁.docs _ document hmem
    exact (hw₂.trans hw₃).mem_minted
      (hentry.registered_of_about (Fields.isEqualTo_iff.mp hone) hne habout hcid)

theorem runs_saveContact {d : ℕ} {data : UserContactModel} {isRegister : Bool}
    (hc : Consistent w) (hne : (w.session d).id ≠ data.uid) :
    Runs π (saveContact d data isRegister) l w := by
  unfold saveContact
  split
  · exact runs_saveRegistered hc hne
  · exact Async.meets_pure trivial

/-! ## Sending -/

/-- What a conversation gets its identifier for: afterwards it is registered for
its two users. -/
structure Assigned (π : Terms) (l : Scope) (w : World) (c : ℕ) (r : String × World) : Prop where
  evolves : w.Evolves r.2
  consistent : Consistent r.2
  effect : Effect π l w r.2
  registered : (r.1, s((r.2.chatCtrl.get c).userData.id, (r.2.chatCtrl.get c).pId)) ∈ r.2.minted

theorem evolves_assignChatId (c : ℕ) (t : Tick) : w.Evolves (assignChatId c t w).2 := by
  by_cases h0 : (w.chatCtrl.get c).chatId = "0"
  · simp only [assignChatId, if_pos h0]
    exact { World.Evolves.refl w with
      minted := List.suffix_cons _ _
      chat := Heap.evolves_modify ChatController.Later.refl _ _
        ⟨rfl, rfl, fun hne => absurd h0 hne⟩ }
  · simp only [assignChatId, if_neg h0]
    exact .refl w

/-- `assignChatId` leaves a registered id: the one the screen has, or a new one that is registered
for the two users at the moment it is made. -/
theorem assigned {c : ℕ} (hc : Consistent w) (hlt : c < w.chatCtrl.size) (t : Tick) :
    Assigned π l w c (assignChatId c t w) := by
  have hsound := hc.chat c hlt
  have hev := evolves_assignChatId (w := w) c t
  by_cases h0 : (w.chatCtrl.get c).chatId = "0"
  · simp only [assignChatId, if_pos h0] at hev ⊢
    generalize hid : toString t.now = id at hev ⊢
    have hmint := hc.mint (e := (id, s((w.chatCtrl.get c).userData.id, (w.chatCtrl.get c).pId)))
      ⟨hid ▸ toString_ne_empty t.now, fun hd => hsound.peer (Sym2.mk_isDiag_iff.mp hd)⟩
    refine ⟨hev, ?_, .mint _ rfl rfl rfl rfl, ?_⟩
    · exact { hmint with
        chat := Heap.forall_modify hmint.chat fun _ hs =>
          { hs with chatId := Or.inr (List.mem_cons_self ..) } }
    · simp only [Heap.get_modify, if_pos]
      exact List.mem_cons_self ..
  · simp only [assignChatId, if_neg h0]
    exact ⟨.refl w, hc, .refl π l w, hsound.chatId.resolve_left h0⟩

theorem meets_newChatId {c : ℕ} {Q : Scope → String → World → Prop} (hc : Consistent w)
    (hlt : c < w.chatCtrl.size)
    (h : ∀ w' id, w.Evolves w' → Consistent w' →
      (id, s((w'.chatCtrl.get c).userData.id, (w'.chatCtrl.get c).pId)) ∈ w'.minted → Q l id w') :
    (newChatId c).Meets (clientProtocol π) l w Q := by
  refine Async.meets_sync fun t => ?_
  obtain ⟨hev, hcon, heff, hreg⟩ := assigned (π := π) (l := l) hc hlt t
  exact ⟨hev, hcon, heff, h _ _ hev hcon hreg⟩

section Send

variable {c : ℕ} {s : ChatController} {cid content : String} {type : MessageType}

theorem keeps_addMessage {u p : String} (hc : Consistent w) (hu : s.userData.id = u)
    (hl : Posts w l u p cid) (hreg : (cid, s(u, p)) ∈ w.minted) :
    Keeps π (addMessage s (.str p) cid content type) l w := by
  subst hu
  refine Async.meets_bind (meets_millisecondsSinceEpoch hc fun stamp _ => ?_)
  exact keeps_add fun w' hw _ pos => .message (hl.later hw) (hw.mem_minted hreg) rfl rfl

theorem keeps_deliver (hc : Consistent w) (hreg : (cid, s(s.userData.id, s.pId)) ∈ w.minted)
    (hne : content ≠ "") :
    Keeps π (deliver c s cid content type) (.send s.userData.id s.pId cid) w := by
  refine (keeps_addMessage hc rfl (.send ..) hreg).trans fun w₁ hw₁ hc₁ => ?_
  refine (keeps_setLoading hc₁).trans fun w₂ hw₂ hc₂ => ?_
  have hreg₂ := (hw₁.trans hw₂).mem_minted hreg
  refine (keeps_saveMessageInUserCollection hc₂ (.own ..) hreg₂ hne).trans fun w₃ hw₃ hc₃ => ?_
  refine (keeps_saveMessageInUserCollection hc₃ (.peer ..) (hw₃.mem_minted hreg₂) hne).trans ?_
  exact fun w₄ _ hc₄ => keeps_setLoading hc₄

/-- The branches on `allData` are never taken. -/
theorem keeps_dispatch (hc : Consistent w) (hlt : c < w.chatCtrl.size) (hall : s.allData = none)
    (hreg : (cid, s(s.userData.id, s.pId)) ∈ w.minted) (hne : content ≠ "") :
    Keeps π (dispatch c s cid content type) (.send s.userData.id s.pId cid) w := by
  unfold dispatch
  rw [hall]
  refine (keeps_setLoading hc).trans fun w₁ hw₁ hc₁ => ?_
  refine (keeps_deliver hc₁ (hw₁.mem_minted hreg) hne).trans fun w₂ hw₂ hc₂ => ?_
  exact keeps_spawn (runs_getChatData hc₂ (lt_of_lt_of_le hlt (hw₁.trans hw₂).chat.1))

/-- `send` leaves an evolved, consistent world: the id is assigned first, and what is delivered is
of the conversation of this id. -/
theorem meets_send (hc : Consistent w) (hlt : c < w.chatCtrl.size) (hne : content ≠ "") :
    (send c content type).Meets (clientProtocol π) l w fun _ _ w' => w.Evolves w' ∧ Consistent w' := by
  refine Keeps.bind (keeps_modifyChat hc ⟨rfl, rfl, fun _ => rfl⟩ fun _ h => { h with }) ?_
  intro w₁ hw₁ hc₁
  have hlt₁ := lt_of_lt_of_le hlt hw₁.chat.1
  refine Async.meets_bind (meets_newChatId hc₁ hlt₁ ?_)
  intro w₂ cid hw₂ hc₂ hreg
  have hlt₂ := lt_of_lt_of_le hlt₁ hw₂.chat.1
  refine Async.meets_bind (meets_get hc₂ ?_)
  refine Async.meets_bind (Async.meets_enter ?_)
  refine Async.Meets.mono (keeps_dispatch hc₂ hlt₂ (hc₂.chat c hlt₂).allData hreg hne) ?_
  exact fun _ _ _ h => ⟨hw₁.trans (hw₂.trans h.2.1), h.2.2⟩

theorem keeps_notify (hc : Consistent w) : Keeps π (notify c content) l w := by
  refine Async.meets_bind (meets_get hc ?_)
  split
  · exact keeps_throw
  · split
    · exact keeps_pure hc
    · exact keeps_spawn (keeps_sendNotification _).runs

/-- A message on a screen that is open: a blank one writes nothing, any other is sent under the
screen's id, and in both cases the notification and the loader come last. -/
theorem runs_onSendMessage (hc : Consistent w) (hlt : c < w.chatCtrl.size) :
    Runs π (onSendMessage c content type) l w := by
  refine Async.meets_bind (meets_get hc ?_)
  refine Async.meets_bind (Async.meets_enter ?_)
  refine (keeps_setLoading hc).bind fun w₁ hw₁ hc₁ => ?_
  have hlt₁ := lt_of_lt_of_le hlt hw₁.chat.1
  have hrest : ∀ l' w₂, Consistent w₂ → Runs π
      (do notify c content; setLoading c false) l' w₂ := fun l' w₂ hc₂ =>
    ((keeps_notify hc₂).trans fun w₃ _ hc₃ => keeps_setLoading hc₃).runs
  split
  · exact (keeps_pure hc₁).bind fun w₂ _ hc₂ => hrest _ w₂ hc₂
  · next hblank =>
    refine Async.meets_bind (Async.Meets.mono (meets_send hc₁ hlt₁ ?_) ?_)
    · exact ne_empty_of_not_isBlank hblank
    · exact fun l' _ w₂ h => hrest l' w₂ h.2

end Send

/-! ## Blocking -/

section Block

variable {c : ℕ} {s : ChatController} {cid content : String}

theorem keeps_addBlockMessage (hc : Consistent w)
    (hreg : (cid, s(s.userData.id, s.pId)) ∈ w.minted) :
    Keeps π (addBlockMessage s cid content) (.block s.userData.id s.pId cid) w := by
  refine Async.meets_bind (meets_millisecondsSinceEpoch hc fun stamp _ => keeps_spawn ?_)
  refine (keeps_add fun w' hw _ pos => ?_).runs
  exact .message (.block ..) (hw.mem_minted hreg) rfl rfl

/-- The two writes of a block: the message that announces it and the owner's entry, both of a
conversation that is registered and with the block in the history. -/
theorem keeps_block (hc : Consistent w) (hpData : ∀ d, s.pData = some d → d .id = some (.str s.pId))
    (hreg : (cid, s(s.userData.id, s.pId)) ∈ w.minted)
    (hlog : ⟨s.userData.id, s.pId, cid, true⟩ ∈ w.blockLog) :
    Keeps π (block s cid) (.block s.userData.id s.pId cid) w := by
  refine (keeps_addBlockMessage hc hreg).trans fun w₁ hw₁ hc₁ => ?_
  split
  · exact keeps_throw
  · next pData h =>
    rw [hpData pData h]
    exact keeps_saveMessageInUserCollection hc₁ (.block (hw₁.blockLog.subset hlog))
      (hw₁.mem_minted hreg) (by decide)

/-- `blockUser` assigns the id, notes the block in the history, and then writes; without the peer's
document it throws before the last write. -/
theorem runs_blockUser (hb : π.blocking) (hc : Consistent w) (hlt : c < w.chatCtrl.size) :
    Runs π (blockUser c) l w := by
  refine Async.meets_bind (meets_newChatId hc hlt ?_)
  intro w₁ cid hw₁ hc₁ hreg
  have hsound := hc₁.chat c (lt_of_lt_of_le hlt hw₁.chat.1)
  refine Async.meets_bind (meets_get hc₁ ?_)
  generalize w₁.chatCtrl.get c = s at hsound hreg ⊢
  refine Async.meets_bind (Async.meets_enter ?_)
  refine Async.meets_bind (Async.meets_modify (.of_blockLog _) { hc₁ with } ?_ ?_)
  · exact .block _ hb rfl (by rw [hsound.isBlock]; rfl)
  · rw [hsound.isBlock, if_neg Bool.false_ne_true]
    exact Keeps.runs (keeps_block { hc₁ with } hsound.pData hreg (List.mem_cons_self ..))

end Block

/-! ## The other handlers -/

/-- Nothing is found in the collection of an earlier version. -/
theorem keeps_deleteContact {chatId : String} {messages : List Document} :
    Keeps π (deleteContact chatId messages) l w := by
  refine Async.meets_bind (meets_getDocs ?_)
  intro w₁ w₂ hw₁ hc₁ hw₂ hc₂
  have hnil : w₁.store.query .contacts (Fields.isEqualTo .chatId (.str chatId)) = [] :=
    List.eq_nil_iff_forall_not_mem.mpr fun d hd =>
      hc₁.docs .contacts d ((Store.mem_query _).mp hd).1
  rw [hnil]
  cases messages with
  | nil => exact keeps_throw
  | cons d ds => exact Async.meets_pure ⟨rfl, hw₁.trans hw₂, hc₂⟩

/-- The deletion of a message touches the messages of the screen's conversation and the collection
`contacts`, in which nothing is registered. -/
theorem runs_deleteAlert {c : ℕ} {id : DocId} (hc : Consistent w) :
    Runs π (deleteAlert c id) l w := by
  refine Async.meets_bind (meets_get hc ?_)
  refine Async.meets_bind (Async.meets_enter ?_)
  refine (keeps_spawn (keeps_delete fun _ _ _ => .deleteMessage ..).runs).bind fun w₁ _ _ => ?_
  refine keeps_remote_skip.bind fun w₂ _ hc₂ => ?_
  refine Async.meets_bind (meets_get hc₂ ?_)
  refine Async.meets_bind (meets_getDocs ?_)
  intro w₃ w₄ _ _ _ hc₄
  refine Async.meets_bind (meets_get hc₄ ?_)
  exact (keeps_spawn keeps_deleteContact.runs).runs

theorem runs_userRegister {user : UserData} {email : String} {pushToken : Option String} :
    Runs π (userRegister user email pushToken) l w := by
  refine Async.meets_bind (Async.meets_enter ?_)
  refine Async.meets_bind (meets_getDocs ?_)
  intro w₁ w₂ _ _ _ hc₂
  split
  · exact (keeps_pure hc₂).runs
  · exact (keeps_set fun _ _ _ pos => .register user email pushToken pos).runs

end FlutterTheme
