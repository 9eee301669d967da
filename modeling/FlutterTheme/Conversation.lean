import FlutterTheme.Completes
import FlutterTheme.CardFields

/-!
# The messages of one conversation

`Conversation` is a one-to-one conversation or a group, with the users whose inboxes have an
entry of it. While only messages are sent in it, every entry stays the only one of the
conversation in its inbox, and whatever is written into it is what one of the messages sent
says. That is the protocol `conversing`; the handlers keep it, and each of them brings its
message into the log and into the entries (`Brings`).
-/

namespace FlutterTheme

open EventLoop DocStore

/-- A conversation, with its participants. -/
inductive Conversation : Type where
  /-- of two users -/
  | oneToOne (chatId a b : String) : Conversation
  /-- of the members of a group -/
  | group (groupId : String) (users : List SelectedContact) : Conversation
  deriving DecidableEq

/-- A message: what it says, who sent it, and when. -/
structure SentMessage where
  content : String
  sender : String
  millis : ℕ
  deriving DecidableEq

/-- The message is stored as `d`. -/
def SentMessage.IsStored (δ : SentMessage) (d : Data) : Prop :=
  d .content = some (.str δ.content) ∧ d .sender = some (.str δ.sender) ∧
    d .timestamp = some (.str (toString δ.millis))

/-- The message is the last one of the entry `d`. -/
def SentMessage.IsLast (δ : SentMessage) (d : Data) : Prop :=
  d .lastMessage = some (.str δ.content) ∧ d .senderId = some (.str δ.sender)

namespace Conversation

/-- The users whose inboxes have an entry of the conversation. -/
def participants : Conversation → List String
  | oneToOne _ a b => [a, b]
  | group _ users => users.map SelectedContact.id

/-- The log of the messages. -/
def log : Conversation → Path
  | oneToOne chatId _ _ => .messages chatId
  | group groupId _ => .groupMessage groupId

/-- The condition the entries are found by. -/
def finds : Conversation → Data → Bool
  | oneToOne chatId _ _ => Fields.isEqualTo .chatId (.str chatId)
  | group groupId _ => Fields.isEqualTo .groupId (.str groupId)

variable (K : Conversation)

/-- The entries of the conversation in an inbox. -/
def entries (w : World) (x : String) : List Document := w.store.query (.chats x) K.finds

/-- The messages of the conversation. -/
def messages (w : World) : List Document := w.store.docs K.log

/-- The only entry of the conversation in the inbox of `x` is under this identifier. -/
def EntryAt (w : World) (x : String) (id : DocId) : Prop := (K.entries w x).map Doc.id = [id]

/-- The only entry in the inbox of `x` has one of the messages `sent` as its last. -/
def Told (sent : List SentMessage) (w : World) (x : String) : Prop :=
  ∃ d δ, K.entries w x = [d] ∧ δ ∈ sent ∧ δ.IsLast d.data

/-- The message is in the log. -/
def Logged (δ : SentMessage) (w : World) : Prop := ∃ m ∈ K.messages w, δ.IsStored m.data

/-- A chat screen with somebody else; nothing writes `allData`. -/
def OtherPeer (s : ChatController) : Prop := s.allData = none ∧ s.userData.id ≠ s.pId

/-- How the world may change while the messages `sent` are being sent. -/
structure Later (sent : List SentMessage) (w w' : World) : Prop where
  session : w'.session = w.session
  chat : w.chatCtrl.Evolves ChatController.Later w'.chatCtrl
  messages : ∀ m ∈ K.messages w, m ∈ K.messages w'
  entry : ∀ x ∈ K.participants, ∀ id, K.EntryAt w x id → K.EntryAt w' x id
  told : ∀ x ∈ K.participants, K.Told sent w x → K.Told sent w' x

/-- What holds all along: `old` are the messages that were there before. -/
structure Sound (sent : List SentMessage) (old : List Document) (w : World) : Prop where
  screens : ∀ i < w.chatCtrl.size, OtherPeer (w.chatCtrl.get i)
  single : ∀ x ∈ K.participants, ∃ id, K.EntryAt w x id
  messages : ∀ m ∈ K.messages w, m ∈ old ∨ ∃ δ ∈ sent, δ.IsStored m.data

/-- The protocol of a conversation in which the messages `sent` are being sent. -/
def conversing (sent : List SentMessage) (old : List Document) : Evolving World where
  le := K.Later sent
  inv := K.Sound sent old
  le_refl _ := ⟨rfl, Heap.Evolves.refl ChatController.Later.refl _, fun _ hm => hm,
    fun _ _ _ h => h, fun _ _ h => h⟩
  le_trans h h' := ⟨h'.session.trans h.session, h.chat.trans ChatController.Later.trans h'.chat,
    fun m hm => h'.messages m (h.messages m hm),
    fun x hx id hid => h'.entry x hx id (h.entry x hx id hid),
    fun x hx ht => h'.told x hx (h.told x hx ht)⟩
  step_refl _ := trivial

variable {K} {sent : List SentMessage} {old : List Document} {w w' : World} {x : String} {id : DocId}

/-! ## Single actions -/

/-- An action that changes only screens. -/
theorem permits_screens (hi : K.Sound sent old w) (hs : w'.store = w.store)
    (hsession : w'.session = w.session)
    (hchat : w.chatCtrl.Evolves ChatController.Later w'.chatCtrl)
    (hscreens : ∀ i < w'.chatCtrl.size, OtherPeer (w'.chatCtrl.get i)) :
    (K.conversing sent old).Permits w w' := by
  have hentries : ∀ y, K.entries w' y = K.entries w y := fun y => by rw [entries, entries, hs]
  have hmessages : K.messages w' = K.messages w := by rw [messages, messages, hs]
  refine ⟨⟨hsession, hchat, ?_, ?_, ?_⟩, ⟨hscreens, ?_, ?_⟩, trivial⟩
  · rw [hmessages]
    exact fun _ hm => hm
  · intro y _ id hid
    rw [EntryAt, hentries]
    exact hid
  · intro y _ ht
    rw [Told, hentries]
    exact ht
  · intro y hy
    simp only [EntryAt, hentries]
    exact hi.single y hy
  · rw [hmessages]
    exact hi.messages

/-- An action that changes neither chat screens nor what is stored. -/
theorem permits_same (hi : K.Sound sent old w) (hs : w'.store = w.store)
    (hsession : w'.session = w.session) (hchat : w'.chatCtrl = w.chatCtrl) : (K.conversing sent old).Permits w w' := by
  refine permits_screens hi hs hsession ?_ ?_
  · rw [hchat]
    exact Heap.Evolves.refl ChatController.Later.refl _
  · rw [hchat]
    exact hi.screens

/-- A change of a chat screen. -/
theorem permits_chat {i : ℕ} {f : ChatController → ChatController} (hi : K.Sound sent old w)
    (hlater : ∀ s : ChatController, s.Later (f s)) (hf : ∀ s, OtherPeer s → OtherPeer (f s)) :
    (K.conversing sent old).Permits w { w with chatCtrl := w.chatCtrl.modify i f } :=
  permits_screens hi rfl rfl (Heap.evolves_modify ChatController.Later.refl _ _ (hlater _))
    (Heap.forall_modify hi.screens fun _ => hf _)

theorem log_ne_chats (K : Conversation) (x : String) : K.log ≠ .chats x := by
  cases K <;> exact Path.noConfusion

/-- A message goes into the log of the conversation: it is there from then on, and the entries that
tell an earlier one are as good as before. -/
theorem permits_add {δ : SentMessage} {pos : ℕ} {d : Data} (hi : K.Sound sent old w) (hδ : δ ∈ sent)
    (hd : δ.IsStored d) :
    (K.conversing sent old).Permits w { w with store := w.store.add K.log pos d } ∧
      K.Logged δ { w with store := w.store.add K.log pos d } := by
  have hentries : ∀ y, K.entries { w with store := w.store.add K.log pos d } y = K.entries w y := by
    intro y
    rw [entries, Store.query, Store.docs_add_of_ne (Ne.symm (K.log_ne_chats y))]
    rfl
  refine ⟨⟨⟨rfl, Heap.Evolves.refl ChatController.Later.refl _, ?_, ?_, ?_⟩, ⟨hi.screens, ?_, ?_⟩,
    trivial⟩, ?_⟩
  · exact fun m hm => Store.mem_add.mpr (Or.inr hm)
  · intro y _ id hid
    rw [EntryAt, hentries]
    exact hid
  · intro y _ ht
    rw [Told, hentries]
    exact ht
  · intro y hy
    simp only [EntryAt, hentries]
    exact hi.single y hy
  · intro m hm
    rcases Store.mem_add.mp hm with ⟨-, rfl⟩ | hm
    · exact Or.inr ⟨δ, hδ, hd⟩
    · exact hi.messages m hm
  · exact ⟨_, Store.mem_add.mpr (Or.inl ⟨rfl, rfl⟩), hd⟩

theorem EntryAt.exists (h : K.EntryAt w x id) : ∃ d, K.entries w x = [d] ∧ d.id = id := by
  obtain ⟨d, hd, hid⟩ := List.map_eq_singleton_iff.mp h
  exact ⟨d, hd, hid⟩

/-- The entry is there. -/
theorem EntryAt.isSome (h : K.EntryAt w x id) : (w.store.doc? (.chats x) id).isSome = true := by
  obtain ⟨d, hd, rfl⟩ := h.exists
  have hmem : d ∈ K.entries w x := hd ▸ List.mem_singleton_self d
  rw [(w.store.doc?_eq_some).mpr ⟨((Store.mem_query _).mp hmem).1, rfl⟩]
  rfl

/-- What the only entry is after it has been written. -/
theorem entries_update {d : Document} {u : Data} (hd : K.entries w x = [d])
    (hu : ∀ y, K.finds y = true → K.finds (y.merge u) = true) :
    K.entries { w with store := w.store.update (.chats x) d.id u } x = [⟨d.id, d.data.merge u⟩] := by
  have hmem : d ∈ K.entries w x := hd ▸ List.mem_singleton_self d
  obtain ⟨hdoc, hfinds⟩ := (Store.mem_query _).mp hmem
  have hquery : ((w.store.update (.chats x) d.id u).query (.chats x) K.finds) = _ :=
    Store.query_update fun y hy hid => by
      rw [w.store.eq_of_id hy hdoc hid, hfinds, hu _ hfinds]
  change (w.store.update (.chats x) d.id u).query (.chats x) K.finds = _
  rw [hquery]
  change (K.entries w x).map _ = _
  rw [hd]
  simp

theorem entries_update_of_ne {y : String} {u : Data} (h : y ≠ x) :
    K.entries { w with store := w.store.update (.chats x) id u } y = K.entries w y := by
  have hpath : Path.chats y ≠ .chats x := fun he => h (Path.chats.inj he)
  change (w.store.update (.chats x) id u).query (.chats y) K.finds = _
  rw [Store.query, Store.docs_update_of_ne hpath]
  rfl

/-- The only entry of an inbox is written, so that a message that has been sent stays its last
or becomes its last. -/
theorem permits_update {u : Data} (hi : K.Sound sent old w) (hid : K.EntryAt w x id)
    (hu : ∀ y, K.finds y = true → K.finds (y.merge u) = true)
    (hlast : ∀ d : Data, (∃ δ ∈ sent, δ.IsLast d) → ∃ δ ∈ sent, δ.IsLast (d.merge u)) :
    (K.conversing sent old).Permits w { w with store := w.store.update (.chats x) id u } := by
  obtain ⟨d, hd, rfl⟩ := hid.exists
  have hafter := entries_update hd hu
  -- every inbox keeps its only entry under the same identifier
  have hentry : ∀ y id', K.EntryAt w y id' →
      K.EntryAt { w with store := w.store.update (.chats x) d.id u } y id' := by
    intro y id' hy
    by_cases hyx : y = x
    · subst hyx
      rw [EntryAt, hd] at hy
      rw [EntryAt, hafter]
      exact hy
    · rw [EntryAt, entries_update_of_ne hyx]
      exact hy
  have hmessages : K.messages { w with store := w.store.update (.chats x) d.id u } =
      K.messages w := Store.docs_update_of_ne (K.log_ne_chats x)
  refine ⟨⟨rfl, Heap.Evolves.refl ChatController.Later.refl _, ?_, fun y _ => hentry y, ?_⟩,
    ⟨hi.screens, ?_, ?_⟩, trivial⟩
  · rw [hmessages]
    exact fun _ hm => hm
  · rintro y - ⟨d', δ, hd', hδ, hlast'⟩
    by_cases hyx : y = x
    · subst hyx
      obtain rfl : d' = d := by simpa [hd] using hd'.symm
      obtain ⟨δ', hδ', hlast''⟩ := hlast _ ⟨δ, hδ, hlast'⟩
      exact ⟨_, δ', hafter, hδ', hlast''⟩
    · exact ⟨d', δ, (entries_update_of_ne hyx).trans hd', hδ, hlast'⟩
  · intro y hy
    obtain ⟨id', hid'⟩ := hi.single y hy
    exact ⟨id', hentry y id' hid'⟩
  · rw [hmessages]
    exact hi.messages

/-- The entry tells the message after it has been written. -/
theorem told_update {u : Data} {δ : SentMessage} (hid : K.EntryAt w x id)
    (hu : ∀ y, K.finds y = true → K.finds (y.merge u) = true) (hδ : δ ∈ sent)
    (hlast : ∀ d : Data, δ.IsLast (d.merge u)) :
    K.Told sent { w with store := w.store.update (.chats x) id u } x := by
  obtain ⟨d, hd, rfl⟩ := hid.exists
  exact ⟨_, δ, entries_update hd hu, hδ, hlast _⟩

/-! ## Reading and writing -/

theorem completes_getDocs {p : Path} {q : Data → Bool} {Q : List Document → World → Prop}
    (h : ∀ w₁ w₂, K.Later sent w w₁ → K.Sound sent old w₁ → K.Later sent w₁ w₂ →
      Q (w₁.store.query p q) w₂) :
    Completes (K.conversing sent old) (getDocs p q) w Q :=
  completes_remote fun w₁ hw₁ hi₁ _ => ⟨.refl hi₁, fun w₂ hw₂ _ => h w₁ w₂ hw₁ hi₁ hw₂⟩

theorem completes_getDoc {p : Path} :
    Completes (K.conversing sent old) (getDoc p id) w fun _ _ => True :=
  completes_remote fun _ _ hi₁ _ => ⟨.refl hi₁, fun _ _ _ => trivial⟩

theorem completes_millisecondsSinceEpoch (hi : K.Sound sent old w) :
    Completes (K.conversing sent old) millisecondsSinceEpoch w fun _ w' => w' = w :=
  completes_sync fun _ => ⟨.refl hi, rfl⟩

theorem notifying : Notifying (K.conversing sent old) :=
  fun _ _ hi => permits_same hi rfl rfl rfl

/-- The only entry of an inbox is written, and nothing has thrown. -/
theorem completes_update {u : Data} {Q : World → Prop} (hx : x ∈ K.participants)
    (hid : K.EntryAt w x id) (hu : ∀ y, K.finds y = true → K.finds (y.merge u) = true)
    (hlast : ∀ d : Data, (∃ δ ∈ sent, δ.IsLast d) → ∃ δ ∈ sent, δ.IsLast (d.merge u))
    (hq : ∀ w₁ w₂, K.EntryAt w₁ x id →
      K.Later sent { w₁ with store := w₁.store.update (.chats x) id u } w₂ → Q w₂) :
    Completes (K.conversing sent old) (update (.chats x) id u) w fun _ w' => Q w' := by
  refine completes_bind (Q := fun found w' => found = true ∧ Q w')
    (completes_remote fun w₁ hw₁ hi₁ _ => ?_) ?_
  · have hid₁ := hw₁.entry x hx id hid
    exact ⟨permits_update hi₁ hid₁ hu hlast, fun w₂ hw₂ _ => ⟨hid₁.isSome, hq w₁ w₂ hid₁ hw₂⟩⟩
  · rintro found w₂ - hi₂ ⟨rfl, hq₂⟩
    rw [if_pos rfl]
    exact completes_pure hi₂ hq₂

theorem Logged.later {δ : SentMessage} (h : K.Logged δ w) (hw : K.Later sent w w') :
    K.Logged δ w' := by
  obtain ⟨m, hm, hstored⟩ := h
  exact ⟨m, hw.messages m hm, hstored⟩

/-- A message goes into the log. -/
theorem completes_add {δ : SentMessage} {d : Data} (hδ : δ ∈ sent) (hd : δ.IsStored d) :
    Completes (K.conversing sent old) (add K.log d) w fun _ w' => K.Logged δ w' := by
  refine completes_remote fun w₁ _ hi₁ t => ?_
  obtain ⟨hpermits, hlogged⟩ := permits_add hi₁ hδ hd
  exact ⟨hpermits, fun w₂ hw₂ _ => hlogged.later hw₂⟩

/-! ## One-to-one conversations -/

section OneToOne

variable {cid a b : String} {c : ℕ} {s : ChatController} {content : String}

theorem completes_modifyChat {i : ℕ} {f : ChatController → ChatController}
    (hi : K.Sound sent old w) (hlater : ∀ s : ChatController, s.Later (f s))
    (hf : ∀ s, OtherPeer s → OtherPeer (f s)) :
    Completes (K.conversing sent old) (modifyChat i f) w fun _ _ => True :=
  completes_modify (permits_chat hi hlater hf) trivial

theorem completes_setLoading {isLoading : Bool} (hi : K.Sound sent old w) :
    Completes (K.conversing sent old) (setLoading c isLoading) w fun _ _ => True := by
  refine completes_modifyChat hi ?_ ?_
  · exact fun _ => ⟨rfl, rfl, fun _ => rfl⟩
  · exact fun _ h => h

theorem completes_clearInput {o : Option ℕ} (hi : K.Sound sent old w) :
    Completes (K.conversing sent old) (clearInput o) w fun _ _ => True := by
  cases o with
  | none => exact completes_pure hi trivial
  | some i =>
    refine completes_modifyChat hi ?_ ?_
    · exact fun _ => ⟨rfl, rfl, fun _ => rfl⟩
    · exact fun _ h => h

/-- The query for the entries of the conversation finds the only one. -/
theorem Sound.found (hi : K.Sound sent old w) (hx : x ∈ K.participants) :
    ∃ d, w.store.query (.chats x) K.finds = [d] ∧ K.EntryAt w x d.id := by
  obtain ⟨id, hid⟩ := hi.single x hx
  obtain ⟨d, hd, rfl⟩ := hid.exists
  exact ⟨d, hd, hid⟩

/-- The entry is marked as seen. -/
theorem completes_seenInbox (hx : x ∈ (oneToOne cid a b).participants) :
    Completes ((oneToOne cid a b).conversing sent old) (seenInbox x cid) w fun _ _ => True := by
  refine completes_bind (completes_getDocs (Q := fun docs w' => ∃ d, docs = [d] ∧
    (oneToOne cid a b).EntryAt w' x d.id) fun w₁ w₂ _ hi₁ hw₂ => ?_) ?_
  · obtain ⟨d, hd, hid⟩ := hi₁.found hx
    exact ⟨d, hd, hw₂.entry x hx _ hid⟩
  · rintro _ w₂ - - ⟨d, rfl, hid⟩
    exact completes_update hx hid (fun _ h => h) (fun _ h => h) fun _ _ _ _ => trivial

/-- The message becomes the last of the entry: the query finds the only entry of the conversation,
which tells this message afterwards, or a newer one that has overtaken it. -/
theorem completes_save {δ : SentMessage} {p : String} {d : ℕ} (hi : (oneToOne cid a b).Sound sent old w)
    (hx : x ∈ (oneToOne cid a b).participants) (hδ : δ ∈ sent) :
    Completes ((oneToOne cid a b).conversing sent old)
      (saveMessageInUserCollection d x (.str p) cid δ.content δ.sender false false) w
      fun _ w' => (oneToOne cid a b).Told sent w' x := by
  refine completes_bind (completes_get hi (Q := fun _ _ => True) trivial) fun _ w₁ _ _ _ => ?_
  refine completes_bind (completes_getDocs (Q := fun docs w' => ∃ d, docs = [d] ∧
    (oneToOne cid a b).EntryAt w' x d.id) fun w₁ w₂ _ hi₁ hw₂ => ?_) ?_
  · obtain ⟨d, hd, hid⟩ := hi₁.found hx
    exact ⟨d, hd, hw₂.entry x hx _ hid⟩
  rintro _ w₂ - hi₂ ⟨doc, rfl, hid⟩
  refine completes_bind (completes_millisecondsSinceEpoch hi₂) ?_
  rintro stamp _ - - rfl
  have hfinds : ∀ y, (oneToOne cid a b).finds y = true → (oneToOne cid a b).finds
      (y.merge (inboxFields stamp x (.str p) cid δ.content δ.sender false false)) = true :=
    fun _ _ => Fields.isEqualTo_iff.mpr rfl
  have hlast : ∀ y : Data,
      δ.IsLast (y.merge (inboxFields stamp x (.str p) cid δ.content δ.sender false false)) :=
    fun _ => ⟨rfl, rfl⟩
  refine completes_bind (completes_update (Q := fun w' => (oneToOne cid a b).Told sent w' x) hx hid
    hfinds (fun y _ => ⟨δ, hδ, hlast y⟩) fun w₃ w₄ hid₃ hw₄ => ?_) fun _ w₄ _ hi₄ htold => ?_
  · exact hw₄.told x hx (told_update hid₃ hfinds hδ hlast)
  · exact (completes_clearInput hi₄).mono fun _ _ hw _ _ => hw.told x hx htold

variable (cid a b) in
/-- The screen is one of the conversation. -/
def ChatsIn (s : ChatController) : Prop := s.chatId = cid ∧ s(s.userData.id, s.pId) = s(a, b)

variable (cid a b) in
/-- An open screen of the conversation. -/
def OnScreen (w : World) (c : ℕ) : Prop :=
  c < w.chatCtrl.size ∧ ChatsIn cid a b (w.chatCtrl.get c)

theorem ChatsIn.later {s' : ChatController} (h : ChatsIn cid a b s) (h0 : cid ≠ "0")
    (hl : s.Later s') : ChatsIn cid a b s' := by
  obtain ⟨hchat, husers⟩ := h
  refine ⟨?_, ?_⟩
  · rw [hl.chatId (hchat ▸ h0), hchat]
  · rw [hl.userData, hl.pId, husers]

theorem OnScreen.later (h : OnScreen cid a b w c) (h0 : cid ≠ "0")
    (hw : (oneToOne cid a b).Later sent w w') : OnScreen cid a b w' c :=
  ⟨lt_of_lt_of_le h.1 hw.chat.1, h.2.later h0 (hw.chat.2 c h.1)⟩

/-- The participants are the user of the screen and the peer. -/
theorem ChatsIn.participants (h : ChatsIn cid a b s) :
    x ∈ (oneToOne cid a b).participants ↔ x = s.userData.id ∨ x = s.pId := by
  rw [← Sym2.mem_iff, h.2, Sym2.mem_iff]
  simp [Conversation.participants]

/-- `seenMessage` on a screen of the conversation. -/
theorem completes_seenMessage (hi : (oneToOne cid a b).Sound sent old w)
    (hc : OnScreen cid a b w c) :
    Completes ((oneToOne cid a b).conversing sent old) (seenMessage c) w fun _ _ => True := by
  refine completes_bind (completes_get hi (Q := fun s w' => s = w.chatCtrl.get c ∧ w' = w)
    ⟨rfl, rfl⟩) ?_
  rintro _ _ - - ⟨rfl, rfl⟩
  have hu := hc.2.participants.mpr (Or.inl rfl)
  have hp := hc.2.participants.mpr (Or.inr rfl)
  rw [if_neg (hi.screens c hc.1).2, hc.2.1]
  refine completes_bind (completes_pure hi (Q := fun _ _ => True) trivial) fun _ w₁ _ _ _ => ?_
  refine completes_bind (completes_spawn (Q := fun _ _ => True) (completes_seenInbox hu).runs
    fun _ _ _ => trivial) fun _ w₂ _ _ _ => ?_
  exact completes_spawn (completes_seenInbox hp).runs fun _ _ _ => trivial

/-- `getChatData` ends and keeps the conversation sound, with the marks it makes in threads of their
own. -/
theorem completes_getChatData (h0 : cid ≠ "0") (hi : (oneToOne cid a b).Sound sent old w)
    (hc : OnScreen cid a b w c) :
    Completes ((oneToOne cid a b).conversing sent old) (getChatData c) w fun _ _ => True := by
  refine completes_bind (completes_get hi (Q := fun s w' => s = w.chatCtrl.get c ∧ w' = w)
    ⟨rfl, rfl⟩) ?_
  rintro _ _ - - ⟨rfl, rfl⟩
  refine completes_bind (completes_enter hi) fun _ w₁ hw₁ hi₁ _ => ?_
  have hc₁ := hc.later h0 hw₁
  refine completes_bind (Q := fun _ _ => True) ?_ fun _ w₂ _ _ _ => ?_
  · rw [if_pos (hc.2.1.symm ▸ h0)]
    refine completes_bind (completes_getDocs (Q := fun _ w' => OnScreen cid a b w' c)
      fun _ _ hw₂ _ hw₃ => (hc₁.later h0 hw₂).later h0 hw₃) fun _ w₃ _ hi₃ hc₃ => ?_
    exact completes_spawn (completes_seenMessage hi₃ hc₃).runs fun _ _ _ => trivial
  · refine completes_bind completes_getDoc fun _ w₃ _ hi₃ _ => ?_
    refine completes_modifyChat hi₃ ?_ ?_
    · exact fun _ => ⟨rfl, rfl, fun _ => rfl⟩
    · exact fun _ h => h

/-- A message that has its time, on its way to the log and to both entries. -/
def tellBoth (c : ℕ) (s : ChatController) (content : String) (type : MessageType)
    (timestamp : String) : Call Unit := do
  add (.messages s.chatId)
    (messageFields timestamp s.userData.id (.str s.pId) content s.chatId type false)
  setLoading c false
  saveMessageInUserCollection s.device s.userData.id (.str s.pId) s.chatId content s.userData.id
    false false
  saveMessageInUserCollection s.device s.pId (.str s.pId) s.chatId content s.userData.id false false
  setLoading c false
  Async.spawn (getChatData c)

/-- The rest of a send between the two, once it has its timestamp: the message is logged, and when
the handler ends both entries tell it or a newer one. -/
theorem completes_tellBoth {type : MessageType} {δ : SentMessage} (h0 : cid ≠ "0")
    (hc : OnScreen cid a b w c) (hs : ChatsIn cid a b s)
    (hsender : δ.sender = s.userData.id) (hδ : δ ∈ sent) :
    Completes ((oneToOne cid a b).conversing sent old)
      (tellBoth c s δ.content type (toString δ.millis)) w
      fun _ w' => (oneToOne cid a b).Logged δ w' ∧
        ∀ x ∈ (oneToOne cid a b).participants, (oneToOne cid a b).Told sent w' x := by
  have hu := hs.participants.mpr (Or.inl rfl)
  have hp := hs.participants.mpr (Or.inr rfl)
  unfold tellBoth
  rw [hs.1, ← hsender]
  rw [← hsender] at hu
  refine completes_bind (completes_add hδ ⟨rfl, rfl, rfl⟩) fun _ w₁ hw₁ hi₁ hlogged => ?_
  refine completes_bind (completes_setLoading hi₁) fun _ w₂ hw₂ hi₂ _ => ?_
  refine completes_bind (completes_save hi₂ hu hδ) fun _ w₃ hw₃ hi₃ hown => ?_
  refine completes_bind (completes_save hi₃ hp hδ) fun _ w₄ hw₄ hi₄ hpeer => ?_
  refine completes_bind (completes_setLoading hi₄) fun _ w₅ hw₅ hi₅ _ => ?_
  have hc₅ := ((((hc.later h0 hw₁).later h0 hw₂).later h0 hw₃).later h0 hw₄).later h0 hw₅
  refine completes_spawn (completes_getChatData h0 hi₅ hc₅).runs fun w₆ hw₆ _ => ⟨?_, ?_⟩
  · exact ((((hlogged.later hw₂).later hw₃).later hw₄).later hw₅).later hw₆
  · intro x hx
    rcases hs.participants.mp hx with rfl | rfl
    · exact hw₆.told _ hx (hw₅.told _ hx (hw₄.told _ hx (hsender ▸ hown)))
    · exact hw₆.told _ hx (hw₅.told _ hx hpeer)

/-- What is left of `onSendMessage` when the time of the message has been read. -/
def afterTimestamp (c : ℕ) (s : ChatController) (content : String) (type : MessageType)
    (timestamp : String) : Call Unit := do
  tellBoth c s content type timestamp
  notify c content
  setLoading c false

theorem runs_rest (hi : K.Sound sent old w) :
    EventLoop.Runs (K.conversing sent old) (do notify c content; setLoading c false) w :=
  keeps_seq (notifying.notify hi) fun _ _ hi₁ => (completes_setLoading hi₁).runs

/-- A blank message only turns the screen's spinner on and off. -/
theorem runs_onSendMessage_blank {type : MessageType} (hi : K.Sound sent old w)
    (hblank : isBlank content = true) :
    EventLoop.Runs (K.conversing sent old) (onSendMessage c content type) w := by
  refine keeps_bind (keeps_get hi (Q := fun _ _ => True) trivial) fun s w₁ _ hi₁ _ => ?_
  refine keeps_enter ?_
  refine keeps_seq (completes_setLoading hi₁).runs fun w₂ _ hi₂ => ?_
  rw [if_pos hblank]
  exact keeps_seq (EventLoop.keeps_pure hi₂ trivial) fun w₃ _ hi₃ => runs_rest hi₃

/-- The screen `c` after a field of it has been changed. -/
def changed (w : World) (c : ℕ) (f : ChatController → ChatController) : World :=
  { w with chatCtrl := w.chatCtrl.modify c f }

theorem get_changed {f : ChatController → ChatController} :
    (changed w c f).chatCtrl.get c = f (w.chatCtrl.get c) := by
  simp [changed, Heap.get_modify]

/-- A message that is not blank gets its time before the call is first suspended. -/
theorem advances_onSendMessage (type : MessageType) (ticks : ℕ → Tick) (l : Scope) (h0 : cid ≠ "0")
    (hi : (oneToOne cid a b).Sound sent old w) (hc : OnScreen cid a b w c)
    (hblank : ¬ isBlank content = true) :
    ∃ w₁ s l', (onSendMessage c content type).Advances ticks l 0 w
        (afterTimestamp c s content type (toString ((ticks 6).now / 1000))) l' 7 w₁ ∧
      (oneToOne cid a b).Later sent w w₁ ∧ (oneToOne cid a b).Sound sent old w₁ ∧
      ChatsIn cid a b s ∧ s.userData.id = (w.chatCtrl.get c).userData.id := by
  -- the screen is loading, its text is cleared, and it is not loading any more
  have h₁ : ((oneToOne cid a b).conversing sent old).Permits w
      (changed w c fun s => { s with isLoading := true }) :=
    permits_chat hi (fun _ => ⟨rfl, rfl, fun _ => rfl⟩) fun _ h => h
  generalize hw₁ : changed w c (fun s => { s with isLoading := true }) = w₁ at h₁
  have h₂ : ((oneToOne cid a b).conversing sent old).Permits w₁
      (changed w₁ c fun s => { s with text := "" }) :=
    permits_chat h₁.inv (fun _ => ⟨rfl, rfl, fun _ => rfl⟩) fun _ h => h
  generalize hw₂ : changed w₁ c (fun s => { s with text := "" }) = w₂ at h₂
  have h₃ : ((oneToOne cid a b).conversing sent old).Permits w₂
      (changed w₂ c fun s => { s with isLoading := false }) :=
    permits_chat h₂.inv (fun _ => ⟨rfl, rfl, fun _ => rfl⟩) fun _ h => h
  generalize hw₃ : changed w₂ c (fun s => { s with isLoading := false }) = w₃ at h₃
  have hc₂ := (hc.later h0 h₁.le).later h0 h₂.le
  have hsender : (w₂.chatCtrl.get c).userData.id = (w.chatCtrl.get c).userData.id := by
    rw [← hw₂, get_changed, ← hw₁, get_changed]
  have hall := (h₂.inv.screens c hc₂.1).1
  have hassign : assignChatId c (ticks 3) w₂ = ((w₂.chatCtrl.get c).chatId, w₂) :=
    if_neg (hc₂.2.1.symm ▸ h0)
  generalize hs : w₂.chatCtrl.get c = s at *
  refine ⟨w₃, s, .send s.userData.id s.pId s.chatId, ?_, Evolving.le_trans _ h₁.le (Evolving.le_trans _ h₂.le h₃.le),
    h₃.inv, hs ▸ hc₂.2, hsender⟩
  unfold onSendMessage
  rw [if_neg hblank]
  refine Async.advances_get.trans (Async.advances_enter.trans (Async.advances_modify.trans ?_))
  change Async.Advances ticks _ _ 2 (changed w c fun s => { s with isLoading := true }) _ _ _ _
  rw [hw₁]
  unfold send
  simp only [Async.bind_assoc]
  refine Async.advances_modify.trans ?_
  change Async.Advances ticks _ _ 3 (changed w₁ c fun s => { s with text := "" }) _ _ _ _
  rw [hw₂]
  refine Async.advances_sync.trans ?_
  rw [hassign]
  refine Async.advances_get.trans (Async.advances_enter.trans ?_)
  unfold dispatch
  simp only [hs, hall, Async.bind_assoc]
  refine Async.advances_modify.trans ?_
  change Async.Advances ticks _ _ 6 (changed w₂ c fun s => { s with isLoading := false }) _ _ _ _
  rw [hw₃]
  simp only [deliver, addMessage, Async.bind_assoc]
  exact Async.advances_sync

/-- A message brings itself into the log and into both entries. -/
theorem brings_afterTimestamp {type : MessageType} {δ : SentMessage} (h0 : cid ≠ "0")
    (hc : OnScreen cid a b w c) (hs : ChatsIn cid a b s) (hsender : δ.sender = s.userData.id)
    (hδ : δ ∈ sent) {g : Goal (((oneToOne cid a b).conversing sent old).protocol Scope)}
    (hg : ∀ l, g.scope l)
    (hreached : ∀ w', (oneToOne cid a b).Logged δ w' →
      (∀ x ∈ (oneToOne cid a b).participants, (oneToOne cid a b).Told sent w' x) → g.reached w') :
    Brings g (afterTimestamp c s δ.content type (toString δ.millis)) w := by
  refine brings_bind hg (completes_tellBoth h0 hc hs hsender hδ) fun _ w₁ _ hi₁ htold => ?_
  exact brings_of_reached hg (runs_rest hi₁) (hreached w₁ htold.1 htold.2)

theorem runs_afterTimestamp {type : MessageType} {δ : SentMessage} (h0 : cid ≠ "0")
    (hc : OnScreen cid a b w c) (hs : ChatsIn cid a b s) (hsender : δ.sender = s.userData.id)
    (hδ : δ ∈ sent) :
    EventLoop.Runs ((oneToOne cid a b).conversing sent old)
      (afterTimestamp c s δ.content type (toString δ.millis)) w :=
  keeps_seq (completes_tellBoth h0 hc hs hsender hδ).runs fun _ _ hi₁ => runs_rest hi₁

end OneToOne

/-! ## Groups -/

section Group

variable {g : ℕ} {users : List SelectedContact} {groupId content name : String} {user : UserData}
  {element : SelectedContact}

theorem completes_modifyGroup {i : ℕ} {f : GroupChatMessageController → GroupChatMessageController}
    (hi : K.Sound sent old w) :
    Completes (K.conversing sent old) (modifyGroup i f) w fun _ _ => True :=
  completes_modify (permits_same hi rfl rfl rfl) trivial

theorem groupEntry_finds {stamp sender : String} {y : Data}
    (h : (group groupId users).finds y = true) : (group groupId users).finds
      (y.merge (.ofList [(.updateStamp, .str stamp), (.lastMessage, .str content),
        (.senderId, .str sender)])) = true := h

/-- The message becomes the last of the entry of a member. -/
theorem completes_updateEntry {δ : SentMessage} {stamp : String}
    (hx : x ∈ (group groupId users).participants) (hid : (group groupId users).EntryAt w x id)
    (hδ : δ ∈ sent) :
    Completes ((group groupId users).conversing sent old)
      (update (.chats x) id (.ofList [(.updateStamp, .str stamp), (.lastMessage, .str δ.content),
        (.senderId, .str δ.sender)])) w fun _ w' => (group groupId users).Told sent w' x := by
  refine completes_update hx hid (fun _ => groupEntry_finds) (fun y _ => ⟨δ, hδ, rfl, rfl⟩) ?_
  exact fun w₁ w₂ hid₁ hw₂ =>
    hw₂.told x hx (told_update hid₁ (fun _ => groupEntry_finds) hδ fun _ => ⟨rfl, rfl⟩)

/-- The entry of a member, up to the time of the update. -/
theorem runs_saveGroupEntry {δ : SentMessage} (hsender : δ.sender = user.id) (hδ : δ ∈ sent)
    (hx : element.id ∈ (group groupId users).participants) :
    EventLoop.Runs ((group groupId users).conversing sent old)
      (saveGroupEntry user groupId δ.content name element) w := by
  refine keeps_bind (completes_getDocs (Q := fun docs w' => ∃ d, docs = [d] ∧
    (group groupId users).EntryAt w' element.id d.id) fun w₁ w₂ _ hi₁ hw₂ => ?_).keeps ?_
  · obtain ⟨d, hd, hid⟩ := hi₁.found hx
    exact ⟨d, hd, hw₂.entry _ hx _ hid⟩
  rintro _ w₂ - hi₂ ⟨d, rfl, hid⟩
  refine keeps_bind (completes_millisecondsSinceEpoch hi₂).keeps ?_
  rintro stamp _ - - rfl
  rw [← hsender]
  refine keeps_seq (runs_spawn (completes_updateEntry hx hid hδ).runs) fun w₃ _ hi₃ => ?_
  split
  · exact runs_spawn notifying.notifyMember
  · exact EventLoop.keeps_pure hi₃ trivial

/-- The thread of one member: the query finds the member's only entry of the group, and the update
it starts tells the message or leaves a newer one. -/
theorem brings_saveGroupEntry {δ : SentMessage} (hsender : δ.sender = user.id) (hδ : δ ∈ sent)
    (hx : element.id ∈ (group groupId users).participants)
    {γ : Goal (((group groupId users).conversing sent old).protocol Scope)} (hγ : ∀ l, γ.scope l)
    (hreached : ∀ w', (group groupId users).Told sent w' element.id → γ.reached w') :
    Brings γ (saveGroupEntry user groupId δ.content name element) w := by
  refine brings_bind hγ (completes_getDocs (Q := fun docs w' => ∃ d, docs = [d] ∧
    (group groupId users).EntryAt w' element.id d.id) fun w₁ w₂ _ hi₁ hw₂ => ?_) ?_
  · obtain ⟨d, hd, hid⟩ := hi₁.found hx
    exact ⟨d, hd, hw₂.entry _ hx _ hid⟩
  rintro _ w₂ - hi₂ ⟨d, rfl, hid⟩
  refine brings_bind hγ (completes_millisecondsSinceEpoch hi₂) ?_
  rintro stamp _ - - rfl
  rw [← hsender]
  exact brings_spawn (brings_of_completes hγ (completes_updateEntry hx hid hδ) hreached)

theorem runs_saveGroupData {δ : SentMessage} {d : ℕ} {s : GroupChatMessageController}
    (hi : (group groupId s.users).Sound sent old w) (hsender : δ.sender = (w.session d).id)
    (hδ : δ ∈ sent) :
    EventLoop.Runs ((group groupId s.users).conversing sent old)
      (saveGroupData d groupId δ.content s) w := by
  refine keeps_bind (keeps_get hi (Q := fun user w' => user = w.session d ∧ w' = w) ⟨rfl, rfl⟩) ?_
  rintro _ _ - - ⟨rfl, rfl⟩
  exact runs_forEach hi fun element helement _ _ _ =>
    runs_saveGroupEntry hsender hδ (List.mem_map_of_mem helement)

/-- What is left of a message to a group when its time has been read. -/
def afterGroupTimestamp (g : ℕ) (s : GroupChatMessageController) (user : UserData)
    (content : String) (type : MessageType) (timestamp : String) : Call Unit := do
  Async.spawn (add (.groupMessage s.pId)
    (groupMessageFields user.id user.name s.users content s.pId type timestamp))
  saveGroupData s.device s.pId content s
  modifyGroup g fun s => { s with isLoading := false }

section AfterTimestamp

variable {s : GroupChatMessageController} {type : MessageType} {δ : SentMessage}

theorem stored_groupMessage (hsender : δ.sender = (w.session s.device).id) :
    δ.IsStored (groupMessageFields (w.session s.device).id (w.session s.device).name s.users
      δ.content s.pId type (toString δ.millis)) :=
  ⟨rfl, by rw [hsender]; rfl, rfl⟩

theorem runs_afterGroupTimestamp (hsender : δ.sender = (w.session s.device).id) (hδ : δ ∈ sent) :
    EventLoop.Runs ((group s.pId s.users).conversing sent old)
      (afterGroupTimestamp g s (w.session s.device) δ.content type (toString δ.millis)) w := by
  refine keeps_seq (runs_spawn (completes_add hδ (stored_groupMessage hsender)).runs)
    fun w₁ hw₁ hi₁ => ?_
  refine keeps_seq (runs_saveGroupData hi₁ (by rw [hw₁.session, hsender]) hδ) fun w₂ _ hi₂ => ?_
  exact (completes_modifyGroup hi₂).runs

/-- The message is brought into the log by the call that is started first. -/
theorem brings_logged (hsender : δ.sender = (w.session s.device).id) (hδ : δ ∈ sent)
    {γ : Goal (((group s.pId s.users).conversing sent old).protocol Scope)}
    (hγ : ∀ l, γ.scope l) (hreached : ∀ w', (group s.pId s.users).Logged δ w' → γ.reached w') :
    Brings γ (afterGroupTimestamp g s (w.session s.device) δ.content type (toString δ.millis)) w := by
  exact brings_spawn (brings_of_completes hγ (completes_add hδ (stored_groupMessage hsender)) hreached)

/-- The message is brought into the entry of each member by the thread of this member, which the
fan-out starts; the other threads leave the entry to it. -/
theorem brings_told (hsender : δ.sender = (w.session s.device).id) (hδ : δ ∈ sent)
    (hx : x ∈ (group s.pId s.users).participants)
    {γ : Goal (((group s.pId s.users).conversing sent old).protocol Scope)}
    (hγ : ∀ l, γ.scope l)
    (hreached : ∀ w', (group s.pId s.users).Told sent w' x → γ.reached w') :
    Brings γ (afterGroupTimestamp g s (w.session s.device) δ.content type (toString δ.millis)) w := by
  obtain ⟨element, helement, rfl⟩ := List.mem_map.mp hx
  refine brings_bind hγ (completes_spawn (Q := fun _ w' => w'.session = w.session)
    (completes_add hδ (stored_groupMessage hsender)).runs fun _ hw₁ _ => hw₁.session) fun _ w₁ _ hi₁ hsession => ?_
  unfold saveGroupData
  rw [Async.bind_assoc]
  refine brings_bind hγ (completes_get hi₁ (Q := fun user w' => user = w.session s.device)
    (congrFun hsession _)) ?_
  rintro _ w₂ - hi₂ rfl
  exact brings_forEach helement hi₂ fun _ _ _ => brings_saveGroupEntry hsender hδ hx hγ hreached

end AfterTimestamp

/-- A message that is not blank gets its time before the call is first suspended. -/
theorem advances_sendToGroup (type : MessageType) (ticks : ℕ → Tick) (l : Scope)
    {s : GroupChatMessageController} (hi : K.Sound sent old w)
    (hs : { w.groupCtrl.get g with isLoading := true, text := "" } = s)
    (hblank : ¬ isBlank content = true) :
    ∃ w₁, (GroupChat.onSendMessage g content type).Advances ticks l 0 w
        (afterGroupTimestamp g s (w₁.session s.device) content type
          (toString ((ticks 3).now / 1000))) (.group s.pId) 4 w₁ ∧
      (K.conversing sent old).Permits w w₁ := by
  refine ⟨{ w with groupCtrl := w.groupCtrl.modify g fun s =>
    { s with isLoading := true, text := "" } }, ?_, permits_same hi rfl rfl rfl⟩
  have hget : (w.groupCtrl.modify g fun s => { s with isLoading := true, text := "" }).get g = s := by
    rw [Heap.get_modify, if_pos rfl, hs]
  unfold GroupChat.onSendMessage
  rw [if_neg hblank]
  refine Async.advances_modify.trans (Async.advances_get.trans ?_)
  rw [hget]
  exact Async.advances_get.trans (Async.advances_enter.trans Async.advances_sync)

theorem runs_sendToGroup_blank {type : MessageType} (hi : K.Sound sent old w)
    (hblank : isBlank content = true) :
    EventLoop.Runs (K.conversing sent old) (GroupChat.onSendMessage g content type) w := by
  refine keeps_seq (completes_modifyGroup hi).runs fun w₁ _ hi₁ => ?_
  rw [if_pos hblank]
  exact EventLoop.keeps_pure hi₁ trivial

end Group

end Conversation

end FlutterTheme
