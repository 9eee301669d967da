import FlutterTheme.OneWriter
import FlutterTheme.ChatIds

/-!
# What one-to-one chats store

A sequential account of one-to-one chats: a list of the messages that were sent, the latest first.
A conversation is the part of the list with its identifier (`conversation`), and an inbox has the
latest message of every conversation of its user (`inbox`).

`onSendMessage` writes the message and the entries of the two participants one after the other, and
between any two steps of it other devices read, open chats, mark what they show as seen and send
messages of their own. For the inboxes and the conversations of a `Region` this cannot be told from
the outside if a message that concerns it is sent only after the one before it has been stored.

* `Kept` — the collections of the region are those of the account, but for the marks of having been
  seen.
* `transcript` — the invariant over whole runs.
* `one_card_per_peer` — where every two users have one identifier, an inbox has one card for each
  person its user has exchanged messages with.
-/

namespace FlutterTheme.Transcript

open EventLoop DocStore

/-! ## What the others do -/

/-- The fields of a document but for the mark of having been seen. -/
def unseen (d : Data) : Data := fun k => if k = .isSeen then none else d k

theorem unseen_of_ne {d : Data} {k : Key} (h : k ≠ .isSeen) : unseen d k = d k := if_neg h

/-- The identifiers and the fields of documents, but for the mark of having been seen. -/
def faces (docs : List Document) : List (DocId × Data) := docs.map fun d => (d.id, unseen d.data)

/-- The identifiers of the documents of an inbox. -/
def entryIds (w : World) (u : String) : List DocId := (w.store.docs (.chats u)).map Doc.id

/-- Inboxes and conversations. -/
structure Region where
  user : String → Bool
  conversation : String → Bool

namespace Region

/-- The inbox of a user. -/
def ofUser (u : String) : Region := ⟨(· = u), fun _ => false⟩

/-- A conversation. -/
def ofConversation (cid : String) : Region := ⟨fun _ => false, (· = cid)⟩

/-- A message between these users, in this conversation, is written to the region. -/
def touches (R : Region) (u p cid : String) : Bool := R.user u || R.user p || R.conversation cid

/-- Someone is sending a message to the region. -/
def concerns (R : Region) : Scope → Bool
  | .send u p cid => R.touches u p cid
  | _ => false

/-- Messages and entries of the region stay, but for marks of having been seen. Of the other inboxes
nothing is deleted. -/
structure Quiet (R : Region) (w w' : World) : Prop where
  messages : ∀ cid, R.conversation cid = true →
    faces (w'.store.docs (.messages cid)) = faces (w.store.docs (.messages cid))
  entries : ∀ u, R.user u = true →
    faces (w'.store.docs (.chats u)) = faces (w.store.docs (.chats u))
  stays : ∀ u, entryIds w u ⊆ entryIds w' u

/-- Whoever sends a message to the region is the writer. -/
def quiet (R : Region) : OneWriter World Scope where
  rel := R.Quiet
  writing l := R.concerns l = true
  refl _ := ⟨fun _ _ => rfl, fun _ _ => rfl, fun _ => List.Subset.refl _⟩
  trans h h' := {
    messages cid hcid := (h'.messages cid hcid).trans (h.messages cid hcid)
    entries u hu := (h'.entries u hu).trans (h.entries u hu)
    stays u := List.Subset.trans (h.stays u) (h'.stays u) }

end Region

variable {R : Region}

theorem quiet_of_store {w w' : World} (h : w'.store = w.store) : R.Quiet w w' where
  messages _ _ := by rw [h]
  entries _ _ := by rw [h]
  stays _ := by rw [entryIds, entryIds, h]; exact List.Subset.refl _

instance : AllowsHandlers R.quiet.others where
  screens hstore _ _ _ := quiet_of_store hstore
  mint _ hstore _ _ _ := quiet_of_store hstore
  notify _ := quiet_of_store rfl

instance : AllowsLoading R.quiet.others where
  screens hstore _ _ := quiet_of_store hstore

theorem unseen_merge_seenFields (d : Data) : unseen (d.merge seenFields) = unseen d := by
  funext k
  by_cases hk : k = .isSeen
  · simp [unseen, hk]
  · rw [unseen_of_ne hk, unseen_of_ne hk, Fields.merge_of_none]
    simp [seenFields, Fields.ofList, hk]

/-- A mark does not show. -/
theorem faces_seenFields (s : Store Path Key Value) (p q : Path) (id : DocId) :
    faces ((s.update p id seenFields).docs q) = faces (s.docs q) := by
  simp only [Store.update]
  split
  · next hq =>
    rw [hq, faces, List.map_map]
    refine List.map_congr_left fun d _ => ?_
    simp only [Function.comp_apply]
    split
    · rw [unseen_merge_seenFields]
    · rfl
  · rfl

/-- An update deletes nothing. -/
theorem subset_update {s : Store Path Key Value} {p q : Path} {id : DocId} {d : Data} :
    (s.docs q).map Doc.id ⊆ ((s.update p id d).docs q).map Doc.id := by
  have hids : ((s.update p id d).docs q).map Doc.id = (s.docs q).map Doc.id := by
    simp only [Store.update]
    split
    · next hq =>
      rw [hq, List.map_map]
      refine List.map_congr_left fun d _ => ?_
      simp only [Function.comp_apply]
      split <;> rfl
    · rfl
  exact hids ▸ List.Subset.refl _

theorem allowsWrite_marks {op : Write Path Key Value} (h : Marks op) :
    AllowsWrite R.quiet.others op := by
  intro t w
  cases h with
  | entry u id =>
    exact ⟨fun _ _ => faces_seenFields .., fun _ _ => faces_seenFields .., fun _ => subset_update⟩
  | message c id =>
    exact ⟨fun _ _ => faces_seenFields .., fun _ _ => faces_seenFields .., fun _ => subset_update⟩

/-- A write to none of the collections. -/
theorem allowsWrite_of_ne {op : Write Path Key Value}
    (hmessages : ∀ cid, R.conversation cid = true → .messages cid ≠ op.path)
    (hentries : ∀ u, .chats u ≠ op.path) : AllowsWrite R.quiet.others op := by
  refine fun t w => ⟨fun cid hcid => ?_, fun u _ => ?_, fun u => ?_⟩
  · rw [Store.docs_write_of_ne (hmessages cid hcid)]
  · rw [Store.docs_write_of_ne (hentries u)]
  · simp only [entryIds, Store.docs_write_of_ne (hentries u)]
    exact List.Subset.refl _

/-- A user registers. -/
theorem all_userRegister {user : UserData} {email : String} {pushToken : Option String} :
    (userRegister user email pushToken).All R.quiet.others := by
  refine Async.all_bind Async.all_enter fun _ => ?_
  refine Async.all_bind all_getDocs fun value => ?_
  split
  · exact Async.all_pure
  · exact all_set fun pos =>
      allowsWrite_of_ne (fun _ _ => Path.noConfusion) fun _ => Path.noConfusion

/-- Accounts and screens come about, and messages are sent. -/
def isChat : Event Action → Bool
  | .call (.userRegister _ _ _) _ | .call (.saveContact _ _ _) _ | .call (.tapCard _ _) _
  | .call (.openCreate _ _) _ | .call (.editGroup _ _ _) _ | .call (.selectUserTap _ _) _
  | .call (.onSendMessage _ _ _) _ => true
  | .call _ _ => false
  | .resume _ _ => true

/-- A blank message does nothing but to set the loader and to notify the peer. -/
theorem all_onSendMessage_blank {D : Deeds World} [AllowsHandlers D] [AllowsLoading D] {c : ℕ}
    {content : String} {type : MessageType} (hblank : isBlank content = true) :
    (onSendMessage c content type).All D := by
  unfold onSendMessage
  rw [if_pos hblank]
  refine Async.all_bind Async.all_get fun s => ?_
  refine Async.all_bind Async.all_enter fun _ => ?_
  refine Async.all_bind (all_startLoading fun _ => ⟨rfl, rfl, rfl⟩) fun _ => ?_
  refine Async.all_bind Async.all_pure fun _ => ?_
  exact Async.all_bind all_notify fun _ => all_setLoading

/-- No action of a chat but a send writes messages or the texts of entries: what `saveContact` and a
tap write is the mark alone. -/
theorem all_quiet {a : Action} {ticks : ℕ → Tick} (h : isChat (.call a ticks) = true)
    (hsend : ∀ k content type, a ≠ .onSendMessage k content type) : a.body.All R.quiet.others := by
  have hmarks : ∀ op, Marks op → AllowsWrite R.quiet.others op := fun _ => allowsWrite_marks
  cases a with
  | userRegister user email pushToken => exact all_userRegister
  | saveContact d contact isRegister => exact all_saveContact hmarks
  | tapCard d entry => exact all_tapCard hmarks
  | openCreate d isGroup => exact all_screens (fun _ => ⟨rfl, rfl, rfl⟩) fun _ => .of_eq rfl rfl
  | editGroup g name imageFile => exact all_modifyCreate
  | selectUserTap g value => exact all_modifyCreate
  | onSendMessage k content type => exact absurd rfl (hsend k content type)
  | blockUser c | deleteAlert c message | addGroupBottomSheet g | createGroup g
  | sendToGroup g content type | sendToBroadcast b content type =>
    exact absurd h Bool.false_ne_true

/-! ## The sequential account -/

/-- A message as it was sent. -/
structure Sent where
  chatId : String
  sender : String
  receiver : String
  content : String
  type : MessageType
  deriving DecidableEq

/-- The document of a message with this timestamp. -/
def Sent.message (m : Sent) (stamp : ℕ) : Data :=
  messageFields (toString stamp) m.sender (.str m.receiver) m.content m.chatId m.type false

/-- The inbox entry of a participant with this update stamp. -/
def Sent.entry (m : Sent) (stamp : ℕ) : Data :=
  inboxFields (toString stamp) m.sender (.str m.receiver) m.chatId m.content m.sender false false

/-- The messages of a conversation, the latest first. -/
def conversation (cid : String) (sent : List Sent) : List Sent := sent.filter (·.chatId = cid)

/-- The latest messages of the conversations of a user. -/
def inbox (u : String) : List Sent → List Sent
  | [] => []
  | m :: sent =>
    if m.sender = u ∨ m.receiver = u then m :: (inbox u sent).filter (·.chatId ≠ m.chatId)
    else inbox u sent

/-- Every conversation is in an inbox once. -/
theorem nodup_inbox (u : String) : ∀ sent, ((inbox u sent).map Sent.chatId).Nodup
  | [] => List.nodup_nil
  | m :: sent => by
    simp only [inbox]
    split
    · refine List.nodup_cons.mpr ⟨?_, ?_⟩
      · rw [List.mem_map]
        rintro ⟨m', hm', he⟩
        simpa [he] using (List.mem_filter.mp hm').2
      · exact (nodup_inbox u sent).sublist (List.filter_sublist.map _)
    · exact nodup_inbox u sent

/-! ## Documents of an account -/

/-- The documents are those of the messages, but for the marks of having been seen. They are stamped
in the order of the messages, and not later than the clock shows. -/
def Holds (fields : Sent → ℕ → Data) (ms : List Sent) (n : ℕ) (docs : List Document) : Prop :=
  ∃ l : List (Sent × ℕ), l.map Prod.fst = ms ∧
    (docs.map fun d => unseen d.data).Perm (l.map fun x => unseen (fields x.1 x.2)) ∧
    (n / 1000 :: l.map Prod.snd).Pairwise (· ≥ ·)

variable {fields : Sent → ℕ → Data} {ms : List Sent} {n n' : ℕ} {docs docs' : List Document}

theorem holds_nil : Holds fields [] n [] := ⟨[], rfl, .nil, List.pairwise_singleton _ _⟩

/-- The clock goes on, and documents are marked as seen. -/
theorem Holds.mono (h : Holds fields ms n docs) (hle : n ≤ n') (hfaces : faces docs' = faces docs) :
    Holds fields ms n' docs' := by
  obtain ⟨l, hl, hperm, hstamps⟩ := h
  have hdata : (docs'.map fun d => unseen d.data) = docs.map fun d => unseen d.data := by
    have hsnd := congrArg (List.map Prod.snd) hfaces
    simpa [faces, Function.comp_def] using hsnd
  obtain ⟨hlast, hsorted⟩ := List.pairwise_cons.mp hstamps
  refine ⟨l, hl, hdata ▸ hperm, List.pairwise_cons.mpr ⟨fun m hm => ?_, hsorted⟩⟩
  exact Nat.le_trans (hlast m hm) (Nat.div_le_div_right hle)

/-- A document with the stamp of the clock is added. -/
theorem Holds.cons {m : Sent} (h : Holds fields ms n docs) (hle : n ≤ n')
    (hperm : (docs'.map fun d => unseen d.data).Perm
      (unseen (fields m (n / 1000)) :: docs.map fun d => unseen d.data)) :
    Holds fields (m :: ms) n' docs' := by
  obtain ⟨l, hl, hdocs, hstamps⟩ := h
  refine ⟨(m, n / 1000) :: l, congrArg (m :: ·) hl, hperm.trans (hdocs.cons _), ?_⟩
  refine List.pairwise_cons.mpr ⟨fun k hk => ?_, hstamps⟩
  have hlater : n / 1000 ≤ n' / 1000 := Nat.div_le_div_right hle
  rcases List.mem_cons.mp hk with rfl | hk
  · exact hlater
  · exact Nat.le_trans ((List.pairwise_cons.mp hstamps).1 k hk) hlater

theorem holds_add {s : Store Path Key Value} {p : Path} {pos : ℕ} {m : Sent}
    (h : Holds fields ms n (s.docs p)) (hle : n ≤ n') :
    Holds fields (m :: ms) n' ((s.add p pos (fields m (n / 1000))).docs p) :=
  h.cons hle ((Store.perm_docs_add p pos _).map fun d => unseen d.data)

/-! ## The entries of an inbox -/

/-- The text a conversation is found by. -/
def chatIdOf (d : Data) : Option Value := d .chatId

theorem chatIdOf_unseen (d : Data) : chatIdOf (unseen d) = chatIdOf d := unseen_of_ne (by decide)

theorem chatIdOf_entry (m : Sent) (stamp : ℕ) :
    chatIdOf (m.entry stamp) = some (.str m.chatId) :=
  rfl

/-- What an inbox holds, one document for each of the conversations. -/
abbrev HoldsEntries : List Sent → ℕ → List Document → Prop := Holds Sent.entry

theorem HoldsEntries.perm_chatId (h : HoldsEntries ms n docs) :
    (docs.map fun d => chatIdOf d.data).Perm (ms.map fun m => some (.str m.chatId)) := by
  obtain ⟨l, rfl, hperm, -⟩ := h
  simpa only [List.map_map, Function.comp_def, chatIdOf_unseen, chatIdOf_entry]
    using hperm.map chatIdOf

/-- The entries of the other conversations. -/
theorem HoldsEntries.filter (h : HoldsEntries ms n docs) (cid : String) :
    HoldsEntries (ms.filter (·.chatId ≠ cid)) n
      (docs.filter fun d => chatIdOf d.data ≠ some (.str cid)) := by
  obtain ⟨l, rfl, hperm, hstamps⟩ := h
  refine ⟨l.filter fun x => x.1.chatId ≠ cid, by rw [List.filter_map]; rfl, ?_, ?_⟩
  · have hfilter := hperm.filter fun d => chatIdOf d ≠ some (.str cid)
    rw [List.filter_map, List.filter_map] at hfilter
    simpa only [Function.comp_def, chatIdOf_unseen, chatIdOf_entry, ne_eq, Option.some.injEq,
      Value.str.injEq] using hfilter
  · exact hstamps.sublist (List.filter_sublist.map Prod.snd |>.cons_cons _)

/-- Saving an entry writes all its fields. -/
theorem unseen_merge_entry {d : Data} {m m' : Sent} {stamp stamp' : ℕ}
    (h : unseen d = unseen (m'.entry stamp')) :
    unseen (d.merge (m.entry stamp)) = unseen (m.entry stamp) := by
  funext k
  by_cases hk : k = .isSeen
  · simp [unseen, hk]
  · rw [unseen_of_ne hk, unseen_of_ne hk]
    cases hentry : m.entry stamp k with
    | some v => exact Fields.merge_of_some hentry
    | none =>
      rw [Fields.merge_of_none hentry, ← unseen_of_ne (d := d) hk, h, unseen_of_ne hk]
      revert hentry
      cases k <;> simp [Sent.entry, inboxFields, Fields.ofList]

/-- The conversation is new in the inbox. -/
theorem holdsEntries_add {s : Store Path Key Value} {p : Path} {pos : ℕ} {m : Sent}
    (h : HoldsEntries ms n (s.docs p)) (hle : n ≤ n')
    (hnew : ∀ d ∈ s.docs p, chatIdOf d.data ≠ some (.str m.chatId)) :
    HoldsEntries (m :: ms.filter (·.chatId ≠ m.chatId)) n'
      ((s.add p pos (m.entry (n / 1000))).docs p) := by
  have hall : ∀ m' ∈ ms, m'.chatId ≠ m.chatId := by
    intro m' hm' he
    have hmem := h.perm_chatId.mem_iff.mpr (List.mem_map_of_mem hm')
    obtain ⟨d, hd, hchatId⟩ := List.mem_map.mp hmem
    exact hnew d hd (hchatId.trans (congrArg (fun c => some (Value.str c)) he))
  rw [List.filter_eq_self.mpr fun m' hm' => by simpa using hall m' hm']
  exact holds_add h hle

/-- The entry of the conversation is overwritten: it now has the fields of the message, and the
entries of other conversations are untouched. -/
theorem holdsEntries_update {s : Store Path Key Value} {p : Path} {m : Sent} {d : Document}
    (h : HoldsEntries ms n (s.docs p)) (hms : (ms.map Sent.chatId).Nodup) (hle : n ≤ n')
    (hd : d ∈ s.docs p) (hchatId : chatIdOf d.data = some (.str m.chatId)) :
    HoldsEntries (m :: ms.filter (·.chatId ≠ m.chatId)) n'
      ((s.update p d.id (m.entry (n / 1000))).docs p) := by
  -- no other document is about the conversation
  have hnodup : ((s.docs p).map fun d => chatIdOf d.data).Nodup := by
    refine h.perm_chatId.nodup_iff.mpr ?_
    have hinj : Function.Injective fun c : String => some (Value.str c) := fun _ _ he => by
      simpa using he
    simpa only [List.map_map, Function.comp_def] using hms.map hinj
  -- its fields are those of an entry
  have hfields : ∃ (m' : Sent) (stamp : ℕ), unseen d.data = unseen (m'.entry stamp) := by
    obtain ⟨l, -, hperm, -⟩ := h
    have hmem := hperm.mem_iff.mp (List.mem_map_of_mem hd)
    obtain ⟨x, -, hx⟩ := List.mem_map.mp hmem
    exact ⟨x.1, x.2, hx.symm⟩
  obtain ⟨m', stamp, hfields⟩ := hfields
  refine (h.filter m.chatId).cons hle ?_
  obtain ⟨before, after, hdocs⟩ := List.append_of_mem hd
  rw [hdocs, List.map_append, List.map_cons, List.nodup_middle, List.nodup_cons] at hnodup
  have hother : ∀ d' ∈ before ++ after, chatIdOf d'.data ≠ some (.str m.chatId) := by
    intro d' hd' he
    rw [hchatId, ← he, ← List.map_append] at hnodup
    exact hnodup.1 (List.mem_map_of_mem hd')
  have hfilter : ((s.docs p).filter fun d => chatIdOf d.data ≠ some (.str m.chatId)) =
      before ++ after := by
    rw [hdocs, List.filter_append, List.filter_cons_of_neg (by simp [hchatId]),
      ← List.filter_append]
    exact List.filter_eq_self.mpr fun d' hd' => by simpa using hother d' hd'
  rw [Store.docs_update_middle hdocs, hfilter, List.map_append, List.map_cons, List.map_append,
    unseen_merge_entry hfields]
  exact List.perm_middle

/-! ## The collections -/

/-- In the region the conversations have the messages `sent`, and the inbox of `u` the latest of
`shown u`. -/
structure Kept (R : Region) (sent : List Sent) (shown : String → List Sent) (n : ℕ) (w : World) :
    Prop where
  messages : ∀ cid, R.conversation cid = true →
    Holds Sent.message (conversation cid sent) n (w.store.docs (.messages cid))
  entries : ∀ u, R.user u = true → HoldsEntries (inbox u (shown u)) n (w.store.docs (.chats u))

variable {sent : List Sent} {shown : String → List Sent} {w w' : World} {m : Sent} {u : String}

theorem Kept.mono (h : Kept R sent shown n w) (hle : n ≤ n') (hquiet : R.Quiet w w') :
    Kept R sent shown n' w' where
  messages cid hcid := (h.messages cid hcid).mono hle (hquiet.messages cid hcid)
  entries u hu := (h.entries u hu).mono hle (hquiet.entries u hu)

theorem Kept.of_store (h : Kept R sent shown n w) (hle : n ≤ n') (hstore : w'.store = w.store) :
    Kept R sent shown n' w' :=
  h.mono hle (quiet_of_store hstore)

theorem stable_kept : R.quiet.Stable (Kept R sent shown) :=
  fun _ _ _ _ hle hquiet h => h.mono hle hquiet

/-- A message is stored: the conversation has one document more, stamped no earlier than all before
it, and no other conversation changes. -/
theorem Kept.message (h : Kept R sent shown n w) (hle : n ≤ n') (pos : ℕ) :
    Kept R (m :: sent) shown n'
      { w with store := w.store.add (.messages m.chatId) pos (m.message (n / 1000)) } where
  messages cid hregion := by
    by_cases hcid : m.chatId = cid
    · subst hcid
      simp only [conversation, List.filter_cons, decide_true, if_true]
      exact holds_add (h.messages _ hregion) hle
    · simp only [conversation, List.filter_cons, hcid, decide_false, Bool.false_eq_true, if_false]
      rw [Store.docs_add_of_ne fun he => hcid (Path.messages.inj he).symm]
      exact (h.messages cid hregion).mono hle rfl
  entries u hu := by
    rw [Store.docs_add_of_ne Path.noConfusion]
    exact (h.entries u hu).mono hle rfl

/-- The entry of a participant is saved: in this inbox the message is now the latest of its
conversation, and the other inboxes are as they were. -/
theorem Kept.entry {store : Store Path Key Value} (h : Kept R sent shown n w) (hle : n ≤ n')
    (hu : m.sender = u ∨ m.receiver = u) (hother : ∀ p ≠ .chats u, store.docs p = w.store.docs p)
    (hentry : R.user u = true →
      HoldsEntries (m :: (inbox u (shown u)).filter (·.chatId ≠ m.chatId)) n'
        (store.docs (.chats u))) :
    Kept R sent (Function.update shown u (m :: shown u)) n' { w with store := store } where
  messages cid hregion := by
    rw [hother _ Path.noConfusion]
    exact (h.messages cid hregion).mono hle rfl
  entries v hregion := by
    by_cases hv : v = u
    · subst hv
      simpa only [Function.update_self, inbox, if_pos hu] using hentry hregion
    · rw [Function.update_of_ne hv, hother _ fun he => hv (Path.chats.inj he)]
      exact (h.entries v hregion).mono hle rfl

/-- The message is stored, and both participants have their entries. -/
theorem Kept.both (h : Kept R (m :: sent) (Function.update (Function.update (fun _ => sent)
    m.sender (m :: sent)) m.receiver (m :: sent)) n w) :
    Kept R (m :: sent) (fun _ => m :: sent) n w where
  messages := h.messages
  entries u hu := by
    have hentries := h.entries u hu
    by_cases hreceiver : u = m.receiver
    · subst hreceiver
      rwa [Function.update_self] at hentries
    rw [Function.update_of_ne hreceiver] at hentries
    by_cases hsender : u = m.sender
    · subst hsender
      rwa [Function.update_self] at hentries
    rw [Function.update_of_ne hsender] at hentries
    rwa [inbox, if_neg fun h => h.elim (Ne.symm hsender) (Ne.symm hreceiver)]

/-! ## One message -/

/-- The query for the entry of a conversation. -/
abbrev entryQuery (w : World) (u cid : String) : List Document :=
  w.store.query (.chats u) (Fields.isEqualTo .chatId (.str cid))

theorem mem_entryQuery {cid : String} {d : Document} :
    d ∈ entryQuery w u cid ↔ d ∈ w.store.docs (.chats u) ∧ chatIdOf d.data = some (.str cid) := by
  rw [entryQuery, Store.mem_query, Fields.isEqualTo_iff]
  rfl

/-- The document that is found is still about the conversation. -/
theorem exists_mem_of_faces {d : Document} (hd : d ∈ docs) (hfaces : faces docs' = faces docs) :
    ∃ d' ∈ docs', d'.id = d.id ∧ chatIdOf d'.data = chatIdOf d.data := by
  have hmem : (d.id, unseen d.data) ∈ faces docs' := hfaces ▸ List.mem_map_of_mem hd
  obtain ⟨d', hd', he⟩ := List.mem_map.mp hmem
  obtain ⟨hid, hdata⟩ := Prod.mk.inj he
  exact ⟨d', hd', hid, by rw [← chatIdOf_unseen, hdata, chatIdOf_unseen]⟩

section Writer

variable {Post : ℕ → World → Prop} {l : Scope} {Q : Unit → ℕ → World → Prop}

/-- What was found when the inbox was read is written to: nobody else of the region has written
since, so it is still the only entry of the conversation, or there is still none. -/
theorem writes_saveFirst {w₀ : World} (hl : R.concerns l = true) (h : Kept R sent shown n w)
    (hu : m.sender = u ∨ m.receiver = u) (hquiet : R.Quiet w₀ w) (hle : n ≤ n')
    (hQ : ∀ n'' w', Kept R sent (Function.update shown u (m :: shown u)) n'' w' → Q () n'' w') :
    (saveFirst (.chats u) (entryQuery w₀ u m.chatId) (m.entry (n / 1000))).Writes R.quiet Post l n'
      w Q := by
  unfold saveFirst
  split
  · next d rest hfound =>
    have hd : d ∈ entryQuery w₀ u m.chatId := by rw [hfound]; exact List.mem_cons_self ..
    refine Async.writes_bind (Async.writes_remote hl fun t w₁ hle₁ hquiet₁ n₂ w₂ hle₂ hquiet₂ => ?_)
    have hsame := R.quiet.trans hquiet hquiet₁
    have hkept := h.mono (Nat.le_refl n) hquiet₁
    -- the document is still there
    have hid : d.id ∈ entryIds w₁ u := hsame.stays u (List.mem_map_of_mem (mem_entryQuery.mp hd).1)
    obtain ⟨d', hd', hid'⟩ := List.mem_map.mp hid
    have hsome : (w₁.store.doc? (.chats u) d.id).isSome = true := by
      rw [(Store.doc?_eq_some _).mpr ⟨hd', hid'⟩]
      rfl
    rw [if_pos hsome]
    refine Async.writes_pure (hQ _ _ (Kept.mono ?_ hle₂ hquiet₂))
    refine hkept.entry (Nat.le_trans hle hle₁) hu (fun _ => Store.docs_update_of_ne)
      fun hregion => ?_
    obtain ⟨d', hd', hid, hchatId⟩ := exists_mem_of_faces (mem_entryQuery.mp hd).1
      (hsame.entries u hregion)
    rw [← hid]
    refine holdsEntries_update (hkept.entries u hregion) (nodup_inbox _ _) (Nat.le_trans hle hle₁)
      hd' ?_
    exact hchatId.trans (mem_entryQuery.mp hd).2
  · next hnone =>
    refine Async.writes_remote hl fun t w₁ hle₁ hquiet₁ n₂ w₂ hle₂ hquiet₂ => hQ _ _ ?_
    have hkept := h.mono (Nat.le_refl n) hquiet₁
    refine Kept.mono ?_ hle₂ hquiet₂
    refine hkept.entry (Nat.le_trans hle hle₁) hu (fun _ => Store.docs_add_of_ne) fun hregion => ?_
    refine holdsEntries_add (hkept.entries u hregion) (Nat.le_trans hle hle₁) fun d hd hchatId => ?_
    obtain ⟨d', hd', -, hsame⟩ := exists_mem_of_faces hd
      ((R.quiet.trans hquiet hquiet₁).entries u hregion).symm
    have hmem : d' ∈ entryQuery w₀ u m.chatId := mem_entryQuery.mpr ⟨hd', hsame.trans hchatId⟩
    rw [hnone] at hmem
    exact absurd hmem List.not_mem_nil

/-- The entry of a participant is saved. -/
theorem writes_save {d : ℕ} (hl : R.concerns l = true) (h : Kept R sent shown n w)
    (hu : m.sender = u ∨ m.receiver = u)
    (hQ : ∀ n' w', Kept R sent (Function.update shown u (m :: shown u)) n' w' → Q () n' w') :
    (saveMessageInUserCollection d u (.str m.receiver) m.chatId m.content m.sender false
      false).Writes R.quiet Post l n w Q := by
  refine Async.writes_bind (Async.writes_get fun n₁ hle₁ => ?_)
  refine Async.writes_bind (Async.writes_remote hl fun t w₁ hle₂ hquiet₁ n₂ w₂ hle₃ hquiet₂ => ?_)
  refine Async.writes_bind (Async.writes_sync fun t' _ hle₄ => ?_)
  have hread : Kept R sent shown t'.now w₂ := h.mono (by omega) (R.quiet.trans hquiet₁ hquiet₂)
  refine Async.writes_bind ?_
  refine writes_saveFirst hl hread hu hquiet₂ (Nat.le_refl _) fun n₃ w₃ hsaved => ?_
  cases w.currentChat d with
  | none => exact Async.writes_pure (hQ _ _ hsaved)
  | some k => exact Async.writes_modify fun n₄ hle₅ => hQ _ _ (hsaved.of_store hle₅ rfl)

end Writer

/-- What is left of `onSendMessage` once the message is stored. -/
def saveEntries (k : ℕ) (s : ChatController) (m : Sent) : Call Unit := do
  setLoading k false
  saveMessageInUserCollection s.device m.sender (.str m.receiver) m.chatId m.content m.sender
    false false
  saveMessageInUserCollection s.device m.receiver (.str m.receiver) m.chatId m.content m.sender
    false false
  setLoading k false
  Async.spawn (getChatData k)
  notify k m.content
  setLoading k false

/-- What is left of `onSendMessage` once the message is on its way. -/
def rest (k : ℕ) (s : ChatController) (m : Sent) (stamp : ℕ) : Call Unit := do
  add (.messages m.chatId) (m.message stamp)
  saveEntries k s m

/-- The stamp `n` of the message is read when everything before it has been stored. -/
theorem writes_rest {k : ℕ} {s : ChatController} {l : Scope} (hl : R.concerns l = true)
    (h : Kept R sent (fun _ => sent) n w) (hle : n ≤ n') (hne : m.sender ≠ m.receiver) :
    (rest k s m (n / 1000)).task.Writes R.quiet (Kept R (m :: sent) fun _ => m :: sent) l n' w := by
  refine Async.Writes.task_bind ?_
  refine Async.writes_remote hl fun t w₁ hle₁ hquiet₁ n₂ w₂ hle₂ hquiet₂ => ?_
  have hstored := ((h.mono (Nat.le_refl n) hquiet₁).message (m := m) (Nat.le_trans hle hle₁)
    t.pos).mono hle₂ hquiet₂
  refine Async.Writes.task_bind (Async.writes_modify fun n₃ hle₃ => ?_)
  refine Async.Writes.task_bind ?_
  refine writes_save hl (hstored.of_store hle₃ rfl) (.inl rfl) fun n₄ w₄ hsender => ?_
  refine Async.Writes.task_bind ?_
  refine writes_save hl hsender (.inr rfl) fun n₅ w₅ hreceiver => ?_
  rw [Function.update_of_ne hne.symm] at hreceiver
  refine Async.Writes.task_bind (Async.writes_modify fun n₆ hle₆ => ?_)
  refine Async.writes_spawn (hreceiver.both.of_store hle₆ rfl) ?_ ?_
  · exact all_getChatData fun _ => allowsWrite_marks
  · exact Async.all_bind all_notify fun _ => all_setLoading

/-! ### Messages elsewhere -/

/-- The writes with which an entry of a user is saved. -/
inductive SavesTo (x : String) : Write Path Key Value → Prop where
  | add (pos : ℕ) (d : Data) : SavesTo x (.add (.chats x) pos d)
  | update (id : DocId) (d : Data) : SavesTo x (.update (.chats x) id d)

/-- Saving an entry does one of two writes, to the inbox it is saved in. -/
theorem all_saveTo {D : Deeds World} [AllowsHandlers D] {d : ℕ} {x cid content sender : String}
    {receiverId : Value} {isBlock isBroadcast : Bool} (h : ∀ op, SavesTo x op → AllowsWrite D op) :
    (saveMessageInUserCollection d x receiverId cid content sender isBlock isBroadcast).All D := by
  refine Async.all_bind Async.all_get fun chatCtrl => ?_
  refine Async.all_bind all_getDocs fun found => ?_
  refine Async.all_bind all_millisecondsSinceEpoch fun updateStamp => ?_
  refine Async.all_bind ?_ fun _ => all_clearInput
  cases found with
  | nil => exact all_add fun pos => h _ (.add pos _)
  | cons doc found => exact all_update (h _ (.update doc.id _))

/-- An entry of another inbox is saved. -/
theorem allowsWrite_entry {op : Write Path Key Value} (hu : R.user u = false)
    (hop : SavesTo u op) : AllowsWrite R.quiet.others op := by
  have hpath : op.path = .chats u := by
    cases hop with
    | add pos d => rfl
    | update id d => rfl
  refine fun t w => ⟨fun cid _ => ?_, fun v hv => ?_, fun v => ?_⟩
  · rw [Store.docs_write_of_ne fun he => Path.noConfusion (he.trans hpath)]
  · have hne : v ≠ u := fun he => by rw [he, hu] at hv; exact Bool.false_ne_true hv
    rw [Store.docs_write_of_ne fun he => hne (Path.chats.inj (he.trans hpath))]
  · cases hop with
    | add pos d =>
      intro id hid
      obtain ⟨x, hx, rfl⟩ := List.mem_map.mp hid
      exact List.mem_map_of_mem (Store.mem_add.mpr (Or.inr hx))
    | update id d => exact subset_update

/-- The entries of a message are saved in the inboxes of its sender and its receiver, after which
the chat is loaded again and marks entries. -/
theorem all_saveEntries {D : Deeds World} [AllowsHandlers D] {k : ℕ} {s : ChatController}
    (hmarks : ∀ op, Marks op → AllowsWrite D op)
    (hsender : ∀ op, SavesTo m.sender op → AllowsWrite D op)
    (hreceiver : ∀ op, SavesTo m.receiver op → AllowsWrite D op) : (saveEntries k s m).All D := by
  refine Async.all_bind all_setLoading fun _ => ?_
  refine Async.all_bind (all_saveTo hsender) fun _ => ?_
  refine Async.all_bind (all_saveTo hreceiver) fun _ => ?_
  refine Async.all_bind all_setLoading fun _ => ?_
  refine Async.all_bind (Async.all_spawn (all_getChatData hmarks)) fun _ => ?_
  exact Async.all_bind all_notify fun _ => all_setLoading

/-- A message that does not concern the region. -/
theorem all_rest {k stamp : ℕ} {s : ChatController}
    (hm : R.touches m.sender m.receiver m.chatId = false) :
    (rest k s m stamp).All R.quiet.others := by
  simp only [Region.touches, Bool.or_eq_false_iff] at hm
  obtain ⟨⟨hsender, hreceiver⟩, hchatId⟩ := hm
  refine Async.all_bind (all_add fun pos => ?_) fun _ => ?_
  · refine allowsWrite_of_ne (fun cid hcid he => ?_) fun _ => Path.noConfusion
    rw [Path.messages.inj he, hchatId] at hcid
    exact Bool.false_ne_true hcid
  · exact all_saveEntries (fun _ => allowsWrite_marks) (fun _ => allowsWrite_entry hsender)
      fun _ => allowsWrite_entry hreceiver

/-! ## The start of a message -/

/-- The screen loads, and its text field is empty. -/
def pressed (k : ℕ) (w : World) : World :=
  let chatCtrl := w.chatCtrl.modify k fun s => { s with isLoading := true }
  { w with chatCtrl := chatCtrl.modify k fun s => { s with text := "" } }

/-- The first segment of a send, up to its first request: seven actions, which give the conversation
its id and set the loader, and one thread that carries the message. -/
theorem run_onSendMessage {k : ℕ} {content cid : String} {type : MessageType} {ticks : ℕ → Tick}
    {s : ChatController} {body : Task World Scope} (hblank : ¬ isBlank content = true)
    (hcid : assignChatId k (ticks 3) (pressed k w) = (cid, w')) (hs : w'.chatCtrl.get k = s)
    (hall : s.allData = none)
    (hbody : (rest k s ⟨cid, s.userData.id, s.pId, content, type⟩ ((ticks 6).now / 1000)).task =
      .await body) :
    let o := (onSendMessage k content type).task.run ticks .idle 0 w
    o.world = { w' with chatCtrl := w'.chatCtrl.modify k fun s => { s with isLoading := false } } ∧
      o.threads = [⟨.send s.userData.id s.pId cid, body⟩] ∧ o.steps.length = 7 := by
  obtain rfl := Task.await.inj hbody
  simp only [pressed] at hcid
  unfold onSendMessage
  rw [if_neg hblank]
  simp only [send, dispatch, deliver, addMessage, millisecondsSinceEpoch, add, Async.remote,
    Async.task, bind, newChatId, chat, setLoading, modifyChat, Async.get, Async.modify, Async.sync,
    Async.enter, Task.run, hcid, hs, hall]
  exact ⟨trivial, rfl, rfl⟩

theorem assignChatId_get (k : ℕ) (t : Tick) (w : World) :
    (assignChatId k t w).2.store = w.store ∧
      (assignChatId k t w).2.chatCtrl.get k =
        { w.chatCtrl.get k with chatId := (assignChatId k t w).1 } := by
  by_cases h : (w.chatCtrl.get k).chatId = "0"
  · simp only [assignChatId, if_pos h, Heap.get_modify, if_true, and_self]
  · simp only [assignChatId, if_neg h, and_self]

/-- The identifier of a conversation is registered. -/
theorem assignChatId_minted {k : ℕ} {t : Tick} (h : (w.chatCtrl.get k).Sound w.minted) :
    ((assignChatId k t w).1, s((w.chatCtrl.get k).userData.id, (w.chatCtrl.get k).pId)) ∈
      (assignChatId k t w).2.minted := by
  by_cases hcid : (w.chatCtrl.get k).chatId = "0"
  · simp only [assignChatId, if_pos hcid]
    exact List.mem_cons_self ..
  · simp only [assignChatId, if_neg hcid]
    exact h.chatId.resolve_left hcid

/-- The message that a call sends, in the conversation its screen has from then on. -/
def sendsAt (c : Clients) (e : Event Action) : List Sent :=
  match e with
  | .call (.onSendMessage k content type) _ =>
    if isBlank content then []
    else
      let s := (messaging.apply c e).world.chatCtrl.get k
      [⟨s.chatId, s.userData.id, s.pId, content, type⟩]
  | _ => []

/-- The first segment of `onSendMessage`, up to where the message is on its way. -/
structure Starts (m : Sent) (k : ℕ) (ticks : ℕ → Tick) (w : World) (o : Outcome World Scope) :
    Prop where
  store : o.world.store = w.store
  minted : (m.chatId, s(m.sender, m.receiver)) ∈ o.world.minted
  ne : m.sender ≠ m.receiver
  threads : ∃ (s : ChatController) (body : Task World Scope),
    (rest k s m ((ticks 6).now / 1000)).task = .await body ∧
      o.threads = [⟨.send m.sender m.receiver m.chatId, body⟩]
  steps : o.steps.length = 7

/-- Every send that is not blank starts a message, with the id, the sender and the receiver of its
screen when it is called, and registered for the two of them. -/
theorem exists_starts {c : Clients} {k : ℕ} {content : String} (type : MessageType)
    (ticks : ℕ → Tick) (hc : Consistent c.world) (hk : k < c.world.chatCtrl.size)
    (hblank : ¬ isBlank content = true) :
    ∃ m, sendsAt c (.call (.onSendMessage k content type) ticks) = [m] ∧
      Starts m k ticks c.world
        (messaging.outcome c (.call (.onSendMessage k content type) ticks)) := by
  have hsound := hc.chat k hk
  -- the screen when the conversation has its identifier
  obtain ⟨cid, w', hcid⟩ : ∃ cid w', assignChatId k (ticks 3) (pressed k c.world) = (cid, w') :=
    ⟨_, _, rfl⟩
  obtain ⟨hstore, hs⟩ := assignChatId_get k (ticks 3) (pressed k c.world)
  have hpressed : ((pressed k c.world).chatCtrl.get k).Sound (pressed k c.world).minted := by
    simp only [pressed, Heap.get_modify, if_true]
    exact { hsound with }
  have hminted := assignChatId_minted (t := ticks 3) hpressed
  rw [hcid] at hstore hs hminted
  simp only [pressed, Heap.get_modify, if_true] at hs hminted
  have hall : (w'.chatCtrl.get k).allData = none := hs ▸ hsound.allData
  let m : Sent := ⟨cid, (w'.chatCtrl.get k).userData.id, (w'.chatCtrl.get k).pId, content, type⟩
  obtain ⟨body, hbody⟩ : ∃ body,
    (rest k (w'.chatCtrl.get k) m ((ticks 6).now / 1000)).task = .await body := ⟨_, rfl⟩
  obtain ⟨hworld, hthreads, hsteps⟩ := run_onSendMessage hblank hcid rfl hall hbody
  have hworld' : (messaging.apply c (.call (.onSendMessage k content type) ticks)).world = _ :=
    hworld
  refine ⟨m, ?_, ?_, ?_, ?_, ⟨w'.chatCtrl.get k, body, hbody, hthreads⟩, hsteps⟩
  · simp only [sendsAt, if_neg hblank, hworld', Heap.get_modify, if_true, hs, m]
  · exact (congrArg World.store hworld).trans hstore
  · have hregistered := (congrArg World.minted hworld).symm ▸ hminted
    simp only [m, hs]
    exact hregistered
  · simpa only [m, hs] using hsound.peer

/-! ## Runs -/

/-- The messages sent in a run, the latest first. -/
def sentIn : Clients → List (Event Action) → List Sent
  | _, [] => []
  | c, e :: es => sentIn (messaging.apply c e) es ++ sendsAt c e

theorem sentIn_snoc (e : Event Action) : ∀ (es : List (Event Action)) (c : Clients),
    sentIn c (es ++ [e]) = sendsAt (messaging.exec c es) e ++ sentIn c es
  | [], c => by simp [sentIn, System.exec]
  | e' :: es, c => by
    rw [List.cons_append, sentIn, sentIn_snoc e es, sentIn, List.append_assoc]
    rfl

/-- A message to the region is sent only when no other one is under way. -/
def InTurn (R : Region) (c : Clients) (e : Event Action) : Prop :=
  ∀ m ∈ sendsAt c e, R.touches m.sender m.receiver m.chatId = true →
    ∀ th ∈ c.threads, R.concerns th.scope = false

instance (c : Clients) (e : Event Action) : Decidable (InTurn R c e) :=
  inferInstanceAs (Decidable (∀ m ∈ sendsAt c e, R.touches m.sender m.receiver m.chatId = true →
    ∀ th ∈ c.threads, R.concerns th.scope = false))

/-- The messages to the region are sent one after the other and without a failure. -/
structure Orderly (R : Region) (c : Clients) (e : Event Action) : Prop where
  admits : messaging.admits c e
  chat : isChat e = true
  inTurn : InTurn R c e
  succeeds : System.Succeeds (fun l => R.concerns l = true) c e

/-- A message is sent to the region, where no other one is under way: its thread is the writer from
now on, and has stored nothing yet. -/
theorem tidyAfter_sent {c : Clients} {k : ℕ} {content : String} {type : MessageType}
    {ticks : ℕ → Tick} (hm : R.touches m.sender m.receiver m.chatId = true)
    (hnone : ∀ th ∈ c.threads, R.concerns th.scope = false)
    (h : Tidy R.quiet (Kept R sent fun _ => sent) n c.world c.threads)
    (hstarts : Starts m k ticks c.world
      (messaging.outcome c (.call (.onSendMessage k content type) ticks)))
    (hchain : (n :: (messaging.outcome c (.call (.onSendMessage k content type) ticks)).readings
      ticks 0).IsChain (· ≤ ·)) :
    messaging.TidyAfter R.quiet (Kept R (m :: sent) fun _ => m :: sent) n c
      (.call (.onSendMessage k content type) ticks) := by
  obtain ⟨hothers, hkept⟩ := h.idle_of fun th hth => by simp [Region.quiet, hnone th hth]
  refine System.tidyAfter_writer hothers ?_
  generalize messaging.outcome c (.call (.onSendMessage k content type) ticks) = o
    at hstarts hchain ⊢
  obtain ⟨s, body, hbody, hthreads⟩ := hstarts.threads
  have hreadings : o.readings ticks 0 = (List.range 7).map fun j => (ticks (0 + j)).now :=
    hstarts.steps ▸ readings_eq o ticks 0
  have hlast : (o.readings ticks 0).getLastD n = (ticks 6).now := by rw [hreadings]; rfl
  have hkept' := hkept.of_store (hlast ▸ le_getLastD hchain) hstarts.store
  rw [hlast]
  refine .waits hthreads hm fun n' w'' hle hquiet => ?_
  have hwrites := writes_rest (k := k) (s := s) (l := .send m.sender m.receiver m.chatId) hm
    (hkept'.mono (Nat.le_refl _) hquiet) hle hstarts.ne
  rw [hbody] at hwrites
  exact hwrites.2 n' w'' (Nat.le_refl _) (R.quiet.refl _)

/-- A message is sent elsewhere: its thread touches neither the conversations nor the inboxes of the
region. -/
theorem tidyAfter_elsewhere {c : Clients} {k : ℕ} {content : String} {type : MessageType}
    {ticks : ℕ → Tick} (hm : R.touches m.sender m.receiver m.chatId = false)
    (h : Tidy R.quiet (Kept R (m :: sent) fun _ => m :: sent) n c.world c.threads)
    (hstarts : Starts m k ticks c.world
      (messaging.outcome c (.call (.onSendMessage k content type) ticks)))
    (hchain : (n :: (messaging.outcome c (.call (.onSendMessage k content type) ticks)).readings
      ticks 0).IsChain (· ≤ ·)) :
    messaging.TidyAfter R.quiet (Kept R (m :: sent) fun _ => m :: sent) n c
      (.call (.onSendMessage k content type) ticks) := by
  refine h.other stable_kept (le_getLastD hchain) (quiet_of_store hstarts.store) fun th hth => ?_
  obtain ⟨s, body, hbody, hthreads⟩ := hstarts.threads
  have hall : (rest k s m ((ticks 6).now / 1000)).task.All R.quiet.others := (all_rest hm).task
  obtain rfl := List.mem_singleton.mp (hthreads ▸ hth)
  rwa [hbody] at hall

/-- A message elsewhere is none of the region. -/
theorem kept_elsewhere (hm : R.touches m.sender m.receiver m.chatId = false) :
    Kept R (m :: sent) (fun _ => m :: sent) = Kept R sent fun _ => sent := by
  simp only [Region.touches, Bool.or_eq_false_iff] at hm
  obtain ⟨⟨hsender, hreceiver⟩, hchatId⟩ := hm
  have hconversation : ∀ cid, R.conversation cid = true →
      conversation cid (m :: sent) = conversation cid sent := by
    intro cid hcid
    refine List.filter_cons_of_neg fun he => ?_
    rw [← of_decide_eq_true he, hchatId] at hcid
    exact Bool.false_ne_true hcid
  have hinbox : ∀ u, R.user u = true → inbox u (m :: sent) = inbox u sent := by
    intro u hu
    rw [inbox, if_neg]
    rintro (rfl | rfl)
    · exact Bool.false_ne_true (hsender.symm.trans hu)
    · exact Bool.false_ne_true (hreceiver.symm.trans hu)
  funext n w
  refine propext ⟨fun h => ⟨fun cid hcid => ?_, fun u hu => ?_⟩, fun h => ⟨fun cid hcid => ?_,
    fun u hu => ?_⟩⟩
  · exact hconversation cid hcid ▸ h.messages cid hcid
  · exact hinbox u hu ▸ h.entries u hu
  · exact (hconversation cid hcid).symm ▸ h.messages cid hcid
  · exact (hinbox u hu).symm ▸ h.entries u hu

/-- One event of an orderly run keeps the region tidy: a message to it, a message elsewhere, any
other action of a user, or a call that goes on. -/
theorem tidyAfter {c : Clients} {e : Event Action} (hc : Consistent c.world) (he : Orderly R c e)
    (h : Tidy R.quiet (Kept R sent fun _ => sent) n c.world c.threads)
    (hchain : (n :: (messaging.outcome c e).readings e.ticks 0).IsChain (· ≤ ·)) :
    messaging.TidyAfter R.quiet (Kept R (sendsAt c e ++ sent) fun _ => sendsAt c e ++ sent) n c
      e := by
  cases e with
  | resume i ticks => exact System.tidyAfter_resume stable_kept h he.succeeds hchain
  | call a ticks =>
    by_cases hsend : ∃ k content type, a = .onSendMessage k content type
    · obtain ⟨k, content, type, rfl⟩ := hsend
      by_cases hblank : isBlank content = true
      · have hsent : sendsAt c (.call (.onSendMessage k content type) ticks) = [] := if_pos hblank
        rw [hsent, List.nil_append]
        exact System.tidyAfter_other stable_kept h (all_onSendMessage_blank hblank) hchain
      · obtain ⟨m, hsent, hstarts⟩ := exists_starts type ticks hc he.admits hblank
        rw [hsent, List.singleton_append]
        cases hm : R.touches m.sender m.receiver m.chatId with
        | true =>
          -- no other message of the region is under way, so this one becomes the writer
          have hnone := he.inTurn m (hsent ▸ List.mem_singleton_self m) hm
          exact tidyAfter_sent hm hnone h hstarts hchain
        | false =>
          -- the region does not see the message
          rw [← kept_elsewhere hm] at h
          exact tidyAfter_elsewhere hm h hstarts hchain
    · have hsent : sendsAt c (.call a ticks) = [] := by
        unfold sendsAt
        split
        · next he => exact absurd ⟨_, _, _, (Event.call.inj he).1⟩ hsend
        · rfl
      have hall := all_quiet (R := R) he.chat
        fun k content type ha => hsend ⟨k, content, type, ha⟩
      rw [hsent, List.nil_append]
      exact System.tidyAfter_other stable_kept h hall hchain

variable {session : ℕ → UserData} {es : List (Event Action)} {c : Clients}

theorem kept_initial : Kept R [] (fun _ => []) n (World.initial session) where
  messages _ _ := holds_nil
  entries _ _ := holds_nil

/-- Once no message to the region is under way, its collections are those of the account. -/
theorem kept_of_run (h : messaging.Run (Orderly R) (Clients.initial session) es c)
    (hclock : messaging.NonDecreasing (Clients.initial session) es)
    (hnone : ∀ th ∈ c.threads, R.concerns th.scope = false) :
    Kept R (sentIn (Clients.initial session) es) (fun _ => sentIn (Clients.initial session) es)
      (messaging.latest (Clients.initial session) es) c.world := by
  let J : List (Event Action) → ℕ → World → Prop := fun es =>
    Kept R (sentIn (Clients.initial session) es) fun _ => sentIn (Clients.initial session) es
  have h₀ : Tidy R.quiet (J []) 0 (Clients.initial session).world
      (Clients.initial session).threads :=
    .idle (fun _ hth => absurd hth List.not_mem_nil) kept_initial
  have htidy := h.tidy h₀ (fun es c e n hrun he htidy hchain => ?_) hclock
  · exact (htidy.idle_of fun th hth => by simp [Region.quiet, hnone th hth]).2
  · have hc := Clients.consistent (hrun.mono fun _ _ he => he.admits)
    simp only [J, sentIn_snoc, ← hrun.exec_eq]
    exact tidyAfter hc he htidy hchain

/-- **One-to-one chats keep their messages.** In every run in which the messages to a region are
sent one after the other, whatever else happens meanwhile and however the steps of the handlers are
interleaved, once no message to the region is under way its conversations have the documents of
exactly the messages sent in them, stamped in the order in which they were sent, and its inboxes
have for each conversation one entry, with the fields of the latest message. -/
theorem transcript (R : Region) (h : messaging.Run (Orderly R) (Clients.initial session) es c)
    (hclock : messaging.NonDecreasing (Clients.initial session) es)
    (hnone : ∀ th ∈ c.threads, R.concerns th.scope = false) :
    let sent := sentIn (Clients.initial session) es
    let now := messaging.latest (Clients.initial session) es
    (∀ cid, R.conversation cid = true →
      Holds Sent.message (conversation cid sent) now (c.world.store.docs (.messages cid))) ∧
    ∀ u, R.user u = true →
      Holds Sent.entry (inbox u sent) now (c.world.store.docs (.chats u)) := by
  have hkept := kept_of_run h hclock hnone
  exact ⟨hkept.messages, hkept.entries⟩

/-- Bob finds Alice's message and answers; she opens her card of the chat meanwhile. -/
def answered : List (Event Action) :=
  bothOpen ++ alone 5000000 (.onSendMessage 0 "hello" .text) ++
    alone 6000000 (.saveContact 1 (contact "alice") true) ++
    .call (.onSendMessage 2 "hi" .text) (clock 7000000) ::
      .call (.tapCard 0 (.auto 1)) (clock 7000000) :: settle 7000000 40

theorem orderly_answered (R : Region)
    (hallowed : messaging.Allowed (fun c e => messaging.admits c e ∧ isChat e = true ∧ InTurn R c e)
      (Clients.initial aliceAndBob) answered) :
    messaging.Run (Orderly R) (Clients.initial aliceAndBob) answered
      (messaging.exec (Clients.initial aliceAndBob) answered) := by
  refine System.run_exec (hallowed.imp (q := Event.Succeeds) (fun c e he hsucc => ?_) ?_)
  · refine ⟨he.1, he.2.1, he.2.2, ?_⟩
    cases e with
    | call a ticks => trivial
    | resume i ticks => exact fun _ _ _ => hsucc
  · simp only [answered, bothOpen, List.forall_mem_append, List.forall_mem_cons]
    exact ⟨⟨⟨⟨⟨⟨succeeds_alone, succeeds_alone⟩, succeeds_alone⟩, succeeds_alone⟩, succeeds_alone⟩,
      succeeds_alone⟩, fun _ => rfl, fun _ => rfl, Event.succeeds_replicate fun _ => rfl⟩

/-- Bob answers Alice: both messages are in the conversation in the order in which they were sent,
and the entry of Alice shows the answer. -/
theorem transcript_answered :
    let w := (messaging.exec (Clients.initial aliceAndBob) answered).world
    let now := messaging.latest (Clients.initial aliceAndBob) answered
    Holds Sent.message [⟨"5000000", "bob", "alice", "hi", .text⟩,
      ⟨"5000000", "alice", "bob", "hello", .text⟩] now (w.store.docs (.messages "5000000")) ∧
    Holds Sent.entry [⟨"5000000", "bob", "alice", "hi", .text⟩] now (w.store.docs (.chats "alice"))
    := by
  have hkept := transcript ⟨fun _ => true, fun _ => true⟩ (orderly_answered _ (by decide +kernel))
    (by decide +kernel) (by decide +kernel)
  have hsent : sentIn (Clients.initial aliceAndBob) answered =
      [⟨"5000000", "bob", "alice", "hi", .text⟩, ⟨"5000000", "alice", "bob", "hello", .text⟩] := by
    decide +kernel
  rw [hsent] at hkept
  exact ⟨hkept.1 "5000000" rfl, hkept.2 "alice" rfl⟩

/-! ## One card for each peer -/

/-- The registry grows. -/
theorem mem_minted_apply {e : Event Action} {x : String × Sym2 String}
    (hc : c.All (handlers Written)) (hx : x ∈ c.world.minted) :
    x ∈ (messaging.apply c e).world.minted := by
  have hacts : messaging.Acts (handlers Written) e := by
    cases e with
    | call a ticks => exact all_body a
    | resume i ticks => trivial
  refine Leads.keeps (P := fun w : World => x ∈ w.minted) (fun st hst hbefore => ?_)
    (System.outcome_leads (S := messaging) (e := e)) hx
  obtain ⟨t, hdeed⟩ := System.rel_of_mem_steps hc hacts hst
  exact hdeed.minted ▸ List.mem_append_right _ hbefore

/-- A message is sent by one of the two for whom its conversation is registered. -/
theorem registered (h : messaging.Run messaging.admits (Clients.initial session) es c) :
    ∀ m ∈ sentIn (Clients.initial session) es,
      (m.chatId, s(m.sender, m.receiver)) ∈ c.world.minted := by
  induction h with
  | nil => exact fun m hm => absurd hm List.not_mem_nil
  | @snoc es c h e he ih =>
    intro m hm
    rw [sentIn_snoc, ← h.exec_eq] at hm
    have hall : c.All (handlers Written) := h.all (fun th hth => absurd hth List.not_mem_nil)
      fun c e _ => by
        cases e with
        | call a ticks => exact all_body a
        | resume i ticks => trivial
    rcases List.mem_append.mp hm with hm | hm
    · unfold sendsAt at hm
      split at hm
      · next k content type ticks _ =>
        by_cases hblank : isBlank content = true
        · exact absurd (if_pos hblank ▸ hm) List.not_mem_nil
        · obtain ⟨m', hsent, hstarts⟩ := exists_starts type ticks (Clients.consistent h) he
            hblank
          obtain rfl : m = m' := List.mem_singleton.mp (hsent ▸ hm)
          exact hstarts.minted
      · exact absurd hm List.not_mem_nil
    · exact mem_minted_apply hall (ih m hm)

/-- Every two users have one identifier at most, and no two of them the same. -/
def Paired (w : World) : Prop := ∀ e ∈ w.minted, ∀ e' ∈ w.minted, e.1 = e'.1 ↔ e.2 = e'.2

instance (w : World) : Decidable (Paired w) :=
  inferInstanceAs (Decidable (∀ e ∈ w.minted, ∀ e' ∈ w.minted, e.1 = e'.1 ↔ e.2 = e'.2))

/-- The message is from one of the two to the other. -/
def between (u p : String) (m : Sent) : Bool :=
  (m.sender = u && m.receiver = p) || (m.sender = p && m.receiver = u)

theorem between_iff {p : String} : between u p m = true ↔ s(m.sender, m.receiver) = s(u, p) := by
  simp [between]

theorem inbox_subset (u : String) : ∀ sent, inbox u sent ⊆ sent
  | [] => List.nil_subset _
  | m :: sent => by
    unfold inbox
    split
    · refine List.cons_subset_cons _ ?_
      exact List.Subset.trans (List.filter_subset_self _) (inbox_subset u sent)
    · exact List.Subset.trans (inbox_subset u sent) (List.subset_cons_self ..)

/-- Where conversations are those of pairs, an inbox has the latest message of each pair. -/
theorem filter_inbox {p : String} : ∀ {sent : List Sent},
    (∀ m ∈ sent, ∀ m' ∈ sent, m.chatId = m'.chatId ↔
      s(m.sender, m.receiver) = s(m'.sender, m'.receiver)) →
    (inbox u sent).filter (between u p) = (sent.find? (between u p)).toList
  | [], _ => rfl
  | m :: sent, hpairs => by
    have ih := filter_inbox (p := p) fun m hm m' hm' =>
      hpairs m (List.mem_cons_of_mem _ hm) m' (List.mem_cons_of_mem _ hm')
    have hpair : ∀ m' ∈ inbox u sent, m'.chatId = m.chatId ↔
        s(m'.sender, m'.receiver) = s(m.sender, m.receiver) := fun m' hm' =>
      hpairs m' (List.mem_cons_of_mem _ (inbox_subset u sent hm')) m (List.mem_cons_self ..)
    by_cases hm : between u p m = true
    · have hinvolved : m.sender = u ∨ m.receiver = u := by
        simp only [between, Bool.or_eq_true, Bool.and_eq_true, decide_eq_true_eq] at hm
        exact hm.imp And.left And.right
      rw [List.find?_cons_of_pos hm, inbox, if_pos hinvolved, List.filter_cons_of_pos hm,
        List.filter_filter]
      refine congrArg (m :: ·) (List.filter_eq_nil_iff.mpr fun m' hm' hboth => ?_)
      obtain ⟨hbetween, hchatId⟩ := Bool.and_eq_true_iff.mp hboth
      refine of_decide_eq_true hchatId ((hpair m' hm').mpr ?_)
      exact (between_iff.mp hbetween).trans (between_iff.mp hm).symm
    · rw [List.find?_cons_of_neg hm, inbox]
      split
      · rw [List.filter_cons_of_neg hm, List.filter_filter, ← ih]
        refine List.filter_congr fun m' hm' => ?_
        cases hbetween : between u p m' with
        | false => rfl
        | true =>
          refine decide_eq_true fun hchatId => hm (between_iff.mpr ?_)
          exact ((hpair m' hm').mp hchatId).symm.trans (between_iff.mp hbetween)
      · exact ih

/-- What `saveContact` looks for when the contact `p` is tapped on. -/
def isWith (p : String) (d : Data) : Bool :=
  isAbout p d && Fields.isEqualTo .isOneToOne (.bool true) d

theorem isWith_unseen (p : String) (d : Data) : isWith p (unseen d) = isWith p d := by
  simp only [isWith, isAbout, Fields.isEqualTo,
    unseen_of_ne (show Key.senderId ≠ .isSeen by decide),
    unseen_of_ne (show Key.receiverId ≠ .isSeen by decide),
    unseen_of_ne (show Key.isOneToOne ≠ .isSeen by decide)]

/-- The entry of a message is about a person just when the message is between this person and the
owner of the inbox. -/
theorem isWith_entry {p : String} {stamp : ℕ} (hp : p ≠ u) (hm : m.sender = u ∨ m.receiver = u) :
    isWith p (m.entry stamp) = between u p m := by
  have hsender : m.entry stamp .senderId = some (.str m.sender) := rfl
  have hreceiver : m.entry stamp .receiverId = some (.str m.receiver) := rfl
  have hone : Fields.isEqualTo .isOneToOne (.bool true) (m.entry stamp) = true := rfl
  simp only [isWith, isAbout, hone, hsender, hreceiver, between, Bool.and_true, Option.some.injEq,
    Value.str.injEq]
  rcases hm with rfl | rfl
  · simp [hp.symm]
  · simp [hp.symm]

/-- What is in an inbox is from its owner or to the owner. By recursion on the messages. -/
theorem mem_inbox : ∀ {sent : List Sent}, m ∈ inbox u sent → m.sender = u ∨ m.receiver = u
  | [], hm => absurd hm List.not_mem_nil
  | m' :: sent, hm => by
    rw [inbox] at hm
    split at hm
    · next hu =>
      rcases List.mem_cons.mp hm with rfl | hm
      · exact hu
      · exact mem_inbox (List.mem_filter.mp hm).1
    · exact mem_inbox hm

/-- **One card for each peer.** Where every two users have one identifier, an inbox has one entry
about each person its user has exchanged messages with, the latest of these messages, and a tap on
the person in the list of contacts finds it: `saveContact` looks for it with the query below. -/
theorem one_card_per_peer {u p : String} (hp : p ≠ u)
    (h : messaging.Run (Orderly (.ofUser u)) (Clients.initial session) es c)
    (hclock : messaging.NonDecreasing (Clients.initial session) es)
    (hnone : ∀ th ∈ c.threads, (Region.ofUser u).concerns th.scope = false)
    (hpaired : Paired c.world) :
    let found := (c.world.store.query (.chats u) (Fields.isEqualTo .isOneToOne (.bool true))).filter
      fun d => isAbout p d.data
    ∃ stamp : ℕ, found.map (fun d => unseen d.data) =
      ((sentIn (Clients.initial session) es).find? (between u p)).toList.map
        fun m => unseen (m.entry stamp) := by
  have hkept := kept_of_run h hclock hnone
  obtain ⟨l, hl, hperm, -⟩ := hkept.entries u (decide_eq_true rfl)
  have hregistered := registered (h.mono fun _ _ he => he.admits)
  have hpairs := filter_inbox (u := u) (p := p) fun m hm m' hm' =>
    hpaired _ (hregistered m hm) _ (hregistered m' hm')
  intro found
  have hfound : found = (c.world.store.docs (.chats u)).filter fun d => isWith p d.data :=
    List.filter_filter
  -- the entries that are found, and the messages they are of
  have hfilter := hperm.filter (isWith p)
  rw [List.filter_map, List.filter_map] at hfilter
  have hleft : (isWith p ∘ fun d : Document => unseen d.data) = fun d => isWith p d.data :=
    funext fun d => isWith_unseen p d.data
  have hright : l.filter (isWith p ∘ fun x => unseen (x.1.entry x.2)) =
      l.filter fun x => between u p x.1 := by
    refine List.filter_congr fun x hx => ?_
    rw [Function.comp_apply, isWith_unseen, isWith_entry hp]
    exact mem_inbox (hl ▸ List.mem_map_of_mem hx)
  rw [hleft, hright, ← hfound] at hfilter
  have hlatest : (l.filter fun x => between u p x.1).map Prod.fst =
      ((sentIn (Clients.initial session) es).find? (between u p)).toList := by
    rw [← hpairs, ← hl, List.filter_map]
    rfl
  cases hfind : (sentIn (Clients.initial session) es).find? (between u p) with
  | none =>
    rw [hfind, Option.toList_none, List.map_eq_nil_iff] at hlatest
    rw [hlatest] at hfilter
    exact ⟨0, hfilter.eq_nil⟩
  | some m =>
    rw [hfind, Option.toList_some, List.map_eq_singleton_iff] at hlatest
    obtain ⟨⟨m', stamp⟩, hx, rfl⟩ := hlatest
    rw [hx] at hfilter
    exact ⟨stamp, List.perm_singleton.mp hfilter⟩

theorem one_card_answered :
    let w := (messaging.exec (Clients.initial aliceAndBob) answered).world
    let found := (w.store.query (.chats "alice") (Fields.isEqualTo .isOneToOne (.bool true))).filter
      fun d => isAbout "bob" d.data
    ∃ stamp : ℕ, found.map (fun d => unseen d.data) =
      [unseen (Sent.entry ⟨"5000000", "bob", "alice", "hi", .text⟩ stamp)] := by
  obtain ⟨stamp, hfound⟩ := one_card_per_peer (u := "alice") (p := "bob") (by decide)
    (orderly_answered _ (by decide +kernel)) (by decide +kernel) (by decide +kernel)
    (by decide +kernel)
  have hlatest : (sentIn (Clients.initial aliceAndBob) answered).find? (between "alice" "bob") =
      some ⟨"5000000", "bob", "alice", "hi", .text⟩ := by decide +kernel
  rw [hlatest] at hfound
  exact ⟨stamp, hfound⟩

end FlutterTheme.Transcript
