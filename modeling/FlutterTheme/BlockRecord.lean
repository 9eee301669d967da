import FlutterTheme.Ends
import FlutterTheme.Block

/-!
# The block record of an inbox entry

`isBlock`, `blockBy` and `blockUserId` of the entry of a conversation are to say
whether its owner has blocked the peer. Every `saveMessageInUserCollection` writes
all three: `blockUser` enters a block, and a message of either side or of a
broadcast overwrites whatever is there with "not blocked". The flag that selects
between blocking and unblocking is never set, so `blockUser` never unblocks.

Where a user blocks at most once in a conversation, with the peer loaded, and no
message is carried on there afterwards, the record is right (`block_record`). One
message is enough to make it wrong (`block_record_lost`).
-/

namespace FlutterTheme

open EventLoop DocStore

variable {l : Scope} {w w' : World} {u p cid : String} {d : Data}

/-! ## The record -/

/-- The fields that record a block. -/
def blockRecord (d : Data) : Option Value × Option Value × Option Value :=
  (d .isBlock, d .blockBy, d .blockUserId)

/-- The record of an entry whose owner does not block the peer. -/
def notBlocked : Option Value × Option Value × Option Value :=
  (some (.bool false), some (.str ""), some (.str ""))

/-- The record of an entry in which `a` blocks `b`. -/
def blockedBy (a b : String) : Option Value × Option Value × Option Value :=
  (some (.bool true), some (.str a), some (.str b))

/-- The entry of `u` is of a one-to-one conversation. -/
def IsOneToOne (d : Data) : Prop := d .isOneToOne = some (.bool true)

theorem blockRecord_saved {stamp content x : String} {isBlock isBroadcast : Bool} :
    blockRecord (d.merge (inboxFields stamp x (.str p) cid content u isBlock isBroadcast)) =
      if isBlock then blockedBy x p else notBlocked := by
  cases isBlock <;> rfl

theorem blockRecord_inboxFields {stamp content x : String} {isBlock isBroadcast : Bool} :
    blockRecord (inboxFields stamp x (.str p) cid content u isBlock isBroadcast) =
      if isBlock then blockedBy x p else notBlocked := by
  cases isBlock <;> rfl

theorem notBlocked_ne_blockedBy {a b : String} : notBlocked ≠ blockedBy a b := by
  intro h
  cases h

/-! ## Conversations without messages after a block -/

/-- A message, or the copy of a broadcast, is on its way only while no user whose
entry it writes has blocked in the conversation. -/
def undisturbed (blocking : Prop) : Terms where
  promise
    | .send u p cid, w => ∀ x ∈ w.blockLog, x.chatId = cid → x.blocker ≠ u ∧ x.blocker ≠ p
    | .copy _ _ r cid, w => ∀ x ∈ w.blockLog, x.chatId = cid → x.blocker ≠ r
    | _, _ => True
  blocking := blocking

instance (blocking : Prop) : (l : Scope) → (w : World) →
    Decidable ((undisturbed blocking).promise l w)
  | .send u p cid, w => inferInstanceAs (Decidable
      (∀ x ∈ w.blockLog, x.chatId = cid → x.blocker ≠ u ∧ x.blocker ≠ p))
  | .copy _ _ r cid, w =>
    inferInstanceAs (Decidable (∀ x ∈ w.blockLog, x.chatId = cid → x.blocker ≠ r))
  | .idle, _ | .register _, _ | .block _ _ _, _ | .seen _ _ _, _ | .deleteMessage _ _, _
  | .group _, _ | .broadcast _ _, _ | .broadcastWait _ _, _ | .firstCopy _ _ _ _, _
  | .save _ _, _ => inferInstanceAs (Decidable True)

/-- What is saved in an entry is either a block that has been entered in the
history, or "not blocked" where its owner has not blocked. -/
theorem Saves.record {blocking : Prop} {x : String} {isBlock isBroadcast : Bool}
    (h : Saves w l u p cid x isBlock isBroadcast) (hp : (undisturbed blocking).promise l w) :
    (isBlock = true ∧ l = .block x p cid ∧ ⟨x, p, cid, true⟩ ∈ w.blockLog) ∨
    (isBlock = false ∧ ∀ y ∈ w.blockLog, y.chatId = cid → y.blocker ≠ x) := by
  cases h with
  | own => exact Or.inr ⟨rfl, fun y hy hcid => (hp y hy hcid).1⟩
  | peer => exact Or.inr ⟨rfl, fun y hy hcid => (hp y hy hcid).2⟩
  | block hlog => exact Or.inl ⟨rfl, rfl, hlog⟩
  | copy => exact Or.inr ⟨rfl, hp⟩

/-- The record of an entry of `u` is right as far as it goes: it says "not blocked",
or a block that `u` has entered in the history. -/
def RecordOf (log : List BlockAction) (u : String) (d : Data) : Prop :=
  blockRecord d = notBlocked ∨ ∃ x ∈ log, x.blocker = u ∧ d .chatId = some (.str x.chatId) ∧
    blockRecord d = blockedBy u x.blocked

theorem RecordOf.mono {log log' : List BlockAction} (h : RecordOf log u d) (hlog : log ⊆ log') :
    RecordOf log' u d := by
  rcases h with h | ⟨x, hx, h⟩
  · exact Or.inl h
  · exact Or.inr ⟨x, hlog hx, h⟩

/-- Every record comes from the history, and the history has nothing but blocks. -/
structure Recorded (w : World) : Prop where
  /-- the records -/
  entries : ∀ u, ∀ d ∈ w.store.docs (.chats u), IsOneToOne d.data → RecordOf w.blockLog u d.data
  /-- nothing sets the flag that selects unblocking -/
  blocks : ∀ x ∈ w.blockLog, x.block = true

/-- What an action in the scope `l` may do to the entries of conversations: they
stay, and only `blockUser` of their owner changes a record, into a block. -/
def EntriesKept (l : Scope) (w w' : World) : Prop :=
  ∀ u, ∀ d ∈ w.store.docs (.chats u), IsOneToOne d.data →
    ∃ d' ∈ w'.store.docs (.chats u), d'.id = d.id ∧ IsOneToOne d'.data ∧
      d'.data .chatId = d.data .chatId ∧
      (blockRecord d'.data = blockRecord d.data ∨
        (∃ p cid, l = .block u p cid) ∧ d'.data .isBlock = some (.bool true))

theorem EntriesKept.of_store (h : w'.store = w.store) : EntriesKept l w w' :=
  fun _ d hd hone => ⟨d, by rwa [h], rfl, hone, rfl, Or.inl rfl⟩

section Write

variable {blocking : Prop} {op : Write Path Key Value}

/-- An entry that was found by the identifier of a group or of a broadcast is not
of a conversation. -/
theorem Entry.not_oneToOne_of_found {m : Registry} {v : Value} (h : Entry m u d)
    (hd : d .groupId = some v ∨ d .broadcastId = some v) : ¬ IsOneToOne d := by
  intro hone
  rcases hd with hd | hd
  · obtain ⟨-, hone', -⟩ := h.of_groupId hd
    rw [IsOneToOne, hone'] at hone
    cases hone
  · obtain ⟨-, -, hone', -⟩ := h.of_broadcastId hd
    rw [IsOneToOne, hone'] at hone
    cases hone

/-- An entry that is written again in its conversation keeps its record, unless the write is that of
a block, which sets it. -/
theorem RecordOf.saved {x stamp content : String} {isBlock isBroadcast : Bool}
    (hl : Saves w l u p cid x isBlock isBroadcast) (hp : (undisturbed blocking).promise l w)
    (hd : RecordOf w.blockLog x d) (hcid : d .chatId = some (.str cid)) :
    blockRecord (d.merge (inboxFields stamp x (.str p) cid content u isBlock isBroadcast)) =
        blockRecord d ∨
      (∃ p cid, l = .block x p cid) ∧
        d.merge (inboxFields stamp x (.str p) cid content u isBlock isBroadcast) .isBlock =
          some (.bool true) := by
  rcases hl.record hp with ⟨rfl, rfl, -⟩ | ⟨rfl, hno⟩
  · exact Or.inr ⟨⟨p, cid, rfl⟩, rfl⟩
  · rw [blockRecord_saved]
    rcases hd with hd | ⟨y, hy, hyx, hycid, -⟩
    · exact Or.inl hd.symm
    · -- a block of the owner, which the message has been promised not to find
      rw [hcid] at hycid
      cases hycid
      exact absurd hyx (hno y hy rfl)

/-- A write leaves the entries of conversations with their records. One case for each write a
handler may make; only the saves of an entry touch one, and these are `RecordOf.saved`. -/
theorem Permits.entriesKept (h : Permits w l op) (hc : Consistent w) (hr : Recorded w)
    (hp : (undisturbed blocking).promise l w) :
    EntriesKept l w { w with store := w.store.write op } := by
  intro x d hd hone
  have hentry : Entry w.minted x d.data := hc.docs _ d hd
  have hstays : ¬ Store.Takes op (.chats x) d → ∃ d' ∈ (w.store.write op).docs (.chats x),
      d'.id = d.id ∧ IsOneToOne d'.data ∧ d'.data .chatId = d.data .chatId ∧
      (blockRecord d'.data = blockRecord d.data ∨
        (∃ p cid, l = .block x p cid) ∧ d'.data .isBlock = some (.bool true)) :=
    fun ht => ⟨d, Store.mem_write_of_mem hd ht, rfl, hone, rfl, Or.inl rfl⟩
  cases h with
  | message | addEntry | addGroupEntry | groupMessage | broadcastMessage | addBroadcastEntry =>
    exact hstays fun ht => ht
  | deleteMessage | register | group | broadcast =>
    refine hstays ?_
    rintro ⟨he, -⟩
    cases he
  | @updateEntry _ _ _ _ y _ _ _ _ id hl registered found =>
    by_cases ht : Path.chats x = .chats y ∧ d.id = id
    -- the entry that is written is the one looked at
    · obtain ⟨he, hid⟩ := ht
      cases he
      have hcid := found d hd hid
      refine ⟨_, Store.mem_update.mpr ⟨d, hd, (if_pos ⟨rfl, hid⟩).symm⟩, rfl, rfl, ?_, ?_⟩
      · exact hcid.symm
      · exact (hr.entries x d hd hone).saved hl hp hcid
    · exact hstays ht
  | @seen _ _ _ y id hx registered found =>
    by_cases ht : Path.chats x = .chats y ∧ d.id = id
    · obtain ⟨he, hid⟩ := ht
      cases he
      exact ⟨_, Store.mem_update.mpr ⟨d, hd, (if_pos ⟨rfl, hid⟩).symm⟩, rfl, hone, rfl, Or.inl rfl⟩
    · exact hstays ht
  | updateGroupEntry found =>
    -- an entry that was found by its `groupId` is not of a conversation
    refine hstays ?_
    rintro ⟨he, hid⟩
    cases he
    exact hentry.not_oneToOne_of_found (Or.inl (found d hd hid)) hone
  | updateBroadcastEntry _ found =>
    refine hstays ?_
    rintro ⟨he, hid⟩
    cases he
    exact hentry.not_oneToOne_of_found (Or.inr (found d hd hid)) hone

/-- The records that a write puts in come from the history of blocks: an entry that is new says
nothing, and one that is written again says what it said or what the block says. -/
theorem Permits.recordOf (h : Permits w l op) (hc : Consistent w) (hr : Recorded w)
    (hp : (undisturbed blocking).promise l w) :
    ∀ q x, w.store.Puts op q x → ∀ u, q = .chats u → IsOneToOne x.data →
      RecordOf w.blockLog u x.data := by
  cases h with
  | message | register | group | groupMessage | broadcast | broadcastMessage =>
    rintro _ _ ⟨rfl, -⟩ _ he
    cases he
  | deleteMessage => exact fun _ _ hput => hput.elim
  | addEntry hl registered =>
    rintro _ _ ⟨rfl, rfl⟩ _ he -
    cases he
    -- what is written is a block that is in the history, or "not blocked"
    rcases hl.record hp with ⟨rfl, rfl, hlog⟩ | ⟨rfl, -⟩
    · exact Or.inr ⟨_, hlog, rfl, rfl, blockRecord_inboxFields⟩
    · exact Or.inl blockRecord_inboxFields
  | updateEntry hl registered found =>
    rintro _ _ ⟨rfl, y, -, -, rfl⟩ _ he -
    cases he
    rcases hl.record hp with ⟨rfl, rfl, hlog⟩ | ⟨rfl, -⟩
    · exact Or.inr ⟨_, hlog, rfl, rfl, blockRecord_saved⟩
    · exact Or.inl blockRecord_saved
  | seen =>
    rintro _ _ ⟨rfl, y, hy, -, rfl⟩ _ he hone
    cases he
    exact hr.entries _ y hy hone
  | addGroupEntry | addBroadcastEntry =>
    rintro _ _ ⟨rfl, rfl⟩ _ - hone
    cases hone
  | updateGroupEntry found =>
    rintro _ _ ⟨rfl, y, hy, hid, rfl⟩ _ he hone
    cases he
    have hentry : Entry w.minted _ y.data := hc.docs _ y hy
    exact absurd hone (hentry.not_oneToOne_of_found (Or.inl (found y hy hid)))
  | updateBroadcastEntry _ found =>
    rintro _ _ ⟨rfl, y, hy, hid, rfl⟩ _ he hone
    cases he
    have hentry : Entry w.minted _ y.data := hc.docs _ y hy
    exact absurd hone (hentry.not_oneToOne_of_found (Or.inr (found y hy hid)))

end Write

/-! ## Steps -/

/-- The inbox of `u` has an entry of the conversation `cid` that is marked as blocked. -/
def Marked (w : World) (u cid : String) : Prop :=
  ∃ d ∈ w.store.docs (.chats u), IsOneToOne d.data ∧ d.data .chatId = some (.str cid) ∧
    d.data .isBlock = some (.bool true)

/-- Entries that are marked stay so: nothing unblocks. -/
theorem EntriesKept.marked (h : EntriesKept l w w') (hm : Marked w u cid) : Marked w' u cid := by
  obtain ⟨d, hd, hone, hcid, hblock⟩ := hm
  obtain ⟨d', hd', -, hone', hcid', hrec⟩ := h u d hd hone
  refine ⟨d', hd', hone', hcid'.trans hcid, ?_⟩
  rcases hrec with hrec | ⟨-, hblock'⟩
  · exact (congrArg Prod.fst hrec).trans hblock
  · exact hblock'

/-- What an action in the scope `l` may not do: change a record of a user who is not
the one calling `blockUser`. -/
def RecordsKept (l : Scope) (w w' : World) : Prop :=
  ∀ u, ∀ d ∈ w.store.docs (.chats u), IsOneToOne d.data → (∀ p cid, l ≠ .block u p cid) →
    ∃ d' ∈ w'.store.docs (.chats u), d'.id = d.id ∧ blockRecord d'.data = blockRecord d.data

theorem EntriesKept.records (h : EntriesKept l w w') : RecordsKept l w w' := by
  intro u d hd hone hl
  obtain ⟨d', hd', hid, -, -, hrec⟩ := h u d hd hone
  rcases hrec with hrec | ⟨⟨p, cid, he⟩, -⟩
  · exact ⟨d', hd', hid, hrec⟩
  · exact absurd he (hl p cid)

theorem Recorded.of_eq (hr : Recorded w) (hs : w'.store = w.store) (hb : w'.blockLog = w.blockLog) :
    Recorded w' := by
  refine ⟨?_, ?_⟩
  · rw [hs, hb]; exact hr.entries
  · rw [hb]; exact hr.blocks

/-- A block that is entered in the history. -/
theorem Recorded.log (hr : Recorded w) {a : BlockAction} (ha : a.block = true) :
    Recorded { w with blockLog := a :: w.blockLog } := by
  refine ⟨fun u d hd hone => (hr.entries u d hd hone).mono (List.subset_cons_self ..), ?_⟩
  intro x hx
  rcases List.mem_cons.mp hx with rfl | hx
  · exact ha
  · exact hr.blocks x hx

variable {blocking : Prop}

/-- One action of any handler keeps the records and the entries, by what its scope permits it to
write. -/
theorem Effect.recorded (h : Effect (undisturbed blocking) l w w') (hc : Consistent w)
    (hr : Recorded w) : EntriesKept l w w' ∧ Recorded w' := by
  cases h with
  | screens store _ blockLog _ => exact ⟨.of_store store, hr.of_eq store blockLog⟩
  | mint _ store _ blockLog _ => exact ⟨.of_store store, hr.of_eq store blockLog⟩
  | block a _ _ blocks => exact ⟨.of_store rfl, hr.log blocks⟩
  | notify n _ => exact ⟨.of_store rfl, hr.of_eq rfl rfl⟩
  | write op promised permitted =>
    refine ⟨permitted.entriesKept hc hr promised, ?_, hr.blocks⟩
    intro u d hd hone
    have hput := permitted.recordOf hc hr promised
    rcases Store.of_mem_write hd with hd | hd
    · exact hr.entries u d hd hone
    · exact hput _ d hd u rfl hone

/-- The records, on top of what the handlers of all clients rely on and guarantee. -/
def records (blocking : Prop) : Strengthening (clientProtocol (undisturbed blocking)) where
  rely w w' := ∀ u cid, Marked w u cid → Marked w' u cid
  inv := Recorded
  step := RecordsKept
  rely_refl _ _ _ h := h
  rely_trans h h' u cid hm := h' u cid (h u cid hm)
  step_refl _ _ := (EntriesKept.of_store rfl).records
  of_step hc hr hstep := by
    obtain ⟨hkept, hr'⟩ := Effect.recorded hstep hc hr
    exact ⟨fun _ _ => hkept.marked, hr', hkept.records⟩

/-- What the handlers rely on and guarantee where nobody disturbs a block. -/
abbrev recordProtocol (blocking : Prop) : Protocol World Scope :=
  (clientProtocol (undisturbed blocking)).strengthen (records blocking)

/-! ## The block reaches the entry -/

/-- The entry of `u` for the conversation is to be marked, by a `blockUser` of `u`. -/
def marked (u cid : String) : Goal (recordProtocol False) where
  reached w := Marked w u cid
  scope l := ∃ p, l = .block u p cid
  stable h := h.2 u cid

theorem marked_ofWorld : (marked u cid).OfWorld := fun _ _ _ => id

/-- Whether the entry of the conversation is updated or added, the write of `blockUser` leaves it
marked: in the first case because the document that was found can only have been updated since. -/
theorem reaches_saveFirst {docs : List Document} {stamp content : String}
    (hdocs : ∀ d ∈ docs, ∃ d' ∈ w.store.docs (.chats u), d'.id = d.id) :
    (saveFirst (.chats u) docs (inboxFields stamp u (.str p) cid content u true false)).Reaches
      (marked u cid) (.block u p cid) w fun _ _ w' => Marked w' u cid := by
  cases docs with
  | nil =>
    refine Async.reaches_remote ⟨p, rfl⟩ fun w₁ _ _ t w₂ hw₂ _ => ?_
    exact hw₂.2 u cid ⟨_, Store.mem_add.mpr (Or.inl ⟨rfl, rfl⟩), rfl, rfl, rfl⟩
  | cons d docs =>
    refine Async.reaches_bind (Async.reaches_remote ⟨p, rfl⟩ fun w₁ hw₁ _ t w₂ hw₂ _ => ?_)
    -- the document that was found is still there
    obtain ⟨d', hd', hid'⟩ := hdocs d (List.mem_cons_self ..)
    obtain ⟨d₁, hd₁, hid₁, -⟩ := hw₁.1.entries u d' hd'
    have hid : d₁.id = d.id := hid₁.trans hid'
    have hfound : (w₁.store.doc? (.chats u) d.id).isSome = true := by
      rw [Store.doc?, List.find?_isSome]
      exact ⟨d₁, hd₁, by simpa using hid⟩
    rw [if_pos hfound]
    refine Async.reaches_pure (hw₂.2 u cid ⟨_, Store.mem_update.mpr ⟨d₁, hd₁, rfl⟩, ?_⟩)
    rw [if_pos ⟨rfl, hid⟩]
    exact ⟨rfl, rfl, rfl⟩

theorem reaches_clearInput {c : Option ℕ} (h : Marked w u cid) :
    (clearInput c).Reaches (marked u cid) l w fun _ _ w' => Marked w' u cid := by
  cases c with
  | none => exact Async.reaches_pure h
  | some c => exact Async.reaches_sync fun _ => h

/-- The save that `blockUser` makes marks the owner's entry of the conversation, whether it is found
or new. -/
theorem reaches_save {d : ℕ} {content : String} :
    (saveMessageInUserCollection d u (.str p) cid content u true false).Reaches
      (marked u cid) (.block u p cid) w fun _ _ w' => Marked w' u cid := by
  refine Async.reaches_bind (Async.reaches_sync fun _ => ?_)
  refine Async.reaches_bind (Async.reaches_remote ⟨p, rfl⟩ fun w₁ _ _ _ w₂ hw₂ _ => ?_)
  refine Async.reaches_bind (Async.reaches_sync fun _ => ?_)
  refine Async.reaches_bind (Async.Reaches.mono (reaches_saveFirst ?_) ?_)
  · intro doc hdoc
    obtain ⟨doc', hdoc', hid, -⟩ := hw₂.1.entries u doc ((Store.mem_query _).mp hdoc).1
    exact ⟨doc', hdoc', hid⟩
  · exact fun _ _ _ hmarked => reaches_clearInput hmarked

/-- `blockUser` with the peer loaded marks the entry. -/
theorem ends_block {s : ChatController} {pData : Data} (hp : s.pData = some pData)
    (hid : pData .id = some (.str s.pId)) :
    (block s cid).task.Ends (marked s.userData.id cid) (.block s.userData.id s.pId cid) w := by
  refine Async.Reaches.ends (Async.reaches_bind (Async.reaches_bind (Async.reaches_sync fun t => ?_)))
  refine Async.reaches_spawn fun w₁ _ _ => ?_
  simp only [hp, hid, Option.getD_some]
  exact reaches_save

/-! ## Runs -/

/-- The scope is of a `blockUser`. -/
def Scope.IsBlock (l : Scope) : Prop := ∃ u p cid, l = .block u p cid

/-- `blockUser` is called with the peer loaded. -/
def PeerLoaded (c : Clients) : Event Action → Prop
  | .call (.blockUser i) _ => (c.world.chatCtrl.get i).pData.isSome = true
  | _ => True

instance (c : Clients) (e : Event Action) : Decidable (PeerLoaded c e) := by
  unfold PeerLoaded
  split <;> infer_instance

/-- No operation of a `blockUser` fails. -/
def BlocksSucceed (c : Clients) (e : Event Action) : Prop :=
  (∀ i ticks, e = .call (.blockUser i) ticks → ∀ n, (ticks n).fails = false) ∧
    System.Succeeds Scope.IsBlock c e

/-- An event at which no block is disturbed. -/
structure Undisturbed (c : Clients) (e : Event Action) : Prop where
  admits : messaging.admits c e
  promised : Promised (undisturbed False) c e
  loaded : PeerLoaded c e
  succeeds : BlocksSucceed c e

/-- An event at which no block is disturbed unless an operation fails. -/
def Quiet (c : Clients) (e : Event Action) : Prop :=
  messaging.admits c e ∧ Promised (undisturbed False) c e ∧ PeerLoaded c e

instance (c : Clients) (e : Event Action) : Decidable (Quiet c e) :=
  inferInstanceAs (Decidable (_ ∧ _))

theorem Undisturbed.of_succeeds {c : Clients} {e : Event Action} (h : Quiet c e)
    (he : e.Succeeds) : Undisturbed c e := by
  obtain ⟨admits, promised, loaded⟩ := h
  refine ⟨admits, promised, loaded, ?_, ?_⟩
  · rintro i ticks rfl
    exact he
  · cases e with
    | call a ticks => trivial
    | resume i ticks => exact fun _ _ _ => he

/-- The records follow the history, and every block in the history is entered or
about to be. -/
structure Recording (c : Clients) : Prop where
  kept : c.Kept (recordProtocol False)
  pending : ∀ x ∈ c.world.blockLog, Pending (marked x.blocker x.chatId) c.world c.threads

variable {c : Clients}

/-- Every event but a call of `blockUser` keeps the protocol. -/
theorem Recording.provides (hc : Recording c) {e : Event Action} (he : Undisturbed c e)
    (hne : ∀ i ticks, e ≠ .call (.blockUser i) ticks) :
    messaging.Provides (recordProtocol False) c e := by
  cases e with
  | call a ticks =>
    have hruns : Runs (undisturbed False) a.body .idle c.world := by
      refine runs_action ?_ hc.kept.inv.1 he.admits
      rintro ⟨i, rfl⟩
      exact absurd rfl (hne i ticks)
    exact hruns.safe.strengthen _ hc.kept.inv.1 hc.kept.inv.2
  | resume i ticks => exact he.promised

theorem Effect.blockLog_eq (h : Effect (undisturbed False) l w w') : w'.blockLog = w.blockLog := by
  cases h with
  | screens _ _ blockLog _ => exact blockLog
  | mint _ _ _ blockLog _ => exact blockLog
  | block _ blocking => exact blocking.elim
  | notify | write => rfl

/-- The history of blocking changes only when `blockUser` is called. -/
theorem Recording.blockLog_eq (hc : Recording c) {e : Event Action} (he : Undisturbed c e)
    (hne : ∀ i ticks, e ≠ .call (.blockUser i) ticks) :
    (messaging.apply c e).world.blockLog = c.world.blockLog := by
  have hsteps := (System.outcome_kept hc.kept (hc.provides he hne)).steps
  have hlog : ∀ st ∈ (messaging.outcome c e).steps, st.after.blockLog = st.before.blockLog :=
    fun st hst => Effect.blockLog_eq (hsteps st hst).1
  cases e with
  | call a ticks => exact Task.run_invariant hlog
  | resume i ticks =>
    simp only [System.apply, System.outcome] at hlog ⊢
    split at hlog
    · exact Task.run_invariant hlog
    · rfl

/-- What a call of `blockUser` does before its first `await`: the conversation has its
identifier (in the world `r.2`), the action goes into the history, and the rest of the
call is run. -/
theorem outcome_blockUser (c : Clients) (i : ℕ) (ticks : ℕ → Tick) {r : String × World}
    {s : ChatController} (hr : assignChatId i (ticks 0) c.world = r) (hs : r.2.chatCtrl.get i = s) :
    ∃ steps, messaging.outcome c (.call (.blockUser i) ticks) =
      { (if s.isBlock then unblock s r.1 else block s r.1 : Call Unit).task.run ticks
          (.block s.userData.id s.pId r.1) 3
          { r.2 with blockLog := ⟨s.userData.id, s.pId, r.1, !s.isBlock⟩ :: r.2.blockLog } with
        steps := steps } := by
  subst hr hs
  exact ⟨_, rfl⟩

theorem pData_assignChatId (i : ℕ) (t : Tick) (w : World) :
    ((assignChatId i t w).2.chatCtrl.get i).pData = (w.chatCtrl.get i).pData := by
  by_cases h0 : (w.chatCtrl.get i).chatId = "0"
  · simp only [assignChatId, if_pos h0, Heap.get_modify, if_true]
  · simp only [assignChatId, if_neg h0]

/-- A segment that leaves the suspended calls alone and after which the history has
one more block, whose entry is pending. -/
theorem Recording.extend (hc : Recording c) {e : Event Action} {a : BlockAction}
    {o : Outcome World Scope} (ho : messaging.outcome c e = o)
    (hle : (recordProtocol False).rely c.world o.world) (hinv : (recordProtocol False).inv o.world)
    (hths : ∀ th ∈ o.threads, th.Safe (recordProtocol False) o.world)
    (hlog : o.world.blockLog = a :: c.world.blockLog)
    (hends : Pending (marked a.blocker a.chatId) o.world o.threads)
    (hkept : Config.kept c e = c.threads) : Recording (messaging.apply c e) := by
  subst ho
  refine ⟨⟨hinv, ?_⟩, ?_⟩
  · intro th hth
    rcases List.mem_append.mp hth with hth | hth
    · rw [hkept] at hth
      exact (hc.kept.threads th hth).mono hle
    · exact hths th hth
  · intro x hx
    rw [System.apply, hlog] at hx
    rcases List.mem_cons.mp hx with rfl | hx
    · exact hends.mono ((recordProtocol False).rely_refl _)
        fun th hth => List.mem_append_right _ hth
    · refine (hc.pending x hx).mono hle fun th hth => List.mem_append_left _ ?_
      rwa [hkept]

/-- A call of `blockUser` is entered in the history, and will be in the entry. -/
theorem Recording.blockUser (hc : Recording c) {i : ℕ} {ticks : ℕ → Tick}
    (hi : i < c.world.chatCtrl.size) (hloaded : (c.world.chatCtrl.get i).pData.isSome = true)
    (ht : ∀ n, (ticks n).fails = false) :
    Recording (messaging.apply c (.call (.blockUser i) ticks)) := by
  obtain ⟨hev, hcon, heff, hreg⟩ :=
    assigned (π := undisturbed False) (l := .idle) hc.kept.inv.1 hi (ticks 0)
  obtain ⟨hkept, hrec⟩ := heff.recorded hc.kept.inv.1 hc.kept.inv.2
  have hsound := hcon.chat i (lt_of_lt_of_le hi hev.chat.1)
  have hlog₁ := heff.blockLog_eq
  rw [← pData_assignChatId i (ticks 0)] at hloaded
  obtain ⟨pData, hp⟩ := Option.isSome_iff_exists.mp hloaded
  obtain ⟨steps, houtcome⟩ := outcome_blockUser c i ticks rfl rfl
  generalize assignChatId i (ticks 0) c.world = r at *
  generalize r.2.chatCtrl.get i = s at *
  simp only [hsound.isBlock, Bool.false_eq_true, if_false, Bool.not_false] at houtcome
  -- the world when the action is in the history
  have hinv : (recordProtocol False).inv
      { r.2 with blockLog := ⟨s.userData.id, s.pId, r.1, true⟩ :: r.2.blockLog } :=
    ⟨{ hcon with }, hrec.log rfl⟩
  have hsafe := (keeps_block hinv.1 hsound.pData hreg (List.mem_cons_self ..)).runs.safe.strengthen
    (records False) hinv.1 hinv.2
  have ho := hsafe.run ticks (n := 3) hinv
  have hends := ((ends_block hp (hsound.pData pData hp)).run ht (n := 3) hinv hsafe).resolve_left
    marked_ofWorld.not_taken
  have holog := Task.run_invariant (g := World.blockLog)
    fun st hst => Effect.blockLog_eq (ho.steps st hst).1
  have hle : (recordProtocol False).rely c.world
      { r.2 with blockLog := ⟨s.userData.id, s.pId, r.1, true⟩ :: r.2.blockLog } :=
    ⟨hev.trans (.of_blockLog _), fun _ _ => hkept.marked⟩
  refine hc.extend (a := ⟨s.userData.id, s.pId, r.1, true⟩) houtcome
    ((recordProtocol False).rely_trans hle ho.le) ho.inv ho.threads ?_ hends rfl
  rw [← hlog₁]
  exact holog

/-- Every event that disturbs no block keeps the records in step with the history. -/
theorem Recording.apply (hc : Recording c) {e : Event Action} (he : Undisturbed c e) :
    Recording (messaging.apply c e) := by
  by_cases hcall : ∃ i ticks, e = .call (.blockUser i) ticks
  · obtain ⟨i, ticks, rfl⟩ := hcall
    exact hc.blockUser he.admits he.loaded (he.succeeds.1 i ticks rfl)
  · have hne : ∀ i ticks, e ≠ .call (.blockUser i) ticks :=
      fun i ticks h => hcall ⟨i, ticks, h⟩
    have hprov := hc.provides he hne
    refine ⟨System.apply_kept hc.kept hprov, ?_⟩
    intro x hx
    rw [hc.blockLog_eq he hne] at hx
    refine System.pending_apply marked_ofWorld hc.kept hprov ?_ (hc.pending x hx)
    -- the scopes of this goal are scopes of `blockUser`
    cases e with
    | call a ticks => trivial
    | resume i ticks =>
      rintro th hth ⟨p, hp⟩
      exact he.succeeds.2 th hth ⟨_, p, _, hp⟩

theorem recording_initial (session : ℕ → UserData) : Recording (Clients.initial session) := by
  refine ⟨⟨⟨consistent_initial session, ?_, ?_⟩, ?_⟩, ?_⟩
  · exact fun _ _ hd => absurd hd List.not_mem_nil
  · exact fun _ hx => absurd hx List.not_mem_nil
  · exact fun _ hth => absurd hth List.not_mem_nil
  · exact fun _ hx => absurd hx List.not_mem_nil

/-- No action of an event changes a record, but for a `blockUser` of the owner. -/
theorem Recording.steps (hc : Recording c) {e : Event Action} (he : Undisturbed c e) :
    ∀ st ∈ (messaging.outcome c e).steps, RecordsKept st.scope st.before st.after := by
  cases e with
  | call a ticks =>
    have hruns : Runs (undisturbed True) a.body .idle c.world :=
      runs_action (fun _ => trivial) hc.kept.inv.1 he.admits
    have hsafe := hruns.safe.strengthen (records True) hc.kept.inv.1 hc.kept.inv.2
    have hinv : (recordProtocol True).inv c.world := hc.kept.inv
    have hkept := Task.Safe.run ticks (n := 0) hinv hsafe
    exact fun st hst => (hkept.steps st hst).2
  | resume i ticks =>
    have hprov := hc.provides he fun _ _ h => by cases h
    exact fun st hst => ((System.outcome_kept hc.kept hprov).steps st hst).2

/-! ## The records of settled configurations -/

/-- The entries of a conversation in the inbox of `u`. -/
def entriesOf (w : World) (u cid : String) : List Document :=
  (w.store.docs (.chats u)).filter fun d =>
    d.data .isOneToOne = some (.bool true) ∧ d.data .chatId = some (.str cid)

theorem mem_entriesOf {doc : Document} : doc ∈ entriesOf w u cid ↔
    doc ∈ w.store.docs (.chats u) ∧ IsOneToOne doc.data ∧ doc.data .chatId = some (.str cid) := by
  rw [entriesOf, List.mem_filter, decide_eq_true_iff]
  rfl

/-- The last call of `blockUser` by `u` in a conversation. -/
def lastAction (w : World) (u cid : String) : Option BlockAction :=
  w.blockLog.find? fun x => x.blocker = u ∧ x.chatId = cid

/-- What the entry of `u` for the conversation is to say. -/
def expectedRecord (w : World) (u cid : String) : Option Value × Option Value × Option Value :=
  match lastAction w u cid with
  | some x => if x.block then blockedBy u x.blocked else notBlocked
  | none => notBlocked

/-- No user calls `blockUser` twice in a conversation. -/
def BlocksOnce (w : World) : Prop := (w.blockLog.map fun x => (x.blocker, x.chatId)).Nodup

instance (w : World) : Decidable (BlocksOnce w) := inferInstanceAs (Decidable (List.Nodup _))

theorem BlocksOnce.eq (h : BlocksOnce w) {x y : BlockAction} (hx : x ∈ w.blockLog)
    (hy : y ∈ w.blockLog) (hb : x.blocker = y.blocker) (hc : x.chatId = y.chatId) : x = y :=
  List.inj_on_of_nodup_map h hx hy (Prod.ext hb hc)

/-- The records and the history of a configuration. -/
structure BlockRecords (c : Clients) : Prop where
  /-- when nothing is under way, the entry of a conversation says whether it is blocked -/
  records : c.Settled → ∀ u cid doc, entriesOf c.world u cid = [doc] →
    blockRecord doc.data = expectedRecord c.world u cid
  /-- only the owner's `blockUser` changes a record -/
  steps : ∀ e, Undisturbed c e → ∀ st ∈ (messaging.outcome c e).steps,
    RecordsKept st.scope st.before st.after
  /-- blocking and unblocking take turns -/
  alternates : ∀ u cid, ((c.world.blockLog.filter fun x => x.blocker = u ∧ x.chatId = cid).map
    BlockAction.block).IsChain (· ≠ ·)

/-- The entry of a conversation, when nothing is under way any more: the blocks of the history have
all been carried on to their end, so the last one has left its mark. -/
theorem Recording.records (hc : Recording c) (hset : c.Settled) (honce : BlocksOnce c.world)
    {doc : Document} (hdoc : entriesOf c.world u cid = [doc]) :
    blockRecord doc.data = expectedRecord c.world u cid := by
  obtain ⟨hmem, hone, hcid⟩ := mem_entriesOf.mp (hdoc ▸ List.mem_singleton_self doc)
  have hrec := hc.kept.inv.2.entries u doc hmem hone
  unfold expectedRecord
  cases hlast : lastAction c.world u cid with
  | none =>
    rcases hrec with hrec | ⟨y, hy, hyu, hycid, -⟩
    · exact hrec
    · rw [hcid] at hycid
      cases hycid
      have hno := List.find?_eq_none.mp hlast y hy
      simp only [hyu, and_self, decide_true, not_true_eq_false] at hno
  | some x =>
    have hx := List.mem_of_find?_eq_some hlast
    have hxu := List.find?_some hlast
    simp only [decide_eq_true_eq] at hxu
    obtain ⟨hxu, hxcid⟩ := hxu
    -- the block has reached the only entry there is
    obtain ⟨doc', hmem', hone', hcid', hmark⟩ := hset.reached (hc.pending x hx)
    rw [hxu] at hmem'
    rw [hxcid] at hcid'
    have hdoc' : doc' ∈ entriesOf c.world u cid := mem_entriesOf.mpr ⟨hmem', hone', hcid'⟩
    rw [hdoc] at hdoc'
    obtain rfl := List.mem_singleton.mp hdoc'
    simp only [hc.kept.inv.2.blocks x hx, if_true]
    rcases hrec with hrec | ⟨y, hy, hyu, hycid, hrec⟩
    · have hfalse := congrArg Prod.fst hrec
      simp only [blockRecord, notBlocked, hmark] at hfalse
      cases hfalse
    · rw [hcid] at hycid
      cases hycid
      rw [hrec, honce.eq hy hx (hyu.trans hxu.symm) hxcid.symm]

/-- A history with at most one block of each user in each conversation alternates, there being
nothing to alternate with. -/
theorem BlocksOnce.alternates (h : BlocksOnce w) (u cid : String) :
    ((w.blockLog.filter fun x => x.blocker = u ∧ x.chatId = cid).map BlockAction.block).IsChain
      (· ≠ ·) := by
  refine List.Pairwise.isChain (List.pairwise_map.mpr ?_)
  have hpair := (List.pairwise_map.mp h).filter fun x => x.blocker = u ∧ x.chatId = cid
  refine hpair.imp_of_mem ?_
  intro x y hx hy hne
  -- two actions of `u` in the conversation would be the same
  have hx' := of_decide_eq_true (List.mem_filter.mp hx).2
  have hy' := of_decide_eq_true (List.mem_filter.mp hy).2
  refine absurd (Prod.ext ?_ ?_) hne
  · exact hx'.1.trans hy'.1.symm
  · exact hx'.2.trans hy'.2.symm

/-- **Block records.** In every run in which each user blocks at most once in a
conversation, with the peer loaded and without failures, and no message is carried on
there afterwards, the entries say who is blocked. -/
theorem block_record {session : ℕ → UserData} {es : List (Event Action)}
    (h : messaging.Run Undisturbed (Clients.initial session) es c) (honce : BlocksOnce c.world) :
    BlockRecords c := by
  have hc : Recording c := h.induct (recording_initial session) fun _ _ hc he => hc.apply he
  exact ⟨fun hset _ _ _ hdoc => hc.records hset honce hdoc, fun _ he => hc.steps he,
    honce.alternates⟩

/-- Alice writes to Bob, and later blocks him. -/
theorem block_record_aliceBlocksBob :
    BlockRecords (messaging.exec (Clients.initial aliceAndBob) aliceBlocksBob) := by
  have hquiet : messaging.Allowed Quiet (Clients.initial aliceAndBob) aliceBlocksBob := by
    decide +kernel
  have hallowed : messaging.Allowed Undisturbed (Clients.initial aliceAndBob) aliceBlocksBob := by
    have himp : ∀ c e, Quiet c e → e.Succeeds → Undisturbed c e :=
      fun _ _ => Undisturbed.of_succeeds
    refine System.Allowed.imp himp hquiet ?_
    simp only [aliceBlocksBob, bothOpen, List.forall_mem_append]
    exact ⟨⟨⟨⟨⟨⟨succeeds_alone, succeeds_alone⟩, succeeds_alone⟩, succeeds_alone⟩,
      succeeds_alone⟩, succeeds_alone⟩, succeeds_alone⟩
  exact block_record (System.run_exec hallowed) (by decide +kernel)

/-- Bob writes once more after the block. -/
def bobWritesAgain : List (Event Action) :=
  aliceBlocksBob ++ alone 8000 (.onSendMessage 2 "let me in" .text)

/-- Alice's entry does not say any more that Bob is blocked. -/
theorem block_record_lost :
    ¬ ∀ es c, messaging.Run messaging.admits (Clients.initial aliceAndBob) es c → c.Settled →
      ∀ u cid doc, entriesOf c.world u cid = [doc] →
        blockRecord doc.data = expectedRecord c.world u cid := by
  intro h
  have hrecord := h bobWritesAgain _ (System.run_exec (by decide +kernel)) (by decide +kernel)
    "alice" "5000"
  generalize hc : messaging.exec (Clients.initial aliceAndBob) bobWritesAgain = c at hrecord
  have hone : (entriesOf c.world "alice" "5000").length = 1 := by
    subst hc
    decide +kernel
  have hlost : ∀ doc ∈ entriesOf c.world "alice" "5000", blockRecord doc.data = notBlocked := by
    subst hc
    decide +kernel
  have hexpected : expectedRecord c.world "alice" "5000" = blockedBy "alice" "bob" := by
    subst hc
    decide +kernel
  obtain ⟨doc, hdoc⟩ := List.length_eq_one_iff.mp hone
  have hrec := hrecord doc hdoc
  rw [hexpected, hlost doc (hdoc ▸ List.mem_singleton_self doc)] at hrec
  exact notBlocked_ne_blockedBy hrec

end FlutterTheme
