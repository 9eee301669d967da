import FlutterTheme.Cards
import FlutterTheme.Repair
import FlutterTheme.Transcript

/-!
# The ticks of chats at rest

Saving an inbox entry takes its mark of having been seen away, and a card shows a message of its
user with a grey tick then. But when `onSendMessage` has saved the entries of the two participants
it calls `getChatData`, which marks both. Any number of messages may be under way in a conversation
at a time, each of them between any two of its steps, and chats may be opened meanwhile.

* `Calm` — the entry of a user that is found for a conversation stays the one that is found, and
  keeps its mark.
* `repairs_rest` — once the message is on its way, `onSendMessage` leaves the entry marked.
* `ticks_at_rest` — when everybody waits, no card of a conversation has a grey tick, whether or not
  anybody has looked at it. Blocks and broadcasts save entries too and do not mark them.
-/

namespace FlutterTheme.Ticks

open EventLoop DocStore Transcript

/-! ## The entry of a conversation -/

section Entry

variable (u cid : String)

/-- The entry of the user that is found for the conversation. -/
def entry (w : World) : Option Document := (entryQuery w u cid).head?

/-- It is marked as seen. -/
def Marked (w : World) : Prop := ∀ d ∈ entry u cid w, d.data .isSeen = some (.bool true)

/-- The entry that is found stays the same one, and stays marked. -/
structure Calm (w w' : World) : Prop where
  id : (entry u cid w').map Doc.id = (entry u cid w).map Doc.id
  marked : Marked u cid w → Marked u cid w'

/-- What is done in this scope does not take the mark away. -/
def Spares : Scope → Prop
  | .send a b c => c ≠ cid ∨ u ≠ a ∧ u ≠ b
  | .block .. | .firstCopy .. | .copy .. => False
  | _ => True

end Entry

variable {u cid x : String} {w w' : World} {l : Scope} {id : DocId} {d : Data}

theorem Calm.of_query (h : entryQuery w' u cid = entryQuery w u cid) : Calm u cid w w' where
  id := by rw [entry, entry, h]
  marked hmarked := by rwa [Marked, entry, h]

theorem Calm.of_store (h : w'.store = w.store) : Calm u cid w w' :=
  .of_query (by rw [entryQuery, entryQuery, h])

/-- A write to another collection. -/
theorem calm_of_ne {op : Write Path Key Value} (h : .chats u ≠ op.path) :
    Calm u cid w { w with store := w.store.write op } := by
  refine .of_query ?_
  simp only [entryQuery, Store.query, Store.docs_write_of_ne h]

/-- An entry of another conversation is added. -/
theorem calm_add {pos : ℕ} (h : x = u → d .chatId ≠ some (.str cid)) :
    Calm u cid w { w with store := w.store.write (.add (.chats x) pos d) } := by
  by_cases hx : x = u
  · subst hx
    exact .of_query (Store.query_add_of_not (decide_eq_false (h rfl)))
  · exact calm_of_ne fun he => hx (Path.chats.inj he).symm

/-- An entry of another conversation is updated. -/
theorem calm_update (h : x = u → ∀ y ∈ w.store.docs (.chats u), y.id = id →
    y.data .chatId ≠ some (.str cid) ∧ (y.data.merge d) .chatId ≠ some (.str cid)) :
    Calm u cid w { w with store := w.store.write (.update (.chats x) id d) } := by
  by_cases hx : x = u
  · subst hx
    refine .of_query (Store.query_update_of_not (fun y hy hid => ?_) fun y hy hid => ?_)
    · obtain ⟨hbefore, hafter⟩ := h rfl y hy hid
      exact (decide_eq_false hafter).trans (decide_eq_false hbefore).symm
    · obtain ⟨hy, hchatId⟩ := mem_entryQuery.mp hy
      exact (h rfl y hy hid).1 hchatId
  · exact calm_of_ne fun he => hx (Path.chats.inj he).symm

/-- The entry after an entry has been marked. -/
theorem entry_seen : entry u cid { w with store := w.store.update (.chats u) id seenFields } =
    (entry u cid w).map fun y => if y.id = id then ⟨y.id, y.data.merge seenFields⟩ else y := by
  have hquery : (w.store.update (.chats u) id seenFields).query (.chats u)
      (Fields.isEqualTo .chatId (.str cid)) = _ := Store.query_update fun y _ _ => by
    rw [Fields.isEqualTo, Fields.isEqualTo, Fields.merge_of_none rfl]
  rw [entry, entry, entryQuery, hquery, List.head?_map]

/-- Marking an entry as seen is calm: the query finds the same entry as before, which is marked at
most. -/
theorem calm_seen :
    Calm u cid w { w with store := w.store.write (.update (.chats x) id seenFields) } := by
  by_cases hx : x = u
  · subst hx
    refine ⟨?_, fun hmarked y hy => ?_⟩
    · rw [Store.write, entry_seen, Option.map_map]
      refine congrArg (Option.map · _) (funext fun y => ?_)
      simp only [Function.comp_apply]
      split <;> rfl
    · rw [Store.write, entry_seen, Option.mem_map] at hy
      obtain ⟨y, hy, rfl⟩ := hy
      split
      · rfl
      · exact hmarked y hy
  · exact calm_of_ne fun he => hx (Path.chats.inj he).symm

/-- The entry that is saved is of another user or another conversation. -/
theorem ne_of_saves {a b c : String} {isBlock isBroadcast : Bool} (hl : Spares u cid l)
    (h : Saves w l a b c x isBlock isBroadcast) (hx : x = u) : c ≠ cid := by
  rintro rfl
  subst hx
  have hmember := h.member
  cases h with
  | own | peer =>
    obtain ⟨hsender, hreceiver⟩ := hl.resolve_left fun hne => hne rfl
    exact hmember.elim hsender hreceiver
  | block | copy => exact hl

/-- A write that does not concern the conversation, or marks an entry, is calm. One case for each
write that is permitted; those of a send of the conversation are excluded by its scope. -/
theorem calm_of_permits (hcid : cid ≠ "") {op : Write Path Key Value} (h : Permits w l op)
    (hc : Consistent w) (hl : Spares u cid l) :
    Calm u cid w { w with store := w.store.write op } := by
  cases h with
  | message | deleteMessage | register | group | groupMessage | broadcast | broadcastMessage =>
    exact calm_of_ne Path.noConfusion
  | addEntry hsaves =>
    exact calm_add fun hx he => ne_of_saves hl hsaves hx (Value.str.inj (Option.some.inj he))
  | updateEntry hsaves registered found =>
    refine calm_update fun hx y hy hid => ?_
    subst hx
    have hne := ne_of_saves hl hsaves rfl
    refine ⟨fun he => hne ?_, fun he => hne (Value.str.inj (Option.some.inj he))⟩
    exact Value.str.inj (Option.some.inj ((found y hy hid).symm.trans he))
  | seen => exact calm_seen
  -- the entry of a group has the empty `chatId`
  | addGroupEntry => exact calm_add fun _ he => hcid (Value.str.inj (Option.some.inj he)).symm
  | updateGroupEntry found =>
    refine calm_update fun hx y hy hid => ?_
    subst hx
    have hentry : Entry w.minted _ y.data := hc.docs _ y hy
    obtain ⟨hchatId, -⟩ := hentry.of_groupId (found y hy hid)
    rw [Fields.merge_of_none rfl, hchatId]
    exact ⟨fun he => hcid (Value.str.inj (Option.some.inj he)).symm,
      fun he => hcid (Value.str.inj (Option.some.inj he)).symm⟩
  -- that of a broadcast has none
  | addBroadcastEntry => exact calm_add fun _ => nofun
  | updateBroadcastEntry recipients found =>
    refine calm_update fun hx y hy hid => ?_
    subst hx
    have hentry : Entry w.minted _ y.data := hc.docs _ y hy
    obtain ⟨-, hchatId, -⟩ := hentry.of_broadcastId (found y hy hid)
    rw [Fields.merge_of_none rfl, hchatId]
    exact ⟨nofun, nofun⟩

theorem calm_of_effect (hcid : cid ≠ "") (hl : Spares u cid l) (hc : Consistent w)
    (h : Effect freely l w w') : Calm u cid w w' := by
  cases h with
  | screens store => exact .of_store store
  | mint _ store => exact .of_store store
  | block | notify => exact .of_store rfl
  | write op _ permitted => exact calm_of_permits hcid permitted hc hl

/-- The mark of an entry. -/
def repair (u cid : String) (hcid : cid ≠ "") : Repair (clientProtocol freely) where
  met := Marked u cid
  calm := Calm u cid
  refl _ := ⟨rfl, fun hmarked => hmarked⟩
  trans h h' := ⟨h'.id.trans h.id, fun hmarked => h'.marked (h.marked hmarked)⟩
  keeps h := h.marked
  quiet := Spares u cid
  calm_of_quiet := calm_of_effect hcid

/-! ## Opening the chat -/

variable {hcid : cid ≠ ""}

/-- The entry is found and marked, or there is none to be marked: either way the condition holds
when the call is through. -/
theorem repairs_seenInbox (hs : (seenInbox u cid).task.Safe (repair u cid hcid).protocol l w) :
    (seenInbox u cid).task.Repairs (repair u cid hcid) l w := by
  have hmarked : (repair u cid hcid).Stable (Marked u cid) := fun _ _ => Calm.marked
  refine Async.repairs_remote_waits (f := fun _ w => (entryQuery w u cid, w))
    (k := fun docs => (markSeen (.chats u) docs).task) (C := fun _ => True) hs
    (fun _ _ _ _ => trivial) trivial fun w₁ _ _ _ _ => ?_
  cases hfound : entryQuery w₁ u cid with
  | nil =>
    refine ⟨Marked u cid, hmarked, fun d hd => ?_, fun w₂ _ _ hmet _ => hmet⟩
    rw [entry, hfound] at hd
    exact absurd hd (by simp)
  | cons d docs =>
    have hstable : (repair u cid hcid).Stable fun w => (entry u cid w).map Doc.id = some d.id :=
      fun _ _ hcalm hid => hcalm.id.trans hid
    refine ⟨_, hstable, ?_, fun w₂ _ _ hid hs => ?_⟩
    · simp only [entry, hfound, List.head?_cons, Option.map_some]
    refine Async.repairs_remote_waits (k := fun found : Bool =>
        (if found then pure () else Async.throw : Call Unit).task) hs hstable hid
      fun w₃ _ _ hid _ => ⟨_, hmarked, fun y hy => ?_, fun w₄ _ _ hmet _ => ?_⟩
    · obtain ⟨y', hy', hid⟩ := Option.map_eq_some_iff.mp hid
      change y ∈ entry u cid { w₃ with store := w₃.store.update (.chats u) d.id seenFields } at hy
      rw [entry_seen, hy', Option.map_some, if_pos hid] at hy
      obtain rfl := Option.some.inj hy
      rfl
    · split <;> exact hmet

/-- A screen of one of the two is open with the conversation. -/
structure Open (u cid : String) (k : ℕ) (w : World) : Prop where
  lt : k < w.chatCtrl.size
  chatId : (w.chatCtrl.get k).chatId = cid
  user : u = (w.chatCtrl.get k).userData.id ∨ u = (w.chatCtrl.get k).pId

theorem Open.later {k : ℕ} (h : Open u cid k w) (h0 : cid ≠ "0") (hw : w.Evolves w') :
    Open u cid k w' := by
  have hlater := hw.chat.2 k h.lt
  refine ⟨lt_of_lt_of_le h.lt hw.chat.1, ?_, ?_⟩
  · rw [hlater.chatId (h.chatId ▸ h0), h.chatId]
  · rw [hlater.userData, hlater.pId]
    exact h.user

theorem within_seenInbox {L : Scope → Prop} : (seenInbox x cid).Within L := by
  refine Async.within_bind Async.within_remote fun docs => ?_
  cases docs with
  | nil => exact Async.within_pure
  | cons doc docs =>
    exact Async.within_bind Async.within_remote fun found =>
      Async.within_ite Async.within_pure Async.within_throw

theorem mends_seenInbox (hl : Spares u cid l) (hc : Consistent w) :
    (seenInbox u cid).Mends (repair u cid hcid) l w :=
  fun hs => repairs_seenInbox (hs.calm hc hl within_seenInbox.task)

/-- Whoever of the two opens the chat, the entries of both are marked, each by a call of its own. -/
theorem mends_seenMessage {k : ℕ} (hl : Spares u cid l) (hc : Consistent w)
    (hk : Open u cid k w) : (seenMessage k).Mends (repair u cid hcid) l w := by
  have hpeer := (hc.chat k hk.lt).peer
  refine Async.mends_bind (Async.repairs_get ?_)
  rw [if_neg hpeer]
  refine Async.mends_bind (Async.repairs_pure ?_)
  rcases hk.user with hu | hu
  · rw [← hu, hk.chatId]
    refine Async.mends_spawn (mends_seenInbox hl hc) fun w' => ?_
    exact Async.calms_of_within hl (Async.within_spawn within_seenInbox)
  · rw [← hu, hk.chatId]
    have hother : (seenInbox (w.chatCtrl.get k).userData.id cid).Calms (repair u cid hcid) l w :=
      Async.calms_of_within hl within_seenInbox
    refine Async.mends_bind (Async.repairs_spawn hc hother fun w' _ hc' => ?_)
    refine Async.mends_spawn (f := fun _ => pure ()) (mends_seenInbox hl hc') fun w'' => ?_
    exact Async.calms_of_within hl Async.within_pure

/-- `getChatData` of a screen in the conversation mends it, by the `seenMessage` it starts, which
marks the entries of both. -/
theorem mends_getChatData {k : ℕ} (h0 : cid ≠ "0") (hk : Open u cid k w) :
    (getChatData k).Mends (repair u cid hcid) l w := by
  refine Async.mends_bind (Async.repairs_get ?_)
  refine Async.mends_bind (Async.repairs_enter ?_)
  rw [if_pos (hk.chatId ▸ h0)]
  refine Async.mends_assoc (Async.mends_bind ?_)
  refine Async.repairs_remote fun w₁ hw₁ _ _ _ w₂ hw₂ hc₂ => ?_
  have hk' := hk.later h0 (hw₁.trans hw₂)
  refine Async.mends_spawn (mends_seenMessage trivial hc₂ hk') fun w' => ?_
  exact Async.calms_of_within trivial (Async.within_bind Async.within_remote fun _ =>
    Async.within_sync)

/-! ## Sending -/

/-- Saving an entry, which takes the mark away. -/
theorem repairs_save {n : ℕ} {content sender : String} {receiverId : Value}
    {isBlock isBroadcast : Bool} {c : String} :
    (saveMessageInUserCollection n x receiverId c content sender isBlock isBroadcast).Repairs
      (repair u cid hcid) l w fun l' _ w' => l' = l ∧ w.Evolves w' := by
  refine Async.repairs_bind (Async.repairs_get ?_)
  refine Async.repairs_bind (Async.repairs_remote fun w₁ hw₁ _ _ _ w₂ hw₂ _ => ?_)
  refine Async.repairs_bind (Async.repairs_sync fun _ _ _ => ?_)
  refine Async.repairs_bind ?_
  have hclear {w' : World} (hw : w₂.Evolves w') : (clearInput (w.currentChat n)).Repairs
      (repair u cid hcid) l w' fun l' _ w' => l' = l ∧ w.Evolves w' := by
    have hlater := hw₁.trans (hw₂.trans hw)
    cases w.currentChat n with
    | none => exact Async.repairs_pure ⟨rfl, hlater⟩
    | some i => exact Async.repairs_modify fun hw' _ => ⟨rfl, hlater.trans hw'⟩
  cases hfound : w₁.store.query (.chats x) (Fields.isEqualTo .chatId (.str c)) with
  | nil =>
    refine Async.repairs_remote fun w₃ hw₃ _ t hstep w₄ hw₄ _ => ?_
    exact hclear (hw₃.trans (hstep.trans hw₄))
  | cons d docs =>
    refine Async.repairs_bind (Async.repairs_remote fun w₃ hw₃ _ t hstep w₄ hw₄ _ => ?_)
    -- the document is still there
    have hd : d ∈ w₁.store.docs (.chats x) :=
      ((Store.mem_query _).mp (hfound ▸ List.mem_cons_self ..)).1
    obtain ⟨d', hd', hid, -⟩ := (hw₂.trans hw₃).entries x d hd
    rw [(Store.doc?_eq_some _).mpr ⟨hd', hid⟩, Option.isSome_some, if_pos rfl]
    exact Async.repairs_pure (hclear (hw₃.trans (hstep.trans hw₄)))

/-- The actions that leave all documents alone. -/
def still : Deeds World where
  rel _ w w' := w'.store = w.store
  refl _ _ := rfl

instance : AllowsHandlers still where
  screens hstore _ _ _ := hstore
  mint _ hstore _ _ _ := hstore
  notify _ := rfl

instance : AllowsLoading still where
  screens hstore _ _ := hstore

theorem calms_of_still {m : Call Unit} (h : m.All still) : m.Calms (repair u cid hcid) l w :=
  Async.calms_of_all (fun _ _ _ hstore => Calm.of_store hstore) h

/-- **A message is seen in the end**: its entries are saved, and then both are marked. -/
theorem mends_rest {k stamp : ℕ} {s : ChatController} {m : Sent} (h0 : cid ≠ "0")
    (hk : Open u cid k w) : (rest k s m stamp).Mends (repair u cid hcid) l w := by
  refine Async.mends_bind (Async.repairs_remote fun w₁ hw₁ _ t hstep w₂ hw₂ _ => ?_)
  have hle₂ := (hw₁.trans hstep).trans hw₂
  refine Async.mends_bind (Async.repairs_modify fun hw₃ _ => ?_)
  have hle₃ := World.Evolves.trans hle₂ hw₃
  refine Async.mends_bind (repairs_save.mono ?_)
  rintro _ _ w₄ ⟨rfl, hw₄⟩
  refine Async.mends_bind (repairs_save.mono ?_)
  rintro _ _ w₅ ⟨rfl, hw₅⟩
  refine Async.mends_bind (Async.repairs_modify fun hw₆ _ => ?_)
  have hk' := hk.later h0 (hle₃.trans (hw₄.trans (hw₅.trans hw₆)))
  refine Async.mends_spawn (mends_getChatData h0 hk') fun w' => ?_
  exact calms_of_still (Async.all_bind all_notify fun _ => all_setLoading)

/-! ## The other handlers -/

section Within

theorem within_update {p : Path} : (update p id d).Within (Spares u cid) :=
  Async.within_bind Async.within_remote fun _ =>
    Async.within_ite Async.within_pure Async.within_throw

theorem within_seenOwn {s : ChatController} : (seenOwn s).Within (Spares u cid) :=
  Async.within_bind Async.within_remote fun _ => Async.within_forEach fun _ => within_update

theorem within_seenMessage {k : ℕ} : (seenMessage k).Within (Spares u cid) := by
  refine Async.within_bind Async.within_sync fun s => ?_
  refine Async.within_bind (Async.within_ite within_seenOwn Async.within_pure) fun _ => ?_
  refine Async.within_bind (Async.within_spawn within_seenInbox) fun _ => ?_
  exact Async.within_spawn within_seenInbox

theorem within_getChatData {k : ℕ} : (getChatData k).Within (Spares u cid) := by
  refine Async.within_bind Async.within_sync fun s => ?_
  refine Async.within_bind (Async.within_enter trivial) fun _ => ?_
  refine Async.within_bind (Async.within_ite ?_ Async.within_pure) fun _ => ?_
  · exact Async.within_bind Async.within_remote fun _ => Async.within_spawn within_seenMessage
  · exact Async.within_bind Async.within_remote fun _ => Async.within_sync

theorem within_openStored {n : ℕ} {data : UserContactModel} {document : Document} :
    (openStored n data document).Within (Spares u cid) := by
  unfold openStored
  split
  · exact Async.within_bind Async.within_sync fun _ => within_getChatData
  · exact Async.within_throw

theorem within_saveContact {n : ℕ} {data : UserContactModel} {isRegister : Bool} :
    (saveContact n data isRegister).Within (Spares u cid) := by
  refine Async.within_ite ?_ Async.within_pure
  refine Async.within_bind Async.within_sync fun user => ?_
  refine Async.within_bind Async.within_remote fun docs => ?_
  split
  · exact Async.within_bind Async.within_sync fun _ => within_getChatData
  · exact Async.within_forEach fun _ => within_openStored

theorem within_tapMessageCard {n : ℕ} {document : Document} {peer : Key} :
    (tapMessageCard n document peer).Within (Spares u cid) := by
  unfold tapMessageCard
  split
  · refine Async.within_bind Async.within_remote fun snapshot => ?_
    split
    · exact within_openStored
    · exact Async.within_throw
  · exact Async.within_throw

theorem within_openGroup {n : ℕ} : (openGroup n d).Within (Spares u cid) := by
  unfold openGroup
  split
  · exact Async.within_sync
  · exact Async.within_throw

theorem within_openBroadcast {n : ℕ} {b : String} :
    (openBroadcast n b d).Within (Spares u cid) := by
  unfold openBroadcast
  split
  · exact Async.within_sync
  · exact Async.within_throw

theorem within_tapGroupCard {n : ℕ} {document : Document} :
    (tapGroupCard n document).Within (Spares u cid) := by
  unfold tapGroupCard
  split
  · refine Async.within_bind Async.within_remote fun snapshot => ?_
    split
    · exact within_openGroup
    · exact Async.within_throw
  · exact Async.within_throw

theorem within_tapBroadcastCard {n : ℕ} {document : Document} :
    (tapBroadcastCard n document).Within (Spares u cid) := by
  unfold tapBroadcastCard
  split
  · exact within_openBroadcast
  · exact Async.within_throw

theorem within_onTap {n : ℕ} {document : Document} :
    ∀ card : Card, (card.onTap n document).Within (Spares u cid)
  | .receiverMessageCard | .messageCard => within_tapMessageCard
  | .groupMessageCard => within_tapGroupCard
  | .broadCastMessageCard => within_tapBroadcastCard
  | .container => Async.within_pure

theorem within_tapCard {n : ℕ} : (tapCard n id).Within (Spares u cid) := by
  refine Async.within_bind Async.within_sync fun user => ?_
  refine Async.within_bind Async.within_remote fun document => ?_
  split
  · exact Async.within_pure
  · split
    · exact within_onTap _
    · exact Async.within_throw

theorem within_userRegister {user : UserData} {email : String} {pushToken : Option String} :
    (userRegister user email pushToken).Within (Spares u cid) := by
  refine Async.within_bind (Async.within_enter trivial) fun _ => ?_
  refine Async.within_bind Async.within_remote fun value => ?_
  split
  · exact Async.within_pure
  · exact Async.within_remote

/-- The deletion of a message stays in scopes that spare the mark: its own, which is entered before
anything is deleted, and those of its parts. -/
theorem within_deleteAlert {k : ℕ} : (deleteAlert k id).Within (Spares u cid) := by
  refine Async.within_bind Async.within_sync fun s => ?_
  refine Async.within_bind (Async.within_enter trivial) fun _ => ?_
  refine Async.within_bind (Async.within_spawn Async.within_remote) fun _ => ?_
  refine Async.within_bind Async.within_remote fun _ => ?_
  refine Async.within_bind Async.within_sync fun s => ?_
  refine Async.within_bind Async.within_remote fun messages => ?_
  refine Async.within_bind Async.within_sync fun s => Async.within_spawn ?_
  refine Async.within_bind Async.within_remote fun found => ?_
  split
  · exact Async.within_remote
  · exact Async.within_throw
  · exact Async.within_throw
  · exact Async.within_pure

/-- `createGroup` enters the scope of its group and no other, in the image's callback as well. -/
theorem within_createGroup {g : ℕ} : (createGroup g).Within (Spares u cid) := by
  refine Async.within_bind Async.within_sync fun s => ?_
  refine Async.within_bind Async.within_sync fun user => ?_
  refine Async.within_bind Async.within_sync fun _ => ?_
  refine Async.within_bind (Async.within_ite ?_ Async.within_pure) fun _ => ?_
  · refine Async.within_bind Async.within_sync fun fileName => ?_
    refine Async.within_bind Async.within_remote fun _ => Async.within_spawn ?_
    refine Async.within_bind Async.within_attempt fun downloadUrl => ?_
    cases downloadUrl with
    | some _ => exact Async.within_sync
    | none => exact Async.within_pure
  refine Async.within_bind Async.within_sync fun groupId => ?_
  refine Async.within_bind (Async.within_enter trivial) fun _ => ?_
  refine Async.within_bind Async.within_pause fun _ => ?_
  refine Async.within_bind Async.within_sync fun timestamp => ?_
  refine Async.within_bind Async.within_sync fun s => ?_
  refine Async.within_bind Async.within_remote fun _ => ?_
  refine Async.within_bind Async.within_sync fun s => ?_
  refine Async.within_bind (Async.within_spawn ?_) fun _ => ?_
  · exact Async.within_bind Async.within_sync fun _ => Async.within_remote
  refine Async.within_bind Async.within_remote fun value => ?_
  refine Async.within_bind Async.within_sync fun s => ?_
  refine Async.within_bind (Async.within_forEach fun _ => ?_) fun _ => ?_
  · exact Async.within_bind Async.within_sync fun _ => Async.within_remote
  refine Async.within_bind Async.within_sync fun _ => ?_
  split
  · exact within_openGroup
  · exact Async.within_throw

theorem within_notifyMember {groupId content name : String} {element : SelectedContact} :
    (notifyMember groupId content name element).Within (Spares u cid) := by
  refine Async.within_bind Async.within_remote fun snap => ?_
  split
  · exact Async.within_throw
  · refine Async.within_ite Async.within_pure (Async.within_spawn ?_)
    exact Async.within_bind Async.within_attempt fun _ => Async.within_pure

/-- A message to a group writes the members' entries in the scope of the group. -/
theorem within_sendToGroup {g : ℕ} {content : String} {type : MessageType} :
    (GroupChat.onSendMessage g content type).Within (Spares u cid) := by
  refine Async.within_bind Async.within_sync fun _ => ?_
  refine Async.within_ite Async.within_pure ?_
  refine Async.within_bind Async.within_sync fun s => ?_
  refine Async.within_bind Async.within_sync fun user => ?_
  refine Async.within_bind (Async.within_enter trivial) fun _ => ?_
  refine Async.within_bind Async.within_sync fun timestamp => ?_
  refine Async.within_bind (Async.within_spawn Async.within_remote) fun _ => ?_
  refine Async.within_bind (Async.within_bind Async.within_sync fun user => ?_) fun _ =>
    Async.within_sync
  refine Async.within_forEach fun element => ?_
  refine Async.within_bind Async.within_remote fun value => ?_
  split
  · exact Async.within_pure
  · refine Async.within_bind Async.within_sync fun updateStamp => ?_
    refine Async.within_bind (Async.within_spawn within_update) fun _ => ?_
    exact Async.within_ite (Async.within_spawn within_notifyMember) Async.within_pure

/-- `addGroupBottomSheet` enters the scope of its broadcast, and opens the screen from there. -/
theorem within_addGroupBottomSheet {g : ℕ} : (addGroupBottomSheet g).Within (Spares u cid) := by
  refine Async.within_bind Async.within_sync fun s => ?_
  refine Async.within_ite Async.within_pure ?_
  refine Async.within_bind Async.within_sync fun user => ?_
  refine Async.within_bind Async.within_sync fun _ => ?_
  refine Async.within_bind Async.within_sync fun broadcastId => ?_
  refine Async.within_bind (Async.within_enter trivial) fun _ => ?_
  refine Async.within_bind ?_ fun _ => ?_
  · refine Async.within_bind Async.within_sync fun s => ?_
    refine Async.within_bind Async.within_sync fun user => Async.within_forEach fun e => ?_
    exact Async.within_bind Async.within_remote fun _ => Async.within_sync
  refine Async.within_bind Async.within_pause fun _ => ?_
  refine Async.within_bind Async.within_sync fun timestamp => ?_
  refine Async.within_bind Async.within_sync fun s => ?_
  refine Async.within_bind Async.within_remote fun _ => ?_
  refine Async.within_bind Async.within_sync fun s => ?_
  refine Async.within_bind (Async.within_spawn ?_) fun _ => ?_
  · exact Async.within_bind Async.within_sync fun _ => Async.within_remote
  refine Async.within_bind Async.within_sync fun timestamp => ?_
  refine Async.within_bind Async.within_sync fun s => ?_
  refine Async.within_bind Async.within_remote fun _ => ?_
  refine Async.within_bind Async.within_sync fun _ => Async.within_spawn ?_
  refine Async.within_bind Async.within_remote fun value => ?_
  split
  · exact within_openBroadcast
  · exact Async.within_throw

/-- What a send does once it has its id stays in the scope in which it has begun; the notification
is a call of its own and writes no entry. -/
theorem within_rest {k stamp : ℕ} {s : ChatController} {m : Sent} :
    (rest k s m stamp).Within (Spares u cid) := by
  have hclear {i : Option ℕ} : (clearInput i).Within (Spares u cid) := by
    cases i with
    | none => exact Async.within_pure
    | some i => exact Async.within_sync
  have hsave {n : ℕ} {x c content sender : String} {receiverId : Value}
      {isBlock isBroadcast : Bool} : (saveMessageInUserCollection n x receiverId c content sender
        isBlock isBroadcast).Within (Spares u cid) := by
    refine Async.within_bind Async.within_sync fun chatCtrl => ?_
    refine Async.within_bind Async.within_remote fun docs => ?_
    refine Async.within_bind Async.within_sync fun updateStamp => ?_
    refine Async.within_bind ?_ fun _ => hclear
    cases docs with
    | nil => exact Async.within_remote
    | cons doc docs => exact within_update
  refine Async.within_bind Async.within_remote fun _ => ?_
  refine Async.within_bind Async.within_sync fun _ => ?_
  refine Async.within_bind hsave fun _ => Async.within_bind hsave fun _ => ?_
  refine Async.within_bind Async.within_sync fun _ => ?_
  refine Async.within_bind (Async.within_spawn within_getChatData) fun _ => ?_
  refine Async.within_bind (Async.within_bind Async.within_sync fun s => ?_) fun _ =>
    Async.within_sync
  split
  · exact Async.within_throw
  · refine Async.within_ite Async.within_pure (Async.within_spawn ?_)
    exact Async.within_bind Async.within_attempt fun _ => Async.within_pure

/-- Everything but blocks and messages to broadcasts. -/
def isPlain : Event Action → Bool
  | .call (.blockUser _) _ | .call (.sendToBroadcast _ _ _) _ => false
  | _ => true

/-- No action but a send enters a scope that may take the mark away, a block and a message to a
broadcast apart, which the run does not hold. -/
theorem within_body {a : Action} {ticks : ℕ → Tick} (ha : isPlain (.call a ticks) = true)
    (hsend : ∀ k content type, a ≠ .onSendMessage k content type) :
    a.body.Within (Spares u cid) := by
  cases a with
  | userRegister user email pushToken => exact within_userRegister
  | saveContact n contact isRegister => exact within_saveContact
  | tapCard n entry => exact within_tapCard
  | onSendMessage k content type => exact absurd rfl (hsend k content type)
  | deleteAlert k message => exact within_deleteAlert
  | openCreate n isGroup => exact Async.within_sync
  | editGroup g name imageFile => exact Async.within_sync
  | selectUserTap g value => exact Async.within_sync
  | addGroupBottomSheet g => exact within_addGroupBottomSheet
  | createGroup g => exact within_createGroup
  | sendToGroup g content type => exact within_sendToGroup
  | blockUser k | sendToBroadcast b content type => exact absurd ha Bool.false_ne_true

end Within

/-! ## Runs -/

variable {c : Clients} {ticks : ℕ → Tick}

/-- A message of the conversation is on its way: the entry may have lost its mark, and the thread
that is left loads the chat at its end, which marks it again. -/
theorem tended_onSendMessage {k : ℕ} {content : String} {type : MessageType} (h0 : cid ≠ "0")
    (hc : c.Kept (clientProtocol freely)) (hk : k < c.world.chatCtrl.size)
    (hblank : ¬ isBlank content = true) (hticks : ∀ i, (ticks i).fails = false) :
    let o := messaging.outcome c (.call (.onSendMessage k content type) ticks)
    o.Calm (repair u cid hcid) c.world ∨ Tended (repair u cid hcid) o.world o.threads := by
  intro o
  have he : messaging.admits c (.call (.onSendMessage k content type) ticks) := hk
  have ho : o.Kept (clientProtocol freely) c.world :=
    System.outcome_kept hc (provides_of_admits trivial hc he (promised_freely c _))
  obtain ⟨m, hsent, hstarts⟩ := exists_starts type ticks hc.inv hk hblank
  obtain ⟨s, body, hbody, hthreads⟩ := hstarts.threads
  have hsafe : Thread.Safe (clientProtocol freely) ⟨.send m.sender m.receiver m.chatId, body⟩
      o.world := ho.threads _ (hthreads ▸ List.mem_singleton_self _)
  by_cases hspares : Spares u cid (.send m.sender m.receiver m.chatId)
  · -- the message is of another conversation, or between others
    refine .inl ⟨Calm.of_store hstarts.store, fun th hth => ?_⟩
    obtain rfl := List.mem_singleton.mp (hthreads ▸ hth)
    have hwithin : (rest k s m ((ticks 6).now / 1000)).task.Within (Spares u cid) :=
      within_rest.task
    rw [hbody] at hwithin
    exact fun w' hw hi hp => (hsafe w' hw hi hp).calm hi hspares hwithin
  · -- the screen has the conversation
    obtain ⟨hchatId, huser⟩ := not_or.mp hspares
    have hm : (⟨(o.world.chatCtrl.get k).chatId, (o.world.chatCtrl.get k).userData.id,
        (o.world.chatCtrl.get k).pId, content, type⟩ : Sent) = m := by
      simp only [sendsAt, if_neg hblank] at hsent
      exact List.singleton_inj.mp hsent
    have hopen : Open u cid k o.world := by
      refine ⟨lt_of_lt_of_le hk ho.le.chat.1, ?_, ?_⟩
      · exact (congrArg Sent.chatId hm).trans (of_not_not hchatId)
      · rw [not_and_or, not_ne_iff, not_ne_iff] at huser
        exact huser.imp (·.trans (congrArg Sent.sender hm).symm)
          (·.trans (congrArg Sent.receiver hm).symm)
    -- so the `getChatData` at the end marks the entry
    have hmends : (rest k s m ((ticks 6).now / 1000)).Mends (repair u cid hcid)
        (.send m.sender m.receiver m.chatId) o.world := mends_rest h0 hopen
    rw [Async.Mends, hbody] at hmends
    have htended := Task.Repairs.run hticks (n := 0) ho.inv (t := .await body) hsafe (hmends hsafe)
    exact .inr (hthreads ▸ htended)

/-- Whatever is started, it leaves the mark of the entry alone or sees to it. -/
theorem tended_call {a : Action} (h0 : cid ≠ "0") (hc : c.Kept (clientProtocol freely))
    (he : messaging.admits c (.call a ticks)) (hplain : isPlain (.call a ticks) = true)
    (hticks : ∀ i, (ticks i).fails = false) :
    let o := messaging.outcome c (.call a ticks)
    o.Calm (repair u cid hcid) c.world ∨ Tended (repair u cid hcid) o.world o.threads := by
  have hsafe : a.body.task.Safe (clientProtocol freely) .idle c.world :=
    provides_of_admits trivial hc he (promised_freely c _)
  have hcalms (h : a.body.Calms (repair u cid hcid) .idle c.world) :
      (messaging.outcome c (.call a ticks)).Calm (repair u cid hcid) c.world :=
    (h hc.inv hsafe).run_calm ticks hc.inv
  by_cases hsend : ∃ k content type, a = .onSendMessage k content type
  · obtain ⟨k, content, type, rfl⟩ := hsend
    by_cases hblank : isBlank content = true
    · exact .inl (hcalms (calms_of_still (all_onSendMessage_blank hblank)))
    · exact tended_onSendMessage h0 hc he hblank hticks
  · have hwithin : a.body.Within (Spares u cid) :=
      within_body hplain fun k content type ha => hsend ⟨k, content, type, ha⟩
    exact .inl (hcalms (Async.calms_of_within trivial hwithin))

/-! ## Cards -/

section Layout

variable {α β : Type}

/-- Whatever is shown satisfies `Q`. -/
def Yields (m : Layout α) (d : Data) (Q : α → Prop) : Prop := ∀ a, (m d).2 = some a → Q a

theorem yields_pure {a : α} {Q : α → Prop} (h : Q a) : Yields (pure a) d Q := by
  rintro _ ha
  exact Option.some.inj ha ▸ h

theorem yields_bind {m : Layout α} {f : α → Layout β} {Q : β → Prop}
    (h : Yields m d fun a => Yields (f a) d Q) : Yields (m >>= f) d Q := by
  intro b hb
  change (Layout.bind m f d).2 = some b at hb
  unfold Layout.bind at hb
  split at hb
  · next keys a hm => exact h a (congrArg Prod.snd hm) b hb
  · exact absurd hb nofun

theorem yields_any {m : Layout α} {Q : α → Prop} (h : ∀ a, Q a) : Yields m d Q := fun a _ => h a

theorem yields_bool {k : Key} : Yields (Layout.bool k) d fun b => d k = some (.bool b) := by
  refine yields_bind fun v hv => ?_
  cases v with
  | bool b => exact yields_pure hv
  | _ => exact fun _ ha => absurd ha nofun

end Layout

/-- A card without a tick, or with that of the entry. -/
def Ticked (d : Data) (view : View) : Prop :=
  ∀ tick, view.tick = some tick → d .isSeen = some (.bool tick)

section Cards

variable {user blockBy title name : String} {view : View}

theorem yields_subTitleLayout :
    Yields (subTitleLayout blockBy) d fun r => d .isSeen = some (.bool r.1) := by
  refine yields_bind fun isSeen hseen => ?_
  have hseen := yields_bool isSeen hseen
  refine yields_bind (yields_any fun lastMessage => ?_)
  split
  · exact yields_pure hseen
  · exact yields_bind (yields_any fun text => yields_pure hseen)

/-- The tick that is drawn is the mark of the entry: there is none if somebody else has sent last.
-/
theorem yields_messageCardSubTitle : Yields (messageCardSubTitle user blockBy name) d
    fun r => ∀ tick, r.1 = some tick → d .isSeen = some (.bool tick) := by
  have hown : Yields (ownTick user) d fun r => ∀ tick, r = some tick → d .isSeen = some (.bool tick)
      := by
    refine yields_bind (yields_any fun senderId => ?_)
    split
    · refine yields_bind fun isSeen hseen => yields_pure ?_
      rintro _ ⟨⟩
      exact yields_bool isSeen hseen
    · exact yields_pure nofun
  refine yields_bind fun tick htick => ?_
  have htick := hown tick htick
  refine yields_bind (yields_any fun lastMessage => ?_)
  exact yields_bind (yields_any fun text => yields_pure htick)

/-- The tick of a card is that of the entry: every card that draws one reads it from `isSeen`. One
case for each card. -/
theorem ticked : ∀ card : Card, Yields (card.build user blockBy title name) d
    fun shown => ∀ view, shown = some view → Ticked d view := by
  have hsome {m : Layout View} (h : Yields m d (Ticked d)) :
      Yields (some <$> m) d fun shown => ∀ view, shown = some view → Ticked d view := by
    refine yields_bind fun view hview => yields_pure ?_
    rintro _ ⟨⟩
    exact h view hview
  intro card
  cases card with
  | receiverMessageCard =>
    refine hsome ?_
    refine yields_bind (yields_any fun _ => yields_bind (yields_any fun _ => ?_))
    refine yields_bind (yields_any fun _ => yields_bind (yields_any fun lastMessage => ?_))
    split
    · exact yields_pure nofun
    · refine yields_bind fun r hr => yields_pure ?_
      rintro _ ⟨⟩
      exact yields_subTitleLayout r hr
  | messageCard =>
    refine hsome ?_
    refine yields_bind (yields_any fun _ => yields_bind (yields_any fun _ => ?_))
    refine yields_bind (yields_any fun _ => yields_bind (yields_any fun lastMessage => ?_))
    split
    · exact yields_pure nofun
    · refine yields_bind (yields_any fun lastMessage => ?_)
      split
      · exact yields_pure nofun
      · exact yields_bind fun r hr => yields_pure (yields_messageCardSubTitle r hr)
  | groupMessageCard =>
    refine hsome ?_
    refine yields_bind (yields_any fun _ => yields_bind (yields_any fun _ => ?_))
    refine yields_bind (yields_any fun _ => yields_bind (yields_any fun lastMessage => ?_))
    split
    · exact yields_pure nofun
    · exact yields_bind (yields_any fun _ => yields_pure nofun)
  | broadCastMessageCard =>
    refine hsome ?_
    refine yields_bind (yields_any fun _ => yields_bind (yields_any fun _ => ?_))
    exact yields_bind (yields_any fun _ => yields_bind (yields_any fun _ => yields_pure nofun))
  | container => exact yields_pure nofun

end Cards

/-! ## Runs that have come to rest -/

/-- **No grey ticks at rest.** Whatever the users do, short of blocking and of messages to
broadcasts, and however the steps of the handlers are interleaved: once all of them are over, the
entry that is found for a conversation is marked as seen, on both sides, and a card of it has no
grey tick. Nobody has to have looked at the message. -/
theorem ticks_at_rest {session : ℕ → UserData} {es : List (Event Action)}
    (h : messaging.Run (fun c e => messaging.admits c e ∧ isPlain e = true ∧ e.Succeeds)
      (Clients.initial session) es c) (hrest : c.Settled) (h0 : cid ≠ "0") (hcid : cid ≠ "")
    (hd : entry u cid c.world = some ⟨id, d⟩) :
    d .isSeen = some (.bool true) ∧
      ∀ (card : Card) (user blockBy title name : String) (view : View),
        (card.build user blockBy title name d).2 = some (some view) → view.tick ≠ some false := by
  have htended : Tended (repair u cid hcid) c.world c.threads := by
    refine System.Run.tended (Clients.kept_initial session) ⟨?_, .inl ?_⟩ ?_ h
    · exact fun th hth => absurd hth List.not_mem_nil
    · exact fun d hd => absurd hd nofun
    · rintro c e hc ⟨he, hplain, hsucc⟩
      refine ⟨provides_of_admits trivial hc he (promised_freely c e), hsucc, ?_⟩
      rintro a ticks rfl
      exact tended_call h0 hc he hplain hsucc
  rw [hrest] at htended
  have hseen : d .isSeen = some (.bool true) := htended.settled _ hd
  refine ⟨hseen, fun card user blockBy title name view hview htick => ?_⟩
  have hfalse := ticked card _ hview view rfl false htick
  rw [hseen] at hfalse
  exact absurd hfalse (by simp)

/-- Alice opens the chat with Bob and writes to him twice, the second time before the first message
is stored. Bob never opens the chat. -/
def unread : List (Event Action) :=
  alone 1 (.userRegister (person "alice") "alice@mail" (some "tokenA")) ++
  alone 2 (.userRegister (person "bob") "bob@mail" (some "tokenB")) ++
  alone 3 (.saveContact 0 (contact "bob") true) ++
  .call (.onSendMessage 0 "hello" .text) (clock 5000) ::
    .call (.onSendMessage 0 "are you there" .text) (clock 5001) :: settle 5002 60

/-- Bob has not opened the chat, and yet no card of Alice draws her message as unseen. -/
theorem ticks_unread :
    ∃ d, entry "alice" "5000" (messaging.exec (Clients.initial aliceAndBob) unread).world = some d ∧
      d.data .isSeen = some (.bool true) ∧ ∀ view,
        (Card.build "alice" "" "" "bob" .receiverMessageCard d.data).2 = some (some view) →
          view.tick ≠ some false := by
  have hrun : messaging.Run (fun c e => messaging.admits c e ∧ isPlain e = true ∧ e.Succeeds)
      (Clients.initial aliceAndBob) unread
      (messaging.exec (Clients.initial aliceAndBob) unread) := by
    have hallowed : messaging.Allowed (fun c e => messaging.admits c e ∧ isPlain e = true)
        (Clients.initial aliceAndBob) unread := by decide +kernel
    refine System.run_exec (hallowed.imp (q := Event.Succeeds) (fun c e he hsucc => ?_) ?_)
    · exact ⟨he.1, he.2, hsucc⟩
    · simp only [unread, List.forall_mem_append, List.forall_mem_cons]
      exact ⟨⟨⟨succeeds_alone, succeeds_alone⟩, succeeds_alone⟩, fun _ => rfl, fun _ => rfl,
        Event.succeeds_replicate fun _ => rfl⟩
  have hfound : (entry "alice" "5000" (messaging.exec (Clients.initial aliceAndBob)
      unread).world).isSome = true := by decide +kernel
  obtain ⟨⟨id, d⟩, hd⟩ := Option.isSome_iff_exists.mp hfound
  obtain ⟨hseen, hcards⟩ := ticks_at_rest hrun (by decide +kernel) (by decide) (by decide) hd
  exact ⟨_, hd, hseen, hcards .receiverMessageCard "alice" "" "" "bob"⟩

end FlutterTheme.Ticks
