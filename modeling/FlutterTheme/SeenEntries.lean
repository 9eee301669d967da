import FlutterTheme.Actions
import FlutterTheme.Clients
import FlutterTheme.Routing

/-!
# Inbox entries that have been seen

An entry of `u` with `u` as its sender and `isSeen` set tells `u` that the peer has seen the last
message. What has happened is read off the actions of a run: the messages of `u` that were
stored, and the screens on which the peer opened the conversation (`openedSince`).

Saving an entry clears `isSeen`, so only `seenMessage` can make the entry say something false,
or a message that is stored under an entry that says so of the one before it. As long as
neither happens (`Careful`) the entry tells the truth (`receipts_sound`). But `seenMessage` marks
the entries of both participants, whoever of them it runs for, and it runs after each message.
-/

namespace FlutterTheme

open EventLoop DocStore

/-- An action of a handler, with the worlds before and after it. -/
abbrev Move : Type := EventLoop.Step World Scope

/-! ## What has happened -/

section History

variable (u p cid : String)

/-- The messages of `u` in the conversation. -/
def messagesOf (w : World) : List Document :=
  w.store.query (.messages cid) (Fields.isEqualTo .sender (.str u))

/-- A message of `u` is stored. -/
def StoresMessage (st : Move) : Prop :=
  (messagesOf u cid st.before).length < (messagesOf u cid st.after).length

instance (st : Move) : Decidable (StoresMessage u cid st) :=
  inferInstanceAs (Decidable (_ < _))

/-- A screen of `p` opens with the conversation. -/
def OpensChat (st : Move) : Prop :=
  st.before.chatCtrl.size < st.after.chatCtrl.size ∧
    (st.after.chatCtrl.get st.before.chatCtrl.size).userData.id = p ∧
    (st.after.chatCtrl.get st.before.chatCtrl.size).chatId = cid

instance (st : Move) : Decidable (OpensChat p cid st) := inferInstanceAs (Decidable (_ ∧ _ ∧ _))

/-- Whether `p` has opened the conversation since the last message of `u` was stored, after one
more action. -/
def openedAfter (opened : Bool) (st : Move) : Bool :=
  if OpensChat p cid st then true else if StoresMessage u cid st then false else opened

/-- Whether `p` has opened the conversation since the last message of `u` was stored. -/
def openedSince (moves : List Move) : Bool := moves.foldl (openedAfter u p cid) false

/-- The entry `d` of `u` says that the last message of `u` has been seen. -/
def SaysSeen (d : Data) : Prop :=
  d .chatId = some (.str cid) ∧ d .senderId = some (.str u) ∧ d .isSeen = some (.bool true)

instance (d : Data) : Decidable (SaysSeen u cid d) := inferInstanceAs (Decidable (_ ∧ _ ∧ _))

/-- `u` is told that the last message has been seen. -/
def Receipt (w : World) : Prop := ∃ d ∈ w.store.docs (.chats u), SaysSeen u cid d.data

instance (w : World) : Decidable (Receipt u cid w) :=
  inferInstanceAs (Decidable (∃ d ∈ w.store.docs (.chats u), SaysSeen u cid d.data))

/-! ## The condition -/

/-- The handler that is at work is `seenMessage`, in the conversation. -/
def InSeenMessage : Scope → Prop
  | .seen _ _ c => c = cid
  | _ => False

instance : (l : Scope) → Decidable (InSeenMessage cid l)
  | .seen _ _ c => inferInstanceAs (Decidable (c = cid))
  | .idle | .register _ | .send _ _ _ | .block _ _ _ | .deleteMessage _ _ | .group _ | .broadcast _ _
  | .broadcastWait _ _ | .firstCopy _ _ _ _ | .copy _ _ _ _ | .save _ _ =>
    inferInstanceAs (Decidable False)

/-- `seenMessage` marks an entry of `u` that has `u` as its sender. -/
def MarksOwn (st : Move) : Prop :=
  InSeenMessage cid st.scope ∧ ∃ d ∈ st.before.store.docs (.chats u), ¬ SaysSeen u cid d.data ∧
    ∃ d' ∈ st.after.store.docs (.chats u), d'.id = d.id ∧ SaysSeen u cid d'.data

instance (st : Move) : Decidable (MarksOwn u cid st) := inferInstanceAs (Decidable (_ ∧ ∃ d ∈ _, _))

/-- `seenMessage` marks an entry of `u` with `u` as its sender only when `p` has opened the
conversation, and `u` writes no message while the one before it is known to have been seen. -/
def Careful : Bool → List Move → Prop
  | _, [] => True
  | opened, st :: moves =>
    (MarksOwn u cid st → opened = true) ∧ (Receipt u cid st.before → ¬ StoresMessage u cid st) ∧
      Careful (openedAfter u p cid opened st) moves

instance decidableCareful : (opened : Bool) → (moves : List Move) →
    Decidable (Careful u p cid opened moves)
  | _, [] => inferInstanceAs (Decidable True)
  | opened, st :: moves =>
    have := decidableCareful (openedAfter u p cid opened st) moves
    inferInstanceAs (Decidable (_ ∧ _ ∧ Careful u p cid (openedAfter u p cid opened st) moves))

end History

variable {π : Terms} {l : Scope} {w w' : World} {u p cid : String}

/-! ## One action -/

/-- An entry that belongs to a conversation belongs to no group. -/
def Separate (w : World) : Prop :=
  ∀ x, ∀ d ∈ w.store.docs (.chats x), ∀ c, c ≠ "" → d.data .chatId = some (.str c) →
    d.data .groupId = none

theorem Separate.store (h : Separate w) (hw : w'.store = w.store) : Separate w' := by
  intro x d hd
  rw [hw] at hd
  exact h x d hd

/-- What a write puts into an inbox keeps the conversations apart from the groups. -/
theorem Permits.separate {op : Write Path Key Value} (h : Permits w l op) (hw : Separate w) :
    Separate { w with store := w.store.write op } := by
  intro x d hd c hc hcid
  rcases Store.of_mem_write hd with hd | hput
  · exact hw x d hd c hc hcid
  cases h with
  | message | register | group | groupMessage | broadcast | broadcastMessage => cases hput.1
  | deleteMessage => exact hput.elim
  | addEntry | addBroadcastEntry =>
    obtain ⟨-, rfl⟩ := hput
    rfl
  | addGroupEntry =>
    obtain ⟨-, rfl⟩ := hput
    cases hcid
    exact absurd rfl hc
  | updateEntry _ _ found =>
    obtain ⟨hx, y, hy, hid, rfl⟩ := hput
    cases hx
    cases hcid
    exact hw _ y hy _ hc (found y hy hid)
  | seen | updateGroupEntry | updateBroadcastEntry =>
    obtain ⟨hx, y, hy, hid, rfl⟩ := hput
    cases hx
    exact hw _ y hy c hc hcid

theorem Effect.separate (h : Effect π l w w') (hw : Separate w) : Separate w' := by
  cases h with
  | screens store => exact hw.store store
  | mint _ store => exact hw.store store
  | block | notify => exact hw.store rfl
  | write op promised permitted => exact permitted.separate hw

theorem Receipt.store (h : Receipt u cid w') (hw : w'.store = w.store) : Receipt u cid w := by
  obtain ⟨d, hd, hsays⟩ := h
  exact ⟨d, hw ▸ hd, hsays⟩

theorem not_storesMessage {st : Move}
    (h : st.after.store.docs (.messages cid) = st.before.store.docs (.messages cid)) :
    ¬ StoresMessage u cid st := by
  rw [StoresMessage, messagesOf, messagesOf, Store.query, Store.query, h]
  exact Nat.lt_irrefl _

/-- Only `seenMessage` makes an entry say that the last message has been seen. -/
theorem Effect.receipt (h : Effect π l w w') (hw : Separate w) (hcid : cid ≠ "")
    (hr : Receipt u cid w') :
    Receipt u cid w ∨ MarksOwn u cid ⟨l, w, w'⟩ ∧ ¬ StoresMessage u cid ⟨l, w, w'⟩ := by
  cases h with
  | screens store => exact Or.inl (hr.store store)
  | mint _ store => exact Or.inl (hr.store store)
  | block | notify => exact Or.inl (hr.store rfl)
  | write op promised permitted =>
    obtain ⟨d, hd, hsays⟩ := hr
    rcases Store.of_mem_write hd with hold | hput
    · exact Or.inl ⟨d, hold, hsays⟩
    cases permitted with
    | message | register | group | groupMessage | broadcast | broadcastMessage => cases hput.1
    | deleteMessage => exact hput.elim
    | addEntry | addGroupEntry =>
      -- a new entry has not been seen
      obtain ⟨-, rfl⟩ := hput
      cases hsays.2.2
    | addBroadcastEntry =>
      obtain ⟨-, rfl⟩ := hput
      cases hsays.1
    | updateEntry =>
      -- nor has one that is saved again
      obtain ⟨hx, y, hy, hid, rfl⟩ := hput
      cases hsays.2.2
    | updateGroupEntry found =>
      -- an entry of a group is not one of the conversation
      obtain ⟨hx, y, hy, hid, rfl⟩ := hput
      cases hx
      have hnone := hw _ y hy cid hcid hsays.1
      rw [found y hy hid] at hnone
      cases hnone
    | updateBroadcastEntry =>
      obtain ⟨hx, y, hy, hid, rfl⟩ := hput
      cases hx
      exact Or.inl ⟨y, hy, hsays⟩
    | @seen v q c x id hmember registered found =>
      obtain ⟨hx, y, hy, hid, rfl⟩ := hput
      cases hx
      have hchat : y.data .chatId = some (.str cid) := hsays.1
      by_cases hseen : SaysSeen u cid y.data
      · exact Or.inl ⟨y, hy, hseen⟩
      · rw [found y hy hid] at hchat
        cases hchat
        refine Or.inr ⟨⟨rfl, y, hy, hseen, _, hd, rfl, hsays⟩, ?_⟩
        have hsame : (w.store.update (.chats u) id (.ofList [(.isSeen, .bool true)])).docs
            (.messages cid) = w.store.docs (.messages cid) := Store.docs_update_of_ne Path.noConfusion
        exact not_storesMessage hsame

/-! ## Runs -/

/-- The actions of a careful run, each an effect of its handler: a receipt that is there at the end
comes after the peer has opened the conversation. By induction on the actions. -/
theorem receipt_of_moves (hcid : cid ≠ "") {moves : List Move} :
    ∀ {w w' : World} {opened : Bool}, Leads w moves w' →
      (∀ st ∈ moves, Effect π st.scope st.before st.after) → Separate w →
      (Receipt u cid w → opened = true) → Careful u p cid opened moves →
      Receipt u cid w' → moves.foldl (openedAfter u p cid) opened = true := by
  induction moves with
  | nil =>
    rintro w _ opened rfl - - hopened -
    exact hopened
  | cons st moves ih =>
    rintro w w' opened ⟨rfl, hleads⟩ heffects hsep hopened ⟨hmark, hstore, hcareful⟩
    have heffect := heffects st (List.mem_cons_self ..)
    refine ih hleads (fun st' hst' => heffects st' (List.mem_cons_of_mem _ hst'))
      (heffect.separate hsep) (fun hr => ?_) hcareful
    unfold openedAfter
    split
    · rfl
    · rcases heffect.receipt hsep hcid hr with hbefore | ⟨hmarks, hnot⟩
      · rw [if_neg (hstore hbefore)]
        exact hopened hbefore
      · rw [if_neg hnot]
        exact hmark hmarks

variable {session : ℕ → UserData} {es : List (Event Action)} {c : Clients}

/-- **Receipts are sound in careful runs.** A user who is told that the last message has been seen
has a peer who has opened the conversation since it was stored. -/
theorem receipts_sound (h : messaging.Run messaging.admits (Clients.initial session) es c)
    (hreg : (cid, s(u, p)) ∈ c.world.minted)
    (hcareful : Careful u p cid false (messaging.moves (Clients.initial session) es))
    (hr : Receipt u cid c.world) :
    openedSince u p cid (messaging.moves (Clients.initial session) es) = true := by
  have hleads : Leads _ (messaging.moves (Clients.initial session) es) _ := System.leads_moves
  rw [← h.exec_eq] at hleads
  have heffects := h.forall_moves fun _ _ _ h he st hst => Clients.steps h he st hst
  refine receipt_of_moves ((Clients.consistent h).ne hreg).1 hleads heffects ?_ ?_ hcareful hr
  · exact fun _ _ hd => absurd hd List.not_mem_nil
  · rintro ⟨d, hd, -⟩
    exact absurd hd List.not_mem_nil

/-! ## Alice and Bob -/

/-- Bob opens the chat when Alice's message has reached both inboxes and before `seenMessage` runs
on her screen. -/
def bobIsQuick : List (Event Action) :=
  bothOpen ++ .call (.onSendMessage 0 "hello" .text) (clock 5000) :: settle 5000 12 ++
    alone 6000 (.saveContact 1 (contact "alice") true)

theorem receipts_sound_bobIsQuick :
    Receipt "alice" "5000" (messaging.exec (Clients.initial aliceAndBob) bobIsQuick).world ∧
      openedSince "alice" "bob" "5000"
        (messaging.moves (Clients.initial aliceAndBob) bobIsQuick) = true := by
  have hreceipt : Receipt "alice" "5000"
      (messaging.exec (Clients.initial aliceAndBob) bobIsQuick).world := by decide +kernel
  exact ⟨hreceipt, receipts_sound (System.run_exec (by decide +kernel)) (by decide +kernel)
    (by decide +kernel) hreceipt⟩

/-- Alice writes her first message to Bob, who does nothing, and is told that it has been seen. -/
theorem receipts_unsound :
    ¬ ∀ (u p cid : String) (es : List (Event Action)) (c : Clients),
      messaging.Run messaging.admits (Clients.initial aliceAndBob) es c →
      (cid, s(u, p)) ∈ c.world.minted → Receipt u cid c.world →
      openedSince u p cid (messaging.moves (Clients.initial aliceAndBob) es) = true := by
  intro h
  have hopened := h "alice" "bob" "5000" firstMessage _ (System.run_exec (by decide +kernel))
    (by decide +kernel) (by decide +kernel)
  exact absurd hopened (by decide +kernel)

end FlutterTheme
