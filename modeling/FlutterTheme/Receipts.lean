import FlutterTheme.Deeds
import FlutterTheme.Clients
import FlutterTheme.Routing

/-!
# Messages that have been seen

`seenMessage` marks the messages of a chat as seen only where the user of the screen and the
peer are the same, and no screen is like that. So no message is ever marked (`unseen`), and
after a user has opened a chat its messages are marked as they should be exactly if none of them
is addressed to the user (`receipts_complete`).
-/

namespace FlutterTheme

open EventLoop DocStore

variable {π : Terms} {l : Scope} {t : Tick} {w w' : World}

/-- No message has been seen. -/
def Unseen (w : World) : Prop :=
  ∀ c, ∀ m ∈ w.store.docs (.messages c), m.data .isSeen ≠ some (.bool true)

/-- The messages are the same. -/
def SameMessages (w w' : World) : Prop :=
  ∀ c, w'.store.docs (.messages c) = w.store.docs (.messages c)

theorem SameMessages.refl (w : World) : SameMessages w w := fun _ => rfl

theorem SameMessages.trans {w'' : World} (h : SameMessages w w') (h' : SameMessages w' w'') :
    SameMessages w w'' :=
  fun c => (h' c).trans (h c)

theorem sameMessages_of_store (h : w'.store = w.store) : SameMessages w w' := fun c => by rw [h]

theorem sameMessages_write {op : Write Path Key Value} (h : ∀ c, op.path ≠ .messages c) :
    SameMessages w { w with store := w.store.write op } :=
  fun c => Store.docs_write_of_ne (Ne.symm (h c))

theorem Unseen.same (h : Unseen w) (hw : SameMessages w w') : Unseen w' := by
  intro c m hm
  rw [hw c] at hm
  exact h c m hm

/-- A handler that may update messages updates none: none of the effects is an update of one. -/
theorem Effect.sameMessages {c : String} {id : DocId} {u : Data} (h : Effect π l w w')
    (hw : w'.store = w.store.update (.messages c) id u) : SameMessages w w' := by
  cases h with
  | screens store => exact sameMessages_of_store store
  | mint _ store => exact sameMessages_of_store store
  | block | notify => exact sameMessages_of_store rfl
  | write op promised permitted =>
    cases permitted with
    | message =>
      -- an added message uses up an identifier, an update does not
      have hnext := congrArg Store.next hw
      exact absurd hnext (Nat.succ_ne_self _)
    | deleteMessage c' id' =>
      intro c''
      have hdocs := congrFun (congrArg Store.docs hw) (.messages c'')
      have hlen := congrArg List.length hdocs
      rw [Store.length_docs_update] at hlen
      exact Store.docs_delete_of_length hlen
    | addEntry | updateEntry | seen | register | group | groupMessage | addGroupEntry
    | updateGroupEntry | broadcast | broadcastMessage | addBroadcastEntry | updateBroadcastEntry =>
      exact sameMessages_write fun _ => Path.noConfusion

/-! ## No message is marked -/

/-- One action, of any handler. -/
theorem Deed.unseen (h : Deed Written t w w') (he : Effect π l w w') (hw : Unseen w) :
    Unseen w' := by
  cases h with
  | screens store => exact hw.same (sameMessages_of_store store)
  | mint _ store => exact hw.same (sameMessages_of_store store)
  | notify => exact hw
  | write op permitted =>
    cases permitted with
    | message hunseen =>
      intro c m hm
      rcases Store.mem_add.mp hm with ⟨-, rfl⟩ | hm
      · exact hunseen
      · exact hw c m hm
    | delete c id => exact fun c' m hm => hw c' m (Store.mem_delete.mp hm).1
    | marks hmarks =>
      cases hmarks with
      | entry u id => exact hw.same (sameMessages_write fun _ => Path.noConfusion)
      | message c id => exact hw.same (he.sameMessages rfl)
    | other hother => exact hw.same (sameMessages_write hother)

/-- One action of a handler that opens a chat. -/
theorem Deed.sameMessages (h : Deed Marks t w w') (he : Effect π l w w') : SameMessages w w' := by
  cases h with
  | screens store => exact sameMessages_of_store store
  | mint _ store => exact sameMessages_of_store store
  | notify => exact sameMessages_of_store rfl
  | write op permitted =>
    cases permitted with
    | entry u id => exact sameMessages_write fun _ => Path.noConfusion
    | message c id => exact he.sameMessages rfl

variable {session : ℕ → UserData} {es₀ es : List (Event Action)} {c₀ c : Clients}

/-- In every reachable world no message has been seen: the only write that marks one needs the
screen of a peer with the user's own id. -/
theorem Clients.unseen (h : messaging.Run messaging.admits (Clients.initial session) es c) :
    Unseen c.world := by
  have hinitial : (Clients.initial session).All (handlers Written) :=
    fun _ hth => absurd hth List.not_mem_nil
  have hacts : ∀ e, messaging.Acts (handlers Written) e := by
    intro e
    cases e with
    | call a ticks => exact all_body a
    | resume i ticks => trivial
  induction h with
  | nil => exact fun _ _ hm => absurd hm List.not_mem_nil
  | snoc h e he ih =>
    refine System.apply_steps (R := fun w w' => Unseen w → Unseen w') (fun _ h => h)
      (fun h h' hw => h' (h hw)) (fun st hst => ?_) ih
    obtain ⟨t, hdeed⟩ := System.rel_of_mem_steps (h.all hinitial fun _ e _ => hacts e) (hacts e) hst
    exact hdeed.unseen (Clients.steps h he st hst)

/-! ## Opening a chat -/

/-- A chat is opened. -/
def Action.isOpening : Action → Bool
  | .saveContact _ _ _ | .tapCard _ _ => true
  | _ => false

/-- Nothing is started but the opening of chats. -/
def OnlyOpens (c : Clients) : Event Action → Prop
  | .call a _ => a.enabled c.world ∧ a.isOpening = true
  | .resume _ _ => True

instance (c : Clients) : (e : Event Action) → Decidable (OnlyOpens c e)
  | .call a _ => inferInstanceAs (Decidable (a.enabled c.world ∧ a.isOpening = true))
  | .resume _ _ => inferInstanceAs (Decidable True)

theorem OnlyOpens.admits {c : Clients} {e : Event Action} (h : OnlyOpens c e) :
    messaging.admits c e := by
  cases e with
  | call a ticks => exact h.1
  | resume i ticks => trivial

/-- The user `u` opens the chat `cid`, and everything settles before anything else is done. -/
structure Opens (u cid : String) (c₀ : Clients) (es : List (Event Action)) (c : Clients) : Prop where
  settled₀ : c₀.Settled
  run : messaging.Run OnlyOpens c₀ es c
  settled : c.Settled
  /-- the screen that opens -/
  screen : ∃ i < c.world.chatCtrl.size, c₀.world.chatCtrl.size ≤ i ∧
    (c.world.chatCtrl.get i).userData.id = u ∧ (c.world.chatCtrl.get i).chatId = cid

/-- The messages of a conversation after the user `u` has opened it. -/
structure Complete (u cid : String) (w w' : World) : Prop where
  /-- what is addressed to the user has been seen -/
  seen : ∀ m ∈ w'.store.docs (.messages cid), m.data .receiver = some (.str u) →
    m.data .isSeen = some (.bool true)
  /-- no message comes or goes -/
  ids : (w'.store.docs (.messages cid)).map Doc.id = (w.store.docs (.messages cid)).map Doc.id
  /-- what is not addressed to the user is left alone -/
  other : ∀ m ∈ w.store.docs (.messages cid), m.data .receiver ≠ some (.str u) →
    m ∈ w'.store.docs (.messages cid)
  /-- no other field changes -/
  fields : ∀ m ∈ w.store.docs (.messages cid), ∀ m' ∈ w'.store.docs (.messages cid), m'.id = m.id →
    ∀ k, k ≠ .isSeen → m'.data k = m.data k

/-- Opening chats leaves all messages as they are. -/
theorem Opens.same {u cid : String}
    (h₀ : messaging.Run messaging.admits (Clients.initial session) es₀ c₀)
    (h : Opens u cid c₀ es c) : SameMessages c₀.world c.world := by
  have hacts : ∀ c e, OnlyOpens c e → messaging.Acts (handlers Marks) e := by
    intro c e he
    cases e with
    | resume i ticks => trivial
    | call a ticks =>
      cases a with
      | saveContact n contact isRegister => exact all_saveContact fun _ => allowsWrite_handlers
      | tapCard n entry => exact all_tapCard fun _ => allowsWrite_handlers
      | _ => exact Bool.noConfusion he.2
  have hall₀ : c₀.All (handlers Marks) := by
    intro th hth
    rw [h.settled₀] at hth
    exact absurd hth List.not_mem_nil
  obtain ⟨-, hrun, -, -⟩ := h
  induction hrun with
  | nil => exact fun _ => rfl
  | snoc hrun e he ih =>
    have hreach := h₀.append (hrun.mono fun _ _ he => he.admits)
    refine ih.trans (System.apply_steps SameMessages.refl SameMessages.trans fun st hst => ?_)
    obtain ⟨t, hdeed⟩ := System.rel_of_mem_steps (hrun.all hall₀ hacts) (hacts _ e he) hst
    exact hdeed.sameMessages (Clients.steps hreach he.admits st hst)

/-- **Receipts of messages.** After `u` has opened a chat, its messages are as they should be
exactly if none of them is addressed to `u`. -/
theorem receipts_complete {u cid : String}
    (h₀ : messaging.Run messaging.admits (Clients.initial session) es₀ c₀)
    (h : Opens u cid c₀ es c) :
    Complete u cid c₀.world c.world ↔
      ∀ m ∈ c₀.world.store.docs (.messages cid), m.data .receiver ≠ some (.str u) := by
  have hsame := h.same h₀ cid
  constructor
  · intro hcomplete m hm hreceiver
    exact Clients.unseen h₀ cid m hm (hcomplete.seen m (hsame ▸ hm) hreceiver)
  · intro hnone
    refine ⟨fun m hm hreceiver => ?_, by rw [hsame], fun m hm _ => hsame ▸ hm, ?_⟩
    · rw [hsame] at hm
      exact absurd hreceiver (hnone m hm)
    · intro m hm m' hm' hid k _
      rw [hsame] at hm'
      rw [Store.eq_of_id _ hm' hm hid]

/-! ## Alice and Bob -/

/-- Alice has written to Bob. -/
def written : Clients := messaging.exec (Clients.initial aliceAndBob) firstMessage

/-- Bob opens the chat. -/
def bobReads : List (Event Action) := alone 6000 (.saveContact 1 (contact "alice") true)

theorem run_firstMessage :
    messaging.Run messaging.admits (Clients.initial aliceAndBob) firstMessage written :=
  System.run_exec (by decide +kernel)

/-- Alice's own message stays as it is when she opens the chat. -/
theorem receipts_complete_alice :
    Complete "alice" "5000" written.world
      (messaging.exec written (alone 6000 (.saveContact 0 (contact "bob") true))).world := by
  have hopens : Opens "alice" "5000" written (alone 6000 (.saveContact 0 (contact "bob") true)) _ :=
    ⟨by decide +kernel, System.run_exec (by decide +kernel), by decide +kernel, by decide +kernel⟩
  exact (receipts_complete run_firstMessage hopens).mpr (by decide +kernel)

/-- Bob has opened the chat, and the message is not marked. -/
theorem receipts_missing :
    ¬ ∀ (u cid : String) (es₀ es : List (Event Action)) (c₀ c : Clients),
      messaging.Run messaging.admits (Clients.initial aliceAndBob) es₀ c₀ → Opens u cid c₀ es c →
      Complete u cid c₀.world c.world := by
  intro h
  have hopens : Opens "bob" "5000" written bobReads _ :=
    ⟨by decide +kernel, System.run_exec (by decide +kernel), by decide +kernel, by decide +kernel⟩
  have hcomplete := h _ _ _ _ _ _ run_firstMessage hopens
  have hnot : ¬ ∀ m ∈ (messaging.exec written bobReads).world.store.docs (.messages "5000"),
      m.data .receiver = some (.str "bob") → m.data .isSeen = some (.bool true) := by
    decide +kernel
  exact hnot hcomplete.seen

end FlutterTheme
