import FlutterTheme.CallSafe
import FlutterTheme.Ends

/-!
# The documents of calls

A call that is placed is stored for both parties by a map that is written out in place, and read
again by `Call.fromMap` when it is offered. The maps call the pictures `callerPic` and
`receiverPic`, `Call.fromMap` and `Call.toMap` call them `callerImage` and `receiverImage`, and
neither the maps nor `Call.toMap` have the members of a group.

* `Offered` — a call that is placed without failures is stored for whom it is placed to.
* `call_decodes_iff` — when what has been stored is read again as the call that was placed.
-/

namespace FlutterTheme.Calls

open EventLoop DocStore

/-- `Call.toMap`. -/
def Call.toMap (call : Call) : Data :=
  .ofList [
    (.callerId, .ofString call.callerId),
    (.callerName, .ofString call.callerName),
    (.callerImage, .ofString call.callerPic),
    (.receiverId, .ofString call.receiverId),
    (.receiverName, .ofString call.receiverName),
    (.receiverImage, .ofString call.receiverPic),
    (.channelId, .ofString call.channelId),
    (.hasDialled, .ofBool call.hasDialled),
    (.isVideoCall, .ofBool call.isVideoCall),
    (.timestamp, .ofInt call.timestamp),
    (.callerToken, .ofString call.callerToken),
    (.receiverToken, .ofString call.receiverToken)]

section Codec

variable {call : Call}

/-- What is read of a map of a call. -/
@[simp] theorem Call.fromMap_toMap : Call.fromMap call.toMap = { call with receiver := none } := by
  simp [Call.fromMap, Call.toMap, Fields.ofList]

theorem Call.fromMap_toMap_iff : Call.fromMap call.toMap = call ↔ call.receiver = none := by
  rw [fromMap_toMap]
  constructor
  · intro h
    rw [← h]
  · intro h
    cases call
    cases h
    rfl

/-- The pictures and the members are lost. -/
theorem Call.fromMap_callingFields_iff : Call.fromMap (callingFields call false) =
      { call with hasDialled := some false } ↔
    call.callerPic = none ∧ call.receiverPic = none ∧ call.receiver = none := by
  rw [fromMap_callingFields]
  constructor
  · intro h
    have hcaller := congrArg Call.callerPic h
    have hreceiver := congrArg Call.receiverPic h
    have hmembers := congrArg Call.receiver h
    exact ⟨hcaller.symm, hreceiver.symm, hmembers.symm⟩
  · rintro ⟨hcaller, hreceiver, hmembers⟩
    rw [hcaller, hreceiver, hmembers]

/-- What has been stored for the receiver is one document of a call that has been placed. -/
theorem Pending.received {placed : List Call} {user : String} {d : Document}
    (h : Pending placed user d) (hdialled : d.data .hasDialled = some (.bool false)) :
    ∃ p ∈ placed, p.receiverId = some user ∧ d.data = callingFields p false := by
  rcases h with ⟨-, -, hnone⟩ | ⟨p, hp, -, ⟨-, hd⟩ | ⟨hreceiver, hd⟩⟩
  · rw [hnone] at hdialled
    cases hdialled
  · rw [hd] at hdialled
    cases hdialled
  · exact ⟨p, hp, hreceiver, hd⟩

end Codec

/-! ## What is stored -/

/-- The action adds the receiver's document of a call. -/
def AddsReceived (userData toData : User) (isVideoCall : Bool) (receiver : Option (List Member))
    (w w' : World) : Prop :=
  ∃ timestamp n pos, w'.store = w.store.add (.calling toData.id) pos
    (callingFields (Call.make userData toData timestamp (toString (n : ℕ)) isVideoCall receiver)
      false)

/-- Such an action is to be taken. -/
def offering (act : World → World → Prop) : Goal (callProtocol fun _ _ => True) where
  reached _ := False
  taken _ w w' := act w w'
  scope l := l = .idle
  stable _ h := h

section Offering

variable {w : World} {act : World → World → Prop} {d : ℕ} {userData toData : User}
  {isVideoCall : Bool} {receiver : Option (List Member)} {Q : Scope → Unit → World → Prop}

theorem reaches_placeCall {timestamp n : ℕ}
    (hact : ∀ w w', AddsReceived userData toData isVideoCall receiver w w' → act w w') :
    (placeCall d userData toData (Call.make userData toData timestamp (toString n) isVideoCall
      receiver) isVideoCall).Reaches (offering act) .idle w Q := by
  refine Async.reaches_bind (Async.reaches_sync fun _ => ?_)
  refine Async.reaches_bind (Async.reaches_remote rfl fun w₁ _ _ t w₂ _ _ => ?_)
  refine Async.reaches_bind (Async.reaches_remote_taken rfl fun w₃ _ _ t => ?_)
  exact hact _ _ ⟨timestamp, n, t.pos, rfl⟩

theorem ends_audioAndVideoCallApi :
    (audioAndVideoCallApi d (some toData) isVideoCall).task.Ends
      (offering (AddsReceived (w.session d) toData isVideoCall none)) .idle w := by
  refine Async.Reaches.ends (Async.reaches_bind (Async.reaches_sync fun _ => ?_))
  refine Async.reaches_bind (Async.reaches_sync fun _ => ?_)
  refine Async.reaches_bind (Async.reaches_sync fun _ => ?_)
  exact reaches_placeCall fun _ _ h => h

/-- A member of the group is offered the call, if the user document does not change. -/
theorem ends_audioAndVideoCall {members : List Member} {element : Member}
    (helement : element ∈ members) :
    (audioAndVideoCall d members isVideoCall).task.Ends
      (offering fun w' w'' => w'.users element.id = some toData →
        AddsReceived (w.session d) toData isVideoCall (some members) w' w'') .idle w := by
  refine Async.Reaches.ends (Async.reaches_bind (Async.reaches_sync fun _ => ?_))
  refine Async.reaches_bind (Async.reaches_sync fun _ => ?_)
  refine Async.reaches_bind (Async.reaches_sync fun _ => ?_)
  refine Async.reaches_forEach_ends helement fun w₁ => Async.Reaches.ends (Async.reaches_bind ?_)
  refine Async.reaches_remote_or rfl fun w₂ _ _ _ => ?_
  by_cases huser : w₂.users element.id = some toData
  · refine Or.inr fun w₃ _ _ => ?_
    simp only [huser]
    exact reaches_placeCall fun _ _ h _ => h
  · exact Or.inl fun h => absurd h huser

end Offering

section Runs

variable {users : String → Option User} {session : ℕ → User} {agoraToken : ℕ → Option String}
  {es : List (Event Action)} {c : Config World Scope}

/-- What a call without failing operations has to do, it has done when nothing is under way any
more. -/
theorem added_of_ends {a : Action} {ticks : ℕ → Tick} {act : World → World → Prop}
    (hends : ∀ w, w.session = session → a.body.task.Ends (offering act) .idle w)
    (h : calling.Run (fun _ e => e.Succeeds) (start users session agoraToken) es c)
    (hset : c.Settled) (hcall : .call a ticks ∈ es) :
    ∃ st ∈ calling.moves (start users session agoraToken) es, act st.before st.after := by
  obtain ⟨es₁, es₂, c₁, rfl, h₁, ht, h₂⟩ := h.of_mem hcall
  have hstart := start_kept users session agoraToken
  have hkept := h₁.safe hstart fun _ _ hc _ => provides_action hc
  have hle : World.Extends _ c₁.world := h₁.later hstart fun _ _ hc _ => provides_action hc
  have htaken := System.Run.taken_or_reached (g := offering act) hkept (provides_action hkept) ht
    (hends c₁.world hle.session)
    (fun _ _ hc he => ⟨provides_action hc, System.succeeds_of_event he⟩) h₂ hset
  obtain ⟨st, hst, hact⟩ := htaken.resolve_right id
  refine ⟨st, ?_, hact⟩
  rw [System.moves_append, ← h₁.exec_eq]
  exact List.mem_append_right _ hst

end Runs

/-- The calls that are placed at the events of a run are stored for those they are placed to. -/
structure Offered (session : ℕ → User) (es : List (Event Action))
    (steps : List (Step World Scope)) : Prop where
  /-- a call to a user -/
  oneToOne : ∀ d toData isVideoCall ticks,
    .call (.audioAndVideoCallApi d (some toData) isVideoCall) ticks ∈ es →
      ∃ st ∈ steps, AddsReceived (session d) toData isVideoCall none st.before st.after
  /-- a call to a group, for a member whose user document stays the same -/
  group : ∀ d members isVideoCall ticks,
    .call (.audioAndVideoCall d members isVideoCall) ticks ∈ es → ∀ element ∈ members, ∀ toData,
      (∀ st ∈ steps, st.before.users element.id = some toData) →
      ∃ st ∈ steps, AddsReceived (session d) toData isVideoCall (some members) st.before st.after

/-- **What is stored is read again as the call that was placed exactly if** neither party has a
picture and the call is not to a group. Whatever is offered to a user in any run is the document of
a call that has been placed to that user, by the user of a device; a call that is placed without
failures is offered; and a map of a call has everything but the members of a group. -/
theorem call_decodes_iff {users : String → Option User} {session : ℕ → User}
    {agoraToken : ℕ → Option String} {es : List (Event Action)} {c : Config World Scope}
    (h : calling.Run calling.admits (start users session agoraToken) es c) :
    (∀ u, ∀ d ∈ c.world.store.docs (.calling u), d.data .hasDialled = some (.bool false) →
      ∃ call ∈ c.world.placed, call.receiverId = some u ∧ d.data = callingFields call false) ∧
    (∀ call ∈ c.world.placed, call.MadeBy c.world.session) ∧
    (c.Settled → (∀ e ∈ es, e.Succeeds) →
      Offered session es (calling.moves (start users session agoraToken) es)) ∧
    (∀ call : Call, Call.fromMap (callingFields call false) =
        { call with hasDialled := some false } ↔
      call.callerPic = none ∧ call.receiverPic = none ∧ call.receiver = none) ∧
    ∀ call : Call, Call.fromMap call.toMap = call ↔ call.receiver = none := by
  have hc := calls_consistent h
  refine ⟨fun u d hd hdialled => (hc.calling u d hd).received hdialled, hc.placed, ?_,
    fun call => Call.fromMap_callingFields_iff, fun call => Call.fromMap_toMap_iff⟩
  intro hset hsucc
  have hrun : calling.Run (fun _ e => e.Succeeds) (start users session agoraToken) es c := by
    rw [h.exec_eq]
    exact System.run_of_forall hsucc
  refine ⟨fun d toData isVideoCall ticks hcall => ?_,
    fun d members isVideoCall ticks hcall element helement toData huser => ?_⟩
  · refine added_of_ends (fun w hw => ?_) hrun hset hcall
    rw [← hw]
    exact ends_audioAndVideoCallApi
  · have hends : ∀ w : World, w.session = session →
        (audioAndVideoCall d members isVideoCall).task.Ends
          (offering fun w' w'' => w'.users element.id = some toData →
            AddsReceived (session d) toData isVideoCall (some members) w' w'') .idle w := by
      intro w hw
      rw [← hw]
      exact ends_audioAndVideoCall helement
    obtain ⟨st, hst, hadds⟩ := added_of_ends hends hrun hset hcall
    exact ⟨st, hst, hadds (huser st hst)⟩

/-- Alice calls Bob, and he is offered the call. -/
theorem call_decodes_iff_bob :
    Offered deviceUser (aliceCallsBob false 0)
      (calling.moves threeUsers (aliceCallsBob false 0)) := by
  have hrun : calling.Run calling.admits threeUsers (aliceCallsBob false 0)
      (calling.exec threeUsers (aliceCallsBob false 0)) := System.run_exec (by decide +kernel)
  obtain ⟨-, -, hoffered, -⟩ := call_decodes_iff hrun
  refine hoffered (by decide +kernel) ?_
  simp only [aliceCallsBob, alone, List.forall_mem_append, List.forall_mem_cons]
  exact ⟨⟨fun _ => rfl, Event.succeeds_replicate fun _ => rfl⟩, fun _ => rfl,
    Event.succeeds_replicate fun _ => rfl⟩

/-- **The picture is lost**: the document that Bob is offered is not read as the call that Alice
has placed, since she has a picture. -/
theorem picture_not_decoded : ¬ ∀ es c, calling.Run calling.admits threeUsers es c →
    ∀ call ∈ c.world.placed,
      Call.fromMap (callingFields call false) = { call with hasDialled := some false } := by
  intro hclaim
  have hplaced : ∃ call ∈ (calling.exec threeUsers (aliceCallsBob false 0)).world.placed,
      call.callerPic = some "" := by decide +kernel
  obtain ⟨call, hcall, hpic⟩ := hplaced
  have hdecoded := hclaim _ _ (System.run_exec (by decide +kernel)) call hcall
  have hnone : none = call.callerPic := congrArg Call.callerPic hdecoded
  rw [hpic] at hnone
  cases hnone

end FlutterTheme.Calls
