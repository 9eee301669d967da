import FlutterTheme.Rely
import FlutterTheme.Calls

/-!
# What the handlers of calls do

* `Consistent` — every call on a screen, in a channel or among the documents of
  `calling` is one that has been placed.
* `HistoryFields` — what each handler writes into the history of calls.
* `Effect` — all that one action can do to the history of calls.
* `callProtocol` — the protocol every handler keeps.
-/

namespace FlutterTheme.Calls

open EventLoop DocStore

/-! ## Calls that have been placed -/

/-- The call is the placed call `p`, as it appears on a device: what identifies it is the
same, and a call that has been offered has lost the members of the group. -/
structure Call.Is (call p : Call) : Prop where
  callerId : call.callerId = p.callerId
  receiverId : call.receiverId = p.receiverId
  timestamp : call.timestamp = p.timestamp
  channelId : call.channelId = p.channelId
  isVideoCall : call.isVideoCall = p.isVideoCall
  receiver : p.receiver = none → call.receiver = none

/-- The call has been placed. -/
def Known (placed : List Call) (call : Call) : Prop := ∃ p ∈ placed, call.Is p

variable {placed placed' : List Call} {call : Call} {w w' w'' : World}

theorem Known.mono (h : Known placed call) (hs : placed ⊆ placed') : Known placed' call := by
  obtain ⟨p, hp, his⟩ := h
  exact ⟨p, hs hp, his⟩

theorem Known.dialled (h : Known placed call) (hasDialled : Option Bool) :
    Known placed { call with hasDialled := hasDialled } := by
  obtain ⟨p, hp, h₁, h₂, h₃, h₄, h₅, h₆⟩ := h
  exact ⟨p, hp, h₁, h₂, h₃, h₄, h₅, h₆⟩

/-- The identifiers of a call are not null. -/
theorem Call.of_ids {ids : Ids} (h : call.ids = some ids) :
    call.callerId = some ids.callerId ∧ call.receiverId = some ids.receiverId ∧
      call.timestamp = some ids.timestamp := by
  unfold Call.ids at h
  split at h
  · next h₁ h₂ h₃ =>
    cases h
    exact ⟨h₁, h₂, h₃⟩
  · cases h

/-- What the receiver gets back of a call: all but the pictures and the members. -/
@[simp] theorem Call.fromMap_callingFields (call : Call) (hasDialled : Bool) :
    Call.fromMap (callingFields call hasDialled) =
      { call with
        callerPic := none, receiverPic := none, hasDialled := some hasDialled, receiver := none } := by
  simp [Call.fromMap, callingFields, Fields.ofList]

/-- The call is built by `audioAndVideoCallApi`, without members, or by `audioAndVideoCall`, on a
device with one of these users. -/
def Call.MadeBy (session : ℕ → User) (call : Call) : Prop :=
  ∃ d toData timestamp n isVideoCall receiver,
    call = Call.make (session d) toData timestamp (toString (n : ℕ)) isVideoCall receiver

/-- The document is the one that the placed call `p` has below the user: the caller's has been
dialled, the receiver's has not. -/
structure Call.StoredAs (p : Call) (user : String) (d : Document) : Prop where
  id : ∃ n, d.id = .auto n
  data : p.callerId = some user ∧ d.data = callingFields p true ∨
    p.receiverId = some user ∧ d.data = callingFields p false

/-- A document of `calls/user/calling`: of a call that has been placed by or to the user,
or what `onCallEnd` of a call to a group leaves there. -/
def Pending (placed : List Call) (user : String) (d : Document) : Prop :=
  (d.data .callerId = none ∧ d.data .receiverId = none ∧ d.data .hasDialled = none) ∨
  ∃ p ∈ placed, p.StoredAs user d

theorem Pending.mono {user : String} {d : Document} (h : Pending placed user d)
    (hs : placed ⊆ placed') : Pending placed' user d := by
  rcases h with h | ⟨p, hp, h⟩
  · exact Or.inl h
  · exact Or.inr ⟨p, hs hp, h⟩

/-- What is read of the document is the call that has been placed. -/
theorem Call.StoredAs.known {p : Call} {user : String} {d : Document} (h : p.StoredAs user d)
    (hp : p ∈ placed) : Known placed (Call.fromMap d.data) := by
  rcases h.data with ⟨-, hd⟩ | ⟨-, hd⟩
  · rw [hd, fromMap_callingFields]
    exact ⟨p, hp, rfl, rfl, rfl, rfl, rfl, fun _ => rfl⟩
  · rw [hd, fromMap_callingFields]
    exact ⟨p, hp, rfl, rfl, rfl, rfl, rfl, fun _ => rfl⟩

/-- Every call that is anywhere has been placed. -/
structure Consistent (w : World) : Prop where
  /-- a call has been placed by the user of a device -/
  placed : ∀ p ∈ w.placed, p.MadeBy w.session
  /-- the calls on the screens -/
  ctrl : ∀ k call, (w.ctrl.get k).call = some call → Known w.placed call
  /-- the calls that are pending -/
  calling : ∀ u, ∀ d ∈ w.store.docs (.calling u), Pending w.placed u d
  /-- the participants of calls -/
  joined : ∀ j ∈ w.joined, j.channel = channel ∧ Known w.placed j.call

/-- Calls and writes are only added to the history, and nobody else signs in. -/
structure World.Extends (w w' : World) : Prop where
  placed : w.placed ⊆ w'.placed
  writes : w.writes ⊆ w'.writes
  session : w'.session = w.session

theorem World.Extends.refl (w : World) : w.Extends w :=
  ⟨List.Subset.refl _, List.Subset.refl _, rfl⟩

theorem World.Extends.trans (h : w.Extends w') (h' : w'.Extends w'') : w.Extends w'' :=
  ⟨List.Subset.trans h.placed h'.placed, List.Subset.trans h.writes h'.writes,
    h'.session.trans h.session⟩

/-! ## What is written into the history of calls -/

/-- What the handlers write into the history document of a user for a call. -/
inductive HistoryFields (call : Call) (ids : Ids) : Writer → String → Data → Prop where
  | audioJoinCaller : HistoryFields call ids (.join false) ids.callerId
      (callerRecord call "OUTGOING" "calling" call.callerName .null)
  | audioJoinReceiver : HistoryFields call ids (.join false) ids.receiverId
      (receiverRecord call ids.receiverId "INCOMING" "missedCall" call.callerName .null)
  | videoJoinCaller (name : Option String) : HistoryFields call ids (.join true) ids.callerId
      (callerRecord call "outGoing" "calling" name .null)
  | videoJoinReceiver (name : Option String) (user : String)
      (huser : call.receiver = none → user = ids.receiverId) :
      HistoryFields call ids (.join true) user
        (receiverRecord call user "inComing" "missedCall" name .null)
  | callerPickedUp (started : ℕ) :
      HistoryFields call ids .onUserJoined ids.callerId (callerPickedUp started)
  | receiverPickedUp (user : String) (started : ℕ) :
      HistoryFields call ids .onUserJoined user (receiverPickedUp started)
  | onUserOffline (user : String) (ended : ℕ) :
      HistoryFields call ids .onUserOffline user (endedFields ended)
  | onLeaveChannel (user : String) (ended : ℕ) :
      HistoryFields call ids .onLeaveChannel user (endedFields ended)
  | onToggleMute (user : String) (muted : Bool) :
      HistoryFields call ids .onToggleMute user (.ofList [(.isMuted, .bool muted)])
  | rejectCaller (ended : ℕ) : HistoryFields call ids .reject ids.callerId
      (callerRecord call "outGoing" "rejected" call.callerName (.time ended))
  | rejectReceiver (ended : ℕ) : HistoryFields call ids .reject ids.receiverId
      (receiverRecord call ids.receiverId "INCOMING" "rejected" call.callerName (.time ended))
  | audioEndCaller (ended : ℕ) : HistoryFields call ids (.onCallEnd false) ids.callerId
      (callerRecord call "outGoing" "ended" call.callerName (.time ended))
  | audioEndReceiver (ended : ℕ) : HistoryFields call ids (.onCallEnd false) ids.receiverId
      (receiverRecord call ids.receiverId "inComing" "ended" call.callerName (.time ended))
  | ended (isVideo : Bool) (user : String) (time : ℕ) :
      HistoryFields call ids (.onCallEnd isVideo) user (endedFields time)

/-- What one action in the scope `l` does to the history of calls, where `promise` is what
a call that is resumed has been promised. -/
inductive Effect (promise : Scope → World → Prop) (l : Scope) (w : World) : World → Prop where
  /-- nothing -/
  | other {w' : World} (later : w.Extends w')
      (h : ∀ u, w'.store.docs (.history u) = w.store.docs (.history u)) : Effect promise l w w'
  /-- a write that has been started takes effect -/
  | write (x : HistoryWrite) {call : Call} {ids : Ids} {u : Data} (pos : ℕ)
      (scope : l = .history x) (promised : promise l w) (started : x ∈ w.writes)
      (known : Known w.placed call) (hids : call.ids = some ids)
      (timestamp : ids.timestamp = x.timestamp) (fields : HistoryFields call ids x.writer x.user u) :
      Effect promise l w
        { w with store := w.store.setMerge (.history x.user) (toString x.timestamp) pos u }
  /-- an empty document is added -/
  | blank (user : String) (pos : ℕ) :
      Effect promise l w { w with store := w.store.add (.history user) pos .empty }

theorem Effect.refl (promise : Scope → World → Prop) (l : Scope) (w : World) :
    Effect promise l w w :=
  .other (.refl w) fun _ => rfl

theorem Effect.later {promise : Scope → World → Prop} {l : Scope} (h : Effect promise l w w') :
    w.Extends w' := by
  cases h with
  | other later => exact later
  | write | blank => exact ⟨List.Subset.refl _, List.Subset.refl _, rfl⟩

/-- What the handlers of calls rely on and guarantee. -/
def callProtocol (promise : Scope → World → Prop) : Protocol World Scope where
  rely := World.Extends
  inv := Consistent
  step := Effect promise
  promise := promise
  rely_refl := World.Extends.refl
  rely_trans := World.Extends.trans
  step_refl := Effect.refl promise

/-! ## Changes that keep the world consistent -/

/-- A change that leaves calls, screens and participants alone, and of `calling` leaves
only documents of calls that have been placed. -/
theorem Consistent.of_store (hc : Consistent w) {s : Store Path Key Value}
    (hs : ∀ u, ∀ d ∈ s.docs (.calling u), Pending w.placed u d) :
    Consistent { w with store := s } :=
  ⟨hc.placed, hc.ctrl, hs, hc.joined⟩

theorem Consistent.of_history (hc : Consistent w) {s : Store Path Key Value}
    (hs : ∀ u, s.docs (.calling u) = w.store.docs (.calling u)) :
    Consistent { w with store := s } :=
  hc.of_store fun u d hd => hc.calling u d (hs u ▸ hd)

theorem Consistent.of_ctrl (hc : Consistent w) {ctrl : Heap CallController}
    {registered : ℕ → Bool → Option ℕ}
    (h : ∀ k call, (ctrl.get k).call = some call → Known w.placed call) :
    Consistent { w with ctrl := ctrl, registered := registered } :=
  ⟨hc.placed, h, hc.calling, hc.joined⟩

/-- A controller is changed in a way that brings in no call that has not been placed. -/
theorem Consistent.modify (hc : Consistent w) (k : ℕ) {f : CallController → CallController}
    (hf : ∀ call, (f (w.ctrl.get k)).call = some call → Known w.placed call) :
    Consistent { w with ctrl := w.ctrl.modify k f } := by
  refine hc.of_ctrl fun j call hj => ?_
  rw [Heap.get_modify] at hj
  split at hj
  · exact hf call hj
  · exact hc.ctrl j call hj

/-- A call is placed. -/
theorem Consistent.place (hc : Consistent w) (hmade : call.MadeBy w.session) :
    Consistent { w with placed := call :: w.placed } := by
  have hsub : w.placed ⊆ call :: w.placed := List.subset_cons_self ..
  refine ⟨?_, fun k c hk => (hc.ctrl k c hk).mono hsub, fun u d hd => (hc.calling u d hd).mono hsub,
    fun j hj => ⟨(hc.joined j hj).1, (hc.joined j hj).2.mono hsub⟩⟩
  intro p hp
  rcases List.mem_cons.mp hp with rfl | hp
  · exact hmade
  · exact hc.placed p hp

theorem consistent_initial (users : String → Option User) (session : ℕ → User)
    (agoraToken : ℕ → Option String) : Consistent (World.initial users session agoraToken) where
  placed _ hp := absurd hp List.not_mem_nil
  ctrl k call hk := by simp [World.initial, Heap.empty, default, instInhabitedCallController.default] at hk
  calling _ _ hd := absurd hd List.not_mem_nil
  joined _ hj := absurd hj List.not_mem_nil

end FlutterTheme.Calls
