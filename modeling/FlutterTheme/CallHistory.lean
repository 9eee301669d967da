import FlutterTheme.Ends
import FlutterTheme.CallSafe
import Mathlib

/-!
# The history of calls

What holds of the documents of `collectionCallHistory` in every run. Each result adds
an invariant to `callProtocol` that follows from the single steps (`Effect`); some need a
condition on the writes that are carried on.

* `history_peer` — a document is taken from one call of its user, and `CallList` shows the
  other party.
* `history_direction` — it is shown as incoming for the receiver only, as long as neither
  the audio controller's `onJoinChannelSuccess` nor a rejection has been written.
* `answered_kept` — an answered call stays answered, as long as nothing that clears
  `started` is written after the peer has joined.
* `status_kept` — a call that has come to its end stays so, as long as nothing else is
  written after its end.
-/

namespace FlutterTheme.Calls

open EventLoop DocStore

variable {promise : Scope → World → Prop} {w w' : World} {c c' : Config World Scope}
  {es es' : List (Event Action)}

/-! ## Runs -/

/-- A write to the history is carried on only with what it has been promised. -/
def Promised (promise : Scope → World → Prop) (c : Config World Scope) : Event Action → Prop
  | .call _ _ => True
  | .resume i _ => ∀ th ∈ c.threads[i]?, promise th.scope c.world

instance [∀ l w, Decidable (promise l w)] (c : Config World Scope) :
    (e : Event Action) → Decidable (Promised promise c e)
  | .call _ _ => inferInstanceAs (Decidable True)
  | .resume i _ => inferInstanceAs (Decidable (∀ th ∈ c.threads[i]?, promise th.scope c.world))

/-- The events of a run in which writes are carried on as promised. -/
def Keeping (promise : Scope → World → Prop) (c : Config World Scope) (e : Event Action) : Prop :=
  calling.admits c e ∧ Promised promise c e

instance [∀ l w, Decidable (promise l w)] (c : Config World Scope) (e : Event Action) :
    Decidable (Keeping promise c e) :=
  inferInstanceAs (Decidable (_ ∧ _))

section Runs

variable (S : Strengthening (callProtocol promise))

theorem provides (c : Config World Scope) (e : Event Action)
    (hc : c.Kept ((callProtocol promise).strengthen S)) (he : Keeping promise c e) :
    calling.Provides ((callProtocol promise).strengthen S) c e := by
  cases e with
  | call a ticks =>
    exact Task.Safe.strengthen S hc.inv.1 hc.inv.2 (runs_action hc.inv.1 a).safe
  | resume i ticks => exact fun th hth => he.2 th hth

theorem kept_start {users : String → Option User} {session : ℕ → User}
    {agoraToken : ℕ → Option String} (h : S.inv (World.initial users session agoraToken)) :
    (start users session agoraToken).Kept ((callProtocol promise).strengthen S) :=
  ⟨⟨consistent_initial users session agoraToken, h⟩, fun _ hth => absurd hth List.not_mem_nil⟩

end Runs

/-! ## The fields of a history document -/

/-- The fields of the history document of a user for the calls of an instant. -/
def World.historyAt (w : World) (user : String) (timestamp : ℕ) : Data :=
  w.store.fieldsAt (.history user) (.named (toString timestamp))

/-- The two writes are to the same document. -/
def HistoryWrite.Same (x y : HistoryWrite) : Prop := x.user = y.user ∧ x.timestamp = y.timestamp

instance (x y : HistoryWrite) : Decidable (x.Same y) := inferInstanceAs (Decidable (_ ∧ _))

theorem docName_inj {m n : ℕ} : toString m = toString n ↔ m = n := Nat.repr_inj

/-- A write changes the document it is about and no other. -/
theorem historyAt_setMerge (w : World) (x : HistoryWrite) (pos : ℕ) (u : Data) (user : String)
    (timestamp : ℕ) :
    World.historyAt { w with
        store := w.store.setMerge (.history x.user) (toString x.timestamp) pos u } user timestamp =
      if user = x.user ∧ timestamp = x.timestamp then (w.historyAt user timestamp).merge u
      else w.historyAt user timestamp := by
  simp only [World.historyAt, Store.fieldsAt_setMerge, Path.history.injEq, DocId.named.injEq,
    docName_inj]
  split
  · next h => rw [h.1]
  · rfl

/-- What an action leaves of the documents: a write changes one, nothing else does. -/
theorem Effect.historyAt {l : Scope} (h : Effect promise l w w') :
    (∀ user timestamp, w'.historyAt user timestamp = w.historyAt user timestamp) ∨
    ∃ (x : HistoryWrite) (call : Call) (ids : Ids) (u : Data), promise (.history x) w ∧ x ∈ w.writes ∧
      HistoryFields call ids x.writer x.user u ∧
      ∀ user timestamp, w'.historyAt user timestamp =
        if user = x.user ∧ timestamp = x.timestamp then (w.historyAt user timestamp).merge u
        else w.historyAt user timestamp := by
  cases h with
  | other _ hh => exact Or.inl fun user timestamp => w.store.fieldsAt_congr (hh user) _
  | write x pos scope promised started known hids ht hf =>
    subst scope
    exact Or.inr ⟨x, _, _, _, promised, started, hf, historyAt_setMerge w x pos _⟩
  | blank user pos =>
    refine Or.inl fun user' timestamp => ?_
    simp [World.historyAt, Store.fieldsAt_add]

/-! ## Whom a document is about -/

/-- A call of one user to another. -/
def Call.OneToOne (p : Call) : Prop := p.receiver = none ∧ p.callerId ≠ p.receiverId

instance (p : Call) : Decidable p.OneToOne := inferInstanceAs (Decidable (_ ∧ _))

theorem Call.Is.oneToOne {call p : Call} (h : call.Is p) (hp : p.OneToOne) : call.OneToOne :=
  ⟨h.receiver hp.1, by rw [h.callerId, h.receiverId]; exact hp.2⟩

/-- The other party of a call. -/
def Call.otherParty (p : Call) (user : String) : Option String :=
  if p.callerId = some user then p.receiverId else p.callerId

/-- The fields that say what a history document is about are those of the call `p`, in
which the user took part. -/
structure FiledFrom (p : Call) (user : String) (d : Data) : Prop where
  timestamp : d .timestamp = some (.ofInt p.timestamp)
  isVideoCall : d .isVideoCall = some (.ofBool p.isVideoCall)
  receiverId : d .receiverId = some (.ofString p.receiverId)
  id : (p.callerId = some user ∧ d .id = some (.ofString p.receiverId)) ∨
    (p.receiverId = some user ∧ d .id = some (.ofString p.callerId))

section Filed

variable {call p : Call} {ids : Ids} {user : String} {d u : Data}

theorem FiledFrom.of_is (h : FiledFrom call user d) (hp : call.Is p) : FiledFrom p user d := by
  obtain ⟨h₁, h₂, h₃, h₄⟩ := h
  rw [hp.timestamp] at h₁
  rw [hp.isVideoCall] at h₂
  rw [hp.receiverId] at h₃
  rw [hp.callerId, hp.receiverId] at h₄
  exact ⟨h₁, h₂, h₃, h₄⟩

/-- A complete document replaces what was there. -/
theorem FiledFrom.over (h : FiledFrom p user u) (d : Data) : FiledFrom p user (d.merge u) where
  timestamp := Fields.merge_of_some h.timestamp
  isVideoCall := Fields.merge_of_some h.isVideoCall
  receiverId := Fields.merge_of_some h.receiverId
  id := h.id.imp (fun h => ⟨h.1, Fields.merge_of_some h.2⟩) fun h => ⟨h.1, Fields.merge_of_some h.2⟩

/-- The fields are partial: they do not say what a document is about. -/
structure Partial (u : Data) : Prop where
  timestamp : u .timestamp = none
  isVideoCall : u .isVideoCall = none
  receiverId : u .receiverId = none
  id : u .id = none
  type : u .type = none

/-- A partial write leaves a document about what it was about. -/
theorem FiledFrom.keep (h : FiledFrom p user d) (hu : Partial u) : FiledFrom p user (d.merge u) where
  timestamp := (Fields.merge_of_none hu.timestamp).trans h.timestamp
  isVideoCall := (Fields.merge_of_none hu.isVideoCall).trans h.isVideoCall
  receiverId := (Fields.merge_of_none hu.receiverId).trans h.receiverId
  id := by rw [Fields.merge_of_none hu.id]; exact h.id

theorem filedFrom_callerRecord {type status : String} {name : Option String} {ended : Value}
    (h : call.ids = some ids) :
    FiledFrom call ids.callerId (callerRecord call type status name ended) :=
  ⟨rfl, rfl, rfl, Or.inl ⟨(Call.of_ids h).1, rfl⟩⟩

theorem filedFrom_receiverRecord {type status : String} {name : Option String} {ended : Value}
    (h : call.ids = some ids) :
    FiledFrom call ids.receiverId (receiverRecord call ids.receiverId type status name ended) := by
  obtain ⟨-, hreceiver, -⟩ := Call.of_ids h
  refine ⟨rfl, rfl, ?_, Or.inr ⟨hreceiver, rfl⟩⟩
  rw [hreceiver]
  rfl

/-- A write is partial, or it is a complete document of the call. -/
theorem HistoryFields.filed {writer : Writer} (h : HistoryFields call ids writer user u)
    (hids : call.ids = some ids) (hone : call.OneToOne) : Partial u ∨ FiledFrom call user u := by
  cases h with
  | audioJoinCaller | videoJoinCaller | rejectCaller | audioEndCaller =>
    exact Or.inr (filedFrom_callerRecord hids)
  | audioJoinReceiver | rejectReceiver | audioEndReceiver =>
    exact Or.inr (filedFrom_receiverRecord hids)
  | videoJoinReceiver name user huser =>
    obtain rfl := huser hone.1
    exact Or.inr (filedFrom_receiverRecord hids)
  | callerPickedUp | receiverPickedUp | onUserOffline | onLeaveChannel | onToggleMute | ended =>
    exact Or.inl ⟨rfl, rfl, rfl, rfl, rfl⟩

end Filed

/-- Something that the complete documents of a call have, and that partial writes keep. -/
structure Records (promise : Scope → World → Prop) where
  holds : Call → String → Data → Prop
  of_is : ∀ {call p : Call} {user : String} {d : Data}, call.Is p → holds call user d → holds p user d
  written : ∀ {w : World} {x : HistoryWrite} {call : Call} {ids : Ids} {u : Data},
    promise (.history x) w → call.OneToOne → call.ids = some ids →
    HistoryFields call ids x.writer x.user u →
    (u .timestamp = none ∧
      ∀ (p : Call) (d : Data), holds p x.user d → holds p x.user (d.merge u)) ∨
    ∀ d : Data, holds call x.user (d.merge u)

/-- Every document with a timestamp has it, for a call that has been placed. -/
def Records.Hold (R : Records promise) (w : World) : Prop :=
  ∀ user, ∀ d ∈ w.store.docs (.history user), d.data .timestamp ≠ none →
    ∃ p ∈ w.placed, p.OneToOne → R.holds p user d.data

/-- One step keeps what is on record: a write that merges into a document with a timestamp keeps the
fields the record is about or sets them, and a document without one is not judged. -/
theorem Records.hold_step (R : Records promise) {l : Scope} (hR : R.Hold w)
    (h : Effect promise l w w') : R.Hold w' := by
  cases h with
  | other later hh =>
    intro user d hd ht
    obtain ⟨p, hp, hholds⟩ := hR user d (hh user ▸ hd) ht
    exact ⟨p, later.placed hp, hholds⟩
  | @write x call ids u pos scope promised _ known hids _ fields =>
    subst scope
    intro user d hd ht
    rcases Store.of_mem_setMerge hd with hd | ⟨hu, -, hdata⟩
    · exact hR user d hd ht
    · cases hu
      obtain ⟨p, hp, his⟩ := known
      by_cases hone : p.OneToOne
      · rw [hdata] at ht ⊢
        rcases R.written promised (his.oneToOne hone) hids fields with ⟨hnone, hkeep⟩ | hfull
        · -- the document had its timestamp before
          rw [Fields.merge_of_none hnone] at ht
          rcases w.store.fieldsAt_cases (.history x.user) (.named (toString x.timestamp)) with
            ⟨y, hy, -, hy'⟩ | ⟨-, hempty⟩
          · rw [hy'] at ht ⊢
            obtain ⟨p', hp', hholds⟩ := hR x.user y hy ht
            exact ⟨p', hp', fun h => hkeep p' y.data (hholds h)⟩
          · rw [hempty] at ht
            exact absurd rfl ht
        · exact ⟨p, hp, fun _ => R.of_is his (hfull _)⟩
      · exact ⟨p, hp, fun h => absurd h hone⟩
  | blank user pos =>
    intro user' d hd ht
    rcases Store.mem_add.mp hd with ⟨-, rfl⟩ | hd
    · exact absurd rfl ht
    · exact hR user' d hd ht

/-- What holds of the documents, added to the protocol. -/
def Records.strengthening (R : Records promise) : Strengthening (callProtocol promise) where
  rely _ _ := True
  inv := R.Hold
  step _ _ _ := True
  rely_refl _ := trivial
  rely_trans _ _ := trivial
  step_refl _ _ := trivial
  of_step _ hR h := ⟨trivial, R.hold_step hR h, trivial⟩

theorem Records.hold_run (R : Records promise) {users : String → Option User} {session : ℕ → User}
    {agoraToken : ℕ → Option String}
    (h : calling.Run (Keeping promise) (start users session agoraToken) es c) : R.Hold c.world :=
  (System.Run.safe (kept_start R.strengthening fun _ _ hd => absurd hd List.not_mem_nil)
    (provides R.strengthening) h).inv.2

/-- Nothing is promised. -/
def freely : Scope → World → Prop := fun _ _ => True

instance (l : Scope) (w : World) : Decidable (freely l w) := inferInstanceAs (Decidable True)

/-- A document with a timestamp is about one call. -/
def filing : Records freely where
  holds := FiledFrom
  of_is h hf := hf.of_is h
  written := by
    intro w x call ids u _ hone hids hf
    rcases hf.filed hids hone with hkept | hfull
    · exact Or.inl ⟨hkept.timestamp, fun _ _ h => h.keep hkept⟩
    · exact Or.inr hfull.over

/-- `CallList` shows the other party of the call a document is about. -/
theorem FiledFrom.shownUser {p : Call} {user : String} {d : Data} (h : FiledFrom p user d)
    (hone : p.OneToOne) :
    CallList.shownUser user d = some (Value.ofString (p.otherParty user)) ∧
      p.otherParty user ≠ some user := by
  obtain ⟨-, hne⟩ := hone
  rcases h.id with ⟨hcaller, hid⟩ | ⟨hreceiver, hid⟩
  · have hother : p.otherParty user = p.receiverId := if_pos hcaller
    have hpeer : p.receiverId ≠ some user := fun h => hne (hcaller.trans h.symm)
    refine ⟨?_, hother ▸ hpeer⟩
    rw [CallList.shownUser, hid, hother, if_neg]
    intro hself
    cases hr : p.receiverId with
    | none => rw [hr] at hself; cases hself
    | some r => rw [hr] at hself hpeer; cases hself; exact hpeer rfl
  · have hpeer : p.callerId ≠ some user := fun h => hne (h.trans hreceiver.symm)
    have hother : p.otherParty user = p.callerId := if_neg hpeer
    refine ⟨?_, hother ▸ hpeer⟩
    rw [CallList.shownUser, hid, hother, if_neg]
    intro hself
    cases hr : p.callerId with
    | none => rw [hr] at hself; cases hself
    | some r => rw [hr] at hself hpeer; cases hself; exact hpeer rfl

/-- **Peers**: in every run of calls of one user to another, a history document with a
timestamp is about one of the calls of its user, and `CallList` shows the other party. -/
theorem history_peer {users : String → Option User} {session : ℕ → User}
    {agoraToken : ℕ → Option String}
    (h : calling.Run (Keeping freely) (start users session agoraToken) es c)
    (hone : ∀ p ∈ c.world.placed, p.OneToOne) :
    ∀ user, ∀ d ∈ c.world.store.docs (.history user), d.data .timestamp ≠ none →
      ∃ p ∈ c.world.placed, FiledFrom p user d.data ∧
        CallList.shownUser user d.data = some (Value.ofString (p.otherParty user)) ∧
        p.otherParty user ≠ some user := by
  intro user d hd ht
  obtain ⟨p, hp, hfiled⟩ := filing.hold_run h user d hd ht
  exact ⟨p, hp, hfiled (hone p hp), (hfiled (hone p hp)).shownUser (hone p hp)⟩

/-- Carol calls Bob in the same millisecond as Alice, and joins after her. -/
def twoCallBob : List (Event Action) :=
  aliceCallsBob false 5000000 ++
    alone 5000000 (.audioAndVideoCallApi 2 (some (person "bob")) true) ++
    alone 5002000 (.onJoinChannelSuccess 1)

theorem history_peer_twoCallBob :
    ∃ d ∈ (calling.exec threeUsers twoCallBob).world.store.docs (.history "bob"),
      ∃ p ∈ (calling.exec threeUsers twoCallBob).world.placed, FiledFrom p "bob" d.data ∧
        CallList.shownUser "bob" d.data = some (Value.ofString (p.otherParty "bob")) ∧
        p.otherParty "bob" ≠ some "bob" := by
  have hrun : calling.Run (Keeping freely) threeUsers twoCallBob
      (calling.exec threeUsers twoCallBob) := System.run_exec (by decide +kernel)
  have hdoc : ∃ d ∈ (calling.exec threeUsers twoCallBob).world.store.docs (.history "bob"),
      d.data .timestamp ≠ none := by
    decide +kernel
  obtain ⟨d, hd, ht⟩ := hdoc
  exact ⟨d, hd, history_peer hrun (by decide +kernel) "bob" d hd ht⟩

/-! ## The direction of a call -/

/-- Neither a rejection nor the audio controller's `onJoinChannelSuccess` is written. -/
def directed : Scope → World → Prop
  | .history x, _ => x.writer ≠ .join false ∧ x.writer ≠ .reject
  | .idle, _ => True

instance : (l : Scope) → (w : World) → Decidable (directed l w)
  | .history x, _ => inferInstanceAs (Decidable (x.writer ≠ .join false ∧ x.writer ≠ .reject))
  | .idle, _ => inferInstanceAs (Decidable True)

/-- The document is shown as incoming just if its user is the receiver of the call. -/
def Directed (p : Call) (user : String) (d : Data) : Prop :=
  CallList.isIncoming d = true ↔ p.receiverId = some user

section Direction

variable {call p : Call} {ids : Ids} {user type : String} {d u : Data}

theorem isIncoming_merge (hu : u .type = some (.str type)) (d : Data) :
    CallList.isIncoming (d.merge u) = decide (type = "inComing") := by
  simp [CallList.isIncoming, Fields.merge_of_some hu]

theorem directed_caller (hone : call.OneToOne) (hids : call.ids = some ids)
    (hu : u .type = some (.str type)) (htype : type ≠ "inComing") (d : Data) :
    Directed call ids.callerId (d.merge u) := by
  have hne : call.receiverId ≠ some ids.callerId := by
    rw [← (Call.of_ids hids).1]
    exact hone.2.symm
  simp [Directed, isIncoming_merge hu, htype, hne]

theorem directed_receiver (hids : call.ids = some ids) (hu : u .type = some (.str "inComing"))
    (d : Data) : Directed call ids.receiverId (d.merge u) := by
  simp [Directed, isIncoming_merge hu, (Call.of_ids hids).2.1]

/-- A complete document has the right direction, unless it is one of the two that have not. -/
theorem HistoryFields.directed {writer : Writer} (h : HistoryFields call ids writer user u)
    (hw : writer ≠ .join false ∧ writer ≠ .reject) (hids : call.ids = some ids)
    (hone : call.OneToOne) : Partial u ∨ ∀ d : Data, Directed call user (d.merge u) := by
  cases h with
  | audioJoinCaller | audioJoinReceiver => exact absurd rfl hw.1
  | rejectCaller | rejectReceiver => exact absurd rfl hw.2
  | videoJoinCaller | audioEndCaller =>
    exact Or.inr (directed_caller hone hids rfl (by decide))
  | audioEndReceiver => exact Or.inr (directed_receiver hids rfl)
  | videoJoinReceiver name user huser =>
    obtain rfl := huser hone.1
    exact Or.inr (directed_receiver hids rfl)
  | callerPickedUp | receiverPickedUp | onUserOffline | onLeaveChannel | onToggleMute | ended =>
    exact Or.inl ⟨rfl, rfl, rfl, rfl, rfl⟩

theorem Directed.keep (h : Directed p user d) (hu : Partial u) : Directed p user (d.merge u) := by
  rwa [Directed, CallList.isIncoming, Fields.merge_of_none hu.type]

end Direction

/-- A document with a timestamp is about one call, and has its direction. -/
def direction : Records Calls.directed where
  holds p user d := FiledFrom p user d ∧ Directed p user d
  of_is := by
    rintro call p user d his ⟨hf, hd⟩
    exact ⟨hf.of_is his, by rw [Directed, ← his.receiverId]; exact hd⟩
  written := by
    intro w x call ids u hw hone hids hf
    rcases hf.filed hids hone with hkept | hfull
    · exact Or.inl ⟨hkept.timestamp, fun _ _ h => ⟨h.1.keep hkept, h.2.keep hkept⟩⟩
    · rcases hf.directed hw hids hone with hkept | hdirected
      · have htime := hfull.timestamp
        rw [hkept.timestamp] at htime
        cases htime
      · exact Or.inr fun d => ⟨hfull.over d, hdirected d⟩

/-- **Direction**: in every run of calls of one user to another in which neither a
rejection nor the audio controller's `onJoinChannelSuccess` is written, a history document
with a timestamp is shown as incoming just if its user was the receiver. -/
theorem history_direction {users : String → Option User} {session : ℕ → User}
    {agoraToken : ℕ → Option String}
    (h : calling.Run (Keeping directed) (start users session agoraToken) es c)
    (hone : ∀ p ∈ c.world.placed, p.OneToOne) :
    ∀ user, ∀ d ∈ c.world.store.docs (.history user), d.data .timestamp ≠ none →
      ∃ p ∈ c.world.placed, FiledFrom p user d.data ∧
        (CallList.isIncoming d.data = true ↔ p.receiverId = some user) := by
  intro user d hd ht
  obtain ⟨p, hp, hholds⟩ := direction.hold_run h user d hd ht
  exact ⟨p, hp, hholds (hone p hp)⟩

/-- Alice's video call, once her device has joined. -/
def videoCallToBob : List (Event Action) := aliceCallsBob true 5000000

theorem history_direction_videoCallToBob :
    ∃ d ∈ (calling.exec threeUsers videoCallToBob).world.store.docs (.history "bob"),
      ∃ p ∈ (calling.exec threeUsers videoCallToBob).world.placed, FiledFrom p "bob" d.data ∧
        (CallList.isIncoming d.data = true ↔ p.receiverId = some "bob") := by
  have hrun : calling.Run (Keeping directed) threeUsers videoCallToBob
      (calling.exec threeUsers videoCallToBob) := System.run_exec (by decide +kernel)
  have hdoc : ∃ d ∈ (calling.exec threeUsers videoCallToBob).world.store.docs (.history "bob"),
      d.data .timestamp ≠ none := by
    decide +kernel
  obtain ⟨d, hd, ht⟩ := hdoc
  exact ⟨d, hd, history_direction hrun (by decide +kernel) "bob" d hd ht⟩

/-- Bob rejects a call of Alice's: his document, the only one of the call on his side, is
not shown as incoming. -/
theorem direction_rejected :
    calling.Allowed calling.admits threeUsers (videoCallToBob ++ alone 6000000 (.reject 1)) ∧
    (∀ p ∈ (calling.exec threeUsers (videoCallToBob ++ alone 6000000 (.reject 1))).world.placed,
      p.OneToOne ∧ p.receiverId = some "bob") ∧
    ∃ d ∈ (calling.exec threeUsers (videoCallToBob ++ alone 6000000 (.reject 1))).world.store.docs
        (.history "bob"),
      d.data .timestamp = some (.int 5000) ∧ d.data .receiverId = some (.str "bob") ∧
        CallList.isIncoming d.data = false := by
  decide +kernel

/-! ## Marks that stay -/

/-- A mark on history documents that no write takes off: a write leaves it alone, or sets
it, or is promised that none that sets it has been started. -/
structure Mark (promise : Scope → World → Prop) where
  on : Data → Prop
  sets : Writer → Prop
  off : ¬ on .empty
  written : ∀ {w : World} {x : HistoryWrite} {call : Call} {ids : Ids} {u : Data},
    promise (.history x) w → HistoryFields call ids x.writer x.user u →
    (∀ d : Data, on (d.merge u) ↔ on d) ∨ (sets x.writer ∧ ∀ d : Data, on (d.merge u)) ∨
      (∀ y ∈ w.writes, sets y.writer → ¬ x.Same y) ∧ ∀ d : Data, ¬ on (d.merge u)

namespace Mark

variable (M : Mark promise)

/-- Where the mark is on, a write that sets it has been started. -/
def Justified (w : World) : Prop :=
  ∀ user timestamp, M.on (w.historyAt user timestamp) →
    ∃ y ∈ w.writes, M.sets y.writer ∧ y.user = user ∧ y.timestamp = timestamp

/-- Where the mark was on, it still is. -/
def Stays (w w' : World) : Prop :=
  ∀ user timestamp, M.on (w.historyAt user timestamp) → M.on (w'.historyAt user timestamp)

variable {M}

/-- One step keeps a mark that is on, and a mark that comes on is one that some write started before
sets itself. The cases are what the write does to the mark: keep it, set it or clear it. -/
theorem step {l : Scope} (hM : M.Justified w) (h : Effect promise l w w') :
    M.Stays w w' ∧ M.Justified w' := by
  have hlater := h.later.writes
  rcases h.historyAt with hsame | ⟨x, call, ids, u, promised, hx, hf, hu⟩
  · constructor
    · intro user timestamp hon
      rwa [hsame]
    · intro user timestamp hon
      rw [hsame] at hon
      obtain ⟨y, hy, hset⟩ := hM user timestamp hon
      exact ⟨y, hlater hy, hset⟩
  constructor
  · intro user timestamp hon
    rw [hu]
    split
    · next hxy =>
      rcases M.written promised hf with hkeep | ⟨-, hset⟩ | ⟨hnone, -⟩
      · exact (hkeep _).mpr hon
      · -- the write sets the mark itself
        exact hset _
      · -- no write that sets the mark has been started, so it cannot be on
        obtain ⟨y, hy, hset, huser, htime⟩ := hM user timestamp hon
        exact absurd ⟨hxy.1.symm.trans huser.symm, hxy.2.symm.trans htime.symm⟩ (hnone y hy hset)
    · exact hon
  · intro user timestamp hon
    rw [hu] at hon
    have hbefore : M.on (w.historyAt user timestamp) →
        ∃ y ∈ w'.writes, M.sets y.writer ∧ y.user = user ∧ y.timestamp = timestamp := by
      intro hon
      obtain ⟨y, hy, hset⟩ := hM user timestamp hon
      exact ⟨y, hlater hy, hset⟩
    split at hon
    · next hxy =>
      rcases M.written promised hf with hkeep | ⟨hset, -⟩ | ⟨-, hoff⟩
      · exact hbefore ((hkeep _).mp hon)
      · exact ⟨x, hlater hx, hset, hxy.1.symm, hxy.2.symm⟩
      · exact absurd hon (hoff _)
    · exact hbefore hon

variable (M) in
/-- The mark, added to the protocol. -/
def strengthening : Strengthening (callProtocol promise) where
  rely := M.Stays
  inv := M.Justified
  step _ _ _ := True
  rely_refl _ _ _ := id
  rely_trans h h' user timestamp hon := h' user timestamp (h user timestamp hon)
  step_refl _ _ := trivial
  of_step _ hM h := ⟨(step hM h).1, (step hM h).2, trivial⟩

/-- In every run a mark that is on stays on. -/
theorem stays_run {users : String → Option User} {session : ℕ → User}
    {agoraToken : ℕ → Option String}
    (h : calling.Run (Keeping promise) (start users session agoraToken) es c)
    (h' : calling.Run (Keeping promise) c es' c') : M.Stays c.world c'.world := by
  have hstart : M.Justified (World.initial users session agoraToken) := fun _ _ hon => absurd hon M.off
  have hkept := System.Run.safe (kept_start M.strengthening hstart) (provides M.strengthening) h
  exact (System.Run.later hkept (provides M.strengthening) h').2

end Mark

/-! ## Answered calls -/

/-- The writes that set `started` to null. -/
def Writer.Clears : Writer → Prop
  | .join _ | .reject => True
  | .onCallEnd isVideo => isVideo = false
  | .onUserJoined | .onUserOffline | .onLeaveChannel | .onToggleMute => False

instance : (x : Writer) → Decidable x.Clears
  | .join _ | .reject => inferInstanceAs (Decidable True)
  | .onCallEnd isVideo => inferInstanceAs (Decidable (isVideo = false))
  | .onUserJoined | .onUserOffline | .onLeaveChannel | .onToggleMute =>
    inferInstanceAs (Decidable False)

/-- Once the peer has joined, nothing that clears `started` is written. -/
def afterAnswer : Scope → World → Prop
  | .history x, w => x.writer.Clears → ∀ y ∈ w.writes, y.writer = .onUserJoined → ¬ x.Same y
  | .idle, _ => True

instance : (l : Scope) → (w : World) → Decidable (afterAnswer l w)
  | .history x, w => inferInstanceAs
      (Decidable (x.writer.Clears → ∀ y ∈ w.writes, y.writer = .onUserJoined → ¬ x.Same y))
  | .idle, _ => inferInstanceAs (Decidable True)

/-- The call has been answered, as its history document has it. -/
def Answered (d : Data) : Prop := isNull (d .started) = false

theorem answered_merge_iff {u : Data} (hu : u .started = none) (d : Data) :
    Answered (d.merge u) ↔ Answered d := by
  rw [Answered, Answered, Fields.merge_of_none hu]

theorem answered_merge {u : Data} {time : ℕ} (hu : u .started = some (.time time)) (d : Data) :
    Answered (d.merge u) := by
  simp [Answered, Fields.merge_of_some hu, isNull]

theorem not_answered_merge {u : Data} (hu : u .started = some .null) (d : Data) :
    ¬ Answered (d.merge u) := by
  simp [Answered, Fields.merge_of_some hu, isNull]

/-- That a call has been answered is never taken back. -/
def answering : Mark afterAnswer where
  on := Answered
  sets x := x = .onUserJoined
  off := by simp [Answered, isNull]
  written := by
    intro w x call ids u promised hf
    obtain ⟨writer, user, timestamp⟩ := x
    cases hf with
    | audioJoinCaller | audioJoinReceiver | videoJoinCaller | videoJoinReceiver | rejectCaller
    | rejectReceiver => exact Or.inr (Or.inr ⟨promised trivial, not_answered_merge rfl⟩)
    | audioEndCaller | audioEndReceiver =>
      exact Or.inr (Or.inr ⟨promised rfl, not_answered_merge rfl⟩)
    | callerPickedUp | receiverPickedUp => exact Or.inr (Or.inl ⟨rfl, answered_merge rfl⟩)
    | onUserOffline | onLeaveChannel | onToggleMute | ended => exact Or.inl (answered_merge_iff rfl)

/-- **Answered calls**: in every run in which, once `onUserJoined` has been written, no
`onJoinChannelSuccess`, no rejection and no `onCallEnd` of the audio controller is written to
the same document, a call that has been answered stays so, and is never shown as missed. -/
theorem answered_kept {users : String → Option User} {session : ℕ → User}
    {agoraToken : ℕ → Option String}
    (h : calling.Run (Keeping afterAnswer) (start users session agoraToken) es c)
    (h' : calling.Run (Keeping afterAnswer) c es' c') (user : String) (timestamp : ℕ)
    (ha : isNull (c.world.historyAt user timestamp .started) = false) :
    isNull (c'.world.historyAt user timestamp .started) = false ∧
      CallList.isMissed (c'.world.historyAt user timestamp) = false := by
  have hstays : isNull (c'.world.historyAt user timestamp .started) = false :=
    Mark.stays_run (M := answering) h h' user timestamp ha
  exact ⟨hstays, by rw [CallList.isMissed, hstays, Bool.and_false]⟩

/-- Alice calls Bob, he accepts, and his device has joined. -/
def bobAnswers (isVideoCall : Bool) : List (Event Action) :=
  aliceCallsBob isVideoCall 5000000 ++ alone 6000000 (.accept 1) ++
    alone 7000000 (.onUserJoined 0 42)

/-- Alice hangs up on a video call. -/
theorem answered_kept_hangUp :
    isNull ((calling.exec (calling.exec threeUsers (bobAnswers true))
      (alone 8000000 (.onCallEnd 0 (some "pickedUp")))).world.historyAt "bob" 5000 .started) = false ∧
    CallList.isMissed ((calling.exec (calling.exec threeUsers (bobAnswers true))
      (alone 8000000 (.onCallEnd 0 (some "pickedUp")))).world.historyAt "bob" 5000) = false :=
  answered_kept (System.run_exec (by decide +kernel)) (System.run_exec (by decide +kernel)) "bob" 5000
    (by decide +kernel)

/-- Alice hangs up on an audio call: Bob, who has answered it, sees it as missed. -/
theorem answered_shown_missed :
    calling.Allowed calling.admits threeUsers
      (bobAnswers false ++ alone 8000000 (.onCallEnd 0 (some "pickedUp"))) ∧
    isNull ((calling.exec threeUsers (bobAnswers false)).world.historyAt "bob" 5000 .started) = false ∧
    CallList.isMissed ((calling.exec (calling.exec threeUsers (bobAnswers false))
      (alone 8000000 (.onCallEnd 0 (some "pickedUp")))).world.historyAt "bob" 5000) = true := by
  decide +kernel

/-! ## The status of a call -/

/-- The writes of a call that begins or is answered. -/
def Writer.Opens : Writer → Prop
  | .join _ | .onUserJoined => True
  | .reject | .onUserOffline | .onLeaveChannel | .onToggleMute | .onCallEnd _ => False

/-- The writes of the status `ended`. -/
def Writer.Ends : Writer → Prop
  | .onUserOffline | .onLeaveChannel | .onCallEnd _ => True
  | .join _ | .onUserJoined | .reject | .onToggleMute => False

instance : (x : Writer) → Decidable x.Opens
  | .join _ | .onUserJoined => inferInstanceAs (Decidable True)
  | .reject | .onUserOffline | .onLeaveChannel | .onToggleMute | .onCallEnd _ =>
    inferInstanceAs (Decidable False)

instance : (x : Writer) → Decidable x.Ends
  | .onUserOffline | .onLeaveChannel | .onCallEnd _ => inferInstanceAs (Decidable True)
  | .join _ | .onUserJoined | .reject | .onToggleMute => inferInstanceAs (Decidable False)

/-- Nothing that begins a call is written once its end or its rejection is, and nothing that
ends it once its rejection is. -/
def afterEnd : Scope → World → Prop
  | .history x, w =>
    (x.writer.Opens → ∀ y ∈ w.writes, y.writer.Ends ∨ y.writer = .reject → ¬ x.Same y) ∧
    (x.writer.Ends → ∀ y ∈ w.writes, y.writer = .reject → ¬ x.Same y)
  | .idle, _ => True

instance : (l : Scope) → (w : World) → Decidable (afterEnd l w)
  | .history x, w => inferInstanceAs (Decidable
      ((x.writer.Opens → ∀ y ∈ w.writes, y.writer.Ends ∨ y.writer = .reject → ¬ x.Same y) ∧
      (x.writer.Ends → ∀ y ∈ w.writes, y.writer = .reject → ¬ x.Same y)))
  | .idle, _ => inferInstanceAs (Decidable True)

/-- The status of a history document is one of the given ones. -/
def StatusIn (statuses : List String) (d : Data) : Prop :=
  ∃ s ∈ statuses, d .status = some (.str s)

theorem statusIn_merge_iff {statuses : List String} {u : Data} (hu : u .status = none) (d : Data) :
    StatusIn statuses (d.merge u) ↔ StatusIn statuses d := by
  rw [StatusIn, StatusIn, Fields.merge_of_none hu]

theorem statusIn_merge {statuses : List String} {u : Data} {status : String}
    (hu : u .status = some (.str status)) (d : Data) :
    StatusIn statuses (d.merge u) ↔ status ∈ statuses := by
  simp [StatusIn, Fields.merge_of_some hu]

/-- That a call has come to its end is never taken back. -/
def finishing : Mark afterEnd where
  on := StatusIn ["ended", "rejected"]
  sets x := x.Ends ∨ x = .reject
  off := by simp [StatusIn]
  written := by
    intro w x call ids u promised hf
    obtain ⟨writer, user, timestamp⟩ := x
    cases hf with
    | audioJoinCaller | audioJoinReceiver | videoJoinCaller | videoJoinReceiver | callerPickedUp
    | receiverPickedUp =>
      refine Or.inr (Or.inr ⟨promised.1 trivial, fun d => ?_⟩)
      rw [statusIn_merge rfl]
      decide
    | rejectCaller | rejectReceiver =>
      refine Or.inr (Or.inl ⟨Or.inr rfl, fun d => ?_⟩)
      rw [statusIn_merge rfl]
      decide
    | audioEndCaller | audioEndReceiver | onUserOffline | onLeaveChannel | ended =>
      refine Or.inr (Or.inl ⟨Or.inl trivial, fun d => ?_⟩)
      rw [statusIn_merge rfl]
      decide
    | onToggleMute => exact Or.inl (statusIn_merge_iff rfl)

/-- That a call has been rejected is never taken back. -/
def rejecting : Mark afterEnd where
  on := StatusIn ["rejected"]
  sets x := x = .reject
  off := by simp [StatusIn]
  written := by
    intro w x call ids u promised hf
    obtain ⟨writer, user, timestamp⟩ := x
    cases hf with
    | audioJoinCaller | audioJoinReceiver | videoJoinCaller | videoJoinReceiver | callerPickedUp
    | receiverPickedUp =>
      refine Or.inr (Or.inr ⟨fun y hy hr => promised.1 trivial y hy (Or.inr hr), fun d => ?_⟩)
      rw [statusIn_merge rfl]
      decide
    | rejectCaller | rejectReceiver =>
      refine Or.inr (Or.inl ⟨rfl, fun d => ?_⟩)
      rw [statusIn_merge rfl]
      decide
    | audioEndCaller | audioEndReceiver | onUserOffline | onLeaveChannel | ended =>
      refine Or.inr (Or.inr ⟨promised.2 trivial, fun d => ?_⟩)
      rw [statusIn_merge rfl]
      decide
    | onToggleMute => exact Or.inl (statusIn_merge_iff rfl)

/-- **Status**: in every run in which nothing that begins a call is written once its end is
and nothing that ends it once its rejection is, a call that has ended or been rejected
stays so, and one that has been rejected stays rejected. -/
theorem status_kept {users : String → Option User} {session : ℕ → User}
    {agoraToken : ℕ → Option String}
    (h : calling.Run (Keeping afterEnd) (start users session agoraToken) es c)
    (h' : calling.Run (Keeping afterEnd) c es' c') (user : String) (timestamp : ℕ) :
    (StatusIn ["ended", "rejected"] (c.world.historyAt user timestamp) →
      StatusIn ["ended", "rejected"] (c'.world.historyAt user timestamp)) ∧
    (StatusIn ["rejected"] (c.world.historyAt user timestamp) →
      StatusIn ["rejected"] (c'.world.historyAt user timestamp)) :=
  ⟨Mark.stays_run (M := finishing) h h' user timestamp,
    Mark.stays_run (M := rejecting) h h' user timestamp⟩

/-- Alice calls Bob, and he rejects. -/
def bobRejects : List (Event Action) := aliceCallsBob false 5000000 ++ alone 6000000 (.reject 1)

/-- Alice mutes herself after Bob has rejected. -/
theorem status_kept_muted :
    (StatusIn ["ended", "rejected"] ((calling.exec threeUsers bobRejects).world.historyAt "bob" 5000) →
      StatusIn ["ended", "rejected"] ((calling.exec (calling.exec threeUsers bobRejects)
        (alone 7000000 (.onToggleMute 0))).world.historyAt "bob" 5000)) ∧
    (StatusIn ["rejected"] ((calling.exec threeUsers bobRejects).world.historyAt "bob" 5000) →
      StatusIn ["rejected"] ((calling.exec (calling.exec threeUsers bobRejects)
        (alone 7000000 (.onToggleMute 0))).world.historyAt "bob" 5000)) :=
  status_kept (System.run_exec (by decide +kernel)) (System.run_exec (by decide +kernel)) "bob" 5000

/-- Alice closes the screen of the call that Bob has rejected: it has ended now. -/
theorem status_rejected_then_ended :
    calling.Allowed calling.admits threeUsers
      (bobRejects ++ alone 7000000 (.onCallEnd 0 (some "rejected"))) ∧
    (calling.exec threeUsers bobRejects).world.historyAt "bob" 5000 .status = some (.str "rejected") ∧
    (calling.exec (calling.exec threeUsers bobRejects)
      (alone 7000000 (.onCallEnd 0 (some "rejected")))).world.historyAt "bob" 5000 .status =
        some (.str "ended") := by
  decide +kernel

end FlutterTheme.Calls
