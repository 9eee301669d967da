import FlutterTheme.CallSafe
import FlutterTheme.CallDeeds
import FlutterTheme.Completes

/-!
# The log of calls

The handlers of calls write into the history of the users, and the menu of the list of calls reads
the history of its user and deletes every document it has found, while calls go on.

* `Shows` — what `CallList` asks for: the documents with a `timestamp`.
* `calls_logged` — a call that its caller has joined is on the lists of all who take part.
* `History.Le` — a document comes onto a list only by a complete record; the writes of a
  call that goes on (its end, its answer, its muting) bring none back.
* `history_cleared` — at rest, the list of the user has only what has been recorded since, and
  the lists of the others have lost nothing.
-/

namespace FlutterTheme.Calls

open EventLoop DocStore

/-- `clearLogs` of `PopUpAction`, where `user` is `dashboardCtrl.user["id"]`; no deletion is
awaited. -/
def clearLogs (user : String) : Handler Unit := do
  let value ← Async.remote fun _ w => (w.store.docs (.history user), w)
  Async.forEach value fun element => delete (.history user) element.id

/-- What can happen where logs can be cleared, too. -/
inductive Deed : Type where
  | call (a : Action)
  | clearLogs (user : String)
  deriving DecidableEq, Repr

namespace Deed

/-- The handler of a deed. -/
def body : Deed → Handler Unit
  | call a => a.body
  | clearLogs user => Calls.clearLogs user

/-- Whether it can happen. -/
def enabled (w : World) : Deed → Prop
  | call a => a.enabled w
  | clearLogs _ => True

instance (w : World) : (a : Deed) → Decidable (a.enabled w)
  | call a => inferInstanceAs (Decidable (a.enabled w))
  | clearLogs _ => inferInstanceAs (Decidable True)

end Deed

/-- Calls, and logs that are cleared. -/
def callLogs : System World Scope Deed where
  scope _ _ := .idle
  body := Deed.body
  enabled := Deed.enabled

instance (c : Config World Scope) : (e : Event Deed) → Decidable (callLogs.admits c e)
  | .call a _ => inferInstanceAs (Decidable (a.enabled c.world))
  | .resume _ _ => inferInstanceAs (Decidable True)

/-- `CallList` shows the document: `orderBy("timestamp")` leaves out what has no such field. -/
def CallList.Shows (w : World) (user : String) (doc : Document) : Prop :=
  doc ∈ w.store.docs (.history user) ∧ doc.data .timestamp ≠ none

/-! ## What comes onto the list -/

/-- The handlers that write a complete document. -/
def Writer.isComplete : Writer → Bool
  | join _ | reject | onCallEnd false => true
  | onUserJoined | onUserOffline | onLeaveChannel | onToggleMute | onCallEnd true => false

/-- Other writes are without a timestamp. -/
theorem HistoryFields.isComplete {call : Call} {ids : Ids} {writer : Writer} {user : String}
    {u : Data} (h : HistoryFields call ids writer user u) (hu : u .timestamp ≠ none) :
    writer.isComplete = true := by
  cases h with
  | audioJoinCaller | audioJoinReceiver | videoJoinCaller | videoJoinReceiver => rfl
  | rejectCaller | rejectReceiver | audioEndCaller | audioEndReceiver => rfl
  | callerPickedUp | receiverPickedUp | onUserOffline | onLeaveChannel | onToggleMute | ended =>
    exact absurd rfl hu

/-- A complete record of the document has been started. -/
def Recorded (w : World) (user : String) (id : DocId) : Prop :=
  ∃ x ∈ w.writes, x.writer.isComplete = true ∧ x.user = user ∧ id = .named (toString x.timestamp)

variable {w w' w'' : World} {user : String} {doc : Document} {id : DocId}

theorem Recorded.mono (h : Recorded w user id) (hw : w.Extends w') : Recorded w' user id := by
  obtain ⟨x, hx, hrest⟩ := h
  exact ⟨x, hw.writes hx, hrest⟩

namespace History

/-- What is on a list was on it before, or has been recorded. -/
structure Le (w w' : World) : Prop where
  later : w.Extends w'
  shown : ∀ user doc, CallList.Shows w' user doc →
    Recorded w' user doc.id ∨ ∃ doc₀, CallList.Shows w user doc₀ ∧ doc₀.id = doc.id

theorem Le.of_subset (later : w.Extends w')
    (h : ∀ user, w'.store.docs (.history user) ⊆ w.store.docs (.history user)) : Le w w' :=
  ⟨later, fun user doc hdoc => Or.inr ⟨doc, ⟨h user hdoc.1, hdoc.2⟩, rfl⟩⟩

theorem Le.refl (w : World) : Le w w := .of_subset (.refl w) fun _ => List.Subset.refl _

theorem Le.trans (h : Le w w') (h' : Le w' w'') : Le w w'' := by
  refine ⟨h.later.trans h'.later, fun user doc hdoc => ?_⟩
  rcases h'.shown user doc hdoc with hrecorded | ⟨doc', hdoc', hid'⟩
  · exact Or.inl hrecorded
  · rcases h.shown user doc' hdoc' with hrecorded | ⟨doc₀, hdoc₀, hid⟩
    · exact Or.inl (hid' ▸ hrecorded.mono h'.later)
    · exact Or.inr ⟨doc₀, hdoc₀, hid.trans hid'⟩

/-- Nothing that is done to the history puts a document onto a list but a complete record. -/
theorem le_of_effect {promise : Scope → World → Prop} {l : Scope} (h : Effect promise l w w') :
    Le w w' := by
  cases h with
  | other later hh => exact .of_subset later fun user => by rw [hh user]; exact List.Subset.refl _
  | @write x call ids u pos scope promised started known hids htime fields =>
    refine ⟨⟨List.Subset.refl _, List.Subset.refl _, rfl⟩, fun user doc hdoc => ?_⟩
    obtain ⟨hmem, ht⟩ := hdoc
    rcases Store.of_mem_setMerge hmem with hmem | ⟨huser, hid, hdata⟩
    · exact Or.inr ⟨doc, ⟨hmem, ht⟩, rfl⟩
    · cases huser
      by_cases hu : u .timestamp = none
      · -- the document has had its timestamp before
        rw [hdata, Fields.merge_of_none hu] at ht
        rcases w.store.fieldsAt_cases (.history x.user) (.named (toString x.timestamp)) with
          ⟨doc₀, hdoc₀, hid₀, hfields⟩ | ⟨-, hfields⟩
        · rw [hfields] at ht
          exact Or.inr ⟨doc₀, ⟨hdoc₀, ht⟩, hid₀.trans hid.symm⟩
        · rw [hfields] at ht
          exact absurd rfl ht
      · exact Or.inl ⟨x, started, fields.isComplete hu, rfl, hid⟩
  | blank user' pos =>
    refine ⟨⟨List.Subset.refl _, List.Subset.refl _, rfl⟩, fun user doc hdoc => ?_⟩
    rcases Store.mem_add.mp hdoc.1 with ⟨-, rfl⟩ | hmem
    · exact absurd rfl hdoc.2
    · exact Or.inr ⟨doc, ⟨hmem, hdoc.2⟩, rfl⟩

end History

/-- Every call has been placed, and the lists grow by complete records only. -/
def recording : Evolving World where
  le := History.Le
  inv := Consistent
  le_refl := History.Le.refl
  le_trans := History.Le.trans
  step_refl _ := trivial

/-- What the handlers of calls do. -/
theorem safe_recording {a : Action} (hc : Consistent w) :
    a.body.task.Safe (recording.protocol Scope) .idle w := by
  have hlater : ∀ {w w' : World}, (recording.protocol Scope).rely w w' →
      (callProtocol fun _ _ => True).rely w w' := fun h => History.Le.later h
  refine Task.Safe.transfer hlater (fun h => h) (fun _ => trivial) (fun _ _ hc' heffect => ?_) hc
    (runs_action hc a).safe
  exact ⟨History.le_of_effect heffect, hc', trivial⟩

theorem permits_delete (hc : Consistent w) :
    recording.Permits w { w with store := w.store.delete (.history user) id } where
  le := .of_subset ⟨List.Subset.refl _, List.Subset.refl _, rfl⟩ fun _ _ hdoc =>
    (Store.mem_delete.mp hdoc).1
  inv := hc.of_history fun _ => Store.docs_delete_of_ne (by simp)
  step := trivial

/-! ## Clearing -/

/-- A document is not on the list any more, unless it has been recorded. -/
def gone (user : String) (id : DocId) : Goal (recording.protocol Scope) :=
  recording.goal Scope
    (fun w => ∀ doc, CallList.Shows w user doc → doc.id = id → Recorded w user id) <| by
      rintro w w' hw h doc hdoc rfl
      rcases hw.shown user doc hdoc with hrecorded | ⟨doc₀, hdoc₀, hid⟩
      · exact hrecorded
      · exact (h doc₀ hdoc₀ hid).mono hw.later

theorem completes_delete :
    Completes recording (delete (.history user) id) w fun _ w' => (gone user id).reached w' := by
  refine completes_remote fun w' _ hc' t => ⟨permits_delete hc', fun w'' hw'' _ => ?_⟩
  refine (gone user id).stable hw'' fun doc hdoc hid => ?_
  exact absurd ⟨rfl, hid⟩ (Store.mem_delete.mp hdoc.1).2

theorem runs_clearLogs : EventLoop.Runs recording (clearLogs user) w := by
  refine EventLoop.keeps_bind (Q := fun _ _ => True) ?_ fun value w' _ hc' _ => ?_
  · exact EventLoop.keeps_remote fun w' _ hc' _ => ⟨.refl hc', fun _ _ _ => trivial⟩
  · exact EventLoop.runs_forEach hc' fun _ _ _ _ _ => completes_delete.runs

/-- What has been found is deleted, and what has not been found is not on the list. -/
theorem brings_clearLogs : Brings (gone user id) (clearLogs user) w := by
  refine brings_bind (Q := fun value w' => (∃ doc ∈ value, doc.id = id) ∨ (gone user id).reached w')
    (fun _ => trivial) ?_ fun value w' _ hc' hvalue => ?_
  · refine completes_remote fun w' _ hc' t => ⟨.refl hc', fun w'' hw'' _ => ?_⟩
    by_cases hfound : ∃ doc ∈ w'.store.docs (.history user), doc.id = id
    · exact Or.inl hfound
    · refine Or.inr ((gone user id).stable hw'' fun doc hdoc hid => ?_)
      exact absurd ⟨doc, hdoc.1, hid⟩ hfound
  · rcases hvalue with ⟨doc, hdoc, rfl⟩ | hgone
    · have heach : Brings (gone user doc.id)
          (Async.forEach value (fun element => delete (.history user) element.id) >>= pure) w' :=
        brings_forEach hdoc hc' fun _ _ _ =>
          brings_of_completes (fun _ => trivial) completes_delete fun _ h => h
      exact heach
    · refine brings_of_reached (fun _ => trivial) ?_ hgone
      exact EventLoop.runs_forEach hc' fun _ _ _ _ _ => completes_delete.runs

/-- Every handler keeps to what can be recorded. -/
theorem provides_recording {c : Config World Scope} {e : Event Deed}
    (hc : c.Kept (recording.protocol Scope)) :
    callLogs.Provides (recording.protocol Scope) c e := by
  cases e with
  | resume i ticks => exact fun _ _ => trivial
  | call a ticks =>
    cases a with
    | call a => exact safe_recording hc.inv
    | clearLogs user => exact runs_clearLogs.safe _

/-! ## What stays on a list -/

/-- What is on the list of the user stays there. -/
def staying (user : String) : Evolving World where
  le w w' := ∀ doc, CallList.Shows w user doc →
    ∃ doc', CallList.Shows w' user doc' ∧ doc'.id = doc.id
  inv _ := True
  le_refl _ doc hdoc := ⟨doc, hdoc, rfl⟩
  le_trans h h' doc hdoc := by
    obtain ⟨doc', hdoc', hid⟩ := h doc hdoc
    obtain ⟨doc'', hdoc'', hid'⟩ := h' doc' hdoc'
    exact ⟨doc'', hdoc'', hid'.trans hid⟩
  step_refl _ := trivial

/-- The actions that take nothing off the list. -/
def leaving (user : String) : Deeds World where
  rel _ := (staying user).le
  refl _ := (staying user).le_refl

theorem le_of_docs (h : w.store.docs (.history user) ⊆ w'.store.docs (.history user)) :
    (staying user).le w w' :=
  fun doc hdoc => ⟨doc, ⟨h hdoc.1, hdoc.2⟩, rfl⟩

/-- Fields that are written into a history document. -/
theorem files_leaving {user' : String} {u : Data} : Files (leaving user) user' u := by
  rintro timestamp t w doc ⟨hmem, ht⟩
  obtain ⟨doc', hmem', hid, hdata⟩ :=
    w.store.exists_mem_setMerge (.history user') (toString timestamp) t.pos u hmem
  refine ⟨doc', ⟨hmem', ?_⟩, hid⟩
  rcases hdata with hdata | hdata
  · rwa [hdata]
  · rw [hdata]
    cases hu : u .timestamp with
    | none => rwa [Fields.merge_of_none hu]
    | some value =>
      rw [Fields.merge_of_some hu]
      exact Option.some_ne_none _

instance : Allows (leaving user) where
  other hstore _ := le_of_docs (by rw [hstore]; exact List.Subset.refl _)
  files _ := files_leaving
  blank := le_of_docs fun _ hdoc => Store.mem_add.mpr (Or.inr hdoc)

instance : AllowsAnswers (leaving user) where
  files := files_leaving
  count := le_of_docs (by rw [Store.docs_setMerge_of_ne (by simp)]; exact List.Subset.refl _)

/-- The pending calls are in other documents. -/
theorem writes_leaving (op : CallingWrite) : Writes (leaving user) op := by
  intro t w
  refine le_of_docs ?_
  cases op with
  | add => rw [CallingWrite.apply, Store.docs_add_of_ne (by simp)]; exact List.Subset.refl _
  | delete => rw [CallingWrite.apply, Store.docs_delete_of_ne (by simp)]; exact List.Subset.refl _
  | ended => rw [CallingWrite.apply, Store.docs_setMerge_of_ne (by simp)]; exact List.Subset.refl _

/-- The event clears the log of the user. -/
def clearsLog (user : String) : Event Deed → Prop
  | .call (.clearLogs user') _ => user' = user
  | .call (.call _) _ | .resume _ _ => False

instance : (e : Event Deed) → Decidable (clearsLog user e)
  | .call (.clearLogs _) _ => inferInstanceAs (Decidable (_ = _))
  | .call (.call _) _ | .resume _ _ => inferInstanceAs (Decidable False)

/-- Only the log of a user whose menu is used loses anything: all other actions add documents to it
or write to those there are. -/
theorem all_leaving {a : Deed} {ticks : ℕ → Tick} (h : ¬ clearsLog user (.call a ticks)) :
    a.body.All (leaving user) := by
  cases a with
  | call a =>
    refine all_action (fun _ _ _ _ _ _ _ _ => writes_leaving _) (fun _ _ => writes_leaving _)
      (fun _ _ _ _ => writes_leaving _) (fun _ ha => ?_) fun k uid ha => ?_
    · subst ha
      exact Async.all_modify fun _ _ => le_of_docs (List.Subset.refl _)
    · subst ha
      exact all_onCtrl all_audioUserJoined all_videoUserJoined
  | clearLogs user' =>
    have hne : Path.history user ≠ .history user' := fun heq => h (Path.history.inj heq).symm
    refine Async.all_bind (Async.all_remote fun _ => (staying user).le_refl) fun value => ?_
    refine Async.all_forEach fun element _ => Async.all_remote fun _ w => le_of_docs ?_
    rw [Store.docs_delete_of_ne hne]
    exact List.Subset.refl _

theorem provides_staying {c : Config World Scope} {e : Event Deed} (h : ¬ clearsLog user e) :
    callLogs.Provides ((staying user).protocol Scope) c e := by
  cases e with
  | resume i ticks => exact fun _ _ => trivial
  | call a ticks =>
    exact Task.All.safe (fun _ _ _ _ hle => ⟨hle, trivial, trivial⟩) (all_leaving h).task trivial

theorem kept_staying {c : Config World Scope} (h : c.Settled) :
    c.Kept ((staying user).protocol Scope) :=
  ⟨trivial, fun _ hth => absurd (h ▸ hth) List.not_mem_nil⟩

/-! ## Runs -/

variable {users : String → Option User} {session : ℕ → User} {agoraToken : ℕ → Option String}
  {c₀ c : Config World Scope} {es₀ es : List (Event Deed)} {ticks : ℕ → Tick}

theorem kept_recording (h : callLogs.Run callLogs.admits (start users session agoraToken) es c) :
    c.Kept (recording.protocol Scope) := by
  refine System.Run.safe ⟨?_, fun _ hth => absurd hth List.not_mem_nil⟩
    (fun _ _ hc _ => provides_recording hc) h
  exact consistent_initial users session agoraToken

/-- From here on, the history variable `writes` tells what has been started since. -/
def recount (c : Config World Scope) : Config World Scope :=
  { c with world := { c.world with writes := [] } }

theorem kept_recount (h : c.Kept (recording.protocol Scope)) (hrest : c.Settled) :
    (recount c).Kept (recording.protocol Scope) := by
  refine ⟨⟨h.inv.placed, h.inv.ctrl, h.inv.calling, h.inv.joined⟩, fun th hth => ?_⟩
  have hmem : th ∈ c.threads := hth
  rw [hrest] at hmem
  exact absurd hmem List.not_mem_nil

/-- What has been cleared is gone, or will be when the deletions are over. -/
theorem pending_gone (hc : c.Kept (recording.protocol Scope))
    (hticks : ∀ n, (ticks n).fails = false) (id : DocId)
    (h : callLogs.Run (fun c e => callLogs.admits c e ∧ e.Succeeds)
      (callLogs.apply c (.call (.clearLogs user) ticks)) es c₀) :
    EventLoop.Pending (gone user id) c₀.world c₀.threads := by
  have hworld : (gone user id).OfWorld := fun _ _ _ h => h
  refine System.Run.pending hworld (System.apply_kept hc (provides_recording hc)) ?_
    (fun c e hc he => ⟨provides_recording hc, System.succeeds_of_event he.2⟩) h
  have hbrings : Brings (gone user id) (clearLogs user) c.world := brings_clearLogs
  have hrun := Task.Ends.run hticks (n := 0) hc.inv (runs_clearLogs.safe _) (hbrings Scope.idle)
  exact (hrun.resolve_left hworld.not_taken).mono (recording.le_refl _)
    fun th hth => List.mem_append_right _ hth

/-! ## What is recorded -/

section Joining

variable {k timestamp : ℕ} {writer : Writer} {u : Data} {l : Scope}

/-- The users for whom `onJoinChannelSuccess` writes a document. -/
def CallController.parties (s : CallController) (call : Call) (ids : Ids) : List String :=
  ids.callerId :: if s.isVideo then call.others ids s.userData else [ids.receiverId]

/-- The caller has joined a call of the instant in which the user takes part. -/
def Joins (w : World) (k : ℕ) (user : String) (timestamp : ℕ) : Prop :=
  ∃ call ∈ (w.ctrl.get k).call, ∃ ids ∈ call.ids,
    ids.callerId = (w.ctrl.get k).userData.id ∧ ids.timestamp = timestamp ∧
      user ∈ (w.ctrl.get k).parties call ids

instance (w : World) (k : ℕ) (user : String) (timestamp : ℕ) :
    Decidable (Joins w k user timestamp) :=
  inferInstanceAs (Decidable (∃ call ∈ (w.ctrl.get k).call, ∃ ids ∈ call.ids, _))

/-- The call of the instant is on the list of the user. -/
def listed (user : String) (timestamp : ℕ) : Goal ((staying user).protocol Scope) :=
  (staying user).goal Scope
    (fun w => ∃ doc, CallList.Shows w user doc ∧ doc.id = .named (toString timestamp)) <| by
      rintro w w' hw ⟨doc, hdoc, hid⟩
      obtain ⟨doc', hdoc', hid'⟩ := hw doc hdoc
      exact ⟨doc', hdoc', hid'.trans hid⟩

/-- A document with a timestamp is shown once it has been written. -/
theorem listed_setMerge (hu : u .timestamp ≠ none) (pos : ℕ) :
    (listed user timestamp).reached
      { w with store := w.store.setMerge (.history user) (toString timestamp) pos u } := by
  obtain ⟨doc, hdoc, hid⟩ :=
    w.store.exists_named_setMerge (.history user) (toString timestamp) pos u
  refine ⟨doc, ⟨hdoc, ?_⟩, hid⟩
  obtain ⟨value, hvalue⟩ := Option.ne_none_iff_exists'.mp hu
  have hfields := Store.fieldsAt_of_mem _ hdoc
  rw [hid, Store.fieldsAt_setMerge, if_pos ⟨rfl, rfl⟩] at hfields
  rw [← hfields, Fields.merge_of_some hvalue]
  exact Option.some_ne_none value

section Writing

variable {Q : Scope → Unit → World → Prop}

/-- A write that nobody awaits puts the call onto the list. -/
theorem reaches_listed (hu : u .timestamp ≠ none) :
    (writeHistory writer user timestamp u).Reaches (listed user timestamp) l w Q := by
  refine Async.reaches_bind (Async.reaches_sync fun _ k _ => ?_)
  refine Or.inl ⟨trivial, fun w' _ _ _ t ht => Or.inr ?_⟩
  change (listed user timestamp).reached (if t.fails = true then w' else _)
  rw [if_neg (ht ▸ Bool.false_ne_true)]
  exact listed_setMerge hu t.pos

/-- The caller goes on without the write. -/
theorem reaches_writeHistory {user' : String} {timestamp' : ℕ} :
    (writeHistory writer user' timestamp' u).Reaches (listed user timestamp) l w
      fun _ _ _ => True :=
  Async.reaches_bind (Async.reaches_sync fun _ => Async.reaches_spawn fun _ _ _ => trivial)

/-- One of the writes to the documents of several users. -/
theorem reaches_writeEach {u : String → Data} (hu : ∀ user, u user .timestamp ≠ none) :
    ∀ {users : List String} {l : Scope} {w : World}, user ∈ users →
      (writeEach writer timestamp users u).Reaches (listed user timestamp) l w Q
  | [], _, _, huser => absurd huser List.not_mem_nil
  | _ :: _, _, _, huser => by
    rcases List.mem_cons.mp huser with rfl | huser
    · exact Async.reaches_bind (reaches_listed (hu _))
    · exact Async.reaches_bind (reaches_writeHistory.mono fun _ _ _ _ => reaches_writeEach hu huser)

end Writing

/-- The fields of the controller are changed and read again. -/
theorem reaches_modifyCtrl {f : CallController → CallController}
    {m : CallController → Handler Unit} {Q : Scope → Unit → World → Prop}
    (h : ∀ s w', s = f (w.ctrl.get k) → (m s).Reaches (listed user timestamp) l w' Q) :
    (do modifyCtrl k f; let s ← callCtrl k; m s : Handler Unit).Reaches (listed user timestamp)
      l w Q := by
  refine Async.reaches_bind (Async.reaches_sync fun _ => ?_)
  exact Async.reaches_bind (Async.reaches_sync fun _ => h _ _ (by simp [Heap.get_modify]))

/-- The complete documents have a timestamp. -/
theorem callerRecord_timestamp {call : Call} {type status : String} {name : Option String}
    {ended : Value} : callerRecord call type status name ended .timestamp ≠ none :=
  Option.some_ne_none _

theorem receiverRecord_timestamp {call : Call} {receiverId type status : String}
    {name : Option String} {ended : Value} :
    receiverRecord call receiverId type status name ended .timestamp ≠ none :=
  Option.some_ne_none _

/-- The callback puts the call onto the lists of all who take part. -/
theorem ends_join (h : Joins w k user timestamp) :
    (Action.onJoinChannelSuccess k).body.task.Ends (listed user timestamp) l w := by
  obtain ⟨call, hcall, ids, hids, hcaller, rfl, huser⟩ := h
  have hcurrent : ∀ s : CallController, s.call = (w.ctrl.get k).call →
      currentCall s = pure (call, ids) := by
    intro s hs
    simp only [currentCall, hs, Option.mem_def.mp hcall, Option.mem_def.mp hids]
  refine Async.Reaches.ends (Async.reaches_bind (Async.reaches_sync fun _ => ?_))
  simp only [CallController.parties, List.mem_cons] at huser
  split
  · next hvideo =>
    rw [if_pos hvideo] at huser
    refine reaches_modifyCtrl fun s w₁ hs => ?_
    obtain ⟨hscall, hsuser⟩ : s.call = (w.ctrl.get k).call ∧ s.userData = (w.ctrl.get k).userData :=
      hs ▸ ⟨rfl, rfl⟩
    rw [← hsuser] at hcaller huser
    rw [hcurrent s hscall]
    refine Async.reaches_bind (Async.reaches_pure ?_)
    refine Async.reaches_bind (Async.reaches_sync fun _ => ?_)
    rw [if_pos hcaller]
    rcases huser with rfl | huser
    · exact Async.reaches_bind (reaches_listed callerRecord_timestamp)
    · -- the documents of the others come after that of the caller
      refine Async.reaches_bind (reaches_writeHistory.mono fun _ _ _ _ => ?_)
      exact reaches_writeEach (fun _ => receiverRecord_timestamp) huser
  · next hvideo =>
    rw [if_neg hvideo, List.mem_singleton] at huser
    refine reaches_modifyCtrl fun s w₁ hs => ?_
    obtain ⟨hscall, hsuser⟩ : s.call = (w.ctrl.get k).call ∧ s.userData = (w.ctrl.get k).userData :=
      hs ▸ ⟨rfl, rfl⟩
    rw [← hsuser] at hcaller
    rw [hcurrent s hscall]
    refine Async.reaches_bind (Async.reaches_pure ?_)
    simp only [if_pos hcaller]
    rcases huser with rfl | rfl
    · exact Async.reaches_bind (reaches_listed callerRecord_timestamp)
    · refine Async.reaches_bind (reaches_writeHistory.mono fun _ _ _ _ => ?_)
      exact reaches_listed receiverRecord_timestamp

/-- **Every call that is joined is logged.** From any state at rest, and however calls are placed,
answered and ended meanwhile: when the caller has joined a call, it is on the lists of all who take
part once everything is over, but of those who clear theirs. -/
theorem calls_logged {c₁ : Config World Scope} {es₁ : List (Event Deed)} (hrest₀ : c₀.Settled)
    (h₁ : callLogs.Run (fun c e => callLogs.admits c e ∧ ¬ clearsLog user e) c₀ es₁ c₁)
    (hjoins : Joins c₁.world k user timestamp) (hticks : ∀ n, (ticks n).fails = false)
    (h : callLogs.Run (fun c e => callLogs.admits c e ∧ e.Succeeds ∧ ¬ clearsLog user e)
      (callLogs.apply c₁ (.call (.call (.onJoinChannelSuccess k)) ticks)) es c)
    (hrest : c.Settled) :
    ∃ doc, CallList.Shows c.world user doc ∧ doc.id = .named (toString timestamp) := by
  have hc₁ : c₁.Kept ((staying user).protocol Scope) :=
    System.Run.safe (kept_staying hrest₀) (fun _ _ _ he => provides_staying he.2) h₁
  have hjoin : callLogs.Provides ((staying user).protocol Scope) c₁
      (.call (.call (.onJoinChannelSuccess k)) ticks) := provides_staying id
  have hworld : (listed user timestamp).OfWorld := fun _ _ _ h => h
  refine hrest.reached (g := listed user timestamp)
    (System.Run.pending hworld (System.apply_kept hc₁ hjoin) ?_ (fun c e _ he => ?_) h)
  · have hrun := Task.Ends.run hticks (n := 0) hc₁.inv hjoin (ends_join hjoins)
    exact (hrun.resolve_left hworld.not_taken).mono ((staying user).le_refl _)
      fun th hth => List.mem_append_right _ hth
  · exact ⟨provides_staying he.2.2, System.succeeds_of_event he.2.1⟩

/-- The events of a run without the menu. -/
def placed : List (Event Action) → List (Event Deed) :=
  List.map fun
    | .call a ticks => .call (.call a) ticks
    | .resume i ticks => .resume i ticks

/-- Alice has called Bob. -/
def aliceCalls : List (Event Deed) :=
  placed (alone 5000000 (.audioAndVideoCallApi 0 (some (person "bob")) false))

/-- Alice joins, and clears her log before anything is written. -/
def joinsAndClears : List (Event Deed) :=
  .call (.clearLogs "alice") (fun n => ⟨5002000 + n, 0, false⟩) ::
    List.replicate 40 (.resume 0 fun n => ⟨5003000 + n, 0, false⟩)

/-- The call is on Bob's list. -/
theorem calls_logged_joinsAndClears :
    ∃ doc, CallList.Shows (callLogs.exec (callLogs.apply (callLogs.exec threeUsers aliceCalls)
      (.call (.call (.onJoinChannelSuccess 0)) fun n => ⟨5001000 + n, 0, false⟩))
        joinsAndClears).world "bob" doc ∧ doc.id = .named "5000" := by
  have hstart : callLogs.Run (fun c e => callLogs.admits c e ∧ ¬ clearsLog "bob" e) threeUsers
      aliceCalls (callLogs.exec threeUsers aliceCalls) := System.run_exec (by decide +kernel)
  have hjoins : Joins (callLogs.exec threeUsers aliceCalls).world 0 "bob" 5000 := by decide +kernel
  have hallowed : callLogs.Allowed (fun c e => callLogs.admits c e ∧ ¬ clearsLog "bob" e)
      (callLogs.apply (callLogs.exec threeUsers aliceCalls)
        (.call (.call (.onJoinChannelSuccess 0)) fun n => ⟨5001000 + n, 0, false⟩))
      joinsAndClears := by decide +kernel
  have hrest : threeUsers.Settled := rfl
  refine calls_logged hrest hstart hjoins (fun _ => rfl) (System.run_exec ?_) (by decide +kernel)
  refine hallowed.imp (q := Event.Succeeds) (fun _ _ he hsucc => ⟨he.1, hsucc, he.2⟩) ?_
  simp only [joinsAndClears, List.forall_mem_cons]
  exact ⟨fun _ => rfl, Event.succeeds_replicate fun _ => rfl⟩

end Joining

/-- **Clearing the log.** From any state at rest, and however calls are placed, answered and ended
meanwhile: once everything is over, the list of the user has only documents of which a complete
record has been started since the menu was used, and the list of everybody else who has not used it
has all that it had. -/
theorem history_cleared
    (h₀ : callLogs.Run callLogs.admits (start users session agoraToken) es₀ c₀)
    (hrest₀ : c₀.Settled) (hticks : ∀ n, (ticks n).fails = false)
    (h : callLogs.Run (fun c e => callLogs.admits c e ∧ e.Succeeds)
      (callLogs.apply (recount c₀) (.call (.clearLogs user) ticks)) es c) (hrest : c.Settled) :
    (∀ doc, CallList.Shows c.world user doc → Recorded c.world user doc.id) ∧
    ∀ user' ≠ user, (∀ e ∈ es, ¬ clearsLog user' e) → ∀ doc, CallList.Shows c₀.world user' doc →
      ∃ doc', CallList.Shows c.world user' doc' ∧ doc'.id = doc.id := by
  have hc := kept_recount (kept_recording h₀) hrest₀
  refine ⟨fun doc hdoc => ?_, fun user' hne hes => ?_⟩
  · exact hrest.reached (pending_gone hc hticks doc.id h) doc hdoc rfl
  · have hclear : ¬ clearsLog user' (.call (.clearLogs user) ticks) := fun heq => hne heq.symm
    have hrun : callLogs.Run (fun _ e => ¬ clearsLog user' e) (recount c₀)
        (.call (.clearLogs user) ticks :: es) c := by
      rw [h.exec_eq]
      exact System.run_exec ⟨hclear, h.allowed.imp (fun _ _ _ he => he) hes⟩
    have hstays : (staying user').le (recount c₀).world c.world :=
      System.Run.later (kept_staying (c := recount c₀) hrest₀)
        (fun _ _ _ he => provides_staying he) hrun
    exact hstays

/-- Alice has called Bob, which is on both lists. -/
def aliceInCall : Config World Scope :=
  callLogs.exec threeUsers (placed (aliceCallsBob false 5000000))

/-- Alice clears her log while she is in the call. -/
def aliceCleared : Config World Scope :=
  callLogs.apply (recount aliceInCall) (.call (.clearLogs "alice") fun n => ⟨5090000 + n, 0, false⟩)

/-- She hangs up before anything is deleted. -/
def hangsUp : List (Event Deed) :=
  .call (.call (.onCallEnd 0 none)) (fun n => ⟨5100000 + n, 0, false⟩) ::
    List.replicate 40 (.resume 0 fun n => ⟨5200000 + n, 0, false⟩)

/-- The end of the call brings it back onto her list. -/
theorem history_cleared_hangsUp :
    (∃ doc, CallList.Shows (callLogs.exec aliceCleared hangsUp).world "alice" doc ∧
      Recorded (callLogs.exec aliceCleared hangsUp).world "alice" doc.id) ∧
    ∃ doc, CallList.Shows (callLogs.exec aliceCleared hangsUp).world "bob" doc ∧
      doc.id = .named "5000" := by
  have hstart : callLogs.Run callLogs.admits threeUsers (placed (aliceCallsBob false 5000000))
      aliceInCall := System.run_exec (by decide +kernel)
  have hallowed : callLogs.Allowed callLogs.admits aliceCleared hangsUp := by decide +kernel
  have hrun : callLogs.Run (fun c e => callLogs.admits c e ∧ e.Succeeds) aliceCleared hangsUp
      (callLogs.exec aliceCleared hangsUp) := by
    refine System.run_exec (hallowed.imp (q := Event.Succeeds) (fun _ _ he hsucc => ⟨he, hsucc⟩) ?_)
    simp only [hangsUp, List.forall_mem_cons]
    exact ⟨fun _ => rfl, Event.succeeds_replicate fun _ => rfl⟩
  obtain ⟨hown, hothers⟩ := history_cleared hstart (by decide +kernel) (fun _ => rfl) hrun
    (by decide +kernel)
  have hback : ∃ doc ∈ (callLogs.exec aliceCleared hangsUp).world.store.docs (.history "alice"),
      doc.data .timestamp ≠ none := by decide +kernel
  have hbob : ∃ doc ∈ aliceInCall.world.store.docs (.history "bob"),
      doc.data .timestamp ≠ none ∧ doc.id = .named "5000" := by decide +kernel
  obtain ⟨doc, hdoc, ht⟩ := hback
  obtain ⟨doc₀, hdoc₀, ht₀, hid₀⟩ := hbob
  have hquiet : ∀ e ∈ hangsUp, ¬ clearsLog "bob" e := by
    intro e he
    rcases List.mem_cons.mp he with rfl | he
    · exact id
    · rw [List.eq_of_mem_replicate he]
      exact id
  obtain ⟨doc', hdoc', hid⟩ := hothers "bob" (by decide) hquiet doc₀ ⟨hdoc₀, ht₀⟩
  exact ⟨⟨doc, ⟨hdoc, ht⟩, hown doc ⟨hdoc, ht⟩⟩, doc', hdoc', hid.trans hid₀⟩

end FlutterTheme.Calls
