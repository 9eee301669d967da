import FlutterTheme.Evolving
import FlutterTheme.CallSafe
import FlutterTheme.CallDeeds
import FlutterTheme.GroupCall

/-!
# The pickup layout

`PickupLayout` looks at one document of `calling`, whichever comes first. The collection holds
the calls of a user in both directions, and the end of a video call to a group is written there
as well. So a call that comes in is shown as long as no outgoing call is ahead of it and no call
to a group has been ended on a video screen.

* `InSight` — an incoming call is first if there is one; what each write to the collection has to
  observe to leave it so (`CallingWrite.Orderly`).
* `pickup_shown` — in runs of orderly writes, every incoming call is shown.
-/

namespace FlutterTheme.Calls

open EventLoop DocStore

/-! ## What is shown -/

/-- What `PickupLayout` shows. -/
inductive Pickup : Type where
  /-- what lies below -/
  | scaffold : Pickup
  /-- `PickupBody` -/
  | pickupBody (call : Call) (imageUrl : Option String) : Pickup
  deriving DecidableEq, Repr

/-- The builder of `PickupLayout` on the documents of `calling`; `call.hasDialled!` is an error
where it is null. -/
def PickupLayout.build (docs : List Document) : Option Pickup :=
  match docs.take 1 with
  | [] => some .scaffold
  | doc :: _ =>
    let call := Call.fromMap doc.data
    match call.hasDialled with
    | none => none
    | some false => some (.pickupBody call (Value.toString? (doc.data .callerPic)))
    | some true => some .scaffold

/-- The call that is offered is the one that is shown. -/
theorem offeredCall_eq (d : ℕ) : offeredCall d = (do
    let user ← sessionUser d
    let docs ← Async.remote fun _ w => ((w.store.docs (.calling user.id)).head?, w)
    match PickupLayout.build docs.toList with
    | none => Async.throw
    | some .scaffold => pure none
    | some (.pickupBody call _) => pure (some call)) := by
  unfold offeredCall
  refine congrArg _ (funext fun user => congrArg _ (funext fun docs => ?_))
  cases docs with
  | none => rfl
  | some doc =>
    simp only [PickupLayout.build, Option.toList, List.take]
    cases (Call.fromMap doc.data).hasDialled with
    | none => rfl
    | some hasDialled => cases hasDialled <;> rfl

/-- The document of a call that comes in. -/
def IsIncoming (d : Document) : Prop := (Call.fromMap d.data).hasDialled = some false

instance (d : Document) : Decidable (IsIncoming d) := inferInstanceAs (Decidable (_ = _))

/-- What the widgets of a call take for granted is there. -/
structure Decodes (d : Document) : Prop where
  hasDialled : (Call.fromMap d.data).hasDialled.isSome
  callerName : (Call.fromMap d.data).callerName.isSome
  isVideoCall : (Call.fromMap d.data).isVideoCall.isSome

/-- Every document decodes, and a call that comes in is shown. -/
structure Shown (w : World) : Prop where
  decodes : ∀ u, ∀ d ∈ w.store.docs (.calling u), Decodes d
  shown : ∀ u, (∃ d ∈ w.store.docs (.calling u), IsIncoming d) →
    ∃ call imageUrl, PickupLayout.build (w.store.docs (.calling u)) =
      some (.pickupBody call imageUrl)

/-- An incoming call is first, if there is one. -/
def InSight (docs : List Document) : Prop :=
  (∃ d ∈ docs, IsIncoming d) → ∀ d ∈ docs.head?, IsIncoming d

/-- Only an incoming call is shown, and one that is first is. -/
theorem build_eq_pickupBody {docs : List Document} :
    (∃ call imageUrl, PickupLayout.build docs = some (.pickupBody call imageUrl)) ↔
      ∃ d, docs.head? = some d ∧ IsIncoming d := by
  cases docs with
  | nil => simp [PickupLayout.build]
  | cons d docs =>
    simp only [PickupLayout.build, List.take_succ_cons, List.head?_cons, Option.some.injEq,
      exists_eq_left', IsIncoming]
    cases (Call.fromMap d.data).hasDialled with
    | none => simp
    | some hasDialled => cases hasDialled <;> simp

theorem inSight_iff {docs : List Document} :
    InSight docs ↔ ((∃ d ∈ docs, IsIncoming d) →
      ∃ call imageUrl, PickupLayout.build docs = some (.pickupBody call imageUrl)) := by
  rw [build_eq_pickupBody]
  cases docs with
  | nil => simp [InSight]
  | cons d docs => simp [InSight]

/-! ## Orderly writes -/

/-- A write to the documents `s`, with a new one at `pos`, that leaves incoming calls in sight. -/
def CallingWrite.Orderly (s : Store Path Key Value) (pos : ℕ) : CallingWrite → Prop
  -- the user of an outgoing call that sorts first has no incoming one
  | add user _ true => (∃ d ∈ s.docs (.calling user), IsIncoming d) → 0 < pos
  -- an incoming call sorts first, or an incoming one is first already
  | add user _ false => ∀ d ∈ (s.docs (.calling user)).head?, IsIncoming d ∨ pos = 0
  -- behind a document that is deleted no outgoing call is ahead of an incoming one
  | delete user id => ∀ d ∈ (s.docs (.calling user)).head?, d.id = id →
      InSight (s.docs (.calling user)).tail
  -- no call to a group is ended on a video screen
  | ended _ _ _ _ => False

/-- The document tells its caller's name and the kind of the call. -/
def CallingWrite.Named : CallingWrite → Prop
  | add _ call _ => call.callerName.isSome ∧ call.isVideoCall.isSome
  | delete _ _ | ended _ _ _ _ => True

variable {docs : List Document} {d : Document} {i : ℕ}

theorem head?_insertIdx_of_pos (hi : 0 < i) (hne : docs ≠ []) :
    (docs.insertIdx i d).head? = docs.head? := by
  obtain ⟨y, ys, rfl⟩ := List.exists_cons_of_ne_nil hne
  obtain ⟨j, rfl⟩ := Nat.exists_eq_succ_of_ne_zero hi.ne'
  rw [Nat.succ_eq_add_one, List.insertIdx_succ_cons, List.head?_cons, List.head?_cons]

/-- A document goes where it sorts. -/
theorem docs_add {s : Store Path Key Value} {p : Path} {pos : ℕ} {u : Data} :
    (s.add p pos u).docs p =
      (s.docs p).insertIdx (min pos (s.docs p).length) ⟨.auto s.next, u⟩ := by
  simp only [Store.add, if_true]

/-- An incoming call is added: it is in sight if it comes first, or if an incoming one was first
before. -/
theorem inSight_insert_incoming {pos : ℕ} (hd : IsIncoming d)
    (horderly : ∀ x ∈ docs.head?, IsIncoming x ∨ pos = 0) :
    InSight (docs.insertIdx (min pos docs.length) d) := by
  rintro - x hx
  by_cases hzero : min pos docs.length = 0
  · rw [hzero, List.insertIdx_zero, List.head?_cons] at hx
    cases hx
    exact hd
  · have hne : docs ≠ [] := by
      rintro rfl
      exact hzero (Nat.min_zero pos)
    rw [head?_insertIdx_of_pos (Nat.pos_of_ne_zero hzero) hne] at hx
    refine (horderly x hx).resolve_right ?_
    rintro rfl
    exact hzero (Nat.zero_min _)

/-- An outgoing call is added. -/
theorem inSight_insert_outgoing {pos : ℕ} (h : InSight docs) (hd : ¬ IsIncoming d)
    (horderly : (∃ x ∈ docs, IsIncoming x) → 0 < pos) :
    InSight (docs.insertIdx (min pos docs.length) d) := by
  rintro ⟨x, hx, hincoming⟩
  have hx' : x ∈ docs := by
    rcases (List.mem_insertIdx (Nat.min_le_right ..)).mp hx with rfl | hx
    · exact absurd hincoming hd
    · exact hx
  have hne : docs ≠ [] := List.ne_nil_of_mem hx'
  have hpos : 0 < min pos docs.length :=
    Nat.lt_min.mpr ⟨horderly ⟨x, hx', hincoming⟩, List.length_pos_iff.mpr hne⟩
  rw [head?_insertIdx_of_pos hpos hne]
  exact h ⟨x, hx', hincoming⟩

/-- A document is deleted: if it was the first, the others have to be in sight without it. -/
theorem inSight_delete {id : DocId} (hnodup : (docs.map Doc.id).Nodup) (h : InSight docs)
    (horderly : ∀ x ∈ docs.head?, x.id = id → InSight docs.tail) :
    InSight (docs.filter (·.id ≠ id)) := by
  cases docs with
  | nil => exact h
  | cons y ys =>
    by_cases hy : y.id = id
    · -- the first one is deleted, and no other has its identifier
      have hys : ys.filter (·.id ≠ id) = ys := by
        refine List.filter_eq_self.mpr fun z hz => ?_
        have hne : z.id ≠ y.id := by
          rintro hid
          exact (List.nodup_cons.mp hnodup).1 (hid ▸ List.mem_map_of_mem hz)
        simpa [hy] using hne
      rw [List.filter_cons_of_neg (by simpa using hy), hys]
      exact horderly y rfl hy
    · rw [List.filter_cons_of_pos (by simpa using hy)]
      rintro ⟨x, hx, hincoming⟩
      have hfirst := h ⟨x, ?_, hincoming⟩
      · exact hfirst
      · rcases List.mem_cons.mp hx with rfl | hx
        · exact List.mem_cons_self ..
        · exact List.mem_cons_of_mem _ (List.mem_of_mem_filter hx)

/-- What an action does to the pending calls. -/
inductive CallStep (w w' : World) : Prop where
  | rest (h : ∀ u, w'.store.docs (.calling u) = w.store.docs (.calling u))
  | write (op : CallingWrite) (pos : ℕ) (named : op.Named) (h : w'.store = op.apply w.store pos)

/-- What the pending calls of all users are like after an action. -/
structure Kept (w : World) : Prop where
  decodes : ∀ u, ∀ d ∈ w.store.docs (.calling u), Decodes d
  inSight : ∀ u, InSight (w.store.docs (.calling u))

theorem Kept.shown {w : World} (h : Kept w) : Shown w :=
  ⟨h.decodes, fun u => inSight_iff.mp (h.inSight u)⟩

theorem decodes_callingFields {call : Call} (id : DocId) (hasDialled : Bool)
    (h : call.callerName.isSome ∧ call.isVideoCall.isSome) :
    Decodes ⟨id, callingFields call hasDialled⟩ := by
  constructor <;> simp only [Call.fromMap_callingFields]
  · rfl
  · exact h.1
  · exact h.2

theorem isIncoming_callingFields {call : Call} {id : DocId} {hasDialled : Bool} :
    IsIncoming ⟨id, callingFields call hasDialled⟩ ↔ hasDialled = false := by
  simp [IsIncoming]

/-- A document is added below one user, orderly. -/
theorem Kept.add {w w' : World} (h : Kept w) {user : String} {call : Call} {hasDialled : Bool}
    {pos : ℕ} (hnamed : (CallingWrite.add user call hasDialled).Named)
    (horderly : (CallingWrite.add user call hasDialled).Orderly w.store pos)
    (hstore : w'.store = w.store.add (.calling user) pos (callingFields call hasDialled)) :
    Kept w' := by
  constructor
  · intro u d hd
    rw [hstore] at hd
    rcases Store.mem_add.mp hd with ⟨-, rfl⟩ | hd
    · exact decodes_callingFields _ _ hnamed
    · exact h.decodes u d hd
  · intro u
    rw [hstore]
    by_cases hu : u = user
    · subst hu
      rw [docs_add]
      cases hasDialled with
      | true => exact inSight_insert_outgoing (h.inSight u) (by simp [isIncoming_callingFields]) horderly
      | false => exact inSight_insert_incoming (isIncoming_callingFields.mpr rfl) horderly
    · rw [Store.docs_add_of_ne (by simpa using hu)]
      exact h.inSight u

/-- A document is deleted below one user, orderly. -/
theorem Kept.delete {w w' : World} (h : Kept w) {user : String} {id : DocId} {pos : ℕ}
    (horderly : (CallingWrite.delete user id).Orderly w.store pos)
    (hstore : w'.store = w.store.delete (.calling user) id) : Kept w' := by
  constructor
  · intro u d hd
    rw [hstore] at hd
    exact h.decodes u d (Store.mem_delete.mp hd).1
  · intro u
    rw [hstore]
    by_cases hu : u = user
    · subst hu
      simp only [Store.delete, if_true]
      exact inSight_delete (w.store.nodup _) (h.inSight u) horderly
    · rw [Store.docs_delete_of_ne (by simpa using hu)]
      exact h.inSight u

/-- The writes of the action are orderly. -/
def Orderly (st : Step World Scope) : Prop :=
  ∀ (op : CallingWrite) (pos : ℕ), st.after.store = op.apply st.before.store pos →
    op.Orderly st.before.store pos

/-- One orderly write keeps what the layout needs; the cases are those of the operation, and the end
that is written into `calling` is none of the orderly ones. -/
theorem CallStep.kept {st : Step World Scope} (h : CallStep st.before st.after) (ho : Orderly st)
    (hk : Kept st.before) : Kept st.after := by
  cases h with
  | rest h =>
    refine ⟨fun u d hd => ?_, fun u => ?_⟩
    · rw [h] at hd
      exact hk.decodes u d hd
    · rw [h]
      exact hk.inSight u
  | write op pos named h =>
    have horderly := ho op pos h
    cases op with
    | add user call hasDialled => exact hk.add named horderly h
    | delete user id => exact hk.delete horderly h
    | ended => exact horderly.elim

/-! ## Runs -/

/-- The protocol under which an action does no more to the pending calls. -/
def pickups : Evolving World where
  le _ _ := True
  inv _ := True
  step := CallStep
  le_refl _ := trivial
  le_trans _ _ := trivial
  step_refl _ := .rest fun _ => rfl

theorem permits_deed (t : Tick) (w w' : World) (h : (deeds CallingWrite.Named).rel t w w') :
    pickups.Permits w w' := by
  refine ⟨trivial, trivial, ?_⟩
  cases h with
  | apart h => exact .rest h.calling
  | write op named => exact .write op t.pos named rfl

theorem safe_of_all {m : Handler Unit} (h : m.All (deeds CallingWrite.Named)) (l : Scope)
    (w : World) : m.task.Safe (pickups.protocol Scope) l w :=
  h.task.safe (fun t w w' _ => permits_deed t w w') trivial

/-- A handler that first reads who its user is. -/
theorem safe_sessionUser {d : ℕ} {f : User → Handler Unit} {w : World}
    (h : (f (w.session d)).All (deeds CallingWrite.Named)) (l : Scope) :
    (sessionUser d >>= f).task.Safe (pickups.protocol Scope) l w :=
  fun _ => ⟨trivial, trivial, .rest fun _ => rfl, safe_of_all h l w⟩

/-- The user who places a call has a name. -/
def CallerNamed (c : Config World Scope) : Event Action → Prop
  | .call (.audioAndVideoCallApi d _ _) _ | .call (.audioAndVideoCall d _ _) _ =>
    (c.world.session d).name.isSome
  | _ => True

theorem all_make {userData toData : User} (h : userData.name.isSome) {d timestamp : ℕ}
    {channelId : String} {isVideoCall : Bool} {receiver : Option (List Member)} :
    (placeCall d userData toData
      (Call.make userData toData timestamp channelId isVideoCall receiver) isVideoCall).All
        (deeds CallingWrite.Named) :=
  all_placeCall fun _ _ => writes_deeds ⟨h, rfl⟩

/-- Every action of a handler is such a step: what it writes into `calling` is a document of a named
caller's call, a deletion, or the end of a video call to a group. -/
theorem safe_action {c : Config World Scope} {a : Action} {ticks : ℕ → Tick}
    (h : CallerNamed c (.call a ticks)) (l : Scope) :
    a.body.task.Safe (pickups.protocol Scope) l c.world := by
  have hdelete : ∀ user id, Writes (deeds CallingWrite.Named) (.delete user id) :=
    fun _ _ => writes_deeds trivial
  have hended : ∀ user timestamp time nameList,
      Writes (deeds CallingWrite.Named) (.ended user timestamp time nameList) :=
    fun _ _ _ _ => writes_deeds trivial
  cases a with
  | saveUser user => exact fun _ => ⟨trivial, trivial, .rest fun _ => rfl, trivial⟩
  | audioAndVideoCallApi d toData isVideoCall =>
    refine safe_sessionUser ?_ l
    refine Async.all_bind (Async.all_sync (deeds _).refl) fun channelId => ?_
    refine Async.all_bind all_now fun time => ?_
    cases toData with
    | none => exact Async.all_throw
    | some toData => exact all_make h
  | audioAndVideoCall d receiver isVideoCall =>
    refine safe_sessionUser ?_ l
    refine Async.all_bind (Async.all_sync (deeds _).refl) fun channelId => ?_
    refine Async.all_bind all_now fun time => Async.all_forEach fun element _ => ?_
    refine Async.all_bind (Async.all_remote (deeds _).refl) fun snap => ?_
    cases snap with
    | none => exact Async.all_throw
    | some toData => exact all_make h
  | accept d => exact safe_of_all all_accept l _
  | reject d => exact safe_of_all (all_reject hdelete) l _
  | removeCtrl d isVideo => exact safe_of_all all_removeCtrl l _
  | onJoinChannelSuccess k => exact safe_of_all (all_onCtrl all_audioJoin all_videoJoin) l _
  | onUserJoined k uid => exact safe_of_all (all_onCtrl all_audioUserJoined all_videoUserJoined) l _
  | onUserOffline k =>
    exact safe_of_all (all_onCtrl all_audioUserOffline all_videoUserOffline) l _
  | onLeaveChannel k =>
    exact safe_of_all (all_onCtrl all_audioLeaveChannel all_videoLeaveChannel) l _
  | onToggleMute k => exact safe_of_all all_toggleMute l _
  | onCallEnd k status => exact safe_of_all (all_endButton hdelete hended) l _

/-- Any action of any user who has a name. -/
def PlacedByName (c : Config World Scope) (e : Event Action) : Prop :=
  calling.admits c e ∧ CallerNamed c e

variable {users : String → Option User} {session : ℕ → User} {agoraToken : ℕ → Option String}
  {es : List (Event Action)} {c : Config World Scope}

theorem provides_named {c : Config World Scope} {e : Event Action} (he : PlacedByName c e) :
    calling.Provides (pickups.protocol Scope) c e := by
  cases e with
  | call a ticks => exact safe_action he.2 _
  | resume i ticks => exact fun _ _ => trivial

/-- Every action of a run is such a step. -/
theorem step_of_moves (h : calling.Run PlacedByName (start users session agoraToken) es c) :
    ∀ st ∈ calling.moves (start users session agoraToken) es, CallStep st.before st.after := by
  have hstart : (start users session agoraToken).Kept (pickups.protocol Scope) :=
    ⟨trivial, fun _ hth => absurd hth List.not_mem_nil⟩
  refine h.forall_moves fun es c e hrun he st hst => ?_
  have hkept := System.Run.safe hstart (fun c e _ he => provides_named he) hrun
  exact (System.outcome_kept hkept (provides_named he)).steps st hst

/-- **Incoming calls are shown** and every document decodes, in runs in which every caller has a
name and every write to `calling` is orderly. -/
theorem pickup_shown (h : calling.Run PlacedByName (start users session agoraToken) es c)
    (horderly : ∀ st ∈ calling.moves (start users session agoraToken) es, Orderly st) :
    Shown c.world := by
  have hleads : Leads _ (calling.moves (start users session agoraToken) es) _ :=
    System.leads_moves
  rw [← h.exec_eq] at hleads
  have hstart : Kept (start users session agoraToken).world :=
    ⟨fun _ _ hd => absurd hd List.not_mem_nil, fun _ hd => by
      obtain ⟨_, hd, -⟩ := hd
      exact absurd hd List.not_mem_nil⟩
  have hsteps := step_of_moves h
  exact (hleads.keeps (fun st hst hk => (hsteps st hst).kept (horderly st hst) hk) hstart).shown

/-! ## Alice, Bob and Carol -/

instance (c : Config World Scope) : (e : Event Action) → Decidable (CallerNamed c e)
  | .call (.audioAndVideoCallApi d _ _) _ | .call (.audioAndVideoCall d _ _) _ =>
    inferInstanceAs (Decidable ((c.world.session d).name.isSome = true))
  | .call (.saveUser _) _ | .call (.accept _) _ | .call (.reject _) _ | .call (.removeCtrl _ _) _
  | .call (.onJoinChannelSuccess _) _ | .call (.onUserJoined _ _) _ | .call (.onUserOffline _) _
  | .call (.onLeaveChannel _) _ | .call (.onToggleMute _) _ | .call (.onCallEnd _ _) _
  | .resume _ _ => inferInstanceAs (Decidable True)

instance (c : Config World Scope) (e : Event Action) : Decidable (PlacedByName c e) :=
  inferInstanceAs (Decidable (_ ∧ _))

/-- No user has more than one pending call, and none of them is the end of one to a group. -/
def Single (s : Store Path Key Value) : Prop :=
  ∀ u, (s.docs (.calling u)).length ≤ 1 ∧ ∀ d ∈ s.docs (.calling u), ∃ n, d.id = .auto n

theorem single_empty : Single .empty := fun _ => ⟨Nat.zero_le 1, fun _ hd => nomatch hd⟩

/-- A document that is added below a user who has none leaves nobody with more than one. -/
theorem Single.add {s : Store Path Key Value} (h : Single s) {user : String}
    (hnone : s.docs (.calling user) = []) (pos : ℕ) (d : Data) :
    Single (s.add (.calling user) pos d) := by
  intro u
  by_cases hu : u = user
  · subst hu
    rw [docs_add, hnone]
    simp
  · rw [Store.docs_add_of_ne (by simpa using hu)]
    exact h u

/-- Nothing can be out of order where users have one pending call at most. -/
theorem orderly_of_single {st : Step World Scope} (h : Single st.before.store)
    (h' : Single st.after.store) : Orderly st := by
  intro op pos hstore
  cases op with
  | add user call hasDialled =>
    have hnone : st.before.store.docs (.calling user) = [] := by
      have hlen := (h' user).1
      rw [hstore, CallingWrite.apply, (Store.perm_docs_add ..).length_eq, List.length_cons] at hlen
      exact List.length_eq_zero_iff.mp (by omega)
    cases hasDialled <;> simp [CallingWrite.Orderly, hnone]
  | delete user id =>
    intro d _ _
    have htail : (st.before.store.docs (.calling user)).tail = [] := by
      refine List.length_eq_zero_iff.mp ?_
      have hlen := (h user).1
      rw [List.length_tail]
      omega
    rw [htail]
    rintro ⟨_, hd, _⟩
    cases hd
  | ended user timestamp time nameList =>
    obtain ⟨d, hd, hnamed⟩ := Store.exists_named_setMerge st.before.store (.calling user)
      (toString timestamp) pos
      (.ofList [(.status, .str "ended"), (.ended, .time time), (.callName, .str nameList)])
    obtain ⟨n, hauto⟩ := (h' user).2 d (hstore ▸ hd)
    rw [hnamed] at hauto
    cases hauto

/-- A user calls another; the documents of the call sort at `pos`. -/
def rings (d : ℕ) (name : String) (pos : ℕ) : List (Event Action) :=
  .call (.audioAndVideoCallApi d (some (person name)) false) (fun _ => ⟨5000000, pos, false⟩) ::
    List.replicate 3 (.resume 0 fun _ => ⟨5000000, pos, false⟩)

/-- Every step of a call that rings is orderly: no user ever has more than one document in
`calling`. -/
theorem orderly_aliceRings : ∀ st ∈ calling.moves threeUsers (rings 0 "bob" 0), Orderly st := by
  let call : Call := Call.make (person "alice") (person "bob") (5000000 / 1000) (toString (0 % 1000))
    false none
  let s₁ : Store Path Key Value := Store.empty.add (.calling "alice") 0 (callingFields call true)
  let s₂ : Store Path Key Value := s₁.add (.calling "bob") 0 (callingFields call false)
  have hstores : (calling.moves threeUsers (rings 0 "bob" 0)).map
      (fun st => (st.before.store, st.after.store)) =
        [(.empty, .empty), (.empty, .empty), (.empty, .empty), (.empty, .empty), (.empty, s₁),
          (s₁, s₂)] := rfl
  have hs₁ : Single s₁ := single_empty.add rfl _ _
  have hs₂ : Single s₂ := hs₁.add rfl _ _
  intro st hst
  have hmem := List.mem_map_of_mem (f := fun st => (st.before.store, st.after.store)) hst
  rw [hstores] at hmem
  have hsingle : Single st.before.store ∧ Single st.after.store := by
    simp only [List.mem_cons, Prod.mk.injEq, List.not_mem_nil, or_false] at hmem
    rcases hmem with ⟨h, h'⟩ | ⟨h, h'⟩ | ⟨h, h'⟩ | ⟨h, h'⟩ | ⟨h, h'⟩ | ⟨h, h'⟩ <;>
      rw [h, h'] <;> constructor <;> first | exact single_empty | exact hs₁ | exact hs₂
  exact orderly_of_single hsingle.1 hsingle.2

/-- Alice calls Bob, and he is shown the call. -/
theorem pickup_shown_aliceRings :
    (∃ d ∈ (calling.exec threeUsers (rings 0 "bob" 0)).world.store.docs (.calling "bob"),
      IsIncoming d) ∧
    Shown (calling.exec threeUsers (rings 0 "bob" 0)).world :=
  ⟨by decide +kernel, pickup_shown (System.run_exec (by decide +kernel)) orderly_aliceRings⟩

/-- Alice places a video call to the group and ends it. -/
def groupCallEnded : List (Event Action) :=
  .call (.audioAndVideoCall 0 aliceAndBob true) clock ::
    (carryOn 60 ++ .call (.onCallEnd 0 none) clock :: carryOn 30)

/-- Alice calls Bob, and then Carol calls Alice; the later documents sort behind. -/
def bothRing : List (Event Action) :=
  alone 5000000 (.audioAndVideoCallApi 0 (some (person "bob")) false) ++ rings 2 "alice" 1

/-- Alice ends her video call to the group, and Bob's layout comes upon a document that does not
decode; or Carol calls Alice, whose own call sorts first, and Alice is not shown the call. -/
theorem pickup_fails :
    (¬ ∀ (es : List (Event Action)) (c : Config World Scope),
      calling.Run calling.admits threeUsers es c →
        ∀ u, ∀ d ∈ c.world.store.docs (.calling u), Decodes d) ∧
    ¬ ∀ (es : List (Event Action)) (c : Config World Scope),
      calling.Run calling.admits threeUsers es c → ∀ u,
        (∃ d ∈ c.world.store.docs (.calling u), IsIncoming d) →
          ∃ call imageUrl, PickupLayout.build (c.world.store.docs (.calling u)) =
            some (.pickupBody call imageUrl) := by
  constructor
  · intro h
    have hdecodes := h groupCallEnded _ (System.run_exec (by decide +kernel)) "bob"
    have hnull : ∃ d ∈ (calling.exec threeUsers groupCallEnded).world.store.docs (.calling "bob"),
        (Call.fromMap d.data).hasDialled = none := by
      decide +kernel
    obtain ⟨d, hd, hnone⟩ := hnull
    have hsome := (hdecodes d hd).hasDialled
    rw [hnone] at hsome
    cases hsome
  · intro h
    obtain ⟨call, imageUrl, hshown⟩ := h bothRing _
      (System.run_exec (by decide +kernel)) "alice" (by decide +kernel)
    have hscaffold : PickupLayout.build
        ((calling.exec threeUsers bothRing).world.store.docs (.calling "alice")) =
          some .scaffold := by
      decide +kernel
    rw [hscaffold] at hshown
    cases hshown

end FlutterTheme.Calls
