import FlutterTheme.Account
import FlutterTheme.Completes
import FlutterTheme.Exclusive
import FlutterTheme.CallSafe
import FlutterTheme.CallDeeds

/-!
# Signalling a call to a group

`audioAndVideoCall` looks every member of the group up and writes two documents for each, one
below the caller and one below the member. What this file counts are the documents of the call:
in whatever order the lookups and writes come, every member ends up with one incoming call, and
that is the caller as well, who is a member of his group. `onCallEnd` deletes one document for
each query that finds one, so some are always left, if there is another member.
-/

namespace FlutterTheme.Calls

open EventLoop DocStore

/-- The members are users, whose documents tell their own identifiers. -/
def Registered (w : World) (members : List Member) : Prop :=
  ∀ m ∈ members, ∃ user, w.users m.id = some user ∧ user.id = m.id

/-! ## The documents of a call -/

/-- A call that is placed in the world `before`, with its caller and its time. -/
structure Signal where
  before : World
  callerId : String
  timestamp : ℕ

namespace Signal

variable (σ : Signal)

/-- The document has been put into `calls/user/calling` for the call. -/
def Owns (user : String) (d : Document) : Prop :=
  (∀ x ∈ σ.before.store.docs (.calling user), x.id ≠ d.id) ∧
    d.data .callerId = some (.str σ.callerId) ∧ d.data .timestamp = some (.int σ.timestamp)

instance (user : String) (d : Document) : Decidable (σ.Owns user d) :=
  inferInstanceAs (Decidable (_ ∧ _))

/-- The documents of the call below a user whose `hasDialled` satisfies `p`. -/
def documents (p : Option Bool → Bool) (w : World) (user : String) : List Document :=
  (w.store.docs (.calling user)).filter fun d =>
    σ.Owns user d ∧ p (Value.toBool? (d.data .hasDialled))

/-- The call as it comes in for a user. -/
def incoming (w : World) (user : String) : List Document :=
  σ.documents (· = some false) w user

/-- Every member but the caller has one incoming call, and the caller has none. -/
def Signalled (members : List Member) (w : World) : Prop :=
  ∀ m ∈ members, (σ.incoming w m.id).length = if m.id = σ.callerId then 0 else 1

/-- No document of the call is left below a member. -/
def Cleared (members : List Member) (w : World) : Prop :=
  ∀ m ∈ members, σ.documents (fun _ => true) w m.id = []

instance (members : List Member) (w : World) : Decidable (σ.Signalled members w) :=
  inferInstanceAs (Decidable (∀ m ∈ members, _))

/-! ## How many there are -/

variable {σ} {p : Option Bool → Bool} {w w' : World} {user : String} {call : Call}

theorem documents_apart (h : Apart w w') : σ.documents p w' user = σ.documents p w user := by
  rw [documents, h.calling, documents]

/-- The call is the one that is counted. -/
structure Names (σ : Signal) (call : Call) : Prop where
  callerId : call.callerId = some σ.callerId
  timestamp : call.timestamp = some σ.timestamp

/-- A document of the call is added below a user: this user has one more of the kind that is
counted, and nobody else has. -/
theorem length_documents_add (hcall : σ.Names call) (hnext : σ.before.store.next ≤ w.store.next)
    (x : String) (pos : ℕ) (hasDialled : Bool) :
    (σ.documents p
        { w with store := w.store.add (.calling x) pos (callingFields call hasDialled) }
        user).length =
      (σ.documents p w user).length + if user = x ∧ p (some hasDialled) = true then 1 else 0 := by
  by_cases hx : user = x
  · subst hx
    have howns : σ.Owns user ⟨.auto w.store.next, callingFields call hasDialled⟩ := by
      refine ⟨fun y hy hid => ?_, ?_, ?_⟩
      · exact absurd (σ.before.store.fresh _ y hy _ hid) (Nat.not_lt.mpr hnext)
      · simp [callingFields, Fields.ofList, hcall.callerId, Value.ofString]
      · simp [callingFields, Fields.ofList, hcall.timestamp, Value.ofInt]
    have hdialled : Value.toBool? (callingFields call hasDialled .hasDialled) = some hasDialled := by
      simp [callingFields, Fields.ofList]
    have hperm := (Store.perm_docs_add (s := w.store) (.calling user) pos
      (callingFields call hasDialled)).filter fun d =>
        σ.Owns user d ∧ p (Value.toBool? (d.data .hasDialled))
    simp only [documents, hperm.length_eq, List.filter_cons, howns, hdialled, true_and]
    by_cases hp : p (some hasDialled) = true <;> simp [hp]
  · have hne : Path.calling user ≠ .calling x := by simpa using hx
    simp only [documents, Store.docs_add_of_ne hne, hx, false_and, if_false, Nat.add_zero]

/-- A document is deleted below a user. -/
theorem length_documents_delete (x : String) (id : DocId) :
    (σ.documents p w user).length ≤
      (σ.documents p { w with store := w.store.delete (.calling x) id } user).length +
        if user = x then 1 else 0 := by
  by_cases hx : user = x
  · subst hx
    have hnodup : ((σ.documents p w user).map Doc.id).Nodup :=
      (w.store.nodup (.calling user)).sublist (List.filter_sublist.map Doc.id)
    have hone : ((σ.documents p w user).filter (·.id = id)).length ≤ 1 := by
      have hcount := List.nodup_iff_count_le_one.mp hnodup id
      rwa [List.count, List.countP_map, List.countP_eq_length_filter] at hcount
    have hsplit := List.length_eq_length_filter_add (l := σ.documents p w user) (·.id = id)
    have hrest : σ.documents p { w with store := w.store.delete (.calling user) id } user =
        (σ.documents p w user).filter fun d => !decide (d.id = id) := by
      simp only [documents, Store.delete, if_true, List.filter_filter]
      refine List.filter_congr fun d _ => ?_
      simp [Bool.and_comm]
    rw [hrest, if_pos rfl]
    omega
  · have hne : Path.calling user ≠ .calling x := by simpa using hx
    simp only [documents, Store.docs_delete_of_ne hne, hx, if_false, Nat.add_zero, le_refl]

/-- A merge that writes none of the fields that tell the document of a call. -/
theorem length_documents_setMerge {u : Data} (hu : u .callerId = none ∧ u .timestamp = none ∧
      u .hasDialled = none) (x name : String) (pos : ℕ) :
    (σ.documents p w user).length ≤
      (σ.documents p { w with store := w.store.setMerge (.calling x) name pos u } user).length := by
  have hnodup : ((σ.documents p w user).map Doc.id).Nodup :=
    (w.store.nodup (.calling user)).sublist (List.filter_sublist.map Doc.id)
  suffices hsub : (σ.documents p w user).map Doc.id ⊆ (σ.documents p
      { w with store := w.store.setMerge (.calling x) name pos u } user).map Doc.id by
    have hle := (hnodup.subperm hsub).length_le
    rwa [List.length_map, List.length_map] at hle
  intro id hid
  obtain ⟨d, hd, rfl⟩ := List.mem_map.mp hid
  obtain ⟨hd, hp⟩ := List.mem_filter.mp hd
  obtain ⟨y, hy, hyid, hydata⟩ := Store.exists_mem_setMerge (.calling x) name pos u hd
  obtain ⟨hcaller, htime, hdialled⟩ := hu
  have hsame : ∀ k, u k = none → y.data k = d.data k := by
    intro k hk
    rcases hydata with h | h <;> rw [h]
    exact Fields.merge_of_none hk
  refine List.mem_map.mpr ⟨y, List.mem_filter.mpr ⟨hy, decide_eq_true ?_⟩, hyid⟩
  simpa only [Owns, hsame _ hcaller, hsame _ htime, hsame _ hdialled, hyid] using
    of_decide_eq_true hp

/-- How many documents of the call there are below some users. -/
def count (σ : Signal) (p : Option Bool → Bool) (us : Finset String) (w : World) : ℕ :=
  ∑ u ∈ us, (σ.documents p w u).length

variable {us : Finset String}

theorem count_apart (h : Apart w w') : σ.count p us w' = σ.count p us w :=
  Finset.sum_congr rfl fun _ _ => by rw [documents_apart h]

theorem count_add (p : Option Bool → Bool) (us : Finset String) (hcall : σ.Names call)
    (hnext : σ.before.store.next ≤ w.store.next) (x : String) (pos : ℕ) (hasDialled : Bool) :
    σ.count p us
        { w with store := w.store.add (.calling x) pos (callingFields call hasDialled) } =
      σ.count p us w + if x ∈ us ∧ p (some hasDialled) = true then 1 else 0 := by
  simp only [count, length_documents_add hcall hnext, Finset.sum_add_distrib]
  by_cases hp : p (some hasDialled) = true <;> simp [hp]

/-- A deletion takes away one document at most, since it is below one user and of one id. -/
theorem count_delete (σ : Signal) (p : Option Bool → Bool) (us : Finset String) (w : World) (x : String)
    (id : DocId) :
    σ.count p us w ≤
      σ.count p us { w with store := w.store.delete (.calling x) id } + 1 := by
  have hsum : ∑ u ∈ us, (σ.documents p w u).length ≤ ∑ u ∈ us, ((σ.documents p
      { w with store := w.store.delete (.calling x) id } u).length + if u = x then 1 else 0) :=
    Finset.sum_le_sum fun _ _ => length_documents_delete x id
  rw [Finset.sum_add_distrib] at hsum
  have hone : (∑ u ∈ us, if u = x then 1 else 0) ≤ 1 := by
    rw [Finset.sum_ite_eq' us x]
    split <;> omega
  unfold count
  omega

theorem count_setMerge (σ : Signal) (p : Option Bool → Bool) (us : Finset String) (w : World) {u : Data}
    (hu : u .callerId = none ∧ u .timestamp = none ∧ u .hasDialled = none) (x name : String)
    (pos : ℕ) :
    σ.count p us w ≤
      σ.count p us { w with store := w.store.setMerge (.calling x) name pos u } :=
  Finset.sum_le_sum fun _ _ => length_documents_setMerge hu x name pos

/-! ## Placing the call -/

/-- The users stay as they are, and no identifier is used again. -/
def protocol (σ : Signal) : Protocol World Scope where
  rely _ _ := True
  inv w := w.users = σ.before.users ∧ σ.before.store.next ≤ w.store.next
  step _ _ _ := True
  rely_refl _ := trivial
  rely_trans _ _ := trivial
  step_refl _ _ := trivial

/-- The account of the documents below some users, while no operation fails. -/
def ledger (σ : Signal) (p : Option Bool → Bool) (us : Finset String) : Ledger World Scope where
  balance w := σ.count p us w
  strict _ := True
  exact := True

/-- What is written below the caller and below a member. -/
def due (σ : Signal) (p : Option Bool → Bool) (us : Finset String) (member : String) : ℤ :=
  (if σ.callerId ∈ us ∧ p (some true) = true then 1 else 0) +
    if member ∈ us ∧ p (some false) = true then 1 else 0

variable {l : Scope} {n : ℤ}

theorem inv_apart (hi : σ.protocol.inv w) (h : Apart w w') : σ.protocol.inv w' :=
  ⟨h.users.trans hi.1, Nat.le_trans hi.2 h.next⟩

/-- What makes no write to the pending calls is not accounted for. -/
theorem owes_apart {m : Handler Unit} (hi : σ.protocol.inv w)
    (h : m.All (deeds fun _ => False)) :
    m.task.Owes σ.protocol (σ.ledger p us) l w fun _ m => m = 0 := by
  refine h.task.owes (fun _ t w₁ w₂ hi h => ?_) (fun _ => trivial) (fun _ _ => id) hi
  cases h with
  | apart h =>
    refine ⟨trivial, inv_apart hi h, trivial, Ledger.settles_of_eq ?_⟩
    simp only [ledger, count_apart h]
  | write op permitted => exact permitted.elim

/-- A document is written, unless its user is not counted. -/
theorem pays_addCalling (hcall : σ.Names call) (x : String) (hasDialled : Bool) :
    (add (.calling x) (callingFields call hasDialled)).Pays σ.protocol (σ.ledger p us) l w
      ((if x ∈ us ∧ p (some hasDialled) = true then 1 else 0) + n)
      fun _ _ w' r => σ.protocol.inv w' ∧ r = n := by
  refine Async.pays_remote trivial (Or.inl trivial) fun w₁ _ hi _ t _ => ?_
  refine ⟨trivial, ⟨hi.1, Nat.le_succ_of_le hi.2⟩, trivial, n, ?_, trivial,
    fun w₂ _ hi₂ _ => ⟨hi₂, rfl⟩⟩
  have hbal := count_add p us hcall hi.2 x t.pos hasDialled
  unfold Ledger.Settles
  simp only [ledger, hbal]
  refine ⟨?_, fun _ => ?_⟩ <;> push_cast <;> omega

/-- Placing the call with one member owes the two documents of this member's call: the caller's own
and the member's. -/
theorem owes_placeCall {d : ℕ} {userData toData : User} {isVideoCall : Bool}
    (hi : σ.protocol.inv w) (hcall : σ.Names call) (hcaller : userData.id = σ.callerId) :
    (placeCall d userData toData call isVideoCall).task.Owes σ.protocol (σ.ledger p us) l w
      fun _ m => m = σ.due p us toData.id := by
  refine Async.owes_bind (Async.owes_modify (r := 0) trivial hi trivial (add_zero _).symm ?_)
  refine Task.Owes.mono (R := fun _ m => m = σ.due p us toData.id) ?_ fun _ m hm => by omega
  rw [hcaller]
  refine (pays_addCalling hcall σ.callerId true).seq fun _ _ w₁ r h₁ => ?_
  obtain ⟨-, rfl⟩ := h₁
  refine Task.Owes.mono (Async.Pays.seq (pays_addCalling (n := 0) hcall toData.id false) ?_)
    fun _ _ hm => hm.trans (add_zero _)
  rintro _ _ w₂ _ ⟨hi₂, rfl⟩
  exact owes_apart hi₂ (Async.all_bind all_sendNotification fun _ => all_toCall)

variable {members : List Member} {d : ℕ} {userData : User} {isVideoCall : Bool}

/-- Calling one member owes the documents of that member: the lookup finds the member's user, whose
id is the one the call is placed with. -/
theorem owes_callMember {m : Member} (channelId : String) (receiver : List Member)
    (hcaller : userData.id = σ.callerId)
    (hm : ∃ user, σ.before.users m.id = some user ∧ user.id = m.id) :
    (callMember d userData channelId σ.timestamp receiver isVideoCall m).task.Owes σ.protocol
      (σ.ledger p us) l w fun _ n => n = σ.due p us m.id := by
  obtain ⟨user, huser, hid⟩ := hm
  have hlookup : (getUser m.id).Pays σ.protocol (σ.ledger p us) l w (σ.due p us m.id)
      fun _ snap w' r => σ.protocol.inv w' ∧ snap = some user ∧ r = σ.due p us m.id := by
    refine Async.pays_remote trivial (Or.inl trivial) fun w₁ _ hi₁ _ t _ => ?_
    refine ⟨trivial, hi₁, trivial, _, Ledger.settles_of_eq rfl, trivial, fun w₂ _ hi₂ _ => ?_⟩
    exact ⟨hi₂, (congrFun hi₁.1 m.id).trans huser, rfl⟩
  refine hlookup.seq ?_
  rintro l' _ w₁ _ ⟨hi₁, rfl, rfl⟩
  have hnames : σ.Names (Call.make userData user σ.timestamp channelId isVideoCall
      (some receiver)) := ⟨congrArg some hcaller, rfl⟩
  have hplace : (placeCall d userData user (Call.make userData user σ.timestamp channelId
      isVideoCall (some receiver)) isVideoCall).task.Owes σ.protocol (σ.ledger p us) l' w₁
        fun _ n => n = σ.due p us user.id :=
    owes_placeCall hi₁ hnames hcaller
  rwa [hid] at hplace

/-- What the call owes for all members. -/
def total (σ : Signal) (p : Option Bool → Bool) (us : Finset String) (members : List Member) : ℤ :=
  (members.map fun m => σ.due p us m.id).sum

/-- Calling all members owes what the call to each of them does, summed up. By induction on the
members. -/
theorem owes_forMembers (channelId : String) (receiver : List Member) (isVideoCall : Bool)
    (hi : σ.protocol.inv w) (hcaller : userData.id = σ.callerId)
    (hmembers : Registered σ.before members) :
    (Async.forEach members
        (callMember d userData channelId σ.timestamp receiver isVideoCall)).task.Owes σ.protocol
      (σ.ledger p us) l w fun _ n => n = σ.total p us members := by
  refine Async.owes_forEach (fun _ _ => True) (fun m _ => σ.due p us m.id) (fun _ => ()) hi
    (fun _ _ _ _ h => ⟨h, rfl⟩) (fun m hm w' _ hi' => ?_) fun w' _ _ _ _ => ?_
  · refine (owes_callMember channelId receiver hcaller (hmembers m hm)).mono ?_
    rintro w'' n rfl
    exact ⟨trivial, rfl, rfl⟩
  · exact add_zero (σ.total p us members)

/-! ## Ending the call -/

/-- The account of the documents that are deleted: it only bounds them. -/
def deletions (σ : Signal) (us : Finset String) : Ledger World Scope where
  balance w := -(σ.count (fun _ => true) us w : ℤ)
  exact := False

theorem settles_deletions {r : ℤ}
    (h : (σ.count (fun _ => true) us w : ℤ) + r ≤ σ.count (fun _ => true) us w' + n) :
    (σ.deletions us).Settles w w' r n :=
  ⟨by simp only [deletions]; omega, False.elim⟩

/-- The end of a call to a group deletes nothing: all its writes are the end itself, below each
member. -/
theorem owes_ended {m : Handler Unit} (hi : σ.protocol.inv w)
    (h : m.All (deeds fun op => ∃ user timestamp time nameList,
      op = .ended user timestamp time nameList)) :
    m.task.Owes σ.protocol (σ.deletions us) l w fun _ m => m = 0 := by
  refine h.task.owes (fun _ t w₁ w₂ hi h => ?_) (fun _ => trivial) (fun _ _ => id) hi
  cases h with
  | apart h =>
    refine ⟨trivial, inv_apart hi h, trivial, settles_deletions ?_⟩
    rw [count_apart h]
  | write op permitted =>
    obtain ⟨user, timestamp, time, nameList, rfl⟩ := permitted
    refine ⟨trivial, ⟨hi.1, ?_⟩, trivial, settles_deletions ?_⟩
    · simp only [CallingWrite.apply, Store.setMerge]
      split <;> exact hi.2
    · have hle := σ.count_setMerge (fun _ => true) us w₁
        (u := .ofList [(.status, .str "ended"), (.ended, .time time), (.callName, .str nameList)])
        ⟨rfl, rfl, rfl⟩ user (toString timestamp) t.pos
      simp only [CallingWrite.apply]
      omega

/-- One query deletes at most one document; where it fails, nothing more is deleted. -/
theorem pays_deleteFirst (user : String) (party : Key) (hn : 0 ≤ n) :
    (deleteFirst user party).Pays σ.protocol (σ.deletions us) l w (1 + n)
      fun _ found w' r => σ.protocol.inv w' ∧ r = if found then n else 0 := by
  have hquery : (getFirst (.calling user) party user).Pays σ.protocol (σ.deletions us) l w (1 + n)
      fun _ value w' r =>
        σ.protocol.inv w' ∧ r = value.elim 0 fun doc => doc.elim n fun _ => 1 + n := by
    refine Async.pays_attempt trivial (fun w₁ _ hi₁ _ t _ => ?_) ?_
    · refine ⟨trivial, hi₁, trivial, _, settles_deletions ?_, trivial,
        fun w₂ _ hi₂ _ => ⟨hi₂, rfl⟩⟩
      generalize (w₁.store.query (.calling user) (Fields.isEqualTo party (.str user))).head? = doc
      cases doc <;> simp only [Option.elim] <;> omega
    · exact ⟨0, ⟨by omega, False.elim⟩, trivial, fun w₂ hi₂ => ⟨hi₂, rfl⟩⟩
  refine Async.pays_bind (hquery.mono ?_)
  rintro l' value w₁ _ ⟨hi₁, rfl⟩
  obtain _ | _ | doc := value
  · exact Async.pays_pure ⟨hi₁, rfl⟩
  · exact Async.pays_pure ⟨hi₁, rfl⟩
  · have hdelete : (delete (.calling user) doc.id).Pays σ.protocol (σ.deletions us) l' w₁ 1
        fun _ _ _ r => r = 0 := by
      refine Async.pays_remote trivial (Or.inr ⟨Int.zero_le_ofNat 1, False.elim⟩) ?_
      intro w₂ _ hi₂ _ t _
      refine ⟨trivial, hi₂, trivial, 0, settles_deletions ?_, trivial, fun _ _ _ _ => rfl⟩
      have hle := σ.count_delete (fun _ => true) us w₂ user doc.id
      dsimp only
      omega
    refine Async.pays_bind (Async.pays_spawn hi₁ hdelete.owes fun w₂ _ hi₂ => ?_)
    exact ⟨n, rfl, Async.pays_pure ⟨hi₂, rfl⟩⟩

/-- The end of a call to one user makes two queries. -/
theorem pays_audioEndCall (ids : Ids) :
    (AudioCall.endCall ids).Pays σ.protocol (σ.deletions us) l w 2
      fun _ _ w' r => σ.protocol.inv w' ∧ r = 0 := by
  refine Async.pays_bind ((pays_deleteFirst ids.callerId .callerId Int.one_nonneg).mono ?_)
  rintro l' found w₁ _ ⟨hi₁, rfl⟩
  cases found with
  | false => exact Async.pays_pure ⟨hi₁, rfl⟩
  | true =>
    refine (pays_deleteFirst ids.receiverId .receiverId (Int.le_refl 0)).mono ?_
    rintro _ found' w₂ _ ⟨hi₂, rfl⟩
    exact ⟨hi₂, ite_self 0⟩

/-- The end of a call to a group makes one query for each member and one more. -/
theorem pays_videoEndCall {ids : Ids} {members : List Member} (hi : σ.protocol.inv w)
    (hcall : call.receiver = some members) :
    (VideoCall.endCall call ids).Pays σ.protocol (σ.deletions us) l w (members.length + 1)
      fun _ _ w' r => σ.protocol.inv w' ∧ r = 0 := by
  intro k hk
  simp only [VideoCall.endCall, hcall]
  refine Async.owes_forEach (fun _ _ => True) (fun _ _ => 1) (fun _ => ()) hi
    (fun _ _ _ _ h => ⟨h, rfl⟩) (fun m _ w' _ _ => ?_) fun w' _ _ _ _ => ?_
  · refine ((pays_deleteFirst m.id .callerId (Int.le_refl 0)).seq ?_).mono ?_
    · rintro _ found w'' _ ⟨-, rfl⟩
      exact (ite_self 0).symm
    · rintro w'' _ rfl
      exact ⟨trivial, add_zero 1, rfl⟩
  · refine (pays_deleteFirst ids.callerId .callerId (Int.le_refl 0) k ?_).mono ?_
    · rintro l' found w'' _ ⟨hi'', rfl⟩
      exact hk l' found w'' _ ⟨hi'', ite_self 0⟩
    · rintro w'' _ rfl
      simp

/-- The call of a controller; without one nothing is owed. -/
theorem owes_currentCall {P : Protocol World Scope} {A : Ledger World Scope} {s : CallController}
    {k : Call × Ids → EventLoop.Task World Scope} {R : World → ℤ → Prop} (hzero : R w 0)
    (h : ∀ x, s.call = some x.1 → (k x).Owes P A l w R) : (currentCall s k).Owes P A l w R := by
  unfold currentCall
  cases hcall : s.call with
  | none => exact hzero
  | some call =>
    cases hids : call.ids with
    | none =>
      simp only [hids]
      exact hzero
    | some ids =>
      simp only [hids]
      exact h (call, ids) hcall

/-- The red button of an audio call deletes at most two documents, however many members the call
has: none if somebody has joined, and one for the caller and one for the receiver if not. -/
theorem owes_audioCallEnd {k : ℕ} (hi : σ.protocol.inv w) :
    (AudioCall.onCallEnd k).task.Owes σ.protocol (σ.deletions us) l w fun _ n => n ≤ 2 := by
  refine Async.owes_bind (Async.owes_sync_of_eq fun t => ⟨trivial, hi, trivial, rfl, ?_⟩)
  refine Async.owes_bind (Async.owes_get hi (Async.owes_bind ?_))
  refine owes_currentCall (by omega) fun x _ => ?_
  by_cases hremote : (w.ctrl.get k).remoteUId.isSome
  · -- the peer has joined: the end of the call is only written into the history
    simp only [hremote, if_true]
    refine (owes_ended hi (Async.all_bind (all_awaitHistory files_endedFields) fun _ =>
      all_awaitHistory files_endedFields)).mono ?_
    rintro w' _ rfl
    omega
  · simp only [hremote, if_false, Bool.false_eq_true]
    refine Task.Owes.mono (Async.Pays.seq (pays_audioEndCall x.2) ?_) fun _ n hn => hn.le
    rintro _ _ w₁ _ ⟨hi₁, rfl⟩
    exact owes_ended hi₁ all_audioEnded

/-- The red button of a video call to a group: one deletion at most for each member and one for the
caller. -/
theorem owes_videoCallEnd {k : ℕ} {members : List Member} (hi : σ.protocol.inv w)
    (hcall : (w.ctrl.get k).call = some call) (hmembers : call.receiver = some members) :
    (VideoCall.onCallEnd k).task.Owes σ.protocol (σ.deletions us) l w
      fun _ n => n ≤ members.length + 1 := by
  refine Async.owes_bind (Async.owes_get hi (Async.owes_bind ?_))
  refine owes_currentCall (by omega) fun x hx => ?_
  obtain rfl : x.1 = call := Option.some.inj (hx.symm.trans hcall)
  refine Task.Owes.mono (Async.Pays.seq (pays_videoEndCall hi hmembers) ?_) fun _ n hn => hn.le
  rintro _ _ w₁ _ ⟨hi₁, rfl⟩
  exact owes_ended hi₁ (all_videoEnded fun user timestamp time nameList =>
    writes_deeds ⟨user, timestamp, time, nameList, rfl⟩)

/-- The red button on a call to a group: not more documents are deleted than there are members,
and one. -/
theorem owes_endButton {k : ℕ} {status : Option String} {members : List Member}
    (hi : σ.protocol.inv w) (hcall : (w.ctrl.get k).call = some call)
    (hmembers : call.receiver = some members) (hne : members ≠ []) :
    (endButton k status).task.Owes σ.protocol (σ.deletions us) l w
      fun _ n => n ≤ members.length + 1 := by
  have hlen : 0 < members.length := List.length_pos_iff.mpr hne
  refine Async.owes_bind (Async.owes_modify (r := 0) trivial hi trivial (add_zero _).symm ?_)
  refine Task.Owes.mono (R := fun _ n => n ≤ members.length + 1) ?_ fun _ n hn => by omega
  refine Async.owes_bind (Async.owes_get hi ?_)
  split
  · refine owes_videoCallEnd hi ?_ hmembers
    simp only [Heap.get_modify, if_true, hcall]
  · refine Task.Owes.mono (owes_audioCallEnd ?_) fun _ n hn => by omega
    exact hi

end Signal

/-! ## The call has settled -/

section Settled

variable {c₀ c : Config World Scope} {d : ℕ} {members : List Member} {isVideoCall : Bool}
  {ticks : ℕ → Tick} {es : List (Event Action)} {p : Option Bool → Bool} {us : Finset String}

/-- The call to a group that is placed on a device. -/
def placedBy (c : Config World Scope) (d : ℕ) (ticks : ℕ → Tick) : Signal :=
  ⟨c.world, (c.world.session d).id, (ticks 2).now / 1000⟩

/-- Nothing of the call is there before it. -/
theorem Signal.count_before (σ : Signal) : σ.count p us σ.before = 0 := by
  refine Finset.sum_eq_zero fun u _ => List.length_eq_zero_iff.mpr ?_
  refine List.filter_eq_nil_iff.mpr fun x hx hp => ?_
  exact (of_decide_eq_true hp).1.1 x hx rfl

/-- The run places the call: nothing else is going on, and no operation fails. -/
structure Places (c₀ : Config World Scope) (d : ℕ) (members : List Member) (isVideoCall : Bool)
    (ticks : ℕ → Tick) (es : List (Event Action)) (c : Config World Scope) : Prop where
  before : c₀.Settled
  succeeds : ∀ n, (ticks n).fails = false
  run : calling.Run System.CarriesOn
    (calling.apply c₀ (.call (.audioAndVideoCall d members isVideoCall) ticks)) es c
  settled : c.Settled

/-- From the placing of a group call on, the documents that are there and those still owed are the
total for all members. The action itself is the only call, and a resumption pays what it owes. -/
theorem Places.balanced (h : Places c₀ d members isVideoCall ticks es c)
    (hmembers : Registered c₀.world members) (p : Option Bool → Bool) (us : Finset String) :
    c.Balanced (placedBy c₀ d ticks).protocol ((placedBy c₀ d ticks).ledger p us)
      ((placedBy c₀ d ticks).total p us members) := by
  have hinv : (placedBy c₀ d ticks).protocol.inv c₀.world := ⟨rfl, Nat.le_refl _⟩
  have hstart : c₀.Balanced (placedBy c₀ d ticks).protocol ((placedBy c₀ d ticks).ledger p us) 0 := by
    refine ⟨hinv, [], ?_, ?_⟩
    · rw [h.before]
      exact .nil
    · have hzero : (placedBy c₀ d ticks).count p us c₀.world = 0 := Signal.count_before _
      simp only [Signal.ledger, hzero]
      exact Ledger.fits_refl _ _
  have hadvances : (calling.body (.audioAndVideoCall d members isVideoCall)).Advances ticks .idle 0
      c₀.world (Async.forEach members (callMember d (c₀.world.session d)
        (toString ((ticks 1).pos % 1000)) ((ticks 2).now / 1000) members isVideoCall)) .idle 3
      c₀.world :=
    Async.advances_get.trans (Async.advances_sync.trans Async.advances_sync)
  obtain ⟨steps, hrest⟩ := hadvances
  have hcall := System.balanced_rest (S := calling)
    (a := .audioAndVideoCall d members isVideoCall) hstart (fun _ => h.succeeds) hrest
    (Signal.owes_forMembers _ members isVideoCall hinv rfl hmembers)
  rw [zero_add] at hcall
  refine h.run.induct (I := fun c => c.Balanced (placedBy c₀ d ticks).protocol
    ((placedBy c₀ d ticks).ledger p us) ((placedBy c₀ d ticks).total p us members)) hcall
    fun c e hc he => ?_
  cases e with
  | call a ticks => exact he.elim
  | resume i ticks => exact (System.balanced_resume hc (fun _ _ _ => he) fun _ _ => trivial).1

/-- What the call has written when it has settled. -/
theorem Places.count_eq (h : Places c₀ d members isVideoCall ticks es c)
    (hmembers : Registered c₀.world members) (p : Option Bool → Bool) (us : Finset String) :
    ((placedBy c₀ d ticks).count p us c.world : ℤ) = (placedBy c₀ d ticks).total p us members :=
  ((h.balanced hmembers p us).settled h.settled).2 trivial

/-- **Every member has one incoming call**, the caller among them. -/
theorem Places.length_incoming (h : Places c₀ d members isVideoCall ticks es c)
    (hmembers : Registered c₀.world members) (hnodup : (members.map Member.id).Nodup) :
    ∀ m ∈ members, ((placedBy c₀ d ticks).incoming c.world m.id).length = 1 := by
  intro m hm
  have hcount := h.count_eq hmembers (· = some false) {m.id}
  have hone : (members.map Member.id).count m.id = 1 :=
    List.count_eq_one_of_mem hnodup (List.mem_map_of_mem hm)
  have htotal : (placedBy c₀ d ticks).total (· = some false) {m.id} members = 1 := by
    have hsum := List.sum_map_ite_eq (members.map Member.id) (fun _ => (1 : ℤ)) (fun _ => 0) m.id
    rw [hone, List.map_map] at hsum
    simpa [Signal.total, Signal.due, Function.comp_def] using hsum
  rw [htotal, Signal.count, Finset.sum_singleton] at hcount
  exact_mod_cast hcount

/-- Two documents for every member: one below the caller, one below the member. -/
theorem Places.count_all (h : Places c₀ d members isVideoCall ticks es c)
    (hmembers : Registered c₀.world members)
    (hcaller : (c₀.world.session d).id ∈ members.map Member.id) :
    (placedBy c₀ d ticks).count (fun _ => true) (members.map Member.id).toFinset c.world =
      2 * members.length := by
  have hcount := h.count_eq hmembers (fun _ => true) (members.map Member.id).toFinset
  have hdue : ∀ m ∈ members, (placedBy c₀ d ticks).due (fun _ => true)
      (members.map Member.id).toFinset m.id = 2 := by
    intro m hm
    have hm' : m.id ∈ (members.map Member.id).toFinset :=
      List.mem_toFinset.mpr (List.mem_map_of_mem hm)
    have hcaller' : (placedBy c₀ d ticks).callerId ∈ (members.map Member.id).toFinset :=
      List.mem_toFinset.mpr hcaller
    simp only [Signal.due, hm', hcaller', true_and, if_true]
    rfl
  have htotal : (placedBy c₀ d ticks).total (fun _ => true)
      (members.map Member.id).toFinset members = 2 * members.length := by
    rw [Signal.total, List.map_congr_left hdue, List.map_const', List.sum_replicate]
    simp [mul_comm]
  rw [htotal] at hcount
  exact_mod_cast hcount

/-- The run ends the call: the red button of a screen with the call is pressed. Only the screen
of the caller knows the members. -/
structure EndsFor (c : Config World Scope) (members : List Member) (k : ℕ)
    (status : Option String) (ticks : ℕ → Tick) (es : List (Event Action))
    (c' : Config World Scope) : Prop where
  call : ∃ call, (c.world.ctrl.get k).call = some call ∧ call.receiver = some members
  succeeds : ∀ n, (ticks n).fails = false
  run : calling.Run System.CarriesOn (calling.apply c (.call (.onCallEnd k status) ticks)) es c'
  settled : c'.Settled

variable {c' : Config World Scope} {k : ℕ} {status : Option String} {ticks' : ℕ → Tick}
  {es' : List (Event Action)}

/-- How many documents the end of the call takes away at most: one for each member of the group and
one for the caller, however the deletions are ordered. -/
theorem EndsFor.count_le {σ : Signal} (h : EndsFor c members k status ticks' es' c')
    (hset : c.Settled) (hi : σ.protocol.inv c.world) (hne : members ≠ []) (us : Finset String) :
    σ.count (fun _ => true) us c.world ≤
      σ.count (fun _ => true) us c'.world + (members.length + 1) := by
  obtain ⟨call, hcall, hreceiver⟩ := h.call
  have hstart : c.Balanced σ.protocol (σ.deletions us) (-σ.count (fun _ => true) us c.world) := by
    refine ⟨hi, [], ?_, ?_⟩
    · rw [hset]
      exact .nil
    · simp only [Signal.deletions, List.sum_nil, add_zero]
      exact Ledger.fits_refl _ _
  obtain ⟨n, hn, -, hle⟩ := System.balanced_call (S := calling) (a := .onCallEnd k status) hstart
    (fun _ => h.succeeds) (Signal.owes_endButton hi hcall hreceiver hne)
  have hbal := (h.run.induct (I := fun c => c.Balanced σ.protocol (σ.deletions us) _) hn ?_).settled
    h.settled
  · obtain ⟨hfits, -⟩ := hbal
    simp only [Signal.deletions] at hfits
    omega
  · intro c e hc he
    cases e with
    | call a ticks => exact he.elim
    | resume i ticks => exact (System.balanced_resume hc (fun _ _ _ => he) fun _ _ => trivial).1

/-- **A call to a group is never signalled as it should be**: the caller gets an incoming call of
his own. And if there is another member, documents are left when the call has ended. -/
theorem group_call_never (h : Places c₀ d members isVideoCall ticks es c)
    (hmembers : Registered c₀.world members) (hnodup : (members.map Member.id).Nodup)
    (hcaller : (c₀.world.session d).id ∈ members.map Member.id) :
    (∀ m ∈ members, ((placedBy c₀ d ticks).incoming c.world m.id).length = 1) ∧
    ¬ (placedBy c₀ d ticks).Signalled members c.world ∧
    ∀ k status ticks' es' c', EndsFor c members k status ticks' es' c' → 1 < members.length →
      ¬ (placedBy c₀ d ticks).Cleared members c'.world := by
  have hone := h.length_incoming hmembers hnodup
  refine ⟨hone, fun hsignalled => ?_, fun k status ticks' es' c' hend hlen hcleared => ?_⟩
  · obtain ⟨m, hm, hid⟩ := List.mem_map.mp hcaller
    replace hid : m.id = (placedBy c₀ d ticks).callerId := hid
    have hnone := hsignalled m hm
    rw [hone m hm, if_pos hid] at hnone
    exact absurd hnone Nat.one_ne_zero
  · have hall := h.count_all hmembers hcaller
    have hinv := (h.balanced hmembers (fun _ => true) ∅).inv
    have hne : members ≠ [] := List.ne_nil_of_length_pos (by omega)
    have hleft := hend.count_le h.settled hinv hne (members.map Member.id).toFinset
    have hzero : (placedBy c₀ d ticks).count (fun _ => true) (members.map Member.id).toFinset
        c'.world = 0 := by
      refine Finset.sum_eq_zero fun u hu => ?_
      obtain ⟨m, hm, rfl⟩ := List.mem_map.mp (List.mem_toFinset.mp hu)
      rw [hcleared m hm, List.length_nil]
    omega

end Settled

/-! ## Alice and Bob -/

/-- A group of two. -/
def aliceAndBob : List Member := [⟨"alice", "alice"⟩, ⟨"bob", "bob"⟩]

/-- The clock, while no operation fails. -/
def clock (n : ℕ) : Tick := ⟨5000000 + n, 0, false⟩

/-- Everything that is suspended is carried on. -/
def carryOn (n : ℕ) : List (Event Action) := List.replicate n (.resume 0 clock)

/-- Alice has placed a video call to the group. -/
def groupCalled : Config World Scope :=
  calling.exec (calling.apply threeUsers (.call (.audioAndVideoCall 0 aliceAndBob true) clock))
    (carryOn 60)

/-- She has ended it. -/
def groupEnded : Config World Scope :=
  calling.exec (calling.apply groupCalled (.call (.onCallEnd 0 none) clock)) (carryOn 30)

theorem allowed_carryOn (n : ℕ) (c : Config World Scope) :
    calling.Allowed System.CarriesOn c (carryOn n) := by
  induction n generalizing c with
  | zero => trivial
  | succ n ih => exact ⟨fun _ => rfl, ih _⟩

theorem places_groupCalled : Places threeUsers 0 aliceAndBob true clock (carryOn 60) groupCalled :=
  ⟨rfl, fun _ => rfl, System.run_exec (allowed_carryOn ..), by decide +kernel⟩

theorem endsFor_groupEnded :
    EndsFor groupCalled aliceAndBob 0 none clock (carryOn 30) groupEnded := by
  refine ⟨?_, fun _ => rfl, System.run_exec (allowed_carryOn ..), by decide +kernel⟩
  have hcall : ((groupCalled.world.ctrl.get 0).call.bind Call.receiver) = some aliceAndBob := by
    decide +kernel
  obtain ⟨call, hsome, hreceiver⟩ := Option.bind_eq_some_iff.mp hcall
  exact ⟨call, hsome, hreceiver⟩

theorem group_call_never_aliceAndBob :
    ¬ (placedBy threeUsers 0 clock).Signalled aliceAndBob groupCalled.world ∧
      ¬ (placedBy threeUsers 0 clock).Cleared aliceAndBob groupEnded.world := by
  obtain ⟨-, hsignalled, hcleared⟩ := group_call_never places_groupCalled
    (fun m _ => ⟨person m.id, rfl, rfl⟩) (by decide) (by decide)
  exact ⟨hsignalled, hcleared _ _ _ _ _ endsFor_groupEnded (by decide)⟩

/-- Alice is called by herself, and Bob's document stays when the call is over. -/
theorem group_call_left :
    (¬ ∀ es c, Places threeUsers 0 aliceAndBob true clock es c →
      (placedBy threeUsers 0 clock).Signalled aliceAndBob c.world) ∧
    ¬ ∀ k status ticks es c, EndsFor groupCalled aliceAndBob k status ticks es c →
      (placedBy threeUsers 0 clock).Cleared aliceAndBob c.world := by
  constructor
  · intro h
    exact absurd (h _ _ places_groupCalled) (by decide +kernel)
  · intro h
    have hempty := congrArg List.length (h _ _ _ _ _ endsFor_groupEnded ⟨"bob", "bob"⟩ (by decide))
    exact absurd hempty (by decide +kernel)

end FlutterTheme.Calls
