import FlutterTheme.Duties
import FlutterTheme.Group
import Mathlib.Algebra.BigOperators.Group.Multiset.Basic

/-!
# A message to a group reaches every member

`saveGroupData` starts one call for every member and awaits none of them. Each of them looks the
member's entry up, writes it and notifies the member. Whatever the order, once nothing is
suspended every entry has been written once and every notification sent once
(`group_fan_out`).
-/

namespace FlutterTheme

open EventLoop DocStore

/-- The members of a group have distinct ids, a user document, and one entry for the group each. -/
structure Members (w : World) (groupId : String) (users : List SelectedContact) : Prop where
  nodup : (users.map (·.id)).Nodup
  registered : ∀ m ∈ users, ∃ doc, w.store.doc? .users (.named m.id) = some doc
  entry : ∀ m ∈ users, ∃ doc,
    w.store.query (.chats m.id) (Fields.isEqualTo .groupId (.str groupId)) = [doc]

/-- A message that is sent to a group. -/
structure GroupMessage where
  user : UserData
  groupId : String
  content : String
  name : String

namespace GroupMessage

variable (μ : GroupMessage)

/-- The fields of an entry that are written. -/
def fields (updateStamp : String) : Data := .ofList [
  (.updateStamp, .str updateStamp),
  (.lastMessage, .str μ.content),
  (.senderId, .str μ.user.id)]

/-- The notification to one member, none to the sender and to a member with an empty token. -/
def notices (w : World) (m : SelectedContact) : List Notification :=
  if μ.user.id = m.id ∨ w.store.fieldsAt .users (.named m.id) .pushToken = some (.str "") then []
  else [{
    title := "Group Message"
    msg := μ.content
    token := (w.store.fieldsAt .users (.named m.id) .pushToken).getD .null
    dataTitle := μ.name
    groupId := some μ.groupId }]

/-- The entry of the member for the group has been written at a time that the clock gave, and is
otherwise as it was, as are the other entries of the member. -/
def Saved (clock : ℕ → Prop) (w : World) (m : SelectedContact) (w' : World) : Prop :=
  ∃ now, clock now ∧
    ∀ doc ∈ w.store.query (.chats m.id) (Fields.isEqualTo .groupId (.str μ.groupId)),
      w'.store.docs (.chats m.id) =
        (w.store.update (.chats m.id) doc.id (μ.fields (toString (now / 1000)))).docs (.chats m.id)

/-- What the message is to bring about. -/
structure FannedOut (clock : ℕ → Prop) (users : List SelectedContact) (w w' : World) : Prop where
  /-- every member's entry shows it -/
  saved : ∀ m ∈ users, μ.Saved clock w m w'
  /-- no other document has changed -/
  frame : ∀ p, (∀ m ∈ users, p ≠ .chats m.id) → w'.store.docs p = w.store.docs p
  /-- every member who is to be notified has been, once -/
  notified : w'.notifications.Perm (users.flatMap (μ.notices w) ++ w.notifications)

end GroupMessage

/-! ## What the calls for the members have to do -/

/-- A part of what is to be done for a member. -/
inductive FanDuty : Type where
  /-- all of it -/
  | look : SelectedContact → FanDuty
  /-- to write the entry -/
  | save : SelectedContact → FanDuty
  /-- to send the notification -/
  | tell : SelectedContact → FanDuty

/-- Whose entry is still to be written. -/
def FanDuty.entries : FanDuty → Multiset String
  | look m | save m => {m.id}
  | tell _ => 0

/-- The notifications still to be sent. -/
def FanDuty.notices (μ : GroupMessage) (w : World) : FanDuty → Multiset Notification
  | look m | tell m => μ.notices w m
  | save _ => 0

/-- The entries still to be written. -/
abbrev entriesDue (r : Multiset FanDuty) : Multiset String := (r.map FanDuty.entries).sum

/-- The notifications still to be sent. -/
abbrev noticesDue (μ : GroupMessage) (w : World) (r : Multiset FanDuty) : Multiset Notification :=
  (r.map (FanDuty.notices μ w)).sum

@[simp] theorem entriesDue_cons (x : FanDuty) (r : Multiset FanDuty) :
    entriesDue (x ::ₘ r) = x.entries + entriesDue r := by
  simp [entriesDue]

@[simp] theorem noticesDue_cons (μ : GroupMessage) (w : World) (x : FanDuty)
    (r : Multiset FanDuty) : noticesDue μ w (x ::ₘ r) = x.notices μ w + noticesDue μ w r := by
  simp [noticesDue]

/-- Where the message has got to when there is still `r` to be done. -/
structure GroupMessage.Under (μ : GroupMessage) (clock : ℕ → Prop) (users : List SelectedContact)
    (w w' : World) (r : Multiset FanDuty) : Prop where
  /-- every entry is written once -/
  nodup : (entriesDue r).Nodup
  frame : ∀ p, (∀ m ∈ users, p ≠ .chats m.id) → w'.store.docs p = w.store.docs p
  due : ∀ m ∈ users, m.id ∈ entriesDue r → w'.store.docs (.chats m.id) = w.store.docs (.chats m.id)
  saved : ∀ m ∈ users, m.id ∉ entriesDue r → μ.Saved clock w m w'
  notified : (w'.notifications : Multiset Notification) + noticesDue μ w r =
    w.notifications + (users.flatMap (μ.notices w) : List Notification)

/-- The runs looked at: no operation fails, and the clock gives the times of `clock`. -/
def GroupMessage.duties (μ : GroupMessage) (clock : ℕ → Prop) (users : List SelectedContact)
    (w : World) : Duties World Scope (Multiset FanDuty) where
  admits t := t.fails = false ∧ clock t.now
  inv := μ.Under clock users w

section FanOut

variable {μ : GroupMessage} {clock : ℕ → Prop} {users : List SelectedContact}
  {w w' : World} {m : SelectedContact} {r : Multiset FanDuty}

/-- An operation of such a run does not fail. -/
theorem succeeds {t : Tick} (ht : (μ.duties clock users w).admits t) {p : Prop}
    (h : t.fails = true) : p :=
  absurd (h.symm.trans ht.1) Bool.noConfusion

/-- The same entries are due, and what has been sent and is due makes up the same. -/
theorem GroupMessage.Under.regroup {r' : Multiset FanDuty} {sent : List Notification}
    (h : μ.Under clock users w w' r) (hentries : entriesDue r' = entriesDue r)
    (hnotices : (sent : Multiset Notification) + noticesDue μ w r' =
      w'.notifications + noticesDue μ w r) :
    μ.Under clock users w { w' with notifications := sent } r' where
  nodup := hentries ▸ h.nodup
  frame := h.frame
  due := hentries ▸ h.due
  saved := hentries ▸ h.saved
  notified := hnotices.trans h.notified

/-- To look an entry up and notify the member is all there is to be done. -/
theorem under_split (h : μ.Under clock users w w' ({.look m} + r)) :
    μ.Under clock users w w' ({.save m} + {.tell m} + r) :=
  h.regroup (by simp [FanDuty.entries]) (by simp [FanDuty.notices])

/-- A member who is not to be notified needs no notification. -/
theorem under_drop (hn : μ.notices w m = []) (h : μ.Under clock users w w' ({.tell m} + r)) :
    μ.Under clock users w w' r :=
  h.regroup (by simp [FanDuty.entries]) (by simp [FanDuty.notices, hn])

/-- The notification is sent. -/
theorem under_tell {n : Notification} (hn : μ.notices w m = [n])
    (h : μ.Under clock users w w' ({.tell m} + r)) :
    μ.Under clock users w { w' with notifications := n :: w'.notifications } (0 + r) := by
  have hnotices : noticesDue μ w ({.tell m} + r) = {n} + noticesDue μ w (0 + r) := by
    simp [FanDuty.notices, hn]
  refine h.regroup (by simp [FanDuty.entries]) ?_
  rw [hnotices, ← Multiset.cons_coe, ← Multiset.singleton_add, add_assoc, add_left_comm]

/-- The entry of one member is written: it now says the message, and the entries of the members
whose duty is still to be done are as they were. -/
theorem under_save {doc : Document} {now : ℕ} (hm : m ∈ users)
    (hdoc : w.store.query (.chats m.id) (Fields.isEqualTo .groupId (.str μ.groupId)) = [doc])
    (hnow : clock now) (h : μ.Under clock users w w' ({.save m} + r)) :
    μ.Under clock users w { w' with
      store := w'.store.update (.chats m.id) doc.id (μ.fields (toString (now / 1000))) }
      (0 + r) := by
  have hentries : entriesDue ({.save m} + r) = {m.id} + entriesDue (0 + r) := by
    simp [FanDuty.entries]
  have hnotices : noticesDue μ w ({.save m} + r) = noticesDue μ w (0 + r) := by
    simp [FanDuty.notices]
  have hnodup := h.nodup
  rw [hentries, Multiset.singleton_add, Multiset.nodup_cons] at hnodup
  obtain ⟨hnot, hnodup⟩ := hnodup
  have hmdue : w'.store.docs (.chats m.id) = w.store.docs (.chats m.id) :=
    h.due m hm (hentries ▸ Multiset.mem_add.mpr (Or.inl (Multiset.mem_singleton_self _)))
  -- the entries of the other members are those they were
  have hother : ∀ m' ∈ users, m'.id ≠ m.id →
      (w'.store.update (.chats m.id) doc.id (μ.fields (toString (now / 1000)))).docs
        (.chats m'.id) = w'.store.docs (.chats m'.id) := fun m' _ hne =>
    Store.docs_update_of_ne (by simpa using hne)
  refine ⟨hnodup, fun p hp => ?_, fun m' hm' hdue => ?_, fun m' hm' hdue => ?_, ?_⟩
  · rw [← h.frame p hp]
    exact Store.docs_update_of_ne (hp m hm)
  · have hne : m'.id ≠ m.id := fun heq => hnot (heq ▸ hdue)
    rw [← h.due m' hm' (hentries ▸ Multiset.mem_add.mpr (Or.inr hdue))]
    exact hother m' hm' hne
  · by_cases hid : m'.id = m.id
    · refine ⟨now, hnow, fun doc' hdoc' => ?_⟩
      rw [hid] at hdoc' ⊢
      rw [hdoc] at hdoc'
      obtain rfl := List.mem_singleton.mp hdoc'
      simp only [Store.update, hmdue]
    · obtain ⟨now', hnow', hsaved⟩ := h.saved m' hm' (by
        rw [hentries, Multiset.mem_add, Multiset.mem_singleton]
        exact not_or.mpr ⟨hid, hdue⟩)
      exact ⟨now', hnow', fun doc' hdoc' => (hother m' hm' hid).trans (hsaved doc' hdoc')⟩
  · rw [← hnotices]
    exact h.notified

/-! ## The calls -/

/-- The update of a member's entry. -/
theorem leaves_save {doc : Document} {now : ℕ} (hm : m ∈ users)
    (hdoc : w.store.query (.chats m.id) (Fields.isEqualTo .groupId (.str μ.groupId)) = [doc])
    (hnow : clock now) {R : World → Multiset FanDuty → Prop} (hR : R w' {.save m}) :
    (update (.chats m.id) doc.id (μ.fields (toString (now / 1000)))).task.Leaves
      (μ.duties clock users w) w' R := by
  have hmem : doc ∈ w.store.docs (.chats m.id) :=
    List.mem_of_mem_filter (hdoc ▸ List.mem_singleton_self doc)
  refine Async.Leaves.task (Async.leaves_bind (Async.leaves_remote {FanDuty.save m} (fun _ => trivial) hR
    (fun t _ _ w'' f hu => ⟨0, fun _ => trivial, under_save hm hdoc hnow hu, fun w₃ f' hu' => ?_⟩)
    fun t ht hf => succeeds ht hf))
  have hdue : w''.store.docs (.chats m.id) = w.store.docs (.chats m.id) :=
    hu.due m hm (by simp [FanDuty.entries])
  have hfound : w''.store.doc? (.chats m.id) doc.id = some doc :=
    w''.store.doc?_eq_some.mpr ⟨hdue ▸ hmem, rfl⟩
  simp only [hfound, Option.isSome_some, if_true]
  exact Async.leaves_pure hu'

/-- The notification of a member: its user document is read, and a member with a token gets one
notification with that token. -/
theorem leaves_tell (hw : Members w μ.groupId users) (hm : m ∈ users) (hne : μ.user.id ≠ m.id)
    {R : World → Multiset FanDuty → Prop} (hR : R w' {.tell m}) :
    (notifyMember μ.groupId μ.content μ.name m).task.Leaves (μ.duties clock users w) w' R := by
  obtain ⟨doc, hdoc⟩ := hw.registered m hm
  have hfields : w.store.fieldsAt .users (.named m.id) = doc.data := by
    simp [Store.fieldsAt, hdoc]
  refine Async.Leaves.task (Async.leaves_bind (Async.leaves_remote {FanDuty.tell m} (fun _ => trivial) hR
    (fun t _ _ w'' f hu => ⟨_, fun _ => trivial, hu, fun w₃ f' hu' => ?_⟩) fun t ht hf => succeeds ht hf))
  -- no user document has changed
  have hsnap : w''.store.doc? .users (.named m.id) = some doc := by
    rw [← hdoc, Store.doc?, Store.doc?, hu.frame .users fun _ _ h => Path.noConfusion h]
  simp only [hsnap]
  split
  case isTrue htoken =>
    refine Async.leaves_pure ?_
    rw [Duties.after, zero_add]
    exact under_drop (if_pos (Or.inr (hfields ▸ htoken))) hu'
  case isFalse htoken =>
    have hnotices : μ.notices w m = [{
        title := "Group Message"
        msg := μ.content
        token := (doc.data .pushToken).getD .null
        dataTitle := μ.name
        groupId := some μ.groupId }] := by
      rw [GroupMessage.notices, hfields, if_neg (not_or.mpr ⟨hne, htoken⟩)]
    refine Async.leaves_spawn (Async.Leaves.task (Async.leaves_bind (Async.leaves_attempt
      {FanDuty.tell m} (fun _ => trivial) ?_
      (fun t _ _ w₄ f'' hu'' => ⟨0, fun _ => trivial, under_tell hnotices hu'', fun w₅ f₃ hu₃ => ?_⟩)
      fun t ht hf => succeeds ht hf)))
    · show μ.Under clock users w w₃ ({.tell m} + 0 + f')
      rwa [add_zero]
    · exact Async.leaves_pure hu₃

/-- The call for one member: the query finds the member's only entry for the group, whose update and
whose notification are left to be done in any order. -/
theorem leaves_saveGroupEntry (hw : Members w μ.groupId users) (hm : m ∈ users)
    {R : World → Multiset FanDuty → Prop} (hR : R w' {.look m}) :
    (saveGroupEntry μ.user μ.groupId μ.content μ.name m).task.Leaves (μ.duties clock users w)
      w' R := by
  obtain ⟨doc, hdoc⟩ := hw.entry m hm
  refine Async.Leaves.task (Async.leaves_bind (Async.leaves_remote {FanDuty.look m} (fun _ => trivial) hR
    (fun t _ _ w'' f hu => ⟨_, fun _ => trivial, hu, fun w₃ f' hu' => ?_⟩) fun t ht hf => succeeds ht hf))
  have hquery : w''.store.query (.chats m.id) (Fields.isEqualTo .groupId (.str μ.groupId)) =
      [doc] := by
    rw [← hdoc, Store.query, Store.query, hu.due m hm (by simp [FanDuty.entries])]
  simp only [hquery]
  refine Async.leaves_bind (Async.leaves_sync fun t ht => ?_)
  have hsplit := under_split hu'
  -- what is left is the update and, but for the sender, the notification
  refine Async.leaves_bind (Async.leaves_spawn (leaves_save hm hdoc ht.2 ?_))
  split
  case isTrue hne =>
    refine Async.leaves_spawn (leaves_tell hw hm hne ?_)
    show μ.Under clock users w w₃ ({.save m} + ({.tell m} + 0) + f')
    rwa [add_zero]
  case isFalse heq =>
    refine Async.leaves_pure ?_
    show μ.Under clock users w w₃ ({.save m} + 0 + f')
    rw [add_comm {FanDuty.save m}, add_assoc] at hsplit
    rw [add_zero]
    exact under_drop (if_pos (Or.inl (not_not.mp heq))) hsplit

/-- The duties of all calls for the members: nothing has been written yet, and every member is still
to be looked up. -/
theorem under_start (hw : Members w μ.groupId users) :
    μ.Under clock users w w ((users.map fun m => ({.look m} : Multiset FanDuty)).sum + 0) := by
  have hentries : ∀ as : List SelectedContact,
      entriesDue ((as.map fun m => ({.look m} : Multiset FanDuty)).sum + 0) =
        ((as.map (·.id) : List String) : Multiset String) := by
    intro as
    induction as with
    | nil => rfl
    | cons m as ih =>
      rw [List.map_cons, List.sum_cons, add_assoc, Multiset.singleton_add,
        entriesDue_cons, ih]
      simp [FanDuty.entries]
  have hnotices : ∀ as : List SelectedContact,
      noticesDue μ w ((as.map fun m => ({.look m} : Multiset FanDuty)).sum + 0) =
        ((as.flatMap (μ.notices w) : List Notification) : Multiset Notification) := by
    intro as
    induction as with
    | nil => rfl
    | cons m as ih =>
      rw [List.map_cons, List.sum_cons, add_assoc, Multiset.singleton_add,
        noticesDue_cons, ih]
      simp [FanDuty.notices]
  refine ⟨?_, fun _ _ => rfl, fun _ _ _ => rfl, fun m hm hnot => ?_, ?_⟩
  · rw [hentries]
    exact hw.nodup
  · rw [hentries] at hnot
    exact absurd (List.mem_map_of_mem hm) hnot
  · rw [hnotices]

end FanOut

/-- **A message to a group is fanned out**: once nothing is suspended, every member's entry for the
group shows it, no other document has changed, and every member with a token but the sender has
been notified once. -/
theorem group_fan_out {w : World} {d : ℕ} {groupId content : String}
    {pData : GroupChatMessageController} {clock : ℕ → Prop} {l : Scope} {ticks : ℕ → Tick}
    {es : List (Event Empty)} {c : Config World Scope} (hw : Members w groupId pData.users)
    (hticks : ∀ n, (ticks n).fails = false ∧ clock (ticks n).now)
    (h : (System.quiet World Scope).Run
      (fun _ e => ∀ n, (e.ticks n).fails = false ∧ clock (e.ticks n).now)
      ((saveGroupData d groupId content pData).start l ticks w) es c) (hc : c.Settled) :
    (GroupMessage.mk (w.session d) groupId content pData.pName).FannedOut clock pData.users w
      c.world := by
  have hstart : (GroupMessage.mk (w.session d) groupId content pData.pName).Under clock pData.users
      w w ((pData.users.map fun m => ({.look m} : Multiset FanDuty)).sum + 0) := under_start hw
  have hleaves : (saveGroupData d groupId content pData).task.Leaves
      ((GroupMessage.mk (w.session d) groupId content pData.pName).duties clock pData.users w) w
      (Duties.after
        ((GroupMessage.mk (w.session d) groupId content pData.pName).duties clock pData.users w)
        0) := by
    refine Async.Leaves.task (Async.leaves_bind (Async.leaves_get ?_))
    refine Async.leaves_forEach (fun m => {.look m}) (· = w) rfl
      (fun m hm w' hw' => leaves_saveGroupEntry hw hm ⟨hw', rfl⟩) fun w' hw' => ?_
    obtain rfl := hw'
    simp only [Duties.after, add_zero] at hstart ⊢
    exact hstart
  have hdone := System.Run.done (fun _ _ => trivial) hleaves hticks h hc
  refine ⟨fun m hm => hdone.saved m hm (by simp [entriesDue]), hdone.frame, ?_⟩
  have hnotified := hdone.notified
  simp only [noticesDue, Multiset.map_zero, Multiset.sum_zero, add_zero] at hnotified
  rw [add_comm, Multiset.coe_add] at hnotified
  exact Multiset.coe_eq_coe.mp hnotified

/-- Alice, who is signed in everywhere, and Bob are the members of the group `g`. -/
def groupOfTwo : World :=
  { World.initial fun _ => ⟨"alice", "Alice", "1", ""⟩ with
    store := (((Store.empty.set .users "alice" 0 (.ofList [(.pushToken, .str "ta")])).set
      .users "bob" 1 (.ofList [(.pushToken, .str "tb")])).set
      (.chats "alice") "e" 0 (.ofList [(.groupId, .str "g"), (.lastMessage, .str "hi")])).set
      (.chats "bob") "e" 0 (.ofList [(.groupId, .str "g"), (.lastMessage, .str "hi")]) }

/-- The members as their group lists them. -/
def bothMembers : List SelectedContact :=
  [⟨"alice", "Alice", "1", "", none⟩, ⟨"bob", "Bob", "2", "", none⟩]

/-- The screen of the group. -/
def groupScreen : GroupChatMessageController where
  device := 0
  pId := "g"
  pName := "Group"
  users := bothMembers

/-- The clock stands at five seconds, and nothing fails. -/
def fiveSeconds : ℕ → Tick := fun _ => ⟨5000000, 0, false⟩

/-- The only time the clock gives. -/
def AtFiveSeconds (now : ℕ) : Prop := now = 5000000

/-- Alice's message to the group, with all its calls carried on to their end. -/
def helloSent : Config World Scope :=
  (System.quiet World Scope).exec
    ((saveGroupData 0 "g" "hello" groupScreen).start .idle fiveSeconds
      groupOfTwo)
    (List.replicate 20 (.resume 0 fiveSeconds))

/-- The message reaches both members at the time it was sent at. -/
theorem group_fan_out_two :
    (GroupMessage.mk ⟨"alice", "Alice", "1", ""⟩ "g" "hello" "Group").FannedOut AtFiveSeconds
      bothMembers groupOfTwo helloSent.world := by
  have hmembers : Members groupOfTwo "g" bothMembers := by
    refine ⟨by decide, fun m hm => ?_, fun m hm => ?_⟩ <;>
      rcases List.mem_cons.mp hm with rfl | hm
    · exact ⟨_, rfl⟩
    · obtain rfl := List.mem_singleton.mp hm
      exact ⟨_, rfl⟩
    · exact ⟨_, rfl⟩
    · obtain rfl := List.mem_singleton.mp hm
      exact ⟨_, rfl⟩
  have hrun : (System.quiet World Scope).Run
      (fun _ e => ∀ n, (e.ticks n).fails = false ∧ AtFiveSeconds (e.ticks n).now)
      ((saveGroupData 0 "g" "hello" groupScreen).start .idle fiveSeconds
        groupOfTwo) (List.replicate 20 (.resume 0 fiveSeconds)) helloSent :=
    System.run_replicate fun _ => ⟨rfl, rfl⟩
  have hsettled : helloSent.Settled := by decide +kernel
  have hticks : ∀ n, (fiveSeconds n).fails = false ∧ AtFiveSeconds (fiveSeconds n).now :=
    fun _ => ⟨rfl, rfl⟩
  exact group_fan_out hmembers hticks hrun hsettled

end FlutterTheme
