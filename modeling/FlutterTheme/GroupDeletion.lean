import FlutterTheme.Deletion
import FlutterTheme.Group

/-!
# Deleting a message of a group

`GroupDeleteAlert` deletes a message and then writes the newest one that is left into the first
document it finds in the inbox of every member, whatever that document is of. `deletion_fits`
says when this is right.
-/

namespace FlutterTheme

open EventLoop DocStore

/-! ## The dialog -/

/-- What is written into a document of a member's inbox. -/
def deletionFields (updateStamp : String) (message : Document) (user : UserData) : Data :=
  .ofList [
    (.updateStamp, .str updateStamp),
    (.lastMessage, (message.data .content).getD .null),
    (.senderId, .str user.id),
    (.sender, .user user)]

/-- The inbox of one member; `where("groupId")` has no condition and leaves nothing out. -/
def updateMember (g : ℕ) (message : Document) (element : SelectedContact) : Call Unit := do
  let contact ← getDocs (.chats element.id) fun _ => true
  match contact with
  | [] => pure ()
  | doc :: _ => do
    let updateStamp ← millisecondsSinceEpoch
    let chatCtrl ← groupChat g
    let user ← sessionUser chatCtrl.device
    Async.spawn (update (.chats element.id) doc.id (deletionFields updateStamp message user))

/-- `data()["receiver"]` of a message of a group, as a list. -/
def receiverOf (message : Document) : Option (List SelectedContact) :=
  match message.data .receiver with
  | some (.contacts receiver) => some receiver
  | _ => none

/-- What is done with the newest message; `docs[0]` of an empty result throws. -/
def updateMembers (g : ℕ) (value : Option Document) : Call Unit :=
  match value with
  | none => Async.throw
  | some message =>
    match receiverOf message with
    | some receiver => Async.forEach receiver (updateMember g message)
    | none => Async.throw

/-- "Yes" in `GroupDeleteAlert` for a message of the open group. -/
def groupDeleteAlert (g : ℕ) (documentReference : DocId) : Call Unit := do
  let chatCtrl ← groupChat g
  Async.spawn (delete (.groupMessage chatCtrl.pId) documentReference)
  -- `runTransaction` with an empty body
  Async.remote fun _ w => ((), w)
  let chatCtrl ← groupChat g
  let value ← Async.remote fun _ w => (newest (w.store.docs (.groupMessage chatCtrl.pId)), w)
  updateMembers g value

namespace GroupDeletion

/-! ## The dialog as a machine -/

/-- Where a call of the dialog is suspended. -/
inductive Point : Type where
  /-- the deletion is on its way -/
  | erase (pId : String) (id : DocId) : Point
  | erased : Point
  /-- the transaction is on its way -/
  | sync : Point
  | synced : Point
  /-- the newest message is to be read -/
  | read (pId : String) : Point
  | found (value : Option Document) : Point
  /-- the inbox of a member is to be read -/
  | look (message : Document) (e : SelectedContact) : Point
  | looked (message : Document) (e : SelectedContact) (contact : List Document) : Point
  /-- an update of it is on its way -/
  | save (u : String) (id : DocId) (data : Data) : Point
  | saved (found : Bool) : Point

/-- The dialog from the end of the transaction on. -/
def readNewest (g : ℕ) : Call Unit := do
  let chatCtrl ← groupChat g
  let value ← Async.remote fun _ w => (newest (w.store.docs (.groupMessage chatCtrl.pId)), w)
  updateMembers g value

/-- One member, when the inbox has been read. -/
def updateFirst (g : ℕ) (message : Document) (e : SelectedContact) (contact : List Document) :
    Call Unit :=
  match contact with
  | [] => pure ()
  | doc :: _ => do
    let updateStamp ← millisecondsSinceEpoch
    let chatCtrl ← groupChat g
    let user ← sessionUser chatCtrl.device
    Async.spawn (update (.chats e.id) doc.id (deletionFields updateStamp message user))

/-- The end of an update. -/
def updated (found : Bool) : Call Unit := if found then pure () else Async.throw

/-- What a call has left to do. -/
def task (g : ℕ) : Point → Task World Scope
  | .erase pId id =>
    .request (fun _ w => ((), { w with store := w.store.delete (.groupMessage pId) id }))
      fun _ => .done
  | .erased => .done
  | .sync => .request (fun _ w => ((), w)) fun _ => (readNewest g).task
  | .synced => (readNewest g).task
  | .read pId =>
    .request (fun _ w => (newest (w.store.docs (.groupMessage pId)), w)) fun value =>
      (updateMembers g value).task
  | .found value => (updateMembers g value).task
  | .look message e =>
    .request (fun _ w => (w.store.query (.chats e.id) fun _ => true, w)) fun contact =>
      (updateFirst g message e contact).task
  | .looked message e contact => (updateFirst g message e contact).task
  | .save u id data =>
    .request (fun _ w => ((w.store.doc? (.chats u) id).isSome,
      { w with store := w.store.update (.chats u) id data })) fun found => (updated found).task
  | .saved found => (updated found).task

/-- What a call does that is resumed. -/
def resume (g : ℕ) : Point → (ℕ → Tick) → World → Segment World Point
  | .erase pId id, ticks, w =>
    if (ticks 0).fails then .threw w
    else { world := { w with store := w.store.delete (.groupMessage pId) id }, points := [.erased] }
  | .erased, _, w => { world := w }
  | .sync, ticks, w =>
    if (ticks 0).fails then .threw w else { world := w, points := [.synced] }
  | .synced, _, w => { world := w, points := [.read (w.groupCtrl.get g).pId] }
  | .read pId, ticks, w =>
    if (ticks 0).fails then .threw w
    else { world := w, points := [.found (newest (w.store.docs (.groupMessage pId)))] }
  | .found value, _, w =>
    match value with
    | none => .threw w
    | some message =>
      match receiverOf message with
      | some receiver => { world := w, points := receiver.map (.look message) }
      | none => .threw w
  | .look message e, ticks, w =>
    if (ticks 0).fails then .threw w
    else { world := w, points := [.looked message e (w.store.query (.chats e.id) fun _ => true)] }
  | .looked message e contact, ticks, w =>
    match contact with
    | [] => { world := w }
    | doc :: _ =>
      { world := w
        points := [.save e.id doc.id (deletionFields (toString ((ticks 0).now / 1000)) message
          (w.session (w.groupCtrl.get g).device))] }
  | .save u id data, ticks, w =>
    if (ticks 0).fails then .threw w
    else { world := { w with store := w.store.update (.chats u) id data }
           points := [.saved (w.store.doc? (.chats u) id).isSome] }
  | .saved found, _, w => if found then { world := w } else .threw w

/-- The dialog as a machine. -/
def machine (g : ℕ) : Machine World Point Empty := ⟨fun a => a.elim, resume g⟩

/-- One member after the other is looked at, if the members are known. -/
theorem run_updateMembers {g : ℕ} {ticks : ℕ → Tick} {l : Scope} {w : World}
    (value : Option Document) :
    ((updateMembers g value).task.run ticks l 0 w).Is (task g)
      (resume g (.found value) ticks w) := by
  cases value with
  | none => exact ⟨rfl, rfl, rfl⟩
  | some message =>
    cases hreceiver : receiverOf message with
    | none =>
      simp only [updateMembers, resume, hreceiver]
      exact ⟨rfl, rfl, rfl⟩
    | some receiver =>
      have hrun : ((Async.forEach receiver (updateMember g message)).task.run ticks l 0 w).Is
          (task g) { world := w, points := receiver.map (.look message) ++ [] } :=
        Task.run_forEach (s := { world := w }) (fun e _ => rfl) ⟨rfl, rfl, rfl⟩
      simp only [updateMembers, resume, hreceiver]
      rwa [List.append_nil] at hrun

/-- The dialog's machine does what the dialog does, one suspension point at a time; the answer for
the group starts one thread for each member. -/
theorem models (g : ℕ) : (machine g).Models (System.quiet World Scope) (task g) where
  call a := a.elim
  resume p ticks l w := by
    cases p with
    | erase pId id =>
      simp only [task, machine, resume]
      exact Task.request_is rfl rfl
    | erased => exact ⟨rfl, rfl, rfl⟩
    | sync =>
      simp only [task, machine, resume]
      exact Task.request_is rfl rfl
    | synced => exact ⟨rfl, rfl, rfl⟩
    | read pId =>
      simp only [task, machine, resume]
      exact Task.request_is rfl rfl
    | found value => exact run_updateMembers value
    | look message e =>
      simp only [task, machine, resume]
      exact Task.request_is rfl rfl
    | looked message e contact =>
      cases contact with
      | nil => exact ⟨rfl, rfl, rfl⟩
      | cons doc docs => exact ⟨rfl, rfl, rfl⟩
    | save u id data =>
      simp only [task, machine, resume]
      exact Task.request_is rfl rfl
    | saved found =>
      cases found with
      | true => exact ⟨rfl, rfl, rfl⟩
      | false => exact ⟨rfl, rfl, rfl⟩

/-! ## What is to hold -/

section Dialog

variable (g : ℕ) (id : DocId) (users : List SelectedContact) (w : World)

/-- The group whose screen is open. -/
def groupId : String := (w.groupCtrl.get g).pId

/-- The user who deletes the message. -/
def deleter : UserData := w.session (w.groupCtrl.get g).device

/-- The messages of the group when the message has been deleted. -/
def remaining : List Document :=
  (w.store.delete (.groupMessage (groupId g w)) id).docs (.groupMessage (groupId g w))

/-- Every member has one entry for the group, and its messages were sent to its members. -/
structure Stored : Prop where
  entry : ∀ e ∈ users, ∃ doc,
    w.store.query (.chats e.id) (Fields.isEqualTo .groupId (.str (groupId g w))) = [doc]
  message : ∀ x ∈ w.store.docs (.groupMessage (groupId g w)), ∃ sender senderName content type
    timestamp, x.data =
      groupMessageFields sender senderName users content (groupId g w) type timestamp

/-- What is to hold when the dialog has come to its end. -/
structure Deleted (c : Config World Scope) : Prop where
  gone : ∀ x ∈ c.world.store.docs (.groupMessage (groupId g w)), x.id ≠ id
  /-- the entries of the members show the newest message -/
  shows : ∀ m, newest (remaining g id w) = some m → ∀ e ∈ users, ∃ doc,
    c.world.store.query (.chats e.id) (Fields.isEqualTo .groupId (.str (groupId g w))) = [doc] ∧
      doc.data .lastMessage = m.data .content ∧ doc.data .senderId = m.data .sender
  /-- nothing else has changed -/
  frame : w.store.Frame (fun p d => (p = .groupMessage (groupId g w) ∧ d.id = id) ∨
    ∃ e ∈ users, p = .chats e.id ∧ d.data .groupId = some (.str (groupId g w))) c.world.store
  returns : c.uncaught = []

/-- A message is left, and the first document in the inbox of every member is the entry for the
group. The user who deletes has sent the newest message that is left. -/
def Fits : Prop :=
  ∃ m, newest (remaining g id w) = some m ∧ ∀ e ∈ users,
    m.data .sender = some (.str (deleter g w).id) ∧
      ∃ doc docs, w.store.docs (.chats e.id) = doc :: docs ∧
        doc.data .groupId = some (.str (groupId g w))

/-- No entry of a member was written at a time that the clock is still to give. -/
def Ahead (clock : ℕ → Prop) : Prop :=
  ∀ e ∈ users, ∀ x ∈ w.store.docs (.chats e.id), ∀ now, clock now →
    x.data .updateStamp ≠ some (.str (toString (now / 1000)))

end Dialog

/-! ## What the dialog does -/

/-- The documents of an inbox after an update of the first. -/
def firstUpdated (data : Data) : List Document → List Document
  | [] => []
  | doc :: docs => ⟨doc.id, doc.data.merge data⟩ :: docs

section Inv

variable (g : ℕ) (users : List SelectedContact) (clock : ℕ → Prop) (w₀ : World)

/-- The newest message of the group. -/
def lastMessage : Option Document := newest (w₀.store.docs (.groupMessage (groupId g w₀)))

/-- What a document in the inbox of a member is overwritten with. -/
def written (m : Document) (now : ℕ) : Data :=
  deletionFields (toString (now / 1000)) m (deleter g w₀)

/-- The first document in the inbox of `u` has been overwritten. -/
def Touched (m : Document) (u : String) (w : World) : Prop :=
  ∃ now, clock now ∧
    w.store.docs (.chats u) = firstUpdated (written g w₀ m now) (w₀.store.docs (.chats u))

/-- What is known at a point. -/
def Point.Ok : Point → Prop
  | .erase _ _ => False
  | .erased | .sync | .synced => True
  | .read pId => pId = groupId g w₀
  | .found value => value = lastMessage g w₀
  | .look m e => lastMessage g w₀ = some m ∧ e ∈ users
  | .looked m e contact => lastMessage g w₀ = some m ∧ e ∈ users ∧
      contact.head?.map (·.id) = (w₀.store.docs (.chats e.id)).head?.map (·.id)
  | .save u id data => ∃ m now, lastMessage g w₀ = some m ∧ clock now ∧ (∃ e ∈ users, u = e.id) ∧
      (w₀.store.docs (.chats u)).head?.map (·.id) = some id ∧ data = written g w₀ m now
  | .saved b => b = true

/-- The call is still to come to the members. -/
def Point.Main : Point → Prop
  | .sync | .synced | .read _ | .found _ => True
  | _ => False

/-- The inbox of `u` is still to be written. -/
def Point.Due (u : String) : Point → Prop
  | .look _ e | .looked _ e _ => e.id = u
  | .save u' _ _ => u' = u
  | p => p.Main

/-- Where the dialog has got to when calls are suspended at the points `r`. -/
structure Inv (w : World) (r : Multiset Point) (n : ℕ) : Prop where
  groupCtrl : w.groupCtrl = w₀.groupCtrl
  session : w.session = w₀.session
  ok : ∀ p ∈ r, p.Ok g users clock w₀
  frame : ∀ p, (∀ e ∈ users, p ≠ .chats e.id) → w.store.docs p = w₀.store.docs p
  inbox : ∀ e ∈ users, w.store.docs (.chats e.id) = w₀.store.docs (.chats e.id) ∨
    ∃ m, lastMessage g w₀ = some m ∧ Touched g clock w₀ m e.id w
  due : ∀ m, lastMessage g w₀ = some m → n = 0 ∧
    ∀ e ∈ users, Touched g clock w₀ m e.id w ∨ ∃ p ∈ r, p.Due e.id
  /-- without a message the call throws -/
  empty : lastMessage g w₀ = none → 1 ≤ n ∨ ∃ p ∈ r, p.Main

end Inv

section Steps

variable {g : ℕ} {users : List SelectedContact} {clock : ℕ → Prop} {w₀ w : World}
  {r : Multiset Point} {n : ℕ} {p : Point} {u : String} {id : DocId} {data : Data}

/-- A point at which nothing is written: what was due at it is due at one of the points that follow.
-/
theorem Inv.step (h : Inv g users clock w₀ w (p ::ₘ r) n) (ps : List Point)
    (hok : ∀ q ∈ ps, q.Ok g users clock w₀)
    (hdue : ∀ m, lastMessage g w₀ = some m → ∀ e ∈ users, p.Due e.id → ∃ q ∈ ps, q.Due e.id)
    (hmain : lastMessage g w₀ = none → p.Main → ∃ q ∈ ps, q.Main) :
    Inv g users clock w₀ w (ps + r) n where
  groupCtrl := h.groupCtrl
  session := h.session
  ok q hq := by
    rcases Multiset.mem_add.mp hq with hq | hq
    · exact hok q hq
    · exact h.ok q (Multiset.mem_cons_of_mem hq)
  frame := h.frame
  inbox := h.inbox
  due m hm := by
    refine ⟨(h.due m hm).1, fun e he => ?_⟩
    rcases (h.due m hm).2 e he with htouched | ⟨q, hq, hqdue⟩
    · exact Or.inl htouched
    · rcases Multiset.mem_cons.mp hq with rfl | hq
      · obtain ⟨q', hq', hdue'⟩ := hdue m hm e he hqdue
        exact Or.inr ⟨q', Multiset.mem_add.mpr (Or.inl hq'), hdue'⟩
      · exact Or.inr ⟨q, Multiset.mem_add.mpr (Or.inr hq), hqdue⟩
  empty hnone := by
    rcases h.empty hnone with hn | ⟨q, hq, hqmain⟩
    · exact Or.inl hn
    · rcases Multiset.mem_cons.mp hq with rfl | hq
      · obtain ⟨q', hq', hmain'⟩ := hmain hnone hqmain
        exact Or.inr ⟨q', Multiset.mem_add.mpr (Or.inl hq'), hmain'⟩
      · exact Or.inr ⟨q, Multiset.mem_add.mpr (Or.inr hq), hqmain⟩

/-- Without a message the call throws. -/
theorem Inv.throw (h : Inv g users clock w₀ w (p ::ₘ r) n) (hnone : lastMessage g w₀ = none) :
    Inv g users clock w₀ w r (n + 1) where
  groupCtrl := h.groupCtrl
  session := h.session
  ok q hq := h.ok q (Multiset.mem_cons_of_mem hq)
  frame := h.frame
  inbox := h.inbox
  due m hm := absurd (hm.symm.trans hnone) (Option.some_ne_none m)
  empty _ := Or.inl (Nat.le_add_left 1 n)

/-- The first document of an inbox stays the first. -/
theorem Inv.head (h : Inv g users clock w₀ w r n) {e : SelectedContact} (he : e ∈ users) :
    (w.store.docs (.chats e.id)).head?.map (·.id) =
      (w₀.store.docs (.chats e.id)).head?.map (·.id) := by
  rcases h.inbox e he with hsame | ⟨m, hm, now, hnow, htouched⟩
  · rw [hsame]
  · rw [htouched]
    cases w₀.store.docs (.chats e.id) with
    | nil => rfl
    | cons doc docs => rfl

/-- The same fields are written each time. -/
theorem merge_written {m : Document} {now now' : ℕ} {d : Data} :
    (d.merge (written g w₀ m now)).merge (written g w₀ m now') =
      d.merge (written g w₀ m now') := by
  refine Fields.merge_merge fun k hk => ?_
  cases k <;> first | rfl | exact absurd hk (Option.some_ne_none _)

/-- The first document of an inbox is written: it is there, since nothing has removed it, and the
member it belongs to is done. -/
theorem Inv.save (h : Inv g users clock w₀ w (.save u id data ::ₘ r) n) :
    (w.store.doc? (.chats u) id).isSome = true ∧
      Inv g users clock w₀ { w with store := w.store.update (.chats u) id data }
        ({.saved true} + r) n := by
  obtain ⟨m, now, hm, hnow, ⟨e, he, rfl⟩, hhead, rfl⟩ := h.ok _ (Multiset.mem_cons_self ..)
  obtain ⟨x, rest, hdocs₀, rfl⟩ :
      ∃ x rest, w₀.store.docs (.chats e.id) = x :: rest ∧ x.id = id := by
    cases hdocs : w₀.store.docs (.chats e.id) with
    | nil =>
      rw [hdocs] at hhead
      exact absurd hhead.symm (Option.some_ne_none _)
    | cons x rest =>
      rw [hdocs] at hhead
      exact ⟨x, rest, rfl, Option.some.inj hhead⟩
  -- the document as it is, and what the update makes of it
  obtain ⟨y, hdocs, hid, hy⟩ : ∃ y, w.store.docs (.chats e.id) = y :: rest ∧ y.id = x.id ∧
      y.data.merge (written g w₀ m now) = x.data.merge (written g w₀ m now) := by
    rcases h.inbox e he with hsame | ⟨m', hm', now', -, htouched⟩
    · exact ⟨x, hsame.trans hdocs₀, rfl, rfl⟩
    · obtain rfl : m = m' := Option.some.inj (hm.symm.trans hm')
      rw [hdocs₀] at htouched
      exact ⟨_, htouched, rfl, merge_written⟩
  have hupdate : (w.store.update (.chats e.id) x.id (written g w₀ m now)).docs (.chats e.id) =
      firstUpdated (written g w₀ m now) (w₀.store.docs (.chats e.id)) := by
    rw [← hid, Store.docs_update_head hdocs, hdocs₀, hy, hid]
    rfl
  have htouched : Touched g clock w₀ m e.id
      { w with store := w.store.update (.chats e.id) x.id (written g w₀ m now) } :=
    ⟨now, hnow, hupdate⟩
  -- the inbox of another member is as it was
  have hother : ∀ e' : SelectedContact, e'.id ≠ e.id →
      (w.store.update (.chats e.id) x.id (written g w₀ m now)).docs (.chats e'.id) =
        w.store.docs (.chats e'.id) := fun e' hne => Store.docs_update_of_ne (by simpa using hne)
  refine ⟨?_, h.groupCtrl, h.session, fun q hq => ?_, fun p hp => ?_, fun e' he' => ?_,
    fun m' hm' => ⟨(h.due m' hm').1, fun e' he' => ?_⟩, fun hnone => ?_⟩
  · rw [Option.isSome_iff_exists]
    exact ⟨y, w.store.doc?_eq_some.mpr ⟨hdocs ▸ List.mem_cons_self .., hid⟩⟩
  · rcases Multiset.mem_add.mp hq with hq | hq
    · rw [Multiset.mem_singleton.mp hq]
      rfl
    · exact h.ok q (Multiset.mem_cons_of_mem hq)
  · rw [← h.frame p hp]
    exact Store.docs_update_of_ne (hp e he)
  · by_cases heq : e'.id = e.id
    · rw [heq]
      exact Or.inr ⟨m, hm, htouched⟩
    · rcases h.inbox e' he' with hsame | ⟨m', hm', now', hnow', htouched'⟩
      · exact Or.inl ((hother e' heq).trans hsame)
      · exact Or.inr ⟨m', hm', now', hnow', (hother e' heq).trans htouched'⟩
  · obtain rfl : m = m' := Option.some.inj (hm.symm.trans hm')
    by_cases heq : e'.id = e.id
    · rw [heq]
      exact Or.inl htouched
    · rcases (h.due m hm').2 e' he' with ⟨now', hnow', htouched'⟩ | ⟨q, hq, hdue⟩
      · exact Or.inl ⟨now', hnow', (hother e' heq).trans htouched'⟩
      · rcases Multiset.mem_cons.mp hq with rfl | hq
        · exact absurd hdue.symm heq
        · exact Or.inr ⟨q, Multiset.mem_add.mpr (Or.inr hq), hdue⟩
  · exact absurd (hm.symm.trans hnone) (Option.some_ne_none m)

/-- The call gets from one point to the next, at which all is due still. -/
theorem Inv.next {q : Point} (h : Inv g users clock w₀ w (p ::ₘ r) n)
    (hok : q.Ok g users clock w₀) (hdue : ∀ e, p.Due e → q.Due e) (hmain : p.Main → q.Main) :
    Inv g users clock w₀ w (([q] : List Point) + r) n :=
  h.step [q] (fun _ hq => List.mem_singleton.mp hq ▸ hok)
    (fun _ _ e _ hp => ⟨q, List.mem_singleton_self q, hdue e.id hp⟩)
    fun _ hp => ⟨q, List.mem_singleton_self q, hmain hp⟩

/-- What a call that is resumed keeps, one case for each point of the dialog. A member's lookup
always finds a document, as every member has one. -/
theorem Inv.resume (hreceiver : ∀ m, lastMessage g w₀ = some m → receiverOf m = some users)
    (hentry : ∀ e ∈ users, w₀.store.docs (.chats e.id) ≠ []) {ticks : ℕ → Tick}
    (hticks : ∀ k, Timely clock (ticks k))
    (h : Inv g users clock w₀ w (p ::ₘ r) n) :
    Inv g users clock w₀ (resume g p ticks w).world ((resume g p ticks w).points + r)
      (n + (resume g p ticks w).thrown) := by
  have hok := h.ok p (Multiset.mem_cons_self ..)
  have hgroup : (w.groupCtrl.get g).pId = groupId g w₀ := by rw [h.groupCtrl, groupId]
  cases p with
  | erase pId id => exact hok.elim
  | erased => exact h.step [] nofun (fun _ _ _ _ hdue => hdue.elim) fun _ hmain => hmain.elim
  | sync =>
    simp only [GroupDeletion.resume, (hticks 0).1, Bool.false_eq_true, if_false]
    exact h.next trivial (fun _ _ => trivial) id
  | synced =>
    exact h.next hgroup (fun _ _ => trivial) id
  | read pId =>
    obtain rfl : pId = groupId g w₀ := hok
    simp only [GroupDeletion.resume, (hticks 0).1, Bool.false_eq_true, if_false]
    exact h.next (congrArg newest (h.frame _ fun e _ => nofun)) (fun _ _ => trivial) id
  | found value =>
    obtain rfl : value = lastMessage g w₀ := hok
    cases hm : lastMessage g w₀ with
    | none =>
      -- `docs[0]` of an empty result throws
      simp only [GroupDeletion.resume, Segment.threw, Multiset.coe_nil, zero_add]
      exact h.throw hm
    | some m =>
      -- one call for each member is started
      simp only [GroupDeletion.resume, hreceiver m hm]
      refine h.step _ (fun q hq => ?_) (fun _ _ e he _ => ?_) fun hnone => ?_
      · obtain ⟨e, he, rfl⟩ := List.mem_map.mp hq
        exact ⟨hm, he⟩
      · exact ⟨_, List.mem_map_of_mem he, rfl⟩
      · exact absurd (hm.symm.trans hnone) (Option.some_ne_none m)
  | look m e =>
    obtain ⟨hm, he⟩ := hok
    simp only [GroupDeletion.resume, (hticks 0).1, Bool.false_eq_true, if_false]
    have hall : w.store.query (.chats e.id) (fun _ => true) = w.store.docs (.chats e.id) :=
      List.filter_true _
    exact h.next ⟨hm, he, by rw [hall, h.head he]⟩ (fun _ hdue => hdue) False.elim
  | looked m e contact =>
    obtain ⟨hm, he, hhead⟩ := hok
    cases contact with
    | nil =>
      rw [List.head?_nil, Option.map_none, eq_comm, Option.map_eq_none_iff,
        List.head?_eq_none_iff] at hhead
      exact absurd hhead (hentry e he)
    | cons doc docs =>
      refine h.next ⟨m, (ticks 0).now, hm, (hticks 0).2, ⟨e, he, rfl⟩, hhead.symm, ?_⟩
        (fun _ hdue => hdue) False.elim
      rw [written, deleter, h.groupCtrl, h.session]
  | save u id data =>
    obtain ⟨hfound, hsave⟩ := h.save
    simp only [GroupDeletion.resume, (hticks 0).1, Bool.false_eq_true, if_false, hfound]
    exact hsave
  | saved found =>
    obtain rfl : found = true := hok
    exact h.step [] nofun (fun _ _ _ _ hdue => hdue.elim) fun _ hmain => hmain.elim

end Steps

section Runs

variable {g : ℕ} {id : DocId} {users : List SelectedContact} {clock : ℕ → Prop} {w : World}
  {l : Scope} {ticks deletion : ℕ → Tick} {es : List (Event Empty)} {c : Config World Scope}

/-- The world in which the message has been deleted. -/
def erased (g : ℕ) (id : DocId) (w : World) : World :=
  { w with store := w.store.delete (.groupMessage (groupId g w)) id }

theorem docs_erased (id : DocId) (u : String) :
    (erased g id w).store.docs (.chats u) = w.store.docs (.chats u) :=
  Store.docs_delete_of_ne nofun

/-- The newest message is one that was sent to the members. -/
theorem Stored.lastMessage (hs : Stored g users w) {m : Document}
    (hm : lastMessage g (erased g id w) = some m) :
    receiverOf m = some users ∧ ∃ content, m.data .content = some (.str content) := by
  obtain ⟨sender, senderName, content, type, timestamp, hdata⟩ :=
    hs.message m (Store.mem_delete.mp (mem_of_newest hm)).1
  rw [receiverOf, hdata]
  exact ⟨rfl, content, rfl⟩

theorem Stored.entry_ne_nil (hs : Stored g users w) {e : SelectedContact} (he : e ∈ users) :
    (erased g id w).store.docs (.chats e.id) ≠ [] := by
  obtain ⟨doc, hdoc⟩ := hs.entry e he
  rw [docs_erased]
  intro hnil
  rw [Store.query, hnil] at hdoc
  exact List.cons_ne_nil _ _ hdoc.symm

/-- What the dialog has done when it has come to its end, in any settled run: by induction on the
run, with `Inv.resume` for each event. -/
theorem Stored.settled (hs : Stored g users w) (hdeletion : (deletion 0).fails = false)
    (h : (System.quiet World Scope).Run (fun _ e => ∀ n, Timely clock (e.ticks n))
      (confirmed (groupDeleteAlert g id) l ticks deletion w) es c) (hc : c.Settled) :
    Inv g users clock (erased g id w) c.world 0 c.uncaught.length := by
  have hstart : ((groupDeleteAlert g id).start l ticks w).threads.map (·.task) =
      [.erase (groupId g w) id, .sync].map (task g) := rfl
  obtain ⟨hworld, hthreads, hlen⟩ := (models g).apply_at hstart (i := 0) rfl deletion
  simp only [machine, resume, hdeletion, Bool.false_eq_true, if_false] at hworld hthreads hlen
  have hw₀ : (confirmed (groupDeleteAlert g id) l ticks deletion w).world = erased g id w := hworld
  refine (models g).settles (Timely clock) (I := Inv g users clock (erased g id w))
    ⟨_, hthreads, rfl⟩ ?_
    (fun p ticks w r n hticks hi => hi.resume (fun m hm => (hs.lastMessage hm).1)
      (fun e he => hs.entry_ne_nil he) hticks) h hc
  have hn : (confirmed (groupDeleteAlert g id) l ticks deletion w).uncaught.length = 0 := hlen
  change Inv g users clock (erased g id w) (confirmed (groupDeleteAlert g id) l ticks deletion
    w).world _ (confirmed (groupDeleteAlert g id) l ticks deletion w).uncaught.length
  rw [hn, hw₀]
  refine ⟨rfl, rfl, fun q hq => ?_, fun _ _ => rfl, fun _ _ => Or.inl rfl,
    fun _ _ => ⟨rfl, fun _ _ => Or.inr ?_⟩, fun _ => Or.inr ?_⟩
  · rcases List.mem_pair.mp (Multiset.mem_coe.mp hq) with rfl | rfl
    · trivial
    · trivial
  · exact ⟨.sync, List.mem_cons_self .., trivial⟩
  · exact ⟨.sync, List.mem_cons_self .., trivial⟩

/-- What has become of the inboxes, if a message is left. -/
theorem Stored.inboxes (hs : Stored g users w)
    (hi : Inv g users clock (erased g id w) c.world 0 c.uncaught.length) {m : Document}
    (hm : newest (remaining g id w) = some m) {e : SelectedContact} (he : e ∈ users) :
    ∃ x rest now, w.store.docs (.chats e.id) = x :: rest ∧ clock now ∧
      c.world.store.docs (.chats e.id) = ⟨x.id, x.data.merge (written g w m now)⟩ :: rest := by
  obtain ⟨now, hnow, hdocs⟩ := ((hi.due m hm).2 e he).resolve_right
    fun ⟨_, hp, _⟩ => Multiset.notMem_zero _ hp
  cases hold : w.store.docs (.chats e.id) with
  | nil => exact absurd ((docs_erased id e.id).trans hold) (hs.entry_ne_nil he)
  | cons x rest =>
    rw [docs_erased id e.id, hold] at hdocs
    exact ⟨x, rest, now, rfl, hnow, hdocs⟩

/-- The entry for a group stays one. -/
theorem groupId_written (d : Data) (m : Document) (now : ℕ) :
    (d.merge (written g w m now)) .groupId = d .groupId :=
  Fields.merge_of_none rfl

/-- The sender shown is the user who deletes. -/
theorem senderId_written (d : Data) (m : Document) (now : ℕ) :
    (d.merge (written g w m now)) .senderId = some (.str (deleter g w).id) :=
  Fields.merge_of_some rfl

/-- The first document is the entry for a group. -/
theorem filter_entry {x : Document} {rest : List Document} {b : String}
    (h : x.data .groupId = some (.str b)) :
    (x :: rest).filter (fun d => Fields.isEqualTo .groupId (.str b) d.data) =
      x :: rest.filter fun d => Fields.isEqualTo .groupId (.str b) d.data :=
  List.filter_cons_of_pos (Fields.isEqualTo_iff.mpr h)

/-- When the entries for the group come first, they are what is written. -/
theorem Fits.deleted (hfits : Fits g id users w) (hs : Stored g users w)
    (hi : Inv g users clock (erased g id w) c.world 0 c.uncaught.length) :
    Deleted g id users w c := by
  obtain ⟨m, hm, hfirst⟩ := hfits
  refine ⟨fun x hx => ?_, fun m' hm' e he => ?_, fun p d hd => ?_, ?_⟩
  · rw [hi.frame (.groupMessage (groupId g w)) fun _ _ => nofun] at hx
    exact fun hid => (Store.mem_delete.mp hx).2 ⟨rfl, hid⟩
  · obtain rfl : m = m' := Option.some.inj (hm.symm.trans hm')
    obtain ⟨x, rest, now, hold, -, hdocs⟩ := hs.inboxes hi hm he
    obtain ⟨hsender, doc, docs, hold', hdoc⟩ := hfirst e he
    -- the document that was overwritten is the entry for the group
    obtain ⟨rfl, rfl⟩ := List.cons.inj (hold.symm.trans hold')
    obtain ⟨-, content, hcontent⟩ := hs.lastMessage hm
    obtain ⟨entry, hentry⟩ := hs.entry e he
    have hkept : (x.data.merge (written g w m now)) .groupId = some (.str (groupId g w)) :=
      (groupId_written x.data m now).trans hdoc
    refine ⟨⟨x.id, x.data.merge (written g w m now)⟩, ?_, ?_, ?_⟩
    · rw [Store.query, hold, filter_entry hdoc] at hentry
      rw [Store.query, hdocs, filter_entry (x := ⟨x.id, x.data.merge (written g w m now)⟩) hkept,
        (List.cons.inj hentry).2]
    · rw [hcontent]
      have hwritten : written g w m now .lastMessage = some (.str content) := by
        simp [written, deletionFields, Fields.ofList, hcontent]
      exact Fields.merge_of_some (d := x.data) hwritten
    · rw [hsender]
      exact senderId_written x.data m now
  · by_cases hp : ∃ e ∈ users, p = .chats e.id
    · obtain ⟨e, he, rfl⟩ := hp
      obtain ⟨x, rest, now, hold, -, hdocs⟩ := hs.inboxes hi hm he
      obtain ⟨-, doc, docs, hold', hdoc⟩ := hfirst e he
      obtain ⟨rfl, rfl⟩ := List.cons.inj (hold.symm.trans hold')
      have hother : d.data .groupId ≠ some (.str (groupId g w)) :=
        fun hgroup => hd (Or.inr ⟨e, he, rfl, hgroup⟩)
      rw [hold, hdocs, List.mem_cons, List.mem_cons]
      refine or_congr_left ⟨?_, ?_⟩
      · rintro rfl
        exact absurd hdoc hother
      · rintro rfl
        have hkept : (x.data.merge (written g w m now)) .groupId = some (.str (groupId g w)) :=
          (groupId_written x.data m now).trans hdoc
        exact absurd hkept hother
    · rw [hi.frame p fun e he hpe => hp ⟨e, he, hpe⟩]
      exact (Iff.trans Store.mem_delete (and_iff_left fun hpd => hd (Or.inl hpd))).symm
  · exact List.length_eq_zero_iff.mp (hi.due m hm).1

/-- When the dialog has done what it is to do, the entries for the group came first. -/
theorem Deleted.fits (hdeleted : Deleted g id users w c) (hs : Stored g users w)
    (hahead : Ahead users w clock)
    (hi : Inv g users clock (erased g id w) c.world 0 c.uncaught.length) :
    Fits g id users w := by
  cases hm : newest (remaining g id w) with
  | none =>
    rcases hi.empty hm with hlt | ⟨_, hp, _⟩
    · rw [hdeleted.returns] at hlt
      exact absurd hlt (by decide)
    · exact absurd hp (Multiset.notMem_zero _)
  | some m =>
    refine ⟨m, hm, fun e he => ?_⟩
    obtain ⟨x, rest, now, hold, hnow, hdocs⟩ := hs.inboxes hi hm he
    have hx : x ∈ w.store.docs (.chats e.id) := hold ▸ List.mem_cons_self ..
    have hstamp : (x.data.merge (written g w m now)) .updateStamp =
        some (.str (toString (now / 1000))) := Fields.merge_of_some rfl
    -- what is overwritten changes, so it is the entry for the group
    have hgroup : x.data .groupId = some (.str (groupId g w)) := by
      by_contra hother
      have hkept := (hdeleted.frame (.chats e.id) x ?_).mp hx
      · have heq : x = ⟨x.id, x.data.merge (written g w m now)⟩ :=
          c.world.store.eq_of_id hkept (hdocs ▸ List.mem_cons_self ..) rfl
        exact hahead e he x hx now hnow
          ((congrArg (fun d : Document => d.data .updateStamp) heq).trans hstamp)
      · rintro (⟨hpath, -⟩ | ⟨-, -, -, hgroup⟩)
        · exact Path.noConfusion hpath
        · exact hother hgroup
    refine ⟨?_, x, rest, hold, hgroup⟩
    obtain ⟨doc, hquery, -, hsender⟩ := hdeleted.shows m hm e he
    have hkept : (x.data.merge (written g w m now)) .groupId = some (.str (groupId g w)) :=
      (groupId_written x.data m now).trans hgroup
    rw [Store.query, hdocs,
      filter_entry (x := ⟨x.id, x.data.merge (written g w m now)⟩) hkept] at hquery
    rw [← hsender, ← (List.cons.inj hquery).1]
    exact senderId_written x.data m now

/-- **The dialog is right when the entries for the group come first** in the inboxes, a message is
left, and its sender is the user who deletes. When the clock is ahead of the entries it is right in
no other case. -/
theorem deletion_fits (hs : Stored g users w) (hdeletion : (deletion 0).fails = false)
    (h : (System.quiet World Scope).Run (fun _ e => ∀ n, Timely clock (e.ticks n))
      (confirmed (groupDeleteAlert g id) l ticks deletion w) es c) (hc : c.Settled) :
    (Fits g id users w → Deleted g id users w c) ∧
      (Ahead users w clock → Deleted g id users w c → Fits g id users w) := by
  have hi := hs.settled hdeletion h hc
  exact ⟨fun hfits => hfits.deleted hs hi, fun hahead hdeleted => hdeleted.fits hs hahead hi⟩

end Runs

/-! ## Two dialogs -/

/-- The members of the group as it lists them. -/
def both : List SelectedContact :=
  [⟨"alice", "Alice", "1", "", none⟩, ⟨"bob", "Bob", "2", "", none⟩]

/-- Alice has sent a message to the group `g` at a time. -/
def message (content timestamp : String) : Data :=
  groupMessageFields "alice" "Alice" both content "g" .text timestamp

/-- The entry of a member for the group. -/
def entry : Data :=
  .ofList [(.groupId, .str "g"), (.updateStamp, .str "2"), (.lastMessage, .str "bye")]

/-- The screen of the group is open, and the members have their entries for it. -/
def groupOpen : World :=
  { World.initial fun _ => ⟨"alice", "Alice", "1", ""⟩ with
    store := ((Store.empty.set (.groupMessage "g") "m1" 0 (message "hi" "1")).set
      (.chats "alice") "e" 0 entry).set (.chats "bob") "e" 0 entry
    groupCtrl := Heap.empty.alloc { device := 0, pId := "g", pName := "Group", users := both } }

/-- Alice has sent a second message. -/
def twoMessages : World :=
  { groupOpen with store := groupOpen.store.set (.groupMessage "g") "m2" 1 (message "bye" "2") }

/-- Every operation succeeds, at five seconds. -/
def atFive (_ : ℕ) : Tick := ⟨5000, 0, false⟩

/-- A dialog that Alice has confirmed goes on to its end. -/
def settledFrom (id : String) (w : World) : Config World Scope :=
  (System.quiet World Scope).exec
    (confirmed (groupDeleteAlert 0 (.named id)) .idle atFive atFive w)
    (List.replicate 16 (.resume 0 atFive))

theorem run_settledFrom (id : String) (w : World) : (System.quiet World Scope).Run
    (fun _ e => ∀ n, Timely (· = 5000) (e.ticks n))
    (confirmed (groupDeleteAlert 0 (.named id)) .idle atFive atFive w)
    (List.replicate 16 (.resume 0 atFive)) (settledFrom id w) :=
  System.run_replicate fun _ => ⟨rfl, rfl⟩

theorem stored_groupOpen : Stored 0 both groupOpen := by
  refine ⟨fun e he => ?_, fun x hx => ?_⟩
  · rcases List.mem_pair.mp he with rfl | rfl
    · exact ⟨_, rfl⟩
    · exact ⟨_, rfl⟩
  · obtain rfl := List.mem_singleton.mp (hx : x ∈ [_])
    exact ⟨_, _, _, _, _, rfl⟩

theorem stored_twoMessages : Stored 0 both twoMessages := by
  refine ⟨fun e he => ?_, fun x hx => ?_⟩
  · rcases List.mem_pair.mp he with rfl | rfl
    · exact ⟨_, rfl⟩
    · exact ⟨_, rfl⟩
  · rcases List.mem_pair.mp (hx : x ∈ [_, _]) with rfl | rfl
    · exact ⟨_, _, _, _, _, rfl⟩
    · exact ⟨_, _, _, _, _, rfl⟩

/-- The second message is deleted, and both inboxes show the first one. -/
theorem deletion_fits_second :
    Deleted 0 (.named "m2") both twoMessages (settledFrom "m2" twoMessages) := by
  refine (deletion_fits stored_twoMessages rfl (run_settledFrom "m2" twoMessages)
    (by decide +kernel)).1 ⟨_, rfl, fun e he => ⟨rfl, ?_⟩⟩
  rcases List.mem_pair.mp he with rfl | rfl
  · exact ⟨_, _, rfl, rfl⟩
  · exact ⟨_, _, rfl, rfl⟩

/-- **The last message cannot be deleted** without an exception. -/
theorem last_message_throws : ¬ ∀ {g : ℕ} {id : DocId} {users : List SelectedContact}
    {clock : ℕ → Prop} {w : World} {l : Scope} {ticks deletion : ℕ → Tick}
    {es : List (Event Empty)} {c : Config World Scope}, Stored g users w →
    (deletion 0).fails = false →
    (System.quiet World Scope).Run (fun _ e => ∀ n, Timely clock (e.ticks n))
      (confirmed (groupDeleteAlert g id) l ticks deletion w) es c → c.Settled →
    Deleted g id users w c := by
  intro hclaim
  have hdeleted := hclaim stored_groupOpen rfl (run_settledFrom "m1" groupOpen) (by decide +kernel)
  have hthrown : (settledFrom "m1" groupOpen).uncaught.length = 1 := by decide +kernel
  rw [hdeleted.returns] at hthrown
  exact absurd hthrown (by decide)

end GroupDeletion

end FlutterTheme
