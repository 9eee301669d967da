import FlutterTheme.Deletion
import FlutterTheme.Chat

/-!
# Deleting a message of a 1:1 chat

`DeleteAlert` deletes the message and goes on to the collection `contacts` of an earlier version.
It does not touch the entries of the two users in their inboxes, which
`saveMessageInUserCollection` keeps, so these are right afterwards only if they were so before:
`chat_deletion_iff`.
-/

namespace FlutterTheme.ChatDeletion

open EventLoop DocStore

/-! ## The dialog as a machine -/

/-- Where a call of the dialog is suspended. -/
inductive Point : Type where
  /-- the deletion is on its way -/
  | erase (chatId : String) (id : DocId) : Point
  | erased : Point
  /-- the transaction is on its way -/
  | sync : Point
  | synced : Point
  /-- the messages that are left are to be read -/
  | read (chatId : String) : Point
  | answer (messages : List Document) : Point
  /-- the documents of the chat in `contacts` are to be read -/
  | look (chatId : String) (messages : List Document) : Point
  | looked (messages found : List Document) : Point
  /-- one of them is to be deleted -/
  | remove (id : DocId) : Point
  | removed : Point

/-- The dialog when the transaction is over. -/
def readMessages (i : ℕ) : Call Unit := do
  let s ← chat i
  let messages ← getDocs (.messages s.chatId) fun _ => true
  let s ← chat i
  Async.spawn (deleteContact s.chatId messages)

/-- The dialog when the messages have been read. -/
def readContacts (i : ℕ) (messages : List Document) : Call Unit := do
  let s ← chat i
  Async.spawn (deleteContact s.chatId messages)

/-- The end of the dialog. -/
def dropContact (messages found : List Document) : Call Unit :=
  match messages, found with
  | [], doc :: _ => delete .contacts doc.id
  | [], [] => Async.throw
  | _ :: _, _ :: _ => Async.throw
  | _ :: _, [] => pure ()

/-- What a call has left to do. -/
def task (i : ℕ) : Point → Task World Scope
  | .erase chatId id =>
    .request (fun _ w => ((), { w with store := w.store.delete (.messages chatId) id }))
      fun _ => .done
  | .erased => .done
  | .sync => .request (fun _ w => ((), w)) fun _ => (readMessages i).task
  | .synced => (readMessages i).task
  | .read chatId =>
    .request (fun _ w => (w.store.query (.messages chatId) fun _ => true, w)) fun messages =>
      (readContacts i messages).task
  | .answer messages => (readContacts i messages).task
  | .look chatId messages =>
    .request (fun _ w => (w.store.query .contacts (Fields.isEqualTo .chatId (.str chatId)), w))
      fun found => (dropContact messages found).task
  | .looked messages found => (dropContact messages found).task
  | .remove id =>
    .request (fun _ w => ((), { w with store := w.store.delete .contacts id })) fun _ => .done
  | .removed => .done

/-- What a call does that is resumed. -/
def resume (i : ℕ) : Point → (ℕ → Tick) → World → Segment World Point
  | .erase chatId id, ticks, w =>
    if (ticks 0).fails then .threw w
    else { world := { w with store := w.store.delete (.messages chatId) id }, points := [.erased] }
  | .erased, _, w => { world := w }
  | .sync, ticks, w => if (ticks 0).fails then .threw w else { world := w, points := [.synced] }
  | .synced, _, w => { world := w, points := [.read (w.chatCtrl.get i).chatId] }
  | .read chatId, ticks, w =>
    if (ticks 0).fails then .threw w
    else { world := w, points := [.answer (w.store.query (.messages chatId) fun _ => true)] }
  | .answer messages, _, w => { world := w, points := [.look (w.chatCtrl.get i).chatId messages] }
  | .look chatId messages, ticks, w =>
    if (ticks 0).fails then .threw w
    else { world := w
           points := [.looked messages
             (w.store.query .contacts (Fields.isEqualTo .chatId (.str chatId)))] }
  | .looked [] (doc :: _), _, w => { world := w, points := [.remove doc.id] }
  | .looked (_ :: _) [], _, w => { world := w }
  | .looked _ _, _, w => .threw w
  | .remove id, ticks, w =>
    if (ticks 0).fails then .threw w
    else { world := { w with store := w.store.delete .contacts id }, points := [.removed] }
  | .removed, _, w => { world := w }

/-- The dialog as a machine. -/
def machine (i : ℕ) : Machine World Point Empty := ⟨fun a => a.elim, resume i⟩

/-- The dialog's machine does what the dialog does, one suspension point at a time; after both
answers the cases are whether a message is left and whether a document was found. -/
theorem models (i : ℕ) : (machine i).Models (System.quiet World Scope) (task i) where
  call a := a.elim
  resume p ticks l w := by
    cases p with
    | erase chatId id =>
      simp only [task, machine, resume]
      exact Task.request_is rfl rfl
    | erased => exact ⟨rfl, rfl, rfl⟩
    | sync =>
      simp only [task, machine, resume]
      exact Task.request_is rfl rfl
    | synced => exact ⟨rfl, rfl, rfl⟩
    | read chatId =>
      simp only [task, machine, resume]
      exact Task.request_is rfl rfl
    | answer messages => exact ⟨rfl, rfl, rfl⟩
    | look chatId messages =>
      simp only [task, machine, resume]
      exact Task.request_is rfl rfl
    | looked messages found =>
      rcases messages with - | ⟨message, messages⟩ <;> rcases found with - | ⟨doc, docs⟩
      · exact ⟨rfl, rfl, rfl⟩
      · exact ⟨rfl, rfl, rfl⟩
      · exact ⟨rfl, rfl, rfl⟩
      · exact ⟨rfl, rfl, rfl⟩
    | remove id =>
      simp only [task, machine, resume]
      exact Task.request_is rfl rfl
    | removed => exact ⟨rfl, rfl, rfl⟩

/-! ## What is to hold -/

section Dialog

variable (i : ℕ) (id : DocId) (w : World)

/-- The conversation whose screen is open. -/
def chatId : String := (w.chatCtrl.get i).chatId

/-- The messages that are left when the message has been deleted. -/
def remaining : List Document :=
  (w.store.delete (.messages (chatId i w)) id).docs (.messages (chatId i w))

/-- The user and the peer. -/
def participants : List String := [(w.chatCtrl.get i).userData.id, (w.chatCtrl.get i).pId]

/-- In `s` the entries of both users show the newest message that is left, or are not there when
none is left. -/
def Shown (s : Store Path Key Value) : Prop :=
  ∀ u ∈ participants i w,
    match newest (remaining i id w) with
    | some m => ∃ doc,
      s.query (.chats u) (Fields.isEqualTo .chatId (.str (chatId i w))) = [doc] ∧
        doc.data .lastMessage = m.data .content ∧ doc.data .senderId = m.data .sender
    | none => s.query (.chats u) (Fields.isEqualTo .chatId (.str (chatId i w))) = []

/-- What is to hold when the dialog has come to its end. -/
structure Deleted (c : Config World Scope) : Prop where
  gone : ∀ x ∈ c.world.store.docs (.messages (chatId i w)), x.id ≠ id
  shown : Shown i id w c.world.store
  /-- nothing else has changed -/
  frame : w.store.Frame (fun p d => (p = .messages (chatId i w) ∧ d.id = id) ∨
    ∃ u ∈ participants i w, p = .chats u ∧ d.data .chatId = some (.str (chatId i w)))
    c.world.store

/-- The documents of the conversation in the collection of an earlier version. -/
def contacts : List Document :=
  w.store.query .contacts (Fields.isEqualTo .chatId (.str (chatId i w)))

end Dialog

/-! ## What the dialog does -/

section Inv

variable (i : ℕ) (w₀ : World)

/-- The messages of the conversation. -/
def messages : List Document := w₀.store.docs (.messages (chatId i w₀))

/-- One of the documents of the conversation in `contacts` is gone. -/
def Dropped (w : World) : Prop := ∃ d ∈ contacts i w₀, d ∉ w.store.docs .contacts

/-- What is known at a point. -/
def Point.Ok : Point → Prop
  | .erase _ _ => False
  | .erased | .sync | .synced | .removed => True
  | .read b => b = chatId i w₀
  | .answer ms => ms = messages i w₀
  | .look b ms => b = chatId i w₀ ∧ ms = messages i w₀
  | .looked ms ds => ms = messages i w₀ ∧ ∀ d ∈ ds, d ∈ contacts i w₀
  | .remove b => messages i w₀ = [] ∧ ∃ d ∈ contacts i w₀, d.id = b

/-- A document is still to be deleted, if no message is left. -/
def Point.Due : Point → Prop
  | .sync | .synced | .read _ | .answer _ | .look _ _ | .looked _ (_ :: _) | .remove _ => True
  | _ => False

/-- Where the dialog has got to when calls are suspended at the points `r`. -/
structure Inv (w : World) (r : Multiset Point) : Prop where
  chatCtrl : w.chatCtrl = w₀.chatCtrl
  ok : ∀ p ∈ r, p.Ok i w₀
  frame : ∀ p, p ≠ .contacts → w.store.docs p = w₀.store.docs p
  subset : ∀ d ∈ w.store.docs .contacts, d ∈ w₀.store.docs .contacts
  same : w.store.docs .contacts = w₀.store.docs .contacts ∨ messages i w₀ = [] ∧ Dropped i w₀ w
  due : messages i w₀ = [] → contacts i w₀ ≠ [] → Dropped i w₀ w ∨ ∃ p ∈ r, p.Due

end Inv

section Steps

variable {i : ℕ} {w₀ w : World} {r : Multiset Point} {p : Point}

/-- A point at which nothing is written: the points that follow it take over what was due at it. -/
theorem Inv.step (h : Inv i w₀ w (p ::ₘ r)) (ps : List Point) (hok : ∀ q ∈ ps, q.Ok i w₀)
    (hdue : messages i w₀ = [] → contacts i w₀ ≠ [] → p.Due →
      Dropped i w₀ w ∨ ∃ q ∈ ps, q.Due) : Inv i w₀ w (ps + r) where
  chatCtrl := h.chatCtrl
  ok q hq := by
    rcases Multiset.mem_add.mp hq with hq | hq
    · exact hok q hq
    · exact h.ok q (Multiset.mem_cons_of_mem hq)
  frame := h.frame
  subset := h.subset
  same := h.same
  due hnone hfound := by
    rcases h.due hnone hfound with hdropped | ⟨q, hq, hqdue⟩
    · exact Or.inl hdropped
    · rcases Multiset.mem_cons.mp hq with rfl | hq
      · rcases hdue hnone hfound hqdue with hdropped | ⟨q', hq', hdue'⟩
        · exact Or.inl hdropped
        · exact Or.inr ⟨q', Multiset.mem_add.mpr (Or.inl hq'), hdue'⟩
      · exact Or.inr ⟨q, Multiset.mem_add.mpr (Or.inr hq), hqdue⟩

/-- The call gets from one point to the next, at which the deletion is due still. -/
theorem Inv.next {q : Point} (h : Inv i w₀ w (p ::ₘ r)) (hok : q.Ok i w₀) (hdue : q.Due) :
    Inv i w₀ w (([q] : List Point) + r) :=
  h.step [q] (fun _ hq => List.mem_singleton.mp hq ▸ hok)
    fun _ _ _ => Or.inr ⟨q, List.mem_singleton_self q, hdue⟩

/-- A document of the conversation is deleted: it is one that the query has found, so no other one
is lost by it, and the deletion is no longer due. -/
theorem Inv.remove {id : DocId} (h : Inv i w₀ w (.remove id ::ₘ r)) :
    Inv i w₀ { w with store := w.store.delete .contacts id } ({.removed} + r) := by
  obtain ⟨hnone, d, hd, rfl⟩ := h.ok _ (Multiset.mem_cons_self ..)
  have hdropped : Dropped i w₀ { w with store := w.store.delete .contacts d.id } :=
    ⟨d, hd, fun hmem => (Store.mem_delete.mp hmem).2 ⟨rfl, rfl⟩⟩
  refine ⟨h.chatCtrl, fun q hq => ?_, fun p hp => ?_, fun x hx => ?_, Or.inr ⟨hnone, hdropped⟩,
    fun _ _ => Or.inl hdropped⟩
  · rcases Multiset.mem_add.mp hq with hq | hq
    · rw [Multiset.mem_singleton.mp hq]
      trivial
    · exact h.ok q (Multiset.mem_cons_of_mem hq)
  · rw [← h.frame p hp]
    exact Store.docs_delete_of_ne hp
  · exact h.subset x (Store.mem_delete.mp hx).1

/-- What a call that is resumed keeps, one case for each point of the dialog: the reads hand on what
they have found, and the one write is that of `Inv.remove`. -/
theorem Inv.resume {ticks : ℕ → Tick} (hticks : ∀ k, (ticks k).fails = false)
    (h : Inv i w₀ w (p ::ₘ r)) :
    Inv i w₀ (resume i p ticks w).world ((resume i p ticks w).points + r) := by
  have hok := h.ok p (Multiset.mem_cons_self ..)
  have hchat : (w.chatCtrl.get i).chatId = chatId i w₀ := by rw [h.chatCtrl, chatId]
  cases p with
  | erase b id => exact hok.elim
  | erased => exact h.step [] nofun fun _ _ hdue => hdue.elim
  | sync =>
    simp only [ChatDeletion.resume, hticks, Bool.false_eq_true, if_false]
    exact h.next trivial trivial
  | synced =>
    exact h.next hchat trivial
  | read b =>
    obtain rfl : b = chatId i w₀ := hok
    simp only [ChatDeletion.resume, hticks, Bool.false_eq_true, if_false]
    exact h.next ((List.filter_true _).trans (h.frame _ nofun)) trivial
  | answer ms =>
    exact h.next ⟨hchat, hok⟩ trivial
  | look b ms =>
    obtain ⟨rfl, rfl⟩ := hok
    simp only [ChatDeletion.resume, hticks, Bool.false_eq_true, if_false]
    refine h.step _ (fun q hq => ?_) fun _ hfound _ => ?_
    · rw [List.mem_singleton.mp hq]
      refine ⟨rfl, fun d hd => ?_⟩
      obtain ⟨hd, hchatId⟩ := (Store.mem_query _).mp hd
      exact (Store.mem_query _).mpr ⟨h.subset d hd, hchatId⟩
    · rcases h.same with hsame | ⟨-, hdropped⟩
      · -- nothing has been deleted, so what is there is found
        have hquery : w.store.query .contacts
            (Fields.isEqualTo .chatId (.str (chatId i w₀))) = contacts i w₀ := by
          rw [Store.query, hsame]
          rfl
        obtain ⟨d, ds, hds⟩ := List.exists_cons_of_ne_nil hfound
        refine Or.inr ⟨_, List.mem_singleton_self _, ?_⟩
        rw [hquery, hds]
        trivial
      · exact Or.inl hdropped
  | looked ms ds =>
    obtain ⟨rfl, hds⟩ := hok
    cases hms : messages i w₀ with
    | nil =>
      -- no message is left: the first document found is deleted, and there may be none
      cases ds with
      | nil =>
        simp only [ChatDeletion.resume, Segment.threw]
        exact h.step [] nofun fun _ _ hdue => hdue.elim
      | cons d ds =>
        simp only [ChatDeletion.resume]
        exact h.next ⟨hms, d, hds d (List.mem_cons_self ..), rfl⟩ trivial
    | cons m ms =>
      -- with a message left nothing is deleted
      have hsome : messages i w₀ ≠ [] := hms ▸ List.cons_ne_nil m ms
      cases ds with
      | nil => exact h.step [] nofun fun hnone _ _ => absurd hnone hsome
      | cons d ds => exact h.step [] nofun fun hnone _ _ => absurd hnone hsome
  | remove id =>
    simp only [ChatDeletion.resume, hticks, Bool.false_eq_true, if_false]
    exact h.remove
  | removed => exact h.step [] nofun fun _ _ hdue => hdue.elim

end Steps

section Runs

variable {i : ℕ} {id : DocId} {w : World} {l : Scope} {ticks deletion : ℕ → Tick}
  {es : List (Event Empty)} {c : Config World Scope}

/-- The world in which the message has been deleted. -/
def erased (i : ℕ) (id : DocId) (w : World) : World :=
  { w with store := w.store.delete (.messages (chatId i w)) id }

theorem docs_erased (id : DocId) {p : Path} (hp : p ≠ .messages (chatId i w)) :
    (erased i id w).store.docs p = w.store.docs p :=
  Store.docs_delete_of_ne hp

theorem contacts_erased : contacts i (erased i id w) = contacts i w := rfl

/-- What the dialog has done when it has come to its end. -/
theorem settled (hdeletion : (deletion 0).fails = false)
    (h : (System.quiet World Scope).Run (fun _ e => ∀ n, (e.ticks n).fails = false)
      (confirmed (deleteAlert i id) l ticks deletion w) es c) (hc : c.Settled) :
    Inv i (erased i id w) c.world 0 := by
  have hstart : ((deleteAlert i id).start l ticks w).threads.map (·.task) =
      [.erase (chatId i w) id, .sync].map (task i) := rfl
  obtain ⟨hworld, hthreads, hlen⟩ := (models i).apply_at hstart (i := 0) rfl deletion
  simp only [machine, resume, hdeletion, Bool.false_eq_true, if_false] at hworld hthreads hlen
  have hw₀ : (confirmed (deleteAlert i id) l ticks deletion w).world = erased i id w := hworld
  refine (models i).settles (fun t => t.fails = false)
    (I := fun w' r _ => Inv i (erased i id w) w' r) ⟨_, hthreads, rfl⟩ ?_
    (fun p ticks w' r n hticks hi => hi.resume hticks) h hc
  change Inv i (erased i id w) (confirmed (deleteAlert i id) l ticks deletion w).world _
  rw [hw₀]
  refine ⟨rfl, fun q hq => ?_, fun _ _ => rfl, fun _ hd => hd, Or.inl rfl,
    fun _ _ => Or.inr ⟨.sync, List.mem_cons_self .., trivial⟩⟩
  rcases List.mem_pair.mp (Multiset.mem_coe.mp hq) with rfl | rfl
  · trivial
  · trivial

/-- **The inboxes are right when they were so before.** The messages have their times. The dialog
does what it is to do just when both users' entries show the newest message that is left already,
and when none is left, neither they nor a document in `contacts` are there. -/
theorem chat_deletion_iff
    (hdated : ∀ x ∈ w.store.docs (.messages (chatId i w)), (x.data .timestamp).isSome = true)
    (hdeletion : (deletion 0).fails = false)
    (h : (System.quiet World Scope).Run (fun _ e => ∀ n, (e.ticks n).fails = false)
      (confirmed (deleteAlert i id) l ticks deletion w) es c) (hc : c.Settled) :
    Deleted i id w c ↔
      Shown i id w w.store ∧ (newest (remaining i id w) = none → contacts i w = []) := by
  have hi := settled hdeletion h hc
  have hmessages : newest (remaining i id w) = none ↔ messages i (erased i id w) = [] :=
    newest_eq_none fun x hx => hdated x (Store.mem_delete.mp hx).1
  -- the inboxes are not touched
  have hchats : ∀ u, c.world.store.docs (.chats u) = w.store.docs (.chats u) := fun u =>
    (hi.frame (.chats u) fun hp => Path.noConfusion hp).trans
      (docs_erased id fun hp => Path.noConfusion hp)
  have hshown : Shown i id w c.world.store ↔ Shown i id w w.store := by
    simp only [Shown, Store.query, hchats]
  constructor
  · intro hdeleted
    refine ⟨hshown.mp hdeleted.shown, fun hnone => ?_⟩
    by_contra hfound
    rcases hi.due (hmessages.mp hnone) hfound with ⟨d, hd, hgone⟩ | ⟨p, hp, -⟩
    · refine hgone ((hdeleted.frame .contacts d ?_).mp (Store.mem_query _ |>.mp hd).1)
      rintro (⟨hpath, -⟩ | ⟨u, -, hpath, -⟩)
      · exact Path.noConfusion hpath
      · exact Path.noConfusion hpath
    · exact absurd hp (Multiset.notMem_zero p)
  · rintro ⟨hshows, hempty⟩
    refine ⟨fun x hx => ?_, hshown.mpr hshows, fun p d hd => ?_⟩
    · rw [hi.frame (.messages (chatId i w)) fun hp => Path.noConfusion hp] at hx
      exact fun hid => (Store.mem_delete.mp hx).2 ⟨rfl, hid⟩
    · by_cases hp : p = .contacts
      · subst hp
        rcases hi.same with hsame | ⟨hnone, x, hx, -⟩
        · rw [hsame]
          exact Iff.rfl
        · rw [contacts_erased, hempty (hmessages.mpr hnone)] at hx
          exact absurd hx List.not_mem_nil
      · rw [hi.frame p hp]
        exact (Iff.trans Store.mem_delete (and_iff_left fun hpd => hd (Or.inl hpd))).symm

end Runs

/-! ## Two dialogs -/

/-- Alice has sent a message to Bob at a time. -/
def message (content timestamp : String) : Data :=
  messageFields timestamp "alice" (.str "bob") content "c" .text false

/-- The entry of a user after the message "bye". -/
def entry (u : String) : Data := inboxFields "2" u (.str "bob") "c" "bye" "alice" false false

/-- Alice has the chat open, in which she has sent two messages. -/
def twoMessages : World :=
  { World.initial fun _ => ⟨"alice", "Alice", "1", ""⟩ with
    store := (((Store.empty.set (.messages "c") "m1" 0 (message "hi" "1")).set
      (.messages "c") "m2" 1 (message "bye" "2")).set
      (.chats "alice") "e" 0 (entry "alice")).set (.chats "bob") "e" 0 (entry "bob")
    chatCtrl := Heap.empty.alloc {
      device := 0, userData := ⟨"alice", "Alice", "1", ""⟩
      userContactModel := ⟨"bob", "Bob", "2", "", true⟩
      pId := "bob", pName := "Bob", chatId := "c" } }

/-- Every operation succeeds. -/
def noFailure (_ : ℕ) : Tick := ⟨5000, 0, false⟩

/-- A dialog that Alice has confirmed goes on to its end. -/
def settledFrom (id : String) : Config World Scope :=
  (System.quiet World Scope).exec
    (confirmed (deleteAlert 0 (.named id)) .idle noFailure noFailure twoMessages)
    (List.replicate 8 (.resume 0 noFailure))

theorem run_settledFrom (id : String) :
    (System.quiet World Scope).Run (fun _ e => ∀ n, (e.ticks n).fails = false)
      (confirmed (deleteAlert 0 (.named id)) .idle noFailure noFailure twoMessages)
      (List.replicate 8 (.resume 0 noFailure)) (settledFrom id) :=
  System.run_replicate fun _ => rfl

theorem dated_twoMessages : ∀ x ∈ twoMessages.store.docs (.messages (chatId 0 twoMessages)),
    (x.data .timestamp).isSome = true := by
  intro x hx
  rcases List.mem_pair.mp (hx : x ∈ [_, _]) with rfl | rfl
  · rfl
  · rfl

/-- The first message is deleted, and the inboxes show the second one as before. -/
theorem chat_deletion_first : Deleted 0 (.named "m1") twoMessages (settledFrom "m1") := by
  refine (chat_deletion_iff dated_twoMessages rfl (run_settledFrom "m1")
    (by decide +kernel)).mpr ⟨fun u hu => ?_, nofun⟩
  rcases List.mem_pair.mp hu with rfl | rfl
  · exact ⟨_, rfl, rfl, rfl⟩
  · exact ⟨_, rfl, rfl, rfl⟩

/-- **A deleted message stays in the inboxes**: both still show the second message. -/
theorem deleted_chat_message_shown : ¬ ∀ {i : ℕ} {id : DocId} {w : World} {l : Scope}
    {ticks deletion : ℕ → Tick} {es : List (Event Empty)} {c : Config World Scope},
    (∀ x ∈ w.store.docs (.messages (chatId i w)), (x.data .timestamp).isSome = true) →
    (deletion 0).fails = false →
    (System.quiet World Scope).Run (fun _ e => ∀ n, (e.ticks n).fails = false)
      (confirmed (deleteAlert i id) l ticks deletion w) es c → c.Settled → Deleted i id w c := by
  intro hclaim
  have hdeleted := hclaim dated_twoMessages rfl (run_settledFrom "m2") (by decide +kernel)
  obtain ⟨doc, hdoc, hshown, -⟩ := hdeleted.shown "alice" (List.mem_cons_self ..)
  have hentries : ((settledFrom "m2").world.store.query (.chats "alice")
      (Fields.isEqualTo .chatId (.str "c"))).map (·.data .lastMessage) =
        [some (.str "bye")] := by decide +kernel
  have hbye : [doc].map (·.data .lastMessage) = [some (.str "bye")] := hdoc ▸ hentries
  rw [List.map_singleton, hshown] at hbye
  exact absurd hbye (by decide +kernel)

end FlutterTheme.ChatDeletion
