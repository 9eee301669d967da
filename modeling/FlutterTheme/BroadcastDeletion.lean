import FlutterTheme.Deletion
import FlutterTheme.Broadcast

/-!
# Deleting a message of a broadcast

`BroadCastDeleteAlert` looks for the entry of the broadcast with `chatCtrl.chatId`, which no screen
of a broadcast ever sets, and reads the message that is left as if its `sender` were a map.
`broadcast_deletion_iff` says when it does what it is to do, whatever the store finds for a comparison
with null.
-/

namespace FlutterTheme.BroadcastDeletion

open EventLoop DocStore

/-! ## The dialog -/

/-- What is written into the document that has been found: `none` where `["id"]` of a value that is
not a map throws. -/
def messageShown (updateStamp : String) (message : Document) : Option Data :=
  match message.data .sender, message.data .receiver with
  | some (.user sender), some (.user receiver) => some (.ofList [
      (.updateStamp, .str updateStamp),
      (.lastMessage, (message.data .content).getD .null),
      (.senderId, (message.data .senderId).getD .null),
      (.sender, .user ⟨sender.id, sender.name, "", sender.image⟩),
      (.receiverId, (message.data .receiverId).getD .null),
      (.receiver, .user ⟨receiver.id, receiver.name, "", receiver.image⟩)])
  | _, _ => none

/-- The document is updated, if its new fields could be read. -/
def updateShown (u : String) (doc : Document) : Option Data → Call Unit
  | some data => update (.chats u) doc.id data
  | none => Async.throw

/-- The document found is to show the message. -/
def showMessage (u : String) (doc message : Document) : Call Unit := do
  let updateStamp ← millisecondsSinceEpoch
  updateShown u doc (messageShown updateStamp message)

/-- What is done with the documents found; `docs[0]` of an empty result throws. -/
def updateEntry (u : String) (value : Option Document) (found : List Document) : Call Unit :=
  match value, found with
  | none, doc :: _ => delete (.chats u) doc.id
  | none, [] => Async.throw
  | some message, doc :: _ => showMessage u doc message
  | some _, [] => pure ()

/-- `where("chatId", isEqualTo: chatCtrl.chatId)` with a `chatId` that is null; what the store
finds for it is given by `whereNull`. -/
def findEntry (whereNull : Data → Bool) (b : ℕ) (value : Option Document) : Call Unit := do
  let s ← broadcastChat b
  let found ← getDocs (.chats s.userData.id) whereNull
  updateEntry s.userData.id value found

/-- The dialog when the transaction is over. -/
def readNewest (whereNull : Data → Bool) (b : ℕ) : Call Unit := do
  let s ← broadcastChat b
  let value ← Async.remote fun _ w => (newest (w.store.docs (.broadcastMessage s.pId)), w)
  Async.spawn (findEntry whereNull b value)

/-- "Yes" in `BroadCastDeleteAlert` for a message of the open broadcast. -/
def broadCastDeleteAlert (whereNull : Data → Bool) (b : ℕ) (documentReference : DocId) :
    Call Unit := do
  let s ← broadcastChat b
  Async.spawn (delete (.broadcastMessage s.pId) documentReference)
  -- `runTransaction` with an empty body
  Async.remote fun _ w => ((), w)
  readNewest whereNull b

/-! ## The dialog as a machine -/

/-- Where a call of the dialog is suspended. -/
inductive Point : Type where
  /-- the deletion is on its way -/
  | erase (pId : String) (id : DocId) : Point
  | erased : Point
  /-- the transaction is on its way -/
  | sync : Point
  | synced : Point
  /-- the newest message is to be read -/
  | read (pId : String) : Point
  | answer (value : Option Document) : Point
  /-- the entry is to be found -/
  | look (u : String) (value : Option Document) : Point
  | looked (u : String) (value : Option Document) (found : List Document) : Point
  /-- a document is to be deleted -/
  | remove (u : String) (id : DocId) : Point
  | removed : Point
  /-- a document is to be updated -/
  | save (u : String) (id : DocId) (data : Data) : Point
  | saved (found : Bool) : Point

/-- The end of an update. -/
def updated (found : Bool) : Call Unit := if found then pure () else Async.throw

section Machine

variable (whereNull : Data → Bool) (b : ℕ)

/-- What a call has left to do. -/
def task : Point → Task World Scope
  | .erase pId id =>
    .request (fun _ w => ((), { w with store := w.store.delete (.broadcastMessage pId) id }))
      fun _ => .done
  | .erased => .done
  | .sync => .request (fun _ w => ((), w)) fun _ => (readNewest whereNull b).task
  | .synced => (readNewest whereNull b).task
  | .read pId =>
    .request (fun _ w => (newest (w.store.docs (.broadcastMessage pId)), w)) fun value =>
      (Async.spawn (findEntry whereNull b value)).task
  | .answer value => (Async.spawn (findEntry whereNull b value)).task
  | .look u value =>
    .request (fun _ w => (w.store.query (.chats u) whereNull, w)) fun found =>
      (updateEntry u value found).task
  | .looked u value found => (updateEntry u value found).task
  | .remove u id =>
    .request (fun _ w => ((), { w with store := w.store.delete (.chats u) id })) fun _ => .done
  | .removed => .done
  | .save u id data =>
    .request (fun _ w => ((w.store.doc? (.chats u) id).isSome,
      { w with store := w.store.update (.chats u) id data })) fun found => (updated found).task
  | .saved found => (updated found).task

/-- What is done with the documents found. -/
def entryUpdated (u : String) (value : Option Document) (found : List Document)
    (ticks : ℕ → Tick) (w : World) : Segment World Point :=
  match value, found with
  | none, doc :: _ => { world := w, points := [.remove u doc.id] }
  | none, [] => .threw w
  | some message, doc :: _ =>
    match messageShown (toString ((ticks 0).now / 1000)) message with
    | some data => { world := w, points := [.save u doc.id data] }
    | none => .threw w
  | some _, [] => { world := w }

/-- What a call does that is resumed. -/
def resume : Point → (ℕ → Tick) → World → Segment World Point
  | .erase pId id, ticks, w =>
    if (ticks 0).fails then .threw w
    else { world := { w with store := w.store.delete (.broadcastMessage pId) id }
           points := [.erased] }
  | .erased, _, w => { world := w }
  | .sync, ticks, w => if (ticks 0).fails then .threw w else { world := w, points := [.synced] }
  | .synced, _, w => { world := w, points := [.read (w.broadcastCtrl.get b).pId] }
  | .read pId, ticks, w =>
    if (ticks 0).fails then .threw w
    else { world := w, points := [.answer (newest (w.store.docs (.broadcastMessage pId)))] }
  | .answer value, _, w =>
    { world := w, points := [.look (w.broadcastCtrl.get b).userData.id value] }
  | .look u value, ticks, w =>
    if (ticks 0).fails then .threw w
    else { world := w, points := [.looked u value (w.store.query (.chats u) whereNull)] }
  | .looked u value found, ticks, w => entryUpdated u value found ticks w
  | .remove u id, ticks, w =>
    if (ticks 0).fails then .threw w
    else { world := { w with store := w.store.delete (.chats u) id }, points := [.removed] }
  | .removed, _, w => { world := w }
  | .save u id data, ticks, w =>
    if (ticks 0).fails then .threw w
    else { world := { w with store := w.store.update (.chats u) id data }
           points := [.saved (w.store.doc? (.chats u) id).isSome] }
  | .saved found, _, w => if found then { world := w } else .threw w

/-- The dialog as a machine. -/
def machine : Machine World Point Empty := ⟨fun a => a.elim, resume whereNull b⟩

/-- The branches of the dialog after both answers have come, by whether a message is left and
whether an entry was found; only the branch with both goes on with the text that is shown. -/
theorem run_updateEntry {ticks : ℕ → Tick} {l : Scope} {w : World} {u : String}
    {value : Option Document} {found : List Document} :
    ((updateEntry u value found).task.run ticks l 0 w).Is (task whereNull b)
      (entryUpdated u value found ticks w) := by
  rcases value with - | message <;> rcases found with - | ⟨doc, docs⟩
  · exact ⟨rfl, rfl, rfl⟩
  · exact ⟨rfl, rfl, rfl⟩
  · exact ⟨rfl, rfl, rfl⟩
  · have hshown : ∀ data : Option Data, ((updateShown u doc data).task.run ticks l 1 w).Is
        (task whereNull b) (match data with
          | some data => { world := w, points := [.save u doc.id data] }
          | none => .threw w) := by
      rintro (- | data)
      · exact ⟨rfl, rfl, rfl⟩
      · exact ⟨rfl, rfl, rfl⟩
    have h := hshown (messageShown (toString ((ticks 0).now / 1000)) message)
    exact ⟨h.world, h.threads, h.uncaught⟩

/-- The dialog's machine does what the dialog does, one suspension point at a time: each request
waits for the store, and each answer leads to the point `resume` says. -/
theorem models : (machine whereNull b).Models (System.quiet World Scope) (task whereNull b) where
  call a := a.elim
  resume p ticks l w := by
    cases p with
    | erase pId id =>
      simp only [task, machine, resume]
      exact Task.request_is rfl rfl
    | erased => exact ⟨rfl, rfl, rfl⟩
    | sync =>
      simp only [task, machine, resume]
      exact Task.request_is rfl rfl
    | synced => exact ⟨rfl, rfl, rfl⟩
    | read pId =>
      simp only [task, machine, resume]
      exact Task.request_is rfl rfl
    | answer value => exact ⟨rfl, rfl, rfl⟩
    | look u value =>
      simp only [task, machine, resume]
      exact Task.request_is rfl rfl
    | looked u value found => exact run_updateEntry whereNull b
    | remove u id =>
      simp only [task, machine, resume]
      exact Task.request_is rfl rfl
    | removed => exact ⟨rfl, rfl, rfl⟩
    | save u id data =>
      simp only [task, machine, resume]
      exact Task.request_is rfl rfl
    | saved found =>
      cases found with
      | true => exact ⟨rfl, rfl, rfl⟩
      | false => exact ⟨rfl, rfl, rfl⟩

end Machine

/-! ## What is to hold -/

section Dialog

variable (whereNull : Data → Bool) (b : ℕ) (id : DocId) (w : World)

/-- The broadcast whose screen is open. -/
def broadcastId : String := (w.broadcastCtrl.get b).pId

/-- Its owner. -/
def owner : String := (w.broadcastCtrl.get b).userData.id

/-- The messages of the broadcast when the message has been deleted. -/
def remaining : List Document :=
  (w.store.delete (.broadcastMessage (broadcastId b w)) id).docs
    (.broadcastMessage (broadcastId b w))

/-- The owner has one entry for the broadcast, and its messages are as they are stored. -/
structure Stored (entry : Document) : Prop where
  entry : w.store.query (.chats (owner b w))
    (Fields.isEqualTo .broadcastId (.str (broadcastId b w))) = [entry]
  message : ∀ x ∈ w.store.docs (.broadcastMessage (broadcastId b w)), ∃ user receiver content type
    timestamp, x.data =
      broadcastMessageFields user receiver content (broadcastId b w) type timestamp

/-- What is to hold when the dialog has come to its end. -/
structure Deleted (entry : Document) (c : Config World Scope) : Prop where
  gone : ∀ x ∈ c.world.store.docs (.broadcastMessage (broadcastId b w)), x.id ≠ id
  /-- the entry shows the newest message, with its sender and recipients -/
  shown : ∀ m, newest (remaining b id w) = some m → ∃ doc,
    c.world.store.query (.chats (owner b w))
      (Fields.isEqualTo .broadcastId (.str (broadcastId b w))) = [doc] ∧
      doc.data .lastMessage = m.data .content ∧ doc.data .senderId = entry.data .senderId ∧
        doc.data .receiverId = entry.data .receiverId
  /-- without a message there is no entry -/
  removed : newest (remaining b id w) = none → c.world.store.query (.chats (owner b w))
    (Fields.isEqualTo .broadcastId (.str (broadcastId b w))) = []
  /-- nothing else has changed -/
  frame : w.store.Frame (fun p d => (p = .broadcastMessage (broadcastId b w) ∧ d.id = id) ∨
    (p = .chats (owner b w) ∧ d.data .broadcastId = some (.str (broadcastId b w))))
    c.world.store
  returns : c.uncaught = []

/-- The documents that the dialog takes for the entry. -/
def found : List Document := w.store.query (.chats (owner b w)) whereNull

/-- When a message is left, the dialog finds nothing, and the entry shows the message already. When
none is left, the first document that it finds is the entry. -/
def Fits (entry : Document) : Prop :=
  match newest (remaining b id w) with
  | some m => found whereNull b w = [] ∧ entry.data .lastMessage = m.data .content
  | none => ∃ docs, found whereNull b w = entry :: docs

end Dialog

/-! ## What the dialog does -/

section Runs

/-- The newest message of the broadcast. -/
def lastMessage (b : ℕ) (w₀ : World) : Option Document :=
  newest (w₀.store.docs (.broadcastMessage (broadcastId b w₀)))

/-- What the dialog leaves when it started in `w₀`, and how many calls have thrown. -/
def Done (whereNull : Data → Bool) (b : ℕ) (w₀ w : World) (n : ℕ) : Prop :=
  match lastMessage b w₀, found whereNull b w₀ with
  | none, doc :: _ =>
    w = { w₀ with store := w₀.store.delete (.chats (owner b w₀)) doc.id } ∧ n = 0
  | none, [] => w = w₀ ∧ n = 1
  | some _, _ :: _ => w = w₀ ∧ n = 1
  | some _, [] => w = w₀ ∧ n = 0

/-- What is known at a point. -/
def Point.Ok (whereNull : Data → Bool) (b : ℕ) (w₀ : World) : Point → Prop
  | .sync | .synced => True
  | .read pId => pId = broadcastId b w₀
  | .answer value => value = lastMessage b w₀
  | .look u value => u = owner b w₀ ∧ value = lastMessage b w₀
  | .looked u value ds =>
    u = owner b w₀ ∧ value = lastMessage b w₀ ∧ ds = BroadcastDeletion.found whereNull b w₀
  | .remove u x => u = owner b w₀ ∧ lastMessage b w₀ = none ∧
      ∃ doc docs, BroadcastDeletion.found whereNull b w₀ = doc :: docs ∧ x = doc.id
  | _ => False

/-- Where the dialog has got to: nothing has changed before its end. -/
def At (whereNull : Data → Bool) (b : ℕ) (w₀ w : World) : Option Point → ℕ → Prop
  | some p, n => w = w₀ ∧ n = 0 ∧ p.Ok whereNull b w₀
  | none, n => Done whereNull b w₀ w n

variable {whereNull : Data → Bool} {b : ℕ} {id : DocId} {w₀ w : World} {entry : Document}
  {l : Scope} {ticks deletion : ℕ → Tick} {es : List (Event Empty)} {c : Config World Scope}

/-- What a call that is resumed keeps: the call is at one point of the dialog at a time, and each
point is followed by the one the answers lead to; the deletions it has started go on by themselves.
-/
theorem at_resume (hsender : ∀ m, lastMessage b w₀ = some m → ∀ stamp, messageShown stamp m = none)
    (hticks : ∀ k, (ticks k).fails = false) {p : Point} {n : ℕ}
    (h : At whereNull b w₀ w (some p) n) : ∃ o rest,
      (resume whereNull b p ticks w).points = o.toList ++ rest ∧
        (∀ q ∈ rest, q = .erased ∨ q = .removed) ∧
        At whereNull b w₀ (resume whereNull b p ticks w).world o
          (n + (resume whereNull b p ticks w).thrown) := by
  obtain ⟨rfl, rfl, hok⟩ := h
  cases p with
  | sync =>
    simp only [resume, hticks, Bool.false_eq_true, if_false]
    exact ⟨some .synced, [], rfl, nofun, rfl, rfl, trivial⟩
  | synced => exact ⟨some (.read _), [], rfl, nofun, rfl, rfl, rfl⟩
  | read pId =>
    obtain rfl : pId = broadcastId b w := hok
    simp only [resume, hticks, Bool.false_eq_true, if_false]
    exact ⟨some (.answer _), [], rfl, nofun, rfl, rfl, rfl⟩
  | answer value => exact ⟨some (.look _ value), [], rfl, nofun, rfl, rfl, rfl, hok⟩
  | look u value =>
    obtain ⟨rfl, hvalue⟩ := hok
    simp only [resume, hticks, Bool.false_eq_true, if_false]
    exact ⟨some (.looked _ value _), [], rfl, nofun, rfl, rfl, rfl, hvalue, rfl⟩
  | looked u value ds =>
    obtain ⟨rfl, rfl, rfl⟩ := hok
    simp only [resume]
    cases hvalue : lastMessage b w with
    | none =>
      cases hfound : found whereNull b w with
      | nil =>
        -- `docs[0]` of an empty result throws
        refine ⟨none, [], rfl, nofun, ?_⟩
        rw [At, Done, hvalue, hfound]
        exact ⟨rfl, rfl⟩
      | cons doc docs =>
        exact ⟨some (.remove _ doc.id), [], rfl, nofun, rfl, rfl, rfl, hvalue, doc, docs, hfound,
          rfl⟩
    | some m =>
      cases hfound : found whereNull b w with
      | nil =>
        refine ⟨none, [], rfl, nofun, ?_⟩
        rw [At, Done, hvalue, hfound]
        exact ⟨rfl, rfl⟩
      | cons doc docs =>
        -- reading the sender of the message throws
        simp only [entryUpdated, hsender m hvalue]
        refine ⟨none, [], rfl, nofun, ?_⟩
        rw [At, Done, hvalue, hfound]
        exact ⟨rfl, rfl⟩
  | remove u x =>
    obtain ⟨rfl, hvalue, doc, docs, hfound, rfl⟩ := hok
    simp only [resume, hticks, Bool.false_eq_true, if_false]
    refine ⟨none, [.removed], rfl, fun q hq => Or.inr (List.mem_singleton.mp hq), ?_⟩
    rw [At, Done, hvalue, hfound]
    exact ⟨rfl, rfl⟩
  | erase | erased | removed | save | saved => exact hok.elim

/-- The world in which the message has been deleted. -/
def erased (b : ℕ) (id : DocId) (w : World) : World :=
  { w with store := w.store.delete (.broadcastMessage (broadcastId b w)) id }

/-- The sender of a message that is left is a text. -/
theorem Stored.messageShown (hs : Stored b w entry) {m : Document}
    (hm : lastMessage b (erased b id w) = some m) (stamp : String) : messageShown stamp m = none := by
  obtain ⟨user, receiver, content, type, timestamp, hdata⟩ :=
    hs.message m (Store.mem_delete.mp (mem_of_newest hm)).1
  rw [BroadcastDeletion.messageShown, hdata]
  rfl

/-- What the dialog has done when it has come to its end, in any settled run: by induction on the
run, with `at_resume` for each event. -/
theorem Stored.done (hs : Stored b w entry) (hdeletion : (deletion 0).fails = false)
    (h : (System.quiet World Scope).Run (fun _ e => ∀ n, (e.ticks n).fails = false)
      (confirmed (broadCastDeleteAlert whereNull b id) l ticks deletion w) es c)
    (hc : c.Settled) : Done whereNull b (erased b id w) c.world c.uncaught.length := by
  have hstart : ((broadCastDeleteAlert whereNull b id).start l ticks w).threads.map (·.task) =
      [.erase (broadcastId b w) id, .sync].map (task whereNull b) := rfl
  obtain ⟨hworld, hthreads, hlen⟩ := (models whereNull b).apply_at hstart (i := 0) rfl deletion
  simp only [machine, resume, hdeletion, Bool.false_eq_true, if_false] at hworld hthreads hlen
  refine (models whereNull b).settles_one (fun t => t.fails = false)
    (I := At whereNull b (erased b id w)) (fun q => q = .erased ∨ q = .removed)
    (some .sync) ⟨_, hthreads, rfl⟩ (fun q hq => Or.inl (List.mem_singleton.mp hq)) ?_ ?_
    (fun p ticks w n hticks hi => at_resume (fun m hm => hs.messageShown hm) hticks hi) h hc
  · exact ⟨hworld, hlen, trivial⟩
  · rintro p ticks w (rfl | rfl) -
    · rfl
    · rfl

/-- A document of the owner that is of the broadcast is the entry. -/
theorem Stored.eq_entry (hs : Stored b w entry) {x : Document}
    (hx : x ∈ w.store.docs (.chats (owner b w)))
    (h : x.data .broadcastId = some (.str (broadcastId b w))) : x = entry := by
  have hmem := (Store.mem_query _).mpr ⟨hx, Fields.isEqualTo_iff.mpr h⟩
  rw [hs.entry] at hmem
  exact List.mem_singleton.mp hmem

/-- When nothing has been written, the inbox is right if it was so before. -/
theorem Stored.unchanged (hs : Stored b w entry) (hc : c.world = erased b id w) {m : Document}
    (hm : newest (remaining b id w) = some m) (hn : c.uncaught = []) :
    Deleted b id w entry c ↔ entry.data .lastMessage = m.data .content := by
  have hquery : c.world.store.query (.chats (owner b w))
      (Fields.isEqualTo .broadcastId (.str (broadcastId b w))) = [entry] := by
    rw [hc]
    exact hs.entry
  refine ⟨fun hdeleted => ?_, fun hshown => ⟨fun x hx => ?_, fun m' hm' => ?_, fun hnone => ?_,
    fun p d hd => ?_, hn⟩⟩
  · obtain ⟨doc, hdoc, hshown, -⟩ := hdeleted.shown m hm
    rw [hquery] at hdoc
    rwa [← (List.cons.inj hdoc).1] at hshown
  · rw [hc] at hx
    exact fun hid => (Store.mem_delete.mp hx).2 ⟨rfl, hid⟩
  · obtain rfl : m = m' := Option.some.inj (hm.symm.trans hm')
    exact ⟨entry, hquery, hshown, rfl, rfl⟩
  · exact absurd (hm.symm.trans hnone) (Option.some_ne_none m)
  · rw [hc]
    exact (Iff.trans Store.mem_delete (and_iff_left fun hpd => hd (Or.inl hpd))).symm

/-- When a document has been deleted, it has to be the entry. -/
theorem Stored.dropped (hs : Stored b w entry) {doc : Document}
    (hdoc : doc ∈ w.store.docs (.chats (owner b w)))
    (hc : c.world = { erased b id w with
      store := (erased b id w).store.delete (.chats (owner b w)) doc.id })
    (hm : newest (remaining b id w) = none) (hn : c.uncaught = []) :
    Deleted b id w entry c ↔ doc = entry := by
  have hmem : ∀ {p x}, x ∈ c.world.store.docs p ↔
      (x ∈ w.store.docs p ∧ ¬ (p = .broadcastMessage (broadcastId b w) ∧ x.id = id)) ∧
        ¬ (p = .chats (owner b w) ∧ x.id = doc.id) := fun {p x} => by
    rw [hc]
    exact Store.mem_delete.trans (and_congr_left' Store.mem_delete)
  refine ⟨fun hdeleted => ?_, ?_⟩
  · by_contra hne
    have hkept := (hdeleted.frame (.chats (owner b w)) doc ?_).mp hdoc
    · exact (hmem.mp hkept).2 ⟨rfl, rfl⟩
    · rintro (⟨hpath, -⟩ | ⟨-, hbroadcast⟩)
      · exact Path.noConfusion hpath
      · exact hne (hs.eq_entry hdoc hbroadcast)
  · rintro rfl
    refine ⟨fun x hx hid => (hmem.mp hx).1.2 ⟨rfl, hid⟩, fun m hm' => ?_, fun _ => ?_,
      fun p d hd => ?_, hn⟩
    · exact absurd (hm'.symm.trans hm) (Option.some_ne_none m)
    · refine List.filter_eq_nil_iff.mpr fun x hx hbroadcast => ?_
      obtain ⟨⟨hx, -⟩, hne⟩ := hmem.mp hx
      exact hne ⟨rfl, by rw [hs.eq_entry hx (Fields.isEqualTo_iff.mp hbroadcast)]⟩
    · rw [hmem]
      refine ⟨fun hmem => ⟨⟨hmem, fun hpd => hd (Or.inl hpd)⟩, ?_⟩, fun hmem => hmem.1.1⟩
      rintro ⟨rfl, hid⟩
      obtain rfl : d = doc := w.store.eq_of_id hmem hdoc hid
      have hentry := (Store.mem_query _).mp (hs.entry.symm ▸ List.mem_singleton_self d)
      exact hd (Or.inr ⟨rfl, Fields.isEqualTo_iff.mp hentry.2⟩)

/-- **When the dialog is right.** The messages are as they are stored, and the owner has one entry
for the broadcast. The dialog does what it is to do just when it finds nothing while a message is
left that the entry shows already, or when none is left and the entry is what it finds first. -/
theorem broadcast_deletion_iff (hs : Stored b w entry) (hdeletion : (deletion 0).fails = false)
    (h : (System.quiet World Scope).Run (fun _ e => ∀ n, (e.ticks n).fails = false)
      (confirmed (broadCastDeleteAlert whereNull b id) l ticks deletion w) es c)
    (hc : c.Settled) : Deleted b id w entry c ↔ Fits whereNull b id w entry := by
  have hdone := hs.done hdeletion h hc
  rw [Done] at hdone
  have hvalue : lastMessage b (erased b id w) = newest (remaining b id w) := rfl
  have hfound : found whereNull b (erased b id w) = found whereNull b w := rfl
  rw [hvalue, hfound] at hdone
  rw [Fits]
  cases hm : newest (remaining b id w) with
  | none =>
    cases hds : found whereNull b w with
    | nil =>
      rw [hm, hds] at hdone
      refine iff_of_false (fun hdeleted => ?_) fun ⟨docs, hdocs⟩ => List.cons_ne_nil _ _ hdocs.symm
      rw [hdeleted.returns] at hdone
      exact absurd hdone.2 (by decide)
    | cons doc docs =>
      rw [hm, hds] at hdone
      have hdoc : doc ∈ w.store.docs (.chats (owner b w)) :=
        ((Store.mem_query _).mp (hds.symm ▸ List.mem_cons_self ..)).1
      rw [hs.dropped hdoc hdone.1 hm (List.length_eq_zero_iff.mp hdone.2)]
      exact ⟨fun heq => ⟨docs, by rw [heq]⟩, fun ⟨_, hdocs⟩ => (List.cons.inj hdocs).1⟩
  | some m =>
    cases hds : found whereNull b w with
    | nil =>
      rw [hm, hds] at hdone
      rw [hs.unchanged hdone.1 hm (List.length_eq_zero_iff.mp hdone.2)]
      exact ⟨fun hshown => ⟨rfl, hshown⟩, fun hfits => hfits.2⟩
    | cons doc docs =>
      rw [hm, hds] at hdone
      refine iff_of_false (fun hdeleted => ?_) fun hfits => List.cons_ne_nil _ _ hfits.1
      rw [hdeleted.returns] at hdone
      exact absurd hdone.2 (by decide)

end Runs

/-! ## Two dialogs -/

/-- Alice has sent a message to the broadcast `b` at a time. -/
def message (content timestamp : String) : Data :=
  broadcastMessageFields ⟨"alice", "Alice", "1", ""⟩ [⟨"bob", "Bob", "2", "", none⟩] content "b"
    .text timestamp

/-- The entry of the broadcast after the message "bye". -/
def entry : Data :=
  (broadcastEntryFields [⟨"bob", "Bob", "2", "", none⟩] "b" ⟨"alice", "Alice", "1", ""⟩ "2").merge
    (.ofList [(.lastMessage, .str "bye")])

/-- Alice has the broadcast open, to which she has sent a message. -/
def oneMessage : World :=
  { World.initial fun _ => ⟨"alice", "Alice", "1", ""⟩ with
    store := (Store.empty.set (.broadcastMessage "b") "m2" 1 (message "bye" "2")).set
      (.chats "alice") "e" 0 entry
    broadcastCtrl := Heap.empty.alloc {
      device := 0, userData := ⟨"alice", "Alice", "1", ""⟩, pId := "b"
      pData := [⟨"bob", "Bob", "2", "", none⟩] } }

/-- Alice has sent another one before. -/
def twoMessages : World :=
  { oneMessage with store := oneMessage.store.set (.broadcastMessage "b") "m1" 0 (message "hi" "1") }

/-- Every operation succeeds. -/
def noFailure (_ : ℕ) : Tick := ⟨5000, 0, false⟩

/-- A dialog that Alice has confirmed goes on to its end. -/
def settledFrom (whereNull : Data → Bool) (w : World) (id : String) : Config World Scope :=
  (System.quiet World Scope).exec
    (confirmed (broadCastDeleteAlert whereNull 0 (.named id)) .idle noFailure noFailure w)
    (List.replicate 12 (.resume 0 noFailure))

theorem run_settledFrom (whereNull : Data → Bool) (w : World) (id : String) :
    (System.quiet World Scope).Run (fun _ e => ∀ n, (e.ticks n).fails = false)
      (confirmed (broadCastDeleteAlert whereNull 0 (.named id)) .idle noFailure noFailure w)
      (List.replicate 12 (.resume 0 noFailure)) (settledFrom whereNull w id) :=
  System.run_replicate fun _ => rfl

theorem stored_oneMessage : Stored 0 oneMessage ⟨.named "e", entry⟩ := by
  refine ⟨rfl, fun x hx => ?_⟩
  obtain rfl := List.mem_singleton.mp (hx : x ∈ [_])
  exact ⟨_, _, _, _, _, rfl⟩

theorem stored_twoMessages : Stored 0 twoMessages ⟨.named "e", entry⟩ := by
  refine ⟨rfl, fun x hx => ?_⟩
  rcases List.mem_pair.mp (hx : x ∈ [_, _]) with rfl | rfl
  · exact ⟨_, _, _, _, _, rfl⟩
  · exact ⟨_, _, _, _, _, rfl⟩

/-- The only message is deleted, and the only entry with it, since the comparison with null leaves
all documents in the result. -/
theorem broadcast_deletion_only : Deleted 0 (.named "m2") oneMessage ⟨.named "e", entry⟩
    (settledFrom (fun _ => true) oneMessage "m2") :=
  (broadcast_deletion_iff stored_oneMessage rfl (run_settledFrom _ _ "m2") (by decide +kernel)).mpr
    ⟨[], rfl⟩

/-- **The entry keeps the deleted message**, whether the comparison with null leaves all documents
in the result or only those with a null. -/
theorem deleted_broadcast_message_shown : ¬ ∃ whereNull ∈ [fun _ => true, Fields.isEqualTo .chatId .null],
    ∀ {b : ℕ} {id : DocId} {w : World} {entry : Document} {l : Scope} {ticks deletion : ℕ → Tick}
      {es : List (Event Empty)} {c : Config World Scope}, Stored b w entry →
      (deletion 0).fails = false →
      (System.quiet World Scope).Run (fun _ e => ∀ n, (e.ticks n).fails = false)
        (confirmed (broadCastDeleteAlert whereNull b id) l ticks deletion w) es c → c.Settled →
      Deleted b id w entry c := by
  rintro ⟨whereNull, hwhere, hclaim⟩
  rcases List.mem_pair.mp hwhere with rfl | rfl
  · have hdeleted := hclaim stored_twoMessages rfl (run_settledFrom _ _ "m2") (by decide +kernel)
    have hthrown : (settledFrom (fun _ => true) twoMessages "m2").uncaught.length = 1 := by decide +kernel
    rw [hdeleted.returns] at hthrown
    exact absurd hthrown (by decide)
  · have hdeleted := hclaim stored_twoMessages rfl (run_settledFrom _ _ "m2") (by decide +kernel)
    obtain ⟨doc, hdoc, hshown, -⟩ := hdeleted.shown _ rfl
    have hentries : ((settledFrom (Fields.isEqualTo .chatId .null) twoMessages "m2").world.store.query
        (.chats "alice") (Fields.isEqualTo .broadcastId (.str "b"))).map (·.data .lastMessage) =
          [some (.str "bye")] := by decide +kernel
    have hbye : [doc].map (·.data .lastMessage) = [some (.str "bye")] := hdoc ▸ hentries
    rw [List.map_singleton, hshown] at hbye
    exact absurd hbye (by decide +kernel)

end FlutterTheme.BroadcastDeletion
