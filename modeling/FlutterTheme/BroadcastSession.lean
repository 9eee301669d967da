import FlutterTheme.Account
import FlutterTheme.Evolution

/-!
# Messages to broadcasts, accounted for

A message to a broadcast starts a copy for every recipient and awaits none of them.
Two things about it are counted elsewhere: the copies that arrive, and how often each
recipient gets into `newpData`. What both counts share is here.

* `World.Continues` — what a suspended copy relies on: inbox entries keep their
  identifiers, and a recipient with a conversation keeps it.
* `Tally` — what is counted: how much each action of a message is worth, and what has
  to hold for it. `Tally.Lawful` says that the actions do what the tally says.
* `Tally.Lawful.owes_send` — a message owes the worth of all its copies, less what is
  taken off when it is entered in the history.
-/

namespace FlutterTheme

open EventLoop DocStore

/-! ## What a suspended copy relies on -/

/-- How a broadcast screen may change while a copy is suspended. -/
structure BroadcastChatController.Continues (s s' : BroadcastChatController) : Prop
    extends s.Later s' where
  /-- a recipient with a conversation keeps it -/
  chatId : ∀ i < s.pData.length, ∀ c, (s.recipient i).chatId = some c →
    (s'.recipient i).chatId = some c

namespace BroadcastChatController

variable {s s' s'' : BroadcastChatController} {i : ℕ}

theorem Continues.refl (s : BroadcastChatController) : s.Continues s :=
  ⟨.refl s, fun _ _ _ h => h⟩

theorem Continues.trans (h : s.Continues s') (h' : s'.Continues s'') : s.Continues s'' := by
  refine ⟨h.toLater.trans h'.toLater, fun i hi c hc => ?_⟩
  exact h'.chatId i (h.length ▸ hi) c (h.chatId i hi c hc)

/-- A recipient without a conversation gets one. -/
theorem continues_setChatId {chatId : String} (hnone : (s.recipient i).chatId = none) :
    s.Continues (s.setChatId i chatId) := by
  refine ⟨s.later_setChatId i chatId, fun j hj c hc => ?_⟩
  rw [recipient_setChatId hj]
  split
  · next he =>
    subst he
    rw [hnone] at hc
    cases hc
  · exact hc

end BroadcastChatController

/-- How the world may change while a copy is suspended. -/
structure World.Continues (w w' : World) : Prop where
  session : w'.session = w.session
  /-- the history of messages to broadcasts is only extended -/
  log : w.broadcastLog <:+ w'.broadcastLog
  /-- inbox entries stay and keep their identifiers -/
  entries : ∀ u, Store.Keeps entryIds (.chats u) w.store w'.store
  screens : w.broadcastCtrl.Evolves BroadcastChatController.Continues w'.broadcastCtrl

namespace World.Continues

variable {w w' w'' : World}

theorem refl (w : World) : w.Continues w where
  session := rfl
  log := List.suffix_refl _
  entries _ := Store.Keeps.refl _ _ _
  screens := Heap.Evolves.refl BroadcastChatController.Continues.refl _

theorem trans (h : w.Continues w') (h' : w'.Continues w'') : w.Continues w'' where
  session := h'.session.trans h.session
  log := h.log.trans h'.log
  entries u := (h.entries u).trans (h'.entries u)
  screens := h.screens.trans BroadcastChatController.Continues.trans h'.screens

theorem of_store {s : Store Path Key Value}
    (h : ∀ u, Store.Keeps entryIds (.chats u) w.store s) : w.Continues { w with store := s } :=
  { refl w with entries := h }

theorem of_screen {k : ℕ} {f : BroadcastChatController → BroadcastChatController}
    (h : (w.broadcastCtrl.get k).Continues (f (w.broadcastCtrl.get k))) :
    w.Continues { w with broadcastCtrl := w.broadcastCtrl.modify k f } :=
  { refl w with
    screens := Heap.evolves_modify BroadcastChatController.Continues.refl _ _ h }

theorem of_newScreen (s : BroadcastChatController) :
    w.Continues { w with broadcastCtrl := w.broadcastCtrl.alloc s } :=
  { refl w with screens := Heap.evolves_alloc BroadcastChatController.Continues.refl _ _ }

theorem of_mint {k i : ℕ} (h : ((w.broadcastCtrl.get k).recipient i).chatId = none) (c : String)
    (m : List (String × Sym2 String)) :
    w.Continues
      { w with broadcastCtrl := w.broadcastCtrl.modify k (·.setChatId i c), minted := m } :=
  { refl w with
    screens := Heap.evolves_modify BroadcastChatController.Continues.refl _ _
      (BroadcastChatController.continues_setChatId h) }

theorem of_chat (h : Heap ChatController) : w.Continues { w with chatCtrl := h } :=
  { refl w with }

theorem of_log (e : ℕ × String) : w.Continues { w with broadcastLog := e :: w.broadcastLog } :=
  { refl w with log := List.suffix_cons _ _ }

end World.Continues

/-- The screen `k` is open, and `s` is what it was at some earlier time. -/
structure World.Shows (w : World) (k : ℕ) (s : BroadcastChatController) : Prop where
  lt : k < w.broadcastCtrl.size
  continues : s.Continues (w.broadcastCtrl.get k)

theorem World.Shows.later {w w' : World} {k : ℕ} {s : BroadcastChatController} (h : w.Shows k s)
    (hw : w.Continues w') : w'.Shows k s :=
  ⟨Nat.lt_of_lt_of_le h.lt hw.screens.1, h.continues.trans (hw.screens.2 k h.lt)⟩

/-! ## What is counted -/

/-- The writes of `saveMessageInUserCollection`. -/
inductive EntryWrite (w : World) : Write Path Key Value → Prop where
  | add (x : String) (pos : ℕ) (stamp : String) (receiverId : Value) (c content sender : String)
      (isBlock isBroadcast : Bool) :
      EntryWrite w (.add (.chats x) pos
        (inboxFields stamp x receiverId c content sender isBlock isBroadcast))
  | update (x : String) (id : DocId) (stamp : String) (receiverId : Value)
      (c content sender : String) (isBlock isBroadcast : Bool)
      (h : ∀ d ∈ w.store.docs (.chats x), d.id = id → d.data .chatId = some (.str c)) :
      EntryWrite w (.update (.chats x) id
        (inboxFields stamp x receiverId c content sender isBlock isBroadcast))

theorem EntryWrite.keeps {w : World} {op : Write Path Key Value} (h : EntryWrite w op)
    (u : String) : Store.Keeps entryIds (.chats u) w.store (w.store.write op) := by
  cases h with
  | add => exact Store.keeps_add
  | update x id stamp receiverId c content sender isBlock isBroadcast h =>
    refine Store.keeps_update ?_
    intro he d hd hid
    cases he
    simp only [entryIds, Prod.mk.injEq]
    exact ⟨(h d hd hid).symm, rfl, rfl⟩

/-- A count: how much of it there is in a world, what each action of a message adds to
it, and what has to hold for the action to do so. -/
structure Tally where
  /-- how much there is -/
  balance : World → ℤ
  /-- holds whenever a handler is suspended or resumed -/
  inv : World → Prop
  /-- holds when a message that has waited for its copies is carried on -/
  resumes : World → Prop
  /-- the screens that messages are sent from -/
  active : ℕ → Prop
  /-- when a message may be entered in the history -/
  ready : List (ℕ × String) → ℕ → Prop
  /-- whether copies in known conversations count -/
  countsCopies : Prop
  /-- what a copy counts: from a screen, for a recipient, in a conversation, of a content -/
  copyDue : ℕ → ℕ → String → String → ℤ
  /-- what it counts that a recipient of a screen gets into `newpData` -/
  reachDue : ℕ → ℕ → ℤ
  /-- what is taken off when a message of a screen with so many recipients is entered in
  the history -/
  logDue : ℕ → ℕ → ℤ

namespace Tally

variable (τ : Tally)

/-- The scopes in which a handler may owe something: no operation fails there. -/
def Owing : Scope → Prop
  | .firstCopy _ _ _ _ => True
  | .copy _ _ _ _ => τ.countsCopies
  | _ => False

/-- The account of the tally. No operation fails where something is owed. -/
def ledger : Ledger World Scope where
  balance := τ.balance
  limit l n := τ.Owing l ∨ n = 0
  strict l := l = .idle ∨ τ.Owing l
  exact := True

/-- What copies and messages rely on and keep. -/
def protocol : Protocol World Scope where
  rely := World.Continues
  inv := τ.inv
  step _ _ _ := True
  promise
    | .broadcastWait _ _, w => τ.resumes w
    | _, _ => True
  rely_refl := World.Continues.refl
  rely_trans := World.Continues.trans
  step_refl _ _ := trivial

/-- From `w` to `w'` the amount `n` is paid, and the invariant is kept. -/
def Moves (w w' : World) (n : ℤ) : Prop := τ.inv w' ∧ τ.balance w' = τ.balance w + n

/-- `s` was read from the screen `k` by a message that had waited for its copies. -/
def Told (w : World) (k : ℕ) (s : BroadcastChatController) : Prop :=
  ∃ w₁ : World, τ.inv w₁ ∧ τ.resumes w₁ ∧ k < w₁.broadcastCtrl.size ∧
    k ∈ w₁.broadcastLog.map Prod.fst ∧ s = w₁.broadcastCtrl.get k ∧ w₁.Continues w

/-- What the copy for the recipient at `i` counts in all. -/
def due (k i : ℕ) (content : String) (w : World) : ℤ :=
  match ((w.broadcastCtrl.get k).recipient i).chatId with
  | some c => τ.copyDue k i c content + τ.reachDue k i
  | none => 0

/-- The recipient at `i` has a conversation. -/
def Known (w : World) (k i : ℕ) : Prop :=
  ∃ c, ((w.broadcastCtrl.get k).recipient i).chatId = some c

/-- What the actions of a message do to the count. -/
structure Lawful : Prop where
  /-- copies in known conversations count only if the tally says so -/
  copy : ¬ τ.countsCopies → ∀ k i c content, τ.copyDue k i c content = 0
  /-- the text field is emptied -/
  clear : ∀ {w k}, τ.inv w → k < w.broadcastCtrl.size →
    τ.Moves w { w with broadcastCtrl := w.broadcastCtrl.modify k fun s => { s with text := "" } } 0
  /-- a chat screen changes -/
  chat : ∀ {w} (h : Heap ChatController), τ.inv w → τ.Moves w { w with chatCtrl := h } 0
  /-- a recipient gets into `newpData` -/
  reach : ∀ {w k i}, τ.inv w → k < w.broadcastCtrl.size →
    i < (w.broadcastCtrl.get k).pData.length →
    τ.Moves w { w with broadcastCtrl := w.broadcastCtrl.modify k fun s =>
      { s with newpData := s.newpData ++ [i] } } (τ.reachDue k i)
  /-- a recipient gets a conversation -/
  mint : ∀ {w k i} (c : String) (m : List (String × Sym2 String)), τ.inv w → τ.active k →
    k < w.broadcastCtrl.size → i < (w.broadcastCtrl.get k).pData.length →
    ((w.broadcastCtrl.get k).recipient i).chatId = none →
    τ.Moves w { w with broadcastCtrl := w.broadcastCtrl.modify k (·.setChatId i c), minted := m } 0
  /-- a copy is stored -/
  message : ∀ {w k s i} (pos : ℕ) (c content stamp : String) (type : MessageType), τ.inv w →
    τ.active k → w.Shows k s → i < s.pData.length →
    τ.Moves w { w with store := w.store.write (.add (.messages c) pos
      (messageFields stamp s.userData.id (.str (s.recipient i).id) content c type true)) }
      (τ.copyDue k i c content)
  /-- an inbox entry is saved -/
  entry : ∀ {w op}, τ.inv w → EntryWrite w op →
    τ.Moves w { w with store := w.store.write op } 0
  /-- the message is entered in the history -/
  log : ∀ {w k} (content : String), τ.inv w → k < w.broadcastCtrl.size →
    τ.ready w.broadcastLog k → (∀ i < (w.broadcastCtrl.get k).pData.length, Known w k i) →
    τ.Moves w { w with broadcastLog := (k, content) :: w.broadcastLog }
      (- τ.logDue k (w.broadcastCtrl.get k).pData.length)
  /-- the list of recipients is stored in the owner's entry -/
  list : ∀ {w k s} (id : DocId) (stamp content : String), τ.inv w → τ.Told w k s →
    (∀ d ∈ w.store.docs (.chats s.userData.id), d.id = id →
      d.data .broadcastId = some (.str s.pId)) →
    τ.Moves w { w with store := w.store.write (.update (.chats s.userData.id) id (.ofList [
      (.receiverId, .contacts s.reached), (.updateStamp, .str stamp),
      (.lastMessage, .str content)])) } 0
  /-- the message is stored in the log of the broadcast -/
  broadcastMessage : ∀ {w k s} (pos : ℕ) (content stamp : String) (type : MessageType), τ.inv w →
    τ.Told w k s →
    τ.Moves w { w with store := w.store.write (.add (.broadcastMessage s.pId) pos
      (broadcastMessageFields s.userData s.reached content s.pId type stamp)) } 0

theorem Told.later {τ : Tally} {w w' : World} {k : ℕ} {s : BroadcastChatController}
    (h : τ.Told w k s) (hw : w.Continues w') : τ.Told w' k s := by
  obtain ⟨w₁, hi, hr, hlt, hlog, hs, hw₁⟩ := h
  exact ⟨w₁, hi, hr, hlt, hlog, hs, hw₁.trans hw⟩

/-- A copy for the recipient at `i` of the screen `k` has been started. -/
def StartedCopy (k i : ℕ) (w : World) : Prop :=
  k < w.broadcastCtrl.size ∧ i < (w.broadcastCtrl.get k).pData.length ∧ Known w k i

/-- The conversation of a recipient, and what a copy there counts, do not change any more. -/
theorem StartedCopy.later {τ : Tally} {content : String} {w w' : World} {k i : ℕ}
    (h : StartedCopy k i w) (hw : w.Continues w') :
    StartedCopy k i w' ∧ τ.due k i content w' = τ.due k i content w := by
  obtain ⟨hlt, hil, c, hc⟩ := h
  have hs := hw.screens.2 k hlt
  have hc' := hs.chatId i hil c hc
  refine ⟨⟨Nat.lt_of_lt_of_le hlt hw.screens.1, hs.length ▸ hil, c, hc'⟩, ?_⟩
  simp only [due, hc, hc']

/-- Where only one of the copies counts. -/
theorem sum_due {τ : Tally} {w : World} {k i n : ℕ} {content : String} (hi : i < n)
    (h : ∀ j < n, j ≠ i → τ.due k j content w = 0) :
    ((List.range n).map (τ.due k · content w)).sum = τ.due k i content w := by
  rw [List.sum_map_eq_nsmul_single i _ fun j hj hmem => h j (List.mem_range.mp hmem) hj,
    List.count_eq_one_of_mem List.nodup_range (List.mem_range.mpr hi), one_nsmul]

/-! ## Rules for the actions of a message -/

section Rules

variable {τ : Tally} {α : Type} {l : Scope} {w w' : World} {k i : ℕ} {m n p : ℤ}

theorem Moves.settles (h : τ.Moves w w' p) (hn : n = p + m) : τ.ledger.Settles w w' m n := by
  have hbal := h.2
  refine ⟨?_, fun _ => ?_⟩ <;> simp only [ledger] <;> omega

/-- Where nothing is owed an operation may fail. -/
theorem may_fail (h : τ.Owing l ∨ n = 0) : τ.ledger.strict l ∨ τ.ledger.Fits 0 n := by
  rcases h with h | rfl
  · exact Or.inl (Or.inr h)
  · exact Or.inr (τ.ledger.fits_refl 0)

theorem pays_millisecondsSinceEpoch {Q : Scope → String → World → ℤ → Prop} (hi : τ.inv w)
    (h : ∀ stamp, Q l stamp w n) :
    millisecondsSinceEpoch.Pays τ.protocol τ.ledger l w n Q :=
  Async.pays_sync fun _ => ⟨.refl w, hi, trivial, n, Ledger.settles_of_eq rfl, h _⟩

theorem owes_millisecondsSinceEpoch {k : String → Task World Scope} {R : World → ℤ → Prop}
    (hi : τ.inv w) (h : ∀ stamp, (k stamp).Owes τ.protocol τ.ledger l w R) :
    (millisecondsSinceEpoch k).Owes τ.protocol τ.ledger l w R :=
  Async.owes_sync_of_eq fun _ => ⟨.refl w, hi, trivial, rfl, h _⟩

/-- A query answers with documents of an intermediate world. -/
theorem pays_getDocs {p : Path} {q : Data → Bool} {Q : Scope → List Document → World → ℤ → Prop}
    (h : ∀ w' w'', w.Continues w' → w'.Continues w'' → τ.inv w'' → τ.protocol.promise l w'' →
      Q l (w'.store.query p q) w'' 0) :
    (getDocs p q).Pays τ.protocol τ.ledger l w 0 Q :=
  Async.pays_remote (Or.inr rfl) (may_fail (Or.inr rfl)) fun w' hw hi _ _ _ =>
    ⟨.refl w', hi, trivial, 0, Ledger.settles_of_eq rfl, Or.inr rfl,
      fun w'' hw' hi' hp => h w' w'' hw hw' hi' hp⟩

/-- A write that pays `p` of what is owed. -/
theorem pays_write {f : Tick → World → α × World} (op : Tick → Write Path Key Value)
    {Q : Scope → α → World → ℤ → Prop} (hl : τ.Owing l ∨ (p = 0 ∧ n = 0))
    (hf : ∀ t w', (f t w').2 = { w' with store := w'.store.write (op t) })
    (hop : ∀ w', w.Continues w' → τ.inv w' → ∀ t,
      (∀ u, Store.Keeps entryIds (.chats u) w'.store (w'.store.write (op t))) ∧
        τ.Moves w' { w' with store := w'.store.write (op t) } p)
    (h : ∀ t w' w'', w.Continues w'' → τ.inv w'' → Q l (f t w').1 w'' n) :
    (Async.remote f).Pays τ.protocol τ.ledger l w (p + n) Q := by
  have hp : τ.Owing l ∨ p + n = 0 := hl.imp_right fun h => by omega
  refine Async.pays_remote hp (may_fail hp) fun w' hw hi _ t _ => ?_
  obtain ⟨hkeeps, hmoves⟩ := hop w' hw hi t
  have hcont : w'.Continues (f t w').2 := by rw [hf]; exact .of_store hkeeps
  refine ⟨hcont, ?_, trivial, n, ?_, hl.imp_right And.right, fun w'' hw' hi' _ => ?_⟩
  · rw [hf]
    exact hmoves.1
  · rw [hf]
    exact hmoves.settles rfl
  · exact h t w' w'' (hw.trans (hcont.trans hw')) hi'

theorem pays_add {q : Path} {d : Data} {Q : Scope → Unit → World → ℤ → Prop}
    (hl : τ.Owing l ∨ (p = 0 ∧ n = 0))
    (hop : ∀ w', w.Continues w' → τ.inv w' → ∀ pos,
      τ.Moves w' { w' with store := w'.store.write (.add q pos d) } p)
    (h : ∀ w'', w.Continues w'' → τ.inv w'' → Q l () w'' n) :
    (add q d).Pays τ.protocol τ.ledger l w (p + n) Q :=
  pays_write (fun t => .add q t.pos d) hl (fun _ _ => rfl)
    (fun w' hw hi t => ⟨fun _ => Store.keeps_add, hop w' hw hi t.pos⟩) fun _ _ w'' hw hi => h w'' hw hi

/-- An update for which nothing is owed; what it does if it finds no document does not
matter. -/
theorem pays_update {q : Path} {id : DocId} {u : Data} {Q : Scope → Unit → World → ℤ → Prop}
    (hop : ∀ w', w.Continues w' → τ.inv w' →
      (∀ x, Store.Keeps entryIds (.chats x) w'.store (w'.store.write (.update q id u))) ∧
        τ.Moves w' { w' with store := w'.store.write (.update q id u) } 0)
    (h : ∀ w'', w.Continues w'' → τ.inv w'' → Q l () w'' 0) :
    (update q id u).Pays τ.protocol τ.ledger l w 0 Q := by
  refine Async.pays_bind (pays_write (fun _ => .update q id u) (p := 0) (n := 0)
    (Or.inr ⟨rfl, rfl⟩) (fun _ _ => rfl) (fun w' hw hi _ => hop w' hw hi) ?_)
  intro t w' w'' hw hi
  split
  · exact Async.pays_pure (h w'' hw hi)
  · exact Async.pays_throw rfl

end Rules

/-! ## The copies -/

namespace Lawful

variable {τ : Tally} (hτ : τ.Lawful) {l : Scope} {w w' : World} {k i : ℕ}
  {s : BroadcastChatController} {content : String} {type : MessageType}

include hτ

/-- Saving an inbox entry does not count: it writes no message, whether it updates the entry or adds
one. -/
theorem pays_saveMessage {d : ℕ} {x c sender : String} {receiverId : Value}
    {isBlock isBroadcast : Bool} (hi : τ.inv w) :
    (saveMessageInUserCollection d x receiverId c content sender isBlock isBroadcast).Pays
      τ.protocol τ.ledger l w 0 fun _ _ _ r => r = 0 := by
  refine Async.pays_bind (Async.pays_get hi ?_)
  refine Async.pays_bind (pays_getDocs fun w₁ w₂ _ hw₂ hi₂ _ => ?_)
  refine Async.pays_bind (pays_millisecondsSinceEpoch hi₂ fun stamp => ?_)
  have hclear : ∀ w₃, τ.inv w₃ → (clearInput (w.currentChat d)).Pays τ.protocol τ.ledger l w₃ 0
      fun _ _ _ r => r = 0 := by
    intro w₃ hi₃
    cases w.currentChat d with
    | none => exact Async.pays_pure rfl
    | some chatCtrl =>
      have hmoves := hτ.chat (w₃.chatCtrl.modify chatCtrl
        fun s => { s with text := "", isLoading := false }) hi₃
      exact Async.pays_sync fun _ => ⟨.of_chat _, hmoves.1, trivial, 0, hmoves.settles rfl, rfl⟩
  cases hdocs : w₁.store.query (.chats x) (Fields.isEqualTo .chatId (.str c)) with
  | nil =>
    refine Async.pays_bind (pays_add (p := 0) (n := 0) (Or.inr ⟨rfl, rfl⟩) ?_ ?_)
    · exact fun w' _ hi' pos => hτ.entry hi' (.add ..)
    · exact fun w₃ _ hi₃ => hclear w₃ hi₃
  | cons doc docs =>
    refine Async.pays_bind (pays_update ?_ fun w₃ _ hi₃ => hclear w₃ hi₃)
    intro w' hw' hi'
    -- the document found still is of this conversation
    obtain ⟨hdoc, hq⟩ := (Store.mem_query _).mp (hdocs ▸ List.mem_cons_self ..)
    have hop : EntryWrite w' (.update (.chats x) doc.id
        (inboxFields stamp x receiverId c content sender isBlock isBroadcast)) := by
      refine .update _ _ _ _ _ _ _ _ _ fun d' hd' hid => ?_
      have hids := ((hw₂.trans hw').entries x).of_id hdoc hd' hid
      simp only [entryIds, Prod.mk.injEq] at hids
      rw [hids.1, Fields.isEqualTo_iff.mp hq]
    exact ⟨hop.keeps, hτ.entry hi' hop⟩

/-- A copy in a known conversation, from the time the recipient is in `newpData`. -/
theorem pays_known {c : String} (hk : τ.active k) (hs : w.Shows k s)
    (hlt : i < s.pData.length) (stamp : String) :
    (do add (.messages c)
          (messageFields stamp s.userData.id (.str (s.recipient i).id) content c type true)
        saveCopy s (s.recipient i).id c content : Call Unit).Pays τ.protocol τ.ledger
      (.copy s.userData.id s.pId (s.recipient i).id c) w (τ.copyDue k i c content)
      fun _ _ _ r => r = 0 := by
  have hl : τ.Owing (.copy s.userData.id s.pId (s.recipient i).id c) ∨
      (τ.copyDue k i c content = 0 ∧ (0 : ℤ) = 0) := by
    by_cases hc : τ.countsCopies
    · exact Or.inl hc
    · exact Or.inr ⟨hτ.copy hc k i c content, rfl⟩
  rw [← add_zero (τ.copyDue k i c content)]
  refine Async.pays_bind (pays_add hl ?_ fun w₂ _ hi₂ => hτ.pays_saveMessage hi₂)
  intro w₁ hw₁ hi₁ pos
  exact hτ.message pos c content stamp type hi₁ hk (hs.later hw₁) hlt

/-- The copy for a recipient without a conversation, from the time there is one. -/
theorem pays_first {c : String} (hk : τ.active k) (hs : w.Shows k s) (hlt : i < s.pData.length)
    (stamp : String) :
    (do add (.messages c)
          (messageFields stamp s.userData.id (.str (s.recipient i).id) content c type true)
        addReached k i
        Async.enter (.copy s.userData.id s.pId (s.recipient i).id c)
        saveCopy s (s.recipient i).id c content : Call Unit).Pays τ.protocol τ.ledger
      (.firstCopy s.userData.id s.pId (s.recipient i).id c) w
      (τ.copyDue k i c content + τ.reachDue k i) fun _ _ _ r => r = 0 := by
  refine Async.pays_bind (pays_add (Or.inl trivial) ?_ fun w₂ hw₂ hi₂ => ?_)
  · intro w₁ hw₁ hi₁ pos
    exact hτ.message pos c content stamp type hi₁ hk (hs.later hw₁) hlt
  · -- the answer has arrived: the recipient gets into `newpData`
    have hs₂ := hs.later hw₂
    have hmoves := hτ.reach hi₂ hs₂.lt (hs₂.continues.length ▸ hlt)
    refine Async.pays_bind (Async.pays_sync fun _ => ?_)
    refine ⟨.of_screen ⟨⟨rfl, rfl, rfl⟩, fun _ _ _ h => h⟩, hmoves.1, trivial, 0,
      hmoves.settles (add_zero _).symm, ?_⟩
    refine Async.pays_bind (Async.pays_enter (fun _ => Or.inr trivial) ?_)
    exact hτ.pays_saveMessage hmoves.1

/-- The closure for a recipient owes what its copy counts, and afterwards the recipient is known to
have a conversation. -/
theorem owes_copyTo (hi : τ.inv w) (hk : τ.active k) (hlt : k < w.broadcastCtrl.size)
    (hil : i < (w.broadcastCtrl.get k).pData.length) :
    (copyTo k content type i).task.Owes τ.protocol τ.ledger .idle w fun w' n =>
      Known w' k i ∧ n = τ.due k i content w' ∧ w'.broadcastLog = w.broadcastLog := by
  refine Async.owes_bind (Async.owes_get hi ?_)
  have hshows : w.Shows k (w.broadcastCtrl.get k) := ⟨hlt, .refl _⟩
  cases hc : ((w.broadcastCtrl.get k).recipient i).chatId with
  | some c =>
    -- the recipient gets into `newpData` at once
    have hcont := World.Continues.of_screen (w := w) (k := k)
      (f := fun s => { s with newpData := s.newpData ++ [i] })
      ⟨⟨rfl, rfl, rfl⟩, fun _ _ _ h => h⟩
    have hmoves := hτ.reach hi hlt hil
    have hs := hshows.later hcont
    refine fun _ _ => ⟨hcont, hmoves.1, trivial, fun _ => Or.inl rfl, ?_⟩
    refine Async.owes_bind (Async.owes_bind (owes_millisecondsSinceEpoch hmoves.1 fun stamp => ?_))
    refine Task.Owes.await (hτ.pays_known hk hs hil stamp).owes ⟨_, hmoves.settles rfl, ?_⟩
    have hrec := hs.continues.chatId i hil c hc
    refine ⟨⟨c, hrec⟩, ?_, rfl⟩
    simp only [due, hrec]
    omega
  | none =>
    -- the recipient gets a conversation at once
    have hrec : ∀ c, (((w.broadcastCtrl.get k).setChatId i c).recipient i).chatId = some c := by
      intro c
      rw [BroadcastChatController.recipient_setChatId hil, if_pos rfl]
    refine Async.owes_bind fun t _ => ?_
    have hcont := World.Continues.of_mint hc (toString t.now)
      ((toString t.now, s((w.broadcastCtrl.get k).userData.id,
        ((w.broadcastCtrl.get k).recipient i).id)) :: w.minted)
    have hmoves := fun m => hτ.mint (toString t.now) m hi hk hlt hil hc
    have hs := hshows.later hcont
    refine ⟨hcont, (hmoves _).1, trivial, fun _ => Or.inl rfl, ?_⟩
    refine Async.owes_bind (Async.owes_bind
      (owes_millisecondsSinceEpoch (hmoves _).1 fun stamp => ?_))
    refine Task.Owes.await (hτ.pays_first hk hs hil stamp).owes ⟨_, (hmoves _).settles rfl, ?_⟩
    have hnew : ((w.broadcastCtrl.modify k (·.setChatId i (toString t.now))).get k).recipient i =
        ((w.broadcastCtrl.get k).setChatId i (toString t.now)).recipient i := by
      rw [Heap.get_modify, if_pos rfl]
    refine ⟨⟨toString t.now, ?_⟩, ?_, rfl⟩
    · simp only [hnew, hrec]
    · simp only [due, hnew, hrec]
      omega

/-! ## A message -/

/-- The list of recipients goes into the owner's entry, with the recipients reached so far; it
counts nothing, and what was found after the wait is still an entry of this broadcast. -/
theorem pays_updateReached {snap : List Document} (hi : τ.inv w) (hs : τ.Told w k s)
    (hfound : ∀ d ∈ snap, ∀ w', w.Continues w' → ∀ d' ∈ w'.store.docs (.chats s.userData.id),
      d'.id = d.id → d'.data .broadcastId = some (.str s.pId)) :
    (updateReached s content snap).Pays τ.protocol τ.ledger l w 0 fun l' _ w' r =>
      l' = l ∧ w.Continues w' ∧ τ.inv w' ∧ r = 0 := by
  cases snap with
  | nil => exact Async.pays_throw rfl
  | cons doc docs =>
    refine Async.pays_bind (pays_millisecondsSinceEpoch hi fun stamp => ?_)
    refine Async.pays_spawn (p := 0) hi (Async.Pays.owes (pays_update ?_ fun _ _ _ => rfl))
      fun w' hw hi' => ⟨0, rfl, rfl, hw, hi', rfl⟩
    intro w' hw hi'
    have hdoc := hfound doc (List.mem_cons_self ..) w' hw
    refine ⟨fun x => Store.keeps_update ?_, hτ.list doc.id stamp content hi' (hs.later hw) hdoc⟩
    intro _ d _ _
    rfl

/-- The message goes into the log of the broadcast. -/
theorem pays_addBroadcastMessage (hi : τ.inv w) (hs : τ.Told w k s) :
    (addBroadcastMessage s content type).Pays τ.protocol τ.ledger l w 0 fun _ _ _ r => r = 0 := by
  refine Async.pays_bind (pays_millisecondsSinceEpoch hi fun stamp => ?_)
  refine Async.pays_bind (pays_add (p := 0) (n := 0) (Or.inr ⟨rfl, rfl⟩) ?_ fun w₁ _ _ => ?_)
  · exact fun w' hw hi' pos => hτ.broadcastMessage pos content stamp type hi' (hs.later hw)
  · exact Async.pays_bind (pays_getDocs fun _ _ _ _ _ _ => Async.pays_pure rfl)

variable (content type) in
/-- What a message does once its copies have been started: the wait, the owner's entry and the
message of the broadcast, none of which counts. -/
theorem pays_afterLoop (hs : w.Shows k s) (hlog : k ∈ w.broadcastLog.map Prod.fst) :
    (do delayed
        let snap ← getDocs (.chats s.userData.id) (Fields.isEqualTo .broadcastId (.str s.pId))
        let s ← broadcastChat k
        Async.enter (.broadcast s.userData.id s.pId)
        updateReached s content snap
        Async.spawn (addBroadcastMessage s content type) : Call Unit).Pays τ.protocol τ.ledger
      (.broadcastWait s.userData.id s.pId) w 0 fun _ _ _ r => r = 0 := by
  refine Async.pays_bind (Async.pays_pause (Or.inr rfl) fun w₁ hw₁ _ _ => ?_)
  refine Async.pays_bind (pays_getDocs fun w₂ w₃ hw₂ hw₃ hi₃ hp => ?_)
  have hw : w.Continues w₃ := World.Continues.trans hw₁ (hw₂.trans hw₃)
  have hs₃ := hs.later hw
  refine Async.pays_bind (Async.pays_get hi₃ ?_)
  refine Async.pays_bind (Async.pays_enter (fun h => h.elim nofun False.elim) ?_)
  have htold : τ.Told w₃ k (w₃.broadcastCtrl.get k) :=
    ⟨w₃, hi₃, hp, hs₃.lt, (hw.log.map Prod.fst).subset hlog, rfl, .refl w₃⟩
  rw [← hs₃.continues.userData, ← hs₃.continues.pId]
  refine Async.pays_bind (Async.Pays.mono (hτ.pays_updateReached hi₃ htold ?_) ?_)
  · intro d hd w' hw' d' hd' hid
    obtain ⟨hd, hq⟩ := (Store.mem_query _).mp hd
    have hids := ((hw₃.trans hw').entries _).of_id hd hd' hid
    simp only [entryIds, Prod.mk.injEq] at hids
    rw [hids.2.2, Fields.isEqualTo_iff.mp hq]
  · rintro _ _ w₄ _ ⟨-, hw₄, hi₄, rfl⟩
    exact Async.pays_spawn hi₄ (hτ.pays_addBroadcastMessage hi₄ (htold.later hw₄)).owes
      fun _ _ _ => ⟨0, rfl, rfl⟩

/-- The copies of a message owe what they count, summed up over the recipients; each closure is
carried on by itself, in any order. By induction on the recipients. -/
theorem owes_saveMessageInLoop {next : Unit → Task World Scope} {R : World → ℤ → Prop}
    (hi : τ.inv w) (hk : τ.active k) (hlt : k < w.broadcastCtrl.size)
    (h : ∀ w', w.Continues w' → τ.inv w' → w'.broadcastLog = w.broadcastLog →
      (∀ i < (w'.broadcastCtrl.get k).pData.length, Known w' k i) →
      (next ()).Owes τ.protocol τ.ledger .idle w' fun w'' n => R w''
        (((List.range (w'.broadcastCtrl.get k).pData.length).map (τ.due k · content w')).sum + n)) :
    (saveMessageInLoop k content type next).Owes τ.protocol τ.ledger .idle w R := by
  refine Async.owes_bind (Async.owes_get hi ?_)
  have hlen : ∀ w', w.Continues w' →
      (w'.broadcastCtrl.get k).pData.length = (w.broadcastCtrl.get k).pData.length :=
    fun w' hw => (hw.screens.2 k hlt).length
  refine Async.owes_forEach (StartedCopy k) (τ.due k · content) World.broadcastLog
    hi (fun _ _ _ hw h => h.later hw) ?_ ?_
  · intro i hil w' hw hi'
    have hlt' := Nat.lt_of_lt_of_le hlt hw.screens.1
    have hil' : i < (w'.broadcastCtrl.get k).pData.length := by
      rw [hlen w' hw]
      exact List.mem_range.mp hil
    refine ((hτ.owes_copyTo hi' hk hlt' hil').later hi').mono ?_
    rintro w'' n ⟨hw', -, hknown, hn, hlog⟩
    have hs := hw'.screens.2 k hlt'
    exact ⟨⟨Nat.lt_of_lt_of_le hlt' hw'.screens.1, hs.length ▸ hil', hknown⟩, hn, hlog⟩
  · intro w' hw hi' hall hlog
    have hnext := h w' hw hi' hlog
    rw [hlen w' hw] at hnext
    exact hnext fun i hil => (hall i (List.mem_range.mpr hil)).2.2

/-- A message owes what its copies count, less what is taken off when it is entered in
the history. -/
theorem owes_sendToBroadcast (hi : τ.inv w) (hk : τ.active k) (hlt : k < w.broadcastCtrl.size)
    (hready : τ.ready w.broadcastLog k) :
    (sendToBroadcast k content type).task.Owes τ.protocol τ.ledger .idle w fun w' n =>
      (∀ i < (w'.broadcastCtrl.get k).pData.length, Known w' k i) ∧
      n = ((List.range (w'.broadcastCtrl.get k).pData.length).map (τ.due k · content w')).sum -
        τ.logDue k (w'.broadcastCtrl.get k).pData.length := by
  have hclear := hτ.clear hi hlt
  have hcont := World.Continues.of_screen (w := w) (k := k) (f := fun s => { s with text := "" })
    ⟨⟨rfl, rfl, rfl⟩, fun _ _ _ h => h⟩
  refine Async.owes_bind (Async.owes_modify hcont hclear.1 trivial hclear.2 ?_)
  refine Async.owes_bind (Async.owes_get hclear.1 (Async.owes_bind ?_))
  have hlt₁ := Nat.lt_of_lt_of_le hlt hcont.screens.1
  refine hτ.owes_saveMessageInLoop hclear.1 hk hlt₁ fun w₂ hw₂ hi₂ hlog hknown => ?_
  have hs : World.Shows w₂ k _ := World.Shows.later ⟨hlt₁, .refl _⟩ hw₂
  -- the message is entered in the history, and waits for its copies
  have hready₂ : τ.ready w₂.broadcastLog k := by rwa [hlog]
  have hlogged := hτ.log content hi₂ hs.lt hready₂ hknown
  refine Async.owes_bind (Async.owes_modify (.of_log _) hlogged.1 trivial hlogged.2 ?_)
  refine ⟨fun h => Or.inl (h.elim nofun False.elim), ?_⟩
  have hrest := hτ.pays_afterLoop content type (hs.later (.of_log (k, content)))
    (List.mem_cons_self ..)
  refine Task.Owes.await hrest.owes ⟨hknown, ?_⟩
  rw [zero_add, add_zero]
  exact (sub_eq_add_neg ..).symm

variable (content type) in
/-- What starting `onSendMessage` owes: nothing for a blank content. -/
theorem owes_onSendMessage (hi : τ.inv w) (hk : τ.active k) (hlt : k < w.broadcastCtrl.size)
    (hready : isBlank content = false → τ.ready w.broadcastLog k) :
    (BroadcastChat.onSendMessage k content type).task.Owes τ.protocol τ.ledger .idle w fun w' n =>
      if isBlank content then n = 0 else
        (∀ i < (w'.broadcastCtrl.get k).pData.length, Known w' k i) ∧
        n = ((List.range (w'.broadcastCtrl.get k).pData.length).map (τ.due k · content w')).sum -
          τ.logDue k (w'.broadcastCtrl.get k).pData.length := by
  unfold BroadcastChat.onSendMessage
  cases hblank : isBlank content with
  | true => exact rfl
  | false => exact hτ.owes_sendToBroadcast hi hk hlt (hready hblank)

end Lawful

end Tally

/-! ## The screens of broadcasts -/

/-- A tap on an inbox entry of the user of a device. -/
def tapBroadcastEntry (d : ℕ) (id : DocId) : Call Unit := do
  let user ← sessionUser d
  let doc ← getDoc (.chats user.id) id
  match doc with
  | some document => tapBroadcastCard d document
  | none => pure ()

/-- What users do with broadcasts that have been created. -/
inductive BroadcastAction : Type where
  /-- open the screen of a broadcast, from the inbox entry -/
  | openScreen (d : ℕ) (entry : DocId)
  /-- send a message to the broadcast of a screen -/
  | send (k : ℕ) (content : String) (type : MessageType)
  deriving DecidableEq

/-- The handlers for it. -/
def broadcasting : System World Scope BroadcastAction where
  scope _ _ := .idle
  body
    | .openScreen d entry => tapBroadcastEntry d entry
    | .send k content type => BroadcastChat.onSendMessage k content type
  enabled w
    | .openScreen _ _ => True
    | .send k _ _ => k < w.broadcastCtrl.size

end FlutterTheme
