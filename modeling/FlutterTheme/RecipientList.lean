import FlutterTheme.Delivery

/-!
# The list of recipients of a broadcast

A message to a broadcast collects the recipients it has reached in `newpData`, waits
for a fixed time, and writes the list back as the list of recipients. Nothing ever
empties `newpData`: a second message from the same screen writes every recipient twice
(`recipients_doubled`), and the next screen opened sends every copy twice.

The list stays right as long as every opening of the screen sends one message, and the
fixed time is long enough for the first copies to arrive (`recipients_listed`). Then
`newpData` of a screen has every recipient as often as a message has been sent from it,
up to the recipients that first copies under way will still add: the account of
`listTally`.
-/

namespace FlutterTheme

open EventLoop DocStore

/-- A broadcast, with the recipients it was created with. -/
structure Audience where
  /-- the owner -/
  owner : String
  /-- the identifier of the broadcast -/
  id : String
  /-- the recipients -/
  recipients : List SelectedContact

namespace Audience

variable (ρ : Audience)

/-- The list has every recipient as often as the broadcast was created with it, and
nobody else. -/
def Reaches (l : List SelectedContact) : Prop :=
  (l.map SelectedContact.id).Perm (ρ.recipients.map SelectedContact.id)

/-- The stored lists are the recipients of the broadcast, and so are those of the
screens opened for it, each of whose entries a message sends a copy. -/
structure Listed (w : World) : Prop where
  /-- the owner's entry -/
  entry : ∀ d ∈ w.store.docs (.chats ρ.owner), d.data .broadcastId = some (.str ρ.id) →
    d.data .chatId = none ∧ ∃ l, d.data .receiverId = some (.contacts l) ∧ ρ.Reaches l
  /-- the messages of the broadcast -/
  message : ∀ d ∈ w.store.docs (.broadcastMessage ρ.id),
    ∃ l, d.data .receiver = some (.contacts l) ∧ ρ.Reaches l
  /-- the screens -/
  screen : ∀ k < w.broadcastCtrl.size, (w.broadcastCtrl.get k).pId = ρ.id →
    ρ.Reaches (w.broadcastCtrl.get k).pData

/-- What holds besides when messages are sent as they should. -/
structure Sound (w : World) : Prop extends ρ.Listed w where
  /-- the screens are the owner's -/
  owner : ∀ k < w.broadcastCtrl.size, (w.broadcastCtrl.get k).userData.id = ρ.owner
  /-- `newpData` refers to recipients -/
  reached : ∀ k < w.broadcastCtrl.size, ∀ i ∈ (w.broadcastCtrl.get k).newpData,
    i < (w.broadcastCtrl.get k).pData.length
  /-- messages are sent from screens that are open -/
  logged : ∀ k ∈ w.broadcastLog.map Prod.fst, k < w.broadcastCtrl.size
  /-- one message from each screen -/
  once : ρ.recipients = [] ∨ (w.broadcastLog.map Prod.fst).Nodup

/-- Every recipient is in `newpData` once for each message sent. -/
def Complete (w : World) : Prop :=
  ∀ k < w.broadcastCtrl.size, ∀ i < (w.broadcastCtrl.get k).pData.length,
    (w.broadcastCtrl.get k).newpData.count i = (w.broadcastLog.map Prod.fst).count k

/-- How often the recipient `i` of the screen `k` is in `newpData`, less the messages
sent from there. -/
def excess (k i : ℕ) (w : World) : ℤ :=
  if k < w.broadcastCtrl.size ∧ i < (w.broadcastCtrl.get k).pData.length then
    (w.broadcastCtrl.get k).newpData.count i - (w.broadcastLog.map Prod.fst).count k
  else 0

/-- The account of `newpData`: each copy adds its recipient, and each message takes one
off. -/
def listTally (k i : ℕ) : Tally where
  balance := excess k i
  inv := ρ.Sound
  resumes := Complete
  active _ := True
  ready log k' := ρ.recipients = [] ∨ k' ∉ log.map Prod.fst
  countsCopies := False
  copyDue _ _ _ _ := 0
  reachDue k' i' := if k' = k ∧ i' = i then 1 else 0
  logDue k' n := if k' = k ∧ i < n then 1 else 0

variable {ρ} {w w' : World} {k i : ℕ}

/-- A complete `newpData` after one message has every recipient once: what it holds and what is
still under way add up to the one message, and nothing is under way. -/
theorem Sound.reaches_reached (h : ρ.Sound w) (hc : Complete w) (hk : k < w.broadcastCtrl.size)
    (hlog : k ∈ w.broadcastLog.map Prod.fst) (hid : (w.broadcastCtrl.get k).pId = ρ.id) :
    ρ.Reaches (w.broadcastCtrl.get k).reached := by
  have hscreen := h.screen k hk hid
  have hbound := h.reached k hk
  have hcount := hc k hk
  generalize w.broadcastCtrl.get k = s at hscreen hbound hcount
  have hmap : ((List.range s.pData.length).map s.recipient) = s.pData := by
    refine List.ext_getElem (by simp) fun j hj _ => ?_
    rw [List.length_map, List.length_range] at hj
    rw [List.getElem_map, List.getElem_range, BroadcastChatController.recipient_eq hj]
  have hperm : s.newpData.Perm (List.range s.pData.length) := by
    refine List.perm_iff_count.mpr fun j => ?_
    by_cases hj : j < s.pData.length
    · rw [List.count_eq_one_of_mem List.nodup_range (List.mem_range.mpr hj), hcount j hj]
      rcases h.once with hnil | hnodup
      · -- there is no recipient at all
        rw [Reaches, hnil, List.map_nil, List.perm_nil, List.map_eq_nil_iff] at hscreen
        rw [hscreen] at hj
        exact absurd hj (Nat.not_lt_zero j)
      · exact List.count_eq_one_of_mem hnodup hlog
    · rw [List.count_eq_zero.mpr fun hmem => hj (hbound j hmem),
        List.count_eq_zero.mpr fun hmem => hj (List.mem_range.mp hmem)]
  refine List.Perm.trans ?_ hscreen
  rw [← hmap]
  exact (hperm.map s.recipient).map SelectedContact.id

/-- The same for the list a message has read. -/
theorem reaches_told {s : BroadcastChatController} {τ : Tally} (hinv : τ.inv = ρ.Sound)
    (hres : τ.resumes = Complete) (h : τ.Told w k s) :
    s.userData.id = ρ.owner ∧ (s.pId = ρ.id → ρ.Reaches s.reached) := by
  obtain ⟨w₁, hi, hr, hlt, hlog, rfl, -⟩ := h
  rw [hinv] at hi
  rw [hres] at hr
  exact ⟨hi.owner k hlt, hi.reaches_reached hr hlt hlog⟩

/-! ## The actions of a message -/

/-- A change of a screen that leaves the recipients the same users. -/
theorem Sound.modify {f : BroadcastChatController → BroadcastChatController} (h : ρ.Sound w)
    (hf : (w.broadcastCtrl.get k).Later (f (w.broadcastCtrl.get k)))
    (hreached : k < w.broadcastCtrl.size → ∀ i ∈ (f (w.broadcastCtrl.get k)).newpData,
      i < (w.broadcastCtrl.get k).pData.length) :
    ρ.Sound { w with broadcastCtrl := w.broadcastCtrl.modify k f } where
  entry := h.entry
  message := h.message
  logged := h.logged
  once := h.once
  screen := by
    refine Heap.forall_modify (p := fun s : BroadcastChatController => s.pId = ρ.id →
      ρ.Reaches s.pData) h.screen fun _ hs hid => ?_
    rw [Reaches, hf.ids]
    exact hs (hf.pId ▸ hid)
  owner := by
    refine Heap.forall_modify (p := fun s : BroadcastChatController => s.userData.id = ρ.owner)
      h.owner fun _ hs => ?_
    rw [hf.userData, hs]
  reached := by
    refine Heap.forall_modify (p := fun s : BroadcastChatController => ∀ i ∈ s.newpData,
      i < s.pData.length) h.reached fun hk _ i hi => ?_
    rw [hf.length]
    exact hreached hk i hi

variable (ρ) in
/-- What a document of a collection has to say about the recipients. -/
structure Fits (q : Path) (d : Document) : Prop where
  entry : q = .chats ρ.owner → d.data .broadcastId = some (.str ρ.id) →
    d.data .chatId = none ∧ ∃ l, d.data .receiverId = some (.contacts l) ∧ ρ.Reaches l
  message : q = .broadcastMessage ρ.id →
    ∃ l, d.data .receiver = some (.contacts l) ∧ ρ.Reaches l

theorem Listed.fits (h : ρ.Listed w) (q : Path) : ∀ d ∈ w.store.docs q, ρ.Fits q d := by
  intro d hd
  refine ⟨?_, ?_⟩
  · rintro rfl
    exact h.entry d hd
  · rintro rfl
    exact h.message d hd

theorem Listed.write {op : Write Path Key Value} (h : ρ.Listed w)
    (hop : ∀ q d, w.store.Puts op q d → ρ.Fits q d) :
    ρ.Listed { w with store := w.store.write op } where
  entry d hd := (Store.forall_write h.fits hop _ d hd).entry rfl
  message d hd := (Store.forall_write h.fits hop _ d hd).message rfl
  screen := h.screen

/-- A write of documents that name the recipients does not change `newpData`. -/
theorem moves_write {op : Write Path Key Value} {j : ℕ} (h : ρ.Sound w)
    (hop : ∀ q d, w.store.Puts op q d → ρ.Fits q d) :
    (ρ.listTally k j).Moves w { w with store := w.store.write op } 0 :=
  ⟨{ h with toListed := h.toListed.write hop }, (add_zero _).symm⟩

/-- A copy is not a document of the broadcast. -/
theorem fits_message {c : String} {d : Document} : ρ.Fits (.messages c) d := ⟨nofun, nofun⟩

/-- Neither is an inbox entry of a conversation. -/
theorem fits_entry {op : Write Path Key Value} (h : ρ.Listed w) (hop : EntryWrite w op) :
    ∀ q d, w.store.Puts op q d → ρ.Fits q d := by
  intro q d hput
  cases hop with
  | add x pos stamp receiverId c content sender isBlock isBroadcast =>
    obtain ⟨rfl, rfl⟩ := hput
    refine ⟨fun _ hb => ?_, nofun⟩
    cases hb
  | update x id stamp receiverId c content sender isBlock isBroadcast hfound =>
    obtain ⟨rfl, y, hy, hid, rfl⟩ := hput
    refine ⟨fun hx hb => ?_, nofun⟩
    cases hx
    -- an entry of a conversation has no broadcast id
    have hnone := (h.entry y hy hb).1
    rw [hfound y hy hid] at hnone
    cases hnone

/-- What the recipient gets into `newpData` for. -/
theorem excess_addReached {k' i' : ℕ} (hk : k' < w.broadcastCtrl.size)
    (hi : i' < (w.broadcastCtrl.get k').pData.length) :
    excess k i { w with broadcastCtrl := w.broadcastCtrl.modify k' fun s =>
      { s with newpData := s.newpData ++ [i'] } } =
      excess k i w + if k' = k ∧ i' = i then 1 else 0 := by
  unfold excess
  simp only [Heap.size_modify, Heap.get_modify]
  by_cases he : k = k'
  · subst he
    simp only [if_true, true_and, hk, List.count_append, List.count_singleton, beq_iff_eq]
    by_cases hi' : i' = i
    · subst hi'
      simp only [hi, if_true]
      omega
    · simp only [hi', if_false, add_zero]
  · simp only [he, Ne.symm he, if_false, false_and, add_zero]

/-- A change of a screen that leaves `newpData` and the number of recipients alone. -/
theorem excess_modify {k' : ℕ} {f : BroadcastChatController → BroadcastChatController}
    (hf : (f (w.broadcastCtrl.get k')).newpData = (w.broadcastCtrl.get k').newpData)
    (hlen : (f (w.broadcastCtrl.get k')).pData.length = (w.broadcastCtrl.get k').pData.length) :
    excess k i { w with broadcastCtrl := w.broadcastCtrl.modify k' f } = excess k i w := by
  unfold excess
  simp only [Heap.size_modify, Heap.get_modify]
  by_cases he : k = k'
  · subst he
    simp only [if_true, hf, hlen]
  · simp only [he, if_false]

/-- A message takes one off. -/
theorem excess_log {k' : ℕ} {x : String} (hk : k' < w.broadcastCtrl.size) :
    excess k i { w with broadcastLog := (k', x) :: w.broadcastLog } = excess k i w +
      -(if k' = k ∧ i < (w.broadcastCtrl.get k').pData.length then 1 else 0) := by
  unfold excess
  simp only [List.map_cons, List.count_cons, beq_iff_eq]
  by_cases he : k' = k
  · subst he
    simp only [hk, true_and, if_true]
    split
    · push_cast
      omega
    · rfl
  · simp only [he, if_false, false_and, neg_zero, add_zero]

/-- The tally of one recipient of one screen follows the laws of a broadcast: reaching the recipient
adds one to the account, the message that is logged takes one off, and no other write counts. -/
theorem lawful (j : ℕ) : (ρ.listTally k j).Lawful where
  copy _ _ _ _ _ := rfl
  clear hi _ := ⟨hi.modify ⟨rfl, rfl, rfl⟩ (hi.reached _), (excess_modify rfl rfl).trans (add_zero _).symm⟩
  chat _ hi := ⟨{ hi with }, (add_zero _).symm⟩
  reach := by
    intro w k' i' hi hk hlt
    refine ⟨hi.modify ⟨rfl, rfl, rfl⟩ fun _ i hmem => ?_, excess_addReached hk hlt⟩
    rcases List.mem_append.mp hmem with hmem | hmem
    · exact hi.reached k' hk i hmem
    · rwa [List.mem_singleton.mp hmem]
  mint := by
    intro w k' i' c m hi _ hk _ _
    have hmod := hi.modify (k := k') (f := (·.setChatId i' c))
      (BroadcastChatController.later_setChatId ..) fun hk => hi.reached k' hk
    exact ⟨{ hmod with },
      (excess_modify rfl BroadcastChatController.length_setChatId).trans (add_zero _).symm⟩
  message pos c content stamp type hi _ _ _ :=
    moves_write hi fun q d hput => by obtain ⟨rfl, -⟩ := hput; exact fits_message
  entry hi hop := moves_write hi (fits_entry hi.toListed hop)
  log := by
    intro w k' content hi hk hready _
    refine ⟨{ hi with logged := ?_, once := ?_ }, excess_log hk⟩
    · exact fun k'' hmem => (List.mem_cons.mp hmem).elim (fun he => he ▸ hk) (hi.logged k'')
    · rcases hready with hnil | hnew
      · exact Or.inl hnil
      · exact hi.once.imp_right fun hnodup => List.nodup_cons.mpr ⟨hnew, hnodup⟩
  list := by
    intro w k' s id stamp content hi htold hfound
    obtain ⟨howner, hreaches⟩ := reaches_told rfl rfl htold
    refine moves_write hi fun q d hput => ⟨fun _ hb => ?_, fun hq => ?_⟩
    · obtain ⟨-, y, hy, hid, rfl⟩ := hput
      -- the entry that is written is that of the broadcast
      have hold : y.data .broadcastId = some (.str ρ.id) := hb
      have hnone := (hi.entry y (howner ▸ hy) hold).1
      rw [hfound y hy hid] at hold
      exact ⟨hnone, s.reached, rfl, hreaches (Value.str.inj (Option.some.inj hold))⟩
    · obtain ⟨rfl, -⟩ := hput
      cases hq
  broadcastMessage := by
    intro w k' s pos content stamp type hi htold
    refine moves_write hi fun q d hput => ?_
    obtain ⟨rfl, rfl⟩ := hput
    refine ⟨nofun, fun hq => ⟨s.reached, rfl, (reaches_told rfl rfl htold).2 ?_⟩⟩
    exact Path.broadcastMessage.inj hq

/-! ## Opening a screen -/

section OpenScreen

variable {s : BroadcastChatController}

/-- A new screen has reached nobody, and no message has been sent from it. -/
theorem excess_alloc (hlog : ∀ k ∈ w.broadcastLog.map Prod.fst, k < w.broadcastCtrl.size)
    (hs : s.newpData = []) :
    excess k i { w with broadcastCtrl := w.broadcastCtrl.alloc s } = excess k i w := by
  unfold excess
  simp only [Heap.size_alloc, Heap.get_alloc]
  by_cases he : k = w.broadcastCtrl.size
  · subst he
    have hzero : (w.broadcastLog.map Prod.fst).count w.broadcastCtrl.size = 0 :=
      List.count_eq_zero.mpr fun hmem => absurd (hlog _ hmem) (Nat.lt_irrefl _)
    simp [hzero, hs]
  · have hlt : k < w.broadcastCtrl.size + 1 ↔ k < w.broadcastCtrl.size := by omega
    simp only [he, if_false, hlt]

/-- A new screen of the owner is sound if it is one of the broadcast with its recipients, or one of
another. -/
theorem Sound.alloc (h : ρ.Sound w) (howner : s.userData.id = ρ.owner) (hs : s.newpData = [])
    (hid : s.pId = ρ.id → ρ.Reaches s.pData) :
    ρ.Sound { w with broadcastCtrl := w.broadcastCtrl.alloc s } where
  entry := h.entry
  message := h.message
  once := h.once
  screen := Heap.forall_alloc (p := fun s : BroadcastChatController => s.pId = ρ.id →
    ρ.Reaches s.pData) h.screen hid
  owner := Heap.forall_alloc (p := fun s : BroadcastChatController => s.userData.id = ρ.owner)
    h.owner howner
  reached := Heap.forall_alloc (p := fun s : BroadcastChatController => ∀ i ∈ s.newpData,
    i < s.pData.length) h.reached fun i hi => by rw [hs] at hi; cases hi
  logged k hk := Nat.lt_succ_of_lt (h.logged k hk)

/-- Opening the screen owes nothing: the new screen has the recipients of the entry, and has reached
none of them. -/
theorem owes_openScreen {d : ℕ} {entry : DocId} {j : ℕ} (hi : ρ.Sound w)
    (hd : (w.session d).id = ρ.owner) :
    (tapBroadcastEntry d entry).task.Owes (ρ.listTally k j).protocol (ρ.listTally k j).ledger
      .idle w fun _ n => n = 0 := by
  refine Async.Pays.owes (Async.pays_bind (Async.pays_get hi ?_))
  refine Async.pays_bind (Async.pays_remote (Or.inr rfl) (Tally.may_fail (Or.inr rfl))
    fun w₁ hw₁ hi₁ _ _ _ => ?_)
  refine ⟨.refl w₁, hi₁, trivial, 0, Ledger.settles_of_eq rfl, Or.inr rfl, fun w₂ hw₂ hi₂ _ => ?_⟩
  have hsession : w₂.session d = w.session d := by rw [hw₂.session, hw₁.session]
  cases hdoc : w₁.store.doc? (.chats (w.session d).id) entry with
  | none => exact Async.pays_pure rfl
  | some document =>
    have hmem := (Store.mem_of_doc? _ hdoc).1
    rw [hd] at hmem
    change Async.Pays _ _ (tapBroadcastCard d document) _ _ _ _
    unfold tapBroadcastCard
    split
    · next b hb =>
      unfold openBroadcast
      split
      · next pData hpData =>
        -- the list comes from the owner's entry
        have hreaches : b = ρ.id → ρ.Reaches pData := by
          rintro rfl
          obtain ⟨-, l, hl, hreaches⟩ := hi₁.entry document hmem hb
          rw [hpData] at hl
          cases hl
          exact hreaches
        have howner : (w₂.session d).id = ρ.owner := hsession ▸ hd
        refine Async.pays_sync fun _ => ⟨.of_newScreen _, hi₂.alloc howner rfl hreaches, trivial, 0,
          Ledger.settles_of_eq (excess_alloc hi₂.logged rfl), rfl⟩
      · exact Async.pays_throw rfl
    · exact Async.pays_throw rfl

end OpenScreen

/-! ## Runs -/

/-- What a message owes: its copies add as much as it takes off. -/
theorem owes_send {content : String} {type : MessageType} {j : ℕ} (hi : ρ.Sound w)
    (hlt : k < w.broadcastCtrl.size)
    (hready : isBlank content = false → ρ.recipients = [] ∨ k ∉ w.broadcastLog.map Prod.fst) :
    (BroadcastChat.onSendMessage k content type).task.Owes (ρ.listTally i j).protocol
      (ρ.listTally i j).ledger .idle w fun _ n => n = 0 := by
  refine ((lawful j).owes_onSendMessage content type hi trivial hlt hready).mono fun w' n h => ?_
  split at h
  · exact h
  · obtain ⟨hknown, hn⟩ := h
    -- every copy counts by adding its recipient
    have hdue : ∀ i' < (w'.broadcastCtrl.get k).pData.length,
        (ρ.listTally i j).due k i' content w' = if k = i ∧ i' = j then 1 else 0 := by
      intro i' hi'
      obtain ⟨c, hc⟩ := hknown i' hi'
      simp only [Tally.due, hc, listTally, zero_add]
    have hsum : ((List.range (w'.broadcastCtrl.get k).pData.length).map
        ((ρ.listTally i j).due k · content w')).sum =
        if k = i ∧ j < (w'.broadcastCtrl.get k).pData.length then 1 else 0 := by
      by_cases hj : j < (w'.broadcastCtrl.get k).pData.length
      · rw [Tally.sum_due hj fun i' hi' hne => by simp only [hdue i' hi', hne, and_false, if_false]]
        simp only [hdue j hj, hj]
      · rw [List.sum_eq_zero]
        · simp only [hj, and_false, if_false]
        · intro n hmem
          obtain ⟨i', hi', rfl⟩ := List.mem_map.mp hmem
          have hlt' := List.mem_range.mp hi'
          simp only [hdue i' hlt', show i' ≠ j by omega, and_false, if_false]
    rw [hn, hsum]
    exact sub_self _

/-- A copy for a recipient who has just got a conversation. -/
def IsFirstCopy : Scope → Prop
  | .firstCopy _ _ _ _ => True
  | _ => False

/-- A message that waits for its copies. -/
def IsWaiting : Scope → Prop
  | .broadcastWait _ _ => True
  | _ => False

instance : (l : Scope) → Decidable (IsFirstCopy l)
  | .firstCopy _ _ _ _ => inferInstanceAs (Decidable True)
  | .idle | .register _ | .send _ _ _ | .block _ _ _ | .seen _ _ _ | .deleteMessage _ _ | .group _
  | .broadcast _ _ | .broadcastWait _ _ | .copy _ _ _ _ | .save _ _ =>
    inferInstanceAs (Decidable False)

instance : (l : Scope) → Decidable (IsWaiting l)
  | .broadcastWait _ _ => inferInstanceAs (Decidable True)
  | .idle | .register _ | .send _ _ _ | .block _ _ _ | .seen _ _ _ | .deleteMessage _ _ | .group _
  | .broadcast _ _ | .firstCopy _ _ _ _ | .copy _ _ _ _ | .save _ _ =>
    inferInstanceAs (Decidable False)

variable (ρ) in
/-- The owner opens the screen and sends at most one message from each opening, and no
message stops waiting before the first copies have arrived. -/
def OnePerOpening (cfg : Config World Scope) : Event BroadcastAction → Prop
  | .call (.openScreen d _) _ => (cfg.world.session d).id = ρ.owner
  | .call (.send k content _) _ => k < cfg.world.broadcastCtrl.size ∧
      (isBlank content = false → ρ.recipients = [] ∨ k ∉ cfg.world.broadcastLog.map Prod.fst)
  | .resume i _ => ∀ th ∈ cfg.threads[i]?, IsWaiting th.scope →
      ∀ th' ∈ cfg.threads, ¬ IsFirstCopy th'.scope

instance (ρ : Audience) (cfg : Config World Scope) : (e : Event BroadcastAction) →
    Decidable (OnePerOpening ρ cfg e)
  | .call (.openScreen d _) _ => inferInstanceAs (Decidable ((cfg.world.session d).id = ρ.owner))
  | .call (.send k content _) _ => inferInstanceAs (Decidable (k < cfg.world.broadcastCtrl.size ∧
      (isBlank content = false → ρ.recipients = [] ∨ k ∉ cfg.world.broadcastLog.map Prod.fst)))
  | .resume i _ => inferInstanceAs (Decidable (∀ th ∈ cfg.threads[i]?, IsWaiting th.scope →
      ∀ th' ∈ cfg.threads, ¬ IsFirstCopy th'.scope))

/-- No first copy fails. A handler that is started, or reads the owner's entry to open
the screen, does not either: if it did, it would not have been started at all. -/
def FirstCopiesSucceed (cfg : Config World Scope) : Event BroadcastAction → Prop
  | .call _ ticks => ∀ n, (ticks n).fails = false
  | .resume i ticks => ∀ th ∈ cfg.threads[i]?, th.scope = .idle ∨ IsFirstCopy th.scope →
      ∀ n, (ticks n).fails = false

theorem FirstCopiesSucceed.of_succeeds {cfg : Config World Scope} {e : Event BroadcastAction}
    (h : e.Succeeds) : FirstCopiesSucceed cfg e := by
  cases e with
  | call a ticks => exact h
  | resume i ticks => exact fun _ _ _ => h

variable (ρ) in
/-- Messages are sent as they should. -/
def Careful (cfg : Config World Scope) (e : Event BroadcastAction) : Prop :=
  OnePerOpening ρ cfg e ∧ FirstCopiesSucceed cfg e

variable (ρ) in
/-- For every screen and recipient, what is in `newpData` and what is under way add up
to the messages sent. -/
def InBalance (cfg : Config World Scope) : Prop :=
  ∀ i j, cfg.Balanced (ρ.listTally i j).protocol (ρ.listTally i j).ledger 0

variable {cfg : Config World Scope}

theorem owing_iff {j : ℕ} {l : Scope} : (ρ.listTally i j).Owing l ↔ IsFirstCopy l := by
  cases l <;> rfl

theorem FirstCopiesSucceed.admits {e : Event BroadcastAction} (h : FirstCopiesSucceed cfg e)
    (i j : ℕ) : broadcasting.Admits (ρ.listTally i j).ledger cfg e := by
  cases e with
  | call a ticks => exact fun _ => h
  | resume n ticks => exact fun th hth hs => h th hth (hs.imp_right owing_iff.mp)

/-- When no first copy is under way, every `newpData` is complete. -/
theorem InBalance.complete (h : ρ.InBalance cfg)
    (hfirst : ∀ th ∈ cfg.threads, ¬ IsFirstCopy th.scope) : Complete cfg.world := by
  intro k hk i hi
  obtain ⟨-, -, -, -, heq⟩ := (h k i).nothing_owed fun th hth n hl =>
    hl.resolve_left fun ho => hfirst th hth (owing_iff.mp ho)
  have hzero : excess k i cfg.world = 0 := heq trivial
  rw [excess, if_pos ⟨hk, hi⟩] at hzero
  omega

/-- One event keeps every account: opening a screen and sending owe nothing in the end, and a
message that stops waiting finds `newpData` complete. -/
theorem InBalance.apply (h : ρ.InBalance cfg) {e : Event BroadcastAction}
    (he : ρ.Careful cfg e) : ρ.InBalance (broadcasting.apply cfg e) := by
  intro i j
  obtain ⟨hone, hsucc⟩ := he
  have hadmits := hsucc.admits (ρ := ρ) i j
  have hi : ρ.Sound cfg.world := (h i j).inv
  cases e with
  | call a ticks =>
    have howes : (broadcasting.body a).task.Owes (ρ.listTally i j).protocol
        (ρ.listTally i j).ledger (broadcasting.scope a cfg.world) cfg.world fun _ n => n = 0 := by
      cases a with
      | openScreen d entry => exact owes_openScreen hi hone
      | send k content type => exact owes_send hi hone.1 hone.2
    obtain ⟨n, hbal, -, rfl⟩ := System.balanced_call (h i j) hadmits howes
    exact hbal
  | resume n ticks =>
    refine (System.balanced_resume (h i j) hadmits fun th hth => ?_).1
    -- a message that stops waiting finds `newpData` complete
    have hcomplete := fun hw => h.complete (hone th hth hw)
    cases hl : th.scope <;> first | trivial | exact hcomplete (by rw [hl]; trivial)

/-- **The list of recipients.** In every run in which at most one message is sent from
each opening of the screen, and none stops waiting before the first copies have arrived,
the stored lists are the recipients the broadcast was created with, and so are those of
every screen opened later. -/
theorem recipients_listed {w₀ : World} {es : List (Event BroadcastAction)} (h₀ : ρ.Listed w₀)
    (hscreens : w₀.broadcastCtrl.size = 0) (hlog : w₀.broadcastLog = [])
    (h : broadcasting.Run ρ.Careful { world := w₀ } es cfg) : ρ.Listed cfg.world := by
  have hnone : ∀ {p : ℕ → Prop}, ∀ k < w₀.broadcastCtrl.size, p k :=
    fun k hk => absurd (hscreens ▸ hk) (Nat.not_lt_zero k)
  have hsound : ρ.Sound w₀ := by
    refine ⟨h₀, hnone, hnone, ?_, Or.inr ?_⟩ <;> rw [hlog]
    · exact fun _ hk => absurd hk List.not_mem_nil
    · exact List.nodup_nil
  have hstart : ρ.InBalance { world := w₀ } := by
    intro i j
    refine ⟨hsound, [], .nil, ?_⟩
    have hzero : excess i j w₀ = 0 := if_neg fun hi => hnone (p := fun _ => False) i hi.1
    rw [List.sum_nil, add_zero]
    exact ⟨hzero.le, fun _ => hzero⟩
  have hbal : ρ.InBalance cfg := h.induct hstart fun _ _ hc he => hc.apply he
  exact (hbal 0 0).inv.toListed

/-- Every recipient once and nobody else, where the recipients are different users. -/
theorem Reaches.count {l : List SelectedContact} (h : ρ.Reaches l)
    (hids : (ρ.recipients.map SelectedContact.id).Nodup) (id : String) :
    (l.map SelectedContact.id).count id =
      if id ∈ ρ.recipients.map SelectedContact.id then 1 else 0 := by
  rw [h.count_eq]
  split
  · next hmem => exact List.count_eq_one_of_mem hids hmem
  · next hmem => exact List.count_eq_zero.mpr hmem

/-- The documents that creating a broadcast leaves name its recipients. -/
theorem listed_created (user : UserData) (id : String) (l : List SelectedContact) (pos pos' : ℕ)
    (timestamp timestamp' : String)
    (hentry : ∀ d ∈ w.store.docs (.chats user.id), d.data .broadcastId ≠ some (.str id))
    (hmessage : w.store.docs (.broadcastMessage id) = [])
    (hscreen : ∀ k < w.broadcastCtrl.size, (w.broadcastCtrl.get k).pId ≠ id) :
    Listed ⟨user.id, id, l⟩ { w with
      store := (w.store.add (.broadcastMessage id) pos
        (broadcastMessageFields user l "You created this broadcast" id .messageType
          timestamp)).add (.chats user.id) pos' (broadcastEntryFields l id user timestamp') } where
  entry d hd hb := by
    rcases Store.mem_add.mp hd with ⟨-, rfl⟩ | hd
    · exact ⟨rfl, l, rfl, .refl _⟩
    · rcases Store.mem_add.mp hd with ⟨he, -⟩ | hd
      · cases he
      · exact absurd hb (hentry d hd)
  message d hd := by
    rcases Store.mem_add.mp hd with ⟨he, -⟩ | hd
    · cases he
    · rcases Store.mem_add.mp hd with ⟨-, rfl⟩ | hd
      · exact ⟨l, rfl, .refl _⟩
      · rw [hmessage] at hd
        cases hd
  screen k hk hid := absurd hid (hscreen k hk)

end Audience

/-! ## Two messages from one screen -/

/-- Alice. -/
def aliceUser : UserData := ⟨"alice", "Alice", "1", ""⟩

/-- Her broadcast to some recipients. -/
def aliceTo (recipients : List SelectedContact) : Audience := ⟨"alice", "b", recipients⟩

/-- She has just created it. -/
def justCreated (recipients : List SelectedContact) : World :=
  { World.initial fun _ => aliceUser with
    store := (Store.empty.add (.broadcastMessage "b") 0 (broadcastMessageFields aliceUser recipients
      "You created this broadcast" "b" .messageType "1000")).add (.chats "alice") 0
      (broadcastEntryFields recipients "b" aliceUser "1000") }

theorem listed_justCreated (recipients : List SelectedContact) :
    (aliceTo recipients).Listed (justCreated recipients) :=
  Audience.listed_created (w := World.initial fun _ => aliceUser) aliceUser "b" recipients 0 0
    "1000" "1000" (fun _ hd => absurd hd List.not_mem_nil) rfl fun _ hk => absurd hk (Nat.not_lt_zero _)

/-- The calls under way are carried on, the oldest first. -/
def carryOn (now n : ℕ) : List (Event BroadcastAction) :=
  List.replicate n (.resume 0 fun _ => ⟨now, 0, false⟩)

theorem succeeds_carryOn {now n : ℕ} : ∀ e ∈ carryOn now n, e.Succeeds :=
  Event.succeeds_replicate fun _ => rfl

/-- She opens the screen of the broadcast. -/
def opensScreen (now : ℕ) : List (Event BroadcastAction) :=
  .call (.openScreen 0 (.auto 1)) (fun _ => ⟨now, 0, false⟩) :: carryOn now 2

/-- She sends a message from a screen. -/
def sendsFrom (now k : ℕ) (content : String) : Event BroadcastAction :=
  .call (.send k content .text) fun _ => ⟨now, 0, false⟩

/-- She opens the screen twice, and sends one message each time. The copy for Carol, who
gets a conversation by the first one, arrives before the message stops waiting. -/
def oneMessageEach : List (Event BroadcastAction) :=
  opensScreen 2000 ++ [sendsFrom 3000 0 "hello", .resume 1 fun _ => ⟨4000, 0, false⟩,
    .resume 2 fun _ => ⟨4000, 0, false⟩] ++ carryOn 5000 40 ++
  opensScreen 6000 ++ [sendsFrom 7000 1 "again"] ++ carryOn 8000 40

/-- One message on each of several openings of the screen: the recipients are listed, each once. -/
theorem recipients_listed_oneMessageEach :
    (aliceTo bobAndCarol).Listed
      (broadcasting.exec { world := justCreated bobAndCarol } oneMessageEach).world := by
  have hone : broadcasting.Allowed (aliceTo bobAndCarol).OnePerOpening
      { world := justCreated bobAndCarol } oneMessageEach := by decide +kernel
  have hsucc : ∀ e ∈ oneMessageEach, e.Succeeds := by
    simp only [oneMessageEach, opensScreen, List.forall_mem_append, List.forall_mem_cons]
    exact ⟨⟨⟨⟨⟨⟨fun _ => rfl, succeeds_carryOn⟩, fun _ => rfl, fun _ => rfl, fun _ => rfl,
      nofun⟩, succeeds_carryOn⟩, fun _ => rfl, succeeds_carryOn⟩, fun _ => rfl, nofun⟩,
      succeeds_carryOn⟩
  have himp : ∀ cfg e, (aliceTo bobAndCarol).OnePerOpening cfg e → e.Succeeds →
      (aliceTo bobAndCarol).Careful cfg e := fun _ _ h hs => ⟨h, .of_succeeds hs⟩
  exact Audience.recipients_listed (listed_justCreated _) rfl rfl
    (System.run_exec (System.Allowed.imp himp hone hsucc))

/-- The owner opens the screen, and starts each message when nothing is under way any
more. -/
def OneAfterTheOther (ρ : Audience) (cfg : Config World Scope) : Event BroadcastAction → Prop
  | .call (.openScreen d _) _ => (cfg.world.session d).id = ρ.owner
  | .call (.send k _ _) _ => k < cfg.world.broadcastCtrl.size ∧ cfg.Settled
  | .resume _ _ => True

instance (ρ : Audience) (cfg : Config World Scope) : (e : Event BroadcastAction) →
    Decidable (OneAfterTheOther ρ cfg e)
  | .call (.openScreen d _) _ => inferInstanceAs (Decidable ((cfg.world.session d).id = ρ.owner))
  | .call (.send k _ _) _ =>
    inferInstanceAs (Decidable (k < cfg.world.broadcastCtrl.size ∧ cfg.Settled))
  | .resume _ _ => inferInstanceAs (Decidable True)

/-- Bob, with whom Alice has a conversation. -/
def onlyBob : List SelectedContact := [⟨"bob", "Bob", "2", "", some "5000"⟩]

/-- She opens the screen once, and sends two messages, one after the other. -/
def twoMessages : List (Event BroadcastAction) :=
  opensScreen 2000 ++ [sendsFrom 3000 0 "hello"] ++ carryOn 4000 20 ++
  [sendsFrom 5000 0 "again"] ++ carryOn 6000 20

/-- After the second message the stored list has every recipient twice. -/
theorem recipients_doubled :
    ¬ ∀ (ρ : Audience) w₀ es cfg, (ρ.recipients.map SelectedContact.id).Nodup → ρ.Listed w₀ →
      w₀.broadcastCtrl.size = 0 → w₀.broadcastLog = [] → (∀ e ∈ es, e.Succeeds) →
      broadcasting.Run (OneAfterTheOther ρ) { world := w₀ } es cfg → ρ.Listed cfg.world := by
  intro h
  have hsucc : ∀ e ∈ twoMessages, e.Succeeds := by
    simp only [twoMessages, opensScreen, List.forall_mem_append, List.forall_mem_cons]
    exact ⟨⟨⟨⟨⟨fun _ => rfl, succeeds_carryOn⟩, fun _ => rfl, nofun⟩, succeeds_carryOn⟩,
      fun _ => rfl, nofun⟩, succeeds_carryOn⟩
  have hlisted := h (aliceTo onlyBob) (justCreated onlyBob) twoMessages _ (by decide)
    (listed_justCreated _) rfl rfl hsucc (System.run_exec (by decide +kernel))
  generalize hc : broadcasting.exec { world := justCreated onlyBob } twoMessages = cfg at hlisted
  have htwice : ∃ d ∈ cfg.world.store.docs (.chats "alice"),
      d.data .broadcastId = some (.str "b") ∧
        d.data .receiverId = some (.contacts (onlyBob ++ onlyBob)) := by
    subst hc
    decide +kernel
  obtain ⟨d, hd, hb, htwice⟩ := htwice
  obtain ⟨-, l, hl, hreaches⟩ := hlisted.entry d hd hb
  rw [htwice] at hl
  cases hl
  exact absurd hreaches.length_eq (by decide)

end FlutterTheme
