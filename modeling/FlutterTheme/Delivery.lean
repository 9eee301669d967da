import FlutterTheme.BroadcastSession

/-!
# Delivery of broadcast messages

On one broadcast screen, however the messages sent there overlap and in whatever order
their copies are stored: when nothing is under way any more, every recipient has got
every message exactly once, all in one conversation, the one the recipient had if there
was one (`delivered_once`).

`deliveryTally` counts the copies of one content for one recipient in one conversation.
What a message owes to it is known only when the recipient has a conversation, that is,
at the end of the first segment of the first message.
-/

namespace FlutterTheme

open EventLoop DocStore

/-- The message has this content and is from the one user to the other. -/
def isCopyOf (sender receiver content : String) (d : Data) : Bool :=
  d .sender = some (.str sender) && d .receiver = some (.str receiver) &&
    d .content = some (.str content)

/-- The fields of a message make a copy of just its own sender, receiver and text; stamp, type and
conversation do not matter. -/
theorem isCopyOf_messageFields {sender receiver content sender' receiver' content' stamp c : String}
    {type : MessageType} {isBroadcast : Bool} :
    isCopyOf sender receiver content
        (messageFields stamp sender' (.str receiver') content' c type isBroadcast) = true ↔
      sender' = sender ∧ receiver' = receiver ∧ content' = content := by
  simp only [isCopyOf, Bool.and_eq_true, decide_eq_true_eq, and_assoc]
  change some (Value.str sender') = some (.str sender) ∧
    some (Value.str receiver') = some (.str receiver) ∧
    some (Value.str content') = some (.str content) ↔ _
  simp only [Option.some.injEq, Value.str.injEq]

/-- The messages of a content from one user to another in a conversation. -/
def copies (w : World) (chatId sender receiver content : String) : List Document :=
  w.store.query (.messages chatId) (isCopyOf sender receiver content)

/-- The event sends the content from the screen `b`. -/
def isSendOf (b : ℕ) (content : String) : Event BroadcastAction → Bool
  | .call (.send k x _) _ => k = b && x = content
  | _ => false

/-- How often the content is sent from the screen `b`. -/
def sends (b : ℕ) (content : String) (es : List (Event BroadcastAction)) : ℕ :=
  es.countP (isSendOf b content)

/-- Messages that are not blank are sent from the screen `b`, and nothing else happens. -/
def SentFrom (b : ℕ) (_ : Config World Scope) : Event BroadcastAction → Prop
  | .call (.send k content _) _ => k = b ∧ isBlank content = false
  | .call (.openScreen _ _) _ => False
  | .resume _ _ => True

instance (b : ℕ) (cfg : Config World Scope) : (e : Event BroadcastAction) →
    Decidable (SentFrom b cfg e)
  | .call (.send k content _) _ =>
    inferInstanceAs (Decidable (k = b ∧ isBlank content = false))
  | .call (.openScreen _ _) _ => inferInstanceAs (Decidable False)
  | .resume _ _ => inferInstanceAs (Decidable True)

/-- Besides, no operation fails. -/
def SendsFrom (b : ℕ) (cfg : Config World Scope) (e : Event BroadcastAction) : Prop :=
  SentFrom b cfg e ∧ e.Succeeds

/-! ## The tally of one content for one recipient in one conversation -/

/-- Whose copies are counted. -/
structure Delivery where
  /-- the screen -/
  b : ℕ
  /-- its user -/
  owner : String
  /-- the recipients of the screen -/
  ids : List String
  /-- the position of the recipient -/
  i : ℕ
  /-- the recipient -/
  receiver : String
  /-- the conversation -/
  chatId : String
  /-- the content -/
  content : String
  nodup : ids.Nodup
  get : ids[i]? = some receiver

namespace Delivery

variable (δ : Delivery)

/-- The screen is open, with its user and its recipients. -/
structure Open (w : World) : Prop where
  lt : δ.b < w.broadcastCtrl.size
  owner : (w.broadcastCtrl.get δ.b).userData.id = δ.owner
  ids : (w.broadcastCtrl.get δ.b).pData.map SelectedContact.id = δ.ids

/-- The copies, of which each message adds one if the conversation is that of the
recipient. -/
def tally : Tally where
  balance w := (copies w δ.chatId δ.owner δ.receiver δ.content).length
  inv := δ.Open
  resumes _ := True
  active k := k = δ.b
  ready _ _ := True
  countsCopies := True
  copyDue _ j c x := if j = δ.i ∧ c = δ.chatId ∧ x = δ.content then 1 else 0
  reachDue _ _ := 0
  logDue _ _ := 0

variable {δ} {w w' : World} {k : ℕ}

/-- A change of a screen that leaves its user and the recipients the same. -/
theorem Open.modify {f : BroadcastChatController → BroadcastChatController} (h : δ.Open w)
    (hf : (w.broadcastCtrl.get k).Later (f (w.broadcastCtrl.get k))) :
    δ.Open { w with broadcastCtrl := w.broadcastCtrl.modify k f } := by
  have hlater : (w.broadcastCtrl.get δ.b).Later ((w.broadcastCtrl.modify k f).get δ.b) := by
    rw [Heap.get_modify]
    split
    · next he => exact he ▸ hf
    · exact .refl _
  exact ⟨h.lt, (congrArg UserData.id hlater.userData).trans h.owner, hlater.ids.trans h.ids⟩

/-- A write outside the conversations leaves the copies as they are. -/
theorem moves_write {op : Write Path Key Value} (h : δ.Open w)
    (hp : ∀ c, op.path ≠ .messages c) :
    δ.tally.Moves w { w with store := w.store.write op } 0 := by
  refine ⟨{ h with }, ?_⟩
  simp only [tally, copies, Store.query, Store.docs_write_of_ne (hp δ.chatId).symm, add_zero]

/-- The recipient at `j` is the one whose copies are counted only if `j` is its position. -/
theorem Open.recipient_iff (h : δ.Open w) {s : BroadcastChatController} (hs : w.Shows δ.b s)
    {j : ℕ} (hj : j < s.pData.length) : (s.recipient j).id = δ.receiver ↔ j = δ.i := by
  have hids : s.pData.map SelectedContact.id = δ.ids := hs.continues.ids.symm.trans h.ids
  have hget : δ.ids[j]? = some (s.recipient j).id := by
    rw [← hids, List.getElem?_map, List.getElem?_eq_getElem hj,
      BroadcastChatController.recipient_eq hj]
    rfl
  constructor
  · intro he
    rw [he] at hget
    have hj' : j < δ.ids.length := (List.getElem?_eq_some_iff.mp hget).1
    exact List.getElem?_inj hj' δ.nodup |>.mp (hget.trans δ.get.symm)
  · rintro rfl
    rw [δ.get] at hget
    exact (Option.some.inj hget).symm

/-- The tally of one recipient's copies follows the laws of a broadcast: only the copy that is
addressed to this recipient, in this conversation and with this text, counts one, and no other write
counts. -/
theorem lawful : δ.tally.Lawful where
  copy h := absurd trivial h
  clear hi _ := ⟨hi.modify ⟨rfl, rfl, rfl⟩, (add_zero _).symm⟩
  chat _ hi := ⟨{ hi with }, (add_zero _).symm⟩
  reach hi _ _ := ⟨hi.modify ⟨rfl, rfl, rfl⟩, (add_zero _).symm⟩
  mint := by
    intro w k i c m hi _ _ _ _
    have hmod := hi.modify (k := k) (f := (·.setChatId i c))
      (BroadcastChatController.later_setChatId ..)
    exact ⟨{ hmod with }, (add_zero _).symm⟩
  message := by
    rintro w k s j pos c content stamp type hi rfl hs hj
    refine ⟨{ hi with }, ?_⟩
    have howner : s.userData.id = δ.owner :=
      (congrArg UserData.id hs.continues.userData).symm.trans hi.owner
    have hrec := hi.recipient_iff hs hj
    have hlen := Store.length_query_add (s := w.store) (.messages c) (.messages δ.chatId) pos
      (messageFields stamp s.userData.id (.str (s.recipient j).id) content c type true)
      (isCopyOf δ.owner δ.receiver δ.content)
    simp only [isCopyOf_messageFields, howner, hrec, true_and, Path.messages.injEq] at hlen
    simp only [tally, copies, Store.write, howner, hlen]
    by_cases h : j = δ.i ∧ c = δ.chatId ∧ content = δ.content
    · rw [if_pos h, if_pos ⟨h.2.1.symm, h.1, h.2.2⟩]
      simp
    · rw [if_neg h, if_neg fun h' => h ⟨h'.2.1, h'.1.symm, h'.2.2⟩]
      simp
  entry hi hop := moves_write hi (by cases hop <;> exact fun _ => nofun)
  log _ hi _ _ _ := ⟨{ hi with }, (add_zero _).symm⟩
  list id stamp content hi _ _ := moves_write hi fun _ => nofun
  broadcastMessage pos content stamp type hi _ := moves_write hi fun _ => nofun

/-! ## Runs -/

variable (δ) in
/-- The conversation of the recipient, as the screen knows it. -/
def assigned (w : World) : Option String := ((w.broadcastCtrl.get δ.b).recipient δ.i).chatId

variable (δ) in
/-- The copies that the messages sent so far amount to. -/
def total (w : World) (es : List (Event BroadcastAction)) : ℤ :=
  if δ.assigned w = some δ.chatId then sends δ.b δ.content es else 0

theorem Open.lt_length (h : δ.Open w) : δ.i < (w.broadcastCtrl.get δ.b).pData.length := by
  have hlt := (List.getElem?_eq_some_iff.mp δ.get).1
  rwa [← h.ids, List.length_map] at hlt

/-- What a message owes: one copy, if the conversation is that of the recipient. -/
theorem sum_due (h : δ.Open w) (hknown : Tally.Known w δ.b δ.i) (x : String) :
    ((List.range (w.broadcastCtrl.get δ.b).pData.length).map (δ.tally.due δ.b · x w)).sum =
      if δ.assigned w = some δ.chatId ∧ x = δ.content then 1 else 0 := by
  rw [Tally.sum_due h.lt_length]
  · obtain ⟨c, hc⟩ := hknown
    simp only [Tally.due, assigned, hc, tally, true_and, add_zero, Option.some.injEq]
  · intro j _ hj
    unfold Tally.due
    split
    · simp only [tally, hj, false_and, if_false, add_zero]
    · rfl

/-- The account of a run. -/
structure Accounted (δ : Delivery) (w₀ : World) (es : List (Event BroadcastAction))
    (cfg : Config World Scope) : Prop where
  later : w₀.Continues cfg.world
  balanced : cfg.Balanced δ.tally.protocol δ.tally.ledger
    ((copies w₀ δ.chatId δ.owner δ.receiver δ.content).length + δ.total cfg.world es)
  /-- as long as nothing has been sent the recipient may have no conversation -/
  unsent : δ.assigned cfg.world = none → sends δ.b δ.content es = 0

/-- The recipient keeps the conversation. -/
theorem Open.assigned_later (h : δ.Open w) (hw : w.Continues w') {c : String}
    (hc : δ.assigned w = some c) : δ.assigned w' = some c :=
  (hw.screens.2 δ.b h.lt).chatId δ.i h.lt_length c hc

theorem Open.total_later (h : δ.Open w) (hw : w.Continues w') {es : List (Event BroadcastAction)}
    (hunsent : δ.assigned w = none → sends δ.b δ.content es = 0) :
    δ.total w' es = δ.total w es := by
  cases hc : δ.assigned w with
  | none => simp only [total, hunsent hc, Int.natCast_zero, ite_self]
  | some c => simp only [total, hc, h.assigned_later hw hc]

theorem sends_snoc (b : ℕ) (x : String) (es : List (Event BroadcastAction))
    (e : Event BroadcastAction) :
    sends b x (es ++ [e]) = sends b x es + if isSendOf b x e then 1 else 0 := by
  rw [sends, List.countP_append, List.countP_singleton]
  rfl

/-- One more event keeps the account: a send of the text owes one copy more, if this conversation is
the one the recipient has by then, and a call that goes on pays what it owes. -/
theorem Accounted.snoc {w₀ : World} {es : List (Event BroadcastAction)} {cfg : Config World Scope}
    {e : Event BroadcastAction} (h : δ.Accounted w₀ es cfg) (he : SendsFrom δ.b cfg e) :
    δ.Accounted w₀ (es ++ [e]) (broadcasting.apply cfg e) := by
  obtain ⟨hsend, hsucc⟩ := he
  have hopen : δ.Open cfg.world := h.balanced.inv
  cases e with
  | resume i ticks =>
    -- a call that is resumed pays what it owes, and the total stays
    obtain ⟨hbal, hw⟩ := System.balanced_resume (S := broadcasting) h.balanced
      (fun _ _ _ => hsucc) fun th _ => by cases th.scope <;> trivial
    have hsends : sends δ.b δ.content (es ++ [.resume i ticks]) = sends δ.b δ.content es :=
      sends_snoc ..
    refine ⟨h.later.trans hw, ?_, fun hnone => ?_⟩
    · rwa [total, hsends, ← total, hopen.total_later hw h.unsent]
    · rw [hsends]
      refine h.unsent (Option.eq_none_iff_forall_ne_some.mpr fun c hc => ?_)
      rw [hopen.assigned_later hw hc] at hnone
      cases hnone
  | call a ticks =>
    cases a with
    | openScreen d entry => exact hsend.elim
    | send k x type =>
      obtain ⟨rfl, hblank⟩ := hsend
      have hcall := lawful.owes_onSendMessage x type hopen rfl hopen.lt
        fun _ => trivial
      obtain ⟨n, hbal, hw, hn⟩ := System.balanced_call (S := broadcasting)
        (a := .send δ.b x type) h.balanced (fun _ => hsucc) hcall
      rw [hblank, if_neg Bool.false_ne_true] at hn
      obtain ⟨hknown, hn⟩ := hn
      have hopen' : δ.Open _ := hbal.inv
      have hknown' := hknown δ.i hopen'.lt_length
      rw [sum_due hopen' hknown'] at hn
      replace hn := hn.trans (sub_zero _)
      refine ⟨h.later.trans hw, ?_, fun hnone => ?_⟩
      · -- the total has grown by what the message owes
        have hsends : sends δ.b δ.content (es ++ [.call (.send δ.b x type) ticks]) =
            sends δ.b δ.content es + if x = δ.content then 1 else 0 := by
          rw [sends_snoc]
          simp only [isSendOf, decide_true, Bool.true_and, decide_eq_true_eq]
        have htotal : δ.total cfg.world es + n = δ.total
            (broadcasting.apply cfg (.call (.send δ.b x type) ticks)).world
            (es ++ [.call (.send δ.b x type) ticks]) := by
          rw [← hopen.total_later hw h.unsent, hn, total, total, hsends]
          by_cases hc : δ.assigned
              (broadcasting.apply cfg (.call (.send δ.b x type) ticks)).world = some δ.chatId
          · simp only [hc, if_true, true_and]
            split <;> rfl
          · simp only [hc, if_false, false_and, add_zero]
        rwa [← htotal, ← add_assoc]
      · obtain ⟨c, hc⟩ := hknown'
        rw [assigned, hc] at hnone
        cases hnone

/-- The account of a run from a world in which nothing is under way. -/
theorem accounted_run {w₀ : World} {es : List (Event BroadcastAction)} {cfg : Config World Scope}
    (h₀ : δ.Open w₀) (h : broadcasting.Run (SendsFrom δ.b) { world := w₀ } es cfg) :
    δ.Accounted w₀ es cfg := by
  induction h with
  | nil =>
    refine ⟨.refl w₀, ⟨h₀, [], .nil, ?_⟩, fun _ => rfl⟩
    have htotal : δ.total w₀ [] = 0 := by simp [total, sends]
    rw [htotal]
    exact Ledger.fits_refl _ _
  | snoc _ e he ih => exact ih.snoc he

/-- When nothing is under way any more. -/
theorem Accounted.settled {w₀ : World} {es : List (Event BroadcastAction)}
    {cfg : Config World Scope} (h : δ.Accounted w₀ es cfg) (hset : cfg.Settled) :
    ((copies cfg.world δ.chatId δ.owner δ.receiver δ.content).length : ℤ) =
      (copies w₀ δ.chatId δ.owner δ.receiver δ.content).length + δ.total cfg.world es :=
  (h.balanced.settled hset).2 trivial

end Delivery

/-- **Delivery.** Messages that are not blank are sent from a broadcast screen whose
recipients are different users, however they overlap. When nothing is under way any
more, every recipient has got every message exactly once, in one conversation: the one
the recipient had at the start if there was one. -/
theorem delivered_once {w₀ : World} {b : ℕ} {es : List (Event BroadcastAction)}
    {cfg : Config World Scope} (hb : b < w₀.broadcastCtrl.size)
    (hids : ((w₀.broadcastCtrl.get b).pData.map SelectedContact.id).Nodup)
    (h : broadcasting.Run (SendsFrom b) { world := w₀ } es cfg) (hset : cfg.Settled) :
    ∀ r ∈ (w₀.broadcastCtrl.get b).pData, ∃ c, (∀ c₀, r.chatId = some c₀ → c = c₀) ∧ ∀ x,
      (copies cfg.world c (w₀.broadcastCtrl.get b).userData.id r.id x).length =
        (copies w₀ c (w₀.broadcastCtrl.get b).userData.id r.id x).length + sends b x es ∧
      ∀ c', c' ≠ c → (copies cfg.world c' (w₀.broadcastCtrl.get b).userData.id r.id x).length =
        (copies w₀ c' (w₀.broadcastCtrl.get b).userData.id r.id x).length := by
  intro r hr
  obtain ⟨i, hi, hri⟩ := BroadcastChatController.mem_pData hr
  have hget : ((w₀.broadcastCtrl.get b).pData.map SelectedContact.id)[i]? = some r.id := by
    rw [List.getElem?_map, List.getElem?_eq_getElem hi, ← BroadcastChatController.recipient_eq hi,
      hri]
    rfl
  -- the account of any conversation and content
  let δ (c x : String) : Delivery :=
    ⟨b, (w₀.broadcastCtrl.get b).userData.id, _, i, r.id, c, x, hids, hget⟩
  have hopen : ∀ c x, (δ c x).Open w₀ := fun _ _ => ⟨hb, rfl, rfl⟩
  have hacc : ∀ c x, (δ c x).Accounted w₀ es cfg :=
    fun c x => Delivery.accounted_run (hopen c x) h
  have hcount := fun c x => (hacc c x).settled hset
  cases hfinal : ((cfg.world.broadcastCtrl.get b).recipient i).chatId with
  | none =>
    -- nothing has been sent
    have hnone : r.chatId = none := by
      refine Option.eq_none_iff_forall_ne_some.mpr fun c hc => ?_
      have hkept := (hopen "" "").assigned_later (hacc "" "").later (hri ▸ hc)
      simp only [Delivery.assigned, δ, hfinal] at hkept
      cases hkept
    have hzero : ∀ x, sends b x es = 0 := fun x => (hacc "" x).unsent hfinal
    have hsame : ∀ c x, (copies cfg.world c (w₀.broadcastCtrl.get b).userData.id r.id x).length =
        (copies w₀ c (w₀.broadcastCtrl.get b).userData.id r.id x).length := by
      intro c x
      have hx := hcount c x
      simp only [Delivery.total, Delivery.assigned, δ, hfinal, reduceCtorEq, if_false] at hx
      omega
    refine ⟨"", by rw [hnone]; exact nofun, fun x => ⟨?_, fun c' _ => hsame c' x⟩⟩
    rw [hzero x, hsame]
    rfl
  | some c =>
    refine ⟨c, fun c₀ hc₀ => ?_, fun x => ⟨?_, fun c' hc' => ?_⟩⟩
    · have hkept := (hopen "" "").assigned_later (hacc "" "").later (hri ▸ hc₀)
      simp only [Delivery.assigned, δ, hfinal] at hkept
      exact Option.some.inj hkept
    · have hx := hcount c x
      simp only [Delivery.total, Delivery.assigned, δ, hfinal, if_true] at hx
      omega
    · have hx := hcount c' x
      simp only [Delivery.total, Delivery.assigned, δ, hfinal, Option.some.injEq, hc'.symm,
        if_false] at hx
      omega

/-! ## Two messages at once -/

/-- Bob, with whom Alice has a conversation, and Carol, with whom she has none. -/
def bobAndCarol : List SelectedContact :=
  [⟨"bob", "Bob", "2", "", some "5000"⟩, ⟨"carol", "Carol", "3", "", none⟩]

/-- Alice has the screen of a broadcast to both open. -/
def aliceBroadcasts : World :=
  let alice : UserData := ⟨"alice", "Alice", "1", ""⟩
  { World.initial fun _ => alice with
    broadcastCtrl := Heap.empty.alloc
      { device := 0, userData := alice, pId := "b", pData := bobAndCarol } }

/-- She sends a second message before the first one has arrived anywhere. -/
def twoAtOnce : List (Event BroadcastAction) :=
  [.call (.send 0 "hello" .text) fun _ => ⟨7000000, 0, false⟩,
    .call (.send 0 "there?" .text) fun _ => ⟨7001000, 0, false⟩] ++
    (List.range 80).map fun n => .resume (n % 3) fun _ => ⟨7002000, 0, false⟩

/-- Two messages that are sent before the first has written anything, to a recipient with an id and
to one without: both get both, each once. -/
theorem delivered_once_twoAtOnce :
    (∀ x, (copies (broadcasting.exec { world := aliceBroadcasts } twoAtOnce).world "5000" "alice"
      "bob" x).length = sends 0 x twoAtOnce) ∧
    ∃ c, ∀ x, (copies (broadcasting.exec { world := aliceBroadcasts } twoAtOnce).world c "alice"
      "carol" x).length = sends 0 x twoAtOnce := by
  have hsent : broadcasting.Allowed (SentFrom 0) { world := aliceBroadcasts } twoAtOnce := by
    decide +kernel
  have hsucc : ∀ e ∈ twoAtOnce, e.Succeeds := by
    intro e he
    simp only [twoAtOnce, List.mem_append, List.mem_cons, List.not_mem_nil, or_false,
      List.mem_map] at he
    rcases he with (rfl | rfl) | ⟨_, -, rfl⟩ <;> exact fun _ => rfl
  have himp : ∀ cfg e, SentFrom 0 cfg e → e.Succeeds → SendsFrom 0 cfg e := fun _ _ => And.intro
  have hrun := System.run_exec (System.Allowed.imp himp hsent hsucc)
  have hall := delivered_once (by decide) (by decide) hrun (by decide +kernel)
  obtain ⟨c, hc, hbob⟩ := hall ⟨"bob", "Bob", "2", "", some "5000"⟩ (List.mem_cons_self ..)
  obtain ⟨c', -, hcarol⟩ := hall ⟨"carol", "Carol", "3", "", none⟩
    (List.mem_cons_of_mem _ (List.mem_cons_self ..))
  obtain rfl := hc "5000" rfl
  refine ⟨fun x => (hbob x).1.trans ?_, c', fun x => (hcarol x).1.trans ?_⟩ <;>
    exact Nat.zero_add _

end FlutterTheme
