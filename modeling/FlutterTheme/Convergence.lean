import FlutterTheme.Conversation

/-!
# When the inboxes of a conversation agree

A message goes into the log and into the entry of every participant by writes of its own, and
nothing orders the writes of two messages that are on their way at the same time: Alice's entry
may end with Bob's message and Bob's with Alice's (`inboxes_diverge`). Whatever the order, each
entry ends with one of the stored messages; and where the last message had the conversation to
itself, all of them end with it (`inboxes_converge`).
-/

namespace FlutterTheme

open EventLoop DocStore

/-! ## Messages in a conversation -/

/-- The message that an event sends, if any: the seventh action of `ChatController.onSendMessage`
and the fourth of `GroupChatMessageController.onSendMessage` read its time. -/
def delivery (w : World) : Event Action → Option SentMessage
  | .call (.onSendMessage c content _) ticks =>
    if isBlank content then none
    else some ⟨content, (w.chatCtrl.get c).userData.id, (ticks 6).now / 1000⟩
  | .call (.sendToGroup g content _) ticks =>
    if isBlank content then none
    else some ⟨content, (w.session (w.groupCtrl.get g).device).id, (ticks 3).now / 1000⟩
  | _ => none

/-- The messages that a list of events sends. -/
def deliveries : Clients → List (Event Action) → List SentMessage
  | _, [] => []
  | c, e :: es => (delivery c.world e).toList ++ deliveries (messaging.apply c e) es

/-- The time of a stored message. -/
def sentAt (m : Data) : Option ℤ :=
  match m .timestamp with
  | some (.str timestamp) => intParse timestamp
  | _ => none

/-- The entry `d` says what the message `m` says. -/
def Tells (m d : Data) : Prop := d .lastMessage = m .content ∧ d .senderId = m .sender

namespace Conversation

variable (K : Conversation)

/-- A message of a participant, from an open screen of the conversation. -/
def Sends (w : World) : Action → Prop
  | .onSendMessage c _ _ =>
    match K with
    | oneToOne chatId a b => OnScreen chatId a b w c
    | group _ _ => False
  | .sendToGroup g _ _ =>
    match K with
    | oneToOne _ _ _ => False
    | group groupId users => g < w.groupCtrl.size ∧ (w.groupCtrl.get g).pId = groupId ∧
        (w.groupCtrl.get g).users = users
  | _ => False

/-- A message is sent in the conversation, or one that is on its way is carried on. -/
def Continues (c : Clients) : Event Action → Prop
  | .call a _ => K.Sends c.world a
  | .resume _ _ => True

/-- Only messages are sent in the conversation, and no operation fails. -/
def Converses (c : Clients) (e : Event Action) : Prop := K.Continues c e ∧ e.Succeeds

/-- The conversation exists, and every participant has one entry of it. -/
structure Established (w : World) : Prop where
  /-- `"0"` stands for a conversation that has no identifier yet -/
  identified : ∀ chatId a b, K = oneToOne chatId a b → chatId ≠ "0"
  single : ∀ x ∈ K.participants, (K.entries w x).length = 1

/-- No stored message is later than `m`. -/
def Latest (w : World) (m : Document) : Prop :=
  ∀ m' ∈ K.messages w, ∀ t' ∈ sentAt m'.data, ∃ t ∈ sentAt m.data, t' ≤ t

/-- All entries end with the latest message. -/
def Agree (w : World) : Prop := ∃ m ∈ K.messages w, K.Latest w m ∧
  ∀ x ∈ K.participants, ∃ d, K.entries w x = [d] ∧ Tells m.data d.data

/-- The inboxes after messages have been sent in the conversation. -/
structure Converged (c₀ : Clients) (es : List (Event Action)) (c : Clients) : Prop where
  /-- each participant still has one entry -/
  single : ∀ x ∈ K.participants, (K.entries c.world x).length = 1
  /-- it ends with one of the stored messages -/
  told : deliveries c₀ es ≠ [] → ∀ x ∈ K.participants, ∃ d, K.entries c.world x = [d] ∧
    ∃ m ∈ K.messages c.world, Tells m.data d.data
  /-- all entries end with the latest message if it was sent when the others had settled, by a
  clock that is not behind -/
  agree : ∀ es₁ es₂ δ, es = es₁ ++ es₂ → (messaging.exec c₀ es₁).Settled →
    deliveries (messaging.exec c₀ es₁) es₂ = [δ] →
    (∀ m ∈ K.messages (messaging.exec c₀ es₁).world, ∀ t ∈ sentAt m.data, t ≤ δ.millis) →
    K.Agree c.world

/-! ## One event -/

variable {K} {sent : List SentMessage} {old : List Document} {c c' : Clients} {x : String}

/-- The message is to come into the log. -/
def loggedGoal (K : Conversation) (sent : List SentMessage) (old : List Document) (δ : SentMessage) :
    Goal ((K.conversing sent old).protocol Scope) :=
  Evolving.goal _ Scope (K.Logged δ) fun hw h => h.later hw

/-- The entry of a participant is to end with one of the messages. -/
def toldGoal (sent : List SentMessage) (old : List Document) (hx : x ∈ K.participants) :
    Goal ((K.conversing sent old).protocol Scope) :=
  Evolving.goal _ Scope (K.Told sent · x) fun hw h => hw.told x hx h

/-- From `c` to `c'`, with the messages `new` sent on the way, nothing has been lost. -/
structure Carried (K : Conversation) (sent : List SentMessage) (old : List Document) (c c' : Clients)
    (new : List SentMessage) : Prop where
  kept : c'.Kept ((K.conversing sent old).protocol Scope)
  pending : ∀ γ : Goal ((K.conversing sent old).protocol Scope), γ.OfWorld → (∀ l, γ.scope l) →
    Pending γ c.world c.threads → Pending γ c'.world c'.threads
  logged : ∀ δ ∈ new, Pending (K.loggedGoal sent old δ) c'.world c'.threads
  told : ∀ δ ∈ new, ∀ x (hx : x ∈ K.participants),
    Pending (toldGoal sent old hx) c'.world c'.threads

/-- A call that keeps the protocol leaves what is pending alone. -/
theorem Carried.of_call {a : Action} {ticks : ℕ → Tick} {new : List SentMessage} {w₁ : World}
    {m : Call Unit} (hc : c.Kept ((K.conversing sent old).protocol Scope))
    (hstart : messaging.Started (K.conversing sent old) c a ticks m w₁)
    (hm : EventLoop.Runs (K.conversing sent old) m w₁)
    (ht : ∀ n, (ticks n).fails = false)
    (hlogged : ∀ δ ∈ new, Brings (K.loggedGoal sent old δ) m w₁)
    (htold : ∀ δ ∈ new, ∀ x (hx : x ∈ K.participants), Brings (toldGoal sent old hx) m w₁) :
    Carried K sent old c (messaging.apply c (.call a ticks)) new := by
  obtain ⟨hkept, hle⟩ := hstart.kept hc hm
  refine ⟨hkept, fun γ _ _ hγ => ?_, fun δ hδ => ?_, fun δ hδ x hx => ?_⟩
  · exact hγ.mono hle fun th hth => List.mem_append_left _ hth
  · exact hstart.pending (fun _ _ _ => id) ht hm (hlogged δ hδ)
  · exact hstart.pending (fun _ _ _ => id) ht hm (htold δ hδ x hx)

/-- A handler that has nothing to send. -/
theorem Carried.of_blank {a : Action} {ticks : ℕ → Tick}
    (hc : c.Kept ((K.conversing sent old).protocol Scope))
    (hm : EventLoop.Runs (K.conversing sent old) a.body c.world) (ht : ∀ n, (ticks n).fails = false) :
    Carried K sent old c (messaging.apply c (.call a ticks)) [] :=
  .of_call hc ⟨⟨_, _, .refl⟩, Evolving.le_refl _ _, hc.inv⟩ hm ht (by simp) (by simp)

/-- A handler that has one message to send. -/
theorem Carried.of_message {a : Action} {ticks : ℕ → Tick} {δ : SentMessage} {w₁ : World}
    {m : Call Unit} (hc : c.Kept ((K.conversing sent old).protocol Scope))
    (hstart : messaging.Started (K.conversing sent old) c a ticks m w₁)
    (hm : EventLoop.Runs (K.conversing sent old) m w₁) (ht : ∀ n, (ticks n).fails = false)
    (hlogged : Brings (K.loggedGoal sent old δ) m w₁)
    (htold : ∀ x (hx : x ∈ K.participants), Brings (toldGoal sent old hx) m w₁) :
    Carried K sent old c (messaging.apply c (.call a ticks)) [δ] :=
  .of_call hc hstart hm ht (fun _ hδ => List.mem_singleton.mp hδ ▸ hlogged) fun _ _ => htold

/-- One `onSendMessage` of the conversation, whatever else is under way: a blank text brings no
message and changes no entry, any other is logged once and both participants are told of it. -/
theorem carried_onSendMessage {i : ℕ} {content cid a b : String} {type : MessageType}
    {ticks : ℕ → Tick} (h0 : cid ≠ "0")
    (hc : c.Kept (((oneToOne cid a b).conversing sent old).protocol Scope))
    (hi : OnScreen cid a b c.world i) (ht : ∀ n, (ticks n).fails = false)
    (hsent : ∀ δ ∈ delivery c.world (.call (.onSendMessage i content type) ticks), δ ∈ sent) :
    Carried (oneToOne cid a b) sent old c
      (messaging.apply c (.call (.onSendMessage i content type) ticks))
      (delivery c.world (.call (.onSendMessage i content type) ticks)).toList := by
  simp only [delivery] at hsent ⊢
  split at hsent
  · next hblank =>
    rw [if_pos hblank]
    exact .of_blank hc (runs_onSendMessage_blank hc.inv hblank) ht
  · next hblank =>
    rw [if_neg hblank, Option.toList_some]
    have hδ := hsent _ rfl
    obtain ⟨w₁, s, l, hadvances, hle, hinv, hs, hsender⟩ :=
      advances_onSendMessage type ticks .idle h0 hc.inv hi hblank
    have hi₁ := hi.later h0 hle
    refine .of_message hc ⟨⟨_, _, hadvances⟩, hle, hinv⟩
      (runs_afterTimestamp (δ := ⟨content, _, _⟩) h0 hi₁ hs hsender.symm hδ) ht ?_ fun x hx => ?_
    · exact brings_afterTimestamp (δ := ⟨content, _, _⟩) h0 hi₁ hs hsender.symm hδ (fun _ => trivial)
        fun _ hlogged _ => hlogged
    · exact brings_afterTimestamp (δ := ⟨content, _, _⟩) h0 hi₁ hs hsender.symm hδ (fun _ => trivial)
        fun _ _ htold => htold x hx

/-- The same for a message to the group: it is logged once, and each member's own thread brings the
news to that member's entry. -/
theorem carried_sendToGroup {g : ℕ} {content groupId : String} {users : List SelectedContact}
    {type : MessageType} {ticks : ℕ → Tick}
    (hc : c.Kept (((group groupId users).conversing sent old).protocol Scope))
    (hid : (c.world.groupCtrl.get g).pId = groupId)
    (husers : (c.world.groupCtrl.get g).users = users) (ht : ∀ n, (ticks n).fails = false)
    (hsent : ∀ δ ∈ delivery c.world (.call (.sendToGroup g content type) ticks), δ ∈ sent) :
    Carried (group groupId users) sent old c
      (messaging.apply c (.call (.sendToGroup g content type) ticks))
      (delivery c.world (.call (.sendToGroup g content type) ticks)).toList := by
  simp only [delivery] at hsent ⊢
  split at hsent
  · next hblank =>
    rw [if_pos hblank]
    exact .of_blank hc (runs_sendToGroup_blank hc.inv hblank) ht
  · next hblank =>
    rw [if_neg hblank, Option.toList_some]
    have hδ := hsent _ rfl
    obtain ⟨w₁, hadvances, hle, hinv, -⟩ :=
      advances_sendToGroup type ticks .idle hc.inv rfl hblank
    have hsender : (c.world.session (c.world.groupCtrl.get g).device).id =
        (w₁.session (c.world.groupCtrl.get g).device).id := by rw [hle.session]
    subst hid husers
    refine .of_message hc ⟨⟨_, _, hadvances⟩, hle, hinv⟩
      (runs_afterGroupTimestamp (δ := ⟨content, _, _⟩) hsender hδ) ht ?_ fun x hx => ?_
    · exact brings_logged (δ := ⟨content, _, _⟩) hsender hδ (fun _ => trivial) fun _ hlogged => hlogged
    · exact brings_told (δ := ⟨content, _, _⟩) hsender hδ hx (fun _ => trivial) fun _ htold => htold

/-- One event of the conversation, whatever was under way before it: a send carries its message, and
a call that goes on brings the messages of the others no further than they were meant to be. -/
theorem carried_apply {e : Event Action} (h0 : ∀ chatId a b, K = oneToOne chatId a b → chatId ≠ "0")
    (hc : c.Kept ((K.conversing sent old).protocol Scope)) (he : K.Converses c e)
    (hsent : ∀ δ ∈ delivery c.world e, δ ∈ sent) :
    Carried K sent old c (messaging.apply c e) (delivery c.world e).toList := by
  obtain ⟨hcont, hsucc⟩ := he
  cases e with
  | resume i ticks =>
    have hprovides : messaging.Provides ((K.conversing sent old).protocol Scope) c (.resume i ticks) :=
      fun _ _ => trivial
    refine ⟨System.apply_kept hc hprovides, fun γ hworld _ hγ => ?_, by simp [delivery],
      by simp [delivery]⟩
    exact System.pending_apply hworld hc hprovides (fun _ _ _ => hsucc) hγ
  | call a ticks =>
    cases a with
    | onSendMessage i content type =>
      cases K with
      | oneToOne cid a b => exact carried_onSendMessage (h0 cid a b rfl) hc hcont hsucc hsent
      | group => exact hcont.elim
    | sendToGroup g content type =>
      cases K with
      | oneToOne => exact hcont.elim
      | group groupId users => exact carried_sendToGroup hc hcont.2.1 hcont.2.2 hsucc hsent
    | _ => exact hcont.elim

/-! ## Runs -/

/-- A run carries all its messages. By recursion on the run, with `carried_apply` for each event and
what an event leaves as the start of the next. -/
theorem carried_exec (h0 : ∀ chatId a b, K = oneToOne chatId a b → chatId ≠ "0")
    {es : List (Event Action)} :
    ∀ {c : Clients}, c.Kept ((K.conversing sent old).protocol Scope) →
      messaging.Allowed K.Converses c es → (∀ δ ∈ deliveries c es, δ ∈ sent) →
      Carried K sent old c (messaging.exec c es) (deliveries c es) := by
  induction es with
  | nil => exact fun hc _ _ => ⟨hc, fun _ _ _ h => h, by simp [deliveries], by simp [deliveries]⟩
  | cons e es ih =>
    intro c hc hallowed hsent
    have hfirst := carried_apply h0 hc hallowed.1 fun δ hδ =>
      hsent δ (List.mem_append_left _ (Option.mem_toList.mpr hδ))
    have hrest := ih hfirst.kept hallowed.2 fun δ hδ => hsent δ (List.mem_append_right _ hδ)
    refine ⟨hrest.kept, fun γ hworld hγ h =>
      hrest.pending γ hworld hγ (hfirst.pending γ hworld hγ h), ?_, ?_⟩
    · intro δ hδ
      rcases List.mem_append.mp hδ with hδ | hδ
      · exact hrest.pending _ (fun _ _ _ h => h) (fun _ => trivial) (hfirst.logged δ hδ)
      · exact hrest.logged δ hδ
    · intro δ hδ x hx
      rcases List.mem_append.mp hδ with hδ | hδ
      · exact hrest.pending _ (fun _ _ _ h => h) (fun _ => trivial) (hfirst.told δ hδ x hx)
      · exact hrest.told δ hδ x hx

variable {session : ℕ → UserData} {es₀ es : List (Event Action)} {c₀ : Clients}

/-- Before messages are sent in the conversation. -/
theorem Established.kept (hK : K.Established c₀.world) (hset : c₀.Settled)
    (h₀ : messaging.Run messaging.admits (Clients.initial session) es₀ c₀) :
    c₀.Kept ((K.conversing sent (K.messages c₀.world)).protocol Scope) := by
  refine ⟨⟨fun i hi => ?_, fun x hx => ?_, fun m hm => Or.inl hm⟩, fun th hth => ?_⟩
  · have hsound := (Clients.consistent h₀).chat i hi
    exact ⟨hsound.allData, hsound.peer⟩
  · obtain ⟨d, hd⟩ := List.length_eq_one_iff.mp (hK.single x hx)
    exact ⟨d.id, by rw [EntryAt, hd]; rfl⟩
  · rw [hset] at hth
    exact absurd hth List.not_mem_nil

/-- What has been reached when everything has settled. -/
theorem settled_told (h₀ : messaging.Run messaging.admits (Clients.initial session) es₀ c₀)
    (hset₀ : c₀.Settled) (hK : K.Established c₀.world) (h : messaging.Run K.Converses c₀ es c)
    (hset : c.Settled) :
    K.Sound (deliveries c₀ es) (K.messages c₀.world) c.world ∧
      (∀ δ ∈ deliveries c₀ es, K.Logged δ c.world) ∧
      (deliveries c₀ es ≠ [] → ∀ x ∈ K.participants, K.Told (deliveries c₀ es) c.world x) := by
  have hcarried := carried_exec hK.identified (hK.kept hset₀ h₀) h.allowed fun _ hδ => hδ
  rw [← h.exec_eq] at hcarried
  refine ⟨hcarried.kept.inv, fun δ hδ => hset.reached (hcarried.logged δ hδ), fun hne x hx => ?_⟩
  obtain ⟨δ, hδ⟩ := List.exists_mem_of_ne_nil _ hne
  exact hset.reached (hcarried.told δ hδ x hx)

theorem tells_of_isStored {δ : SentMessage} {m d : Data} (hm : δ.IsStored m) (hd : δ.IsLast d) :
    Tells m d :=
  ⟨hd.1.trans hm.1.symm, hd.2.trans hm.2.1.symm⟩

theorem sentAt_of_isStored {δ : SentMessage} {m : Data} (hm : δ.IsStored m) :
    sentAt m = some (δ.millis : ℤ) := by
  unfold sentAt
  rw [hm.2.2]
  exact intParse_toString δ.millis

/-- Every participant still has one entry. -/
theorem Sound.length_entries {old : List Document} {w : World} (h : K.Sound sent old w)
    (hx : x ∈ K.participants) : (K.entries w x).length = 1 := by
  obtain ⟨id, hid⟩ := h.single x hx
  have hlen := congrArg List.length hid
  rwa [List.length_map] at hlen

/-- The events of a conversation are among those of the clients: a chat's are its sends, a group's
the messages to it, and a resumption belongs to both. -/
theorem Converses.admits {e : Event Action} (h : K.Converses c e) : messaging.admits c e := by
  cases e with
  | resume i ticks => trivial
  | call a ticks =>
    cases a with
    | onSendMessage i content type =>
      cases K with
      | oneToOne => exact h.1.1
      | group => exact h.1.elim
    | sendToGroup g content type =>
      cases K with
      | oneToOne => exact h.1.elim
      | group => exact h.1.1
    | _ => exact h.1.elim

/-- A message that has the conversation to itself ends up in every inbox. -/
theorem agree_of_single (h₀ : messaging.Run messaging.admits (Clients.initial session) es₀ c₀)
    (hset₀ : c₀.Settled) (hK : K.Established c₀.world) (h : messaging.Run K.Converses c₀ es c)
    (hset : c.Settled) {δ : SentMessage} (hδ : deliveries c₀ es = [δ])
    (hlate : ∀ m ∈ K.messages c₀.world, ∀ t ∈ sentAt m.data, t ≤ δ.millis) :
    K.Agree c.world := by
  obtain ⟨hsound, hlogged, htold⟩ := settled_told h₀ hset₀ hK h hset
  rw [hδ] at hsound hlogged htold
  obtain ⟨m, hm, hstored⟩ := hlogged δ (List.mem_singleton_self δ)
  refine ⟨m, hm, fun m' hm' t' ht' => ⟨δ.millis, sentAt_of_isStored hstored, ?_⟩, fun x hx => ?_⟩
  · rcases hsound.messages m' hm' with hold | ⟨δ', hδ', hstored'⟩
    · exact hlate m' hold t' ht'
    · obtain rfl := List.mem_singleton.mp hδ'
      rw [sentAt_of_isStored hstored'] at ht'
      exact le_of_eq (Option.some.inj ht').symm
  · obtain ⟨d, δ', hd, hδ', hlast⟩ := htold (List.cons_ne_nil δ []) x hx
    obtain rfl := List.mem_singleton.mp hδ'
    exact ⟨d, hd, tells_of_isStored hstored hlast⟩

/-- **Inbox convergence.** Whatever the order in which messages are carried on, each participant
still has one entry, which ends with one of the stored messages once one has been sent; and all end
with the latest message if it was sent when the others had settled. -/
theorem inboxes_converge (h₀ : messaging.Run messaging.admits (Clients.initial session) es₀ c₀)
    (hset₀ : c₀.Settled) (hK : K.Established c₀.world) (h : messaging.Run K.Converses c₀ es c)
    (hset : c.Settled) : K.Converged c₀ es c := by
  obtain ⟨hsound, hlogged, htold⟩ := settled_told h₀ hset₀ hK h hset
  refine ⟨fun x hx => hsound.length_entries hx, fun hne x hx => ?_, ?_⟩
  · obtain ⟨d, δ, hd, hδ, hlast⟩ := htold hne x hx
    obtain ⟨m, hm, hstored⟩ := hlogged δ hδ
    exact ⟨d, hd, m, hm, tells_of_isStored hstored hlast⟩
  · rintro es₁ es₂ δ rfl hset₁ hδ hlate
    obtain ⟨hallowed₁, hallowed₂⟩ := System.allowed_append.mp h.allowed
    have hrun₁ : messaging.Run K.Converses c₀ es₁ (messaging.exec c₀ es₁) := System.run_exec hallowed₁
    have hrun₂ : messaging.Run K.Converses (messaging.exec c₀ es₁) es₂ c := by
      rw [h.exec_eq, System.exec_append]
      exact System.run_exec hallowed₂
    obtain ⟨hsound₁, -⟩ := settled_told h₀ hset₀ hK hrun₁ hset₁
    have hK₁ : K.Established (messaging.exec c₀ es₁).world :=
      ⟨hK.identified, fun x hx => hsound₁.length_entries hx⟩
    exact agree_of_single (h₀.append (hrun₁.mono fun _ _ he => he.admits)) hset₁ hK₁ hrun₂ hset
      hδ hlate

/-! ## Alice and Bob -/

section Decidable

variable (K) (w : World) (c : Clients)

instance (m d : Data) : Decidable (Tells m d) := inferInstanceAs (Decidable (_ ∧ _))

instance (m : Document) : Decidable (K.Latest w m) :=
  inferInstanceAs (Decidable (∀ _ ∈ _, ∀ _ ∈ sentAt _, ∃ t ∈ sentAt m.data, _))

instance {α : Type} {p : α → Prop} [DecidablePred p] :
    (l : List α) → Decidable (∃ a, l = [a] ∧ p a)
  | [] => isFalse (by simp)
  | [a] => decidable_of_iff (p a) (by simp)
  | _ :: _ :: _ => isFalse (by simp)

instance : Decidable (K.Agree w) :=
  inferInstanceAs (Decidable (∃ m ∈ K.messages w, K.Latest w m ∧
    ∀ x ∈ K.participants, ∃ d, K.entries w x = [d] ∧ Tells m.data d.data))

instance (chatId a b : String) (i : ℕ) : Decidable (OnScreen chatId a b w i) :=
  inferInstanceAs (Decidable (_ ∧ _ ∧ _))

instance : (K : Conversation) → (a : Action) → Decidable (K.Sends w a)
  | oneToOne chatId a b, .onSendMessage i _ _ =>
    inferInstanceAs (Decidable (OnScreen chatId a b w i))
  | group _ _, .sendToGroup _ _ _ => inferInstanceAs (Decidable (_ ∧ _ ∧ _))
  | group _ _, .onSendMessage _ _ _ | oneToOne _ _ _, .sendToGroup _ _ _ =>
    inferInstanceAs (Decidable False)
  | _, .userRegister _ _ _ | _, .saveContact _ _ _ | _, .tapCard _ _ | _, .blockUser _
  | _, .deleteAlert _ _ | _, .openCreate _ _ | _, .editGroup _ _ _ | _, .selectUserTap _ _
  | _, .addGroupBottomSheet _ | _, .createGroup _ | _, .sendToBroadcast _ _ _ =>
    inferInstanceAs (Decidable False)

instance : (e : Event Action) → Decidable (K.Continues c e)
  | .call a _ => inferInstanceAs (Decidable (K.Sends c.world a))
  | .resume _ _ => inferInstanceAs (Decidable True)

end Decidable

/-- Alice has written to Bob, who has opened the chat. -/
def bothTalk : List (Event Action) :=
  bothOpen ++ alone 5000 (.onSendMessage 0 "hello" .text) ++
    alone 6000 (.saveContact 1 (contact "alice") true)

/-- Both have the chat with the other open. -/
def talking : Clients := messaging.exec (Clients.initial aliceAndBob) bothTalk

/-- Their conversation. -/
def theirs : Conversation := .oneToOne "5000" "alice" "bob"

/-- Both press the button at about the same time. -/
def bothWrite : List (Event Action) :=
  [.call (.onSendMessage 0 "one" .text) (clock 7000000),
    .call (.onSendMessage 2 "two" .text) (clock 8000000)] ++ settle 8000000 60

/-- Alice writes once more when both messages have settled. -/
def aliceAgain : List (Event Action) := alone 9000000 (.onSendMessage 0 "three" .text)

/-- Bob's answer comes from a clock that is behind. -/
def bobIsBehind : List (Event Action) :=
  alone 7000000 (.onSendMessage 0 "one" .text) ++ alone 6000000 (.onSendMessage 2 "two" .text)

/-- The first operation after the message has been stored fails. -/
def aliceFails : List (Event Action) :=
  .call (.onSendMessage 0 "one" .text) (clock 7000000) :: settle 7000000 2 ++
    [.resume 0 fun _ => { now := 7000000, fails := true }]

theorem run_bothTalk :
    messaging.Run messaging.admits (Clients.initial aliceAndBob) bothTalk talking :=
  System.run_exec (by decide +kernel)

theorem established_talking : theirs.Established talking.world :=
  ⟨fun _ _ _ h => by cases h; decide, by decide +kernel⟩

theorem succeeds_settle {now n : ℕ} : ∀ e ∈ settle now n, e.Succeeds :=
  Event.succeeds_replicate fun _ => rfl

theorem succeeds_bothWrite : ∀ e ∈ bothWrite, e.Succeeds := by
  simp only [bothWrite, List.forall_mem_append, List.forall_mem_cons]
  exact ⟨⟨fun _ => rfl, fun _ => rfl, by simp⟩, succeeds_settle⟩

/-- Two messages at about the same time, and one after they have settled. -/
theorem inboxes_converge_theirs :
    theirs.Agree (messaging.exec talking (bothWrite ++ aliceAgain)).world := by
  have hallowed : messaging.Allowed theirs.Converses talking (bothWrite ++ aliceAgain) := by
    have himp : ∀ c e, theirs.Continues c e → e.Succeeds → theirs.Converses c e :=
      fun _ _ h hsucc => ⟨h, hsucc⟩
    refine System.Allowed.imp himp (by decide +kernel) ?_
    exact List.forall_mem_append.mpr ⟨succeeds_bothWrite, succeeds_alone⟩
  have hconverged : theirs.Converged talking (bothWrite ++ aliceAgain) _ :=
    inboxes_converge run_bothTalk (by decide +kernel) established_talking
      (System.run_exec hallowed) (by decide +kernel)
  exact hconverged.agree bothWrite aliceAgain ⟨"three", "alice", 9000⟩ rfl (by decide +kernel)
    (by decide +kernel) (by decide +kernel)

/-- Each entry ends with the other's message. Nor do the entries end with the latest message
where a clock is behind, or where an operation has failed. -/
theorem inboxes_diverge :
    (¬ ∀ (K : Conversation) (es₀ es : List (Event Action)) (c₀ c : Clients),
      messaging.Run messaging.admits (Clients.initial aliceAndBob) es₀ c₀ → c₀.Settled →
      K.Established c₀.world → messaging.Run K.Converses c₀ es c → c.Settled →
      deliveries c₀ es ≠ [] → K.Agree c.world) ∧
    ¬ theirs.Agree (messaging.exec talking bobIsBehind).world ∧
    ¬ theirs.Agree (messaging.exec talking aliceFails).world := by
  refine ⟨fun h => ?_, by decide +kernel, by decide +kernel⟩
  have hallowed : messaging.Allowed theirs.Converses talking bothWrite := by
    have himp : ∀ c e, theirs.Continues c e → e.Succeeds → theirs.Converses c e :=
      fun _ _ h hsucc => ⟨h, hsucc⟩
    exact System.Allowed.imp himp (by decide +kernel) succeeds_bothWrite
  have hnot : ¬ theirs.Agree (messaging.exec talking bothWrite).world := by decide +kernel
  exact hnot (h theirs bothTalk bothWrite talking _ run_bothTalk (by decide +kernel)
    established_talking (System.run_exec hallowed) (by decide +kernel) (by decide +kernel))

end Conversation

end FlutterTheme
