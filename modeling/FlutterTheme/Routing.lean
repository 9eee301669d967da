import FlutterTheme.Clients

/-!
# Routing of one-to-one conversations

A chat id belongs to one pair of users. Every entry of an inbox and every message
filed under it is about that pair, and the card shown for an entry leads to the
other user: `one_to_one_routing`.

The converse fails: two users may get several conversations, since whoever writes
first makes the identifier without asking the other side
(`two_conversations_of_one_pair`). All of them are registered for the pair, so
they are one if only one has been made: `conversations_of_pair`.
-/

namespace FlutterTheme

open EventLoop DocStore

variable {session : ℕ → UserData} {es : List (Event Action)} {c : Clients}

/-! ## Entries, messages and cards -/

/-- The entry `d` of the inbox of `u` is of the conversation `chatId` with `p`: its
two users are `u` and `p`, and its card leads to `p`. -/
def LeadsTo (u : String) (d : Data) (chatId p : String) : Prop :=
  d .chatId = some (.str chatId) ∧
  (∃ sender receiver, d .senderId = some (.str sender) ∧ d .receiverId = some (.str receiver) ∧
    s(sender, receiver) = s(u, p)) ∧
  ∃ card k, loadUser d u = some card ∧ card.peer = some k ∧ d k = some (.str p)

/-- All that is filed under `chatId` is of the two users `pair`. -/
structure FiledFor (w : World) (chatId : String) (pair : Sym2 String) : Prop where
  /-- the inbox entries -/
  entries : ∀ u, ∀ d ∈ w.store.docs (.chats u), d.data .isOneToOne = some (.bool true) →
    d.data .chatId = some (.str chatId) → ∃ p, pair = s(u, p) ∧ LeadsTo u d.data chatId p
  /-- the messages -/
  messages : ∀ d ∈ w.store.docs (.messages chatId), ∃ sender receiver,
    d.data .sender = some (.str sender) ∧ d.data .receiver = some (.str receiver) ∧
    s(sender, receiver) = pair

/-- The routing of conversations is in order. -/
structure Routed (w : World) : Prop where
  /-- every entry leads to somebody else -/
  entries : ∀ u, ∀ d ∈ w.store.docs (.chats u), d.data .isOneToOne = some (.bool true) →
    ∃ p chatId, p ≠ u ∧ LeadsTo u d.data chatId p
  /-- every chat id belongs to one pair of users -/
  chatIds : ∀ chatId, ∃ pair, FiledFor w chatId pair

/-- An entry of a consistent world leads to the user its chat id is registered with. -/
theorem Consistent.leadsTo {w : World} (hc : Consistent w) {u : String} {d : Document}
    (hd : d ∈ w.store.docs (.chats u)) (hone : d.data .isOneToOne = some (.bool true)) :
    ∃ p chatId, (chatId, s(u, p)) ∈ w.minted ∧ LeadsTo u d.data chatId p := by
  have hentry : Entry w.minted u d.data := hc.docs _ d hd
  obtain ⟨p, chatId, card, k, hreg, hcid, hpair, hload, hpeer, hk⟩ := hentry.card hone
  exact ⟨p, chatId, hreg, hcid, hpair, card, k, hload, hpeer, hk⟩

/-- A chat id is registered for at most one pair if no id is made twice. -/
theorem registered_unique {m : Registry} (hm : (m.map Prod.fst).Nodup) {chatId : String}
    {pair pair' : Sym2 String} (h : (chatId, pair) ∈ m) (h' : (chatId, pair') ∈ m) :
    pair = pair' :=
  congrArg Prod.snd (List.inj_on_of_nodup_map hm h h' rfl)

/-- What is registered for a pair is filed for that pair. -/
theorem Consistent.filedFor {w : World} (hc : Consistent w) (hm : (w.minted.map Prod.fst).Nodup)
    {chatId : String} {pair : Sym2 String} (hreg : (chatId, pair) ∈ w.minted) :
    FiledFor w chatId pair := by
  refine ⟨?_, ?_⟩
  · intro u d hd hone hcid
    obtain ⟨p, chatId', hreg', hleads⟩ := hc.leadsTo hd hone
    rw [hleads.1] at hcid
    cases hcid
    exact ⟨p, registered_unique hm hreg hreg', hleads⟩
  · intro d hd
    obtain ⟨sender, receiver, hs, hr, hreg'⟩ := hc.docs _ d hd
    exact ⟨sender, receiver, hs, hr, registered_unique hm hreg' hreg⟩

/-- Nothing is filed under a chat id that is not registered. -/
theorem Consistent.filedFor_of_not_registered {w : World} (hc : Consistent w) {chatId : String}
    (hreg : ∀ pair, (chatId, pair) ∉ w.minted) (pair : Sym2 String) : FiledFor w chatId pair := by
  refine ⟨?_, ?_⟩
  · intro u d hd hone hcid
    obtain ⟨p, chatId', hreg', hleads⟩ := hc.leadsTo hd hone
    rw [hleads.1] at hcid
    cases hcid
    exact absurd hreg' (hreg _)
  · intro d hd
    obtain ⟨sender, receiver, -, -, hreg'⟩ := hc.docs _ d hd
    exact absurd hreg' (hreg _)

/-- **Routing.** Whatever any number of clients do, and in whatever order their
reads and writes take effect: as long as no id is made twice, every entry of a
conversation leads to the other of its two users, and everything filed under a
chat id is of one pair of users. -/
theorem one_to_one_routing
    (h : messaging.Run messaging.admits (Clients.initial session) es c)
    (hm : (c.world.minted.map Prod.fst).Nodup) : Routed c.world := by
  have hc := Clients.consistent h
  refine ⟨?_, ?_⟩
  · intro u d hd hone
    obtain ⟨p, chatId, hreg, hleads⟩ := hc.leadsTo hd hone
    exact ⟨p, chatId, (hc.ne hreg).2.symm, hleads⟩
  · intro chatId
    by_cases hreg : ∃ pair, (chatId, pair) ∈ c.world.minted
    · obtain ⟨pair, hreg⟩ := hreg
      exact ⟨pair, hc.filedFor hm hreg⟩
    · exact ⟨s("", ""), hc.filedFor_of_not_registered (fun pair hp => hreg ⟨pair, hp⟩) _⟩

/-- Alice's first message to Bob. -/
def firstMessage : List (Event Action) := bothOpen ++ alone 5000 (.onSendMessage 0 "hello" .text)

theorem one_to_one_routing_firstMessage :
    Routed (messaging.exec (Clients.initial aliceAndBob) firstMessage).world :=
  one_to_one_routing (System.run_exec (by decide +kernel)) (by decide +kernel)

/-! ## The conversations of two users -/

/-- The chat ids under which the inbox of `x` has entries about `y`. -/
def chatIdsAbout (w : World) (x y : String) : List (Option Value) :=
  ((w.store.query (.chats x) (Fields.isEqualTo .isOneToOne (.bool true))).filter
    (fun d => isAbout y d.data)).map (·.data .chatId)

/-- Only one chat id has been made for the two users. -/
def OneMinted (w : World) (pair : Sym2 String) : Prop :=
  ∀ e ∈ w.minted, ∀ e' ∈ w.minted, e.2 = pair → e'.2 = pair → e = e'

/-- An entry about somebody else carries an id that was made for the two users. -/
theorem Consistent.of_mem_chatIdsAbout {w : World} (hc : Consistent w) {x y : String} (hne : x ≠ y)
    {v : Option Value} (hv : v ∈ chatIdsAbout w x y) :
    ∃ chatId, v = some (.str chatId) ∧ (chatId, s(x, y)) ∈ w.minted := by
  obtain ⟨d, hd, rfl⟩ := List.mem_map.mp hv
  obtain ⟨hd, habout⟩ := List.mem_filter.mp hd
  obtain ⟨hd, hone⟩ := (Store.mem_query _).mp hd
  have hentry : Entry w.minted x d.data := hc.docs _ d hd
  have hone := Fields.isEqualTo_iff.mp hone
  obtain ⟨-, chatId, -, -, -, hcid, -⟩ := hentry.card hone
  exact ⟨chatId, hcid, hentry.registered_of_about hone hne habout hcid⟩

/-- The chat ids in the entries of `a` and `b` about each other. -/
structure PairConversations (w : World) (a b : String) : Prop where
  /-- all of them were made for these two users -/
  made : ∀ v ∈ chatIdsAbout w a b ++ chatIdsAbout w b a,
    ∃ chatId, v = some (.str chatId) ∧ (chatId, s(a, b)) ∈ w.minted
  /-- there is at most one if only one was made -/
  one : OneMinted w s(a, b) → ∀ v ∈ chatIdsAbout w a b ++ chatIdsAbout w b a,
    ∀ v' ∈ chatIdsAbout w a b ++ chatIdsAbout w b a, v = v'

/-- **The conversations of a pair.** In every run the entries of two users about
each other carry ids that were made for these two, and one and the same id if only
one has been made for them. -/
theorem conversations_of_pair (a b : String) (hab : a ≠ b)
    (h : messaging.Run messaging.admits (Clients.initial session) es c) :
    PairConversations c.world a b := by
  have hc := Clients.consistent h
  have hmade : ∀ v ∈ chatIdsAbout c.world a b ++ chatIdsAbout c.world b a,
      ∃ chatId, v = some (.str chatId) ∧ (chatId, s(a, b)) ∈ c.world.minted := by
    intro v hv
    rcases List.mem_append.mp hv with hv | hv
    · exact hc.of_mem_chatIdsAbout hab hv
    · rw [Sym2.eq_swap]
      exact hc.of_mem_chatIdsAbout hab.symm hv
  refine ⟨hmade, ?_⟩
  intro hone v hv v' hv'
  obtain ⟨chatId, rfl, hreg⟩ := hmade v hv
  obtain ⟨chatId', rfl, hreg'⟩ := hmade v' hv'
  obtain rfl := congrArg Prod.fst (hone _ hreg _ hreg' rfl rfl)
  rfl

theorem conversations_of_pair_firstMessage :
    PairConversations (messaging.exec (Clients.initial aliceAndBob) firstMessage).world
      "alice" "bob" :=
  conversations_of_pair "alice" "bob" (by decide) (System.run_exec (by decide +kernel))

/-- Both chats were opened before there was a conversation, and both users write:
each of the two screens makes its own. -/
def firstMessages : List (Event Action) :=
  firstMessage ++ alone 6000 (.onSendMessage 1 "hello" .text)

/-- Two users may get several conversations, although no id is made twice. -/
theorem two_conversations_of_one_pair :
    ¬ ∀ es c, messaging.Run messaging.admits (Clients.initial aliceAndBob) es c →
      (c.world.minted.map Prod.fst).Nodup → c.Settled →
      ∀ v ∈ chatIdsAbout c.world "alice" "bob" ++ chatIdsAbout c.world "bob" "alice",
      ∀ v' ∈ chatIdsAbout c.world "alice" "bob" ++ chatIdsAbout c.world "bob" "alice", v = v' := by
  intro h
  have heq := h firstMessages _ (System.run_exec (by decide +kernel)) (by decide +kernel)
    (by decide +kernel) (some (.str "5000")) (by decide +kernel) (some (.str "6000"))
    (by decide +kernel)
  exact absurd heq (by decide)

end FlutterTheme
