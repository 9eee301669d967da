import FlutterTheme.Clients

/-!
# Conversations, groups and broadcasts are isolated

`Scope.Owns` says which documents a handler may touch, given what it is working
on. Every single action stays in that frame, and the logs of messages are only
extended: `steps_isolated`. Both are read off the list of writes in `Permits`, so
they hold of every action in every interleaving.
-/

namespace FlutterTheme

open EventLoop DocStore

variable {w : World} {l : Scope} {op : Write Path Key Value}

/-! ## Frames -/

/-- The documents of the conversation `c` of `u` with `p`: the messages, and the
entries of these two users. -/
def OfConversation (w : World) (u p c : String) (path : Path) (d : Document) : Prop :=
  (c, s(u, p)) ∈ w.minted ∧
  (path = .messages c ∨
    (path = .chats u ∨ path = .chats p) ∧ d.data .chatId = some (.str c))

/-- The documents of the group `g`. -/
def OfGroup (g : String) (path : Path) (d : Document) : Prop :=
  path = .groupMessage g ∨ (path = .groups ∧ d.id = .named g) ∨
  ∃ x, path = .chats x ∧ d.data .groupId = some (.str g)

/-- The documents of the broadcast `b` itself: not those of its copies. -/
def OfBroadcast (u b : String) (path : Path) (d : Document) : Prop :=
  path = .broadcastMessage b ∨ (path = .broadcast ∧ d.id = .named b) ∨
  (path = .chats u ∧ d.data .broadcastId = some (.str b))

/-- The documents that a handler may touch in the world `w`. -/
def Scope.Owns (w : World) : Scope → Path → Document → Prop
  | .idle => fun _ _ => False
  | .register u => fun path d => path = .users ∧ d.id = .named u
  | .send u p c | .block u p c | .seen u p c => OfConversation w u p c
  | .deleteMessage c id => fun path d => path = .messages c ∧ d.id = id
  | .group g => OfGroup g
  | .broadcast u b | .broadcastWait u b => OfBroadcast u b
  -- the conversation of the owner with a recipient
  | .firstCopy u b r c | .copy u b r c =>
    fun path d => IsRecipient w u b r ∧ OfConversation w u r c path d
  | .save u c => fun path d => path = .chats u ∧ d.data .chatId = some (.str c)

/-- A handler that posts in a conversation may add to its messages. -/
theorem Posts.owns {u p c : String} (h : Posts w l u p c) (hreg : (c, s(u, p)) ∈ w.minted)
    (d : Document) : l.Owns w (.messages c) d := by
  cases h with
  | send | block => exact ⟨hreg, Or.inl rfl⟩
  | firstCopy _ hr | copy _ hr => exact ⟨hr, hreg, Or.inl rfl⟩

/-- A handler that saves an entry of a conversation may touch the user's entries of
that conversation. -/
theorem Saves.owns {u p c x : String} {isBlock isBroadcast : Bool}
    (h : Saves w l u p c x isBlock isBroadcast) (hreg : (c, s(u, p)) ∈ w.minted) {d : Document}
    (hd : d.data .chatId = some (.str c)) : l.Owns w (.chats x) d := by
  cases h with
  | own | block => exact ⟨hreg, Or.inr ⟨Or.inl rfl, hd⟩⟩
  | peer => exact ⟨hreg, Or.inr ⟨Or.inr rfl, hd⟩⟩
  | copy _ hr => exact ⟨hr, hreg, Or.inr ⟨Or.inr rfl, hd⟩⟩

/-- A write puts in only documents that the handler owns: those of its conversation, its group or
its broadcast. One case for each write. -/
theorem Permits.owns_puts (h : Permits w l op) : ∀ q x, w.store.Puts op q x → l.Owns w q x := by
  cases h with
  | message hl registered => rintro _ x ⟨rfl, -⟩; exact hl.owns registered x
  | addEntry hl registered => rintro _ _ ⟨rfl, rfl⟩; exact hl.owns registered rfl
  | updateEntry hl registered _ =>
    rintro _ _ ⟨rfl, y, -, -, rfl⟩
    exact hl.owns registered rfl
  | seen hx registered found =>
    rintro _ _ ⟨rfl, y, hy, hid, rfl⟩
    have hcid := found y hy hid
    rcases hx with rfl | rfl
    · exact ⟨registered, Or.inr ⟨Or.inl rfl, hcid⟩⟩
    · exact ⟨registered, Or.inr ⟨Or.inr rfl, hcid⟩⟩
  | deleteMessage => exact fun _ _ hput => hput.elim
  | register user => rintro _ _ ⟨rfl, rfl⟩; exact ⟨rfl, rfl⟩
  | group => rintro _ _ ⟨rfl, rfl⟩; exact Or.inr (Or.inl ⟨rfl, rfl⟩)
  | groupMessage => rintro _ _ ⟨rfl, -⟩; exact Or.inl rfl
  | addGroupEntry => rintro _ _ ⟨rfl, rfl⟩; exact Or.inr (Or.inr ⟨_, rfl, rfl⟩)
  | updateGroupEntry found =>
    rintro _ _ ⟨rfl, y, hy, hid, rfl⟩
    exact Or.inr (Or.inr ⟨_, rfl, found y hy hid⟩)
  | broadcast => rintro _ _ ⟨rfl, rfl⟩; exact Or.inr (Or.inl ⟨rfl, rfl⟩)
  | broadcastMessage => rintro _ _ ⟨rfl, -⟩; exact Or.inl rfl
  | addBroadcastEntry => rintro _ _ ⟨rfl, rfl⟩; exact Or.inr (Or.inr ⟨rfl, rfl⟩)
  | updateBroadcastEntry _ found =>
    rintro _ _ ⟨rfl, y, hy, hid, rfl⟩
    exact Or.inr (Or.inr ⟨rfl, found y hy hid⟩)

/-- A write replaces or removes only documents that the handler owns; what was found by a query
still belongs to what was asked for. -/
theorem Permits.owns_takes (h : Permits w l op) :
    ∀ q, ∀ x ∈ w.store.docs q, Store.Takes op q x → l.Owns w q x := by
  cases h with
  | message | addEntry | addGroupEntry | groupMessage | broadcastMessage | addBroadcastEntry =>
    exact fun _ _ _ ht => ht.elim
  | updateEntry hl registered found =>
    rintro _ x hx ⟨rfl, hid⟩
    exact hl.owns registered (found x hx hid)
  | seen hx registered found =>
    rintro _ y hy ⟨rfl, hid⟩
    have hcid := found y hy hid
    rcases hx with rfl | rfl
    · exact ⟨registered, Or.inr ⟨Or.inl rfl, hcid⟩⟩
    · exact ⟨registered, Or.inr ⟨Or.inr rfl, hcid⟩⟩
  | deleteMessage => rintro _ _ _ ⟨rfl, hid⟩; exact ⟨rfl, hid⟩
  | register user => rintro _ _ _ ⟨rfl, hid⟩; exact ⟨rfl, hid⟩
  | group => rintro _ _ _ ⟨rfl, hid⟩; exact Or.inr (Or.inl ⟨rfl, hid⟩)
  | updateGroupEntry found =>
    rintro _ x hx ⟨rfl, hid⟩
    exact Or.inr (Or.inr ⟨_, rfl, found x hx hid⟩)
  | broadcast => rintro _ _ _ ⟨rfl, hid⟩; exact Or.inr (Or.inl ⟨rfl, hid⟩)
  | updateBroadcastEntry _ found =>
    rintro _ x hx ⟨rfl, hid⟩
    exact Or.inr (Or.inr ⟨rfl, found x hx hid⟩)

/-! ## Logs -/

/-- The collections of messages. -/
def Path.IsLog : Path → Prop
  | .messages _ | .groupMessage _ | .broadcastMessage _ => True
  | _ => False

/-- A message is as it was, except that it may have been marked as seen. -/
def OnlySeen (d d' : Data) : Prop :=
  d' = d ∨ (d .isSeen = some (.bool false) ∧ d' = d.merge (.ofList [(.isSeen, .bool true)]))

/-- Every message of `s` is still there in `s'`, except that a handler may delete
the one it was started for. -/
def LogsKept (l : Scope) (s s' : Store Path Key Value) : Prop :=
  ∀ path, path.IsLog → ∀ d ∈ s.docs path,
    (∃ d' ∈ s'.docs path, d'.id = d.id ∧ OnlySeen d.data d'.data) ∨
    ∃ c, path = .messages c ∧ l = .deleteMessage c d.id

/-- Writes only extend the logs, but for the message chosen to be deleted. -/
theorem Permits.logsKept (h : Permits w l op) : LogsKept l w.store (w.store.write op) := by
  intro path hlog d hd
  have hstays : ¬ Store.Takes op path d →
      (∃ d' ∈ (w.store.write op).docs path, d'.id = d.id ∧ OnlySeen d.data d'.data) ∨
      ∃ c, path = .messages c ∧ l = .deleteMessage c d.id :=
    fun ht => Or.inl ⟨d, Store.mem_write_of_mem hd ht, rfl, Or.inl rfl⟩
  cases h with
  | deleteMessage c id =>
    by_cases ht : path = .messages c ∧ d.id = id
    · obtain ⟨rfl, rfl⟩ := ht
      exact Or.inr ⟨c, rfl, rfl⟩
    · exact hstays ht
  | message | addEntry | addGroupEntry | groupMessage | broadcastMessage | addBroadcastEntry =>
    exact hstays fun ht => ht
  | register | group | broadcast | updateEntry | seen | updateGroupEntry
  | updateBroadcastEntry =>
    refine hstays ?_
    rintro ⟨rfl, -⟩
    exact hlog

/-! ## Isolation of every step -/

/-- One action of a handler touches only what the handler owns, and only extends
the logs. -/
structure Isolated (st : Step World Scope) : Prop where
  /-- nothing else has changed -/
  frame : Store.Frame (st.scope.Owns st.before) st.before.store st.after.store
  /-- messages stay -/
  logs : LogsKept st.scope st.before.store st.after.store

theorem LogsKept.refl (l : Scope) (s : Store Path Key Value) : LogsKept l s s :=
  fun _ _ d hd => Or.inl ⟨d, hd, rfl, Or.inl rfl⟩

/-- One action of any handler is isolated: what it puts in and takes away belongs to what its scope
is about, and no message is taken away but by deleting it. -/
theorem Effect.isolated {π : Terms} {st : Step World Scope}
    (h : Effect π st.scope st.before st.after) : Isolated st := by
  obtain ⟨l, w, w'⟩ := st
  change Effect π l w w' at h
  cases h with
  | screens store _ _ _ | mint _ store _ _ _ =>
    refine ⟨?_, ?_⟩ <;> simp only [store]
    · exact Store.Frame.refl _ _
    · exact LogsKept.refl _ _
  | block | notify => exact ⟨Store.Frame.refl _ _, LogsKept.refl _ _⟩
  | write op _ permitted =>
    exact ⟨Store.frame_write permitted.owns_puts permitted.owns_takes, permitted.logsKept⟩

/-- Every action of a segment is isolated. -/
def StepsIsolated (o : Outcome World Scope) : Prop := ∀ st ∈ o.steps, Isolated st

/-- **Isolation.** In every reachable state every single action of every handler
stays within the conversation, group or broadcast it is working on, and leaves all
messages in place. -/
theorem steps_isolated {session : ℕ → UserData} {es : List (Event Action)} {c : Clients}
    (h : messaging.Run messaging.admits (Clients.initial session) es c) {e : Event Action}
    (he : messaging.admits c e) : StepsIsolated (messaging.outcome c e) :=
  fun st hst => (Clients.steps h he st hst).isolated

/-- Alice's first message is on its way when the event loop resumes her handler. -/
theorem steps_isolated_firstMessage :
    StepsIsolated (messaging.outcome
      (messaging.exec (Clients.initial aliceAndBob)
        (bothOpen ++ [.call (.onSendMessage 0 "hello" .text) (clock 5000)]))
      (.resume 0 (clock 5001))) :=
  steps_isolated (System.run_exec (by decide +kernel)) trivial

end FlutterTheme
