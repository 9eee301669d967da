import FlutterTheme.ChatLookup
import FlutterTheme.Completes
import FlutterTheme.Evolution

/-!
# Creating a broadcast

`addGroupBottomSheet` starts a lookup for every selected contact, waits for a fixed time and
then writes whoever is in `newContact` by then, three times. A contact whose lookup takes longer
is lost, and turns up in the next broadcast. `broadcast_whole` is what holds of all runs in which
the lookups have come back when the time is over: the documents of a broadcast list the contacts
selected for it, each of them once, and once everything has settled all three of them are there
(`written_of_create`).
-/

namespace FlutterTheme.Creation

open EventLoop DocStore

/-! ## The runs -/

/-- What a user does on the screen that creates a broadcast. -/
inductive Action : Type where
  | tap : UserData → Action
  | create : Action

/-- The screen with the controller `g`. -/
def creating (g : ℕ) : System World Scope Action where
  scope _ _ := .idle
  body
    | .tap value => selectUserTap g value
    | .create => addGroupBottomSheet g
  enabled _ _ := True

/-- A contact without the `chatId`. -/
def bare (contact : SelectedContact) : SelectedContact := { contact with chatId := none }

/-- The contacts selected on the screen. -/
def selection (s : CreateGroupController) : List SelectedContact :=
  (s.entries s.selectedContact).map bare

/-- The suspended call is the lookup of a contact. -/
def Lookup (g : ℕ) (t : Task World Scope) : Prop :=
  ∃ user e, (checkContact g user e).task.Rest t

/-- The suspended call is a creation that waits for the lookups. -/
def Waiting (g : ℕ) (t : Task World Scope) : Prop :=
  ∃ d user broadcastId, (createBroadcastDocs g d user broadcastId).task = .await t

/-- No operation fails, no broadcast is created while another one is, and the time a creation
waits is over only when no lookup is under way any more. -/
structure InTime (g : ℕ) (c : Config World Scope) (e : Event Action) : Prop where
  succeeds : ∀ n, (e.ticks n).fails = false
  started : ∀ ticks, e = .call .create ticks → (c.world.createCtrl.get g).isLoading = false
  resumed : ∀ i ticks th, e = .resume i ticks → c.threads[i]? = some th → Waiting g th.task →
    ∀ th' ∈ c.threads.eraseIdx i, ¬ Lookup g th'.task

/-- If the broadcast that is created at the event gets the id `b`, then `sel` is selected. -/
def Chooses (g : ℕ) (b : String) (sel : List SelectedContact) (c : Config World Scope)
    (e : Event Action) : Prop :=
  ∀ ticks, e = .call .create ticks → toString (ticks 3).now = b →
    selection (c.world.createCtrl.get g) = sel

/-- The documents of the broadcast `b` list the contacts `sel`, each of them once. -/
structure Lists (b : String) (sel : List SelectedContact) (s : Store Path Key Value) : Prop where
  broadcast : ∀ x ∈ s.docs .broadcast, x.id = .named b →
    ∃ users, x.data .users = some (.contacts users) ∧ (users.map bare).Perm sel
  message : ∀ x ∈ s.docs (.broadcastMessage b),
    ∃ receiver, x.data .receiver = some (.contacts receiver) ∧ (receiver.map bare).Perm sel
  entry : ∀ u, ∀ x ∈ s.docs (.chats u), x.data .broadcastId = some (.str b) →
    ∃ receiverId, x.data .receiverId = some (.contacts receiverId) ∧
      (receiverId.map bare).Perm sel

/-- The screen before anything is created on it. -/
structure Fresh (s : CreateGroupController) : Prop where
  isGroup : s.isGroup = false
  isLoading : s.isLoading = false
  newContact : s.newContact = []
  nodup : s.selectedContact.Nodup
  lt : ∀ e ∈ s.selectedContact, e < s.contacts.size

/-! ## The documents -/

section Documents

variable {b b' : String} {sel users : List SelectedContact} {s : Store Path Key Value} {pos : ℕ}
  {user : UserData} {timestamp : String}

theorem lists_broadcast (hsel : b' = b → (users.map bare).Perm sel) (h : Lists b sel s) :
    Lists b sel (s.set .broadcast b' pos (broadcastFields users b' user timestamp)) := by
  refine ⟨fun x hx hid => ?_, fun x hx => h.message x ?_, fun u x hx => h.entry u x ?_⟩
  · rcases Store.mem_set.mp hx with ⟨-, rfl⟩ | ⟨hx, -⟩
    · exact ⟨users, rfl, hsel (DocId.named.inj hid)⟩
    · exact h.broadcast x hx hid
  · exact ((Store.mem_set.mp hx).resolve_left fun hnew => nomatch hnew.1).1
  · exact ((Store.mem_set.mp hx).resolve_left fun hnew => nomatch hnew.1).1

/-- The first message of a broadcast lists what the screen has collected, which is the selection if
it is the broadcast in question. -/
theorem lists_message {content : String} {type : MessageType}
    (hsel : b' = b → (users.map bare).Perm sel) (h : Lists b sel s) :
    Lists b sel (s.add (.broadcastMessage b') pos
      (broadcastMessageFields user users content b' type timestamp)) := by
  refine ⟨fun x hx => h.broadcast x ?_, fun x hx => ?_, fun u x hx => h.entry u x ?_⟩
  · exact (Store.mem_add.mp hx).resolve_left fun hnew => nomatch hnew.1
  · rcases Store.mem_add.mp hx with ⟨hpath, rfl⟩ | hx
    · exact ⟨users, rfl, hsel (Path.broadcastMessage.inj hpath).symm⟩
    · exact h.message x hx
  · exact (Store.mem_add.mp hx).resolve_left fun hnew => nomatch hnew.1

theorem lists_entry {u : String} (hsel : b' = b → (users.map bare).Perm sel) (h : Lists b sel s) :
    Lists b sel (s.add (.chats u) pos (broadcastEntryFields users b' user timestamp)) := by
  refine ⟨fun x hx => h.broadcast x ?_, fun x hx => h.message x ?_, fun u' x hx hid => ?_⟩
  · exact (Store.mem_add.mp hx).resolve_left fun hnew => nomatch hnew.1
  · exact (Store.mem_add.mp hx).resolve_left fun hnew => nomatch hnew.1
  · rcases Store.mem_add.mp hx with ⟨-, rfl⟩ | hx
    · have hb : some (Value.str b') = some (.str b) := hid
      exact ⟨users, rfl, hsel (Value.str.inj (Option.some.inj hb))⟩
    · exact h.entry u' x hx hid

end Documents

/-! ## What the calls have to do -/

/-- What a call of the controller has to do. -/
inductive Part : Type where
  /-- to look the chat with a contact up -/
  | lookup : ℕ → Part
  /-- to wait, and then to write the broadcast with the id to the contacts -/
  | delay : String → List ℕ → Part
  /-- to write it -/
  | write : String → List ℕ → Part
  deriving DecidableEq

/-- The creations among the parts. -/
def Part.creations : Part → ℕ
  | lookup _ => 0
  | delay _ _ | write _ _ => 1

/-- The creations under way. -/
abbrev creations (r : Multiset Part) : ℕ := (r.map Part.creations).sum

@[simp] theorem creations_add (r r' : Multiset Part) :
    creations (r + r') = creations r + creations r' := by
  simp [creations]

@[simp] theorem creations_singleton (x : Part) : creations {x} = x.creations := by
  simp [creations]

@[simp] theorem creations_cons (x : Part) (r : Multiset Part) :
    creations (x ::ₘ r) = x.creations + creations r := by
  simp [creations]

/-- A creation that is under way is counted. -/
theorem creations_pos {r : Multiset Part} {x : Part} (hx : x ∈ r) (h : x.creations = 1) :
    0 < creations r := by
  obtain ⟨r, rfl⟩ := Multiset.exists_cons_of_mem hx
  rw [creations_cons, h]
  omega

/-- A broadcast to the contacts is being created. -/
def Creates (r : Multiset Part) (b : String) (cs : List ℕ) : Prop :=
  .delay b cs ∈ r ∨ .write b cs ∈ r

/-- Where the controller has got to when there is still `r` to be done. -/
structure Under (b : String) (sel : List SelectedContact) (s : CreateGroupController)
    (store : Store Path Key Value) (r : Multiset Part) : Prop where
  isGroup : s.isGroup = false
  nodup : s.selectedContact.Nodup
  lt : ∀ e ∈ s.selectedContact, e < s.contacts.size
  nodup' : s.newContact.Nodup
  idle : s.isLoading = false → s.newContact = []
  /-- one broadcast is created at a time -/
  one : creations r = if s.isLoading then 1 else 0
  /-- the lookups come back before anything is written -/
  lookups : ∀ e, .lookup e ∈ r → ∃ b' cs, .delay b' cs ∈ r
  /-- what the lookups find is for the broadcast that is being created -/
  meant : ∀ e, e ∈ s.newContact ∨ .lookup e ∈ r → ∀ b' cs, Creates r b' cs → e ∈ cs
  waiting : ∀ b' cs, .delay b' cs ∈ r → ∀ e ∈ cs, e ∈ s.newContact ∨ .lookup e ∈ r
  whole : ∀ b' cs, .write b' cs ∈ r → ∀ e ∈ cs, e ∈ s.newContact
  known : ∀ b' cs, Creates r b' cs → cs.Nodup ∧ ∀ e ∈ cs, e < s.contacts.size
  chosen : ∀ cs, Creates r b cs → (s.entries cs).map bare = sel
  lists : Lists b sel store

/-- The runs looked at: no operation fails, and a creation goes on when no lookup is under way. -/
def duties (g : ℕ) (b : String) (sel : List SelectedContact) :
    Duties World Scope (Multiset Part) where
  admits t := t.fails = false
  inv w := Under b sel (w.createCtrl.get g) w.store
  tag t r := ∀ e, .lookup e ∈ r → Lookup g t
  promise t f := Waiting g t → ∀ e, .lookup e ∉ f

section Under

variable {b b' : String} {sel : List SelectedContact} {s : CreateGroupController}
  {store store' : Store Path Key Value} {r r' : Multiset Part} {e : ℕ} {x : Option String}
  {cs : List ℕ}

theorem bare_setChatId (cs : List ℕ) :
    ((s.setChatId e x).entries cs).map bare = (s.entries cs).map bare := by
  have hbare : ∀ i, bare ((s.setChatId e x).contacts.get i) = bare (s.contacts.get i) := by
    intro i
    rw [ChatLookup.get_setChatId]
    split
    · rename_i h
      rw [h]
      rfl
    · rfl
  simp only [CreateGroupController.entries, List.map_map]
  exact List.map_congr_left fun i _ => hbare i

/-- A broadcast that is being created is under way. -/
theorem Creates.pos (h : Creates r b cs) : 0 < creations r :=
  h.elim (fun h => creations_pos h rfl) fun h => creations_pos h rfl

theorem Creates.mono (h : Creates r b cs) (hr : r ≤ r') : Creates r' b cs :=
  h.imp (Multiset.mem_of_le hr) (Multiset.mem_of_le hr)

/-- While nothing is created, no broadcast is. -/
theorem Under.none (h : Under b sel s store r) (hs : s.isLoading = false) (b' : String)
    (cs : List ℕ) : ¬ Creates r b' cs := by
  intro hcreates
  have hpos := hcreates.pos
  rw [h.one, if_neg (by simp [hs])] at hpos
  exact absurd hpos (Nat.lt_irrefl 0)

/-- A lookup has come back: its contact is added to those collected, with the `chatId` that was
found; the selection and the broadcasts that wait are as they were. -/
theorem under_answer (h : Under b sel s store ({.lookup e} + r)) :
    Under b sel (s.setChatId e x) store (0 + r) := by
  have hle : 0 + r ≤ ({.lookup e} : Multiset Part) + r := by
    rw [zero_add]
    exact Multiset.le_add_left ..
  have hmem : ∀ {y : Part}, y ∈ 0 + r → y ∈ ({.lookup e} : Multiset Part) + r :=
    fun hy => Multiset.mem_of_le hle hy
  have hone : creations (0 + r) = creations ({.lookup e} + r) := by
    simp [Part.creations]
  have hmeant := fun e' he' b' cs hb => h.meant e' he' b' cs (Creates.mono hb hle)
  refine ⟨h.isGroup, h.nodup, fun e' he' => ?_, ChatLookup.nodup_newContact h.nodup',
    fun hidle => ?_, hone.trans h.one, fun e' he' => ?_, fun e' he' b'' cs hb => ?_,
    fun b'' cs hb e' he' => ?_, fun b'' cs hb e' he' => ?_, fun b'' cs hb => ?_,
    fun cs hb => ?_, h.lists⟩
  · exact h.lt e' he'
  · -- a lookup that is under way belongs to a creation
    obtain ⟨b', cs, hdelay⟩ := h.lookups e (by simp)
    exact absurd (Or.inl hdelay) (h.none hidle b' cs)
  · obtain ⟨b'', cs, hb''⟩ := h.lookups e' (hmem he')
    exact ⟨b'', cs, by simpa using hb''⟩
  · rcases he' with he' | he'
    · rcases ChatLookup.mem_newContact.mp he' with rfl | he'
      · exact hmeant e' (Or.inr (by simp)) b'' cs hb
      · exact hmeant e' (Or.inl he') b'' cs hb
    · exact hmeant e' (Or.inr (hmem he')) b'' cs hb
  · by_cases heq : e' = e
    · exact Or.inl (ChatLookup.mem_newContact.mpr (Or.inl heq))
    · rcases h.waiting b'' cs (hmem hb) e' he' with hnew | hdue
      · exact Or.inl (ChatLookup.mem_newContact.mpr (Or.inr hnew))
      · exact Or.inr (by simpa [heq] using hdue)
  · exact ChatLookup.mem_newContact.mpr (Or.inr (h.whole b'' cs (hmem hb) e' he'))
  · exact h.known b'' cs (hb.mono hle)
  · rw [bare_setChatId]
    exact h.chosen cs (hb.mono hle)

/-- The time a creation waits is over, with no lookup pending: the contacts collected by then are
exactly those selected, each once. -/
theorem under_write (h : Under b sel s store ({.delay b' cs} + r)) (hr : ∀ e, .lookup e ∉ r) :
    Under b sel s store ({.write b' cs} + r) := by
  have hone : creations ({.write b' cs} + r) = creations ({.delay b' cs} + r) := by
    simp [Part.creations]
  have hback : ∀ {b'' cs'}, Creates ({.write b' cs} + r) b'' cs' →
      Creates ({.delay b' cs} + r) b'' cs' := by
    intro b'' cs' hb
    simp only [Creates, Multiset.mem_add, Multiset.mem_singleton, reduceCtorEq, false_or,
      Part.delay.injEq, Part.write.injEq] at hb ⊢
    rcases hb with hb | hb | hb
    · exact Or.inl (Or.inr hb)
    · exact Or.inl (Or.inl hb)
    · exact Or.inr hb
  have hnew : ∀ b'' cs', .delay b'' cs' ∈ ({.delay b' cs} : Multiset Part) + r →
      ∀ e ∈ cs', e ∈ s.newContact := fun b'' cs' hb e he =>
    (h.waiting b'' cs' hb e he).resolve_right fun hdue => hr e (by simpa using hdue)
  refine ⟨h.isGroup, h.nodup, h.lt, h.nodup', h.idle, hone.trans h.one,
    fun e he => absurd (by simpa using he) (hr e), fun e he b'' cs' hb => ?_,
    fun b'' cs' hb e he => ?_, fun b'' cs' hb e he => ?_,
    fun b'' cs' hb => h.known b'' cs' (hback hb),
    fun cs' hb => h.chosen cs' (hback hb), h.lists⟩
  · have hin : e ∈ s.newContact := he.resolve_right fun he => hr e (by simpa using he)
    exact h.meant e (Or.inl hin) b'' cs' (hback hb)
  · exact Or.inl (hnew b'' cs' (by simp at hb ⊢; exact Or.inr hb) e he)
  · rcases Multiset.mem_add.mp hb with hb | hb
    · obtain ⟨-, rfl⟩ := Part.write.inj (Multiset.mem_singleton.mp hb)
      exact hnew b' cs' (by simp) e he
    · exact h.whole b'' cs' (Multiset.mem_add.mpr (Or.inr hb)) e he

/-- The contacts that are written are those selected. -/
theorem Under.perm (h : Under b sel s store ({.write b' cs} + r)) (hb : b' = b) :
    ((s.entries s.newContact).map bare).Perm sel := by
  have hcreates : Creates ({.write b' cs} + r) b' cs := Or.inr (by simp)
  have hperm : s.newContact.Perm cs :=
    (List.perm_ext_iff_of_nodup h.nodup' (h.known b' cs hcreates).1).mpr fun e =>
      ⟨fun he => h.meant e (Or.inl he) b' cs hcreates, h.whole b' cs (by simp) e⟩
  rw [← h.chosen cs (hb ▸ hcreates)]
  exact (hperm.map _).map _

/-- A document has been written. -/
theorem Under.written (h : Under b sel s store r) (hlists : Lists b sel store') :
    Under b sel s store' r :=
  { h with lists := hlists }

/-- Nothing is under way on a screen on which nothing is created. -/
theorem under_idle {s : CreateGroupController} (hgroup : s.isGroup = false)
    (hloading : s.isLoading = false) (hnew : s.newContact = []) (hnodup : s.selectedContact.Nodup)
    (hlt : ∀ e ∈ s.selectedContact, e < s.contacts.size) (hone : creations r = 0)
    (hlookups : ∀ e, .lookup e ∉ r) (hlists : Lists b sel store) : Under b sel s store r := by
  have hnone : ∀ b' cs, ¬ Creates r b' cs := fun b' cs hb =>
    absurd hb.pos (hone ▸ Nat.lt_irrefl 0)
  refine ⟨hgroup, hnodup, hlt, hnew ▸ List.nodup_nil, fun _ => hnew, ?_,
    fun e he => absurd he (hlookups e), fun e _ b' cs hb => absurd hb (hnone b' cs),
    fun b' cs hb => absurd (Or.inl hb) (hnone b' cs),
    fun b' cs hb => absurd (Or.inr hb) (hnone b' cs), fun b' cs hb => absurd hb (hnone b' cs),
    fun cs hb => absurd hb (hnone b cs), hlists⟩
  rw [hone, if_neg (by simp [hloading])]

/-- The broadcast is created. -/
theorem under_done (h : Under b sel s store ({.write b' cs} + r)) :
    Under b sel { s with selectedContact := [], newContact := [], isLoading := false } store r := by
  have hr : creations r = 0 := by
    have hone := h.one
    rw [creations_add, creations_singleton, Part.creations] at hone
    split at hone <;> omega
  refine under_idle h.isGroup rfl rfl List.nodup_nil (fun e he => absurd he List.not_mem_nil) hr
    (fun e he => ?_) h.lists
  obtain ⟨b'', cs', hb⟩ := h.lookups e (Multiset.mem_add.mpr (Or.inr he))
  have hb' : .delay b'' cs' ∈ r := by simpa using hb
  exact absurd (creations_pos hb' rfl) (hr ▸ Nat.lt_irrefl 0)

/-- What a tap leaves as it is. -/
theorem tap_eq (s : CreateGroupController) (value : UserData) :
    ∃ selected contacts,
      s.tap value = { s with selectedContact := selected, contacts := contacts } ∧
      (s.selectedContact.Nodup → (∀ e ∈ s.selectedContact, e < s.contacts.size) →
        selected.Nodup ∧ ∀ e ∈ selected, e < contacts.size) ∧
      s.contacts.size ≤ contacts.size ∧
      ∀ e, e < s.contacts.size → contacts.get e = s.contacts.get e := by
  unfold CreateGroupController.tap
  split
  · refine ⟨_, s.contacts, rfl, fun hnodup hlt => ?_, le_refl _, fun _ _ => rfl⟩
    exact ⟨hnodup.filter _, fun e he => hlt e (List.mem_of_mem_filter he)⟩
  · refine ⟨_, _, rfl, fun hnodup hlt => ⟨?_, fun e he => ?_⟩, ?_, fun e he => ?_⟩
    · refine List.nodup_append.mpr ⟨hnodup, List.nodup_singleton _, fun a ha c hc => ?_⟩
      obtain rfl := List.mem_singleton.mp hc
      exact Nat.ne_of_lt (hlt a ha)
    · rcases List.mem_append.mp he with he | he
      · exact Nat.lt_succ_of_lt (hlt e he)
      · obtain rfl := List.mem_singleton.mp he
        exact Nat.lt_succ_self _
    · exact Nat.le_succ _
    · rw [Heap.get_alloc, if_neg (Nat.ne_of_lt he)]

/-- A contact is tapped. -/
theorem under_tap (value : UserData) (h : Under b sel s store r) :
    Under b sel (s.tap value) store r := by
  obtain ⟨selected, contacts, heq, hselected, hsize, hget⟩ := tap_eq s value
  obtain ⟨hnodup, hlt⟩ := hselected h.nodup h.lt
  rw [heq]
  refine ⟨h.isGroup, hnodup, hlt, h.nodup', h.idle, h.one, h.lookups, h.meant, h.waiting, h.whole,
    fun b' cs hb => ?_, fun cs hb => ?_, h.lists⟩
  · obtain ⟨hto, hlt'⟩ := h.known b' cs hb
    exact ⟨hto, fun e he => lt_of_lt_of_le (hlt' e he) hsize⟩
  · rw [← h.chosen cs hb]
    simp only [CreateGroupController.entries]
    rw [List.map_congr_left fun e he => hget e ((h.known b cs hb).2 e he)]

/-- What is to be done when a broadcast is created. -/
def started (cs : List ℕ) (b' : String) : Multiset Part :=
  (cs.map fun e => ({.lookup e} : Multiset Part)).sum + {.delay b' cs}

/-- A broadcast is to be created on an idle screen: its duties are one lookup for each contact
selected and the wait, and nothing of earlier broadcasts is touched. -/
theorem under_create (h : Under b sel s store r) (hs : s.isLoading = false)
    (hsel : b' = b → selection s = sel) :
    Under b sel { s with isLoading := true } store (started s.selectedContact b' + r) := by
  have hmem : ∀ {as : List ℕ} {y : Part},
      y ∈ (as.map fun e => ({.lookup e} : Multiset Part)).sum ↔ ∃ e ∈ as, y = .lookup e := by
    intro as y
    induction as with
    | nil => simp
    | cons a as ih => simp [ih]
  have hcount : ∀ as : List ℕ,
      creations ((as.map fun e => ({.lookup e} : Multiset Part)).sum) = 0 := by
    intro as
    induction as with
    | nil => rfl
    | cons a as ih => rw [List.map_cons, List.sum_cons, creations_add, ih]; rfl
  -- the screen is not loading, so no other creation is under way
  have hnone := h.none hs
  have hlookup : ∀ {e}, .lookup e ∈ started s.selectedContact b' + r → e ∈ s.selectedContact := by
    intro e he
    rcases Multiset.mem_add.mp he with he | he
    · rcases Multiset.mem_add.mp he with he | he
      · obtain ⟨e', he', heq⟩ := hmem.mp he
        exact Part.lookup.inj heq ▸ he'
      · exact nomatch Multiset.mem_singleton.mp he
    · obtain ⟨b'', cs, hb⟩ := h.lookups e he
      exact absurd (Or.inl hb) (hnone b'' cs)
  have hcreates : ∀ {b'' cs}, Creates (started s.selectedContact b' + r) b'' cs →
      b'' = b' ∧ cs = s.selectedContact := by
    intro b'' cs hb
    simp only [Creates, started, Multiset.mem_add, hmem, Multiset.mem_singleton, reduceCtorEq,
      and_false, exists_false, false_or, or_false, Part.delay.injEq] at hb
    rcases hb with (hb | hb) | hb
    · exact hb
    · exact absurd (Or.inl hb) (hnone b'' cs)
    · exact absurd (Or.inr hb) (hnone b'' cs)
  have hr := h.one
  rw [if_neg (by simp [hs])] at hr
  refine ⟨h.isGroup, h.nodup, h.lt, h.nodup', fun hfalse => absurd hfalse nofun, ?_,
    fun e _ => ⟨b', s.selectedContact, by simp [started]⟩, fun e he b'' cs hb => ?_,
    fun b'' cs hb e he => ?_, fun b'' cs hb => ?_, fun b'' cs hb => ?_, fun cs hb => ?_, h.lists⟩
  · rw [creations_add, hr, started, creations_add, hcount]
    rfl
  · obtain ⟨-, rfl⟩ := hcreates hb
    refine hlookup (he.resolve_left fun he => ?_)
    have hnil : s.newContact = [] := h.idle hs
    exact absurd (hnil ▸ he) List.not_mem_nil
  · obtain ⟨-, rfl⟩ := hcreates (Or.inl hb)
    have hin := hmem.mpr ⟨e, he, rfl⟩
    exact Or.inr (Multiset.mem_add.mpr (Or.inl (Multiset.mem_add.mpr (Or.inl hin))))
  · -- no broadcast is written yet
    simp only [started, Multiset.mem_add, hmem, Multiset.mem_singleton, reduceCtorEq, and_false,
      exists_false, false_or] at hb
    exact absurd (Or.inr hb) (hnone b'' cs)
  · obtain ⟨-, rfl⟩ := hcreates hb
    exact ⟨h.nodup, h.lt⟩
  · obtain ⟨rfl, rfl⟩ := hcreates hb
    exact hsel rfl

end Under

/-! ## The calls -/

section Calls

variable {g d : ℕ} {b b' : String} {sel : List SelectedContact} {w : World} {user : UserData}
  {cs : List ℕ}
  {R : World → Multiset Part → Prop}

/-- An operation of such a run does not fail. -/
theorem succeeds {t : Tick} (ht : (duties g b sel).admits t) {p : Prop} (h : t.fails = true) : p :=
  absurd (h.symm.trans ht) Bool.noConfusion

theorem plain_zero : (duties g b sel).Plain 0 := fun _ _ he => absurd he (Multiset.notMem_zero _)

theorem plain_delay : (duties g b sel).Plain {.delay b' cs} := fun _ _ he => by simp at he

theorem plain_write : (duties g b sel).Plain {.write b' cs} := fun _ _ he => by simp at he

/-- Only the controller changes. -/
theorem inv_modify {f : CreateGroupController → CreateGroupController} {r : Multiset Part}
    (h : Under b sel (f (w.createCtrl.get g)) w.store r) :
    (duties g b sel).inv { w with createCtrl := w.createCtrl.modify g f } r := by
  have hctrl : (w.createCtrl.modify g f).get g = f (w.createCtrl.get g) := by
    rw [Heap.get_modify, if_pos rfl]
  show Under b sel ((w.createCtrl.modify g f).get g) w.store r
  rwa [hctrl]

/-- The lookup of a contact. -/
theorem leaves_checkContact {u : String} {e : ℕ} (hR : R w {.lookup e}) :
    (checkContact g u e).task.Leaves (duties g b sel) w R := by
  refine ⟨{.lookup e}, hR, fun _ _ => ⟨u, e, .here⟩, fun w' f _ hi t ht => ?_⟩
  have hfails : t.fails = false := ht
  simp only [hfails, Bool.false_eq_true, if_false]
  have hafter : (duties g b sel).after f w' {.lookup e} := hi
  refine ⟨{.lookup e}, hafter, fun _ _ => ⟨u, e, .await (.act t w' ?_)⟩,
    fun w'' f' _ hi' t' _ => ?_⟩
  · simp only [hfails, Bool.false_eq_true, if_false]
    exact .here
  · have hanswer := under_answer (x := ChatLookup.found u ((w''.createCtrl.get g).contacts.get e).id
      (w'.store.query (.chats u) (Fields.isEqualTo .isOneToOne (.bool true)))) hi'
    rw [← ChatLookup.available_eq] at hanswer
    exact inv_modify hanswer

/-- The screen of the broadcast opens: no document is written. -/
theorem leaves_openCreated (hR : R w 0) :
    (openCreated d user b').task.Leaves (duties g b sel) w R := by
  refine Async.Leaves.task (Async.leaves_bind (Async.leaves_remote 0 plain_zero hR
    (fun t _ _ w' f hi => ⟨0, plain_zero, hi, fun w'' f' hi' => ?_⟩) fun t ht hf => succeeds ht hf))
  cases w'.store.query (.chats user.id) (Fields.isEqualTo .broadcastId (.str b')) with
  | nil => exact Async.leaves_throw hi'
  | cons doc docs =>
    simp only [openBroadcast]
    split
    · exact Async.leaves_modify hi'
    · exact Async.leaves_throw hi'

/-- The first message, whose recipients have been read. -/
theorem leaves_addBroadcastCreated {s : CreateGroupController}
    (hsel : b' = b → ((s.entries s.newContact).map bare).Perm sel) (hR : R w 0) :
    (addBroadcastCreated s user b').task.Leaves (duties g b sel) w R := by
  refine Async.Leaves.task (Async.leaves_bind (Async.leaves_sync fun t _ => ?_))
  exact Async.leaves_remote 0 plain_zero hR
    (fun t _ _ w' f hi => ⟨0, plain_zero, hi.written (lists_message hsel hi.lists),
      fun _ _ hi' => hi'⟩)
    fun t ht hf => succeeds ht hf

/-- `createBroadcastDocs` when the time it waits is over. -/
def writeBroadcast (g d : ℕ) (user : UserData) (broadcastId : String) : Call Unit := do
  let timestamp ← millisecondsSinceEpoch
  let s ← createGroupCtrl g
  set .broadcast broadcastId (broadcastFields (s.entries s.newContact) broadcastId user timestamp)
  let s ← createGroupCtrl g
  Async.spawn (addBroadcastCreated s user broadcastId)
  let timestamp ← millisecondsSinceEpoch
  let s ← createGroupCtrl g
  add (.chats user.id)
    (broadcastEntryFields (s.entries s.newContact) broadcastId user timestamp)
  modifyCreate g fun s => { s with selectedContact := [], newContact := [], isLoading := false }
  Async.spawn (openCreated d user broadcastId)

theorem createBroadcastDocs_eq :
    (createBroadcastDocs g d user b').task = .await (writeBroadcast g d user b').task := rfl

/-- The documents are written one after the other, all with the contacts collected; the first
message is left to a call of its own. -/
theorem leaves_writeBroadcast {f : Multiset Part}
    (hi : (duties g b sel).inv w ({.write b' cs} + f)) :
    (writeBroadcast g d user b').task.Leaves (duties g b sel) w ((duties g b sel).after f) := by
  have hafter : (duties g b sel).after f w {.write b' cs} := hi
  refine Async.Leaves.task (Async.leaves_bind (Async.leaves_sync fun t _ => ?_))
  refine Async.leaves_bind (Async.leaves_get ?_)
  refine Async.leaves_bind (Async.leaves_remote {.write b' cs} plain_write hafter
    (fun t' _ _ w' f' hi' => ⟨{.write b' cs}, plain_write, ?_, fun w'' f'' hi'' => ?_⟩)
    fun t ht hf => succeeds ht hf)
  · exact Under.written hi' (lists_broadcast hi.perm hi'.lists)
  -- the message, which is not awaited, and the owner's entry
  have hperm := Under.perm hi''
  refine Async.leaves_bind (Async.leaves_get (Async.leaves_bind (Async.leaves_spawn
    (leaves_addBroadcastCreated hperm ?_))))
  refine Async.leaves_bind (Async.leaves_sync fun t _ => ?_)
  refine Async.leaves_bind (Async.leaves_get ?_)
  refine Async.leaves_bind (Async.leaves_remote {.write b' cs} plain_write ?_
    (fun t' _ _ w₃ f₃ hi₃ => ⟨{.write b' cs}, plain_write, ?_, fun w₄ f₄ hi₄ => ?_⟩)
    fun t ht hf => succeeds ht hf)
  · simp only [Duties.after, zero_add]
    exact hi''
  · exact Under.written hi₃ (lists_entry hperm hi₃.lists)
  · refine Async.leaves_bind (Async.leaves_modify (Async.leaves_spawn (leaves_openCreated ?_)))
    simp only [Duties.after, zero_add, add_zero]
    exact inv_modify (under_done hi₄)

/-- A creation that waits. -/
theorem leaves_createBroadcastDocs (hR : R w {.delay b' cs}) :
    (createBroadcastDocs g d user b').task.Leaves (duties g b sel) w R := by
  rw [createBroadcastDocs_eq]
  refine ⟨{.delay b' cs}, hR, plain_delay _, fun w' f hpromise hi => ?_⟩
  exact leaves_writeBroadcast (under_write hi (hpromise ⟨d, user, b', rfl⟩))

/-- The lookups of the selected contacts. -/
theorem leaves_checkChatAvailable {f : Multiset Part}
    (hcs : (w.createCtrl.get g).selectedContact = cs)
    (hi : (duties g b sel).inv w (started cs b' + f)) :
    (checkChatAvailable g).Leaves (duties g b sel) w ((duties g b sel).after f) fun _ w' R' =>
      R' w' {.delay b' cs} := by
  rw [← hcs] at hi ⊢
  refine Async.leaves_bind (Async.leaves_get (Async.leaves_bind (Async.leaves_get ?_)))
  refine Async.leaves_forEach (fun e => {.lookup e}) (· = w) rfl
    (fun e _ w' hw' => leaves_checkContact ⟨hw', rfl⟩) fun w' hw' => ?_
  obtain rfl := hw'
  exact hi

end Calls

/-! ## Runs of the screen -/

section Runs

variable {g : ℕ} {b : String} {sel : List SelectedContact} {w : World} {ticks : ℕ → Tick}
  {l : Scope}
  {f : Multiset Part} {c c₀ : Config World Scope} {e : Event Action} {es : List (Event Action)}

/-- The creation of a broadcast up to the lookups. -/
theorem advances_create (hgroup : (w.createCtrl.get g).isGroup = false) :
    (addGroupBottomSheet g).Advances ticks l 0 w
      (checkChatAvailable g >>= fun _ => createBroadcastDocs g (w.createCtrl.get g).device
        (w.session (w.createCtrl.get g).device) (toString (ticks 3).now))
      (.broadcast (w.session (w.createCtrl.get g).device).id (toString (ticks 3).now)) 4
      { w with createCtrl := w.createCtrl.modify g fun s => { s with isLoading := true } } := by
  have hget : (addGroupBottomSheet g).Advances ticks l 0 w
      (if (w.createCtrl.get g).isGroup then pure () else createBroadcast g (w.createCtrl.get g))
      l 1 w := Async.advances_get
  rw [hgroup, if_neg Bool.false_ne_true] at hget
  exact hget.trans (Async.advances_get.trans (Async.advances_modify.trans
    (Async.advances_sync.trans Async.advances_enter)))

/-- A creation that starts bears the duties of its broadcast: its first segment only marks the
screen as loading and starts the lookups. -/
theorem create_bears (ht : ∀ n, (ticks n).fails = false) (hi : (duties g b sel).inv w f)
    (hidle : (w.createCtrl.get g).isLoading = false)
    (hsel : toString (ticks 3).now = b → selection (w.createCtrl.get g) = sel) :
    ((addGroupBottomSheet g).task.run ticks l 0 w).Bears (duties g b sel) f := by
  obtain ⟨steps, heq⟩ : (addGroupBottomSheet g).Advances ticks l 0 w _ _ _ _ :=
    advances_create (Under.isGroup hi)
  have hcreate : (duties g b sel).inv
      { w with createCtrl := w.createCtrl.modify g fun s => { s with isLoading := true } }
      (started (w.createCtrl.get g).selectedContact (toString (ticks 3).now) + f) :=
    inv_modify (under_create hi hidle hsel)
  have hcs : ((w.createCtrl.modify g fun s => { s with isLoading := true }).get g).selectedContact =
      (w.createCtrl.get g).selectedContact := by
    rw [Heap.get_modify, if_pos rfl]
  have hleaves : (checkChatAvailable g >>= fun _ => createBroadcastDocs g
      (w.createCtrl.get g).device (w.session (w.createCtrl.get g).device)
      (toString (ticks 3).now)).task.Leaves (duties g b sel) _ ((duties g b sel).after f) :=
    leaves_checkChatAvailable hcs hcreate _ fun _ _ _ hq => leaves_createBroadcastDocs hq
  rw [heq]
  exact hleaves.run ht

/-- A tap. -/
theorem tap_bears {value : UserData} (ht : ∀ n, (ticks n).fails = false)
    (hi : (duties g b sel).inv w f) :
    ((selectUserTap g value).task.run ticks l 0 w).Bears (duties g b sel) f := by
  refine Task.Leaves.run ht (Async.Leaves.task (Async.leaves_modify ?_))
  rw [Duties.after, zero_add]
  exact inv_modify (under_tap value hi)

/-- Without a suspended lookup, nothing is left to be looked up. -/
theorem lookup_not_mem {ths : List (Thread World Scope)} {rs : List (Multiset Part)}
    (h : Shares (duties g b sel) ths rs) (hths : ∀ th ∈ ths, ¬ Lookup g th.task) (e : ℕ) :
    .lookup e ∉ rs.sum := by
  induction h with
  | nil => exact Multiset.notMem_zero _
  | @cons th r ths rs hth _ ih =>
    obtain ⟨hlookup, hrest⟩ := List.forall_mem_cons.mp hths
    rw [List.sum_cons, Multiset.mem_add, not_or]
    exact ⟨fun he => hlookup (hth.1 e he), ih hrest⟩

/-- Every event of such a run keeps to the duties. -/
theorem charges (ht : InTime g c e) (hc : Chooses g b sel c e) :
    (creating g).Charges (duties g b sel) c e where
  admits := ht.succeeds
  call := by
    rintro (value | _) ticks rfl f hi
    · exact tap_bears ht.succeeds hi
    · exact create_bears ht.succeeds hi (ht.started ticks rfl) (hc ticks rfl)
  promise i ticks th rs he hth hrs hwaiting :=
    lookup_not_mem hrs (ht.resumed i ticks th he hth hwaiting)

/-! ## What a creation writes -/

/-- The documents of the broadcast `b` of `u` have been written. -/
structure Written (b u : String) (s : Store Path Key Value) : Prop where
  broadcast : ∃ x ∈ s.docs .broadcast, x.id = .named b
  message : ∃ x, x ∈ s.docs (.broadcastMessage b)
  entry : ∃ x ∈ s.docs (.chats u), x.data .broadcastId = some (.str b)

/-- What the calls of the screen leave as it is: nothing is deleted. -/
structure Stays (g : ℕ) (w w' : World) : Prop where
  session : w'.session = w.session
  screen : (w.createCtrl.get g).Later (w'.createCtrl.get g)
  /-- a broadcast may be written again, under its id -/
  broadcasts : ∀ x ∈ w.store.docs .broadcast, ∃ x' ∈ w'.store.docs .broadcast, x'.id = x.id
  docs : ∀ p ≠ .broadcast, w.store.docs p ⊆ w'.store.docs p

theorem Stays.refl (g : ℕ) (w : World) : Stays g w w :=
  ⟨rfl, .refl _, fun x hx => ⟨x, hx, rfl⟩, fun _ _ _ hx => hx⟩

theorem Stays.trans {g : ℕ} {w w' w'' : World} (h : Stays g w w') (h' : Stays g w' w'') :
    Stays g w w'' := by
  refine ⟨h'.session.trans h.session, h.screen.trans h'.screen, fun x hx => ?_,
    fun p hp x hx => h'.docs p hp (h.docs p hp hx)⟩
  obtain ⟨x', hx', hid⟩ := h.broadcasts x hx
  obtain ⟨x'', hx'', hid'⟩ := h'.broadcasts x' hx'
  exact ⟨x'', hx'', hid'.trans hid⟩

/-- The world evolves with everything that stays. -/
def adding (g : ℕ) : Evolving World where
  le := Stays g
  inv _ := True
  le_refl := .refl g
  le_trans := .trans
  step_refl _ := trivial

section Written

variable {d : ℕ} {u : String} {user : UserData}

theorem permits_screen {f : CreateGroupController → CreateGroupController}
    (hf : ∀ s, CreateGroupController.Later s (f s)) :
    (adding g).Permits w { w with createCtrl := w.createCtrl.modify g f } := by
  refine ⟨{ Stays.refl g w with screen := ?_ }, trivial, trivial⟩
  rw [Heap.get_modify, if_pos rfl]
  exact hf _

theorem completes_add {p : Path} {fields : Data} (hp : p ≠ .broadcast) :
    Completes (adding g) (add p fields) w fun _ w' => ∃ x ∈ w'.store.docs p, x.data = fields := by
  refine completes_remote fun w₁ _ _ t => ⟨⟨⟨rfl, .refl _, ?_, ?_⟩, trivial, trivial⟩, ?_⟩
  · exact fun x hx => ⟨x, Store.mem_add.mpr (Or.inr hx), rfl⟩
  · exact fun _ _ x hx => Store.mem_add.mpr (Or.inr hx)
  · exact fun w₂ hw₂ _ => ⟨_, hw₂.docs p hp (Store.mem_add.mpr (Or.inl ⟨rfl, rfl⟩)), rfl⟩

theorem completes_set {fields : Data} :
    Completes (adding g) (set .broadcast b fields) w fun _ w' =>
      ∃ x ∈ w'.store.docs .broadcast, x.id = .named b := by
  refine completes_remote fun w₁ _ _ t => ⟨⟨⟨rfl, .refl _, ?_, ?_⟩, trivial, trivial⟩, ?_⟩
  · intro x hx
    by_cases hid : x.id = .named b
    · exact ⟨_, Store.mem_set.mpr (Or.inl ⟨rfl, rfl⟩), hid.symm⟩
    · exact ⟨x, Store.mem_set.mpr (Or.inr ⟨hx, fun h => hid h.2⟩), rfl⟩
  · exact fun p hp x hx => Store.mem_set.mpr (Or.inr ⟨hx, fun h => hp h.1⟩)
  · exact fun w₂ hw₂ _ => hw₂.broadcasts _ (Store.mem_set.mpr (Or.inl ⟨rfl, rfl⟩))

theorem completes_getDocs {p : Path} {q : Data → Bool} :
    Completes (adding g) (getDocs p q) w fun _ _ => True :=
  completes_remote fun _ _ _ _ => ⟨.refl trivial, fun _ _ _ => trivial⟩

theorem runs_checkContact {e : ℕ} : Runs (adding g) (checkContact g u e) w :=
  keeps_bind completes_getDocs.keeps fun _ _ _ _ _ =>
    runs_modify (permits_screen fun s => s.later_available _ _ _)

theorem completes_checkChatAvailable :
    Completes (adding g) (checkChatAvailable g) w fun _ _ => True := by
  refine completes_bind (completes_get (Q := fun _ _ => True) trivial trivial) fun _ _ _ _ _ => ?_
  refine completes_bind (completes_get (Q := fun _ _ => True) trivial trivial) fun _ _ _ _ _ => ?_
  exact completes_forEach trivial fun _ _ _ _ _ => runs_checkContact

theorem completes_addBroadcastCreated {s : CreateGroupController} :
    Completes (adding g) (addBroadcastCreated s user b) w fun _ w' =>
      ∃ x, x ∈ w'.store.docs (.broadcastMessage b) := by
  refine completes_bind (completes_sync (Q := fun _ _ => True) fun _ => ⟨.refl trivial, trivial⟩) ?_
  refine fun _ _ _ _ _ => (completes_add Path.noConfusion).mono ?_
  rintro _ w' - - ⟨x, hx, -⟩
  exact ⟨x, hx⟩

theorem runs_openCreated : Runs (adding g) (openCreated d user b) w := by
  refine keeps_bind completes_getDocs.keeps fun docs w₁ _ _ _ => ?_
  cases docs with
  | nil => exact keeps_throw
  | cons doc docs =>
    simp only [openBroadcast]
    split
    · exact runs_modify ⟨{ Stays.refl g _ with }, trivial, trivial⟩
    · exact keeps_throw

/-- The document of the broadcast and the entry of its owner are written. -/
theorem completes_createBroadcastDocs :
    Completes (adding g) (createBroadcastDocs g d user b) w fun _ w' =>
      (∃ x ∈ w'.store.docs .broadcast, x.id = .named b) ∧
        ∃ x ∈ w'.store.docs (.chats user.id), x.data .broadcastId = some (.str b) := by
  have hstamp : ∀ w, Completes (adding g) millisecondsSinceEpoch w fun _ _ => True := fun _ =>
    completes_sync fun _ => ⟨.refl trivial, trivial⟩
  have hscreen : ∀ w, Completes (adding g) (createGroupCtrl g) w fun _ _ => True := fun _ =>
    completes_get trivial trivial
  refine completes_bind (completes_pause) fun _ w₁ _ _ _ => ?_
  refine completes_bind (hstamp w₁) fun _ w₂ _ _ _ => ?_
  refine completes_bind (hscreen w₂) fun _ w₃ _ _ _ => ?_
  refine completes_bind completes_set fun _ w₄ _ _ hset => ?_
  refine completes_bind (hscreen w₄) fun _ w₅ hw₅ _ _ => ?_
  refine completes_bind (completes_spawn (Q := fun _ _ => True)
    completes_addBroadcastCreated.runs fun _ _ _ => trivial) fun _ w₆ hw₆ _ _ => ?_
  refine completes_bind (hstamp w₆) fun _ w₇ hw₇ _ _ => ?_
  refine completes_bind (hscreen w₇) fun _ w₈ hw₈ _ _ => ?_
  refine completes_bind (completes_add Path.noConfusion) fun _ w₉ hw₉ _ hentry => ?_
  refine completes_bind (completes_modify (Q := fun _ _ => True)
    (permits_screen fun s => ⟨rfl, rfl, .refl SelectedContact.Later.refl _⟩) trivial)
    fun _ w₁₀ hw₁₀ _ _ => completes_spawn runs_openCreated fun w₁₁ hw₁₁ _ => ⟨?_, ?_⟩
  · obtain ⟨x, hx, hid⟩ := hset
    have hw₄₈ : Stays g w₄ w₈ := ((hw₅.trans hw₆).trans hw₇).trans hw₈
    obtain ⟨x', hx', hid'⟩ := (hw₄₈.trans ((hw₉.trans hw₁₀).trans hw₁₁)).broadcasts x hx
    exact ⟨x', hx', hid'.trans hid⟩
  · obtain ⟨x, hx, hdata⟩ := hentry
    refine ⟨x, (hw₁₀.trans hw₁₁).docs _ Path.noConfusion hx, ?_⟩
    rw [hdata]
    rfl

/-- And the first message, which is not awaited. -/
theorem brings_message {g' : Goal ((adding g).protocol Scope)} (hg : ∀ l, g'.scope l)
    (hr : ∀ w', (∃ x, x ∈ w'.store.docs (.broadcastMessage b)) → g'.reached w') :
    Brings g' (createBroadcastDocs g d user b) w := by
  refine brings_bind hg (completes_pause) fun _ w₁ _ _ _ => ?_
  refine brings_bind hg (completes_sync (Q := fun _ _ => True)
    fun _ => ⟨.refl trivial, trivial⟩) fun _ w₂ _ _ _ => ?_
  refine brings_bind hg (completes_get (Q := fun _ _ => True) trivial trivial) fun _ w₃ _ _ _ => ?_
  refine brings_bind hg completes_set fun _ w₄ _ _ _ => ?_
  refine brings_bind hg (completes_get (Q := fun _ _ => True) trivial trivial) fun _ w₅ _ _ _ => ?_
  exact brings_spawn (brings_of_completes hg completes_addBroadcastCreated hr)

/-- The document of the broadcast and the entry of its owner are to be written. -/
def filed (g : ℕ) (b u : String) : Goal ((adding g).protocol Scope) :=
  (adding g).goal Scope (fun w => (∃ x ∈ w.store.docs .broadcast, x.id = .named b) ∧
    ∃ x ∈ w.store.docs (.chats u), x.data .broadcastId = some (.str b)) fun h hr => by
  obtain ⟨⟨x, hx, hid⟩, y, hy, hb⟩ := hr
  obtain ⟨x', hx', hid'⟩ := h.broadcasts x hx
  exact ⟨⟨x', hx', hid'.trans hid⟩, y, h.docs _ Path.noConfusion hy, hb⟩

/-- The first message of the broadcast is to be written. -/
def announced (g : ℕ) (b : String) : Goal ((adding g).protocol Scope) :=
  (adding g).goal Scope (fun w => ∃ x, x ∈ w.store.docs (.broadcastMessage b)) fun h hr => by
  obtain ⟨x, hx⟩ := hr
  exact ⟨x, h.docs _ Path.noConfusion hx⟩

/-- What is left of a creation when it comes to the lookups. -/
def lookUpAndWrite (g d : ℕ) (user : UserData) (broadcastId : String) : Call Unit := do
  checkChatAvailable g
  createBroadcastDocs g d user broadcastId

theorem runs_lookUpAndWrite : Runs (adding g) (lookUpAndWrite g d user b) w :=
  keeps_seq completes_checkChatAvailable.runs fun _ _ _ => completes_createBroadcastDocs.runs

theorem brings_filed : Brings (filed g b user.id) (lookUpAndWrite g d user b) w :=
  brings_bind (fun _ => trivial) completes_checkChatAvailable fun _ _ _ _ _ =>
    brings_of_completes (fun _ => trivial) completes_createBroadcastDocs fun _ h => h

theorem brings_announced : Brings (announced g b) (lookUpAndWrite g d user b) w :=
  brings_bind (fun _ => trivial) completes_checkChatAvailable fun _ _ _ _ _ =>
    brings_message (fun _ => trivial) fun _ h => h

/-- Every call on the screen only adds documents, so that what is there of a broadcast stays. -/
theorem runs_creating (a : Action) : Runs (adding g) ((creating g).body a) w := by
  cases a with
  | tap value => exact runs_modify (permits_screen fun s => s.later_tap value)
  | create =>
    refine keeps_bind (keeps_get (Q := fun _ _ => True) trivial trivial) fun s w₁ _ _ _ => ?_
    split
    · exact keeps_pure trivial trivial
    · refine keeps_bind (keeps_get (Q := fun _ _ => True) trivial trivial) fun _ w₂ _ _ _ => ?_
      refine keeps_seq (runs_modify (permits_screen fun s =>
        ⟨rfl, rfl, .refl SelectedContact.Later.refl _⟩)) fun w₃ _ _ => ?_
      refine keeps_bind (keeps_sync (Q := fun _ _ => True)
        fun _ => ⟨.refl trivial, trivial⟩) fun _ w₄ _ _ _ => keeps_enter runs_lookUpAndWrite

theorem provides_adding {c : Config World Scope} {e : Event Action} :
    (creating g).Provides ((adding g).protocol Scope) c e := by
  cases e with
  | call a ticks => exact (runs_creating a).safe _
  | resume i ticks => exact fun _ _ => trivial

/-- Every creation of a run has written its documents when nothing is under way any more. -/
theorem written_of_create {es : List (Event Action)} {c : Config World Scope} {ticks : ℕ → Tick}
    (hgroup : (w.createCtrl.get g).isGroup = false)
    (h : (creating g).Run (fun _ e => ∀ n, (e.ticks n).fails = false) ⟨w, [], []⟩ es c)
    (hset : c.Settled) (hcreate : .call .create ticks ∈ es) :
    Written (toString (ticks 3).now) (w.session (w.createCtrl.get g).device).id c.world.store := by
  obtain ⟨_, _, c₁, -, h₁, ht, h₂⟩ := h.of_mem hcreate
  have h₀ : (⟨w, [], []⟩ : Config World Scope).Kept ((adding g).protocol Scope) :=
    ⟨trivial, fun _ hth => absurd hth List.not_mem_nil⟩
  have hkept := h₁.safe h₀ fun _ _ _ _ => provides_adding
  have hle : Stays g w c₁.world := h₁.later h₀ fun _ _ _ _ => provides_adding
  -- the call has come to the lookups
  have hstarted : System.Started (creating g) (adding g) c₁ .create ticks
      (lookUpAndWrite g (c₁.world.createCtrl.get g).device
        (c₁.world.session (c₁.world.createCtrl.get g).device) (toString (ticks 3).now)) _ :=
    ⟨⟨_, _, advances_create (hle.screen.isGroup.trans hgroup)⟩,
      (permits_screen (f := fun s => { s with isLoading := true })
        fun s => ⟨rfl, rfl, .refl SelectedContact.Later.refl _⟩).le, trivial⟩
  rw [hle.session, hle.screen.device] at hstarted
  have hreached : ∀ g' : Goal ((adding g).protocol Scope), g'.OfWorld →
      (∀ w', Brings g' (lookUpAndWrite g (w.createCtrl.get g).device
        (w.session (w.createCtrl.get g).device) (toString (ticks 3).now)) w') →
      g'.reached c.world := by
    intro g' hworld hbrings
    have hpending := hstarted.pending hworld ht runs_lookUpAndWrite (hbrings _)
    refine hset.reached (h₂.pending hworld (System.apply_kept hkept provides_adding) hpending
      fun c e _ he => ⟨provides_adding, ?_⟩)
    cases e with
    | call a ticks => trivial
    | resume i ticks => exact fun _ _ _ => he
  obtain ⟨hbroadcast, hentry⟩ := hreached (filed g _ _) (fun _ _ _ => id) fun _ => brings_filed
  exact ⟨hbroadcast, hreached (announced g _) (fun _ _ _ => id) fun _ => brings_announced, hentry⟩

end Written

/-- **A broadcast lists those selected for it.** In a run in which the lookups have come back when
the time is over, the broadcast's document, its first message and the owner's entry list every
contact selected for it, and no other one, each of them once; and once nothing is under way any
more, all three are there. -/
theorem broadcast_whole (hs : Fresh (w.createCtrl.get g)) (hb : Lists b sel w.store)
    (h : (creating g).Run (fun c e => InTime g c e ∧ Chooses g b sel c e) ⟨w, [], []⟩ es c) :
    Lists b sel c.world.store ∧
      (c.Settled → ∀ ticks, .call .create ticks ∈ es → toString (ticks 3).now = b →
        Written b (w.session (w.createCtrl.get g).device).id c.world.store) := by
  have h₀ : (⟨w, [], []⟩ : Config World Scope).Bears (duties g b sel) :=
    ⟨[], .nil, under_idle hs.isGroup hs.isLoading hs.newContact hs.nodup hs.lt rfl
      (fun e => Multiset.notMem_zero _) hb⟩
  obtain ⟨rs, -, hi⟩ := h.bears h₀ fun c e he => charges he.1 he.2
  refine ⟨Under.lists hi, fun hset ticks hcreate hid => ?_⟩
  subst hid
  exact written_of_create hs.isGroup (h.mono fun _ _ he => he.1.succeeds) hset hcreate

end Runs

/-- Alice has selected Bob for a broadcast. -/
def bobSelected : World :=
  { World.initial fun _ => ⟨"alice", "Alice", "1", ""⟩ with
    createCtrl := Heap.empty.alloc
      { device := 0, isGroup := false, contacts := Heap.empty.alloc ChatLookup.bob,
        selectedContact := [0] } }

theorem fresh_bobSelected : Fresh (bobSelected.createCtrl.get 0) :=
  ⟨rfl, rfl, rfl, by decide, by decide⟩

theorem lists_bobSelected : Lists "0" [ChatLookup.bob] bobSelected.store :=
  ⟨nofun, nofun, nofun⟩

/-- The event loop resumes the call at an index, and nothing fails. -/
def go (i : ℕ) : Event Action := .resume i ChatLookup.noFailure

/-- A creation that waits goes on as long as nothing fails before its first write. -/
theorem Waiting.length {g : ℕ} {t : Task World Scope} (h : Waiting g t) :
    (t.run (fun _ => ⟨0, 0, true⟩) .idle 0 bobSelected).threads.length = 1 := by
  obtain ⟨d, user, b, h⟩ := h
  rw [← Task.await.inj h]
  rfl

/-- A call is resumed in time when it is the only one, or no creation that waits. -/
theorem inTime_go {c : Config World Scope} {i : ℕ}
    (h : (c.threads.eraseIdx i).length = 0 ∨ (c.threads[i]?).map (fun th =>
      (th.task.run (fun _ => ⟨0, 0, true⟩) .idle 0 bobSelected).threads.length) ≠ some 1) :
    InTime 0 c (go i) ∧ Chooses 0 "0" [ChatLookup.bob] c (go i) := by
  refine ⟨⟨fun _ => rfl, nofun, fun j ticks th he hth hwaiting => ?_⟩, nofun⟩
  obtain ⟨rfl, -⟩ := Event.resume.inj he
  rcases h with h | h
  · rw [List.length_eq_zero_iff.mp h]
    exact fun th' hth' => absurd hth' List.not_mem_nil
  · rw [hth] at h
    exact absurd (congrArg some hwaiting.length) h

/-- The lookup comes back before the documents are written. -/
def inTimeEvents : List (Event Action) :=
  .call .create ChatLookup.noFailure :: [0, 1, 0, 0, 0, 0, 0, 0, 0, 0, 0].map go

/-- The lookup does not come back in time. -/
def lateEvents : List (Event Action) :=
  .call .create ChatLookup.noFailure :: [1, 1].map go

/-- The broadcast to Bob, created from `bobSelected` by the events. -/
def createdBy (es : List (Event Action)) : Config World Scope :=
  (creating 0).exec ⟨bobSelected, [], []⟩ es

/-- With the lookup in time, the documents of the broadcast are there and list Bob. -/
theorem broadcast_whole_bob :
    Lists "0" [ChatLookup.bob] (createdBy inTimeEvents).world.store ∧
      Written "0" "alice" (createdBy inTimeEvents).world.store := by
  have hrun : (creating 0).Run (fun c e => InTime 0 c e ∧ Chooses 0 "0" [ChatLookup.bob] c e)
      ⟨bobSelected, [], []⟩ inTimeEvents (createdBy inTimeEvents) :=
    System.run_exec ⟨⟨⟨fun _ => rfl, fun _ _ => rfl, nofun⟩, fun _ _ _ => rfl⟩,
      inTime_go (by decide +kernel), inTime_go (by decide +kernel), inTime_go (by decide +kernel),
      inTime_go (by decide +kernel), inTime_go (by decide +kernel), inTime_go (by decide +kernel),
      inTime_go (by decide +kernel), inTime_go (by decide +kernel), inTime_go (by decide +kernel),
      inTime_go (by decide +kernel), inTime_go (by decide +kernel), trivial⟩
  obtain ⟨hlists, hwritten⟩ := broadcast_whole fresh_bobSelected lists_bobSelected hrun
  exact ⟨hlists, hwritten (by decide +kernel) ChatLookup.noFailure (List.mem_cons_self ..) rfl⟩

/-- **Bob is lost**, though no operation fails: the document of the broadcast lists nobody. -/
theorem broadcast_lost : ¬ ∀ {g : ℕ} {b : String} {sel : List SelectedContact} {w : World}
    {es : List (Event Action)} {c : Config World Scope}, Fresh (w.createCtrl.get g) →
    Lists b sel w.store →
    (creating g).Run (fun c e => (∀ n, (e.ticks n).fails = false) ∧
      (∀ ticks, e = .call .create ticks → (c.world.createCtrl.get g).isLoading = false) ∧
      Chooses g b sel c e) ⟨w, [], []⟩ es c → Lists b sel c.world.store := by
  intro hclaim
  have hrun : (creating 0).Run (fun c e => (∀ n, (e.ticks n).fails = false) ∧
      (∀ ticks, e = .call .create ticks → (c.world.createCtrl.get 0).isLoading = false) ∧
      Chooses 0 "0" [ChatLookup.bob] c e) ⟨bobSelected, [], []⟩ lateEvents
      (createdBy lateEvents) :=
    System.run_exec ⟨⟨fun _ => rfl, fun _ _ => rfl, fun _ _ _ => rfl⟩,
      ⟨fun _ => rfl, nofun, nofun⟩, ⟨fun _ => rfl, nofun, nofun⟩, trivial⟩
  have hlists := hclaim fresh_bobSelected lists_bobSelected hrun
  have hdocs : ((createdBy lateEvents).world.store.docs .broadcast).map
      (fun x => (x.id, x.data .users)) = [(.named "0", some (.contacts []))] := by decide +kernel
  obtain ⟨x, hx, heq⟩ := List.mem_map.mp (hdocs ▸ List.mem_singleton_self _)
  obtain ⟨hid, hnobody⟩ := Prod.mk.inj heq
  obtain ⟨users, husers, hperm⟩ := hlists.broadcast x hx hid
  obtain rfl : users = [] :=
    (Value.contacts.inj (Option.some.inj (hnobody.symm.trans husers))).symm
  exact absurd hperm.length_eq (by decide)

end FlutterTheme.Creation
