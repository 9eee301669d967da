import FlutterTheme.Messaging

/-!
# The registry of conversations

Every chat id is made from the clock for two users; `World.minted` records which.
All the handlers and readers of a conversation derive the two users from
different fields, and `Consistent` says that they all agree with the registry:

* `Entry` — the inbox entries, one constructor for each kind of entry;
* `IsMessage` — the messages of a conversation;
* `Recipient` — the contacts of a broadcast;
* `ChatController.Sound`, `BroadcastChatController.Sound`,
  `CreateGroupController.Sound` — the screens.

The statements only mention which registrations exist, so they stay true as the
registry grows (`Entry.mono` and its companions).
-/

namespace FlutterTheme

open EventLoop DocStore

/-- The chat ids made from the clock, each with the two users it was made for. -/
abbrev Registry : Type := List (String × Sym2 String)

variable {m m' : Registry} {u p c x : String} {d : Data}

/-! ## Inbox entries -/

/-- A contact of a broadcast of `owner`: somebody else, and a known conversation
with them is registered. -/
def Recipient (m : Registry) (owner : String) (e : SelectedContact) : Prop :=
  e.id ≠ owner ∧ ∀ c, e.chatId = some c → (c, s(owner, e.id)) ∈ m

theorem Recipient.mono {owner : String} {e : SelectedContact} (h : Recipient m owner e)
    (hm : m ⊆ m') : Recipient m' owner e :=
  ⟨h.1, fun c hc => hm (h.2 c hc)⟩

/-- The entries of `users/u/chats`: of a conversation with another user, of a
group, or of a broadcast that `u` owns. -/
inductive Entry (m : Registry) (u : String) (d : Data) : Prop where
  /-- the conversation `c` with `p` -/
  | oneToOne {sender receiver c p : String} {isBroadcast : Bool}
      (senderId : d .senderId = some (.str sender))
      (receiverId : d .receiverId = some (.str receiver))
      (chatId : d .chatId = some (.str c))
      (pair : s(sender, receiver) = s(u, p))
      (registered : (c, s(u, p)) ∈ m)
      (isOneToOne : d .isOneToOne = some (.bool true))
      (isGroup : d .isGroup = some (.bool false))
      (broadcast : d .isBroadcast = some (.bool isBroadcast))
      (received : isBroadcast = true → sender ≠ u)
      (groupId : d .groupId = none)
      (broadcastId : d .broadcastId = none)
  /-- a group -/
  | group
      (chatId : d .chatId = some (.str ""))
      (isOneToOne : d .isOneToOne = some (.bool false))
      (isGroup : d .isGroup = some (.bool true))
      (broadcastId : d .broadcastId = none)
  /-- a broadcast to `pData` -/
  | broadcast {pData : List SelectedContact}
      (senderId : d .senderId = some (.str u))
      (receiverId : d .receiverId = some (.contacts pData))
      (recipients : ∀ e ∈ pData, Recipient m u e)
      (chatId : d .chatId = none)
      (isOneToOne : d .isOneToOne = none)
      (isGroup : d .isGroup = some (.bool false))
      (broadcast : d .isBroadcast = some (.bool true))
      (groupId : d .groupId = none)

theorem Entry.mono (h : Entry m u d) (hm : m ⊆ m') : Entry m' u d := by
  cases h with
  | oneToOne h₁ h₂ h₃ h₄ registered h₆ h₇ h₈ h₉ h₁₀ h₁₁ =>
    exact .oneToOne h₁ h₂ h₃ h₄ (hm registered) h₆ h₇ h₈ h₉ h₁₀ h₁₁
  | group h₁ h₂ h₃ h₄ => exact .group h₁ h₂ h₃ h₄
  | broadcast h₁ h₂ recipients h₄ h₅ h₆ h₇ h₈ =>
    exact .broadcast h₁ h₂ (fun e he => (recipients e he).mono hm) h₄ h₅ h₆ h₇ h₈

/-- An entry with a chat id is of a conversation: of neither a group nor a
broadcast. -/
theorem Entry.ids_of_chatId (h : Entry m u d) (hd : d .chatId = some (.str c)) (hc : c ≠ "") :
    d .groupId = none ∧ d .broadcastId = none := by
  cases h with
  | oneToOne _ _ _ _ _ _ _ _ _ groupId broadcastId => exact ⟨groupId, broadcastId⟩
  | group chatId _ _ _ =>
    rw [chatId] at hd
    cases hd
    exact absurd rfl hc
  | broadcast _ _ _ chatId _ _ _ _ => rw [chatId] at hd; cases hd

/-- An entry found by a group id is of a group. -/
theorem Entry.of_groupId {g : Value} (h : Entry m u d) (hd : d .groupId = some g) :
    d .chatId = some (.str "") ∧ d .isOneToOne = some (.bool false) ∧
      d .isGroup = some (.bool true) ∧ d .broadcastId = none := by
  cases h with
  | oneToOne _ _ _ _ _ _ _ _ _ groupId _ => rw [groupId] at hd; cases hd
  | group h₁ h₂ h₃ h₄ => exact ⟨h₁, h₂, h₃, h₄⟩
  | broadcast _ _ _ _ _ _ _ groupId => rw [groupId] at hd; cases hd

/-- An entry found by a broadcast id is of a broadcast that `u` owns. -/
theorem Entry.of_broadcastId {b : Value} (h : Entry m u d) (hd : d .broadcastId = some b) :
    d .senderId = some (.str u) ∧ d .chatId = none ∧ d .isOneToOne = none ∧
      d .isGroup = some (.bool false) ∧ d .isBroadcast = some (.bool true) ∧
      d .groupId = none := by
  cases h with
  | oneToOne _ _ _ _ _ _ _ _ _ _ broadcastId => rw [broadcastId] at hd; cases hd
  | group _ _ _ broadcastId => rw [broadcastId] at hd; cases hd
  | broadcast h₁ _ _ h₄ h₅ h₆ h₇ h₈ => exact ⟨h₁, h₄, h₅, h₆, h₇, h₈⟩

/-- What `saveMessageInUserCollection` leaves in the inbox of `x` for the
conversation `c` of `u` and `p`. -/
theorem Entry.saved {stamp content : String} {isBlock isBroadcast : Bool}
    (hreg : (c, s(u, p)) ∈ m) (hne : u ≠ p) (hx : x = u ∨ x = p) (hb : isBroadcast = true → x = p)
    (hf : ∀ k v, inboxFields stamp x (.str p) c content u isBlock isBroadcast k = some v →
      d k = some v)
    (hg : d .groupId = none) (hbr : d .broadcastId = none) : Entry m x d := by
  have hpair : s(u, p) = s(x, if x = u then p else u) := by
    rcases hx with rfl | rfl
    · rw [if_pos rfl]
    · rw [if_neg (Ne.symm hne), Sym2.eq_swap]
  refine .oneToOne (hf _ _ rfl) (hf _ _ rfl) (hf _ _ rfl) hpair (hpair ▸ hreg) (hf _ _ rfl)
    (hf _ _ rfl) (hf .isBroadcast _ rfl) ?_ hg hbr
  intro hbr'
  rw [hb hbr']
  exact hne

/-- Marking an entry as seen leaves it what it is. -/
theorem Entry.seen (h : Entry m u d) : Entry m u (d.merge (.ofList [(.isSeen, .bool true)])) := by
  cases h with
  | oneToOne h₁ h₂ h₃ h₄ h₅ h₆ h₇ h₈ h₉ h₁₀ h₁₁ =>
    exact .oneToOne h₁ h₂ h₃ h₄ h₅ h₆ h₇ h₈ h₉ h₁₀ h₁₁
  | group h₁ h₂ h₃ h₄ => exact .group h₁ h₂ h₃ h₄
  | broadcast h₁ h₂ h₃ h₄ h₅ h₆ h₇ h₈ => exact .broadcast h₁ h₂ h₃ h₄ h₅ h₆ h₇ h₈

/-! ## Messages -/

/-- A message of the conversation `c`: between the two users it is registered for. -/
def IsMessage (m : Registry) (c : String) (d : Data) : Prop :=
  ∃ sender receiver, d .sender = some (.str sender) ∧ d .receiver = some (.str receiver) ∧
    (c, s(sender, receiver)) ∈ m

theorem IsMessage.mono (h : IsMessage m c d) (hm : m ⊆ m') : IsMessage m' c d := by
  obtain ⟨sender, receiver, hs, hr, hreg⟩ := h
  exact ⟨sender, receiver, hs, hr, hm hreg⟩

/-! ## Screens -/

/-- A chat screen: with somebody else, in a registered conversation or none yet. -/
structure ChatController.Sound (m : Registry) (s : ChatController) : Prop where
  /-- the peer is somebody else -/
  peer : s.userData.id ≠ s.pId
  /-- the conversation is registered for the two users -/
  chatId : s.chatId = "0" ∨ (s.chatId, s(s.userData.id, s.pId)) ∈ m
  /-- the loaded user document is the peer's -/
  pData : ∀ d, s.pData = some d → d .id = some (.str s.pId)
  /-- nothing writes `allData` -/
  allData : s.allData = none
  /-- nothing writes `isBlock` -/
  isBlock : s.isBlock = false

theorem ChatController.Sound.mono {s : ChatController} (h : s.Sound m) (hm : m ⊆ m') :
    s.Sound m' :=
  { h with chatId := h.chatId.imp_right (hm ·) }

/-- A broadcast screen. -/
structure BroadcastChatController.Sound (m : Registry) (s : BroadcastChatController) : Prop where
  /-- every entry of `pData` is a recipient -/
  recipients : ∀ e ∈ s.pData, Recipient m s.userData.id e
  /-- `newpData` refers to entries of `pData` -/
  reached : ∀ i ∈ s.newpData, i < s.pData.length

namespace BroadcastChatController

variable {s : BroadcastChatController}

theorem Sound.mono (h : s.Sound m) (hm : m ⊆ m') : s.Sound m' :=
  { h with recipients := fun e he => (h.recipients e he).mono hm }

/-- The list written after a message is a list of recipients. -/
theorem Sound.reached_recipients (h : s.Sound m) : ∀ e ∈ s.reached, Recipient m s.userData.id e := by
  intro e he
  obtain ⟨i, hi, rfl⟩ := List.mem_map.mp he
  exact h.recipients _ (recipient_mem (h.reached i hi))

theorem Sound.addReached {i : ℕ} (h : s.Sound m) (hi : i < s.pData.length) :
    BroadcastChatController.Sound m { s with newpData := s.newpData ++ [i] } := by
  refine ⟨h.recipients, ?_⟩
  intro j hj
  rcases List.mem_append.mp hj with hj | hj
  · exact h.reached j hj
  · obtain rfl := List.mem_singleton.mp hj
    exact hi

/-- A recipient may get a conversation that is registered for the owner and them. -/
theorem Sound.setChatId {i : ℕ} {chatId : String} (h : s.Sound m)
    (hreg : (chatId, s(s.userData.id, (s.recipient i).id)) ∈ m) : (s.setChatId i chatId).Sound m := by
  refine ⟨?_, ?_⟩
  · intro e he
    obtain ⟨j, hj, rfl⟩ := mem_pData he
    rw [length_setChatId] at hj
    have hold := h.recipients _ (recipient_mem hj)
    rw [recipient_setChatId hj]
    split
    · next hij =>
      subst hij
      refine ⟨hold.1, fun c hcid => ?_⟩
      cases hcid
      exact hreg
    · exact hold
  · intro j hj
    rw [length_setChatId]
    exact h.reached j hj

end BroadcastChatController

/-- A screen on which `owner` creates a broadcast. -/
structure CreateGroupController.Sound (m : Registry) (owner : String)
    (s : CreateGroupController) : Prop where
  /-- every contact is somebody else, and what was looked up is registered -/
  contacts : ∀ e < s.contacts.size, Recipient m owner (s.contacts.get e)
  /-- the selected contacts exist -/
  selected : ∀ e ∈ s.selectedContact, e < s.contacts.size
  /-- the contacts looked up exist -/
  lookedUp : ∀ e ∈ s.newContact, e < s.contacts.size

namespace CreateGroupController

variable {owner : String} {s : CreateGroupController}

theorem Sound.mono (h : s.Sound m owner) (hm : m ⊆ m') : s.Sound m' owner :=
  { h with contacts := fun e he => (h.contacts e he).mono hm }

/-- The lists written for a broadcast are lists of recipients. -/
theorem Sound.entries (h : s.Sound m owner) :
    ∀ e ∈ s.entries s.newContact, Recipient m owner e := by
  intro e he
  obtain ⟨i, hi, rfl⟩ := List.mem_map.mp he
  exact h.contacts i (h.lookedUp i hi)

/-- A tap adds a contact without a `chatId`, or takes a selected one out, so that nothing becomes
registered by it. -/
theorem Sound.tap {value : UserData} (h : s.Sound m owner) (hv : value.id ≠ owner) :
    (s.tap value).Sound m owner := by
  unfold CreateGroupController.tap
  split
  · exact { h with selected := fun e he => h.selected e (List.mem_of_mem_filter he) }
  · refine ⟨?_, ?_, ?_⟩
    · refine Heap.forall_alloc h.contacts ⟨hv, ?_⟩
      intro c hc
      cases hc
    · intro e he
      rcases List.mem_append.mp he with he | he
      · exact Nat.lt_succ_of_lt (h.selected e he)
      · obtain rfl := List.mem_singleton.mp he
        exact Nat.lt_succ_self _
    · exact fun e he => Nat.lt_succ_of_lt (h.lookedUp e he)

/-- A contact may take over an id that is registered with the owner; the list of those that have
been looked up grows by that contact at most. -/
theorem Sound.setChatId {e : ℕ} {chatId : Option String} (h : s.Sound m owner)
    (he : e < s.contacts.size)
    (hc : ∀ c, chatId = some c → (c, s(owner, (s.contacts.get e).id)) ∈ m) :
    (s.setChatId e chatId).Sound m owner := by
  refine ⟨?_, h.selected, ?_⟩
  · exact Heap.forall_modify h.contacts fun _ hr => ⟨hr.1, hc⟩
  · intro i hi
    simp only [CreateGroupController.setChatId] at hi
    split at hi
    · exact h.lookedUp i hi
    · rcases List.mem_append.mp hi with hi | hi
      · exact h.lookedUp i hi
      · obtain rfl := List.mem_singleton.mp hi
        exact he

/-- What is looked up in inbox entries of the owner is registered: an entry about the contact
carries an id of the owner and the contact. By induction on the documents. -/
theorem Sound.available {e : ℕ} {docs : List Document} (h : s.Sound m owner)
    (he : e < s.contacts.size)
    (hdocs : ∀ d ∈ docs, Entry m owner d.data ∧ d.data .isOneToOne = some (.bool true)) :
    (s.available owner e docs).Sound m owner := by
  have hfold : ∀ (docs : List Document) (s : CreateGroupController), s.Sound m owner →
      e < s.contacts.size →
      (∀ d ∈ docs, Entry m owner d.data ∧ d.data .isOneToOne = some (.bool true)) →
      (docs.foldl (CreateGroupController.compare owner e) s).Sound m owner := by
    intro docs
    induction docs with
    | nil => exact fun s h _ _ => h
    | cons d docs ih =>
      intro s h he hdocs
      refine ih _ ?_ he fun d' hd' => hdocs d' (List.mem_cons_of_mem _ hd')
      refine h.setChatId he ?_
      -- only an entry of a conversation between the two gives its `chatId`
      intro c hc
      obtain ⟨hentry, hone⟩ := hdocs d (List.mem_cons_self ..)
      cases hentry with
      | @oneToOne sender receiver c' p _ senderId receiverId chatId pair registered _ _ _ _ _ _ =>
        split at hc
        · next hbetween =>
          simp only [chatIdOf, chatId, Option.some.injEq] at hc
          subst hc
          rw [← pair] at registered
          simp only [isBetween, senderId, receiverId, Option.some.injEq, Value.str.injEq,
            Bool.or_eq_true, Bool.and_eq_true, decide_eq_true_eq] at hbetween
          rcases hbetween with ⟨rfl, hr⟩ | ⟨hs, rfl⟩
          · rw [← hr]; exact registered
          · rw [← hs, Sym2.eq_swap]; exact registered
        · cases hc
      | group _ isOneToOne _ _ => rw [isOneToOne] at hone; cases hone
      | broadcast _ _ _ _ isOneToOne _ _ _ => rw [isOneToOne] at hone; cases hone
  unfold CreateGroupController.available
  split
  · exact h.setChatId he fun c hc => by cases hc
  · exact hfold docs s h he hdocs

end CreateGroupController

/-! ## The invariant -/

/-- What a stored document says agrees with the registry. -/
def Stored (m : Registry) : Path → Document → Prop
  | .chats u, d => Entry m u d.data
  | .messages c, d => IsMessage m c d.data
  -- a user document is stored under the identifier of the user
  | .users, d => ∃ uid, d.id = .named uid ∧ d.data .id = some (.str uid)
  -- nothing is stored in the collection of an earlier version
  | .contacts, _ => False
  | _, _ => True

theorem Stored.mono {p : Path} {d : Document} (h : Stored m p d) (hm : m ⊆ m') :
    Stored m' p d := by
  cases p with
  | chats u => exact Entry.mono h hm
  | messages c => exact IsMessage.mono h hm
  | users => exact h
  | contacts => exact h
  | groups | groupMessage g | broadcast | broadcastMessage b => trivial

/-- Everything stored and every screen agrees with the registry. -/
structure Consistent (w : World) : Prop where
  /-- a registration is of two different users -/
  minted : ∀ e ∈ w.minted, e.1 ≠ "" ∧ ¬ e.2.IsDiag
  /-- the documents -/
  docs : ∀ p, ∀ d ∈ w.store.docs p, Stored w.minted p d
  /-- the chat screens -/
  chat : ∀ c < w.chatCtrl.size, (w.chatCtrl.get c).Sound w.minted
  /-- the broadcast screens -/
  broadcast : ∀ b < w.broadcastCtrl.size, (w.broadcastCtrl.get b).Sound w.minted
  /-- the screens that create a broadcast -/
  create : ∀ g < w.createCtrl.size, (w.createCtrl.get g).isGroup = false →
    (w.createCtrl.get g).Sound w.minted (w.session (w.createCtrl.get g).device).id

theorem Consistent.ne {w : World} (h : Consistent w) (hreg : (c, s(u, p)) ∈ w.minted) :
    c ≠ "" ∧ u ≠ p := by
  obtain ⟨hc, hd⟩ := h.minted _ hreg
  exact ⟨hc, fun he => hd (Sym2.mk_isDiag_iff.mpr he)⟩

/-- A new registration of two different users. -/
theorem Consistent.mint {w : World} (h : Consistent w) {e : String × Sym2 String}
    (he : e.1 ≠ "" ∧ ¬ e.2.IsDiag) : Consistent { w with minted := e :: w.minted } := by
  have hm : w.minted ⊆ e :: w.minted := List.subset_cons_self _ _
  refine ⟨?_, ?_, ?_, ?_, ?_⟩
  · exact List.forall_mem_cons.mpr ⟨he, h.minted⟩
  · exact fun p d hd => (h.docs p d hd).mono hm
  · exact fun c hc => (h.chat c hc).mono hm
  · exact fun b hb => (h.broadcast b hb).mono hm
  · exact fun g hg hgroup => (h.create g hg hgroup).mono hm

/-- A time on the clock, as a text, is not empty. -/
theorem toString_ne_empty (n : ℕ) : toString n ≠ "" := by
  intro h
  have hlen : (toString n).length = 0 := by rw [h]; rfl
  have hpos : 0 < (Nat.toDigits 10 n).length := Nat.length_toDigits_pos
  simp only [toString, Nat.repr, String.length_ofList] at hlen
  omega

theorem consistent_initial (session : ℕ → UserData) : Consistent (World.initial session) where
  minted _ hm := absurd hm List.not_mem_nil
  docs _ _ hd := absurd hd List.not_mem_nil
  chat _ hc := absurd hc (Nat.not_lt_zero _)
  broadcast _ hb := absurd hb (Nat.not_lt_zero _)
  create _ hg := absurd hg (Nat.not_lt_zero _)

end FlutterTheme
