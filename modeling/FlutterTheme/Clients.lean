import FlutterTheme.BroadcastSafe
import FlutterTheme.Evolving

/-!
# Any number of clients

Every action of `messaging` keeps the protocol, and so does every run: from an
empty store, whatever the clients do and in whatever order their reads and writes
take effect, the world stays `Consistent` and every single action of a handler is
one of the effects listed in `Effect` (`Clients.kept`, `Clients.steps`).
-/

namespace FlutterTheme

open EventLoop DocStore

variable {π : Terms} {l : Scope} {w w' : World}

/-! ## Notifications -/

section Notifications

variable {E : Evolving World} {n : Notification} {c : ℕ} {content : String}

/-- A protocol that lets notifications be sent. -/
def Notifying (E : Evolving World) : Prop :=
  ∀ ⦃w⦄ n, E.inv w → E.Permits w { w with notifications := n :: w.notifications }

theorem Notifying.sendNotification (hE : Notifying E) :
    EventLoop.Runs E (sendNotification n) w := by
  refine EventLoop.keeps_bind (Q := fun _ _ => True) (EventLoop.keeps_attempt ?_ fun _ _ _ => trivial)
    fun _ _ _ hi _ => EventLoop.keeps_pure hi trivial
  exact fun _ _ hi _ => ⟨hE n hi, fun _ _ _ => trivial⟩

/-- The notification for a user who may have no push token. -/
theorem Notifying.push (hE : Notifying E) {user : Data} (hi : E.inv w) :
    EventLoop.Runs E (if user .pushToken = some (.str "") then pure ()
      else Async.spawn (FlutterTheme.sendNotification n)) w := by
  split
  · exact EventLoop.keeps_pure hi trivial
  · exact EventLoop.runs_spawn hE.sendNotification

/-- The notification may throw, after everything else has been done. -/
theorem Notifying.notify (hE : Notifying E) (hi : E.inv w) :
    EventLoop.Runs E (FlutterTheme.notify c content) w := by
  refine EventLoop.keeps_bind (EventLoop.keeps_get hi (Q := fun _ _ => True) trivial) ?_
  intro s w₁ _ hi₁ _
  cases s.pData with
  | none => exact EventLoop.keeps_throw
  | some pData => exact hE.push hi₁

theorem Notifying.notifyMember (hE : Notifying E) {groupId name : String}
    {element : SelectedContact} :
    EventLoop.Runs E (FlutterTheme.notifyMember groupId content name element) w := by
  refine EventLoop.keeps_bind (Q := fun _ _ => True) (EventLoop.keeps_remote ?_) ?_
  · exact fun _ _ hi₁ _ => ⟨.refl hi₁, fun _ _ _ => trivial⟩
  · intro snap w₁ _ hi₁ _
    cases snap with
    | none => exact EventLoop.keeps_throw
    | some user => exact hE.push hi₁

end Notifications

/-! ## The cards of the inbox -/

section Cards

variable {m : Registry} {u : String} {d : Data}

/-- `LoadUser` on an entry of a conversation that is not a broadcast of the user. -/
theorem loadUser_oneToOne {sender : String} {isBroadcast : Bool}
    (hgroup : d .isGroup = some (.bool false)) (hb : d .isBroadcast = some (.bool isBroadcast))
    (hs : d .senderId = some (.str sender)) (hne : isBroadcast = true → sender ≠ u) :
    loadUser d u = some (if sender = u then .receiverMessageCard else .messageCard) := by
  cases isBroadcast with
  | false => simp [loadUser, oneToOneCard, hgroup, hb, hs]
  | true => simp [loadUser, broadcastCard, hgroup, hb, hs, hne rfl]

/-- The card of a conversation names the peer under the key it reads. -/
theorem Entry.card (h : Entry m u d) (hone : d .isOneToOne = some (.bool true)) :
    ∃ p c card k, (c, s(u, p)) ∈ m ∧ d .chatId = some (.str c) ∧
      (∃ sender receiver, d .senderId = some (.str sender) ∧
        d .receiverId = some (.str receiver) ∧ s(sender, receiver) = s(u, p)) ∧
      loadUser d u = some card ∧ card.peer = some k ∧ d k = some (.str p) := by
  cases h with
  | @oneToOne sender receiver c p _ senderId receiverId chatId pair registered _ isGroup
      broadcast received _ _ =>
    have hload := loadUser_oneToOne isGroup broadcast senderId received
    by_cases hs : sender = u
    · subst hs
      rw [if_pos rfl] at hload
      obtain rfl := Sym2.congr_right.mp pair
      exact ⟨receiver, c, .receiverMessageCard, .receiverId, registered, chatId,
        ⟨sender, receiver, senderId, receiverId, rfl⟩, hload, rfl, receiverId⟩
    · rw [if_neg hs] at hload
      rcases Sym2.eq_iff.mp pair with ⟨he, -⟩ | ⟨rfl, rfl⟩
      · exact absurd he hs
      · exact ⟨sender, c, .messageCard, .senderId, registered, chatId,
          ⟨sender, receiver, senderId, receiverId, pair⟩, hload, rfl, senderId⟩
  | group _ isOneToOne _ _ => rw [isOneToOne] at hone; cases hone
  | broadcast _ _ _ _ isOneToOne _ _ _ => rw [isOneToOne] at hone; cases hone

/-- The card of a group names no peer. -/
theorem loadUser_group {card : Card} (hgroup : d .isGroup = some (.bool true))
    (h : loadUser d u = some card) : card = .groupMessageCard ∨ card = .container := by
  simp only [loadUser, hgroup, Option.bind_eq_bind, Option.bind_some, if_true, groupCard] at h
  split at h
  · next users _ =>
    cases h
    cases isMember u users
    · exact Or.inr rfl
    · exact Or.inl rfl
  · cases h

/-- The card of a broadcast of the user. -/
theorem loadUser_broadcast (hgroup : d .isGroup = some (.bool false))
    (hb : d .isBroadcast = some (.bool true)) (hs : d .senderId = some (.str u)) :
    loadUser d u = some .broadCastMessageCard := by
  simp [loadUser, broadcastCard, hgroup, hb, hs]

end Cards

theorem cardContact_uid {uid : String} {user : Data} {contact : UserContactModel}
    (h : cardContact uid user = some contact) : contact.uid = uid := by
  unfold cardContact at h
  split at h
  · cases h; rfl
  · cases h

/-- A tap on a card of a conversation between two users opens it with the peer and the id of the
entry, which are registered; the user document of the peer must have come by then. -/
theorem runs_tapMessageCard {d : ℕ} {document : Document} {peer : Key} {p c : String}
    (hne : (w.session d).id ≠ p) (hpeer : document.data peer = some (.str p))
    (hcid : document.data .chatId = some (.str c))
    (hreg : (c, s((w.session d).id, p)) ∈ w.minted) :
    Runs π (tapMessageCard d document peer) l w := by
  unfold tapMessageCard
  rw [hpeer]
  refine Async.meets_bind (meets_getDoc ?_)
  intro w₁ w₂ hw₁ _ hw₂ hc₂
  have hw := hw₁.trans hw₂
  split
  · next contact h =>
    obtain ⟨user, -, hcontact⟩ := Option.bind_eq_some_iff.mp h
    have huid := cardContact_uid hcontact
    refine runs_openStored hc₂ (by rwa [hw.session, huid]) ?_
    intro c' hc'
    rw [hcid] at hc'
    cases hc'
    rw [hw.session, huid]
    exact hw.mem_minted hreg
  · exact Async.meets_throw

/-- A tap on any entry of the inbox. The kind of the entry decides on the card, by `loadUser`, and
the card passes on what the entry says: peer and `chatId`, or the recipients of a broadcast. -/
theorem runs_tapCard {d : ℕ} {id : DocId} (hc : Consistent w) : Runs π (tapCard d id) l w := by
  refine Async.meets_bind (meets_get hc ?_)
  refine Async.meets_bind (meets_getDoc ?_)
  intro w₁ w₂ hw₁ hc₁ hw₂ hc₂
  cases hdoc : w₁.store.doc? (.chats (w.session d).id) id with
  | none => exact Async.meets_pure trivial
  | some doc =>
    have hsession : w₂.session d = w.session d := by rw [hw₂.session, hw₁.session]
    have hentry : Entry w₂.minted (w.session d).id doc.data :=
      Entry.mono (hc₁.docs _ doc (Store.mem_of_doc? _ hdoc).1) hw₂.minted.subset
    cases hload : loadUser doc.data (w.session d).id with
    | none => simp only [hload]; exact Async.meets_throw
    | some card =>
      simp only [hload]
      have hentry' := hentry
      cases hentry with
      | oneToOne _ _ _ _ _ isOneToOne _ _ _ _ _ =>
        -- the card that is shown passes on the peer and the `chatId` of the entry
        obtain ⟨p, c, card', k, hreg, hcid, -, hload', hpeer, hk⟩ := hentry'.card isOneToOne
        rw [hload] at hload'
        cases hload'
        have htap : Runs π (tapMessageCard d doc k) l w₂ :=
          runs_tapMessageCard (hsession ▸ (hc₂.ne hreg).2) hk hcid (hsession ▸ hreg)
        cases card <;> cases hpeer <;> exact htap
      | group _ _ isGroup _ =>
        rcases loadUser_group isGroup hload with rfl | rfl
        · exact runs_tapGroupCard
        · exact Async.meets_pure trivial
      | broadcast senderId receiverId recipients _ _ isGroup broadcast _ =>
        rw [loadUser_broadcast isGroup broadcast senderId] at hload
        cases hload
        simp only [Card.onTap, tapBroadcastCard]
        split
        · refine (keeps_openBroadcast hc₂ ?_).runs
          intro pData hpData e he
          rw [receiverId] at hpData
          cases hpData
          rw [hsession]
          exact recipients e he
        · exact Async.meets_throw

/-! ## All actions -/

/-- Every action that is enabled keeps the protocol of clients, from any consistent state; blocking
is needed for `blockUser` alone. One case for each handler. -/
theorem runs_action {a : Action} (hb : (∃ c, a = .blockUser c) → π.blocking) (hc : Consistent w)
    (ha : a.enabled w) : Runs π a.body .idle w := by
  cases a with
  | userRegister user email pushToken => exact runs_userRegister
  | saveContact d contact isRegister => exact runs_saveContact hc (Ne.symm ha)
  | tapCard d entry => exact runs_tapCard hc
  | onSendMessage c content type => exact runs_onSendMessage hc ha
  | blockUser c => exact runs_blockUser (hb ⟨c, rfl⟩) hc ha
  | deleteAlert c message => exact runs_deleteAlert hc
  | openCreate d isGroup => exact (keeps_openCreate hc).runs
  | editGroup g name imageFile => exact (keeps_editGroup hc).runs
  | selectUserTap g value => exact (keeps_selectUserTap hc ha.2).runs
  | addGroupBottomSheet g => exact runs_addGroupBottomSheet hc ha
  | createGroup g => exact runs_createGroup hc ha
  | sendToGroup g content type => exact runs_sendToGroup hc
  | sendToBroadcast b content type => exact runs_broadcastOnSendMessage hc ha

/-- What the scheduler has to provide under a promise: a suspended handler is
resumed only when the promise to it holds. -/
def Promised (π : Terms) (c : Clients) : Event Action → Prop
  | .call _ _ => True
  | .resume i _ => ∀ th, c.threads[i]? = some th → π.promise th.scope c.world

instance [∀ l w, Decidable (π.promise l w)] (c : Clients) :
    (e : Event Action) → Decidable (Promised π c e)
  | .call _ _ => inferInstanceAs (Decidable True)
  | .resume i _ =>
    match h : c.threads[i]? with
    | none => isTrue fun _ hth => by rw [h] at hth; cases hth
    | some th => decidable_of_iff (π.promise th.scope c.world)
        ⟨fun hp _ hth => by rw [h] at hth; cases hth; exact hp, fun hp => hp th h⟩

theorem provides_of_admits {c : Clients} {e : Event Action} (hb : π.blocking)
    (hc : c.Kept (clientProtocol π)) (ha : messaging.admits c e) (hp : Promised π c e) :
    messaging.Provides (clientProtocol π) c e := by
  cases e with
  | call a ticks => exact (runs_action (fun _ => hb) hc.inv ha).safe
  | resume i ticks => exact hp

theorem Clients.kept_initial (session : ℕ → UserData) :
    (Clients.initial session).Kept (clientProtocol π) :=
  ⟨consistent_initial session, fun _ hth => absurd hth List.not_mem_nil⟩

variable {session : ℕ → UserData} {es : List (Event Action)} {c : Clients}

/-- Every configuration that clients reach from an empty store keeps the protocol. -/
theorem Clients.kept {ok : Clients → Event Action → Prop} (hb : π.blocking)
    (hok : ∀ c e, ok c e → messaging.admits c e ∧ Promised π c e)
    (h : messaging.Run ok (Clients.initial session) es c) : c.Kept (clientProtocol π) :=
  h.safe (Clients.kept_initial session) fun c e hc he =>
    provides_of_admits hb hc (hok c e he).1 (hok c e he).2

/-- Nothing is promised and nothing is excluded. -/
def freely : Terms where
  promise _ _ := True
  blocking := True

theorem promised_freely (c : Clients) (e : Event Action) : Promised freely c e := by
  cases e with
  | call a ticks => trivial
  | resume i ticks => exact fun _ _ => trivial

/-- Every reachable world agrees with the registry. -/
theorem Clients.consistent
    (h : messaging.Run messaging.admits (Clients.initial session) es c) : Consistent c.world :=
  (Clients.kept (π := freely) trivial (fun c e he => ⟨he, promised_freely c e⟩) h).inv

/-- Every action of a handler has one of the effects. -/
theorem Clients.steps (h : messaging.Run messaging.admits (Clients.initial session) es c)
    {e : Event Action} (he : messaging.admits c e) :
    ∀ st ∈ (messaging.outcome c e).steps, Effect freely st.scope st.before st.after := by
  have hc : c.Kept (clientProtocol freely) :=
    Clients.kept trivial (fun c e he => ⟨he, promised_freely c e⟩) h
  exact (System.outcome_kept hc (provides_of_admits trivial hc he (promised_freely c e))).steps

/-! ## Two clients

The runs of the examples and counterexamples: Alice on device 0 and Bob on device 1. -/

/-- A user whose name, number and picture are its identifier. -/
def person (id : String) : UserData := ⟨id, id, id, id⟩

/-- The contact of a registered user. -/
def contact (id : String) : UserContactModel := ⟨id, id, id, id, true⟩

/-- Alice is signed in on device 0, Bob on the others. -/
def aliceAndBob (d : ℕ) : UserData := if d = 0 then person "alice" else person "bob"

/-- Every action of a segment happens at this time; what is added sorts last. -/
def clock (now : ℕ) : ℕ → Tick := fun _ => { now := now, pos := now }

/-- The suspended handlers are resumed in turn, `n` times in all. -/
def settle (now n : ℕ) : List (Event Action) := List.replicate n (.resume 0 (clock now))

/-- An action that is carried out to its end before anything else happens. -/
def alone (now : ℕ) (a : Action) : List (Event Action) := .call a (clock now) :: settle now 32

theorem succeeds_alone {now : ℕ} {a : Action} : ∀ e ∈ alone now a, e.Succeeds :=
  List.forall_mem_cons.mpr ⟨fun _ => rfl, Event.succeeds_replicate fun _ => rfl⟩

/-- Both users register, and each opens the chat with the other. -/
def bothOpen : List (Event Action) :=
  alone 1 (.userRegister (person "alice") "alice@mail" (some "tokenA")) ++
  alone 2 (.userRegister (person "bob") "bob@mail" (some "tokenB")) ++
  alone 3 (.saveContact 0 (contact "bob") true) ++
  alone 4 (.saveContact 1 (contact "alice") true)

end FlutterTheme
