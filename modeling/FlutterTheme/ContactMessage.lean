import FlutterTheme.Actions
import FlutterTheme.Attachments
import FlutterTheme.Chat
import FlutterTheme.Duties
import FlutterTheme.Machine
import FlutterTheme.PhoneNumber

/-!
# Messaging a shared contact

A contact that has been sent as a message can be messaged. The widget takes the contact's name,
number and photo out of the content, but asks nobody who has the number: the contact it hands to
`saveContact` has the `uid` `" 0"`, whichever number it is.

* `contact_tap_iff` — when the chat that opens is that with the user who has the number, and that
  the same chat opens for another contact.
-/

namespace FlutterTheme.ContactMessage

open EventLoop DocStore Attachments

/-! ## The widgets -/

/-- A contact sent as a message. -/
structure Contact where
  displayName : String
  number : String
  photo : String

/-- The content of the message. -/
def Contact.content (m : Contact) : String := contactContent m.displayName m.number m.photo

/-- The contact that is handed to `saveContact`, `none` where reading the content throws. -/
def userContact (content : String) : Option UserContactModel := do
  let image ← part content 2
  let username ← part content 0
  let number ← part content 1
  some {
    uid := " 0"
    isRegister := false
    image := image
    username := username
    phoneNumber := phoneNumberExtension number }

/-- A tap on "Message", on device `d`. -/
def message (d : ℕ) (content : String) : Call Unit :=
  match userContact content with
  | some user => saveContact d user true
  | none => Async.throw

/-- The widgets that show a contact: the one of a chat or a broadcast, and the one of a group. -/
inductive Layout : Type where
  | contactLayout | groupContactLayout
  deriving DecidableEq, Repr

/-- `InkWell.onTap` in `ContactLayout`. -/
def contactLayout (d : ℕ) (content : String) : Call Unit := message d content

/-- `InkWell.onTap` in `GroupContactLayout`. -/
def groupContactLayout (d : ℕ) (content : String) : Call Unit := message d content

/-- A tap on "Message" in the widget. -/
def Layout.onTap : Layout → ℕ → String → Call Unit
  | .contactLayout => ContactMessage.contactLayout
  | .groupContactLayout => ContactMessage.groupContactLayout

/-! ## What the tap is for -/

/-- The user is registered under the number. -/
def Registered (w : World) (uid number : String) : Prop :=
  ∃ doc ∈ w.store.docs .users, doc.id = .named uid ∧ doc.data .phone = some (.str number)

/-- The conversations of the user of device `d` with one other user. -/
def conversations (w : World) (d : ℕ) : List Document :=
  w.store.query (.chats (w.session d).id) (Fields.isEqualTo .isOneToOne (.bool true))

/-- The identifier of the conversation with the user, `"0"` if there is none. -/
def Conversation (w : World) (d : ℕ) (uid chatId : String) : Prop :=
  (∃ doc ∈ conversations w d, isAbout uid doc.data = true ∧ doc.data .chatId = some (.str chatId)) ∨
    (∀ doc ∈ conversations w d, isAbout uid doc.data = false) ∧ chatId = "0"

/-- Device `d` shows a chat with the user that has been opened since `w`. -/
def Shows (w w' : World) (d : ℕ) (uid chatId : String) : Prop :=
  ∃ c, w'.currentChat d = some c ∧ w.chatCtrl.size ≤ c ∧
    (w'.chatCtrl.get c).pId = uid ∧ (w'.chatCtrl.get c).chatId = chatId

/-- If somebody is registered under the contact's number, device `d` shows the conversation with
them. -/
def Reaches (w w' : World) (d : ℕ) (m : Contact) : Prop :=
  (∃ uid, Registered w uid (phoneNumberExtension m.number)) →
    ∃ uid chatId, Registered w uid (phoneNumberExtension m.number) ∧
      Conversation w d uid chatId ∧ Shows w w' d uid chatId

/-- The chats that are shown differ in their users, and are not the same conversation. -/
def Apart (w w₁ w₂ : World) (d : ℕ) : Prop :=
  ∀ uid₁ uid₂ chatId₁ chatId₂, Shows w w₁ d uid₁ chatId₁ → Shows w w₂ d uid₂ chatId₂ →
    uid₁ ≠ uid₂ ∧ (chatId₁ = chatId₂ → chatId₁ = "0")

/-! ## The content of a contact -/

/-- Whatever the name, number and photo are, the content has three parts. -/
theorem userContact_content (m : Contact) : ∃ user, userContact m.content = some user ∧
    user.uid = " 0" := by
  have hlen : 3 ≤ (splitBreak m.content).length := by
    have hcontent : m.content.toList = m.displayName.toList ++ ("-BREAK-".toList ++
        (m.number.toList ++ ("-BREAK-".toList ++ m.photo.toList))) := by
      simp [Contact.content, contactContent]
    rw [splitBreak, List.length_map, hcontent]
    exact Separator.three_pieces break_ne_nil _ _ _
  have hpart : ∀ i < 3, ∃ text, part m.content i = some text := fun i hi =>
    ⟨_, List.getElem?_eq_getElem (Nat.lt_of_lt_of_le hi hlen)⟩
  obtain ⟨username, husername⟩ := hpart 0 (by omega)
  obtain ⟨number, hnumber⟩ := hpart 1 (by omega)
  obtain ⟨image, himage⟩ := hpart 2 (by omega)
  simp only [userContact, husername, hnumber, himage]
  exact ⟨_, rfl, rfl⟩

/-! ## Loading a chat -/

/-- The chats that are open stay as they are, and so does what the devices show. -/
structure Holds (w w' : World) : Prop where
  size : w'.chatCtrl.size = w.chatCtrl.size
  current : w'.currentChat = w.currentChat
  pId : ∀ c, (w'.chatCtrl.get c).pId = (w.chatCtrl.get c).pId
  chatId : ∀ c, (w'.chatCtrl.get c).chatId = (w.chatCtrl.get c).chatId

section Holds

variable {w w' w'' : World} {d : ℕ} {uid chatId : String}

theorem Holds.refl (w : World) : Holds w w := ⟨rfl, rfl, fun _ => rfl, fun _ => rfl⟩

theorem Holds.trans (h : Holds w w') (h' : Holds w' w'') : Holds w w'' where
  size := h'.size.trans h.size
  current := h'.current.trans h.current
  pId c := (h'.pId c).trans (h.pId c)
  chatId c := (h'.chatId c).trans (h.chatId c)

/-- Only the store changes. -/
theorem Holds.store {store : Store Path Key Value} : Holds w { w with store := store } :=
  ⟨rfl, rfl, fun _ => rfl, fun _ => rfl⟩

theorem Holds.modify {c : ℕ} {f : ChatController → ChatController}
    (h : ∀ s, (f s).pId = s.pId ∧ (f s).chatId = s.chatId) :
    Holds w { w with chatCtrl := w.chatCtrl.modify c f } := by
  refine ⟨rfl, rfl, fun c' => ?_, fun c' => ?_⟩
  · by_cases hc : c' = c
    · simp [Heap.get_modify, hc, (h _).1]
    · simp [Heap.get_modify, hc]
  · by_cases hc : c' = c
    · simp [Heap.get_modify, hc, (h _).2]
    · simp [Heap.get_modify, hc]

theorem Holds.shows {w₀ : World} (h : Holds w w') (hs : Shows w₀ w d uid chatId) :
    Shows w₀ w' d uid chatId := by
  obtain ⟨c, hcurrent, hc, hpId, hchatId⟩ := hs
  exact ⟨c, h.current ▸ hcurrent, hc, (h.pId c).trans hpId, (h.chatId c).trans hchatId⟩

/-- What loading a chat does. -/
def loading : Deeds World := ⟨fun _ => Holds, fun _ => Holds.refl⟩

theorem loads_update {p : Path} {id : DocId} {u : Data} : (update p id u).All loading := by
  refine Async.all_bind (Async.all_remote fun _ _ => .store) fun found => ?_
  exact Async.all_ite Async.all_pure Async.all_throw

theorem loads_seenInbox {user : String} : (seenInbox user chatId).All loading := by
  refine Async.all_bind (Async.all_remote loading.refl) fun docs => ?_
  cases docs with
  | nil => exact Async.all_pure
  | cons doc docs => exact loads_update

theorem loads_seenMessage {c : ℕ} : (seenMessage c).All loading := by
  refine Async.all_bind Async.all_get fun s => ?_
  refine Async.all_bind (Async.all_ite ?_ Async.all_pure) fun _ => ?_
  · refine Async.all_bind (Async.all_remote loading.refl) fun docs => ?_
    exact Async.all_forEach fun _ _ => loads_update
  · exact Async.all_bind (Async.all_spawn loads_seenInbox) fun _ => Async.all_spawn loads_seenInbox

theorem loads_getChatData {c : ℕ} : (getChatData c).All loading := by
  refine Async.all_bind Async.all_get fun s => ?_
  refine Async.all_bind Async.all_enter fun _ => ?_
  refine Async.all_bind (Async.all_ite ?_ Async.all_pure) fun _ => ?_
  · refine Async.all_bind (Async.all_remote loading.refl) fun _ => ?_
    exact Async.all_spawn loads_seenMessage
  · refine Async.all_bind (Async.all_remote loading.refl) fun value => ?_
    exact Async.all_modify fun _ _ => .modify fun _ => ⟨rfl, rfl⟩

/-- What a call does before it is suspended. -/
theorem holds_run {t : Task World Scope} (h : t.All loading) {ticks : ℕ → Tick} {l : Scope} {n : ℕ} :
    Holds w (t.run ticks l n w).world := by
  refine Task.run_steps Holds.refl Holds.trans fun st hst => ?_
  obtain ⟨i, hi⟩ := List.getElem?_of_mem hst
  exact h.steps i st hi

end Holds

/-! ## Opening a chat -/

section Opening

variable {w₀ w : World} {d n : ℕ} {uid chatId : String} {ticks : ℕ → Tick} {l : Scope}

/-- The world when the screen has been made. -/
def made (d : ℕ) (chatId : String) (data : UserContactModel) (w : World) : World :=
  { w with
    chatCtrl := w.chatCtrl.alloc {
      device := d
      userData := w.session d
      userContactModel := data
      pId := data.uid
      pName := data.username
      chatId := chatId }
    currentChat := Function.update w.currentChat d (some w.chatCtrl.size) }

/-- Device `d` shows the conversation with the user, and what is suspended loads chats. -/
structure Opened (w₀ : World) (d : ℕ) (uid : String) (o : Outcome World Scope) : Prop where
  size : w₀.chatCtrl.size ≤ o.world.chatCtrl.size
  shows : ∃ chatId, Conversation w₀ d uid chatId ∧ Shows w₀ o.world d uid chatId
  threads : ∀ th ∈ o.threads, th.task.All loading

/-- A chat opens. -/
theorem opened_openChat {data : UserContactModel} (hdata : data.uid = uid)
    (hsize : w₀.chatCtrl.size ≤ w.chatCtrl.size) (hchat : Conversation w₀ d uid chatId) :
    Opened w₀ d uid ((openChat d chatId data).task.run ticks l n w) := by
  have hloads : (getChatData w.chatCtrl.size).task.All loading := loads_getChatData.task
  have hheld : Holds (made d chatId data w) ((openChat d chatId data).task.run ticks l n w).world :=
    holds_run hloads
  refine ⟨?_, ⟨chatId, hchat, hheld.shows ?_⟩, hloads.threads⟩
  · exact hsize.trans ((Nat.le_succ _).trans hheld.size.ge)
  · refine ⟨w.chatCtrl.size, Function.update_self .., hsize, ?_, ?_⟩
    · simp [made, Heap.get_alloc, hdata]
    · simp [made, Heap.get_alloc]

/-- The chats for the documents that have been found open one after the other. -/
theorem opened_forEach {data : UserContactModel} (hdata : data.uid = uid) :
    ∀ {found : List Document} {n : ℕ} {w : World}, found ≠ [] →
      (∀ doc ∈ found, ∃ chatId, doc.data .chatId = some (.str chatId) ∧
        Conversation w₀ d uid chatId) → w₀.chatCtrl.size ≤ w.chatCtrl.size →
      Opened w₀ d uid ((Async.forEach found (openStored d data)).task.run ticks l n w)
  | [], _, _, hne, _, _ => absurd rfl hne
  | doc :: found, n, w, _, hfound, hsize => by
    obtain ⟨chatId, hchatId, hchat⟩ := hfound doc (List.mem_cons_self ..)
    have hopen : openStored d data doc = openChat d chatId data := by rw [openStored, hchatId]
    have hfirst : Opened w₀ d uid ((openStored d data doc).task.run ticks l n w) :=
      hopen ▸ opened_openChat hdata hsize hchat
    cases found with
    | nil =>
      refine ⟨hfirst.size, hfirst.shows, fun th hth => hfirst.threads th ?_⟩
      exact (List.mem_append.mp hth).resolve_right List.not_mem_nil
    | cons doc' found =>
      have hrest : Opened w₀ d uid ((Async.forEach (doc' :: found) (openStored d data)).task.run ticks
          l ((openStored d data doc).task.run ticks l n w).used
          ((openStored d data doc).task.run ticks l n w).world) :=
        opened_forEach hdata (List.cons_ne_nil _ _)
          (fun x hx => hfound x (List.mem_cons_of_mem _ hx)) hfirst.size
      refine ⟨hrest.size, hrest.shows, fun th hth => ?_⟩
      rcases List.mem_append.mp hth with hth | hth
      · exact hfirst.threads th hth
      · exact hrest.threads th hth

end Opening

/-! ## Runs -/

section Runs

variable {w : World} {d : ℕ} {m m' : Contact} {user : UserContactModel} {l l' : Scope}
  {ticks ticks' : ℕ → Tick} {es es' : List (Event Empty)} {c c' : Config World Scope}

/-- What `saveContact` does with the documents. -/
def openFound (d : ℕ) (user : UserContactModel) (docs : List Document) : Call Unit :=
  match docs.filter fun doc => isAbout user.uid doc.data with
  | [] => openChat d "0" user
  | found => Async.forEach found (openStored d user)

/-- How far a tap has come that was made in the world `w`. -/
inductive Stage (w : World) (d : ℕ) (user : UserContactModel) (c : Config World Scope) : Prop where
  /-- the conversations of the user are being looked up -/
  | look (world : c.world = w) (threads : ∃ l, c.threads = [⟨l, Task.request
      (fun _ w' => (w'.store.query (.chats (w.session d).id)
        (Fields.isEqualTo .isOneToOne (.bool true)), w'))
      fun docs => (openFound d user docs).task⟩])
  /-- they have been found -/
  | found (world : c.world = w) (threads : ∃ l, c.threads =
      [⟨l, (openFound d user (conversations w d)).task⟩])
  /-- the chat is shown -/
  | load (shows : ∃ chatId, Conversation w d user.uid chatId ∧ Shows w c.world d user.uid chatId)
      (threads : c.All loading)

/-- All entries that may be found have an identifier. -/
def Identified (w : World) (d : ℕ) (uid : String) : Prop :=
  ∀ doc ∈ conversations w d, isAbout uid doc.data = true →
    ∃ chatId, doc.data .chatId = some (.str chatId)

/-- What has been found is opened. -/
theorem opened_openFound (hentries : Identified w d user.uid) {n : ℕ} :
    Opened w d user.uid ((openFound d user (conversations w d)).task.run ticks l n w) := by
  cases hfound : (conversations w d).filter fun doc => isAbout user.uid doc.data with
  | nil =>
    have hopen : openFound d user (conversations w d) = openChat d "0" user := by
      rw [openFound, hfound]
    rw [hopen]
    refine opened_openChat rfl (Nat.le_refl _) (Or.inr ⟨fun doc hdoc => ?_, rfl⟩)
    exact Bool.eq_false_iff.mpr (List.filter_eq_nil_iff.mp hfound doc hdoc)
  | cons doc found =>
    have hopen : openFound d user (conversations w d) =
        Async.forEach (doc :: found) (openStored d user) := by rw [openFound, hfound]
    rw [hopen]
    refine opened_forEach rfl (List.cons_ne_nil _ _) (fun x hx => ?_) (Nat.le_refl _)
    obtain ⟨hmem, habout⟩ := List.mem_filter.mp (hfound ▸ hx)
    obtain ⟨chatId, hchatId⟩ := hentries x hmem habout
    exact ⟨chatId, hchatId, Or.inl ⟨x, hmem, habout, hchatId⟩⟩

/-- The only call that is suspended is resumed, or nothing happens. -/
theorem apply_single {th : Thread World Scope} (h : c.threads = [th]) (i : ℕ) :
    (System.quiet World Scope).apply c (.resume i ticks) = c ∨
      ((System.quiet World Scope).apply c (.resume i ticks)).world =
        (th.task.run ticks th.scope 0 c.world).world ∧
      ((System.quiet World Scope).apply c (.resume i ticks)).threads =
        (th.task.run ticks th.scope 0 c.world).threads := by
  obtain ⟨w', ths, uncaught⟩ := c
  obtain rfl : ths = [th] := h
  cases i with
  | zero => exact Or.inr ⟨rfl, rfl⟩
  | succ i => exact Or.inl (by simp [System.apply, System.outcome, Config.kept])

/-- A tap on a contact goes through three stages: looking for the user, opening what was found,
loading the screen. One event leaves the stage as it is or goes on to the next one. -/
theorem Stage.step (hentries : Identified w d user.uid) (h : Stage w d user c) {e : Event Empty}
    (he : ∀ n, (e.ticks n).fails = false) :
    Stage w d user ((System.quiet World Scope).apply c e) := by
  cases e with
  | call a => exact a.elim
  | resume i ticks =>
    cases h with
    | look hworld hthreads =>
      obtain ⟨l, hthreads⟩ := hthreads
      rcases apply_single hthreads i with heq | ⟨hw, hths⟩
      · rw [heq]
        exact .look hworld ⟨l, hthreads⟩
      · have hsucceeds : (ticks 0).fails = false := he 0
        simp only [Task.request, Task.run, hsucceeds, hworld] at hw hths
        exact .found hw ⟨l, hths⟩
    | found hworld hthreads =>
      obtain ⟨l, hthreads⟩ := hthreads
      rcases apply_single hthreads i with heq | ⟨hw, hths⟩
      · rw [heq]
        exact .found hworld ⟨l, hthreads⟩
      · have hopened : Opened w d user.uid
            ((openFound d user (conversations w d)).task.run ticks l 0 w) :=
          opened_openFound hentries
        rw [hworld] at hw hths
        obtain ⟨chatId, hchat, hshows⟩ := hopened.shows
        refine .load ⟨chatId, hchat, hw ▸ hshows⟩ fun th hth => hopened.threads th ?_
        rwa [hths] at hth
    | load hshows hthreads =>
      have hheld : Holds c.world ((System.quiet World Scope).apply c (.resume i ticks)).world := by
        refine System.apply_steps Holds.refl Holds.trans fun st hst => ?_
        obtain ⟨_, hrel⟩ := System.rel_of_mem_steps hthreads (e := .resume i ticks) trivial hst
        exact hrel
      obtain ⟨chatId, hchat, hshows⟩ := hshows
      exact .load ⟨chatId, hchat, hheld.shows hshows⟩ (System.apply_all hthreads trivial)

/-- **What a tap shows** is the conversation with the user `" 0"`. -/
theorem shows_settled {layout : Layout} (hentries : Identified w d " 0")
    (h : (System.quiet World Scope).Run (fun _ e => ∀ n, (e.ticks n).fails = false)
      ((layout.onTap d m.content).start l ticks w) es c) (hc : c.Settled) :
    ∃ chatId, Conversation w d " 0" chatId ∧ Shows w c.world d " 0" chatId := by
  obtain ⟨user, huser, huid⟩ := userContact_content m
  have htap : layout.onTap d m.content = saveContact d user true := by
    cases layout with
    | contactLayout => rw [Layout.onTap, contactLayout, message, huser]
    | groupContactLayout => rw [Layout.onTap, groupContactLayout, message, huser]
  rw [htap] at h
  rw [← huid] at hentries ⊢
  have hstage : Stage w d user c := by
    refine h.induct (I := Stage w d user) (.look rfl ⟨l, rfl⟩) fun c e hstage he => ?_
    exact hstage.step hentries he
  cases hstage with
  | look _ hthreads =>
    obtain ⟨_, hthreads⟩ := hthreads
    exact absurd (hc.symm.trans hthreads) (List.cons_ne_nil _ _).symm
  | found _ hthreads =>
    obtain ⟨_, hthreads⟩ := hthreads
    exact absurd (hc.symm.trans hthreads) (List.cons_ne_nil _ _).symm
  | load hshows => exact hshows

/-- A device shows one chat. -/
theorem shows_unique {w w' : World} {uid uid' chatId chatId' : String} (h : Shows w w' d uid chatId)
    (h' : Shows w w' d uid' chatId') : uid = uid' ∧ chatId = chatId' := by
  obtain ⟨c, hcurrent, -, rfl, rfl⟩ := h
  obtain ⟨c', hcurrent', -, rfl, rfl⟩ := h'
  obtain rfl : c = c' := Option.some.inj (hcurrent.symm.trans hcurrent')
  exact ⟨rfl, rfl⟩

/-- **Whom a shared contact leads to.** A tap on one contact shows the conversation with the user
who has the number just when there is no such user, or one whose identifier is `" 0"`. A tap on
another contact, with another number, shows a chat with the same user. -/
theorem contact_tap_iff {layout layout' : Layout} (hentries : Identified w d " 0")
    (h : (System.quiet World Scope).Run (fun _ e => ∀ n, (e.ticks n).fails = false)
      ((layout.onTap d m.content).start l ticks w) es c) (hc : c.Settled)
    (h' : (System.quiet World Scope).Run (fun _ e => ∀ n, (e.ticks n).fails = false)
      ((layout'.onTap d m'.content).start l' ticks' w) es' c') (hc' : c'.Settled) :
    (Reaches w c.world d m ↔ (∀ uid, ¬ Registered w uid (phoneNumberExtension m.number)) ∨
      Registered w " 0" (phoneNumberExtension m.number)) ∧
    ¬ Apart w c.world c'.world d := by
  obtain ⟨chatId, hchat, hshows⟩ := shows_settled hentries h hc
  obtain ⟨chatId', -, hshows'⟩ := shows_settled hentries h' hc'
  refine ⟨⟨fun hreaches => ?_, ?_⟩, fun hapart => (hapart _ _ _ _ hshows hshows').1 rfl⟩
  · by_cases hsome : ∃ uid, Registered w uid (phoneNumberExtension m.number)
    · obtain ⟨uid, chatId'', hregistered, -, hshows''⟩ := hreaches hsome
      obtain ⟨rfl, -⟩ := shows_unique hshows'' hshows
      exact Or.inr hregistered
    · exact Or.inl (not_exists.mp hsome)
  · rintro (hnobody | hregistered) hsome
    · exact absurd hsome (not_exists.mpr hnobody)
    · exact ⟨" 0", chatId, hregistered, hchat, hshows⟩

end Runs

/-! ## Two contacts -/

/-- Bob, as somebody has shared him. -/
def bob : Contact := ⟨"Bob", "2", ""⟩

/-- Carol, who has not registered. -/
def carol : Contact := ⟨"Carol", "3", ""⟩

/-- Bob is registered, and Alice has no conversations yet. -/
def registered : World :=
  { World.initial fun _ => ⟨"alice", "Alice", "1", ""⟩ with
    store := Store.empty.set .users "bob" 0 (.ofList [(.id, .str "bob"), (.phone, .str "2")]) }

/-- Every operation succeeds. -/
def succeeds (_ : ℕ) : Tick := ⟨5000, 0, false⟩

/-- Alice taps on "Message". -/
def tapped (m : Contact) : Config World Scope :=
  (System.quiet World Scope).exec ((Layout.contactLayout.onTap 0 m.content).start .idle succeeds
    registered) (List.replicate 4 (.resume 0 succeeds))

theorem run_tapped (m : Contact) :
    (System.quiet World Scope).Run (fun _ e => ∀ n, (e.ticks n).fails = false)
      ((Layout.contactLayout.onTap 0 m.content).start .idle succeeds registered)
      (List.replicate 4 (.resume 0 succeeds)) (tapped m) :=
  System.run_replicate fun _ => rfl

theorem identified_registered : Identified registered 0 " 0" := nofun

/-- Nobody has Carol's number, and both taps show the same chat. -/
theorem contact_tap_carol :
    Reaches registered (tapped carol).world 0 carol ∧
      ¬ Apart registered (tapped carol).world (tapped bob).world 0 := by
  obtain ⟨hreaches, hapart⟩ := contact_tap_iff identified_registered (run_tapped carol)
    (by decide +kernel) (run_tapped bob) (by decide +kernel)
  refine ⟨hreaches.mpr (Or.inl ?_), hapart⟩
  rintro uid ⟨doc, hdoc, -, hphone⟩
  rw [List.mem_singleton.mp (hdoc : doc ∈ [_])] at hphone
  exact absurd hphone (by decide +kernel)

/-- **A tap on Bob does not lead to Bob**, who is registered under the number. -/
theorem bob_not_reached : ¬ ∀ {w : World} {d : ℕ} {m : Contact} {layout : Layout} {l : Scope}
    {ticks : ℕ → Tick} {es : List (Event Empty)} {c : Config World Scope},
    Identified w d " 0" →
    (System.quiet World Scope).Run (fun _ e => ∀ n, (e.ticks n).fails = false)
      ((layout.onTap d m.content).start l ticks w) es c → c.Settled → Reaches w c.world d m := by
  intro hclaim
  have hsettled : (tapped bob).Settled := by decide +kernel
  have hregistered : Registered registered "bob" (phoneNumberExtension bob.number) :=
    ⟨_, List.mem_singleton_self _, rfl, by decide +kernel⟩
  obtain ⟨uid, _, ⟨doc, hdoc, hid, -⟩, -, hshows⟩ :=
    hclaim identified_registered (run_tapped bob) hsettled ⟨"bob", hregistered⟩
  obtain ⟨_, -, hshows'⟩ := shows_settled identified_registered (run_tapped bob) hsettled
  obtain ⟨rfl, -⟩ := shows_unique hshows hshows'
  rw [List.mem_singleton.mp (hdoc : doc ∈ [_])] at hid
  exact absurd hid (by decide +kernel)

end FlutterTheme.ContactMessage
