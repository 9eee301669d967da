import FlutterTheme.Presence
import Mathlib.Data.List.Forall2

/-!
# What typing shows

In two runs that differ in what a user types in one chat, the worlds are `Alike`: the documents
of all other users are the same, and so is what is shown of the user when something else has
written last. Every handler keeps that (`covered`).
-/

namespace FlutterTheme.Presence

open EventLoop DocStore Login

/-! ## Worlds that look alike -/

/-- The text fields of the chats of `user` with `peer`, when `ids` are signed in. -/
def types (ids : ℕ → Option String) (user peer : String) : Scope → Bool
  | .field s => ids s.device = some user && s.pId = peer
  | .other => false

/-- The documents show the same line. -/
def SameLine (d d' : Data) : Prop :=
  d .status = d' .status ∧ (d .status = some (.str "Offline") → d .lastSeen = d' .lastSeen)

/-- The documents are the same except for the presence of `user`; where it is `known` they show
the same line. -/
structure DocAlike (known : Prop) (user : String) (d d' : Document) : Prop where
  id : d.id = d'.id
  name : d.data .id = d'.data .id
  others : d.id ≠ .named user → d.data = d'.data
  line : known → SameLine d.data d'.data

/-- Something else has written last to the document of `user`. -/
def Known (ids : ℕ → Option String) (user peer : String) (w : World) : Prop :=
  types ids user peer (w.writer user) = false

/-- The worlds look alike to everybody who does not see what `user` types to `peer`. -/
structure Alike (ids : ℕ → Option String) (user peer : String) (w w' : World) : Prop where
  session : w.login.session = w'.login.session
  signedIn : ∀ d, w.signedIn d = ids d
  docs : List.Forall₂ (DocAlike (Known ids user peer w ∧ Known ids user peer w') user) w.docs w'.docs
  chats : ∀ s, types ids user peer (.field s) = false → w.chats s = w'.chats s
  chatId : ∀ s, (w.chats s).chatId = (w'.chats s).chatId

variable {ids : ℕ → Option String} {user peer : String} {w w' : World} {d d' : Document}
  {known known' : Prop}

theorem SameLine.refl (d : Data) : SameLine d d := ⟨rfl, fun _ => rfl⟩

theorem SameLine.symm {d d' : Data} (h : SameLine d d') : SameLine d' d :=
  ⟨h.1.symm, fun ho => (h.2 (h.1.trans ho)).symm⟩

theorem DocAlike.refl (d : Document) : DocAlike known user d d :=
  ⟨rfl, rfl, fun _ => rfl, fun _ => .refl d.data⟩

theorem DocAlike.symm (hk : known' → known) (h : DocAlike known user d d') :
    DocAlike known' user d' d where
  id := h.id.symm
  name := h.name.symm
  others hne := (h.others (h.id ▸ hne)).symm
  line hknown := (h.line (hk hknown)).symm

theorem Alike.sessionUser (h : Alike ids user peer w w') (d : ℕ) :
    w.login.sessionUser d = w'.login.sessionUser d := by
  rw [Login.World.sessionUser, Login.World.sessionUser, h.session]

theorem Alike.symm (h : Alike ids user peer w w') : Alike ids user peer w' w where
  session := h.session.symm
  signedIn d := by
    rw [World.signedIn, ← h.sessionUser]
    exact h.signedIn d
  docs := (h.docs.imp fun _ _ hd => hd.symm And.symm).flip
  chats s hs := (h.chats s hs).symm
  chatId s := (h.chatId s).symm

/-- A world looks like itself. -/
theorem Alike.refl (h : ∀ d, w.signedIn d = ids d) : Alike ids user peer w w :=
  ⟨rfl, h, List.forall₂_same.mpr fun d _ => .refl d, fun _ _ => rfl, fun _ => rfl⟩

/-- What typing in the chats of `user` with `peer` hides. -/
def cover (ids : ℕ → Option String) (user peer : String) : Cover World Scope where
  hidden := types ids user peer
  rel := Alike ids user peer
  symm := Alike.symm

/-! ## Writes -/

/-- A write to `status` comes with one to `lastSeen` where the status is Offline. -/
structure Presents (u : Data) : Prop where
  name : u .id = none
  status : (u .status).isSome = true
  offline : u .status = some (.str "Offline") → (u .lastSeen).isSome = true

theorem presents_activeFields (now : String) : Presents (activeFields now) :=
  ⟨rfl, rfl, fun _ => rfl⟩

theorem presents_lastSeenFields (now : String) : Presents (lastSeenFields now) :=
  ⟨rfl, rfl, fun _ => rfl⟩

theorem presents_typingFields (now : String) : Presents (typingFields now) :=
  ⟨rfl, rfl, fun _ => rfl⟩

theorem presents_onlineFields : Presents onlineFields :=
  ⟨rfl, rfl, fun h => absurd h (by decide)⟩

variable {u : Data} {id : String} {s : Screen}

/-- The same fields are written to both documents. -/
theorem Presents.sameLine (hu : Presents u) (d d' : Data) : SameLine (d.merge u) (d'.merge u) := by
  obtain ⟨status, hstatus⟩ := Option.isSome_iff_exists.mp hu.status
  refine ⟨?_, fun ho => ?_⟩
  · rw [Fields.merge_of_some hstatus, Fields.merge_of_some hstatus]
  · rw [Fields.merge_of_some hstatus] at ho
    obtain ⟨lastSeen, hlast⟩ := Option.isSome_iff_exists.mp (hu.offline (hstatus.trans ho))
    rw [Fields.merge_of_some hlast, Fields.merge_of_some hlast]

theorem Presents.name_merge (hu : Presents u) (d : Data) : d.merge u .id = d .id :=
  Fields.merge_of_none hu.name

/-- The document after a write to the one of a user. -/
def written (id : String) (u : Data) (d : Document) : Document :=
  if d.id = .named id then ⟨d.id, d.data.merge u⟩ else d

theorem docs_write (by' : Scope) : (w.write by' id u).docs = w.docs.map (written id u) := by
  simp only [World.docs, World.write, Store.update, if_true]
  rfl

theorem writer_write (by' : Scope) (v : String) :
    (w.write by' id u).writer v = if v = id then by' else w.writer v :=
  Function.update_apply ..

theorem id_written (d : Document) : (written id u d).id = d.id := by
  unfold written
  split <;> rfl

/-- A write that can be seen, in both worlds: what it puts into the document is the same on both
sides, the status included. -/
theorem DocAlike.write (hu : Presents u) (h : DocAlike known user d d')
    (hk : known' → known ∨ id = user) :
    DocAlike known' user (written id u d) (written id u d') := by
  by_cases hd : d.id = .named id
  · have hd' : d'.id = .named id := h.id ▸ hd
    simp only [written, if_pos hd, if_pos hd']
    refine ⟨h.id, ?_, fun hne => ?_, fun _ => hu.sameLine _ _⟩
    · exact (hu.name_merge _).trans (h.name.trans (hu.name_merge _).symm)
    · exact congrArg (Fields.merge · u) (h.others hne)
  · have hd' : d'.id ≠ .named id := h.id ▸ hd
    simp only [written, if_neg hd, if_neg hd']
    refine ⟨h.id, h.name, h.others, fun hknown => ?_⟩
    by_cases huser : d.id = .named user
    · rcases hk hknown with hknown | rfl
      · exact h.line hknown
      · exact absurd huser hd
    · rw [h.others huser]
      exact .refl _

/-- A write to the document of `user` that cannot be seen, in one of the worlds. -/
theorem DocAlike.write_left (hu : Presents u) (h : DocAlike known user d d')
    (hk : ¬ known') : DocAlike known' user (written user u d) d' := by
  refine ⟨(id_written d).trans h.id, ?_, fun hne => ?_, fun hknown => absurd hknown hk⟩
  · unfold written
    split
    · exact (hu.name_merge _).trans h.name
    · exact h.name
  · rw [id_written] at hne
    rw [written, if_neg hne]
    exact h.others hne

/-- A presence write leaves everything else as it is. -/
theorem Alike.write (hu : Presents u) (h : Alike ids user peer w w') {by' : Scope} :
    Alike ids user peer (w.write by' id u) (w'.write by' id u) := by
  refine ⟨h.session, h.signedIn, ?_, h.chats, h.chatId⟩
  rw [docs_write, docs_write, List.forall₂_map_left_iff, List.forall₂_map_right_iff]
  refine h.docs.imp fun d d' hd => hd.write hu ?_
  rintro ⟨hw, hw'⟩
  by_cases hid : id = user
  · exact Or.inr hid
  · refine Or.inl ⟨?_, ?_⟩
    · rwa [Known, writer_write, if_neg (Ne.symm hid)] at hw
    · rwa [Known, writer_write, if_neg (Ne.symm hid)] at hw'

theorem Alike.write_left (hu : Presents u) (h : Alike ids user peer w w') {by' : Scope}
    (hby : types ids user peer by' = true) : Alike ids user peer (w.write by' user u) w' := by
  refine ⟨h.session, h.signedIn, ?_, h.chats, h.chatId⟩
  rw [docs_write, List.forall₂_map_left_iff]
  refine h.docs.imp fun d d' hd => hd.write_left hu ?_
  rintro ⟨hw, -⟩
  rw [Known, writer_write, if_pos rfl, hby] at hw
  cases hw

/-- The same documents are there. -/
theorem Alike.doc?_isSome (h : Alike ids user peer w w') :
    (w.login.store.doc? .users (.named id)).isSome =
      (w'.login.store.doc? .users (.named id)).isSome := by
  have hall : ∀ {l l' : List Document},
      List.Forall₂ (DocAlike (Known ids user peer w ∧ Known ids user peer w') user) l l' →
        (l.find? (·.id = .named id)).isSome = (l'.find? (·.id = .named id)).isSome := by
    intro l l' hl
    induction hl with
    | nil => rfl
    | @cons d d' _ _ hd _ ih =>
      by_cases hid : d.id = .named id
      · rw [List.find?_cons_of_pos (by simpa using hid),
          List.find?_cons_of_pos (by simpa [← hd.id] using hid)]
        rfl
      · rw [List.find?_cons_of_neg (by simpa using hid),
          List.find?_cons_of_neg (by simpa [← hd.id] using hid), ih]
  exact hall h.docs

/-! ## The handlers -/

variable {by' : Scope} {dev : ℕ}

theorem open_sessionUser : (sessionUser dev).Open (cover ids user peer) :=
  Async.open_get fun _ _ h => h.sessionUser dev

theorem open_millisecondsSinceEpoch : millisecondsSinceEpoch.Open (cover ids user peer) :=
  Async.open_sync fun _ _ _ h => ⟨rfl, h⟩

/-- An update of a user document is open: both worlds have the document or neither has it, so it
goes through in both or fails in both. -/
theorem open_update (hu : Presents u) {id : Option String} :
    (update by' id u).Open (cover ids user peer) := by
  cases id with
  | none => exact Async.open_throw
  | some id =>
    refine Async.open_bind (Async.open_remote fun _ _ _ h => ⟨h.doc?_isSome, h.write hu⟩) ?_
    intro found
    cases found with
    | false => exact Async.open_throw
    | true => exact Async.open_pure

theorem open_setIsActive : (setIsActive by' dev).Open (cover ids user peer) := by
  refine Async.open_bind open_sessionUser fun user => ?_
  cases user with
  | none => exact Async.open_pure
  | some user =>
    exact Async.open_bind open_millisecondsSinceEpoch fun now =>
      open_update (presents_activeFields now)

theorem open_setLastSeen : (setLastSeen by' dev).Open (cover ids user peer) := by
  refine Async.open_bind open_sessionUser fun user => ?_
  cases user with
  | none => exact Async.open_pure
  | some user =>
    exact Async.open_bind open_millisecondsSinceEpoch fun now =>
      open_update (presents_lastSeenFields now)

theorem open_setTyping : (setTyping by' dev).Open (cover ids user peer) :=
  Async.open_bind open_sessionUser fun _ =>
    Async.open_bind open_millisecondsSinceEpoch fun now => open_update (presents_typingFields now)

theorem chats_modifyChat (f : ChatController → ChatController) (s' : Screen) :
    (w.modifyChat s f).chats s' = if s' = s then f (w.chats s) else w.chats s' :=
  Function.update_apply ..

/-- A chat screen changes in both worlds. -/
theorem Alike.modify (h : Alike ids user peer w w') {f : ChatController → ChatController}
    (hf : ∀ c c', c.chatId = c'.chatId → (f c).chatId = (f c').chatId) :
    Alike ids user peer (w.modifyChat s f) (w'.modifyChat s f) := by
  refine ⟨h.session, h.signedIn, h.docs, fun s' hs' => ?_, fun s' => ?_⟩
  · rw [chats_modifyChat, chats_modifyChat]
    split
    · next heq =>
      subst heq
      rw [h.chats s' hs']
    · exact h.chats s' hs'
  · rw [chats_modifyChat, chats_modifyChat]
    split
    · exact hf _ _ (h.chatId s)
    · exact h.chatId s'

theorem open_modifyChat {f : ChatController → ChatController}
    (hf : ∀ c c', c.chatId = c'.chatId → (f c).chatId = (f c').chatId) :
    (modifyChat s f).Open (cover ids user peer) :=
  Async.open_modify fun _ _ h => h.modify hf

theorem open_addListener : (ChatController.setTyping s).Open (cover ids user peer) :=
  open_modifyChat fun _ _ h => h

section Open

variable (hs : types ids user peer (.field s) = false)

include hs

theorem open_chat : (chat s).Open (cover ids user peer) := Async.open_get fun _ _ h => h.chats s hs

theorem open_listener : (listener s).Open (cover ids user peer) := by
  refine Async.open_bind (open_chat hs) fun chatCtrl => ?_
  split
  · exact Async.open_bind (Async.open_spawn open_setTyping) fun _ => open_modifyChat fun _ _ h => h
  · split
    · exact Async.open_bind (Async.open_spawn open_setIsActive) fun _ =>
        open_modifyChat fun _ _ h => h
    · exact Async.open_pure

theorem open_setText {text : String} : (setText s text).Open (cover ids user peer) :=
  Async.open_bind (open_modifyChat fun _ _ h => h) fun _ =>
    Async.open_bind (open_chat hs) fun _ => Async.open_forEach fun _ _ => open_listener hs

end Open

section Hidden

variable (hs : types ids user peer (.field s) = true)

include hs

/-- The user is signed in on the device of the screen. -/
theorem signedIn_of_types : ids s.device = some user := by
  rw [types, Bool.and_eq_true, decide_eq_true_eq] at hs
  exact hs.1

theorem hidden_sessionUser :
    (sessionUser s.device).Hidden (cover ids user peer) fun u => userId u = some user :=
  Async.hidden_get fun _ _ h => (h.signedIn s.device).trans (signedIn_of_types hs)

omit hs in
theorem hidden_millisecondsSinceEpoch :
    millisecondsSinceEpoch.Hidden (cover ids user peer) fun _ => True :=
  Async.hidden_sync fun _ _ _ h => ⟨h, trivial⟩

theorem hidden_update (hu : Presents u) {id : Option String} (hid : id = some user) :
    (update (.field s) id u).Hidden (cover ids user peer) fun _ => True := by
  subst hid
  refine Async.hidden_bind (Async.hidden_remote fun _ _ _ h => h.write_left hu hs) ?_
  intro found _
  cases found with
  | false => exact Async.hidden_throw
  | true => exact Async.hidden_pure trivial

theorem hidden_setIsActive :
    (setIsActive (.field s) s.device).Hidden (cover ids user peer) fun _ => True := by
  refine Async.hidden_bind (hidden_sessionUser hs) fun user hid => ?_
  cases user with
  | none => exact Async.hidden_pure trivial
  | some user =>
    exact Async.hidden_bind hidden_millisecondsSinceEpoch fun now _ =>
      hidden_update hs (presents_activeFields now) hid

theorem hidden_setTyping :
    (setTyping (.field s) s.device).Hidden (cover ids user peer) fun _ => True :=
  Async.hidden_bind (hidden_sessionUser hs) fun _ hid =>
    Async.hidden_bind hidden_millisecondsSinceEpoch fun now _ =>
      hidden_update hs (presents_typingFields now) hid

/-- A chat screen changes in one of the worlds. -/
theorem Alike.modify_left (h : Alike ids user peer w w') {f : ChatController → ChatController}
    (hf : ∀ c, (f c).chatId = c.chatId) : Alike ids user peer (w.modifyChat s f) w' := by
  refine ⟨h.session, h.signedIn, h.docs, fun s' hs' => ?_, fun s' => ?_⟩
  · have hne : s' ≠ s := by
      rintro rfl
      rw [hs] at hs'
      cases hs'
    rw [chats_modifyChat, if_neg hne]
    exact h.chats s' hs'
  · rw [chats_modifyChat]
    split
    · next heq =>
      subst heq
      exact (hf _).trans (h.chatId s')
    · exact h.chatId s'

theorem hidden_modifyChat {f : ChatController → ChatController}
    (hf : ∀ c, (f c).chatId = c.chatId) :
    (modifyChat s f).Hidden (cover ids user peer) fun _ => True :=
  Async.hidden_modify fun _ _ h => h.modify_left hs hf

/-- The listener of the text field, which writes the status of the typing user alone, is hidden. -/
theorem hidden_listener : (listener s).Hidden (cover ids user peer) fun _ => True := by
  refine Async.hidden_bind (Async.hidden_get (Q := fun _ => True) fun _ _ _ => trivial) ?_
  intro chatCtrl _
  split
  · exact Async.hidden_bind (Async.hidden_spawn (hidden_setTyping hs)) fun _ _ =>
      hidden_modifyChat hs fun _ => rfl
  · split
    · exact Async.hidden_bind (Async.hidden_spawn (hidden_setIsActive hs)) fun _ _ =>
        hidden_modifyChat hs fun _ => rfl
    · exact Async.hidden_pure trivial

theorem hidden_setText {text : String} :
    (setText s text).Hidden (cover ids user peer) fun _ => True := by
  refine Async.hidden_bind (hidden_modifyChat hs fun _ => rfl) fun _ _ => ?_
  refine Async.hidden_bind (Async.hidden_get (Q := fun _ => True) fun _ _ _ => trivial) ?_
  exact fun _ _ => Async.hidden_forEach fun _ _ => hidden_listener hs

end Hidden

/-- Every handler does the same in worlds that look alike, or is hidden. -/
theorem covered : presence.Covered (cover ids user peer) where
  scope _ _ _ _ := rfl
  opened a _ h := by
    cases a with
    | openChat s chatId =>
      exact (Async.open_bind (open_modifyChat fun _ _ _ => rfl) fun _ => open_addListener).task
    | onChanged s text =>
      exact (Async.open_bind (open_setText h) fun _ => open_addListener).task
    | clear s => exact (open_setText h).task
    | resumed s =>
      exact (Async.open_bind (Async.open_spawn open_setIsActive) fun _ => open_addListener).task
    | setIsActive d => exact open_setIsActive.task
    | setLastSeen d => exact open_setLastSeen.task
    | onBackPress s => exact (Async.open_spawn (open_update presents_onlineFields)).task
  hidden a _ h := by
    cases a with
    | onChanged s text =>
      refine (Async.hidden_bind (R := fun _ => True) (hidden_setText h) fun _ _ => ?_).task
      exact hidden_modifyChat h fun _ => rfl
    | clear s => exact (hidden_setText h).task
    | openChat | resumed | setIsActive | setLastSeen | onBackPress => cases h

/-! ## Two runs -/

/-- Documents that show the same line. -/
theorem SameLine.ofData {d d' : Data} (h : SameLine d d') : Line.ofData d = Line.ofData d' := by
  unfold Line.ofData
  rw [← h.1]
  split
  · next status hstatus =>
    split
    · next ho =>
      have hlast := h.2 (hstatus.trans (congrArg (some ∘ Value.str) ho))
      rw [lastSeenOf, lastSeenOf, hlast]
    · rfl
  · rfl

/-- The line on a chat screen, when something else has written last: what is read of the user
document is then the same in both worlds. -/
theorem Alike.build (h : Alike ids user peer w w') (hw : Known ids user peer w)
    (hw' : Known ids user peer w') : UserLastSeen.build w s = UserLastSeen.build w' s := by
  have hhead : ∀ {l l' : List Document},
      List.Forall₂ (DocAlike (Known ids user peer w ∧ Known ids user peer w') user) l l' →
        ((l.filter fun d => Fields.isEqualTo .id (.str s.pId) d.data).head?.bind fun doc =>
            Line.ofData doc.data) =
          (l'.filter fun d => Fields.isEqualTo .id (.str s.pId) d.data).head?.bind fun doc =>
            Line.ofData doc.data := by
    intro l l' hl
    induction hl with
    | nil => rfl
    | @cons d d' _ _ hd _ ih =>
      have heq : Fields.isEqualTo .id (.str s.pId) d.data =
          Fields.isEqualTo .id (.str s.pId) d'.data := by
        simp only [Fields.isEqualTo, hd.name]
      rw [List.filter_cons, List.filter_cons, ← heq]
      split
      · simp only [List.head?_cons, Option.bind_some]
        exact (hd.line ⟨hw, hw'⟩).ofData
      · exact ih
  unfold UserLastSeen.build
  rw [h.chatId s]
  split
  · rfl
  · exact hhead h.docs

/-- **Typing.** In two runs that differ in what `user` types to `peer`, every chat screen shows
the same line wherever the last write to the document of `user` has another cause. -/
theorem typing_private {w₀ : World} {es es' : List (Event Action)} {c c' : Config World Scope}
    (h : presence.Twin (cover w₀.signedIn user peer) ⟨w₀, [], []⟩ es c es' c')
    (hw : Known w₀.signedIn user peer c.world) (hw' : Known w₀.signedIn user peer c'.world) (s : Screen) :
    UserLastSeen.build c.world s = UserLastSeen.build c'.world s := by
  have hrefl : (cover w₀.signedIn user peer).rel w₀ w₀ := Alike.refl fun _ => rfl
  have halike : c.Alike (cover w₀.signedIn user peer) c' := h.alike covered hrefl rfl
  exact halike.world.build hw hw'

/-! ## Alice types to Carol -/

/-- A user document. -/
def person (id : String) : Data :=
  .ofList [(.id, .str id), (.status, .str "Online"), (.lastSeen, .str "0")]

/-- Alice and Bob are stored and signed in. -/
def aliceAndBob : World := .initial
  { Login.World.initial
      ((Store.empty.set .users "alice" 0 (person "alice")).set .users "bob" 1 (person "bob"))
      fun _ => {} with
    session := [⟨0, .editor 0 (some (person "alice"))⟩, ⟨1, .editor 0 (some (person "bob"))⟩] }

def aliceWithCarol : Screen := ⟨0, some "alice", "carol", 0⟩

def bobWithAlice : Screen := ⟨1, some "bob", "alice", 1⟩

/-- Everything happens at one time. -/
def clock : ℕ → Tick := fun _ => { now := 5000000 }

/-- Alice opens her chat with Carol, and Bob his with Alice. -/
def opened : List (Event Action) :=
  [.call (.openChat aliceWithCarol "ac") clock, .call (.openChat bobWithAlice "ab") clock]

/-- Alice types. -/
def typed : List (Event Action) :=
  [.call (.onChanged aliceWithCarol "hello") clock, .resume 0 clock, .resume 0 clock]

/-- Alice's app comes to the foreground again. -/
def active : List (Event Action) :=
  [.call (.setIsActive 0) clock, .resume 0 clock, .resume 0 clock]

/-- The run of these events. -/
def after (es : List (Event Action)) : Config World Scope := presence.exec ⟨aliceAndBob, [], []⟩ es

/-- The chat screens are opened in both runs, and Alice types in the first. -/
theorem twin_typed : presence.Twin (cover aliceAndBob.signedIn "alice" "carol") (after [])
    (opened ++ typed) (after (opened ++ typed)) opened (after opened) := by
  have h₀ : presence.Twin (cover aliceAndBob.signedIn "alice" "carol") (after []) [] (after []) []
      (after []) := .nil
  have h₁ := h₀.both (by decide +kernel) (by decide +kernel)
    (.call (.openChat aliceWithCarol "ac") clock rfl)
  have h₂ := h₁.both (by decide +kernel) (by decide +kernel)
    (.call (.openChat bobWithAlice "ab") clock rfl)
  have h₃ := h₂.left (e := .call (.onChanged aliceWithCarol "hello") clock) (by decide +kernel) rfl
  have h₄ := h₃.left (e := .resume 0 clock) trivial ⟨_, rfl, rfl⟩
  exact h₄.left (e := .resume 0 clock) trivial ⟨_, rfl, rfl⟩

/-- Afterwards she comes back to the app, in both. -/
theorem twin_active : presence.Twin (cover aliceAndBob.signedIn "alice" "carol") (after [])
    (opened ++ typed ++ active) (after (opened ++ typed ++ active)) (opened ++ active)
    (after (opened ++ active)) := by
  have h₁ := twin_typed.both (by decide +kernel) (by decide +kernel)
    (.call (.setIsActive 0) clock rfl)
  have h₂ := h₁.both (by decide +kernel) (by decide +kernel)
    (.resume (i := 0) clock rfl rfl rfl rfl rfl)
  exact h₂.both (by decide +kernel) (by decide +kernel)
    (.resume (i := 0) clock rfl rfl rfl rfl rfl)

theorem typing_private_active :
    UserLastSeen.build (after (opened ++ typed ++ active)).world bobWithAlice =
      UserLastSeen.build (after (opened ++ active)).world bobWithAlice :=
  typing_private twin_active rfl rfl bobWithAlice

/-- Bob sees that Alice is typing, and it is to Carol. -/
theorem typing_leaks :
    ¬ ∀ (w₀ : World) (A B C : String), B ≠ C → ∀ (es es' : List (Event Action))
      (c c' : Config World Scope),
        presence.Twin (cover w₀.signedIn A C) ⟨w₀, [], []⟩ es c es' c' →
        ∀ s, w₀.signedIn s.device = some B → s.pId = A →
          UserLastSeen.build c.world s = UserLastSeen.build c'.world s := by
  intro h
  have hline := h aliceAndBob "alice" "bob" "carol" (by decide) _ _ _ _ twin_typed bobWithAlice
    (by decide +kernel) rfl
  revert hline
  decide +kernel

end FlutterTheme.Presence
