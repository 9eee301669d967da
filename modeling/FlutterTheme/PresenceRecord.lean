import FlutterTheme.Embed
import FlutterTheme.LoginSafe
import FlutterTheme.Presence

/-!
# Presence documents

Where the status of a user is Offline, `UserLastSeen` parses `lastSeen`. All presence writes
together: those of the chat screens, those of the login and the profile editor, and the
document that `userRegister` stores, which says Offline and has no `lastSeen`.

`Unwritten` says that nobody has written the status of a user since the registration. In a state
of a run all documents can be read exactly if there is no such user, and then no chat screen
throws (`readable_iff`).
-/

namespace FlutterTheme.Presence

open EventLoop DocStore Login

/-! ## All presence writes -/

/-- What can happen: something in the login or the profile editor, or on a chat screen. -/
inductive Deed : Type where
  | login (a : Login.Action)
  | presence (a : Presence.Action)

/-- The part of the world the login is about. -/
def loginPart : Part World Login.World := ⟨World.login, fun s w => { w with login := s }⟩

/-- The handler of an action. -/
def Deed.body (auth : Auth) : Deed → Handler Unit
  | login a => Async.embed loginPart .other (a.body auth)
  | presence a => a.body

/-- It is a write of some other part of the application. -/
def isOthers : Login.Action → Bool
  | .others _ => true
  | _ => false

/-- When an action can be started; no other part of the application writes. -/
def Deed.enabled (w : World) : Deed → Prop
  | login a => isOthers a = false ∧ a.enabled w.login
  | presence a => a.enabled w

instance (w : World) : (a : Deed) → Decidable (a.enabled w)
  | .login a => inferInstanceAs (Decidable (isOthers a = false ∧ a.enabled w.login))
  | .presence a => inferInstanceAs (Decidable (a.enabled w))

/-- All devices, from the registration of their users on. -/
def devices (auth : Auth) : System World Scope Deed where
  scope a _ := match a with
    | .login _ => .other
    | .presence a => a.scope
  body := Deed.body auth
  enabled w a := a.enabled w

instance (auth : Auth) (c : Config World Scope) :
    (e : Event Deed) → Decidable ((devices auth).admits c e)
  | .call a _ => inferInstanceAs (Decidable (a.enabled c.world))
  | .resume _ _ => inferInstanceAs (Decidable True)

/-- Nobody has registered, and no chat screen is open. -/
def start (platform : ℕ → Platform) : Config World Scope :=
  ⟨World.initial (Login.World.initial .empty platform), [], []⟩

/-! ## What is written -/

/-- The status can be shown: it is a text, and if it is Offline then `lastSeen` is a number. -/
def Spoken (d : Data) : Prop :=
  ∃ s, d .status = some (.str s) ∧ (s = "Offline" → (lastSeenOf d).isSome = true)

/-- Nothing is said of the status. -/
def Quiet (d : Data) : Prop := d .status = none ∧ d .lastSeen = none

/-- As `userRegister` leaves it. -/
def Bare (d : Data) : Prop := d .status = some (.str "Offline") ∧ d .lastSeen = none

variable {d u : Data}

theorem Bare.lastSeenOf (h : Bare d) : lastSeenOf d = none := by
  rw [Presence.lastSeenOf, h.2]
  rfl

theorem Spoken.merge (h : Spoken u) : Spoken (d.merge u) := by
  obtain ⟨s, hs, hlast⟩ := h
  refine ⟨s, Fields.merge_of_some hs, fun ho => ?_⟩
  have hsome := hlast ho
  cases hlastSeen : u .lastSeen with
  | none =>
    rw [lastSeenOf, hlastSeen] at hsome
    cases hsome
  | some v =>
    rw [lastSeenOf, Fields.merge_of_some hlastSeen, ← hlastSeen]
    exact hsome

/-- What says nothing of the status leaves it as it is. -/
theorem Quiet.spoken_merge (h : Quiet u) : Spoken (d.merge u) ↔ Spoken d := by
  rw [Spoken, Spoken, lastSeenOf, lastSeenOf, Fields.merge_of_none h.1, Fields.merge_of_none h.2]

theorem Quiet.bare_merge (h : Quiet u) : Bare (d.merge u) ↔ Bare d := by
  rw [Bare, Bare, Fields.merge_of_none h.1, Fields.merge_of_none h.2]

/-- A status other than Offline. -/
theorem spoken_of_ne {s : String} (hs : u .status = some (.str s)) (hne : s ≠ "Offline") :
    Spoken u :=
  ⟨s, hs, fun h => absurd h hne⟩

/-- What one action does to the user documents. -/
inductive Touches (s s' : Store Path Key Value) : Prop where
  | rest (h : s' = s)
  | save (id : String) (u : Data) (hu : Spoken u ∨ Quiet u)
    (h : s' = s.update .users (.named id) u)
  | register (user : FirebaseUser) (platform : Platform) (token phone : Option String) (pos : ℕ)
    (h : s' = s.set .users user.uid pos (newUserFields user platform token phone))

/-- What the login and the profile editor do. -/
def loginDeeds : Deeds Login.World :=
  ⟨fun _ w w' => Touches w.store w'.store, fun _ _ => .rest rfl⟩

/-- What all handlers do. -/
def allDeeds : Deeds World :=
  ⟨fun _ w w' => Touches w.login.store w'.login.store, fun _ _ => .rest rfl⟩

/-! ## The handlers of the login -/

section Login

variable {α : Type} {dev k : ℕ} {stored : Stored} {user? : Option Data}

theorem all_device : (device dev).All loginDeeds := Async.all_get

theorem all_modifyDevice {f : Device → Device} : (modifyDevice dev f).All loginDeeds :=
  Async.all_modify fun _ _ => .rest rfl

theorem all_modifyOtp {f : OtpController → OtpController} : (modifyOtp dev f).All loginDeeds :=
  all_modifyDevice

theorem all_editor : (editor k).All loginDeeds := Async.all_get

theorem all_modifyEditor {f : EditProfileController → EditProfileController} :
    (modifyEditor k f).All loginDeeds :=
  Async.all_modify fun _ _ => .rest rfl

theorem all_showMessage {m : Message} : (showMessage dev m).All loginDeeds :=
  Async.all_modify fun _ _ => .rest rfl

theorem all_storeUser : (storeUser dev stored).All loginDeeds :=
  Async.all_bind (Async.all_modify fun _ _ => .rest rfl) fun _ => Async.all_pause

theorem all_getToken : (getToken dev).All loginDeeds := Async.all_remote fun _ _ => .rest rfl

theorem all_docId : (docId user?).All loginDeeds := by
  unfold docId
  split
  · split
    · exact Async.all_pure
    · exact Async.all_throw
  · exact Async.all_throw

theorem all_loginUpdate {id : String} (hu : Spoken u ∨ Quiet u) :
    (Login.update id u).All loginDeeds :=
  Async.all_bind (Async.all_remote fun _ _ => .save id u hu rfl) fun _ =>
    Async.all_ite Async.all_pure Async.all_throw

theorem all_tryUpdate {id : String} (hu : Spoken u ∨ Quiet u) :
    (tryUpdate id u).All loginDeeds :=
  Async.all_bind (Async.all_attempt fun _ _ => .save id u hu rfl) fun _ => Async.all_pure

theorem all_getDoc {id : String} : (getDoc id).All loginDeeds :=
  Async.all_remote fun _ _ => .rest rfl

theorem all_homeNavigation {user : Data} : (homeNavigation dev user stored).All loginDeeds := by
  refine Async.all_spawn (Async.all_bind all_modifyDevice fun _ => ?_)
  refine Async.all_bind all_storeUser fun _ => Async.all_bind all_modifyDevice fun _ => ?_
  refine Async.all_bind Async.all_pause fun _ => Async.all_spawn ?_
  refine Async.all_bind all_getToken fun token => Async.all_bind all_docId fun id => ?_
  refine Async.all_bind (all_loginUpdate (Or.inl (spoken_of_ne (s := "Online") rfl (by decide)))) ?_
  exact fun _ => all_modifyDevice

theorem all_onVerifyCode {phone dialCode : String} :
    (onVerifyCode dev phone dialCode).All loginDeeds :=
  Async.all_bind (Async.all_modify fun _ _ => .rest rfl) fun _ => all_modifyOtp

theorem all_enterByGate : (enterByGate dev).All loginDeeds := by
  refine Async.all_spawn (Async.all_bind (Async.all_attempt fun _ _ => .rest rfl) fun value => ?_)
  match value with
  | none | some none => exact Async.all_pure
  | some (some account) => exact all_homeNavigation

theorem all_checkValidation : (checkValidation dev).All loginDeeds := by
  refine Async.all_bind all_device fun s => ?_
  refine Async.all_bind (Async.all_modify fun _ _ => .rest rfl) fun _ => ?_
  refine Async.all_ite (Async.all_ite all_enterByGate ?_) all_modifyDevice
  refine Async.all_bind all_modifyDevice fun _ => ?_
  exact Async.all_bind all_onVerifyCode fun _ => all_modifyDevice

theorem all_codeSent : (codeSent k).All loginDeeds := by
  refine Async.all_bind Async.all_get fun request => ?_
  cases request with
  | none => exact Async.all_pure
  | some request => exact all_modifyOtp

theorem all_verificationFailed : (verificationFailed k).All loginDeeds := by
  refine Async.all_bind Async.all_get fun request => ?_
  cases request with
  | none => exact Async.all_pure
  | some request => exact Async.all_bind all_showMessage fun _ => all_modifyOtp

theorem all_userRegister {user : FirebaseUser} : (userRegister dev user).All loginDeeds := by
  refine Async.all_bind (Async.all_spawn ?_) fun _ => Async.all_pause
  refine Async.all_bind all_getToken fun token => Async.all_bind all_device fun s => ?_
  refine Async.all_bind (Async.all_attempt fun t w => ?_) fun _ => Async.all_pure
  exact .register user s.platform token s.otpCtrl.mobileNumber t.pos rfl

theorem all_toEditProfile {lookup : ℕ} {account : Document} {isPhoneLogin : Bool} :
    (toEditProfile dev lookup account isPhoneLogin).All loginDeeds :=
  Async.all_modify fun _ _ => .rest rfl

theorem all_enter {lookup : ℕ} {account : Document} :
    (enter dev lookup account).All loginDeeds :=
  Async.all_bind all_storeUser fun _ => Async.all_bind all_homeNavigation fun _ => all_modifyOtp

theorem all_lookedUp {q : Lookup} : (lookedUp q).All loginDeeds := by
  unfold lookedUp
  split
  · exact Async.all_ite (Async.all_bind all_toEditProfile fun _ => all_modifyOtp) all_enter
  · refine Async.all_bind all_userRegister fun _ => ?_
    refine Async.all_bind (Async.all_attempt fun _ _ => .rest rfl) fun resultData => ?_
    match resultData with
    | none | some none => exact Async.all_pure
    | some (some account) => exact Async.all_ite all_toEditProfile all_enter

theorem all_lookUp {signIn : SignIn} : (lookUp signIn).All loginDeeds := by
  refine Async.all_bind Async.all_get fun x => ?_
  refine Async.all_bind (Async.all_attempt fun _ _ => .rest rfl) fun value => ?_
  cases value with
  | none => exact Async.all_pure
  | some q => exact all_lookedUp

theorem all_signedIn {value : Option (Option SignIn)} : (signedIn dev value).All loginDeeds := by
  match value with
  | none | some none => exact Async.all_bind all_modifyOtp fun _ => all_showMessage
  | some (some signIn) => exact Async.all_spawn all_lookUp

theorem all_onFormSubmitted {auth : Auth} : (onFormSubmitted auth dev).All loginDeeds := by
  refine Async.all_bind all_modifyOtp fun _ => Async.all_bind all_device fun s => ?_
  split
  · refine Async.all_spawn (Async.all_bind (Async.all_attempt fun _ w => ?_) fun _ => all_signedIn)
    split
    · split
      · exact .rest rfl
      · exact .rest rfl
    · exact .rest rfl
  · exact Async.all_throw

theorem all_saveProfile {token : Option String} : (saveProfile k token).All loginDeeds := by
  refine Async.all_bind all_editor fun s => Async.all_bind all_docId fun id => ?_
  refine Async.all_bind (all_tryUpdate (Or.inl (spoken_of_ne (s := "Online") rfl (by decide)))) ?_
  refine fun saved => Async.all_ite (Async.all_bind (Async.all_spawn ?_) fun _ => ?_) Async.all_pure
  · refine Async.all_bind all_editor fun _ => Async.all_bind all_docId fun _ => ?_
    refine Async.all_bind all_getDoc fun _ => Async.all_bind all_modifyDevice fun _ => ?_
    exact Async.all_bind Async.all_pause fun _ => all_storeUser
  · exact all_modifyDevice

theorem all_updateUserData : (updateUserData k).All loginDeeds := by
  refine Async.all_bind all_modifyEditor fun _ => Async.all_spawn ?_
  refine Async.all_bind all_editor fun s => Async.all_bind all_getToken fun token => ?_
  refine Async.all_bind all_editor fun s => ?_
  refine Async.all_bind (Async.all_spawn ?_) fun _ => all_modifyEditor
  refine Async.all_bind (Async.all_remote fun _ _ => .rest rfl) fun value => ?_
  exact Async.all_ite all_showMessage all_saveProfile

/-- The upload of a profile picture writes the user document only by the update of the image; the
session and the controllers are no documents. -/
theorem all_uploadFile {downloadUrl : String} : (uploadFile k downloadUrl).All loginDeeds := by
  refine Async.all_bind all_modifyEditor fun _ => Async.all_spawn ?_
  refine Async.all_bind (Async.all_remote fun _ _ => .rest rfl) fun _ => ?_
  refine Async.all_bind (Async.all_attempt fun _ _ => .rest rfl) fun url => ?_
  refine Async.all_bind all_editor fun s => ?_
  cases url with
  | none => exact all_showMessage
  | some url =>
    cases s.user with
    | none => exact Async.all_throw
    | some user =>
      refine Async.all_bind all_modifyEditor fun _ => Async.all_bind all_storeUser fun _ => ?_
      refine Async.all_bind all_modifyEditor fun _ => Async.all_bind all_editor fun s => ?_
      refine Async.all_bind all_docId fun id => ?_
      refine Async.all_bind (all_loginUpdate (Or.inr ⟨rfl, rfl⟩)) fun _ => ?_
      refine Async.all_bind (Async.all_spawn ?_) fun _ => all_modifyEditor
      refine Async.all_bind all_editor fun _ => Async.all_bind all_docId fun _ => ?_
      refine Async.all_bind all_getDoc fun _ => ?_
      exact Async.all_bind all_storeUser fun _ => all_modifyEditor

/-- What the login and the profile editor do. -/
theorem all_login {auth : Auth} {a : Login.Action} (h : isOthers a = false) :
    (a.body auth).All loginDeeds := by
  cases a with
  | onReady d arguments => exact all_modifyDevice
  | typePhone d dialCode phone => exact all_modifyDevice
  | typeOtp d otp => exact all_modifyDevice
  | checkValidation d => exact all_checkValidation
  | codeSent r => exact all_codeSent
  | codeAutoRetrievalTimeout r => exact all_codeSent
  | verificationFailed r => exact all_verificationFailed
  | onFormSubmitted d => exact all_onFormSubmitted
  | typeProfile k name email phone status => exact all_modifyEditor
  | updateUserData k => exact all_updateUserData
  | uploadFile k downloadUrl => exact all_uploadFile
  | others op => cases h

end Login

/-! ## The handlers of the chat screens -/

section Chats

variable {by' : Scope} {dev : ℕ} {s : Screen}

theorem all_sessionUser : (sessionUser dev).All allDeeds := Async.all_get

theorem all_millisecondsSinceEpoch : ∀ k : String → Task World Scope,
    (∀ n : ℕ, (k (toString n)).All allDeeds) → (millisecondsSinceEpoch k).All allDeeds :=
  fun _ hk t _ => ⟨.rest rfl, hk (t.now / 1000)⟩

theorem all_update {id : Option String} (hu : Spoken u) : (update by' id u).All allDeeds := by
  cases id with
  | none => exact Async.all_throw
  | some id =>
    refine Async.all_bind (Async.all_remote fun _ _ => .save id u (Or.inl hu) rfl) fun found => ?_
    exact Async.all_ite Async.all_pure Async.all_throw

theorem all_setIsActive : (setIsActive by' dev).All allDeeds := by
  refine Async.all_bind all_sessionUser fun user => ?_
  cases user with
  | none => exact Async.all_pure
  | some user =>
    intro k hk
    refine all_millisecondsSinceEpoch _ fun n => ?_
    exact all_update (spoken_of_ne (s := "Online") rfl (by decide)) k hk

theorem all_setTyping : (setTyping by' dev).All allDeeds := by
  refine Async.all_bind all_sessionUser fun user k hk => ?_
  refine all_millisecondsSinceEpoch _ fun n => ?_
  exact all_update (spoken_of_ne (s := "typing...") rfl (by decide)) k hk

/-- `setLastSeen` writes the user document of the session, and nothing where nobody is signed in. -/
theorem all_setLastSeen : (setLastSeen by' dev).All allDeeds := by
  refine Async.all_bind all_sessionUser fun user => ?_
  cases user with
  | none => exact Async.all_pure
  | some user =>
    intro k hk
    refine all_millisecondsSinceEpoch _ fun n => all_update ?_ k hk
    refine ⟨"Offline", rfl, fun _ => ?_⟩
    have hparse : lastSeenOf (lastSeenFields (toString n)) = some (n : ℤ) := intParse_toString n
    rw [hparse]
    rfl

theorem all_modifyChat {f : ChatController → ChatController} : (modifyChat s f).All allDeeds :=
  Async.all_modify fun _ _ => .rest rfl

theorem all_listener : (listener s).All allDeeds := by
  refine Async.all_bind Async.all_get fun chatCtrl => ?_
  refine Async.all_ite ?_ (Async.all_ite ?_ Async.all_pure)
  · exact Async.all_bind (Async.all_spawn all_setTyping) fun _ => all_modifyChat
  · exact Async.all_bind (Async.all_spawn all_setIsActive) fun _ => all_modifyChat

theorem all_setText {text : String} : (setText s text).All allDeeds :=
  Async.all_bind all_modifyChat fun _ => Async.all_bind Async.all_get fun _ =>
    Async.all_forEach fun _ _ => all_listener

/-- What the chat screens do. -/
theorem all_presence {a : Presence.Action} : a.body.All allDeeds := by
  cases a with
  | openChat s chatId => exact Async.all_bind all_modifyChat fun _ => all_modifyChat
  | onChanged s text => exact Async.all_bind all_setText fun _ => all_modifyChat
  | clear s => exact all_setText
  | resumed s => exact Async.all_bind (Async.all_spawn all_setIsActive) fun _ => all_modifyChat
  | setIsActive d => exact all_setIsActive
  | setLastSeen d => exact all_setLastSeen
  | onBackPress s =>
    exact Async.all_spawn (all_update (spoken_of_ne (s := "Online") rfl (by decide)))

end Chats

theorem acts_devices {auth : Auth} {c : Config World Scope} {e : Event Deed}
    (he : (devices auth).admits c e) : (devices auth).Acts allDeeds e := by
  cases e with
  | resume i ticks => trivial
  | call a ticks =>
    cases a with
    | login a =>
      exact Async.All.embed (V := loginPart) (D := loginDeeds) (fun _ _ _ h => h) (all_login he.1)
    | presence a => exact all_presence

/-! ## What is left of a registration -/

/-- The user is registered: the document is stored. -/
def Registers (id : String) (st : Step World Scope) : Prop :=
  ∃ (user : FirebaseUser) (platform : Platform) (token phone : Option String) (pos : ℕ),
    user.uid = id ∧ st.after.login.store =
      st.before.login.store.set .users id pos (newUserFields user platform token phone)

/-- The status of the user is written, into the document that is there. -/
def Speaks (id : String) (st : Step World Scope) : Prop :=
  ∃ u, Spoken u ∧ (st.before.login.store.doc? .users (.named id)).isSome = true ∧
    st.after.login.store = st.before.login.store.update .users (.named id) u

/-- The user has been registered, and the status has not been written since. -/
def Unwritten (id : String) (sts : List (Step World Scope)) : Prop :=
  ∃ before st after, sts = before ++ st :: after ∧ Registers id st ∧ ∀ st' ∈ after, ¬ Speaks id st'

/-- Every document can be read, except for those that a registration has left; these cannot. -/
structure Told (sts : List (Step World Scope)) (w : World) : Prop where
  bare : ∀ id, Unwritten id sts → ∃ d ∈ w.docs, d.id = .named id ∧ Bare d.data
  spoken : ∀ d ∈ w.docs, Spoken d.data ∨ ∃ id, d.id = .named id ∧ Unwritten id sts

variable {id : String} {st : Step World Scope} {past : List (Step World Scope)}

theorem Unwritten.snoc (h : Unwritten id past) (hst : ¬ Speaks id st) :
    Unwritten id (past ++ [st]) := by
  obtain ⟨before, st₀, after, rfl, hreg, hafter⟩ := h
  refine ⟨before, st₀, after ++ [st], by simp, hreg, fun st' hst' => ?_⟩
  rcases List.mem_append.mp hst' with hst' | hst'
  · exact hafter st' hst'
  · obtain rfl := List.mem_singleton.mp hst'
    exact hst

/-- A document that has not been written to since its registration is registered by the last action,
or was so before and the last action does not write to it. -/
theorem Unwritten.of_snoc (h : Unwritten id (past ++ [st])) :
    Registers id st ∨ (Unwritten id past ∧ ¬ Speaks id st) := by
  obtain ⟨before, st₀, after, heq, hreg, hafter⟩ := h
  rcases List.eq_nil_or_concat after with rfl | ⟨after', st', rfl⟩
  · have hlast := List.append_inj_right' heq rfl
    exact Or.inl ((List.cons.inj hlast).1 ▸ hreg)
  · rw [List.concat_eq_append, ← List.cons_append, ← List.append_assoc] at heq
    obtain ⟨rfl, hlast⟩ := List.append_inj' heq rfl
    obtain rfl := (List.cons.inj hlast).1
    refine Or.inr ⟨⟨before, st₀, after', rfl, hreg, fun st' hst' => ?_⟩, ?_⟩
    · exact hafter st' (by simp [hst'])
    · exact hafter st (by simp)

/-- A registration leaves a document that cannot be read. -/
theorem Registers.bare (h : Registers id st) :
    ∃ d ∈ st.after.docs, d.id = .named id ∧ Bare d.data := by
  obtain ⟨user, platform, token, phone, pos, -, hstore⟩ := h
  refine ⟨⟨.named id, newUserFields user platform token phone⟩, ?_, rfl, rfl, rfl⟩
  rw [World.docs, hstore]
  exact Store.mem_set.mpr (Or.inl ⟨rfl, rfl⟩)

theorem Registers.unwritten (h : Registers id st) : Unwritten id (past ++ [st]) :=
  ⟨past, st, [], rfl, h, fun _ hst' => absurd hst' List.not_mem_nil⟩

/-- A status that has been written can be read. -/
theorem Speaks.spoken (h : Speaks id st) {d : Document} (hd : d ∈ st.after.docs)
    (hname : d.id = .named id) : Spoken d.data := by
  obtain ⟨u, hu, -, hstore⟩ := h
  rw [World.docs, hstore] at hd
  obtain ⟨y, -, rfl⟩ := Store.mem_update.mp hd
  by_cases hy : y.id = .named id
  · simp only [hy, and_self, if_true]
    exact hu.merge
  · simp only [hy, and_false, if_false] at hname

/-- A document that a registration has left stays so until its status is written. -/
theorem Told.step_bare (hspeaks : ¬ Speaks id st) {d : Document} (hd : d ∈ st.before.docs)
    (hname : d.id = .named id) (hbare : Bare d.data)
    (hst : Touches st.before.login.store st.after.login.store) :
    ∃ d ∈ st.after.docs, d.id = .named id ∧ Bare d.data := by
  cases hst with
  | rest hstore => exact ⟨d, by rwa [World.docs, hstore], hname, hbare⟩
  | save id' u hu hstore =>
    rw [World.docs, hstore]
    by_cases heq : id' = id
    · subst heq
      rcases hu with hu | hu
      · refine absurd ⟨u, hu, ?_, hstore⟩ hspeaks
        rw [(Store.doc?_eq_some _).mpr ⟨hd, hname⟩]
        rfl
      · exact ⟨⟨d.id, d.data.merge u⟩, Store.mem_update.mpr ⟨d, hd, by simp [hname]⟩, hname,
          hu.bare_merge.mpr hbare⟩
    · refine ⟨d, Store.mem_update.mpr ⟨d, hd, ?_⟩, hname, hbare⟩
      rw [if_neg]
      rintro ⟨-, hid⟩
      exact heq (DocId.named.inj (hid.symm.trans hname))
  | register user platform token phone pos hstore =>
    by_cases heq : user.uid = id
    · exact Registers.bare ⟨user, platform, token, phone, pos, heq, heq ▸ hstore⟩
    · rw [World.docs, hstore]
      refine ⟨d, Store.mem_set.mpr (Or.inr ⟨hd, ?_⟩), hname, hbare⟩
      rintro ⟨-, hid⟩
      exact heq (DocId.named.inj (hid.symm.trans hname))

/-- A document after an action is new, or its status has been written, or it is as before. -/
theorem Told.step_spoken (h : Told past st.before) {d : Document} (hd : d ∈ st.after.docs)
    (hst : Touches st.before.login.store st.after.login.store) :
    Spoken d.data ∨ ∃ id, d.id = .named id ∧ Unwritten id (past ++ [st]) := by
  have hkeep : ∀ y ∈ st.before.docs, d.id = y.id → (Spoken y.data → Spoken d.data) →
      Spoken d.data ∨ ∃ id, d.id = .named id ∧ Unwritten id (past ++ [st]) := by
    intro y hy hid hspoken
    rcases h.spoken y hy with hs | ⟨id, hname, hun⟩
    · exact Or.inl (hspoken hs)
    · by_cases hspeaks : Speaks id st
      · exact Or.inl (hspeaks.spoken hd (hid.trans hname))
      · exact Or.inr ⟨id, hid.trans hname, hun.snoc hspeaks⟩
  have hmem := hd
  cases hst with
  | rest hstore =>
    rw [World.docs, hstore] at hmem
    exact hkeep d hmem rfl id
  | save id' u hu hstore =>
    rw [World.docs, hstore] at hmem
    obtain ⟨y, hy, heq⟩ := Store.mem_update.mp hmem
    by_cases hid : y.id = .named id'
    · rw [if_pos ⟨rfl, hid⟩] at heq
      subst heq
      -- the write brings a status that can be shown, or leaves the status alone
      rcases hu with hu | hu
      · exact Or.inl hu.merge
      · exact hkeep y hy rfl hu.spoken_merge.mpr
    · rw [if_neg fun hboth => hid hboth.2] at heq
      subst heq
      exact hkeep d hy rfl fun hs => hs
  | register user platform token phone pos hstore =>
    rw [World.docs, hstore] at hmem
    rcases Store.mem_set.mp hmem with ⟨-, rfl⟩ | ⟨hy, -⟩
    · exact Or.inr ⟨user.uid, rfl,
        Registers.unwritten ⟨user, platform, token, phone, pos, rfl, hstore⟩⟩
    · exact hkeep d hy rfl fun hs => hs

/-- One more action. -/
theorem Told.step (h : Told past st.before)
    (hst : Touches st.before.login.store st.after.login.store) : Told (past ++ [st]) st.after where
  bare id hid := by
    rcases hid.of_snoc with hreg | ⟨hid, hspeaks⟩
    · exact hreg.bare
    · obtain ⟨d, hd, hname, hbare⟩ := h.bare id hid
      exact Told.step_bare hspeaks hd hname hbare hst
  spoken _ hd := h.step_spoken hd hst

/-! ## Runs -/

variable {auth : Auth} {platform : ℕ → Platform} {es : List (Event Deed)} {c : Config World Scope}

/-- What every run has told: a document can be read unless a registration has left it and nothing
has been written to it since. By induction on the run. -/
theorem told (h : (devices auth).Run (devices auth).admits (start platform) es c) :
    Told ((devices auth).moves (start platform) es) c.world := by
  have hstart : (start platform).All allDeeds := fun _ hth => absurd hth List.not_mem_nil
  have htouches : ∀ st ∈ (devices auth).moves (start platform) es,
      Touches st.before.login.store st.after.login.store := by
    refine h.forall_moves fun es c e h he st hst => ?_
    have hall := h.all hstart fun _ _ => acts_devices
    obtain ⟨t, hrel⟩ := System.rel_of_mem_steps hall (acts_devices he) hst
    exact hrel
  have hempty : Told [] (start platform).world := by
    refine ⟨fun id hid => ?_, fun d hd => absurd hd List.not_mem_nil⟩
    obtain ⟨before, st, after, heq, -⟩ := hid
    exact absurd heq (by simp)
  have hleads : Leads (start platform).world ((devices auth).moves (start platform) es)
      ((devices auth).exec (start platform) es).world := System.leads_moves
  rw [h.exec_eq]
  exact hleads.keeps_past (P := Told) (fun _ st hst hpast => hpast.step (htouches st hst)) hempty

/-- Every user document whose status is Offline has a `lastSeen` that parses as an integer. -/
def Parses (w : World) : Prop :=
  ∀ d ∈ w.docs, d.data .status = some (.str "Offline") → (lastSeenOf d.data).isSome = true

instance (w : World) : Decidable (Parses w) := inferInstanceAs (Decidable
  (∀ d ∈ w.docs, d.data .status = some (.str "Offline") → (lastSeenOf d.data).isSome = true))

/-- All of them parse, and `UserLastSeen` throws on no chat screen with a stored user. -/
def Readable (w : World) : Prop :=
  Parses w ∧ ∀ s, (∃ d ∈ w.docs, d.data .id = some (.str s.pId)) →
    (UserLastSeen.build w s).isSome = true

theorem Spoken.ofData {d : Data} (h : Spoken d) : (Line.ofData d).isSome = true := by
  obtain ⟨s, hs, hlast⟩ := h
  rw [Line.ofData, hs]
  dsimp only
  split
  · next ho =>
    rw [Option.isSome_map]
    exact hlast ho
  · rfl

/-- The line on a chat screen with a stored user. -/
theorem build_isSome {w : World} {s : Screen} (hw : ∀ d ∈ w.docs, Spoken d.data)
    (hs : ∃ d ∈ w.docs, d.data .id = some (.str s.pId)) :
    (UserLastSeen.build w s).isSome = true := by
  unfold UserLastSeen.build
  split
  · rfl
  · obtain ⟨d, hd, hid⟩ := hs
    have hquery : d ∈ w.login.store.query .users (Fields.isEqualTo .id (.str s.pId)) :=
      (Store.mem_query _).mpr ⟨hd, Fields.isEqualTo_iff.mpr hid⟩
    obtain ⟨d', rest, hcons⟩ := List.exists_cons_of_ne_nil (List.ne_nil_of_mem hquery)
    rw [hcons, List.head?_cons, Option.bind_some]
    have hd' : d' ∈ w.login.store.query .users (Fields.isEqualTo .id (.str s.pId)) := by
      rw [hcons]
      exact List.mem_cons_self ..
    exact (hw d' ((Store.mem_query _).mp hd').1).ofData

/-- **Presence documents** can be read in a state of a run exactly if the status of every user
has been written since the registration. -/
theorem readable_iff
    (h : (devices auth).Run (devices auth).admits (start platform) es c) :
    Readable c.world ↔ ∀ id, ¬ Unwritten id ((devices auth).moves (start platform) es) := by
  have htold := told h
  constructor
  · intro hread id hid
    obtain ⟨d, hd, -, hbare⟩ := htold.bare id hid
    have hsome := hread.1 d hd hbare.1
    rw [hbare.lastSeenOf] at hsome
    cases hsome
  · intro hun
    have hspoken : ∀ d ∈ c.world.docs, Spoken d.data := fun d hd =>
      (htold.spoken d hd).resolve_right fun ⟨id, _, hid⟩ => hun id hid
    refine ⟨fun d hd ho => ?_, fun s hs => build_isSome hspoken hs⟩
    obtain ⟨s, hs, hlast⟩ := hspoken d hd
    rw [ho] at hs
    cases hs
    exact hlast rfl

/-! ## A new user -/

/-- Events of the login. -/
def onLogin : List (Event Login.Action) → List (Event Deed) :=
  List.map fun
    | .call a ticks => .call (.login a) ticks
    | .resume i ticks => .resume i ticks

/-- A user registers. -/
def registers : List (Event Deed) := onLogin (signsIn 0 0 "+1" "5550100")

/-- The user signs in again, and saves the profile. -/
def saves : List (Event Deed) :=
  onLogin (signsIn 0 1 "+1" "5550100" ++
    alone (.typeProfile 0 "Ann" "ann@mail" "5550100" "Hi") ++ alone (.updateUserData 0))

/-- The run of these events. -/
def afterDeeds (es : List (Event Deed)) : Config World Scope :=
  (devices byNumber).exec (start fun _ => {}) es

theorem readable_iff_saves :
    ¬ Unwritten "+15550100" ((devices byNumber).moves (start fun _ => {}) (registers ++ saves)) := by
  have honline : ∀ d ∈ (afterDeeds (registers ++ saves)).world.docs,
      d.data .status = some (.str "Online") := by
    decide +kernel
  have hread : Readable (afterDeeds (registers ++ saves)).world := by
    refine ⟨fun d hd ho => ?_, fun s hs => build_isSome (fun d hd => ?_) hs⟩
    · rw [honline d hd] at ho
      exact absurd ho (by decide)
    · exact spoken_of_ne (honline d hd) (by decide)
  exact (readable_iff (System.run_exec (by decide +kernel))).mp hread "+15550100"

/-- Between the registration and the profile nobody can see when the user was there last. -/
theorem readable_fails :
    ¬ ∀ (auth : Auth) (platform : ℕ → Platform) (es : List (Event Deed)) (c : Config World Scope),
      (devices auth).Run (devices auth).admits (start platform) es c → Readable c.world := by
  intro h
  have hread := h byNumber (fun _ => {}) registers _ (System.run_exec (by decide +kernel))
  have hparses : ¬ Parses (afterDeeds registers).world := by decide +kernel
  exact hparses hread.1

end FlutterTheme.Presence
