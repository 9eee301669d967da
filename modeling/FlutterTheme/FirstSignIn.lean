import FlutterTheme.ProfilePicture

/-!
# Signing in for the first time

Who signs in and has no user document yet is registered: `userRegister` asks for the push token and
then sets the document, but returns at once, and `getUserData` reads the document with nothing
between the two but the order in which they come to Firestore. What follows on the answer throws if
there is none, and also if the new user has no name, and both are caught and logged only.

* `first_sign_in_iff` — when a first sign-in completes.
-/

namespace FlutterTheme.Login.FirstSignIn

open EventLoop DocStore

/-! ## The handlers in parts -/

section Parts

variable (d : ℕ)

/-- The push token of a new user has come. -/
def tokenCame (user : FirebaseUser) (token : Option String) : Handler Unit := do
  let s ← device d
  let _ ← Async.attempt fun t w => ((), { w with
    store := w.store.set .users user.uid t.pos
      (newUserFields user s.platform token s.otpCtrl.mobileNumber) })
  pure ()

/-- What the profile update of `homeNavigation` writes. -/
def onlineFields (token : Option String) : Data :=
  .ofList [(.status, .str "Online"), (.pushToken, .ofString token), (.isActive, .bool true)]

/-- The profile update of `homeNavigation` has been answered. -/
def onlineAnswered (found : Bool) : Handler Unit := do
  (if found then pure () else Async.throw)
  toDashboard d

/-- The push token has come in `homeNavigation`. -/
def goOnline (user : Data) (token : Option String) : Handler Unit := do
  let id ← docId (some user)
  update id (onlineFields token)
  toDashboard d

/-- The end of `homeNavigation`. -/
def askToken (user : Data) : Handler Unit := Async.spawn do
  let token ← getToken d
  goOnline d user token

/-- `session.user` has been stored by `homeNavigation`. -/
def introduce (user : Data) : Handler Unit := do
  modifyDevice d fun s => { s with isIntro := true }
  Async.pause
  askToken d user

/-- `session.user` has been stored by `onFormSubmitted`. -/
def goHome (lookup : ℕ) (account : Document) : Handler Unit := do
  homeNavigation d account.data (.submission lookup account)
  modifyOtp d fun s => { s with isLoading := false }

/-- The document has been read after the registration. -/
def accountRead (q : Lookup) (resultData : Option (Option Document)) : Handler Unit :=
  match resultData with
  | some (some account) =>
    if isNew account then
      toEditProfile q.signIn.device q.id account true
    else
      enter q.signIn.device q.id account
  | _ => pure ()

/-- The user has been registered. -/
def readAccount (q : Lookup) : Handler Unit := do
  let resultData ← getUserData q.signIn.user
  accountRead q resultData

/-- The account has been looked for. -/
def answered (value : Option Lookup) : Handler Unit :=
  match value with
  | some q => lookedUp q
  | none => pure ()

end Parts

/-! ## A submission as a machine -/

/-- Where a call is suspended. -/
inductive Point : Type where
  /-- the code is being verified -/
  | signIn (verificationId : ℕ) (smsCode : String)
  | signedIn (value : Option (Option SignIn))
  /-- the account is being looked for -/
  | look (signIn : SignIn) (phone : Option String) (requested : ℕ)
  | looked (value : Option Lookup)
  /-- the registration waits for the push token -/
  | token (d : ℕ) (user : FirebaseUser)
  | tokenGot (d : ℕ) (user : FirebaseUser) (token : Option String)
  /-- the user document is being set -/
  | set (uid : String) (fields : Data)
  | setDone
  /-- `userRegister` has returned -/
  | registered (q : Lookup)
  /-- the user document is being read -/
  | get (q : Lookup)
  | got (q : Lookup) (resultData : Option (Option Document))
  /-- `session.user` has been stored, and by `homeNavigation` again -/
  | entered (d lookup : ℕ) (account : Document)
  | homeStored (d : ℕ) (user : Data)
  | homeIntro (d : ℕ) (user : Data)
  /-- `homeNavigation` waits for the push token -/
  | homeToken (d : ℕ) (user : Data)
  | homeTokenGot (d : ℕ) (user : Data) (token : Option String)
  /-- the user document is being updated -/
  | online (d : ℕ) (id : String) (fields : Data)
  | onlineDone (d : ℕ) (found : Bool)

section Machine

variable (auth : Auth) (d : ℕ)

/-- The answer of `signInWithCredential`. -/
def verify (verificationId : ℕ) (smsCode : String) (w : World) : Option SignIn × World :=
  match w.requests[verificationId]? with
  | some request =>
    match auth.userOf request.number with
    | some user =>
      let signIn := ⟨d, verificationId, smsCode, request.number, user⟩
      (some signIn, { w with signIns := signIn :: w.signIns })
    | none => (none, w)
  | none => (none, w)

/-- The answer of the query for the account. -/
def find (signIn : SignIn) (phone : Option String) (requested : ℕ) (w : World) : Lookup × World :=
  let q := ⟨w.lookups.length, signIn, phone, requested, w.store.docs .users⟩
  (q, { w with lookups := w.lookups ++ [q] })

/-- What a call has left to do. -/
def task : Point → Task World Unit
  | .signIn verificationId smsCode =>
    .tryRequest (fun _ w => verify auth d verificationId smsCode w) fun value =>
      (Login.signedIn d value).task
  | .signedIn value => (Login.signedIn d value).task
  | .look signIn phone requested =>
    .tryRequest (fun _ w => find signIn phone requested w) fun value => (answered value).task
  | .looked value => (answered value).task
  | .token d user =>
    .request (fun _ w => ((w.devices d).platform.pushToken, w)) fun token =>
      (tokenCame d user token).task
  | .tokenGot d user token => (tokenCame d user token).task
  | .set uid fields =>
    .tryRequest (fun t w => ((), { w with store := w.store.set .users uid t.pos fields })) fun _ =>
      .done
  | .setDone => .done
  | .registered q => (readAccount q).task
  | .get q =>
    .tryRequest (fun _ w => (w.store.doc? .users (.named q.signIn.user.uid), w)) fun resultData =>
      (accountRead q resultData).task
  | .got q resultData => (accountRead q resultData).task
  | .entered d lookup account => (goHome d lookup account).task
  | .homeStored d user => (introduce d user).task
  | .homeIntro d user => (askToken d user).task
  | .homeToken d user =>
    .request (fun _ w => ((w.devices d).platform.pushToken, w)) fun token =>
      (goOnline d user token).task
  | .homeTokenGot d user token => (goOnline d user token).task
  | .online d id fields =>
    .request (fun _ w => ((w.store.doc? .users (.named id)).isSome, { w with
      store := w.store.update .users (.named id) fields })) fun found => (onlineAnswered d found).task
  | .onlineDone d found => (onlineAnswered d found).task

/-- The loader is shown, or not. -/
def setLoading (d : ℕ) (isLoading : Bool) (w : World) : World :=
  w.modifyDevice d fun s => { s with otpCtrl := { s.otpCtrl with isLoading := isLoading } }

/-- The profile editor is opened. -/
def openEditor (d lookup : ℕ) (account : Document) (w : World) : World :=
  { w.modifyDevice d fun s => { s with route := .editProfile } with
    editors := w.editors.alloc {
      device := d
      lookup := lookup
      account := account
      user := some account.data
      isPhoneLogin := true
      nameText := (Value.toString? (account.data .name)).getD ""
      emailText := (Value.toString? (account.data .email)).getD ""
      phoneText := (Value.toString? (account.data .phone)).getD ""
      statusText := (Value.toString? (account.data .statusDesc)).getD "" } }

/-- `session.user` is stored. -/
def store (d lookup : ℕ) (account : Document) (w : World) : World :=
  { w with session := ⟨d, .submission lookup account⟩ :: w.session }

/-- What a call does that is resumed. -/
def resume : Point → (ℕ → Tick) → World → Segment World Point
  | .signIn verificationId smsCode, ticks, w =>
    if (ticks 0).fails then { world := w, points := [.signedIn none] }
    else
      { world := (verify auth d verificationId smsCode w).2
        points := [.signedIn (some (verify auth d verificationId smsCode w).1)] }
  | .signedIn (some (some signIn)), _, w =>
    { world := w
      points := [.look signIn (w.devices signIn.device).otpCtrl.mobileNumber w.requests.length] }
  | .signedIn (some none), _, w =>
    { world := { setLoading d false w with messages := (d, .otpError) :: w.messages } }
  | .signedIn none, _, w =>
    { world := { setLoading d false w with messages := (d, .error) :: w.messages } }
  | .look signIn phone requested, ticks, w =>
    if (ticks 0).fails then { world := w, points := [.looked none] }
    else
      { world := (find signIn phone requested w).2
        points := [.looked (some (find signIn phone requested w).1)] }
  | .looked none, _, w => { world := w }
  | .looked (some q), _, w =>
    match q.found with
    | some account =>
      if isNew account then
        { world := setLoading q.signIn.device false (openEditor q.signIn.device q.id account w) }
      else
        { world := store q.signIn.device q.id account w
          points := [.entered q.signIn.device q.id account] }
    | none =>
      { world := w, points := [.token q.signIn.device q.signIn.user, .registered q] }
  | .token d user, ticks, w =>
    if (ticks 0).fails then .threw w
    else { world := w, points := [.tokenGot d user (w.devices d).platform.pushToken] }
  | .tokenGot d user token, _, w =>
    { world := w
      points := [.set user.uid (newUserFields user (w.devices d).platform token
        (w.devices d).otpCtrl.mobileNumber)] }
  | .set uid fields, ticks, w =>
    if (ticks 0).fails then { world := w, points := [.setDone] }
    else
      { world := { w with store := w.store.set .users uid (ticks 0).pos fields }
        points := [.setDone] }
  | .setDone, _, w => { world := w }
  | .registered q, _, w => { world := w, points := [.get q] }
  | .get q, ticks, w =>
    { world := w
      points := [.got q (if (ticks 0).fails then none
        else some (w.store.doc? .users (.named q.signIn.user.uid)))] }
  | .got q (some (some account)), _, w =>
    if isNew account then { world := openEditor q.signIn.device q.id account w }
    else
      { world := store q.signIn.device q.id account w
        points := [.entered q.signIn.device q.id account] }
  | .got _ _, _, w => { world := w }
  | .entered d lookup account, _, w =>
    { world := setLoading d false (store d lookup account
        (w.modifyDevice d fun s => { s with sessionId := account.data .id }))
      points := [.homeStored d account.data] }
  | .homeStored d user, _, w =>
    { world := w.modifyDevice d fun s => { s with isIntro := true }
      points := [.homeIntro d user] }
  | .homeIntro d user, _, w => { world := w, points := [.homeToken d user] }
  | .homeToken d user, ticks, w =>
    if (ticks 0).fails then .threw w
    else { world := w, points := [.homeTokenGot d user (w.devices d).platform.pushToken] }
  | .homeTokenGot d user token, _, w =>
    match Picture.idOf (some user) with
    | some id => { world := w, points := [.online d id (onlineFields token)] }
    | none => .threw w
  | .online d id fields, ticks, w =>
    if (ticks 0).fails then .threw w
    else
      { world := { w with store := w.store.update .users (.named id) fields }
        points := [.onlineDone d (w.store.doc? .users (.named id)).isSome] }
  | .onlineDone d found, _, w =>
    if found then { world := w.modifyDevice d fun s => { s with route := .dashboard } }
    else .threw w

/-- A submission as a machine. -/
def machine : Machine World Point Empty := ⟨fun a => a.elim, resume auth d⟩

end Machine

section Models

variable {auth : Auth} {d : ℕ} {ticks : ℕ → Tick} {l : Unit} {w : World} {n : ℕ}

/-- The document that was read decides on the screen: an account without a name goes to the editor,
any other one is entered, and with no document nothing happens. -/
theorem run_accountRead (q : Lookup) (resultData : Option (Option Document)) :
    ((accountRead q resultData).task.run ticks l n w).Is (task auth d)
      (resume auth d (.got q resultData) ticks w) := by
  cases resultData with
  | none => exact ⟨rfl, rfl, rfl⟩
  | some found =>
    cases found with
    | none => exact ⟨rfl, rfl, rfl⟩
    | some account =>
      cases hnew : isNew account with
      | true =>
        simp only [resume, accountRead, hnew, if_true]
        exact ⟨rfl, rfl, rfl⟩
      | false =>
        simp only [resume, accountRead, hnew]
        exact ⟨rfl, rfl, rfl⟩

/-- The answer of the lookup decides on the way: a new user is registered, a user without a name
goes to the editor, and any other one is entered. -/
theorem run_answered (value : Option Lookup) :
    ((answered value).task.run ticks l n w).Is (task auth d)
      (resume auth d (.looked value) ticks w) := by
  cases value with
  | none => exact ⟨rfl, rfl, rfl⟩
  | some q =>
    simp only [resume, answered, lookedUp]
    cases hfound : q.found with
    | none => exact ⟨rfl, rfl, rfl⟩
    | some account =>
      cases hnew : isNew account with
      | true =>
        simp only [hnew, if_true]
        exact ⟨rfl, rfl, rfl⟩
      | false =>
        simp only [hnew]
        exact ⟨rfl, rfl, rfl⟩

theorem run_goOnline (d' : ℕ) (user : Data) (token : Option String) :
    ((goOnline d' user token).task.run ticks l n w).Is (task auth d)
      (resume auth d (.homeTokenGot d' user token) ticks w) := by
  simp only [resume, goOnline, Picture.docId_eq]
  cases hid : Picture.idOf (some user) with
  | none => exact ⟨rfl, rfl, rfl⟩
  | some id => exact ⟨rfl, rfl, rfl⟩

/-- The machine does what the sign-in does, point by point. The requests that the code wraps into
`try` go on with `none` when they fail, which `Task.tryRequest_is` takes care of. -/
theorem models : (machine auth d).Models (System.quiet World Unit) (task auth d) where
  call a := a.elim
  resume p ticks l w := by
    cases p with
    | signIn verificationId smsCode =>
      simp only [task, machine, resume]
      cases hfails : (ticks 0).fails with
      | true => exact Task.tryRequest_is (by simp [hfails]) (by rw [hfails]; rfl)
      | false => exact Task.tryRequest_is (by simp [hfails]) (by rw [hfails]; rfl)
    | signedIn value =>
      match value with
      | some (some signIn) => exact ⟨rfl, rfl, rfl⟩
      | some none => exact ⟨rfl, rfl, rfl⟩
      | none => exact ⟨rfl, rfl, rfl⟩
    | look signIn phone requested =>
      simp only [task, machine, resume]
      cases hfails : (ticks 0).fails with
      | true => exact Task.tryRequest_is (by simp [hfails]) (by rw [hfails]; rfl)
      | false => exact Task.tryRequest_is (by simp [hfails]) (by rw [hfails]; rfl)
    | looked value => exact run_answered value
    | token d user =>
      simp only [task, machine, resume]
      exact Task.request_is rfl rfl
    | tokenGot d user token => exact ⟨rfl, rfl, rfl⟩
    | set uid fields =>
      simp only [task, machine, resume]
      cases hfails : (ticks 0).fails with
      | true => exact Task.tryRequest_is (by simp [hfails]) rfl
      | false => exact Task.tryRequest_is (by simp [hfails]) rfl
    | setDone => exact ⟨rfl, rfl, rfl⟩
    | registered q => exact ⟨rfl, rfl, rfl⟩
    | get q =>
      simp only [task, machine, resume]
      exact Task.tryRequest_is (by simp) rfl
    | got q resultData => exact run_accountRead q resultData
    | entered d lookup account => exact ⟨rfl, rfl, rfl⟩
    | homeStored d user => exact ⟨rfl, rfl, rfl⟩
    | homeIntro d user => exact ⟨rfl, rfl, rfl⟩
    | homeToken d user =>
      simp only [task, machine, resume]
      exact Task.request_is rfl rfl
    | homeTokenGot d' user token => exact run_goOnline d' user token
    | online d id fields =>
      simp only [task, machine, resume]
      exact Task.request_is rfl rfl
    | onlineDone d found =>
      cases found with
      | true => exact ⟨rfl, rfl, rfl⟩
      | false => exact ⟨rfl, rfl, rfl⟩

end Models

/-! ## What is to hold -/

/-- The fields of a user are those of the account, but for what `homeNavigation` writes. -/
def SameAccount (user account : Data) : Prop :=
  ∀ k, k ≠ .status → k ≠ .pushToken → k ≠ .isActive → user k = account k

/-- The sign-in has completed, and nothing has thrown. -/
structure Completed (d : ℕ) (uid : String) (created : Data) (w : World) (thrown : ℕ) : Prop where
  thrown : thrown = 0
  doc : ∃ doc, w.store.doc? .users (.named uid) = some doc ∧ SameAccount doc.data created
  session : w.sessionUser d = some created
  route : (w.devices d).route = .editProfile ∨ (w.devices d).route = .dashboard
  isLoading : (w.devices d).otpCtrl.isLoading = false

/-- A code has been sent for a number that is bound to the user, and no account has the number
typed. -/
structure Verified (auth : Auth) (d : ℕ) (user : FirebaseUser) (w : World) : Prop where
  code : ∃ r request, (w.devices d).otpCtrl.verificationCode = some r ∧
    w.requests[r]? = some request ∧ auth.userOf request.number = some user
  unknown : firstWith (w.store.docs .users) .phone
    (.ofString (w.devices d).otpCtrl.mobileNumber) = none

/-- The document `userRegister` sets. -/
def createdIn (d : ℕ) (user : FirebaseUser) (w : World) : Data :=
  newUserFields user (w.devices d).platform (w.devices d).platform.pushToken
    (w.devices d).otpCtrl.mobileNumber

/-! ## The condition on the order -/

/-- The call is still to set the user document. -/
def Point.Registers : Point → Prop
  | .token _ _ | .tokenGot _ _ _ | .set _ _ => True
  | _ => False

/-- The user document is read next. -/
def Point.Reads : Point → Prop
  | .get _ => True
  | _ => False

instance : (p : Point) → Decidable p.Registers
  | .token _ _ | .tokenGot _ _ _ | .set _ _ => inferInstanceAs (Decidable True)
  | .signIn _ _ | .signedIn _ | .look _ _ _ | .looked _ | .setDone | .registered _ | .get _
  | .got _ _ | .entered _ _ _ | .homeStored _ _ | .homeIntro _ _ | .homeToken _ _
  | .homeTokenGot _ _ _ | .online _ _ _ | .onlineDone _ _ => inferInstanceAs (Decidable False)

instance : (p : Point) → Decidable p.Reads
  | .get _ => inferInstanceAs (Decidable True)
  | .token _ _ | .tokenGot _ _ _ | .set _ _ | .signIn _ _ | .signedIn _ | .look _ _ _ | .looked _
  | .setDone | .registered _ | .got _ _ | .entered _ _ _ | .homeStored _ _ | .homeIntro _ _
  | .homeToken _ _ | .homeTokenGot _ _ _ | .online _ _ _ | .onlineDone _ _ =>
    inferInstanceAs (Decidable False)

/-- The user document is not read at the event before it is set. -/
def PromptAt (s : Segment World Point) : Event Empty → Prop
  | .call _ _ => True
  | .resume i _ => ∀ p ∈ s.points[i]?, p.Reads → ∀ q ∈ s.points.eraseIdx i, ¬ q.Registers

/-- The user document is not read before it is set. -/
def Prompt (auth : Auth) (d : ℕ) : Segment World Point → List (Event Empty) → Prop
  | _, [] => True
  | s, e :: es => PromptAt s e ∧ Prompt auth d ((machine auth d).apply s e) es

instance (s : Segment World Point) : (e : Event Empty) → Decidable (PromptAt s e)
  | .call _ _ => inferInstanceAs (Decidable True)
  | .resume i _ => inferInstanceAs (Decidable
      (∀ p ∈ s.points[i]?, p.Reads → ∀ q ∈ s.points.eraseIdx i, ¬ q.Registers))

instance decidablePrompt (auth : Auth) (d : ℕ) : (s : Segment World Point) →
    (es : List (Event Empty)) → Decidable (Prompt auth d s es)
  | _, [] => inferInstanceAs (Decidable True)
  | s, e :: es =>
    have := decidablePrompt auth d ((machine auth d).apply s e) es
    inferInstanceAs (Decidable (PromptAt s e ∧ Prompt auth d ((machine auth d).apply s e) es))

/-! ## The device and `session.user` -/

section World

variable {d d' lookup : ℕ} {w : World} {account : Document}

@[simp] theorem devices_modifyDevice {f : Device → Device} :
    (w.modifyDevice d f).devices d = f (w.devices d) := Function.update_self ..

@[simp] theorem store_modifyDevice {f : Device → Device} : (w.modifyDevice d' f).store = w.store := rfl

theorem devices_modifyDevice_of_ne {f : Device → Device} (h : d ≠ d') :
    (w.modifyDevice d' f).devices d = w.devices d := Function.update_of_ne h ..

@[simp] theorem sessionUser_modifyDevice {f : Device → Device} :
    (w.modifyDevice d' f).sessionUser d = w.sessionUser d := rfl

@[simp] theorem sessionUser_store : (store d lookup account w).sessionUser d = some account.data := by
  simp [World.sessionUser, store, Stored.user]

/-- The loader is left as it is. -/
theorem isLoading_modifyDevice {f : Device → Device}
    (hf : ∀ s, (f s).otpCtrl.isLoading = s.otpCtrl.isLoading) :
    ((w.modifyDevice d' f).devices d).otpCtrl.isLoading = (w.devices d).otpCtrl.isLoading := by
  by_cases h : d = d'
  · subst h
    rw [devices_modifyDevice]
    exact hf _
  · rw [devices_modifyDevice_of_ne h]

end World

/-! ## Sign-ins that do not complete -/

section Stuck

variable {auth : Auth} {d : ℕ} {created : Data} {w : World} {p : Point} {s : Segment World Point}

/-- The loader is shown, or `session.user` is somebody else. -/
def Lost (d : ℕ) (created : Data) (w : World) : Prop :=
  (w.devices d).otpCtrl.isLoading = true ∨ w.sessionUser d ≠ some created

/-- What is done here neither hides the loader nor stores the new user. -/
def Point.Harmless (d : ℕ) (created : Data) : Point → Prop
  | .got q resultData => q.signIn.device = d ∧
    ∀ account, resultData = some (some account) → isNew account = true ∨ account.data ≠ created
  | .entered d' _ account => d' = d ∧ account.data ≠ created
  | .token _ _ | .tokenGot _ _ _ | .set _ _ | .setDone | .homeStored _ _ | .homeIntro _ _
  | .homeToken _ _ | .homeTokenGot _ _ _ | .online _ _ _ | .onlineDone _ _ => True
  | .signIn _ _ | .signedIn _ | .look _ _ _ | .looked _ | .registered _ | .get _ => False

/-- The sign-in does not complete any more. -/
structure Stuck (d : ℕ) (created : Data) (s : Segment World Point) : Prop where
  harmless : ∀ p ∈ s.points, p.Harmless d created
  lost : Lost d created s.world

theorem Lost.congr {w' : World} (h : Lost d created w)
    (hloading : (w'.devices d).otpCtrl.isLoading = (w.devices d).otpCtrl.isLoading)
    (hsession : w'.sessionUser d = w.sessionUser d) : Lost d created w' :=
  h.imp hloading.trans hsession.trans_ne

/-- A call goes on that does not complete the sign-in: the points it leads to are harmless as well,
so that the loader stays, or somebody else is in the session. -/
theorem Stuck.resume (auth : Auth) (hp : p.Harmless d created) (h : Lost d created w) (ticks : ℕ → Tick) :
    Stuck d created (resume auth d p ticks w) := by
  cases p with
  | signIn verificationId smsCode => exact hp.elim
  | signedIn value => exact hp.elim
  | look signIn phone requested => exact hp.elim
  | looked value => exact hp.elim
  | registered q => exact hp.elim
  | get q => exact hp.elim
  | token d' user =>
    simp only [FirstSignIn.resume]
    split
    · exact ⟨by simp [Segment.threw], h⟩
    · exact ⟨by simp [Point.Harmless], h⟩
  | tokenGot d' user token => exact ⟨by simp [FirstSignIn.resume, Point.Harmless], h⟩
  | set uid fields =>
    simp only [FirstSignIn.resume]
    split
    · exact ⟨by simp [Point.Harmless], h⟩
    · exact ⟨by simp [Point.Harmless], h⟩
  | setDone => exact ⟨by simp [FirstSignIn.resume], h⟩
  | got q resultData =>
    obtain ⟨rfl, haccount⟩ := hp
    match resultData with
    | none => exact ⟨by simp [FirstSignIn.resume], h⟩
    | some none => exact ⟨by simp [FirstSignIn.resume], h⟩
    | some (some account) =>
      cases hnew : isNew account with
      | true =>
        simp only [FirstSignIn.resume, hnew, if_true]
        refine ⟨by simp, h.congr ?_ rfl⟩
        exact isLoading_modifyDevice (f := fun s => { s with route := .editProfile }) fun _ => rfl
      | false =>
        -- somebody who is not new is somebody else, and becomes `session.user`
        have hother : account.data ≠ created := by simpa [hnew] using haccount account rfl
        simp only [FirstSignIn.resume, hnew]
        refine ⟨by simpa [Point.Harmless] using hother, Or.inr ?_⟩
        simpa using hother
  | entered d' lookup account =>
    obtain ⟨rfl, hother⟩ := hp
    refine ⟨by simp [FirstSignIn.resume, Point.Harmless], Or.inr ?_⟩
    simpa [FirstSignIn.resume, setLoading] using hother
  | homeStored d' user =>
    refine ⟨by simp [FirstSignIn.resume, Point.Harmless], h.congr ?_ rfl⟩
    exact isLoading_modifyDevice (f := fun s => { s with isIntro := true }) fun _ => rfl
  | homeIntro d' user => exact ⟨by simp [FirstSignIn.resume, Point.Harmless], h⟩
  | homeToken d' user =>
    simp only [FirstSignIn.resume]
    split
    · exact ⟨by simp [Segment.threw], h⟩
    · exact ⟨by simp [Point.Harmless], h⟩
  | homeTokenGot d' user token =>
    simp only [FirstSignIn.resume]
    split
    · exact ⟨by simp [Point.Harmless], h⟩
    · exact ⟨by simp [Segment.threw], h⟩
  | online d' id fields =>
    simp only [FirstSignIn.resume]
    split
    · exact ⟨by simp [Segment.threw], h⟩
    · exact ⟨by simp [Point.Harmless], h⟩
  | onlineDone d' found =>
    simp only [FirstSignIn.resume]
    split
    · refine ⟨by simp, h.congr ?_ rfl⟩
      exact isLoading_modifyDevice (f := fun s => { s with route := .dashboard }) fun _ => rfl
    · exact ⟨by simp [Segment.threw], h⟩

/-- What the call that is resumed leaves. -/
def resumed (auth : Auth) (d : ℕ) (s : Segment World Point) (p : Point) (rest : List Point)
    (ticks : ℕ → Tick) : Segment World Point :=
  ⟨(resume auth d p ticks s.world).world, rest ++ (resume auth d p ticks s.world).points,
    s.thrown + (resume auth d p ticks s.world).thrown⟩

/-- What an event does to the suspended calls: nothing, or one of them is carried on from its point,
which is prompt unless it reads the document while the registration is still to set it. -/
theorem apply_cases (auth : Auth) (d : ℕ) (s : Segment World Point) (e : Event Empty) (he : e.Succeeds) :
    ((machine auth d).apply s e = s ∧ PromptAt s e) ∨
      ∃ (p : Point) (rest : List Point) (ticks : ℕ → Tick), (∀ n, (ticks n).fails = false) ∧
        (s.points : Multiset Point) = p ::ₘ (rest : Multiset Point) ∧
        (machine auth d).apply s e = resumed auth d s p rest ticks ∧
        (PromptAt s e ↔ (p.Reads → ∀ q ∈ rest, ¬ q.Registers)) := by
  cases e with
  | call a ticks => exact a.elim
  | resume i ticks =>
    cases hp : s.points[i]? with
    | none =>
      refine Or.inl ⟨?_, ?_⟩
      · simp only [Machine.apply, hp]
      · simp [PromptAt, hp]
    | some p =>
      refine Or.inr ⟨p, s.points.eraseIdx i, ticks, he, ?_, ?_, ?_⟩
      · obtain ⟨hi, rfl⟩ := List.getElem?_eq_some_iff.mp hp
        exact Multiset.coe_eq_coe.mpr (List.getElem_cons_eraseIdx_perm hi).symm
      · simp only [Machine.apply, hp]
        rfl
      · simp [PromptAt, hp]

/-- No event completes a sign-in that is stuck: whichever call goes on, it does not leave the stage.
-/
theorem Stuck.apply (h : Stuck d created s) (e : Event Empty) (he : e.Succeeds) :
    Stuck d created ((machine auth d).apply s e) := by
  rcases apply_cases auth d s e he with
    ⟨heq, -⟩ | ⟨p, rest, ticks, -, hpoints, heq, -⟩
  · rwa [heq]
  · have hmem : ∀ q, q ∈ s.points ↔ q = p ∨ q ∈ rest := fun q => by
      rw [← Multiset.mem_coe, hpoints, Multiset.mem_cons, Multiset.mem_coe]
    have hresumed := Stuck.resume auth (h.harmless p ((hmem p).mpr (Or.inl rfl))) h.lost ticks
    rw [heq]
    refine ⟨fun q hq => ?_, hresumed.lost⟩
    rcases List.mem_append.mp hq with hq | hq
    · exact h.harmless q ((hmem q).mpr (Or.inr hq))
    · exact hresumed.harmless q hq

/-- **It does not complete**, however the calls go on. -/
theorem Stuck.not_completed {uid : String} {n : ℕ} : ∀ {es : List (Event Empty)}
    {s : Segment World Point}, Stuck d created s → (∀ e ∈ es, e.Succeeds) →
      ¬ Completed d uid created ((machine auth d).exec s es).world n
  | [], _, h, _ => fun hcompleted => h.lost.elim
      (fun hloading => Bool.false_ne_true (hcompleted.isLoading.symm.trans hloading))
      fun hsession => hsession hcompleted.session
  | e :: es, s, h, hes => by
    have hrest : ¬ Completed d uid created
        ((machine auth d).exec ((machine auth d).apply s e) es).world n :=
      Stuck.not_completed (h.apply e (hes e (List.mem_cons_self ..)))
        fun e' he' => hes e' (List.mem_cons_of_mem _ he')
    exact hrest

end Stuck

/-! ## Sign-ins that complete -/

section Stages

variable {auth : Auth} {d : ℕ} {user : FirebaseUser} {created : Data} {w : World} {p : Point}
  {s : Segment World Point} {e : Event Empty} {es : List (Event Empty)}

/-- The user document is the one set, and the loader is shown. -/
structure Created (d : ℕ) (user : FirebaseUser) (created : Data) (w : World) : Prop where
  isLoading : (w.devices d).otpCtrl.isLoading = true
  doc : w.store.doc? .users (.named user.uid) = some ⟨.named user.uid, created⟩

/-- The new user has a name and is stored as `session.user`, and the loader is hidden. -/
structure Entered (d : ℕ) (user : FirebaseUser) (created : Data) (w : World) : Prop where
  name : user.displayName.getD "" ≠ ""
  isLoading : (w.devices d).otpCtrl.isLoading = false
  session : w.sessionUser d = some created

/-- The user document is the one set, as `homeNavigation` has updated it. -/
def Updated (user : FirebaseUser) (created : Data) (w : World) : Prop :=
  ∃ token, w.store.doc? .users (.named user.uid) =
    some ⟨.named user.uid, created.merge (onlineFields token)⟩

/-- What is known at a point of a sign-in that is to complete. -/
inductive Stage (d : ℕ) (user : FirebaseUser) (created : Data) (w : World) : Option Point → Prop
  | registered {q : Lookup} (hd : q.signIn.device = d) (hu : q.signIn.user = user)
    (h : Created d user created w) : Stage d user created w (some (.registered q))
  | get {q : Lookup} (hd : q.signIn.device = d) (hu : q.signIn.user = user)
    (h : Created d user created w) : Stage d user created w (some (.get q))
  | got {q : Lookup} (hd : q.signIn.device = d) (h : Created d user created w) :
    Stage d user created w (some (.got q (some (some ⟨.named user.uid, created⟩))))
  | entered {lookup : ℕ} {id : DocId} (hname : user.displayName.getD "" ≠ "")
    (h : Created d user created w) : Stage d user created w (some (.entered d lookup ⟨id, created⟩))
  | homeStored (h : Entered d user created w)
    (hdoc : w.store.doc? .users (.named user.uid) = some ⟨.named user.uid, created⟩) :
    Stage d user created w (some (.homeStored d created))
  | homeIntro (h : Entered d user created w)
    (hdoc : w.store.doc? .users (.named user.uid) = some ⟨.named user.uid, created⟩) :
    Stage d user created w (some (.homeIntro d created))
  | homeToken (h : Entered d user created w)
    (hdoc : w.store.doc? .users (.named user.uid) = some ⟨.named user.uid, created⟩) :
    Stage d user created w (some (.homeToken d created))
  | homeTokenGot {token : Option String} (h : Entered d user created w)
    (hdoc : w.store.doc? .users (.named user.uid) = some ⟨.named user.uid, created⟩) :
    Stage d user created w (some (.homeTokenGot d created token))
  | online {token : Option String} (h : Entered d user created w)
    (hdoc : w.store.doc? .users (.named user.uid) = some ⟨.named user.uid, created⟩) :
    Stage d user created w (some (.online d user.uid (onlineFields token)))
  | onlineDone (h : Entered d user created w) (hdoc : Updated user created w) :
    Stage d user created w (some (.onlineDone d true))
  | done (h : Entered d user created w) (hdoc : Updated user created w)
    (hroute : (w.devices d).route = .dashboard) : Stage d user created w none

/-- `homeNavigation` writes none of the other fields. -/
theorem sameAccount_merge {token : Option String} :
    SameAccount (created.merge (onlineFields token)) created := by
  intro k hstatus htoken hactive
  refine Fields.merge_of_none ?_
  simp [onlineFields, Fields.ofList, hstatus, htoken, hactive]

theorem Stage.completed (h : Stage d user created w none) : Completed d user.uid created w 0 := by
  cases h with
  | done h hdoc hroute =>
    obtain ⟨token, hdoc⟩ := hdoc
    exact ⟨rfl, ⟨_, hdoc, sameAccount_merge⟩, h.session, Or.inr hroute, h.isLoading⟩

/-- What is known of the document that is set. -/
structure New (user : FirebaseUser) (created : Data) : Prop where
  id : created .id = some (.str user.uid)
  name : created .name = some (.str (user.displayName.getD ""))
  status : created .status = some (.str "Offline")

/-- The copy in `session.user` is older than the update. -/
theorem Stage.stale (hnew : New user created) (h : Stage d user created w none) :
    ∀ doc, w.store.doc? .users (.named user.uid) = some doc → w.sessionUser d ≠ some doc.data := by
  cases h with
  | done h hdoc hroute =>
    obtain ⟨token, hdoc⟩ := hdoc
    intro doc hsome hsame
    obtain rfl := Option.some.inj (hdoc.symm.trans hsome)
    have honline : (onlineFields token) .status = some (.str "Online") := rfl
    have heq : created .status = created.merge (onlineFields token) .status :=
      congrFun (Option.some.inj (h.session.symm.trans hsame)) _
    rw [hnew.status, Fields.merge_of_some honline] at heq
    exact absurd heq (by decide)

/-- One step of a sign-in that is to complete. If the new user has no name it gets stuck. -/
theorem Stage.resume (auth : Auth) (hnew : New user created) (h : Stage d user created w (some p))
    {ticks : ℕ → Tick} (hticks : ∀ n, (ticks n).fails = false) :
    (∃ m : Option Point, (resume auth d p ticks w).points = m.toList ∧
      (resume auth d p ticks w).thrown = 0 ∧
        Stage d user created (resume auth d p ticks w).world m) ∨
      user.displayName.getD "" = "" ∧ ¬ p.Reads ∧ Stuck d created (resume auth d p ticks w) := by
  cases h with
  | registered hd hu h => exact Or.inl ⟨some (.get _), rfl, rfl, .get hd hu h⟩
  | @get q hd hu h =>
    have hread : (FirstSignIn.resume auth d (.get q) ticks w).points =
        [.got q (some (some ⟨.named user.uid, created⟩))] := by
      simp [FirstSignIn.resume, hticks, hu, h.doc]
    exact Or.inl ⟨some (.got q _), hread, rfl, .got hd h⟩
  | @got q hd h =>
    by_cases hname : user.displayName.getD "" = ""
    -- without a name the user is sent to the editor, and the loader stays
    · right
      have hisNew : isNew ⟨.named user.uid, created⟩ = true := by
        simp [isNew, hnew.name, hname]
      have hharmless : (Point.got q (some (some ⟨.named user.uid, created⟩))).Harmless d created :=
        ⟨hd, fun account haccount =>
          Or.inl (Option.some.inj (Option.some.inj haccount) ▸ hisNew)⟩
      exact ⟨hname, id, Stuck.resume auth hharmless (Or.inl h.isLoading) ticks⟩
    · left
      have hisNew : isNew ⟨.named user.uid, created⟩ = false := by
        simp [isNew, hnew.name, hname]
      subst hd
      simp only [FirstSignIn.resume, hisNew]
      exact ⟨some (.entered ..), rfl, rfl, .entered hname ⟨h.isLoading, h.doc⟩⟩
  | entered hname h =>
    refine Or.inl ⟨some (.homeStored ..), rfl, rfl, .homeStored ⟨hname, ?_, ?_⟩ h.doc⟩
    · simp [FirstSignIn.resume, setLoading]
    · simp [FirstSignIn.resume, setLoading]
  | homeStored h hdoc =>
    refine Or.inl ⟨some (.homeIntro ..), rfl, rfl, .homeIntro ⟨h.name, ?_, h.session⟩ hdoc⟩
    simpa [FirstSignIn.resume] using h.isLoading
  | homeIntro h hdoc =>
    exact Or.inl ⟨some (.homeToken ..), rfl, rfl, .homeToken h hdoc⟩
  | homeToken h hdoc =>
    simp only [FirstSignIn.resume, hticks, Bool.false_eq_true, if_false]
    exact Or.inl ⟨some (.homeTokenGot ..), rfl, trivial, .homeTokenGot h hdoc⟩
  | homeTokenGot h hdoc =>
    have hid : Picture.idOf (some created) = some user.uid := by
      simp [Picture.idOf, hnew.id]
    simp only [FirstSignIn.resume, hid]
    exact Or.inl ⟨some (.online ..), rfl, trivial, .online h hdoc⟩
  | @online token h hdoc =>
    simp only [FirstSignIn.resume, hticks, hdoc, Bool.false_eq_true, if_false]
    have hupdated : Updated user created
        { w with store := w.store.update .users (.named user.uid) (onlineFields token) } :=
      ⟨token, Store.doc?_update hdoc⟩
    exact Or.inl ⟨some (.onlineDone ..), rfl, trivial,
      .onlineDone ⟨h.name, h.isLoading, h.session⟩ hupdated⟩
  | onlineDone h hdoc =>
    refine Or.inl ⟨none, rfl, rfl, .done ⟨h.name, ?_, h.session⟩ hdoc ?_⟩
    · simpa [FirstSignIn.resume] using h.isLoading
    · simp [FirstSignIn.resume]

/-- What is to be shown of a sign-in that goes on with these events. -/
structure Result (auth : Auth) (d : ℕ) (user : FirebaseUser) (created : Data)
    (s : Segment World Point) (es : List (Event Empty)) : Prop where
  iff : Completed d user.uid created ((machine auth d).exec s es).world
    ((machine auth d).exec s es).thrown ↔ Prompt auth d s es ∧ user.displayName.getD "" ≠ ""
  stale : Completed d user.uid created ((machine auth d).exec s es).world
    ((machine auth d).exec s es).thrown →
      ∀ doc, ((machine auth d).exec s es).world.store.doc? .users (.named user.uid) = some doc →
        ((machine auth d).exec s es).world.sessionUser d ≠ some doc.data

theorem Result.cons (he : PromptAt s e)
    (h : Result auth d user created ((machine auth d).apply s e) es) :
    Result auth d user created s (e :: es) where
  iff := h.iff.trans (and_congr_left fun _ => (and_iff_right he).symm)
  stale := h.stale

/-- The document is read too early, or the new user has no name. -/
theorem Result.of_stuck (h : Stuck d created ((machine auth d).apply s e))
    (hes : ∀ e' ∈ es, e'.Succeeds) (hcause : ¬ PromptAt s e ∨ user.displayName.getD "" = "") :
    Result auth d user created s (e :: es) := by
  have hnot : ¬ Completed d user.uid created ((machine auth d).exec s (e :: es)).world
      ((machine auth d).exec s (e :: es)).thrown := h.not_completed hes
  refine ⟨iff_of_false hnot fun ⟨hprompt, hname⟩ => ?_, fun hcompleted => absurd hcompleted hnot⟩
  rcases hcause with hearly | hempty
  · exact hearly hprompt.1
  · exact hname hempty

/-- What a stage `I` of the sign-in is left with by a call that is resumed: the same stage, a
later one, of which the result is known, or nothing that can complete. -/
def Goes (auth : Auth) (d : ℕ) (user : FirebaseUser) (created : Data)
    (I : Segment World Point → Prop) (es : List (Event Empty)) (s' : Segment World Point)
    (prompt : Prop) : Prop :=
  prompt ∧ (I s' ∨ Result auth d user created s' es) ∨
    Stuck d created s' ∧ (¬ prompt ∨ user.displayName.getD "" = "")

/-- **The induction on the events**, for a stage of the sign-in: it is enough that the stage is left
with the result, and that each event keeps the stage or goes on to one whose result is known. -/
theorem Result.of_stage {I : Segment World Point → Prop}
    (hend : ∀ s, I s → s.points = [] → Result auth d user created s [])
    (hstep : ∀ s es p rest ticks, I s → (∀ e ∈ es, e.Succeeds) →
      ((machine auth d).exec (resumed auth d s p rest ticks) es).points = [] →
      (∀ n, (ticks n).fails = false) → (s.points : Multiset Point) = p ::ₘ (rest : Multiset Point) →
      Goes auth d user created I es (resumed auth d s p rest ticks)
        (p.Reads → ∀ q ∈ rest, ¬ q.Registers)) :
    ∀ {es : List (Event Empty)} {s : Segment World Point}, I s → (∀ e ∈ es, e.Succeeds) →
      ((machine auth d).exec s es).points = [] → Result auth d user created s es
  | [], s, h, _, hsettled => hend s h hsettled
  | e :: es, s, h, hes, hsettled => by
    have hes' : ∀ e' ∈ es, e'.Succeeds := fun e' he' => hes e' (List.mem_cons_of_mem _ he')
    rcases apply_cases auth d s e (hes e (List.mem_cons_self ..)) with
      ⟨heq, hprompt⟩ | ⟨p, rest, ticks, hticks, hpoints, heq, hprompt⟩
    · exact .cons hprompt (Result.of_stage hend hstep (heq.symm ▸ h) hes' hsettled)
    · have hsettled' : ((machine auth d).exec (resumed auth d s p rest ticks) es).points = [] :=
        heq ▸ hsettled
      rcases hstep s es p rest ticks h hes' hsettled' hticks hpoints with
        ⟨hnow, hstage | hresult⟩ | ⟨hstuck, hcause⟩
      · exact .cons (hprompt.mpr hnow) (heq ▸ Result.of_stage hend hstep hstage hes' hsettled')
      · exact .cons (hprompt.mpr hnow) (heq ▸ hresult)
      · exact .of_stuck (heq ▸ hstuck) hes' (hcause.imp_left (mt hprompt.mp))

/-- The sign-in is to complete, with the document set. -/
structure Good (d : ℕ) (user : FirebaseUser) (created : Data) (s : Segment World Point) : Prop where
  thrown : s.thrown = 0
  stage : ∃ (m : Option Point) (rest : Multiset Point),
    (s.points : Multiset Point) = (m.toList : Multiset Point) + rest ∧
      (∀ q ∈ rest, q = .setDone) ∧ Stage d user created s.world m

/-- **With the document set**, the sign-in completes if the new user has a name. -/
theorem Good.result (hnew : New user created) {es : List (Event Empty)} {s : Segment World Point}
    (h : Good d user created s) (hes : ∀ e ∈ es, e.Succeeds)
    (hsettled : ((machine auth d).exec s es).points = []) : Result auth d user created s es := by
  refine .of_stage (I := Good d user created) (fun s h hnil => ?_)
    (fun s es p r ticks h _ _ hticks hpoints => ?_) h hes hsettled
  · obtain ⟨hthrown, m, rest, hpoints, hrest, hstage⟩ := h
    have hnone : (0 : Multiset Point) = (m.toList : Multiset Point) + rest := by
      rw [← hpoints, hnil, Multiset.coe_nil]
    cases m with
    | some p =>
      have hp : p ∈ (0 : Multiset Point) :=
        hnone ▸ Multiset.mem_add.mpr (Or.inl (List.mem_singleton_self p))
      exact absurd hp (Multiset.notMem_zero p)
    | none =>
      have hcompleted : Completed d user.uid created s.world s.thrown := hthrown ▸ hstage.completed
      have hname : user.displayName.getD "" ≠ "" := by
        cases hstage with
        | done h _ _ => exact h.name
      exact ⟨iff_of_true hcompleted ⟨trivial, hname⟩, fun _ => hstage.stale hnew⟩
  · obtain ⟨hthrown, m, rest, hsplit, hrest, hstage⟩ := h
    rw [hsplit] at hpoints
    rcases Machine.resume_cases hpoints.symm with ⟨rest', rfl, hr⟩ | ⟨rfl, hr⟩
    · -- the call that has set the document ends
      obtain rfl := hrest p (Multiset.mem_cons_self ..)
      refine Or.inl ⟨fun hreads => hreads.elim, Or.inl ⟨hthrown, m, rest', ?_,
        fun q hq => hrest q (Multiset.mem_cons_of_mem hq), hstage⟩⟩
      simpa [resumed, FirstSignIn.resume] using hr
    · have hset : ∀ q ∈ r, q = .setDone := fun q hq => hrest q (hr ▸ hq)
      rcases hstage.resume auth hnew hticks with
        ⟨m', hm', hthrown', hstage'⟩ | ⟨hname, -, hstuck⟩
      · refine Or.inl ⟨fun _ q hq => by rw [hset q hq]; exact id,
          Or.inl ⟨?_, m', rest, ?_, hrest, hstage'⟩⟩
        · simp only [resumed, hthrown, hthrown']
        · simp only [resumed, hm']
          rw [← Multiset.coe_add, hr, add_comm]
      · refine Or.inr ⟨⟨fun q hq => ?_, hstuck.lost⟩, Or.inr hname⟩
        rcases List.mem_append.mp hq with hq | hq
        · rw [hset q hq]
          trivial
        · exact hstuck.harmless q hq

/-! ## Up to the registration -/

/-- The call that registers the user, up to the set. -/
inductive Registering (d : ℕ) (user : FirebaseUser) (created : Data) (w : World) : Point → Prop
  | token : Registering d user created w (.token d user)
  | tokenGot {token : Option String} (h : newUserFields user (w.devices d).platform token
      (w.devices d).otpCtrl.mobileNumber = created) :
    Registering d user created w (.tokenGot d user token)
  | set : Registering d user created w (.set user.uid created)

/-- The call that reads the document, up to the get. -/
inductive Reading (d : ℕ) (user : FirebaseUser) : Point → Prop
  | registered {q : Lookup} (hd : q.signIn.device = d) (hu : q.signIn.user = user) :
    Reading d user (.registered q)
  | get {q : Lookup} (hd : q.signIn.device = d) (hu : q.signIn.user = user) : Reading d user (.get q)

/-- The document is to be set and to be read. -/
structure Waiting (d : ℕ) (user : FirebaseUser) (created : Data) (s : Segment World Point) :
    Prop where
  thrown : s.thrown = 0
  isLoading : (s.world.devices d).otpCtrl.isLoading = true
  fields : createdIn d user s.world = created
  unknown : ∀ doc, s.world.store.doc? .users (.named user.uid) = some doc → doc.data ≠ created
  points : ∃ m g, (s.points : Multiset Point) = {m, g} ∧ Reading d user m ∧
    Registering d user created s.world g

/-- One of two calls is resumed. -/
theorem pair_cases {m g : Point} {r : Multiset Point} (h : p ::ₘ r = {m, g}) :
    (p = m ∧ r = {g}) ∨ (p = g ∧ r = {m}) := by
  rcases Multiset.cons_eq_cons.mp h with ⟨rfl, rfl⟩ | ⟨-, rest, rfl, hrest⟩
  · exact Or.inl ⟨rfl, rfl⟩
  · obtain ⟨rfl, rfl⟩ := (Multiset.singleton_eq_cons_iff rest).mp hrest
    exact Or.inr ⟨rfl, rfl⟩

/-- The registration goes on. -/
theorem Registering.resume (auth : Auth) {g : Point} (hg : Registering d user created w g)
    (hcreated : createdIn d user w = created) {ticks : ℕ → Tick}
    (hticks : ∀ n, (ticks n).fails = false) :
    (∃ g', resume auth d g ticks w = { world := w, points := [g'] } ∧
      Registering d user created w g') ∨
      resume auth d g ticks w =
        { world := { w with store := w.store.set .users user.uid (ticks 0).pos created }
          points := [.setDone] } := by
  cases hg with
  | token => exact Or.inl ⟨_, by simp [FirstSignIn.resume, hticks], .tokenGot hcreated⟩
  | tokenGot h => exact Or.inl ⟨_, by simp [FirstSignIn.resume, h], .set⟩
  | set => exact Or.inr (by simp [FirstSignIn.resume, hticks])

/-- **While the document is to be set and to be read**: either may come first. -/
theorem Waiting.result (hnew : New user created) {es : List (Event Empty)}
    {s : Segment World Point} (h : Waiting d user created s) (hes : ∀ e ∈ es, e.Succeeds)
    (hsettled : ((machine auth d).exec s es).points = []) : Result auth d user created s es := by
  refine .of_stage (I := Waiting d user created) (fun s h hnil => ?_)
    (fun s es p r ticks h hes hsettled hticks hpoints => ?_) h hes hsettled
  · obtain ⟨m, g, hpoints, -, -⟩ := h.points
    have hm : m ∈ (s.points : Multiset Point) := hpoints ▸ Multiset.mem_cons_self m {g}
    rw [hnil] at hm
    exact absurd hm (Multiset.notMem_zero m)
  · obtain ⟨m, g, hpair, hm, hg⟩ := h.points
    rw [hpair] at hpoints
    rcases pair_cases hpoints.symm with ⟨rfl, hr⟩ | ⟨rfl, hr⟩
    · obtain rfl : r = [g] := Multiset.coe_eq_singleton.mp hr
      cases hm with
      | @registered q hd hu =>
        refine Or.inl ⟨fun hreads => hreads.elim, Or.inl
          ⟨h.thrown, h.isLoading, h.fields, h.unknown, .get q, g, ?_, .get hd hu, hg⟩⟩
        exact Multiset.coe_eq_coe.mpr (List.Perm.swap ..)
      | @get q hd hu =>
        -- the document is read before it is set
        refine Or.inr ⟨⟨fun q' hq' => ?_, Or.inl h.isLoading⟩, Or.inl fun hprompt => ?_⟩
        · rcases List.mem_append.mp hq' with hq' | hq'
          · obtain rfl := List.mem_singleton.mp hq'
            cases hg with
            | token => trivial
            | tokenGot h => trivial
            | set => trivial
          · simp only [FirstSignIn.resume, hticks, hu, Bool.false_eq_true, if_false,
              List.mem_singleton] at hq'
            subst hq'
            exact ⟨hd, fun account haccount => Or.inr (h.unknown account (Option.some.inj haccount))⟩
        · have hnot := hprompt trivial g (List.mem_singleton_self g)
          cases hg with
          | token => exact hnot trivial
          | tokenGot h => exact hnot trivial
          | set => exact hnot trivial
    · obtain rfl : r = [m] := Multiset.coe_eq_singleton.mp hr
      have hprompt : p.Reads → ∀ q ∈ [m], ¬ q.Registers := fun hreads => by
        cases hg with
        | token => exact hreads.elim
        | tokenGot h => exact hreads.elim
        | set => exact hreads.elim
      rcases hg.resume auth h.fields hticks with ⟨g', hresume, hg'⟩ | hresume
      · refine Or.inl ⟨hprompt, Or.inl ?_⟩
        rw [resumed, hresume]
        exact ⟨h.thrown, h.isLoading, h.fields, h.unknown, m, g', rfl, hm, hg'⟩
      · refine Or.inl ⟨hprompt, Or.inr (Good.result hnew ?_ hes hsettled)⟩
        rw [resumed, hresume]
        refine ⟨h.thrown, some m, {.setDone}, rfl, fun q hq => Multiset.mem_singleton.mp hq, ?_⟩
        cases hm with
        | registered hd hu => exact .registered hd hu ⟨h.isLoading, Store.doc?_set⟩
        | get hd hu => exact .get hd hu ⟨h.isLoading, Store.doc?_set⟩

/-- The call that verifies the code and looks for the account. -/
inductive Starting (auth : Auth) (d : ℕ) (user : FirebaseUser) (w : World) : Point → Prop
  | signIn {r : ℕ} {otp : String} {request : Request} (hrequest : w.requests[r]? = some request)
    (huser : auth.userOf request.number = some user) : Starting auth d user w (.signIn r otp)
  | signedIn {signIn : SignIn} (hd : signIn.device = d) (hu : signIn.user = user) :
    Starting auth d user w (.signedIn (some (some signIn)))
  | look {signIn : SignIn} {requested : ℕ} (hd : signIn.device = d) (hu : signIn.user = user) :
    Starting auth d user w (.look signIn (w.devices d).otpCtrl.mobileNumber requested)
  | looked {q : Lookup} (hd : q.signIn.device = d) (hu : q.signIn.user = user)
    (hfound : q.found = none) : Starting auth d user w (.looked (some q))

/-- The account is still to be looked for. -/
structure Early (auth : Auth) (d : ℕ) (user : FirebaseUser) (created : Data)
    (s : Segment World Point) : Prop where
  thrown : s.thrown = 0
  isLoading : (s.world.devices d).otpCtrl.isLoading = true
  fields : createdIn d user s.world = created
  unknown : firstWith (s.world.store.docs .users) .phone
    (.ofString (s.world.devices d).otpCtrl.mobileNumber) = none
  points : ∃ p, s.points = [p] ∧ Starting auth d user s.world p

/-- No user document has the fields of the new one. -/
theorem ne_createdIn (h : firstWith (w.store.docs .users) .phone
    (.ofString (w.devices d).otpCtrl.mobileNumber) = none) {doc : Document}
    (hdoc : doc ∈ w.store.docs .users) : doc.data ≠ createdIn d user w := by
  intro heq
  have hphone := List.find?_eq_none.mp h doc hdoc
  rw [heq, Fields.isEqualTo_iff] at hphone
  exact hphone rfl

theorem new_createdIn : New user (createdIn d user w) := ⟨rfl, rfl, rfl⟩

/-- The call goes on, and at the end the user is to be registered. -/
theorem Starting.resume (h : Starting auth d user w p) {ticks : ℕ → Tick}
    (hticks : ∀ n, (ticks n).fails = false)
    (hunknown : firstWith (w.store.docs .users) .phone
      (.ofString (w.devices d).otpCtrl.mobileNumber) = none) :
    (∃ p' w', resume auth d p ticks w = { world := w', points := [p'] } ∧
      Starting auth d user w' p' ∧ w'.devices = w.devices ∧ w'.store = w.store) ∨
      ∃ q : Lookup, q.signIn.device = d ∧ q.signIn.user = user ∧
        resume auth d p ticks w = { world := w, points := [.token d user, .registered q] } := by
  cases h with
  | @signIn r otp request hrequest huser =>
    refine Or.inl ⟨.signedIn (some (some ⟨d, r, otp, request.number, user⟩)),
      { w with signIns := ⟨d, r, otp, request.number, user⟩ :: w.signIns }, ?_,
      .signedIn rfl rfl, rfl, rfl⟩
    simp [FirstSignIn.resume, hticks, verify, hrequest, huser]
  | @signedIn signIn hd hu =>
    refine Or.inl ⟨.look signIn _ w.requests.length, w, ?_, .look hd hu, rfl, rfl⟩
    simp [FirstSignIn.resume, hd]
  | @look signIn requested hd hu =>
    refine Or.inl ⟨_, (find signIn (w.devices d).otpCtrl.mobileNumber requested w).2, ?_,
      .looked (q := (find signIn (w.devices d).otpCtrl.mobileNumber requested w).1) hd hu hunknown,
      rfl, rfl⟩
    simp [FirstSignIn.resume, hticks]
  | @looked q hd hu hfound =>
    refine Or.inr ⟨q, hd, hu, ?_⟩
    simp [FirstSignIn.resume, hfound, hd, hu]

/-- **While the account is being looked for** there is one call, which goes on point by point; its
answer starts the registration, from where on the later stages say the result. -/
theorem Early.result (hnew : New user created) {es : List (Event Empty)}
    {s : Segment World Point} (h : Early auth d user created s) (hes : ∀ e ∈ es, e.Succeeds)
    (hsettled : ((machine auth d).exec s es).points = []) : Result auth d user created s es := by
  refine .of_stage (I := Early auth d user created) (fun s h hnil => ?_)
    (fun s es p r ticks h hes hsettled hticks hpoints => ?_) h hes hsettled
  · obtain ⟨p, hpoints, -⟩ := h.points
    exact absurd (hpoints.symm.trans hnil) (List.cons_ne_nil p [])
  · obtain ⟨p', hsingle, hstart⟩ := h.points
    have honly : p' = p ∧ (r : Multiset Point) = 0 := by
      rw [hsingle, Multiset.coe_singleton] at hpoints
      exact (Multiset.singleton_eq_cons_iff _).mp hpoints
    obtain ⟨rfl, hr⟩ := honly
    obtain rfl := (Multiset.coe_eq_zero r).mp hr
    rcases hstart.resume hticks h.unknown with
      ⟨p'', w', hresume, hstart', hdevices, hstore⟩ | ⟨q, hd, hu, hresume⟩
    · refine Or.inl ⟨fun _ _ hq => absurd hq List.not_mem_nil, Or.inl ?_⟩
      have hfields : createdIn d user w' = created := by
        rw [← h.fields, createdIn, createdIn, hdevices]
      have hunknown := h.unknown
      have hloading := h.isLoading
      rw [← hdevices] at hunknown hloading
      rw [← hstore] at hunknown
      rw [resumed, hresume]
      exact ⟨h.thrown, hloading, hfields, hunknown, p'', rfl, hstart'⟩
    · refine Or.inl ⟨fun _ _ hq => absurd hq List.not_mem_nil,
        Or.inr (Waiting.result hnew ?_ hes hsettled)⟩
      have hdocs : ∀ doc, s.world.store.doc? .users (.named user.uid) = some doc →
          doc.data ≠ created := fun doc hdoc =>
        h.fields ▸ ne_createdIn h.unknown (s.world.store.mem_of_doc? hdoc).1
      rw [resumed, hresume]
      exact ⟨h.thrown, h.isLoading, h.fields, hdocs, .registered q, .token d user,
        Multiset.coe_eq_coe.mpr (List.Perm.swap ..), .registered hd hu, .token⟩

end Stages

/-! ## The whole sign-in -/

/-- What starting the submission leaves. -/
def submitted (d : ℕ) (w : World) : Segment World Point :=
  match (w.devices d).otpCtrl.verificationCode with
  | some r => { world := setLoading d true w, points := [.signIn r (w.devices d).otpCtrl.otp] }
  | none => .threw (setLoading d true w)

/-- The code is submitted as it is typed. -/
def submit (auth : Auth) (d : ℕ) (s : Device) : Handler Unit :=
  match s.otpCtrl.verificationCode with
  | some verificationCode => Async.spawn do
    let value ← signInWithCredential auth d verificationCode s.otpCtrl.otp
    Login.signedIn d value
  | none => Async.throw

section Submission

variable {auth : Auth} {d : ℕ} {user : FirebaseUser} {ticks : ℕ → Tick} {w : World}
  {es : List (Event Empty)} {c : Config World Unit}

/-- What pressing the button comes to: the sign-in with the verification id held and the code typed,
and an error if no id is held. -/
theorem run_submit (auth : Auth) (d : ℕ) (ticks : ℕ → Tick) (w : World) (n : ℕ) :
    ((submit auth d (w.devices d)).task.run ticks () n w).Is (task auth d)
    (match (w.devices d).otpCtrl.verificationCode with
      | some r => { world := w, points := [.signIn r (w.devices d).otpCtrl.otp] }
      | none => .threw w) := by
  cases hcode : (w.devices d).otpCtrl.verificationCode with
  | some r =>
    simp only [submit, hcode]
    exact ⟨rfl, rfl, rfl⟩
  | none =>
    simp only [submit, hcode]
    exact ⟨rfl, rfl, rfl⟩

/-- The first segment: the loader is shown, and the sign-in is asked for with the verification id
that the controller holds at that time. -/
theorem start_is :
    ((onFormSubmitted auth d).start () ticks w).Is (task auth d) (submitted d w) := by
  have hdevice : (setLoading d true w).devices d =
      { w.devices d with otpCtrl := { (w.devices d).otpCtrl with isLoading := true } } :=
    devices_modifyDevice
  have hsubmit := run_submit auth d ticks (setLoading d true w) 2
  have hsame : submitted d w = (match ((setLoading d true w).devices d).otpCtrl.verificationCode with
      | some r => { world := setLoading d true w
                    points := [.signIn r ((setLoading d true w).devices d).otpCtrl.otp] }
      | none => .threw (setLoading d true w)) := by
    rw [hdevice]
    rfl
  rw [← hsame] at hsubmit
  obtain ⟨hworld, hthreads, huncaught⟩ := hsubmit
  exact ⟨hworld, hthreads, huncaught⟩

/-- **A first sign-in completes exactly if** the user document is set before it is read and the new
user has a name. The copy in `session.user` is older than the document even then. -/
theorem first_sign_in_iff (hverified : Verified auth d user w)
    (h : (System.quiet World Unit).Run (fun _ e => e.Succeeds)
      ((onFormSubmitted auth d).start () ticks w) es c) (hc : c.Settled) :
    (Completed d user.uid (createdIn d user w) c.world c.uncaught.length ↔
      Prompt auth d (submitted d w) es ∧ user.displayName.getD "" ≠ "") ∧
    (Completed d user.uid (createdIn d user w) c.world c.uncaught.length →
      ∀ doc, c.world.store.doc? .users (.named user.uid) = some doc →
        c.world.sessionUser d ≠ some doc.data) := by
  obtain ⟨⟨r, request, hcode, hrequest, huser⟩, hunknown⟩ := hverified
  have hes : ∀ e ∈ es, e.Succeeds := h.forall_mem fun _ _ he => he
  have hstart : submitted d w =
      { world := setLoading d true w, points := [.signIn r (w.devices d).otpCtrl.otp] } := by
    rw [submitted, hcode]
  have hearly : Early auth d user (createdIn d user w) (submitted d w) := by
    rw [hstart]
    refine ⟨rfl, ?_, ?_, ?_, .signIn r (w.devices d).otpCtrl.otp, rfl, .signIn hrequest huser⟩
    · simp [setLoading]
    · simp [setLoading, createdIn]
    · simpa [setLoading] using hunknown
  obtain ⟨hworld, hthreads, huncaught⟩ := models.run_is start_is h
  have hpoints : ((machine auth d).exec (submitted d w) es).points = [] := by
    rw [hc, List.map_nil, eq_comm, List.map_eq_nil_iff] at hthreads
    exact hthreads
  have hresult := hearly.result new_createdIn hes hpoints
  rw [hworld, huncaught]
  exact ⟨hresult.iff, hresult.stale⟩

end Submission

/-! ## Two users -/

/-- The number is bound to the user. -/
def bound (user : FirebaseUser) : Auth where
  userOf number := if number = "+91555" then some user else none
  uid_inj {m n u v} hm hn _ := by
    have hm' : m = "+91555" := by
      by_contra hne
      simp [hne] at hm
    have hn' : n = "+91555" := by
      by_contra hne
      simp [hne] at hn
    rw [hm', hn']

/-- A code has been sent to the number, and typed. -/
def typed : World :=
  { World.initial .empty (fun _ => { pushToken := some "token" }) with
    requests := [⟨0, "+91", "555"⟩]
    devices := fun _ =>
      { platform := { pushToken := some "token" }
        route := .otp
        otpCtrl := { otp := "123456", verificationCode := some 0, mobileNumber := some "555" } } }

/-- Nothing fails. -/
def succeeds : ℕ → Tick := fun _ => ⟨0, 0, false⟩

/-- The submission, carried on in an order. -/
def signedInBy (user : FirebaseUser) (order : List ℕ) : Config World Unit :=
  (System.quiet World Unit).exec ((onFormSubmitted (bound user) 0).start () succeeds typed)
    (order.map fun i => .resume i succeeds)

theorem run_signedInBy (user : FirebaseUser) (order : List ℕ) :
    (System.quiet World Unit).Run (fun _ e => e.Succeeds)
      ((onFormSubmitted (bound user) 0).start () succeeds typed)
      (order.map fun i => .resume i succeeds) (signedInBy user order) := by
  refine System.run_of_forall fun e he => ?_
  obtain ⟨i, -, rfl⟩ := List.mem_map.mp he
  exact fun _ => rfl

theorem verified_typed (user : FirebaseUser) : Verified (bound user) 0 user typed :=
  ⟨⟨0, ⟨0, "+91", "555"⟩, rfl, rfl, rfl⟩, rfl⟩

/-- A user with a name. -/
def ann : FirebaseUser := { uid := "ann", displayName := some "Ann" }

/-- The document is set before it is read. -/
def setFirst : List ℕ := [0, 0, 0, 0, 0, 1, 1, 1, 0, 0, 0, 0, 0, 0, 0, 0, 0, 0]

/-- The document is read before the push token has come. -/
def readFirst : List ℕ := [0, 0, 0, 0, 1, 1, 1, 0, 0, 0, 0]

/-- Ann's document is set first. -/
theorem first_sign_in_iff_ann :
    (Completed 0 "ann" (createdIn 0 ann typed) (signedInBy ann setFirst).world
      (signedInBy ann setFirst).uncaught.length ↔
        Prompt (bound ann) 0 (submitted 0 typed) (setFirst.map fun i => .resume i succeeds) ∧
          ann.displayName.getD "" ≠ "") ∧
    (Completed 0 "ann" (createdIn 0 ann typed) (signedInBy ann setFirst).world
      (signedInBy ann setFirst).uncaught.length →
        ∀ doc, (signedInBy ann setFirst).world.store.doc? .users (.named "ann") = some doc →
          (signedInBy ann setFirst).world.sessionUser 0 ≠ some doc.data) :=
  first_sign_in_iff (verified_typed ann) (run_signedInBy ann setFirst) (by decide +kernel)

/-- **The loader stays** when Ann's document is read first. -/
theorem sign_in_stuck : ¬ ∀ {auth : Auth} {d : ℕ} {user : FirebaseUser} {ticks : ℕ → Tick}
    {w : World} {es : List (Event Empty)} {c : Config World Unit}, Verified auth d user w →
    (System.quiet World Unit).Run (fun _ e => e.Succeeds)
      ((onFormSubmitted auth d).start () ticks w) es c → c.Settled →
    Completed d user.uid (createdIn d user w) c.world c.uncaught.length := by
  intro hclaim
  have hcompleted := hclaim (verified_typed ann) (run_signedInBy ann readFirst) (by decide +kernel)
  have hloading : ((signedInBy ann readFirst).world.devices 0).otpCtrl.isLoading = true := by
    decide +kernel
  exact Bool.false_ne_true (hcompleted.isLoading.symm.trans hloading)

end FlutterTheme.Login.FirstSignIn
