import FlutterTheme.EventLoop
import FlutterTheme.Heap
import FlutterTheme.DocStore

/-!
# Signing in with a telephone number

The collection `users` and the controllers of the login screens.

* `checkValidation`, `onVerifyCode` — the number is typed and a code is asked for; the
  verification service calls back with `codeSent` and its siblings.
* `onFormSubmitted` — the code is submitted: `signInWithCredential`, the lookup of the
  account by its telephone number, `userRegister` and `getUserData` where there is none,
  `homeNavigation` or the profile editor.
* `updateUserData`, `uploadFile` — the profile editor.

Firebase Authentication is outside the application. A request for a code is named by its
place among all requests, and so is the `verificationId` the service hands out for it;
`Auth` says which user a full telephone number is bound to. Whether a code is accepted is
up to the environment.

`World.confirmed`, `World.signIns` and `World.lookups` are history variables, and so is what
a `Stored` says of where a stored user comes from: no handler reads them.
-/

namespace FlutterTheme.Login

open EventLoop DocStore

/-! ## Documents -/

/-- The collections. -/
inductive Path : Type where
  | users : Path
  deriving DecidableEq, Repr

/-- The field names of a user document. -/
inductive Key : Type where
  | chattingWith | id | image | name | pushToken | status | typeStatus | phone | email
  | deviceName | isActive | device | statusDesc | lastSeen | isSeen
  deriving DecidableEq, Repr

/-- The values stored in a user document. -/
inductive Value : Type where
  | null : Value
  | bool : Bool → Value
  | str : String → Value
  deriving DecidableEq, Repr

/-- The fields of a document. -/
abbrev Data : Type := Fields Key Value

/-- A document with its identifier. -/
abbrev Document : Type := Doc Key Value

namespace Value

/-- A `String?` as it is stored. -/
def ofString : Option String → Value
  | none => null
  | some s => str s

/-- A field that is read as a `String?`. -/
def toString? : Option Value → Option String
  | some (str s) => some s
  | _ => none

end Value

/-- What `where(k, isEqualTo: v).limit(1)` finds among the documents of a collection. -/
def firstWith (docs : List Document) (k : Key) (v : Value) : Option Document :=
  docs.find? fun d => d.data.isEqualTo k v

/-- A document found by its field has the value there, and is in the collection. -/
theorem of_firstWith {docs : List Document} {k : Key} {v : Value} {d : Document}
    (h : firstWith docs k v = some d) : d ∈ docs ∧ d.data k = some v := by
  rw [firstWith, List.find?_eq_some_iff_append] at h
  obtain ⟨hv, before, after, rfl, -⟩ := h
  exact ⟨by simp, Fields.isEqualTo_iff.mp hv⟩

/-! ## Firebase Authentication -/

/-- `User` of Firebase Authentication. -/
structure FirebaseUser where
  uid : String
  photoURL : Option String := none
  displayName : Option String := none
  email : Option String := none
  deriving DecidableEq, Repr

/-- The users that full telephone numbers are bound to. -/
structure Auth where
  userOf : String → Option FirebaseUser
  /-- a user is bound to one number -/
  uid_inj : ∀ {m n : String} {u v : FirebaseUser}, userOf m = some u → userOf n = some v →
    u.uid = v.uid → m = n

/-- `verifyPhoneNumber`: a code has been asked for. -/
structure Request where
  device : ℕ
  dialCode : String
  phone : String
  deriving DecidableEq, Repr

/-- The full number that is verified. -/
def Request.number (r : Request) : String := r.dialCode ++ r.phone

/-- A `signInWithCredential` that has succeeded. -/
structure SignIn where
  device : ℕ
  verificationId : ℕ
  smsCode : String
  /-- the full number that was verified -/
  number : String
  user : FirebaseUser
  deriving DecidableEq, Repr

/-- The account of a signed-in user has been looked for. -/
structure Lookup where
  /-- its place among the lookups -/
  id : ℕ
  signIn : SignIn
  /-- `mobileNumber` then -/
  phone : Option String
  /-- how many codes had been asked for then -/
  requested : ℕ
  /-- the collection `users` when the query took effect -/
  users : List Document

/-- What the lookup has found. -/
def Lookup.found (q : Lookup) : Option Document :=
  firstWith q.users .phone (.ofString q.phone)

/-! ## The world -/

/-- `PhoneController`. -/
structure PhoneController where
  phone : String := ""
  dialCode : String := ""
  /-- whether the number is missing -/
  mobileNumber : Bool := false
  deriving DecidableEq, Repr, Inhabited

/-- `OtpController`. -/
structure OtpController where
  otp : String := ""
  isCodeSent : Bool := false
  isLoading : Bool := false
  verificationCode : Option ℕ := none
  mobileNumber : Option String := none
  dialCodeVal : Option String := none
  deriving DecidableEq, Repr, Inhabited

/-- `EditProfileController`. -/
structure EditProfileController where
  /-- the device the screen is on -/
  device : ℕ
  /-- the lookup whose account the screen was opened with -/
  lookup : ℕ
  /-- that account -/
  account : Document
  user : Option Data
  isPhoneLogin : Bool
  isLoading : Bool := false
  imageUrl : String := ""
  nameText : String
  emailText : String
  phoneText : String
  statusText : String

instance : Inhabited EditProfileController where
  default := ⟨0, 0, ⟨.auto 0, .empty⟩, none, false, false, "", "", "", "", ""⟩

/-- The screen that is shown. -/
inductive Route : Type where
  | phone | otp | editProfile | dashboard
  deriving DecidableEq, Repr, Inhabited

/-- What a screen says. -/
inductive Message : Type where
  | emailAlreadyExist | imageNotValid | otpError
  /-- the text of an error of the sign-in -/
  | error
  deriving DecidableEq, Repr

/-- What a device knows of itself. -/
structure Platform where
  pushToken : Option String := none
  deviceName : String := ""
  device : String := ""
  deriving DecidableEq, Repr, Inhabited

/-- A device: its controllers, `session.id` and `session.isIntro`, and the screen. -/
structure Device where
  platform : Platform
  phoneCtrl : PhoneController := {}
  otpCtrl : OtpController := {}
  sessionId : Option Value := none
  isIntro : Bool := false
  route : Route := .phone
  deriving Inhabited

/-- What is stored as `session.user`, with where it comes from. -/
inductive Stored : Type where
  /-- by `checkValidation` -/
  | gate (account : Document) : Stored
  /-- by `onFormSubmitted`, after a lookup -/
  | submission (lookup : ℕ) (account : Document) : Stored
  /-- by the profile editor that was opened after a lookup -/
  | editor (lookup : ℕ) (user : Option Data) : Stored

/-- The value that is stored. -/
def Stored.user : Stored → Option Data
  | gate account | submission _ account => some account.data
  | editor _ user => user

/-- A write of `session.user`. -/
structure SessionWrite where
  device : ℕ
  stored : Stored

/-- Firestore, the verification service, the devices, and the history variables. -/
structure World where
  store : Store Path Key Value
  /-- the codes asked for, oldest first -/
  requests : List Request
  devices : ℕ → Device
  editors : Heap EditProfileController
  /-- the writes of `session.user`, newest first -/
  session : List SessionWrite
  /-- what the screens have said, newest first -/
  messages : List (ℕ × Message)
  /-- the numbers that `checkValidation` has been called with, newest first -/
  confirmed : List (ℕ × String)
  /-- the sign-ins that have succeeded, newest first -/
  signIns : List SignIn
  /-- the lookups, oldest first -/
  lookups : List Lookup

/-- `session.user` of a device; null if it has never been written. -/
def World.sessionUser (w : World) (d : ℕ) : Option Data :=
  (w.session.find? (·.device = d)).bind (·.stored.user)

/-- Some users are stored, and nobody is signed in. -/
def World.initial (store : Store Path Key Value) (platform : ℕ → Platform) : World where
  store := store
  requests := []
  devices d := { platform := platform d }
  editors := .empty
  session := []
  messages := []
  confirmed := []
  signIns := []
  lookups := []

/-- A handler, or a part of one. -/
abbrev Handler (α : Type) : Type := Async World Unit α

/-! ## The device and Firestore -/

/-- Read a device. -/
def device (d : ℕ) : Handler Device := Async.get fun w => w.devices d

/-- Change a device. -/
def World.modifyDevice (w : World) (d : ℕ) (f : Device → Device) : World :=
  { w with devices := Function.update w.devices d (f (w.devices d)) }

/-- Change a device. -/
def modifyDevice (d : ℕ) (f : Device → Device) : Handler Unit :=
  Async.modify fun w => w.modifyDevice d f

/-- Change the `OtpController` of a device. -/
def modifyOtp (d : ℕ) (f : OtpController → OtpController) : Handler Unit :=
  modifyDevice d fun s => { s with otpCtrl := f s.otpCtrl }

/-- Read the fields of a profile editor. -/
def editor (k : ℕ) : Handler EditProfileController := Async.get fun w => w.editors.get k

/-- Change the fields of a profile editor. -/
def modifyEditor (k : ℕ) (f : EditProfileController → EditProfileController) : Handler Unit :=
  Async.modify fun w => { w with editors := w.editors.modify k f }

/-- A toast, or a snack bar. -/
def showMessage (d : ℕ) (m : Message) : Handler Unit :=
  Async.modify fun w => { w with messages := (d, m) :: w.messages }

/-- `Get.toNamed(routeName.dashboard)`. -/
def toDashboard (d : ℕ) : Handler Unit := modifyDevice d fun s => { s with route := .dashboard }

/-- `storage.write(session.user, ...)`, awaited. -/
def storeUser (d : ℕ) (stored : Stored) : Handler Unit := do
  Async.modify fun w => { w with session := ⟨d, stored⟩ :: w.session }
  Async.pause

/-- `firebaseMessaging.getToken()`. -/
def getToken (d : ℕ) : Handler (Option String) :=
  Async.remote fun _ w => ((w.devices d).platform.pushToken, w)

/-- `user["id"]` as the argument of `doc`; null there names no document, and what follows
fails. -/
def docId (user : Option Data) : Handler String :=
  match user with
  | some user =>
    match user .id with
    | some (.str id) => pure id
    | _ => Async.throw
  | none => Async.throw

/-- `collection(users).doc(id).update(u)`; it fails if there is no such document. -/
def update (id : String) (u : Data) : Handler Unit := do
  let found ← Async.remote fun _ w =>
    ((w.store.doc? .users (.named id)).isSome,
      { w with store := w.store.update .users (.named id) u })
  if found then pure () else Async.throw

/-- `collection(users).doc(id).update(u)` whose failure is caught; the flag says whether it
took effect. -/
def tryUpdate (id : String) (u : Data) : Handler Bool := do
  let found ← Async.attempt fun _ w =>
    ((w.store.doc? .users (.named id)).isSome,
      { w with store := w.store.update .users (.named id) u })
  pure (found = some true)

/-- `collection(users).doc(id).get()`. -/
def getDoc (id : String) : Handler (Option Document) :=
  Async.remote fun _ w => (w.store.doc? .users (.named id), w)

/-! ## Asking for a code -/

/-- `homeNavigation` of `PhoneController` and of `OtpController`. -/
def homeNavigation (d : ℕ) (user : Data) (stored : Stored) : Handler Unit := Async.spawn do
  modifyDevice d fun s => { s with sessionId := user .id }
  storeUser d stored
  modifyDevice d fun s => { s with isIntro := true }
  Async.pause
  Async.spawn do
    let token ← getToken d
    let id ← docId (some user)
    update id (.ofList [(.status, .str "Online"), (.pushToken, .ofString token),
      (.isActive, .bool true)])
    toDashboard d

/-- `OtpController.onVerifyCode`; the request of `verifyPhoneNumber`, which nobody awaits, is
on its way. -/
def onVerifyCode (d : ℕ) (phone dialCode : String) : Handler Unit := do
  Async.modify fun w => { w.modifyDevice d fun s => { s with
      otpCtrl := { s.otpCtrl with
        mobileNumber := some phone
        dialCodeVal := some dialCode
        isCodeSent := true
        isLoading := true } } with
    requests := w.requests ++ [⟨d, dialCode, phone⟩] }
  modifyOtp d fun s => { s with isLoading := false }

/-- The number that is let in without a code. -/
def gateNumber : String := "7990261461"

/-- The branch of `checkValidation` for that number. -/
def enterByGate (d : ℕ) : Handler Unit := Async.spawn do
  let value ← Async.attempt fun _ w =>
    (firstWith (w.store.docs .users) .phone (.str gateNumber), w)
  match value with
  | some (some account) => homeNavigation d account.data (.gate account)
  | _ => pure ()

/-- `PhoneController.checkValidation`. -/
def checkValidation (d : ℕ) : Handler Unit := do
  let s ← device d
  Async.modify fun w => { w with confirmed := (d, s.phoneCtrl.phone) :: w.confirmed }
  if s.phoneCtrl.phone ≠ "" then
    if s.phoneCtrl.phone = gateNumber then
      enterByGate d
    else do
      modifyDevice d fun s => { s with phoneCtrl := { s.phoneCtrl with mobileNumber := false } }
      onVerifyCode d s.phoneCtrl.phone s.phoneCtrl.dialCode
      modifyDevice d fun s => { s with route := .otp }
  else
    modifyDevice d fun s => { s with phoneCtrl := { s.phoneCtrl with mobileNumber := true } }

/-- `codeSent`, and `codeAutoRetrievalTimeout`, for the `r`-th request. -/
def codeSent (r : ℕ) : Handler Unit := do
  let request ← Async.get fun w => w.requests[r]?
  match request with
  | some request => modifyOtp request.device fun s => { s with verificationCode := some r }
  | none => pure ()

/-- `verificationFailed` for the `r`-th request. -/
def verificationFailed (r : ℕ) : Handler Unit := do
  let request ← Async.get fun w => w.requests[r]?
  match request with
  | some request => do
    showMessage request.device .error
    modifyOtp request.device fun s => { s with isCodeSent := false }
  | none => pure ()

/-! ## Submitting the code -/

/-- `firebaseAuth.signInWithCredential`, with what goes wrong caught. The answer has no user
where the number is bound to none. -/
def signInWithCredential (auth : Auth) (d verificationId : ℕ) (smsCode : String) :
    Handler (Option (Option SignIn)) := Async.attempt fun _ w =>
  match w.requests[verificationId]? with
  | some request =>
    match auth.userOf request.number with
    | some user =>
      let signIn := ⟨d, verificationId, smsCode, request.number, user⟩
      (some signIn, { w with signIns := signIn :: w.signIns })
    | none => (none, w)
  | none => (none, w)

/-- The fields of a new user. -/
def newUserFields (user : FirebaseUser) (platform : Platform) (token phone : Option String) :
    Data :=
  .ofList [
    (.chattingWith, .null),
    (.id, .str user.uid),
    (.image, .str (user.photoURL.getD "")),
    (.name, .str (user.displayName.getD "")),
    (.pushToken, .ofString token),
    (.status, .str "Offline"),
    (.typeStatus, .str "Offline"),
    (.phone, .ofString phone),
    (.email, .ofString user.email),
    (.deviceName, .str platform.deviceName),
    (.isActive, .bool true),
    (.device, .str platform.device),
    (.statusDesc, .str "Hello, I am using Chatter")]

/-- `OtpController.userRegister`: the document is on its way when it returns. -/
def userRegister (d : ℕ) (user : FirebaseUser) : Handler Unit := do
  Async.spawn do
    let token ← getToken d
    let s ← device d
    let _ ← Async.attempt fun t w => ((), { w with
      store := w.store.set .users user.uid t.pos
        (newUserFields user s.platform token s.otpCtrl.mobileNumber) })
    pure ()
  Async.pause

/-- `OtpController.getUserData`, with what goes wrong caught. -/
def getUserData (user : FirebaseUser) : Handler (Option (Option Document)) :=
  Async.attempt fun _ w => (w.store.doc? .users (.named user.uid), w)

/-- `Get.toNamed(routeName.editProfile, ...)`, and `onReady` of its controller. -/
def toEditProfile (d lookup : ℕ) (account : Document) (isPhoneLogin : Bool) : Handler Unit :=
  Async.modify fun w => { w.modifyDevice d fun s => { s with route := .editProfile } with
    editors := w.editors.alloc {
      device := d
      lookup := lookup
      account := account
      user := some account.data
      isPhoneLogin := isPhoneLogin
      nameText := (Value.toString? (account.data .name)).getD ""
      emailText := (Value.toString? (account.data .email)).getD ""
      phoneText := (Value.toString? (account.data .phone)).getD ""
      statusText := (Value.toString? (account.data .statusDesc)).getD "" } }

/-- `resultData["name"] == ""`. -/
def isNew (account : Document) : Bool := account.data .name = some (.str "")

/-- The account is stored, and the dashboard opened. -/
def enter (d lookup : ℕ) (account : Document) : Handler Unit := do
  storeUser d (.submission lookup account)
  homeNavigation d account.data (.submission lookup account)
  modifyOtp d fun s => { s with isLoading := false }

/-- What follows the lookup of the account; what goes wrong is caught. -/
def lookedUp (q : Lookup) : Handler Unit :=
  match q.found with
  | some account =>
    if isNew account then do
      toEditProfile q.signIn.device q.id account true
      modifyOtp q.signIn.device fun s => { s with isLoading := false }
    else
      enter q.signIn.device q.id account
  | none => do
    userRegister q.signIn.device q.signIn.user
    let resultData ← getUserData q.signIn.user
    match resultData with
    | some (some account) =>
      if isNew account then
        -- then `value.docs[0]` of an empty list is an error
        toEditProfile q.signIn.device q.id account true
      else
        enter q.signIn.device q.id account
    -- `resultData["name"]` of null is an error
    | _ => pure ()

/-- The lookup of the account by `mobileNumber`. -/
def lookUp (signIn : SignIn) : Handler Unit := do
  let (phone, requested) ← Async.get fun w =>
    ((w.devices signIn.device).otpCtrl.mobileNumber, w.requests.length)
  let value ← Async.attempt fun _ w =>
    let q := ⟨w.lookups.length, signIn, phone, requested, w.store.docs .users⟩
    (q, { w with lookups := w.lookups ++ [q] })
  match value with
  | some q => lookedUp q
  | none => pure ()

/-- What follows the sign-in. -/
def signedIn (d : ℕ) (value : Option (Option SignIn)) : Handler Unit :=
  match value with
  | some (some signIn) => Async.spawn (lookUp signIn)
  | some none => do
    modifyOtp d fun s => { s with isLoading := false }
    showMessage d .otpError
  | none => do
    modifyOtp d fun s => { s with isLoading := false }
    showMessage d .error

/-- `OtpController.onFormSubmitted`. -/
def onFormSubmitted (auth : Auth) (d : ℕ) : Handler Unit := do
  modifyOtp d fun s => { s with isLoading := true }
  let s ← device d
  match s.otpCtrl.verificationCode with
  | some verificationCode => Async.spawn do
    let value ← signInWithCredential auth d verificationCode s.otpCtrl.otp
    signedIn d value
  | none => Async.throw

/-! ## The profile editor -/

/-- The fields that a profile save writes. -/
def profileFields (s : EditProfileController) (token : Option String) : Data :=
  .ofList [
    (.image, .str s.imageUrl),
    (.name, .str s.nameText),
    (.status, .str "Online"),
    (.typeStatus, .str ""),
    (.phone, .str s.phoneText),
    (.email, .str s.emailText),
    (.statusDesc, .str s.statusText),
    (.pushToken, .ofString token),
    (.isActive, .bool true)]

/-- The update of the user document, and what follows it. -/
def saveProfile (k : ℕ) (token : Option String) : Handler Unit := do
  let s ← editor k
  let id ← docId s.user
  let saved ← tryUpdate id (profileFields s token)
  if saved then do
    Async.spawn do
      let s ← editor k
      let id ← docId s.user
      let value ← getDoc id
      modifyDevice s.device fun s => { s with sessionId := some (.str id) }
      Async.pause
      storeUser s.device (.editor s.lookup (value.map Doc.data))
    toDashboard s.device
  else pure ()

/-- `EditProfileController.updateUserData`. -/
def updateUserData (k : ℕ) : Handler Unit := do
  modifyEditor k fun s => { s with isLoading := true }
  Async.spawn do
    let s ← editor k
    let token ← getToken s.device
    let s ← editor k
    Async.spawn do
      let value ← Async.remote fun _ w =>
        (firstWith (w.store.docs .users) .email (.str s.emailText), w)
      if s.isPhoneLogin && value.isSome then
        showMessage s.device .emailAlreadyExist
      else
        saveProfile k token
    modifyEditor k fun s => { s with isLoading := false }

/-- `EditProfileController.uploadFile`, with the download URL of the file. -/
def uploadFile (k : ℕ) (downloadUrl : String) : Handler Unit := do
  modifyEditor k fun s => { s with isLoading := true }
  Async.spawn do
    Async.remote fun _ w => ((), w) -- putFile
    let url ← Async.attempt fun _ w => (downloadUrl, w)
    let s ← editor k
    match url with
    | none => showMessage s.device .imageNotValid
    | some url =>
      match s.user with
      | none => Async.throw
      | some user => do
        let user := Fields.merge user (.ofList [(.image, .str s.imageUrl)])
        modifyEditor k fun s => { s with user := some user }
        storeUser s.device (.editor s.lookup (some user))
        modifyEditor k fun s => { s with imageUrl := url }
        let s ← editor k
        let id ← docId s.user
        update id (.ofList [(.image, .str url)])
        Async.spawn do
          let s ← editor k
          let id ← docId s.user
          let snap ← getDoc id
          storeUser s.device (.editor s.lookup (snap.map Doc.data))
          modifyEditor k fun s => { s with user := snap.map Doc.data }
        modifyEditor k fun s => { s with isLoading := false }

/-! ## The system -/

/-- What can happen. -/
inductive Action : Type where
  /-- `OtpController.onReady`, in the frame after the controller is made -/
  | onReady (d : ℕ) (arguments : Option String)
  | typePhone (d : ℕ) (dialCode phone : String)
  | typeOtp (d : ℕ) (otp : String)
  | checkValidation (d : ℕ)
  | codeSent (r : ℕ)
  | codeAutoRetrievalTimeout (r : ℕ)
  | verificationFailed (r : ℕ)
  | onFormSubmitted (d : ℕ)
  | typeProfile (k : ℕ) (name email phone status : String)
  | updateUserData (k : ℕ)
  | uploadFile (k : ℕ) (downloadUrl : String)
  /-- any other part of the application writes to `users` -/
  | others (op : Write Path Key Value)

/-- The handler of an action. -/
def Action.body (auth : Auth) : Action → Handler Unit
  | onReady d arguments => modifyOtp d fun s => { s with mobileNumber := arguments }
  | typePhone d dialCode phone => modifyDevice d fun s =>
    { s with phoneCtrl := { s.phoneCtrl with dialCode := dialCode, phone := phone } }
  | typeOtp d otp => modifyOtp d fun s => { s with otp := otp }
  | checkValidation d => Login.checkValidation d
  | codeSent r | codeAutoRetrievalTimeout r => Login.codeSent r
  | verificationFailed r => Login.verificationFailed r
  | onFormSubmitted d => Login.onFormSubmitted auth d
  | typeProfile k name email phone status => modifyEditor k fun s =>
    { s with nameText := name, emailText := email, phoneText := phone, statusText := status }
  | updateUserData k => Login.updateUserData k
  | uploadFile k downloadUrl => Login.uploadFile k downloadUrl
  | others op => Async.modify fun w => { w with store := w.store.write op }

/-- `onReady` comes before a button can be pressed; a callback belongs to a request and the
buttons of an editor to an editor that exists. -/
def Action.enabled (w : World) : Action → Prop
  | onReady d _ => ∀ r ∈ w.requests, r.device ≠ d
  | typePhone _ _ _ | typeOtp _ _ | checkValidation _ | onFormSubmitted _ | others _ => True
  | codeSent r | codeAutoRetrievalTimeout r | verificationFailed r => r < w.requests.length
  | typeProfile k _ _ _ _ | updateUserData k | uploadFile k _ => k < w.editors.size

instance (w : World) : (a : Action) → Decidable (a.enabled w)
  | .onReady d _ => inferInstanceAs (Decidable (∀ r ∈ w.requests, r.device ≠ d))
  | .typePhone _ _ _ | .typeOtp _ _ | .checkValidation _ | .onFormSubmitted _ | .others _ =>
    inferInstanceAs (Decidable True)
  | .codeSent r | .codeAutoRetrievalTimeout r | .verificationFailed r =>
    inferInstanceAs (Decidable (r < w.requests.length))
  | .typeProfile k _ _ _ _ | .updateUserData k | .uploadFile k _ =>
    inferInstanceAs (Decidable (k < w.editors.size))

/-- The devices of all users over one Firestore and one verification service. -/
def login (auth : Auth) : System World Unit Action where
  scope _ _ := ()
  body := Action.body auth
  enabled := Action.enabled

instance (auth : Auth) (c : Config World Unit) :
    (e : Event Action) → Decidable ((login auth).admits c e)
  | .call a _ => inferInstanceAs (Decidable (a.enabled c.world))
  | .resume _ _ => inferInstanceAs (Decidable True)

end FlutterTheme.Login
