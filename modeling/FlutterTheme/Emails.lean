import FlutterTheme.Actions
import FlutterTheme.Evolving
import FlutterTheme.Login

/-!
# The emails of user documents

The saves of the profile editors (`updateUserData`), with the query and the update of each taking
effect at any time. A save with `isPhoneLogin` looks whether a document has the email, and tells
the user if one has; any other save makes the same query and does not look at the answer.

`World.log` and `World.rejections` are history variables: the questions and the updates so far,
and the saves that have been turned down. What a question has found out is true of the store
except for the emails that were given since (`Answered`). A save is `Careful` where the answer
still stands; and in the runs of such saves emails are unique (`emails_unique`).
-/

namespace FlutterTheme.Login.Emails

open EventLoop DocStore

/-! ## The world -/

/-- What a save has done. -/
inductive Entry : Type where
  /-- it has looked for the email, for the user with this id, and found this document -/
  | asked (user : Option String) (email : String) (found : Option Document)
  /-- it has put the email into the document of the user; with the place of its question in the
  log, where it has looked at the answer -/
  | saved (user email : String) (question : Option ℕ)

/-- A save that has been turned down: the id of its user, and the document that was found. -/
abbrev Rejection : Type := Option String × Document

/-- A device: its push token, and what the editor leaves behind. -/
structure Device where
  pushToken : Option String := none
  sessionId : Option String := none
  sessionUser : Option Data := none
  route : Route := .editProfile

/-- Firestore, the devices, the editors, and the history variables. -/
structure World where
  store : Store Path Key Value
  devices : ℕ → Device
  editors : Heap EditProfileController
  /-- the devices that have shown a message, newest first -/
  messages : List (ℕ × Message)
  /-- oldest first -/
  log : List Entry
  /-- newest first -/
  rejections : List Rejection

/-- Some users are stored. -/
def World.initial (store : Store Path Key Value) : World :=
  ⟨store, fun _ => {}, .empty, [], [], []⟩

/-- A handler, or a part of one. -/
abbrev Handler (α : Type) : Type := Async World Unit α

/-! ## The profile editor -/

/-- `user["id"]`. -/
def userId (user : Option Data) : Option String := user.bind fun user => Value.toString? (user .id)

/-- `user["id"]` as the argument of `doc`. -/
def docId (user : Option Data) : Handler String :=
  match userId user with
  | some id => pure id
  | none => Async.throw

/-- Read the fields of an editor. -/
def editor (k : ℕ) : Handler EditProfileController := Async.get fun w => w.editors.get k

/-- Change the fields of an editor. -/
def modifyEditor (k : ℕ) (f : EditProfileController → EditProfileController) : Handler Unit :=
  Async.modify fun w => { w with editors := w.editors.modify k f }

/-- Change a device. -/
def modifyDevice (d : ℕ) (f : Device → Device) : Handler Unit :=
  Async.modify fun w => { w with devices := Function.update w.devices d (f (w.devices d)) }

/-- `firebaseMessaging.getToken()`. -/
def getToken (d : ℕ) : Handler (Option String) :=
  Async.remote fun _ w => ((w.devices d).pushToken, w)

/-- `collection(users).where("email", isEqualTo: email).limit(1).get()`. -/
def usersWith (email : String) : Handler (Option Document) :=
  Async.remote fun _ w => (firstWith (w.store.docs .users) .email (.str email), w)

/-- The same query where the answer is looked at, with its place in the log. -/
def ask (user : Option String) (email : String) : Handler (ℕ × Option Document) :=
  Async.remote fun _ w =>
    let found := firstWith (w.store.docs .users) .email (.str email)
    ((w.log.length, found), { w with log := w.log ++ [.asked user email found] })

/-- The snack bar "Email Already Exist". -/
def reject (d : ℕ) (r : Rejection) : Handler Unit := Async.modify fun w => { w with
  messages := (d, .emailAlreadyExist) :: w.messages
  rejections := r :: w.rejections }

/-- `collection(users).doc(id).update(...)`, whose failure is caught; the flag says whether it
took effect. -/
def tryUpdate (id : String) (s : EditProfileController) (token : Option String)
    (question : Option ℕ) : Handler Bool := do
  let found ← Async.attempt fun _ w =>
    if (w.store.doc? .users (.named id)).isSome then
      (true, { w with
        store := w.store.update .users (.named id) (profileFields s token)
        log := w.log ++ [.saved id s.emailText question] })
    else
      (false, w)
  pure (found = some true)

/-- `collection(users).doc(id).get()`. -/
def getDoc (id : String) : Handler (Option Document) :=
  Async.remote fun _ w => (w.store.doc? .users (.named id), w)

/-- The update of the user document, and what follows it. -/
def saveProfile (k : ℕ) (token : Option String) (question : Option ℕ) : Handler Unit := do
  let s ← editor k
  let id ← docId s.user
  let saved ← tryUpdate id s token question
  if saved then do
    Async.spawn do
      let s ← editor k
      let id ← docId s.user
      let value ← getDoc id
      modifyDevice s.device fun v => { v with sessionId := some id }
      Async.pause
      modifyDevice s.device fun v => { v with sessionUser := value.map Doc.data }
      Async.pause
    modifyDevice s.device fun v => { v with route := .dashboard }
  else pure ()

/-- What a save does with `isPhoneLogin`. -/
def checkAndSave (k : ℕ) (s : EditProfileController) (token : Option String) : Handler Unit := do
  let (question, value) ← ask (userId s.user) s.emailText
  match value with
  | some d => reject s.device (userId s.user, d)
  | none => saveProfile k token (some question)

/-- What a save does without. -/
def queryAndSave (k : ℕ) (s : EditProfileController) (token : Option String) : Handler Unit := do
  let _ ← usersWith s.emailText
  saveProfile k token none

/-- `EditProfileController.updateUserData`. -/
def updateUserData (k : ℕ) : Handler Unit := do
  modifyEditor k fun s => { s with isLoading := true }
  Async.spawn do
    let s ← editor k
    let token ← getToken s.device
    let s ← editor k
    Async.spawn (if s.isPhoneLogin then checkAndSave k s token else queryAndSave k s token)
    modifyEditor k fun s => { s with isLoading := false }

/-! ## The system -/

/-- What can happen. -/
inductive Action : Type where
  /-- an editor is opened with some account, and its `onReady` runs -/
  | openEditor (d lookup : ℕ) (account : Document) (isPhoneLogin : Bool)
  | typeProfile (k : ℕ) (name email phone status : String)
  | updateUserData (k : ℕ)

/-- The handler of an action. -/
def Action.body : Action → Handler Unit
  | openEditor d lookup account isPhoneLogin => Async.modify fun w => { w with
      editors := w.editors.alloc {
        device := d
        lookup := lookup
        account := account
        user := some account.data
        isPhoneLogin := isPhoneLogin
        nameText := (Value.toString? (account.data .name)).getD ""
        emailText := (Value.toString? (account.data .email)).getD ""
        phoneText := (Value.toString? (account.data .phone)).getD ""
        statusText := (Value.toString? (account.data .statusDesc)).getD "" } }
  | typeProfile k name email phone status => modifyEditor k fun s =>
    { s with nameText := name, emailText := email, phoneText := phone, statusText := status }
  | updateUserData k => Emails.updateUserData k

/-- The buttons of an editor belong to an editor that exists. -/
def Action.enabled (w : World) : Action → Prop
  | openEditor _ _ _ _ => True
  | typeProfile k _ _ _ _ | updateUserData k => k < w.editors.size

instance (w : World) : (a : Action) → Decidable (a.enabled w)
  | .openEditor _ _ _ _ => inferInstanceAs (Decidable True)
  | .typeProfile k _ _ _ _ | .updateUserData k => inferInstanceAs (Decidable (k < w.editors.size))

/-- Any number of editors, on any number of devices. -/
def saving : System World Unit Action where
  scope _ _ := ()
  body := Action.body
  enabled w a := a.enabled w

instance (c : Config World Unit) : (e : Event Action) → Decidable (saving.admits c e)
  | .call a _ => inferInstanceAs (Decidable (a.enabled c.world))
  | .resume _ _ => inferInstanceAs (Decidable True)

/-! ## Unique emails -/

/-- The email of a user document. -/
def emailOf (d : Document) : Option String := Value.toString? (d.data .email)

/-- No two user documents hold the same nonempty email. -/
def UniqueEmails (w : World) : Prop :=
  ∀ d ∈ w.store.docs .users, ∀ d' ∈ w.store.docs .users, ∀ email ∈ emailOf d, email ≠ "" →
    email ∈ emailOf d' → d.id = d'.id

instance (w : World) : Decidable (UniqueEmails w) := inferInstanceAs (Decidable
  (∀ d ∈ w.store.docs .users, ∀ d' ∈ w.store.docs .users, ∀ email ∈ emailOf d, email ≠ "" →
    email ∈ emailOf d' → d.id = d'.id))

/-- The document is the one of the user with this id. -/
def IsOwn (user : Option String) (d : Document) : Prop := user.map DocId.named = some d.id

instance (user : Option String) (d : Document) : Decidable (IsOwn user d) :=
  inferInstanceAs (Decidable (_ = _))

/-- No save has been turned down because of the user's own document. -/
def Fair (w : World) : Prop := ∀ r ∈ w.rejections, ¬ IsOwn r.1 r.2

instance (w : World) : Decidable (Fair w) :=
  inferInstanceAs (Decidable (∀ r ∈ w.rejections, ¬ IsOwn r.1 r.2))

/-- The question is about the email. -/
def Entry.asksFor (email : String) : Entry → Bool
  | asked _ email' _ => email' = email
  | saved _ _ _ => false

/-- The user whose document is given the email. -/
def Entry.gives (email : String) : Entry → Option String
  | asked _ _ _ => none
  | saved user email' _ => if email' = email then some user else none

/-- A question does not come upon the user's own document. An email that is saved is empty, or
nobody else has it; or, where the save has asked, it is the one that was asked for and nobody else
has been given it since. -/
def Entry.Careful (w : World) : Entry → Prop
  | asked user email _ => ∀ d ∈ firstWith (w.store.docs .users) .email (.str email), ¬ IsOwn user d
  | saved user email none =>
    email = "" ∨ ∀ d ∈ w.store.docs .users, email ∈ emailOf d → IsOwn user d
  | saved user email (some n) => email = "" ∨ (w.log[n]?).any (·.asksFor email) = true ∧
    ∀ e ∈ w.log.drop n, ∀ user' ∈ e.gives email, user' = user

instance (w : World) : (e : Entry) → Decidable (e.Careful w)
  | .asked user email _ => inferInstanceAs (Decidable
    (∀ d ∈ firstWith (w.store.docs .users) .email (.str email), ¬ IsOwn user d))
  | .saved user email none => inferInstanceAs (Decidable
    (email = "" ∨ ∀ d ∈ w.store.docs .users, email ∈ emailOf d → IsOwn user d))
  | .saved user email (some n) => inferInstanceAs (Decidable
    (email = "" ∨ (w.log[n]?).any (·.asksFor email) = true ∧
      ∀ e ∈ w.log.drop n, ∀ user' ∈ e.gives email, user' = user))

/-- The question or the update of an action is a careful one. -/
def Careful (st : EventLoop.Step World Unit) : Prop :=
  ∀ e ∈ st.after.log.drop st.before.log.length, e.Careful st.before

instance (st : EventLoop.Step World Unit) : Decidable (Careful st) :=
  inferInstanceAs (Decidable (∀ e ∈ st.after.log.drop st.before.log.length, e.Careful st.before))

/-! ## The protocol -/

/-- Where the `n`-th entry is a question that has found nothing, the documents that hold its email
have been given it since. -/
def Answered (w : World) (n : ℕ) : Prop :=
  ∀ user email, w.log[n]? = some (.asked user email none) →
    ∀ d ∈ w.store.docs .users, email ∈ emailOf d →
      ∃ e ∈ w.log.drop n, ∃ user' ∈ e.gives email, IsOwn (some user') d

/-- The answers are as true as that, and the rejections follow from them. -/
structure Sound (w : World) : Prop where
  answered : ∀ n, Answered w n
  rejected : ∀ r ∈ w.rejections, ∃ email, .asked r.1 email (some r.2) ∈ w.log

/-- The question of a save, if it has one, has found nothing. -/
def Checked (w : World) (question : Option ℕ) : Prop :=
  ∀ n ∈ question, ∃ user email, w.log[n]? = some (.asked user email none)

/-- What one action does. -/
inductive Effect (w w' : World) : Prop where
  | rest (log : w'.log = w.log) (store : w'.store = w.store)
  | ask (user : Option String) (email : String) (store : w'.store = w.store)
      (log : w'.log = w.log ++
        [.asked user email (firstWith (w.store.docs .users) .email (.str email))])
  | save (user email : String) (question : Option ℕ) (fields : Data)
      (field : fields .email = some (.str email)) (checked : Checked w question)
      (answered : ∀ n, Answered w n)
      (store : w'.store = w.store.update .users (.named user) fields)
      (log : w'.log = w.log ++ [.saved user email question])

/-- What the saves rely on and guarantee. -/
def logging : Evolving World where
  le w w' := w.log <+: w'.log
  inv := Sound
  step := Effect
  le_refl _ := List.prefix_rfl
  le_trans h h' := h.trans h'
  step_refl _ := .rest rfl rfl

variable {w w' : World} {user : Option String} {email : String} {question : Option ℕ} {k n : ℕ}

theorem mem_emailOf {d : Document} : email ∈ emailOf d ↔ d.data .email = some (.str email) := by
  rw [emailOf, Option.mem_def]
  constructor
  · intro h
    match hd : d.data .email, h with
    | some (.str _), h => exact congrArg (some ∘ Value.str) (Option.some.inj h)
  · intro h
    rw [h]
    rfl

/-- A document that is given an email has no other. -/
theorem eq_of_merge {d : Document} {fields : Data} {email' : String}
    (hfield : fields .email = some (.str email))
    (h : email' ∈ emailOf ⟨d.id, d.data.merge fields⟩) : email' = email := by
  have hgiven : (Fields.merge d.data fields) .email = some (.str email) :=
    Fields.merge_of_some hfield
  have hsame := hgiven.symm.trans (mem_emailOf.mp h)
  exact (Value.str.inj (Option.some.inj hsame)).symm

/-- An entry at the end of the log leaves the ones before it where they are. -/
theorem getElem?_of_lt {e : Entry} (h : w'.log = w.log ++ [e]) (hn : n < w.log.length) :
    w'.log[n]? = w.log[n]? := by
  rw [h, List.getElem?_append_left hn]

theorem getElem?_of_prefix {log log' : List Entry} {e : Entry} (h : log <+: log')
    (hn : log[n]? = some e) : log'[n]? = some e := by
  obtain ⟨more, rfl⟩ := h
  rwa [List.getElem?_append_left (List.getElem?_eq_some_iff.mp hn).1]

theorem Checked.mono (h : Checked w question) (hw : w.log <+: w'.log) : Checked w' question := by
  intro n hn
  obtain ⟨user, email, hasked⟩ := h n hn
  exact ⟨user, email, getElem?_of_prefix hw hasked⟩

/-- What comes after them is that entry. -/
theorem eq_of_ge {log : List Entry} {e e' : Entry} (hn : log.length ≤ n)
    (h : (log ++ [e])[n]? = some e') : e' = e := by
  rw [List.getElem?_append_right hn] at h
  exact List.mem_singleton.mp (List.mem_of_getElem? h)

/-- What is true of an answer stays true while the documents gain no email that is not logged. -/
theorem Answered.append {e : Entry} (h : Answered w n) (hn : n < w.log.length)
    (hlog : w'.log = w.log ++ [e])
    (hdocs : ∀ d ∈ w'.store.docs .users, ∀ email ∈ emailOf d,
      (∃ d₀ ∈ w.store.docs .users, d₀.id = d.id ∧ email ∈ emailOf d₀) ∨
        ∃ user ∈ e.gives email, IsOwn (some user) d) :
    Answered w' n := by
  intro user email hasked d hd hemail
  have hdrop : w'.log.drop n = w.log.drop n ++ [e] := by
    rw [hlog, List.drop_append_of_le_length hn.le]
  rw [getElem?_of_lt hlog hn] at hasked
  rw [hdrop]
  rcases hdocs d hd email hemail with ⟨d₀, hd₀, hid, hemail₀⟩ | hgiven
  · obtain ⟨e', he', user', hgives, hown⟩ := h user email hasked d₀ hd₀ hemail₀
    refine ⟨e', List.mem_append_left _ he', user', hgives, ?_⟩
    rwa [IsOwn, hid] at hown
  · exact ⟨e, List.mem_append_right _ (List.mem_singleton_self e), hgiven⟩

/-- An action that asks and saves nothing. -/
theorem permits_rest (hi : Sound w) (hlog : w'.log = w.log) (hstore : w'.store = w.store)
    (hrej : ∀ r ∈ w'.rejections, ∃ email, .asked r.1 email (some r.2) ∈ w.log) :
    logging.Permits w w' := by
  have hle : w.log <+: w'.log := hlog ▸ List.prefix_rfl
  refine ⟨hle, ⟨fun n => ?_, ?_⟩, .rest hlog hstore⟩
  · rw [Answered, hlog, hstore]
    exact hi.answered n
  · rwa [hlog]

/-- A question who has an email is logged with its answer, that of the documents as they are then.
-/
theorem permits_ask (hi : Sound w) : logging.Permits w { w with log := w.log ++
    [.asked user email (firstWith (w.store.docs .users) .email (.str email))] } := by
  refine ⟨List.prefix_append _ _, ⟨fun n => ?_, fun r hr => ?_⟩, .ask user email rfl rfl⟩
  · rcases Nat.lt_or_ge n w.log.length with hn | hn
    · exact (hi.answered n).append hn rfl fun d hd email hemail => Or.inl ⟨d, hd, rfl, hemail⟩
    · -- the question itself has found nothing, so nothing has the email
      intro user' email' hasked d hd hemail
      have hentry := eq_of_ge hn hasked
      simp only [Entry.asked.injEq] at hentry
      obtain ⟨-, rfl, hnone⟩ := hentry
      rw [eq_comm, firstWith, List.find?_eq_none] at hnone
      exact absurd (Fields.isEqualTo_iff.mpr (mem_emailOf.mp hemail)) (hnone d hd)
  · obtain ⟨email, hmem⟩ := hi.rejected r hr
    exact ⟨email, List.mem_append_left _ hmem⟩

/-- An update of the user's document is logged with the question it rests on, whose answer is in the
log. -/
theorem permits_save {user : String} {fields : Data} (hi : Sound w) (hchecked : Checked w question)
    (hfield : fields .email = some (.str email)) : logging.Permits w { w with
      store := w.store.update .users (.named user) fields
      log := w.log ++ [.saved user email question] } := by
  refine ⟨List.prefix_append _ _, ⟨fun n => ?_, fun r hr => ?_⟩,
    .save user email question fields hfield hchecked hi.answered rfl rfl⟩
  · rcases Nat.lt_or_ge n w.log.length with hn | hn
    · refine (hi.answered n).append hn rfl fun d hd email' hemail => ?_
      obtain ⟨d₀, hd₀, rfl⟩ := Store.mem_update.mp hd
      split at hemail
      · next hid =>
        have heq := eq_of_merge hfield hemail
        exact Or.inr ⟨user, by simp [Entry.gives, heq], by simp [IsOwn, hid]⟩
      · next hid =>
        rw [if_neg hid]
        exact Or.inl ⟨d₀, hd₀, rfl, hemail⟩
    · intro user' email' hasked
      cases eq_of_ge hn hasked
  · obtain ⟨email, hmem⟩ := hi.rejected r hr
    exact ⟨email, List.mem_append_left _ hmem⟩

/-! ## The handlers keep it -/

theorem permits_same (hi : Sound w) (hlog : w'.log = w.log) (hstore : w'.store = w.store)
    (hrej : w'.rejections = w.rejections) : logging.Permits w w' :=
  permits_rest hi hlog hstore (hrej ▸ hi.rejected)

theorem runs_modifyEditor {f : EditProfileController → EditProfileController} (hi : Sound w) :
    Runs logging (modifyEditor k f) w :=
  runs_modify (permits_same hi rfl rfl rfl)

theorem runs_modifyDevice {d : ℕ} {f : Device → Device} (hi : Sound w) :
    Runs logging (modifyDevice d f) w :=
  runs_modify (permits_same hi rfl rfl rfl)

/-- A query tells nothing that lasts. -/
theorem keeps_query {α : Type} {f : World → α} :
    Keeps logging (Async.remote fun _ w => (f w, w) : Handler α) w fun _ _ => True :=
  keeps_remote fun _ _ hi _ => ⟨.refl hi, fun _ _ _ => trivial⟩

theorem keeps_docId {user : Option Data} (hi : Sound w) :
    Keeps logging (docId user) w fun _ _ => True := by
  unfold docId
  cases userId user with
  | none => exact keeps_throw
  | some id => exact keeps_pure hi trivial

/-- An answer is in the log. -/
theorem keeps_ask : Keeps logging (ask user email) w fun q w' =>
    w'.log[q.1]? = some (.asked user email q.2) := by
  refine keeps_remote fun w₁ _ hi₁ _ => ⟨permits_ask hi₁, fun w₂ hw₂ _ => ?_⟩
  exact getElem?_of_prefix hw₂ List.getElem?_concat_length

/-- The update of a save is logged if it is carried out, with the question it rests on, and is not
if it fails. -/
theorem keeps_tryUpdate {id : String} {s : EditProfileController} {token : Option String}
    (hchecked : Checked w question) :
    Keeps logging (tryUpdate id s token question) w fun _ _ => True := by
  refine keeps_bind (Q := fun _ _ => True)
    (keeps_attempt (fun w₁ hw₁ hi₁ _ => ?_) fun _ _ _ => trivial)
    fun _ _ _ hi _ => EventLoop.keeps_pure hi trivial
  refine ⟨?_, fun _ _ _ => trivial⟩
  split
  · exact permits_save hi₁ (hchecked.mono hw₁) rfl
  · exact .refl hi₁

/-- The part of a save behind its question: the update is logged with the question it rests on, and
what follows only copies the document to the session. -/
theorem runs_saveProfile {token : Option String} (hi : Sound w) (hchecked : Checked w question) :
    Runs logging (saveProfile k token question) w := by
  refine keeps_bind (keeps_get (Q := fun _ _ => True) hi trivial) fun s w₁ hw₁ hi₁ _ => ?_
  refine keeps_bind (keeps_docId hi₁) fun id w₂ hw₂ _ _ => ?_
  have hchecked₂ := (hchecked.mono hw₁).mono hw₂
  refine keeps_bind (keeps_tryUpdate hchecked₂) fun saved w₃ _ hi₃ _ => ?_
  split
  · refine keeps_bind (runs_spawn ?_) fun _ w₄ _ hi₄ _ => runs_modifyDevice hi₄
    refine keeps_bind (keeps_get (Q := fun _ _ => True) hi₃ trivial) fun s w₄ _ hi₄ _ => ?_
    refine keeps_bind (keeps_docId hi₄) fun id w₅ _ _ _ => ?_
    refine keeps_bind keeps_query fun value w₆ _ hi₆ _ => ?_
    refine keeps_seq (runs_modifyDevice hi₆) fun w₇ _ _ => ?_
    refine keeps_seq runs_pause fun w₈ _ hi₈ => ?_
    exact keeps_seq (runs_modifyDevice hi₈) fun _ _ _ => runs_pause
  · exact EventLoop.keeps_pure hi₃ trivial

/-- A save asks first who has the email. If nobody has it the save goes on with that answer, and if
somebody has it the refusal is logged with the answer it rests on. -/
theorem runs_checkAndSave {s : EditProfileController} {token : Option String} :
    Runs logging (checkAndSave k s token) w := by
  refine keeps_bind keeps_ask fun q w₁ _ hi₁ hasked => ?_
  obtain ⟨n, found⟩ := q
  cases found with
  | none =>
    refine runs_saveProfile hi₁ fun n' hn' => ?_
    cases hn'
    exact ⟨_, _, hasked⟩
  | some d =>
    refine runs_modify (permits_rest hi₁ rfl rfl fun r hr => ?_)
    rcases List.mem_cons.mp hr with rfl | hr
    · exact ⟨_, List.mem_of_getElem? hasked⟩
    · exact hi₁.rejected r hr

theorem runs_queryAndSave {s : EditProfileController} {token : Option String} :
    Runs logging (queryAndSave k s token) w := by
  refine keeps_bind keeps_query fun value w₁ _ hi₁ _ => ?_
  exact runs_saveProfile hi₁ fun n hn => absurd hn (by simp)

theorem runs_updateUserData (hi : Sound w) : Runs logging (updateUserData k) w := by
  refine keeps_seq (runs_modifyEditor hi) fun w₁ _ hi₁ => runs_spawn ?_
  refine keeps_bind (keeps_get (Q := fun _ _ => True) hi₁ trivial) fun s w₂ _ _ _ => ?_
  refine keeps_bind keeps_query fun token w₃ _ hi₃ _ => ?_
  refine keeps_bind (keeps_get (Q := fun _ _ => True) hi₃ trivial) fun s w₄ _ _ _ => ?_
  refine keeps_seq (runs_spawn ?_) fun _ _ hi₅ => runs_modifyEditor hi₅
  split
  · exact runs_checkAndSave
  · exact runs_queryAndSave

theorem runs_body {a : Action} (hi : Sound w) : Runs logging a.body w := by
  cases a with
  | openEditor => exact runs_modify (permits_same hi rfl rfl rfl)
  | typeProfile => exact runs_modifyEditor hi
  | updateUserData => exact runs_updateUserData hi

/-! ## Runs -/

/-- No question has come upon the document of the user who has asked. -/
def Unhindered (w : World) : Prop :=
  ∀ user email d, Entry.asked user email (some d) ∈ w.log → ¬ IsOwn user d

theorem mem_new {e : Entry} (h : w'.log = w.log ++ [e]) : e ∈ w'.log.drop w.log.length := by
  rw [h, List.drop_left]
  exact List.mem_singleton_self e

/-- A careful action comes upon no document of the user who asks: the answers of later questions are
as good as those there are. -/
theorem Effect.unhindered (h : Effect w w') (hc : Careful ⟨(), w, w'⟩) (hw : Unhindered w) :
    Unhindered w' := by
  intro user email d hmem
  cases h with
  | rest log => exact hw user email d (log ▸ hmem)
  | ask user' email' _ log =>
    rw [log] at hmem
    rcases List.mem_append.mp hmem with hold | hnew
    · exact hw user email d hold
    · have hentry := List.mem_singleton.mp hnew
      simp only [Entry.asked.injEq] at hentry
      obtain ⟨rfl, rfl, hfound⟩ := hentry
      exact hc _ (mem_new log) d hfound.symm
  | save user' email' _ _ _ _ _ _ log =>
    rw [log] at hmem
    rcases List.mem_append.mp hmem with hold | hnew
    · exact hw user email d hold
    · cases List.mem_singleton.mp hnew

/-- What is saved by a careful action is empty, or nobody else has it. -/
theorem Entry.Careful.alone {user : String} (h : (Entry.saved user email question).Careful w)
    (hchecked : Checked w question) (hi : ∀ n, Answered w n) (hne : email ≠ "") :
    ∀ d ∈ w.store.docs .users, email ∈ emailOf d → IsOwn (some user) d := by
  intro d hd hemail
  cases question with
  | none => exact (h.resolve_left hne) d hd hemail
  | some n =>
    obtain ⟨hasks, hgives⟩ := h.resolve_left hne
    obtain ⟨user', email', hasked⟩ := hchecked n rfl
    have heq : email' = email := by
      rw [hasked] at hasks
      simpa [Entry.asksFor] using hasks
    subst heq
    obtain ⟨e, he, user'', hgiven, hown⟩ := hi n user' email' hasked d hd hemail
    rwa [hgives e he user'' hgiven] at hown

/-- A careful action keeps emails unique: an email that is saved was nobody's when it was asked for,
and nobody else has been given it since. -/
theorem Effect.uniqueEmails (h : Effect w w') (hc : Careful ⟨(), w, w'⟩) (hw : UniqueEmails w) :
    UniqueEmails w' := by
  cases h with
  | rest _ store | ask _ _ store =>
    unfold UniqueEmails
    rwa [store]
  | save user email question fields field checked answered store log =>
    have halone := fun hne => (hc _ (mem_new log)).alone checked answered hne
    -- each document is an old one, or the one of the user with the email
    have hdocs : ∀ d ∈ w'.store.docs .users, (d ∈ w.store.docs .users ∧ ¬ IsOwn (some user) d) ∨
        (IsOwn (some user) d ∧ ∀ email' ∈ emailOf d, email' = email) := by
      intro d hd
      rw [store] at hd
      obtain ⟨d₀, hd₀, rfl⟩ := Store.mem_update.mp hd
      split
      · next hid =>
        exact Or.inr ⟨by simp [IsOwn, hid.2], fun email' hemail => eq_of_merge field hemail⟩
      · next hid => exact Or.inl ⟨hd₀, fun hown => hid ⟨rfl, (Option.some.inj hown).symm⟩⟩
    intro d hd d' hd' email' hemail hne hemail'
    rcases hdocs d hd with ⟨hold, hother⟩ | ⟨hown, hgiven⟩
    · rcases hdocs d' hd' with ⟨hold', -⟩ | ⟨hown', hgiven'⟩
      · exact hw d hold d' hold' email' hemail hne hemail'
      · obtain rfl := hgiven' email' hemail'
        exact absurd (halone hne d hold hemail) hother
    · rcases hdocs d' hd' with ⟨hold', hother'⟩ | ⟨hown', -⟩
      · obtain rfl := hgiven email' hemail
        exact absurd (halone hne d' hold' hemail') hother'
      · exact Option.some.inj (hown.symm.trans hown')

variable {store : Store Path Key Value} {es : List (Event Action)} {c : Config World Unit}

theorem sound_initial : Sound (World.initial store) :=
  ⟨fun _ _ _ h => absurd h (by simp [World.initial]), fun _ h => absurd h List.not_mem_nil⟩

/-- Every action of a run is one of the effects. -/
theorem effect_of_moves (h : saving.Run saving.admits { world := .initial store } es c) :
    ∀ st ∈ saving.moves { world := .initial store } es, Effect st.before st.after := by
  refine h.forall_moves fun es c e hrun he st hst => ?_
  have hbody : ∀ a w, logging.inv w → saving.enabled w a → Runs logging (saving.body a) w :=
    fun _ _ hi _ => runs_body hi
  have hinitial : Sound (.initial store) := sound_initial
  have hkept := hrun.kept hinitial rfl hbody
  exact (System.outcome_kept hkept (System.provides_of_runs hbody hkept he)).steps st hst

/-- **Emails are unique** in runs of careful saves, and no save is turned down because of the user's
own document. -/
theorem emails_unique (h : saving.Run saving.admits { world := .initial store } es c)
    (hunique : UniqueEmails (.initial store))
    (hcareful : ∀ st ∈ saving.moves { world := .initial store } es, Careful st) :
    UniqueEmails c.world ∧ Fair c.world := by
  have hleads : Leads _ (saving.moves { world := .initial store } es) _ := System.leads_moves
  rw [← h.exec_eq] at hleads
  have heffect := effect_of_moves h
  have hstep : ∀ st ∈ saving.moves { world := .initial store } es,
      UniqueEmails st.before ∧ Unhindered st.before → UniqueEmails st.after ∧ Unhindered st.after :=
    fun st hst hw => ⟨(heffect st hst).uniqueEmails (hcareful st hst) hw.1,
      (heffect st hst).unhindered (hcareful st hst) hw.2⟩
  have hinitial : Unhindered (.initial store) := fun _ _ _ hmem => absurd hmem List.not_mem_nil
  obtain ⟨hend, hunhindered⟩ :=
    hleads.keeps (P := fun w => UniqueEmails w ∧ Unhindered w) hstep ⟨hunique, hinitial⟩
  refine ⟨hend, fun r hr => ?_⟩
  have hsound : Sound (.initial store) := sound_initial
  have hkept := h.kept hsound rfl fun _ _ hi _ => runs_body hi
  obtain ⟨email, hasked⟩ := hkept.inv.rejected r hr
  exact hunhindered _ email _ hasked

/-! ## Alice and Bob -/

/-- The account of a user. -/
def account (id : String) (email : Value) : Document :=
  ⟨.named id, .ofList [(.id, .str id), (.name, .str ""), (.email, email)]⟩

/-- Alice has an email, and Bob has none. -/
def aliceAndBob : Store Path Key Value :=
  (Store.empty.set .users "alice" 0 (account "alice" (.str "alice@mail")).data).set .users "bob" 1
    (account "bob" .null).data

/-- Bob's editor `k`, on the device `d`. -/
def bobOpens (d k : ℕ) (isPhoneLogin : Bool) (email : String) : List (Event Action) :=
  [.call (.openEditor d 0 (account "bob" .null) isPhoneLogin) fun _ => ⟨0, 0, false⟩,
    .call (.typeProfile k "Bob" email "123" "") fun _ => ⟨0, 0, false⟩]

/-- Bob presses the button, and everything settles. -/
def bobSaves (k : ℕ) : List (Event Action) :=
  .call (.updateUserData k) (fun _ => ⟨0, 0, false⟩) ::
    List.replicate 11 (.resume 0 fun _ => ⟨0, 0, false⟩)

/-- Bob's editor is opened with `isPhoneLogin`, and he saves an email of his own. -/
def bobRegisters : List (Event Action) := bobOpens 1 0 true "bob@mail" ++ bobSaves 0

/-- Bob has his editor open on two devices, and saves his email on one after the other. -/
def bobRegistersTwice : List (Event Action) :=
  bobOpens 1 0 true "bob@mail" ++ bobOpens 2 1 true "bob@mail" ++ bobSaves 0 ++ bobSaves 1

theorem emails_unique_bobRegisters :
    (∃ d ∈ (saving.exec { world := .initial aliceAndBob } bobRegisters).world.store.docs .users,
      "bob@mail" ∈ emailOf d) ∧
    UniqueEmails (saving.exec { world := .initial aliceAndBob } bobRegisters).world :=
  ⟨by decide +kernel, (emails_unique (System.run_exec (by decide +kernel)) (by decide +kernel)
    (by decide +kernel)).1⟩

/-- Bob saves Alice's email without `isPhoneLogin`; or he saves his own on two devices, and is told
on the second that it exists already. -/
theorem emails_collide :
    (¬ ∀ (es : List (Event Action)) (c : Config World Unit),
      saving.Run saving.admits { world := .initial aliceAndBob } es c → UniqueEmails c.world) ∧
    ¬ ∀ (es : List (Event Action)) (c : Config World Unit),
      saving.Run saving.admits { world := .initial aliceAndBob } es c → Fair c.world := by
  constructor
  · intro h
    have hunique := h (bobOpens 1 0 false "alice@mail" ++ bobSaves 0) _
      (System.run_exec (by decide +kernel))
    exact absurd hunique (by decide +kernel)
  · intro h
    have hfair := h bobRegistersTwice _
      (System.run_exec (by decide +kernel))
    exact absurd hfair (by decide +kernel)

end FlutterTheme.Login.Emails
