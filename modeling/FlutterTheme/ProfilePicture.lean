import FlutterTheme.Login
import FlutterTheme.Machine

/-!
# The profile picture

A profile editor uploads the images that are picked, and writes the address of each into the user
document when it has come; a save writes `imageUrl`, which is empty until then. Neither is ordered
with the others, and every write is followed by one of `session.user`, which is a copy of the
document that may be old by then.

* `happens` — what happens to an editor, told by the picks, the saves and the order in which
  operations are completed.
* `Holds.resume` — the user document, `imageUrl` and `session.user` are what this makes of them, and
  stay so with every step.
* `picture_follows_iff` — after which of these the picture is the one picked last.
-/

namespace FlutterTheme.Login.Picture

open EventLoop DocStore

/-! ## The profile editor -/

/-- What a user does in a profile editor. -/
inductive Action : Type where
  /-- an image is picked, whose download URL this will be -/
  | uploadFile (downloadUrl : String)
  | updateUserData
  /-- the text fields are edited -/
  | typeProfile (name email phone status : String)

/-- The handler of an action in the editor `k`. -/
def Action.body (k : ℕ) : Action → Handler Unit
  | .uploadFile downloadUrl => Login.uploadFile k downloadUrl
  | .updateUserData => Login.updateUserData k
  | .typeProfile name email phone status => modifyEditor k fun s =>
    { s with nameText := name, emailText := email, phoneText := phone, statusText := status }

/-- One profile editor. -/
def editing (k : ℕ) : System World Unit Action where
  scope _ _ := ()
  body := Action.body k
  enabled w _ := k < w.editors.size

instance (k : ℕ) (c : Config World Unit) : (e : Event Action) → Decidable ((editing k).admits c e)
  | .call _ _ => inferInstanceAs (Decidable (k < c.world.editors.size))
  | .resume _ _ => inferInstanceAs (Decidable True)

/-! ## The handlers in parts -/

/-- `user["id"]`, if it is a text. -/
def idOf (user : Option Data) : Option String :=
  user.bind fun user => match user .id with
    | some (.str id) => some id
    | _ => none

section Parts

variable (k : ℕ)

/-- `session.user` and `user` become a copy of the user document. -/
def copied (d lookup : ℕ) (snap : Option Document) : Handler Unit := do
  storeUser d (.editor lookup (snap.map Doc.data))
  modifyEditor k fun s => { s with user := snap.map Doc.data }

/-- The document of the user in the editor is read again. -/
def copyDocumentOf (s : EditProfileController) : Handler Unit := do
  let id ← docId s.user
  let snap ← getDoc id
  copied k s.device s.lookup snap

/-- The user document is read again after an upload. -/
def copyDocument : Handler Unit := do
  let s ← editor k
  copyDocumentOf k s

/-- The image has been written. -/
def imageWritten (found : Bool) : Handler Unit := do
  (if found then pure () else Async.throw)
  Async.spawn (copyDocument k)
  modifyEditor k fun s => { s with isLoading := false }

/-- The image is written to the document of the user in the editor. -/
def writeImageOf (user : Option Data) (url : String) : Handler Unit := do
  let id ← docId user
  update id (.ofList [(.image, .str url)])
  Async.spawn (copyDocument k)
  modifyEditor k fun s => { s with isLoading := false }

/-- The image is written, when `session.user` has been stored. -/
def writeImage (url : String) : Handler Unit := do
  modifyEditor k fun s => { s with imageUrl := url }
  let s ← editor k
  writeImageOf k s.user url

/-- What follows on the download URL in the editor as it is then. -/
def imageUploaded (s : EditProfileController) (url : String) : Handler Unit :=
  match s.user with
  | none => Async.throw
  | some user => do
    let user := Fields.merge user (.ofList [(.image, .str s.imageUrl)])
    modifyEditor k fun s => { s with user := some user }
    storeUser s.device (.editor s.lookup (some user))
    writeImage k url

/-- The download URL has come. -/
def urlCame (url : Option String) : Handler Unit := do
  let s ← editor k
  match url with
  | none => showMessage s.device .imageNotValid
  | some url => imageUploaded k s url

/-- The download URL is asked for. -/
def fetchUrl (downloadUrl : String) : Handler Unit := do
  let url ← Async.attempt fun _ w => (downloadUrl, w)
  urlCame k url

/-- `session.user` becomes a copy of the user document. -/
def storeCopy (d lookup : ℕ) (value : Option Document) : Handler Unit :=
  storeUser d (.editor lookup (value.map Doc.data))

/-- The user document has been read again after a save. -/
def storeId (d lookup : ℕ) (id : String) (value : Option Document) : Handler Unit := do
  modifyDevice d fun s => { s with sessionId := some (.str id) }
  Async.pause
  storeCopy d lookup value

/-- The document of the user in the editor is read again. -/
def copyToSessionOf (s : EditProfileController) : Handler Unit := do
  let id ← docId s.user
  let value ← getDoc id
  storeId s.device s.lookup id value

/-- The user document is read again after a save. -/
def copyToSession : Handler Unit := do
  let s ← editor k
  copyToSessionOf s

/-- The save has been answered. -/
def saveAnswered (d : ℕ) (found : Option Bool) : Handler Unit :=
  if found = some true then do
    Async.spawn (copyToSession k)
    toDashboard d
  else pure ()

/-- The profile is saved as it is in the editor. -/
def saveProfileOf (s : EditProfileController) (token : Option String) : Handler Unit := do
  let id ← docId s.user
  let found ← Async.attempt fun _ w => ((w.store.doc? .users (.named id)).isSome,
    { w with store := w.store.update .users (.named id) (profileFields s token) })
  saveAnswered k s.device found

/-- The email has been looked for. -/
def queried (s : EditProfileController) (token : Option String) (value : Option Document) :
    Handler Unit :=
  if s.isPhoneLogin && value.isSome then showMessage s.device .emailAlreadyExist
  else saveProfile k token

/-- The push token has come. -/
def tokenCame (token : Option String) : Handler Unit := do
  let s ← editor k
  Async.spawn do
    let value ← Async.remote fun _ w =>
      (firstWith (w.store.docs .users) .email (.str s.emailText), w)
    queried k s token value
  modifyEditor k fun s => { s with isLoading := false }

end Parts

/-! ## The editor as a machine -/

/-- Where a call is suspended. -/
inductive Point : Type where
  /-- an image is being uploaded -/
  | put (url : String)
  | putDone (url : String)
  /-- its download URL is on its way -/
  | fetch (url : String)
  | fetched (url : Option String)
  /-- `session.user` has been stored with the old image -/
  | stored (url : String)
  /-- the image is being written -/
  | write (id url : String)
  | written (found : Bool)
  /-- the user document is being read after an upload -/
  | read (id : String) (d lookup : ℕ)
  | got (d lookup : ℕ) (snap : Option Document)
  /-- it has been stored -/
  | kept (snap : Option Document)
  /-- a save waits for the push token -/
  | token (d : ℕ)
  | tokenGot (token : Option String)
  /-- the email is being looked for -/
  | query (s : EditProfileController) (token : Option String)
  | queried (s : EditProfileController) (token : Option String) (value : Option Document)
  /-- the profile is being written -/
  | save (id : String) (fields : Data) (d : ℕ)
  | saved (d : ℕ) (found : Option Bool)
  /-- the user document is being read after a save -/
  | look (id : String) (d lookup : ℕ)
  | looked (id : String) (d lookup : ℕ) (value : Option Document)
  /-- `session.id` has been stored -/
  | idStored (d lookup : ℕ) (value : Option Document)
  | done

section Machine

variable (k : ℕ)

/-- What a call has left to do. -/
def task : Point → Task World Unit
  | .put url => .request (fun _ w => ((), w)) fun _ => (fetchUrl k url).task
  | .putDone url => (fetchUrl k url).task
  | .fetch url => .tryRequest (fun _ w => (url, w)) fun url => (urlCame k url).task
  | .fetched url => (urlCame k url).task
  | .stored url => (writeImage k url).task
  | .write id url =>
    .request (fun _ w => ((w.store.doc? .users (.named id)).isSome, { w with
      store := w.store.update .users (.named id) (.ofList [(.image, .str url)]) }))
      fun found => (imageWritten k found).task
  | .written found => (imageWritten k found).task
  | .read id d lookup =>
    .request (fun _ w => (w.store.doc? .users (.named id), w)) fun snap =>
      (copied k d lookup snap).task
  | .got d lookup snap => (copied k d lookup snap).task
  | .kept snap => (modifyEditor k fun s => { s with user := snap.map Doc.data }).task
  | .token d =>
    .request (fun _ w => ((w.devices d).platform.pushToken, w)) fun token =>
      (tokenCame k token).task
  | .tokenGot token => (tokenCame k token).task
  | .query s token =>
    .request (fun _ w => (firstWith (w.store.docs .users) .email (.str s.emailText), w)) fun value =>
      (queried k s token value).task
  | .queried s token value => (Picture.queried k s token value).task
  | .save id fields d =>
    .tryRequest (fun _ w => ((w.store.doc? .users (.named id)).isSome, { w with
      store := w.store.update .users (.named id) fields })) fun found => (saveAnswered k d found).task
  | .saved d found => (saveAnswered k d found).task
  | .look id d lookup =>
    .request (fun _ w => (w.store.doc? .users (.named id), w)) fun value =>
      (storeId d lookup id value).task
  | .looked id d lookup value => (storeId d lookup id value).task
  | .idStored d lookup value => (storeCopy d lookup value).task
  | .done => .done

/-- The fields of the editor change. -/
def edit (f : EditProfileController → EditProfileController) (w : World) : World :=
  { w with editors := w.editors.modify k f }

/-- `session.user` is stored. -/
def store (d : ℕ) (stored : Stored) (w : World) : World :=
  { w with session := ⟨d, stored⟩ :: w.session }

/-- The world after a segment in which the document of the user in the editor is looked at. -/
def withId (w w' : World) (next : String → Point) : Segment World Point :=
  match idOf (w.editors.get k).user with
  | some id => { world := w', points := [next id] }
  | none => { world := w', thrown := 1 }

/-- What a call does that is resumed. -/
def resume : Point → (ℕ → Tick) → World → Segment World Point
  | .put url, ticks, w =>
    if (ticks 0).fails then .threw w else { world := w, points := [.putDone url] }
  | .putDone url, _, w => { world := w, points := [.fetch url] }
  | .fetch url, ticks, w =>
    { world := w, points := [.fetched (if (ticks 0).fails then none else some url)] }
  | .fetched none, _, w =>
    { world := { w with messages := ((w.editors.get k).device, .imageNotValid) :: w.messages } }
  | .fetched (some url), _, w =>
    match (w.editors.get k).user with
    | none => .threw w
    | some user =>
      let user := Fields.merge user (.ofList [(.image, .str (w.editors.get k).imageUrl)])
      { world := store (w.editors.get k).device (.editor (w.editors.get k).lookup (some user))
          (edit k (fun s => { s with user := some user }) w)
        points := [.stored url] }
  | .stored url, _, w =>
    let w' := edit k (fun s => { s with imageUrl := url }) w
    withId k w' w' (.write · url)
  | .write id url, ticks, w =>
    if (ticks 0).fails then .threw w
    else
      { world := { w with
          store := w.store.update .users (.named id) (.ofList [(.image, .str url)]) }
        points := [.written (w.store.doc? .users (.named id)).isSome] }
  | .written found, _, w =>
    if found then
      withId k w (edit k (fun s => { s with isLoading := false }) w)
        (.read · (w.editors.get k).device (w.editors.get k).lookup)
    else .threw w
  | .read id d lookup, ticks, w =>
    if (ticks 0).fails then .threw w
    else { world := w, points := [.got d lookup (w.store.doc? .users (.named id))] }
  | .got d lookup snap, _, w =>
    { world := store d (.editor lookup (snap.map Doc.data)) w, points := [.kept snap] }
  | .kept snap, _, w => { world := edit k (fun s => { s with user := snap.map Doc.data }) w }
  | .token d, ticks, w =>
    if (ticks 0).fails then .threw w
    else { world := w, points := [.tokenGot (w.devices d).platform.pushToken] }
  | .tokenGot token, _, w =>
    { world := edit k (fun s => { s with isLoading := false }) w
      points := [.query (w.editors.get k) token] }
  | .query s token, ticks, w =>
    if (ticks 0).fails then .threw w
    else
      { world := w
        points := [.queried s token (firstWith (w.store.docs .users) .email (.str s.emailText))] }
  | .queried s token value, _, w =>
    if s.isPhoneLogin && value.isSome then
      { world := { w with messages := (s.device, .emailAlreadyExist) :: w.messages } }
    else
      match idOf (w.editors.get k).user with
      | some id =>
        { world := w
          points := [.save id (profileFields (w.editors.get k) token) (w.editors.get k).device] }
      | none => .threw w
  | .save id fields d, ticks, w =>
    if (ticks 0).fails then { world := w, points := [.saved d none] }
    else
      { world := { w with store := w.store.update .users (.named id) fields }
        points := [.saved d (some (w.store.doc? .users (.named id)).isSome)] }
  | .saved d found, _, w =>
    if found = some true then
      withId k w (w.modifyDevice d fun s => { s with route := .dashboard })
        (.look · (w.editors.get k).device (w.editors.get k).lookup)
    else { world := w }
  | .look id d lookup, ticks, w =>
    if (ticks 0).fails then .threw w
    else { world := w, points := [.looked id d lookup (w.store.doc? .users (.named id))] }
  | .looked id d lookup value, _, w =>
    { world := w.modifyDevice d fun s => { s with sessionId := some (.str id) }
      points := [.idStored d lookup value] }
  | .idStored d lookup value, _, w =>
    { world := store d (.editor lookup (value.map Doc.data)) w, points := [.done] }
  | .done, _, w => { world := w }

/-- What a user's action does. -/
def call : Action → (ℕ → Tick) → World → Segment World Point
  | .uploadFile url, _, w =>
    { world := edit k (fun s => { s with isLoading := true }) w, points := [.put url] }
  | .updateUserData, _, w =>
    let w' := edit k (fun s => { s with isLoading := true }) w
    { world := w', points := [.token (w'.editors.get k).device] }
  | .typeProfile name email phone status, _, w =>
    { world := edit k (fun s =>
        { s with nameText := name, emailText := email, phoneText := phone, statusText := status }) w }

/-- The editor as a machine. -/
def machine : Machine World Point Action := ⟨call k, resume k⟩

/-- `user["id"]` is a text, or what follows fails. -/
theorem docId_eq (user : Option Data) :
    docId user = match idOf user with
      | some id => pure id
      | none => Async.throw := by
  cases user with
  | none => rfl
  | some user =>
    simp only [docId, idOf, Option.bind_some]
    cases user .id with
    | none => rfl
    | some v => cases v <;> rfl

end Machine

section Models

variable {k : ℕ} {ticks : ℕ → Tick} {l : Unit} {w w' : World} {n : ℕ} {p : Point}

/-- The callback of the download URL up to its first suspension: the user is stored with the picture
that the editor held before, and the write of the new one comes next. -/
theorem run_imageUploaded {s : EditProfileController} (hs : w.editors.get k = s) (url : String) :
    ((imageUploaded k s url).task.run ticks l n w).Is (task k)
      (resume k (.fetched (some url)) ticks w) := by
  subst hs
  cases huser : (w.editors.get k).user with
  | none =>
    simp only [resume, imageUploaded, huser]
    exact ⟨rfl, rfl, rfl⟩
  | some user =>
    simp only [resume, imageUploaded, huser]
    exact ⟨rfl, rfl, rfl⟩

/-- The document of the user in the editor is looked at. -/
theorem run_docId {f : String → Handler Unit} {next : String → Point}
    (hnext : ∀ id, (f id).task = .await (task k (next id))) :
    ((docId (w.editors.get k).user >>= f).task.run ticks l n w).Is (task k) (withId k w w next) := by
  rw [docId_eq, withId]
  cases idOf (w.editors.get k).user with
  | none => exact ⟨rfl, rfl, rfl⟩
  | some id =>
    have htask : ((pure id : Handler String) >>= f).task = .await (task k (next id)) := hnext id
    simp only [htask]
    exact ⟨rfl, rfl, rfl⟩

/-- A call is started that looks at the document, and the world changes. -/
theorem run_spawn {m : Handler Unit} {next : String → Point} {g : World → World}
    (hm : (m.task.run ticks l n w).Is (task k) (withId k w w next)) :
    ((Async.spawn m >>= fun _ => Async.modify g).task.run ticks l n w).Is (task k)
      (withId k w (g w) next) := by
  have hworld : (m.task.run ticks l n w).world = w := by
    rw [hm.world, withId]
    split
    · rfl
    · rfl
  obtain ⟨-, hthreads, huncaught⟩ := hm
  have hafter : ((Async.spawn m >>= fun _ => Async.modify g).task.run ticks l n w).world =
      g (m.task.run ticks l n w).world := rfl
  refine ⟨?_, ?_, ?_⟩
  · rw [hafter, hworld, withId]
    split
    · rfl
    · rfl
  · refine (congrArg (List.map _) (List.append_nil _)).trans (hthreads.trans ?_)
    rw [withId, withId]
    split
    · rfl
    · rfl
  · refine (congrArg List.length (List.append_nil _)).trans (huncaught.trans ?_)
    rw [withId, withId]
    split
    · rfl
    · rfl

theorem run_writeImageOf (url : String) :
    ((writeImageOf k (w.editors.get k).user url).task.run ticks l n w).Is (task k)
      (withId k w w (.write · url)) :=
  run_docId fun _ => rfl

theorem run_saveProfileOf (token : Option String) :
    ((saveProfileOf k (w.editors.get k) token).task.run ticks l n w).Is (task k)
      (withId k w w fun id =>
        .save id (profileFields (w.editors.get k) token) (w.editors.get k).device) :=
  run_docId fun _ => rfl

theorem run_copyToSessionOf : ((copyToSessionOf (w.editors.get k)).task.run ticks l n w).Is (task k)
    (withId k w w (.look · (w.editors.get k).device (w.editors.get k).lookup)) :=
  run_docId fun _ => rfl

theorem run_copyDocumentOf : ((copyDocumentOf k (w.editors.get k)).task.run ticks l n w).Is (task k)
    (withId k w w (.read · (w.editors.get k).device (w.editors.get k).lookup)) :=
  run_docId fun _ => rfl

/-- `saveProfile` reads the editor first. -/
theorem saveProfile_eq (token : Option String) : saveProfile k token = (do
    let s ← editor k
    saveProfileOf k s token) := by
  have hanswered : ∀ (d : ℕ) (found : Option Bool), (if decide (found = some true) = true then (do
      Async.spawn (copyToSession k)
      toDashboard d) else pure () : Handler Unit) = saveAnswered k d found := by
    intro d found
    simp only [decide_eq_true_eq, saveAnswered]
  refine congrArg (editor k >>= ·) (funext fun s => ?_)
  refine congrArg (docId s.user >>= ·) (funext fun id => ?_)
  funext cont
  have hattempt : ∀ found : Option Bool, (if decide (found = some true) = true then (do
      Async.spawn (copyToSession k)
      toDashboard s.device) else pure () : Handler Unit) cont = saveAnswered k s.device found cont :=
    fun found => congrFun (hanswered s.device found) cont
  exact congrArg (Async.attempt _) (funext hattempt)

/-- The machine does what the editor's handlers do, point by point. The callbacks that read the
editor again after a write take the state they find then, not the one they started with. -/
theorem models : (machine k).Models (editing k) (task k) where
  call a ticks l w := by
    cases a with
    | uploadFile url => exact ⟨rfl, rfl, rfl⟩
    | updateUserData => exact ⟨rfl, rfl, rfl⟩
    | typeProfile name email phone status => exact ⟨rfl, rfl, rfl⟩
  resume p ticks l w := by
    cases p with
    | put url =>
      simp only [task, machine, resume]
      exact Task.request_is rfl rfl
    | putDone url => exact ⟨rfl, rfl, rfl⟩
    | fetch url =>
      simp only [task, machine, resume]
      exact Task.tryRequest_is (by simp) rfl
    | fetched url =>
      cases url with
      | none => exact ⟨rfl, rfl, rfl⟩
      | some url => exact Outcome.Follows.act (run_imageUploaded rfl url)
    | stored url =>
      have hwrite : ∀ w' : World,
          ((writeImageOf k (w'.editors.get k).user url).task.run ticks l 2 w').Is (task k)
            (withId k w' w' (.write · url)) := fun w' => run_writeImageOf url
      exact Outcome.Follows.act (Outcome.Follows.act
        (hwrite (edit k (fun s => { s with imageUrl := url }) w)))
    | write id url =>
      simp only [task, machine, resume]
      exact Task.request_is rfl rfl
    | written found =>
      cases found with
      | false => exact ⟨rfl, rfl, rfl⟩
      | true => exact run_spawn (Outcome.Follows.act run_copyDocumentOf)
    | read id d lookup =>
      simp only [task, machine, resume]
      exact Task.request_is rfl rfl
    | got d lookup snap => exact ⟨rfl, rfl, rfl⟩
    | kept snap => exact ⟨rfl, rfl, rfl⟩
    | token d =>
      simp only [task, machine, resume]
      exact Task.request_is rfl rfl
    | tokenGot token => exact ⟨rfl, rfl, rfl⟩
    | query s token =>
      simp only [task, machine, resume]
      exact Task.request_is rfl rfl
    | queried s token value =>
      cases hfound : s.isPhoneLogin && value.isSome with
      | true =>
        simp only [task, machine, resume, Picture.queried, hfound]
        exact ⟨rfl, rfl, rfl⟩
      | false =>
        simp only [task, machine, resume, Picture.queried, hfound, saveProfile_eq]
        exact Outcome.Follows.act (run_saveProfileOf token)
    | save id fields d =>
      simp only [task, machine, resume]
      cases hfails : (ticks 0).fails with
      | true => exact Task.tryRequest_is (by simp [hfails]) (by rw [hfails]; rfl)
      | false => exact Task.tryRequest_is (by simp [hfails]) (by rw [hfails]; rfl)
    | saved d found =>
      by_cases hfound : found = some true
      · simp only [task, machine, resume, saveAnswered, hfound, if_true]
        exact run_spawn (Outcome.Follows.act run_copyToSessionOf)
      · simp only [task, machine, resume, saveAnswered, hfound, if_false]
        exact ⟨rfl, rfl, rfl⟩
    | look id d lookup =>
      simp only [task, machine, resume]
      exact Task.request_is rfl rfl
    | looked id d lookup value => exact ⟨rfl, rfl, rfl⟩
    | idStored d lookup value => exact ⟨rfl, rfl, rfl⟩
    | done => exact ⟨rfl, rfl, rfl⟩

end Models

/-! ## What is to hold -/

/-- The image in the fields of a user. -/
def imageOf (user : Option Data) : Option Value := user.bind (· .image)

/-- The image of a user document. -/
def stored (uid : String) (w : World) : Option Value :=
  imageOf ((w.store.doc? .users (.named uid)).map Doc.data)

/-- The image picked last, when it was `image` before the event. -/
def picked (image : String) : Event Action → String
  | .call (.uploadFile downloadUrl) _ => downloadUrl
  | _ => image

/-- The image picked last, and `image` if none has been. -/
def lastPicked (image : String) (es : List (Event Action)) : String := es.foldl picked image

/-- A profile with a stored image has been opened. -/
structure Opened (k : ℕ) (uid image : String) (w : World) : Prop where
  exists_editor : k < w.editors.size
  user : idOf (w.editors.get k).user = some uid
  /-- nothing has been uploaded in the editor -/
  imageUrl : (w.editors.get k).imageUrl = ""
  doc : ∃ doc, w.store.doc? .users (.named uid) = some doc ∧ doc.data .id = some (.str uid)
  stored : stored uid w = some (.str image)
  session : imageOf (w.sessionUser (w.editors.get k).device) = some (.str image)

/-- The user document and `session.user` have the image. -/
structure Follows (k : ℕ) (uid image : String) (w : World) : Prop where
  stored : stored uid w = some (.str image)
  session : imageOf (w.sessionUser (w.editors.get k).device) = some (.str image)

/-! ## What happens -/

/-- What has happened to an editor. An entry that says how old something is has what had happened
until then, newest first. -/
inductive Entry : Type where
  /-- the download URL of an upload has come -/
  | arrived (url : String)
  /-- `session.user` has been stored with the download URL that had come before -/
  | replaced (before : List Entry)
  /-- the update of an upload has been made -/
  | uploaded (url : String)
  /-- the update of a save has been made, which was sent then -/
  | saved (sent : List Entry)
  /-- `session.user` has become the user document as it was read then -/
  | copied (read : List Entry)

/-- The download URL that has come last, and the empty text if none has. -/
def lastArrived : List Entry → String
  | [] => ""
  | .arrived url :: _ => url
  | .replaced _ :: l | .uploaded _ :: l | .saved _ :: l | .copied _ :: l => lastArrived l

/-- The image the user document was updated with last: an upload's own, or the one that had come
last when a save was sent. -/
def lastWritten (image : String) : List Entry → String
  | [] => image
  | .uploaded url :: _ => url
  | .saved sent :: _ => lastArrived sent
  | .arrived _ :: l | .replaced _ :: l | .copied _ :: l => lastWritten image l

/-- The image `session.user` was stored with last. -/
def lastCopied (image : String) : List Entry → String
  | [] => image
  | .copied read :: _ => lastWritten image read
  | .replaced before :: _ => lastArrived before
  | .arrived _ :: l | .uploaded _ :: l | .saved _ :: l => lastCopied image l

/-- What is under way in an editor. -/
inductive Stage : Type where
  /-- an image is being uploaded -/
  | put (url : String)
  | putDone (url : String)
  /-- its download URL is on its way -/
  | fetch (url : String)
  | fetched (url : String)
  | stored (url : String)
  /-- the update of the user document -/
  | write (url : String)
  | written
  /-- the user document is being read after it -/
  | read
  | got (read : List Entry)
  | kept
  /-- a save waits for the push token -/
  | token
  | tokenGot
  /-- the email is being looked for -/
  | query
  | queried (refused : Bool)
  /-- the update of the user document -/
  | save (sent : List Entry)
  | saved
  /-- the user document is being read after it -/
  | look
  | looked (read : List Entry)
  | idStored (read : List Entry)
  | done

/-- What an action of the user begins. -/
def begin : Action → (ℕ → Tick) → List Entry → Segment (List Entry) Stage
  | .uploadFile url, _, log => { world := log, points := [.put url] }
  | .updateUserData, _, log => { world := log, points := [.token] }
  | .typeProfile _ _ _ _, _, log => { world := log }

/-- What the completion of an operation does; a save may be refused. -/
def complete (refused : Bool) : Stage → (ℕ → Tick) → List Entry → Segment (List Entry) Stage
  | .put url, _, log => { world := log, points := [.putDone url] }
  | .putDone url, _, log => { world := log, points := [.fetch url] }
  | .fetch url, _, log => { world := log, points := [.fetched url] }
  | .fetched url, _, log => { world := .replaced log :: log, points := [.stored url] }
  | .stored url, _, log => { world := .arrived url :: log, points := [.write url] }
  | .write url, _, log => { world := .uploaded url :: log, points := [.written] }
  | .written, _, log => { world := log, points := [.read] }
  | .read, _, log => { world := log, points := [.got log] }
  | .got read, _, log => { world := .copied read :: log, points := [.kept] }
  | .kept, _, log => { world := log }
  | .token, _, log => { world := log, points := [.tokenGot] }
  | .tokenGot, _, log => { world := log, points := [.query] }
  | .query, _, log => { world := log, points := [.queried refused] }
  | .queried true, _, log => { world := log }
  | .queried false, _, log => { world := log, points := [.save log] }
  | .save sent, _, log => { world := .saved sent :: log, points := [.saved] }
  | .saved, _, log => { world := log, points := [.look] }
  | .look, _, log => { world := log, points := [.looked log] }
  | .looked read, _, log => { world := log, points := [.idStored read] }
  | .idStored read, _, log => { world := .copied read :: log, points := [.done] }
  | .done, _, log => { world := log }

/-- What happens to an editor, told by the picks, the saves and the order in which operations are
completed. -/
def happens (refused : Bool) : Machine (List Entry) Stage Action := ⟨begin, complete refused⟩

/-- A save is refused: whoever has signed in by phone saves an email that a user has. -/
def refuses (s : Segment World Point) : Event Action → Bool
  | .call _ _ => false
  | .resume i _ =>
    match s.points[i]? with
    | some (.query editor _) =>
      editor.isPhoneLogin &&
        (firstWith (s.world.store.docs .users) .email (.str editor.emailText)).isSome
    | _ => false

/-- What has happened after these events. -/
def happened (k : ℕ) : Segment World Point → Segment (List Entry) Stage → List (Event Action) →
    Segment (List Entry) Stage
  | _, t, [] => t
  | s, t, e :: es => happened k ((machine k).apply s e) ((happens (refuses s e)).apply t e) es

/-- What has happened in an editor that has been opened, newest first. -/
def log (k : ℕ) (w : World) (es : List (Event Action)) : List Entry :=
  (happened k { world := w } { world := [] } es).world

/-- The user document was updated last with the image, and the copy of it that was stored last as
`session.user` had been read after an update with the image. -/
structure Ordered (image last : String) (log : List Entry) : Prop where
  written : lastWritten image log = last
  copied : lastCopied image log = last

/-! ## The editor follows -/

section Follows

variable {k : ℕ} {uid image : String} {d : ℕ} {w w' : World} {log : List Entry} {ticks : ℕ → Tick}
  {refused : Bool}

/-- The fields of the user with the image. -/
structure Shows (uid image : String) (user : Option Data) : Prop where
  id : idOf user = some uid
  image : imageOf user = some (.str image)

/-- A user document that is there. -/
theorem Shows.exists {user : Option Document} (h : Shows uid image (user.map Doc.data)) :
    ∃ doc, user = some doc := by
  cases user with
  | none => exact absurd h.id (by simp [idOf])
  | some doc => exact ⟨doc, rfl⟩

/-- The image of a user is written. -/
theorem Shows.merge {fields u : Data} {image' : String} (h : Shows uid image (some fields))
    (hid : u .id = none) (himage : u .image = some (.str image')) :
    Shows uid image' (some (fields.merge u)) where
  id := by simpa [idOf, Fields.merge_of_none hid] using h.id
  image := Fields.merge_of_some himage

/-- The user document, `imageUrl` and `session.user` are what has happened makes of them. -/
structure Holds (k : ℕ) (uid image : String) (d : ℕ) (w : World) (log : List Entry) : Prop where
  device : (w.editors.get k).device = d
  user : idOf (w.editors.get k).user = some uid
  imageUrl : (w.editors.get k).imageUrl = lastArrived log
  doc : Shows uid (lastWritten image log) ((w.store.doc? .users (.named uid)).map Doc.data)
  session : imageOf (w.sessionUser d) = some (.str (lastCopied image log))

/-- What is known at a point of an editor of the user on the device. -/
inductive Matches (uid image : String) (d : ℕ) : Point → Stage → Prop where
  | put (url : String) : Matches uid image d (.put url) (.put url)
  | putDone (url : String) : Matches uid image d (.putDone url) (.putDone url)
  | fetch (url : String) : Matches uid image d (.fetch url) (.fetch url)
  | fetched (url : String) : Matches uid image d (.fetched (some url)) (.fetched url)
  | stored (url : String) : Matches uid image d (.stored url) (.stored url)
  | write (url : String) : Matches uid image d (.write uid url) (.write url)
  | written : Matches uid image d (.written true) .written
  | read (lookup : ℕ) : Matches uid image d (.read uid d lookup) .read
  | got (lookup : ℕ) {snap : Option Document} {read : List Entry}
    (h : Shows uid (lastWritten image read) (snap.map Doc.data)) :
    Matches uid image d (.got d lookup snap) (.got read)
  | kept {snap : Option Document} (h : idOf (snap.map Doc.data) = some uid) :
    Matches uid image d (.kept snap) .kept
  | token (d' : ℕ) : Matches uid image d (.token d') .token
  | tokenGot (token : Option String) : Matches uid image d (.tokenGot token) .tokenGot
  | query (s : EditProfileController) (token : Option String) :
    Matches uid image d (.query s token) .query
  | queried {s : EditProfileController} (token : Option String) {value : Option Document}
    {refused : Bool} (h : (s.isPhoneLogin && value.isSome) = refused) :
    Matches uid image d (.queried s token value) (.queried refused)
  | save {fields : Data} {sent : List Entry} (d' : ℕ) (hid : fields .id = none)
    (himage : fields .image = some (.str (lastArrived sent))) :
    Matches uid image d (.save uid fields d') (.save sent)
  | saved (d' : ℕ) : Matches uid image d (.saved d' (some true)) .saved
  | look (lookup : ℕ) : Matches uid image d (.look uid d lookup) .look
  | looked (id : String) (lookup : ℕ) {value : Option Document} {read : List Entry}
    (h : Shows uid (lastWritten image read) (value.map Doc.data)) :
    Matches uid image d (.looked id d lookup value) (.looked read)
  | idStored (lookup : ℕ) {value : Option Document} {read : List Entry}
    (h : Shows uid (lastWritten image read) (value.map Doc.data)) :
    Matches uid image d (.idStored d lookup value) (.idStored read)
  | done : Matches uid image d .done .done

/-- The editor and what has happened to it. -/
abbrev InStep (k : ℕ) (uid image : String) (d : ℕ) (s : Segment World Point)
    (t : Segment (List Entry) Stage) : Prop :=
  s.Rel (Holds k uid image d) (Matches uid image d) t

/-- A call comes to its next point. -/
theorem Holds.next {p : Point} {q : Stage} (h : Holds k uid image d w log)
    (hq : Matches uid image d p q) :
    InStep k uid image d { world := w, points := [p] } { world := log, points := [q] } :=
  ⟨h, .cons hq .nil, rfl⟩

/-- A call has come to its end. -/
theorem Holds.last (h : Holds k uid image d w log) :
    InStep k uid image d { world := w } { world := log } :=
  ⟨h, .nil, rfl⟩

@[simp] theorem get_edit {f : EditProfileController → EditProfileController} :
    (edit k f w).editors.get k = f (w.editors.get k) := by
  simp [edit, Heap.get_modify]

/-- What is stored last is read. -/
@[simp] theorem sessionUser_store {stored : Stored} :
    (store d stored w).sessionUser d = stored.user := by
  simp [store, World.sessionUser]

/-- Where the document of the user in the editor is looked at. -/
theorem withId_eq {next : String → Point} (h : idOf (w.editors.get k).user = some uid) :
    withId k w w' next = { world := w', points := [next uid] } := by
  rw [withId, h]

/-- Other fields of the editor change. -/
theorem Holds.edit {f : EditProfileController → EditProfileController}
    (h : Holds k uid image d w log) (hdevice : ∀ s, (f s).device = s.device)
    (huser : ∀ s, (f s).user = s.user) (himage : ∀ s, (f s).imageUrl = s.imageUrl) :
    Holds k uid image d (edit k f w) log where
  device := by rw [get_edit, hdevice, h.device]
  user := by rw [get_edit, huser, h.user]
  imageUrl := by rw [get_edit, himage, h.imageUrl]
  doc := h.doc
  session := h.session

/-- The fields of another user document, or of the same with another image. -/
theorem Holds.doc_update {u : Data} {url : String} (h : Holds k uid image d w log)
    (hid : u .id = none) (himage : u .image = some (.str url)) :
    Shows uid url (((w.store.update .users (.named uid) u).doc? .users (.named uid)).map
      Doc.data) := by
  have hdoc := h.doc
  obtain ⟨doc, hfound⟩ := hdoc.exists
  rw [hfound] at hdoc
  simp only [Store.doc?_update hfound, Option.map_some]
  exact hdoc.merge hid himage

/-- `session.user` becomes a copy of the user document that was read then. -/
theorem Holds.copy {snap : Option Document} {read : List Entry} (h : Holds k uid image d w log)
    (lookup : ℕ) (hsnap : Shows uid (lastWritten image read) (snap.map Doc.data)) :
    Holds k uid image d (store d (.editor lookup (snap.map Doc.data)) w) (.copied read :: log) where
  device := h.device
  user := h.user
  imageUrl := h.imageUrl
  doc := h.doc
  session := by
    rw [sessionUser_store]
    exact hsnap.image

/-- The download URL has come: `session.user` gets the one that had come before. -/
theorem Holds.fetched (h : Holds k uid image d w log) (url : String) :
    InStep k uid image d (resume k (.fetched (some url)) ticks w)
      (complete refused (.fetched url) ticks log) := by
  obtain ⟨user, huser⟩ : ∃ user, (w.editors.get k).user = some user := by
    have huid := h.user
    cases hfound : (w.editors.get k).user with
    | none => exact absurd (hfound ▸ huid) (by simp [idOf])
    | some user => exact ⟨user, rfl⟩
  -- the image is not the identifier
  have hmerge : (Fields.merge user (.ofList [(.image, .str (w.editors.get k).imageUrl)])) .id =
      user .id := Fields.merge_of_none rfl
  have huid := huser ▸ h.user
  simp only [resume, huser]
  refine ⟨⟨?_, ?_, ?_, h.doc, ?_⟩, .cons (.stored url) .nil, rfl⟩
  · simp [store, h.device]
  · simpa [store, idOf, hmerge] using huid
  · simpa [store, complete, lastArrived] using h.imageUrl
  · rw [h.device, sessionUser_store, h.imageUrl]
    rfl

/-- The download URL is written. -/
theorem Holds.stored (h : Holds k uid image d w log) (url : String) :
    InStep k uid image d (resume k (.stored url) ticks w)
      (complete refused (.stored url) ticks log) := by
  simp only [resume]
  rw [withId_eq (by simpa using h.user)]
  refine Holds.next ⟨?_, ?_, ?_, h.doc, h.session⟩ (.write url)
  · simpa using h.device
  · simpa using h.user
  · simp [lastArrived]

/-- The update of an upload is made. -/
theorem Holds.write (h : Holds k uid image d w log) (hticks : (ticks 0).fails = false)
    (url : String) : InStep k uid image d (resume k (.write uid url) ticks w)
      (complete refused (.write url) ticks log) := by
  obtain ⟨doc, hfound⟩ := h.doc.exists
  simp only [resume, hticks, hfound, Bool.false_eq_true, if_false, Option.isSome_some]
  exact Holds.next ⟨h.device, h.user, h.imageUrl, h.doc_update rfl rfl, h.session⟩ .written

/-- The user document is to be read after the update of an upload. -/
theorem Holds.written (h : Holds k uid image d w log) :
    InStep k uid image d (resume k (.written true) ticks w)
      (complete refused .written ticks log) := by
  simp only [resume, if_true]
  rw [withId_eq h.user, h.device]
  exact Holds.next (h.edit (fun _ => rfl) (fun _ => rfl) fun _ => rfl) (.read _)

/-- `user` becomes the copy, too. -/
theorem Holds.kept {snap : Option Document} (h : Holds k uid image d w log)
    (hsnap : idOf (snap.map Doc.data) = some uid) :
    InStep k uid image d (resume k (.kept snap) ticks w) (complete refused .kept ticks log) := by
  simp only [resume]
  refine Holds.last ⟨?_, ?_, ?_, h.doc, h.session⟩
  · simpa using h.device
  · simpa using hsnap
  · simpa using h.imageUrl

/-- The email has been looked for: the save is refused, or is sent with the image that has come
last. -/
theorem Holds.queried {s : EditProfileController} {value : Option Document} {b : Bool}
    (h : Holds k uid image d w log) (token : Option String)
    (hb : (s.isPhoneLogin && value.isSome) = b) :
    InStep k uid image d (resume k (.queried s token value) ticks w)
      (complete refused (.queried b) ticks log) := by
  cases b with
  | true =>
    simp only [resume, hb, if_true]
    exact Holds.last ⟨h.device, h.user, h.imageUrl, h.doc, h.session⟩
  | false =>
    simp only [resume, hb, h.user, Bool.false_eq_true, if_false]
    have himage : profileFields (w.editors.get k) token .image = some (.str (lastArrived log)) := by
      rw [← h.imageUrl]
      rfl
    exact h.next (.save _ rfl himage)

/-- The update of a save is made. -/
theorem Holds.save {fields : Data} {sent : List Entry} (h : Holds k uid image d w log)
    (hticks : (ticks 0).fails = false) (d' : ℕ) (hid : fields .id = none)
    (himage : fields .image = some (.str (lastArrived sent))) :
    InStep k uid image d (resume k (.save uid fields d') ticks w)
      (complete refused (.save sent) ticks log) := by
  obtain ⟨doc, hfound⟩ := h.doc.exists
  simp only [resume, hticks, hfound, Bool.false_eq_true, if_false, Option.isSome_some]
  exact Holds.next ⟨h.device, h.user, h.imageUrl, h.doc_update hid himage, h.session⟩ (.saved d')

/-- The user document is to be read after the update of a save. -/
theorem Holds.saved (h : Holds k uid image d w log) (d' : ℕ) :
    InStep k uid image d (resume k (.saved d' (some true)) ticks w)
      (complete refused .saved ticks log) := by
  simp only [resume, if_true]
  rw [withId_eq h.user, h.device]
  exact Holds.next ⟨h.device, h.user, h.imageUrl, h.doc, h.session⟩ (.look _)

/-- **One call is resumed**, without a failure: the editor, the document and the session stay what
the history makes of them. One case for each point, each with a lemma of its own. -/
theorem Holds.resume {p : Point} {q : Stage} (h : Holds k uid image d w log)
    (hticks : (ticks 0).fails = false) (hq : Matches uid image d p q)
    (hrefused : ∀ s token, p = .query s token → (s.isPhoneLogin &&
      (firstWith (w.store.docs .users) .email (.str s.emailText)).isSome) = refused) :
    InStep k uid image d (resume k p ticks w) (complete refused q ticks log) := by
  cases hq with
  | put url =>
    simp only [Picture.resume, hticks, Bool.false_eq_true, if_false]
    exact h.next (.putDone url)
  | putDone url => exact h.next (.fetch url)
  | fetch url =>
    simp only [Picture.resume, hticks, Bool.false_eq_true, if_false]
    exact h.next (.fetched url)
  | fetched url => exact h.fetched url
  | stored url => exact h.stored url
  | write url => exact h.write hticks url
  | written => exact h.written
  | read lookup =>
    simp only [Picture.resume, hticks, Bool.false_eq_true, if_false]
    exact h.next (.got lookup h.doc)
  | got lookup hsnap => exact (h.copy lookup hsnap).next (.kept hsnap.id)
  | kept hsnap => exact h.kept hsnap
  | token d' =>
    simp only [Picture.resume, hticks, Bool.false_eq_true, if_false]
    exact h.next (.tokenGot _)
  | tokenGot token =>
    exact Holds.next (h.edit (fun _ => rfl) (fun _ => rfl) fun _ => rfl) (.query _ token)
  | query s token =>
    simp only [Picture.resume, hticks, Bool.false_eq_true, if_false]
    exact h.next (.queried token (hrefused s token rfl))
  | queried token hb => exact h.queried token hb
  | save d' hid himage => exact h.save hticks d' hid himage
  | saved d' => exact h.saved d'
  | look lookup =>
    simp only [Picture.resume, hticks, Bool.false_eq_true, if_false]
    exact h.next (.looked _ lookup h.doc)
  | looked id lookup hvalue =>
    exact Holds.next ⟨h.device, h.user, h.imageUrl, h.doc, h.session⟩ (.idStored lookup hvalue)
  | idStored lookup hvalue => exact (h.copy lookup hvalue).next .done
  | done => exact h.last

/-- **One call is started.** -/
theorem Holds.call (h : Holds k uid image d w log) (a : Action) :
    InStep k uid image d (call k a ticks w) (begin a ticks log) := by
  cases a with
  | uploadFile url => exact Holds.next (h.edit (fun _ => rfl) (fun _ => rfl) fun _ => rfl) (.put url)
  | updateUserData => exact Holds.next (h.edit (fun _ => rfl) (fun _ => rfl) fun _ => rfl) (.token _)
  | typeProfile name email phone status =>
    exact Holds.last (h.edit (fun _ => rfl) (fun _ => rfl) fun _ => rfl)

/-- **One event.** -/
theorem InStep.apply {s : Segment World Point} {t : Segment (List Entry) Stage} {e : Event Action}
    (h : InStep k uid image d s t) (he : ∀ n, (e.ticks n).fails = false) :
    InStep k uid image d ((machine k).apply s e) ((happens (refuses s e)).apply t e) := by
  refine Machine.apply_rel h (fun a ticks _ => h.world.call a) ?_
  rintro i ticks p q rfl hp hq
  refine h.world.resume (he 0) hq fun editor token heq => ?_
  simp only [refuses, hp, heq]

/-- **The editor follows what happens.** -/
theorem InStep.exec : ∀ {es : List (Event Action)} {s : Segment World Point}
    {t : Segment (List Entry) Stage}, InStep k uid image d s t →
    (∀ e ∈ es, ∀ n, (e.ticks n).fails = false) →
    InStep k uid image d ((machine k).exec s es) (happened k s t es)
  | [], _, _, h, _ => h
  | e :: _, _, _, h, hes =>
    (h.apply (hes e (List.mem_cons_self ..))).exec fun e' he' => hes e' (List.mem_cons_of_mem _ he')

end Follows

/-! ## Whose order it is -/

section Runs

variable {k : ℕ} {uid image : String} {w₀ : World} {c : Config World Unit}
  {es : List (Event Action)}

/-- An editor that has been opened. -/
theorem Opened.holds (h : Opened k uid image w₀) :
    Holds k uid image (w₀.editors.get k).device w₀ [] := by
  obtain ⟨doc, hdoc, hid⟩ := h.doc
  refine ⟨rfl, h.user, h.imageUrl, ⟨?_, h.stored⟩, h.session⟩
  simp only [hdoc, Option.map_some, idOf, Option.bind_some, hid]

/-- **The picture is the one picked last** exactly when the user document was updated last with it,
and `session.user` with a copy that was read after that, at every time of every run of picks, saves
and edits. -/
theorem picture_follows_iff (hopened : Opened k uid image w₀)
    (h : (editing k).Run (fun c e => (editing k).admits c e ∧ ∀ n, (e.ticks n).fails = false)
      ⟨w₀, [], []⟩ es c) :
    Follows k uid (lastPicked image es) c.world ↔
      Ordered image (lastPicked image es) (log k w₀ es) := by
  have hstep : InStep k uid image (w₀.editors.get k).device { world := w₀ } { world := [] } :=
    hopened.holds.last
  have hholds := (hstep.exec (h.forall_mem fun _ _ he => he.2)).world
  have his : c.Is (task k) ((machine k).exec { world := w₀ } es) :=
    models.run_is ⟨rfl, rfl, rfl⟩ h
  rw [← his.world] at hholds
  obtain ⟨hdevice, -, -, ⟨-, hstored⟩, hsession⟩ := hholds
  rw [← hdevice] at hsession
  constructor
  · rintro ⟨hwritten, hcopied⟩
    exact ⟨Value.str.inj (Option.some.inj (hstored.symm.trans hwritten)),
      Value.str.inj (Option.some.inj (hsession.symm.trans hcopied))⟩
  · rintro ⟨hwritten, hcopied⟩
    exact ⟨hstored.trans (congrArg (some ∘ Value.str) hwritten),
      hsession.trans (congrArg (some ∘ Value.str) hcopied)⟩

end Runs

/-! ## Two saves -/

/-- What is stored of Alice. -/
def aliceFields : Data :=
  .ofList [(.id, .str "alice"), (.name, .str "Alice"), (.image, .str "old"), (.email, .str "a@mail")]

/-- Alice has opened her profile. -/
def aliceOpened : World :=
  { World.initial (Store.empty.set .users "alice" 0 aliceFields) (fun _ => {}) with
    editors := Heap.empty.alloc {
      device := 0, lookup := 0, account := ⟨.named "alice", aliceFields⟩, user := some aliceFields
      isPhoneLogin := false, nameText := "Alice", emailText := "a@mail", phoneText := "1"
      statusText := "" }
    session := [⟨0, .editor 0 (some aliceFields)⟩] }

theorem opened_alice : Opened 0 "alice" "old" aliceOpened := by
  refine ⟨by decide +kernel, by decide +kernel, rfl, ⟨⟨.named "alice", aliceFields⟩, rfl, rfl⟩,
    by decide +kernel, by decide +kernel⟩

/-- Every operation succeeds. -/
def succeeds (_ : ℕ) : Tick := ⟨5000, 0, false⟩

/-- An action, and what follows it. -/
def alone (a : Action) (n : ℕ) : List (Event Action) :=
  .call a succeeds :: List.replicate n (.resume 0 succeeds)

/-- Alice picks an image, and saves when it has been uploaded. -/
def pickAndSave : List (Event Action) := alone (.uploadFile "new") 10 ++ alone .updateUserData 10

theorem run_all {es : List (Event Action)}
    (h : (editing 0).Allowed (fun c e => (editing 0).admits c e) ⟨aliceOpened, [], []⟩ es)
    (hes : ∀ e ∈ es, ∀ n, (e.ticks n).fails = false) :
    (editing 0).Run (fun c e => (editing 0).admits c e ∧ ∀ n, (e.ticks n).fails = false)
      ⟨aliceOpened, [], []⟩ es ((editing 0).exec ⟨aliceOpened, [], []⟩ es) :=
  System.run_exec (h.imp (fun _ _ he hsucceeds => ⟨he, hsucceeds⟩) hes)

theorem alone_succeeds {a : Action} {n : ℕ} : ∀ e ∈ alone a n, ∀ i, (e.ticks i).fails = false := by
  intro e he
  rcases List.mem_cons.mp he with rfl | he
  · exact fun _ => rfl
  · rw [List.eq_of_mem_replicate he]
    exact fun _ => rfl

/-- The image Alice has picked is her picture. -/
theorem picture_follows_new : Follows 0 "alice" "new"
    ((editing 0).exec ⟨aliceOpened, [], []⟩ pickAndSave).world := by
  have hes : ∀ e ∈ pickAndSave, ∀ i, (e.ticks i).fails = false := fun e he =>
    (List.mem_append.mp he).elim (alone_succeeds e) (alone_succeeds e)
  exact (picture_follows_iff opened_alice (run_all (by decide +kernel) hes)).mpr
    ⟨by decide +kernel, by decide +kernel⟩

/-- **A save loses the picture** when no image has been picked before. -/
theorem picture_lost : ¬ ∀ {k : ℕ} {uid image : String} {w₀ : World} {c : Config World Unit}
    {es : List (Event Action)}, Opened k uid image w₀ →
    (editing k).Run (fun c e => (editing k).admits c e ∧ ∀ n, (e.ticks n).fails = false)
      ⟨w₀, [], []⟩ es c → c.Settled → Follows k uid (lastPicked image es) c.world := by
  intro hclaim
  have hfollows := hclaim opened_alice
    (run_all (by decide +kernel : (editing 0).Allowed (fun c e => (editing 0).admits c e) _
      (alone .updateUserData 10)) alone_succeeds) (by decide +kernel)
  exact absurd hfollows.stored (by decide +kernel)

end FlutterTheme.Login.Picture
