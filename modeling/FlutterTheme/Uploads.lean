import FlutterTheme.Actions
import FlutterTheme.Evolving
import FlutterTheme.IntParse
import Mathlib.Data.List.Nodup

/-!
# Uploads

Everything that is uploaded goes into one flat name space of Firebase Storage, under the
milliseconds of the clock, or under the name of the file followed by them. The functions that
upload are many and alike; `objectName` is what they call an object.

* `objectName_inj` — two uploads have the same object name exactly if both or none of them use
  the name of the file, the same one, at the same millisecond.
* `uploads_differ` — so the names of a run differ exactly if these do, and then every download
  URL denotes the file it was made for; otherwise the later file replaces the earlier one
  (`uploads_collide`).
-/

namespace FlutterTheme.Uploads

open EventLoop

/-! ## Names of objects -/

/-- A file on a device. -/
structure File where
  /-- `file.name` -/
  name : String
  content : String
  deriving DecidableEq, Repr

/-- An upload that has been started. -/
structure Upload where
  /-- the name of the file, where the function puts it in front -/
  front : Option String
  /-- the reading of the clock -/
  millis : ℕ
  file : File
  deriving DecidableEq

/-- `DateTime.now().millisecondsSinceEpoch.toString()`, or
`"${file.name}-${DateTime.now().millisecondsSinceEpoch.toString()}"`. -/
def Upload.objectName (u : Upload) : String :=
  match u.front with
  | none => toString u.millis
  | some name => name ++ "-" ++ toString u.millis

theorem dash_not_mem_toString (n : ℕ) : '-' ∉ (toString n).toList := by
  intro hmem
  have hlist : (toString n).toList = Nat.toDigits 10 n := Nat.toList_repr
  rw [hlist] at hmem
  have hdigit := Nat.isDigit_of_mem_toDigits (by decide) (by decide) hmem
  exact absurd hdigit (by decide)

/-- A text is cut in one way only at its last dash. -/
theorem append_dash_inj {a b x y : List Char} (hx : '-' ∉ x) (hy : '-' ∉ y)
    (h : a ++ '-' :: x = b ++ '-' :: y) : a = b ∧ x = y := by
  rcases List.append_eq_append_iff.mp h with ⟨m, hb, hm⟩ | ⟨m, ha, hm⟩
  · cases m with
    | nil => exact ⟨by rw [hb, List.append_nil], (List.cons.inj hm).2⟩
    | cons d m =>
      have hrest : x = m ++ '-' :: y := (List.cons.inj hm).2
      exact absurd (hrest ▸ List.mem_append_right m (List.mem_cons_self ..)) hx
  · cases m with
    | nil => exact ⟨by rw [ha, List.append_nil], ((List.cons.inj hm).2).symm⟩
    | cons d m =>
      have hrest : y = m ++ '-' :: x := (List.cons.inj hm).2
      exact absurd (hrest ▸ List.mem_append_right m (List.mem_cons_self ..)) hy

theorem toList_objectName_some {u : Upload} {name : String} (h : u.front = some name) :
    u.objectName.toList = name.toList ++ '-' :: (toString u.millis).toList := by
  simp [Upload.objectName, h]

theorem toList_objectName_none {u : Upload} (h : u.front = none) :
    u.objectName.toList = (toString u.millis).toList := by
  simp [Upload.objectName, h]

/-- **Names of objects** are as different as what they are made of: the time stands at the end,
behind a hyphen if there is a file's name, and has none itself, so that both parts can be read off.
-/
theorem objectName_inj {u u' : Upload} :
    u.objectName = u'.objectName ↔ u.front = u'.front ∧ u.millis = u'.millis := by
  constructor
  · intro h
    have hlist := congrArg String.toList h
    cases hf : u.front with
    | none =>
      rw [toList_objectName_none hf] at hlist
      cases hf' : u'.front with
      | none =>
        rw [toList_objectName_none hf'] at hlist
        exact ⟨rfl, toString_inj.mp (String.toList_inj.mp hlist)⟩
      | some name =>
        rw [toList_objectName_some hf'] at hlist
        have hdash : '-' ∈ (toString u.millis).toList := by
          rw [hlist]
          exact List.mem_append_right _ (List.mem_cons_self ..)
        exact absurd hdash (dash_not_mem_toString _)
    | some name =>
      rw [toList_objectName_some hf] at hlist
      cases hf' : u'.front with
      | none =>
        rw [toList_objectName_none hf'] at hlist
        have hdash : '-' ∈ (toString u'.millis).toList := by
          rw [← hlist]
          exact List.mem_append_right _ (List.mem_cons_self ..)
        exact absurd hdash (dash_not_mem_toString _)
      | some name' =>
        rw [toList_objectName_some hf'] at hlist
        obtain ⟨hname, hmillis⟩ :=
          append_dash_inj (dash_not_mem_toString _) (dash_not_mem_toString _) hlist
        exact ⟨congrArg some (String.toList_inj.mp hname),
          toString_inj.mp (String.toList_inj.mp hmillis)⟩
  · rintro ⟨hf, hm⟩
    rw [Upload.objectName, Upload.objectName, hf, hm]

/-! ## The functions that upload -/

/-- Firebase Storage, and what the app stores of it. -/
structure Cloud where
  /-- the object with a given name -/
  objects : String → Option File
  /-- the uploads that have been started, newest first; no function reads them -/
  started : List Upload
  /-- the download URLs stored in messages, profiles and statuses, each with the file it was made
  for, newest first -/
  urls : List (String × File)

/-- Nothing has been uploaded. -/
def Cloud.empty : Cloud := ⟨fun _ => none, [], []⟩

/-- A function of the app, or a part of one. -/
abbrev Function (α : Type) : Type := Async Cloud Unit α

/-- `DateTime.now().millisecondsSinceEpoch`. -/
def millisecondsSinceEpoch : Function ℕ := Async.sync fun t w => (t.now / 1000, w)

/-- `reference.putFile(file)` for `FirebaseStorage.instance.ref().child(fileName)`: an object of
that name is replaced. -/
def putFile (u : Upload) : Function Unit := do
  Async.modify fun w => { w with started := u :: w.started }
  Async.remote fun _ w =>
    ((), { w with objects := Function.update w.objects u.objectName (some u.file) })

/-- `ref.getDownloadURL()`. -/
def getDownloadURL (u : Upload) : Function String := Async.remote fun _ w => (u.objectName, w)

/-- The URL goes into a message, a profile or a status. -/
def post (downloadUrl : String) (file : File) : Function Unit :=
  Async.modify fun w => { w with urls := (downloadUrl, file) :: w.urls }

/-- The file is put into the storage, and its URL is asked for. -/
def upload (u : Upload) : Function String := do
  putFile u
  getDownloadURL u

/-- The upload and what follows it. -/
def uploadAndPost (u : Upload) : Function Unit := do
  let downloadUrl ← upload u
  post downloadUrl u.file

/-- A picked image or video, under the time; `imageFile!.path` throws if there is none. -/
def uploadPicked (imageFile : Option File) : Function Unit := do
  let fileName ← millisecondsSinceEpoch
  match imageFile with
  | none => Async.throw
  | some file => Async.spawn (uploadAndPost ⟨none, fileName, file⟩)

/-- A file under its name and the time. -/
def uploadNamed (file : File) : Function Unit := do
  let fileName ← millisecondsSinceEpoch
  Async.spawn (uploadAndPost ⟨some file.name, fileName, file⟩)

/-- `PickerController.uploadImage`; `fileNameText` is the object under a name the caller has made. -/
def uploadImage (file : File) (fileNameText : Option Upload) : Function String := do
  let fileName ← millisecondsSinceEpoch
  upload (fileNameText.getD ⟨none, fileName, file⟩)

/-- The functions that upload, with the file they find. -/
inductive Action : Type where
  | chatUploadFile (imageFile : Option File)
  | chatVideoSend (videoFile : Option File)
  | chatDocumentShare (result : Option File)
  | chatAudioRecording (value : Option File)
  | groupUploadFile (imageFile : Option File)
  | groupVideoSend (videoFile : Option File)
  | groupDocumentShare (result : Option File)
  | groupAudioRecording (value : Option File)
  | broadcastUploadFile (imageFile : Option File)
  | broadcastVideoSend (videoFile : Option File)
  | broadcastDocumentShare (result : Option File)
  | createGroupUploadFile (imageFile : Option File)
  | editProfileUploadFile (imageFile : Option File)
  | addStatus (file : File)

/-- `documentShare` of a chat or a group: without a file nothing happens. -/
def documentShare (result : Option File) : Function Unit :=
  match result with
  | none => pure ()
  | some file => uploadNamed file

/-- `audioRecording`: `File(value)` throws if nothing was recorded. -/
def audioRecording (value : Option File) : Function Unit :=
  match value with
  | none => Async.throw
  | some file => uploadNamed file

/-- `GroupChatMessageController.videoSend` looks whether there is a video. -/
def groupVideoSend (videoFile : Option File) : Function Unit :=
  match videoFile with
  | none => pure ()
  | some file => uploadPicked (some file)

/-- `BroadcastChatController.documentShare`, through `uploadImage`. -/
def broadcastDocumentShare (result : Option File) : Function Unit :=
  match result with
  | none => pure ()
  | some file => do
    let fileName ← millisecondsSinceEpoch
    let imageUrl ← uploadImage file (some ⟨some file.name, fileName, file⟩)
    post imageUrl file

/-- `StatusController.addStatus`. -/
def addStatus (file : File) : Function Unit := do
  let imageUrl ← uploadImage file none
  post imageUrl file

/-- What a function does. -/
def Action.body : Action → Function Unit
  | chatUploadFile file | chatVideoSend file | groupUploadFile file | broadcastUploadFile file
  | broadcastVideoSend file | createGroupUploadFile file | editProfileUploadFile file =>
    uploadPicked file
  | chatDocumentShare file | groupDocumentShare file => documentShare file
  | chatAudioRecording file | groupAudioRecording file => audioRecording file
  | groupVideoSend file => Uploads.groupVideoSend file
  | broadcastDocumentShare file => Uploads.broadcastDocumentShare file
  | addStatus file => Uploads.addStatus file

/-- Any number of uploads, by any number of users. -/
def uploads : System Cloud Unit Action where
  scope _ _ := ()
  body := Action.body
  enabled _ _ := True

instance (c : Config Cloud Unit) : (e : Event Action) → Decidable (uploads.admits c e)
  | .call _ _ | .resume _ _ => inferInstanceAs (Decidable True)

/-! ## The protocol -/

/-- Uploads are not forgotten, and objects are not removed. -/
structure Cloud.Later (w w' : Cloud) : Prop where
  started : w.started ⊆ w'.started
  objects : ∀ n, (w.objects n).isSome = true → (w'.objects n).isSome = true

/-- The file was uploaded under the name. -/
def Cloud.Uploaded (w : Cloud) (name : String) (file : File) : Prop :=
  ∃ u ∈ w.started, u.objectName = name ∧ u.file = file

/-- Every object has been uploaded, and every URL has been given for an object. -/
structure Cloud.Sound (w : Cloud) : Prop where
  objects : ∀ n file, w.objects n = some file → w.Uploaded n file
  urls : ∀ p ∈ w.urls, w.Uploaded p.1 p.2 ∧ (w.objects p.1).isSome = true

/-- What the functions that upload rely on and guarantee. -/
def storing : Evolving Cloud where
  le := Cloud.Later
  inv := Cloud.Sound
  le_refl _ := ⟨List.Subset.refl _, fun _ h => h⟩
  le_trans h h' := ⟨List.Subset.trans h.started h'.started, fun n hn => h'.objects n (h.objects n hn)⟩
  step_refl _ := trivial

variable {w w' : Cloud} {u : Upload} {file : File} {name : String}

theorem Cloud.Uploaded.mono (h : w.Uploaded name file) (hw : w.started ⊆ w'.started) :
    w'.Uploaded name file := by
  obtain ⟨u, hu, hname, hfile⟩ := h
  exact ⟨u, hw hu, hname, hfile⟩

theorem permits_start (hi : w.Sound) :
    storing.Permits w { w with started := u :: w.started } := by
  have hsub : w.started ⊆ u :: w.started := List.subset_cons_self _ _
  refine ⟨⟨hsub, fun _ h => h⟩, ⟨fun n file h => ?_, fun p hp => ?_⟩, trivial⟩
  · exact (hi.objects n file h).mono hsub
  · exact ⟨(hi.urls p hp).1.mono hsub, (hi.urls p hp).2⟩

/-- An object that is put belongs to an upload that has been started, and overwrites at most one of
its own name; URLs stay URLs of objects that exist. -/
theorem permits_put (hi : w.Sound) (hu : u ∈ w.started) :
    storing.Permits w
      { w with objects := Function.update w.objects u.objectName (some u.file) } := by
  have hsome : ∀ n, (w.objects n).isSome = true →
      (Function.update w.objects u.objectName (some u.file) n).isSome = true := by
    intro n hn
    by_cases heq : n = u.objectName
    · rw [heq, Function.update_self]
      rfl
    · rwa [Function.update_of_ne heq]
  refine ⟨⟨List.Subset.refl _, hsome⟩, ⟨fun n file h => ?_, fun p hp => ?_⟩, trivial⟩
  · change Function.update w.objects u.objectName (some u.file) n = some file at h
    by_cases heq : n = u.objectName
    · subst heq
      rw [Function.update_self] at h
      exact ⟨u, hu, rfl, Option.some.inj h⟩
    · rw [Function.update_of_ne heq] at h
      exact hi.objects n file h
  · exact ⟨(hi.urls p hp).1, hsome p.1 (hi.urls p hp).2⟩

theorem permits_post (hi : w.Sound) (hu : w.Uploaded name file)
    (hn : (w.objects name).isSome = true) :
    storing.Permits w { w with urls := (name, file) :: w.urls } := by
  refine ⟨⟨List.Subset.refl _, fun _ h => h⟩, ⟨hi.objects, fun p hp => ?_⟩, trivial⟩
  rcases List.mem_cons.mp hp with rfl | hp
  · exact ⟨hu, hn⟩
  · exact hi.urls p hp

/-! ## The functions keep it -/

/-- An object is there after it has been uploaded. -/
theorem keeps_putFile (hi : w.Sound) :
    Keeps storing (putFile u) w fun _ w' =>
      u ∈ w'.started ∧ (w'.objects u.objectName).isSome = true := by
  refine keeps_bind (Q := fun _ w' => u ∈ w'.started)
    (keeps_modify (permits_start hi) (List.mem_cons_self ..)) fun _ w₁ _ _ hu => ?_
  refine keeps_remote fun w₂ hw₂ hi₂ t => ⟨permits_put hi₂ (hw₂.started hu), fun w₃ hw₃ _ => ?_⟩
  refine ⟨hw₃.started (hw₂.started hu), hw₃.objects _ ?_⟩
  change (Function.update w₂.objects u.objectName (some u.file) u.objectName).isSome = true
  rw [Function.update_self]
  rfl

theorem keeps_upload (hi : w.Sound) :
    Keeps storing (upload u) w fun url w' => w'.Uploaded url u.file ∧ (w'.objects url).isSome = true := by
  refine keeps_bind (keeps_putFile hi) fun _ w₁ _ _ h₁ => ?_
  refine keeps_remote fun w₂ hw₂ hi₂ _ => ⟨.refl hi₂, fun w₃ hw₃ _ => ⟨?_, ?_⟩⟩
  · exact ⟨u, hw₃.started (hw₂.started h₁.1), rfl, rfl⟩
  · exact hw₃.objects _ (hw₂.objects _ h₁.2)

theorem runs_uploadAndPost (hi : w.Sound) : Runs storing (uploadAndPost u) w :=
  keeps_bind (keeps_upload hi) fun _ _ _ hi₁ h₁ => runs_modify (permits_post hi₁ h₁.1 h₁.2)

theorem keeps_millisecondsSinceEpoch (hi : w.Sound) :
    Keeps storing millisecondsSinceEpoch w fun _ _ => True :=
  keeps_sync fun _ => ⟨.refl hi, trivial⟩

theorem runs_uploadPicked {imageFile : Option File} (hi : w.Sound) :
    Runs storing (uploadPicked imageFile) w := by
  refine keeps_bind (keeps_millisecondsSinceEpoch hi) fun fileName w₁ _ hi₁ _ => ?_
  cases imageFile with
  | none => exact keeps_throw
  | some file => exact runs_spawn (runs_uploadAndPost hi₁)

theorem runs_uploadNamed (hi : w.Sound) : Runs storing (uploadNamed file) w :=
  keeps_bind (keeps_millisecondsSinceEpoch hi) fun _ _ _ hi₁ _ => runs_spawn (runs_uploadAndPost hi₁)

/-- What `uploadImage` answers is the URL of the file. -/
theorem keeps_uploadImage {fileNameText : Option Upload} (hi : w.Sound)
    (hfile : ∀ u ∈ fileNameText, u.file = file) :
    Keeps storing (uploadImage file fileNameText) w fun url w' =>
      w'.Uploaded url file ∧ (w'.objects url).isSome = true := by
  refine keeps_bind (keeps_millisecondsSinceEpoch hi) fun fileName w₁ _ hi₁ _ => ?_
  have heq : (fileNameText.getD ⟨none, fileName, file⟩).file = file := by
    cases fileNameText with
    | none => rfl
    | some u => exact hfile u rfl
  have hupload := keeps_upload (u := fileNameText.getD ⟨none, fileName, file⟩) hi₁
  rwa [heq] at hupload

/-- Every uploader keeps the storage sound. They differ in whether the name is the time or the time
and the file's name, and in what a missing file does. -/
theorem runs_body {a : Action} (hi : w.Sound) : Runs storing a.body w := by
  cases a with
  | chatUploadFile file | chatVideoSend file | groupUploadFile file | broadcastUploadFile file
  | broadcastVideoSend file | createGroupUploadFile file | editProfileUploadFile file =>
    exact runs_uploadPicked hi
  | chatDocumentShare result | groupDocumentShare result =>
    cases result with
    | none => exact keeps_pure hi trivial
    | some file => exact runs_uploadNamed hi
  | chatAudioRecording value | groupAudioRecording value =>
    cases value with
    | none => exact keeps_throw
    | some file => exact runs_uploadNamed hi
  | groupVideoSend videoFile =>
    cases videoFile with
    | none => exact keeps_pure hi trivial
    | some file =>
      change Runs storing (uploadPicked (some file)) w
      exact runs_uploadPicked hi
  | broadcastDocumentShare result =>
    cases result with
    | none => exact keeps_pure hi trivial
    | some file =>
      refine keeps_bind (keeps_millisecondsSinceEpoch hi) fun fileName w₁ _ hi₁ _ => ?_
      refine keeps_bind (keeps_uploadImage hi₁ fun u hu => ?_) fun _ w₂ _ hi₂ h₂ => ?_
      · cases hu
        rfl
      · exact runs_modify (permits_post hi₂ h₂.1 h₂.2)
  | addStatus file =>
    refine keeps_bind (keeps_uploadImage hi fun u hu => by cases hu) fun _ w₁ _ hi₁ h₁ => ?_
    exact runs_modify (permits_post hi₁ h₁.1 h₁.2)

/-! ## Runs -/

/-- No two uploads have the same object name. -/
def NamesDiffer (w : Cloud) : Prop := w.started.Pairwise (fun u u' => u.objectName ≠ u'.objectName)

instance (w : Cloud) : Decidable (NamesDiffer w) :=
  inferInstanceAs (Decidable (List.Pairwise (fun u u' : Upload => u.objectName ≠ u'.objectName) _))

/-- Every stored URL denotes the file it was made for. -/
def Intact (w : Cloud) : Prop := ∀ p ∈ w.urls, w.objects p.1 = some p.2

instance (w : Cloud) : Decidable (Intact w) :=
  inferInstanceAs (Decidable (∀ p ∈ w.urls, w.objects p.1 = some p.2))

/-- At every millisecond at most one upload is started under the time alone, and at most one under
each file name. -/
def OneAtATime (w : Cloud) : Prop :=
  w.started.Pairwise fun u u' => u.front = u'.front → u.millis ≠ u'.millis

instance (w : Cloud) : Decidable (OneAtATime w) := inferInstanceAs (Decidable (List.Pairwise
  (fun u u' : Upload => u.front = u'.front → u.millis ≠ u'.millis) _))

/-- Where names differ, an object is the one file that was uploaded under its name. -/
theorem Cloud.Sound.intact (hi : w.Sound) (h : NamesDiffer w) : Intact w := by
  intro p hp
  obtain ⟨⟨u, hu, hname, hfile⟩, hsome⟩ := hi.urls p hp
  obtain ⟨file, hobject⟩ := Option.isSome_iff_exists.mp hsome
  obtain ⟨u', hu', hname', hfile'⟩ := hi.objects _ _ hobject
  have hnodup : (w.started.map Upload.objectName).Nodup := List.pairwise_map.mpr h
  obtain rfl := List.inj_on_of_nodup_map hnodup hu hu' (hname.trans hname'.symm)
  rw [hobject, ← hfile', hfile]

variable {es : List (Event Action)} {c : Config Cloud Unit}

/-- **Uploads.** The object names of a run differ exactly if no two uploads under the time alone, and
no two of files of the same name, are started in the same millisecond; and then every URL that is
stored denotes the file it was made for. -/
theorem uploads_differ (h : uploads.Run uploads.admits { world := .empty } es c) :
    (NamesDiffer c.world ↔ OneAtATime c.world) ∧ (OneAtATime c.world → Intact c.world) := by
  have hempty : Cloud.empty.Sound :=
    ⟨fun _ _ hn => absurd hn (by simp [Cloud.empty]), fun _ hp => absurd hp List.not_mem_nil⟩
  have hkept := h.kept hempty rfl fun a w hi _ => runs_body hi
  have hiff : NamesDiffer c.world ↔ OneAtATime c.world := by
    have hpair : ∀ u u' : Upload, u.objectName ≠ u'.objectName ↔
        (u.front = u'.front → u.millis ≠ u'.millis) := by
      intro u u'
      rw [Ne, objectName_inj, not_and]
    unfold NamesDiffer OneAtATime
    simp only [hpair]
  exact ⟨hiff, fun hone => hkept.inv.intact (hiff.mpr hone)⟩

/-! ## Two users -/

/-- Everything happens at this time. -/
def atTime (now : ℕ) : ℕ → Tick := fun _ => { now := now }

/-- One user sends a picture while another changes the profile picture; the clocks read these
times. -/
def twoPictures (now now' : ℕ) : List (Event Action) :=
  [.call (.chatUploadFile (some ⟨"cat.jpg", "cat"⟩)) (atTime now),
    .call (.editProfileUploadFile (some ⟨"me.jpg", "me"⟩)) (atTime now')] ++
    List.replicate 12 (.resume 0 (atTime now'))

theorem uploads_differ_twoPictures :
    Intact (uploads.exec { world := .empty } (twoPictures 5000 6000)).world :=
  (uploads_differ (System.run_exec (by decide +kernel))).2 (by decide +kernel)

/-- In one millisecond, the second picture replaces the first. -/
theorem uploads_collide :
    ¬ ∀ (es : List (Event Action)) (c : Config Cloud Unit),
      uploads.Run uploads.admits { world := .empty } es c →
      uploads.NonDecreasing { world := .empty } es → NamesDiffer c.world ∧ Intact c.world := by
  intro h
  have hallowed : uploads.Allowed uploads.admits { world := .empty } (twoPictures 5000 5999) := by
    decide +kernel
  have hnot : ¬ Intact (uploads.exec { world := .empty } (twoPictures 5000 5999)).world := by
    decide +kernel
  exact hnot (h _ _ (System.run_exec hallowed) (by decide +kernel)).2

end FlutterTheme.Uploads
