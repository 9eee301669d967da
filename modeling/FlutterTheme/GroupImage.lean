import FlutterTheme.Machine

/-!
# The image of a group

Images are picked through one `PickerController`, which never forgets the last one, whichever screen
it was picked for. `createGroup` uploads what the picker holds and stores the `imageUrl` of the
`CreateGroupController`, which is set by every download URL that arrives; nobody waits for them.

* `happens` — what happens on a device, told by the picks, the calls of `createGroup` and the order
  in which operations are completed. It has none of the controllers' variables.
* `follows` — the controllers and the groups are what this makes of them.
* `group_image_iff` — every group has the image that was last picked for it exactly when, for each,
  the download URL that arrived last before it was made is the one of that image.
-/

namespace FlutterTheme.GroupImage

open EventLoop

/-! ## The device -/

/-- What `imagePickerOption` is opened for: its flags, or none of them for a broadcast. -/
inductive PickerOption : Type where
  | isGroup | isSingleChat | isCreateGroup | isBroadcast
  deriving DecidableEq, Repr

/-- An upload. It stands for its download URL, which no other upload has. -/
structure Upload where
  fileName : String
  file : String
  deriving DecidableEq, Repr

/-- A document of a group. -/
structure Group where
  id : String
  /-- `image`, null for the empty text -/
  image : Option Upload
  deriving DecidableEq, Repr

/-- The `PickerController` and the `CreateGroupController` of a device, and its groups. -/
structure Device where
  /-- `imageFile` of the `PickerController`: the path of the image picked last -/
  pickerFile : Option String := none
  imageFile : Option String := none
  /-- null for the empty text -/
  imageUrl : Option Upload := none
  groups : List Group := []

/-- A handler, or a part of one. -/
abbrev Handler (α : Type) : Type := Async Device Unit α

def millisecondsSinceEpoch : Handler String :=
  Async.sync fun t w => (toString (t.now / 1000), w)

def microsecondsSinceEpoch : Handler String :=
  Async.sync fun t w => (toString t.now, w)

/-! ## The handlers -/

/-- The download URL has arrived. -/
def setImageUrl (u : Upload) : Handler Unit :=
  Async.modify fun w => { w with imageUrl := some u }

/-- `getDownloadURL`; a failure is shown to the user. -/
def getDownloadURL (u : Upload) : Handler Unit := do
  let downloadUrl ← Async.attempt fun _ w => ((), w)
  match downloadUrl with
  | some _ => setImageUrl u
  | none => pure ()

/-- `CreateGroupController.uploadFile`. It waits until the image is in the storage, but not for the
download URL. -/
def uploadFile : Handler Unit := do
  let imageFile ← Async.sync fun _ w => (w.pickerFile, { w with imageFile := w.pickerFile })
  let fileName ← millisecondsSinceEpoch
  match imageFile with
  | none => Async.throw
  | some file => do
    -- `putFile`
    Async.remote fun _ w => ((), w)
    Async.spawn (getDownloadURL ⟨fileName, file⟩)

/-- `imagePickerOption`, when the user has chosen an image or, with null, none: then `!` throws in
`getImage`. The controllers of chats, groups and broadcasts send the image, which changes nothing
here. -/
def imagePickerOption (o : PickerOption) (result : Option String) : Handler Unit :=
  match result with
  | none => Async.throw
  | some file => do
    Async.modify fun w => { w with pickerFile := some file }
    -- `cropImage`
    Async.pause
    match o with
    | .isCreateGroup => Async.spawn uploadFile
    | .isGroup | .isSingleChat | .isBroadcast => pure ()

/-- A group is stored, in place of one with the same identifier. -/
def Device.setGroup (w : Device) (g : Group) : Device :=
  { w with groups := g :: w.groups.filter fun g' => g'.id ≠ g.id }

/-- `collection(groups).doc(id).set(..)`. -/
def setGroup (g : Group) : Handler Unit := Async.remote fun _ w => ((), w.setGroup g)

/-- `GroupFirebaseApi.createGroup`, as far as the image is concerned. -/
def createGroup : Handler Unit := do
  Async.modify fun w => { w with imageFile := w.pickerFile }
  let imageFile ← Async.get fun w : Device => w.imageFile
  (if imageFile.isSome then uploadFile else pure ())
  let id ← microsecondsSinceEpoch
  -- `Future.delayed(Durations.s3)`
  Async.pause
  let imageUrl ← Async.get fun w : Device => w.imageUrl
  setGroup { id := id, image := imageUrl }
  -- the document is read again
  Async.remote fun _ w => ((), w)
  Async.modify fun w => { w with imageUrl := none, imageFile := none }

/-- What a user can do. -/
inductive Action : Type where
  | imagePickerOption (o : PickerOption) (result : Option String)
  | createGroup

/-- The screens of a device. -/
def device : System Device Unit Action where
  scope _ _ := ()
  body
    | .imagePickerOption o result => GroupImage.imagePickerOption o result
    | .createGroup => GroupImage.createGroup
  enabled _ _ := True

/-! ## What happens -/

/-- What has happened on a device. -/
inductive Entry : Type where
  | picked (o : PickerOption) (file : String) : Entry
  /-- `createGroup` is called -/
  | called : Entry
  /-- the download URL of an upload arrives -/
  | answered (u : Upload) : Entry
  /-- `createGroup` has come to its end -/
  | finished : Entry
  deriving DecidableEq, Repr

/-- A group that has been created. -/
structure Creation where
  id : String
  /-- what had happened when `createGroup` was called, newest first -/
  called : List Entry
  /-- and when it had waited -/
  waited : List Entry
  deriving DecidableEq, Repr

/-- What has happened, newest first, and the groups that have been created. -/
structure History where
  log : List Entry := []
  creations : List Creation := []

/-- Something happens. -/
def History.add (h : History) (e : Entry) : History := { h with log := e :: h.log }

/-- The image picked last, for whatever it was picked. -/
def lastPicked : List Entry → Option String
  | [] => none
  | .picked _ file :: _ => some file
  | .called :: l | .answered _ :: l | .finished :: l => lastPicked l

/-- The image last picked for the group that is to be created, none if there is none since the
last call of `createGroup`. -/
def lastPick : List Entry → Option String
  | [] => none
  | .picked .isCreateGroup file :: _ => some file
  | .called :: _ => none
  | .picked _ _ :: l | .answered _ :: l | .finished :: l => lastPick l

/-- The upload whose download URL has arrived last, none if there is none since a group has been
finished. -/
def lastAnswer : List Entry → Option Upload
  | [] => none
  | .answered u :: _ => some u
  | .finished :: _ => none
  | .picked _ _ :: l | .called :: l => lastAnswer l

/-- What is under way on a device. -/
inductive Point : Type where
  | crop (o : PickerOption)
  /-- a file is being uploaded, for a call of `createGroup` or not -/
  | put (u : Upload) (called : Option (List Entry))
  | putDone (u : Upload) (called : Option (List Entry))
  /-- its download URL is on its way -/
  | url (u : Upload)
  | urlCame (u : Upload) (downloadUrl : Option Unit)
  /-- `createGroup` waits for three seconds -/
  | delay (id : String) (called : List Entry)
  /-- the document of a group is being written -/
  | set (g : Creation)
  | setDone
  /-- it is being read again -/
  | reread
  | rereadDone
  deriving DecidableEq

/-- What an action of the user does. -/
def call : Action → (ℕ → Tick) → History → Segment History Point
  | .imagePickerOption _ none, _, h => .threw h
  | .imagePickerOption o (some file), _, h =>
    { world := h.add (.picked o file), points := [.crop o] }
  | .createGroup, ticks, h =>
    match lastPicked h.log with
    | some file =>
      { world := h.add .called
        points := [.put ⟨toString ((ticks 3).now / 1000), file⟩ (some h.log)] }
    | none =>
      { world := h.add .called, points := [.delay (toString (ticks 2).now) h.log] }

/-- What the completion of an operation does. What is uploaded is the image picked last when the
upload begins. -/
def resume : Point → (ℕ → Tick) → History → Segment History Point
  | .crop .isCreateGroup, ticks, h =>
    match lastPicked h.log with
    | some file => { world := h, points := [.put ⟨toString ((ticks 1).now / 1000), file⟩ none] }
    | none => .threw h
  | .crop .isGroup, _, h | .crop .isSingleChat, _, h | .crop .isBroadcast, _, h => { world := h }
  | .put u called, ticks, h =>
    if (ticks 0).fails then .threw h else { world := h, points := [.putDone u called] }
  | .putDone u none, _, h => { world := h, points := [.url u] }
  | .putDone u (some called), ticks, h =>
    { world := h, points := [.url u, .delay (toString (ticks 0).now) called] }
  | .url u, ticks, h =>
    { world := h, points := [.urlCame u (if (ticks 0).fails then none else some ())] }
  | .urlCame u (some ()), _, h => { world := h.add (.answered u) }
  | .urlCame _ none, _, h => { world := h }
  | .delay id called, _, h => { world := h, points := [.set ⟨id, called, h.log⟩] }
  | .set g, ticks, h =>
    if (ticks 0).fails then .threw h
    else
      { world := { h with creations := g :: h.creations.filter fun g' => g'.id ≠ g.id }
        points := [.setDone] }
  | .setDone, _, h => { world := h, points := [.reread] }
  | .reread, ticks, h =>
    if (ticks 0).fails then .threw h else { world := h, points := [.rereadDone] }
  | .rereadDone, _, h => { world := h.add .finished }

/-- What happens on a device. -/
def happens : Machine History Point Action := ⟨call, resume⟩

/-- What has happened after these events. -/
def history (es : List (Event Action)) : History := (happens.exec { world := {} } es).world

/-! ## The controllers follow -/

/-- The end of `createGroup`. -/
def forget : Handler Unit :=
  Async.modify fun w => { w with imageUrl := none, imageFile := none }

/-- The document has been written. -/
def written : Handler Unit := do
  Async.remote fun _ w => ((), w)
  forget

/-- `createGroup` has waited. -/
def storeGroup (id : String) : Handler Unit := do
  let imageUrl ← Async.get fun w : Device => w.imageUrl
  setGroup { id := id, image := imageUrl }
  written

/-- The image has been uploaded. -/
def uploaded : Handler Unit := do
  let id ← microsecondsSinceEpoch
  Async.pause
  storeGroup id

/-- A file is in the storage. -/
def stored (u : Upload) (called : Option (List Entry)) : Handler Unit := do
  Async.spawn (getDownloadURL u)
  match called with
  | some _ => uploaded
  | none => pure ()

/-- An image has been cropped. -/
def cropped : PickerOption → Handler Unit
  | .isCreateGroup => Async.spawn uploadFile
  | .isGroup | .isSingleChat | .isBroadcast => pure ()

/-- The download URL has come, or has not. -/
def urlCame (u : Upload) : Option Unit → Handler Unit
  | some _ => setImageUrl u
  | none => pure ()

/-- The document of a group that has been created. -/
def Creation.group (g : Creation) : Group := { id := g.id, image := lastAnswer g.waited }

/-- What a call has left to do. -/
def task : Point → Task Device Unit
  | .crop o => (cropped o).task
  | .put u called => .request (fun _ w => ((), w)) fun _ => (stored u called).task
  | .putDone u called => (stored u called).task
  | .url u => .tryRequest (fun _ w => ((), w)) fun downloadUrl => (urlCame u downloadUrl).task
  | .urlCame u downloadUrl => (urlCame u downloadUrl).task
  | .delay id _ => (storeGroup id).task
  | .set g => .request (fun _ w => ((), w.setGroup g.group)) fun _ => written.task
  | .setDone => written.task
  | .reread => .request (fun _ w => ((), w)) fun _ => forget.task
  | .rereadDone => forget.task

/-- The picker has the image picked last, `imageUrl` is the download URL that has arrived last, and
every group has the one that had arrived last when it was made. -/
structure Device.Holds (w : Device) (h : History) : Prop where
  pickerFile : w.pickerFile = lastPicked h.log
  imageUrl : w.imageUrl = lastAnswer h.log
  groups : w.groups = h.creations.map Creation.group

section Follows

variable {w : Device} {h : History} {ticks : ℕ → Tick} {l : Unit}

/-- The variable of the create-group screen does not matter, since it is set before it is read. -/
theorem Device.Holds.imageFile (hw : w.Holds h) (imageFile : Option String) :
    Device.Holds { w with imageFile := imageFile } h :=
  ⟨hw.pickerFile, hw.imageUrl, hw.groups⟩

/-- The groups that are created. -/
theorem Device.Holds.setGroup (hw : w.Holds h) (g : Creation) : (w.setGroup g.group).Holds
    { h with creations := g :: h.creations.filter fun g' => g'.id ≠ g.id } := by
  refine ⟨hw.pickerFile, hw.imageUrl, ?_⟩
  rw [Device.setGroup, hw.groups, List.filter_map]
  rfl

/-- An upload begins. -/
theorem uploadFile_follows (hw : w.Holds h) : (uploadFile.task.run ticks l 0 w).Follows Device.Holds
    task (resume (.crop .isCreateGroup) ticks h) := by
  obtain ⟨pickerFile, imageFile, imageUrl, groups⟩ := w
  cases pickerFile with
  | none =>
    simp only [resume, ← hw.pickerFile]
    exact ⟨hw.imageFile _, rfl, rfl⟩
  | some file =>
    simp only [resume, ← hw.pickerFile]
    exact ⟨hw.imageFile _, rfl, rfl⟩

/-- A group is to be created. -/
theorem createGroup_follows (hw : w.Holds h) : (createGroup.task.run ticks l 0 w).Follows
    Device.Holds task (call .createGroup ticks h) := by
  have hcalled : Device.Holds { w with imageFile := w.pickerFile } (h.add .called) :=
    ⟨hw.pickerFile, hw.imageUrl, hw.groups⟩
  obtain ⟨pickerFile, imageFile, imageUrl, groups⟩ := w
  cases pickerFile with
  | none =>
    simp only [call, ← hw.pickerFile]
    exact ⟨hcalled, rfl, rfl⟩
  | some file =>
    simp only [call, ← hw.pickerFile]
    exact ⟨hcalled, rfl, rfl⟩

/-- **The controllers follow** what happens: each handler and each point does to the picker, the
image and the groups what the history says, case by case. -/
theorem follows : happens.Follows device task Device.Holds where
  call a ticks l w h hw := by
    cases a with
    | imagePickerOption o result =>
      cases result with
      | none => exact ⟨hw, rfl, rfl⟩
      | some file => exact ⟨⟨rfl, hw.imageUrl, hw.groups⟩, rfl, rfl⟩
    | createGroup => exact createGroup_follows hw
  resume p ticks l w h hw := by
    cases p with
    | crop o =>
      cases o with
      | isCreateGroup =>
        have hfollows : (uploadFile.task.run ticks l 0 w).Follows Device.Holds task
            (resume (.crop .isCreateGroup) ticks h) := uploadFile_follows hw
        obtain ⟨hworld, hthreads, huncaught⟩ := hfollows
        exact ⟨hworld, (congrArg (List.map _) (List.append_nil _)).trans hthreads,
          (congrArg List.length (List.append_nil _)).trans huncaught⟩
      | isGroup | isSingleChat | isBroadcast => exact ⟨hw, rfl, rfl⟩
    | put u called =>
      simp only [task, happens, resume]
      exact Task.request_follows hw hw rfl
    | putDone u called =>
      cases called with
      | none => exact ⟨hw, rfl, rfl⟩
      | some called => exact ⟨hw, rfl, rfl⟩
    | url u =>
      simp only [task, happens, resume]
      exact Task.tryRequest_follows (by simpa using hw) rfl
    | urlCame u downloadUrl =>
      cases downloadUrl with
      | none => exact ⟨hw, rfl, rfl⟩
      | some _ => exact ⟨⟨hw.pickerFile, rfl, hw.groups⟩, rfl, rfl⟩
    | delay id called =>
      -- the image of the group is what `imageUrl` is now
      have hset : (setGroup { id := id, image := w.imageUrl } >>= fun _ => written).task =
          .await (task (.set ⟨id, called, h.log⟩)) := by
        rw [hw.imageUrl]
        rfl
      exact ⟨hw, congrArg (fun t => (t.run ticks l 1 w).threads.map (·.task)) hset, rfl⟩
    | set g =>
      simp only [task, happens, resume]
      exact Task.request_follows hw (hw.setGroup g) rfl
    | setDone => exact ⟨hw, rfl, rfl⟩
    | reread =>
      simp only [task, happens, resume]
      exact Task.request_follows hw hw rfl
    | rereadDone => exact ⟨⟨hw.pickerFile, rfl, hw.groups⟩, rfl, rfl⟩

end Follows

/-- What there is after any events is what has happened makes of it. -/
theorem exec_holds (es : List (Event Action)) :
    (device.exec { world := {} } es).world.Holds (history es) := by
  have hempty : Config.Follows Device.Holds task { world := {} } { world := {} } :=
    ⟨⟨rfl, rfl, rfl⟩, rfl, rfl⟩
  have hrun : device.Run (fun _ _ => True) { world := {} } es (device.exec { world := {} } es) :=
    System.run_of_forall fun _ _ => trivial
  exact (follows.run hempty hrun).world

/-! ## Whose image it is -/

/-- The groups are those that have been created, each with the image last picked for it, and with
the empty text if there is none. -/
def Device.Owned (w : Device) (creations : List Creation) : Prop :=
  w.groups.map (fun g => (g.id, g.image.map Upload.file)) =
    creations.map fun g => (g.id, lastPick g.called)

instance (w : Device) (creations : List Creation) : Decidable (w.Owned creations) :=
  inferInstanceAs (Decidable (_ = _))

/-- The download URL that had arrived last when `createGroup` had waited was the one of the image
last picked for the group; if there is none, none had arrived. -/
def Creation.Answered (g : Creation) : Prop :=
  (lastAnswer g.waited).map Upload.file = lastPick g.called

instance (g : Creation) : Decidable g.Answered := inferInstanceAs (Decidable (_ = _))

/-- **The image of a group**, after any picks, creations and completions of operations. -/
theorem group_image_iff (es : List (Event Action)) :
    (device.exec { world := {} } es).world.Owned (history es).creations ↔
      ∀ g ∈ (history es).creations, g.Answered := by
  rw [Device.Owned, (exec_holds es).groups, List.map_map, List.map_inj_left]
  refine forall₂_congr fun g _ => ?_
  simp [Creation.group, Creation.Answered]

/-- An image is picked, and then a group is created; each is carried on to its end, and the download
URL of the group arrives before it is made. -/
def pickAndCreate (o : PickerOption) (file : String) : List (Event Action) :=
  let now : ℕ → Tick := fun _ => { now := 5000 }
  .call (.imagePickerOption o (some file)) now :: List.replicate 8 (.resume 0 now) ++
    .call .createGroup now :: List.replicate 3 (.resume 0 now) ++
    .resume 1 now :: List.replicate 8 (.resume 0 now)

/-- An image picked for the group. -/
example : (history (pickAndCreate .isCreateGroup "us.jpg")).creations.map Creation.id = ["5000"] ∧
    ∀ g ∈ (history (pickAndCreate .isCreateGroup "us.jpg")).creations, g.Answered := by
  decide +kernel

/-- **An image that was picked in a chat** becomes the image of a group without one. -/
theorem image_of_chat : ¬ ∀ es : List (Event Action),
    (device.exec { world := {} } es).world.Owned (history es).creations := by
  intro hclaim
  exact absurd (hclaim (pickAndCreate .isSingleChat "cat.jpg")) (by decide +kernel)

end FlutterTheme.GroupImage
