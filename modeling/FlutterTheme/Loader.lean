import FlutterTheme.Attachments
import FlutterTheme.Deeds
import FlutterTheme.Embed
import FlutterTheme.Upkeep

/-!
# The loader

The chat screens, group screens and broadcast screens are covered by a loader while `isLoading` is
set. It is set and cleared in the handlers that send messages and files; `loaders` has them all,
together with all other handlers of the chat application.

* `loader_goes_away` — when nothing is under way any more, no screen is covered, as long as no blank
  text is sent to a group, nor in a chat before the peer is known, no file to a broadcast, and no
  upload of a file for a chat or a group fails.
* `loader_stays` — a blank text to a group leaves the loader where it is.
-/

namespace FlutterTheme.Loader

open EventLoop DocStore Attachments

/-! ## The world -/

/-- `PickerController`: the paths of the files picked last. -/
structure PickerController where
  imageFile : Option String := none
  videoFile : Option String := none

/-- What `BroadcastChatController` has besides; no function sets its `imageFile`. -/
structure BroadcastFields where
  isLoading : Bool := false
  imageFile : Option String := none

/-- The world of the chat application, and what the handlers that send files need besides. -/
structure Phones where
  main : World
  /-- the `PickerController` of each device -/
  picker : ℕ → PickerController
  broadcast : ℕ → BroadcastFields

/-- What a handler is working on. -/
inductive Work : Type where
  /-- a file that is being sent while the loader covers the screen -/
  | document : Work
  | other : Work
  deriving DecidableEq, Repr

/-- A handler, or a part of one. -/
abbrev Handler (α : Type) : Type := Async Phones Work α

/-- A screen. -/
inductive Screen : Type where
  | chat (c : ℕ) : Screen
  | group (g : ℕ) : Screen
  | broadcast (b : ℕ) : Screen
  deriving DecidableEq, Repr

/-- `isLoading` of a screen. -/
def Phones.isLoading (w : Phones) : Screen → Bool
  | .chat c => (w.main.chatCtrl.get c).isLoading
  | .group g => (w.main.groupCtrl.get g).isLoading
  | .broadcast b => (w.broadcast b).isLoading

/-- The screen is open. -/
def Phones.isOpen (w : Phones) : Screen → Prop
  | .chat c => c < w.main.chatCtrl.size
  | .group g => g < w.main.groupCtrl.size
  | .broadcast b => b < w.main.broadcastCtrl.size

/-- The device the screen is on. -/
def Phones.device (w : Phones) : Screen → ℕ
  | .chat c => (w.main.chatCtrl.get c).device
  | .group g => (w.main.groupCtrl.get g).device
  | .broadcast b => (w.main.broadcastCtrl.get b).device

/-- `isLoading` is set or cleared. -/
def Phones.setLoading (w : Phones) (isLoading : Bool) : Screen → Phones
  | .chat c => { w with main.chatCtrl :=
      w.main.chatCtrl.modify c fun s => { s with isLoading := isLoading } }
  | .group g => { w with main.groupCtrl :=
      w.main.groupCtrl.modify g fun s => { s with isLoading := isLoading } }
  | .broadcast b =>
    let s := { w.broadcast b with isLoading := isLoading }
    { w with broadcast := Function.update w.broadcast b s }

/-- The `PickerController` of a device changes. -/
def Phones.modifyPicker (w : Phones) (d : ℕ) (f : PickerController → PickerController) : Phones :=
  { w with picker := Function.update w.picker d (f (w.picker d)) }

/-! ## The handlers -/

/-- The chat application is a part of the world. -/
def mainPart : Part Phones World := ⟨Phones.main, fun v w => { w with main := v }⟩

def setLoading (s : Screen) (isLoading : Bool) : Handler Unit :=
  Async.modify (Phones.setLoading · isLoading s)

/-- `onSendMessage` of the controller of the screen, which is not awaited. -/
def onSendMessage (s : Screen) (content : String) (type : MessageType) : Handler Unit :=
  Async.embed mainPart .other <|
    match s with
    | .chat c => FlutterTheme.onSendMessage c content type
    | .group g => GroupChat.onSendMessage g content type
    | .broadcast b => BroadcastChat.onSendMessage b content type

/-- The `PickerController` of the device the screen is on. -/
def pickerCtrl (s : Screen) : Handler PickerController :=
  Async.get fun w => w.picker (w.device s)

/-- The video that has been sent is forgotten. -/
def clearVideo (s : Screen) : Handler Unit :=
  Async.modify fun w => w.modifyPicker (w.device s) fun p => { p with videoFile := none }

/-- `PickerController.getImage`; `result` is the picture chosen, null if there is none, and then
`!` throws. -/
def getImage (d : ℕ) (result : Option String) : Handler Unit :=
  match result with
  | none => Async.throw
  | some path => Async.modify (Phones.modifyPicker · d fun p => { p with imageFile := some path })

/-- `PickerController.getVideo`. -/
def getVideo (d : ℕ) (result : Option String) : Handler Unit :=
  match result with
  | none => Async.throw
  | some path => Async.modify (Phones.modifyPicker · d fun p => { p with videoFile := some path })

/-- A file that has been picked. -/
structure PickedFile where
  /-- `result.files.single.name` -/
  name : String
  /-- `result.files.single.path` -/
  path : String
  /-- `File(path).name` -/
  baseName : String

/-- `DateTime.now().millisecondsSinceEpoch.toString()`. -/
def millisecondsSinceEpoch : Handler String := Async.sync fun t w => (toString (t.now / 1000), w)

/-- `reference.putFile(file)`; what is in the storage is not read again. -/
def putFile : Handler Unit := Async.remote fun _ w => ((), w)

/-- The message that a file is sent in. -/
def PickedFile.content (file : PickedFile) (downloadUrl : String) : String :=
  documentContent file.name downloadUrl

/-- The type of the message. -/
def PickedFile.messageType (file : PickedFile) : MessageType :=
  match fileType file.path with
  | .video => .video
  | .audio => .audio
  | .doc => .doc

section Handlers

-- the download URL of an object of the storage
variable (url : String → String)

/-- `ref.getDownloadURL()`. -/
def getDownloadURL (fileName : String) : Handler String := Async.remote fun _ w => (url fileName, w)

/-- `ref.getDownloadURL()` with an `onError`. -/
def tryDownloadURL (fileName : String) : Handler (Option String) :=
  Async.attempt fun _ w => (url fileName, w)

/-- `ChatController.documentShare` from the answer of `FilePicker` on, null if it was cancelled. -/
def Chat.documentShare (c : ℕ) (result : Option PickedFile) : Handler Unit :=
  match result with
  | none => pure ()
  | some file => do
    setLoading (.chat c) true
    let now ← millisecondsSinceEpoch
    Async.enter .document
    putFile
    let downloadUrl ← getDownloadURL url (file.baseName ++ "-" ++ now)
    setLoading (.chat c) true
    onSendMessage (.chat c) (file.content downloadUrl) file.messageType

/-- The callbacks of `getDownloadURL` in `GroupChatMessageController.documentShare`. -/
def GroupChat.shared (g : ℕ) (file : PickedFile) (downloadUrl : Option String) : Handler Unit := do
  setLoading (.group g) false
  match downloadUrl with
  | some downloadUrl => onSendMessage (.group g) (file.content downloadUrl) file.messageType
  | none => pure ()

/-- `GroupChatMessageController.documentShare`. -/
def GroupChat.documentShare (g : ℕ) (result : Option PickedFile) : Handler Unit :=
  match result with
  | none => pure ()
  | some file => do
    setLoading (.group g) true
    let now ← millisecondsSinceEpoch
    Async.enter .document
    putFile
    Async.enter .other
    let downloadUrl ← tryDownloadURL url (file.baseName ++ "-" ++ now)
    GroupChat.shared g file downloadUrl

/-- `BroadcastChatController.documentShare`. -/
def BroadcastChat.documentShare (b : ℕ) (result : Option PickedFile) : Handler Unit :=
  match result with
  | none => pure ()
  | some file => do
    setLoading (.broadcast b) true
    let now ← millisecondsSinceEpoch
    -- `PickerController.uploadImage`
    putFile
    let imageUrl ← getDownloadURL url (file.baseName ++ "-" ++ now)
    onSendMessage (.broadcast b) (file.content imageUrl) file.messageType

/-- The callbacks of `getDownloadURL` for a picture or a video. -/
def uploaded (s : Screen) (type : MessageType) (downloadUrl : Option String) : Handler Unit := do
  setLoading s false
  match downloadUrl with
  | some downloadUrl => onSendMessage s downloadUrl type
  | none => pure ()

/-- A picture is put into the storage and sent; `imageFile!` throws if there is none. -/
def upload (s : Screen) (imageFile : Option String) : Handler Unit := do
  let fileName ← millisecondsSinceEpoch
  match imageFile with
  | none => Async.throw
  | some _ => do
    putFile
    let downloadUrl ← tryDownloadURL url fileName
    uploaded s .image downloadUrl

/-- `ChatController.uploadFile`. -/
def Chat.uploadFile (c : ℕ) : Handler Unit := do
  let picker ← pickerCtrl (.chat c)
  upload url (.chat c) picker.imageFile

/-- `GroupChatMessageController.uploadFile`. -/
def GroupChat.uploadFile (g : ℕ) : Handler Unit := do
  let picker ← pickerCtrl (.group g)
  upload url (.group g) picker.imageFile

/-- `BroadcastChatController.uploadFile`, which reads its own `imageFile`. -/
def BroadcastChat.uploadFile (b : ℕ) : Handler Unit := do
  let imageFile ← Async.get fun w : Phones => (w.broadcast b).imageFile
  upload url (.broadcast b) imageFile

/-- `ChatController.videoSend`. -/
def Chat.videoSend (c : ℕ) : Handler Unit := do
  let picker ← pickerCtrl (.chat c)
  let fileName ← millisecondsSinceEpoch
  match picker.videoFile with
  | none => Async.throw
  | some _ => do
    putFile
    Async.spawn do
      let downloadUrl ← tryDownloadURL url fileName
      uploaded (.chat c) .video downloadUrl
    clearVideo (.chat c)

/-- The callbacks of `getDownloadURL` in `GroupChatMessageController.videoSend`. -/
def GroupChat.videoUploaded (g : ℕ) (downloadUrl : Option String) : Handler Unit := do
  setLoading (.group g) false
  match downloadUrl with
  | some downloadUrl => do
    clearVideo (.group g)
    onSendMessage (.group g) downloadUrl .video
  | none => pure ()

/-- `GroupChatMessageController.videoSend`, which does nothing without a video. -/
def GroupChat.videoSend (g : ℕ) : Handler Unit := do
  let picker ← pickerCtrl (.group g)
  match picker.videoFile with
  | none => pure ()
  | some _ => do
    let fileName ← millisecondsSinceEpoch
    putFile
    Async.spawn do
      let downloadUrl ← tryDownloadURL url fileName
      GroupChat.videoUploaded g downloadUrl
    clearVideo (.group g)

/-- `BroadcastChatController.videoSend`. -/
def BroadcastChat.videoSend (b : ℕ) : Handler Unit := do
  let picker ← pickerCtrl (.broadcast b)
  let fileName ← millisecondsSinceEpoch
  match picker.videoFile with
  | none => Async.throw
  | some _ => do
    putFile
    let downloadUrl ← tryDownloadURL url fileName
    uploaded (.broadcast b) .video downloadUrl

end Handlers

/-- What a user can do. -/
inductive Action : Type where
  /-- a handler of the chat application, `onSendMessage` among them -/
  | main (a : FlutterTheme.Action)
  | getImage (d : ℕ) (result : Option String)
  | getVideo (d : ℕ) (result : Option String)
  | documentShare (s : Screen) (result : Option PickedFile)
  | uploadFile (s : Screen)
  | videoSend (s : Screen)

/-- The handler of an action. -/
def Action.body (url : String → String) : Action → Handler Unit
  | main a => Async.embed mainPart .other a.body
  | getImage d result => Loader.getImage d result
  | getVideo d result => Loader.getVideo d result
  | documentShare (.chat c) result => Chat.documentShare url c result
  | documentShare (.group g) result => GroupChat.documentShare url g result
  | documentShare (.broadcast b) result => BroadcastChat.documentShare url b result
  | uploadFile (.chat c) => Chat.uploadFile url c
  | uploadFile (.group g) => GroupChat.uploadFile url g
  | uploadFile (.broadcast b) => BroadcastChat.uploadFile url b
  | videoSend (.chat c) => Chat.videoSend url c
  | videoSend (.group g) => GroupChat.videoSend url g
  | videoSend (.broadcast b) => BroadcastChat.videoSend url b

/-- When an action can be started. -/
def Action.enabled (w : Phones) : Action → Prop
  | main a => a.enabled w.main
  | getImage _ _ | getVideo _ _ => True
  | documentShare s _ | uploadFile s | videoSend s => w.isOpen s

/-- The screens of all devices. -/
def loaders (url : String → String) : System Phones Work Action where
  scope _ _ := .other
  body := Action.body url
  enabled := Action.enabled

/-! ## When the loader goes away -/

/-- A blank text is sent neither to a group nor, while the peer is not known, in a chat, and no file
to a broadcast. -/
def Action.Careful (w : Phones) : Action → Prop
  | main (.onSendMessage c content _) =>
    isBlank content = true → (w.main.chatCtrl.get c).pData ≠ none
  | main (.sendToGroup _ content _) => isBlank content = false
  | documentShare (.broadcast _) result => result = none
  | _ => True

/-- What is started is careful, and no upload of a file fails that a loader waits for. -/
def Careful (c : Config Phones Work) (e : Event Action) : Prop :=
  (∀ a ticks, e = .call a ticks → a.Careful c.world) ∧ System.Succeeds (· = Work.document) c e

/-- No screen is covered, and `allData`, which no function sets, is null. -/
structure Uncovered (w : Phones) : Prop where
  isLoading : ∀ s, w.isLoading s = false
  allData : ∀ c, (w.main.chatCtrl.get c).allData = none

/-- What is owed is that screens are uncovered. -/
def covers : Upkeep Phones Work (Multiset Screen) where
  deeds := {
    rel _ w w' := Dims w.main w'.main ∧
      ∀ b, (w'.broadcast b).isLoading = true → (w.broadcast b).isLoading = true
    refl _ w := ⟨.refl _, fun _ => id⟩ }
  inv w r := (∀ c, (w.main.chatCtrl.get c).allData = none) ∧
    ∀ s, w.isLoading s = true → s ∈ r
  firm l := l = .document
  keeps := by
    rintro t w w' r ⟨hdims, hbroadcast⟩ ⟨hall, hcovered⟩
    refine ⟨fun c => ?_, fun s hs => hcovered s ?_⟩
    · rcases (hdims.chat c).allData with h | h
      · exact h
      · rw [h]
        exact hall c
    · cases s with
      | chat c => exact (hdims.chat c).isLoading hs
      | group g => exact hdims.group g hs
      | broadcast b => exact hbroadcast b hs

section Covers

variable {w : Phones} {s : Screen} {f : Multiset Screen}

theorem isLoading_setLoading (b : Bool) (s' : Screen) :
    (w.setLoading b s).isLoading s' = if s' = s then b else w.isLoading s' := by
  cases s <;> cases s' <;>
    simp only [Phones.setLoading, Phones.isLoading, Heap.get_modify, Function.update_apply,
      Screen.chat.injEq, Screen.group.injEq, Screen.broadcast.injEq, reduceCtorEq, if_false] <;>
    split <;> rfl

theorem allData_setLoading (b : Bool) (c : ℕ) :
    ((w.setLoading b s).main.chatCtrl.get c).allData = (w.main.chatCtrl.get c).allData := by
  cases s with
  | chat c' =>
    simp only [Phones.setLoading, Heap.get_modify]
    split
    · next h => rw [h]
    · rfl
  | group g => rfl
  | broadcast b => rfl

theorem peer_setLoading (b : Bool) (c : ℕ) :
    ((w.setLoading b s).main.chatCtrl.get c).pData = (w.main.chatCtrl.get c).pData := by
  cases s with
  | chat c' =>
    simp only [Phones.setLoading, Heap.get_modify]
    split
    · next h => rw [h]
    · rfl
  | group g => rfl
  | broadcast b => rfl

/-- A screen that is going to be uncovered may be covered. -/
theorem inv_of_covered {w' : Phones} (hi : covers.inv w ({s} + f))
    (hall : ∀ c, (w'.main.chatCtrl.get c).allData = (w.main.chatCtrl.get c).allData)
    (h : ∀ s', w'.isLoading s' = true → s' = s ∨ w.isLoading s' = true) :
    covers.inv w' ({s} + f) := by
  refine ⟨fun c => (hall c).trans (hi.1 c), fun s' hs' => ?_⟩
  rcases h s' hs' with rfl | hs'
  · exact Multiset.mem_add.mpr (Or.inl (Multiset.mem_singleton_self _))
  · exact hi.2 s' hs'

theorem inv_cover (hi : covers.inv w ({s} + f)) : covers.inv (w.setLoading true s) ({s} + f) := by
  refine inv_of_covered hi (allData_setLoading true) fun s' hs' => ?_
  rw [isLoading_setLoading] at hs'
  split at hs'
  · next h => exact Or.inl h
  · exact Or.inr hs'

/-- A screen is uncovered. -/
theorem inv_uncover (hi : covers.inv w ({s} + f)) : covers.inv (w.setLoading false s) f := by
  refine ⟨fun c => (allData_setLoading false c).trans (hi.1 c), fun s' hs' => ?_⟩
  rw [isLoading_setLoading] at hs'
  split at hs'
  · exact Bool.noConfusion hs'
  · next hne =>
    have hmem := hi.2 s' hs'
    rw [Multiset.mem_add, Multiset.mem_singleton] at hmem
    exact hmem.resolve_left hne

/-- The pickers have nothing to do with it. -/
theorem inv_modifyPicker {d : ℕ} {g : PickerController → PickerController}
    (hi : covers.inv w f) : covers.inv (w.modifyPicker d g) f := by
  refine ⟨hi.1, fun s hs => hi.2 s ?_⟩
  cases s <;> exact hs

/-- What is not covered may be owed to be uncovered. -/
theorem inv_more (hi : covers.inv w f) : covers.inv w ({s} + f) :=
  ⟨hi.1, fun s' hs' => Multiset.mem_add.mpr (Or.inr (hi.2 s' hs'))⟩

end Covers

/-! ## The handlers of the chat application -/

/-- What they do besides covering a screen. -/
def dims : Deeds World where
  rel _ := Dims
  refl _ := Dims.refl

instance : AllowsHandlers dims where
  screens _ _ _ h := h
  mint _ _ _ _ h := h
  notify _ := .of_eq rfl rfl

instance : AllowsWritten dims where
  write _ _ _ := .of_eq rfl rfl

/-- They leave the broadcasts alone. -/
theorem all_embed {t : Task World Scope} {l : Work} (h : t.All dims) :
    (t.embed mainPart l).All covers.deeds :=
  h.embed <| by
    intro t w w' hdims
    exact ⟨hdims, fun _ => id⟩

section Sending

variable {L : Thread Phones Work → Multiset Screen → Prop} {w : Phones} {f : Multiset Screen}
  {l l' : Work} {R : Phones → Multiset Screen → Prop} {content : String} {type : MessageType}
  (hL : ∀ th, th.task.All covers.deeds → L th 0) (hR : ∀ w', covers.inv w' f → R w' 0)
include hL hR

omit hL hR in
/-- An action that covers no screen. -/
theorem gives_act {g : Tick → World → World} {k : Tick → World → Task World Scope}
    {r : Multiset Screen} (hg : ∀ t v, Dims v (g t v)) (hi : covers.inv w r)
    (h : ∀ t w', covers.inv w' r → (Task.embed mainPart l' (k t w.main)).Gives L l w' R) :
    (Task.embed mainPart l' (.act g k)).Gives L l w R :=
  fun t => h t _ (covers.keeps (t := t) ⟨hg t w.main, fun _ => id⟩ hi)

omit hL hR in
theorem gives_enter {n : Scope} {k : Task World Scope}
    (h : (Task.embed mainPart l' k).Gives L l' w R) :
    (Task.embed mainPart l' (.enter n k)).Gives L l w R := h

omit hR in
/-- A call that covers no screen is started. -/
theorem gives_fork {p k : Task World Scope} {r : Multiset Screen} (hp : p.All dims)
    (hi : covers.inv w r)
    (h : ∀ w', covers.inv w' r → (Task.embed mainPart l' k).Gives L l w' R) :
    (Task.embed mainPart l' (.fork p k)).Gives L l w R := by
  refine Task.All.gives (R := fun w' r => (Task.embed mainPart l' k).Gives L l w' fun w'' r' =>
    R w'' (r + r')) hL (all_embed hp) hi fun w' hi' => ?_
  simp only [zero_add]
  exact h w' hi'

omit hR in
/-- Calls that cover no screen are started. -/
theorem gives_forEach {α : Type} {as : List α} {m : α → Call Unit} {k : Unit → Task World Scope}
    {r : Multiset Screen} (hm : ∀ a ∈ as, (m a).All dims) (hi : covers.inv w r)
    (h : ∀ w', covers.inv w' r → (Task.embed mainPart l' (k ())).Gives L l w' R) :
    (Task.embed mainPart l' (Async.forEach as m k)).Gives L l w R := by
  induction as generalizing w with
  | nil => exact h w hi
  | cons a as ih =>
    refine gives_fork hL (hm a (List.mem_cons_self ..)).task hi fun w' hi' => ?_
    exact ih (fun b hb => hm b (List.mem_cons_of_mem _ hb)) hi'

/-- The end of `ChatController.onSendMessage`. -/
theorem gives_notify {c : ℕ} (hi : covers.inv w ({.chat c} + f))
    (hpeer : (w.main.chatCtrl.get c).pData ≠ none) :
    (Task.embed mainPart l'
      (do notify c content; FlutterTheme.setLoading c false : Call Unit).task).Gives L l w R := by
  obtain ⟨pData, hpData⟩ := Option.ne_none_iff_exists'.mp hpeer
  refine fun _ => ?_
  have hpData' : ((mainPart.get w).chatCtrl.get c).pData = some pData := hpData
  simp only [hpData']
  split
  · exact fun _ => hR _ (inv_uncover hi)
  · next hpush =>
    -- the notification is not awaited, and leaves the screens alone
    have hnotify : (sendNotification (singleNotification (w.main.chatCtrl.get c) content
      ((pData .pushToken).getD .null))).task.All dims := (all_sendNotification (.single ..)).task
    exact gives_fork hL hnotify hi fun w' hi' _ => hR _ (inv_uncover hi')

/-- A text that is not blank: the loader goes away before the message is stored. -/
theorem gives_send {c : ℕ} {k : Unit → Task World Scope} (hk : ∀ a, (k a).All dims)
    (hi : covers.inv w ({.chat c} + f)) :
    (Task.embed mainPart l' (send c content type k)).Gives L l w R := by
  have htext : (modifyChat c fun s => { s with text := "" } : Call Unit).All dims :=
    all_modifyChat fun _ => ⟨id, .inr rfl⟩
  refine gives_act (fun t v => (htext (fun _ => .done) (fun _ => trivial) t v).1) hi fun t w₁ hi₁ => ?_
  have hchatId : (newChatId c).All dims := all_newChatId
  refine gives_act (fun t v => (hchatId (fun _ => .done) (fun _ => trivial) t v).1) hi₁ fun t₂ w₂ hi₂ => ?_
  refine gives_act (fun _ => Dims.refl) hi₂ fun _ w₃ hi₃ => ?_
  have hall : (w₂.main.chatCtrl.get c).allData = none := hi₂.1 c
  have hrest : ((do
      deliver c (w₂.main.chatCtrl.get c) (assignChatId c t₂ w₁.main).1 content type
      Async.spawn (getChatData c) : Call Unit) k).All dims :=
    Async.all_bind all_deliver (fun _ => Async.all_spawn (all_getChatData fun _ h =>
      allowsWrite_written (.marks h))) k hk
  change Task.Gives L (Task.embed mainPart l' (dispatch c (w₂.main.chatCtrl.get c)
    (assignChatId c t₂ w₁.main).1 content type k)) l' w₃ R
  unfold dispatch
  simp only [hall]
  exact fun _ => (all_embed hrest).gives hL (inv_uncover hi₃) hR

/-- `ChatController.onSendMessage`. -/
theorem gives_chat {c : ℕ} (hi : covers.inv w ({.chat c} + f))
    (hcareful : isBlank content = true → (w.main.chatCtrl.get c).pData ≠ none) :
    (Task.embed mainPart l' (FlutterTheme.onSendMessage c content type).task).Gives L l w R := by
  have hcover := inv_cover hi
  refine fun _ _ => ?_
  change Task.Gives L (Task.embed mainPart l' (((if isBlank content = true then pure ()
    else send c content type) >>= fun _ => do
      notify c content
      FlutterTheme.setLoading c false) fun _ => .done)) l' (w.setLoading true (.chat c)) R
  by_cases hblank : isBlank content = true
  · rw [if_pos hblank]
    refine gives_notify hL hR hcover ?_
    rw [peer_setLoading]
    exact hcareful hblank
  · rw [if_neg hblank]
    refine gives_send hL hR (fun _ => ?_) hcover
    exact (Async.all_bind all_notify fun _ => all_setLoading).task

/-- `GroupChatMessageController.onSendMessage` with a text that is not blank. -/
theorem gives_group {g : ℕ} (hi : covers.inv w ({.group g} + f)) (hcontent : isBlank content = false) :
    (Task.embed mainPart l' (GroupChat.onSendMessage g content type).task).Gives L l w R := by
  refine fun _ => ?_
  have hcover : covers.inv { w with main.groupCtrl := w.main.groupCtrl.modify g fun s =>
      { s with isLoading := true, text := "" } } ({.group g} + f) := by
    refine inv_of_covered hi (fun _ => rfl) fun s' hs' => ?_
    cases s' with
    | chat c => exact Or.inr hs'
    | broadcast b => exact Or.inr hs'
    | group g' =>
      simp only [Phones.isLoading, Heap.get_modify] at hs' ⊢
      split at hs'
      · next h => exact Or.inl (congrArg Screen.group h)
      · exact Or.inr hs'
  simp only [hcontent, Bool.false_eq_true, if_false]
  refine gives_act (fun _ => Dims.refl) hcover fun _ w₁ hi₁ => ?_
  refine gives_act (fun _ => Dims.refl) hi₁ fun _ w₂ hi₂ => ?_
  refine gives_enter (gives_act (fun _ => Dims.refl) hi₂ fun _ w₃ hi₃ => ?_)
  refine gives_fork hL (all_add fun _ => allowsWrite_other fun _ => Path.noConfusion).task hi₃
    fun w₄ hi₄ => ?_
  refine gives_act (fun _ => Dims.refl) hi₄ fun _ w₅ hi₅ => ?_
  refine gives_forEach hL (fun _ _ => all_saveGroupEntry) hi₅ fun w₆ hi₆ => ?_
  exact fun _ => hR _ (inv_uncover hi₆)

/-- A message from a screen that is not covered. -/
theorem gives_onSendMessage {s : Screen} (hi : covers.inv w f) (hcontent : isBlank content = false) :
    (onSendMessage s content type).task.Gives L l w R := by
  have hR' : ∀ w', covers.inv w' f → R w' (0 + 0) := fun w' hi' => by
    rw [add_zero]
    exact hR w' hi'
  have hblank : ¬ isBlank content = true := by simp [hcontent]
  cases s with
  | chat c =>
    exact gives_chat (R := fun w' r => R w' (r + 0)) hL hR' (inv_more hi) fun h => absurd h hblank
  | group g => exact gives_group (R := fun w' r => R w' (r + 0)) hL hR' (inv_more hi) hcontent
  | broadcast b => exact (all_embed all_sendToBroadcast.task).gives hL hi hR'

end Sending

/-! ## The handlers that send files -/

section Files

variable {w : Phones} {s : Screen} {f : Multiset Screen} {l : Work} {type : MessageType}

/-- The text with a file is not blank. -/
theorem content_not_blank {file : PickedFile} {downloadUrl : String} :
    isBlank (file.content downloadUrl) = false := by
  rw [isBlank, List.all_eq_false]
  refine ⟨'B', ?_, by decide⟩
  simp [PickedFile.content, documentContent]

/-- A call that sends, once the screen is uncovered: the send covers and uncovers it again by
itself, and without a URL nothing is sent. -/
theorem gives_uncovered {downloadUrl : Option String} {content : String → String}
    (hi : covers.inv w ({s} + f)) (h : ∀ url, downloadUrl = some url → isBlank (content url) = false) :
    (do
      setLoading s false
      match downloadUrl with
      | some downloadUrl => onSendMessage s (content downloadUrl) type
      | none => pure () : Handler Unit).task.Gives covers.Quiet l w
        fun w' r' => r' = 0 ∧ covers.inv w' f := by
  have huncover := inv_uncover hi
  refine fun _ => ?_
  cases downloadUrl with
  | none => exact ⟨rfl, huncover⟩
  | some url =>
    exact gives_onSendMessage (fun _ hth => ⟨hth, rfl⟩) (fun _ hi' => ⟨rfl, hi'⟩) huncover (h url rfl)

variable {url : String → String}

/-- A picture or a video is uploaded, and then `k` follows. -/
theorem gives_putFile {k : Unit → Task Phones Work} (hk : (k ()).Repays covers 0 .other)
    (hi : covers.inv w f) :
    (putFile k).Gives covers.owing .other w fun w' r => covers.inv w' (r + f) :=
  ⟨0, .remote (Or.inl rfl) fun _ _ => hk, by simpa using hi⟩

theorem all_clearVideo : (clearVideo s).All covers.deeds :=
  Async.all_modify fun _ _ => ⟨.refl _, fun _ => id⟩

/-- A video is uploaded and sent, and forgotten. -/
theorem gives_video {fileName : String} {m : Option String → Handler Unit}
    (hm : (tryDownloadURL url fileName fun o => (m o).task).Repays covers 0 .other)
    (hi : covers.inv w f) :
    (do
      putFile
      Async.spawn do
        let downloadUrl ← tryDownloadURL url fileName
        m downloadUrl
      clearVideo s : Handler Unit).task.Gives covers.owing .other w
        fun w' r => covers.inv w' (r + f) :=
  gives_putFile (k := fun _ => .fork (tryDownloadURL url fileName fun o => (m o).task)
    (clearVideo s).task) (.fork hm all_clearVideo.task) hi

/-- `documentShare` covers the screen for as long as it has a call under way that will uncover it: a
chat uncovers it at the end of the send, a group at the end of the send or when the download URL
fails. -/
theorem gives_documentShare {s : Screen} {result : Option PickedFile}
    (hcareful : (Action.documentShare s result).Careful w) (hi : covers.inv w f) :
    ((Action.documentShare s result).body url).task.Gives covers.owing .other w
      fun w' r => covers.inv w' (r + f) := by
  have hnone : covers.inv w (0 + f) := by rwa [zero_add]
  cases s with
  | chat c =>
    cases result with
    | none => exact hnone
    | some file =>
      refine fun _ _ => ⟨{.chat c}, .remote (Or.inr rfl) fun _ _ => .await (.remote (Or.inr rfl)
        fun _ _ => .last fun w' f' hi' => ?_), inv_cover (inv_more hi)⟩
      have hcontent (url : String) : isBlank (file.content url) ≠ true := by
        simp [content_not_blank]
      exact fun _ => gives_chat (R := fun w' r => r + 0 = 0 ∧ covers.inv w' f')
        (fun _ hth => ⟨hth, rfl⟩) (fun _ hi'' => ⟨rfl, hi''⟩) (inv_cover hi')
        fun h => absurd h (hcontent _)
  | group g =>
    cases result with
    | none => exact hnone
    | some file =>
      refine fun _ _ => ⟨{.group g}, .remote (Or.inr rfl) fun _ _ => .enter (.attempt
        fun _ _ => .last fun w' f' hi' => gives_uncovered hi' fun _ _ => content_not_blank),
        inv_cover (inv_more hi)⟩
  | broadcast b =>
    obtain rfl : result = none := hcareful
    exact hnone

variable (hurl : ∀ fileName, isBlank (url fileName) = false)
include hurl

/-- A picture or a video that is being uploaded covers nothing. -/
theorem owes_tryDownloadURL {fileName : String} {k : Option String → Task Phones Work}
    (hk : ∀ o, (∀ u, o = some u → isBlank u = false) → (k o).Repays covers 0 l) :
    (tryDownloadURL url fileName k).Repays covers 0 l := by
  refine .await (.attempt fun t w => hk _ ?_)
  intro u hu
  split at hu
  · exact absurd hu (by simp)
  · obtain rfl := Option.some.inj hu
    exact hurl fileName

/-- What follows the upload of a picture or a video. -/
theorem owes_uploaded {fileName : String} :
    (tryDownloadURL url fileName fun o => (uploaded s type o).task).Repays covers 0 l :=
  owes_tryDownloadURL hurl fun _ ho => .last fun _ _ hi => by
    rw [zero_add] at hi
    exact gives_uncovered (inv_more hi) ho

/-- The callbacks behind a group's video uncover the screen, whether the URL has come or not. -/
theorem owes_videoUploaded {g : ℕ} {fileName : String} :
    (tryDownloadURL url fileName fun o => (GroupChat.videoUploaded g o).task).Repays covers 0 l := by
  refine owes_tryDownloadURL hurl fun o ho => .last fun w f hi => ?_
  rw [zero_add] at hi
  have huncover := inv_uncover (inv_more (s := .group g) hi)
  refine fun _ => ?_
  cases o with
  | none => exact ⟨rfl, huncover⟩
  | some u =>
    exact fun _ => gives_onSendMessage (fun _ hth => ⟨hth, rfl⟩) (fun _ hi' => ⟨rfl, hi'⟩)
      (inv_modifyPicker huncover) (ho u rfl)

theorem gives_upload {imageFile : Option String} (hi : covers.inv w f) :
    (upload url s imageFile).task.Gives covers.owing .other w
      fun w' r => covers.inv w' (r + f) := by
  refine fun _ => ?_
  cases imageFile with
  | none =>
    show covers.inv w (0 + f)
    rwa [zero_add]
  | some path => exact gives_putFile (owes_uploaded hurl) hi

/-- `videoSend` covers the screen only when there is a video, and what has covered it uncovers it
when the URL has come or failed. One case for each kind of screen; they differ in how the picker is
read. -/
theorem gives_videoSend (hi : covers.inv w f) :
    ((Action.videoSend s).body url).task.Gives covers.owing .other w
      fun w' r => covers.inv w' (r + f) := by
  have hnone : covers.inv w (0 + f) := by rwa [zero_add]
  cases s with
  | chat c =>
    refine fun _ _ => ?_
    change Task.Gives covers.owing ((match (w.picker (w.device (.chat c))).videoFile with
      | none => Async.throw
      | some _ => _ : Handler Unit) fun _ => .done) _ _ _
    cases hvideo : (w.picker (w.device (.chat c))).videoFile with
    | none => exact hnone
    | some path => exact gives_video (owes_uploaded hurl) hi
  | group g =>
    refine fun _ => ?_
    change Task.Gives covers.owing ((match (w.picker (w.device (.group g))).videoFile with
      | none => pure ()
      | some _ => _ : Handler Unit) fun _ => .done) _ _ _
    cases hvideo : (w.picker (w.device (.group g))).videoFile with
    | none => exact hnone
    | some path => exact fun _ => gives_video (owes_videoUploaded hurl) hi
  | broadcast b =>
    refine fun _ _ => ?_
    change Task.Gives covers.owing ((match (w.picker (w.device (.broadcast b))).videoFile with
      | none => Async.throw
      | some _ => _ : Handler Unit) fun _ => .done) _ _ _
    cases hvideo : (w.picker (w.device (.broadcast b))).videoFile with
    | none => exact hnone
    | some path => exact gives_putFile (owes_uploaded hurl) hi

/-- **What is started** uncovers the screens it covers. One case for each handler and kind of
screen; the careful ones leave nothing covered that no call will uncover. -/
theorem starts {a : Action} (hcareful : a.Careful w) : (loaders url).Starts covers a w := by
  intro f hi
  have hnone : covers.inv w (0 + f) := by rwa [zero_add]
  cases a with
  | main a =>
    have hL : ∀ th : Thread Phones Work, th.task.All covers.deeds → covers.owing th 0 :=
      fun _ hth => hth.repays
    have hR : ∀ w', covers.inv w' f → covers.inv w' (0 + 0 + f) := fun w' hi' => by simpa using hi'
    by_cases hsend : ∃ c content type, a = .onSendMessage c content type
    · obtain ⟨c, content, type, rfl⟩ := hsend
      exact gives_chat (R := fun w' r => covers.inv w' (r + 0 + f)) hL hR (inv_more hi) hcareful
    by_cases hgroup : ∃ g content type, a = .sendToGroup g content type
    · obtain ⟨g, content, type, rfl⟩ := hgroup
      exact gives_group (R := fun w' r => covers.inv w' (r + 0 + f)) hL hR (inv_more hi) hcareful
    -- no other action covers a screen
    have hquiet : a.body.All dims := all_quiet_body a
      (fun c content type h => hsend ⟨c, content, type, h⟩)
      fun g content type h => hgroup ⟨g, content, type, h⟩
    exact (all_embed hquiet.task).gives hL hi hR
  | getImage d result =>
    cases result with
    | none => exact hnone
    | some path => exact fun _ => inv_modifyPicker hnone
  | getVideo d result =>
    cases result with
    | none => exact hnone
    | some path => exact fun _ => inv_modifyPicker hnone
  | documentShare s result => exact gives_documentShare hcareful hi
  | uploadFile s =>
    cases s with
    | chat c => exact fun _ => gives_upload hurl hi
    | group g => exact fun _ => gives_upload hurl hi
    | broadcast b => exact fun _ => gives_upload hurl hi
  | videoSend s => exact gives_videoSend hurl hi

end Files

/-- **The loader goes away.** Once nothing is under way, no screen is covered, in runs in which a
blank text is sent neither to a group nor, while the peer is not known, in a chat, no file is sent to
a broadcast, and no upload of a file fails that a loader waits for. -/
theorem loader_goes_away {url : String → String} (hurl : ∀ fileName, isBlank (url fileName) = false)
    {w₀ : Phones} (h₀ : Uncovered w₀) {es : List (Event Action)} {c : Config Phones Work}
    (h : (loaders url).Run (fun c e => (loaders url).admits c e ∧ Careful c e) { world := w₀ } es c)
    (hc : c.Settled) : ∀ s, c.world.isLoading s = false := by
  have hstart : Config.Upheld covers ({ world := w₀ } : Config Phones Work) :=
    ⟨0, labelled_nil, h₀.allData, fun s hs => absurd hs (by simp [h₀.isLoading s])⟩
  have hupheld := System.Run.upheld hstart (fun _ _ he => he.2.2)
    (fun c a ticks he => starts hurl (he.2.1 a ticks rfl)) h
  intro s
  by_contra hs
  exact absurd ((hupheld.settled hc).2 s (Bool.eq_true_of_not_eq_false hs)) (Multiset.notMem_zero s)

/-- The objects of the storage. -/
def bucket : String := "https://firebasestorage.googleapis.com/v0/b/chatter-e3d94.appspot.com/o/"

/-- The download URL of an object. -/
def address (fileName : String) : String := bucket ++ fileName ++ "?alt=media"

theorem isBlank_address (fileName : String) : isBlank (address fileName) = false := by
  have hbucket : bucket.toList.all isWhitespace = false := by decide +kernel
  rw [isBlank, address, String.toList_append, String.toList_append, List.all_append,
    List.all_append, hbucket, Bool.false_and, Bool.false_and]

/-- Alice has opened a chat with Bob, and a group. -/
def aliceScreens : Phones where
  main := { World.initial fun _ => ⟨"alice", "Alice", "1", ""⟩ with
    chatCtrl := Heap.empty.alloc {
      device := 0
      userData := ⟨"alice", "Alice", "1", ""⟩
      userContactModel := ⟨"bob", "Bob", "2", "", true⟩
      pId := "bob"
      pName := "Bob"
      chatId := "1000" }
    groupCtrl := Heap.empty.alloc { device := 0, pId := "g", pName := "Group", users := [] } }
  picker _ := {}
  broadcast _ := {}

theorem uncovered_aliceScreens : Uncovered aliceScreens where
  isLoading s := by
    cases s with
    | chat c =>
      simp only [aliceScreens, Phones.isLoading, Heap.get_alloc]
      split <;> rfl
    | group g =>
      simp only [aliceScreens, Phones.isLoading, Heap.get_alloc]
      split <;> rfl
    | broadcast b => rfl
  allData c := by
    simp only [aliceScreens, Heap.get_alloc]
    split <;> rfl

/-- Nothing fails. -/
def noFailure : ℕ → Tick := fun _ => ⟨5000000, 0, false⟩

/-- A file for Bob. -/
def notes : PickedFile := ⟨"notes.pdf", "/tmp/notes.pdf", "notes.pdf"⟩

/-- It is shared, and everything is carried on to its end. -/
def shareNotes : List (Event Action) :=
  .call (.documentShare (.chat 0) (some notes)) noFailure :: List.replicate 30 (.resume 0 noFailure)

def notesShared : Config Phones Work := (loaders address).exec { world := aliceScreens } shareNotes

/-- Whatever is under way may be carried on. -/
theorem allowed_resume : ∀ (n : ℕ) (c : Config Phones Work),
    (loaders address).Allowed (fun c e => (loaders address).admits c e ∧ Careful c e) c
      (List.replicate n (.resume 0 noFailure))
  | 0, _ => trivial
  | n + 1, _ => ⟨⟨trivial, by rintro a ticks ⟨⟩, fun _ _ _ _ => rfl⟩, allowed_resume n _⟩

theorem run_notesShared :
    (loaders address).Run (fun c e => (loaders address).admits c e ∧ Careful c e)
      { world := aliceScreens } shareNotes notesShared :=
  System.run_exec ⟨⟨Nat.zero_lt_one, by rintro a ticks ⟨⟩; trivial, trivial⟩, allowed_resume 30 _⟩

/-- The chat is not covered after that. -/
theorem loader_goes_away_notes : notesShared.world.isLoading (.chat 0) = false :=
  loader_goes_away isBlank_address uncovered_aliceScreens run_notesShared (by decide +kernel) _

/-- A blank text for the group. -/
def blankSent : List (Event Action) := [.call (.main (.sendToGroup 0 " " .text)) noFailure]

/-- **The loader stays** after a blank text for a group. -/
theorem loader_stays : ¬ ∀ {url : String → String} (_ : ∀ fileName, isBlank (url fileName) = false)
    {w₀ : Phones} (_ : Uncovered w₀) {es : List (Event Action)} {c : Config Phones Work}
    (_ : (loaders url).Run (loaders url).admits { world := w₀ } es c) (_ : c.Settled),
    ∀ s, c.world.isLoading s = false := by
  intro hclaim
  have hrun : (loaders address).Run (loaders address).admits { world := aliceScreens } blankSent
      ((loaders address).exec { world := aliceScreens } blankSent) :=
    System.run_exec ⟨Nat.zero_lt_one, trivial⟩
  have hsettled : ((loaders address).exec { world := aliceScreens } blankSent).Settled := by
    decide +kernel
  have hcovered := hclaim isBlank_address uncovered_aliceScreens hrun hsettled (.group 0)
  exact absurd hcovered (by decide +kernel)

end FlutterTheme.Loader
