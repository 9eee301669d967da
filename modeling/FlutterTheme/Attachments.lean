import FlutterTheme.Separator
import FlutterTheme.World
import FlutterTheme.Widgets

/-!
# Attachments

The content of a message with a file is the address of the file, or its name and the address with
`-BREAK-` between them; that of a message with a contact is a name, a number and a photo joined in
the same way. The widgets that show such a message cut the content at `-BREAK-`, each in its own
way. A widget that plays a file reads the address when its State is new; the list of messages has no
keys, so that the State is kept when another message comes to the same place.

* `attachment_decode_iff` — when cutting gives back what has been joined.
* `viewers_right_iff` — when the widgets that a place in the list shows play and open the files of
  their messages.
* `layouts_agree_iff` — when all widgets take a document for the same kind of file.
-/

namespace FlutterTheme.Attachments

/-! ## The content of a message -/

/-- `content.contains(pattern)`. -/
def contains (content pattern : String) : Bool := pattern.toList <:+: content.toList

/-- `content.split("-BREAK-")`. -/
def splitBreak (content : String) : List String :=
  (Separator.split "-BREAK-".toList content.toList).map String.ofList

/-- `content.split("-BREAK-")[i]`, `none` where it throws a `RangeError`. -/
def part (content : String) (i : ℕ) : Option String := (splitBreak content)[i]?

/-- `"${result.files.single.name}-BREAK-$downloadUrl"`. -/
def documentContent (name url : String) : String := name ++ "-BREAK-" ++ url

/-- `'${contact.displayName}-BREAK-${contact.phones[0].number}-BREAK-${contact.photo}'`. -/
def contactContent (displayName number photo : String) : String :=
  displayName ++ "-BREAK-" ++ number ++ "-BREAK-" ++ photo

/-- The name and the address of a document, as `PdfLayout` reads them. -/
def decodeDocument (content : String) : Option (String × String) := do
  let name ← part content 0
  let url ← part content 1
  some (name, url)

/-- The name, the number and the photo of a contact, as `ContactListTile` and `ContactLayout` read
them. -/
def decodeContact (content : String) : Option (String × String × String) := do
  let photo ← part content 2
  let displayName ← part content 0
  let number ← part content 1
  some (displayName, number, photo)

section Decode

variable {name url number photo : String}

theorem contains_iff {content pattern : String} :
    contains content pattern = false ↔ ¬ pattern.toList <:+: content.toList := by
  simp [contains]

theorem part_eq_some {content text : String} {i : ℕ} : part content i = some text ↔
    (Separator.split "-BREAK-".toList content.toList)[i]? = some text.toList := by
  rw [part, splitBreak, List.getElem?_map, Option.map_eq_some_iff]
  constructor
  · rintro ⟨l, hl, rfl⟩
    rw [hl, String.toList_ofList]
  · intro h
    exact ⟨_, h, String.ofList_toList⟩

theorem break_ne_nil : "-BREAK-".toList ≠ [] := by decide

/-- The parts of a content that come first. -/
theorem prefix_iff {content : String} {parts : List String} :
    parts.map String.toList <+: Separator.split "-BREAK-".toList content.toList ↔
      ∀ i (hi : i < parts.length), part content i = some parts[i] := by
  simp only [List.prefix_iff_getElem?, List.length_map, List.getElem_map, part_eq_some]

/-- What holds of all parts holds of the first one and of the others. -/
theorem forall_cons {f : ℕ → Option String} {text : String} {parts : List String} :
    (∀ i (hi : i < (text :: parts).length), f i = some (text :: parts)[i]) ↔
      f 0 = some text ∧ ∀ i (hi : i < parts.length), f (i + 1) = some parts[i] := by
  constructor
  · intro h
    exact ⟨h 0 (Nat.succ_pos _), fun i hi => h (i + 1) (Nat.succ_lt_succ hi)⟩
  · rintro ⟨hzero, hsucc⟩ (- | i) hi
    · exact hzero
    · exact hsucc i (Nat.lt_of_succ_lt_succ hi)

/-- When parts that have been joined can be told apart again. -/
theorem parts_iff {content : String} {parts : List String} (hne : parts ≠ [])
    (h : content.toList = "-BREAK-".toList.intercalate (parts.map String.toList)) :
    (∀ i (hi : i < parts.length), part content i = some parts[i]) ↔
      Separator.Separable "-BREAK-".toList (parts.map String.toList) := by
  rw [← prefix_iff, h, Separator.prefix_split_iff break_ne_nil (by simpa using hne)]

theorem toList_documentContent : (documentContent name url).toList =
    name.toList ++ ("-BREAK-".toList ++ url.toList) := by
  simp [documentContent]

/-- A text that is free of the separator also together with the beginning of the next one. -/
theorem free_append {text : String} : contains (text ++ "-BREAK") "-BREAK-" = false ↔
    ¬ "-BREAK-".toList <:+: text.toList ++ "-BREAK-".toList.dropLast := by
  rw [contains_iff, String.toList_append]
  rfl

theorem decodeDocument_eq_some {content : String} :
    decodeDocument content = some (name, url) ↔
      part content 0 = some name ∧ part content 1 = some url := by
  simp only [decodeDocument, Option.bind_eq_bind, Option.bind_eq_some_iff, Option.some.injEq,
    Prod.mk.injEq]
  constructor
  · rintro ⟨_, hname, _, hurl, rfl, rfl⟩
    exact ⟨hname, hurl⟩
  · rintro ⟨hname, hurl⟩
    exact ⟨name, hname, url, hurl, rfl, rfl⟩

theorem decodeContact_eq_some {content : String} :
    decodeContact content = some (name, number, photo) ↔
      part content 0 = some name ∧ part content 1 = some number ∧ part content 2 = some photo := by
  simp only [decodeContact, Option.bind_eq_bind, Option.bind_eq_some_iff, Option.some.injEq,
    Prod.mk.injEq]
  constructor
  · rintro ⟨_, hphoto, _, hname, _, hnumber, rfl, rfl, rfl⟩
    exact ⟨hname, hnumber, hphoto⟩
  · rintro ⟨hname, hnumber, hphoto⟩
    exact ⟨photo, hphoto, name, hname, number, hnumber, rfl, rfl, rfl⟩

/-- What `PdfLayout` reads is the name and the address. -/
theorem decodeDocument_iff : decodeDocument (documentContent name url) = some (name, url) ↔
    contains (name ++ "-BREAK") "-BREAK-" = false ∧ contains url "-BREAK-" = false := by
  have hcontent : (documentContent name url).toList =
      "-BREAK-".toList.intercalate ([name, url].map String.toList) := by
    simp [documentContent]
  have hparts := parts_iff (List.cons_ne_nil name [url]) hcontent
  simp only [forall_cons, List.length_nil, Nat.not_lt_zero, IsEmpty.forall_iff, implies_true,
    and_true] at hparts
  rw [decodeDocument_eq_some, free_append, contains_iff, hparts]
  rfl

/-- What the widgets for a contact read is the name, the number and the photo. -/
theorem decodeContact_iff :
    decodeContact (contactContent name number photo) = some (name, number, photo) ↔
      contains (name ++ "-BREAK") "-BREAK-" = false ∧
        contains (number ++ "-BREAK") "-BREAK-" = false ∧ contains photo "-BREAK-" = false := by
  have hcontent : (contactContent name number photo).toList =
      "-BREAK-".toList.intercalate ([name, number, photo].map String.toList) := by
    simp [contactContent]
  have hparts := parts_iff (List.cons_ne_nil name [number, photo]) hcontent
  simp only [forall_cons, List.length_nil, Nat.not_lt_zero, IsEmpty.forall_iff, implies_true,
    and_true] at hparts
  rw [decodeContact_eq_some, free_append, free_append, contains_iff, hparts]
  rfl

end Decode

/-- **Decoding an attachment.** Cutting the content gives back what has been joined just when no
part but the last, together with the `-BREAK` behind it, has a `-BREAK-`, nor has the last. -/
theorem attachment_decode_iff (name url displayName number photo : String) :
    (decodeDocument (documentContent name url) = some (name, url) ↔
      contains (name ++ "-BREAK") "-BREAK-" = false ∧ contains url "-BREAK-" = false) ∧
    (decodeContact (contactContent displayName number photo) = some (displayName, number, photo) ↔
      contains (displayName ++ "-BREAK") "-BREAK-" = false ∧
        contains (number ++ "-BREAK") "-BREAK-" = false ∧ contains photo "-BREAK-" = false) :=
  ⟨decodeDocument_iff, decodeContact_iff⟩

/-- **A name may end in the beginning of the separator**; it is shown without its end then, and the
address begins with the rest of the separator. -/
theorem name_cut : ¬ ((∀ name url, decodeDocument (documentContent name url) = some (name, url)) ∧
    ∀ displayName number photo, decodeContact (contactContent displayName number photo) =
      some (displayName, number, photo)) := by
  rintro ⟨hclaim, -⟩
  exact absurd (hclaim "notes-BREAK" "https://a") (by decide +kernel)

/-! ## Messages with a file -/

/-- The types of the messages with a file. -/
inductive FileType : Type where
  | video | audio | doc
  deriving DecidableEq, Repr

/-- The type of a file that has been picked. -/
def fileType (path : String) : FileType :=
  if contains path ".mp4" then .video else if contains path ".mp3" then .audio else .doc

/-- The messages with a file that the controllers send; `url` is the address of the file after the
upload. -/
inductive Attachment : Type where
  /-- `documentShare` of a file with a name and a path -/
  | documentShare (name path url : String) : Attachment
  /-- `videoSend` -/
  | videoSend (url : String) : Attachment
  /-- `audioRecording` -/
  | audioRecording (url : String) : Attachment
  deriving DecidableEq, Repr

namespace Attachment

/-- The address of the file. -/
def url : Attachment → String
  | documentShare _ _ url | videoSend url | audioRecording url => url

/-- The content of the message. -/
def content : Attachment → String
  | documentShare name _ url => documentContent name url
  | videoSend url | audioRecording url => url

/-- The type of the message. -/
def type : Attachment → FileType
  | documentShare _ path _ => fileType path
  | videoSend _ => .video
  | audioRecording _ => .audio

end Attachment

/-! ## The widgets that show them -/

/-- The widgets that choose a layout for a message. -/
inductive Dispatcher : Type where
  | senderMessage | receiverMessage | broadcastSenderMessage | groupSenderMessage
  | groupReceiverMessage
  deriving DecidableEq, Repr

/-- The layouts for a file. -/
inductive Layout : Type where
  | videoDoc | groupVideoDoc | audioDoc | groupAudioDoc
  | pdfLayout (isReceiver : Bool) : Layout
  | docxLayout | excelLayout | docImageLayout
  /-- an empty `Container` -/
  | container
  deriving DecidableEq, Repr

namespace Dispatcher

/-- The widget is on the screen of a group. -/
def isGroup : Dispatcher → Bool
  | groupSenderMessage | groupReceiverMessage => true
  | _ => false

/-- The message is from someone else. -/
def isReceiver : Dispatcher → Bool
  | receiverMessage | groupReceiverMessage => true
  | _ => false

/-- The layout for a document; `GroupReceiverMessage` has none for a table. -/
def docLayout (d : Dispatcher) (content : String) : Layout :=
  if contains content ".pdf" then .pdfLayout d.isReceiver
  else if contains content ".doc" then .docxLayout
  else if d ≠ groupReceiverMessage ∧ contains content ".xlsx" then .excelLayout
  else if contains content ".jpg" || contains content ".png" || contains content ".heic" ||
      contains content ".jpeg" then .docImageLayout
  else .container

/-- The layout for a message with a file. -/
def layout (d : Dispatcher) (type : FileType) (content : String) : Layout :=
  match type with
  | .video => if d.isGroup then .groupVideoDoc else .videoDoc
  | .audio => if d.isGroup then .groupAudioDoc else .audioDoc
  | .doc => d.docLayout content

end Dispatcher

/-- The address that a video is played from. -/
def videoUrl (content : String) : Option String :=
  if contains content "-BREAK-" then part content 1 else some content

/-- The address that a recording is played from; the text looked for has no hyphen at its end. -/
def audioUrl (content : String) : Option String :=
  if contains content "-BREAK" then part content 1 else some content

/-- The layout plays a file. -/
def Layout.isPlayer : Layout → Bool
  | videoDoc | groupVideoDoc | audioDoc | groupAudioDoc => true
  | pdfLayout _ | docxLayout | excelLayout | docImageLayout | container => false

/-- The address that a layout plays, as its `initState` reads it; `none` for a `RangeError`, and
where nothing is played. -/
def Layout.reads (content : String) : Layout → Option String
  | videoDoc | groupVideoDoc => videoUrl content
  | audioDoc | groupAudioDoc => audioUrl content
  | pdfLayout _ | docxLayout | excelLayout | docImageLayout | container => none

/-- The addresses that a layout opens or downloads on a tap, `none` for a `RangeError`; a layout for
a document also shows what is there. -/
def Layout.opens (content : String) : Layout → List (Option String)
  | videoDoc => [some content]
  | groupVideoDoc => [part content 1]
  | audioDoc | groupAudioDoc => []
  | pdfLayout isReceiver =>
    [part content 1, part content 1] ++ if isReceiver then [part content 1] else []
  | docxLayout | excelLayout | docImageLayout => [part content 1]
  | container => []

/-- A message with a file that is built at a place in the list of messages. -/
structure Build where
  dispatcher : Dispatcher
  message : Attachment
  /-- a `ChatController` is registered -/
  registered : Bool
  deriving DecidableEq, Repr

/-- The layout that is built. -/
def Build.layout (b : Build) : Layout := b.dispatcher.layout b.message.type b.message.content

/-- The `GetBuilder` of a player finds its controller: the screen of a chat registers a
`ChatController` and that of a group a `GroupChatMessageController`, but the players that are shown
for a broadcast look for a `ChatController` as well. -/
def Build.finds (b : Build) : Bool :=
  decide (b.dispatcher ≠ .broadcastSenderMessage) || b.registered

/-- The State of a player, and of the `GetBuilder` below it. -/
structure Viewer where
  /-- what `initState` has given the player, `none` where that has thrown -/
  url : Option String := none
  /-- the `GetBuilder` has its controller, which it keeps -/
  found : Bool := false
  deriving DecidableEq, Repr

/-- The State of a new layout. What a video is played from is read in `initState` itself, what a
recording is played from in an asynchronous `_init`, whose error nobody sees. -/
def Layout.initState (content : String) : Layout → Option Viewer
  | videoDoc | groupVideoDoc => (videoUrl content).map fun url => { url := some url }
  | audioDoc | groupAudioDoc => some { url := audioUrl content }
  | pdfLayout _ | docxLayout | excelLayout | docImageLayout | container => some {}

/-- The layouts at a place of the list, which have no keys. A State is kept where the same layout is
built by the same widget. What is shown are the addresses that are played, opened and downloaded;
the `GetBuilder` of a player throws where it does not find its controller. -/
def viewer : Widgets.Stateful (Dispatcher × Layout) Build Viewer (List (Option String)) where
  kind b := (b.dispatcher, b.layout)
  initState b := b.layout.initState b.message.content
  build b v :=
    let found := v.found || b.finds
    ({ v with found := found },
      if b.layout.isPlayer then
        if found then v.url :: b.layout.opens b.message.content else [none]
      else b.layout.opens b.message.content)

/-- What is played, opened and downloaded for a message is its file. -/
def Opens (before : List (Option Build)) (b : Build) : Prop :=
  ∃ urls, viewer.shown before b = some urls ∧ ∀ o ∈ urls, o = some b.message.url

namespace Attachment

/-- The name of the file is free of the separator. -/
def NameFree : Attachment → Prop
  | documentShare name _ _ => contains name "-BREAK-" = false
  | _ => True

/-- The name does not end in the beginning of the separator, and the address is free of it. -/
def Apart (name url : String) : Prop :=
  contains (name ++ "-BREAK") "-BREAK-" = false ∧ contains url "-BREAK-" = false

/-- What has a name comes apart from it, and the address of a video has no separator, that of a
recording nothing that looks like one. -/
def Loads : Attachment → Prop
  | documentShare name _ url => Apart name url
  | videoSend url => contains url "-BREAK-" = false
  | audioRecording url => contains url "-BREAK" = false

instance : (m : Attachment) → Decidable m.Loads
  | documentShare _ _ _ => inferInstanceAs (Decidable (_ ∧ _))
  | videoSend _ | audioRecording _ => inferInstanceAs (Decidable (_ = _))

/-- A video that was picked as a document is opened by the layout of a group only, one that was
recorded by the other one only; a document that is shown comes apart from its name. -/
def Taps (d : Dispatcher) : Attachment → Prop
  | documentShare name path url =>
    match fileType path with
    | .video => d.isGroup = true ∧ Apart name url
    | .audio => True
    | .doc => d.docLayout (documentContent name url) = .container ∨ Apart name url
  | videoSend _ => d.isGroup = false
  | audioRecording _ => True

end Attachment

/-- A tap opens the file; and where the file is played, the place has shown the same file, by an
address that comes apart, since it last showed something else, and a controller has been found. -/
def Fits (before : List (Option Build)) (b : Build) : Prop :=
  b.message.Taps b.dispatcher ∧
    (b.message.type ≠ .doc →
      (viewer.first before b).message.Loads ∧
        (viewer.first before b).message.url = b.message.url ∧
        ∃ b' ∈ viewer.since before b ++ [b], b'.finds = true)

section Viewers

variable {d : Dispatcher} {m : Attachment} {name path url : String}

theorem contains_documentContent : contains (documentContent name url) "-BREAK-" = true := by
  rw [contains, decide_eq_true_iff, toList_documentContent]
  exact List.infix_append' _ _ _

theorem contains_break (h : contains name "-BREAK-" = true) : contains name "-BREAK" = true := by
  rw [contains, decide_eq_true_iff] at h ⊢
  exact (List.prefix_append "-BREAK".toList ['-']).isInfix.trans h

theorem part_documentContent (hname : contains name "-BREAK-" = false) :
    part (documentContent name url) 1 = some url ↔ Attachment.Apart name url := by
  rw [part_eq_some, toList_documentContent,
    Separator.second_split_append break_ne_nil (contains_iff.mp hname), Attachment.Apart,
    free_append, contains_iff]

/-- An address alone has no second part that is the address. -/
theorem part_url : part url 1 ≠ some url := by
  rw [Ne, part_eq_some]
  exact Separator.second_split_ne break_ne_nil

theorem documentContent_ne : documentContent name url ≠ url := by
  intro h
  have hlen := congrArg (fun text => text.toList.length) h
  simp only [toList_documentContent, List.length_append] at hlen
  have hpos := List.length_pos_iff.mpr break_ne_nil
  omega

theorem videoUrl_documentContent :
    videoUrl (documentContent name url) = part (documentContent name url) 1 := by
  rw [videoUrl, if_pos contains_documentContent]

theorem audioUrl_documentContent :
    audioUrl (documentContent name url) = part (documentContent name url) 1 := by
  rw [audioUrl, if_pos (contains_break contains_documentContent)]

theorem videoUrl_url : videoUrl url = some url ↔ contains url "-BREAK-" = false := by
  rw [videoUrl]
  split
  · next h => exact iff_of_false part_url (by simp [h])
  · next h => exact iff_of_true rfl (by simpa using h)

theorem audioUrl_url : audioUrl url = some url ↔ contains url "-BREAK" = false := by
  rw [audioUrl]
  split
  · next h => exact iff_of_false part_url (by simp [h])
  · next h => exact iff_of_true rfl (by simpa using h)

/-- A separator is looked for before the content is cut, so that a video has an address. -/
theorem videoUrl_isSome (content : String) : (videoUrl content).isSome = true := by
  rw [videoUrl]
  split
  · next h =>
    rw [contains, decide_eq_true_iff] at h
    have hlen := Separator.two_pieces break_ne_nil h
    rw [part, splitBreak, List.getElem?_map, Option.isSome_map, List.getElem?_eq_getElem hlen]
    rfl
  · rfl

theorem initState_eq (content : String) (layout : Layout) :
    layout.initState content = some { url := layout.reads content } := by
  have hvideo : (videoUrl content).map (fun url => ({ url := some url } : Viewer)) =
      some { url := videoUrl content } := by
    obtain ⟨url, hurl⟩ := Option.isSome_iff_exists.mp (videoUrl_isSome content)
    rw [hurl]
    rfl
  cases layout with
  | videoDoc | groupVideoDoc => exact hvideo
  | _ => rfl

/-- The layouts for documents take the second part of the content for the address. -/
theorem docLayout_cases (d : Dispatcher) (content : String) : d.docLayout content = .container ∨
    ∃ isReceiver, d.docLayout content ∈
      [.pdfLayout isReceiver, .docxLayout, .excelLayout, .docImageLayout] := by
  unfold Dispatcher.docLayout
  split
  · exact Or.inr ⟨_, List.mem_cons_self ..⟩
  split
  · exact Or.inr ⟨true, by simp⟩
  split
  · exact Or.inr ⟨true, by simp⟩
  split
  · exact Or.inr ⟨true, by simp⟩
  · exact Or.inl rfl

/-- A document layout that is not the empty container opens the second part of the content,
whichever of the layouts it is. -/
theorem opens_docLayout {text content : String} (h : d.docLayout content ≠ .container) :
    (∀ o ∈ (d.docLayout content).opens content, o = some text) ↔ part content 1 = some text := by
  obtain ⟨isReceiver, hlayout⟩ := (docLayout_cases d content).resolve_left h
  simp only [List.mem_cons, List.not_mem_nil, or_false] at hlayout
  rcases hlayout with hlayout | hlayout | hlayout | hlayout
  · rw [hlayout]
    cases isReceiver with
    | true => simp [Layout.opens]
    | false => simp [Layout.opens]
  · simp [hlayout, Layout.opens]
  · simp [hlayout, Layout.opens]
  · simp [hlayout, Layout.opens]

/-- What is no document is played. -/
theorem isPlayer_layout {type : FileType} {content : String} :
    (d.layout type content).isPlayer = true ↔ type ≠ .doc := by
  cases type with
  | video => cases hgroup : d.isGroup <;> simp [Dispatcher.layout, hgroup, Layout.isPlayer]
  | audio => cases hgroup : d.isGroup <;> simp [Dispatcher.layout, hgroup, Layout.isPlayer]
  | doc =>
    simp only [Dispatcher.layout, ne_eq, not_true_eq_false, iff_false]
    rcases docLayout_cases d content with hlayout | ⟨isReceiver, hlayout⟩
    · simp [hlayout, Layout.isPlayer]
    · simp only [List.mem_cons, List.not_mem_nil, or_false] at hlayout
      rcases hlayout with hlayout | hlayout | hlayout | hlayout <;> simp [hlayout, Layout.isPlayer]

/-- What a new player reads is the address just where that comes apart. -/
theorem reads_iff (hname : m.NameFree) (htype : m.type ≠ .doc) :
    (d.layout m.type m.content).reads m.content = some m.url ↔ m.Loads := by
  have hvideo : (d.layout .video m.content).reads m.content = videoUrl m.content := by
    cases hgroup : d.isGroup <;> simp [Dispatcher.layout, hgroup, Layout.reads]
  have haudio : (d.layout .audio m.content).reads m.content = audioUrl m.content := by
    cases hgroup : d.isGroup <;> simp [Dispatcher.layout, hgroup, Layout.reads]
  cases m with
  | documentShare name path url =>
    cases hfile : (Attachment.documentShare name path url).type with
    | video =>
      rw [hvideo, Attachment.content, videoUrl_documentContent]
      exact part_documentContent hname
    | audio =>
      rw [haudio, Attachment.content, audioUrl_documentContent]
      exact part_documentContent hname
    | doc => exact absurd hfile htype
  | videoSend url => exact (congrArg (· = some url) hvideo).to_iff.trans videoUrl_url
  | audioRecording url => exact (congrArg (· = some url) haudio).to_iff.trans audioUrl_url

/-- What a tap opens is the file that was sent. One case for each layout and producer; those that
cut the content at the separator need a name and a URL in which it does not occur. -/
theorem taps_iff (hname : m.NameFree) :
    (∀ o ∈ (d.layout m.type m.content).opens m.content, o = some m.url) ↔ m.Taps d := by
  cases m with
  | documentShare name path url =>
    simp only [Attachment.Taps, Attachment.type, Attachment.content, Attachment.url]
    cases hfile : fileType path with
    | video =>
      cases hgroup : d.isGroup with
      | true => simp [Dispatcher.layout, hgroup, Layout.opens, part_documentContent hname]
      | false => simp [Dispatcher.layout, hgroup, Layout.opens, documentContent_ne]
    | audio => cases hgroup : d.isGroup <;> simp [Dispatcher.layout, hgroup, Layout.opens]
    | doc =>
      by_cases hlayout : d.docLayout (documentContent name url) = .container
      · simp [Dispatcher.layout, hlayout, Layout.opens]
      · simp only [Dispatcher.layout, hlayout, false_or]
        rw [opens_docLayout hlayout, part_documentContent hname]
  | videoSend url =>
    simp only [Attachment.Taps, Attachment.type, Attachment.content, Attachment.url,
      Dispatcher.layout]
    cases d.isGroup with
    | true => simp [Layout.opens, part_url]
    | false => simp [Layout.opens]
  | audioRecording url =>
    simp only [Attachment.Taps, Attachment.type, Attachment.content, Attachment.url,
      Dispatcher.layout]
    cases d.isGroup <;> simp [Layout.opens]

end Viewers

/-! ## A place in the list -/

section Place

variable {before : List (Option Build)} {b : Build}

/-- Building leaves the address, and a `GetBuilder` keeps its controller. -/
theorem built_viewer (builds : List Build) (v : Viewer) :
    viewer.built v builds = { v with found := v.found || builds.any Build.finds } := by
  induction builds generalizing v with
  | nil => simp [Widgets.Stateful.built]
  | cons b builds ih =>
    rw [Widgets.Stateful.built, List.foldl_cons]
    refine (ih _).trans ?_
    simp [viewer, Bool.or_assoc]

/-- The State was made for the same layout. -/
theorem layout_first (before : List (Option Build)) (b : Build) :
    (viewer.first before b).layout = b.layout := by
  obtain ⟨_, _, -, -, hkind⟩ := Widgets.Stateful.exists_first viewer before b
  exact congrArg Prod.snd hkind

/-- **What a place shows**: the address that was read when the State was new, and what the message
itself has. -/
theorem shown_viewer : viewer.shown before b = some (
    if b.layout.isPlayer then
      if (viewer.since before b ++ [b]).any Build.finds then
        b.layout.reads (viewer.first before b).message.content :: b.layout.opens b.message.content
      else [none]
    else b.layout.opens b.message.content) := by
  have hinit (b : Build) : viewer.initState b =
      some { url := b.layout.reads b.message.content } := initState_eq _ _
  rw [Widgets.Stateful.shown_eq fun b _ => by rw [hinit]; rfl, hinit, Option.map_some, built_viewer,
    layout_first]
  simp [viewer]

/-- A message opens at its place just when its tap fits and, if it is played, the viewer reads its
URL from the message it was new for, and finds a controller at one of the builds. -/
theorem opens_iff (hname : b.message.NameFree) : Opens before b ↔
    b.message.Taps b.dispatcher ∧
      (b.message.type ≠ .doc →
        b.layout.reads (viewer.first before b).message.content = some b.message.url ∧
          ∃ b' ∈ viewer.since before b ++ [b], b'.finds = true) := by
  have htype : b.layout.isPlayer = true ↔ b.message.type ≠ .doc := isPlayer_layout
  rw [Opens, shown_viewer, ← taps_iff hname, ← htype, ← List.any_eq_true]
  cases b.layout.isPlayer with
  | false => simp [Build.layout]
  | true =>
    cases (viewer.since before b ++ [b]).any Build.finds with
    | false => simp
    | true => simp [Build.layout, and_comm]

end Place

/-- **When the widgets open what was sent**: at a place that shows these messages, all are played
and opened just where each of them fits. -/
theorem viewers_right_iff {builds : List (Option Build)}
    (hname : ∀ b, some b ∈ builds → b.message.NameFree) :
    (∀ before b after, builds = before ++ some b :: after → Opens before b) ↔
      ∀ before b after, builds = before ++ some b :: after → Fits before b := by
  -- the message for which the State was made is one of the list
  have hfirst {before : List (Option Build)} {b : Build} {after : List (Option Build)}
      (heq : builds = before ++ some b :: after) : ∃ before' after',
        builds = before' ++ some (viewer.first before b) :: after' ∧
          viewer.first before' (viewer.first before b) = viewer.first before b := by
    obtain ⟨before', after', hbuilds, hsince, -⟩ := Widgets.Stateful.exists_first viewer before b
    refine ⟨before', after' ++ after, ?_, Widgets.Stateful.first_of_since hsince⟩
    calc builds = (before ++ [some b]) ++ after := by rw [heq]; simp
      _ = _ := by rw [hbuilds]; simp
  have hfree {before : List (Option Build)} {b : Build} {after : List (Option Build)}
      (heq : builds = before ++ some b :: after) : b.message.NameFree :=
    hname b (heq ▸ List.mem_append_right _ (List.mem_cons_self ..))
  -- and it is of the same type, and read in the same way
  have hsame (before : List (Option Build)) (b : Build) (htype : b.message.type ≠ .doc) :
      (viewer.first before b).message.type ≠ .doc := by
    have hplays : b.layout.isPlayer = true := isPlayer_layout.mpr htype
    rw [← layout_first before] at hplays
    exact isPlayer_layout.mp hplays
  constructor
  · intro hopens before b after heq
    obtain ⟨htaps, hplays⟩ := (opens_iff (hfree heq)).mp (hopens before b after heq)
    refine ⟨htaps, fun htype => ?_⟩
    obtain ⟨hreads, hfinds⟩ := hplays htype
    obtain ⟨before', after', heq', hfirst'⟩ := hfirst heq
    obtain ⟨hown, -⟩ := ((opens_iff (hfree heq')).mp (hopens _ _ _ heq')).2 (hsame before b htype)
    rw [hfirst'] at hown
    refine ⟨(reads_iff (hfree heq') (hsame before b htype)).mp hown, ?_, hfinds⟩
    rw [layout_first] at hown
    exact Option.some.inj (hown.symm.trans hreads)
  · intro hfits before b after heq
    obtain ⟨htaps, hplays⟩ := hfits before b after heq
    refine (opens_iff (hfree heq)).mpr ⟨htaps, fun htype => ?_⟩
    obtain ⟨hloads, hurl, hfinds⟩ := hplays htype
    obtain ⟨before', after', heq', -⟩ := hfirst heq
    have hown := (reads_iff (d := (viewer.first before b).dispatcher) (hfree heq')
      (hsame before b htype)).mpr hloads
    refine ⟨?_, hfinds⟩
    rw [← hurl, ← layout_first before]
    exact hown

/-- A video that is sent to many is shown while it is sent, and afterwards. -/
def oneVideo : List (Option Build) :=
  [some ⟨.broadcastSenderMessage, .videoSend "https://a", true⟩,
    some ⟨.broadcastSenderMessage, .videoSend "https://a", false⟩]

/-- A video of a broadcast plays at its second build as well, where no controller is registered any
more, since the first build had one. -/
theorem viewers_right_video : Opens [some ⟨.broadcastSenderMessage, .videoSend "https://a", true⟩]
    ⟨.broadcastSenderMessage, .videoSend "https://a", false⟩ := by
  have hname : ∀ b, some b ∈ oneVideo → b.message.NameFree := by
    intro b hb
    rcases List.mem_pair.mp hb with hb | hb <;> cases hb <;> trivial
  refine (viewers_right_iff hname).mpr (fun before b after heq => ?_) [_] _ [] rfl
  rcases before with _ | ⟨b₀, _ | ⟨b₁, before⟩⟩
  · cases heq
    exact ⟨rfl, fun _ => ⟨by decide +kernel, rfl, by decide⟩⟩
  · cases heq
    exact ⟨rfl, fun _ => ⟨by decide +kernel, by decide +kernel, by decide +kernel⟩⟩
  · simp [oneVideo] at heq

/-- **A video picked as a document is not opened**: on a tap `VideoDoc` takes the whole content for
the address. -/
theorem video_not_opened : ¬ ∀ builds : List (Option Build),
    (∀ b, some b ∈ builds → b.message.NameFree) →
      ∀ before b after, builds = before ++ some b :: after → Opens before b := by
  intro hclaim
  obtain ⟨urls, hurls, hall⟩ := hclaim
    [some ⟨.senderMessage, .documentShare "a.mp4" "/a.mp4" "https://a", true⟩] (by
      intro b hb
      rw [Option.some.inj (List.mem_singleton.mp hb)]
      exact (by decide +kernel : contains "a.mp4" "-BREAK-" = false)) [] _ [] rfl
  have hshown : viewer.shown []
      ⟨.senderMessage, .documentShare "a.mp4" "/a.mp4" "https://a", true⟩ =
        some [some "https://a", some "a.mp4-BREAK-https://a"] := by decide +kernel
  rw [hshown] at hurls
  have htap := hall (some "a.mp4-BREAK-https://a") (by rw [← Option.some.inj hurls]; simp)
  exact absurd htap (by decide)

/-- A second video is played from where the first one was. -/
example : viewer.shown [some ⟨.senderMessage, .videoSend "https://a", true⟩]
    ⟨.senderMessage, .videoSend "https://b", true⟩ = some [some "https://a", some "https://b"] := by
  decide +kernel

/-- What was sent to many is not shown when the screen is opened again. -/
example : viewer.shown [] ⟨.broadcastSenderMessage, .audioRecording "https://a", false⟩ =
    some [none] := by decide +kernel

/-! ## The kinds of documents -/

/-- What a document is shown as. -/
inductive DocKind : Type where
  | pdf | doc | xlsx | image
  deriving DecidableEq, Repr

/-- The kind of a layout for documents, `none` where nothing is shown. -/
def Layout.kind : Layout → Option DocKind
  | pdfLayout _ => some .pdf
  | docxLayout => some .doc
  | excelLayout => some .xlsx
  | docImageLayout => some .image
  | videoDoc | groupVideoDoc | audioDoc | groupAudioDoc | container => none

section Kinds

variable {d : Dispatcher} {content : String}

/-- What comes first decides: a PDF file, or a text. -/
theorem kind_of_first (h : contains content ".pdf" = true ∨ contains content ".doc" = true) :
    (d.docLayout content).kind =
      if contains content ".pdf" then some .pdf else some .doc := by
  unfold Dispatcher.docLayout
  by_cases hpdf : contains content ".pdf" = true
  · rw [if_pos hpdf, if_pos hpdf]
    rfl
  · rw [if_neg hpdf, if_neg hpdf, if_pos (h.resolve_left hpdf)]
    rfl

/-- What is neither, nor a table, is an image or nothing for all widgets. -/
theorem kind_of_last (hpdf : contains content ".pdf" = false) (hdoc : contains content ".doc" = false)
    (hxlsx : contains content ".xlsx" = false) : (d.docLayout content).kind =
      if contains content ".jpg" || contains content ".png" || contains content ".heic" ||
        contains content ".jpeg" then some .image else none := by
  simp only [Dispatcher.docLayout, hpdf, hdoc, hxlsx, Bool.false_eq_true, if_false, and_false]
  split
  · rfl
  · rfl

/-- A table is shown as one in the widgets that look for it. -/
theorem kind_of_table (hd : d ≠ .groupReceiverMessage) (hpdf : contains content ".pdf" = false)
    (hdoc : contains content ".doc" = false) (hxlsx : contains content ".xlsx" = true) :
    (d.docLayout content).kind = some .xlsx := by
  simp only [Dispatcher.docLayout, hpdf, hdoc, Bool.false_eq_true, if_false, if_pos (And.intro hd hxlsx)]
  rfl

/-- `GroupReceiverMessage` does not look for a table. -/
theorem kind_groupReceiver :
    (Dispatcher.docLayout .groupReceiverMessage content).kind ≠ some .xlsx := by
  unfold Dispatcher.docLayout
  split
  · exact fun h => by cases h
  split
  · exact fun h => by cases h
  split
  · next h => exact absurd rfl h.1
  split
  · exact fun h => by cases h
  · exact fun h => by cases h

end Kinds

/-- **The widgets agree on a document exactly if** it is no table: either its content has no
`.xlsx`, or it is taken for something else before that is looked for. -/
theorem layouts_agree_iff (content : String) :
    (∀ d d' : Dispatcher, (d.docLayout content).kind = (d'.docLayout content).kind) ↔
      (contains content ".xlsx" = true →
        contains content ".pdf" = true ∨ contains content ".doc" = true) := by
  constructor
  · intro hagree hxlsx
    by_contra hneither
    obtain ⟨hpdf, hdoc⟩ := not_or.mp hneither
    have htable := kind_of_table (d := .senderMessage) (by decide) (by simpa using hpdf)
      (by simpa using hdoc) hxlsx
    exact kind_groupReceiver ((hagree .groupReceiverMessage .senderMessage).trans htable)
  · intro htable d d'
    by_cases hfirst : contains content ".pdf" = true ∨ contains content ".doc" = true
    · rw [kind_of_first hfirst, kind_of_first hfirst]
    · have hxlsx : contains content ".xlsx" = false := by
        rw [← Bool.not_eq_true]
        exact fun h => hfirst (htable h)
      obtain ⟨hpdf, hdoc⟩ := not_or.mp hfirst
      rw [Bool.not_eq_true] at hpdf hdoc
      rw [kind_of_last hpdf hdoc hxlsx, kind_of_last hpdf hdoc hxlsx]

/-- **A table sent to a group is not shown** to those who receive it. -/
theorem table_not_shown : ¬ ∀ (content : String) (d d' : Dispatcher),
    (d.docLayout content).kind = (d'.docLayout content).kind := by
  intro hclaim
  exact absurd (hclaim "a.xlsx-BREAK-https://a" .groupSenderMessage .groupReceiverMessage)
    (by decide +kernel)

end FlutterTheme.Attachments
