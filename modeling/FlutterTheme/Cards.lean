import FlutterTheme.Chat
import FlutterTheme.IntParse
import Mathlib.Data.List.Infix

/-!
# The cards of the inbox

What the cards that `LoadUser` chooses from read of an inbox entry, and show of it.

* `Layout α` — a part of a card: the fields it reads of a document, in order, and the `α`
  it shows, `none` where a field is missing or is not of the type it is used as. A field
  that a part reads again is not always listed again.
* `trailingLayout`, `subTitleLayout`, `messageCardSubTitle`, `groupCardSubTitle` — the parts.
* `Card.build` — the cards. The arguments that a card passes on when it is tapped are read
  with the rest.

Colours, icons and the format of times are left out. What the cards show of the user
document they fetch is its `name`, a parameter here.
-/

namespace FlutterTheme

open DocStore

/-! ## Reading a document -/

/-- A part of a card: the fields read, in order, and what is shown. -/
def Layout (α : Type) : Type := Data → List Key × Option α

namespace Layout

variable {α β : Type}

/-- Show something that depends on no field. -/
protected def pure (a : α) : Layout α := fun _ => ([], some a)

/-- Go on with what has been read, if it could be. -/
protected def bind (m : Layout α) (f : α → Layout β) : Layout β := fun d =>
  match m d with
  | (keys, some a) => (keys ++ (f a d).1, (f a d).2)
  | (keys, none) => (keys, none)

instance : Monad Layout where
  pure := Layout.pure
  bind := Layout.bind

/-- A value is used as something it is not. -/
def fail : Layout α := fun _ => ([], none)

/-- `document![k]`; it throws if there is no such field. -/
def field (k : Key) : Layout Value := fun d => ([k], d k)

/-- A value that is used as a `String`. -/
def ofText : Value → Layout String
  | .str s => pure s
  | _ => fail

/-- A field that is used as a `String`. -/
def text (k : Key) : Layout String := do
  let value ← field k
  ofText value

/-- A field that is used as a `bool`. -/
def bool (k : Key) : Layout Bool := do
  let value ← field k
  match value with
  | .bool b => pure b
  | _ => fail

/-- A field that is used as a `List`. -/
def list (k : Key) : Layout (List SelectedContact) := do
  let value ← field k
  match value with
  | .contacts l => pure l
  | _ => fail

/-- The `name` in a field that is used as the map of a user. -/
def userName (k : Key) : Layout String := do
  let value ← field k
  match value with
  | .user u => pure u.name
  | _ => fail

end Layout

/-! ## The parts of a card -/

/-- `s.contains(part)`. -/
def contains (s part : String) : Bool := part.toList <:+: s.toList

/-- The characters in front of the first occurrence of `sep`. -/
def before (sep : List Char) : List Char → List Char
  | [] => []
  | c :: cs => if sep <+: c :: cs then [] else c :: before sep cs

/-- `s.split("-BREAK-")[0]`. -/
def fileName (s : String) : String := String.ofList (before "-BREAK-".toList s.toList)

/-- The message is a file: its name stands in front of the address. -/
def isFile (lastMessage : String) : Bool :=
  [".pdf", ".doc", ".mp3", ".mp4", ".xlsx", ".ods"].any (contains lastMessage)

/-- What stands below the name. -/
inductive SubTitle : Type where
  | empty : SubTitle
  | gif : SubTitle
  | text : String → SubTitle
  deriving DecidableEq, Repr

/-- A card. -/
structure View where
  title : String
  /-- the time, in milliseconds since the epoch -/
  time : ℤ
  /-- whether the number of unseen messages may stand below the time -/
  badge : Bool := false
  /-- whether the tick of the last message is coloured, if there is one -/
  tick : Option Bool := none
  subtitle : SubTitle
  deriving DecidableEq, Repr

/-- `DateTime.fromMillisecondsSinceEpoch(int.parse(document!['updateStamp']))`. -/
def updateTime : Layout ℤ := do
  let updateStamp ← Layout.text .updateStamp
  match intParse updateStamp with
  | some millis => pure millis
  | none => Layout.fail

/-- `TrailingLayout`: the time, and whether the last message is the user's own. -/
def trailingLayout (currentUserId : String) : Layout (ℤ × Bool) := do
  let time ← updateTime
  let senderId ← Layout.field .senderId
  pure (time, senderId = .str currentUserId)

/-- `document!["isBlock"] == true && document!["isBlock"] == "true"`. -/
def isBlocked : Layout Bool := do
  let isBlock ← Layout.field .isBlock
  if isBlock = .bool true then do
    let isBlock ← Layout.field .isBlock
    pure (isBlock = .str "true")
  else pure false

/-- The text that `SubTitleLayout` and `MessageCardSubTitle` choose for a message. -/
def messageText (lastMessage media : String) (blockBy : String) : Layout String :=
  if contains lastMessage "media" then pure media
  else do
    let blocked ← isBlocked
    if blocked then do
      let blockedBy ← Layout.field .blockBy
      -- a `bool` where a `String` is needed
      if blockedBy ≠ .str blockBy then Layout.text .blockUserMessage else Layout.fail
    else if isFile lastMessage then pure (fileName lastMessage)
    else pure lastMessage

/-- `SubTitleLayout`. -/
def subTitleLayout (blockBy : String) : Layout (Bool × SubTitle) := do
  let isSeen ← Layout.bool .isSeen
  let lastMessage ← Layout.text .lastMessage
  if contains lastMessage ".gif" then pure (isSeen, .gif)
  else do
    let text ← messageText lastMessage "You Share Media" blockBy
    pure (isSeen, .text text)

/-- The tick in front of the user's own messages. -/
def ownTick (currentUserId : String) : Layout (Option Bool) := do
  let senderId ← Layout.field .senderId
  if senderId = .str currentUserId then some <$> Layout.bool .isSeen else pure none

/-- `MessageCardSubTitle`. -/
def messageCardSubTitle (currentUserId blockBy name : String) : Layout (Option Bool × SubTitle) := do
  let tick ← ownTick currentUserId
  let lastMessage ← Layout.text .lastMessage
  let text ← messageText lastMessage (name ++ " Media Share") blockBy
  pure (tick, .text text)

/-- `GroupCardSubTitle`. -/
def groupCardSubTitle (currentUserId name : String) : Layout SubTitle := do
  let lastMessage ← Layout.text .lastMessage
  if contains lastMessage ".gif" then pure .gif
  else if contains lastMessage "media" then pure (.text (name ++ " Media Share"))
  else if isFile lastMessage then pure (.text (fileName lastMessage))
  else if lastMessage = "" then do
    let senderId ← Layout.field .senderId
    if senderId = .str currentUserId then do
      let group ← Layout.userName .group
      pure (.text ("You Create this group " ++ group))
    else do
      let sender ← Layout.userName .sender
      pure (.text (sender ++ " added you"))
  else pure (.text lastMessage)

/-! ## The cards -/

/-- `MessageCard`. -/
def messageCard (currentUserId blockBy name : String) : Layout View := do
  let _ ← Layout.text .senderId
  let _ ← Layout.text .chatId
  let (time, badge) ← trailingLayout currentUserId
  let lastMessage ← Layout.field .lastMessage
  if lastMessage = .null then pure { title := name, time, badge, subtitle := .empty }
  else do
    let lastMessage ← Layout.text .lastMessage
    if contains lastMessage ".gif" then pure { title := name, time, badge, subtitle := .gif }
    else do
      let (tick, subtitle) ← messageCardSubTitle currentUserId blockBy name
      pure { title := name, time, badge, tick, subtitle }

/-- `ReceiverMessageCard`. -/
def receiverMessageCard (currentUserId blockBy name : String) : Layout View := do
  let _ ← Layout.text .receiverId
  let _ ← Layout.text .chatId
  let (time, badge) ← trailingLayout currentUserId
  let lastMessage ← Layout.field .lastMessage
  if lastMessage = .null then pure { title := name, time, badge, subtitle := .empty }
  else do
    let (tick, subtitle) ← subTitleLayout blockBy
    pure { title := name, time, badge, tick := some tick, subtitle }

/-- `GroupMessageCard`; the title is the name of the group, and `name` that of the sender. -/
def groupMessageCard (currentUserId title name : String) : Layout View := do
  let _ ← Layout.text .groupId
  let _ ← Layout.text .senderId
  let time ← updateTime
  let lastMessage ← Layout.field .lastMessage
  if lastMessage = .null then pure { title, time, subtitle := .empty }
  else do
    let subtitle ← groupCardSubTitle currentUserId name
    pure { title, time, subtitle }

/-- `BroadCastMessageCard`. -/
def broadCastMessageCard : Layout View := do
  let selectedContact ← Layout.list .receiverId
  let _ ← Layout.text .broadcastId
  let lastMessage ← Layout.text .lastMessage
  let time ← updateTime
  pure { title := toString selectedContact.length ++ " recipient", time,
         subtitle := .text lastMessage }

/-- What a card is built from the document: `title` is the name in the group document that
the card fetches, `name` that in the user document. -/
def Card.build (currentUserId blockBy title name : String) : Card → Layout (Option View)
  | .receiverMessageCard => some <$> FlutterTheme.receiverMessageCard currentUserId blockBy name
  | .messageCard => some <$> FlutterTheme.messageCard currentUserId blockBy name
  | .groupMessageCard => some <$> FlutterTheme.groupMessageCard currentUserId title name
  | .broadCastMessageCard => some <$> FlutterTheme.broadCastMessageCard
  | .container => pure none

end FlutterTheme
