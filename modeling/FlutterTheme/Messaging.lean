import FlutterTheme.Broadcast

/-!
# The messaging system

All handlers that users can start, put together: `messaging` is the system whose
runs are the runs of any number of clients. A handler of a screen can be started
as soon as the screen exists and for as long as its controller lives, so the runs
include those in which a handler is started on a screen that is being left.

`Action.enabled` has the conditions the user interface imposes: a contact is
somebody else, the sheet that creates a group belongs to a group screen.
-/

namespace FlutterTheme

open EventLoop DocStore

/-- The key of an inbox entry under which a card finds the user to chat with. -/
def Card.peer : Card → Option Key
  | .receiverMessageCard => some .receiverId
  | .messageCard => some .senderId
  | _ => none

/-- What a tap on a card does. -/
def Card.onTap (d : ℕ) (document : Document) : Card → Call Unit
  | .receiverMessageCard => tapMessageCard d document .receiverId
  | .messageCard => tapMessageCard d document .senderId
  | .groupMessageCard => tapGroupCard d document
  | .broadCastMessageCard => tapBroadcastCard d document
  | .container => pure ()

/-- A tap on the card that `LoadUser` shows for an entry of the inbox. -/
def tapCard (d : ℕ) (id : DocId) : Call Unit := do
  let user ← sessionUser d
  let document ← getDoc (.chats user.id) id
  match document with
  | none => pure ()
  | some document =>
    match loadUser document.data user.id with
    | some card => card.onTap d document
    | none => Async.throw

/-- What a user can do. -/
inductive Action : Type where
  | userRegister (user : UserData) (email : String) (pushToken : Option String)
  /-- a device opens a contact -/
  | saveContact (d : ℕ) (contact : UserContactModel) (isRegister : Bool)
  /-- a device opens an entry of the inbox -/
  | tapCard (d : ℕ) (entry : DocId)
  | onSendMessage (c : ℕ) (content : String) (type : MessageType)
  | blockUser (c : ℕ)
  /-- a message of the chat is deleted -/
  | deleteAlert (c : ℕ) (message : DocId)
  /-- the screen for a new group or broadcast opens -/
  | openCreate (d : ℕ) (isGroup : Bool)
  | editGroup (g : ℕ) (name : String) (imageFile : Option String)
  | selectUserTap (g : ℕ) (value : UserData)
  | addGroupBottomSheet (g : ℕ)
  | createGroup (g : ℕ)
  /-- a message to a group -/
  | sendToGroup (g : ℕ) (content : String) (type : MessageType)
  /-- a message to a broadcast -/
  | sendToBroadcast (b : ℕ) (content : String) (type : MessageType)

namespace Action

/-- The handler of an action. -/
def body : Action → Call Unit
  | userRegister user email pushToken => FlutterTheme.userRegister user email pushToken
  | saveContact d contact isRegister => FlutterTheme.saveContact d contact isRegister
  | tapCard d entry => FlutterTheme.tapCard d entry
  | onSendMessage c content type => FlutterTheme.onSendMessage c content type
  | blockUser c => FlutterTheme.blockUser c
  | deleteAlert c message => FlutterTheme.deleteAlert c message
  | openCreate d isGroup => FlutterTheme.openCreate d isGroup
  | editGroup g name imageFile => FlutterTheme.editGroup g name imageFile
  | selectUserTap g value => FlutterTheme.selectUserTap g value
  | addGroupBottomSheet g => FlutterTheme.addGroupBottomSheet g
  | createGroup g => FlutterTheme.createGroup g
  | sendToGroup g content type => GroupChat.onSendMessage g content type
  | sendToBroadcast b content type => BroadcastChat.onSendMessage b content type

/-- When an action can be started: its screen exists, and a contact is not the
user of the device. -/
def enabled (w : World) : Action → Prop
  | userRegister _ _ _ => True
  | saveContact d contact _ => contact.uid ≠ (w.session d).id
  | tapCard _ _ => True
  | onSendMessage c _ _ => c < w.chatCtrl.size
  | blockUser c => c < w.chatCtrl.size
  | deleteAlert c _ => c < w.chatCtrl.size
  | openCreate _ _ => True
  | editGroup g _ _ => g < w.createCtrl.size
  | selectUserTap g value =>
    g < w.createCtrl.size ∧ value.id ≠ (w.session (w.createCtrl.get g).device).id
  | addGroupBottomSheet g => g < w.createCtrl.size
  | createGroup g => g < w.createCtrl.size ∧ (w.createCtrl.get g).isGroup = true
  | sendToGroup g _ _ => g < w.groupCtrl.size
  | sendToBroadcast b _ _ => b < w.broadcastCtrl.size

instance (w : World) : (a : Action) → Decidable (a.enabled w)
  | userRegister _ _ _ | tapCard _ _ | openCreate _ _ => inferInstanceAs (Decidable True)
  | saveContact d contact _ => inferInstanceAs (Decidable (contact.uid ≠ (w.session d).id))
  | onSendMessage c _ _ | blockUser c | deleteAlert c _ =>
    inferInstanceAs (Decidable (c < w.chatCtrl.size))
  | editGroup g _ _ | addGroupBottomSheet g => inferInstanceAs (Decidable (g < w.createCtrl.size))
  | selectUserTap g value => inferInstanceAs (Decidable
      (g < w.createCtrl.size ∧ value.id ≠ (w.session (w.createCtrl.get g).device).id))
  | createGroup g => inferInstanceAs (Decidable
      (g < w.createCtrl.size ∧ (w.createCtrl.get g).isGroup = true))
  | sendToGroup g _ _ => inferInstanceAs (Decidable (g < w.groupCtrl.size))
  | sendToBroadcast b _ _ => inferInstanceAs (Decidable (b < w.broadcastCtrl.size))

end Action

/-- All clients over one Firestore. -/
def messaging : System World Scope Action where
  scope _ _ := .idle
  body := Action.body
  enabled := Action.enabled

instance (c : Config World Scope) : (e : Event Action) → Decidable (messaging.admits c e)
  | .call a _ => inferInstanceAs (Decidable (a.enabled c.world))
  | .resume _ _ => inferInstanceAs (Decidable True)

/-- A configuration of the messaging system. -/
abbrev Clients : Type := Config World Scope

/-- Nothing is stored, no screen is open and no handler is running. -/
def Clients.initial (session : ℕ → UserData) : Clients := { world := World.initial session }

end FlutterTheme
