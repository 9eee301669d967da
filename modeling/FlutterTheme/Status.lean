import FlutterTheme.EventLoop
import FlutterTheme.Heap
import FlutterTheme.DocStore
import FlutterTheme.IntParse

/-!
# Statuses that expire after a day

The collection `status`, which has a document with a list of photos for every user.

* `addStatus` — a photo is appended to the list, or a document is made for it.
* `getPhotoUrl` — the photos of the last 24 hours are collected in `newPhotoList`, a field
  of `FirebaseCommonController`.
* `statusDeleteAfter24Hours` — the list of the signed-in user is replaced by what was
  collected, or the document is deleted.

A `PhotoUrl` is an object: `List.remove` takes out an object, not one with the same fields,
and `Status.fromJson` makes new ones.

`World.latest`, `World.added` and `World.examinations` are history variables, and so is
`FirebaseCommonController.user`: no handler reads them.
-/

namespace FlutterTheme.Statuses

open EventLoop DocStore

/-! ## Documents -/

/-- The collections. -/
inductive Path : Type where
  | status : Path
  deriving DecidableEq, Repr

/-- The field names of a status document. -/
inductive Key : Type where
  | uid | username | phoneNumber | photoUrl | createdAt | profilePic | isSeenByOwn
  deriving DecidableEq, Repr

/-- `PhotoUrl`, as it is stored. -/
structure PhotoUrl where
  image : Option String := none
  timestamp : Option String := none
  statusType : Option String := none
  statusText : Option String := none
  statusBgColor : Option String := none
  isExpired : Option Bool := none
  deriving DecidableEq, Repr

/-- The values stored in a status document. -/
inductive Value : Type where
  | null : Value
  | bool : Bool → Value
  | str : String → Value
  | photos : List PhotoUrl → Value
  deriving DecidableEq, Repr

/-- The fields of a document. -/
abbrev Data : Type := Fields Key Value

/-- A document with its identifier. -/
abbrev Document : Type := Doc Key Value

namespace Value

/-- A `String?` as it is stored. -/
def ofString : Option String → Value
  | none => null
  | some s => str s

/-- A `bool?` as it is stored. -/
def ofBool : Option Bool → Value
  | none => null
  | some b => bool b

/-- A field that is read as a `String?`. -/
def toString? : Option Value → Option String
  | some (str s) => some s
  | _ => none

/-- A field that is read as a `bool?`. -/
def toBool? : Option Value → Option Bool
  | some (bool b) => some b
  | _ => none

/-- A field that is read as a list of photos, null if it is not there. -/
def toPhotos? : Option Value → Option (List PhotoUrl)
  | some (photos l) => some l
  | _ => none

end Value

/-- `Status`. -/
structure Status where
  uid : Option String
  username : Option String
  phoneNumber : Option String
  photoUrl : Option (List PhotoUrl)
  createdAt : Option String
  profilePic : Option String
  isSeenByOwn : Option Bool
  deriving DecidableEq, Repr

/-- `Status.fromJson`. -/
def Status.fromJson (json : Data) : Status where
  uid := Value.toString? (json .uid)
  username := Value.toString? (json .username)
  phoneNumber := Value.toString? (json .phoneNumber)
  photoUrl := Value.toPhotos? (json .photoUrl)
  createdAt := Value.toString? (json .createdAt)
  profilePic := Value.toString? (json .profilePic)
  isSeenByOwn := Value.toBool? (json .isSeenByOwn)

/-- `Status.toJson`; a list of photos that is null is left out. -/
def Status.toJson (s : Status) : Data :=
  .ofList ([
    (.uid, .ofString s.uid),
    (.username, .ofString s.username),
    (.phoneNumber, .ofString s.phoneNumber),
    (.createdAt, .ofString s.createdAt),
    (.profilePic, .ofString s.profilePic),
    (.isSeenByOwn, .ofBool s.isSeenByOwn)] ++
    match s.photoUrl with
    | some photos => [(.photoUrl, .photos photos)]
    | none => [])

/-! ## Timestamps -/

/-- `DateTime.fromMillisecondsSinceEpoch(int.parse(photo.timestamp.toString()))`, in
milliseconds; an error if the timestamp is no number, or beyond what a `DateTime` holds. -/
def timestampOf (photo : PhotoUrl) : Option ℤ := do
  let millis ← intParse (photo.timestamp.getD "null")
  if millis.natAbs ≤ 8640000000000000 then some millis else none

/-- `Duration.inHours` of a number of microseconds. -/
def inHours (micros : ℤ) : ℤ := micros.tdiv 3600000000

/-- Whether a photo with the given timestamp is 24 hours old or older. -/
def isOld (date : ℕ) (millis : ℤ) : Bool := 24 ≤ inHours (date - millis * 1000)

/-! ## The world -/

/-- A `PhotoUrl` object. -/
structure Photo where
  ref : ℕ
  photo : PhotoUrl
  deriving DecidableEq, Repr

/-- `FirebaseCommonController`. -/
structure FirebaseCommonController where
  /-- the user it was made for -/
  user : Option String := none
  newPhotoList : List Photo := []
  deriving Inhabited

/-- The map kept as `session.user`. -/
structure User where
  id : String
  name : Option String := none
  phone : Option String := none
  image : Option String := none
  deriving DecidableEq, Repr

/-- A photo that was passed to `addStatus`. -/
structure Added where
  user : String
  photo : PhotoUrl
  deriving DecidableEq, Repr

/-- A `getPhotoUrl` that has returned. -/
structure Examination where
  /-- the controller -/
  ctrl : ℕ
  /-- `newPhotoList` before -/
  before : List Photo
  /-- the photos, with the instants at which they were examined -/
  photos : List (Photo × ℕ)
  /-- the list that was returned -/
  returned : List Photo
  deriving DecidableEq

/-- Firestore, the devices, and the history variables. -/
structure World where
  store : Store Path Key Value
  /-- `session.user` of each device; null if nobody is signed in -/
  session : ℕ → Option User
  ctrls : Heap FirebaseCommonController
  /-- how many `PhotoUrl` objects have been made -/
  nextRef : ℕ
  /-- the latest reading of a clock -/
  latest : ℕ
  /-- the photos passed to `addStatus`, newest first -/
  added : List Added
  /-- the calls of `getPhotoUrl`, newest first -/
  examinations : List Examination

/-- Some statuses are stored, and there is no controller. -/
def World.initial (store : Store Path Key Value) (session : ℕ → Option User) : World where
  store := store
  session := session
  ctrls := .empty
  nextRef := 0
  latest := 0
  added := []
  examinations := []

/-- A handler, or a part of one; it works on the user who has started it. -/
abbrev Handler (α : Type) : Type := Async World (Option String) α

/-! ## The device and Firestore -/

/-- `DateTime.now()`. -/
def now : Handler ℕ := Async.sync fun t w => (t.now, { w with latest := max w.latest t.now })

/-- `storage.read(session.user)`. -/
def sessionUser (d : ℕ) : Handler (Option User) := Async.get fun w => w.session d

/-- The documents of a user. -/
def World.docsOf (w : World) (uid : String) : List Document :=
  w.store.query .status (Fields.isEqualTo .uid (.str uid))

/-- `collection(status).where("uid", isEqualTo: uid).get()`. -/
def getStatus (uid : String) : Handler (List Document) := Async.remote fun _ w => (w.docsOf uid, w)

/-- The field that holds the photos. -/
def photosField (photos : List PhotoUrl) : Data := .ofList [(.photoUrl, .photos photos)]

/-- `collection(status).doc(id).update({'photoUrl': photos})`; it fails if there is no such
document. -/
def updatePhotos (id : DocId) (photos : List PhotoUrl) : Handler Unit := do
  let found ← Async.remote fun _ w =>
    ((w.store.doc? .status id).isSome,
      { w with store := w.store.update .status id (photosField photos) })
  if found then pure () else Async.throw

/-- `collection(status).add(status.toJson())`. -/
def addDocument (s : Status) : Handler Unit :=
  Async.remote fun t w => ((), { w with store := w.store.add .status t.pos s.toJson })

/-- `collection(status).doc(id).delete()`. -/
def deleteDocument (id : DocId) : Handler Unit :=
  Async.remote fun _ w => ((), { w with store := w.store.delete .status id })

/-- Read `newPhotoList`. -/
def newPhotoList (k : ℕ) : Handler (List Photo) := Async.get fun w => (w.ctrls.get k).newPhotoList

/-- Change `newPhotoList`. -/
def modifyPhotoList (k : ℕ) (f : List Photo → List Photo) : Handler Unit :=
  Async.modify fun w => { w with
    ctrls := w.ctrls.modify k fun s => { s with newPhotoList := f s.newPhotoList } }

/-- New objects, numbered from `ref` on. -/
def objects : ℕ → List PhotoUrl → List Photo
  | _, [] => []
  | ref, photo :: photos => ⟨ref, photo⟩ :: objects (ref + 1) photos

/-- `PhotoUrl.fromJson` of every photo. -/
def makePhotos (photos : List PhotoUrl) : Handler (List Photo) := Async.sync fun _ w =>
  (objects w.nextRef photos, { w with nextRef := w.nextRef + photos.length })

/-! ## Adding a status -/

/-- The photo of a new status; `imageUrl!` is an error if it is null. -/
def newPhoto (uid : String) (imageUrl : Option String) (statusType : String)
    (statusText statusBgColor : Option String) : Handler PhotoUrl := do
  match (if statusType = "text" then some "" else imageUrl) with
  | none => Async.throw
  | some image =>
    let date ← now
    let photo : PhotoUrl := {
      image := some image
      timestamp := some (toString (date / 1000))
      isExpired := some false
      statusType := some statusType
      statusText := statusText
      statusBgColor := statusBgColor }
    Async.modify fun w => { w with added := ⟨uid, photo⟩ :: w.added }
    pure photo

/-- `StatusFirebaseApi.addStatus`. -/
def addStatus (d : ℕ) (imageUrl : Option String) (statusType : String)
    (statusText statusBgColor : Option String) : Handler Unit := do
  let user ← sessionUser d
  match user with
  | none => Async.throw
  | some user =>
    let statusesSnapshot ← getStatus user.id
    match statusesSnapshot.head? with
    | some doc =>
      match (Status.fromJson doc.data).photoUrl with
      | none => Async.throw
      | some statusImageUrls =>
        let photo ← newPhoto user.id imageUrl statusType statusText statusBgColor
        updatePhotos doc.id (statusImageUrls ++ [photo])
    | none =>
      let photo ← newPhoto user.id imageUrl statusType statusText statusBgColor
      let createdAt ← now
      addDocument {
        username := user.name
        phoneNumber := user.phone
        photoUrl := some [photo]
        createdAt := some (toString (createdAt / 1000))
        profilePic := user.image
        uid := some user.id
        isSeenByOwn := some false }

/-! ## Removing old photos -/

/-- One step of the loop of `getPhotoUrl`. -/
def collect (list : List Photo) (p : Photo) (old : Bool) : List Photo :=
  if old then list.eraseP (·.ref = p.ref) else list ++ [p]

/-- The loop of `getPhotoUrl`, with the instants at which the photos are examined. -/
def examine (k : ℕ) : List Photo → Handler (List (Photo × ℕ))
  | [] => pure []
  | p :: photos =>
    match timestampOf p.photo with
    | none => Async.throw
    | some millis => do
      let date ← now
      modifyPhotoList k fun list => collect list p (isOld date millis)
      let rest ← examine k photos
      pure ((p, date) :: rest)

/-- `FirebaseCommonController.getPhotoUrl`; what it returns is `newPhotoList` itself. -/
def getPhotoUrl (k : ℕ) (photoUrl : List Photo) : Handler Unit := do
  let before ← newPhotoList k
  let photos ← examine k photoUrl
  Async.modify fun w => { w with
    examinations := ⟨k, before, photos, (w.ctrls.get k).newPhotoList⟩ :: w.examinations }

/-- What follows `getPhotoUrl`: the document is deleted, or gets the list. -/
def replacePhotos (uid : String) (k : ℕ) (id : DocId) : Handler Unit := do
  let photoUrl ← newPhotoList k
  if photoUrl = [] then
    Async.spawn (deleteDocument id)
  else do
    let statusesSnapshot ← getStatus uid
    match statusesSnapshot.head? with
    | none => Async.throw
    | some doc =>
      let photoUrl ← newPhotoList k
      updatePhotos doc.id (photoUrl.map Photo.photo)

/-- What follows the query of `statusDeleteAfter24Hours`. -/
def removeOld (uid : String) (k : ℕ) (docs : List Document) : Handler Unit :=
  match docs.head? with
  | none => pure ()
  | some doc =>
    match (Status.fromJson doc.data).photoUrl with
    | none => Async.throw
    | some photos => do
      let photoUrl ← makePhotos photos
      getPhotoUrl k photoUrl
      Async.pause
      replacePhotos uid k doc.id

/-- `FirebaseCommonController.statusDeleteAfter24Hours`. -/
def statusDeleteAfter24Hours (d k : ℕ) : Handler Unit := do
  let user ← sessionUser d
  match user with
  | none => pure ()
  | some user => Async.spawn do
    let value ← getStatus user.id
    removeOld user.id k value

/-- `Get.put(FirebaseCommonController())` where none is registered. -/
def newController (d : ℕ) : Handler ℕ := Async.sync fun _ w =>
  (w.ctrls.size, { w with ctrls := w.ctrls.alloc { user := (w.session d).map User.id } })

/-- `statusDeleteAfter24Hours` of a new controller. -/
def cleanUp (d : ℕ) : Handler Unit := do
  let k ← newController d
  statusDeleteAfter24Hours d k

/-! ## The system -/

/-- What can happen. -/
inductive Action : Type where
  /-- another user signs in, or nobody -/
  | signIn (d : ℕ) (user : Option User)
  | addStatus (d : ℕ) (imageUrl : Option String) (statusType : String)
      (statusText statusBgColor : Option String)
  /-- `PhotoUrl` objects are made, to be passed to `getPhotoUrl` -/
  | makePhotos (photos : List PhotoUrl)
  | getPhotoUrl (k : ℕ) (photoUrl : List Photo)
  | statusDeleteAfter24Hours (d k : ℕ)
  /-- the same, with a new controller -/
  | cleanUp (d : ℕ)
  deriving DecidableEq

/-- The handler of an action. -/
def Action.body : Action → Handler Unit
  | signIn d user => Async.modify fun w => { w with session := Function.update w.session d user }
  | addStatus d imageUrl statusType statusText statusBgColor =>
    Statuses.addStatus d imageUrl statusType statusText statusBgColor
  | makePhotos photos => do
    let _ ← Statuses.makePhotos photos
    pure ()
  | getPhotoUrl k photoUrl => Statuses.getPhotoUrl k photoUrl
  | statusDeleteAfter24Hours d k => Statuses.statusDeleteAfter24Hours d k
  | cleanUp d => Statuses.cleanUp d

/-- A handler works on the user who is signed in. -/
def Action.scope (a : Action) (w : World) : Option String :=
  match a with
  | addStatus d _ _ _ _ | statusDeleteAfter24Hours d _ | cleanUp d => (w.session d).map User.id
  | signIn _ _ | makePhotos _ | getPhotoUrl _ _ => none

/-- A controller has to exist, and its list holds each object at most once, of those that
have been made. -/
def Action.enabled (w : World) : Action → Prop
  | signIn _ _ | addStatus _ _ _ _ _ | cleanUp _ | makePhotos _ => True
  | getPhotoUrl k photoUrl => k < w.ctrls.size ∧ (photoUrl.map Photo.ref).Nodup ∧
    ∀ p ∈ photoUrl, p.ref < w.nextRef
  | statusDeleteAfter24Hours _ k => k < w.ctrls.size

instance (w : World) : (a : Action) → Decidable (a.enabled w)
  | .signIn _ _ | .addStatus _ _ _ _ _ | .cleanUp _ | .makePhotos _ =>
    inferInstanceAs (Decidable True)
  | .getPhotoUrl k photoUrl => inferInstanceAs (Decidable (k < w.ctrls.size ∧
    (photoUrl.map Photo.ref).Nodup ∧ ∀ p ∈ photoUrl, p.ref < w.nextRef))
  | .statusDeleteAfter24Hours _ k => inferInstanceAs (Decidable (k < w.ctrls.size))

/-- The devices of all users over one Firestore. -/
def statuses : System World (Option String) Action where
  scope := Action.scope
  body := Action.body
  enabled := Action.enabled

instance (c : Config World (Option String)) : (e : Event Action) → Decidable (statuses.admits c e)
  | .call a _ => inferInstanceAs (Decidable (a.enabled c.world))
  | .resume _ _ => inferInstanceAs (Decidable True)

end FlutterTheme.Statuses
