import FlutterTheme.Duties
import FlutterTheme.Status

/-!
# Statuses as maps

A status is stored as a map, with a list of maps for its photos. Adding a photo reads the whole list
into objects and writes it back.

* `PhotoUrl.fromJson`, `PhotoUrl.toJson`, `Status.fromJson`, `Status.toJson` — the four functions
  between objects and maps; they are inverse to each other (`fromJson_toJson`, `toJson_fromJson`).
* `addStatus_preserves` — a photo is added, and all that is stored stays as it is.
-/

namespace FlutterTheme.StatusCodec

open EventLoop DocStore
open Statuses (PhotoUrl Status User)

/-! ## Maps -/

/-- A value that is no list. -/
inductive Scalar : Type where
  | null : Scalar
  | bool : Bool → Scalar
  | str : String → Scalar
  deriving DecidableEq, Repr

/-- A photo as it is stored. -/
abbrev PhotoMap : Type := Fields String Scalar

/-- The values of the fields of a status. -/
inductive Value : Type where
  | scalar : Scalar → Value
  | photos : List PhotoMap → Value

/-- A status as it is stored. -/
abbrev StatusMap : Type := Fields String Value

namespace Scalar

/-- A `String?` as it is stored. -/
def ofString : Option String → Scalar
  | none => null
  | some s => str s

/-- A `bool?` as it is stored. -/
def ofBool : Option Bool → Scalar
  | none => null
  | some b => bool b

/-- `json[key]` as a `String?`; it throws if it is something else. -/
def toString? : Option Scalar → Option (Option String)
  | none | some null => some none
  | some (str s) => some (some s)
  | some (bool _) => none

/-- `json[key]` as a `bool?`. -/
def toBool? : Option Scalar → Option (Option Bool)
  | none | some null => some none
  | some (bool b) => some (some b)
  | some (str _) => none

@[simp] theorem toString?_ofString (s : Option String) : toString? (some (ofString s)) = some s := by
  cases s <;> rfl

@[simp] theorem toBool?_ofBool (b : Option Bool) : toBool? (some (ofBool b)) = some b := by
  cases b <;> rfl

end Scalar

namespace Value

/-- `json[key]` as a `String?`. -/
def toString? : Option Value → Option (Option String)
  | none => some none
  | some (scalar a) => Scalar.toString? (some a)
  | some (photos _) => none

/-- `json[key]` as a `bool?`. -/
def toBool? : Option Value → Option (Option Bool)
  | none => some none
  | some (scalar a) => Scalar.toBool? (some a)
  | some (photos _) => none

/-- A `String?` as it is stored. -/
def ofString (s : Option String) : Value := scalar (.ofString s)

/-- A `bool?` as it is stored. -/
def ofBool (b : Option Bool) : Value := scalar (.ofBool b)

@[simp] theorem toString?_ofString (s : Option String) : toString? (some (ofString s)) = some s :=
  Scalar.toString?_ofString s

@[simp] theorem toBool?_ofBool (b : Option Bool) : toBool? (some (ofBool b)) = some b :=
  Scalar.toBool?_ofBool b

end Value

/-! ## The four functions -/

/-- `PhotoUrl.fromJson`; `none` is an error. -/
def PhotoUrl.fromJson (json : PhotoMap) : Option PhotoUrl := do
  let image ← Scalar.toString? (json "image")
  let timestamp ← Scalar.toString? (json "timestamp")
  let isExpired ← Scalar.toBool? (json "isExpired")
  let statusType ← Scalar.toString? (json "statusType")
  let statusText ← Scalar.toString? (json "statusText")
  let statusBgColor ← Scalar.toString? (json "statusBgColor")
  some { image, timestamp, isExpired, statusType, statusText, statusBgColor }

/-- `PhotoUrl.toJson`. -/
def PhotoUrl.toJson (p : PhotoUrl) : PhotoMap :=
  .ofList [
    ("image", .ofString p.image),
    ("timestamp", .ofString p.timestamp),
    ("isExpired", .ofBool p.isExpired),
    ("statusType", .ofString p.statusType),
    ("statusText", .ofString p.statusText),
    ("statusBgColor", .ofString p.statusBgColor)]

/-- `json['photoUrl']`, read into objects. -/
def photosFromJson : Option Value → Option (Option (List PhotoUrl))
  | none | some (.scalar .null) => some none
  | some (.photos l) => (l.mapM PhotoUrl.fromJson).map some
  | some (.scalar _) => none

/-- `Status.fromJson`. -/
def Status.fromJson (json : StatusMap) : Option Status := do
  let uid ← Value.toString? (json "uid")
  let username ← Value.toString? (json "username")
  let phoneNumber ← Value.toString? (json "phoneNumber")
  let createdAt ← Value.toString? (json "createdAt")
  let profilePic ← Value.toString? (json "profilePic")
  let isSeenByOwn ← Value.toBool? (json "isSeenByOwn")
  let photoUrl ← photosFromJson (json "photoUrl")
  some { uid, username, phoneNumber, photoUrl, createdAt, profilePic, isSeenByOwn }

/-- `Status.toJson`; a list of photos that is null is left out. -/
def Status.toJson (s : Status) : StatusMap :=
  .ofList ([
    ("uid", .ofString s.uid),
    ("username", .ofString s.username),
    ("phoneNumber", .ofString s.phoneNumber),
    ("createdAt", .ofString s.createdAt),
    ("profilePic", .ofString s.profilePic),
    ("isSeenByOwn", .ofBool s.isSeenByOwn)] ++
    match s.photoUrl with
    | some photos => [("photoUrl", .photos (photos.map PhotoUrl.toJson))]
    | none => [])

/-! ## What is stored -/

/-- The map is one of a photo: it has all six fields, any of which may be null, and no other. -/
structure PhotoStored (m : PhotoMap) : Prop where
  text : ∀ key ∈ ["image", "timestamp", "statusType", "statusText", "statusBgColor"],
    ∃ s, m key = some (.ofString s)
  isExpired : ∃ b, m "isExpired" = some (.ofBool b)
  other : ∀ key, key ∉ ["image", "timestamp", "statusType", "statusText", "statusBgColor",
    "isExpired"] → m key = none

/-- The map is one of a status; the list of photos may be missing. -/
structure Stored (m : StatusMap) : Prop where
  text : ∀ key ∈ ["uid", "username", "phoneNumber", "createdAt", "profilePic"],
    ∃ s, m key = some (.ofString s)
  isSeenByOwn : ∃ b, m "isSeenByOwn" = some (.ofBool b)
  photoUrl : m "photoUrl" = none ∨ ∃ l, m "photoUrl" = some (.photos l) ∧ ∀ p ∈ l, PhotoStored p
  other : ∀ key, key ∉ ["uid", "username", "phoneNumber", "createdAt", "profilePic",
    "isSeenByOwn", "photoUrl"] → m key = none

/-- The map of a photo has a text or null under its five keys, a flag under the sixth and nothing
else. -/
theorem photoStored_toJson (p : PhotoUrl) : PhotoStored (PhotoUrl.toJson p) where
  text key hkey := by
    simp only [List.mem_cons, List.not_mem_nil, or_false] at hkey
    rcases hkey with rfl | rfl | rfl | rfl | rfl
    · exact ⟨p.image, rfl⟩
    · exact ⟨p.timestamp, rfl⟩
    · exact ⟨p.statusType, rfl⟩
    · exact ⟨p.statusText, rfl⟩
    · exact ⟨p.statusBgColor, rfl⟩
  isExpired := ⟨p.isExpired, rfl⟩
  other key hkey := by
    simp only [List.mem_cons, List.not_mem_nil, or_false, not_or] at hkey
    obtain ⟨h₁, h₂, h₃, h₄, h₅, h₆⟩ := hkey
    simp [PhotoUrl.toJson, Fields.ofList, *]

/-- What is written for an object is the map of a status. -/
theorem stored_toJson (s : Status) : Stored (Status.toJson s) where
  text key hkey := by
    simp only [List.mem_cons, List.not_mem_nil, or_false] at hkey
    rcases hkey with rfl | rfl | rfl | rfl | rfl
    · exact ⟨s.uid, rfl⟩
    · exact ⟨s.username, rfl⟩
    · exact ⟨s.phoneNumber, rfl⟩
    · exact ⟨s.createdAt, rfl⟩
    · exact ⟨s.profilePic, rfl⟩
  isSeenByOwn := ⟨s.isSeenByOwn, rfl⟩
  photoUrl := by
    cases hs : s.photoUrl with
    | none => exact .inl (by simp [Status.toJson, hs, Fields.ofList])
    | some photos =>
      refine .inr ⟨photos.map PhotoUrl.toJson, by simp [Status.toJson, hs, Fields.ofList], ?_⟩
      intro m hm
      obtain ⟨p, -, rfl⟩ := List.mem_map.mp hm
      exact photoStored_toJson p
  other key hkey := by
    simp only [List.mem_cons, List.not_mem_nil, or_false, not_or] at hkey
    obtain ⟨h₁, h₂, h₃, h₄, h₅, h₆, h₇⟩ := hkey
    cases hs : s.photoUrl <;> simp [Status.toJson, Fields.ofList, *]

/-! ## Objects and maps -/

theorem PhotoUrl.fromJson_toJson (p : PhotoUrl) : PhotoUrl.fromJson (PhotoUrl.toJson p) = some p := by
  simp [PhotoUrl.fromJson, PhotoUrl.toJson, Fields.ofList]

theorem mapM_fromJson_toJson : ∀ l : List PhotoUrl,
    (l.map PhotoUrl.toJson).mapM PhotoUrl.fromJson = some l
  | [] => rfl
  | p :: l => by
    rw [List.map_cons, List.mapM_cons, PhotoUrl.fromJson_toJson, mapM_fromJson_toJson l]
    rfl

/-- **An object is read back** from the map it is written to. -/
theorem Status.fromJson_toJson (s : Status) : Status.fromJson (Status.toJson s) = some s := by
  obtain ⟨uid, username, phoneNumber, photoUrl, createdAt, profilePic, isSeenByOwn⟩ := s
  cases photoUrl with
  | none => simp [Status.fromJson, Status.toJson, Fields.ofList, photosFromJson]
  | some l =>
    have hphotos : photosFromJson (some (.photos (l.map PhotoUrl.toJson))) = some (some l) := by
      rw [photosFromJson, mapM_fromJson_toJson]
      rfl
    simp [Status.fromJson, Status.toJson, Fields.ofList, -List.mapM_map, hphotos]

/-- A map of a photo is written back as it was read. -/
theorem PhotoUrl.toJson_fromJson {m : PhotoMap} (h : PhotoStored m) :
    ∃ p, PhotoUrl.fromJson m = some p ∧ PhotoUrl.toJson p = m := by
  obtain ⟨image, himage⟩ := h.text "image" (by simp)
  obtain ⟨timestamp, htimestamp⟩ := h.text "timestamp" (by simp)
  obtain ⟨statusType, htype⟩ := h.text "statusType" (by simp)
  obtain ⟨statusText, htext⟩ := h.text "statusText" (by simp)
  obtain ⟨statusBgColor, hcolor⟩ := h.text "statusBgColor" (by simp)
  obtain ⟨isExpired, hexpired⟩ := h.isExpired
  refine ⟨⟨image, timestamp, statusType, statusText, statusBgColor, isExpired⟩, ?_, ?_⟩
  · simp [PhotoUrl.fromJson, himage, htimestamp, htype, htext, hcolor, hexpired]
  · funext key
    simp only [PhotoUrl.toJson, Fields.ofList]
    split_ifs with h₁ h₂ h₃ h₄ h₅ h₆
    · rw [h₁, himage]
    · rw [h₂, htimestamp]
    · rw [h₃, hexpired]
    · rw [h₄, htype]
    · rw [h₅, htext]
    · rw [h₆, hcolor]
    · exact (h.other key (by simp [*])).symm

/-- A list of photo maps is read as a whole and written back map by map. By induction on the list.
-/
theorem mapM_fromJson {l : List PhotoMap} (h : ∀ m ∈ l, PhotoStored m) :
    ∃ photos, l.mapM PhotoUrl.fromJson = some photos ∧ photos.map PhotoUrl.toJson = l := by
  induction l with
  | nil => exact ⟨[], rfl, rfl⟩
  | cons m l ih =>
    obtain ⟨p, hp, hm⟩ := PhotoUrl.toJson_fromJson (h m (List.mem_cons_self ..))
    obtain ⟨photos, hphotos, hl⟩ := ih fun m' hm' => h m' (List.mem_cons_of_mem _ hm')
    refine ⟨p :: photos, ?_, ?_⟩
    · rw [List.mapM_cons, hp, hphotos]
      rfl
    · rw [List.map_cons, hm, hl]

/-- **A map is written back** as it was read. -/
theorem Status.toJson_fromJson {m : StatusMap} (h : Stored m) :
    ∃ s, Status.fromJson m = some s ∧ Status.toJson s = m := by
  obtain ⟨uid, huid⟩ := h.text "uid" (by simp)
  obtain ⟨username, husername⟩ := h.text "username" (by simp)
  obtain ⟨phoneNumber, hphone⟩ := h.text "phoneNumber" (by simp)
  obtain ⟨createdAt, hcreated⟩ := h.text "createdAt" (by simp)
  obtain ⟨profilePic, hpic⟩ := h.text "profilePic" (by simp)
  obtain ⟨isSeenByOwn, hseen⟩ := h.isSeenByOwn
  have hphotos : ∃ photoUrl, photosFromJson (m "photoUrl") = some photoUrl ∧
      photoUrl.map (fun photos => Value.photos (photos.map PhotoUrl.toJson)) = m "photoUrl" := by
    rcases h.photoUrl with hnone | ⟨l, hl, hstored⟩
    · exact ⟨none, by rw [hnone]; rfl, by rw [hnone]; rfl⟩
    · obtain ⟨photos, hread, hwritten⟩ := mapM_fromJson hstored
      refine ⟨some photos, ?_, ?_⟩
      · rw [hl, photosFromJson, hread]
        rfl
      · rw [hl, Option.map_some, hwritten]
  obtain ⟨photoUrl, hread, hwritten⟩ := hphotos
  refine ⟨⟨uid, username, phoneNumber, photoUrl, createdAt, profilePic, isSeenByOwn⟩, ?_, ?_⟩
  · simp [Status.fromJson, huid, husername, hphone, hcreated, hpic, hseen, hread]
  · funext key
    simp only [Status.toJson, Fields.ofList, List.cons_append, List.nil_append]
    split_ifs with h₁ h₂ h₃ h₄ h₅ h₆
    · rw [h₁, huid]
    · rw [h₂, husername]
    · rw [h₃, hphone]
    · rw [h₄, hcreated]
    · rw [h₅, hpic]
    · rw [h₆, hseen]
    · by_cases h₇ : key = "photoUrl"
      · rw [h₇, ← hwritten]
        cases photoUrl <;> rfl
      · rw [h.other key (by simp [*])]
        cases photoUrl with
        | none => rfl
        | some l => exact if_neg h₇

theorem Status.toJson_photoUrl (s : Status) : Status.toJson s "photoUrl" =
    s.photoUrl.map fun photos => Value.photos (photos.map PhotoUrl.toJson) := by
  cases hs : s.photoUrl with
  | none => simp [Status.toJson, hs, Fields.ofList]
  | some photos => simp [Status.toJson, hs, Fields.ofList]

/-- The photos are read, and written back as they were. -/
theorem photoUrl_of_stored {m : StatusMap} {l : List PhotoMap} (h : Stored m)
    (hl : m "photoUrl" = some (.photos l)) :
    ∃ photos, ((Status.fromJson m).bind fun status => status.photoUrl) = some photos ∧
      photos.map PhotoUrl.toJson = l := by
  obtain ⟨status, hread, rfl⟩ := Status.toJson_fromJson h
  rw [Status.toJson_photoUrl] at hl
  obtain ⟨photos, hphotos, hl⟩ := Option.map_eq_some_iff.mp hl
  refine ⟨photos, ?_, Value.photos.inj hl⟩
  rw [hread]
  exact hphotos

/-! ## Adding a status -/

/-- The collections. -/
inductive Path : Type where
  | status : Path
  deriving DecidableEq, Repr

/-- A document with its identifier. -/
abbrev Document : Type := Doc String Value

/-- Firestore, and `session.user` of the device. -/
structure World where
  store : Store Path String Value
  session : Option User

/-- A part of `addStatus`. -/
abbrev Handler (α : Type) : Type := Async World Unit α

/-- The documents of a user. -/
def World.docsOf (w : World) (id : String) : List Document :=
  w.store.query .status fun m => Value.toString? (m "uid") = some (some id)

/-- `data`, the map that the new photo is made from; `imageUrl!` is an error if it is null. -/
def newPhoto (imageUrl : Option String) (statusType : String)
    (statusText statusBgColor : Option String) : Handler PhotoMap :=
  match (if statusType = "text" then some "" else imageUrl) with
  | none => Async.throw
  | some image => Async.sync fun t w =>
    (.ofList [
      ("image", .str image),
      ("timestamp", .str (toString (t.now / 1000))),
      ("isExpired", .bool false),
      ("statusType", .str statusType),
      ("statusText", .ofString statusText),
      ("statusBgColor", .ofString statusBgColor)], w)

/-- `PhotoUrl.fromJson(data)`. -/
def makePhoto (data : PhotoMap) : Handler PhotoUrl :=
  match PhotoUrl.fromJson data with
  | none => Async.throw
  | some photo => pure photo

/-- `collection(status).doc(id).update({'photoUrl': photos})`; it fails if there is no such
document. -/
def updatePhotos (id : DocId) (photos : List PhotoMap) : Handler Unit := do
  let found ← Async.remote fun _ w =>
    ((w.store.doc? .status id).isSome,
      { w with store := w.store.update .status id (.ofList [("photoUrl", .photos photos)]) })
  if found then pure () else Async.throw

/-- `StatusFirebaseApi.addStatus`. -/
def addStatus (imageUrl : Option String) (statusType : String)
    (statusText statusBgColor : Option String) : Handler Unit := do
  let user ← Async.get fun w => w.session
  match user with
  | none => Async.throw
  | some user =>
    let docs ← Async.remote fun _ w => (w.docsOf user.id, w)
    match docs with
    | doc :: _ =>
      match (Status.fromJson doc.data).bind fun status => status.photoUrl with
      | none => Async.throw
      | some statusImageUrls =>
        let data ← newPhoto imageUrl statusType statusText statusBgColor
        let photo ← makePhoto data
        updatePhotos doc.id ((statusImageUrls ++ [photo]).map PhotoUrl.toJson)
    | [] =>
      let data ← newPhoto imageUrl statusType statusText statusBgColor
      let photo ← makePhoto data
      let createdAt ← Async.sync fun t w => (toString (t.now / 1000), w)
      let status : Status := {
        username := user.name
        phoneNumber := user.phone
        photoUrl := some [photo]
        createdAt := some createdAt
        profilePic := user.image
        uid := some user.id
        isSeenByOwn := some false }
      Async.remote fun t w =>
        ((), { w with store := w.store.add .status t.pos (Status.toJson status) })

/-! ## One call on its own -/

section Alone

variable {imageUrl statusText statusBgColor : Option String} {statusType : String} {w w' : World}
  {user : User} {doc : Document} {docs : List Document} {l : List PhotoMap}

/-- The map has the data that are given, and nothing else. -/
structure Given (imageUrl : Option String) (statusType : String)
    (statusText statusBgColor : Option String) (data : PhotoMap) : Prop where
  stored : PhotoStored data
  image : data "image" = some (.ofString (if statusType = "text" then some "" else imageUrl))
  timestamp : ∃ now : ℕ, data "timestamp" = some (.str (toString (now / 1000)))
  isExpired : data "isExpired" = some (.bool false)
  statusType : data "statusType" = some (.str statusType)
  statusText : data "statusText" = some (.ofString statusText)
  statusBgColor : data "statusBgColor" = some (.ofString statusBgColor)

/-- The photo is added to the photos of the document, and nothing else is changed. -/
structure Adds (imageUrl : Option String) (statusType : String)
    (statusText statusBgColor : Option String) (doc : Document) (l : List PhotoMap)
    (w w' : World) : Prop where
  photoUrl : ∃ data doc', Given imageUrl statusType statusText statusBgColor data ∧
    w'.store.doc? .status doc.id = some doc' ∧
    doc'.data "photoUrl" = some (.photos (l ++ [data])) ∧
    ∀ key ≠ "photoUrl", doc'.data key = doc.data key
  others : ∀ id ≠ doc.id, w'.store.doc? .status id = w.store.doc? .status id

/-- What holds while the call is under way (1), and at its end (0): the photo has been added, or
nothing has been changed, because something was wrong. -/
def adding (strict : Prop) (Post : World → Prop) (w : World) : Duties World Unit ℕ where
  admits t := strict → t.fails = false
  inv w' r := (r = 1 ∧ w' = w) ∨ (r = 0 ∧ (Post w' ∨ ¬ strict ∧ w' = w))

section Steps

variable {strict : Prop} {Post : World → Prop} {f : ℕ}

theorem inv_pending (h : (adding strict Post w).inv w' (1 + f)) : f = 0 ∧ w' = w := by
  rcases h with ⟨hf, rfl⟩ | ⟨hf, -⟩
  · exact ⟨by omega, rfl⟩
  · omega

theorem inv_start : (adding strict Post w).inv w (1 + 0) := .inl ⟨rfl, rfl⟩

/-- An operation fails. -/
theorem inv_fails {t : Tick} (ht : strict → t.fails = false) (hf : t.fails = true)
    (h : (adding strict Post w).inv w' (1 + f)) : (adding strict Post w).inv w' (0 + f) := by
  obtain ⟨rfl, rfl⟩ := inv_pending h
  refine .inr ⟨rfl, .inr ⟨fun hs => ?_, rfl⟩⟩
  rw [ht hs] at hf
  exact Bool.noConfusion hf

/-- The data of the new photo are those that are given. -/
theorem leaves_newPhoto {Q : PhotoMap → World → (World → ℕ → Prop) → Prop}
    (himage : strict → statusType = "text" ∨ imageUrl ≠ none)
    (h : ∀ data, Given imageUrl statusType statusText statusBgColor data →
      Q data w ((adding strict Post w).after 0)) :
    (newPhoto imageUrl statusType statusText statusBgColor).Leaves (adding strict Post w) w
      ((adding strict Post w).after 0) Q := by
  unfold newPhoto
  split
  · next hnone =>
    refine Async.leaves_throw (.inr ⟨rfl, .inr ⟨fun hs => ?_, rfl⟩⟩)
    rcases himage hs with htext | hurl
    · rw [if_pos htext] at hnone
      exact Option.some_ne_none _ hnone
    · split at hnone
      · exact Option.some_ne_none _ hnone
      · exact hurl hnone
  · next image hsome =>
    refine Async.leaves_sync fun t _ => h _ ⟨⟨?_, ⟨some false, rfl⟩, fun key hkey => ?_⟩, ?_, ⟨t.now, rfl⟩,
      rfl, rfl, rfl, rfl⟩
    · intro key hkey
      simp only [List.mem_cons, List.not_mem_nil, or_false] at hkey
      rcases hkey with rfl | rfl | rfl | rfl | rfl
      · exact ⟨some image, rfl⟩
      · exact ⟨some (toString (t.now / 1000)), rfl⟩
      · exact ⟨some statusType, rfl⟩
      · exact ⟨statusText, rfl⟩
      · exact ⟨statusBgColor, rfl⟩
    · simp only [List.mem_cons, List.not_mem_nil, or_false, not_or] at hkey
      obtain ⟨h₁, h₂, h₃, h₄, h₅, h₆⟩ := hkey
      simp [Fields.ofList, *]
    · rw [hsome]
      rfl

/-- The photos are written. -/
theorem leaves_updatePhotos {photos : List PhotoMap}
    (hpost : Post { w with store := w.store.update .status doc.id (.ofList [
      ("photoUrl", .photos photos)]) }) :
    (updatePhotos doc.id photos).Leaves (adding strict Post w) w ((adding strict Post w).after 0)
      fun _ w' R => R w' 0 := by
  refine Async.leaves_bind (Async.leaves_remote 1 (fun _ => trivial) inv_start
    (fun t _ _ w' f hi => ?_) fun t ht hf w' f hi => inv_fails ht hf hi)
  obtain ⟨rfl, rfl⟩ := inv_pending hi
  refine ⟨0, fun _ => trivial, .inr ⟨rfl, .inl hpost⟩, fun w'' f hi' => ?_⟩
  split
  · exact Async.leaves_pure hi'
  · exact Async.leaves_throw hi'

end Steps

/-- The call, started when nothing else is under way: the only document of the user that is written
is the first one found, which gets the new photo at the end of its list. -/
theorem leaves_addStatus {strict : Prop} {Post : World → Prop} (hsession : w.session = some user)
    (hdocs : w.docsOf user.id = doc :: docs) (hstored : Stored doc.data)
    (hl : doc.data "photoUrl" = some (.photos l))
    (himage : strict → statusType = "text" ∨ imageUrl ≠ none)
    (hpost : ∀ data, Given imageUrl statusType statusText statusBgColor data →
      Post { w with store := w.store.update .status doc.id (.ofList [
        ("photoUrl", .photos (l ++ [data]))]) }) :
    (addStatus imageUrl statusType statusText statusBgColor).task.Leaves (adding strict Post w) w
      ((adding strict Post w).after 0) := by
  obtain ⟨photos, hphotos, hwritten⟩ := photoUrl_of_stored hstored hl
  refine Async.Leaves.task (Async.leaves_bind (Async.leaves_get ?_))
  rw [hsession]
  refine Async.leaves_bind (Async.leaves_remote 1 (fun _ => trivial) inv_start
    (fun t _ _ w' f hi => ?_) fun t ht hf w' f hi => inv_fails ht hf hi)
  obtain ⟨rfl, rfl⟩ := inv_pending hi
  refine ⟨1, fun _ => trivial, inv_start, fun w'' f hi' => ?_⟩
  obtain ⟨rfl, rfl⟩ := inv_pending hi'
  simp only [hdocs, hphotos]
  refine Async.leaves_bind (leaves_newPhoto himage fun data hgiven => ?_)
  obtain ⟨photo, hphoto, hdata⟩ := PhotoUrl.toJson_fromJson hgiven.stored
  rw [makePhoto, hphoto]
  refine Async.leaves_bind (Async.leaves_pure (leaves_updatePhotos ?_))
  rw [List.map_append, hwritten, List.map_singleton, hdata]
  exact hpost data hgiven

/-- What is written. -/
theorem adds_update {data : PhotoMap} (hdoc : doc ∈ w.store.docs .status)
    (hgiven : Given imageUrl statusType statusText statusBgColor data) :
    Adds imageUrl statusType statusText statusBgColor doc l w { w with
      store := w.store.update .status doc.id (.ofList [("photoUrl", .photos (l ++ [data]))]) } where
  photoUrl := by
    have hfound : w.store.doc? .status doc.id = some doc :=
      (Store.doc?_eq_some _).mpr ⟨hdoc, rfl⟩
    refine ⟨data, ⟨doc.id, _⟩, hgiven, Store.doc?_update hfound, ?_, fun key hkey => ?_⟩
    · exact Fields.merge_of_some (d := doc.data)
        (u := Fields.ofList [("photoUrl", Value.photos (l ++ [data]))]) (if_pos rfl)
    · exact Fields.merge_of_none (if_neg hkey)
  others _ hid := Store.doc?_update_of_ne hid

/-- What is written is the map of a status again. -/
theorem Adds.stored (h : Adds imageUrl statusType statusText statusBgColor doc l w w')
    (hstored : Stored doc.data) (hl : ∀ p ∈ l, PhotoStored p) :
    ∃ doc', w'.store.doc? .status doc.id = some doc' ∧ Stored doc'.data := by
  obtain ⟨data, doc', hgiven, hdoc, hphotos, hother⟩ := h.photoUrl
  refine ⟨doc', hdoc, ?_, ?_, .inr ⟨l ++ [data], hphotos, fun p hp => ?_⟩, fun key hkey => ?_⟩
  · intro key hkey
    rw [hother key (by rintro rfl; simp at hkey)]
    exact hstored.text key hkey
  · rw [hother _ (by decide)]
    exact hstored.isSeenByOwn
  · rcases List.mem_append.mp hp with hp | hp
    · exact hl p hp
    · exact List.mem_singleton.mp hp ▸ hgiven.stored
  · rw [hother key (by rintro rfl; simp at hkey)]
    exact hstored.other key hkey

/-- **Adding a status preserves the stored ones.** -/
theorem addStatus_preserves (hsession : w.session = some user)
    (hdocs : w.docsOf user.id = doc :: docs) (hstored : Stored doc.data)
    (hl : doc.data "photoUrl" = some (.photos l)) {ticks : ℕ → Tick} {es : List (Event Empty)}
    {c : Config World Unit}
    (h : (System.quiet World Unit).Run (fun _ _ => True)
      ((addStatus imageUrl statusType statusText statusBgColor).start () ticks w) es c)
    (hc : c.Settled) :
    (Adds imageUrl statusType statusText statusBgColor doc l w c.world ∨ c.world = w) ∧
      ((statusType = "text" ∨ imageUrl ≠ none) → (∀ n, (ticks n).fails = false) →
        (∀ e ∈ es, ∀ n, (e.ticks n).fails = false) →
        Adds imageUrl statusType statusText statusBgColor doc l w c.world) ∧
      (∀ s, Status.fromJson (Status.toJson s) = some s) ∧
      ∀ m, Stored m → ∃ s, Status.fromJson m = some s ∧ Status.toJson s = m := by
  have hmem : doc ∈ w.store.docs .status := by
    have hquery : doc ∈ w.docsOf user.id := hdocs ▸ List.mem_cons_self ..
    exact (Store.mem_query _).mp hquery |>.1
  have hdone : ∀ strict : Prop, (strict → statusType = "text" ∨ imageUrl ≠ none) →
      (strict → ∀ n, (ticks n).fails = false) →
      (strict → ∀ e ∈ es, ∀ n, (e.ticks n).fails = false) →
      Adds imageUrl statusType statusText statusBgColor doc l w c.world ∨
        ¬ strict ∧ c.world = w := by
    intro strict himage hticks hes
    have hrun : (System.quiet World Unit).Run (fun _ e => ∀ n, strict → (e.ticks n).fails = false)
        ((addStatus imageUrl statusType statusText statusBgColor).start () ticks w) es c := by
      rw [h.exec_eq]
      exact System.run_of_forall fun e he n hs => hes hs e he n
    have hinv := System.Run.done (fun _ _ => trivial)
      (leaves_addStatus hsession hdocs hstored hl himage fun data hgiven => adds_update hmem hgiven)
      (fun n hs => hticks hs n) hrun hc
    rcases hinv with ⟨hzero, -⟩ | ⟨-, hpost⟩
    · exact absurd hzero Nat.zero_ne_one
    · exact hpost
  refine ⟨?_, fun himage hticks hes => ?_, Status.fromJson_toJson, fun m => Status.toJson_fromJson⟩
  · exact (hdone False False.elim False.elim False.elim).imp_right And.right
  · refine (hdone True (fun _ => himage) (fun _ => hticks) fun _ => hes).resolve_right ?_
    exact fun hnot => hnot.1 trivial

end Alone

/-- Alice's photo, which has no text. -/
def alicesPhoto : PhotoUrl where
  image := some "a.jpg"
  timestamp := some "1700000000000"
  statusType := some "image"
  isExpired := some false

def alicesStatus : Status where
  uid := some "alice"
  username := some "Alice"
  phoneNumber := some "1"
  photoUrl := some [alicesPhoto]
  createdAt := some "1700000000000"
  profilePic := none
  isSeenByOwn := some false

def alice : World where
  store := Store.empty.add .status 0 (Status.toJson alicesStatus)
  session := some { id := "alice" }

def now : ℕ → Tick := fun _ => ⟨1700000001000000, 0, false⟩

/-- Alice adds a text, and nothing fails. -/
def textAdded : Config World Unit :=
  (System.quiet World Unit).exec
    ((addStatus none "text" (some "Hello") (some "red")).start () now alice)
    (List.replicate 4 (.resume 0 now))

/-- Her photo is still there, followed by the text. -/
theorem addStatus_preserves_alice :
    Adds none "text" (some "Hello") (some "red") ⟨.auto 0, Status.toJson alicesStatus⟩
      [PhotoUrl.toJson alicesPhoto] alice textAdded.world := by
  have hrun : (System.quiet World Unit).Run (fun _ _ => True)
      ((addStatus none "text" (some "Hello") (some "red")).start () now alice)
      (List.replicate 4 (.resume 0 now)) textAdded :=
    System.run_of_forall fun _ _ => trivial
  refine (addStatus_preserves rfl rfl (stored_toJson _) rfl hrun (by decide +kernel)).2.1 (.inl rfl)
    (fun _ => rfl) fun e he n => ?_
  rw [List.eq_of_mem_replicate he]
  rfl

end FlutterTheme.StatusCodec
