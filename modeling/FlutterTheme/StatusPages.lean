import FlutterTheme.StatusExpiry
import FlutterTheme.Widgets

/-!
# Reading statuses

The readers of the collection `status` look at the last photo of a document, make pages of all
photos, and compute their age. They fail on an empty list, and on a photo without what its type
asks for. What is shown for a video is the `videoController` that the State of a widget has made
when it was new, which is null where the State was made for a text or an image.

* `initStoryPageItems`, `StatusListCard.leading`, `statusLayout`, `timestampOf` — the readers;
  `none` is an error.
* `Displayable` — what they ask for, with the reading of the clock up to which timestamps count.
* `runs_called` — the calls the app makes keep it, and never shorten a list of photos.
* `statuses_displayed_iff` — so nothing that is read is missing, and the widgets fail just where the
  State was made for something else than a video.
-/

namespace FlutterTheme.Statuses

open EventLoop DocStore

/-! ## The readers -/

/-- A page of `StatusScreenView`. -/
inductive StoryItem : Type where
  | text (title : String) (color : ℤ)
  | pageVideo (url : String)
  | pageImage (url : String)
  deriving DecidableEq, Repr

/-- The page of a photo. -/
def storyItem (photo : PhotoUrl) : Option StoryItem :=
  if photo.statusType = some "text" then do
    let value ← photo.statusBgColor.bind (intParseRadix 16)
    let title ← photo.statusText
    some (.text title value)
  else if photo.statusType = some "video" then
    photo.image.map .pageVideo
  else
    photo.image.map .pageImage

/-- The loop of `initStoryPageItems`. -/
def storyItems : List PhotoUrl → Option (List StoryItem)
  | [] => some []
  | photo :: photoUrl => do
    let item ← storyItem photo
    let items ← storyItems photoUrl
    some (item :: items)

/-- `initStoryPageItems` of `StatusScreenView`. -/
def initStoryPageItems (status : Status) : Option (List StoryItem) :=
  status.photoUrl.bind storyItems

/-- `photoUrl![photoUrl!.length - 1]`. -/
def lastPhoto (photoUrl : Option (List PhotoUrl)) : Option PhotoUrl := do
  let photos ← photoUrl
  photos.getLast?

/-- The last photo is a video. -/
def IsVideo (photoUrl : Option (List PhotoUrl)) : Prop :=
  (lastPhoto photoUrl).bind PhotoUrl.statusType = some "video"

instance (photoUrl : Option (List PhotoUrl)) : Decidable (IsVideo photoUrl) :=
  inferInstanceAs (Decidable (_ = _))

/-- What is shown in front of a status. -/
inductive Leading : Type where
  | circleAvatar (color : ℤ) (text : String)
  | cachedNetworkImage (imageUrl : String)
  /-- a video, from this address -/
  | videoPlayer (url : String)
  deriving DecidableEq, Repr

/-- The `videoController` of a State, by the address that it plays. -/
abbrev VideoState : Type := Option String

/-- What `initState` makes for the last photo: a controller if it is a video; an address that is
null is an error. -/
def initVideo (photoUrl : Option (List PhotoUrl)) : Option VideoState := do
  let photo ← lastPhoto photoUrl
  if photo.statusType = some "video" then photo.image.map some else some none

/-- The avatar of a text. -/
def avatar (photo : PhotoUrl) : Option Leading := do
  let value ← photo.statusBgColor.bind (intParseRadix 16)
  let text ← photo.statusText
  some (.circleAvatar value text)

/-- `_StatusVideoState.initState`. -/
def StatusVideo.initState (snapshot : Status) : Option VideoState := initVideo snapshot.photoUrl

/-- `_StatusVideoState.build`; it asks for `videoController!` whatever the status is. -/
def StatusVideo.build (videoController : VideoState) : Option Leading :=
  videoController.map .videoPlayer

/-- `StatusListCard.build`, as far as it reads photos. For a video it shows the first status of the
list, `StatusVideo(snapshot: status![0])`; the cards are made anew for every list, and the State of
the `StatusVideo` with them. -/
def StatusListCard.leading (status : List Status) (index : ℕ) : Option Leading := do
  let s ← status[index]?
  let photo ← lastPhoto s.photoUrl
  if photo.statusType = some "text" then
    avatar photo
  else if photo.statusType = some "image" then
    some (.cachedNetworkImage (photo.image.getD "null"))
  else do
    let first ← status[0]?
    let videoController ← StatusVideo.initState first
    StatusVideo.build videoController

/-- `_StatusLayoutState.initState`. -/
def StatusLayout.initState (doc : Data) : Option VideoState :=
  initVideo (Value.toPhotos? (doc .photoUrl))

/-- `_StatusLayoutState.build`, as far as it reads photos. -/
def StatusLayout.build (videoController : VideoState) (doc : Data) : Option Leading := do
  let photo ← lastPhoto (Value.toPhotos? (doc .photoUrl))
  if photo.statusType = some "text" then
    avatar photo
  else if photo.statusType = some "image" then
    some (.cachedNetworkImage (photo.image.getD "null"))
  else
    -- `videoController!`
    videoController.map .videoPlayer

/-- `StatusLayout`, which has no key: its State is kept as long as one is shown. -/
def statusLayout : Widgets.Stateful Unit Data VideoState (Option Leading) where
  kind _ := ()
  initState := StatusLayout.initState
  build doc videoController := (videoController, StatusLayout.build videoController doc)

/-- A snapshot of the statuses of the user, null before the first one. -/
abbrev Snapshot : Type := Option (List Document)

/-- The document that `CurrentUserStatus.build` shows with a `StatusLayout`; where there is none it
shows a `CurrentUserEmptyStatus`. -/
def CurrentUserStatus.child (snapshot : Snapshot) : Option Data := do
  let docs ← snapshot
  let doc ← docs.head?
  some doc.data

/-- What the `StatusLayout` of the user shows for a document, after these snapshots. -/
def CurrentUserStatus.leading (before : List Snapshot) (doc : Data) : Option Leading :=
  (statusLayout.shown (before.map CurrentUserStatus.child) doc).join

/-- The document that the `StatusLayout` was new for: the first one since the user had none. -/
def CurrentUserStatus.first (before : List Snapshot) (doc : Data) : Data :=
  statusLayout.first (before.map CurrentUserStatus.child) doc

/-! ## What they ask for -/

/-- The last millisecond of a `DateTime`. -/
def maxMillis : ℕ := 8640000000000000

/-- A photo that can be shown; its timestamp is one of a `DateTime`, or no later than the clock. -/
structure PhotoUrl.Shown (latest : ℕ) (photo : PhotoUrl) : Prop where
  timestamp : ∃ s millis, photo.timestamp = some s ∧ intParse s = some millis ∧
    millis.natAbs ≤ max maxMillis (latest / 1000)
  type : photo.statusType = some "text" ∨ photo.statusType = some "image" ∨
    photo.statusType = some "video"
  text : photo.statusType = some "text" →
    photo.statusText.isSome = true ∧ (photo.statusBgColor.bind (intParseRadix 16)).isSome = true
  image : photo.statusType ≠ some "text" → photo.image.isSome = true

/-- A document with photos that can be shown, and with at least one. -/
def Displayable (latest : ℕ) (d : Data) : Prop :=
  ∃ photos, d .photoUrl = some (.photos photos) ∧ photos ≠ [] ∧ ∀ p ∈ photos, p.Shown latest

variable {latest latest' : ℕ} {d : Data} {photo : PhotoUrl} {photos : List PhotoUrl}

theorem PhotoUrl.Shown.mono (h : photo.Shown latest) (hle : latest ≤ latest') :
    photo.Shown latest' := by
  refine ⟨?_, h.type, h.text, h.image⟩
  obtain ⟨s, millis, hs, hparse, hbound⟩ := h.timestamp
  have hdiv := Nat.div_le_div_right (c := 1000) hle
  exact ⟨s, millis, hs, hparse, by omega⟩

theorem Displayable.mono (h : Displayable latest d) (hle : latest ≤ latest') :
    Displayable latest' d := by
  obtain ⟨photos, hphotos, hne, hshown⟩ := h
  exact ⟨photos, hphotos, hne, fun p hp => (hshown p hp).mono hle⟩

/-- As long as the clock reads a `DateTime`, so does a timestamp. -/
theorem PhotoUrl.Shown.of_latest (h : photo.Shown latest) (hle : latest ≤ maxMillis * 1000) :
    photo.Shown 0 := by
  refine ⟨?_, h.type, h.text, h.image⟩
  obtain ⟨s, millis, hs, hparse, hbound⟩ := h.timestamp
  exact ⟨s, millis, hs, hparse, by omega⟩

theorem PhotoUrl.Shown.timestampOf_isSome (h : photo.Shown 0) :
    (timestampOf photo).isSome = true := by
  obtain ⟨s, millis, hs, hparse, hbound⟩ := h.timestamp
  have hle : millis.natAbs ≤ 8640000000000000 := by
    simpa [maxMillis] using hbound
  simp [timestampOf, hs, hparse, hle]

/-- A photo that can be shown has its page in the viewer, a text, an image or a video by its type.
-/
theorem PhotoUrl.Shown.storyItem_isSome (h : photo.Shown latest) :
    (storyItem photo).isSome = true := by
  unfold storyItem
  split
  · next htext =>
    obtain ⟨htitle, hcolor⟩ := h.text htext
    obtain ⟨title, htitle⟩ := Option.isSome_iff_exists.mp htitle
    obtain ⟨value, hcolor⟩ := Option.isSome_iff_exists.mp hcolor
    simp [htitle, hcolor]
  · next htext =>
    split
    · simpa using h.image htext
    · simpa using h.image htext

theorem PhotoUrl.Shown.avatar_isSome (h : photo.Shown latest)
    (htext : photo.statusType = some "text") : (avatar photo).isSome = true := by
  obtain ⟨htitle, hcolor⟩ := h.text htext
  obtain ⟨title, htitle⟩ := Option.isSome_iff_exists.mp htitle
  obtain ⟨value, hcolor⟩ := Option.isSome_iff_exists.mp hcolor
  simp [avatar, htitle, hcolor]

/-- There is a page for every photo. -/
theorem storyItems_isSome (h : ∀ p ∈ photos, p.Shown latest) :
    (storyItems photos).isSome = true := by
  induction photos with
  | nil => rfl
  | cons photo photos ih =>
    have hitem := (h photo (List.mem_cons_self ..)).storyItem_isSome
    have hitems := ih fun p hp => h p (List.mem_cons_of_mem _ hp)
    rw [Option.isSome_iff_exists] at hitem hitems
    obtain ⟨item, hitem⟩ := hitem
    obtain ⟨items, hitems⟩ := hitems
    simp [storyItems, hitem, hitems]

/-- The last photo of a displayable document. -/
theorem Displayable.last (h : Displayable latest d) :
    ∃ photo, lastPhoto (Value.toPhotos? (d .photoUrl)) = some photo ∧ photo.Shown latest := by
  obtain ⟨photos, hphotos, hne, hshown⟩ := h
  refine ⟨photos.getLast hne, ?_, hshown _ (List.getLast_mem hne)⟩
  simp [lastPhoto, hphotos, Value.toPhotos?, List.getLast?_eq_some_getLast hne]

theorem Displayable.pages (h : Displayable latest d) :
    (initStoryPageItems (Status.fromJson d)).isSome = true := by
  obtain ⟨photos, hphotos, -, hshown⟩ := h
  simpa [initStoryPageItems, Status.fromJson, hphotos, Value.toPhotos?] using
    storyItems_isSome hshown

/-- The last photo is a text, an image or a video, and is so for `IsVideo` too. -/
theorem Displayable.cases (h : Displayable latest d) : ∃ photo,
    lastPhoto (Value.toPhotos? (d .photoUrl)) = some photo ∧ photo.Shown latest ∧
      (IsVideo (Value.toPhotos? (d .photoUrl)) ↔ photo.statusType = some "video") := by
  obtain ⟨photo, hlast, hshown⟩ := h.last
  refine ⟨photo, hlast, hshown, ?_⟩
  rw [IsVideo, hlast]
  rfl

/-- A State has a controller just when it was made for a video. -/
theorem Displayable.initVideo (h : Displayable latest d) : ∃ videoController,
    Statuses.initVideo (Value.toPhotos? (d .photoUrl)) = some videoController ∧
      (videoController.isSome = true ↔ IsVideo (Value.toPhotos? (d .photoUrl))) := by
  obtain ⟨photo, hlast, hshown, hvideo⟩ := h.cases
  by_cases htype : photo.statusType = some "video"
  · obtain ⟨url, hurl⟩ := Option.isSome_iff_exists.mp (hshown.image (by simp [htype]))
    refine ⟨some url, ?_, iff_of_true rfl (hvideo.mpr htype)⟩
    simp [Statuses.initVideo, hlast, htype, hurl]
  · refine ⟨none, ?_, iff_of_false (by simp) fun hv => htype (hvideo.mp hv)⟩
    simp [Statuses.initVideo, hlast, htype]

/-- A `StatusLayout` fails just when it shows a video without a controller. -/
theorem Displayable.layout {videoController : VideoState} (h : Displayable latest d) :
    (StatusLayout.build videoController d).isSome = true ↔
      (IsVideo (Value.toPhotos? (d .photoUrl)) → videoController.isSome = true) := by
  obtain ⟨photo, hlast, hshown, hvideo⟩ := h.cases
  rw [hvideo]
  rcases hshown.type with htype | htype | htype
  · simp [StatusLayout.build, hlast, htype, hshown.avatar_isSome htype]
  · simp [StatusLayout.build, hlast, htype]
  · simp [StatusLayout.build, hlast, htype]

/-- Building a `StatusLayout` leaves its State as it is. -/
theorem built_statusLayout (videoController : VideoState) (builds : List Data) :
    statusLayout.built videoController builds = videoController := by
  induction builds with
  | nil => rfl
  | cons doc builds ih => exact ih

theorem child_eq_some {snapshot : Snapshot} (h : CurrentUserStatus.child snapshot = some d) :
    ∃ docs, snapshot = some docs ∧ ∃ doc ∈ docs, doc.data = d := by
  simp only [CurrentUserStatus.child, Option.bind_eq_bind, Option.bind_eq_some_iff,
    Option.some.injEq] at h
  obtain ⟨docs, hdocs, doc, hhead, hdoc⟩ := h
  exact ⟨docs, hdocs, doc, List.mem_of_head? hhead, hdoc⟩

/-- **The status of the user** is shown, unless it is a video and the State of the widget was made
for something else. -/
theorem Displayable.leading {before : List Snapshot} (h : Displayable latest d)
    (hbefore : ∀ docs, some docs ∈ before → ∀ doc ∈ docs, Displayable latest doc.data) :
    (CurrentUserStatus.leading before d).isSome = true ↔
      (IsVideo (Value.toPhotos? (d .photoUrl)) →
        IsVideo (Value.toPhotos? (CurrentUserStatus.first before d .photoUrl))) := by
  have hslots : ∀ d, some d ∈ before.map CurrentUserStatus.child → Displayable latest d := by
    intro d hd
    obtain ⟨snapshot, hmem, hchild⟩ := List.mem_map.mp hd
    obtain ⟨docs, rfl, doc, hdoc, rfl⟩ := child_eq_some hchild
    exact hbefore docs hmem doc hdoc
  have hfirst : Displayable latest (CurrentUserStatus.first before d) := by
    have hmem : some (CurrentUserStatus.first before d) ∈
        before.map CurrentUserStatus.child ++ [some d] := Widgets.Stateful.first_mem
    rcases List.mem_append.mp hmem with hmem | hmem
    · exact hslots _ hmem
    · rwa [Option.some.inj (List.mem_singleton.mp hmem)]
  obtain ⟨videoController, hinit, hvideo⟩ := hfirst.initVideo
  have hshown : CurrentUserStatus.leading before d = StatusLayout.build videoController d := by
    have hinit' : statusLayout.initState (statusLayout.first (before.map CurrentUserStatus.child) d) =
        some videoController := hinit
    rw [CurrentUserStatus.leading, Widgets.Stateful.shown_eq, hinit']
    · rw [Option.map_some, built_statusLayout]
      rfl
    · intro d hd
      obtain ⟨videoController, hinit, -⟩ := (hslots d hd).initVideo
      exact Option.isSome_of_mem hinit
  rw [hshown, h.layout, hvideo]

/-- A card of a list of displayable statuses is shown, unless it is a video and the first one of the
list is something else. -/
theorem Displayable.card {status : List Status} {index : ℕ} (hindex : index < status.length)
    (h : ∀ s ∈ status, ∃ d, Displayable latest d ∧ s = Status.fromJson d) :
    (StatusListCard.leading status index).isSome = true ↔
      (IsVideo status[index].photoUrl → ∀ first ∈ status.head?, IsVideo first.photoUrl) := by
  obtain ⟨d, hd, hs⟩ := h status[index] (List.getElem_mem hindex)
  obtain ⟨photo, hlast, hshown, hvideo⟩ := hd.cases
  obtain ⟨d₀, hd₀, hs₀⟩ := h status[0] (List.getElem_mem (by omega))
  obtain ⟨videoController, hinit, hfirst⟩ := hd₀.initVideo
  have hget : status[index]? = some (Status.fromJson d) :=
    hs ▸ List.getElem?_eq_getElem hindex
  have hget₀ : status[0]? = some (Status.fromJson d₀) := hs₀ ▸ List.getElem?_eq_getElem (by omega)
  have hlast' : lastPhoto (Status.fromJson d).photoUrl = some photo := hlast
  have hinit' : StatusVideo.initState (Status.fromJson d₀) = some videoController := hinit
  have hvideo' : IsVideo (Status.fromJson d).photoUrl ↔ photo.statusType = some "video" := hvideo
  have hfirst' : videoController.isSome = true ↔ IsVideo (Status.fromJson d₀).photoUrl := hfirst
  rw [hs, hvideo', List.head?_eq_getElem?, hget₀]
  rcases hshown.type with htype | htype | htype
  · simp [StatusListCard.leading, hget, hlast', htype, hshown.avatar_isSome htype]
  · simp [StatusListCard.leading, hget, hlast', htype]
  · simp [StatusListCard.leading, hget, hlast', htype, hget₀, hinit', StatusVideo.build, ← hfirst']

/-! ## The protocol -/

/-- How the world evolves: lists of photos only become longer. -/
structure World.Gathers (w w' : World) : Prop where
  latest : w.latest ≤ w'.latest
  nextRef : w.nextRef ≤ w'.nextRef
  size : w.ctrls.size ≤ w'.ctrls.size
  lists : ∀ k < w.ctrls.size, (w.ctrls.get k).newPhotoList <+: (w'.ctrls.get k).newPhotoList

/-- All documents can be displayed, and all photos that have been collected can be shown. -/
structure World.Shown (w : World) : Prop where
  docs : ∀ d ∈ w.store.docs .status, Displayable w.latest d.data
  lists : ∀ k, ∀ p ∈ (w.ctrls.get k).newPhotoList, p.photo.Shown w.latest
  made : w.Made

/-- What the calls of the app rely on and guarantee. -/
def gathering : Evolving World where
  le := World.Gathers
  inv := World.Shown
  le_refl _ := ⟨Nat.le_refl _, Nat.le_refl _, Nat.le_refl _, fun _ _ => List.prefix_rfl⟩
  le_trans h h' := ⟨h.latest.trans h'.latest, h.nextRef.trans h'.nextRef, h.size.trans h'.size,
    fun k hk => (h.lists k hk).trans (h'.lists k (Nat.lt_of_lt_of_le hk h.size))⟩
  step_refl _ := trivial

variable {w w' : World} {k : ℕ} {id : DocId} {uid : String}

/-- The controllers stay as they are. -/
theorem World.Gathers.of_eq (hctrls : w'.ctrls = w.ctrls) (hlatest : w.latest ≤ w'.latest)
    (href : w.nextRef ≤ w'.nextRef) : w.Gathers w' where
  latest := hlatest
  nextRef := href
  size := by rw [hctrls]
  lists k _ := by
    have hk : (w'.ctrls.get k).newPhotoList = (w.ctrls.get k).newPhotoList := by rw [hctrls]
    exact hk ▸ List.prefix_rfl

/-- Neither the documents nor the controllers change. -/
theorem shows_rest (hi : w.Shown) (hstore : w'.store = w.store) (hctrls : w'.ctrls = w.ctrls)
    (hlatest : w.latest ≤ w'.latest) (href : w.nextRef ≤ w'.nextRef) : gathering.Permits w w' := by
  refine ⟨.of_eq hctrls hlatest href, ⟨fun d hd => ?_, fun k p hp => ?_, fun k p hp => ?_⟩, trivial⟩
  · rw [hstore] at hd
    exact (hi.docs d hd).mono hlatest
  · rw [hctrls] at hp
    exact (hi.lists k p hp).mono hlatest
  · rw [hctrls] at hp
    exact Nat.lt_of_lt_of_le (hi.made k p hp) href

/-- The documents change. -/
theorem shows_store {store : Store Path Key Value} (hi : w.Shown)
    (hdocs : ∀ d ∈ store.docs .status, Displayable w.latest d.data) :
    gathering.Permits w { w with store := store } :=
  ⟨.of_eq rfl (Nat.le_refl _) (Nat.le_refl _), ⟨hdocs, hi.lists, hi.made⟩, trivial⟩

/-- A list gets the same photos and more. -/
theorem shows_list (hi : w.Shown) {f : List Photo → List Photo} {more : List Photo}
    (hf : f (w.ctrls.get k).newPhotoList = (w.ctrls.get k).newPhotoList ++ more)
    (hmore : ∀ p ∈ more, p.photo.Shown w.latest ∧ p.ref < w.nextRef) :
    gathering.Permits w { w with
      ctrls := w.ctrls.modify k fun s => { s with newPhotoList := f s.newPhotoList } } := by
  have hmem : ∀ p ∈ f (w.ctrls.get k).newPhotoList, p.photo.Shown w.latest ∧ p.ref < w.nextRef := by
    intro p hp
    rw [hf] at hp
    rcases List.mem_append.mp hp with hp | hp
    · exact ⟨hi.lists k p hp, hi.made k p hp⟩
    · exact hmore p hp
  refine ⟨⟨Nat.le_refl _, Nat.le_refl _, Nat.le_refl _, fun j _ => ?_⟩,
    ⟨hi.docs, fun j p hp => ?_, made_list hi.made fun p hp => (hmem p hp).2⟩, trivial⟩
  · rw [Heap.get_modify]
    split
    · next heq =>
      subst heq
      exact hf ▸ List.prefix_append _ _
    · exact List.prefix_rfl
  · rw [Heap.get_modify] at hp
    split at hp
    · exact (hmem p hp).1
    · exact hi.lists j p hp

/-- A new controller has collected nothing. -/
theorem shows_alloc (hi : w.Shown) (user : Option String) :
    gathering.Permits w { w with ctrls := w.ctrls.alloc { user := user } } := by
  refine ⟨⟨Nat.le_refl _, Nat.le_refl _, Nat.le_succ _, fun j hj => ?_⟩,
    ⟨hi.docs, fun j p hp => ?_, made_alloc hi.made user⟩, trivial⟩
  · have hget : (w.ctrls.alloc { user := user }).get j = w.ctrls.get j := by
      rw [Heap.get_alloc, if_neg (Nat.ne_of_lt hj)]
    exact hget ▸ List.prefix_rfl
  · rw [Heap.get_alloc] at hp
    split at hp
    · exact absurd hp List.not_mem_nil
    · exact hi.lists j p hp

theorem displayable_photosField (hne : photos ≠ []) (hshown : ∀ p ∈ photos, p.Shown latest) :
    Displayable latest (d.merge (photosField photos)) :=
  ⟨photos, rfl, hne, hshown⟩

/-! ## The calls of the app -/

theorem shows_now (hi : w.Shown) : Keeps gathering now w fun date w' =>
    date ≤ w'.latest ∧ w'.ctrls = w.ctrls ∧ w'.nextRef = w.nextRef :=
  keeps_sync fun _ => ⟨shows_rest hi rfl rfl (Nat.le_max_left _ _) (Nat.le_refl _),
    Nat.le_max_right _ _, rfl, rfl⟩

theorem shows_getStatus : Keeps gathering (getStatus uid) w fun docs w' =>
    ∀ d ∈ docs, Displayable w'.latest d.data :=
  keeps_remote fun _ _ hi₁ _ => ⟨.refl hi₁, fun _ hw₂ _ d hd =>
    (hi₁.docs d (mem_docsOf.mp hd).1).mono hw₂.latest⟩

/-- An update with photos that can be shown, at least one, leaves a document that can be displayed.
-/
theorem shows_updatePhotos (hne : photos ≠ []) (hshown : ∀ p ∈ photos, p.Shown w.latest) :
    Runs gathering (updatePhotos id photos) w := by
  refine keeps_bind (Q := fun _ _ => True) (keeps_remote fun w₁ hw₁ hi₁ _ => ?_)
    fun found _ _ hi₂ _ => ?_
  · refine ⟨?_, fun _ _ _ => trivial⟩
    refine shows_store hi₁ fun d hd => ?_
    obtain ⟨d₀, hd₀, rfl⟩ := Store.mem_update.mp hd
    split
    · exact displayable_photosField hne fun p hp => (hshown p hp).mono hw₁.latest
    · exact hi₁.docs d₀ hd₀
  · cases found with
    | true => exact keeps_pure hi₂ trivial
    | false => exact keeps_throw

theorem shows_addDocument {s : Status} (hs : s.photoUrl = some [photo])
    (hshown : photo.Shown w.latest) : Runs gathering (addDocument s) w := by
  refine keeps_remote fun w₁ hw₁ hi₁ t => ⟨shows_store hi₁ fun d hd => ?_, fun _ _ _ => trivial⟩
  rcases Store.mem_add.mp hd with ⟨-, rfl⟩ | hd
  · refine ⟨[photo], ?_, List.cons_ne_nil _ _, fun p hp => ?_⟩
    · simp [Status.toJson, hs, Fields.ofList]
    · rw [List.mem_singleton.mp hp]
      exact hshown.mono hw₁.latest
  · exact hi₁.docs d hd

theorem shows_deleteDocument : Runs gathering (deleteDocument id) w :=
  keeps_remote fun _ _ hi₁ _ => ⟨shows_store hi₁ fun d hd =>
    hi₁.docs d (Store.mem_delete.mp hd).1, fun _ _ _ => trivial⟩

/-- What the app passes to `addStatus`: for a text no address, the text and a color in hexadecimal;
otherwise the address of what was uploaded. -/
def Passed (imageUrl : Option String) (statusType : String)
    (statusText statusBgColor : Option String) : Prop :=
  if statusType = "text" then
    imageUrl = some "" ∧ statusText.isSome = true ∧
      (statusBgColor.bind (intParseRadix 16)).isSome = true
  else
    (statusType = "image" ∨ statusType = "video") ∧ imageUrl.isSome = true ∧
      statusText = none ∧ statusBgColor = none

instance (imageUrl : Option String) (statusType : String)
    (statusText statusBgColor : Option String) :
    Decidable (Passed imageUrl statusType statusText statusBgColor) :=
  inferInstanceAs (Decidable (if statusType = "text" then imageUrl = some "" ∧ _ ∧ _ else _))

/-- The colors of `TextStatus`. -/
def colorsList : List ℕ := [0xff455a64, 0xff7b1fa2, 0xffff9800, 0xff0097a7, 0xff6d4c41, 0xffef5350]

/-- `getColorString` of `TextStatus`: what stands in `Color(0x...)`, eight digits at least. -/
def getColorString (color : ℕ) : String :=
  let digits := Nat.toDigits 16 color
  String.ofList (List.replicate (8 - digits.length) '0' ++ digits)

/-- The call of `TextStatus`. -/
theorem passed_text {color : ℕ} (h : color ∈ colorsList) (text : String) :
    Passed (some "") "text" (some text) (some (getColorString color)) := by
  have hparse : ∀ color ∈ colorsList, (intParseRadix 16 (getColorString color)).isSome = true := by
    decide +kernel
  simp [Passed, hparse color h]

/-- The call of `StatusController.addStatus`. -/
theorem passed_upload {statusType : String} (h : statusType = "image" ∨ statusType = "video")
    (imageUrl : String) : Passed (some imageUrl) statusType none none := by
  have hne : statusType ≠ "text" := by
    rcases h with rfl | rfl <;> decide
  simp [Passed, hne, h]

/-- A new photo can be shown: its timestamp is a reading of the clock, a text comes with a colour in
hexadecimal, and anything else with the address of what was uploaded. -/
theorem shows_newPhoto (hi : w.Shown) {imageUrl : Option String} {statusType : String}
    {statusText statusBgColor : Option String}
    (h : Passed imageUrl statusType statusText statusBgColor) :
    Keeps gathering (newPhoto uid imageUrl statusType statusText statusBgColor) w fun photo w' =>
      photo.Shown w'.latest := by
  unfold newPhoto
  split
  · exact keeps_throw
  · next image himage =>
    refine keeps_bind (shows_now hi) fun date w₁ _ hi₁ h₁ => ?_
    refine keeps_bind (Q := fun _ w' => date ≤ w'.latest)
      (keeps_modify (shows_rest hi₁ rfl rfl (Nat.le_refl _) (Nat.le_refl _)) h₁.1)
      fun _ w₂ _ hi₂ hdate => keeps_pure hi₂ ?_
    unfold Passed at h
    refine ⟨⟨_, _, rfl, intParse_toString _, ?_⟩, ?_, fun htext => ?_, fun _ => rfl⟩
    · have hdiv := Nat.div_le_div_right (c := 1000) hdate
      simp only [Int.natAbs_natCast]
      omega
    · split at h
      · next htype => exact Or.inl (congrArg some htype)
      · exact Or.inr (h.1.imp (congrArg some) (congrArg some))
    · rw [if_pos (Option.some.inj htext)] at h
      exact h.2

/-- `addStatus` with what its callers pass leaves a document that can be displayed: the photos it
had, or none, and the new one, whose timestamp is a reading of the clock. -/
theorem shows_addStatus (hi : w.Shown) {d : ℕ} {imageUrl : Option String} {statusType : String}
    {statusText statusBgColor : Option String}
    (h : Passed imageUrl statusType statusText statusBgColor) :
    Runs gathering (addStatus d imageUrl statusType statusText statusBgColor) w := by
  refine keeps_bind (Q := fun _ _ => True) (keeps_get hi trivial) fun user w₁ _ hi₁ _ => ?_
  cases user with
  | none => exact keeps_throw
  | some user =>
    refine keeps_bind shows_getStatus fun docs w₂ _ hi₂ hdocs => ?_
    cases hhead : docs.head? with
    | some doc =>
      obtain ⟨photos, hphotos, -, hshown⟩ := hdocs doc (List.mem_of_head? hhead)
      have hread : (Status.fromJson doc.data).photoUrl = some photos := by
        simp [Status.fromJson, hphotos, Value.toPhotos?]
      simp only [hread]
      refine keeps_bind (shows_newPhoto hi₂ h) fun photo w₃ hw₃ _ hphoto => ?_
      refine shows_updatePhotos (List.append_ne_nil_of_right_ne_nil _ (List.cons_ne_nil _ _)) ?_
      intro p hp
      rcases List.mem_append.mp hp with hp | hp
      · exact (hshown p hp).mono hw₃.latest
      · rwa [List.mem_singleton.mp hp]
    | none =>
      refine keeps_bind (shows_newPhoto hi₂ h) fun photo w₃ _ hi₃ hphoto => ?_
      refine keeps_bind (shows_now hi₃) fun createdAt w₄ hw₄ _ _ => ?_
      exact shows_addDocument rfl (hphoto.mono hw₄.latest)

/-- The photos are new objects, each another one. -/
structure World.Fresh (w : World) (photos : List Photo) : Prop where
  shown : ∀ p ∈ photos, p.photo.Shown w.latest
  made : ∀ p ∈ photos, p.ref < w.nextRef
  nodup : (photos.map Photo.ref).Nodup
  new : ∀ p ∈ photos, ∀ k, ∀ q ∈ (w.ctrls.get k).newPhotoList, q.ref ≠ p.ref

/-- The photos of a document are made into new objects, which no list of any controller holds. -/
theorem shows_makePhotos (hi : w.Shown) (hshown : ∀ p ∈ photos, p.Shown w.latest) :
    Keeps gathering (makePhotos photos) w fun made w' => w'.Fresh made := by
  refine keeps_sync fun _ => ⟨shows_rest hi rfl rfl (Nat.le_refl _) (Nat.le_add_right _ _), ?_⟩
  refine ⟨fun p hp => ?_, fun p hp => ref_lt_of_mem_objects p hp, nodup_objects _ _,
    fun p hp k q hq => ?_⟩
  · have hmem : p.photo ∈ (objects w.nextRef photos).map Photo.photo := List.mem_map_of_mem hp
    rw [map_photo_objects] at hmem
    exact hshown p.photo hmem
  · have hlt := hi.made k q hq
    have hle := le_ref_of_mem_objects p hp
    exact Nat.ne_of_lt (Nat.lt_of_lt_of_le hlt hle)

/-- After the first of them has been looked at. -/
theorem World.Fresh.tail {p : Photo} {photos : List Photo} (h : w.Fresh (p :: photos))
    (hlatest : w.latest ≤ w'.latest) (href : w'.nextRef = w.nextRef)
    (hlists : ∀ k, ∀ q ∈ (w'.ctrls.get k).newPhotoList,
      q ∈ (w.ctrls.get k).newPhotoList ∨ q = p) : w'.Fresh photos := by
  obtain ⟨hnot, hnodup⟩ := List.nodup_cons.mp h.nodup
  refine ⟨fun q hq => ?_, fun q hq => ?_, hnodup, fun q hq k x hx => ?_⟩
  · exact (h.shown q (List.mem_cons_of_mem _ hq)).mono hlatest
  · exact href ▸ h.made q (List.mem_cons_of_mem _ hq)
  · rcases hlists k x hx with hx | rfl
    · exact h.new q (List.mem_cons_of_mem _ hq) k x hx
    · exact fun heq => hnot (heq ▸ List.mem_map_of_mem hq)

theorem mem_of_modify {f : List Photo → List Photo} {p x : Photo} {j : ℕ}
    (hf : ∀ q ∈ f (w.ctrls.get k).newPhotoList, q ∈ (w.ctrls.get k).newPhotoList ∨ q = p)
    (hx : x ∈ ((w.ctrls.modify k fun s =>
      { s with newPhotoList := f s.newPhotoList }).get j).newPhotoList) :
    x ∈ (w.ctrls.get j).newPhotoList ∨ x = p := by
  rw [Heap.get_modify] at hx
  split at hx
  · next heq =>
    subst heq
    exact hf x hx
  · exact Or.inl hx

/-- A new object is not taken out of a list, so the list is only added to. -/
theorem collect_of_new {list : List Photo} {p : Photo} (h : ∀ q ∈ list, q.ref ≠ p.ref)
    (old : Bool) : collect list p old = list ++ if old then [] else [p] := by
  cases old with
  | true => simp [collect, eraseP_of_ne h]
  | false => rfl

/-- The loop over the photos only adds to the list, since the objects it removes are new and not in
it. By recursion on the photos; the later ones stay new while the list grows. -/
theorem shows_examine : ∀ {photos : List Photo} {w : World}, w.Shown → w.Fresh photos →
    Keeps gathering (examine k photos) w fun _ _ => True
  | [], w, hi, _ => keeps_pure hi trivial
  | p :: photos, w, hi, hfresh => by
    have hp : p ∈ p :: photos := List.mem_cons_self ..
    unfold examine
    split
    · exact keeps_throw
    · next millis _ =>
      refine keeps_bind (shows_now hi) fun date w₁ hw₁ hi₁ ⟨_, hctrls, href⟩ => ?_
      have hnew : ∀ q ∈ (w₁.ctrls.get k).newPhotoList, q.ref ≠ p.ref := by
        rw [hctrls]
        exact hfresh.new p hp k
      have hcollect := collect_of_new hnew (isOld date millis)
      have hmore : ∀ q ∈ (if isOld date millis then [] else [p]),
          q.photo.Shown w₁.latest ∧ q.ref < w₁.nextRef := by
        intro q hq
        split at hq
        · exact absurd hq List.not_mem_nil
        · rw [List.mem_singleton.mp hq]
          exact ⟨(hfresh.shown p hp).mono hw₁.latest, href ▸ hfresh.made p hp⟩
      refine keeps_bind (Q := fun _ w' => w'.Fresh photos)
        (keeps_modify (shows_list (f := fun list => collect list p _) hi₁ hcollect hmore) ?_)
        fun _ w₂ _ hi₂ hfresh₂ => ?_
      · refine hfresh.tail hw₁.latest href fun j x hx => ?_
        rw [← hctrls]
        exact mem_of_modify (f := fun list => collect list p _) (fun q hq => mem_collect hq) hx
      · exact keeps_bind (shows_examine hi₂ hfresh₂) fun _ _ _ hi₃ _ => keeps_pure hi₃ trivial

theorem shows_getPhotoUrl {photos : List Photo} (hi : w.Shown) (hfresh : w.Fresh photos) :
    Runs gathering (getPhotoUrl k photos) w := by
  refine keeps_bind (Q := fun _ w' => w' = w) (keeps_get hi rfl) ?_
  rintro before w _ hi rfl
  refine keeps_bind (shows_examine hi hfresh) fun examined w₁ _ hi₁ _ => ?_
  exact runs_modify (shows_rest hi₁ rfl rfl (Nat.le_refl _) (Nat.le_refl _))

/-- The list that replaces the photos is not empty when it is looked at, and does not become so. -/
theorem shows_replacePhotos (hi : w.Shown) (hk : k < w.ctrls.size) :
    Runs gathering (replacePhotos uid k id) w := by
  refine keeps_bind (Q := fun list w' => w' = w ∧ list = (w.ctrls.get k).newPhotoList)
    (keeps_get hi ⟨rfl, rfl⟩) ?_
  rintro list w _ hi ⟨rfl, rfl⟩
  split
  · exact runs_spawn shows_deleteDocument
  · next hne =>
    refine keeps_bind shows_getStatus fun docs w₁ hw₁ hi₁ hdocs => ?_
    cases docs.head? with
    | none => exact keeps_throw
    | some doc =>
      refine keeps_bind (Q := fun list w' => list = (w₁.ctrls.get k).newPhotoList ∧ w' = w₁)
        (keeps_get hi₁ ⟨rfl, rfl⟩) ?_
      rintro list w₂ _ hi₂ ⟨rfl, rfl⟩
      have hnonempty : (w₂.ctrls.get k).newPhotoList ≠ [] := (hw₁.lists k hk).ne_nil hne
      refine shows_updatePhotos (fun hnil => hnonempty (List.map_eq_nil_iff.mp hnil)) fun p hp => ?_
      obtain ⟨q, hq, rfl⟩ := List.mem_map.mp hp
      exact hi₂.lists k q hq

/-- Removing what is old keeps every document displayable: the list that is written holds photos
that were stored before, and it is not empty where it is written. -/
theorem shows_removeOld {docs : List Document} (hi : w.Shown) (hk : k < w.ctrls.size)
    (hdocs : ∀ d ∈ docs, Displayable w.latest d.data) :
    Runs gathering (removeOld uid k docs) w := by
  unfold removeOld
  cases hhead : docs.head? with
  | none => exact keeps_pure hi trivial
  | some doc =>
    obtain ⟨photos, hphotos, -, hshown⟩ := hdocs doc (List.mem_of_head? hhead)
    have hread : (Status.fromJson doc.data).photoUrl = some photos := by
      simp [Status.fromJson, hphotos, Value.toPhotos?]
    simp only [hread]
    refine keeps_bind (shows_makePhotos hi hshown) fun made w₁ hw₁ hi₁ hfresh => ?_
    refine keeps_seq (shows_getPhotoUrl hi₁ hfresh) fun w₂ hw₂ hi₂ => ?_
    refine keeps_seq runs_pause fun w₃ hw₃ hi₃ => ?_
    have hsize := (hw₁.size.trans hw₂.size).trans hw₃.size
    exact shows_replacePhotos hi₃ (Nat.lt_of_lt_of_le hk hsize)

theorem shows_statusDelete {d : ℕ} (hi : w.Shown) (hk : k < w.ctrls.size) :
    Runs gathering (statusDeleteAfter24Hours d k) w := by
  refine keeps_bind (Q := fun _ _ => True) (keeps_get hi trivial) fun user w₁ hw₁ hi₁ _ => ?_
  cases user with
  | none => exact keeps_pure hi₁ trivial
  | some user =>
    refine runs_spawn (keeps_bind shows_getStatus fun docs w₂ hw₂ hi₂ hdocs => ?_)
    exact shows_removeOld hi₂ (Nat.lt_of_lt_of_le hk (hw₁.size.trans hw₂.size)) hdocs

theorem shows_cleanUp {d : ℕ} (hi : w.Shown) : Runs gathering (cleanUp d) w := by
  refine keeps_bind (Q := fun k w' => k < w'.ctrls.size)
    (keeps_sync fun _ => ⟨shows_alloc hi _, Nat.lt_succ_self _⟩) fun k w₁ _ hi₁ hk => ?_
  exact shows_statusDelete hi₁ hk

/-- What the app calls: `addStatus` with what it passes, and `statusDeleteAfter24Hours` of any
controller. -/
def Action.Called : Action → Prop
  | signIn _ _ | statusDeleteAfter24Hours _ _ | cleanUp _ => True
  | addStatus _ imageUrl statusType statusText statusBgColor =>
    Passed imageUrl statusType statusText statusBgColor
  | makePhotos _ | getPhotoUrl _ _ => False

instance : (a : Action) → Decidable a.Called
  | .signIn _ _ | .statusDeleteAfter24Hours _ _ | .cleanUp _ => inferInstanceAs (Decidable True)
  | .addStatus _ imageUrl statusType statusText statusBgColor =>
    inferInstanceAs (Decidable (Passed imageUrl statusType statusText statusBgColor))
  | .makePhotos _ | .getPhotoUrl _ _ => inferInstanceAs (Decidable False)

/-- **The calls of the app** leave documents that can be displayed. -/
theorem runs_called (hi : w.Shown) {a : Action} (ha : a.Called) (he : a.enabled w) :
    Runs gathering a.body w := by
  cases a with
  | signIn d user => exact runs_modify (shows_rest hi rfl rfl (Nat.le_refl _) (Nat.le_refl _))
  | addStatus d imageUrl statusType statusText statusBgColor => exact shows_addStatus hi ha
  | makePhotos photos | getPhotoUrl k photos => exact ha.elim
  | statusDeleteAfter24Hours d k => exact shows_statusDelete hi he
  | cleanUp d => exact shows_cleanUp hi

/-! ## Runs -/

/-- The events of the app. -/
def Calls (c : Config World (Option String)) (e : Event Action) : Prop :=
  statuses.admits c e ∧
    match e with
    | .call a _ => a.Called
    | .resume _ _ => True

instance (c : Config World (Option String)) : (e : Event Action) → Decidable (Calls c e)
  | .call a _ => inferInstanceAs (Decidable (a.enabled c.world ∧ a.Called))
  | .resume _ _ => inferInstanceAs (Decidable (True ∧ True))

variable {store : Store Path Key Value} {session : ℕ → Option User} {es : List (Event Action)}
  {c : Config World (Option String)}

/-- A document that has been stored at some time of a run. -/
def Seen (c : Config World (Option String)) (es : List (Event Action)) (doc : Document) : Prop :=
  ∃ es', es' <+: es ∧ doc ∈ (statuses.exec c es').world.store.docs .status

/-- The run keeps the protocol up to any of its events, and the clock has not read a later time
then than at its end. -/
theorem shown_of_run (hstore : ∀ d ∈ store.docs .status, Displayable 0 d.data)
    (h : statuses.Run Calls { world := .initial store session } es c) {es' : List (Event Action)}
    (hes' : es' <+: es) :
    (statuses.exec { world := .initial store session } es').world.Shown ∧
      (statuses.exec { world := .initial store session } es').world.latest ≤ c.world.latest := by
  have hinitial : Config.Kept (gathering.protocol (Option String))
      { world := .initial store session } := by
    refine ⟨⟨hstore, fun k p hp => ?_, fun k p hp => ?_⟩, fun th hth => absurd hth List.not_mem_nil⟩
    · exact absurd hp List.not_mem_nil
    · exact absurd hp List.not_mem_nil
  have hprov : ∀ c e, Config.Kept (gathering.protocol (Option String)) c → Calls c e →
      statuses.Provides (gathering.protocol (Option String)) c e := by
    intro c e hc he
    cases e with
    | call a ticks => exact (runs_called hc.inv he.2 he.1).safe _
    | resume i ticks => exact fun _ _ => trivial
  obtain ⟨es₂, rfl⟩ := hes'
  obtain ⟨h₁, h₂⟩ := System.allowed_append.mp h.allowed
  have hkept := (System.run_exec h₁).safe hinitial hprov
  refine ⟨hkept.inv, ?_⟩
  rw [h.exec_eq, System.exec_append]
  exact ((System.run_exec h₂).later hkept hprov).latest

/-- Whatever has been stored can be displayed, as long as the clocks read times that a `DateTime`
holds. -/
theorem Seen.displayable {doc : Document}
    (hdoc : Seen { world := .initial store session } es doc)
    (hstore : ∀ d ∈ store.docs .status, Displayable 0 d.data)
    (h : statuses.Run Calls { world := .initial store session } es c)
    (hclock : c.world.latest ≤ maxMillis * 1000) : Displayable 0 doc.data := by
  obtain ⟨es', hes', hmem⟩ := hdoc
  obtain ⟨hshown, hlatest⟩ := shown_of_run hstore h hes'
  obtain ⟨photos, hphotos, hne, hphotosShown⟩ := hshown.docs doc hmem
  exact ⟨photos, hphotos, hne, fun p hp => (hphotosShown p hp).of_latest (hlatest.trans hclock)⟩

/-- **Stored statuses can be displayed.** In every run of the calls of the app, whose clocks read
times that a `DateTime` holds, every document has photos and all that is read of them. The status of
the user is shown after any snapshots, unless it is a video and the widget was new for something
else; and so is a list of statuses, unless one is a video and the first is something else. -/
theorem statuses_displayed_iff (hstore : ∀ d ∈ store.docs .status, Displayable 0 d.data)
    (h : statuses.Run Calls { world := .initial store session } es c)
    (hclock : c.world.latest ≤ maxMillis * 1000) :
    (∀ doc, Seen { world := .initial store session } es doc → Displayable 0 doc.data ∧
      (initStoryPageItems (Status.fromJson doc.data)).isSome = true ∧
      ∀ photos, doc.data .photoUrl = some (.photos photos) →
        ∀ p ∈ photos, (timestampOf p).isSome = true) ∧
    (∀ snapshots : List Snapshot,
      (∀ docs, some docs ∈ snapshots →
        ∀ doc ∈ docs, Seen { world := .initial store session } es doc) →
      ∀ before snapshot after doc, snapshots = before ++ snapshot :: after →
        CurrentUserStatus.child snapshot = some doc →
        ((CurrentUserStatus.leading before doc).isSome = true ↔
          (IsVideo (Value.toPhotos? (doc .photoUrl)) →
            IsVideo (Value.toPhotos? (CurrentUserStatus.first before doc .photoUrl))))) ∧
    ∀ status : List Status,
      (∀ s ∈ status, ∃ doc, Seen { world := .initial store session } es doc ∧
        s = Status.fromJson doc.data) →
      ((∀ index < status.length, (StatusListCard.leading status index).isSome = true) ↔
        ∀ s ∈ status, IsVideo s.photoUrl → ∀ first ∈ status.head?, IsVideo first.photoUrl) := by
  have hseen {doc : Document} (hdoc : Seen { world := .initial store session } es doc) :
      Displayable 0 doc.data := hdoc.displayable hstore h hclock
  refine ⟨fun doc hdoc => ?_, fun snapshots hsnapshots before snapshot after doc heq hchild => ?_,
    fun status hstatus => ?_⟩
  · have hd := hseen hdoc
    refine ⟨hd, hd.pages, fun photos hphotos p hp => ?_⟩
    obtain ⟨photos', hphotos', -, hshown⟩ := hd
    rw [hphotos] at hphotos'
    obtain rfl := Value.photos.inj (Option.some.inj hphotos')
    exact (hshown p hp).timestampOf_isSome
  · subst heq
    have hdoc : Displayable 0 doc := by
      obtain ⟨docs, rfl, d, hd, rfl⟩ := child_eq_some hchild
      exact hseen (hsnapshots docs (by simp) d hd)
    exact hdoc.leading fun docs hdocs d hd =>
      hseen (hsnapshots docs (List.mem_append_left _ hdocs) d hd)
  · have hcards : ∀ s ∈ status, ∃ d, Displayable 0 d ∧ s = Status.fromJson d := by
      intro s hs
      obtain ⟨doc, hdoc, heq⟩ := hstatus s hs
      exact ⟨doc.data, hseen hdoc, heq⟩
    rw [List.forall_mem_iff_getElem]
    exact forall_congr' fun index => forall_congr' fun hindex => Displayable.card hindex hcards

/-! ### Alice adds statuses -/

/-- What `snapshots()` of the statuses of a user gives. -/
def snapshotOf (phone : String) (w : World) : Snapshot :=
  some ((w.store.docs .status).filter fun doc => doc.data .phoneNumber = some (.str phone))

/-- Alice adds a text. -/
def oneText : List (Event Action) :=
  .call (.signIn 0 (some alice)) (atTime 0) ::
    callAndResume (.addStatus 0 (some "") "text" (some "hi") (some "ff455a64")) 4

/-- Alice adds a text and something else, and the old photos are removed. -/
def twoPhotos (statusType : String) : List (Event Action) :=
  oneText ++ callAndResume (.addStatus 0 (some "5000") statusType none none) 4 ++
    callAndResume (.cleanUp 0) 7

/-- Where nobody has any statuses. -/
def nobody : Config World (Option String) := { world := .initial .empty fun _ => none }

/-- What the screen of Alice gets after the text and after both. -/
def twoSnapshots (statusType : String) : List Snapshot :=
  [snapshotOf "+1" (statuses.exec nobody oneText).world,
    snapshotOf "+1" (statuses.exec nobody (twoPhotos statusType)).world]

theorem seen_twoSnapshots {statusType : String} {docs : List Document}
    (hdocs : some docs ∈ twoSnapshots statusType) :
    ∀ doc ∈ docs, Seen nobody (twoPhotos statusType) doc := by
  have hsnapshot {es : List (Event Action)} (hes : es <+: twoPhotos statusType)
      (heq : some docs = snapshotOf "+1" (statuses.exec nobody es).world) :
      ∀ doc ∈ docs, Seen nobody (twoPhotos statusType) doc := by
    rintro doc hdoc
    rw [Option.some.inj heq] at hdoc
    exact ⟨es, hes, (List.mem_filter.mp hdoc).1⟩
  rcases List.mem_pair.mp hdocs with heq | heq
  · exact hsnapshot ⟨_, (List.append_assoc ..).symm⟩ heq
  · exact hsnapshot List.prefix_rfl heq

/-- An image after a text is displayed by the widget that showed the text; only a video needs the
controller made in `initState`. -/
theorem statuses_displayed_iff_image : ∃ doc,
    CurrentUserStatus.child (snapshotOf "+1" (statuses.exec nobody (twoPhotos "image")).world) =
      some doc ∧ Displayable 0 doc ∧
      (CurrentUserStatus.leading [snapshotOf "+1" (statuses.exec nobody oneText).world]
        doc).isSome = true := by
  have hrun : statuses.Run Calls { world := .initial .empty fun _ => none } (twoPhotos "image")
      (statuses.exec nobody (twoPhotos "image")) := System.run_exec (by decide +kernel)
  obtain ⟨hdocs, hleading, -⟩ :=
    statuses_displayed_iff (fun d hd => absurd hd List.not_mem_nil) hrun (by decide +kernel)
  have himage : (CurrentUserStatus.child (snapshotOf "+1" (statuses.exec nobody
      (twoPhotos "image")).world)).map (fun doc => decide (IsVideo (Value.toPhotos?
        (doc .photoUrl)))) = some false := by
    decide +kernel
  obtain ⟨doc, hchild, hvideo⟩ := Option.map_eq_some_iff.mp himage
  refine ⟨doc, hchild, ?_, ?_⟩
  · obtain ⟨docs, heq, doc, hdoc, rfl⟩ := child_eq_some hchild
    exact (hdocs doc (seen_twoSnapshots (by simp [twoSnapshots, heq]) doc hdoc)).1
  · exact (hleading (twoSnapshots "image") (fun docs => seen_twoSnapshots) [_] _ [] doc rfl
      hchild).mpr fun h => absurd h (of_decide_eq_false hvideo)

/-- **A video after a text is not shown**: the widget has been new for the text, and has made no
`videoController`. -/
theorem video_after_text : ¬ ∀ (es : List (Event Action)) (c : Config World (Option String)),
    statuses.Run Calls nobody es c → c.world.latest ≤ maxMillis * 1000 →
      ∀ snapshots : List Snapshot,
        (∀ docs, some docs ∈ snapshots → ∀ doc ∈ docs, Seen nobody es doc) →
        ∀ before snapshot after doc, snapshots = before ++ snapshot :: after →
          CurrentUserStatus.child snapshot = some doc →
          (CurrentUserStatus.leading before doc).isSome = true := by
  intro hclaim
  have hfails : (CurrentUserStatus.child (snapshotOf "+1" (statuses.exec nobody
      (twoPhotos "video")).world)).map (fun doc => (CurrentUserStatus.leading
        [snapshotOf "+1" (statuses.exec nobody oneText).world] doc).isSome) = some false := by
    decide +kernel
  obtain ⟨doc, hchild, hdoc⟩ := Option.map_eq_some_iff.mp hfails
  have hshown := hclaim (twoPhotos "video") _ (System.run_exec (by decide +kernel))
    (by decide +kernel) (twoSnapshots "video") (fun docs => seen_twoSnapshots) [_] _ [] doc rfl
    hchild
  rw [hdoc] at hshown
  exact Bool.false_ne_true hshown

/-- Nor is a video shown in a list of statuses that begins with a text. -/
example : StatusListCard.leading
    ([photoAt "0", { statusType := some "video", image := some "5000" }].map fun photo =>
      Status.fromJson (photosField [photo])) 1 = none := by decide

end FlutterTheme.Statuses
