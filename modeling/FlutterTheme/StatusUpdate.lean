import FlutterTheme.StatusExpiry

/-!
# Statuses that are added and cleaned up

`addStatus` and `statusDeleteAfter24Hours` read the document of a user, and write it later;
nothing keeps another call of the user from writing it in between (`updates_lost`). Where
the calls of a user come one after the other, every young photo is stored as often as it was
added (`updates_complete`), whatever the other users do.
-/

namespace FlutterTheme.Statuses

open EventLoop DocStore

/-! ## The photos of a user -/

/-- A photo that is young is young before. -/
theorem isYoung_antitone {date date' : ℕ} {photo : PhotoUrl} (hle : date ≤ date')
    (h : isYoung date' photo = true) : isYoung date photo = true := by
  obtain ⟨millis, hmillis, hlt⟩ := isYoung_iff.mp h
  exact isYoung_iff.mpr ⟨millis, hmillis, by omega⟩

/-- How often a photo is stored for a user. -/
def World.stored (w : World) (u : String) (p : PhotoUrl) : ℕ :=
  ((w.docsOf u).flatMap fun d => (photosOf d).getD []).count p

/-- How often a user has passed a photo to `addStatus`. -/
def World.passed (w : World) (u : String) (p : PhotoUrl) : ℕ :=
  ((w.addedBy u).map Added.photo).count p

/-- The user has at most one document, in which every young photo occurs as often as it did
before, and as it was added. -/
structure World.Complete (u : String) (before : PhotoUrl → ℕ) (w : World) : Prop where
  unique : (w.docsOf u).length ≤ 1
  photos : ∀ d ∈ w.docsOf u, (photosOf d).isSome = true
  kept : ∀ p, isYoung w.latest p = true → w.stored u p = before p + w.passed u p

section Complete

variable {u : String} {before : PhotoUrl → ℕ} {w w' : World}

theorem World.Complete.mono (h : w.Complete u before) (hdocs : w'.docsOf u = w.docsOf u)
    (hadded : w'.addedBy u = w.addedBy u) (hlatest : w.latest ≤ w'.latest) :
    w'.Complete u before where
  unique := hdocs ▸ h.unique
  photos := hdocs ▸ h.photos
  kept p hp := by
    rw [World.stored, World.passed, hdocs, hadded]
    exact h.kept p (isYoung_antitone hlatest hp)

/-- The other users leave it so. -/
theorem World.Complete.untouched (h : w.Complete u before) (hw : Untouched u w w') :
    w'.Complete u before :=
  h.mono hw.docs hw.added hw.latest

/-- The only document, if there is one. -/
theorem World.Complete.docs (h : w.Complete u before) :
    w.docsOf u = [] ∨ ∃ doc photos, w.docsOf u = [doc] ∧ photosOf doc = some photos := by
  rcases hdocs : w.docsOf u with _ | ⟨doc, _ | ⟨doc', docs⟩⟩
  · exact Or.inl rfl
  · have hmem : doc ∈ w.docsOf u := by simp [hdocs]
    obtain ⟨photos, hphotos⟩ := Option.isSome_iff_exists.mp (h.photos doc hmem)
    exact Or.inr ⟨doc, photos, rfl, hphotos⟩
  · have hunique := h.unique
    simp [hdocs] at hunique

theorem stored_of_docs {doc : Document} {photos : List PhotoUrl} (hdocs : w.docsOf u = [doc])
    (hphotos : photosOf doc = some photos) (p : PhotoUrl) : w.stored u p = photos.count p := by
  simp [World.stored, hdocs, hphotos]

theorem stored_of_nil (hdocs : w.docsOf u = []) (p : PhotoUrl) : w.stored u p = 0 := by
  simp [World.stored, hdocs]

/-- The document has other photos now, and every young one as often as before, and as it was
added since. -/
theorem World.Complete.written (h : w.Complete u before) (new : List Added)
    (hlatest : w.latest ≤ w'.latest) {doc : Document} {photos : List PhotoUrl} (hdocs : w'.docsOf u = [doc])
    (hphotos : photosOf doc = some photos) (hadded : w'.addedBy u = new ++ w.addedBy u)
    (hcount : ∀ p, isYoung w'.latest p = true →
      photos.count p = w.stored u p + (new.map Added.photo).count p) :
    w'.Complete u before where
  unique := by simp [hdocs]
  photos d hd := by
    rw [hdocs, List.mem_singleton] at hd
    simp [hd, hphotos]
  kept p hp := by
    rw [stored_of_docs hdocs hphotos, hcount p hp, h.kept p (isYoung_antitone hlatest hp),
      World.passed, World.passed, hadded, List.map_append, List.count_append]
    omega

/-- There is no document any more, and no young photo was in it. -/
theorem World.Complete.deleted (h : w.Complete u before) (hlatest : w.latest ≤ w'.latest)
    (hdocs : w'.docsOf u = []) (hadded : w'.addedBy u = w.addedBy u)
    (hcount : ∀ p, isYoung w'.latest p = true → w.stored u p = 0) : w'.Complete u before where
  unique := by simp [hdocs]
  photos d hd := by simp [hdocs] at hd
  kept p hp := by
    rw [stored_of_nil hdocs, World.passed, hadded, ← hcount p hp]
    exact h.kept p (isYoung_antitone hlatest hp)

end Complete

/-! ## The documents of a user after an operation of the user -/

section Documents

variable {u : String} {w w' : World} {doc : Document}

theorem docsOf_update (hdocs : w.docsOf u = [doc]) {photos : List PhotoUrl}
    (hstore : w'.store = w.store.update .status doc.id (photosField photos)) :
    w'.docsOf u = [⟨doc.id, doc.data.merge (photosField photos)⟩] := by
  rw [World.docsOf] at hdocs
  rw [World.docsOf, hstore, Store.query_update fun _ _ _ => rfl, hdocs]
  simp

theorem photosOf_merge (doc : Document) (photos : List PhotoUrl) :
    photosOf ⟨doc.id, doc.data.merge (photosField photos)⟩ = some photos := rfl

theorem docsOf_delete (hdocs : w.docsOf u = [doc])
    (hstore : w'.store = w.store.delete .status doc.id) : w'.docsOf u = [] := by
  rw [World.docsOf] at hdocs
  rw [World.docsOf, hstore, Store.query_delete, hdocs]
  simp

theorem docsOf_add (hdocs : w.docsOf u = []) {pos : ℕ} {s : Status} (hs : s.uid = some u)
    (hstore : w'.store = w.store.add .status pos s.toJson) :
    w'.docsOf u = [⟨.auto w.store.next, s.toJson⟩] := by
  have huid : Fields.isEqualTo .uid (.str u) s.toJson = true := by
    rw [Fields.isEqualTo_iff]
    simp [Status.toJson, Fields.ofList, Value.ofString, hs]
  have hperm := Store.perm_query_add (s := w.store) (p := .status) pos huid
  rw [World.docsOf] at hdocs
  rw [hdocs, ← hstore] at hperm
  exact List.perm_singleton.mp hperm

theorem photosOf_toJson (id : DocId) (s : Status) : photosOf ⟨id, s.toJson⟩ = s.photoUrl := by
  cases hphotos : s.photoUrl <;>
    simp [photosOf, Status.fromJson, Status.toJson, Fields.ofList, Value.toPhotos?, hphotos]

end Documents

/-! ## The calls of the user -/

theorem lenient_apart (u? : Option String) (k : ℕ) : Lenient (apart u?) k where
  clock _ _ hi := ⟨.of_eq rfl rfl (Nat.le_refl _), hi⟩
  list _ f hi hf := ⟨later_list k f, made_list hi fun p hp => (hf p hp).elim (hi k p) id⟩
  log _ _ hi := ⟨.of_eq rfl rfl (Nat.le_refl _), hi⟩

section Calls

variable {u : String} {before : PhotoUrl → ℕ} {Post : World → Prop} {w : World}

theorem solo_getStatus : Async.Solo (apart (some u)) Post (getStatus u) w
    fun docs w' => docs = w.docsOf u ∧ Untouched u w w' := by
  refine Async.solo_remote fun w' _ hi hs _ => ⟨.refl _, hi, fun w'' _ _ hs' => ?_⟩
  exact ⟨(hs u rfl).docs, (hs u rfl).trans (hs' u rfl)⟩

/-- A photo is made, unless there is no image. -/
theorem solo_newPhoto (hi : w.Made) (hpost : Post w) (imageUrl : Option String)
    (statusType : String) (statusText statusBgColor : Option String) :
    Async.Solo (apart (some u)) Post (newPhoto u imageUrl statusType statusText statusBgColor) w
      fun photo w' => ∃ date, w' =
        { w with latest := max w.latest date, added := ⟨u, photo⟩ :: w.added } := by
  unfold newPhoto
  split
  · exact Async.solo_throw hpost
  · refine Async.solo_bind (solo_now (lenient_apart _ 0) hi) ?_
    rintro date w₁ _ hi₁ rfl
    refine Async.solo_bind (Q := fun _ w' => w' = _) (Async.solo_modify ?_ hi₁ rfl) ?_
    · exact .of_eq rfl rfl (Nat.le_refl _)
    · rintro _ w₂ _ hi₂ rfl
      exact Async.solo_pure hi₂ ⟨date, rfl⟩

/-- **`addStatus`**, when no other call of the user is under way: the photo goes into the document
there is, or into a new one where the user has none. -/
theorem alone_addStatus {d : ℕ} {user : User} (huser : w.session d = some user) (hi : w.Made)
    (h : w.Complete user.id before) (imageUrl : Option String) (statusType : String)
    (statusText statusBgColor : Option String) :
    (addStatus d imageUrl statusType statusText statusBgColor).task.Alone (apart (some user.id))
      (World.Complete user.id before) w := by
  refine Async.Solo.andThen (Q := fun user' w' => w' = w ∧ user' = some user)
    (Async.solo_get hi ⟨rfl, huser⟩) ?_
  rintro _ w _ hi ⟨rfl, rfl⟩
  refine Async.Solo.andThen solo_getStatus ?_
  rintro docs w₁ _ hi₁ ⟨rfl, hw₁⟩
  have h₁ := h.untouched hw₁
  rcases h.docs with hdocs | ⟨doc, photos, hdocs, hphotos⟩
  · -- a document is made
    simp only [hdocs, List.head?_nil]
    refine Async.Solo.andThen (solo_newPhoto hi₁ h₁ _ _ _ _) ?_
    rintro photo w₂ _ hi₂ ⟨date, hw₂⟩
    refine Async.Solo.andThen (solo_now (lenient_apart _ 0) hi₂) ?_
    rintro createdAt w₃ _ hi₃ hw₃
    refine Async.Solo.task (Async.solo_remote fun w₄ _ hi₄ hs t => ?_)
    have hw₄ := hs _ rfl
    refine ⟨later_add _ _, hi₄, fun w₅ _ _ hs' => World.Complete.untouched ?_ (hs' _ rfl)⟩
    have hdocs₁ : w₁.docsOf user.id = [] := hw₁.docs.trans hdocs
    -- the others have not made a document of the user meanwhile
    have hdocs₄ : w₄.docsOf user.id = [] := by
      rw [hw₄.docs, hw₃, hw₂]
      exact hdocs₁
    refine h₁.written [⟨user.id, photo⟩] ?_ (docsOf_add hdocs₄ ?_ rfl)
      (photosOf_toJson _ _) ?_ ?_
    · exact Nat.le_trans (by simp [hw₃, hw₂]) hw₄.latest
    · rfl
    · have hadded := hw₄.added
      rw [hw₃, hw₂] at hadded
      exact hadded.trans (by simp [World.addedBy])
    · exact fun p _ => by simp [stored_of_nil hdocs₁]
  · -- the photo is appended
    have hphotos' := hphotos
    rw [photosOf] at hphotos'
    simp only [hdocs, List.head?_cons, hphotos']
    refine Async.Solo.andThen (solo_newPhoto hi₁ h₁ _ _ _ _) ?_
    rintro photo w₂ _ hi₂ ⟨date, hw₂⟩
    refine Async.Solo.task (solo_updatePhotos fun w₃ _ hi₃ hs => ?_)
    have hw₃ := hs _ rfl
    refine ⟨later_update _ _, hi₃, fun w₄ _ _ hs' => World.Complete.untouched ?_ (hs' _ rfl)⟩
    have hdocs₁ : w₁.docsOf user.id = [doc] := hw₁.docs.trans hdocs
    have hdocs₃ : w₃.docsOf user.id = [doc] := by
      rw [hw₃.docs, hw₂]
      exact hdocs₁
    refine h₁.written [⟨user.id, photo⟩] ?_ (docsOf_update hdocs₃ rfl)
      (photosOf_merge _ _) ?_ ?_
    · exact Nat.le_trans (by simp [hw₂]) hw₃.latest
    · have hadded := hw₃.added
      rw [hw₂] at hadded
      exact hadded.trans (by simp [World.addedBy])
    · exact fun p _ => by rw [stored_of_docs hdocs₁ hphotos, List.count_append]; rfl

/-- A young photo is collected as often as it is stored. -/
theorem count_young {examined : List (Photo × ℕ)} {date : ℕ} {p : PhotoUrl}
    (hdate : ∀ x ∈ examined, x.2 ≤ date) (hp : isYoung date p = true) :
    ((young examined).map Photo.photo).count p = (examined.map (·.1.photo)).count p := by
  induction examined with
  | nil => rfl
  | cons x examined ih =>
    have ih := ih fun y hy => hdate y (List.mem_cons_of_mem _ hy)
    rw [young_cons, List.map_cons, List.count_cons]
    by_cases hx : isYoung x.2 x.1.photo = true
    · rw [if_pos hx, List.map_cons, List.count_cons, ih]
    · have hne : x.1.photo ≠ p := by
        rintro rfl
        exact hx (isYoung_antitone (hdate x (List.mem_cons_self ..)) hp)
      rw [if_neg hx, ih]
      simp [hne]

/-- A controller of the user has collected the young photos of the only document. -/
structure World.Collected (u : String) (before : PhotoUrl → ℕ) (k : ℕ) (doc : Document)
    (list : List Photo) (w : World) : Prop where
  complete : w.Complete u before
  docs : w.docsOf u = [doc]
  size : k < w.ctrls.size
  user : (w.ctrls.get k).user = some u
  collected : (w.ctrls.get k).newPhotoList = list
  count : ∀ p, isYoung w.latest p = true → (list.map Photo.photo).count p = w.stored u p

/-- What has been collected stays so while only others are at work. -/
theorem World.Collected.untouched {k : ℕ} {doc : Document} {list : List Photo} {w' : World}
    (h : w.Collected u before k doc list) (hw : Untouched u w w') :
    w'.Collected u before k doc list where
  complete := h.complete.untouched hw
  docs := hw.docs.trans h.docs
  size := Nat.lt_of_lt_of_le h.size hw.size
  user := by rw [hw.ctrls k h.size h.user, h.user]
  collected := by rw [hw.ctrls k h.size h.user, h.collected]
  count p hp := by
    rw [h.count p (isYoung_antitone hw.latest hp), World.stored, World.stored, hw.docs]

/-- The collected photos are written back, or the document is deleted: in both cases every young
photo is kept as often as before. -/
theorem complete_replacePhotos (hi : w.Made) {k : ℕ} {doc : Document} {list : List Photo}
    (h : w.Collected u before k doc list) :
    (replacePhotos u k doc.id).task.Alone (apart (some u)) (World.Complete u before) w := by
  refine Async.Solo.andThen (Q := fun photoUrl w' => w' = w ∧ photoUrl = list)
    (Async.solo_get hi ⟨rfl, h.collected⟩) ?_
  rintro photoUrl w _ hi ⟨rfl, rfl⟩
  split
  · next hnil =>
    refine alone_spawn (Async.Solo.task (Async.solo_remote fun w₁ _ hi₁ hs _ => ?_))
    have h₁ := h.untouched (hs u rfl)
    refine ⟨later_delete _, hi₁, fun w₂ _ _ hs' => World.Complete.untouched ?_ (hs' u rfl)⟩
    refine h₁.complete.deleted (Nat.le_refl _) (docsOf_delete h₁.docs rfl) rfl fun p hp => ?_
    rw [← h₁.count p hp, hnil]
    rfl
  · refine Async.Solo.andThen solo_getStatus ?_
    rintro docs w₁ _ hi₁ ⟨rfl, hw₁⟩
    have h₁ := h.untouched hw₁
    simp only [h.docs, List.head?_cons]
    refine Async.Solo.andThen (Q := fun list w' => w' = w₁ ∧ list = photoUrl)
      (Async.solo_get hi₁ ⟨rfl, h₁.collected⟩) ?_
    rintro _ w₁ _ hi₁ ⟨rfl, rfl⟩
    refine Async.Solo.task (solo_updatePhotos fun w₂ _ hi₂ hs => ?_)
    have h₂ := h₁.untouched (hs u rfl)
    refine ⟨later_update _ _, hi₂, fun w₃ _ _ hs' => World.Complete.untouched ?_ (hs' u rfl)⟩
    exact h₂.complete.written [] (Nat.le_refl _) (docsOf_update h₂.docs rfl)
      (photosOf_merge _ _) rfl fun p hp => h₂.count p hp

/-- A new controller collects the young photos and no others, so that what is written back has lost
none of them. -/
theorem complete_removeOld (hi : w.Made) (h : w.Complete u before) {k : ℕ} (hk : k < w.ctrls.size)
    (huser : (w.ctrls.get k).user = some u) (hlist : (w.ctrls.get k).newPhotoList = []) :
    (removeOld u k (w.docsOf u)).task.Alone (apart (some u)) (World.Complete u before) w := by
  unfold removeOld
  rcases h.docs with hdocs | ⟨doc, photos, hdocs, hphotos⟩
  · simp only [hdocs, List.head?_nil]
    exact Async.Solo.task (Async.solo_pure hi h)
  · have hphotos' := hphotos
    rw [photosOf] at hphotos'
    simp only [hdocs, List.head?_cons, hphotos']
    refine Async.Solo.andThen (Q := fun made w' => made = objects w.nextRef photos ∧
      w' = { w with nextRef := w.nextRef + photos.length }) (Async.solo_sync fun _ => ?_) ?_
    · have hp : (apart (some u)).Permits w { w with nextRef := w.nextRef + photos.length } :=
        permits_nextRef hi _
      exact ⟨hp.le, hp.inv, rfl, rfl⟩
    · rintro _ w₁ _ hi₁ ⟨rfl, rfl⟩
      refine Async.Solo.andThen (solo_getPhotoUrl (lenient_apart _ k) hi₁
        (fun _ => ref_lt_of_mem_objects _) ?_) ?_
      · -- an unreadable timestamp ends the call
        intro _ w' examined he
        exact h.mono (by rw [World.docsOf, he.store]; rfl) (by rw [World.addedBy, he.added]; rfl)
          he.latest
      · rintro _ w₂ _ hi₂ ⟨examined, he⟩
        have hnil : ∀ p ∈ (w.ctrls.get k).newPhotoList, p.ref < w.nextRef := by simp [hlist]
        have hyoung := collectAll_objects hnil he.same
        rw [hlist, List.nil_append] at hyoung
        have hexamined : examined.map (·.1.photo) = photos := by
          have hmap := congrArg (List.map Photo.photo) he.same
          rwa [List.map_map, map_photo_objects] at hmap
        have hdocs₂ : w₂.docsOf u = [doc] := by
          rw [World.docsOf, he.store]
          exact hdocs
        have h₂ : w₂.Collected u before k doc (young examined) := by
          refine ⟨h.mono (hdocs₂.trans hdocs.symm) (by rw [World.addedBy, he.added]; rfl)
            he.latest, hdocs₂, he.size ▸ hk, (he.user k).trans huser, ?_, fun p hp => ?_⟩
          · rw [he.list, ← hyoung, ← hlist]
          · rw [count_young he.instants hp, hexamined, stored_of_docs hdocs₂ hphotos]
        refine Async.Solo.andThen
          (Q := fun _ w' => w'.Collected u before k doc (young examined))
          (Async.solo_pause fun w' _ _ hs => h₂.untouched (hs u rfl)) ?_
        rintro _ w₃ _ hi₃ h₃
        exact complete_replacePhotos hi₃ h₃

/-- **`statusDeleteAfter24Hours`** of a new controller, when no other call of the user is
under way. -/
theorem alone_cleanUp {d : ℕ} {user : User} (huser : w.session d = some user) (hi : w.Made)
    (h : w.Complete user.id before) :
    (cleanUp d).task.Alone (apart (some user.id)) (World.Complete user.id before) w := by
  refine Async.Solo.andThen (Q := fun k w' => k = w.ctrls.size ∧
      w' = { w with ctrls := w.ctrls.alloc { user := some user.id } })
    (Async.solo_sync fun _ => ?_) ?_
  · rw [huser]
    exact ⟨later_alloc _, made_alloc hi _, rfl, rfl⟩
  · rintro _ w₁ _ hi₁ ⟨rfl, rfl⟩
    refine Async.Solo.andThen (Q := fun user' w' => w' = _ ∧ user' = some user)
      (Async.solo_get hi₁ ⟨rfl, huser⟩) ?_
    rintro _ w₁ _ hi₁ ⟨rfl, rfl⟩
    refine alone_spawn (Async.Solo.andThen solo_getStatus ?_)
    rintro docs w₂ _ hi₂ ⟨rfl, hw₂⟩
    have hnew := Heap.get_alloc w.ctrls { user := some user.id } w.ctrls.size
    rw [if_pos rfl] at hnew
    have hk := hw₂.ctrls w.ctrls.size (Nat.lt_succ_self _) (by rw [hnew])
    rw [hnew] at hk
    have h₁ : World.Complete user.id before
        { w with ctrls := w.ctrls.alloc { user := some user.id } } := h.mono rfl rfl (Nat.le_refl _)
    have h₂ := h₁.untouched hw₂
    rw [← hw₂.docs]
    exact complete_removeOld hi₂ h₂ (Nat.lt_of_lt_of_le (Nat.lt_succ_self _) hw₂.size)
      (by rw [hk]) (by rw [hk])

end Calls

/-! ## Runs -/

/-- A status is added, or a new controller cleans up. -/
def Action.Updates : Action → Prop
  | signIn _ _ | makePhotos _ | addStatus _ _ _ _ _ | cleanUp _ => True
  | getPhotoUrl _ _ | statusDeleteAfter24Hours _ _ => False

instance : (a : Action) → Decidable a.Updates
  | .signIn _ _ | .makePhotos _ | .addStatus _ _ _ _ _ | .cleanUp _ =>
    inferInstanceAs (Decidable True)
  | .getPhotoUrl _ _ | .statusDeleteAfter24Hours _ _ => inferInstanceAs (Decidable False)

/-- Statuses are added and cleaned up; the calls of the user come one after the other, and
none of their operations fails. -/
structure InTurn (u : String) (c : Config World (Option String)) (e : Event Action) : Prop where
  admitted : statuses.admits c e
  updates : ∀ a ticks, e = .call a ticks → a.Updates
  exclusively : statuses.Exclusively (some u) c e

/-- A call that works on another user leaves the user alone. -/
theorem Action.Updates.apart {a : Action} (ha : a.Updates) {u : String} {w : World}
    (hu : a.scope w ≠ some u) : a.Apart (some u) w := by
  cases a with
  | signIn | makePhotos => trivial
  | addStatus | cleanUp =>
    intro user huser h
    exact hu (by simp [Action.scope, huser, Option.some.inj h])
  | getPhotoUrl | statusDeleteAfter24Hours => exact ha.elim

/-- `InTurn`, as far as it can be computed. -/
def OneByOne (u : String) (c : Config World (Option String)) : Event Action → Prop
  | .call a _ => a.enabled c.world ∧ a.Updates ∧
    (a.scope c.world = some u → ∀ th ∈ c.threads, th.scope ≠ some u)
  | .resume _ _ => True

instance (u : String) (c : Config World (Option String)) :
    (e : Event Action) → Decidable (OneByOne u c e)
  | .call a _ => inferInstanceAs (Decidable (a.enabled c.world ∧ a.Updates ∧
    (a.scope c.world = some u → ∀ th ∈ c.threads, th.scope ≠ some u)))
  | .resume _ _ => inferInstanceAs (Decidable True)

theorem OneByOne.inTurn {u : String} {c : Config World (Option String)} {e : Event Action}
    (h : OneByOne u c e) (hs : e.Succeeds) : InTurn u c e := by
  cases e with
  | call a ticks =>
    refine ⟨h.1, ?_, fun hu => ⟨h.2.2 hu, hs⟩⟩
    rintro _ _ ⟨⟩
    exact h.2.1
  | resume i ticks => exact ⟨trivial, nofun, fun _ _ _ => hs⟩

/-- Two devices, and no status. -/
def noStatus (user : ℕ → User) : Config World (Option String) :=
  ⟨World.initial Store.empty fun d => some (user d), [], []⟩

/-- Two calls that are resumed by turns. -/
def byTurns (a a' : Action) (n : ℕ) : List (Event Action) :=
  .call a (atTime 200000000000) :: .call a' (atTime 200000000000) :: resumes n

/-- The text of a new status. -/
def addText (d : ℕ) : Action := .addStatus d none "text" (some "hi") none

/-- Alice on the device 0, and Bob on the others. -/
def aliceAndBob (d : ℕ) : User := if d = 0 then alice else { id := "bob" }

/-- Both add a status, and clean up. -/
def bothUpdate : List (Event Action) :=
  byTurns (addText 0) (addText 1) 8 ++ byTurns (.cleanUp 0) (.cleanUp 1) 14

/-- What this leads to. -/
def twoUsers : Config World (Option String) := statuses.exec (noStatus aliceAndBob) bothUpdate

/-- Alice on two devices. -/
def twoDevices : Config World (Option String) :=
  statuses.exec (noStatus fun _ => alice) (byTurns (addText 0) (addText 1) 8)

theorem succeeds_resumes {n : ℕ} : ∀ e ∈ resumes n, e.Succeeds :=
  Event.succeeds_replicate fun _ => rfl

/-- **No status is lost** when the calls of the user come one after the other: whenever none
of them is under way, the user has at most one document, in which every young photo occurs
as often as before, and as it was added; and there is one if a young photo was added. -/
theorem updates_complete {store : Store Path Key Value} {session : ℕ → Option User} {u : String}
    {es : List (Event Action)} {c : Config World (Option String)}
    (hunique : ((World.initial store session).docsOf u).length ≤ 1)
    (hphotos : ∀ d ∈ (World.initial store session).docsOf u, (photosOf d).isSome = true)
    (h : statuses.Run (InTurn u) ⟨World.initial store session, [], []⟩ es c)
    (hnone : ∀ th ∈ c.threads, th.scope ≠ some u) :
    (c.world.docsOf u).length ≤ 1 ∧
      (∀ p, isYoung c.world.latest p = true → c.world.stored u p =
        (World.initial store session).stored u p + c.world.passed u p) ∧
      ((∃ p, isYoung c.world.latest p = true ∧ 0 < c.world.passed u p) →
        (c.world.docsOf u).length = 1) := by
  have h₀ : (World.initial store session).Complete u ((World.initial store session).stored u) :=
    ⟨hunique, hphotos, fun p _ => by simp [World.passed, World.addedBy, World.initial]⟩
  have hi₀ : (apart (some u)).inv (World.initial store session) :=
    fun k p hp => absurd hp List.not_mem_nil
  have hguarded := System.Run.guarded (X := apart (some u))
    (J := World.Complete u ((World.initial store session).stored u))
    (fun he => he.exclusively) (fun _ hs hj => hj.untouched (hs u rfl)) ?_ ?_ hi₀
    (.idle (fun _ hth => absurd hth List.not_mem_nil) h₀) h
  · have hc := hguarded.2.post hnone
    refine ⟨hc.unique, hc.kept, ?_⟩
    rintro ⟨p, hp, hpos⟩
    rcases hc.docs with hdocs | ⟨doc, _, hdocs, -⟩
    · have hkept := hc.kept p hp
      rw [stored_of_nil hdocs] at hkept
      omega
    · rw [hdocs]
      rfl
  · intro c a ticks hi he hu
    exact runs_action hi ((he.updates a ticks rfl).apart hu) he.admitted
  · intro c a ticks hi he hu hj
    have hupdates := he.updates a ticks rfl
    cases a with
    | signIn | makePhotos => cases hu
    | addStatus d =>
      obtain ⟨user, huser, rfl⟩ := Option.map_eq_some_iff.mp hu
      exact alone_addStatus huser hi hj _ _ _ _
    | cleanUp d =>
      obtain ⟨user, huser, rfl⟩ := Option.map_eq_some_iff.mp hu
      exact alone_cleanUp huser hi hj
    | getPhotoUrl | statusDeleteAfter24Hours => exact hupdates.elim

/-- Alice and Bob add a status at the same time, and clean up later. -/
theorem updates_complete_twoUsers :
    twoUsers.world.passed "alice" (photoAt "200000000") = 1 ∧
      twoUsers.world.stored "alice" (photoAt "200000000") = 1 ∧
      (twoUsers.world.docsOf "alice").length = 1 := by
  have hone : statuses.Allowed (OneByOne "alice") (noStatus aliceAndBob) bothUpdate := by
    decide +kernel
  have hsucc : ∀ e ∈ bothUpdate, e.Succeeds := by
    simp only [bothUpdate, byTurns, List.forall_mem_append, List.forall_mem_cons]
    exact ⟨⟨fun _ => rfl, fun _ => rfl, succeeds_resumes⟩, fun _ => rfl, fun _ => rfl,
      succeeds_resumes⟩
  have hrun : statuses.Run (InTurn "alice") (noStatus aliceAndBob) bothUpdate twoUsers :=
    System.run_exec (System.Allowed.imp (fun _ _ h => h.inTurn) hone hsucc)
  have hall := updates_complete (by decide +kernel) (by decide +kernel) hrun (by decide +kernel)
  have hpassed : twoUsers.world.passed "alice" (photoAt "200000000") = 1 := by decide +kernel
  have hyoung : isYoung twoUsers.world.latest (photoAt "200000000") = true := by decide +kernel
  have hbefore : (noStatus aliceAndBob).world.stored "alice" (photoAt "200000000") = 0 := by
    decide +kernel
  refine ⟨hpassed, ?_, hall.2.2 ⟨_, hyoung, hpassed ▸ Nat.one_pos⟩⟩
  exact (hall.2.1 _ hyoung).trans (congrArg₂ (· + ·) hbefore hpassed)

/-- Alice adds a status on two devices at the same time: there are two documents. -/
theorem updates_lost :
    statuses.Run statuses.admits (noStatus fun _ => alice) (byTurns (addText 0) (addText 1) 8)
        twoDevices ∧
      twoDevices.Settled ∧ (twoDevices.world.docsOf "alice").length = 2 :=
  ⟨System.run_exec (by decide +kernel), by decide +kernel, by decide +kernel⟩

end FlutterTheme.Statuses
