import FlutterTheme.Status
import FlutterTheme.Exclusive

/-!
# What the calls of a user leave alone

Every call works on the documents and the photos of one user, and on a controller of that
user: `apart u?` is the protocol that the calls of all users but `u?` keep (`runs_action`).
For `none` these are all calls.
-/

namespace FlutterTheme.Statuses

open EventLoop DocStore

/-! ## Objects that are made -/

theorem map_photo_objects : ∀ (ref : ℕ) (photos : List PhotoUrl),
    (objects ref photos).map Photo.photo = photos
  | _, [] => rfl
  | ref, photo :: photos => congrArg (photo :: ·) (map_photo_objects (ref + 1) photos)

theorem le_ref_of_mem_objects : ∀ {ref : ℕ} {photos : List PhotoUrl},
    ∀ p ∈ objects ref photos, ref ≤ p.ref
  | _, [], p, hp => absurd hp List.not_mem_nil
  | ref, photo :: photos, p, hp => by
    rcases List.mem_cons.mp hp with rfl | hp
    · exact Nat.le_refl _
    · exact Nat.le_of_succ_le (le_ref_of_mem_objects p hp)

theorem ref_lt_of_mem_objects : ∀ {ref : ℕ} {photos : List PhotoUrl},
    ∀ p ∈ objects ref photos, p.ref < ref + photos.length
  | _, [], p, hp => absurd hp List.not_mem_nil
  | ref, photo :: photos, p, hp => by
    rw [List.length_cons]
    rcases List.mem_cons.mp hp with rfl | hp
    · exact Nat.lt_add_of_pos_right (Nat.succ_pos _)
    · have := ref_lt_of_mem_objects p hp
      omega

/-- Objects that are made together are different. -/
theorem nodup_objects : ∀ (ref : ℕ) (photos : List PhotoUrl),
    ((objects ref photos).map Photo.ref).Nodup
  | _, [] => List.nodup_nil
  | ref, photo :: photos => by
    refine List.nodup_cons.mpr ⟨?_, nodup_objects (ref + 1) photos⟩
    intro hmem
    obtain ⟨p, hp, hpref⟩ := List.mem_map.mp hmem
    have hle := le_ref_of_mem_objects p hp
    simp only at hpref
    omega

theorem mem_collect {list : List Photo} {p q : Photo} {old : Bool} (h : q ∈ collect list p old) :
    q ∈ list ∨ q = p := by
  unfold collect at h
  split at h
  · exact Or.inl (List.mem_of_mem_eraseP h)
  · simpa using h

/-! ## The protocol -/

/-- How the world evolves. -/
structure World.Later (w w' : World) : Prop where
  nextRef : w.nextRef ≤ w'.nextRef
  size : w.ctrls.size ≤ w'.ctrls.size
  user : ∀ k < w.ctrls.size, (w'.ctrls.get k).user = (w.ctrls.get k).user
  store : w.store.Stems (· .uid) .status w'.store

theorem World.Later.refl (w : World) : w.Later w :=
  ⟨Nat.le_refl _, Nat.le_refl _, fun _ _ => rfl, .refl _ _ _⟩

theorem World.Later.of_eq {w w' : World} (hstore : w'.store = w.store) (hctrls : w'.ctrls = w.ctrls)
    (href : w.nextRef ≤ w'.nextRef) : w.Later w' where
  nextRef := href
  size := Nat.le_of_eq (congrArg Heap.size hctrls.symm)
  user k _ := by rw [hctrls]
  store := hstore ▸ .refl _ _ _

theorem World.Later.trans {w w' w'' : World} (h : w.Later w') (h' : w'.Later w'') :
    w.Later w'' where
  nextRef := Nat.le_trans h.nextRef h'.nextRef
  size := Nat.le_trans h.size h'.size
  user k hk := (h'.user k (Nat.lt_of_lt_of_le hk h.size)).trans (h.user k hk)
  store := h.store.trans h'.store

/-- Lists hold only objects that have been made. -/
def World.Made (w : World) : Prop := ∀ k, ∀ p ∈ (w.ctrls.get k).newPhotoList, p.ref < w.nextRef

/-- The photos of a user that were passed to `addStatus`. -/
def World.addedBy (w : World) (u : String) : List Added := w.added.filter (·.user = u)

/-- Nothing happens to what a user has. -/
structure Untouched (u : String) (w w' : World) : Prop where
  docs : w'.docsOf u = w.docsOf u
  added : w'.addedBy u = w.addedBy u
  latest : w.latest ≤ w'.latest
  size : w.ctrls.size ≤ w'.ctrls.size
  ctrls : ∀ k < w.ctrls.size, (w.ctrls.get k).user = some u → w'.ctrls.get k = w.ctrls.get k

theorem Untouched.of_eq {u : String} {w w' : World} (hstore : w'.store = w.store)
    (hctrls : w'.ctrls = w.ctrls) (hadded : w'.addedBy u = w.addedBy u)
    (hlatest : w.latest ≤ w'.latest) : Untouched u w w' where
  docs := by rw [World.docsOf, World.docsOf, hstore]
  added := hadded
  latest := hlatest
  size := Nat.le_of_eq (congrArg Heap.size hctrls.symm)
  ctrls k _ _ := by rw [hctrls]

theorem Untouched.trans {u : String} {w w' w'' : World} (h : Untouched u w w')
    (h' : Untouched u w' w'') : Untouched u w w'' where
  docs := h'.docs.trans h.docs
  added := h'.added.trans h.added
  latest := Nat.le_trans h.latest h'.latest
  size := Nat.le_trans h.size h'.size
  ctrls k hk hu := by
    have hw := h.ctrls k hk hu
    rw [← hw]
    exact h'.ctrls k (Nat.lt_of_lt_of_le hk h.size) (hw ▸ hu)

/-- The protocol of the calls of the other users. -/
def apart (u? : Option String) : Exclusive World where
  le := World.Later
  inv := World.Made
  step w w' := ∀ u, u? = some u → Untouched u w w'
  le_refl := World.Later.refl
  le_trans := World.Later.trans
  step_refl _ _ _ := .of_eq rfl rfl rfl (Nat.le_refl _)
  step_trans h h' u hu := (h u hu).trans (h' u hu)

/-! ## Single actions -/

section Changes

variable {u? : Option String} {w : World}

/-- A reading of a clock. -/
theorem permits_clock (hi : w.Made) (date : ℕ) :
    (apart u?).Permits w { w with latest := max w.latest date } where
  le := .of_eq rfl rfl (Nat.le_refl _)
  inv := hi
  step _ _ := .of_eq rfl rfl rfl (Nat.le_max_left _ _)

theorem permits_session (hi : w.Made) (session : ℕ → Option User) :
    (apart u?).Permits w { w with session := session } where
  le := .of_eq rfl rfl (Nat.le_refl _)
  inv := hi
  step _ _ := .of_eq rfl rfl rfl (Nat.le_refl _)

theorem permits_examinations (hi : w.Made) (examinations : List Examination) :
    (apart u?).Permits w { w with examinations := examinations } where
  le := .of_eq rfl rfl (Nat.le_refl _)
  inv := hi
  step _ _ := .of_eq rfl rfl rfl (Nat.le_refl _)

theorem permits_nextRef (hi : w.Made) (n : ℕ) :
    (apart u?).Permits w { w with nextRef := w.nextRef + n } where
  le := .of_eq rfl rfl (Nat.le_add_right _ _)
  inv k p hp := Nat.lt_of_lt_of_le (hi k p hp) (Nat.le_add_right _ _)
  step _ _ := .of_eq rfl rfl rfl (Nat.le_refl _)

theorem permits_added (hi : w.Made) {v : String} (hv : u? ≠ some v) (photo : PhotoUrl) :
    (apart u?).Permits w { w with added := ⟨v, photo⟩ :: w.added } where
  le := .of_eq rfl rfl (Nat.le_refl _)
  inv := hi
  step u hu := by
    have hne : v ≠ u := by
      rintro rfl
      exact hv hu
    exact .of_eq rfl rfl (by simp [World.addedBy, hne]) (Nat.le_refl _)

/-- A new controller. -/
theorem later_alloc (s : FirebaseCommonController) : w.Later { w with ctrls := w.ctrls.alloc s } where
  nextRef := Nat.le_refl _
  size := Nat.le_succ _
  user k hk := by rw [Heap.get_alloc, if_neg (Nat.ne_of_lt hk)]
  store := .refl _ _ _

theorem made_alloc (hi : w.Made) (user : Option String) :
    World.Made { w with ctrls := w.ctrls.alloc { user := user } } := by
  intro k p hp
  rw [Heap.get_alloc] at hp
  split at hp
  · exact absurd hp List.not_mem_nil
  · exact hi k p hp

theorem permits_alloc (hi : w.Made) (user : Option String) :
    (apart u?).Permits w { w with ctrls := w.ctrls.alloc { user := user } } where
  le := later_alloc _
  inv := made_alloc hi user
  step u _ := ⟨rfl, rfl, Nat.le_refl _, Nat.le_succ _,
    fun k hk _ => by rw [Heap.get_alloc, if_neg (Nat.ne_of_lt hk)]⟩

/-- The list of a controller changes. -/
theorem later_list (k : ℕ) (f : List Photo → List Photo) : w.Later { w with
    ctrls := w.ctrls.modify k fun s => { s with newPhotoList := f s.newPhotoList } } where
  nextRef := Nat.le_refl _
  size := Nat.le_refl _
  user j _ := by
    rw [Heap.get_modify]
    split
    · next h => rw [h]
    · rfl
  store := .refl _ _ _

theorem made_list (hi : w.Made) {k : ℕ} {f : List Photo → List Photo}
    (hf : ∀ p ∈ f (w.ctrls.get k).newPhotoList, p.ref < w.nextRef) : World.Made { w with
      ctrls := w.ctrls.modify k fun s => { s with newPhotoList := f s.newPhotoList } } := by
  intro j p hp
  rw [Heap.get_modify] at hp
  split at hp
  · exact hf p hp
  · exact hi j p hp

/-- The controller is none of the user's. -/
def World.Foreign (u? : Option String) (w : World) (k : ℕ) : Prop :=
  k < w.ctrls.size ∧ ∀ u, u? = some u → (w.ctrls.get k).user ≠ some u

theorem World.Foreign.mono {k : ℕ} {w' : World} (h : w.Foreign u? k) (hw : w.Later w') :
    w'.Foreign u? k :=
  ⟨Nat.lt_of_lt_of_le h.1 hw.size, fun u hu => hw.user k h.1 ▸ h.2 u hu⟩

/-- A list of another user's controller may change, with objects that have been made. -/
theorem permits_list (hi : w.Made) {k : ℕ} {f : List Photo → List Photo} (hk : w.Foreign u? k)
    (hf : ∀ p ∈ f (w.ctrls.get k).newPhotoList, p.ref < w.nextRef) :
    (apart u?).Permits w { w with
      ctrls := w.ctrls.modify k fun s => { s with newPhotoList := f s.newPhotoList } } where
  le := later_list k f
  inv := made_list hi hf
  step u hu := by
    refine ⟨rfl, rfl, Nat.le_refl _, Nat.le_refl _, fun j _ hj => ?_⟩
    rw [Heap.get_modify, if_neg]
    rintro rfl
    exact hk.2 u hu hj

/-- The document with the identifier, if there is one, is one of the user's, and no other
will ever have it. -/
def World.Owned (w : World) (v : String) (id : DocId) : Prop :=
  ∃ d : Document, d.id = id ∧ d.data .uid = some (.str v) ∧
    ∃ s : Store Path Key Value, d ∈ s.docs .status ∧ s.Stems (· .uid) .status w.store

theorem World.Owned.mono {v : String} {id : DocId} {w' : World} (h : w.Owned v id)
    (hw : w.Later w') : w'.Owned v id := by
  obtain ⟨d, hid, huid, s, hd, hs⟩ := h
  exact ⟨d, hid, huid, s, hd, hs.trans hw.store⟩

theorem World.Owned.uid {v : String} {d : Document} (h : w.Owned v d.id)
    (hd : d ∈ w.store.docs .status) : d.data .uid = some (.str v) := by
  obtain ⟨d', hid, huid, s, hd', hs⟩ := h
  have hsame := hs.of_id hd' hd hid.symm
  exact hsame.trans huid

theorem mem_docsOf {v : String} {d : Document} :
    d ∈ w.docsOf v ↔ d ∈ w.store.docs .status ∧ d.data .uid = some (.str v) := by
  rw [World.docsOf, Store.mem_query, Fields.isEqualTo_iff]

theorem owned_of_mem {v : String} {d : Document} (hd : d ∈ w.docsOf v) : w.Owned v d.id :=
  ⟨d, rfl, (mem_docsOf.mp hd).2, w.store, (mem_docsOf.mp hd).1, .refl _ _ _⟩

/-- No document of another user has the identifier. -/
theorem World.Owned.ne {u v : String} {id : DocId} (h : w.Owned v id) (hne : u ≠ v) :
    ∀ d ∈ w.docsOf u, d.id ≠ id := by
  rintro d hd rfl
  obtain ⟨hmem, hu⟩ := mem_docsOf.mp hd
  have hv := h.uid hmem
  rw [hu] at hv
  exact hne (Value.str.inj (Option.some.inj hv))

theorem later_update (id : DocId) (photos : List PhotoUrl) :
    w.Later { w with store := w.store.update .status id (photosField photos) } where
  nextRef := Nat.le_refl _
  size := Nat.le_refl _
  user _ _ := rfl
  store := Store.stems_update fun _ _ _ => rfl

/-- A document of another user may be written to: the user in question keeps all of its own. -/
theorem permits_update (hi : w.Made) {v : String} (hv : u? ≠ some v) {id : DocId}
    (hid : w.Owned v id) (photos : List PhotoUrl) :
    (apart u?).Permits w { w with store := w.store.update .status id (photosField photos) } where
  le := later_update id photos
  inv := hi
  step u hu := by
    have hne : u ≠ v := by
      rintro rfl
      exact hv hu
    exact ⟨Store.query_update_of_not (fun _ _ _ => rfl) (hid.ne hne), rfl, Nat.le_refl _,
      Nat.le_refl _, fun _ _ _ => rfl⟩

theorem later_add (pos : ℕ) (data : Data) :
    w.Later { w with store := w.store.add .status pos data } where
  nextRef := Nat.le_refl _
  size := Nat.le_refl _
  user _ _ := rfl
  store := Store.stems_add

/-- A document of another user may be added, since it does not come up when the user in question is
looked for. -/
theorem permits_add (hi : w.Made) {v : String} (hv : u? ≠ some v) {data : Data}
    (huid : data .uid = some (.str v)) (pos : ℕ) :
    (apart u?).Permits w { w with store := w.store.add .status pos data } where
  le := later_add pos data
  inv := hi
  step u hu := by
    have hnot : data.isEqualTo .uid (.str u) = false := by
      rw [Bool.eq_false_iff, ne_eq, Fields.isEqualTo_iff, huid]
      rintro h
      rw [Value.str.inj (Option.some.inj h)] at hv
      exact hv hu
    exact ⟨Store.query_add_of_not hnot, rfl, Nat.le_refl _, Nat.le_refl _, fun _ _ _ => rfl⟩

theorem later_delete (id : DocId) : w.Later { w with store := w.store.delete .status id } where
  nextRef := Nat.le_refl _
  size := Nat.le_refl _
  user _ _ := rfl
  store := Store.stems_delete

/-- A document of another user may be deleted. -/
theorem permits_delete (hi : w.Made) {v : String} (hv : u? ≠ some v) {id : DocId}
    (hid : w.Owned v id) :
    (apart u?).Permits w { w with store := w.store.delete .status id } where
  le := later_delete id
  inv := hi
  step u hu := by
    have hne : u ≠ v := by
      rintro rfl
      exact hv hu
    exact ⟨Store.query_delete_of_not (hid.ne hne), rfl, Nat.le_refl _, Nat.le_refl _,
      fun _ _ _ => rfl⟩

end Changes

/-! ## The handlers -/

section Handlers

variable {u? : Option String} {w : World}

theorem keeps_now (hi : w.Made) :
    Keeps (apart u?).toEvolving now w fun date w' => date ≤ w'.latest :=
  keeps_sync fun t => ⟨permits_clock hi t.now, Nat.le_max_right _ _⟩

theorem keeps_getStatus {v : String} :
    Keeps (apart u?).toEvolving (getStatus v) w fun docs w' => ∀ d ∈ docs, w'.Owned v d.id :=
  keeps_remote fun _ _ hi _ => ⟨.refl hi, fun _ hw _ _ hd => (owned_of_mem hd).mono hw⟩

theorem runs_updatePhotos {v : String} (hv : u? ≠ some v) {id : DocId} (hid : w.Owned v id)
    (photos : List PhotoUrl) : Runs (apart u?).toEvolving (updatePhotos id photos) w := by
  refine keeps_bind (Q := fun _ _ => True) ?_ ?_
  · exact keeps_remote fun w' hw hi _ =>
      ⟨permits_update hi hv (hid.mono hw) photos, fun _ _ _ => trivial⟩
  · intro found w' _ hi _
    cases found with
    | true => exact keeps_pure hi trivial
    | false => exact keeps_throw

theorem runs_addDocument {v : String} (hv : u? ≠ some v) {s : Status} (hs : s.uid = some v) :
    Runs (apart u?).toEvolving (addDocument s) w := by
  have huid : s.toJson .uid = some (.str v) := by
    simp [Status.toJson, Fields.ofList, Value.ofString, hs]
  exact keeps_remote fun _ _ hi t => ⟨permits_add hi hv huid t.pos, fun _ _ _ => trivial⟩

theorem runs_deleteDocument {v : String} (hv : u? ≠ some v) {id : DocId} (hid : w.Owned v id) :
    Runs (apart u?).toEvolving (deleteDocument id) w :=
  keeps_remote fun _ hw hi _ => ⟨permits_delete hi hv (hid.mono hw), fun _ _ _ => trivial⟩

theorem keeps_newPhoto (hi : w.Made) {v : String} (hv : u? ≠ some v) (imageUrl : Option String)
    (statusType : String) (statusText statusBgColor : Option String) :
    Keeps (apart u?).toEvolving (newPhoto v imageUrl statusType statusText statusBgColor) w
      fun _ _ => True := by
  unfold newPhoto
  split
  · exact keeps_throw
  · refine keeps_bind (keeps_now hi) fun date w' _ hi _ => ?_
    exact keeps_seq (runs_modify (permits_added hi hv _)) fun _ _ hi => keeps_pure hi trivial

/-- A call of another user. -/
def World.Other (u? : Option String) (w : World) (d : ℕ) : Prop :=
  ∀ user, w.session d = some user → u? ≠ some user.id

/-- `addStatus` of another user: it writes the document it finds below that user or adds one there,
and the user in question is not touched. -/
theorem runs_addStatus (hi : w.Made) {d : ℕ} (hd : w.Other u? d) (imageUrl : Option String)
    (statusType : String) (statusText statusBgColor : Option String) :
    Runs (apart u?).toEvolving (addStatus d imageUrl statusType statusText statusBgColor) w := by
  refine keeps_bind (Q := fun user w' => w' = w ∧ user = w.session d) (keeps_get hi ⟨rfl, rfl⟩) ?_
  rintro user w _ hi ⟨rfl, huser⟩
  cases user with
  | none => exact keeps_throw
  | some user =>
    have hv := hd user huser.symm
    refine keeps_bind keeps_getStatus fun docs w' _ hi hdocs => ?_
    cases hhead : docs.head? with
    | some doc =>
      have hown := hdocs doc (List.mem_of_head? hhead)
      cases hphotos : (Status.fromJson doc.data).photoUrl with
      | none =>
        simp only [hphotos]
        exact keeps_throw
      | some photos =>
        simp only [hphotos]
        refine keeps_bind (keeps_newPhoto hi hv _ _ _ _) fun photo w'' hw hi _ => ?_
        exact runs_updatePhotos hv (hown.mono hw) _
    | none =>
      refine keeps_bind (keeps_newPhoto hi hv _ _ _ _) fun photo w'' _ hi _ => ?_
      exact keeps_bind (keeps_now hi) fun _ _ _ _ _ => runs_addDocument hv rfl

theorem keeps_makePhotos (hi : w.Made) (photos : List PhotoUrl) :
    Keeps (apart u?).toEvolving (makePhotos photos) w fun made w' => ∀ p ∈ made, p.ref < w'.nextRef :=
  keeps_sync fun _ => ⟨permits_nextRef hi _, fun _ hp => ref_lt_of_mem_objects _ hp⟩

/-- The loop of another user's call collects into that user's controller alone, and only objects
that have been made. By recursion on the photos. -/
theorem keeps_examine {k : ℕ} : ∀ {photos : List Photo} {w : World}, w.Made → w.Foreign u? k →
    (∀ p ∈ photos, p.ref < w.nextRef) →
      Keeps (apart u?).toEvolving (examine k photos) w fun _ _ => True
  | [], w, hi, _, _ => keeps_pure hi trivial
  | p :: photos, w, hi, hk, hphotos => by
    unfold examine
    split
    · exact keeps_throw
    · next millis _ =>
      refine keeps_bind (keeps_now hi) fun date w₁ hw hi _ => ?_
      have hp := Nat.lt_of_lt_of_le (hphotos p (List.mem_cons_self ..)) hw.nextRef
      have hmade : ∀ q ∈ collect (w₁.ctrls.get k).newPhotoList p (isOld date millis),
          q.ref < w₁.nextRef := by
        intro q hq
        rcases mem_collect hq with hq | rfl
        · exact hi k q hq
        · exact hp
      refine keeps_seq (runs_modify (permits_list (f := fun list => collect list p _) hi
        (hk.mono hw) hmade)) fun w₂ hw₂ hi => ?_
      have hw₂ := World.Later.trans hw hw₂
      refine keeps_bind (keeps_examine hi (hk.mono hw₂) fun q hq => ?_) fun _ _ _ hi _ =>
        keeps_pure hi trivial
      exact Nat.lt_of_lt_of_le (hphotos q (List.mem_cons_of_mem _ hq)) hw₂.nextRef

theorem runs_getPhotoUrl (hi : w.Made) {k : ℕ} (hk : w.Foreign u? k) {photos : List Photo}
    (hphotos : ∀ p ∈ photos, p.ref < w.nextRef) :
    Runs (apart u?).toEvolving (getPhotoUrl k photos) w := by
  refine keeps_bind (Q := fun _ w' => w' = w) (keeps_get hi rfl) ?_
  rintro before w _ hi rfl
  refine keeps_bind (keeps_examine hi hk hphotos) fun examined w' _ hi _ => ?_
  exact runs_modify (permits_examinations hi _)

theorem keeps_newPhotoList (hi : w.Made) (k : ℕ) :
    Keeps (apart u?).toEvolving (newPhotoList k) w fun _ w' => w' = w :=
  keeps_get hi rfl

/-- The last part of another user's call: the document it deletes or updates is one it has looked up
below its own user. -/
theorem runs_replacePhotos (hi : w.Made) {v : String} (hv : u? ≠ some v) (k : ℕ) {id : DocId}
    (hid : w.Owned v id) : Runs (apart u?).toEvolving (replacePhotos v k id) w := by
  refine keeps_bind (keeps_newPhotoList hi k) ?_
  rintro list w _ hi rfl
  split
  · exact runs_spawn (runs_deleteDocument hv hid)
  · refine keeps_bind keeps_getStatus fun docs w' _ hi hdocs => ?_
    cases hhead : docs.head? with
    | none => exact keeps_throw
    | some doc =>
      have hown := hdocs doc (List.mem_of_head? hhead)
      refine keeps_bind (keeps_newPhotoList hi k) ?_
      rintro list w _ hi rfl
      exact runs_updatePhotos hv hown _

/-- Another user's call from the answer on; the user in question keeps document and controllers in
each of its parts. -/
theorem runs_removeOld (hi : w.Made) {v : String} (hv : u? ≠ some v) {k : ℕ}
    (hk : w.Foreign u? k) {docs : List Document} (hdocs : ∀ d ∈ docs, w.Owned v d.id) :
    Runs (apart u?).toEvolving (removeOld v k docs) w := by
  unfold removeOld
  cases hhead : docs.head? with
  | none => exact keeps_pure hi trivial
  | some doc =>
    have hown := hdocs doc (List.mem_of_head? hhead)
    cases hphotos : (Status.fromJson doc.data).photoUrl with
    | none =>
      simp only [hphotos]
      exact keeps_throw
    | some photos =>
      simp only [hphotos]
      refine keeps_bind (keeps_makePhotos hi photos) fun made w₁ hw₁ hi hmade => ?_
      refine keeps_seq (runs_getPhotoUrl hi (hk.mono hw₁) hmade) fun w₂ hw₂ hi => ?_
      refine keeps_seq runs_pause fun w₃ hw₃ hi => ?_
      exact runs_replacePhotos hi hv k (((hown.mono hw₁).mono hw₂).mono hw₃)

/-- A whole call of another user, on a controller that is not the user's in question. -/
theorem runs_statusDelete (hi : w.Made) {d k : ℕ} (hd : w.Other u? d) (hk : w.Foreign u? k) :
    Runs (apart u?).toEvolving (statusDeleteAfter24Hours d k) w := by
  refine keeps_bind (Q := fun user w' => w' = w ∧ user = w.session d) (keeps_get hi ⟨rfl, rfl⟩) ?_
  rintro user w _ hi ⟨rfl, huser⟩
  cases user with
  | none => exact keeps_pure hi trivial
  | some user =>
    have hv := hd user huser.symm
    refine runs_spawn ?_
    exact keeps_bind keeps_getStatus fun docs w' hw hi hdocs =>
      runs_removeOld hi hv (hk.mono hw) hdocs

/-- A call that makes a controller of its own first: the new one belongs to whoever is signed in,
who is somebody else. -/
theorem runs_cleanUp (hi : w.Made) {d : ℕ} (hd : w.Other u? d) :
    Runs (apart u?).toEvolving (cleanUp d) w := by
  have hk : World.Foreign u? { w with ctrls := w.ctrls.alloc { user := (w.session d).map User.id } }
      w.ctrls.size := by
    refine ⟨Nat.lt_succ_self _, fun u hu huser => ?_⟩
    rw [Heap.get_alloc, if_pos rfl] at huser
    obtain ⟨user, hsession, rfl⟩ := Option.map_eq_some_iff.mp huser
    exact hd user hsession hu
  refine keeps_bind (Q := fun k w' => k = w.ctrls.size ∧
      w' = { w with ctrls := w.ctrls.alloc { user := (w.session d).map User.id } })
    (keeps_sync fun _ => ⟨permits_alloc hi _, rfl, rfl⟩) ?_
  rintro _ _ _ hi' ⟨rfl, rfl⟩
  exact runs_statusDelete hi' hd hk

/-- An action of another user, on none of the user's controllers. -/
def Action.Apart (u? : Option String) (w : World) : Action → Prop
  | signIn _ _ | makePhotos _ => True
  | addStatus d _ _ _ _ | cleanUp d => w.Other u? d
  | getPhotoUrl k _ => w.Foreign u? k
  | statusDeleteAfter24Hours d k => w.Other u? d ∧ w.Foreign u? k

/-- **Nothing happens to what a user has** while other users are at work. -/
theorem runs_action (hi : w.Made) {a : Action} (ha : a.Apart u? w) (he : a.enabled w) :
    Runs (apart u?).toEvolving a.body w := by
  cases a with
  | signIn d user => exact runs_modify (permits_session hi _)
  | addStatus d imageUrl statusType statusText statusBgColor => exact runs_addStatus hi ha _ _ _ _
  | makePhotos photos =>
    exact keeps_bind (keeps_makePhotos hi photos) fun _ _ _ hi _ => keeps_pure hi trivial
  | getPhotoUrl k photos => exact runs_getPhotoUrl hi ha he.2.2
  | statusDeleteAfter24Hours d k => exact runs_statusDelete hi ha.1 ha.2
  | cleanUp d => exact runs_cleanUp hi ha

end Handlers

end FlutterTheme.Statuses
