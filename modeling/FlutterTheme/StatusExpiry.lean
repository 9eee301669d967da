import FlutterTheme.StatusSafe

/-!
# What is left of the statuses after a day

`getPhotoUrl` collects in a list that outlives the call, and takes out the objects that are
too old. What it returns is what it finds there, less these objects (`leftover`), and the
photos that are young (`collectAll_eq`). So it returns the young photos alone just when
nothing is left over, and `statusDeleteAfter24Hours`, whose photos are new objects, just
when nothing was there (`expiry_iff`).
-/

namespace FlutterTheme.Statuses

open EventLoop DocStore

/-! ## Young photos -/

/-- 24 hours, in microseconds. -/
theorem isOld_iff {date : ℕ} {millis : ℤ} :
    isOld date millis = true ↔ 86400000000 ≤ date - millis * 1000 := by
  rw [isOld, decide_eq_true_iff, inHours]
  rcases Int.le_total 0 (date - millis * 1000) with h | h
  · rw [Int.tdiv_eq_ediv_of_nonneg h, Int.le_ediv_iff_mul_le (by decide)]
    omega
  · have hneg : 0 ≤ (-(date - millis * 1000 : ℤ)).tdiv 3600000000 :=
      Int.tdiv_nonneg (by omega) (by decide)
    rw [Int.neg_tdiv] at hneg
    constructor <;> intro hle <;> omega

/-- The photo is less than 24 hours old. -/
def isYoung (date : ℕ) (photo : PhotoUrl) : Bool :=
  match timestampOf photo with
  | some millis => !isOld date millis
  | none => false

/-- A photo is young just when its timestamp can be read and lies less than a day back. -/
theorem isYoung_iff {date : ℕ} {photo : PhotoUrl} :
    isYoung date photo = true ↔
      ∃ millis, timestampOf photo = some millis ∧ date - millis * 1000 < 86400000000 := by
  unfold isYoung
  cases timestampOf photo with
  | none => simp
  | some millis =>
    have h : ¬ isOld date millis = true ↔ (date - millis * 1000 : ℤ) < 86400000000 := by
      rw [isOld_iff, Int.not_le]
    simpa using h

/-- The young ones of the photos that have been examined. -/
def young (photos : List (Photo × ℕ)) : List Photo :=
  (photos.filter fun x => isYoung x.2 x.1.photo).map Prod.fst

/-- What becomes of the list. -/
def collectAll (list : List Photo) (photos : List (Photo × ℕ)) : List Photo :=
  photos.foldl (fun list x => collect list x.1 (!isYoung x.2 x.1.photo)) list

/-- What is left of the list. -/
def leftover (list : List Photo) (photos : List (Photo × ℕ)) : List Photo :=
  photos.foldl (fun list x =>
    if isYoung x.2 x.1.photo then list else list.eraseP (·.ref = x.1.ref)) list

theorem collectAll_cons (list : List Photo) (x : Photo × ℕ) (photos : List (Photo × ℕ)) :
    collectAll list (x :: photos) =
      collectAll (collect list x.1 (!isYoung x.2 x.1.photo)) photos := rfl

theorem leftover_cons (list : List Photo) (x : Photo × ℕ) (photos : List (Photo × ℕ)) :
    leftover list (x :: photos) = leftover
      (if isYoung x.2 x.1.photo then list else list.eraseP (·.ref = x.1.ref)) photos := rfl

theorem young_cons (x : Photo × ℕ) (photos : List (Photo × ℕ)) :
    young (x :: photos) =
      if isYoung x.2 x.1.photo then x.1 :: young photos else young photos := by
  unfold young
  rw [List.filter_cons]
  split <;> simp

theorem eraseP_of_ne {list : List Photo} {ref : ℕ} (h : ∀ p ∈ list, p.ref ≠ ref) :
    list.eraseP (·.ref = ref) = list :=
  List.eraseP_of_forall_not (by simpa using h)

/-- What has been collected so far is not taken out again: the objects examined are others, so the
loop removes none of them. By recursion on the photos. -/
theorem collectAll_append {photos : List (Photo × ℕ)}
    (hnodup : (photos.map (·.1.ref)).Nodup) : ∀ {list new : List Photo},
      (∀ p ∈ new, ∀ x ∈ photos, p.ref ≠ x.1.ref) →
        collectAll (list ++ new) photos = leftover list photos ++ new ++ young photos := by
  induction photos with
  | nil => simp [collectAll, leftover, young]
  | cons x photos ih =>
    intro list new hnew
    rw [List.map_cons, List.nodup_cons] at hnodup
    obtain ⟨hx, hnodup⟩ := hnodup
    have hrest : ∀ p ∈ new, ∀ y ∈ photos, p.ref ≠ y.1.ref :=
      fun p hp y hy => hnew p hp y (List.mem_cons_of_mem _ hy)
    rw [young_cons, collectAll_cons, leftover_cons]
    by_cases hyoung : isYoung x.2 x.1.photo = true
    · have hnew' : ∀ p ∈ new ++ [x.1], ∀ y ∈ photos, p.ref ≠ y.1.ref := by
        intro p hp y hy
        rcases List.mem_append.mp hp with hp | hp
        · exact hrest p hp y hy
        · obtain rfl := List.mem_singleton.mp hp
          exact fun h => hx (List.mem_map.mpr ⟨y, hy, h.symm⟩)
      simp only [collect, hyoung, Bool.not_true, Bool.false_eq_true, if_false, if_true]
      rw [List.append_assoc, ih hnodup hnew']
      simp
    · have herase : (list ++ new).eraseP (·.ref = x.1.ref) =
          list.eraseP (·.ref = x.1.ref) ++ new := by
        by_cases hlist : ∃ p ∈ list, p.ref = x.1.ref
        · obtain ⟨p, hp, href⟩ := hlist
          exact List.eraseP_append_left (by simpa using href) _ hp
        · have hne : ∀ p ∈ list, p.ref ≠ x.1.ref := fun p hp h => hlist ⟨p, hp, h⟩
          rw [List.eraseP_append_right _ (by simpa using hne), eraseP_of_ne hne,
            eraseP_of_ne fun p hp => hnew p hp x (List.mem_cons_self ..)]
      simp only [collect, hyoung, Bool.not_false, if_true, Bool.false_eq_true, if_false]
      rw [herase, ih hnodup hrest]

/-- **The collected photos**: what is left of the list, and the young photos. -/
theorem collectAll_eq {photos : List (Photo × ℕ)} (hnodup : (photos.map (·.1.ref)).Nodup)
    (list : List Photo) : collectAll list photos = leftover list photos ++ young photos := by
  have hnil : ∀ p ∈ ([] : List Photo), ∀ x ∈ photos, p.ref ≠ x.1.ref := by simp
  simpa using @collectAll_append photos hnodup list [] hnil

/-- New objects take nothing out. -/
theorem leftover_of_ne {photos : List (Photo × ℕ)} : ∀ {list : List Photo},
    (∀ p ∈ list, ∀ x ∈ photos, p.ref ≠ x.1.ref) → leftover list photos = list := by
  induction photos with
  | nil => exact fun _ => rfl
  | cons x photos ih =>
    intro list h
    rw [leftover_cons, eraseP_of_ne fun p hp => h p hp x (List.mem_cons_self ..), ite_self]
    exact ih fun p hp y hy => h p hp y (List.mem_cons_of_mem _ hy)

/-! ## The loop -/

/-- The photos with the instants at which a segment that has used up `n` ticks examines
them. -/
def stamped (ticks : ℕ → Tick) : ℕ → List Photo → List (Photo × ℕ)
  | _, [] => []
  | n, p :: photos => (p, (ticks n).now) :: stamped ticks (n + 2) photos

theorem map_fst_stamped (ticks : ℕ → Tick) : ∀ (n : ℕ) (photos : List Photo),
    (stamped ticks n photos).map Prod.fst = photos
  | _, [] => rfl
  | n, p :: photos => congrArg (p :: ·) (map_fst_stamped ticks (n + 2) photos)

/-- All timestamps can be read. -/
def Readable (photos : List PhotoUrl) : Prop := ∀ p ∈ photos, (timestampOf p).isSome = true

instance (photos : List PhotoUrl) : Decidable (Readable photos) :=
  inferInstanceAs (Decidable (∀ p ∈ photos, (timestampOf p).isSome = true))

/-- What examining photos changes. -/
structure Examined (k : ℕ) (photos : List (Photo × ℕ)) (w w' : World) : Prop where
  store : w'.store = w.store
  session : w'.session = w.session
  nextRef : w'.nextRef = w.nextRef
  added : w'.added = w.added
  examinations : w'.examinations = w.examinations
  latest : w.latest ≤ w'.latest
  /-- no instant is later than the latest reading of a clock -/
  instants : ∀ x ∈ photos, x.2 ≤ w'.latest
  size : w'.ctrls.size = w.ctrls.size
  user : ∀ j, (w'.ctrls.get j).user = (w.ctrls.get j).user
  others : ∀ j, j ≠ k → w'.ctrls.get j = w.ctrls.get j
  list : (w'.ctrls.get k).newPhotoList = collectAll (w.ctrls.get k).newPhotoList photos

theorem Examined.nil (k : ℕ) (w : World) : Examined k [] w w where
  store := rfl
  session := rfl
  nextRef := rfl
  added := rfl
  examinations := rfl
  latest := Nat.le_refl _
  instants := by simp
  size := rfl
  user _ := rfl
  others _ _ := rfl
  list := rfl

/-- The world after one photo has been examined. -/
def examineOne (k : ℕ) (p : Photo) (date : ℕ) (w : World) : World :=
  { w with
    latest := max w.latest date
    ctrls := w.ctrls.modify k fun s =>
      { s with newPhotoList := collect s.newPhotoList p (!isYoung date p.photo) } }

/-- Examining one photo more, at the front: the list collected is what it would be with the photo
first, and the clock has come at least as far. -/
theorem Examined.cons {k : ℕ} {p : Photo} {date : ℕ} {photos : List (Photo × ℕ)} {w w' : World}
    (h : Examined k photos (examineOne k p date w) w') : Examined k ((p, date) :: photos) w w' where
  store := h.store
  session := h.session
  nextRef := h.nextRef
  added := h.added
  examinations := h.examinations
  latest := Nat.le_trans (Nat.le_max_left _ _) h.latest
  instants := by
    intro x hx
    rcases List.mem_cons.mp hx with rfl | hx
    · exact Nat.le_trans (Nat.le_max_right _ _) h.latest
    · exact h.instants x hx
  size := h.size
  user j := by
    rw [h.user j, examineOne, Heap.get_modify]
    split
    · next hj => rw [hj]
    · rfl
  others j hj := by
    rw [h.others j hj, examineOne, Heap.get_modify, if_neg hj]
  list := by
    rw [h.list, examineOne, Heap.get_modify, if_pos rfl, collectAll_cons]

/-- The loop of `getPhotoUrl`, if all timestamps can be read: each photo is examined at its own
reading of the clock. By recursion on the photos. -/
theorem run_examine {k : ℕ} (ticks : ℕ → Tick) (l : Option String) : ∀ {photos : List Photo}
    {K : List (Photo × ℕ) → Task World (Option String)} {n : ℕ} {w : World},
    Readable (photos.map Photo.photo) → ∃ w', Examined k (stamped ticks n photos) w w' ∧
      ((examine k photos K).run ticks l n w).world =
        ((K (stamped ticks n photos)).run ticks l (n + 2 * photos.length) w').world
  | [], K, n, w, _ => ⟨w, .nil k w, rfl⟩
  | p :: photos, K, n, w, h => by
    have hp := h p.photo (by simp)
    obtain ⟨millis, hmillis⟩ := Option.isSome_iff_exists.mp hp
    have hrest : Readable (photos.map Photo.photo) := fun q hq => h q (by simp [hq])
    obtain ⟨w', hw', hrun⟩ := run_examine ticks l
      (K := fun rest => K ((p, (ticks n).now) :: rest)) (n := n + 2)
      (w := examineOne k p (ticks n).now w) hrest
    refine ⟨w', hw'.cons, ?_⟩
    have hlen : n + 2 * (p :: photos).length = n + 2 + 2 * photos.length := by
      rw [List.length_cons]
      omega
    have hold : isOld (ticks n).now millis = !isYoung (ticks n).now p.photo := by
      simp [isYoung, hmillis]
    rw [hlen]
    rw [examineOne, ← hold] at hrun
    simp only [examine, hmillis]
    exact hrun

/-- An unreadable timestamp ends the loop. -/
theorem run_examine_unreadable {k : ℕ} {ticks : ℕ → Tick} {l : Option String} :
    ∀ {photos : List Photo} {K : List (Photo × ℕ) → Task World (Option String)} {n : ℕ} {w : World},
      ¬ Readable (photos.map Photo.photo) →
        ((examine k photos K).run ticks l n w).world.examinations = w.examinations
  | [], K, n, w, h => absurd (by simp [Readable]) h
  | p :: photos, K, n, w, h => by
    cases hp : timestampOf p.photo with
    | none =>
      simp only [examine, hp]
      rfl
    | some millis =>
      have hrest : ¬ Readable (photos.map Photo.photo) := by
        intro hrest
        refine h fun q hq => ?_
        rcases List.mem_cons.mp hq with rfl | hq
        · simp [hp]
        · exact hrest q hq
      simp only [examine, hp]
      exact run_examine_unreadable (K := fun rest => K ((p, (ticks n).now) :: rest)) (n := n + 2)
        hrest

/-- A protocol that speaks neither of clocks, nor of what has been examined, nor of the list
of the controller, as long as it holds objects that have been made. -/
structure Lenient (X : Exclusive World) (k : ℕ) : Prop where
  clock : ∀ w date, X.inv w → X.le w { w with latest := max w.latest date } ∧
    X.inv { w with latest := max w.latest date }
  list : ∀ w (f : List Photo → List Photo), X.inv w →
    (∀ p ∈ f (w.ctrls.get k).newPhotoList, p ∈ (w.ctrls.get k).newPhotoList ∨ p.ref < w.nextRef) →
      X.le w { w with
        ctrls := w.ctrls.modify k fun s => { s with newPhotoList := f s.newPhotoList } } ∧
      X.inv { w with
        ctrls := w.ctrls.modify k fun s => { s with newPhotoList := f s.newPhotoList } }
  log : ∀ w (examinations : List Examination), X.inv w →
    X.le w { w with examinations := examinations } ∧ X.inv { w with examinations := examinations }

section Solo

variable {X : Exclusive World} {Post : World → Prop} {k : ℕ}

theorem solo_now (hX : Lenient X k) {w : World} (hi : X.inv w) :
    Async.Solo X Post now w fun date w' => w' = { w with latest := max w.latest date } :=
  Async.solo_sync fun t => ⟨(hX.clock w t.now hi).1, (hX.clock w t.now hi).2, rfl⟩

/-- The loop of `getPhotoUrl` by itself, which an unreadable timestamp ends; until then the photos
are examined in their order. By recursion on the photos. -/
theorem solo_examine (hX : Lenient X k) : ∀ {photos : List Photo} {w : World}, X.inv w →
    (∀ p ∈ photos, p.ref < w.nextRef) → (¬ Readable (photos.map Photo.photo) → ∀ w' examined, Examined k examined w w' → Post w') →
    Async.Solo X Post (examine k photos) w fun examined w' =>
      Readable (photos.map Photo.photo) ∧ examined.map Prod.fst = photos ∧
        Examined k examined w w'
  | [], w, hi, _, _ => Async.solo_pure hi ⟨by simp [Readable], rfl, .nil k w⟩
  | p :: photos, w, hi, hmade, hthrow => by
    unfold examine
    cases hp : timestampOf p.photo with
    | none =>
      refine Async.solo_throw (hthrow ?_ w [] (.nil k w))
      intro h
      have hsome := h p.photo (by simp)
      rw [hp] at hsome
      exact absurd hsome (by simp)
    | some millis =>
      refine Async.solo_bind (solo_now hX hi) ?_
      rintro date w₁ _ hi₁ rfl
      obtain ⟨hle, hi₂⟩ := hX.list _ (fun list => collect list p (isOld date millis)) hi₁ <| by
        intro q hq
        rcases mem_collect hq with hq | rfl
        · exact Or.inl hq
        · exact Or.inr (hmade q (List.mem_cons_self ..))
      refine Async.solo_bind (Q := fun _ w' => w' = examineOne k p date w)
        (Async.solo_modify hle hi₂ ?_) ?_
      · simp [examineOne, isYoung, hp]
      · rintro _ w₂ _ hi₂ rfl
        have hreadable : Readable ((p :: photos).map Photo.photo) ↔
            Readable (photos.map Photo.photo) := by
          simp [Readable, hp]
        have hrest : ∀ q ∈ photos, q.ref < (examineOne k p date w).nextRef :=
          fun q hq => hmade q (List.mem_cons_of_mem _ hq)
        refine Async.solo_bind (solo_examine hX hi₂ hrest ?_) ?_
        · exact fun hne w' examined h => hthrow (hreadable.not.mpr hne) w' _ h.cons
        · rintro rest w₃ _ hi₃ ⟨hr, hfst, h⟩
          exact Async.solo_pure hi₃ ⟨hreadable.mpr hr, by simp [hfst], h.cons⟩

/-- The world after a `getPhotoUrl` has returned. -/
structure Returned (k : ℕ) (photos : List Photo) (examined : List (Photo × ℕ)) (w w' : World) :
    Prop where
  same : examined.map Prod.fst = photos
  readable : Readable (photos.map Photo.photo)
  store : w'.store = w.store
  added : w'.added = w.added
  latest : w.latest ≤ w'.latest
  instants : ∀ x ∈ examined, x.2 ≤ w'.latest
  size : w'.ctrls.size = w.ctrls.size
  user : ∀ j, (w'.ctrls.get j).user = (w.ctrls.get j).user
  others : ∀ j, j ≠ k → w'.ctrls.get j = w.ctrls.get j
  list : (w'.ctrls.get k).newPhotoList = collectAll (w.ctrls.get k).newPhotoList examined
  examinations : w'.examinations = ⟨k, (w.ctrls.get k).newPhotoList, examined,
    collectAll (w.ctrls.get k).newPhotoList examined⟩ :: w.examinations

/-- When the loop is through, the examination is noted with the list before and after it. -/
theorem Examined.returned {photos : List Photo} {examined : List (Photo × ℕ)} {w w' : World}
    (h : Examined k examined w w') (hphotos : examined.map Prod.fst = photos)
    (hr : Readable (photos.map Photo.photo)) :
    Returned k photos examined w { w' with
      examinations := ⟨k, (w.ctrls.get k).newPhotoList, examined,
        (w'.ctrls.get k).newPhotoList⟩ :: w'.examinations } where
  same := hphotos
  readable := hr
  store := h.store
  added := h.added
  latest := h.latest
  instants := h.instants
  size := h.size
  user := h.user
  others := h.others
  list := h.list
  examinations := by rw [h.list, h.examinations]

/-- `getPhotoUrl` returns, unless a timestamp is unreadable. -/
theorem solo_getPhotoUrl (hX : Lenient X k) {photos : List Photo} {w : World} (hi : X.inv w)
    (hmade : ∀ p ∈ photos, p.ref < w.nextRef)
    (hthrow : ¬ Readable (photos.map Photo.photo) →
      ∀ w' examined, Examined k examined w w' → Post w') :
    Async.Solo X Post (getPhotoUrl k photos) w fun _ w' =>
      ∃ examined, Returned k photos examined w w' := by
  refine Async.solo_bind (Q := fun before w' => w' = w ∧ before = (w.ctrls.get k).newPhotoList)
    (Async.solo_get hi ⟨rfl, rfl⟩) ?_
  rintro before w₁ _ hi₁ ⟨rfl, rfl⟩
  refine Async.solo_bind (solo_examine hX hi₁ hmade hthrow) ?_
  rintro examined w₂ _ hi₂ ⟨hr, hphotos, h⟩
  obtain ⟨hle, hi₃⟩ := hX.log w₂ (⟨k, (w₁.ctrls.get k).newPhotoList, examined,
    (w₂.ctrls.get k).newPhotoList⟩ :: w₂.examinations) hi₂
  exact Async.solo_modify hle hi₃ ⟨examined, h.returned hphotos hr⟩

/-- Photos are stored; that there is no such document any more is an error, which ends the
call. -/
theorem solo_updatePhotos {id : DocId} {photos : List PhotoUrl} {w : World}
    (h : ∀ w', X.le w w' → X.inv w' → X.step w w' →
      X.le w' { w' with store := w'.store.update .status id (photosField photos) } ∧
      X.inv { w' with store := w'.store.update .status id (photosField photos) } ∧
      ∀ w'', X.le { w' with store := w'.store.update .status id (photosField photos) } w'' →
        X.inv w'' → X.step { w' with store := w'.store.update .status id (photosField photos) } w'' →
        Post w'') : Async.Solo X Post (updatePhotos id photos) w fun _ => Post := by
  refine Async.solo_bind (Q := fun _ => Post) (Async.solo_remote fun w' hw hi hs _ => h w' hw hi hs) ?_
  intro found w' _ hi hpost
  cases found with
  | true => exact Async.solo_pure hi hpost
  | false => exact Async.solo_throw hpost

end Solo

/-! ## A call of `getPhotoUrl` -/

/-- A list is returned, and it is that of the young photos. -/
def ReturnsYoung (k : ℕ) (photos : List Photo) (w w' : World) : Prop :=
  ∃ e, w'.examinations = e :: w.examinations ∧ e.ctrl = k ∧ e.photos.map Prod.fst = photos ∧
    e.returned.map Photo.photo = (young e.photos).map Photo.photo

/-- Lists of photos are the same if one is left over in front of the other. -/
theorem map_append_eq_iff {list new : List Photo} :
    (list ++ new).map Photo.photo = new.map Photo.photo ↔ list = [] := by
  rw [List.map_append, List.append_left_eq_self, List.map_eq_nil_iff]

/-- The instants at which a call of `getPhotoUrl` examines the photos: a tick is taken to
read the list, and two for each photo. -/
theorem getPhotoUrl_iff {c : Config World (Option String)} {k : ℕ} {photos : List Photo}
    (hnodup : (photos.map Photo.ref).Nodup) (ticks : ℕ → Tick) :
    ReturnsYoung k photos c.world (statuses.apply c (.call (.getPhotoUrl k photos) ticks)).world ↔
      Readable (photos.map Photo.photo) ∧
        leftover (c.world.ctrls.get k).newPhotoList (stamped ticks 1 photos) = [] := by
  have hfst := map_fst_stamped ticks 1 photos
  have hnodup' : ((stamped ticks 1 photos).map (·.1.ref)).Nodup := by
    rw [← hfst, List.map_map] at hnodup
    exact hnodup
  by_cases hr : Readable (photos.map Photo.photo)
  · obtain ⟨w₁, hw₁, hrun⟩ := run_examine (k := k) ticks none
      (K := fun examined => Async.task (Async.modify fun w => { w with
        examinations := ⟨k, (c.world.ctrls.get k).newPhotoList, examined,
          (w.ctrls.get k).newPhotoList⟩ :: w.examinations })) (n := 1) (w := c.world) hr
    have hworld : (statuses.apply c (.call (.getPhotoUrl k photos) ticks)).world.examinations =
        ⟨k, (c.world.ctrls.get k).newPhotoList, stamped ticks 1 photos,
          (w₁.ctrls.get k).newPhotoList⟩ :: w₁.examinations := congrArg World.examinations hrun
    rw [hw₁.examinations, hw₁.list, collectAll_eq hnodup'] at hworld
    rw [ReturnsYoung, hworld]
    constructor
    · rintro ⟨e, he, -, -, hyoung⟩
      obtain ⟨rfl, -⟩ := List.cons.inj he
      exact ⟨hr, map_append_eq_iff.mp hyoung⟩
    · rintro ⟨-, hleft⟩
      exact ⟨_, rfl, rfl, hfst, map_append_eq_iff.mpr hleft⟩
  · have hworld : (statuses.apply c (.call (.getPhotoUrl k photos) ticks)).world.examinations =
        c.world.examinations :=
      run_examine_unreadable (k := k) (l := none) (n := 1) (w := c.world) hr
    constructor
    · rintro ⟨e, he, -⟩
      rw [hworld] at he
      exact absurd he.symm (List.cons_ne_self _ _)
    · exact fun h => absurd h.1 hr

/-! ## A call of `statusDeleteAfter24Hours` -/

/-- New objects are collected behind what is there. -/
theorem collectAll_objects {list : List Photo} {ref : ℕ} {photos : List PhotoUrl}
    {examined : List (Photo × ℕ)} (hlist : ∀ p ∈ list, p.ref < ref)
    (hfst : examined.map Prod.fst = objects ref photos) :
    collectAll list examined = list ++ young examined := by
  have hnodup : (examined.map (·.1.ref)).Nodup := by
    have := nodup_objects ref photos
    rwa [← hfst, List.map_map] at this
  rw [collectAll_eq hnodup, leftover_of_ne]
  intro p hp x hx href
  have hmem : x.1 ∈ objects ref photos := hfst ▸ List.mem_map_of_mem hx
  have := le_ref_of_mem_objects _ hmem
  have := hlist p hp
  omega

/-- The call runs by itself. -/
def byItself : Exclusive World where
  le _ _ := True
  inv _ := True
  step w w' := w' = w
  le_refl _ := trivial
  le_trans _ _ := trivial
  step_refl _ := rfl
  step_trans h h' := h'.trans h

theorem lenient_byItself (k : ℕ) : Lenient byItself k :=
  ⟨fun _ _ _ => ⟨trivial, trivial⟩, fun _ _ _ _ => ⟨trivial, trivial⟩,
    fun _ _ _ => ⟨trivial, trivial⟩⟩

/-- The photos of a document, null if there is no list. -/
def photosOf (doc : Document) : Option (List PhotoUrl) := (Status.fromJson doc.data).photoUrl

/-- The documents after the photos have been replaced by those collected. -/
def replaced (s : Store Path Key Value) (id : DocId) (list : List Photo) : Store Path Key Value :=
  if list = [] then s.delete .status id else s.update .status id (photosField (list.map Photo.photo))

/-- What a call of `statusDeleteAfter24Hours` leaves. -/
inductive Cleaned (k : ℕ) (uid : String) (w w' : World) : Prop where
  | nothing (head : (w.docsOf uid).head? = none) (store : w'.store = w.store)
  | failed {doc : Document} (head : (w.docsOf uid).head? = some doc)
      (unreadable : ∀ photos, photosOf doc = some photos → ¬ Readable photos)
      (examinations : w'.examinations = w.examinations)
  | done {doc : Document} {photos : List PhotoUrl} {examined : List (Photo × ℕ)}
      (head : (w.docsOf uid).head? = some doc) (stored : photosOf doc = some photos)
      (readable : Readable photos) (same : examined.map (·.1.photo) = photos)
      (examinations : w'.examinations = ⟨k, (w.ctrls.get k).newPhotoList, examined,
        (w.ctrls.get k).newPhotoList ++ young examined⟩ :: w.examinations)
      (store : w'.store =
        replaced w.store doc.id ((w.ctrls.get k).newPhotoList ++ young examined))

/-- The last part of the call by itself: with an empty list the document is deleted, otherwise its
photos are replaced. The document is looked up again, and by itself the call finds the same one. -/
theorem alone_replacePhotos {k : ℕ} {uid : String} {w₀ w : World} {doc : Document}
    (hhead : (w₀.docsOf uid).head? = some doc) (hstore : w.store = w₀.store)
    (hpost : ∀ w', w'.examinations = w.examinations →
      w'.store = replaced w₀.store doc.id (w.ctrls.get k).newPhotoList → Cleaned k uid w₀ w') :
    (replacePhotos uid k doc.id).task.Alone byItself (Cleaned k uid w₀) w := by
  refine Async.Solo.andThen (Q := fun list w' => w' = w ∧ list = (w.ctrls.get k).newPhotoList)
    (Async.solo_get trivial ⟨rfl, rfl⟩) ?_
  rintro list w _ _ ⟨rfl, rfl⟩
  by_cases hnil : (w.ctrls.get k).newPhotoList = []
  · rw [if_pos hnil]
    refine alone_spawn (Async.Solo.task (Async.solo_remote ?_))
    rintro _ - - rfl t
    refine ⟨trivial, trivial, ?_⟩
    rintro _ - - rfl
    refine hpost _ rfl ?_
    rw [replaced, if_pos hnil, ← hstore]
  · rw [if_neg hnil]
    refine Async.Solo.andThen (Q := fun docs w' => w' = w ∧ docs = w.docsOf uid) ?_ ?_
    · refine Async.solo_remote ?_
      rintro _ - - rfl t
      refine ⟨trivial, trivial, ?_⟩
      rintro _ - - rfl
      exact ⟨rfl, rfl⟩
    · rintro docs w _ _ ⟨rfl, rfl⟩
      have hdocs : (w.docsOf uid).head? = some doc := by
        rw [World.docsOf, hstore]
        exact hhead
      rw [hdocs]
      refine Async.Solo.andThen (Q := fun list w' => w' = w ∧ list = (w.ctrls.get k).newPhotoList)
        (Async.solo_get trivial ⟨rfl, rfl⟩) ?_
      rintro list w _ _ ⟨rfl, rfl⟩
      refine Async.Solo.task (solo_updatePhotos ?_)
      rintro _ - - rfl
      refine ⟨trivial, trivial, ?_⟩
      rintro _ - - rfl
      refine hpost _ rfl ?_
      rw [replaced, if_neg hnil, ← hstore]

/-- The call by itself from the answer on: there is no document, or its photos cannot be read, or
they are examined one by one and the document is left with those that are not old. -/
theorem alone_removeOld {k : ℕ} {uid : String} {w : World}
    (hfresh : ∀ p ∈ (w.ctrls.get k).newPhotoList, p.ref < w.nextRef) :
    (removeOld uid k (w.docsOf uid)).task.Alone byItself (Cleaned k uid w) w := by
  unfold removeOld
  cases hhead : (w.docsOf uid).head? with
  | none => exact Async.Solo.task (Async.solo_pure trivial (.nothing hhead rfl))
  | some doc =>
    cases hstored : photosOf doc with
    | none =>
      rw [photosOf] at hstored
      simp only [hstored]
      exact Async.Solo.task (Async.solo_throw (.failed hhead (by simp [photosOf, hstored]) rfl))
    | some photos =>
      have hstored' := hstored
      rw [photosOf] at hstored'
      simp only [hstored']
      refine Async.Solo.andThen (Q := fun list w' => list = objects w.nextRef photos ∧
        w' = { w with nextRef := w.nextRef + photos.length })
        (Async.solo_sync fun _ => ⟨trivial, trivial, rfl, rfl⟩) ?_
      rintro _ w₁ _ _ ⟨rfl, rfl⟩
      have hphotos := map_photo_objects w.nextRef photos
      refine Async.Solo.andThen (solo_getPhotoUrl (lenient_byItself k) trivial
        (fun _ => ref_lt_of_mem_objects _) ?_) ?_
      · intro hne w' examined h
        refine .failed hhead ?_ h.examinations
        rintro photos' hphotos'
        rw [hstored] at hphotos'
        obtain rfl := Option.some.inj hphotos'
        rwa [hphotos] at hne
      · rintro _ w₂ _ _ ⟨examined, h⟩
        have hlist := collectAll_objects hfresh h.same
        refine Async.Solo.andThen (Q := fun _ w' => w' = w₂)
          (Async.solo_pause fun _ _ _ hs => hs) ?_
        rintro _ w₃ _ _ rfl
        refine alone_replacePhotos hhead h.store fun w' hexam hstore => ?_
        have hreadable := h.readable
        have hlist' := h.list
        simp only [hlist] at hlist'
        rw [hphotos] at hreadable
        rw [hlist'] at hstore
        have hsame : examined.map (·.1.photo) = photos := by
          have := congrArg (List.map Photo.photo) h.same
          rwa [List.map_map, hphotos] at this
        refine .done hhead hstored hreadable hsame ?_ hstore
        rw [hexam, h.examinations]
        simp only [hlist]

/-- The whole call by itself, from the user of the session to what `removeOld` leaves. -/
theorem alone_statusDelete {d k : ℕ} {w : World} {user : User} (huser : w.session d = some user)
    (hfresh : ∀ p ∈ (w.ctrls.get k).newPhotoList, p.ref < w.nextRef) :
    (statusDeleteAfter24Hours d k).task.Alone byItself (Cleaned k user.id w) w := by
  refine Async.Solo.andThen (Q := fun u w' => w' = w ∧ u = some user)
    (Async.solo_get trivial ⟨rfl, huser⟩) ?_
  rintro u w _ _ ⟨rfl, rfl⟩
  refine alone_spawn ?_
  refine Async.Solo.andThen (Q := fun docs w' => w' = w ∧ docs = w.docsOf user.id) ?_ ?_
  · refine Async.solo_remote ?_
    rintro _ - - rfl t
    refine ⟨trivial, trivial, ?_⟩
    rintro _ - - rfl
    exact ⟨rfl, rfl⟩
  · rintro docs w _ _ ⟨rfl, rfl⟩
    exact alone_removeOld hfresh

/-- What is written back as it was changes nothing. -/
theorem docs_replaced_of_eq {w : World} {uid : String} {doc : Document} {photos : List PhotoUrl}
    {list : List Photo} (hhead : (w.docsOf uid).head? = some doc) (hstored : photosOf doc = some photos)
    (hlist : list.map Photo.photo = photos) (hne : photos ≠ []) (p : Path) :
    (replaced w.store doc.id list).docs p = w.store.docs p := by
  have hnil : list ≠ [] := by
    rintro rfl
    exact hne hlist.symm
  rw [replaced, if_neg hnil, hlist]
  refine Store.docs_update_of_merge_eq fun x hx hid => Fields.merge_eq_self fun key v hv => ?_
  have hmem := (mem_docsOf.mp (List.mem_of_head? hhead)).1
  obtain rfl := w.store.eq_of_id hx hmem hid
  obtain ⟨rfl, rfl⟩ : key = .photoUrl ∧ v = .photos photos := by
    simpa [photosField, Fields.ofList, eq_comm] using hv
  have hphotos : Value.toPhotos? (x.data .photoUrl) = some photos := hstored
  unfold Value.toPhotos? at hphotos
  split at hphotos
  · next l hl => rw [hl, Option.some.inj hphotos]
  · cases hphotos

/-! ## All calls -/

/-- The young photos of the document are returned and written back, or it is deleted if there
are none; where all are young nothing changes. -/
structure Expired (k : ℕ) (doc : Document) (w w' : World) (e : Examination) : Prop where
  examinations : w'.examinations = e :: w.examinations
  ctrl : e.ctrl = k
  stored : photosOf doc = some (e.photos.map (·.1.photo))
  returned : e.returned.map Photo.photo = (young e.photos).map Photo.photo
  store : w'.store = replaced w.store doc.id (young e.photos)
  again : (young e.photos).map Photo.photo = e.photos.map (·.1.photo) → e.photos ≠ [] →
    ∀ p, w'.store.docs p = w.store.docs p

/-- What a call of `statusDeleteAfter24Hours` is for. -/
def Expires (d k : ℕ) (w w' : World) : Prop :=
  ∀ user, w.session d = some user → match (w.docsOf user.id).head? with
    | none => w'.store = w.store
    | some doc => ∃ e, Expired k doc w w' e

/-- The timestamps of the user's photos can be read, and nothing has been collected before. -/
def Clear (d k : ℕ) (w : World) : Prop :=
  ∀ user, w.session d = some user → ∀ doc, (w.docsOf user.id).head? = some doc →
    (∃ photos, photosOf doc = some photos ∧ Readable photos) ∧ (w.ctrls.get k).newPhotoList = []

/-- What a call that has come to its end does: it is what it is for exactly when the timestamps can
be read and the controller had collected nothing before. One case for each way the call may end. -/
theorem Cleaned.expires_iff {d k : ℕ} {w w' : World} {user : User} (huser : w.session d = some user)
    (h : Cleaned k user.id w w') : Expires d k w w' ↔ Clear d k w := by
  have hexpires : Expires d k w w' ↔ match (w.docsOf user.id).head? with
      | none => w'.store = w.store
      | some doc => ∃ e, Expired k doc w w' e := by
    refine ⟨fun h => h user huser, fun h user' huser' => ?_⟩
    rw [huser] at huser'
    rwa [← Option.some.inj huser']
  have hclear : Clear d k w ↔ ∀ doc, (w.docsOf user.id).head? = some doc →
      (∃ photos, photosOf doc = some photos ∧ Readable photos) ∧
        (w.ctrls.get k).newPhotoList = [] := by
    refine ⟨fun h => h user huser, fun h user' huser' => ?_⟩
    rw [huser] at huser'
    rwa [← Option.some.inj huser']
  rw [hexpires, hclear]
  cases h with
  | nothing hhead hstore => simp [hhead, hstore]
  | @failed doc hhead hunreadable hsame =>
    rw [hhead]
    constructor
    · rintro ⟨e, he⟩
      have hcons := he.examinations
      rw [hsame] at hcons
      exact absurd hcons.symm (List.cons_ne_self _ _)
    · intro h
      obtain ⟨⟨photos, hphotos, hreadable⟩, -⟩ := h doc rfl
      exact absurd hreadable (hunreadable photos hphotos)
  | @done doc photos examined hhead hstored hreadable hsame hexam hstore =>
    rw [hhead]
    constructor
    · rintro ⟨e, he⟩ doc' hdoc'
      obtain rfl := Option.some.inj hdoc'
      have hcons := he.examinations
      rw [hexam] at hcons
      obtain ⟨rfl, -⟩ := List.cons.inj hcons
      exact ⟨⟨photos, hstored, hreadable⟩, map_append_eq_iff.mp he.returned⟩
    · intro h
      obtain ⟨-, hnil⟩ := h doc rfl
      rw [hnil, List.nil_append] at hexam hstore
      refine ⟨_, hexam, rfl, ?_, rfl, hstore, fun hyoung hne p => ?_⟩
      · rw [hstored, hsame]
      · rw [hstore]
        rw [hsame] at hyoung
        refine docs_replaced_of_eq hhead hstored hyoung ?_ p
        rw [← hsame]
        simpa using hne

/-- Where no user is signed in there is nothing to do. -/
theorem expires_iff_of_none {d k : ℕ} {w w' : World} (huser : w.session d = none) :
    Expires d k w w' ↔ Clear d k w := by
  simp [Expires, Clear, huser]

/-- Lists hold only objects that have been made. -/
theorem made_of_run {store : Store Path Key Value} {session : ℕ → Option User}
    {es : List (Event Action)} {c : Config World (Option String)}
    (h : statuses.Run statuses.admits ⟨World.initial store session, [], []⟩ es c) :
    c.world.Made := by
  have hi : (apart none).inv (World.initial store session) :=
    fun k p hp => absurd hp List.not_mem_nil
  refine (System.Run.kept (E := (apart none).toEvolving) hi rfl ?_ h).inv
  intro a w hi he
  refine runs_action hi ?_ he
  cases a with
  | signIn | makePhotos => trivial
  | addStatus | cleanUp => exact fun _ _ => by simp
  | getPhotoUrl => exact ⟨he.1, by simp⟩
  | statusDeleteAfter24Hours => exact ⟨fun _ _ => by simp, he, by simp⟩

/-! ### A user with one photo -/

/-- The user who is signed in on the device 0. -/
def alice : User := { id := "alice", name := some "Alice", phone := some "+1" }

/-- All clocks show the same time. -/
def atTime (now : ℕ) : ℕ → Tick := fun _ => { now := now }

/-- A text with a timestamp. -/
def photoAt (timestamp : String) : PhotoUrl :=
  { image := some "", timestamp := some timestamp, isExpired := some false,
    statusType := some "text", statusText := some "hi" }

/-- The user has a document with the given photos. -/
def alone (photos : List PhotoUrl) : Config World (Option String) :=
  ⟨World.initial (Store.empty.add .status 0 (Status.toJson {
      uid := some alice.id
      username := alice.name
      phoneNumber := alice.phone
      photoUrl := some photos
      createdAt := some "0"
      profilePic := none
      isSeenByOwn := some false }))
    fun d => if d = 0 then some alice else none, [], []⟩

/-- The only suspended call is resumed `n` times. -/
def resumes (n : ℕ) : List (Event Action) := List.replicate n (.resume 0 (atTime 200000000000))

/-- A call that is carried on. -/
def callAndResume (a : Action) (n : ℕ) : List (Event Action) :=
  .call a (atTime 200000000000) :: resumes n

/-- `statusDeleteAfter24Hours` of the first controller. -/
def cleanedUp (c : Config World (Option String)) : Config World (Option String) :=
  statuses.exec (statuses.apply c
    (.call (.statusDeleteAfter24Hours 0 0) (atTime 200000000000))) (resumes 7)

/-- The old photo has been removed, with its document, and a new one is there. -/
def renewed : Config World (Option String) :=
  statuses.exec (alone [photoAt "0"]) (callAndResume (.cleanUp 0) 5 ++
    callAndResume (.addStatus 0 none "text" (some "hi") none) 4)

/-- A young photo has been collected. -/
def collected : Config World (Option String) :=
  statuses.exec (alone [photoAt "199000000"]) (callAndResume (.cleanUp 0) 7)

/-- **What a controller does to statuses**: in every run, a `getPhotoUrl` returns the young
photos just when their timestamps can be read and nothing that was collected before is left
over, and a `statusDeleteAfter24Hours`, which can be carried on to its end, does what it is
for just when nothing was collected before. -/
theorem expiry_iff {store : Store Path Key Value} {session : ℕ → Option User}
    {es : List (Event Action)} {c : Config World (Option String)}
    (h : statuses.Run statuses.admits ⟨World.initial store session, [], []⟩ es c) :
    (∀ k photos ticks, statuses.admits c (.call (.getPhotoUrl k photos) ticks) →
      (ReturnsYoung k photos c.world
          (statuses.apply c (.call (.getPhotoUrl k photos) ticks)).world ↔
        Readable (photos.map Photo.photo) ∧
          leftover (c.world.ctrls.get k).newPhotoList (stamped ticks 1 photos) = [])) ∧
    ∀ d k ticks, c.Settled → (∀ n, (ticks n).fails = false) →
      (∃ es' c', statuses.Run System.CarriesOn
        (statuses.apply c (.call (.statusDeleteAfter24Hours d k) ticks)) es' c' ∧ c'.Settled) ∧
      ∀ es' c', statuses.Run System.CarriesOn
        (statuses.apply c (.call (.statusDeleteAfter24Hours d k) ticks)) es' c' → c'.Settled →
          (Expires d k c.world c'.world ↔ Clear d k c.world) := by
  refine ⟨fun k photos ticks he => getPhotoUrl_iff he.2.1 ticks, ?_⟩
  intro d k ticks hsettled hticks
  refine ⟨System.exists_settled statuses _, fun es' c' hrun hc' => ?_⟩
  cases huser : c.world.session d with
  | none => exact expires_iff_of_none huser
  | some user =>
    have halone := alone_statusDelete (k := k) huser (made_of_run h k)
    have hcleaned : Cleaned k user.id c.world c'.world :=
      System.Run.alone (X := byItself) (fun _ hs hj => hs ▸ hj) hsettled trivial hticks halone hrun
        hc'
    exact hcleaned.expires_iff huser


/-- The controller that has collected nothing leaves the new photo. -/
theorem expiry_iff_renewed : Expires 0 0 renewed.world (cleanedUp renewed).world := by
  have hrun : statuses.Run statuses.admits (alone [photoAt "0"]) _ renewed :=
    System.run_exec (by decide +kernel)
  have hcarry : statuses.Run System.CarriesOn (statuses.apply renewed
      (.call (.statusDeleteAfter24Hours 0 0) (atTime 200000000000))) (resumes 7)
      (cleanedUp renewed) :=
    System.run_exec ⟨fun _ => rfl, fun _ => rfl, fun _ => rfl, fun _ => rfl, fun _ => rfl,
      fun _ => rfl, fun _ => rfl, trivial⟩
  have hiff := (expiry_iff hrun).2 0 0 (atTime 200000000000) (by decide +kernel) fun _ => rfl
  refine (hiff.2 _ _ hcarry (by decide +kernel)).mpr ?_
  have hsession : renewed.world.session 0 = some alice := by decide +kernel
  have hphotos : ∀ doc ∈ (renewed.world.docsOf alice.id).head?,
      photosOf doc = some [photoAt "200000000"] := by decide +kernel
  have hlist : (renewed.world.ctrls.get 0).newPhotoList = [] := by decide +kernel
  intro user huser doc hdoc
  rw [hsession] at huser
  obtain rfl := Option.some.inj huser
  exact ⟨⟨_, hphotos doc hdoc, by decide +kernel⟩, hlist⟩

/-- A second call at the same instant stores the photo twice. -/
theorem expiry_repeated :
    statuses.Run statuses.admits (alone [photoAt "199000000"]) (callAndResume (.cleanUp 0) 7)
        collected ∧
      statuses.Run System.CarriesOn (statuses.apply collected
        (.call (.statusDeleteAfter24Hours 0 0) (atTime 200000000000))) (resumes 7)
        (cleanedUp collected) ∧
      collected.Settled ∧ (cleanedUp collected).Settled ∧
      ((cleanedUp collected).world.docsOf "alice").map photosOf =
        [some [photoAt "199000000", photoAt "199000000"]] ∧
      ¬ Expires 0 0 collected.world (cleanedUp collected).world := by
  have hrun : statuses.Run statuses.admits (alone [photoAt "199000000"]) _ collected :=
    System.run_exec (by decide +kernel)
  have hcarry : statuses.Run System.CarriesOn (statuses.apply collected
      (.call (.statusDeleteAfter24Hours 0 0) (atTime 200000000000))) (resumes 7)
      (cleanedUp collected) :=
    System.run_exec ⟨fun _ => rfl, fun _ => rfl, fun _ => rfl, fun _ => rfl, fun _ => rfl,
      fun _ => rfl, fun _ => rfl, trivial⟩
  refine ⟨hrun, hcarry, by decide +kernel, by decide +kernel, by decide +kernel, fun h => ?_⟩
  have hsession : collected.world.session 0 = some alice := by decide +kernel
  have hdocs : ((collected.world.docsOf alice.id).head?).isSome := by decide +kernel
  have hexam : ∀ e ∈ (cleanedUp collected).world.examinations.head?,
      e.returned.map Photo.photo ≠ (young e.photos).map Photo.photo := by decide +kernel
  have hexpires := h alice hsession
  split at hexpires
  · next hnone => simp [hnone] at hdocs
  · obtain ⟨e, he⟩ := hexpires
    exact hexam e (by simp [he.examinations]) he.returned

end FlutterTheme.Statuses
