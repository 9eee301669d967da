import FlutterTheme.PresenceRecord

/-!
# Signing out, and deleting an account

A user leaves a device with the logout of the settings, which writes the presence of the user
first, or by deleting the account. Any number of devices may be signed in as the same user, and
whatever they write of the user is an update, which fails where there is no document.

* `logout`, `deleteUser` — the entries of the settings.
* `deleted_until_registered` — a user document that is gone comes back only with a registration.
* `stays_signed_in` — a device that is signed in as a deleted user does not get signed out.
* `offline_after_logout` — once the last device of a user is signed out, the user is shown with
  the time of the logout, until somebody signs in again.
-/

namespace FlutterTheme.Presence

open EventLoop DocStore Login

/-! ## Leaving a device -/

/-- `storage.remove(session.user)`: none of the users that were stored is left. -/
def World.removeUser (w : World) (d : ℕ) : World :=
  { w with login := { w.login with session := w.login.session.filter (·.device ≠ d) } }

/-- `storage.remove(session.id)`. -/
def World.removeId (w : World) (d : ℕ) : World :=
  { w with login := w.login.modifyDevice d fun s => { s with sessionId := none } }

/-- What is stored on the device is removed, one after the other. -/
def clearStorage (d : ℕ) : Handler Unit := do
  Async.modify (World.removeUser · d)
  Async.pause
  Async.modify (World.removeId · d)
  Async.pause
  -- the theme, the direction, and twice the language
  Async.pause
  Async.pause
  Async.pause
  Async.pause

/-- `Get.offAllNamed(routeName.phone)`: the chat screens of the device are closed. -/
def World.offAllNamed (w : World) (d : ℕ) : World :=
  { w with
    login := w.login.modifyDevice d fun s => { s with route := .phone }
    chats := fun s => if s.device = d then { chatId := "0" } else w.chats s }

/-- The logout of `SettingListCard`. -/
def logout (d : ℕ) : Handler Unit := do
  let user ← sessionUser d
  let now ← millisecondsSinceEpoch
  update .other (userId user) (lastSeenFields now)
  clearStorage d
  Async.modify (World.offAllNamed · d)

/-- The document of a user is deleted. -/
def World.deleteDoc (w : World) (id : String) : World :=
  { w with login := { w.login with store := w.login.store.delete .users (.named id) } }

/-- What `SettingController.deleteUser` does when it is confirmed. -/
def deleteUser (d : ℕ) : Handler Unit := do
  let user ← sessionUser d
  Async.modify (World.offAllNamed · d)
  match userId user with
  | none => Async.throw
  | some id => do
    Async.remote fun _ w => ((), w.deleteDoc id)
    Async.remote fun _ w => ((), w) -- the document in `calls`
    Async.remote fun _ w => ((), w) -- the document in `status`
    clearStorage d

/-! ## The system -/

/-- What can happen on the devices. -/
inductive AccountDeed : Type where
  | deed (a : Deed)
  | logout (d : ℕ)
  | deleteUser (d : ℕ)

namespace AccountDeed

/-- The handler of an action. -/
def body (auth : Auth) : AccountDeed → Handler Unit
  | deed a => a.body auth
  | logout d => Presence.logout d
  | deleteUser d => Presence.deleteUser d

/-- When an action can be started. -/
def enabled (w : World) : AccountDeed → Prop
  | deed a => a.enabled w
  | logout _ | deleteUser _ => True

instance (w : World) : (a : AccountDeed) → Decidable (a.enabled w)
  | .deed a => inferInstanceAs (Decidable (a.enabled w))
  | .logout _ | .deleteUser _ => inferInstanceAs (Decidable True)

/-- What an action is caused by. -/
def scope : AccountDeed → Scope
  | deed (.presence a) => a.scope
  | deed (.login _) | logout _ | deleteUser _ => .other

end AccountDeed

/-- All devices. -/
def accounts (auth : Auth) : System World Scope AccountDeed where
  scope a _ := a.scope
  body := AccountDeed.body auth
  enabled w a := a.enabled w

instance (auth : Auth) (c : Config World Scope) :
    (e : Event AccountDeed) → Decidable ((accounts auth).admits c e)
  | .call a _ => inferInstanceAs (Decidable (a.enabled c.world))
  | .resume _ _ => inferInstanceAs (Decidable True)

/-! ## The documents -/

/-- The document of a user. -/
def World.doc (w : World) (id : String) : Option Document := w.login.store.doc? .users (.named id)

variable {auth : Auth} {w w' : World} {id id' : String} {d d' : ℕ} {u : Data} {by' : Scope}

theorem doc_write_of_ne (h : id ≠ id') : (w.write by' id' u).doc id = w.doc id :=
  Store.doc?_update_of_ne fun he => h (DocId.named.inj he)

theorem doc_write_of_none (h : w.doc id = none) : (w.write by' id' u).doc id = none := by
  refine (Store.doc?_eq_none _).mpr fun x hx => ?_
  obtain ⟨y, hy, rfl⟩ := Store.mem_update.mp hx
  have hne := (Store.doc?_eq_none _).mp h y hy
  split
  · exact hne
  · exact hne

theorem doc_deleteDoc_of_ne (h : id ≠ id') : (w.deleteDoc id').doc id = w.doc id := by
  refine Option.ext fun x => ?_
  simp only [World.doc, Store.doc?_eq_some, World.deleteDoc, Store.mem_delete, true_and]
  constructor
  · rintro ⟨⟨hx, -⟩, hid⟩
    exact ⟨hx, hid⟩
  · rintro ⟨hx, hid⟩
    exact ⟨⟨hx, fun he => h (DocId.named.inj (hid.symm.trans he))⟩, hid⟩

theorem doc_deleteDoc_of_none (h : w.doc id = none) : (w.deleteDoc id').doc id = none := by
  refine (Store.doc?_eq_none _).mpr fun x hx => ?_
  exact (Store.doc?_eq_none _).mp h x (Store.mem_delete.mp hx).1

/-! ## Who is signed in -/

/-- Removing the user of one device's storage leaves the others' as they are. -/
theorem sessionUser_removeUser (d d' : ℕ) : (w.removeUser d).login.sessionUser d' =
    if d' = d then none else w.login.sessionUser d' := by
  simp only [Login.World.sessionUser, World.removeUser, List.find?_filter]
  split
  · next h =>
    rw [List.find?_eq_none.mpr, Option.bind_none]
    rintro x - hx
    simp only [h, ne_eq, decide_not, decide_eq_true_eq, Bool.not_eq_true',
      decide_eq_false_iff_not] at hx
    exact hx.1 hx.2
  · next h =>
    refine congrArg (Option.bind · _) (congrFun (congrArg _ (funext fun x => ?_)) _)
    by_cases hx : x.device = d'
    · simp [hx, h]
    · simp [hx]

theorem signedIn_removeUser (d d' : ℕ) :
    (w.removeUser d).signedIn d' = if d' = d then none else w.signedIn d' := by
  rw [World.signedIn, sessionUser_removeUser]
  split
  · rfl
  · rfl

/-! ## Presence writes that are spared -/

/-- The user, if there is one, may be written. -/
def MayWrite (may : String → Prop) (id : Option String) : Prop := ∀ x ∈ id, may x

/-- The documents of some users may be written to. Whoever a device is signed in as later, it may
write to that document if it may now, and so may the user of every open chat screen. -/
structure Lets (E : Evolving World) (may : String → Prop) : Prop where
  write : ∀ w by' id u, E.inv w → may id → E.Permits w (w.write by' id u)
  delete : ∀ w id, E.inv w → may id → E.Permits w (w.deleteDoc id)
  chat : ∀ w s f, E.inv w → MayWrite may s.userId → E.Permits w (w.modifyChat s f)
  later : ∀ w w' d, E.le w w' → MayWrite may (w.signedIn d) → MayWrite may (w'.signedIn d)
  screens : ∀ w s, E.inv w → 0 < (w.chats s).listeners → MayWrite may s.userId

namespace Lets

variable {E : Evolving World} {may : String → Prop} {s : Screen}

/-- An update that succeeds has found the document. -/
theorem update (h : Lets E may) {id : Option String} (hid : MayWrite may id) :
    Keeps E (Presence.update by' id u) w fun _ _ =>
      ∃ x w', id = some x ∧ E.inv w' ∧ (w'.doc x).isSome = true := by
  cases id with
  | none => exact keeps_throw
  | some id =>
    refine keeps_bind (Q := fun found _ => found = true →
      ∃ w', E.inv w' ∧ (w'.doc id).isSome = true) (keeps_remote fun w' _ hi t => ?_) ?_
    · exact ⟨h.write w' by' id u hi (hid id rfl), fun _ _ _ hfound => ⟨w', hi, hfound⟩⟩
    · intro found w' _ hi hfound
      cases found with
      | false => exact keeps_throw
      | true =>
        obtain ⟨w₁, hi₁, hdoc⟩ := hfound rfl
        exact keeps_pure hi ⟨id, w₁, rfl, hi₁, hdoc⟩

theorem now {m : String → Handler Unit} (hi : E.inv w) (hm : ∀ now, Runs E (m now) w) :
    Runs E (millisecondsSinceEpoch >>= m) w :=
  keeps_bind (Q := fun _ w' => w' = w) (keeps_sync fun _ => ⟨.refl hi, rfl⟩)
    fun now _ _ _ he => he ▸ hm now

theorem setIsActive (h : Lets E may) (hi : E.inv w) (hd : MayWrite may (w.signedIn d)) :
    Runs E (Presence.setIsActive by' d) w := by
  refine keeps_bind (Q := fun user w' => w' = w ∧ userId user = w.signedIn d)
    (keeps_get hi ⟨rfl, rfl⟩) ?_
  rintro user w' - hi' ⟨rfl, hid⟩
  cases user with
  | none => exact keeps_pure hi' trivial
  | some user => exact now hi' fun _ => (h.update (hid ▸ hd)).runs

theorem setLastSeen (h : Lets E may) (hi : E.inv w) (hd : MayWrite may (w.signedIn d)) :
    Runs E (Presence.setLastSeen by' d) w := by
  refine keeps_bind (Q := fun user w' => w' = w ∧ userId user = w.signedIn d)
    (keeps_get hi ⟨rfl, rfl⟩) ?_
  rintro user w' - hi' ⟨rfl, hid⟩
  cases user with
  | none => exact keeps_pure hi' trivial
  | some user => exact now hi' fun _ => (h.update (hid ▸ hd)).runs

theorem setTyping (h : Lets E may) (hi : E.inv w) (hd : MayWrite may (w.signedIn d)) :
    Runs E (Presence.setTyping by' d) w := by
  refine keeps_bind (Q := fun user w' => w' = w ∧ userId user = w.signedIn d)
    (keeps_get hi ⟨rfl, rfl⟩) ?_
  rintro user w' - hi' ⟨rfl, hid⟩
  exact now hi' fun _ => (h.update (hid ▸ hd)).runs

theorem modifyChat (h : Lets E may) (hi : E.inv w) (hs : MayWrite may s.userId)
    {f : ChatController → ChatController} : Runs E (Presence.modifyChat s f) w :=
  runs_modify (h.chat w s f hi hs)

theorem listener (h : Lets E may) (hi : E.inv w) (hs : MayWrite may s.userId)
    (hd : MayWrite may (w.signedIn s.device)) : Runs E (Presence.listener s) w := by
  refine keeps_bind (Q := fun _ w' => w' = w) (keeps_get hi rfl) ?_
  rintro chatCtrl w' - hi' rfl
  split
  · exact keeps_seq (runs_spawn (h.setTyping hi' hd)) fun _ _ hi'' => h.modifyChat hi'' hs
  · split
    · exact keeps_seq (runs_spawn (h.setIsActive hi' hd)) fun _ _ hi'' => h.modifyChat hi'' hs
    · exact keeps_pure hi' trivial

theorem setText (h : Lets E may) (hi : E.inv w) (hs : MayWrite may s.userId)
    (hd : MayWrite may (w.signedIn s.device)) {text : String} :
    Runs E (Presence.setText s text) w := by
  refine keeps_seq (h.modifyChat hi hs) fun w₁ hw₁ hi₁ => ?_
  refine keeps_bind (Q := fun _ w' => w' = w₁) (keeps_get hi₁ rfl) ?_
  rintro chatCtrl w₂ - hi₂ rfl
  refine runs_forEach hi₂ fun _ _ w₃ hw₃ hi₃ => h.listener hi₃ hs ?_
  exact h.later _ _ _ (E.le_trans hw₁ hw₃) hd

end Lets

/-- The device an action of a chat screen is taken on. -/
def Action.device : Action → ℕ
  | openChat s _ | onChanged s _ | clear s | resumed s | onBackPress s => s.device
  | setIsActive d | setLastSeen d => d

/-- What the chat screens do is to write the status of their own user, so it is permitted wherever
this user's document may be written to. -/
theorem Lets.presence {E : Evolving World} {may : String → Prop} (h : Lets E may) (hi : E.inv w)
    {a : Action} (ha : a.enabled w) (hd : MayWrite may (w.signedIn a.device)) :
    Runs E a.body w := by
  cases a with
  | openChat s chatId =>
    have hs : MayWrite may s.userId := ha.2 ▸ hd
    exact keeps_seq (h.modifyChat hi hs) fun _ _ hi' => h.modifyChat hi' hs
  | onChanged s text =>
    have hs := h.screens w s hi ha
    exact keeps_seq (h.setText hi hs hd) fun _ _ hi' => h.modifyChat hi' hs
  | clear s => exact h.setText hi (h.screens w s hi ha) hd
  | resumed s =>
    exact keeps_seq (runs_spawn (h.setIsActive hi hd)) fun _ _ hi' =>
      h.modifyChat hi' (h.screens w s hi ha)
  | setIsActive d => exact h.setIsActive hi hd
  | setLastSeen d => exact h.setLastSeen hi hd
  | onBackPress s => exact runs_spawn (h.update (h.screens w s hi ha)).runs

/-- The devices that may be left: they may be so later as well. -/
structure Frees (E : Evolving World) (free : World → ℕ → Prop) : Prop where
  later : ∀ w w' d, E.le w w' → free w d → free w' d
  removeUser : ∀ w d, E.inv w → free w d → E.Permits w (w.removeUser d)
  removeId : ∀ w d, E.inv w → free w d → E.Permits w (w.removeId d)
  offAllNamed : ∀ w d, E.inv w → free w d → E.Permits w (w.offAllNamed d)

section Leave

variable {E : Evolving World} {may : String → Prop} {free : World → ℕ → Prop}

theorem Frees.clearStorage (hf : Frees E free) (hi : E.inv w) (hd : free w d) :
    Runs E (Presence.clearStorage d) w := by
  refine keeps_seq (runs_modify (hf.removeUser w d hi hd)) fun w₁ hw₁ hi₁ => ?_
  refine keeps_seq runs_pause fun w₂ hw₂ hi₂ => ?_
  have hd₂ : free w₂ d := hf.later _ _ _ (E.le_trans hw₁ hw₂) hd
  refine keeps_seq (runs_modify (hf.removeId w₂ d hi₂ hd₂)) fun _ _ _ => ?_
  refine keeps_seq runs_pause fun _ _ _ => keeps_seq runs_pause fun _ _ _ => ?_
  refine keeps_seq runs_pause fun _ _ _ => keeps_seq runs_pause fun _ _ _ => ?_
  exact runs_pause

/-- A device is left if the logout has found the document of its user. -/
theorem Lets.logout (h : Lets E may) (hf : Frees E free) (hi : E.inv w)
    (hd : MayWrite may (w.signedIn d))
    (hfree : ∀ x w', w.signedIn d = some x → E.inv w' → (w'.doc x).isSome = true → free w d) :
    Runs E (Presence.logout d) w := by
  refine keeps_bind (Q := fun user w' => w' = w ∧ userId user = w.signedIn d)
    (keeps_get hi ⟨rfl, rfl⟩) ?_
  rintro user w₀ - hi₀ ⟨rfl, hid⟩
  refine Lets.now hi₀ fun now => ?_
  rw [hid]
  refine keeps_bind (h.update hd) fun _ w₁ hw₁ hi₁ hfound => ?_
  obtain ⟨x, w', hx, hi', hdoc⟩ := hfound
  have hd₁ : free w₁ d := hf.later _ _ _ hw₁ (hfree x w' hx hi' hdoc)
  refine keeps_seq (hf.clearStorage hi₁ hd₁) fun w₂ hw₂ hi₂ => ?_
  exact runs_modify (hf.offAllNamed w₂ d hi₂ (hf.later _ _ _ hw₂ hd₁))

/-- `deleteUser` on a device that may be left by a user whose document may go: the requests in
between write nothing, and the storage is cleared at the end only. -/
theorem Lets.deleteUser (h : Lets E may) (hf : Frees E free) (hi : E.inv w)
    (hd : MayWrite may (w.signedIn d)) (hfree : free w d) :
    Runs E (Presence.deleteUser d) w := by
  refine keeps_bind (Q := fun user w' => w' = w ∧ userId user = w.signedIn d)
    (keeps_get hi ⟨rfl, rfl⟩) ?_
  rintro user w₀ - hi₀ ⟨rfl, hid⟩
  rw [hid]
  refine keeps_seq (runs_modify (hf.offAllNamed w₀ d hi₀ hfree)) fun w₁ hw₁ hi₁ => ?_
  cases hx : w₀.signedIn d with
  | none => exact keeps_throw
  | some x =>
    have hskip {w' : World} : Runs E (Async.remote fun _ w => ((), w) : Handler Unit) w' :=
      keeps_remote fun w'' _ hi'' _ => ⟨.refl hi'', fun _ _ _ => trivial⟩
    refine keeps_seq (keeps_remote fun w' _ hi' _ => ?_) fun w₂ hw₂ _ => ?_
    · exact ⟨h.delete w' x hi' (hd x hx), fun _ _ _ => trivial⟩
    refine keeps_seq hskip fun w₃ hw₃ _ => keeps_seq hskip fun w₄ hw₄ hi₄ => ?_
    have hw : E.le w₀ w₄ := E.le_trans hw₁ (E.le_trans hw₂ (E.le_trans hw₃ hw₄))
    exact hf.clearStorage hi₄ (hf.later _ _ _ hw hfree)

end Leave

/-- Nobody goes through the login or the profile editor. -/
def isLogin : Event AccountDeed → Bool
  | .call (.deed (.login _)) _ => true
  | _ => false

/-! ## A device of a deleted user -/

/-- The account of the user is gone, and the device is signed in with it. -/
structure Stuck (id : String) (d : ℕ) (user : Option Data) (s : Device) (w : World) : Prop where
  gone : w.doc id = none
  session : w.login.sessionUser d = user
  device : w.login.devices d = s

section Stuck

variable {user : Option Data} {s : Device}

end Stuck

/-! ## The last device of a user -/

/-- The user is shown as having been there last at that time. -/
def Shown (id : String) (n : ℕ) (w : World) : Prop :=
  ∃ doc, w.doc id = some doc ∧ Line.ofData doc.data = some (.time n)

/-- No other device is signed in as the user, and the device only until the user is shown. -/
structure Last (id : String) (d n : ℕ) (w : World) : Prop where
  others : ∀ d', d' ≠ d → w.signedIn d' ≠ some id
  screens : ∀ s, 0 < (w.chats s).listeners → s.userId ≠ some id
  shown : w.signedIn d ≠ some id → Shown id n w

/-- Devices sign out, and the user stays shown. -/
structure Later (id : String) (n : ℕ) (w w' : World) : Prop where
  signedIn : ∀ d, w'.signedIn d = w.signedIn d ∨ w'.signedIn d = none
  shown : Shown id n w → Shown id n w'

def leaving (id : String) (d n : ℕ) : Evolving World where
  le := Later id n
  inv := Last id d n
  le_refl _ := ⟨fun _ => .inl rfl, fun h => h⟩
  le_trans h h' := by
    refine ⟨fun d => ?_, fun hs => h'.shown (h.shown hs)⟩
    rcases h'.signedIn d with hd | hd
    · rw [hd]
      exact h.signedIn d
    · exact .inr hd
  step_refl _ := trivial

section Last

variable {n : ℕ}

theorem mayWrite_ne {x : Option String} : MayWrite (· ≠ id) x ↔ x ≠ some id := by
  cases x with
  | none => exact ⟨fun _ => nofun, fun _ => nofun⟩
  | some x =>
    refine ⟨fun h he => h x rfl (Option.some.inj he), fun h y hy => ?_⟩
    exact fun he => h (he ▸ hy)

/-- The document and the users of the devices are the same. -/
theorem permits_of_doc (hi : Last id d n w) (hdoc : w'.doc id = w.doc id)
    (hsigned : ∀ d, w'.signedIn d = w.signedIn d)
    (hscreens : ∀ s, 0 < (w'.chats s).listeners → s.userId ≠ some id) :
    (leaving id d n).Permits w w' where
  le := ⟨fun d => .inl (hsigned d), fun h => by rwa [Shown, hdoc]⟩
  inv := by
    refine ⟨fun d' hd' => ?_, hscreens, fun hd => ?_⟩
    · rw [hsigned]
      exact hi.others d' hd'
    · rw [hsigned] at hd
      rw [Shown, hdoc]
      exact hi.shown hd
  step := trivial

/-- While a user leaves, the documents of all others may be written to and deleted, and no open
screen is the user's own. -/
theorem lets_leaving : Lets (leaving id d n) (· ≠ id) where
  write w by' x u hi hx := permits_of_doc hi (doc_write_of_ne hx.symm) (fun _ => rfl) hi.screens
  delete w x hi hx := permits_of_doc hi (doc_deleteDoc_of_ne hx.symm) (fun _ => rfl) hi.screens
  chat w s f hi hs := by
    refine permits_of_doc hi rfl (fun _ => rfl) fun s' hs' => ?_
    simp only [World.modifyChat, Function.update_apply] at hs'
    split at hs'
    · next he => exact he ▸ mayWrite_ne.mp hs
    · exact hi.screens s' hs'
  later w w' d' hw hd := by
    rw [mayWrite_ne] at hd ⊢
    rcases hw.signedIn d' with he | he
    · rwa [he]
    · rw [he]
      exact nofun
  screens w s hi hs := mayWrite_ne.mpr (hi.screens s hs)

/-- The devices that may be left are those of others, and the user's own once the user is shown as
offline; leaving a device only signs it out. -/
theorem frees_leaving :
    Frees (leaving id d n) fun w d' => w.signedIn d' ≠ some id ∨ Shown id n w where
  later w w' d' hw hd := by
    rcases hd with hd | hd
    · exact .inl (mayWrite_ne.mp (lets_leaving.later w w' d' hw (mayWrite_ne.mpr hd)))
    · exact .inr (hw.shown hd)
  removeUser w d' hi hd := by
    refine ⟨⟨fun d'' => ?_, fun h => h⟩, ⟨fun d'' hd'' => ?_, hi.screens, fun hd'' => ?_⟩, trivial⟩
    · rw [signedIn_removeUser]
      split
      · exact .inr rfl
      · exact .inl rfl
    · rw [signedIn_removeUser]
      split
      · exact nofun
      · exact hi.others d'' hd''
    · rw [signedIn_removeUser] at hd''
      split at hd''
      · next he =>
        rcases hd with hd | hd
        · exact hi.shown (he ▸ hd)
        · exact hd
      · exact hi.shown hd''
  removeId w d' hi _ := permits_of_doc hi rfl (fun _ => rfl) hi.screens
  offAllNamed w d' hi _ := by
    refine permits_of_doc hi rfl (fun _ => rfl) fun s hs => ?_
    simp only [World.offAllNamed] at hs
    split at hs
    · exact absurd hs (Nat.lt_irrefl 0)
    · exact hi.screens s hs

/-- The device an action is taken on, but for the login. -/
def AccountDeed.device : AccountDeed → Option ℕ
  | deed (.login _) => none
  | deed (.presence a) => some a.device
  | logout d | deleteUser d => some d

/-- What the others do while a user leaves: none of it writes the user's document, and none signs a
device in as the user. -/
theorem runs_leaving {a : AccountDeed} (hi : Last id d n w) (ha : a.enabled w)
    (hlogin : ∀ b, a ≠ .deed (.login b))
    (hd : ∀ d', a.device = some d' → w.signedIn d' ≠ some id) :
    Runs (leaving id d n) (a.body auth) w := by
  cases a with
  | deed a =>
    cases a with
    | login b => exact absurd rfl (hlogin b)
    | presence a => exact lets_leaving.presence hi ha (mayWrite_ne.mpr (hd _ rfl))
  | logout d' =>
    exact lets_leaving.logout frees_leaving hi (mayWrite_ne.mpr (hd _ rfl)) fun _ _ _ _ _ =>
      .inl (hd _ rfl)
  | deleteUser d' =>
    exact lets_leaving.deleteUser frees_leaving hi (mayWrite_ne.mpr (hd _ rfl)) (.inl (hd _ rfl))

/-- The user is shown with the time that is written. -/
theorem shown_write {doc : Document} (h : w.doc id = some doc) :
    Shown id n (w.write by' id (lastSeenFields (toString n))) := by
  refine ⟨⟨.named id, doc.data.merge (lastSeenFields (toString n))⟩, Store.doc?_update h, ?_⟩
  have hparse : lastSeenOf (doc.data.merge (lastSeenFields (toString n))) = some (n : ℤ) := by
    rw [lastSeenOf, Fields.merge_of_some (show lastSeenFields (toString n) .lastSeen = _ from rfl)]
    exact intParse_toString n
  have hstatus : doc.data.merge (lastSeenFields (toString n)) .status = some (.str "Offline") :=
    Fields.merge_of_some rfl
  simp only [Line.ofData, hstatus, if_true, hparse, Option.map_some]

/-- The logout of the last device, from the time it is taken: the user is shown with this time
before the storage is cleared and the device leaves. -/
theorem runs_logout :
    Runs (leaving id d n) (do
      update .other (some id) (lastSeenFields (toString n))
      clearStorage d
      Async.modify (World.offAllNamed · d)) w := by
  have hupdate : Keeps (leaving id d n) (update .other (some id) (lastSeenFields (toString n))) w
      fun _ w' => Shown id n w' := by
    refine keeps_bind (Q := fun found w' => found = true → Shown id n w')
      (keeps_remote fun w' _ hi' _ => ⟨⟨⟨fun _ => .inl rfl, fun hs => ?_⟩, ?_, trivial⟩, ?_⟩) ?_
    · obtain ⟨doc, hdoc, -⟩ := hs
      exact shown_write hdoc
    · refine ⟨hi'.others, hi'.screens, fun hd => ?_⟩
      obtain ⟨doc, hdoc, -⟩ := hi'.shown hd
      exact shown_write hdoc
    · intro w'' hw'' _ hfound
      obtain ⟨doc, hdoc⟩ := Option.isSome_iff_exists.mp hfound
      exact hw''.shown (shown_write hdoc)
    · intro found w' _ hi' hfound
      cases found with
      | false => exact keeps_throw
      | true => exact keeps_pure hi' (hfound rfl)
  refine keeps_bind hupdate fun _ w₁ hw₁ hi₁ hshown => ?_
  refine keeps_seq (frees_leaving.clearStorage hi₁ (.inr hshown)) fun w₂ hw₂ hi₂ => ?_
  exact runs_modify (frees_leaving.offAllNamed w₂ d hi₂ (.inr (hw₂.shown hshown)))

end Last

/-! ## A document that is gone -/

/-- A document that is not there is registered, or stays away. -/
def lasting (id : String) : Evolving World where
  le _ _ := True
  inv _ := True
  step w w' := w.doc id = none → w'.doc id = none ∨ Registers id ⟨.other, w, w'⟩
  le_refl _ := trivial
  le_trans _ _ := trivial
  step_refl _ := .inl

theorem permits_lasting (h : w.doc id = none → w'.doc id = none) : (lasting id).Permits w w' :=
  ⟨trivial, trivial, fun hw => .inl (h hw)⟩

/-- A document that is missing can only come back by a registration: an update needs it to be there,
and the writes of other documents do not make it. -/
theorem permits_of_touches (h : Touches w.login.store w'.login.store) :
    (lasting id).Permits w w' := by
  refine ⟨trivial, trivial, fun hw => ?_⟩
  have hgone := (Store.doc?_eq_none _).mp hw
  cases h with
  | rest hstore => exact .inl (by rwa [World.doc, hstore])
  | save id' u _ hstore =>
    refine .inl ((Store.doc?_eq_none _).mpr fun x hx => ?_)
    rw [hstore] at hx
    obtain ⟨y, hy, rfl⟩ := Store.mem_update.mp hx
    split
    · exact hgone y hy
    · exact hgone y hy
  | register user platform token phone pos hstore =>
    by_cases he : user.uid = id
    · exact .inr ⟨user, platform, token, phone, pos, he, he ▸ hstore⟩
    · refine .inl ((Store.doc?_eq_none _).mpr fun x hx => ?_)
      rw [hstore] at hx
      rcases Store.mem_set.mp hx with ⟨-, rfl⟩ | ⟨hx, -⟩
      · exact fun hid => he (DocId.named.inj hid)
      · exact hgone x hx

theorem lets_lasting : Lets (lasting id) fun _ => True where
  write _ _ _ _ _ _ := permits_lasting doc_write_of_none
  delete _ _ _ _ := permits_lasting doc_deleteDoc_of_none
  chat _ _ _ _ _ := permits_lasting fun h => h
  later _ _ _ _ _ := fun _ _ => trivial
  screens _ _ _ _ := fun _ _ => trivial

theorem frees_lasting : Frees (lasting id) fun _ _ => True where
  later _ _ _ _ h := h
  removeUser _ _ _ _ := permits_lasting fun h => h
  removeId _ _ _ _ := permits_lasting fun h => h
  offAllNamed _ _ _ _ := permits_lasting fun h => h

/-- Every action keeps a missing document away or registers it. The sign-in is read off its deeds,
the other actions from what they may write. -/
theorem safe_lasting {a : AccountDeed} (ha : a.enabled w) {l : Scope} :
    (a.body auth).task.Safe ((lasting id).protocol Scope) l w := by
  have hmay {x : Option String} : MayWrite (fun _ => True) x := fun _ _ => trivial
  cases a with
  | deed a =>
    cases a with
    | login b =>
      refine Task.All.safe (D := allDeeds) (fun _ _ _ _ h => permits_of_touches h) ?_ trivial
      exact (Async.All.embed (V := loginPart) (D := loginDeeds) (fun _ _ _ h => h)
        (all_login ha.1)).task
    | presence a => exact (lets_lasting.presence trivial ha hmay).safe l
  | logout d =>
    exact (lets_lasting.logout frees_lasting trivial hmay fun _ _ _ _ _ => trivial).safe l
  | deleteUser d => exact (lets_lasting.deleteUser frees_lasting trivial hmay trivial).safe l

/-! ## Runs -/

/-- **A deleted account comes back only by registering.** Whatever the devices do, and whatever of
it was under way when the document of a user went: if the document is there again, the user has
been registered in the meantime. -/
theorem deleted_until_registered {platform : ℕ → Platform} {es₀ es : List (Event AccountDeed)}
    {c₀ c : Config World Scope}
    (h₀ : (accounts auth).Run (accounts auth).admits (start platform) es₀ c₀)
    (h : (accounts auth).Run (accounts auth).admits c₀ es c) (hgone : c₀.world.doc id = none)
    (hdoc : c.world.doc id ≠ none) : ∃ st ∈ (accounts auth).moves c₀ es, Registers id st := by
  have hprov : ∀ c e, c.Kept ((lasting id).protocol Scope) → (accounts auth).admits c e →
      (accounts auth).Provides ((lasting id).protocol Scope) c e := by
    intro c e _ he
    cases e with
    | resume i ticks => exact fun _ _ => trivial
    | call a ticks => exact safe_lasting he
  have hstart : (start platform).Kept ((lasting id).protocol Scope) :=
    ⟨trivial, fun th hth => absurd hth List.not_mem_nil⟩
  have hkept : c₀.Kept ((lasting id).protocol Scope) := h₀.safe hstart hprov
  have hsteps : ∀ st ∈ (accounts auth).moves c₀ es, st.before.doc id = none →
      st.after.doc id = none ∨ Registers id st := by
    refine h.forall_moves fun es c e hrun he st hst => ?_
    have hc := hrun.safe hkept hprov
    exact (System.outcome_kept hc (hprov c e hc he)).steps st hst
  by_contra hnone
  have hleads : Leads c₀.world ((accounts auth).moves c₀ es)
      ((accounts auth).exec c₀ es).world := System.leads_moves
  rw [← h.exec_eq] at hleads
  refine hdoc (hleads.keeps (P := fun w => w.doc id = none) (fun st hst hbefore => ?_) hgone)
  exact (hsteps st hst hbefore).resolve_right fun hreg => hnone ⟨st, hst, hreg⟩

/-- The events on the devices. -/
def onDevices : List (Event Deed) → List (Event AccountDeed) :=
  List.map fun
    | .call a ticks => .call (.deed a) ticks
    | .resume i ticks => .resume i ticks

/-- Calls are carried on. -/
theorem run_resumes {ok : Config World Scope → Event AccountDeed → Prop} {n i : ℕ}
    {ticks : ℕ → Tick} (hok : ∀ c, ok c (.resume i ticks)) {c : Config World Scope} :
    (accounts auth).Run ok c (List.replicate n (.resume i ticks))
      ((accounts auth).exec c (List.replicate n (.resume i ticks))) := by
  induction n generalizing c with
  | zero => exact .nil
  | succ n ih => exact (System.Run.snoc .nil _ (hok c)).append ih

/-- An action that is carried out to its end. -/
def carriedOut (a : AccountDeed) : List (Event AccountDeed) :=
  .call a (fun n => ⟨7000 + n, 0, false⟩) ::
    List.replicate 20 (.resume 0 fun n => ⟨7000 + n, 0, false⟩)

/-- A user registers on device 0 and signs in on device 1 as well. -/
def bothSignedIn : Config World Scope := (accounts byNumber).exec (start fun _ => {})
  (onDevices (registers ++ saves ++ onLogin (signsIn 1 2 "+1" "5550100")))

/-- Then the account is deleted on device 0. -/
def accountDeleted : Config World Scope :=
  (accounts byNumber).exec bothSignedIn (carriedOut (.deleteUser 0))

/-- The user signs in there once more. -/
def signsInAgain : List (Event AccountDeed) := onDevices (onLogin (signsIn 0 3 "+1" "5550100"))

theorem deleted_until_signsInAgain :
    ∃ st ∈ (accounts byNumber).moves accountDeleted signsInAgain, Registers "+15550100" st := by
  have hrun : (accounts byNumber).Run (accounts byNumber).admits (start fun _ => {})
      (onDevices (registers ++ saves ++ onLogin (signsIn 1 2 "+1" "5550100")) ++
        carriedOut (.deleteUser 0)) accountDeleted := by
    rw [accountDeleted, bothSignedIn, ← System.exec_append]
    exact System.run_exec (by decide +kernel)
  exact deleted_until_registered hrun (System.run_exec (by decide +kernel)) (by decide +kernel)
    (by decide +kernel)

/-- What the logout does before its first `await`. -/
theorem outcome_logout (auth : Auth) (c : Config World Scope) (d : ℕ) (ticks : ℕ → Tick) :
    ∃ steps, (accounts auth).outcome c (.call (.logout d) ticks) =
      { (do
          update .other (c.world.signedIn d) (lastSeenFields (toString ((ticks 1).now / 1000)))
          clearStorage d
          Async.modify (World.offAllNamed · d) : Handler Unit).task.run ticks .other 2 c.world with
        steps := steps } :=
  ⟨_, rfl⟩

/-- A device is left alone while it is signed in as the user, and nobody goes through a login. -/
def LeftAlone (auth : Auth) (id : String) (d : ℕ) (c : Config World Scope) (e : Event AccountDeed) :
    Prop :=
  (accounts auth).admits c e ∧ isLogin e = false ∧
    ∀ a ticks, e = .call a ticks → a.device = some d → c.world.signedIn d ≠ some id

/-- **A user who has signed out is shown as having left.** The last device of a user signs out.
Whatever happens on the other devices meanwhile and on all of them afterwards, short of a login,
once the device is signed out the document of the user says when: it is the time of the logout
for ever. -/
theorem offline_after_logout {c₀ c : Config World Scope} {ticks : ℕ → Tick}
    {es : List (Event AccountDeed)} (hrest : c₀.Settled) (hd : c₀.world.signedIn d = some id)
    (hothers : ∀ d', d' ≠ d → c₀.world.signedIn d' ≠ some id)
    (hscreens : ∀ s, 0 < (c₀.world.chats s).listeners → s.userId ≠ some id)
    (h : (accounts auth).Run (LeftAlone auth id d)
      ((accounts auth).apply c₀ (.call (.logout d) ticks)) es c)
    (hout : c.world.signedIn d ≠ some id) : Shown id ((ticks 1).now / 1000) c.world := by
  have hi₀ : Last id d ((ticks 1).now / 1000) c₀.world :=
    ⟨hothers, hscreens, fun hne => absurd hd hne⟩
  obtain ⟨steps, houtcome⟩ := outcome_logout auth c₀ d ticks
  rw [hd] at houtcome
  have ho := (runs_logout.safe .other).run ticks (n := 2) hi₀
  have h₁ : ((accounts auth).apply c₀ (.call (.logout d) ticks)).Kept
      ((leaving id d ((ticks 1).now / 1000)).protocol Scope) := by
    simp only [System.apply, houtcome, Config.kept]
    rw [hrest, List.nil_append]
    exact ⟨ho.inv, ho.threads⟩
  refine Last.shown (h.safe h₁ fun c e hc he => ?_).inv hout
  obtain ⟨hadmits, hlogin, halone⟩ := he
  cases e with
  | resume i ticks => exact fun _ _ => trivial
  | call a ticks =>
    refine (runs_leaving hc.inv hadmits ?_ fun d' hd' => ?_).safe _
    · rintro b rfl
      exact Bool.noConfusion hlogin
    · by_cases he : d' = d
      · subst he
        exact halone a ticks rfl hd'
      · exact Last.others hc.inv d' he

/-- Ann, signed in on one device. -/
def ann : Document := ⟨.named "ann", .ofList [(.id, .str "ann"), (.status, .str "Online")]⟩

def annSignedIn : Config World Scope where
  world := World.initial { Login.World.initial (Store.set .empty .users "ann" 0 ann.data)
    (fun _ => {}) with session := [⟨0, .gate ann⟩] }

/-- One device signs out and everything settles: the user is shown with the time of the logout. -/
theorem offline_after_logout_ann :
    Shown "ann" 7 ((accounts byNumber).exec annSignedIn (carriedOut (.logout 0))).world := by
  have hothers : ∀ d', d' ≠ 0 → annSignedIn.world.signedIn d' ≠ some "ann" := by
    intro d' hd'
    have hnone : annSignedIn.world.signedIn d' = none := by
      simp [annSignedIn, World.signedIn, World.initial, Login.World.sessionUser, userId, hd'.symm]
    rw [hnone]
    exact nofun
  have hrun : (accounts byNumber).Run (LeftAlone byNumber "ann" 0)
      ((accounts byNumber).apply annSignedIn (.call (.logout 0) fun n => ⟨7000 + n, 0, false⟩))
      (List.replicate 20 (.resume 0 fun n => ⟨7000 + n, 0, false⟩))
      ((accounts byNumber).exec annSignedIn (carriedOut (.logout 0))) :=
    run_resumes fun _ => ⟨trivial, rfl, fun _ _ => nofun⟩
  have hrest : annSignedIn.Settled := by decide +kernel
  exact offline_after_logout hrest (by decide +kernel) hothers
    (fun _ h => absurd h (Nat.lt_irrefl 0)) hrun (by decide +kernel)

end FlutterTheme.Presence
