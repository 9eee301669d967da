import FlutterTheme.Login
import FlutterTheme.Evolving

/-!
# What holds in every run of the login

`Sound` is the invariant: the number that an `OtpController` shows is the one a code was
last asked for, a code belongs to the device it was sent to, and every sign-in, lookup,
open editor and stored user comes from what it says it comes from. Every handler keeps it
(`runs_action`), so it holds in every run (`login_kept`). The handlers are gone through
with a parameter `allow` that says whether accounts may be looked up: all but
`onFormSubmitted` do without.
-/

namespace FlutterTheme.Login

open EventLoop DocStore

variable {auth : Auth} {allow : Prop} {α : Type}

/-! ## The last code that was asked for -/

/-- The last code that was asked for on a device. -/
def lastRequest (requests : List Request) (d : ℕ) : Option Request :=
  (requests.filter (·.device = d)).getLast?

theorem lastRequest_snoc (requests : List Request) (r : Request) (d : ℕ) :
    lastRequest (requests ++ [r]) d =
      if r.device = d then some r else lastRequest requests d := by
  rw [lastRequest, List.filter_append]
  split
  · next h => simp [h]
  · next h => simp [h, lastRequest]

theorem lastRequest_eq_none {requests : List Request} {d : ℕ} :
    lastRequest requests d = none ↔ ∀ r ∈ requests, r.device ≠ d := by
  simp [lastRequest]

theorem of_lastRequest {requests : List Request} {d : ℕ} {r : Request}
    (h : lastRequest requests d = some r) : r ∈ requests ∧ r.device = d := by
  have hmem := List.mem_of_getLast? h
  rw [List.mem_filter] at hmem
  simpa using hmem

/-- What is in a list is at the same place in every extension. -/
theorem getElem?_extended {l l' : List α} (h : l <+: l') {i : ℕ} {a : α} (hi : l[i]? = some a) :
    l'[i]? = some a := by
  obtain ⟨rest, rfl⟩ := h
  obtain ⟨hlt, rfl⟩ := List.getElem?_eq_some_iff.mp hi
  rw [List.getElem?_append_left hlt, List.getElem?_eq_getElem hlt]

/-! ## The invariant -/

/-- What an editor was opened with stays. -/
structure EditProfileController.Later (e e' : EditProfileController) : Prop where
  device : e'.device = e.device
  lookup : e'.lookup = e.lookup
  account : e'.account = e.account

theorem EditProfileController.Later.refl (e : EditProfileController) : e.Later e :=
  ⟨rfl, rfl, rfl⟩

theorem EditProfileController.Later.trans {e e' e'' : EditProfileController} (h : e.Later e')
    (h' : e'.Later e'') : e.Later e'' :=
  ⟨h'.device.trans h.device, h'.lookup.trans h.lookup, h'.account.trans h.account⟩

/-- The world has only evolved. -/
structure World.Extends (w w' : World) : Prop where
  requests : w.requests <+: w'.requests
  confirmed : w.confirmed ⊆ w'.confirmed
  signIns : w.signIns ⊆ w'.signIns
  lookups : w.lookups <+: w'.lookups
  session : w.session ⊆ w'.session
  editors : w.editors.Evolves EditProfileController.Later w'.editors

theorem World.Extends.refl (w : World) : w.Extends w where
  requests := List.prefix_refl _
  confirmed := List.Subset.refl _
  signIns := List.Subset.refl _
  lookups := List.prefix_refl _
  session := List.Subset.refl _
  editors := .refl .refl _

theorem World.Extends.trans {w w' w'' : World} (h : w.Extends w') (h' : w'.Extends w'') :
    w.Extends w'' where
  requests := h.requests.trans h'.requests
  confirmed := List.Subset.trans h.confirmed h'.confirmed
  signIns := List.Subset.trans h.signIns h'.signIns
  lookups := h.lookups.trans h'.lookups
  session := List.Subset.trans h.session h'.session
  editors := h.editors.trans .trans h'.editors

/-- The code of a sign-in was asked for on its device. -/
structure SignIn.Sound (auth : Auth) (requests : List Request) (s : SignIn) : Prop where
  request : ∃ r, requests[s.verificationId]? = some r ∧ r.device = s.device ∧
    s.number = r.number
  user : auth.userOf s.number = some s.user

/-- A lookup follows a sign-in, and is for the number that was last asked for. -/
structure Lookup.Sound (requests : List Request) (signIns : List SignIn) (q : Lookup) : Prop where
  signIn : q.signIn ∈ signIns
  requested : q.requested ≤ requests.length
  before : q.signIn.verificationId < q.requested
  phone : ∃ r, lastRequest (requests.take q.requested) q.signIn.device = some r ∧
    q.phone = some r.phone

/-- An account that a lookup leads to: the one found, or else the one of the user who has
signed in. -/
def Lookup.LeadsTo (q : Lookup) (account : Document) : Prop :=
  q.found = some account ∨ q.found = none ∧ account.id = .named q.signIn.user.uid

/-- The editor was opened with an account that its lookup leads to. -/
def EditProfileController.Opened (lookups : List Lookup) (e : EditProfileController) : Prop :=
  ∃ q, lookups[e.lookup]? = some q ∧ q.signIn.device = e.device ∧ q.LeadsTo e.account

/-- What is stored comes from where it says. -/
def Stored.Sound (confirmed : List (ℕ × String)) (lookups : List Lookup) (d : ℕ) : Stored → Prop
  | .gate account => (d, gateNumber) ∈ confirmed ∧ account.data .phone = some (.str gateNumber)
  | .submission n account => ∃ q, lookups[n]? = some q ∧ q.signIn.device = d ∧ q.LeadsTo account
  | .editor n _ => ∃ q, lookups[n]? = some q ∧ q.signIn.device = d

/-- What holds all along. -/
structure Sound (auth : Auth) (w : World) : Prop where
  /-- the number shown is the one a code was last asked for -/
  shown : ∀ d r, lastRequest w.requests d = some r →
    (w.devices d).otpCtrl.mobileNumber = some r.phone
  /-- a code belongs to the device it was sent to -/
  code : ∀ d i, (w.devices d).otpCtrl.verificationCode = some i →
    ∃ r, w.requests[i]? = some r ∧ r.device = d
  signIns : ∀ s ∈ w.signIns, s.Sound auth w.requests
  lookups : ∀ n (q : Lookup), w.lookups[n]? = some q → q.id = n ∧ q.Sound w.requests w.signIns
  editors : ∀ k < w.editors.size, (w.editors.get k).Opened w.lookups
  session : ∀ x ∈ w.session, x.stored.Sound w.confirmed w.lookups x.device

theorem SignIn.Sound.mono {requests requests' : List Request} {s : SignIn}
    (h : s.Sound auth requests) (hr : requests <+: requests') : s.Sound auth requests' := by
  obtain ⟨r, hi, hd, hn⟩ := h.request
  exact ⟨⟨r, getElem?_extended hr hi, hd, hn⟩, h.user⟩

theorem Lookup.Sound.mono {requests requests' : List Request} {signIns signIns' : List SignIn}
    {q : Lookup} (h : q.Sound requests signIns) (hr : requests <+: requests')
    (hs : signIns ⊆ signIns') : q.Sound requests' signIns' := by
  obtain ⟨r, hlast, hphone⟩ := h.phone
  refine ⟨hs h.signIn, h.requested.trans hr.length_le, h.before, r, ?_, hphone⟩
  obtain ⟨rest, rfl⟩ := hr
  rwa [List.take_append_of_le_length h.requested]

theorem EditProfileController.Opened.mono {lookups lookups' : List Lookup}
    {e : EditProfileController} (h : e.Opened lookups) (hl : lookups <+: lookups') :
    e.Opened lookups' := by
  obtain ⟨q, hq, hd, ha⟩ := h
  exact ⟨q, getElem?_extended hl hq, hd, ha⟩

theorem Stored.Sound.mono {confirmed confirmed' : List (ℕ × String)}
    {lookups lookups' : List Lookup} {d : ℕ} {x : Stored} (h : x.Sound confirmed lookups d)
    (hc : confirmed ⊆ confirmed') (hl : lookups <+: lookups') :
    x.Sound confirmed' lookups' d := by
  cases x with
  | gate account => exact ⟨hc h.1, h.2⟩
  | submission n account =>
    obtain ⟨q, hq, h⟩ := h
    exact ⟨q, getElem?_extended hl hq, h⟩
  | editor n user =>
    obtain ⟨q, hq, h⟩ := h
    exact ⟨q, getElem?_extended hl hq, h⟩

theorem sound_initial (auth : Auth) (store : Store Path Key Value) (platform : ℕ → Platform) :
    Sound auth (World.initial store platform) where
  shown _ _ h := by cases h
  code _ _ h := by cases h
  signIns := by simp [World.initial]
  lookups := by simp [World.initial]
  editors _ hk := absurd hk (Nat.not_lt_zero _)
  session := by simp [World.initial]

/-! ## The protocol -/

/-- Worlds evolve and stay sound, and accounts are looked up only where it is allowed. -/
def loginProtocol (auth : Auth) (allow : Prop) : Evolving World where
  le := World.Extends
  inv := Sound auth
  step w w' := allow ∨ w'.lookups = w.lookups
  le_refl := .refl
  le_trans := .trans
  step_refl _ := Or.inr rfl

variable {w w' : World}

/-- A device changes in what the protocol does not speak of. -/
theorem permits_device (hw : Sound auth w) (d : ℕ) {f : Device → Device}
    (hnumber : ∀ s, (f s).otpCtrl.mobileNumber = s.otpCtrl.mobileNumber)
    (hcode : ∀ s, (f s).otpCtrl.verificationCode = s.otpCtrl.verificationCode) :
    (loginProtocol auth allow).Permits w (w.modifyDevice d f) where
  le := { World.Extends.refl w with }
  inv := { hw with
    shown := by
      intro d' r hr
      have := hw.shown d' r hr
      by_cases h : d' = d
      · subst h
        simpa [World.modifyDevice, hnumber] using this
      · simpa [World.modifyDevice, h] using this
    code := by
      intro d' i hi
      refine hw.code d' i ?_
      by_cases h : d' = d
      · subst h
        simpa [World.modifyDevice, hcode] using hi
      · simpa [World.modifyDevice, h] using hi }
  step := Or.inr rfl

/-- The documents change, or what the screens have said. -/
theorem permits_store (hw : Sound auth w) (store : Store Path Key Value)
    (messages : List (ℕ × Message)) :
    (loginProtocol auth allow).Permits w { w with store := store, messages := messages } where
  le := { World.Extends.refl w with }
  inv := { hw with }
  step := Or.inr rfl

/-- A change of an editor that keeps its device, its lookup and its account is permitted. -/
theorem permits_editor (hw : Sound auth w) (k : ℕ)
    {f : EditProfileController → EditProfileController}
    (hf : ∀ e : EditProfileController, e.Later (f e)) :
    (loginProtocol auth allow).Permits w { w with editors := w.editors.modify k f } where
  le := { World.Extends.refl w with editors := Heap.evolves_modify .refl _ _ (hf _) }
  inv := { hw with
    editors := Heap.forall_modify hw.editors fun _ h => by
      obtain ⟨q, hq, hd, ha⟩ := h
      obtain ⟨hd', hl', ha'⟩ := hf (w.editors.get k)
      exact ⟨q, hl' ▸ hq, hd.trans hd'.symm, ha' ▸ ha⟩ }
  step := Or.inr rfl

/-- An editor is opened with an account that a lookup leads to. -/
theorem permits_open (hw : Sound auth w) {e : EditProfileController} (he : e.Opened w.lookups) :
    (loginProtocol auth allow).Permits w { w with editors := w.editors.alloc e } where
  le := { World.Extends.refl w with editors := Heap.evolves_alloc .refl _ _ }
  inv := { hw with editors := Heap.forall_alloc hw.editors he }
  step := Or.inr rfl

/-- A user may be stored whose sign-in or gate is on record for this device and this number. -/
theorem permits_session (hw : Sound auth w) {d : ℕ} {stored : Stored}
    (h : stored.Sound w.confirmed w.lookups d) :
    (loginProtocol auth allow).Permits w { w with session := ⟨d, stored⟩ :: w.session } where
  le := { World.Extends.refl w with session := List.subset_cons_self _ _ }
  inv := { hw with
    session := by
      intro x hx
      rcases List.mem_cons.mp hx with rfl | hx
      · exact h
      · exact hw.session x hx }
  step := Or.inr rfl

theorem permits_confirm (hw : Sound auth w) (d : ℕ) (phone : String) :
    (loginProtocol auth allow).Permits w { w with confirmed := (d, phone) :: w.confirmed } where
  le := { World.Extends.refl w with confirmed := List.subset_cons_self _ _ }
  inv := { hw with
    session := fun x hx =>
      (hw.session x hx).mono (List.subset_cons_self _ _) (List.prefix_refl _) }
  step := Or.inr rfl

/-- A code is asked for, and the number shown is the one it is asked for: requests only become more,
and a device's number is that of its last one. -/
theorem permits_request (hw : Sound auth w) (r : Request) {f : Device → Device}
    (hnumber : ∀ s, (f s).otpCtrl.mobileNumber = some r.phone)
    (hcode : ∀ s, (f s).otpCtrl.verificationCode = s.otpCtrl.verificationCode) :
    (loginProtocol auth allow).Permits w
      { w.modifyDevice r.device f with requests := w.requests ++ [r] } where
  le := { World.Extends.refl w with requests := List.prefix_append _ _ }
  inv := { hw with
    shown := by
      intro d r' hr'
      simp only [lastRequest_snoc] at hr'
      by_cases h : d = r.device
      · subst h
        obtain rfl : r = r' := by simpa using hr'
        simp [World.modifyDevice, hnumber]
      · rw [if_neg (Ne.symm h)] at hr'
        simpa [World.modifyDevice, h] using hw.shown d r' hr'
    code := by
      intro d i hi
      have hi' : (w.devices d).otpCtrl.verificationCode = some i := by
        by_cases h : d = r.device
        · subst h
          simpa [World.modifyDevice, hcode] using hi
        · simpa [World.modifyDevice, h] using hi
      obtain ⟨r', hr', hd⟩ := hw.code d i hi'
      exact ⟨r', getElem?_extended (List.prefix_append _ _) hr', hd⟩
    signIns := fun s hs => (hw.signIns s hs).mono (List.prefix_append _ _)
    lookups := fun n q hq => by
      obtain ⟨hid, hsound⟩ := hw.lookups n q hq
      exact ⟨hid, hsound.mono (List.prefix_append _ _) (List.Subset.refl _)⟩ }
  step := Or.inr rfl

/-- A code arrives at the device it was asked for on; which request it belongs to is kept with it.
-/
theorem permits_code (hw : Sound auth w) {i : ℕ} {r : Request} (hr : w.requests[i]? = some r) :
    (loginProtocol auth allow).Permits w (w.modifyDevice r.device fun s =>
      { s with otpCtrl := { s.otpCtrl with verificationCode := some i } }) where
  le := { World.Extends.refl w with }
  inv := { hw with
    shown := by
      intro d r' hr'
      have := hw.shown d r' hr'
      by_cases h : d = r.device
      · subst h
        simpa [World.modifyDevice] using this
      · simpa [World.modifyDevice, h] using this
    code := by
      intro d j hj
      by_cases h : d = r.device
      · subst h
        obtain rfl : i = j := by simpa [World.modifyDevice] using hj
        exact ⟨r, hr, rfl⟩
      · refine hw.code d j ?_
        simpa [World.modifyDevice, h] using hj }
  step := Or.inr rfl

/-- The number shown changes before any code has been asked for. -/
theorem permits_onReady (hw : Sound auth w) {d : ℕ} (hd : ∀ r ∈ w.requests, r.device ≠ d)
    (phone : Option String) :
    (loginProtocol auth allow).Permits w (w.modifyDevice d fun s =>
      { s with otpCtrl := { s.otpCtrl with mobileNumber := phone } }) where
  le := { World.Extends.refl w with }
  inv := { hw with
    shown := by
      intro d' r hr
      by_cases h : d' = d
      · subst h
        exact absurd (of_lastRequest hr).2 (hd r (of_lastRequest hr).1)
      · simpa [World.modifyDevice, h] using hw.shown d' r hr
    code := by
      intro d' i hi
      refine hw.code d' i ?_
      by_cases h : d' = d
      · subst h
        simpa [World.modifyDevice] using hi
      · simpa [World.modifyDevice, h] using hi }
  step := Or.inr rfl

/-- A sign-in may be recorded for a request there is, on the device of this request. -/
theorem permits_signIn (hw : Sound auth w) {s : SignIn} (hs : s.Sound auth w.requests) :
    (loginProtocol auth allow).Permits w { w with signIns := s :: w.signIns } where
  le := { World.Extends.refl w with signIns := List.subset_cons_self _ _ }
  inv := { hw with
    signIns := by
      intro s' hs'
      rcases List.mem_cons.mp hs' with rfl | hs'
      · exact hs
      · exact hw.signIns s' hs'
    lookups := fun n q hq => by
      obtain ⟨hid, hsound⟩ := hw.lookups n q hq
      exact ⟨hid, hsound.mono (List.prefix_refl _) (List.subset_cons_self _ _)⟩ }
  step := Or.inr rfl

/-- An account is looked up, where that is allowed. -/
theorem permits_lookUp (hallow : allow) (hw : Sound auth w) {q : Lookup}
    (hid : q.id = w.lookups.length) (hq : q.Sound w.requests w.signIns) :
    (loginProtocol auth allow).Permits w { w with lookups := w.lookups ++ [q] } where
  le := { World.Extends.refl w with lookups := List.prefix_append _ _ }
  inv := { hw with
    lookups := by
      intro n q' hq'
      obtain ⟨hlt, rfl⟩ := List.getElem?_eq_some_iff.mp hq'
      rw [List.getElem_append]
      split
      · next hn => exact hw.lookups n _ (List.getElem?_eq_getElem hn)
      · next hn =>
        have hlast : n = w.lookups.length := by
          simp at hlt
          omega
        simp only [List.getElem_singleton]
        exact ⟨hid.trans hlast.symm, hq⟩
    editors := fun k hk => (hw.editors k hk).mono (List.prefix_append _ _)
    session := fun x hx =>
      (hw.session x hx).mono (List.Subset.refl _) (List.prefix_append _ _) }
  step := Or.inl hallow

/-! ## The device and Firestore -/

section Operations

variable (auth allow)

/-- The call keeps the protocol of the login. -/
abbrev KeepsLogin (m : Handler α) (w : World) (Q : α → World → Prop) : Prop :=
  Keeps (loginProtocol auth allow) m w Q

/-- The call keeps the protocol of the login. -/
abbrev RunsLogin (m : Handler Unit) (w : World) : Prop := Runs (loginProtocol auth allow) m w

end Operations

theorem keeps_device (hw : Sound auth w) (d : ℕ) :
    KeepsLogin auth allow (device d) w fun s w' => w' = w ∧ s = w.devices d :=
  keeps_get hw ⟨rfl, rfl⟩

theorem runs_modifyDevice (hw : Sound auth w) (d : ℕ) {f : Device → Device}
    (hnumber : ∀ s, (f s).otpCtrl.mobileNumber = s.otpCtrl.mobileNumber)
    (hcode : ∀ s, (f s).otpCtrl.verificationCode = s.otpCtrl.verificationCode) :
    RunsLogin auth allow (modifyDevice d f) w :=
  runs_modify (permits_device hw d hnumber hcode)

theorem runs_modifyOtp (hw : Sound auth w) (d : ℕ) {f : OtpController → OtpController}
    (hnumber : ∀ s, (f s).mobileNumber = s.mobileNumber)
    (hcode : ∀ s, (f s).verificationCode = s.verificationCode) :
    RunsLogin auth allow (modifyOtp d f) w :=
  runs_modifyDevice hw d (fun s => hnumber s.otpCtrl) fun s => hcode s.otpCtrl

theorem keeps_editor (hw : Sound auth w) (k : ℕ) :
    KeepsLogin auth allow (editor k) w fun s w' => w' = w ∧ s = w.editors.get k :=
  keeps_get hw ⟨rfl, rfl⟩

theorem runs_modifyEditor (hw : Sound auth w) (k : ℕ)
    {f : EditProfileController → EditProfileController}
    (hf : ∀ e : EditProfileController, e.Later (f e)) :
    RunsLogin auth allow (modifyEditor k f) w :=
  runs_modify (permits_editor hw k hf)

theorem runs_showMessage (hw : Sound auth w) (d : ℕ) (m : Message) :
    RunsLogin auth allow (showMessage d m) w :=
  runs_modify (permits_store hw w.store _)

theorem runs_toDashboard (hw : Sound auth w) (d : ℕ) : RunsLogin auth allow (toDashboard d) w :=
  runs_modifyDevice hw d (fun _ => rfl) fun _ => rfl

theorem runs_storeUser (hw : Sound auth w) {d : ℕ} {stored : Stored}
    (h : stored.Sound w.confirmed w.lookups d) : RunsLogin auth allow (storeUser d stored) w :=
  keeps_seq (runs_modify (permits_session hw h)) fun _ _ _ => runs_pause

/-- An operation that only reads. -/
theorem keeps_read {g : Tick → World → α} :
    KeepsLogin auth allow (Async.remote fun t w => (g t w, w)) w fun _ _ => True :=
  keeps_remote fun _ _ hs _ => ⟨.refl hs, fun _ _ _ => trivial⟩

theorem keeps_getToken (d : ℕ) : KeepsLogin auth allow (getToken d) w fun _ _ => True := keeps_read

theorem keeps_getDoc (id : String) : KeepsLogin auth allow (getDoc id) w fun _ _ => True :=
  keeps_read

theorem keeps_docId (hw : Sound auth w) (user : Option Data) :
    KeepsLogin auth allow (docId user) w fun _ w' => w' = w := by
  unfold docId
  split
  · split
    · exact keeps_pure hw rfl
    · exact keeps_throw
  · exact keeps_throw

theorem runs_update (id : String) (u : Data) : RunsLogin auth allow (update id u) w := by
  refine keeps_bind (Q := fun _ _ => True) ?_ fun found w' _ hs _ => ?_
  · exact keeps_remote fun w' _ hs _ => ⟨permits_store hs _ w'.messages, fun _ _ _ => trivial⟩
  · cases found with
    | true => exact keeps_pure hs trivial
    | false => exact keeps_throw

theorem keeps_tryUpdate (id : String) (u : Data) :
    KeepsLogin auth allow (tryUpdate id u) w fun _ _ => True := by
  refine keeps_bind (Q := fun _ _ => True) ?_ fun found w' _ hs _ => keeps_pure hs trivial
  exact keeps_attempt (fun w' _ hs _ => ⟨permits_store hs _ w'.messages, fun _ _ _ => trivial⟩)
    fun _ _ _ => trivial

/-! ## The handlers -/

/-- Entering the application stores the user it is entered as, and then only writes the presence of
this user. -/
theorem runs_homeNavigation (hw : Sound auth w) {d : ℕ} (user : Data) {stored : Stored}
    (h : stored.Sound w.confirmed w.lookups d) :
    RunsLogin auth allow (homeNavigation d user stored) w := by
  refine runs_spawn (keeps_seq (runs_modifyDevice hw d (fun _ => rfl) fun _ => rfl) ?_)
  intro w₁ (hw₁ : w.Extends w₁) hs₁
  refine keeps_seq (runs_storeUser hs₁ (h.mono hw₁.confirmed hw₁.lookups)) fun w₂ _ hs₂ => ?_
  refine keeps_seq (runs_modifyDevice hs₂ d (fun _ => rfl) fun _ => rfl) fun w₃ _ hs₃ => ?_
  refine keeps_seq runs_pause fun w₄ _ hs₄ => runs_spawn ?_
  refine keeps_bind (keeps_getToken d) fun token w₅ _ hs₅ _ => ?_
  refine keeps_bind (keeps_docId hs₅ _) fun id w₆ _ hs₆ _ => ?_
  exact keeps_seq (runs_update _ _) fun w₇ _ hs₇ => runs_toDashboard hs₇ d

/-- The gate looks the number up that the device has confirmed, so whoever it enters the application
as has that number in the document. -/
theorem runs_enterByGate {d : ℕ} (hd : (d, gateNumber) ∈ w.confirmed) :
    RunsLogin auth allow (enterByGate d) w := by
  refine runs_spawn (keeps_bind (Q := fun value w' => (d, gateNumber) ∈ w'.confirmed ∧
    ∀ account, value = some (some account) → account.data .phone = some (.str gateNumber)) ?_ ?_)
  · refine keeps_attempt (fun w' (hle : w.Extends w') hs t => ⟨.refl hs, ?_⟩)
      fun w' (hle : w.Extends w') _ => ⟨hle.confirmed hd, by simp⟩
    intro w'' (hle' : w'.Extends w'') _
    refine ⟨hle'.confirmed (hle.confirmed hd), ?_⟩
    rintro account h
    exact (of_firstWith (Option.some.inj h)).2
  · rintro value w' _ hs ⟨hd', hvalue⟩
    match value with
    | some (some account) => exact runs_homeNavigation hs _ ⟨hd', hvalue account rfl⟩
    | some none | none => exact keeps_pure hs trivial

/-- A code is asked for with the number typed, which the screen shows from then on; the code arrives
in a callback of its own. -/
theorem runs_onVerifyCode (hw : Sound auth w) (d : ℕ) (phone dialCode : String) :
    RunsLogin auth allow (onVerifyCode d phone dialCode) w := by
  have hrequest : (loginProtocol auth allow).Permits w _ := permits_request hw ⟨d, dialCode, phone⟩
    (f := fun s => { s with
      otpCtrl := { s.otpCtrl with
        mobileNumber := some phone
        dialCodeVal := some dialCode
        isCodeSent := true
        isLoading := true } }) (fun _ => rfl) fun _ => rfl
  refine keeps_seq (runs_modify hrequest) fun w' _ hs => ?_
  exact runs_modifyOtp hs d (fun _ => rfl) fun _ => rfl

/-- The button of the phone screen confirms the number typed. At the gate's number the lookup
follows, any other number is sent to be verified, and an empty one only sets the mark of the field.
-/
theorem runs_checkValidation (hw : Sound auth w) (d : ℕ) :
    RunsLogin auth allow (checkValidation d) w := by
  refine keeps_bind (keeps_device hw d) fun s w₁ _ hs₁ _ => ?_
  refine keeps_bind (Q := fun _ w' => (d, s.phoneCtrl.phone) ∈ w'.confirmed)
    (keeps_modify (permits_confirm hs₁ d _) (List.mem_cons_self ..)) fun _ w₂ _ hs₂ hmem => ?_
  split
  · split
    · next hgate =>
      rw [hgate] at hmem
      exact runs_enterByGate hmem
    · refine keeps_seq (runs_modifyDevice hs₂ d (fun _ => rfl) fun _ => rfl) fun w₃ _ hs₃ => ?_
      refine keeps_seq (runs_onVerifyCode hs₃ d _ _) fun w₄ _ hs₄ => ?_
      exact runs_modifyDevice hs₄ d (fun _ => rfl) fun _ => rfl
  · exact runs_modifyDevice hs₂ d (fun _ => rfl) fun _ => rfl

theorem runs_codeSent (hw : Sound auth w) (r : ℕ) : RunsLogin auth allow (codeSent r) w := by
  refine keeps_bind (Q := fun request w' => w'.requests[r]? = request) (keeps_get hw rfl) ?_
  rintro request w' _ hs rfl
  cases hr : w'.requests[r]? with
  | none => exact keeps_pure hs trivial
  | some request => exact runs_modify (permits_code hs hr)

theorem runs_verificationFailed (hw : Sound auth w) (r : ℕ) :
    RunsLogin auth allow (verificationFailed r) w := by
  refine keeps_bind (Q := fun _ _ => True) (keeps_get hw trivial) fun request w₁ _ hs₁ _ => ?_
  cases request with
  | none => exact keeps_pure hs₁ trivial
  | some request =>
    refine keeps_seq (runs_showMessage hs₁ _ _) fun w₂ _ hs₂ => ?_
    exact runs_modifyOtp hs₂ _ (fun _ => rfl) fun _ => rfl

/-- A sign-in that succeeds is recorded with the device, the request and the number its code was
sent to; one that fails records nothing. -/
theorem keeps_signInWithCredential {d i : ℕ} {r : Request} (hr : w.requests[i]? = some r)
    (hd : r.device = d) (smsCode : String) :
    KeepsLogin auth allow (signInWithCredential auth d i smsCode) w fun value w' =>
      ∀ s, value = some (some s) → s ∈ w'.signIns := by
  refine keeps_attempt (fun w' (hle : w.Extends w') hs t => ?_) fun _ _ _ => by simp
  have hr' := getElem?_extended hle.requests hr
  cases huser : auth.userOf r.number with
  | none =>
    simp only [hr', huser]
    exact ⟨.refl hs, fun _ _ _ => by simp⟩
  | some user =>
    simp only [hr', huser]
    have hsound : SignIn.Sound auth w'.requests ⟨d, i, smsCode, r.number, user⟩ :=
      ⟨⟨r, hr', hd, rfl⟩, huser⟩
    refine ⟨permits_signIn hs hsound, ?_⟩
    rintro w'' (hle'' : World.Extends _ w'') - s ⟨⟩
    exact hle''.signIns (List.mem_cons_self ..)

theorem runs_userRegister (d : ℕ) (user : FirebaseUser) :
    RunsLogin auth allow (userRegister d user) w := by
  refine keeps_seq (runs_spawn ?_) fun _ _ _ => runs_pause
  refine keeps_bind (keeps_getToken d) fun token w₁ _ hs₁ _ => ?_
  refine keeps_bind (keeps_device hs₁ d) fun s w₂ _ hs₂ _ => ?_
  refine keeps_bind (Q := fun _ _ => True) ?_ fun _ w₃ _ hs₃ _ => keeps_pure hs₃ trivial
  exact keeps_attempt (fun w' _ hs _ => ⟨permits_store hs _ w'.messages, fun _ _ _ => trivial⟩)
    fun _ _ _ => trivial

theorem keeps_getUserData (user : FirebaseUser) :
    KeepsLogin auth allow (getUserData user) w fun value _ =>
      ∀ account, value = some (some account) → account.id = .named user.uid := by
  refine keeps_attempt (fun w' _ hs _ => ⟨.refl hs, fun _ _ _ => ?_⟩) (by simp)
  rintro account h
  exact (w'.store.mem_of_doc? (Option.some.inj h)).2

/-- The editor is opened with an account that the lookup leads to, and its text fields are those of
the account, so that a save later writes to the same user. -/
theorem runs_toEditProfile (hw : Sound auth w) {d n : ℕ} {account : Document} (isPhoneLogin : Bool)
    {q : Lookup} (hq : w.lookups[n]? = some q) (hd : q.signIn.device = d)
    (ha : q.LeadsTo account) :
    RunsLogin auth allow (toEditProfile d n account isPhoneLogin) w := by
  refine runs_modify ?_
  have hroute : (loginProtocol auth allow).Permits w _ :=
    permits_device hw d (f := fun s => { s with route := .editProfile }) (fun _ => rfl) fun _ => rfl
  have hopen : (loginProtocol auth allow).Permits _ _ := permits_open hroute.inv (e := {
      device := d
      lookup := n
      account := account
      user := some account.data
      isPhoneLogin := isPhoneLogin
      nameText := (Value.toString? (account.data .name)).getD ""
      emailText := (Value.toString? (account.data .email)).getD ""
      phoneText := (Value.toString? (account.data .phone)).getD ""
      statusText := (Value.toString? (account.data .statusDesc)).getD "" }) ⟨q, hq, hd, ha⟩
  exact ⟨World.Extends.trans hroute.le hopen.le, hopen.inv, Or.inr rfl⟩

theorem runs_enter (hw : Sound auth w) {d n : ℕ} {account : Document} {q : Lookup}
    (hq : w.lookups[n]? = some q) (hd : q.signIn.device = d) (ha : q.LeadsTo account) :
    RunsLogin auth allow (enter d n account) w := by
  have hstored : Stored.Sound w.confirmed w.lookups d (.submission n account) := ⟨q, hq, hd, ha⟩
  refine keeps_seq (runs_storeUser hw hstored) fun w₁ (hw₁ : w.Extends w₁) hs₁ => ?_
  refine keeps_seq (runs_homeNavigation hs₁ _ (hstored.mono hw₁.confirmed hw₁.lookups)) ?_
  exact fun w₂ _ hs₂ => runs_modifyOtp hs₂ d (fun _ => rfl) fun _ => rfl

/-- The answer of a lookup leads to the account it has found or, after the registration, to the one
that is read back; an account without a name goes to the editor, any other one is entered. -/
theorem runs_lookedUp (hw : Sound auth w) {q : Lookup} (hq : w.lookups[q.id]? = some q) :
    RunsLogin auth allow (lookedUp q) w := by
  unfold lookedUp
  cases hfound : q.found with
  | some account =>
    have ha : q.LeadsTo account := Or.inl hfound
    simp only
    split
    · refine keeps_seq (runs_toEditProfile hw true hq rfl ha) fun w₁ _ hs₁ => ?_
      exact runs_modifyOtp hs₁ _ (fun _ => rfl) fun _ => rfl
    · exact runs_enter hw hq rfl ha
  | none =>
    refine keeps_seq (runs_userRegister _ _) fun w₁ (hw₁ : w.Extends w₁) hs₁ => ?_
    refine keeps_bind (keeps_getUserData _) fun value w₂ (hw₂ : w₁.Extends w₂) hs₂ hvalue => ?_
    have hq₂ := getElem?_extended hw₂.lookups (getElem?_extended hw₁.lookups hq)
    match value with
    | some (some account) =>
      have ha : q.LeadsTo account := Or.inr ⟨hfound, hvalue account rfl⟩
      simp only
      split
      · exact runs_toEditProfile hs₂ true hq₂ rfl ha
      · exact runs_enter hs₂ hq₂ rfl ha
    | some none | none => exact keeps_pure hs₂ trivial

/-- The lookup follows a sign-in, and is for the number a code was last asked for. -/
theorem runs_lookUp (hallow : allow) (hw : Sound auth w) {s : SignIn} (hs : s ∈ w.signIns) :
    RunsLogin auth allow (lookUp s) w := by
  refine keeps_bind (Q := fun x w' => w' = w ∧ x = ((w.devices s.device).otpCtrl.mobileNumber,
    w.requests.length)) (keeps_get hw ⟨rfl, rfl⟩) ?_
  rintro ⟨phone, requested⟩ w₁ _ hs₁ ⟨rfl, hx⟩
  obtain ⟨rfl, rfl⟩ := Prod.mk.inj hx
  -- the code of the sign-in was asked for on its device
  obtain ⟨⟨r, hr, hd, -⟩, -⟩ := hs₁.signIns s hs
  have hlast : ∃ r, lastRequest w₁.requests s.device = some r := by
    rw [← Option.isSome_iff_exists, Option.isSome_iff_ne_none, Ne, lastRequest_eq_none]
    exact fun h => h r (List.mem_of_getElem? hr) hd
  obtain ⟨last, hlast⟩ := hlast
  have hshown := hs₁.shown s.device last hlast
  refine keeps_bind (Q := fun value w' => ∀ q, value = some q → w'.lookups[q.id]? = some q) ?_ ?_
  · refine keeps_attempt (fun w' (hle : w₁.Extends w') hs' t => ⟨?_, ?_⟩) (by simp)
    · refine permits_lookUp hallow hs' rfl
        ⟨hle.signIns hs, hle.requests.length_le, ?_, last, ?_, hshown⟩
      · exact (List.getElem?_eq_some_iff.mp hr).1
      · rw [← List.prefix_iff_eq_take.mp hle.requests]
        exact hlast
    · rintro w'' (hle' : World.Extends _ w'') - q ⟨⟩
      exact getElem?_extended hle'.lookups (by simp)
  · intro value w' _ hs' hvalue
    cases value with
    | none => exact keeps_pure hs' trivial
    | some q => exact runs_lookedUp hs' (hvalue q rfl)

theorem runs_signedIn (hallow : allow) (hw : Sound auth w) (d : ℕ)
    {value : Option (Option SignIn)} (h : ∀ s, value = some (some s) → s ∈ w.signIns) :
    RunsLogin auth allow (signedIn d value) w := by
  match value with
  | some (some s) => exact runs_spawn (runs_lookUp hallow hw (h s rfl))
  | some none | none =>
    refine keeps_seq (runs_modifyOtp hw d (fun _ => rfl) fun _ => rfl) fun w₁ _ hs₁ => ?_
    exact runs_showMessage hs₁ d _

/-- The button of the code's screen: the sign-in is of the device's own request, and the lookup that
follows is for the number the screen shows. -/
theorem runs_onFormSubmitted (hallow : allow) (hw : Sound auth w) (d : ℕ) :
    RunsLogin auth allow (onFormSubmitted auth d) w := by
  refine keeps_seq (runs_modifyOtp hw d (fun _ => rfl) fun _ => rfl) fun w₁ _ hs₁ => ?_
  refine keeps_bind (keeps_device hs₁ d) ?_
  rintro s w₂ _ hs₂ ⟨rfl, rfl⟩
  cases hcode : (w₂.devices d).otpCtrl.verificationCode with
  | none => exact keeps_throw
  | some i =>
    obtain ⟨r, hr, hd⟩ := hs₂.code d i hcode
    refine runs_spawn (keeps_bind (keeps_signInWithCredential hr hd _) ?_)
    exact fun value w₃ _ hs₃ hvalue => runs_signedIn hallow hs₃ d hvalue

/-- What the profile editor stores comes from the lookup it was opened after. -/
theorem Sound.edited (hw : Sound auth w) {k : ℕ} (hk : k < w.editors.size) (user : Option Data) :
    Stored.Sound w.confirmed w.lookups (w.editors.get k).device
      (.editor (w.editors.get k).lookup user) := by
  obtain ⟨q, hq, hd, -⟩ := hw.editors k hk
  exact ⟨q, hq, hd⟩

/-- A save writes the editor's fields to the user of its account. The copy that the session gets is
of the document with the editor's id, which is still that user when the answer comes. -/
theorem runs_saveProfile (hw : Sound auth w) {k : ℕ} (hk : k < w.editors.size)
    (token : Option String) : RunsLogin auth allow (saveProfile k token) w := by
  refine keeps_bind (keeps_editor hw k) ?_
  rintro s w₁ _ hs₁ ⟨rfl, rfl⟩
  refine keeps_bind (keeps_docId hs₁ _) ?_
  rintro id w₂ _ hs₂ rfl
  refine keeps_bind (keeps_tryUpdate id _) fun saved w₃ (hw₃ : w₂.Extends w₃) hs₃ _ => ?_
  split
  · refine keeps_seq (runs_spawn ?_) fun w₄ _ hs₄ => runs_toDashboard hs₄ _
    have hk₃ : k < w₃.editors.size := Nat.lt_of_lt_of_le hk hw₃.editors.1
    refine keeps_bind (keeps_editor hs₃ k) ?_
    rintro s w₄ _ hs₄ ⟨rfl, rfl⟩
    refine keeps_bind (keeps_docId hs₄ _) ?_
    rintro id w₅ _ hs₅ rfl
    refine keeps_bind (keeps_getDoc id) fun value w₆ (hw₆ : w₅.Extends w₆) hs₆ _ => ?_
    refine keeps_seq (runs_modifyDevice hs₆ _ (fun _ => rfl) fun _ => rfl) fun w₇ hw₇ hs₇ => ?_
    refine keeps_seq runs_pause fun w₈ hw₈ hs₈ => ?_
    have hw₃₈ : w₅.Extends w₈ := hw₆.trans (World.Extends.trans hw₇ hw₈)
    exact runs_storeUser hs₈ ((hs₅.edited hk₃ _).mono hw₃₈.confirmed hw₃₈.lookups)
  · exact keeps_pure hs₃ trivial

/-- The button of the editor: nothing is written before the token has come and the email has been
looked up, and where the email is taken only a message is shown. -/
theorem runs_updateUserData (hw : Sound auth w) {k : ℕ} (hk : k < w.editors.size) :
    RunsLogin auth allow (updateUserData k) w := by
  refine keeps_seq (runs_modifyEditor hw k fun _ => ⟨rfl, rfl, rfl⟩) ?_
  intro w₁ (hw₁ : w.Extends w₁) hs₁
  have hk₁ : k < w₁.editors.size := Nat.lt_of_lt_of_le hk hw₁.editors.1
  refine runs_spawn (keeps_bind (keeps_editor hs₁ k) ?_)
  rintro s w₂ _ hs₂ ⟨rfl, rfl⟩
  refine keeps_bind (keeps_getToken _) fun token w₃ (hw₃ : w₂.Extends w₃) hs₃ _ => ?_
  have hk₃ : k < w₃.editors.size := Nat.lt_of_lt_of_le hk₁ hw₃.editors.1
  refine keeps_bind (keeps_editor hs₃ k) ?_
  rintro s w₄ _ hs₄ ⟨rfl, rfl⟩
  refine keeps_seq (runs_spawn ?_) fun w₅ _ hs₅ => runs_modifyEditor hs₅ k fun _ => ⟨rfl, rfl, rfl⟩
  refine keeps_bind keeps_read fun value w₅ (hw₅ : w₄.Extends w₅) hs₅ _ => ?_
  split
  · exact runs_showMessage hs₅ _ _
  · exact runs_saveProfile hs₅ (Nat.lt_of_lt_of_le hk₃ hw₅.editors.1) token

/-- The upload of a profile picture. Its callback stores the user of the editor twice, before and
after the update of the document; both times it is the user whose account the editor was opened
with. -/
theorem runs_uploadFile (hw : Sound auth w) {k : ℕ} (hk : k < w.editors.size)
    (downloadUrl : String) : RunsLogin auth allow (uploadFile k downloadUrl) w := by
  refine keeps_seq (runs_modifyEditor hw k fun _ => ⟨rfl, rfl, rfl⟩) ?_
  intro w₁ (hw₁ : w.Extends w₁) hs₁
  have hk₁ : k < w₁.editors.size := Nat.lt_of_lt_of_le hk hw₁.editors.1
  refine runs_spawn (keeps_seq keeps_read fun w₂ (hw₂ : w₁.Extends w₂) hs₂ => ?_)
  have hk₂ : k < w₂.editors.size := Nat.lt_of_lt_of_le hk₁ hw₂.editors.1
  have hurl : KeepsLogin auth allow (Async.attempt fun _ w => (downloadUrl, w)) w₂
      fun _ _ => True := keeps_attempt (fun _ _ hs _ => ⟨.refl hs, fun _ _ _ => trivial⟩)
    fun _ _ _ => trivial
  refine keeps_bind hurl fun url w₃ (hw₃ : w₂.Extends w₃) hs₃ _ => ?_
  have hk₃ : k < w₃.editors.size := Nat.lt_of_lt_of_le hk₂ hw₃.editors.1
  refine keeps_bind (keeps_editor hs₃ k) ?_
  rintro s w₄ _ hs₄ ⟨rfl, rfl⟩
  cases url with
  | none => exact runs_showMessage hs₄ _ _
  | some url =>
    cases huser : (w₄.editors.get k).user with
    -- `user["image"] = ...` throws where `user` is null
    | none => exact keeps_throw
    | some user =>
      refine keeps_seq (runs_modifyEditor hs₄ k fun _ => ⟨rfl, rfl, rfl⟩) ?_
      intro w₅ (hw₅ : w₄.Extends w₅) hs₅
      have hk₅ : k < w₅.editors.size := Nat.lt_of_lt_of_le hk₃ hw₅.editors.1
      refine keeps_seq (runs_storeUser hs₅ ((hs₄.edited hk₃ _).mono hw₅.confirmed hw₅.lookups)) ?_
      intro w₆ (hw₆ : w₅.Extends w₆) hs₆
      refine keeps_seq (runs_modifyEditor hs₆ k fun _ => ⟨rfl, rfl, rfl⟩) ?_
      intro w₇ (hw₇ : w₆.Extends w₇) hs₇
      refine keeps_bind (keeps_editor hs₇ k) ?_
      rintro s w₈ _ hs₈ ⟨rfl, rfl⟩
      refine keeps_bind (keeps_docId hs₈ _) ?_
      rintro id w₉ _ hs₉ rfl
      refine keeps_seq (runs_update _ _) fun w₁₀ (hw₁₀ : w₉.Extends w₁₀) hs₁₀ => ?_
      have hk₁₀ : k < w₁₀.editors.size :=
        Nat.lt_of_lt_of_le hk₅ (hw₆.trans (hw₇.trans hw₁₀)).editors.1
      refine keeps_seq (runs_spawn ?_) fun w₁₁ _ hs₁₁ =>
        runs_modifyEditor hs₁₁ k fun _ => ⟨rfl, rfl, rfl⟩
      refine keeps_bind (keeps_editor hs₁₀ k) ?_
      rintro s w₁₁ _ hs₁₁ ⟨rfl, rfl⟩
      refine keeps_bind (keeps_docId hs₁₁ _) ?_
      rintro id w₁₂ _ hs₁₂ rfl
      refine keeps_bind (keeps_getDoc id) fun snap w₁₃ (hw₁₃ : w₁₂.Extends w₁₃) hs₁₃ _ => ?_
      refine keeps_seq (runs_storeUser hs₁₃
        ((hs₁₂.edited hk₁₀ _).mono hw₁₃.confirmed hw₁₃.lookups)) fun w₁₄ _ hs₁₄ => ?_
      exact runs_modifyEditor hs₁₄ k fun _ => ⟨rfl, rfl, rfl⟩

/-! ## Runs -/

/-- All actions but the submission of a code do without looking up an account. -/
theorem runs_action (hw : Sound auth w) (a : Action) (ha : a.enabled w)
    (hallow : ∀ d, a = .onFormSubmitted d → allow) : RunsLogin auth allow (a.body auth) w := by
  cases a with
  | onReady d arguments => exact runs_modify (permits_onReady hw ha arguments)
  | typePhone d dialCode phone => exact runs_modifyDevice hw d (fun _ => rfl) fun _ => rfl
  | typeOtp d otp =>
    exact runs_modifyOtp hw d (f := fun s => { s with otp := otp }) (fun _ => rfl) fun _ => rfl
  | checkValidation d => exact runs_checkValidation hw d
  | codeSent r => exact runs_codeSent hw r
  | codeAutoRetrievalTimeout r => exact runs_codeSent hw r
  | verificationFailed r => exact runs_verificationFailed hw r
  | onFormSubmitted d => exact runs_onFormSubmitted (hallow d rfl) hw d
  | typeProfile k name email phone status =>
    exact runs_modifyEditor hw k fun _ => ⟨rfl, rfl, rfl⟩
  | updateUserData k => exact runs_updateUserData hw ha
  | uploadFile k downloadUrl => exact runs_uploadFile hw ha downloadUrl
  | others op => exact runs_modify (permits_store hw _ w.messages)

/-- The configuration in which nothing has happened yet. -/
def start (store : Store Path Key Value) (platform : ℕ → Platform) : Config World Unit :=
  { world := World.initial store platform }

/-- Every run keeps the protocol. -/
theorem login_kept {store : Store Path Key Value} {platform : ℕ → Platform}
    {es : List (Event Action)} {c : Config World Unit}
    (h : (login auth).Run (login auth).admits (start store platform) es c) :
    c.Kept ((loginProtocol auth True).protocol Unit) := by
  have hinitial : (loginProtocol auth True).inv (start store platform).world :=
    sound_initial auth store platform
  exact System.Run.kept hinitial rfl (fun a _ hs ha => runs_action hs a ha fun _ _ => trivial) h

/-! ## Some users -/

/-- Every number is bound to a user of its own. -/
def byNumber : Auth where
  userOf n := some { uid := n }
  uid_inj hm hn h := by
    cases hm
    cases hn
    exact h

/-- A handler that is started and carried on by itself. -/
def alone (a : Action) : List (Event Action) :=
  .call a (fun n => ⟨n, 0, false⟩) :: List.replicate 20 (.resume 0 fun n => ⟨n, 0, false⟩)

/-- A user signs in on a device with the `r`-th code. -/
def signsIn (d r : ℕ) (dialCode phone : String) : List (Event Action) :=
  alone (.typePhone d dialCode phone) ++ alone (.checkValidation d) ++ alone (.codeSent r) ++
    alone (.onFormSubmitted d)

end FlutterTheme.Login
