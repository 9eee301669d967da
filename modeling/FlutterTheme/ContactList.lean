import FlutterTheme.Duties
import FlutterTheme.Heap
import FlutterTheme.PhoneNumber
import Mathlib.Algebra.BigOperators.Group.Multiset.Basic
import Mathlib.Data.List.Nodup

/-!
# The list of contacts

`fetchPage` sorts the contacts of the device into those who have a user document and those who
are to be invited. The two lists are objects that the calls replace and share, and one call for
every contact looks its number up. Runs of `fetchPage` may overlap in any way: once nothing is
suspended, the lists shown are right (`contacts_partitioned`).
-/

namespace FlutterTheme.ContactList

open EventLoop

/-- A contact of the device. -/
structure Contact where
  displayName : String
  phones : List String
  photo : Option (List UInt8) := none
  deriving DecidableEq, Repr

/-- The first number of a contact, normalised. -/
def Contact.phone (contact : Contact) : Option String :=
  contact.phones.head?.map phoneNumberExtension

/-- A document of the collection `users`, as far as it is read here. -/
structure UserDoc where
  id : Option String
  phone : Option String
  name : Option String := none
  image : Option String := none
  statusDesc : Option String := none
  deriving DecidableEq, Repr

/-- `UserContactModel`. -/
structure UserContactModel where
  uid : Option String := none
  username : Option String := none
  phoneNumber : Option String := none
  image : Option String := none
  description : Option String := none
  contactImage : Option (List UInt8) := none
  isRegister : Option Bool := none
  deriving DecidableEq, Repr

/-- `ContactModel`; `userTitle` refers to a list. -/
structure ContactModel where
  title : String
  userTitle : ℕ
  deriving DecidableEq, Repr

/-- `ContactListController`, with what it reads. -/
structure World where
  /-- the collection `users`, in the order of its queries -/
  users : List UserDoc
  /-- the contacts of the device, and whether the app may read them -/
  contacts : List Contact
  granted : Bool
  /-- `session.user["phone"]` -/
  userPhone : Option String
  /-- the lists of `UserContactModel`s -/
  lists : Heap (List UserContactModel)
  registerContactList : ℕ
  unRegisterContactList : ℕ
  contactList : List ContactModel := []
  storageContact : List Contact := []
  nameList : List UserContactModel := []
  isLoading : Bool := true
  /-- the items and the next key of `pagingController` -/
  itemList : List ContactModel := []
  nextPageKey : Option ℕ := none

/-- A handler, or a part of one. -/
abbrev Call (α : Type) : Type := Async World Unit α

/-! ## `fetchPage` -/

/-- `pageSize`. -/
def pageSize : ℕ := 20

/-- `getContact`. -/
def getContact : Call (List Contact) := do
  let permissionStatus ← Async.remote fun _ w => (w.granted, w)
  if permissionStatus then Async.remote fun _ w => (w.contacts, w) else pure []

/-- The lists are replaced when a page is asked for. -/
def World.clear (w : World) : World :=
  { w with
    contactList := []
    lists := (w.lists.alloc []).alloc []
    registerContactList := w.lists.size
    unRegisterContactList := w.lists.size + 1 }

/-- Take the entries with the phone out of a list and append one. -/
def replaceEntry (phone : String) (entry : UserContactModel) (list : List UserContactModel) :
    List UserContactModel :=
  list.filter (·.phoneNumber ≠ some phone) ++ [entry]

/-- What the answer of a lookup does if a user has the phone. The entry is a new object, so no
list contains it yet. -/
def World.register (w : World) (user : Option String) (phone : String) (doc : UserDoc) : World :=
  let userContactModel : UserContactModel :=
    { isRegister := some true, phoneNumber := some phone, uid := doc.id, image := doc.image,
      username := doc.name, description := doc.statusDesc }
  { w with
    lists := w.lists.modify w.registerContactList fun list =>
      if some phone ≠ user then replaceEntry phone userContactModel list
      else list.filter (·.phoneNumber ≠ some phone)
    nameList := [userContactModel] }

/-- What it does if no user has the phone. -/
def World.unRegister (w : World) (phone : String) (p : Contact) : World :=
  let userContactModel : UserContactModel :=
    { isRegister := some false, phoneNumber := some phone, contactImage := p.photo,
      uid := some "0", username := some p.displayName }
  { w with
    lists := w.lists.modify w.unRegisterContactList (replaceEntry phone userContactModel)
    nameList := w.nameList ++ [userContactModel] }

/-- The call for one contact. -/
def lookUp (user : Option String) (p : Contact) : Call Unit := do
  match p.phones with
  | [] => pure ()
  | number :: _ => do
    Async.modify fun w => { w with nameList := [] }
    let phone := phoneNumberExtension number
    let docs ← Async.remote fun _ w => ((w.users.filter (·.phone = some phone)).take 1, w)
    match docs with
    | doc :: _ => Async.modify fun w => w.register user phone doc
    | [] => Async.modify fun w => w.unRegister phone p

/-- The two lists are shown, the first of them a new one. -/
def World.show (w : World) (pageKey : ℕ) : World :=
  let newItems : List ContactModel :=
    [⟨"registerUser", w.lists.size⟩, ⟨"inviteUser", w.unRegisterContactList⟩]
  { w with
    lists := w.lists.alloc []
    registerContactList := w.lists.size
    contactList := newItems
    isLoading := false
    itemList := newItems
    nextPageKey := if newItems.length < pageSize then none else some (pageKey + newItems.length) }

/-- `fetchPage`. -/
def fetchPage (pageKey : ℕ) : Call Unit := do
  Async.modify World.clear
  let contacts ← getContact
  Async.modify fun w => { w with storageContact := contacts }
  let user ← Async.get World.userPhone
  let storageContact ← Async.get World.storageContact
  Async.forEach (storageContact.filter (·.phones ≠ [])) (lookUp user)
  Async.modify (World.show · pageKey)

/-- The pages a user can ask for. -/
def contactPages : System World Unit ℕ where
  scope _ _ := ()
  body := fetchPage
  enabled _ _ := True

/-! ## What is to be shown -/

/-- The contacts the app gets to see. -/
def World.seen (w : World) : List Contact := if w.granted then w.contacts else []

/-- The normalised first numbers of the contacts that have a phone. -/
def World.phones (w : World) : List String :=
  w.seen.filterMap fun p => p.phones.head?.map phoneNumberExtension

/-- Some user document has the phone. -/
def World.Registered (w : World) (phone : String) : Prop := ∃ doc ∈ w.users, doc.phone = some phone

/-- The numbers in a list. -/
def World.listed (w : World) (l : ℕ) : List (Option String) :=
  (w.lists.get l).map (·.phoneNumber)

/-- The two lists shown, and what is in them: one entry for each number that belongs there. -/
structure Partitioned (w₀ w : World) (register invite : ℕ) : Prop where
  shown : w.contactList = [⟨"registerUser", register⟩, ⟨"inviteUser", invite⟩]
  registered : ∀ phone ∈ w₀.phones, w₀.Registered phone → some phone ≠ w₀.userPhone →
    (w.listed register).count (some phone) = 1
  invited : ∀ phone ∈ w₀.phones, ¬ w₀.Registered phone →
    (w.listed invite).count (some phone) = 1
  onlyRegistered : ∀ x ∈ w.listed register,
    ∃ phone ∈ w₀.phones, x = some phone ∧ w₀.Registered phone ∧ some phone ≠ w₀.userPhone
  onlyInvited : ∀ x ∈ w.listed invite, ∃ phone ∈ w₀.phones, x = some phone ∧ ¬ w₀.Registered phone
  disjoint : ∀ x ∈ w.listed register, x ∉ w.listed invite

/-! ## One entry for each number -/

section Entries

variable {phone : String} {entry : UserContactModel} {list : List UserContactModel}

/-- The numbers after an entry has been replaced. -/
theorem mem_replaceEntry (h : entry.phoneNumber = some phone) {x : Option String} :
    x ∈ (replaceEntry phone entry list).map (·.phoneNumber) ↔
      x = some phone ∨ x ∈ list.map (·.phoneNumber) := by
  rw [replaceEntry, List.map_append, List.mem_append, List.map_singleton, List.mem_singleton, h]
  constructor
  · rintro (hx | rfl)
    · obtain ⟨m, hm, rfl⟩ := List.mem_map.mp hx
      exact Or.inr (List.mem_map_of_mem (List.mem_of_mem_filter hm))
    · exact Or.inl rfl
  · rintro (rfl | hx)
    · exact Or.inr rfl
    · obtain ⟨m, hm, rfl⟩ := List.mem_map.mp hx
      by_cases hp : m.phoneNumber = some phone
      · exact Or.inr hp
      · exact Or.inl (List.mem_map_of_mem (List.mem_filter.mpr ⟨hm, by simpa using hp⟩))

/-- Taking the entries of a number out leaves no number twice. -/
theorem nodup_filter (h : (list.map (·.phoneNumber)).Nodup) (p : UserContactModel → Bool) :
    ((list.filter p).map (·.phoneNumber)).Nodup :=
  h.sublist (List.filter_sublist.map _)

/-- Nor does replacing an entry. -/
theorem nodup_replaceEntry (h : entry.phoneNumber = some phone)
    (hl : (list.map (·.phoneNumber)).Nodup) :
    ((replaceEntry phone entry list).map (·.phoneNumber)).Nodup := by
  rw [replaceEntry, List.map_append, List.map_singleton, h]
  refine List.nodup_append.mpr ⟨nodup_filter hl _, List.nodup_singleton _, ?_⟩
  intro x hx y hy
  obtain rfl := List.mem_singleton.mp hy
  obtain ⟨m, hm, rfl⟩ := List.mem_map.mp hx
  simpa using (List.mem_filter.mp hm).2

end Entries

/-! ## What the calls have to do -/

/-- A part of what is to be done. -/
inductive Duty : Type where
  /-- to look the contacts up and show the lists -/
  | page : Duty
  /-- to sort a number in -/
  | sort : String → Duty
  deriving DecidableEq

/-- What the lists hold at any time. -/
structure Sound (w₀ w : World) : Prop where
  users : w.users = w₀.users
  contacts : w.contacts = w₀.contacts
  granted : w.granted = w₀.granted
  userPhone : w.userPhone = w₀.userPhone
  register_lt : w.registerContactList < w.lists.size
  unRegister_lt : w.unRegisterContactList < w.lists.size
  ne : w.unRegisterContactList ≠ w.registerContactList
  registered : ∀ x ∈ w.listed w.registerContactList,
    ∃ phone ∈ w₀.phones, x = some phone ∧ w₀.Registered phone ∧ some phone ≠ w₀.userPhone
  invited : ∀ x ∈ w.listed w.unRegisterContactList,
    ∃ phone ∈ w₀.phones, x = some phone ∧ ¬ w₀.Registered phone
  nodup : (w.listed w.registerContactList).Nodup
  nodup' : (w.listed w.unRegisterContactList).Nodup

/-- What they hold when no page is being looked up: the numbers that are not still to be sorted
in. -/
structure Complete (w₀ w : World) (r : Multiset Duty) : Prop where
  shown : w.contactList =
    [⟨"registerUser", w.registerContactList⟩, ⟨"inviteUser", w.unRegisterContactList⟩]
  registered : ∀ phone ∈ w₀.phones, .sort phone ∉ r → w₀.Registered phone →
    some phone ≠ w₀.userPhone → some phone ∈ w.listed w.registerContactList
  invited : ∀ phone ∈ w₀.phones, .sort phone ∉ r → ¬ w₀.Registered phone →
    some phone ∈ w.listed w.unRegisterContactList

/-- The runs looked at: no operation fails. -/
def duties (w₀ : World) : Duties World Unit (Multiset Duty) where
  admits t := t.fails = false
  inv w r := Sound w₀ w ∧ (.page ∉ r → Complete w₀ w r)

section Sorting

variable {w₀ w : World} {phone : String} {r : Multiset Duty}

/-- Whether a duty is left after a number has been sorted in. -/
theorem not_mem_of_ne (phone : String) {x : Duty} (hx : x ∉ 0 + r) (hne : x ≠ .sort phone) :
    x ∉ ({.sort phone} : Multiset Duty) + r := by
  rw [Multiset.mem_add, Multiset.mem_singleton]
  rw [zero_add] at hx
  exact not_or.mpr ⟨hne, hx⟩

/-- The number of a registered user has been sorted in: its entry takes the place of an earlier one,
and the user's own number is left out. -/
theorem inv_register (hphone : phone ∈ w₀.phones) (hreg : w₀.Registered phone) (doc : UserDoc)
    (h : (duties w₀).inv w ({.sort phone} + r)) :
    (duties w₀).inv (w.register w₀.userPhone phone doc) (0 + r) := by
  obtain ⟨hs, hc⟩ := h
  have hkeep : (w.register w₀.userPhone phone doc).listed w.unRegisterContactList =
      w.listed w.unRegisterContactList := by
    simp only [World.listed, World.register, Heap.get_modify, if_neg hs.ne]
  -- the number is in the list now, unless it is the user's own
  obtain ⟨hmem, hnodup, hold, hnew⟩ :
      (∀ x ∈ (w.register w₀.userPhone phone doc).listed w.registerContactList,
        (x = some phone ∧ some phone ≠ w₀.userPhone) ∨ x ∈ w.listed w.registerContactList) ∧
      ((w.register w₀.userPhone phone doc).listed w.registerContactList).Nodup ∧
      (∀ x ∈ w.listed w.registerContactList, x ≠ some phone →
        x ∈ (w.register w₀.userPhone phone doc).listed w.registerContactList) ∧
      (some phone ≠ w₀.userPhone →
        some phone ∈ (w.register w₀.userPhone phone doc).listed w.registerContactList) := by
    simp only [World.listed, World.register, Heap.get_modify, if_true]
    by_cases howner : some phone ≠ w₀.userPhone
    · simp only [if_pos howner]
      refine ⟨fun x hx => ?_, nodup_replaceEntry rfl hs.nodup, fun x hx _ => ?_, fun _ => ?_⟩
      · exact ((mem_replaceEntry rfl).mp hx).imp (fun heq => ⟨heq, howner⟩) id
      · exact (mem_replaceEntry rfl).mpr (Or.inr hx)
      · exact (mem_replaceEntry rfl).mpr (Or.inl rfl)
    · simp only [if_neg howner]
      refine ⟨fun x hx => ?_, nodup_filter hs.nodup _, fun x hx hne => ?_,
        fun ho => absurd ho howner⟩
      · obtain ⟨m, hm, rfl⟩ := List.mem_map.mp hx
        exact Or.inr (List.mem_map_of_mem (List.mem_of_mem_filter hm))
      · obtain ⟨m, hm, rfl⟩ := List.mem_map.mp hx
        exact List.mem_map_of_mem (List.mem_filter.mpr ⟨hm, by simpa using hne⟩)
  refine ⟨⟨hs.users, hs.contacts, hs.granted, hs.userPhone, hs.register_lt, hs.unRegister_lt,
    hs.ne, fun x hx => ?_, fun x hx => hs.invited x (hkeep ▸ hx), hnodup,
    (congrArg List.Nodup hkeep).mpr hs.nodup'⟩, fun hpage => ?_⟩
  · rcases hmem x hx with ⟨rfl, howner⟩ | hx
    · exact ⟨phone, hphone, rfl, hreg, howner⟩
    · exact hs.registered x hx
  · obtain ⟨hshown, hregistered, hinvited⟩ := hc (not_mem_of_ne _ hpage nofun)
    refine ⟨hshown, fun p hp hdue hpreg howner => ?_, fun p hp hdue hpreg => ?_⟩
    · by_cases heq : p = phone
      · subst heq
        exact hnew howner
      · have hdue' := not_mem_of_ne phone hdue fun h => heq (Duty.sort.inj h)
        exact hold _ (hregistered p hp hdue' hpreg howner) fun h => heq (Option.some.inj h)
    · have heq : p ≠ phone := fun h => hpreg (h ▸ hreg)
      have hdue' := not_mem_of_ne phone hdue fun h => heq (Duty.sort.inj h)
      exact hkeep ▸ hinvited p hp hdue' hpreg

/-- A number without a user has been sorted in: in the list of those to be invited its entry takes
the place of an earlier one. -/
theorem inv_unRegister (hphone : phone ∈ w₀.phones) (hreg : ¬ w₀.Registered phone) (p : Contact)
    (h : (duties w₀).inv w ({.sort phone} + r)) :
    (duties w₀).inv (w.unRegister phone p) (0 + r) := by
  obtain ⟨hs, hc⟩ := h
  have hkeep : (w.unRegister phone p).listed w.registerContactList =
      w.listed w.registerContactList := by
    simp only [World.listed, World.unRegister, Heap.get_modify, if_neg hs.ne.symm]
  have hmem : ∀ x, x ∈ (w.unRegister phone p).listed w.unRegisterContactList ↔
      x = some phone ∨ x ∈ w.listed w.unRegisterContactList := by
    intro x
    simp only [World.listed, World.unRegister, Heap.get_modify, if_true]
    exact mem_replaceEntry rfl
  have hnodup : ((w.unRegister phone p).listed w.unRegisterContactList).Nodup := by
    simp only [World.listed, World.unRegister, Heap.get_modify, if_true]
    exact nodup_replaceEntry rfl hs.nodup'
  refine ⟨⟨hs.users, hs.contacts, hs.granted, hs.userPhone, hs.register_lt, hs.unRegister_lt,
    hs.ne, fun x hx => hs.registered x (hkeep ▸ hx), fun x hx => ?_,
    (congrArg List.Nodup hkeep).mpr hs.nodup, hnodup⟩, fun hpage => ?_⟩
  · rcases (hmem x).mp hx with rfl | hx
    · exact ⟨phone, hphone, rfl, hreg⟩
    · exact hs.invited x hx
  · obtain ⟨hshown, hregistered, hinvited⟩ := hc (not_mem_of_ne _ hpage nofun)
    refine ⟨hshown, fun q hq hdue hqreg howner => ?_, fun q hq hdue hqreg => ?_⟩
    · have heq : q ≠ phone := fun h => hreg (h ▸ hqreg)
      have hdue' := not_mem_of_ne phone hdue fun h => heq (Duty.sort.inj h)
      exact hkeep ▸ hregistered q hq hdue' hqreg howner
    · by_cases heq : q = phone
      · exact (hmem _).mpr (Or.inl (congrArg some heq))
      · have hdue' := not_mem_of_ne phone hdue fun h => heq (Duty.sort.inj h)
        exact (hmem _).mpr (Or.inr (hinvited q hq hdue' hqreg))

/-- New lists, and a page to be looked up. -/
theorem inv_clear (husers : w.users = w₀.users) (hcontacts : w.contacts = w₀.contacts)
    (hgranted : w.granted = w₀.granted) (hphone : w.userPhone = w₀.userPhone) :
    (duties w₀).inv w.clear ({.page} + r) := by
  have hreg : w.clear.listed w.clear.registerContactList = [] := by
    simp [World.listed, World.clear, Heap.get_alloc]
  have hinv : w.clear.listed w.clear.unRegisterContactList = [] := by
    simp [World.listed, World.clear, Heap.get_alloc]
  refine ⟨⟨husers, hcontacts, hgranted, hphone, ?_, ?_, ?_, ?_, ?_, ?_, ?_⟩, fun hpage => ?_⟩
  · simp only [World.clear, Heap.size_alloc]
    omega
  · simp [World.clear]
  · simp [World.clear]
  · simp [hreg]
  · simp [hinv]
  · simp [hreg]
  · simp [hinv]
  · exact absurd (Multiset.mem_add.mpr (Or.inl (Multiset.mem_singleton_self _))) hpage

/-- The lists are shown when all numbers are still to be sorted in. -/
theorem inv_show (pageKey : ℕ) (hs : Sound w₀ w) (hdue : ∀ phone ∈ w₀.phones, .sort phone ∈ r) :
    (duties w₀).inv (w.show pageKey) r := by
  have hreg : (w.show pageKey).listed w.lists.size = [] := by
    simp [World.listed, World.show, Heap.get_alloc]
  have hkeep : (w.show pageKey).listed w.unRegisterContactList =
      w.listed w.unRegisterContactList := by
    simp only [World.listed, World.show, Heap.get_alloc, if_neg (Nat.ne_of_lt hs.unRegister_lt)]
  refine ⟨⟨hs.users, hs.contacts, hs.granted, hs.userPhone, Nat.lt_succ_self _,
    Nat.lt_succ_of_lt hs.unRegister_lt, Nat.ne_of_lt hs.unRegister_lt, fun x hx => ?_,
    fun x hx => hs.invited x (hkeep ▸ hx), ?_, (congrArg List.Nodup hkeep).mpr hs.nodup'⟩,
    fun _ => ⟨rfl, fun p hp hnot => absurd (hdue p hp) hnot, fun p hp hnot => ?_⟩⟩
  · exact absurd (hreg ▸ hx) List.not_mem_nil
  · exact (congrArg List.Nodup hreg).mpr List.nodup_nil
  · exact absurd (hdue p hp) hnot

end Sorting

/-! ## The calls -/

section Calls

variable {w₀ w : World} {R : World → Multiset Duty → Prop}

/-- An operation of such a run does not fail. -/
theorem succeeds {t : Tick} (ht : (duties w₀).admits t) {p : Prop} (h : t.fails = true) : p :=
  absurd (h.symm.trans ht) Bool.noConfusion

/-- What the call for a contact has to do. -/
def toSort (p : Contact) : Multiset Duty := {.sort (phoneNumberExtension (p.phones.headD ""))}

/-- The call for a contact that has a phone: one lookup, after which its number is sorted into one
of the two lists. -/
theorem leaves_lookUp {p : Contact} (hp : p ∈ w₀.seen) (hphones : p.phones ≠ [])
    (hs : Sound w₀ w) : (lookUp w₀.userPhone p).task.Leaves (duties w₀) w fun w' r =>
      Sound w₀ w' ∧ r = toSort p := by
  obtain ⟨number, rest, heq⟩ := List.exists_cons_of_ne_nil hphones
  have hphone : phoneNumberExtension number ∈ w₀.phones :=
    List.mem_filterMap.mpr ⟨p, hp, by simp [heq]⟩
  have hduty : toSort p = {.sort (phoneNumberExtension number)} := by
    simp [toSort, heq]
  simp only [lookUp, heq]
  refine Async.Leaves.task (Async.leaves_bind (Async.leaves_modify (Async.leaves_bind
    (Async.leaves_remote (toSort p) (fun _ => trivial) ⟨?_, rfl⟩
      (fun t _ _ w' f hi => ⟨toSort p, fun _ => trivial, hi, ?_⟩)
      fun t ht hf => succeeds ht hf))))
  · exact ⟨hs.users, hs.contacts, hs.granted, hs.userPhone, hs.register_lt, hs.unRegister_lt,
      hs.ne, hs.registered, hs.invited, hs.nodup, hs.nodup'⟩
  · intro w'' f' hi'
    -- the users are what they were when the number was looked up
    have husers := hi.1.users
    rw [hduty] at hi'
    cases hdocs : (w'.users.filter (·.phone = some (phoneNumberExtension number))).take 1 with
    | cons doc docs =>
      have hdoc : doc ∈ w'.users.filter (·.phone = some (phoneNumberExtension number)) :=
        List.mem_of_mem_take (hdocs ▸ List.mem_cons_self)
      obtain ⟨hmem, hdocphone⟩ := List.mem_filter.mp hdoc
      have hreg : w₀.Registered (phoneNumberExtension number) :=
        ⟨doc, husers ▸ hmem, by simpa using hdocphone⟩
      exact Async.leaves_modify (inv_register hphone hreg doc hi')
    | nil =>
      have hnone : w'.users.filter (·.phone = some (phoneNumberExtension number)) = [] := by
        simpa using hdocs
      have hreg : ¬ w₀.Registered (phoneNumberExtension number) := by
        rintro ⟨doc, hdoc, hdocphone⟩
        have hmem : doc ∈ w'.users.filter (·.phone = some (phoneNumberExtension number)) :=
          List.mem_filter.mpr ⟨husers.symm ▸ hdoc, decide_eq_true hdocphone⟩
        exact absurd (hnone ▸ hmem) List.not_mem_nil
      exact Async.leaves_modify (inv_unRegister hphone hreg p hi')

/-- A duty of one of the calls is one of all calls together. -/
theorem mem_sum_map {as : List Contact} {p : Contact} {x : Duty} (hp : p ∈ as) (hx : x ∈ toSort p) :
    x ∈ (as.map toSort).sum := by
  induction as with
  | nil => exact absurd hp List.not_mem_nil
  | cons q qs ih =>
    rw [List.map_cons, List.sum_cons, Multiset.mem_add]
    rcases List.mem_cons.mp hp with rfl | hp
    · exact Or.inl hx
    · exact Or.inr (ih hp)

/-- The contacts that are looked up account for all numbers. -/
theorem sort_mem {phone : String} (h : phone ∈ w₀.phones) :
    Duty.sort phone ∈ ((w₀.seen.filter (·.phones ≠ [])).map toSort).sum := by
  obtain ⟨p, hp, hphone⟩ := List.mem_filterMap.mp h
  cases hphones : p.phones with
  | nil => simp [hphones] at hphone
  | cons number rest =>
    obtain rfl : phoneNumberExtension number = phone := by simpa [hphones] using hphone
    have hmem : p ∈ w₀.seen.filter (·.phones ≠ []) :=
      List.mem_filter.mpr ⟨hp, by simp [hphones]⟩
    exact mem_sum_map hmem (by simp [toSort, hphones])

/-- What the answer of `getContact` is used for: one call for each contact with a phone, none of
which is waited for, and the page that is shown with what is there. -/
theorem leaves_page {k : ℕ} {f : Multiset Duty}
    (hi : (duties w₀).inv w ({.page} + f)) :
    (do Async.modify fun w : World => { w with storageContact := w₀.seen }
        let user ← Async.get World.userPhone
        let storageContact ← Async.get World.storageContact
        Async.forEach (storageContact.filter (·.phones ≠ [])) (lookUp user)
        Async.modify (World.show · k) : Call Unit).Leaves (duties w₀) w
      ((duties w₀).after f) fun _ w' R' => R' w' 0 := by
  have hs := hi.1
  refine Async.leaves_bind (Async.leaves_modify (Async.leaves_bind
    (Async.leaves_get (Async.leaves_bind (Async.leaves_get (Async.leaves_bind ?_))))))
  simp only [hs.userPhone]
  refine Async.leaves_forEach toSort (Sound w₀) ?_ (fun p hp w' hw' => ?_) fun w' hw' => ?_
  · exact ⟨hs.users, hs.contacts, hs.granted, rfl, hs.register_lt, hs.unRegister_lt,
      hs.ne, hs.registered, hs.invited, hs.nodup, hs.nodup'⟩
  · obtain ⟨hp, hphones⟩ := List.mem_filter.mp hp
    exact leaves_lookUp hp (by simpa using hphones) hw'
  · refine Async.leaves_modify (inv_show k hw' fun phone hphone => ?_)
    simp only [add_zero]
    exact Multiset.mem_add.mpr (Or.inl (sort_mem hphone))

/-- `fetchPage` clears the lists before it asks for the contacts, so that a page that overlaps with
it sorts everything in once more. -/
theorem leaves_fetchPage (husers : w.users = w₀.users) (hcontacts : w.contacts = w₀.contacts)
    (hgranted : w.granted = w₀.granted) (hphone : w.userPhone = w₀.userPhone) (pageKey : ℕ)
    (f : Multiset Duty) :
    (fetchPage pageKey).task.Leaves (duties w₀) w ((duties w₀).after f) := by
  have hclear := inv_clear husers hcontacts hgranted hphone (r := f)
  refine Async.Leaves.task (Async.leaves_bind (Async.leaves_modify (Async.leaves_bind
    (Async.leaves_bind (Async.leaves_remote {Duty.page} (fun _ => trivial) hclear
      (fun t _ _ w' f' hi => ⟨{.page}, fun _ => trivial, hi, fun w'' f'' hi' => ?_⟩)
      fun t ht hf => succeeds ht hf)))))
  have hgranted' := hi.1.granted
  cases hpermission : w₀.granted with
  | false =>
    have hseen : w₀.seen = [] := by simp [World.seen, hpermission]
    simp only [hgranted', hpermission, Bool.false_eq_true, if_false]
    have hpage := leaves_page (k := pageKey) hi'
    rw [hseen] at hpage
    exact Async.leaves_pure hpage
  | true =>
    have hseen : w₀.seen = w₀.contacts := by simp [World.seen, hpermission]
    simp only [hgranted', hpermission, if_true]
    refine Async.leaves_remote {Duty.page} (fun _ => trivial) hi'
      (fun t _ _ w₃ f₃ hi₃ => ⟨{.page}, fun _ => trivial, hi₃, ?_⟩) fun t ht hf => succeeds ht hf
    intro w₄ f₄ hi₄
    have hcontacts' := hi₃.1.contacts
    have hpage := leaves_page (k := pageKey) hi₄
    rw [hseen, ← hcontacts'] at hpage
    exact hpage

end Calls

/-- **The contacts are partitioned**: after a first `fetchPage` and any others that overlap with it
and with each other, once nothing is suspended, the lists shown hold one entry for each number
that belongs there, and no other. -/
theorem contacts_partitioned {w₀ : World} {pageKey : ℕ} {ticks : ℕ → Tick} {es : List (Event ℕ)}
    {c : Config World Unit} (hticks : ∀ n, (ticks n).fails = false)
    (h : contactPages.Run (fun _ e => ∀ n, (e.ticks n).fails = false)
      (contactPages.apply ⟨w₀, [], []⟩ (.call pageKey ticks)) es c) (hc : c.Settled) :
    ∃ register invite, Partitioned w₀ c.world register invite := by
  have hfirst : (contactPages.apply ⟨w₀, [], []⟩ (.call pageKey ticks)).Bears (duties w₀) :=
    ((leaves_fetchPage rfl rfl rfl rfl pageKey 0).bears hticks).config .nil
  have hcharges : ∀ c e, (∀ n, (e.ticks n).fails = false) →
      contactPages.Charges (duties w₀) c e := by
    intro c e he
    refine ⟨he, ?_, fun _ _ _ _ _ _ _ => trivial⟩
    rintro k ticks rfl f hi
    exact (leaves_fetchPage hi.1.users hi.1.contacts hi.1.granted hi.1.userPhone k f).bears he
  obtain ⟨hs, hcomplete⟩ := (h.bears hfirst hcharges).settled hc
  obtain ⟨hshown, hregistered, hinvited⟩ := hcomplete (Multiset.notMem_zero _)
  refine ⟨_, _, hshown, fun phone hphone hreg howner => ?_, fun phone hphone hreg => ?_,
    hs.registered, hs.invited, fun x hx hx' => ?_⟩
  · exact List.count_eq_one_of_mem hs.nodup
      (hregistered phone hphone (Multiset.notMem_zero _) hreg howner)
  · exact List.count_eq_one_of_mem hs.nodup'
      (hinvited phone hphone (Multiset.notMem_zero _) hreg)
  · obtain ⟨phone, -, rfl, hreg, -⟩ := hs.registered x hx
    obtain ⟨phone', -, heq, hnot⟩ := hs.invited _ hx'
    exact hnot (Option.some.inj heq ▸ hreg)

/-- Alice's device knows Bob, in two spellings, and Carol, who has no user document. -/
def twoContacts : World where
  users := [⟨"alice", "5550100111", none, none, none⟩, ⟨"bob", "5550100222", none, none, none⟩]
  contacts := [⟨"Bob", ["55501 00222"], none⟩, ⟨"Bob", ["+91 5550100222"], none⟩,
    ⟨"Carol", ["5550100333"], none⟩]
  granted := true
  userPhone := "5550100111"
  lists := (Heap.empty.alloc []).alloc []
  registerContactList := 0
  unRegisterContactList := 1

/-- Nothing fails. -/
def noFailure : ℕ → Tick := fun _ => ⟨0, 0, false⟩

/-- Two pages at the same time: the second is asked for when the lookups of the first are under
way, and of the calls that are suspended then the last is resumed first. -/
def twoPages : List (Event ℕ) :=
  List.replicate 4 (.resume 0 noFailure) ++ [.call 0 noFailure] ++
    List.replicate 8 (.resume 3 noFailure) ++ List.replicate 30 (.resume 0 noFailure)

/-- The configuration after both. -/
def bothPages : Config World Unit :=
  contactPages.exec (contactPages.apply ⟨twoContacts, [], []⟩ (.call 0 noFailure)) twoPages

/-- The two pages leave Bob and Carol in their lists once. -/
theorem contacts_partitioned_two :
    ∃ register invite, Partitioned twoContacts bothPages.world register invite := by
  have hrun : contactPages.Run (fun _ e => ∀ n, (e.ticks n).fails = false)
      (contactPages.apply ⟨twoContacts, [], []⟩ (.call 0 noFailure)) twoPages bothPages := by
    refine System.run_of_forall fun e he => ?_
    simp only [twoPages, List.mem_append, List.mem_replicate, List.mem_singleton] at he
    rcases he with ((⟨-, rfl⟩ | rfl) | ⟨-, rfl⟩) | ⟨-, rfl⟩ <;> exact fun _ => rfl
  exact contacts_partitioned (fun _ => rfl) hrun (by decide +kernel)

end FlutterTheme.ContactList
