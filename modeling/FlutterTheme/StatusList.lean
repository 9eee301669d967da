import FlutterTheme.ContactList
import FlutterTheme.Status
import Mathlib.Algebra.Order.BigOperators.Group.List
import Mathlib.Algebra.Order.Group.Nat

/-!
# The statuses of the contacts

`getStatusUserList` goes through the documents of `status`, and for each through the contacts. At
each contact with the number of the document it makes a new `Status` of the document, which
`contains` never finds in the list: a `Status` is an object.

* `statuses_eq` — a document is listed once for every such contact.
* `statuses_iff` — when each is listed once.
-/

namespace FlutterTheme.Statuses

open ContactList (Contact)

/-- A `Status` object. -/
structure StatusObject where
  ref : ℕ
  status : Status
  deriving DecidableEq, Repr

/-- The objects that have been made, and `statusData`. -/
structure StatusData where
  nextRef : ℕ := 0
  statusData : List StatusObject := []

/-- `statusData.contains(tempStatus)`, which compares objects. -/
def StatusData.contains (s : StatusData) (tempStatus : StatusObject) : Bool :=
  s.statusData.any (·.ref == tempStatus.ref)

/-- A document and a contact. -/
def visit (user : User) (data : Data) (s : StatusData) (contact : Contact) : StatusData :=
  match contact.phones with
  | [] => s
  | number :: _ =>
    let phone := phoneNumberExtension number
    if data .phoneNumber = some (.str phone) then
      if data .uid ≠ some (.str user.id) then
        let tempStatus : StatusObject := ⟨s.nextRef, Status.fromJson data⟩
        let s := { s with nextRef := s.nextRef + 1 }
        if s.contains tempStatus then s
        else { s with statusData := s.statusData ++ [tempStatus] }
      else s
    else s

/-- `getStatusUserList`, for the user who is signed in and the documents of `status`. -/
def getStatusUserList (user : User) (docs : List Document) (contacts : List Contact) :
    List StatusObject :=
  (docs.foldl (fun s doc => contacts.foldl (visit user doc.data) s) {}).statusData

/-! ## What should be listed -/

/-- The document has the number of the contact. -/
def HasNumber (data : Data) (contact : Contact) : Prop :=
  ∃ phone ∈ contact.phone, data .phoneNumber = some (.str phone)

instance (data : Data) (contact : Contact) : Decidable (HasNumber data contact) :=
  inferInstanceAs (Decidable (∃ phone ∈ contact.phone, data .phoneNumber = some (.str phone)))

/-- The document is one of another user. -/
def IsOther (user : User) (data : Data) : Prop := data .uid ≠ some (.str user.id)

instance (user : User) (data : Data) : Decidable (IsOther user data) :=
  inferInstanceAs (Decidable (data .uid ≠ some (.str user.id)))

/-- The statuses of the other users whose number is one of a contact, in the order of the
collection. -/
def statusesOf (user : User) (docs : List Document) (contacts : List Contact) : List Status :=
  (docs.filter fun doc => IsOther user doc.data ∧ ∃ contact ∈ contacts, HasNumber doc.data contact).map
    fun doc => Status.fromJson doc.data

/-- How often a document is listed. -/
def times (user : User) (contacts : List Contact) (data : Data) : ℕ :=
  if IsOther user data then contacts.countP fun contact => HasNumber data contact else 0

section Listed

variable {user : User} {docs : List Document} {contacts : List Contact} {data : Data}
  {s : StatusData} {contact : Contact}

/-- All objects of the list have been made before. -/
def StatusData.Made (s : StatusData) : Prop := ∀ object ∈ s.statusData, object.ref < s.nextRef

/-- The statuses of the objects. -/
def StatusData.statuses (s : StatusData) : List Status := s.statusData.map (·.status)

/-- A new object is in no list. -/
theorem contains_new (hs : s.Made) (status : Status) : s.contains ⟨s.nextRef, status⟩ = false := by
  rw [StatusData.contains, List.any_eq_false]
  intro object hmem heq
  exact (hs object hmem).ne (beq_iff_eq.mp heq)

/-- A contact with the number of another user's document adds the status, whatever has been listed. -/
theorem visit_eq (user : User) (data : Data) (contact : Contact) (hs : s.Made) : (visit user data s contact).Made ∧
    (visit user data s contact).statuses = s.statuses ++
      if IsOther user data ∧ HasNumber data contact then [Status.fromJson data] else [] := by
  have hkept (h : ¬ (IsOther user data ∧ HasNumber data contact)) : s.Made ∧ s.statuses = s.statuses ++
      if IsOther user data ∧ HasNumber data contact then [Status.fromJson data] else [] := by
    rw [if_neg h, List.append_nil]
    exact ⟨hs, rfl⟩
  rw [visit]
  split
  · next hphones =>
    refine hkept fun h => ?_
    obtain ⟨phone, hphone, -⟩ := h.2
    simp [Contact.phone, hphones] at hphone
  · next number numbers hphones =>
    have hnumber : HasNumber data contact ↔
        data .phoneNumber = some (.str (phoneNumberExtension number)) := by
      simp [HasNumber, Contact.phone, hphones]
    dsimp only
    split
    · next hphone =>
      split
      · next hother =>
        have hboth : IsOther user data ∧ HasNumber data contact := ⟨hother, hnumber.mpr hphone⟩
        have hnew := contains_new hs (Status.fromJson data)
        rw [StatusData.contains] at hnew
        rw [StatusData.contains, hnew, if_pos hboth]
        refine ⟨fun object hmem => ?_, ?_⟩
        · obtain hmem | hmem := List.mem_append.mp hmem
          · exact (hs object hmem).trans (Nat.lt_succ_self _)
          · rw [List.mem_singleton.mp hmem]
            exact Nat.lt_succ_self _
        · exact List.map_append
      · next hother => exact hkept fun h => hother h.1
    · next hphone => exact hkept fun h => hphone (hnumber.mp h.2)

/-- The contacts add the status as often as there are some with the number. -/
theorem foldl_visit (user : User) (contacts : List Contact) (data : Data) (hs : s.Made) : (contacts.foldl (visit user data) s).Made ∧
    (contacts.foldl (visit user data) s).statuses =
      s.statuses ++ List.replicate (times user contacts data) (Status.fromJson data) := by
  induction contacts generalizing s with
  | nil => simp [times, hs]
  | cons contact contacts ih =>
    obtain ⟨hmade, hstatuses⟩ := visit_eq user data contact hs
    obtain ⟨hmade', hrest⟩ := ih hmade
    refine ⟨hmade', ?_⟩
    rw [List.foldl_cons, hrest, hstatuses, List.append_assoc]
    congr 1
    by_cases hother : IsOther user data
    · by_cases hnumber : HasNumber data contact
      · simp [times, hother, hnumber, List.replicate_succ]
      · simp [times, hother, hnumber]
    · simp [times, hother]

/-- **A document is listed once for every contact** with its number. -/
theorem statuses_eq : (getStatusUserList user docs contacts).map (·.status) =
    docs.flatMap fun doc => List.replicate (times user contacts doc.data) (Status.fromJson doc.data) := by
  have hdocs (s : StatusData) (hs : s.Made) :
      (docs.foldl (fun s doc => contacts.foldl (visit user doc.data) s) s).statuses =
        s.statuses ++ docs.flatMap fun doc =>
          List.replicate (times user contacts doc.data) (Status.fromJson doc.data) := by
    induction docs generalizing s with
    | nil => simp
    | cons doc docs ih =>
      obtain ⟨hmade, hstatuses⟩ := foldl_visit user contacts doc.data hs
      rw [List.foldl_cons, ih _ hmade, hstatuses, List.flatMap_cons, List.append_assoc]
  exact hdocs {} fun _ h => absurd h List.not_mem_nil

/-- What should be listed is every document once at most. -/
theorem statusesOf_eq : statusesOf user docs contacts = docs.flatMap fun doc =>
    List.replicate (min (times user contacts doc.data) 1) (Status.fromJson doc.data) := by
  have hlisted (data : Data) : (IsOther user data ∧ ∃ contact ∈ contacts, HasNumber data contact) ↔
      0 < times user contacts data := by
    rw [times]
    split
    · next hother => simp [hother]
    · next hother => simp [hother]
  induction docs with
  | nil => rfl
  | cons doc docs ih =>
    have hcons : statusesOf user (doc :: docs) contacts =
        (if 0 < times user contacts doc.data then [Status.fromJson doc.data] else []) ++
          statusesOf user docs contacts := by
      rw [statusesOf, List.filter_cons]
      simp only [decide_eq_true_eq, hlisted]
      split
      · simp [statusesOf, hlisted]
      · simp [statusesOf, hlisted]
    rw [hcons, ih, List.flatMap_cons]
    congr 1
    split
    · next hpos => rw [Nat.min_eq_right hpos, List.replicate_one]
    · next hpos => rw [Nat.eq_zero_of_not_pos hpos, Nat.zero_min, List.replicate_zero]

/-- What is listed several times makes the list longer. -/
theorem flatMap_replicate_eq_iff {α β : Type} {l : List α} {n : α → ℕ} {f : α → β} :
    (l.flatMap fun a => List.replicate (n a) (f a)) =
      (l.flatMap fun a => List.replicate (min (n a) 1) (f a)) ↔ ∀ a ∈ l, n a ≤ 1 := by
  constructor
  · intro h
    have hlength := congrArg List.length h
    simp only [List.length_flatMap, List.length_replicate] at hlength
    clear h
    induction l with
    | nil => exact fun _ h => absurd h List.not_mem_nil
    | cons a l ih =>
      have hle : (l.map fun a => min (n a) 1).sum ≤ (l.map fun a => n a).sum :=
        List.sum_le_sum fun a _ => Nat.min_le_left _ _
      rw [List.map_cons, List.map_cons, List.sum_cons, List.sum_cons] at hlength
      refine List.forall_mem_cons.mpr ⟨by omega, ih (by omega)⟩
  · intro h
    refine List.flatMap_congr fun a ha => ?_
    rw [Nat.min_eq_left (h a ha)]

/-- **Each status is listed once** if and only if no two contacts have the number of another user's
document. -/
theorem statuses_iff :
    (getStatusUserList user docs contacts).map (·.status) = statusesOf user docs contacts ↔
      ∀ doc ∈ docs, IsOther user doc.data →
        contacts.countP (fun contact => HasNumber doc.data contact) ≤ 1 := by
  rw [statuses_eq, statusesOf_eq, flatMap_replicate_eq_iff]
  refine forall₂_congr fun doc _ => ?_
  rw [times]
  split
  · next hother => simp [hother]
  · next hother => simp [hother]

end Listed

/-- A status is listed for each of two contacts. -/
theorem status_listed_twice : ¬ ∀ user docs contacts,
    (getStatusUserList user docs contacts).map (·.status) = statusesOf user docs contacts := by
  intro h
  have htwice := h { id := "ann" }
    [⟨.named "s", .ofList [(.uid, .str "bob"), (.phoneNumber, .str "5551234")]⟩]
    [⟨"Bob", ["5551234"], none⟩, ⟨"Bobby", ["5551234"], none⟩]
  exact absurd (congrArg List.length htwice) (by decide)

end FlutterTheme.Statuses
