import FlutterTheme.ContactList

/-!
# The contacts for a group

`refreshContacts` reads the contacts of the device, and `getFirebaseContact` empties the list of the
users who can be chosen and looks up the number of every contact. The users who are found are added
when their lookups answer; `contains` compares maps, which are objects, and finds none of them.

* `docs_run` — a settled list holds what the last refresh has found, and what the lookups have that
  were under way when it emptied the list.
* `picker_iff` — when that is each user once.
-/

namespace FlutterTheme.GroupContacts

open ContactList (Contact)

/-! ## The controller -/

/-- A document of the collection `users`, as far as it is read here. -/
structure UserDoc where
  docId : String
  id : Option String
  phone : Option String
  isActive : Option Bool
  deriving DecidableEq, Repr

/-- What a refresh depends on: the collection `users`, in the order of its queries, the contacts that
`getContact` gives, and `session.user`. -/
structure Device where
  users : List UserDoc
  nodup : (users.map (·.docId)).Nodup
  contacts : List Contact
  userId : String
  phone : Option String

/-- What `data()` makes of a document. -/
structure UserMap where
  ref : ℕ
  doc : UserDoc
  deriving DecidableEq, Repr

/-- `CreateGroupController`: how many `refreshContacts` wait for the contacts, the numbers that are
being looked up, and `contactList`. -/
structure CreateGroupController where
  reading : ℕ := 0
  lookups : List String := []
  contactList : List UserMap := []
  nextRef : ℕ := 0
  deriving DecidableEq, Repr

variable (d : Device)

/-- What `getFirebaseContact` does with a contact. -/
def lookUp (c : CreateGroupController) (contact : Contact) : CreateGroupController :=
  match contact.phones with
  | [] => c
  | number :: _ =>
    if d.phone ≠ some (phoneNumberExtension number) then
      { c with contactList := [], lookups := c.lookups ++ [phoneNumberExtension number] }
    else c

/-- `getFirebaseContact`. -/
def getFirebaseContact (c : CreateGroupController) : CreateGroupController :=
  d.contacts.foldl (lookUp d) { c with contactList := [] }

/-- A lookup has answered. Each `data()` makes another map. -/
def found (c : CreateGroupController) (phone : String) : CreateGroupController :=
  match d.users.filter (·.phone = some phone) with
  | [] => c
  | doc :: _ =>
    if doc.isActive = some true then
      let c' := { c with nextRef := c.nextRef + 2 }
      if c.contactList.any (·.ref == c.nextRef) then
        { c' with contactList := c.contactList.filter (·.ref != c.nextRef + 1) }
      else { c' with contactList := c.contactList ++ [⟨c.nextRef + 1, doc⟩] }
    else c

/-- What happens. -/
inductive PickerEvent : Type where
  | refreshContacts
  /-- a group or a broadcast is to be made: the list is emptied and refreshed -/
  | newGroup
  /-- the contacts of the device are there -/
  | contactsRead
  /-- the lookup with this number in the list answers -/
  | answer (i : ℕ)
  deriving DecidableEq, Repr

/-- What an event does. -/
def step (c : CreateGroupController) : PickerEvent → CreateGroupController
  | .refreshContacts => { c with reading := c.reading + 1 }
  | .newGroup => { c with reading := c.reading + 1, contactList := [] }
  | .contactsRead =>
    if 0 < c.reading then getFirebaseContact d { c with reading := c.reading - 1 } else c
  | .answer i =>
    match c.lookups[i]? with
    | some phone => found d { c with lookups := c.lookups.eraseIdx i } phone
    | none => c

/-- The controller after the events. -/
def run (es : List PickerEvent) : CreateGroupController := es.foldl (step d) {}

/-- Nothing is under way. -/
def CreateGroupController.Settled (c : CreateGroupController) : Prop := c.reading = 0 ∧ c.lookups = []

instance (c : CreateGroupController) : Decidable c.Settled :=
  inferInstanceAs (Decidable (c.reading = 0 ∧ c.lookups = []))

/-! ## Who should be listed -/

/-- The documents whose maps are in the list. -/
def CreateGroupController.docs (c : CreateGroupController) : List UserDoc := c.contactList.map (·.doc)

/-- The contact has the number of the user. -/
def Knows (contact : Contact) (doc : UserDoc) : Prop := ∃ phone ∈ contact.phone, doc.phone = some phone

instance (contact : Contact) (doc : UserDoc) : Decidable (Knows contact doc) :=
  inferInstanceAs (Decidable (∃ phone ∈ contact.phone, doc.phone = some phone))

/-- The active users other than the one who is signed in whose numbers contacts have. -/
def expected : List UserDoc := d.users.filter fun doc =>
  doc.isActive = some true ∧ doc.id ≠ some d.userId ∧ ∃ contact ∈ d.contacts, Knows contact doc

/-- The list has each of them once, and nobody else. -/
def CreateGroupController.Right (c : CreateGroupController) : Prop := c.docs.Perm (expected d)

instance (c : CreateGroupController) : Decidable (c.Right d) :=
  inferInstanceAs (Decidable (c.docs.Perm (expected d)))

/-- The numbers that a refresh looks up. -/
def numbers : List String := (d.contacts.filterMap (·.phone)).filter fun phone => d.phone ≠ some phone

/-- Whom a lookup adds: the first user with the number, if that one is active. -/
def hit (phone : String) : Option UserDoc :=
  (d.users.find? (·.phone = some phone)).filter (·.isActive = some true)

/-- The lookups of the user's number find the user. -/
def First (doc : UserDoc) : Prop := d.users.find? (·.phone = doc.phone) = some doc ∧ d.phone ≠ doc.phone

instance (doc : UserDoc) : Decidable (First d doc) :=
  inferInstanceAs (Decidable (d.users.find? (·.phone = doc.phone) = some doc ∧ d.phone ≠ doc.phone))

/-- An active user whose number contacts have: another one is the first with that number, it is not
the number of the one who is signed in, and one contact has it; of the one who is signed in one of
the first two does not hold. -/
def Plain : Prop := ∀ doc ∈ d.users, doc.isActive = some true →
  (∃ contact ∈ d.contacts, Knows contact doc) →
    if doc.id = some d.userId then ¬ First d doc
    else First d doc ∧ d.contacts.countP (fun contact => Knows contact doc) ≤ 1

instance : Decidable (Plain d) := inferInstanceAs (Decidable (∀ doc ∈ d.users, doc.isActive = some true →
  (∃ contact ∈ d.contacts, Knows contact doc) →
    if doc.id = some d.userId then ¬ First d doc
    else First d doc ∧ d.contacts.countP (fun contact => Knows contact doc) ≤ 1))

/-! ## What a refresh does -/

section Run

variable {d} {c : CreateGroupController} {es es' : List PickerEvent} {phone : String} {doc : UserDoc}

/-- The maps of the list have been made before. -/
def CreateGroupController.Made (c : CreateGroupController) : Prop :=
  ∀ map ∈ c.contactList, map.ref < c.nextRef

theorem lookUp_eq (contact : Contact) (hlist : c.contactList = []) : lookUp d c contact =
    { c with lookups := c.lookups ++ contact.phone.toList.filter fun phone => d.phone ≠ some phone } := by
  rw [lookUp]
  split
  · next hphones => simp [Contact.phone, hphones]
  · next number numbers hphones =>
    split
    · next hne => simp [Contact.phone, hphones, hne, hlist]
    · next heq => simp [Contact.phone, hphones, heq]

/-- A refresh empties the list and looks up every number. -/
theorem getFirebaseContact_eq : getFirebaseContact d c =
    { c with contactList := [], lookups := c.lookups ++ numbers d } := by
  have hcontacts (contacts : List Contact) (c : CreateGroupController) (hlist : c.contactList = []) :
      contacts.foldl (lookUp d) c = { c with
        lookups := c.lookups ++
          (contacts.filterMap (·.phone)).filter fun phone => d.phone ≠ some phone } := by
    induction contacts generalizing c with
    | nil => simp
    | cons contact contacts ih =>
      have hphone : (contact :: contacts).filterMap (·.phone) =
          contact.phone.toList ++ contacts.filterMap (·.phone) := by
        cases hphone : contact.phone <;> simp [hphone]
      rw [List.foldl_cons, ih _ (by rw [lookUp_eq contact hlist]; exact hlist), lookUp_eq contact hlist,
        hphone, List.filter_append, List.append_assoc]
  exact hcontacts d.contacts _ rfl

/-- What a lookup finds is added at the end, whatever is in the list: the test that is meant to keep
out what is there already compares objects and never holds. -/
theorem found_eq (d : Device) (phone : String) (hc : c.Made) : (found d c phone).Made ∧
    (found d c phone).docs = c.docs ++ (hit d phone).toList ∧
    (found d c phone).lookups = c.lookups ∧ (found d c phone).reading = c.reading := by
  have hkept (h : hit d phone = none) : c.Made ∧ c.docs = c.docs ++ (hit d phone).toList ∧
      c.lookups = c.lookups ∧ c.reading = c.reading := by
    rw [h]
    exact ⟨hc, (List.append_nil _).symm, rfl, rfl⟩
  have hfirst : d.users.find? (·.phone = some phone) =
      (d.users.filter (·.phone = some phone)).head? := List.head?_filter.symm
  rw [found]
  split
  · next hnone =>
    refine hkept ?_
    rw [hit, hfirst, hnone]
    rfl
  · next doc docs hsome =>
    rw [hsome] at hfirst
    split
    · next hactive =>
      have hhit : hit d phone = some doc := by
        rw [hit, hfirst]
        simp [hactive]
      -- the map is a new object, which `contains` does not find in the list
      have hnew : (c.contactList.any (·.ref == c.nextRef)) = false := by
        rw [List.any_eq_false]
        intro map hmap heq
        exact (hc map hmap).ne (beq_iff_eq.mp heq)
      rw [hhit]
      simp only [hnew]
      refine ⟨fun map hmap => ?_, List.map_append, rfl, rfl⟩
      obtain hmap | hmap := List.mem_append.mp hmap
      · exact (hc map hmap).trans (Nat.lt_add_of_pos_right Nat.two_pos)
      · rw [List.mem_singleton.mp hmap]
        exact Nat.lt_succ_self _
    · next hactive =>
      -- somebody who is not active is not added
      refine hkept ?_
      rw [hit, hfirst]
      simp [hactive]

/-- What is listed, and what the lookups that are under way will add. -/
def CreateGroupController.total (d : Device) (c : CreateGroupController) : List UserDoc :=
  c.docs ++ c.lookups.filterMap (hit d)

/-- One event keeps the list: a lookup adds a contact only when its answer comes, and a new reading
of the contacts begins with an empty list. -/
theorem made_step {e : PickerEvent} (hc : c.Made) : (step d c e).Made := by
  cases e with
  | refreshContacts => exact hc
  | newGroup => exact fun _ h => absurd h List.not_mem_nil
  | contactsRead =>
    rw [step]
    split
    · rw [getFirebaseContact_eq]
      exact fun _ h => absurd h List.not_mem_nil
    · exact hc
  | answer i =>
    rw [step]
    split
    · exact (found_eq _ _ (c := { c with lookups := c.lookups.eraseIdx i }) hc).1
    · exact hc

theorem made_run : (run d es).Made := by
  induction es using List.reverseRecOn with
  | nil => exact fun _ h => absurd h List.not_mem_nil
  | append_singleton es e ih =>
    rw [run, List.foldl_append]
    exact made_step ih

/-- An answer adds what it should have added: the documents in the list and those still to be found
are the same, in some order, before and after. -/
theorem total_answer (hc : c.Made) (i : ℕ) :
    ((step d c (.answer i)).total d).Perm (c.total d) ∧
      (step d c (.answer i)).reading = c.reading := by
  rw [step]
  split
  · next phone hphone =>
    obtain ⟨hi, rfl⟩ := List.getElem?_eq_some_iff.mp hphone
    obtain ⟨-, hdocs, hlookups, hreading⟩ :=
      found_eq d c.lookups[i] (c := { c with lookups := c.lookups.eraseIdx i }) hc
    refine ⟨?_, hreading⟩
    have hperm : (c.lookups[i] :: c.lookups.eraseIdx i).Perm c.lookups :=
      List.getElem_cons_eraseIdx_perm hi
    have hadded : (hit d c.lookups[i]).toList ++ (c.lookups.eraseIdx i).filterMap (hit d) =
        (c.lookups[i] :: c.lookups.eraseIdx i).filterMap (hit d) := by
      cases h : hit d c.lookups[i] <;> simp [h]
    rw [CreateGroupController.total, hdocs, hlookups, List.append_assoc, hadded]
    exact (hperm.filterMap _).append_left _
  · exact ⟨.refl _, rfl⟩

/-- Whoever waits for the contacts waits until they are there. -/
theorem reading_foldl (hc : c.Made) (hlast : .contactsRead ∉ es) :
    c.reading ≤ (es.foldl (step d) c).reading := by
  induction es generalizing c with
  | nil => exact Nat.le_refl _
  | cons e es ih =>
    have hrest := ih (made_step (d := d) (e := e) hc) fun h => hlast (List.mem_cons_of_mem _ h)
    refine Nat.le_trans ?_ hrest
    cases e with
    | refreshContacts => exact Nat.le_succ _
    | newGroup => exact Nat.le_succ _
    | contactsRead => exact absurd (List.mem_cons_self ..) hlast
    | answer i => exact (total_answer hc i).2.ge

/-- **After the last refresh** the list comes to hold what was to be added then. -/
theorem total_foldl (hc : c.Made) (hlast : .contactsRead ∉ es)
    (hsettled : (es.foldl (step d) c).Settled) :
    (es.foldl (step d) c).docs.Perm (c.total d) := by
  induction es generalizing c with
  | nil =>
    have hlookups : c.lookups = [] := hsettled.2
    rw [CreateGroupController.total, hlookups]
    exact .of_eq (List.append_nil _).symm
  | cons e es ih =>
    have hlast' : .contactsRead ∉ es := fun h => hlast (List.mem_cons_of_mem _ h)
    have hmade : (step d c e).Made := made_step hc
    -- who waits for the contacts would wait still
    have hwaits (h : 0 < (step d c e).reading) : False := by
      have hle := reading_foldl (d := d) hmade hlast'
      have hzero : (es.foldl (step d) (step d c e)).reading = 0 := hsettled.1
      omega
    cases e with
    | refreshContacts => exact (hwaits (Nat.succ_pos _)).elim
    | newGroup => exact (hwaits (Nat.succ_pos _)).elim
    | contactsRead => exact absurd (List.mem_cons_self ..) hlast
    | answer i => exact (ih hmade hlast' hsettled).trans (total_answer hc i).1

/-- Only the numbers of the contacts are looked up. -/
theorem lookups_run : ∀ phone ∈ (run d es).lookups, phone ∈ numbers d := by
  induction es using List.reverseRecOn with
  | nil => exact fun _ h => absurd h List.not_mem_nil
  | append_singleton es e ih =>
    have hrun : run d (es ++ [e]) = step d (run d es) e := by
      rw [run, List.foldl_append]
      rfl
    rw [hrun]
    cases e with
    | refreshContacts => exact ih
    | newGroup => exact ih
    | contactsRead =>
      rw [step]
      split
      · rw [getFirebaseContact_eq]
        exact List.forall_mem_append.mpr ⟨ih, fun _ h => h⟩
      · exact ih
    | answer i =>
      rw [step]
      split
      · have hfound := found_eq d ‹String›
          (c := { run d es with lookups := (run d es).lookups.eraseIdx i }) made_run
        rw [hfound.2.2.1]
        exact fun phone h => ih phone (List.mem_of_mem_eraseIdx h)
      · exact ih

/-- **A settled list** holds what the last refresh has found, and what the lookups have that were
under way when it emptied the list. -/
theorem docs_run (hread : 0 < (run d es).reading) (hlast : .contactsRead ∉ es')
    (hsettled : (run d (es ++ .contactsRead :: es')).Settled) :
    (run d (es ++ .contactsRead :: es')).docs.Perm
      (((run d es).lookups ++ numbers d).filterMap (hit d)) := by
  have hrun : run d (es ++ .contactsRead :: es') = es'.foldl (step d) (step d (run d es) .contactsRead) := by
    rw [run, List.foldl_append]
    rfl
  rw [hrun] at hsettled ⊢
  have hdocs := total_foldl (made_step made_run) hlast hsettled
  rw [step, if_pos hread, getFirebaseContact_eq] at hdocs ⊢
  exact hdocs

/-! ## Counting -/

theorem hit_eq_some : hit d phone = some doc ↔
    doc.isActive = some true ∧ doc.phone = some phone ∧ d.users.find? (·.phone = doc.phone) = some doc := by
  rw [hit, Option.filter_eq_some_iff, decide_eq_true_iff]
  constructor
  · rintro ⟨hfind, hactive⟩
    have hphone : doc.phone = some phone := by simpa using List.find?_some hfind
    exact ⟨hactive, hphone, hphone ▸ hfind⟩
  · rintro ⟨hactive, hphone, hfind⟩
    exact ⟨hphone ▸ hfind, hactive⟩

/-- How often a refresh adds a user: once for each contact that knows the number, if the user is
active and the first with the number. -/
theorem count_numbers : ((numbers d).filterMap (hit d)).count doc =
    if doc.isActive = some true ∧ First d doc then
      d.contacts.countP (fun contact => Knows contact doc) else 0 := by
  have hcount : ((numbers d).filterMap (hit d)).count doc = d.contacts.countP fun contact =>
      ∃ phone ∈ contact.phone, hit d phone = some doc ∧ d.phone ≠ some phone := by
    rw [List.count_filterMap, numbers, List.countP_filter, List.countP_filterMap]
    refine List.countP_congr fun contact _ => ?_
    cases contact.phone <;> simp
  have hphone (phone : String) : hit d phone = some doc ∧ d.phone ≠ some phone ↔
      doc.phone = some phone ∧ doc.isActive = some true ∧ First d doc := by
    rw [hit_eq_some, First]
    constructor
    · rintro ⟨⟨hactive, hphone, hfind⟩, hne⟩
      exact ⟨hphone, hactive, hfind, hphone ▸ hne⟩
    · rintro ⟨hphone, hactive, hfind, hne⟩
      exact ⟨⟨hactive, hphone, hfind⟩, hphone ▸ hne⟩
  rw [hcount]
  simp only [hphone]
  split
  · next h => simp [Knows, h]
  · next h => simp [h]

/-- How often a user should be listed. -/
theorem count_expected : (expected d).count doc =
    if doc ∈ d.users ∧ doc.isActive = some true ∧ doc.id ≠ some d.userId ∧
      ∃ contact ∈ d.contacts, Knows contact doc then 1 else 0 := by
  have hnodup : (expected d).Nodup := (d.nodup.of_map _).filter _
  rw [hnodup.count]
  simp [expected]

/-- A user whom a lookup adds is one whom a refresh adds. -/
theorem count_numbers_pos (hphone : phone ∈ numbers d) (hhit : hit d phone = some doc) :
    0 < ((numbers d).filterMap (hit d)).count doc :=
  List.count_pos_iff.mpr (List.mem_filterMap.mpr ⟨phone, hphone, hhit⟩)

/-- A refresh finds each user once if and only if the users are plain. -/
theorem count_iff_plain : (∀ doc, ((numbers d).filterMap (hit d)).count doc = (expected d).count doc) ↔
    Plain d := by
  constructor
  · intro h doc hmem hactive hknown
    have hpos : 0 < d.contacts.countP fun contact => Knows contact doc :=
      List.countP_pos_iff.mpr (by simpa using hknown)
    have hdoc := h doc
    rw [count_numbers, count_expected] at hdoc
    split
    · next hown =>
      -- the user's own document would be found, but is not expected
      intro hfirst
      rw [if_pos ⟨hactive, hfirst⟩, if_neg fun h => h.2.2.1 hown] at hdoc
      exact hpos.ne' hdoc
    · next hother =>
      rw [if_pos (c := doc ∈ d.users ∧ _) ⟨hmem, hactive, hother, hknown⟩] at hdoc
      split at hdoc
      · next hboth => exact ⟨hboth.2, hdoc.le⟩
      · exact absurd hdoc Nat.zero_ne_one
  · intro h doc
    rw [count_numbers, count_expected]
    by_cases hall : doc ∈ d.users ∧ doc.isActive = some true ∧ ∃ contact ∈ d.contacts, Knows contact doc
    · obtain ⟨hmem, hactive, hknown⟩ := hall
      have hpos : 0 < d.contacts.countP fun contact => Knows contact doc :=
        List.countP_pos_iff.mpr (by simpa using hknown)
      have hplain := h doc hmem hactive hknown
      split at hplain
      · next hown => rw [if_neg fun h => hplain h.2, if_neg fun h => h.2.2.1 hown]
      · next hother =>
        rw [if_pos ⟨hactive, hplain.1⟩, if_pos ⟨hmem, hactive, hother, hknown⟩]
        exact Nat.le_antisymm hplain.2 hpos
    · rw [if_neg (c := doc ∈ d.users ∧ _) fun h => hall ⟨h.1, h.2.1, h.2.2.2⟩]
      split
      · next hfirst =>
        have hmem : doc ∈ d.users := List.mem_of_find?_eq_some hfirst.2.1
        rw [List.countP_eq_zero]
        intro contact hcontact hknows
        exact hall ⟨hmem, hfirst.1, contact, hcontact, of_decide_eq_true hknows⟩
      · rfl

/-- **The picker lists each user once**, after a run with a last refresh, if and only if the users are
plain and no lookup that finds somebody was under way when that refresh emptied the list. -/
theorem picker_iff (hread : 0 < (run d es).reading) (hlast : .contactsRead ∉ es')
    (hsettled : (run d (es ++ .contactsRead :: es')).Settled) :
    (run d (es ++ .contactsRead :: es')).Right d ↔
      Plain d ∧ ∀ phone ∈ (run d es).lookups, hit d phone = none := by
  have hdocs := docs_run hread hlast hsettled
  have hcount (doc : UserDoc) : (run d (es ++ .contactsRead :: es')).docs.count doc =
      ((run d es).lookups.filterMap (hit d)).count doc + ((numbers d).filterMap (hit d)).count doc := by
    rw [hdocs.count_eq, List.filterMap_append, List.count_append]
  have hnone : (∀ phone ∈ (run d es).lookups, hit d phone = none) ↔
      (run d es).lookups.filterMap (hit d) = [] := List.filterMap_eq_nil_iff.symm
  rw [CreateGroupController.Right, List.perm_iff_count, hnone, ← count_iff_plain]
  simp only [hcount]
  constructor
  · intro h
    have hstale : (run d es).lookups.filterMap (hit d) = [] := by
      refine hnone.mp fun phone hphone => ?_
      -- somebody who is found twice is listed twice
      by_contra hsome
      obtain ⟨doc, hhit⟩ := Option.ne_none_iff_exists'.mp hsome
      have hstale : 0 < ((run d es).lookups.filterMap (hit d)).count doc :=
        List.count_pos_iff.mpr (List.mem_filterMap.mpr ⟨phone, hphone, hhit⟩)
      have hnew := count_numbers_pos (lookups_run phone hphone) hhit
      have hdoc := h doc
      rw [count_expected] at hdoc
      split at hdoc <;> omega
    refine ⟨fun doc => ?_, hstale⟩
    have hdoc := h doc
    rw [hstale] at hdoc
    rwa [List.count_nil, Nat.zero_add] at hdoc
  · rintro ⟨hplain, hstale⟩ doc
    rw [hstale, List.count_nil, Nat.zero_add]
    exact hplain doc

end Run

/-- Bob, whose number two contacts have. -/
def twice : Device where
  users := [⟨"b", some "bob", some "5551234", some true⟩]
  nodup := by decide
  contacts := [⟨"Bob", ["5551234"], none⟩, ⟨"Bobby", ["5551234"], none⟩]
  userId := "ann"
  phone := some "5550000"

theorem picker_iff_twice :
    (run twice ([.refreshContacts] ++ .contactsRead :: [.answer 0, .answer 0])).Right twice ↔
      Plain twice ∧ ∀ phone ∈ (run twice [.refreshContacts]).lookups, hit twice phone = none :=
  picker_iff (by decide) (by decide) (by decide)

/-- Bob is listed for each of the two contacts. -/
theorem bob_twice : ¬ ∀ (d : Device) (es es' : List PickerEvent), 0 < (run d es).reading →
    .contactsRead ∉ es' → (run d (es ++ .contactsRead :: es')).Settled →
      (run d (es ++ .contactsRead :: es')).Right d := by
  intro h
  have htwice := h twice [.refreshContacts] [.answer 0, .answer 0] (by decide) (by decide) (by decide)
  exact absurd htwice (by decide)

end FlutterTheme.GroupContacts
