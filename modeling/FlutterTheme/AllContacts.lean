import FlutterTheme.Attachments
import FlutterTheme.Toggle

/-!
# Paging through all contacts

`AllContactListController` shows the contacts of the device in pages, which a controller of a list
view requests one after the other. `fetchPage` has no use for the key of the page: it clears the list
and appends all contacts, as a last page if they are fewer than a page.

* `storageContact_search` — a search toggles the contacts that match.
* `finishes_iff` — when the last page is reached, and every contact is shown once then.
-/

namespace FlutterTheme.AllContacts

open Toggle

/-! ## The controllers -/

/-- What is documented of a `PagingController`: its items, the key of the next page, null when the
last page has been appended, and what appending does. -/
structure PagingController (σ Contact : Type) where
  itemList : σ → Option (List Contact)
  nextPageKey : σ → Option ℕ
  setItemList : List Contact → σ → σ
  appendPage : List Contact → ℕ → σ → σ
  appendLastPage : List Contact → σ → σ
  itemList_set : ∀ items p, itemList (setItemList items p) = some items
  itemList_append : ∀ items key p,
    itemList (appendPage items key p) = some ((itemList p).getD [] ++ items)
  nextPageKey_append : ∀ items key p, nextPageKey (appendPage items key p) = some key
  itemList_last : ∀ items p,
    itemList (appendLastPage items p) = some ((itemList p).getD [] ++ items)
  nextPageKey_last : ∀ items p, nextPageKey (appendLastPage items p) = none

/-- `AllContactListController`. -/
structure AllContactListController (σ Contact : Type) where
  storageContact : List Contact := []
  allContact : List Contact := []
  isLoading : Bool := true
  pagingController : σ

/-- `pageSize`. -/
def pageSize : ℕ := 20

section Fetching

variable {σ Contact : Type} [DecidableEq Contact] (P : PagingController σ Contact)
  (displayName : Contact → String) (toLowerCase : String → String)

/-- The contact is one of the search. -/
def Matches (search : String) (contact : Contact) : Bool :=
  Attachments.contains (toLowerCase (displayName contact)) search

/-- The body of the loop of a search. -/
def addMatch (search : String) (storageContact : List Contact) (element : Contact) : List Contact :=
  if Matches displayName toLowerCase search element then
    if element ∈ storageContact then storageContact.erase element
    else storageContact ++ [element]
  else storageContact

/-- `fetchPage`, where `getContact` returns the contacts. -/
def fetchPage (contacts : List Contact) (pageKey : ℕ) (search : String)
    (s : AllContactListController σ Contact) : AllContactListController σ Contact :=
  let s := { s with pagingController := P.setItemList [] s.pagingController, storageContact := [] }
  let s :=
    if search ≠ "" then
      { s with
        allContact := contacts
        storageContact := contacts.foldl (addMatch displayName toLowerCase search) s.storageContact }
    else
      { s with
        pagingController := P.setItemList [] s.pagingController
        storageContact := contacts }
  let newItems := s.storageContact
  let pagingController :=
    if newItems.length < pageSize then P.appendLastPage newItems s.pagingController
    else P.appendPage newItems (pageKey + newItems.length) s.pagingController
  { s with pagingController := pagingController, isLoading := false }

/-- The next page is requested, unless the last one has been appended; the listener of `onInit`
fetches it without a search. -/
def request (contacts : List Contact) (s : AllContactListController σ Contact) :
    AllContactListController σ Contact :=
  match P.nextPageKey s.pagingController with
  | some pageKey => fetchPage P displayName toLowerCase contacts pageKey "" s
  | none => s

/-- The controller after a page has been fetched, and so many requests. -/
def fetched (contacts : List Contact) (pageKey : ℕ) (search : String)
    (s : AllContactListController σ Contact) (requests : ℕ) : AllContactListController σ Contact :=
  (request P displayName toLowerCase contacts)^[requests]
    (fetchPage P displayName toLowerCase contacts pageKey search s)

/-- The contacts of the search, all of them without one. -/
def found (search : String) (contacts : List Contact) : List Contact :=
  if search ≠ "" then contacts.filter (Matches displayName toLowerCase search) else contacts

/-- **Paging ends**: after finitely many requests the last page has been appended, and every contact
of the search is shown once, and nothing else. -/
def Finishes (contacts : List Contact) (pageKey : ℕ) (search : String)
    (s : AllContactListController σ Contact) : Prop :=
  ∃ requests items,
    let p := (fetched P displayName toLowerCase contacts pageKey search s requests).pagingController
    P.nextPageKey p = none ∧ P.itemList p = some items ∧
      ∀ contact, items.count contact =
        if contact ∈ found displayName toLowerCase search contacts then 1 else 0

/-! ## What one call shows -/

variable {P displayName toLowerCase} {contacts : List Contact} {pageKey : ℕ} {search : String}
  {s : AllContactListController σ Contact}

variable (displayName toLowerCase) in
/-- What `storageContact` is in the end. -/
def shown (search : String) (contacts : List Contact) : List Contact :=
  if search ≠ "" then contacts.foldl (addMatch displayName toLowerCase search) [] else contacts

/-- A contact that matches is toggled. -/
theorem addMatch_eq_toggle {l : List Contact} (hl : l.Nodup) {element : Contact}
    (h : Matches displayName toLowerCase search element = true) :
    addMatch displayName toLowerCase search l element = toggle id l element := by
  have hany : l.any (fun x => id x = id element) = true ↔ element ∈ l := by
    simp
  rw [addMatch, if_pos h, toggle]
  by_cases hmem : element ∈ l
  · rw [if_pos hmem, if_pos (hany.mpr hmem), hl.erase_eq_filter]
    refine List.filter_congr fun x _ => ?_
    by_cases hx : x = element <;> simp [hx]
  · rw [if_neg hmem, if_neg (mt hany.mp hmem)]

theorem nodup_chosen_id {l : List Contact} : (chosen id l).Nodup := by
  have hkeys : ((chosen id l).map id).Nodup := nodup_chosen
  rwa [List.map_id] at hkeys

/-- **A search** toggles the contacts that match, one after the other. -/
theorem storageContact_search : contacts.foldl (addMatch displayName toLowerCase search) [] =
    chosen id (contacts.filter (Matches displayName toLowerCase search)) := by
  induction contacts using List.reverseRecOn with
  | nil => rfl
  | append_singleton contacts element ih =>
    rw [List.foldl_append, ih, List.foldl_cons, List.foldl_nil, List.filter_append]
    by_cases h : Matches displayName toLowerCase search element = true
    · have hnodup : (chosen id (contacts.filter (Matches displayName toLowerCase search))).Nodup := by
        exact nodup_chosen_id
      rw [addMatch_eq_toggle hnodup h, List.filter_cons_of_pos h, List.filter_nil, toggle_chosen]
    · rw [addMatch, if_neg h, List.filter_cons_of_neg h, List.filter_nil, List.append_nil]

variable (P displayName toLowerCase contacts pageKey search s) in
/-- The list has been cleared before what is found is appended. -/
theorem pagingController_fetchPage : ∃ p, P.itemList p = some [] ∧
    (fetchPage P displayName toLowerCase contacts pageKey search s).pagingController =
      let newItems := shown displayName toLowerCase search contacts
      if newItems.length < pageSize then P.appendLastPage newItems p
      else P.appendPage newItems (pageKey + newItems.length) p := by
  by_cases hsearch : search ≠ ""
  · refine ⟨_, P.itemList_set [] s.pagingController, ?_⟩
    simp only [fetchPage, shown, if_pos hsearch]
  · refine ⟨_, P.itemList_set [] (P.setItemList [] s.pagingController), ?_⟩
    simp only [fetchPage, shown, if_neg hsearch]

/-- What is shown after the call. -/
theorem itemList_fetchPage :
    P.itemList (fetchPage P displayName toLowerCase contacts pageKey search s).pagingController =
      some (shown displayName toLowerCase search contacts) := by
  obtain ⟨p, hclear, heq⟩ :=
    pagingController_fetchPage P displayName toLowerCase contacts pageKey search s
  rw [heq]
  dsimp only
  split
  · rw [P.itemList_last, hclear]
    rfl
  · rw [P.itemList_append, hclear]
    rfl

/-- It is the last page if it is less than a page. -/
theorem nextPageKey_fetchPage :
    P.nextPageKey (fetchPage P displayName toLowerCase contacts pageKey search s).pagingController =
      none ↔ (shown displayName toLowerCase search contacts).length < pageSize := by
  obtain ⟨p, -, heq⟩ :=
    pagingController_fetchPage P displayName toLowerCase contacts pageKey search s
  rw [heq]
  dsimp only
  split
  · next hlt => exact iff_of_true (P.nextPageKey_last ..) hlt
  · next hlt =>
    rw [P.nextPageKey_append]
    exact iff_of_false (Option.some_ne_none _) hlt

/-! ## Requests -/

/-- No page is requested after the last one. -/
theorem fetched_of_last (h : (shown displayName toLowerCase search contacts).length < pageSize) :
    ∀ n, fetched P displayName toLowerCase contacts pageKey search s n =
      fetchPage P displayName toLowerCase contacts pageKey search s
  | 0 => rfl
  | n + 1 => by
    rw [fetched, Function.iterate_succ_apply']
    change request P displayName toLowerCase contacts (fetched ..) = _
    rw [fetched_of_last h n, request, nextPageKey_fetchPage.mpr h]

/-- With a page of contacts there is always another page. -/
theorem nextPageKey_fetched (h : pageSize ≤ contacts.length)
    (h' : pageSize ≤ (shown displayName toLowerCase search contacts).length) :
    ∀ n, P.nextPageKey
      (fetched P displayName toLowerCase contacts pageKey search s n).pagingController ≠ none
  | 0 => mt nextPageKey_fetchPage.mp (Nat.not_lt.mpr h')
  | n + 1 => by
    rw [fetched, Function.iterate_succ_apply']
    change P.nextPageKey (request P displayName toLowerCase contacts
      (fetched P displayName toLowerCase contacts pageKey search s n)).pagingController ≠ none
    rw [request]
    split
    · exact mt nextPageKey_fetchPage.mp (Nat.not_lt.mpr h)
    · next hnone => exact absurd hnone (nextPageKey_fetched h h' n)

/-! ## When paging ends -/

/-- What is chosen by whole entries is there once if it was tapped an odd number of times, and not
at all otherwise. -/
theorem count_chosen {l : List Contact} (c : Contact) :
    (chosen id l).count c = if Odd (l.count c) then 1 else 0 := by
  have htimes : times id c l = l.count c := by
    rw [times, List.count]
    refine List.countP_congr fun x _ => ?_
    simp
  have hmem : c ∈ chosen id l ↔ Odd (l.count c) := by
    rw [← htimes, ← mem_map_chosen, List.map_id]
  split
  · next hodd => exact List.count_eq_one_of_mem nodup_chosen_id (hmem.mpr hodd)
  · next hodd => exact List.count_eq_zero_of_not_mem (mt hmem.mp hodd)

variable (displayName toLowerCase) in
/-- No contact is listed twice; with a search every contact of the search is listed an odd number of
times. -/
def Listed (search : String) (contacts : List Contact) : Prop :=
  if search ≠ "" then ∀ c ∈ found displayName toLowerCase search contacts,
    Odd ((found displayName toLowerCase search contacts).count c)
  else contacts.Nodup

theorem shown_of_search (h : search ≠ "") :
    shown displayName toLowerCase search contacts =
      chosen id (found displayName toLowerCase search contacts) := by
  rw [shown, if_pos h, storageContact_search, found, if_pos h]

variable (displayName toLowerCase contacts) in
theorem shown_of_empty (h : ¬ search ≠ "") :
    shown displayName toLowerCase search contacts = contacts ∧
      found displayName toLowerCase search contacts = contacts :=
  ⟨if_neg h, if_neg h⟩

theorem length_shown_le :
    (shown displayName toLowerCase search contacts).length ≤ contacts.length := by
  by_cases h : search ≠ ""
  · rw [shown_of_search h, found, if_pos h]
    exact ((List.filter_sublist.trans (lasts_sublist _)).trans List.filter_sublist).length_le
  · rw [(shown_of_empty displayName toLowerCase contacts h).1]

/-- Then every contact of the search is shown once. -/
theorem count_shown_iff : (∀ c, (shown displayName toLowerCase search contacts).count c =
      if c ∈ found displayName toLowerCase search contacts then 1 else 0) ↔
    Listed displayName toLowerCase search contacts := by
  by_cases h : search ≠ ""
  · rw [shown_of_search h, Listed, if_pos h]
    constructor
    · intro hcount c hc
      have hone := hcount c
      rw [count_chosen, if_pos hc] at hone
      by_contra hodd
      rw [if_neg hodd] at hone
      exact absurd hone Nat.zero_ne_one
    · intro hodd c
      rw [count_chosen]
      by_cases hc : c ∈ found displayName toLowerCase search contacts
      · rw [if_pos hc, if_pos (hodd c hc)]
      · rw [if_neg hc, List.count_eq_zero_of_not_mem hc, if_neg (by decide)]
  · obtain ⟨hshown, hfound⟩ := shown_of_empty displayName toLowerCase contacts h
    rw [hshown, hfound, Listed, if_neg h, List.nodup_iff_count_eq_one]
    constructor
    · intro hcount c hc
      rw [hcount c, if_pos hc]
    · intro hcount c
      by_cases hc : c ∈ contacts
      · rw [if_pos hc, hcount c hc]
      · rw [if_neg hc, List.count_eq_zero_of_not_mem hc]

/-- Then as many are shown as there are different contacts. -/
theorem length_shown (h : Listed displayName toLowerCase search contacts) :
    (shown displayName toLowerCase search contacts).length =
      (found displayName toLowerCase search contacts).dedup.length := by
  refine List.Perm.length_eq (List.perm_iff_count.mpr fun c => ?_)
  rw [count_shown_iff.mpr h, List.count_dedup]

/-- **Paging ends** with every contact shown once just when they are fewer than a page. -/
theorem finishes_iff : Finishes P displayName toLowerCase contacts pageKey search s ↔
    Listed displayName toLowerCase search contacts ∧
      (found displayName toLowerCase search contacts).dedup.length < pageSize := by
  constructor
  · rintro ⟨n, items, hlast, hitems, hcount⟩
    have hlt : (shown displayName toLowerCase search contacts).length < pageSize := by
      by_contra hge
      have hge' := Nat.not_lt.mp hge
      exact nextPageKey_fetched (hge'.trans length_shown_le) hge' n hlast
    rw [fetched_of_last hlt, itemList_fetchPage] at hitems
    obtain rfl := Option.some.inj hitems
    have hlisted := count_shown_iff.mp hcount
    exact ⟨hlisted, length_shown hlisted ▸ hlt⟩
  · rintro ⟨hlisted, hlt⟩
    rw [← length_shown hlisted] at hlt
    exact ⟨0, _, nextPageKey_fetchPage.mpr hlt, itemList_fetchPage, count_shown_iff.mpr hlisted⟩

end Fetching

/-- The state of a list view: nothing has been appended. -/
structure Paging (Contact : Type) where
  itemList : Option (List Contact) := none
  nextPageKey : Option ℕ := some 0

/-- A controller of that state. -/
def paging (Contact : Type) : PagingController (Paging Contact) Contact where
  itemList := Paging.itemList
  nextPageKey := Paging.nextPageKey
  setItemList items p := { p with itemList := some items }
  appendPage items key p :=
    { itemList := some (p.itemList.getD [] ++ items), nextPageKey := some key }
  appendLastPage items p :=
    { itemList := some (p.itemList.getD [] ++ items), nextPageKey := none }
  itemList_set _ _ := rfl
  itemList_append _ _ _ := rfl
  nextPageKey_append _ _ _ := rfl
  itemList_last _ _ := rfl
  nextPageKey_last _ _ := rfl

/-- **Twenty contacts** are requested forever. -/
theorem twenty_contacts : ¬ ∀ contacts : List ℕ, contacts.Nodup →
    Finishes (paging ℕ) toString id contacts 0 "" { pagingController := {} } := by
  intro h
  obtain ⟨n, items, hlast, -⟩ := h (List.range 20) List.nodup_range
  exact nextPageKey_fetched (by decide) (by decide) n hlast

end FlutterTheme.AllContacts
