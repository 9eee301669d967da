import FlutterTheme.Group
import FlutterTheme.Toggle

/-!
# Selecting contacts

A tap on a contact, on the screen that creates a group or a broadcast, selects it, or takes it out
if a contact with its phone number is selected.

* `entries_tap` — a tap toggles the maps of the selected contacts by phone number.
* `selection_toggled` — which contacts are selected after a run of taps, with which data, and in
  which order.
-/

namespace FlutterTheme.Selection

open EventLoop Toggle

/-! ## The system -/

/-- The screen with the controller `g`, of which the contacts are tapped. -/
def selecting (g : ℕ) : System World Scope UserData where
  scope _ _ := .idle
  body := selectUserTap g
  enabled _ _ := True

/-- The map that `selectUserTap` makes of a user. -/
def tapData (value : UserData) : SelectedContact where
  id := value.id
  name := value.name
  phone := value.phone
  image := value.image

/-- What is tapped at an event. -/
def tapped : Event UserData → Option SelectedContact
  | .call value _ => some (tapData value)
  | .resume _ _ => none

/-- The selected contacts. -/
def selected (g : ℕ) (w : World) : List SelectedContact :=
  (w.createCtrl.get g).entries (w.createCtrl.get g).selectedContact

/-- What is selected after the taps. -/
structure Toggled (taps contacts : List SelectedContact) : Prop where
  /-- the phone numbers are distinct -/
  nodup : (contacts.map (·.phone)).Nodup
  /-- those are selected that were tapped an odd number of times -/
  odd : ∀ phone, phone ∈ contacts.map (·.phone) ↔ Odd (times (·.phone) phone taps)
  /-- with the data of the last tap -/
  last : ∀ contact ∈ contacts, (taps.filter (·.phone = contact.phone)).getLast? = some contact
  /-- in the order of these taps -/
  order : contacts.Sublist (lasts (·.phone) taps)

theorem toggled_chosen (taps : List SelectedContact) : Toggled taps (chosen (·.phone) taps) where
  nodup := nodup_chosen
  odd _ := mem_map_chosen
  last _ h := getLast_of_mem_lasts (List.mem_of_mem_filter h)
  order := List.filter_sublist

/-! ## One tap -/

/-- The references to the selected contacts are ones to objects. -/
def Valid (s : CreateGroupController) : Prop := ∀ e ∈ s.selectedContact, e < s.contacts.size

variable {s : CreateGroupController} {value : UserData} {g : ℕ} {w : World}

theorem valid_tap (h : Valid s) : Valid (s.tap value) := by
  unfold CreateGroupController.tap
  split
  · exact fun e he => h e (List.mem_of_mem_filter he)
  · intro e he
    rcases List.mem_append.mp he with he | he
    · exact Nat.lt_succ_of_lt (h e he)
    · obtain rfl := List.mem_singleton.mp he
      exact Nat.lt_succ_self _

/-- **A tap** toggles the selected contacts: it takes out the one with the same phone number, or
adds one with the data tapped at the end. -/
theorem entries_tap (h : Valid s) :
    (s.tap value).entries (s.tap value).selectedContact =
      toggle (·.phone) (s.entries s.selectedContact) (tapData value) := by
  have hany : (s.entries s.selectedContact).any (·.phone = (tapData value).phone) =
      s.selectedContact.any fun file => (s.contacts.get file).phone = value.phone := List.any_map
  by_cases hexists : (s.selectedContact.any fun file =>
      (s.contacts.get file).phone = value.phone) = true
  · rw [toggle, if_pos (hany.trans hexists), CreateGroupController.tap, if_pos hexists,
      CreateGroupController.entries, CreateGroupController.entries, List.filter_map]
    rfl
  · rw [toggle, if_neg (mt hany.symm.trans hexists), CreateGroupController.tap, if_neg hexists]
    have hold : ∀ e ∈ s.selectedContact,
        (s.contacts.alloc (tapData value)).get e = s.contacts.get e := fun e he => by
      rw [Heap.get_alloc, if_neg (Nat.ne_of_lt (h e he))]
    have hnew : (s.contacts.alloc (tapData value)).get s.contacts.size = tapData value := by
      rw [Heap.get_alloc, if_pos rfl]
    calc (s.selectedContact ++ [s.contacts.size]).map (s.contacts.alloc (tapData value)).get
        = s.selectedContact.map (s.contacts.alloc (tapData value)).get ++ [tapData value] := by
          rw [List.map_append, List.map_singleton, hnew]
      _ = s.entries s.selectedContact ++ [tapData value] := by
          rw [List.map_congr_left hold, CreateGroupController.entries]

/-! ## Runs -/

/-- What holds after the taps. -/
structure Selects (g : ℕ) (taps : List SelectedContact) (c : Config World Scope) : Prop where
  threads : c.threads = []
  valid : Valid (c.world.createCtrl.get g)
  selected : selected g c.world = chosen (·.phone) taps

/-- One event. -/
theorem selects_apply {taps : List SelectedContact} {c : Config World Scope} {e : Event UserData}
    (h : Selects g taps c) : Selects g (taps ++ (tapped e).toList) ((selecting g).apply c e) := by
  cases e with
  | call value ticks =>
    have hget : ((selecting g).apply c (.call value ticks)).world.createCtrl.get g =
        (c.world.createCtrl.get g).tap value := by
      change (c.world.createCtrl.modify g (·.tap value)).get g = _
      rw [Heap.get_modify, if_pos rfl]
    refine ⟨?_, ?_, ?_⟩
    · exact (List.append_nil _).trans h.threads
    · rw [hget]
      exact valid_tap h.valid
    · have hselected := h.selected
      rw [Selection.selected] at hselected
      rw [Selection.selected, hget, entries_tap h.valid, hselected, toggle_chosen]
      rfl
  | resume i ticks =>
    have hnone : c.threads[i]? = none := by rw [h.threads, List.getElem?_nil]
    rw [System.apply_resume_none hnone, tapped, Option.toList_none, List.append_nil]
    exact h

/-- A run. -/
theorem selects_run (hempty : (w.createCtrl.get g).selectedContact = [])
    {es : List (Event UserData)} {c : Config World Scope}
    (h : (selecting g).Run (selecting g).admits { world := w } es c) :
    Selects g (es.filterMap tapped) c := by
  induction h with
  | nil =>
    refine ⟨rfl, ?_, ?_⟩
    · intro e he
      rw [hempty] at he
      exact absurd he List.not_mem_nil
    · rw [Selection.selected, hempty]
      rfl
  | snoc h e he ih =>
    have hlast : ([e]).filterMap tapped = (tapped e).toList := by
      cases e <;> rfl
    rw [List.filterMap_append, hlast]
    exact selects_apply ih

/-- **Selection toggling.** After every run of taps, starting with nothing selected, the selected
contacts have distinct phone numbers, which are those that were tapped an odd number of times, and
each has the data of the last tap on its number, in the order of these taps. -/
theorem selection_toggled (hempty : (w.createCtrl.get g).selectedContact = [])
    {es : List (Event UserData)} {c : Config World Scope}
    (h : (selecting g).Run (selecting g).admits { world := w } es c) :
    Toggled (es.filterMap tapped) (selected g c.world) := by
  rw [(selects_run hempty h).selected]
  exact toggled_chosen _

/-- Alice, Bob under another name, and Alice once more. -/
def taps : List (Event UserData) :=
  [⟨"a", "Alice", "1", ""⟩, ⟨"b", "Bob", "2", ""⟩, ⟨"a", "Alice", "1", ""⟩,
    ⟨"a'", "Alicia", "1", ""⟩].map fun value => .call value fun _ => ⟨0, 0, false⟩

/-- The contacts are in the order of the last taps on them. -/
theorem selection_toggled_taps :
    Toggled (taps.filterMap tapped)
      (selected 0 ((selecting 0).exec { world := World.initial default } taps).world) :=
  selection_toggled rfl (System.run_exec ⟨trivial, trivial, trivial, trivial, trivial⟩)

end FlutterTheme.Selection
