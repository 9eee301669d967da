import FlutterTheme.Attachments
import FlutterTheme.History

/-!
# The text field of a chat

A `TextEditingController` holds a text and the selection in it, and tells its listeners when one of
the two has changed. `ChatController.setTyping`, which is called at every change that the user makes,
adds one more listener each time; each of them says in the user document that the user is typing.

* `handle` — what an event does to the text field, and the changes it consists of.
* `oneWrite_iff` — when every change is written to the user document once at most, and `typing` says
  whether there is a text.
-/

namespace FlutterTheme

/-- The value of a `TextEditingController`: the text, and where the selection is. -/
structure TextEditingValue where
  text : String := ""
  selection : ℤ := -1
  deriving DecidableEq, Repr

/-- What `TextEditingController.clear` sets. -/
def TextEditingValue.cleared : TextEditingValue := { selection := 0 }

end FlutterTheme

namespace FlutterTheme.TextField

open Attachments History

/-! ## The controller -/

/-- What a listener writes to the user document: `typing...` or `Online`. -/
inductive PresenceWrite : Type where
  | setTyping
  | setIsActive
  deriving DecidableEq, Repr

/-- `ChatController`: the value of `textEditingController`, how many listeners `setTyping` has added
to it, and `typing`. -/
structure ChatController where
  value : TextEditingValue := {}
  listeners : ℕ := 0
  typing : Bool := false
  deriving DecidableEq, Repr

/-- A change of the value: the texts before and after, `typing` before, and what is written. -/
structure Change where
  before : String
  after : String
  typing : Bool
  writes : List PresenceWrite
  deriving DecidableEq, Repr

/-- The listener that `ChatController.setTyping` adds. -/
def listener (c : ChatController) : ChatController × List PresenceWrite :=
  if c.value.text ≠ "" then ({ c with typing := true }, [.setTyping])
  else if c.typing = true then ({ c with typing := false }, [.setIsActive])
  else (c, [])

/-- So many listeners, one after the other. -/
def notifyListeners : ℕ → ChatController → ChatController × List PresenceWrite
  | 0, c => (c, [])
  | n + 1, c =>
    let (c, writes) := listener c
    let (c, writes') := notifyListeners n c
    (c, writes ++ writes')

/-- The value is set; where it is the same as before nobody is told. -/
def setValue (c : ChatController) (value : TextEditingValue) : ChatController × List Change :=
  if c.value = value then (c, [])
  else
    let (c', writes) := notifyListeners c.listeners { c with value := value }
    (c', [⟨c.value.text, value.text, c.typing, writes⟩])

/-- `ChatController.setTyping`. -/
def setTyping (c : ChatController) : ChatController := { c with listeners := c.listeners + 1 }

/-- What `onSendMessage` does to the text field. -/
def onSendMessage (c : ChatController) (content : String) : ChatController × List Change :=
  if isBlank content then (c, []) else setValue c .cleared

/-- `onChanged` of `InputBox`. -/
def onChanged (c : ChatController) (val : String) : ChatController × List Change :=
  if Attachments.contains val ".gif" then
    let (c, changes) := onSendMessage c val
    let (c, changes') := setValue c .cleared
    (setTyping c, changes ++ changes')
  else (setTyping c, [])

/-- What happens to the text field. -/
inductive FieldEvent : Type where
  /-- the user changes the text or moves the selection -/
  | edit (value : TextEditingValue)
  | onSendMessage (content : String)
  /-- a message has been saved: `textEditingController.text = ""` -/
  | saved
  /-- the app comes to the foreground -/
  | resumed
  deriving DecidableEq, Repr

/-- What an event does. `onChanged` is only called where the text is another one. -/
def handle (c : ChatController) : FieldEvent → ChatController × List Change
  | .edit value =>
    let (c', changes) := setValue c value
    if c.value.text = value.text then (c', changes)
    else
      let (c', changes') := onChanged c' c'.value.text
      (c', changes ++ changes')
  | .onSendMessage content => onSendMessage c content
  | .saved => setValue c {}
  | .resumed => (setTyping c, [])

/-- The text field after an event. -/
def step (c : ChatController) (e : FieldEvent) : ChatController := (handle c e).1

/-- The text field when the screen has opened: `setTyping` has been called once. -/
def opened : ChatController := setTyping {}

/-! ## One write for one change -/

/-- What a change should be written as. -/
def Change.expected (change : Change) : List PresenceWrite :=
  if change.after ≠ "" then [.setTyping] else if change.typing = true then [.setIsActive] else []

/-- `typing` says whether there is a text. -/
def ChatController.Tidy (c : ChatController) : Prop := c.typing = true ↔ c.value.text ≠ ""

instance (c : ChatController) : Decidable c.Tidy :=
  inferInstanceAs (Decidable (c.typing = true ↔ c.value.text ≠ ""))

/-- Somebody listens, and `typing` says whether there is a text. -/
structure ChatController.Ready (c : ChatController) : Prop where
  listening : 0 < c.listeners
  tidy : c.Tidy

/-- Every change of the text at the event is written once at most, and `typing` is right after it. -/
def OneWrite (c : ChatController) (e : FieldEvent) : Prop :=
  (∀ change ∈ (handle c e).2, change.before ≠ change.after →
    change.writes.Sublist change.expected) ∧ (step c e).Tidy

instance (c : ChatController) (e : FieldEvent) : Decidable (OneWrite c e) :=
  inferInstanceAs (Decidable ((∀ change ∈ (handle c e).2, change.before ≠ change.after →
    change.writes.Sublist change.expected) ∧ (step c e).Tidy))

/-- The user types a text only while there is but one listener. -/
def First (c : ChatController) : FieldEvent → Prop
  | .edit value => c.value.text ≠ value.text → value.text ≠ "" → c.listeners ≤ 1
  | .onSendMessage _ | .saved | .resumed => True

section Changes

variable {c : ChatController} {value : TextEditingValue} {e : FieldEvent} {es : List FieldEvent}

/-- While there is a text, every listener writes. -/
theorem notifyListeners_of_ne_empty (n : ℕ) (h : c.value.text ≠ "") :
    notifyListeners n c =
      ({ c with typing := c.typing || decide (0 < n) }, List.replicate n .setTyping) := by
  induction n generalizing c with
  | zero => simp [notifyListeners]
  | succ n ih =>
    have hrest := ih (c := { c with typing := true }) h
    rw [notifyListeners, listener, if_pos h]
    simp only [hrest]
    simp [List.replicate_succ]

/-- Where there is none, the first one does. -/
theorem notifyListeners_of_empty (n : ℕ) (h : c.value.text = "") :
    notifyListeners n c = ({ c with typing := c.typing && decide (n = 0) },
      if c.typing = true ∧ n ≠ 0 then [.setIsActive] else []) := by
  induction n generalizing c with
  | zero => simp [notifyListeners]
  | succ n ih =>
    rw [notifyListeners, listener, if_neg (not_not.mpr h)]
    cases htyping : c.typing with
    | true =>
      have hrest := ih (c := { c with typing := false }) h
      rw [if_pos rfl]
      simp [hrest]
    | false =>
      rw [if_neg Bool.false_ne_true]
      simp [ih h, htyping]

theorem setValue_of_ne (h : c.value ≠ value) : setValue c value =
    ((notifyListeners c.listeners { c with value := value }).1,
      [⟨c.value.text, value.text, c.typing,
        (notifyListeners c.listeners { c with value := value }).2⟩]) := by
  rw [setValue, if_neg h]

/-- Being told changes but `typing`. -/
theorem notifyListeners_eq (n : ℕ) : (notifyListeners n c).1 =
    { c with typing := if n = 0 then c.typing else decide (c.value.text ≠ "") } := by
  by_cases h : c.value.text = ""
  · rw [notifyListeners_of_empty n h]
    cases n <;> simp [h]
  · rw [notifyListeners_of_ne_empty n h]
    cases n <;> simp [h]

/-- What is set becomes the value, and `typing` follows it. -/
theorem setValue_eq (h : c.Ready) : (setValue c value).1 =
    { c with value := value, typing := decide (value.text ≠ "") } := by
  by_cases hv : c.value = value
  · subst hv
    have htyping : c.typing = decide (c.value.text ≠ "") := by
      rw [Bool.eq_iff_iff, decide_eq_true_iff]
      exact h.tidy
    rw [setValue, if_pos rfl, ← htyping]
  · rw [setValue_of_ne hv, notifyListeners_eq, if_neg h.listening.ne']

theorem ready_setValue (h : c.Ready) : (setValue c value).1.Ready := by
  rw [setValue_eq h]
  exact ⟨h.listening, decide_eq_true_iff⟩

theorem ready_setTyping (h : c.Ready) : (setTyping c).Ready := ⟨Nat.succ_pos _, h.tidy⟩

theorem ready_onSendMessage {content : String} (h : c.Ready) : (onSendMessage c content).1.Ready := by
  rw [onSendMessage]
  split
  · exact h
  · exact ready_setValue h

theorem ready_onChanged {val : String} (h : c.Ready) : (onChanged c val).1.Ready := by
  rw [onChanged]
  split
  · exact ready_setTyping (ready_setValue (ready_onSendMessage h))
  · exact ready_setTyping h

/-- Every event leaves the controller ready: somebody still listens, and `typing` is right. -/
theorem ready_step (h : c.Ready) : (step c e).Ready := by
  cases e with
  | edit value =>
    rw [step, handle]
    dsimp only
    split
    · exact ready_setValue h
    · exact ready_onChanged (ready_setValue h)
  | onSendMessage content => exact ready_onSendMessage h
  | saved => exact ready_setValue h
  | resumed => exact ready_setTyping h

/-- A change to no text is written once at most. -/
theorem writes_of_empty (hempty : value.text = "") :
    ∀ change ∈ (setValue c value).2, change.writes.Sublist change.expected := by
  intro change hchange
  by_cases hv : c.value = value
  · rw [setValue, if_pos hv] at hchange
    exact absurd hchange List.not_mem_nil
  · rw [setValue_of_ne hv, List.mem_singleton] at hchange
    subst hchange
    rw [Change.expected, if_neg (not_not.mpr hempty), notifyListeners_of_empty _ hempty]
    dsimp only
    split
    · next hboth => rw [if_pos hboth.1]
    · exact List.nil_sublist _

/-- A change to a text is written as often as there are listeners. -/
theorem writes_iff (hne : value.text ≠ "") :
    (∀ change ∈ (setValue c value).2, change.before ≠ change.after →
      change.writes.Sublist change.expected) ↔ (c.value.text ≠ value.text → c.listeners ≤ 1) := by
  by_cases hv : c.value = value
  · rw [setValue, if_pos hv]
    refine iff_of_true (fun _ h => absurd h List.not_mem_nil) fun h => ?_
    exact absurd (congrArg TextEditingValue.text hv) h
  · have hsub : (List.replicate c.listeners PresenceWrite.setTyping).Sublist [.setTyping] ↔
        c.listeners ≤ 1 := List.replicate_sublist_replicate _ (n := 1)
    rw [setValue_of_ne hv]
    simp only [List.forall_mem_singleton, Change.expected, if_pos hne,
      notifyListeners_of_ne_empty c.listeners (c := { c with value := value }) hne, hsub]

theorem writes_onSendMessage {content : String} :
    ∀ change ∈ (onSendMessage c content).2, change.writes.Sublist change.expected := by
  rw [onSendMessage]
  split
  · exact fun _ h => absurd h List.not_mem_nil
  · exact writes_of_empty rfl

theorem writes_onChanged {val : String} :
    ∀ change ∈ (onChanged c val).2, change.writes.Sublist change.expected := by
  rw [onChanged]
  split
  · intro change hchange
    obtain hsent | hcleared := List.mem_append.mp hchange
    · exact writes_onSendMessage change hsent
    · exact writes_of_empty rfl change hcleared
  · exact fun _ h => absurd h List.not_mem_nil

/-- What the user types is written as often as there are listeners, and all else once. -/
theorem writes_handle_iff : (∀ change ∈ (handle c e).2, change.before ≠ change.after →
    change.writes.Sublist change.expected) ↔ First c e := by
  cases e with
  | edit value =>
    have hedit : (∀ change ∈ (handle c (.edit value)).2, change.before ≠ change.after →
        change.writes.Sublist change.expected) ↔
        ∀ change ∈ (setValue c value).2, change.before ≠ change.after →
          change.writes.Sublist change.expected := by
      rw [handle]
      dsimp only
      split
      · rfl
      · rw [List.forall_mem_append]
        exact and_iff_left fun change hchange _ => writes_onChanged change hchange
    rw [hedit, First]
    by_cases hempty : value.text = ""
    · refine iff_of_true (fun change hchange _ => ?_) fun _ hne => absurd hempty hne
      exact writes_of_empty hempty change hchange
    · rw [writes_iff hempty, forall_comm]
      exact ⟨fun h _ => h, fun h => h hempty⟩
  | onSendMessage content =>
    exact iff_of_true (fun change h _ => writes_onSendMessage change h) trivial
  | saved => exact iff_of_true (fun change h _ => writes_of_empty rfl change h) trivial
  | resumed => exact iff_of_true (fun _ h => absurd h List.not_mem_nil) trivial

/-- **One change, one write**, and `typing` says whether there is a text, at every event of a screen,
if and only if the user types a text only while there is but one listener. -/
theorem oneWrite_iff : Each step OneWrite opened es ↔ Each step First opened es := by
  have hopened : opened.Ready := ⟨Nat.one_pos, by decide⟩
  refine each_congr (I := ChatController.Ready) (fun c e h => ?_) (fun c e h _ => ready_step h) hopened
  rw [OneWrite, writes_handle_iff]
  exact and_iff_left (ready_step h).tidy

end Changes

/-- The second letter is written twice. -/
theorem typing_written_twice : ¬ ∀ es, Each step OneWrite opened es := by
  intro h
  have hletters := h [.edit { text := "h", selection := 1 }, .edit { text := "hi", selection := 2 }]
  exact absurd hletters (by decide)

end FlutterTheme.TextField
