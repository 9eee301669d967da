import FlutterTheme.TextField

/-!
# The text field of a group

The text field of a group chat gets one more listener whenever the user has changed its text, and
that listener keeps the text. When it is told of a change it sends the text that it has kept if that
is the address of a gif, and clears the field, which tells all listeners once more.

* `handle_eq` — an event is handled with listeners that are told within listeners that are told.
* `oneGif_iff` — when a gif that is typed is sent once, and no other edit sends one.
-/

namespace FlutterTheme.GroupField

open Attachments History

/-! ## The controller -/

/-- A listener of `textEditingController`: the one of `initState`, or one of `onChanged`. -/
inductive Listener : Type where
  | initState
  | onChanged (val : String)
  deriving DecidableEq, Repr

/-- `GroupChatMessageController`: what its text field is, the messages it has sent, and what it has
written to the `status` of the group, `true` for the notice that the user is typing. -/
structure GroupController where
  value : TextEditingValue := {}
  listeners : List Listener := []
  typing : Bool := false
  messages : List (String × MessageType) := []
  statusWrites : List Bool := []
  deriving DecidableEq, Repr

/-- `groupTypingStatus`. -/
def groupTypingStatus (c : GroupController) (isTyping : Bool) : GroupController :=
  { c with typing := isTyping, statusWrites := c.statusWrites ++ [isTyping] }

/-- What every listener does at its end. -/
def typingStatus (c : GroupController) : GroupController :=
  let c := if c.value.text ≠ "" then groupTypingStatus c true else c
  if c.value.text = "" ∧ c.typing = true then groupTypingStatus c false else c

section Calls

/- what telling the listeners does, `none` where that does not end -/
variable (notify : GroupController → Option GroupController)

/-- The value is set; where it is the same as before nobody is told. -/
def setValue (value : TextEditingValue) (c : GroupController) : Option GroupController :=
  if c.value = value then some c else notify { c with value := value }

/-- `onSendMessage`, up to the message being added. -/
def onSendMessage (content : String) (type : MessageType) (c : GroupController) :
    Option GroupController := do
  let c ← setValue notify .cleared c
  if isBlank content then some c
  else some { c with messages := c.messages ++ [(content, type)] }

/-- What a listener does. -/
def Listener.call : Listener → GroupController → Option GroupController
  | initState, c => some (typingStatus c)
  | onChanged val, c =>
    if Attachments.contains val ".gif" then do
      let c ← onSendMessage notify val .gif c
      let c ← setValue notify .cleared c
      some (typingStatus c)
    else some (typingStatus c)

end Calls

/-- The listeners are told, one after the other, and what they change is told within them, so many
times. A listener that is added meanwhile is not told. -/
def notifyListeners : ℕ → GroupController → Option GroupController
  | 0, _ => none
  | n + 1, c => c.listeners.foldlM (fun c listener => listener.call (notifyListeners n) c) c

/-- What happens to the text field. -/
inductive FieldEvent : Type where
  /-- the user changes the text or moves the selection -/
  | edit (value : TextEditingValue)
  /-- the button that sends the text -/
  | send
  /-- something else is sent: a gif that has been chosen, a file -/
  | onSendMessage (content : String) (type : MessageType)
  deriving DecidableEq, Repr

/-- What an event does. `onChanged` is only called where the text is another one, with the text that
the listeners have left. -/
def handle (n : ℕ) (c : GroupController) : FieldEvent → Option GroupController
  | .edit value => do
    let c' ← setValue (notifyListeners n) value c
    if c.value.text = value.text then some c'
    else some { c' with listeners := c'.listeners ++ [.onChanged c'.value.text] }
  | .send => onSendMessage (notifyListeners n) c.value.text .text c
  | .onSendMessage content type => onSendMessage (notifyListeners n) content type c

/-- The text field after an event. -/
def step (c : GroupController) (e : FieldEvent) : GroupController := (handle 2 c e).getD c

/-- The text field when the screen has opened. -/
def opened : GroupController := { listeners := [.initState] }

/-! ## Every event is handled -/

/-- What a listener sends. -/
def Listener.gif : Listener → List (String × MessageType)
  | initState => []
  | onChanged val => if Attachments.contains val ".gif" then [(val, .gif)] else []

/-- What a listener does when the field is clear. -/
def Listener.quiet (c : GroupController) (listener : Listener) : GroupController :=
  typingStatus { c with messages := c.messages ++ listener.gif }

/-- The field is cleared by a listener, and the others are told. -/
def cleared (c : GroupController) : GroupController :=
  if c.value = .cleared then c
  else c.listeners.foldl Listener.quiet { c with value := .cleared }

/-- What a listener does. -/
def Listener.answer (c : GroupController) (listener : Listener) : GroupController :=
  if listener.gif = [] then typingStatus c else listener.quiet (cleared c)

/-- The value is set, and all listeners are told. -/
def told (value : TextEditingValue) (c : GroupController) : GroupController :=
  if c.value = value then c else c.listeners.foldl Listener.answer { c with value := value }

/-- A message is added. -/
def addMessage (content : String) (type : MessageType) (c : GroupController) : GroupController :=
  if isBlank content then c else { c with messages := c.messages ++ [(content, type)] }

/-- What an event does. -/
def handled (c : GroupController) : FieldEvent → GroupController
  | .edit value =>
    let c' := told value c
    if c.value.text = value.text then c'
    else { c' with listeners := c'.listeners ++ [.onChanged c'.value.text] }
  | .send => addMessage c.value.text .text (told .cleared c)
  | .onSendMessage content type => addMessage content type (told .cleared c)

section Handled

variable {c : GroupController} {e : FieldEvent} {listener : Listener}

theorem typingStatus_value : (typingStatus c).value = c.value := by
  simp only [typingStatus, groupTypingStatus]
  split <;> split <;> rfl

theorem typingStatus_listeners : (typingStatus c).listeners = c.listeners := by
  simp only [typingStatus, groupTypingStatus]
  split <;> split <;> rfl

theorem typingStatus_messages : (typingStatus c).messages = c.messages := by
  simp only [typingStatus, groupTypingStatus]
  split <;> split <;> rfl

/-- A text with `.gif` in it is not blank. -/
theorem not_isBlank {val : String} (h : Attachments.contains val ".gif" = true) : isBlank val = false := by
  rw [Attachments.contains, decide_eq_true_iff] at h
  rw [isBlank, Bool.eq_false_iff]
  intro hall
  have hdot := List.all_eq_true.mp hall '.' (h.subset (by decide))
  exact absurd hdot (by decide)

theorem call_of_cleared {notify : GroupController → Option GroupController}
    (h : c.value = .cleared) : listener.call notify c = some (listener.quiet c) := by
  cases listener with
  | initState => simp [Listener.call, Listener.quiet, Listener.gif]
  | onChanged val =>
    rw [Listener.call]
    split
    · next hgif => simp [onSendMessage, setValue, h, not_isBlank hgif, Listener.quiet, Listener.gif, hgif]
    · next hgif => simp [Listener.quiet, Listener.gif, hgif]

@[simp] theorem quiet_value : (listener.quiet c).value = c.value := typingStatus_value

theorem foldlM_of_cleared {notify : GroupController → Option GroupController}
    (listeners : List Listener) (h : c.value = .cleared) :
    listeners.foldlM (fun c listener => listener.call notify c) c =
      some (listeners.foldl Listener.quiet c) := by
  induction listeners generalizing c with
  | nil => rfl
  | cons listener listeners ih =>
    rw [List.foldlM_cons, call_of_cleared h]
    exact ih (quiet_value.trans h)

theorem foldl_quiet_value (listeners : List Listener) :
    (listeners.foldl Listener.quiet c).value = c.value := by
  induction listeners generalizing c with
  | nil => rfl
  | cons listener listeners ih => exact ih.trans quiet_value

theorem cleared_value : (cleared c).value = .cleared := by
  rw [cleared]
  split
  · next h => exact h
  · exact foldl_quiet_value c.listeners

/-- Once the field is clear, clearing it again tells nobody. -/
theorem setValue_cleared (n : ℕ) : setValue (notifyListeners (n + 1)) .cleared c = some (cleared c) := by
  rw [setValue, cleared]
  split
  · rfl
  · exact foldlM_of_cleared c.listeners rfl

theorem call_eq (n : ℕ) : listener.call (notifyListeners (n + 1)) c = some (listener.answer c) := by
  cases listener with
  | initState => rfl
  | onChanged val =>
    rw [Listener.call, Listener.answer, Listener.gif]
    split
    · next hgif =>
      rw [onSendMessage, setValue_cleared, if_neg (by simp)]
      simp [not_isBlank hgif, setValue, cleared_value, Listener.quiet, Listener.gif, hgif]
    · rfl

theorem setValue_eq (n : ℕ) (value : TextEditingValue) :
    setValue (notifyListeners (n + 2)) value c = some (told value c) := by
  rw [setValue, told]
  split
  · rfl
  · rw [notifyListeners]
    simp only [call_eq]
    exact List.foldlM_pure

theorem onSendMessage_eq (n : ℕ) (content : String) (type : MessageType) :
    onSendMessage (notifyListeners (n + 2)) content type c =
      some (addMessage content type (told .cleared c)) := by
  rw [onSendMessage, setValue_eq, addMessage]
  simp only [Option.bind_eq_bind, Option.bind_some]
  split <;> rfl

/-- **Every event is handled**, in any state, with listeners that are told within listeners. -/
theorem handle_eq (n : ℕ) : handle (n + 2) c e = some (handled c e) := by
  cases e with
  | edit value =>
    rw [handle, setValue_eq, handled]
    simp only [Option.bind_eq_bind, Option.bind_some]
    split <;> rfl
  | send => exact onSendMessage_eq n _ _
  | onSendMessage content type => exact onSendMessage_eq n _ _

theorem step_eq : step c e = handled c e := by
  rw [step, handle_eq 0]
  rfl

/-- What the parts of a handler keep, the listeners of a clear field keep. -/
theorem foldl_quiet_induct {P : GroupController → Prop}
    (htyping : ∀ c, P c → P (typingStatus c))
    (hmessages : ∀ c messages, P c → P { c with messages := messages })
    (listeners : List Listener) (h : P c) : P (listeners.foldl Listener.quiet c) := by
  induction listeners generalizing c with
  | nil => exact h
  | cons listener listeners ih => exact ih (htyping _ (hmessages _ _ h))

/-- What the parts of a handler keep, a handler keeps: the writes of `typing`, the messages,
clearing the field, adding a listener and the edit itself. -/
theorem handled_induct {P : GroupController → Prop}
    (htyping : ∀ c, P c → P (typingStatus c))
    (hmessages : ∀ c messages, P c → P { c with messages := messages })
    (hclear : ∀ c, P c → P { c with value := .cleared })
    (hlistener : ∀ c listener, P c → P { c with listeners := c.listeners ++ [listener] })
    (hedit : ∀ value, e = .edit value → P { c with value := value }) (h : P c) : P (handled c e) := by
  have hanswer (listener : Listener) (c : GroupController) (h : P c) : P (listener.answer c) := by
    rw [Listener.answer, cleared]
    split
    · exact htyping c h
    · split
      · exact htyping _ (hmessages _ _ h)
      · exact htyping _ (hmessages _ _ (foldl_quiet_induct htyping hmessages _ (hclear c h)))
  have hfold (listeners : List Listener) (c : GroupController) (h : P c) :
      P (listeners.foldl Listener.answer c) := by
    induction listeners generalizing c with
    | nil => exact h
    | cons listener listeners ih => exact ih _ (hanswer listener c h)
  have htold (value : TextEditingValue) (hvalue : P { c with value := value }) : P (told value c) := by
    rw [told]
    split
    · exact h
    · exact hfold _ _ hvalue
  have hadd (content : String) (type : MessageType) (c : GroupController) (h : P c) :
      P (addMessage content type c) := by
    rw [addMessage]
    split
    · exact h
    · exact hmessages c _ h
  cases e with
  | edit value =>
    rw [handled]
    split
    · exact htold value (hedit value rfl)
    · exact hlistener _ _ (htold value (hedit value rfl))
  | send => exact hadd _ _ _ (htold _ (hclear c h))
  | onSendMessage content type => exact hadd _ _ _ (htold _ (hclear c h))

end Handled

/-! ## One gif for one edit -/

/-- The gifs that have been sent. -/
def GroupController.gifs (c : GroupController) : List String :=
  (c.messages.filter (·.2 = .gif)).map (·.1)

/-- The gifs that an event should send: what the user has typed, or has chosen from the gifs. -/
def expected (c : GroupController) : FieldEvent → List String
  | .edit value =>
    if c.value.text ≠ value.text ∧ Attachments.contains value.text ".gif" = true then [value.text] else []
  | .send => []
  | .onSendMessage content type => if type = .gif ∧ isBlank content = false then [content] else []

/-- The event sends the gifs that it should. -/
def OneGif (c : GroupController) (e : FieldEvent) : Prop := (step c e).gifs = c.gifs ++ expected c e

instance (c : GroupController) (e : FieldEvent) : Decidable (OneGif c e) :=
  inferInstanceAs (Decidable ((step c e).gifs = c.gifs ++ expected c e))

/-- The user types no gif. -/
def NoGif : FieldEvent → Prop
  | .edit value => Attachments.contains value.text ".gif" = false
  | .send | .onSendMessage _ _ => True

/-- No listener has kept a gif, and the text is none. -/
structure GroupController.Plain (c : GroupController) : Prop where
  listeners : ∀ listener ∈ c.listeners, listener.gif = []
  text : Attachments.contains c.value.text ".gif" = false

section Gifs

variable {c : GroupController} {e : FieldEvent} {es : List FieldEvent} {value : TextEditingValue}

/-- Listeners that have kept no gif leave all but `typing` as it is. -/
theorem foldl_answer {listeners : List Listener} (h : ∀ listener ∈ listeners, listener.gif = []) :
    (listeners.foldl Listener.answer c).messages = c.messages ∧
      (listeners.foldl Listener.answer c).value = c.value ∧
      (listeners.foldl Listener.answer c).listeners = c.listeners := by
  induction listeners generalizing c with
  | nil => exact ⟨rfl, rfl, rfl⟩
  | cons listener listeners ih =>
    have hfirst : listener.answer c = typingStatus c := if_pos (h listener (List.mem_cons_self ..))
    obtain ⟨hmessages, hvalue, hlisteners⟩ :=
      ih (c := typingStatus c) fun l hl => h l (List.mem_cons_of_mem _ hl)
    rw [List.foldl_cons, hfirst]
    exact ⟨hmessages.trans typingStatus_messages, hvalue.trans typingStatus_value,
      hlisteners.trans typingStatus_listeners⟩

theorem told_of_plain (value : TextEditingValue) (h : c.Plain) : (told value c).messages = c.messages ∧
    (told value c).value = value ∧ (told value c).listeners = c.listeners := by
  rw [told]
  split
  · next hv => exact ⟨rfl, hv, rfl⟩
  · exact foldl_answer h.listeners

theorem gifs_addMessage (content : String) (type : MessageType) : (addMessage content type c).gifs =
    c.gifs ++ if type = .gif ∧ isBlank content = false then [content] else [] := by
  rw [addMessage]
  cases hblank : isBlank content with
  | true => simp
  | false =>
    by_cases htype : type = .gif
    · simp [GroupController.gifs, List.filter_append, htype]
    · simp [GroupController.gifs, List.filter_append, htype]

/-- What is added does not change the field. -/
theorem addMessage_field (content : String) (type : MessageType) :
    (addMessage content type c).value = c.value ∧ (addMessage content type c).listeners = c.listeners := by
  rw [addMessage]
  split
  · exact ⟨rfl, rfl⟩
  · exact ⟨rfl, rfl⟩

theorem gifs_told (h : c.Plain) : (told value c).gifs = c.gifs := by
  rw [GroupController.gifs, (told_of_plain value h).1, GroupController.gifs]

/-- While no gif has been typed, an event sends the gifs that it should if the user types none. -/
theorem oneGif_iff_noGif (h : c.Plain) : OneGif c e ↔ NoGif e := by
  rw [OneGif, step_eq]
  cases e with
  | edit value =>
    have hgifs : (handled c (.edit value)).gifs = c.gifs := by
      rw [handled]
      split
      · exact gifs_told h
      · exact gifs_told h
    have hchanged : Attachments.contains value.text ".gif" = true → c.value.text ≠ value.text := by
      intro hgif heq
      rw [← heq, h.text] at hgif
      exact absurd hgif Bool.false_ne_true
    rw [hgifs, expected, NoGif]
    cases hgif : Attachments.contains value.text ".gif" with
    | true => simp [hchanged hgif]
    | false => simp
  | send =>
    have htext : (if MessageType.text = .gif ∧ isBlank c.value.text = false then [c.value.text] else []) =
        [] := if_neg fun hboth => absurd hboth.1 (by decide)
    rw [handled, gifs_addMessage, gifs_told h, htext]
    exact iff_of_true rfl trivial
  | onSendMessage content type =>
    rw [handled, gifs_addMessage, gifs_told h]
    exact iff_of_true rfl trivial

/-- A field that is told of a text without a gif, and has kept it, is plain. -/
theorem plain_told (h : c.Plain) (hvalue : Attachments.contains value.text ".gif" = false) :
    (told value c).Plain := by
  obtain ⟨-, hv, hlisteners⟩ := told_of_plain value h
  refine ⟨?_, ?_⟩
  · rw [hlisteners]
    exact h.listeners
  · rw [hv]
    exact hvalue

theorem plain_addMessage {content : String} {type : MessageType} (h : c.Plain) :
    (addMessage content type c).Plain := by
  obtain ⟨hvalue, hlisteners⟩ := addMessage_field (c := c) content type
  refine ⟨?_, ?_⟩
  · rw [hlisteners]
    exact h.listeners
  · rw [hvalue]
    exact h.text

/-- As long as no gif is typed no listener keeps one: the listener an edit adds holds the text of
that edit, and sending only empties the field. -/
theorem plain_step (h : c.Plain) (he : NoGif e) : (step c e).Plain := by
  have hcleared : (told .cleared c).Plain := plain_told h (by decide)
  rw [step_eq]
  cases e with
  | edit value =>
    have htold : (told value c).Plain := plain_told h he
    rw [handled]
    split
    · exact htold
    · refine ⟨fun listener hl => ?_, htold.text⟩
      obtain hl | hl := List.mem_append.mp hl
      · exact htold.listeners listener hl
      · rw [List.mem_singleton.mp hl, Listener.gif, htold.text]
        rfl
  | send => exact plain_addMessage hcleared
  | onSendMessage content type => exact plain_addMessage hcleared

/-- **A typed gif is sent once**, and no other edit sends one, at every event of a screen if and only
if the user types none; and every event is handled. -/
theorem oneGif_iff : (∀ c e n, handle (n + 2) c e = some (step c e)) ∧
    (Each step OneGif opened es ↔
      ∀ value, .edit value ∈ es → Attachments.contains value.text ".gif" = false) := by
  refine ⟨fun c e n => by rw [handle_eq, step_eq], ?_⟩
  have hopened : opened.Plain := ⟨by decide, by decide⟩
  have hnone : Each step OneGif opened es ↔ Each step (fun _ e => NoGif e) opened es :=
    each_congr (I := GroupController.Plain) (fun c e h => oneGif_iff_noGif h)
      (fun c e h he => plain_step h ((oneGif_iff_noGif h).mp he)) hopened
  rw [hnone, each_forall]
  constructor
  · intro h value hmem
    exact h _ hmem
  · intro h e hmem
    cases e with
    | edit value => exact h value hmem
    | send => trivial
    | onSendMessage content type => trivial

end Gifs

-- What is typed next sends the gif, for the clearing it causes once more.
example : (step (step opened (.edit { text := "a.gif" })) (.edit { text := "a.gif " })).gifs =
    ["a.gif", "a.gif"] := by
  decide

/-- The address of a gif is not sent when it is typed. -/
theorem typed_gif_not_sent : ¬ ∀ es, Each step OneGif opened es := by
  intro h
  have hgif := h [.edit { text := "a.gif", selection := 5 }]
  exact absurd hgif (by decide)

end FlutterTheme.GroupField
