import FlutterTheme.GroupField

/-!
# Who is typing in a group

All members of a group write to the `status` of the one group document that they are typing, and
clear it when they have stopped. A chat screen shows the `status`, except to a user whose name is in
it. Who leaves the screen by the button of the phone clears the `status` as well, and who leaves it
by the arrow in the app bar does not.

* `sound_step`, `idle_step` — what a text field has written last, and when it writes nothing.
* `Inv.step` — one member types at a time, and the `status` is about that member.
* `header_right` — what the screens show then.
-/

namespace FlutterTheme.GroupTyping

open Attachments GroupField History

/-! ## The group -/

/-- A member: the text field of the chat screen, which has no listeners while the screen is not open,
and how many of the member's writes have reached the group document. -/
structure Member where
  field : GroupController := {}
  delivered : ℕ := 0
  deriving DecidableEq, Repr

/-- The writes of the member that are under way. -/
def Member.pending (m : Member) : List Bool := m.field.statusWrites.drop m.delivered

/-- The group document and the members. -/
structure World (ι : Type) where
  status : String := ""
  member : ι → Member := fun _ => {}

/-- What happens in the group. -/
inductive GroupEvent (ι : Type) : Type where
  | openScreen (m : ι)
  | field (m : ι) (e : FieldEvent)
  /-- the button of the phone, which `WillPopScope` passes on -/
  | onBackPress (m : ι)
  /-- the arrow of `GroupChatMessageAppBar`, `Get.back` -/
  | back (m : ι)
  /-- a write of the member reaches the group document -/
  | deliver (m : ι)
  deriving DecidableEq, Repr

/-- What says that somebody is typing. -/
def notice (name : String) : String := name ++ " is typing"

section Group

variable {ι : Type} [DecidableEq ι] (name : ι → String)

/-- A member has changed. -/
def World.set (w : World ι) (m : ι) (member : Member) : World ι :=
  { w with member := Function.update w.member m member }

/-- What an event does. A screen that opens gets a new controller. -/
def step (w : World ι) : GroupEvent ι → World ι
  | .openScreen m =>
    w.set m { w.member m with
      field := { opened with statusWrites := (w.member m).field.statusWrites } }
  | .field m e => w.set m { w.member m with field := GroupField.step (w.member m).field e }
  | .onBackPress m =>
    w.set m { w.member m with
      field := { statusWrites := (groupTypingStatus (w.member m).field false).statusWrites } }
  -- the route is popped without asking `onBackPress`, so that nothing is written
  | .back m =>
    w.set m { w.member m with field := { statusWrites := (w.member m).field.statusWrites } }
  | .deliver m =>
    match (w.member m).pending with
    | [] => w
    | isTyping :: _ =>
      { w.set m { w.member m with delivered := (w.member m).delivered + 1 } with
        status := if isTyping then notice (name m) else "" }

/-- A screen is opened where it is not open, and used where it is. -/
def Admits (w : World ι) : GroupEvent ι → Prop
  | .openScreen m => (w.member m).field.listeners = []
  | .field m _ | .onBackPress m | .back m => (w.member m).field.listeners ≠ []
  | .deliver _ => True

/-- A member is typing: there is a text in the field. -/
def World.IsTyping (w : World ι) (m : ι) : Prop := (w.member m).field.value.text ≠ ""

/-- All writes have reached the group document. -/
def World.Settled (w : World ι) : Prop := ∀ m, (w.member m).pending = []

/-- What the header of a chat screen shows: the names of the members, or the `status`. -/
inductive Header : Type where
  | nameList
  | status (status : String)
  deriving DecidableEq, Repr

/-- `GroupUserLastSeen.build`. -/
def World.header (w : World ι) (v : ι) : Header :=
  if w.status ≠ "" then
    if Attachments.contains w.status (name v) then .nameList else .status w.status
  else .nameList

/-- The header says who else is typing, and is the list of names where nobody is; it never says that
the viewer is typing. -/
def World.HeaderRight (w : World ι) (v : ι) : Prop :=
  ((∃ x, x ≠ v ∧ w.IsTyping x ∧ w.header name v = .status (notice (name x))) ∨
    (∀ x, x ≠ v → ¬ w.IsTyping x) ∧ w.header name v = .nameList) ∧
  w.header name v ≠ .status (notice (name v))

/-- A member types a text while nobody else is typing and nobody else's write is under way, and no
name of another member is in the notice; and leaves the screen by the button of the phone while
nobody else is typing, and by the arrow while the own field is empty. -/
def Alone (w : World ι) : GroupEvent ι → Prop
  | .field m (.edit value) => value.text ≠ "" → ∀ x, x ≠ m →
      ¬ w.IsTyping x ∧ (w.member x).pending = [] ∧
        Attachments.contains (notice (name m)) (name x) = false
  | .onBackPress m => ∀ x, x ≠ m → ¬ w.IsTyping x
  | .back m => ¬ w.IsTyping m
  | .openScreen _ | .field _ .send | .field _ (.onSendMessage _ _) | .deliver _ => True

instance (w : World ι) : (e : GroupEvent ι) → Decidable (Admits w e)
  | .openScreen m => inferInstanceAs (Decidable ((w.member m).field.listeners = []))
  | .field m _ | .onBackPress m | .back m =>
    inferInstanceAs (Decidable ((w.member m).field.listeners ≠ []))
  | .deliver _ => inferInstanceAs (Decidable True)

instance (w : World ι) (m : ι) : Decidable (w.IsTyping m) :=
  inferInstanceAs (Decidable ((w.member m).field.value.text ≠ ""))

section Finite

variable [Fintype ι]

instance (w : World ι) : Decidable w.Settled :=
  inferInstanceAs (Decidable (∀ m, (w.member m).pending = []))

instance (w : World ι) (v : ι) : Decidable (w.HeaderRight name v) :=
  inferInstanceAs (Decidable (((∃ x, x ≠ v ∧ w.IsTyping x ∧ w.header name v = .status (notice (name x))) ∨
    (∀ x, x ≠ v → ¬ w.IsTyping x) ∧ w.header name v = .nameList) ∧
    w.header name v ≠ .status (notice (name v))))

instance (w : World ι) : (e : GroupEvent ι) → Decidable (Alone name w e)
  | .field m (.edit value) => inferInstanceAs (Decidable (value.text ≠ "" → ∀ x, x ≠ m →
      ¬ w.IsTyping x ∧ (w.member x).pending = [] ∧
        Attachments.contains (notice (name m)) (name x) = false))
  | .onBackPress m => inferInstanceAs (Decidable (∀ x, x ≠ m → ¬ w.IsTyping x))
  | .back m => inferInstanceAs (Decidable (¬ w.IsTyping m))
  | .openScreen _ | .field _ .send | .field _ (.onSendMessage _ _) | .deliver _ =>
    inferInstanceAs (Decidable True)

end Finite

end Group

/-! ## What a text field writes -/

/-- `typing` says whether there is a text. -/
def Tidy (c : GroupController) : Prop := c.typing = true ↔ c.value.text ≠ ""

/-- What has been written last is `typing`. -/
def Said (c : GroupController) : Prop := c.statusWrites.getLast?.getD false = c.typing

section Field

variable {c : GroupController} {e : FieldEvent} {listener : Listener} {value : TextEditingValue}

theorem Tidy.typing_eq_false (h : Tidy c) (htext : c.value.text = "") : c.typing = false := by
  rw [← Bool.not_eq_true]
  exact fun htyping => h.mp htyping htext

theorem said_groupTypingStatus (isTyping : Bool) : Said (groupTypingStatus c isTyping) := by
  simp [Said, groupTypingStatus]

theorem said_typingStatus (h : Said c) : Said (typingStatus c) := by
  rw [typingStatus]
  split <;> split
  all_goals first
    | exact said_groupTypingStatus _
    | exact h

theorem tidy_typingStatus : Tidy (typingStatus c) := by
  by_cases htext : c.value.text = ""
  · cases htyping : c.typing <;> simp [Tidy, typingStatus, groupTypingStatus, htext, htyping]
  · simp [Tidy, typingStatus, groupTypingStatus, htext]

theorem prefix_typingStatus : c.statusWrites <+: (typingStatus c).statusWrites := by
  by_cases htext : c.value.text = ""
  · cases htyping : c.typing <;> simp [typingStatus, groupTypingStatus, htext, htyping]
  · simp [typingStatus, groupTypingStatus, htext]

/-- Where there is no text, and the user has not been typing, nothing is written. -/
theorem typingStatus_of_idle (htext : c.value.text = "") (htyping : c.typing = false) :
    typingStatus c = c := by
  simp [typingStatus, htext, htyping]

theorem said_handled (h : Said c) : Said (handled c e) :=
  handled_induct (fun _ => said_typingStatus) (fun _ _ h => h) (fun _ h => h) (fun _ _ h => h)
    (fun _ _ => h) h

theorem prefix_handled : c.statusWrites <+: (handled c e).statusWrites :=
  handled_induct (P := fun c' => c.statusWrites <+: c'.statusWrites)
    (fun _ h => h.trans prefix_typingStatus) (fun _ _ h => h) (fun _ h => h) (fun _ _ h => h)
    (fun _ _ => List.prefix_rfl) List.prefix_rfl

theorem listeners_handled (h : c.listeners ≠ []) : (handled c e).listeners ≠ [] :=
  handled_induct (P := fun c' => c'.listeners ≠ []) (fun _ h => by rwa [typingStatus_listeners])
    (fun _ _ h => h) (fun _ h => h) (fun _ _ h => List.append_ne_nil_of_left_ne_nil h _)
    (fun _ _ => h) h

/-- The user is not typing, and nothing has been written since. -/
structure Idle (writes : List Bool) (c : GroupController) : Prop where
  text : c.value.text = ""
  typing : c.typing = false
  writes : c.statusWrites = writes

/-- Where the user has not been typing and types no text, nothing is written. -/
theorem idle_handled {writes : List Bool} (h : Idle writes c)
    (he : ∀ value, e = .edit value → value.text = "") : Idle writes (handled c e) :=
  handled_induct (fun _ h => (typingStatus_of_idle h.text h.typing).symm ▸ h)
    (fun _ _ h => ⟨h.text, h.typing, h.writes⟩) (fun _ h => ⟨rfl, h.typing, h.writes⟩)
    (fun _ _ h => ⟨h.text, h.typing, h.writes⟩) (fun value hv => ⟨he value hv, h.typing, h.writes⟩) h

/-- Who has been told last has said whether there is a text. -/
theorem tidy_told (hl : c.listeners ≠ []) (h : Tidy c) : Tidy (told value c) := by
  have hanswer (listener : Listener) (c : GroupController) : Tidy (listener.answer c) := by
    rw [Listener.answer]
    split
    · exact tidy_typingStatus
    · exact tidy_typingStatus
  rw [told]
  split
  · exact h
  · obtain ⟨listeners, last, hlast⟩ : ∃ listeners last, c.listeners = listeners ++ [last] :=
      ⟨_, _, (List.dropLast_append_getLast hl).symm⟩
    rw [hlast, List.foldl_append]
    exact hanswer last _

/-- Every event leaves `typing` saying whether the field has a text, since at least one listener has
been told of the last change. -/
theorem tidy_handled (hl : c.listeners ≠ []) (h : Tidy c) : Tidy (handled c e) := by
  have hadd (content : String) (type : MessageType) (c : GroupController) (h : Tidy c) :
      Tidy (GroupField.addMessage content type c) := by
    rw [GroupField.addMessage]
    split
    · exact h
    · exact h
  cases e with
  | edit value =>
    rw [handled]
    split
    · exact tidy_told hl h
    · exact tidy_told hl h
  | send => exact hadd _ _ _ (tidy_told hl h)
  | onSendMessage content type => exact hadd _ _ _ (tidy_told hl h)

end Field

/-! ## One at a time -/

theorem notice_ne_empty (n : String) : notice n ≠ "" := by
  intro h
  have hlist := congrArg String.toList h
  rw [notice, String.toList_append] at hlist
  exact List.append_ne_nil_of_right_ne_nil _ (by decide) hlist

/-- A notice has the name in it. -/
theorem contains_notice (n : String) : Attachments.contains (notice n) n = true := by
  rw [Attachments.contains, decide_eq_true_iff, notice, String.toList_append]
  exact (List.prefix_append _ _).isInfix

section Run

variable {ι : Type} [DecidableEq ι] {name : ι → String} {w : World ι} {m : ι} {e : GroupEvent ι}
  {es : List (GroupEvent ι)}

/-- The text fields are as they should be; who types does so alone, and what reaches the group
document last is about who types. -/
structure Inv (name : ι → String) (w : World ι) : Prop where
  tidy : ∀ m, Tidy (w.member m).field
  said : ∀ m, Said (w.member m).field
  closed : ∀ m, (w.member m).field.listeners = [] → (w.member m).field.value.text = ""
  delivered : ∀ m, (w.member m).delivered ≤ (w.member m).field.statusWrites.length
  alone : ∀ m, w.IsTyping m → ∀ x, x ≠ m →
    ¬ w.IsTyping x ∧ (w.member x).pending = [] ∧ Attachments.contains (notice (name m)) (name x) = false
  shown : ∀ m, w.IsTyping m → (w.member m).pending = [] → w.status = notice (name m)
  quiet : (∀ m, ¬ w.IsTyping m) → w.Settled → w.status = ""

@[simp] theorem set_self {member : Member} : (w.set m member).member m = member :=
  Function.update_self ..

theorem set_of_ne {member : Member} {x : ι} (h : x ≠ m) : (w.set m member).member x = w.member x :=
  Function.update_of_ne h ..

/-- What holds of the new state of one member, and of all others, holds of all. -/
theorem forall_set {P : ι → Member → Prop} {member : Member} (hm : P m member)
    (hothers : ∀ x, x ≠ m → P x (w.member x)) (x : ι) : P x ((w.set m member).member x) := by
  by_cases hx : x = m
  · subst hx
    rwa [set_self]
  · rw [set_of_ne hx]
    exact hothers x hx

/-- Who has reached the end of what has been written has been told all. -/
theorem eq_of_pending {member : Member} {field : GroupController}
    (hinit : member.field.statusWrites <+: field.statusWrites)
    (hdelivered : member.delivered ≤ member.field.statusWrites.length)
    (h : ({ member with field := field } : Member).pending = []) :
    member.field.statusWrites = field.statusWrites := by
  refine hinit.eq_of_length_le ?_
  rw [Member.pending, List.drop_eq_nil_iff] at h
  exact h.trans hdelivered

/-- The field of a member has changed while nobody else is typing: a text that is there now is this
member's, and the writes that are under way are those of this member. -/
theorem Inv.set_field {field : GroupController} (hi : Inv name w)
    (htidy : Tidy field) (hsaid : Said field) (hclosed : field.listeners = [] → field.value.text = "")
    (hinit : (w.member m).field.statusWrites <+: field.statusWrites)
    (hothers : ∀ x, x ≠ m → ¬ w.IsTyping x)
    (halone : field.value.text ≠ "" → ∀ x, x ≠ m →
      (w.member x).pending = [] ∧ Attachments.contains (notice (name m)) (name x) = false) :
    Inv name (w.set m { w.member m with field := field }) := by
  have htyping (x : ι) (hx : x ≠ m) : ¬ (w.set m { w.member m with field := field }).IsTyping x := by
    rw [World.IsTyping, set_of_ne hx]
    exact hothers x hx
  -- where nothing has been written, the member has been typing before if it is now
  have hsame (hp : ({ w.member m with field := field } : Member).pending = []) :
      (w.member m).pending = [] ∧ (field.value.text ≠ "" ↔ w.IsTyping m) := by
    have hwrites := eq_of_pending hinit (hi.delivered m) hp
    refine ⟨?_, ?_⟩
    · rw [Member.pending, hwrites]
      exact hp
    · have hnow := htidy
      have hbefore := hi.tidy m
      rw [Tidy, ← hsaid, ← hwrites, hi.said m] at hnow
      exact hnow.symm.trans hbefore
  constructor
  · exact forall_set (P := fun _ member => Tidy member.field) htidy fun x _ => hi.tidy x
  · exact forall_set (P := fun _ member => Said member.field) hsaid fun x _ => hi.said x
  · exact forall_set (P := fun _ member => member.field.listeners = [] → member.field.value.text = "")
      hclosed fun x _ => hi.closed x
  · exact forall_set (P := fun _ member => member.delivered ≤ member.field.statusWrites.length)
      ((hi.delivered m).trans hinit.length_le) fun x _ => hi.delivered x
  · intro y hy x hx
    obtain rfl : y = m := by
      by_contra hne
      exact htyping y hne hy
    rw [World.IsTyping, set_self] at hy
    refine ⟨htyping x hx, ?_⟩
    rw [set_of_ne hx]
    exact halone hy x hx
  · intro y hy hp
    obtain rfl : y = m := by
      by_contra hne
      exact htyping y hne hy
    rw [set_self] at hp
    rw [World.IsTyping, set_self] at hy
    obtain ⟨hpending, htext⟩ := hsame hp
    exact hi.shown y (htext.mp hy) hpending
  · intro hnone hsettled
    have hm := hnone m
    have hp := hsettled m
    rw [set_self] at hp
    rw [World.IsTyping, set_self] at hm
    obtain ⟨hpending, htext⟩ := hsame hp
    refine hi.quiet (fun x => ?_) fun x => ?_
    · by_cases hx : x = m
      · subst hx
        exact fun h => hm (htext.mpr h)
      · exact hothers x hx
    · by_cases hx : x = m
      · subst hx
        exact hpending
      · have hx' := hsettled x
        rwa [set_of_ne hx] at hx'

/-- The field of a member who is not typing has changed, and nothing has been written. -/
theorem Inv.set_idle {field : GroupController} (hi : Inv name w) (hm : ¬ w.IsTyping m)
    (hidle : Idle (w.member m).field.statusWrites field) :
    Inv name (w.set m { w.member m with field := field }) := by
  have hsaid : Said field := by
    have hbefore := hi.said m
    rw [Said, (hi.tidy m).typing_eq_false (not_not.mp hm)] at hbefore
    rw [Said, hidle.writes, hidle.typing]
    exact hbefore
  have htidy : Tidy field := by simp [Tidy, hidle.typing, hidle.text]
  have htyping (x : ι) : (w.set m { w.member m with field := field }).IsTyping x ↔ w.IsTyping x := by
    by_cases hx : x = m
    · subst hx
      rw [World.IsTyping, set_self]
      exact iff_of_false (not_not.mpr hidle.text) hm
    · rw [World.IsTyping, set_of_ne hx]
      rfl
  have hpending (x : ι) : ((w.set m { w.member m with field := field }).member x).pending =
      (w.member x).pending := by
    by_cases hx : x = m
    · subst hx
      rw [set_self, Member.pending, hidle.writes]
      rfl
    · rw [set_of_ne hx]
  constructor
  · exact forall_set (P := fun _ member => Tidy member.field) htidy fun x _ => hi.tidy x
  · exact forall_set (P := fun _ member => Said member.field) hsaid fun x _ => hi.said x
  · exact forall_set (P := fun _ member => member.field.listeners = [] → member.field.value.text = "")
      (fun _ => hidle.text) fun x _ => hi.closed x
  · refine forall_set (P := fun _ member => member.delivered ≤ member.field.statusWrites.length) ?_
      fun x _ => hi.delivered x
    rw [hidle.writes]
    exact hi.delivered m
  · intro y hy x hx
    rw [htyping, hpending]
    exact hi.alone y ((htyping y).mp hy) x hx
  · intro y hy hp
    rw [hpending] at hp
    exact hi.shown y ((htyping y).mp hy) hp
  · intro hnone hsettled
    refine hi.quiet (fun x h => hnone x ((htyping x).mpr h)) fun x => ?_
    rw [← hpending]
    exact hsettled x

/-- A write reaches the group document: the status is now what the member has said with it, and the
later writes of the same member are still to come. -/
theorem Inv.deliver {isTyping : Bool} {rest : List Bool} (hi : Inv name w)
    (hp : (w.member m).pending = isTyping :: rest) :
    Inv name { w.set m { w.member m with delivered := (w.member m).delivered + 1 } with
      status := if isTyping then notice (name m) else "" } := by
  have hrest : ({ w.member m with delivered := (w.member m).delivered + 1 } : Member).pending = rest := by
    rw [Member.pending, ← List.tail_drop]
    exact congrArg List.tail hp
  -- what is written last is whether the member is typing
  have hlast (hnil : rest = []) : isTyping = (w.member m).field.typing := by
    have hsaid := hi.said m
    rw [Said, ← List.take_append_drop (w.member m).delivered (w.member m).field.statusWrites,
      show (w.member m).field.statusWrites.drop (w.member m).delivered = [isTyping] from hnil ▸ hp,
      List.getLast?_append] at hsaid
    exact hsaid
  have htyping (x : ι) : (w.set m { w.member m with delivered := (w.member m).delivered + 1 }).IsTyping x ↔
      w.IsTyping x := by
    by_cases hx : x = m
    · subst hx
      rw [World.IsTyping, set_self]
      rfl
    · rw [World.IsTyping, set_of_ne hx]
      rfl
  constructor
  · exact forall_set (P := fun _ member => Tidy member.field) (hi.tidy m) fun x _ => hi.tidy x
  · exact forall_set (P := fun _ member => Said member.field) (hi.said m) fun x _ => hi.said x
  · exact forall_set (P := fun _ member => member.field.listeners = [] → member.field.value.text = "")
      (hi.closed m) fun x _ => hi.closed x
  · refine forall_set (P := fun _ member => member.delivered ≤ member.field.statusWrites.length) ?_
      fun x _ => hi.delivered x
    have hlt : (w.member m).delivered < (w.member m).field.statusWrites.length := by
      by_contra hle
      rw [Member.pending, List.drop_eq_nil_of_le (not_lt.mp hle)] at hp
      exact List.cons_ne_nil _ _ hp.symm
    exact hlt
  · intro y hy x hx
    obtain ⟨hother, hpending, hname⟩ := hi.alone y ((htyping y).mp hy) x hx
    have hxm : x ≠ m := by
      rintro rfl
      rw [hp] at hpending
      exact List.cons_ne_nil _ _ hpending
    refine ⟨fun h => hother ((htyping x).mp h), ?_, hname⟩
    change ((w.set m _).member x).pending = []
    rw [set_of_ne hxm]
    exact hpending
  · intro y hy hy'
    have hym : y = m := by
      by_contra hne
      have hpending := (hi.alone y ((htyping y).mp hy) m (Ne.symm hne)).2.1
      rw [hp] at hpending
      exact List.cons_ne_nil _ _ hpending
    subst hym
    change ((w.set y _).member y).pending = [] at hy'
    rw [set_self, hrest] at hy'
    have htext : (w.member y).field.typing = true := (hi.tidy y).mpr ((htyping y).mp hy)
    rw [hlast hy', htext]
    rfl
  · intro hnone hsettled
    have hm := hsettled m
    change ((w.set m _).member m).pending = [] at hm
    rw [set_self, hrest] at hm
    have htext : (w.member m).field.typing = false :=
      (hi.tidy m).typing_eq_false (not_not.mp fun h => hnone m ((htyping m).mpr h))
    rw [hlast hm, htext]
    rfl

/-- One event keeps the invariant. A field that is not empty before or after the event belongs to
the only member who types; every other event leaves the member idle, or delivers one write. -/
theorem Inv.step (hi : Inv name w) (hadmits : Admits w e) (halone : Alone name w e) :
    Inv name (step name w e) := by
  cases e with
  | openScreen m =>
    -- a new screen has an empty text, as the old one had
    have htext := hi.closed m hadmits
    exact hi.set_idle (not_not.mpr htext) ⟨rfl, rfl, rfl⟩
  | onBackPress m =>
    refine hi.set_field (by simp [Tidy]) ?_ (fun _ => rfl) (List.prefix_append ..) halone fun h => ?_
    · exact said_groupTypingStatus (c := (w.member m).field) false
    · exact absurd rfl h
  | back m => exact hi.set_idle halone ⟨rfl, rfl, rfl⟩
  | deliver m =>
    rw [GroupTyping.step]
    split
    · exact hi
    · next hp => exact hi.deliver hp
  | field m e =>
    rw [GroupTyping.step, step_eq]
    by_cases htypes : w.IsTyping m ∨ ∃ value, e = .edit value ∧ value.text ≠ ""
    · have hothers : ∀ x, x ≠ m →
          ¬ w.IsTyping x ∧ (w.member x).pending = [] ∧
            Attachments.contains (notice (name m)) (name x) = false := by
        obtain hm | ⟨value, rfl, hvalue⟩ := htypes
        · exact hi.alone m hm
        · exact halone hvalue
      refine hi.set_field (tidy_handled hadmits (hi.tidy m)) (said_handled (hi.said m)) (fun h => ?_)
        prefix_handled (fun x hx => (hothers x hx).1) fun _ x hx => (hothers x hx).2
      exact absurd h (listeners_handled hadmits)
    · obtain ⟨hm, hedit⟩ := not_or.mp htypes
      have htext : (w.member m).field.value.text = "" := not_not.mp hm
      refine hi.set_idle hm (idle_handled ⟨htext, (hi.tidy m).typing_eq_false htext, rfl⟩ ?_)
      intro value he
      by_contra hvalue
      exact hedit ⟨value, he, hvalue⟩

/-- Where the members type one at a time, the headers are right once all writes have arrived. -/
theorem Inv.header (hi : Inv name w) (hsettled : w.Settled) (v : ι) : w.HeaderRight name v := by
  refine ⟨?_, ?_⟩
  · by_cases hnone : ∀ m, ¬ w.IsTyping m
    · refine .inr ⟨fun x _ => hnone x, ?_⟩
      rw [World.header, hi.quiet hnone hsettled]
      rfl
    · obtain ⟨m, hm⟩ := not_forall_not.mp hnone
      have hstatus := hi.shown m hm (hsettled m)
      by_cases hv : v = m
      · subst hv
        refine .inr ⟨fun x hx => (hi.alone v hm x hx).1, ?_⟩
        rw [World.header, hstatus, contains_notice]
        split <;> rfl
      · have hname := (hi.alone m hm v hv).2.2
        refine .inl ⟨m, Ne.symm hv, hm, ?_⟩
        rw [World.header, hstatus, if_pos (notice_ne_empty _), hname]
        rfl
  · rw [World.header]
    split
    · split
      · exact Header.noConfusion
      · next hv =>
        intro h
        rw [Header.status.inj h, contains_notice] at hv
        exact hv rfl
    · exact Header.noConfusion

end Run

/-- The names of two members. -/
def pair : Bool → String
  | true => "Ann"
  | false => "Bob"

/-- Who leaves a text behind by the arrow is shown to be typing while nobody is. -/
example : ¬ ([.openScreen true, .field true (.edit { text := "a" }), .deliver true, .back true].foldl
    (step pair) {}).HeaderRight pair false := by decide

end FlutterTheme.GroupTyping
