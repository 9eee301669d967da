import FlutterTheme.Machine
import FlutterTheme.World

/-!
# Deleting a message

The dialogs that delete a message start the deletion without awaiting it, and go on with the
newest message that is left. The store answers a query of a device with its own pending writes
applied, so the deletion counts as made from the start (`confirmed`).
-/

namespace FlutterTheme

open EventLoop DocStore

/-! ## The newest message -/

/-- The time of a message. -/
def stampOf (message : Document) : String :=
  match message.data .timestamp with
  | some (.str timestamp) => timestamp
  | _ => ""

/-- The later of two messages; the second one, if they are of the same time. -/
def later (newest : Option Document) (message : Document) : Option Document :=
  match newest with
  | none => some message
  | some m => if stampOf m ≤ stampOf message then some message else some m

/-- `orderBy("timestamp", descending: true).limit(1)`: documents without a `timestamp` are not
found, and those of the same time are ordered by their ids. -/
def newest (messages : List Document) : Option Document :=
  (messages.filter fun m => (m.data .timestamp).isSome).foldl later none

/-- The newest of some messages is one of them, or the one that was there to begin with. -/
theorem mem_foldl_later {m : Document} : ∀ {messages : List Document} {start : Option Document},
    messages.foldl later start = some m → m ∈ messages ∨ start = some m
  | [], _, h => Or.inr h
  | message :: messages, start, h => by
    have hrest : m ∈ messages ∨ later start message = some m := mem_foldl_later h
    rcases hrest with hm | hm
    · exact Or.inl (List.mem_cons_of_mem _ hm)
    · cases start with
      | none => exact Or.inl (List.mem_cons.mpr (Or.inl (Option.some.inj hm).symm))
      | some x =>
        simp only [later] at hm
        split at hm
        · exact Or.inl (List.mem_cons.mpr (Or.inl (Option.some.inj hm).symm))
        · exact Or.inr hm

/-- The newest message is one of them. -/
theorem mem_of_newest {m : Document} {messages : List Document} (h : newest messages = some m) :
    m ∈ messages :=
  List.mem_of_mem_filter ((mem_foldl_later h).resolve_right nofun)

theorem foldl_later_ne_none : ∀ {messages : List Document} {m : Document},
    messages.foldl later (some m) ≠ none
  | [], _ => Option.some_ne_none _
  | message :: messages, m => by
    rw [List.foldl_cons, later]
    split
    · exact foldl_later_ne_none
    · exact foldl_later_ne_none

/-- Among messages there is a newest one. -/
theorem newest_eq_none {messages : List Document}
    (h : ∀ m ∈ messages, (m.data .timestamp).isSome = true) :
    newest messages = none ↔ messages = [] := by
  rw [newest, List.filter_eq_self.mpr h]
  cases messages with
  | nil => exact iff_of_true rfl rfl
  | cons m messages =>
    exact iff_of_false foldl_later_ne_none (List.cons_ne_nil m messages)

/-! ## The confirmed dialog -/

/-- The user has confirmed the dialog, and the deletion, which comes first in it, has been made. -/
def confirmed (dialog : Call Unit) (l : Scope) (ticks deletion : ℕ → Tick) (w : World) :
    Config World Scope :=
  (System.quiet World Scope).apply (dialog.start l ticks w) (.resume 0 deletion)

/-- The operation does not fail, and the clock gives a time of `clock`. -/
def Timely (clock : ℕ → Prop) (t : Tick) : Prop := t.fails = false ∧ clock t.now

end FlutterTheme
