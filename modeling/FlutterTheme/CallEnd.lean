import FlutterTheme.CallSafe
import Mathlib

/-!
# Ending a call

`endCall` finds the two documents of a call again by a query on one party each, and deletes
the first document of each answer. However the parts of one `endCall` are carried on, it
takes out of `calling` what was first there (`ended_of_run`), so it ends its call and no
other just if the documents of the call are first (`endCall_iff`).

Both controllers do the same for a call of one user to another.
-/

namespace FlutterTheme.Calls

open EventLoop DocStore

/-! ## What is to be taken out -/

/-- The document belongs to the call: the same caller and the same time. -/
def Ids.Owns (ids : Ids) (d : Document) : Prop :=
  d.data .callerId = some (.str ids.callerId) ∧ d.data .timestamp = some (.int ids.timestamp)

instance (ids : Ids) (d : Document) : Decidable (ids.Owns d) := inferInstanceAs (Decidable (_ ∧ _))

/-- The collections with the two documents of a call. -/
def Ids.Holds (ids : Ids) (q : Path) : Prop := q = .calling ids.callerId ∨ q = .calling ids.receiverId

/-- From `s` to `s'` the documents of the call have been taken out, and no others. -/
def EndsOnly (ids : Ids) (s s' : Store Path Key Value) : Prop :=
  ∀ q d, d ∈ s'.docs q ↔ d ∈ s.docs q ∧ ¬ (ids.Holds q ∧ ids.Owns d)

/-- The pending calls of a user in which he is the given party, in the order of their
identifiers. -/
def pendingCalls (s : Store Path Key Value) (user : String) (party : Key) : List Document :=
  s.query (.calling user) (Fields.isEqualTo party (.str user))

/-- Among the calls from its caller and among the calls to its receiver the document of the
call comes first, and is the only one of the call there; or else there is none at all. -/
def Foremost (ids : Ids) (s : Store Path Key Value) : Prop :=
  (∀ d ∈ s.docs (.calling ids.callerId),
    ids.Owns d ↔ (pendingCalls s ids.callerId .callerId).head? = some d) ∧
  ∀ d ∈ s.docs (.calling ids.receiverId),
    ids.Owns d ↔ (pendingCalls s ids.receiverId .receiverId).head? = some d

/-- A list of documents without the given one. -/
def without (docs : List Document) : Option Document → List Document
  | none => docs
  | some x => docs.filter (·.id ≠ x.id)

theorem mem_without {s : Store Path Key Value} {q : Path} {x : Option Document}
    (hx : ∀ y ∈ x, y ∈ s.docs q) (d : Document) :
    d ∈ without (s.docs q) x ↔ d ∈ s.docs q ∧ x ≠ some d := by
  cases x with
  | none => simp [without]
  | some y =>
    simp only [without, List.mem_filter, decide_eq_true_eq, ne_eq, Option.some.injEq]
    refine and_congr_right fun hd => not_congr ⟨fun hid => ?_, fun h => h ▸ rfl⟩
    exact (s.eq_of_id hd (hx y rfl) hid).symm

theorem head_pendingCalls_mem {s : Store Path Key Value} {user : String} {party : Key} :
    ∀ y ∈ (pendingCalls s user party).head?, y ∈ s.docs (.calling user) :=
  fun _ hy => List.mem_of_mem_filter (List.mem_of_head? hy)

/-! ## One `endCall` by itself -/

/-- `endCall` of the audio or of the video controller on a call. -/
def endCall (isVideo : Bool) (call : Call) (ids : Ids) : Handler Unit := do
  let _ ← if isVideo then VideoCall.endCall call ids else AudioCall.endCall ids
  pure ()

/-- Calls of `endCall`. -/
def ending : System World Scope (Bool × Call × Ids) where
  scope _ _ := .idle
  body a := endCall a.1 a.2.1 a.2.2
  enabled _ _ := True

/-- The event carries on what has been started, and no operation fails. -/
def CarriesOn (_ : Config World Scope) : Event (Bool × Call × Ids) → Prop
  | .call _ _ => False
  | .resume _ ticks => ∀ n, (ticks n).fails = false

/-- An `endCall` has just been called in the world `w`. -/
def endStarted (w : World) (isVideo : Bool) (call : Call) (ids : Ids) : Config World Scope :=
  ending.apply { world := w } (.call (isVideo, call, ids) fun _ => ⟨0, 0, false⟩)

section Run

variable (w₀ : World) (ids : Ids)

/-- The query for a document to be deleted, and what is done with the answer. -/
def queryTask (user : String) (party : Key) (k : Option (Option Document) → Task World Scope) :
    Task World Scope :=
  .act (fun t w => if t.fails then w else w) fun t w =>
    .await (k (if t.fails then none else some (pendingCalls w.store user party).head?))

/-- What is done with the answer to a query. -/
def answerTask (user : String) (k : Bool → Task World Scope) :
    Option (Option Document) → Task World Scope
  | none => k false
  | some none => k true
  | some (some doc) => .fork (delete (.calling user) doc.id).task (k true)

/-- `deleteFirst` written as one request and what is done with its answer, which is the form in
which the two threads of a call's end are followed. -/
theorem deleteFirst_apply (user : String) (party : Key) (k : Bool → Task World Scope) :
    deleteFirst user party k = .await (queryTask user party (answerTask user k)) := by
  have hk : (fun value => (match value with
      | none => pure false
      | some none => pure true
      | some (some doc) => do
        Async.spawn (delete (.calling user) doc.id)
        pure true : Handler Bool) k) = answerTask user k := by
    funext value
    match value with
    | none => rfl
    | some none => rfl
    | some (some doc) => rfl
  rw [← hk]
  rfl

/-- What is left of `endCall` after its first query has been answered. -/
def secondTask (found : Bool) : Task World Scope :=
  if found then .await (queryTask ids.receiverId .receiverId
    (answerTask ids.receiverId fun _ => .done)) else .done

/-- For a call between two users both controllers end it in the same way: one query, and the second
one as a thread of its own that starts only if the first has found a document. -/
theorem endCall_task (isVideo : Bool) {call : Call} (hone : call.receiver = none) :
    (endCall isVideo call ids).task =
      .await (queryTask ids.callerId .callerId (answerTask ids.callerId (secondTask ids))) := by
  have haudio : VideoCall.endCall call ids = AudioCall.endCall ids := by
    simp [VideoCall.endCall, hone]
  have hboth : endCall isVideo call ids = (do let _ ← AudioCall.endCall ids; pure ()) := by
    rw [endCall, haudio, ite_self]
  have hk : (fun found => (if found then deleteFirst ids.receiverId .receiverId else pure false :
      Handler Bool) fun _ => .done) = secondTask ids := by
    funext found
    cases found with
    | false => rfl
    | true => exact deleteFirst_apply ids.receiverId .receiverId fun _ => .done
  rw [hboth, ← hk, ← deleteFirst_apply]
  rfl

/-- A deletion that is on its way. -/
def deleteTask (user : String) (id : DocId) : Task World Scope :=
  .act (fun t w => if t.fails then w else { w with store := w.store.delete (.calling user) id })
    fun t _ => if t.fails then .throw else .await .done

/-- A part of `endCall` that is suspended. -/
def part (t : Task World Scope) : Thread World Scope := ⟨.idle, t⟩

/-- How far the deletion of the document `x`, if there is one, has got: the parts that are
suspended, and what is left of the documents `docs`. -/
inductive Deleting (user : String) (docs : List Document) (x : Option Document) :
    List (Thread World Scope) → List Document → Prop where
  | asked {y : Document} (h : x = some y) : Deleting user docs x [part (deleteTask user y.id)] docs
  | answered : Deleting user docs x [part .done] (without docs x)
  | gone : Deleting user docs x [] (without docs x)

/-- The second half of `endCall`. -/
inductive Second (user : String) (docs : List Document) (x : Option Document) :
    List (Thread World Scope) → List Document → Prop where
  | asked : Second user docs x
      [part (queryTask user .receiverId (answerTask user fun _ => .done))] docs
  | answered : Second user docs x [part (answerTask user (fun _ => .done) (some x))] docs
  | deleting {ths : List (Thread World Scope)} {left : List Document}
      (h : Deleting user docs x ths left) : Second user docs x ths left

/-- The other collections are as they were. -/
def OthersKept (user : String) (w w' : World) : Prop :=
  ∀ q, q ≠ .calling user → w'.store.docs q = w.store.docs q

variable {user : String} {docs left : List Document} {x : Option Document} {ids}
  {ths : List (Thread World Scope)} {th : Thread World Scope} {ticks : ℕ → Tick} {w : World}

theorem Deleting.eq_part (h : Deleting user docs x ths left) (hth : th ∈ ths) : ths = [th] := by
  cases h with
  | asked | answered => rw [List.mem_singleton.mp hth]
  | gone => exact absurd hth List.not_mem_nil

theorem Second.eq_part (h : Second user docs x ths left) (hth : th ∈ ths) : ths = [th] := by
  cases h with
  | asked | answered => rw [List.mem_singleton.mp hth]
  | deleting h => exact h.eq_part hth

/-- A part of a deletion is carried on: the document that was found is taken away, and no other one,
and then the answer only ends the thread. -/
theorem Deleting.resume (h : Deleting user docs x ths left) (hth : th ∈ ths)
    (ht : ∀ n, (ticks n).fails = false) (hw : w.store.docs (.calling user) = left) :
    ∃ left', Deleting user docs x (th.task.run ticks th.scope 0 w).threads left' ∧
      (th.task.run ticks th.scope 0 w).world.store.docs (.calling user) = left' ∧
      OthersKept user w (th.task.run ticks th.scope 0 w).world := by
  cases h with
  | @asked y hy =>
    obtain rfl := List.mem_singleton.mp hth
    simp only [part, deleteTask, Task.run, ht, Bool.false_eq_true, if_false]
    refine ⟨_, .answered, ?_, fun q hq => Store.docs_delete_of_ne hq⟩
    simp [Store.delete, hw, hy, without]
  | answered =>
    obtain rfl := List.mem_singleton.mp hth
    exact ⟨_, .gone, hw, fun _ _ => rfl⟩
  | gone => exact absurd hth List.not_mem_nil

/-- A part of the second half is carried on, below the receiver: the query, its answer, and the
deletion of the document it has found. Nothing else is touched. -/
theorem Second.resume (h : Second user docs x ths left) (hth : th ∈ ths)
    (ht : ∀ n, (ticks n).fails = false) (hw : w.store.docs (.calling user) = left)
    (hx : x = (docs.filter (Fields.isEqualTo .receiverId (.str user) ·.data)).head?) :
    ∃ left', Second user docs x (th.task.run ticks th.scope 0 w).threads left' ∧
      (th.task.run ticks th.scope 0 w).world.store.docs (.calling user) = left' ∧
      OthersKept user w (th.task.run ticks th.scope 0 w).world := by
  cases h with
  | asked =>
    obtain rfl := List.mem_singleton.mp hth
    have hfound : (pendingCalls w.store user .receiverId).head? = x := by
      rw [hx, pendingCalls, Store.query, hw]
    simp only [part, queryTask, Task.run, ht, Bool.false_eq_true, if_false, hfound]
    exact ⟨_, .answered, hw, fun _ _ => rfl⟩
  | answered =>
    obtain rfl := List.mem_singleton.mp hth
    cases x with
    | none => exact ⟨_, .deleting .gone, hw, fun _ _ => rfl⟩
    | some y => exact ⟨_, .deleting (.asked rfl), hw, fun _ _ => rfl⟩
  | deleting h =>
    obtain ⟨left', h', hw', hothers⟩ := h.resume hth ht hw
    exact ⟨left', .deleting h', hw', hothers⟩

/-- How far an `endCall` has got that was started in the world `w₀`. -/
inductive EndState (w₀ : World) (ids : Ids) (c : Config World Scope) : Prop where
  | asked (world : c.world = w₀) (threads : c.threads =
      [part (queryTask ids.callerId .callerId (answerTask ids.callerId (secondTask ids)))])
  | answered (world : c.world = w₀) (threads : c.threads = [part (answerTask ids.callerId
      (secondTask ids) (some (pendingCalls w₀.store ids.callerId .callerId).head?))])
  /-- both halves are under way, or have come to their end -/
  | both {ths₁ ths₂ : List (Thread World Scope)} {left₁ left₂ : List Document}
      (threads : c.threads.Perm (ths₁ ++ ths₂))
      (first : Deleting ids.callerId (w₀.store.docs (.calling ids.callerId))
        (pendingCalls w₀.store ids.callerId .callerId).head? ths₁ left₁)
      (second : Second ids.receiverId (w₀.store.docs (.calling ids.receiverId))
        (pendingCalls w₀.store ids.receiverId .receiverId).head? ths₂ left₂)
      (docs₁ : c.world.store.docs (.calling ids.callerId) = left₁)
      (docs₂ : c.world.store.docs (.calling ids.receiverId) = left₂)
      (others : ∀ q, ¬ ids.Holds q → c.world.store.docs q = w₀.store.docs q) : EndState w₀ ids c

/-- A single suspended part is carried on, or nothing is. -/
theorem resume_part {c : Config World Scope} {t : Task World Scope} (hc : c.threads = [part t])
    (i : ℕ) (ticks : ℕ → Tick) :
    (ending.apply c (.resume i ticks)).world = c.world ∧
        (ending.apply c (.resume i ticks)).threads = c.threads ∨
      (ending.apply c (.resume i ticks)).world = (t.run ticks .idle 0 c.world).world ∧
        (ending.apply c (.resume i ticks)).threads = (t.run ticks .idle 0 c.world).threads := by
  cases i with
  | zero => exact Or.inr (by simp [System.apply, System.outcome, Config.kept, hc, part])
  | succ i => exact Or.inl (by simp [System.apply, System.outcome, Config.kept, hc])

/-- A thread of one of two groups is taken out: the threads left are those of the other group and
the rest of its own. -/
theorem perm_eraseIdx_of_mem {α : Type} {l as bs : List α} {i : ℕ} {a : α}
    (h : l.Perm (as ++ bs)) (hi : l[i]? = some a) :
    (a ∈ as ∧ ∀ as', as = a :: as' → (l.eraseIdx i).Perm (as' ++ bs)) ∨
      (a ∈ bs ∧ ∀ bs', bs = a :: bs' → (l.eraseIdx i).Perm (as ++ bs')) := by
  obtain ⟨hlt, rfl⟩ := List.getElem?_eq_some_iff.mp hi
  have hcons : (l[i] :: l.eraseIdx i).Perm (as ++ bs) := (List.getElem_cons_eraseIdx_perm hlt).trans h
  rcases List.mem_append.mp (h.mem_iff.mp (List.getElem_mem hlt)) with hmem | hmem
  · refine Or.inl ⟨hmem, ?_⟩
    rintro as' has
    rw [has, List.cons_append] at hcons
    exact hcons.cons_inv
  · refine Or.inr ⟨hmem, ?_⟩
    rintro bs' hbs
    rw [hbs] at hcons
    exact (hcons.trans List.perm_middle).cons_inv

/-- Carrying on a part of an `endCall`. The threads of the two halves are kept apart, since they
work below different users; whichever goes on, the other half is as it was. -/
theorem EndState.resume {w₀ : World} {c : Config World Scope} (h : EndState w₀ ids c)
    (hne : ids.callerId ≠ ids.receiverId) (i : ℕ) (ht : ∀ n, (ticks n).fails = false) :
    EndState w₀ ids (ending.apply c (.resume i ticks)) := by
  cases h with
  | asked hw hths =>
    rcases resume_part hths i ticks with ⟨hw', hths'⟩ | ⟨hw', hths'⟩
    · exact .asked (hw'.trans hw) (hths'.trans hths)
    · -- the first query is answered
      refine .answered ?_ ?_
      · rw [hw', hw]
        simp [queryTask, Task.run]
      · rw [hths', hw]
        simp [queryTask, Task.run, ht, part]
  | answered hw hths =>
    rcases resume_part hths i ticks with ⟨hw', hths'⟩ | ⟨hw', hths'⟩
    · exact .answered (hw'.trans hw) (hths'.trans hths)
    · rw [hw] at hw' hths'
      cases hx : (pendingCalls w₀.store ids.callerId .callerId).head? with
      | none =>
        -- nothing is found, and the first half is over
        rw [hx] at hw' hths'
        refine @EndState.both _ _ _ [] [_] _ _ ?_ .gone .asked ?_ ?_ ?_
        · rw [hths']
          exact List.Perm.refl _
        · rw [hw', hx]; rfl
        · rw [hw']; rfl
        · intro q _; rw [hw']; rfl
      | some y =>
        -- the first half still has to delete what it found, while the second one queries
        rw [hx] at hw' hths'
        refine @EndState.both _ _ _ [_] [_] _ _ ?_ (.asked hx) .asked ?_ ?_ ?_
        · rw [hths']
          exact List.Perm.refl _
        · rw [hw']; rfl
        · rw [hw']; rfl
        · intro q _; rw [hw']; rfl
  | @both ths₁ ths₂ left₁ left₂ hths h₁ h₂ hd₁ hd₂ hothers =>
    cases hi : c.threads[i]? with
    | none =>
      rw [System.apply_resume_none hi]
      exact .both hths h₁ h₂ hd₁ hd₂ hothers
    | some th =>
      have hworld : (ending.apply c (.resume i ticks)).world =
          (th.task.run ticks th.scope 0 c.world).world := by
        simp [System.apply, System.outcome, hi]
      have hthreads : (ending.apply c (.resume i ticks)).threads =
          c.threads.eraseIdx i ++ (th.task.run ticks th.scope 0 c.world).threads := by
        simp [System.apply, System.outcome, Config.kept, hi]
      have hne' : (Path.calling ids.callerId) ≠ .calling ids.receiverId := by simpa using hne
      rcases perm_eraseIdx_of_mem hths hi with ⟨hmem, hperm⟩ | ⟨hmem, hperm⟩
      · -- the deletion of the first half
        obtain ⟨left', h₁', hd', hkept⟩ := h₁.resume hmem ht hd₁
        refine @EndState.both _ _ _ _ ths₂ _ _ ?_ h₁' h₂ ?_ ?_ ?_
        · rw [hthreads]
          exact ((hperm [] (h₁.eq_part hmem)).append_right _).trans List.perm_append_comm
        · rw [hworld]; exact hd'
        · rw [hworld, hkept _ hne'.symm]; exact hd₂
        · intro q hq
          rw [hworld, hkept q fun h => hq (Or.inl h)]
          exact hothers q hq
      · -- the deletion of the second half
        obtain ⟨left', h₂', hd', hkept⟩ := h₂.resume hmem ht hd₂ rfl
        refine @EndState.both _ _ _ ths₁ _ _ _ ?_ h₁ h₂' ?_ ?_ ?_
        · rw [hthreads]
          have := (hperm [] (h₂.eq_part hmem)).append_right
            (th.task.run ticks th.scope 0 c.world).threads
          simpa using this
        · rw [hworld, hkept _ hne']; exact hd₁
        · rw [hworld]; exact hd'
        · intro q hq
          rw [hworld, hkept q fun h => hq (Or.inr h)]
          exact hothers q hq

/-- Just after `endCall` has been called. -/
theorem endState_start (w₀ : World) (ids : Ids) (isVideo : Bool) {call : Call}
    (hone : call.receiver = none) : EndState w₀ ids (endStarted w₀ isVideo call ids) := by
  have hrun : ending.outcome { world := w₀ } (.call (isVideo, call, ids) fun _ => ⟨0, 0, false⟩) =
      ⟨w₀, [part (queryTask ids.callerId .callerId (answerTask ids.callerId (secondTask ids)))],
        [], [], 0⟩ := by
    simp only [System.outcome, ending, endCall_task ids isVideo hone]
    rfl
  refine .asked ?_ ?_ <;> simp [endStarted, System.apply, Config.kept, hrun]

/-- **Any schedule**: however the parts of an `endCall` are carried on, it takes out the first
call from its caller and the first call to its receiver, and leaves everything else. -/
theorem ended_of_run {w₀ : World} {isVideo : Bool} {call : Call}
    {es : List (Event (Bool × Call × Ids))} {c : Config World Scope}
    (hone : call.receiver = none) (hne : ids.callerId ≠ ids.receiverId)
    (h : ending.Run CarriesOn (endStarted w₀ isVideo call ids) es c) (hset : c.Settled) :
    c.world.store.docs (.calling ids.callerId) = without (w₀.store.docs (.calling ids.callerId))
        (pendingCalls w₀.store ids.callerId .callerId).head? ∧
      c.world.store.docs (.calling ids.receiverId) =
        without (w₀.store.docs (.calling ids.receiverId))
          (pendingCalls w₀.store ids.receiverId .receiverId).head? ∧
      ∀ q, ¬ ids.Holds q → c.world.store.docs q = w₀.store.docs q := by
  have hstate : EndState w₀ ids c := by
    refine System.Run.induct (I := EndState w₀ ids) (endState_start w₀ ids isVideo hone) ?_ h
    intro c e hc he
    cases e with
    | call a ticks => exact he.elim
    | resume i ticks => exact hc.resume hne i he
  cases hstate with
  | asked _ hths => rw [hset] at hths; cases hths
  | answered _ hths => rw [hset] at hths; cases hths
  | both hths h₁ h₂ hd₁ hd₂ hothers =>
    rw [hset] at hths
    obtain ⟨rfl, rfl⟩ := List.append_eq_nil_iff.mp hths.symm.eq_nil
    cases h₁
    cases h₂ with
    | deleting h₂ =>
      cases h₂
      exact ⟨hd₁, hd₂, hothers⟩

end Run

/-! ## The right call -/

/-- **Ending a call**: whatever is pending, a settled `endCall` of either controller on a call
of one user to another has ended this call and no other just if the documents of the call
were the first ones. -/
theorem endCall_iff {w₀ : World} {isVideo : Bool} {call : Call} {ids : Ids}
    (hone : call.receiver = none) (hne : ids.callerId ≠ ids.receiverId)
    {es : List (Event (Bool × Call × Ids))} {c : Config World Scope}
    (h : ending.Run CarriesOn (endStarted w₀ isVideo call ids) es c) (hset : c.Settled) :
    EndsOnly ids w₀.store c.world.store ↔ Foremost ids w₀.store := by
  obtain ⟨hcaller, hreceiver, hothers⟩ := ended_of_run hone hne h hset
  have hmem₁ : ∀ d, d ∈ c.world.store.docs (.calling ids.callerId) ↔
      d ∈ w₀.store.docs (.calling ids.callerId) ∧
        (pendingCalls w₀.store ids.callerId .callerId).head? ≠ some d := by
    intro d
    rw [hcaller, mem_without head_pendingCalls_mem]
  have hmem₂ : ∀ d, d ∈ c.world.store.docs (.calling ids.receiverId) ↔
      d ∈ w₀.store.docs (.calling ids.receiverId) ∧
        (pendingCalls w₀.store ids.receiverId .receiverId).head? ≠ some d := by
    intro d
    rw [hreceiver, mem_without head_pendingCalls_mem]
  constructor
  · intro hends
    refine ⟨fun d hd => ?_, fun d hd => ?_⟩
    · have hd' := hends (.calling ids.callerId) d
      rw [hmem₁] at hd'
      simpa [hd, Ids.Holds] using (not_congr hd').symm
    · have hd' := hends (.calling ids.receiverId) d
      rw [hmem₂] at hd'
      simpa [hd, Ids.Holds] using (not_congr hd').symm
  · rintro ⟨hfirst₁, hfirst₂⟩ q d
    by_cases hq₁ : q = .calling ids.callerId
    · subst hq₁
      rw [hmem₁]
      refine and_congr_right fun hd => ?_
      simp [Ids.Holds, ← hfirst₁ d hd]
    by_cases hq₂ : q = .calling ids.receiverId
    · subst hq₂
      rw [hmem₂]
      refine and_congr_right fun hd => ?_
      simp [Ids.Holds, ← hfirst₂ d hd]
    · have hq : ¬ ids.Holds q := fun h => h.elim hq₁ hq₂
      rw [hothers q hq]
      simp [hq]

/-- Alice's call to Bob. -/
def aliceToBob : Call :=
  Call.make (person "alice") (person "bob") 5000 "0" false none

/-- What identifies it. -/
def aliceToBobIds : Ids := ⟨"alice", "bob", 5000⟩

/-- All parts of the `endCall` are carried on. -/
def endedBy (w : World) : Config World Scope :=
  ending.exec (endStarted w false aliceToBob aliceToBobIds)
    (List.replicate 8 (.resume 0 fun _ => ⟨0, 0, false⟩))

/-- Alice has called Bob, and nobody else has. -/
def aliceCalling : World := (calling.exec threeUsers (aliceCallsBob false 5000000)).world

theorem run_endedBy (w : World) :
    ending.Run CarriesOn (endStarted w false aliceToBob aliceToBobIds)
      (List.replicate 8 (.resume 0 fun _ => ⟨0, 0, false⟩)) (endedBy w) := by
  refine System.run_exec ?_
  simp [System.Allowed, CarriesOn, List.replicate]

theorem endCall_iff_aliceCalling :
    EndsOnly aliceToBobIds aliceCalling.store (endedBy aliceCalling).world.store ↔
      Foremost aliceToBobIds aliceCalling.store :=
  endCall_iff rfl (by decide) (run_endedBy aliceCalling) (by decide +kernel)

/-- Carol calls Bob while Alice's call is pending, and her document happens to come first. -/
def bothCalling : World :=
  (calling.exec threeUsers (aliceCallsBob false 5000000 ++
    alone 6000000 (.audioAndVideoCallApi 2 (some (person "bob")) false))).world

/-- Alice ends her call: Bob loses the document of Carol's call and keeps that of Alice's. -/
theorem endCall_takes_other :
    calling.Allowed calling.admits threeUsers (aliceCallsBob false 5000000 ++
      alone 6000000 (.audioAndVideoCallApi 2 (some (person "bob")) false)) ∧
    (endedBy bothCalling).Settled ∧
    (∃ d ∈ bothCalling.store.docs (.calling "bob"), ¬ aliceToBobIds.Owns d ∧
      ∀ d' ∈ (endedBy bothCalling).world.store.docs (.calling "bob"), d'.id ≠ d.id) ∧
    ∃ d ∈ (endedBy bothCalling).world.store.docs (.calling "bob"), aliceToBobIds.Owns d := by
  decide +kernel

end FlutterTheme.Calls
