import FlutterTheme.CallDeeds
import FlutterTheme.History

/-!
# The grid of a video call

`VideoCallController.users` is the list of the remote users that the grid shows. A user is added to
it by `onUserJoined`; `onUserOffline` sets `remoteUid` to 0 before it removes it, so that it removes
the user 0, and nobody else.

* `grid_iff` — when the list follows who is in the channel.
-/

namespace FlutterTheme.Calls.Grid

open EventLoop

/-- The events of the engine. -/
inductive GridEvent : Type where
  | onUserJoined (remoteUid : ℕ)
  | onUserOffline (remoteUid : ℕ)
  | onLeaveChannel
  deriving DecidableEq, Repr

/-- The callback of the controller `k`. -/
def GridEvent.body (k : ℕ) : GridEvent → Handler Unit
  | onUserJoined remoteUid => VideoCall.onUserJoined k remoteUid
  | onUserOffline _ => VideoCall.onUserOffline k
  | onLeaveChannel => VideoCall.onLeaveChannel k

/-- One screen of a video call. -/
def videoGrid (k : ℕ) : System World Scope GridEvent where
  scope _ _ := .idle
  body := GridEvent.body k
  enabled w _ := k < w.ctrl.size

/-- The list that the grid shows. -/
def shown (k : ℕ) (c : Config World Scope) : List ℕ := (c.world.ctrl.get k).users

/-! ## Who is there -/

/-- Who is in the channel, in order of joining, when these were before the event. -/
def present (users : List ℕ) : Event GridEvent → List ℕ
  | .call (.onUserJoined uid) _ => if uid ∈ users then users else users ++ [uid]
  | .call (.onUserOffline uid) _ => users.erase uid
  | .call .onLeaveChannel _ => []
  | .resume _ _ => users

/-- What becomes of the list at the event. -/
def change (users : List ℕ) : Event GridEvent → List ℕ
  | .call (.onUserJoined uid) _ => users ++ [uid]
  | .call (.onUserOffline _) _ => users.erase 0
  | .call .onLeaveChannel _ => []
  | .resume _ _ => users

/-- Who joins is not there yet; who leaves is the user 0, or nobody leaves, and 0 is not there. -/
def Fits (users : List ℕ) : Event GridEvent → Prop
  | .call (.onUserJoined uid) _ => uid ∉ users
  | .call (.onUserOffline uid) _ => uid = 0 ∨ uid ∉ users ∧ 0 ∉ users
  | .call .onLeaveChannel _ | .resume _ _ => True

instance (users : List ℕ) : (e : Event GridEvent) → Decidable (Fits users e)
  | .call (.onUserJoined uid) _ => inferInstanceAs (Decidable (uid ∉ users))
  | .call (.onUserOffline uid) _ => inferInstanceAs (Decidable (uid = 0 ∨ uid ∉ users ∧ 0 ∉ users))
  | .call .onLeaveChannel _ | .resume _ _ => inferInstanceAs (Decidable True)

section Lists

variable {users : List ℕ} {e : Event GridEvent}

/-- Nobody is in the channel twice, as who joins again is not counted again. -/
theorem nodup_present (h : users.Nodup) : (present users e).Nodup := by
  cases e with
  | resume i ticks => exact h
  | call a ticks =>
    cases a with
    | onUserJoined uid =>
      rw [present]
      split
      · exact h
      · next huid => exact List.nodup_append.mpr ⟨h, List.nodup_singleton uid, by grind⟩
    | onUserOffline uid => exact h.erase uid
    | onLeaveChannel => exact List.nodup_nil

/-- The list follows at the event just if it fits: a join adds whoever it is, also somebody who is
there, and a leave takes out the user 0, as which `remoteUId` has been set by then. -/
theorem change_eq_iff (h : users.Nodup) : change users e = present users e ↔ Fits users e := by
  cases e with
  | resume i ticks => exact iff_of_true rfl trivial
  | call a ticks =>
    cases a with
    | onUserJoined uid =>
      rw [change, present, Fits]
      split
      · next huid => simp [huid]
      · next huid => simp [huid]
    | onUserOffline uid =>
      rw [change, present, Fits]
      constructor
      · intro heq
        by_contra hnot
        rw [not_or, not_and_or, not_not, not_not] at hnot
        obtain ⟨hzero, huid⟩ := hnot
        have hmem : ∀ v, v ∈ users.erase 0 ↔ v ∈ users.erase uid := fun v => by rw [heq]
        simp only [h.mem_erase_iff] at hmem
        rcases huid with huid | huid
        · exact ((hmem uid).mp ⟨hzero, huid⟩).1 rfl
        · exact ((hmem 0).mpr ⟨fun h => hzero h.symm, huid⟩).1 rfl
      · rintro (rfl | ⟨huid, hzero⟩)
        · rfl
        · rw [List.erase_of_not_mem huid, List.erase_of_not_mem hzero]
    | onLeaveChannel => exact iff_of_true rfl trivial

end Lists

/-! ## What the callbacks do -/

/-- The controllers are left as they are. -/
def keeping : Deeds World where
  rel _ w w' := w'.ctrl = w.ctrl
  refl _ _ := rfl

section Callbacks

variable {k : ℕ} {w : World} {c : Config World Scope} {e : Event GridEvent}

theorem keeping_writeHistory {writer : Writer} {user : String} {timestamp : ℕ} {u : Data} :
    (writeHistory writer user timestamp u).All keeping := by
  refine Async.all_bind (Async.all_modify fun _ _ => rfl) fun _ => ?_
  refine Async.all_spawn (Async.all_bind Async.all_enter fun _ => ?_)
  refine Async.all_bind Async.all_pause fun _ => Async.all_sync fun t w => ?_
  simp only
  split
  · exact keeping.refl t w
  · rfl

theorem keeping_increment {id : String} {key : Key} : (increment id key).All keeping := by
  refine Async.all_spawn (Async.all_bind Async.all_pause fun _ => Async.all_sync fun t w => ?_)
  simp only
  split
  · exact keeping.refl t w
  · rfl

theorem keeping_now : now.All keeping := Async.all_sync keeping.refl

theorem keeping_pickedUpEach {timestamp : ℕ} :
    ∀ {users : List String}, (pickedUpEach timestamp users).All keeping
  | [] => Async.all_pure
  | _ :: _ => Async.all_bind keeping_now fun _ => Async.all_bind keeping_writeHistory fun _ =>
      Async.all_bind keeping_increment fun _ => keeping_pickedUpEach

theorem keeping_endEach {writer : Writer} {timestamp : ℕ} :
    ∀ {users : List String}, (endEach writer timestamp users).All keeping
  | [] => Async.all_pure
  | _ :: _ => Async.all_bind keeping_now fun _ => Async.all_bind keeping_writeHistory fun _ =>
      keeping_endEach

theorem keeping_currentCall {s : CallController} : (currentCall s).All keeping := by
  unfold currentCall
  split
  · split
    · exact Async.all_pure
    · exact Async.all_throw
  · exact Async.all_throw

/-- What a callback does to the fields of its controller. -/
def GridEvent.fields (s : CallController) : GridEvent → CallController
  | onUserJoined remoteUid =>
    { s with remoteUidValue := some remoteUid, users := s.users ++ [remoteUid] }
  | onUserOffline _ => { s with users := s.users.erase 0 }
  | onLeaveChannel => { s with remoteUId := none, users := [] }

/-- A callback changes its controller first, and leaves the controllers alone then. -/
theorem body_eq (a : GridEvent) : ∃ m : Handler Unit, m.All keeping ∧
    a.body k = (modifyCtrl k a.fields >>= fun _ => m) := by
  cases a with
  | onUserJoined remoteUid =>
    refine ⟨_, ?_, rfl⟩
    refine Async.all_bind Async.all_get fun s => Async.all_bind keeping_currentCall fun x => ?_
    refine Async.all_ite (Async.all_bind keeping_now fun _ => ?_) Async.all_pure
    exact Async.all_bind keeping_writeHistory fun _ => Async.all_bind keeping_increment fun _ =>
      keeping_pickedUpEach
  | onUserOffline remoteUid =>
    refine ⟨_, ?_, rfl⟩
    refine Async.all_bind Async.all_get fun s => Async.all_ite ?_ Async.all_pure
    exact Async.all_bind keeping_currentCall fun x => keeping_endEach
  | onLeaveChannel =>
    refine ⟨_, ?_, rfl⟩
    refine Async.all_bind Async.all_get fun s => Async.all_ite ?_ Async.all_pure
    refine Async.all_bind keeping_currentCall fun x => ?_
    exact Async.all_bind (Async.all_spawn (Async.all_remote fun _ _ => rfl)) fun _ =>
      keeping_endEach

/-- What is left alone by the actions of a segment. -/
theorem ctrl_run {t : Task World Scope} (ht : t.All keeping) {ticks : ℕ → Tick} {l : Scope} {n : ℕ} :
    (t.run ticks l n w).world.ctrl = w.ctrl := by
  refine Task.run_invariant (g := World.ctrl) fun st hst => ?_
  obtain ⟨i, hi⟩ := List.getElem?_of_mem hst
  exact ht.steps i st hi

/-- The controllers after an event, and the calls it leaves. -/
theorem ctrl_apply (hc : c.All keeping) (e : Event GridEvent) :
    ((videoGrid k).apply c e).All keeping ∧
      ((videoGrid k).apply c e).world.ctrl = (match e with
        | .call a _ => c.world.ctrl.modify k a.fields
        | .resume _ _ => c.world.ctrl) := by
  cases e with
  | resume i ticks =>
    refine ⟨System.apply_all hc trivial, ?_⟩
    cases hth : c.threads[i]? with
    | none => simp only [System.apply, System.outcome, hth]
    | some th =>
      simp only [System.apply, System.outcome, hth]
      exact ctrl_run (hc th (List.mem_of_getElem? hth))
  | call a ticks =>
    obtain ⟨m, hm, hbody⟩ := body_eq (k := k) a
    have hrun : (a.body k).task.run ticks .idle 0 c.world =
        (modifyCtrl k a.fields >>= fun _ => m).task.run ticks .idle 0 c.world := by rw [hbody]
    refine ⟨fun th hth => ?_, ?_⟩
    · rcases List.mem_append.mp hth with hth | hth
      · exact hc th hth
      · have hmem : th ∈ ((a.body k).task.run ticks .idle 0 c.world).threads := hth
        rw [hrun] at hmem
        exact hm.task.threads th hmem
    · have hworld : ((videoGrid k).apply c (.call a ticks)).world =
          ((modifyCtrl k a.fields >>= fun _ => m).task.run ticks .idle 0 c.world).world := by
        rw [← hrun]
        rfl
      rw [hworld]
      exact ctrl_run hm.task

/-- What becomes of the list. -/
theorem shown_apply (hc : c.All keeping) (e : Event GridEvent) :
    shown k ((videoGrid k).apply c e) = change (shown k c) e := by
  rw [shown, shown, (ctrl_apply hc e).2]
  cases e with
  | resume i ticks => rfl
  | call a ticks =>
    rw [Heap.get_modify, if_pos rfl]
    cases a with
    | onUserJoined remoteUid => rfl
    | onUserOffline remoteUid => rfl
    | onLeaveChannel => rfl

/-- The list after some events. -/
theorem shown_exec : ∀ {es : List (Event GridEvent)} {c : Config World Scope}, c.All keeping →
    shown k ((videoGrid k).exec c es) = es.foldl change (shown k c)
  | [], _, _ => rfl
  | e :: es, c, hc => by
    have hrest : shown k ((videoGrid k).exec ((videoGrid k).apply c e) es) =
        es.foldl change (shown k ((videoGrid k).apply c e)) := shown_exec (ctrl_apply hc e).1
    rw [shown_apply hc] at hrest
    exact hrest

end Callbacks

/-- **The list follows who is in the channel exactly if** nobody joins who is there already, and
nobody leaves but the user 0. -/
theorem grid_iff {k : ℕ} {w : World} (hempty : (w.ctrl.get k).users = [])
    (es : List (Event GridEvent)) :
    (∀ es' e, es' ++ [e] <+: es → shown k ((videoGrid k).exec { world := w } (es' ++ [e])) =
      (es' ++ [e]).foldl present []) ↔ History.Each present Fits [] es := by
  have hnone : (⟨w, [], []⟩ : Config World Scope).All keeping :=
    fun th hth => absurd hth List.not_mem_nil
  have hfold : ∀ es', shown k ((videoGrid k).exec { world := w } es') = es'.foldl change [] := by
    intro es'
    rw [shown_exec hnone, shown, hempty]
  simp only [hfold]
  rw [History.foldl_eq_iff]
  exact History.each_congr (I := List.Nodup) (fun _ _ hnodup => change_eq_iff hnodup)
    (fun _ _ hnodup _ => nodup_present hnodup) List.nodup_nil

/-! ## Bob leaves -/

/-- A video call is on the screen. -/
def onScreen : World :=
  { World.initial (fun _ => none) (fun _ => default) fun _ => none with
    ctrl := Heap.empty.alloc { device := 0, isVideo := true } }

/-- Bob and Carol join, and the call is left. -/
theorem grid_iff_joined : (∀ es' e,
    es' ++ [e] <+: [.call (.onUserJoined 7) fun _ => ⟨0, 0, false⟩,
      .call (.onUserJoined 8) fun _ => ⟨0, 0, false⟩, .call .onLeaveChannel fun _ => ⟨0, 0, false⟩] →
    shown 0 ((videoGrid 0).exec { world := onScreen } (es' ++ [e])) =
      (es' ++ [e]).foldl present []) ↔
    History.Each present Fits [] [.call (.onUserJoined 7) fun _ => ⟨0, 0, false⟩,
      .call (.onUserJoined 8) fun _ => ⟨0, 0, false⟩, .call .onLeaveChannel fun _ => ⟨0, 0, false⟩] :=
  grid_iff rfl _

/-- **Who has left is still shown.** -/
theorem left_shown : ¬ ∀ {k : ℕ} {w : World}, (w.ctrl.get k).users = [] →
    ∀ (es : List (Event GridEvent)) es' e, es' ++ [e] <+: es →
      shown k ((videoGrid k).exec { world := w } (es' ++ [e])) = (es' ++ [e]).foldl present [] := by
  intro hclaim
  have hshown := hclaim (k := 0) (w := onScreen) rfl
    [.call (.onUserJoined 7) fun _ => ⟨0, 0, false⟩, .call (.onUserOffline 7) fun _ => ⟨0, 0, false⟩]
    [.call (.onUserJoined 7) fun _ => ⟨0, 0, false⟩] (.call (.onUserOffline 7) fun _ => ⟨0, 0, false⟩)
    (List.prefix_refl _)
  exact absurd hshown (by decide +kernel)

end FlutterTheme.Calls.Grid
