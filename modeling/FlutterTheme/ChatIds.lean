import FlutterTheme.Deeds
import FlutterTheme.Clients
import FlutterTheme.IntParse

/-!
# Identifiers of conversations

A conversation gets the microseconds of the clock as its identifier, in `onSendMessage`, in
`blockUser` and for the recipients of a broadcast (`Deed.mint`). Nothing makes them differ but
the clocks: two pairs of users get the same identifier exactly if both ids were made at the same
reading (`chatIds_fresh`), as the recipients of one broadcast may (`chatIds_collide`).
-/

namespace FlutterTheme

open EventLoop DocStore

/-- Two different pairs of users never have the same identifier. -/
def Fresh (w : World) : Prop := ∀ e ∈ w.minted, ∀ e' ∈ w.minted, e.1 = e'.1 → e.2 = e'.2

instance (w : World) : Decidable (Fresh w) :=
  inferInstanceAs (Decidable (∀ e ∈ w.minted, ∀ e' ∈ w.minted, e.1 = e'.1 → e.2 = e'.2))

/-- The pairs of users that get an identifier at an action, with the reading of its clock. -/
def minting (a : Tick × EventLoop.Step World Scope) : List (ℕ × Sym2 String) :=
  (a.2.after.minted.take (a.2.after.minted.length - a.2.before.minted.length)).map
    fun e => (a.1.now, e.2)

/-- The pairs of users that get an identifier in a run, with the readings of the clock. -/
def mintings (c : Clients) (es : List (Event Action)) : List (ℕ × Sym2 String) :=
  (messaging.trace c es).flatMap minting

/-- The entry of an identifier that was made at a reading of the clock. -/
def registration (m : ℕ × Sym2 String) : String × Sym2 String := (toString m.1, m.2)

/-- The registry after one action. -/
theorem Deed.minted {W : Write Path Key Value → Prop} {t : Tick}
    {st : EventLoop.Step World Scope} (h : Deed W t st.before st.after) :
    st.after.minted = (minting (t, st)).reverse.map registration ++ st.before.minted := by
  obtain ⟨l, w, w'⟩ := st
  change Deed W t w w' at h
  cases h with
  | screens store minted => simp [minting, minted]
  | mint users store minted => simp [minting, minted, registration]
  | notify n sent | write op permitted => simp [minting]

/-- The registry after a number of actions. -/
theorem minted_of_leads {acts : List (Tick × EventLoop.Step World Scope)} :
    ∀ {w w' : World}, Leads w (acts.map Prod.snd) w' →
      (∀ a ∈ acts, Deed Written a.1 a.2.before a.2.after) →
      w'.minted = (acts.flatMap minting).reverse.map registration ++ w.minted := by
  induction acts with
  | nil =>
    rintro w _ rfl -
    rfl
  | cons a acts ih =>
    rintro w w' ⟨rfl, hleads⟩ hdeeds
    rw [ih hleads fun a' ha' => hdeeds a' (List.mem_cons_of_mem _ ha'),
      (hdeeds a (List.mem_cons_self ..)).minted]
    simp [List.reverse_append]

variable {session : ℕ → UserData} {es : List (Event Action)} {c : Clients}

/-- The registry has the readings of the clocks, and nothing else. -/
theorem minted_eq (h : messaging.Run messaging.admits (Clients.initial session) es c) :
    c.world.minted = (mintings (Clients.initial session) es).reverse.map registration := by
  have hall : (Clients.initial session).All (handlers Written) := fun th hth =>
    absurd hth List.not_mem_nil
  have hleads : Leads _ (messaging.moves (Clients.initial session) es) _ := System.leads_moves
  rw [← h.exec_eq] at hleads
  rw [minted_of_leads hleads (deed_of_trace hall)]
  exact List.append_nil _

/-- **Freshness of identifiers.** Two different pairs of users get the same identifier exactly if
both got it at the same reading of the clock. -/
theorem chatIds_fresh (h : messaging.Run messaging.admits (Clients.initial session) es c) :
    Fresh c.world ↔ ∀ m ∈ mintings (Clients.initial session) es,
      ∀ m' ∈ mintings (Clients.initial session) es, m.1 = m'.1 → m.2 = m'.2 := by
  have hmem : ∀ e, e ∈ c.world.minted ↔
      ∃ m ∈ mintings (Clients.initial session) es, registration m = e := by
    intro e
    rw [minted_eq h, List.mem_map]
    simp only [List.mem_reverse]
  constructor
  · intro hfresh m hm m' hm' heq
    have hid : (registration m).1 = (registration m').1 := congrArg toString heq
    exact hfresh _ ((hmem _).mpr ⟨m, hm, rfl⟩) _ ((hmem _).mpr ⟨m', hm', rfl⟩) hid
  · intro hdiffer e he e' he' heq
    obtain ⟨m, hm, rfl⟩ := (hmem e).mp he
    obtain ⟨m', hm', rfl⟩ := (hmem e').mp he'
    exact hdiffer m hm m' hm' (toString_inj.mp heq)

/-- Alice creates a broadcast for Bob and Carol, with whom she has no chat yet, and sends a message
to it; the loop over the recipients reads this clock. -/
def firstBroadcast (loop : ℕ → Tick) : List (Event Action) :=
  alone 1 (.openCreate 0 false) ++ alone 2 (.selectUserTap 0 (person "bob")) ++
    alone 3 (.selectUserTap 0 (person "carol")) ++ alone 4 (.addGroupBottomSheet 0) ++
    .call (.sendToBroadcast 0 "hello" .text) loop :: settle 500 32

/-- With every action a microsecond passes. -/
theorem chatIds_fresh_firstBroadcast :
    Fresh (messaging.exec (Clients.initial aliceAndBob)
      (firstBroadcast fun n => ⟨5 + n, 0, false⟩)).world := by
  have hrun : messaging.Run messaging.admits (Clients.initial aliceAndBob)
      (firstBroadcast fun n => ⟨5 + n, 0, false⟩) _ := System.run_exec (by decide +kernel)
  exact (chatIds_fresh hrun).mpr (by decide +kernel)

/-- Both recipients are reached within a microsecond. -/
theorem chatIds_collide :
    ¬ ∀ (es : List (Event Action)) (c : Clients),
      messaging.Run messaging.admits (Clients.initial aliceAndBob) es c →
      messaging.NonDecreasing (Clients.initial aliceAndBob) es → Fresh c.world := by
  intro h
  have hallowed : messaging.Allowed messaging.admits (Clients.initial aliceAndBob)
      (firstBroadcast (clock 5)) := by decide +kernel
  have hnot : ¬ Fresh (messaging.exec (Clients.initial aliceAndBob)
      (firstBroadcast (clock 5))).world := by decide +kernel
  exact hnot (h _ _ (System.run_exec hallowed) (by decide +kernel))

end FlutterTheme
