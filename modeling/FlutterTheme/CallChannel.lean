import FlutterTheme.CallSafe
import Mathlib

/-!
# The channel of a call

A call has a channel of its own, drawn at random when it is placed, stored in both its
documents and handed to the screen of each party. Both controllers join `fonts.channel`
instead: the participants of a call are alone in its channel just as long as nobody has
joined (`isolated_iff`).
-/

namespace FlutterTheme.Calls

open EventLoop

/-- The two are calls of their own: placed by different users or at different times. -/
def Call.Differs (call call' : Call) : Prop :=
  call.callerId ≠ call'.callerId ∨ call.timestamp ≠ call'.timestamp

instance (call call' : Call) : Decidable (call.Differs call') :=
  inferInstanceAs (Decidable (_ ∨ _))

/-- Everybody has joined the channel of the call placed or accepted, and nobody the channel
of somebody in another call. -/
structure Isolated (w : World) : Prop where
  own : ∀ j ∈ w.joined, j.call.channelId = some j.channel
  others : ∀ j ∈ w.joined, ∀ j' ∈ w.joined, j.call.Differs j'.call → j.channel ≠ j'.channel

/-- The channel of a call is a number. -/
theorem toString_ne_channel (n : ℕ) : toString n ≠ channel := by
  intro h
  have hdigit : ∀ ch ∈ (toString n).toList, ch.isDigit = true := by
    intro ch hch
    simp only [toString, Nat.repr, String.toList_ofList] at hch
    exact Nat.isDigit_of_mem_toDigits (by decide) (by decide) hch
  rw [h] at hdigit
  exact absurd (hdigit 'f' (by decide)) (by decide)

/-- **Channels**: in every run the participants are isolated just as long as nobody has joined. -/
theorem isolated_iff {users : String → Option User} {session : ℕ → User}
    {agoraToken : ℕ → Option String} {es : List (Event Action)} {c : Config World Scope}
    (h : calling.Run calling.admits (start users session agoraToken) es c) :
    Isolated c.world ↔ c.world.joined = [] := by
  have hc := calls_consistent h
  constructor
  · intro hi
    cases hj : c.world.joined with
    | nil => rfl
    | cons j joined =>
      have hmem : j ∈ c.world.joined := hj ▸ List.mem_cons_self ..
      obtain ⟨hchannel, p, hp, his⟩ := hc.joined j hmem
      obtain ⟨_, _, _, n, _, _, hmade⟩ := hc.placed p hp
      have hn : p.channelId = some (toString n) := congrArg Call.channelId hmade
      have hown : some (toString n) = some channel := by
        rw [← hn, ← his.channelId, hi.own j hmem, hchannel]
      exact absurd (Option.some.inj hown) (toString_ne_channel n)
  · intro hnone
    exact ⟨by simp [hnone], by simp [hnone]⟩

/-- Alice's device has not joined yet. -/
theorem isolated_iff_placing :
    Isolated (calling.exec threeUsers
        [.call (.audioAndVideoCallApi 0 (some (person "bob")) false) fun n => ⟨n, 0, false⟩]).world ↔
      (calling.exec threeUsers
        [.call (.audioAndVideoCallApi 0 (some (person "bob")) false) fun n => ⟨n, 0, false⟩]).world.joined
          = [] :=
  isolated_iff (System.run_exec (by decide +kernel))

/-- Alice calls Bob and Carol calls Alice: the two callers are in one channel, and it is not
the one of either call. -/
theorem channel_shared :
    calling.Allowed calling.admits threeUsers
      (aliceCallsBob false 5000000 ++
        alone 6000000 (.audioAndVideoCallApi 2 (some (person "alice")) true)) ∧
    ∃ j ∈ (calling.exec threeUsers (aliceCallsBob false 5000000 ++
        alone 6000000 (.audioAndVideoCallApi 2 (some (person "alice")) true))).world.joined,
      ∃ j' ∈ (calling.exec threeUsers (aliceCallsBob false 5000000 ++
        alone 6000000 (.audioAndVideoCallApi 2 (some (person "alice")) true))).world.joined,
        j.call.Differs j'.call ∧ j.channel = j'.channel ∧ j.call.channelId ≠ some j.channel := by
  decide +kernel

end FlutterTheme.Calls
