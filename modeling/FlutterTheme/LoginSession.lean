import FlutterTheme.LoginSafe
import Mathlib.Data.List.Induction

/-!
# Who may be stored as `session.user`

Three things store a user: `checkValidation`, for the one number that is let in without a
code, `onFormSubmitted`, and the profile editor that a login has opened. `session_allowed`
says of each what has happened before. The telephone number that was verified is the one of
the stored user, unless a code for another number was asked for on the device in the
meantime, or the user is recognised by the `uid`.
-/

namespace FlutterTheme.Login

open EventLoop DocStore

variable {auth : Auth} {w : World}

/-- The last code asked for on a device was asked for no earlier than any other. -/
theorem lastRequest_latest {requests : List Request} {d i : ℕ} {r last : Request}
    (hi : requests[i]? = some r) (hd : r.device = d) (hlast : lastRequest requests d = some last) :
    ∃ j, i ≤ j ∧ requests[j]? = some last := by
  induction requests using List.reverseRecOn with
  | nil => simp at hi
  | append_singleton requests x ih =>
    rw [lastRequest_snoc] at hlast
    obtain ⟨hlt, hget⟩ := List.getElem?_eq_some_iff.mp hi
    simp only [List.length_append, List.length_singleton] at hlt
    by_cases hx : x.device = d
    · rw [if_pos hx] at hlast
      obtain rfl := Option.some.inj hlast
      exact ⟨requests.length, by omega, by simp⟩
    · rw [if_neg hx] at hlast
      have hne : i ≠ requests.length := by
        rintro rfl
        rw [List.getElem_concat_length rfl] at hget
        exact hx (hget ▸ hd)
      rw [List.getElem?_append_left (by omega)] at hi
      obtain ⟨j, hij, hj⟩ := ih hi hlast
      exact ⟨j, hij, getElem?_extended (List.prefix_append _ _) hj⟩

/-- From the time the code of the sign-in was asked for to the time the account was looked
up, no code for another number was asked for on the device. -/
def Lookup.Undisturbed (requests : List Request) (q : Lookup) (asked : Request) : Prop :=
  ∀ i r, q.signIn.verificationId ≤ i → i < q.requested → requests[i]? = some r →
    r.device = q.signIn.device → r.phone = asked.phone

/-- An undisturbed lookup is for the number that was verified. -/
theorem Lookup.Sound.verified {requests : List Request} {signIns : List SignIn} {q : Lookup}
    (h : q.Sound requests signIns) {asked : Request}
    (hasked : requests[q.signIn.verificationId]? = some asked)
    (hd : asked.device = q.signIn.device) (hq : q.Undisturbed requests asked) :
    q.phone = some asked.phone := by
  obtain ⟨last, hlast, hphone⟩ := h.phone
  have htake : (requests.take q.requested)[q.signIn.verificationId]? = some asked := by
    rw [List.getElem?_take_of_lt h.before]
    exact hasked
  obtain ⟨j, hj, hget⟩ := lastRequest_latest htake hd hlast
  have hlt : j < q.requested := by
    have := (List.getElem?_eq_some_iff.mp hget).1
    simp at this
    omega
  rw [List.getElem?_take_of_lt hlt] at hget
  rw [hphone, hq j last hj hlt hget (of_lastRequest hlast).2]

/-- A lookup that follows a sign-in on the device, and the request of its code. -/
structure SignedIn (auth : Auth) (w : World) (q : Lookup) (asked : Request) : Prop where
  lookup : q ∈ w.lookups
  signIn : q.signIn ∈ w.signIns
  request : w.requests[q.signIn.verificationId]? = some asked
  device : asked.device = q.signIn.device
  /-- the number verified is the one the code was asked for, and bound to the user -/
  number : q.signIn.number = asked.dialCode ++ asked.phone
  user : auth.userOf q.signIn.number = some q.signIn.user

/-- What may be stored as `session.user`. -/
inductive Allowed (auth : Auth) (w : World) : SessionWrite → Prop where
  /-- the user with the number that is let in, after that number has been confirmed -/
  | gate {d : ℕ} {account : Document} (confirmed : (d, gateNumber) ∈ w.confirmed)
      (phone : account.data .phone = some (.str gateNumber)) : Allowed auth w ⟨d, .gate account⟩
  /-- after a sign-in, the user with the number that was verified, or with the `uid` -/
  | submission {q : Lookup} {asked : Request} {account : Document}
      (signedIn : SignedIn auth w q asked)
      (account_of : q.Undisturbed w.requests asked →
        account.data .phone = some (.str asked.phone) ∨
          account.id = .named q.signIn.user.uid) :
      Allowed auth w ⟨q.signIn.device, .submission q.id account⟩
  /-- what the profile editor saves that was opened after a sign-in -/
  | editor {q : Lookup} {asked : Request} {user : Option Data}
      (signedIn : SignedIn auth w q asked) :
      Allowed auth w ⟨q.signIn.device, .editor q.id user⟩

theorem Sound.signedIn (hw : Sound auth w) {n : ℕ} {q : Lookup} (hn : w.lookups[n]? = some q) :
    ∃ asked, SignedIn auth w q asked := by
  obtain ⟨-, hsound⟩ := hw.lookups n q hn
  obtain ⟨⟨asked, hasked, hd, hnumber⟩, huser⟩ := hw.signIns _ hsound.signIn
  exact ⟨asked, List.mem_of_getElem? hn, hsound.signIn, hasked, hd, hnumber, huser⟩

/-- **Sessions**: in every run, a user is stored as `session.user` only for the number that
is let in, or after `signInWithCredential` has succeeded on the device for the number of the
user. -/
theorem session_allowed {store : Store Path Key Value} {platform : ℕ → Platform}
    {es : List (Event Action)} {c : Config World Unit}
    (h : (login auth).Run (login auth).admits (start store platform) es c) :
    ∀ x ∈ c.world.session, Allowed auth c.world x := by
  have hs : Sound auth c.world := (login_kept h).inv
  rintro ⟨d, stored⟩ hx
  have hstored := hs.session _ hx
  cases stored with
  | gate account => exact .gate hstored.1 hstored.2
  | submission n account =>
    obtain ⟨q, hn, rfl, ha⟩ := hstored
    obtain ⟨rfl, hsound⟩ := hs.lookups n q hn
    obtain ⟨asked, hsigned⟩ := hs.signedIn hn
    refine .submission hsigned fun hq => ?_
    rcases ha with hfound | ⟨-, hid⟩
    · have hphone := (of_firstWith hfound).2
      rw [hsound.verified hsigned.request hsigned.device hq] at hphone
      exact Or.inl hphone
    · exact Or.inr hid
  | editor n user =>
    obtain ⟨q, hn, rfl⟩ := hstored
    obtain ⟨rfl, -⟩ := hs.lookups n q hn
    obtain ⟨asked, hsigned⟩ := hs.signedIn hn
    exact .editor hsigned

/-! ## With a code and without -/

/-- Carol has an account. -/
def onlyCarol (phone : String) : Config World Unit :=
  start (Store.empty.set .users ("+1" ++ phone) 0 (.ofList [(.id, .str ("+1" ++ phone)),
    (.name, .str "Carol"), (.phone, .str phone)])) fun _ => {}

/-- Carol signs in with a code. -/
theorem session_allowed_carol :
    0 < ((login byNumber).exec (onlyCarol "5550100")
        (signsIn 0 0 "+1" "5550100")).world.session.length ∧
    ∀ x ∈ ((login byNumber).exec (onlyCarol "5550100")
        (signsIn 0 0 "+1" "5550100")).world.session,
      Allowed byNumber ((login byNumber).exec (onlyCarol "5550100")
        (signsIn 0 0 "+1" "5550100")).world x := by
  have hrun : (login byNumber).Run (login byNumber).admits (onlyCarol "5550100")
      (signsIn 0 0 "+1" "5550100")
      ((login byNumber).exec (onlyCarol "5550100") (signsIn 0 0 "+1" "5550100")) :=
    System.run_exec (by decide +kernel)
  exact ⟨by decide +kernel, session_allowed hrun⟩

/-- The number that is let in is typed and confirmed. -/
def throughGate : List (Event Action) :=
  alone (.typePhone 0 "+1" gateNumber) ++ alone (.checkValidation 0)

/-- The session is that of the user with the number, and nobody has signed in. -/
theorem session_without_signIn :
    (login byNumber).Allowed (login byNumber).admits (onlyCarol gateNumber) throughGate ∧
    (((login byNumber).exec (onlyCarol gateNumber) throughGate).world.sessionUser 0).isSome = true ∧
    ((login byNumber).exec (onlyCarol gateNumber) throughGate).world.signIns = [] := by
  decide +kernel

end FlutterTheme.Login
