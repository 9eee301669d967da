import FlutterTheme.LoginSafe
import FlutterTheme.Promises

/-!
# Whose account a login hands out

A lookup is a promise: the account that is found by its telephone number is going to be
handed out (`lookupPromises`). The account is looked for by the number without its dial
code, which several users may have; `identity_iff` says when it is nevertheless the one of
the user who has signed in.
-/

namespace FlutterTheme.Login

open EventLoop DocStore

variable {auth : Auth} {w w' : World}

/-- The login that made the `n`-th lookup has stored the account as `session.user`, or has
passed it to the profile editor. -/
def World.Hands (w : World) (n : ℕ) (account : Document) : Prop :=
  (∃ x ∈ w.session, x.stored = .submission n account) ∨
    ∃ k < w.editors.size, (w.editors.get k).lookup = n ∧ (w.editors.get k).account = account

theorem World.Hands.later {n : ℕ} {account : Document} (h : w.Hands n account)
    (hw : w.Extends w') : w'.Hands n account := by
  rcases h with ⟨x, hx, hstored⟩ | ⟨k, hk, hn, ha⟩
  · exact Or.inl ⟨x, hw.session hx, hstored⟩
  · obtain ⟨-, hlookup, haccount⟩ := hw.editors.2 k hk
    exact Or.inr ⟨k, Nat.lt_of_lt_of_le hk hw.editors.1, hlookup.trans hn, haccount.trans ha⟩

/-- What a login hands out is what its lookup leads to. -/
theorem Sound.leadsTo (hw : Sound auth w) {q : Lookup} (hq : q ∈ w.lookups) {account : Document}
    (h : w.Hands q.id account) : q.LeadsTo account := by
  obtain ⟨n, hn⟩ := List.getElem?_of_mem hq
  obtain ⟨rfl, -⟩ := hw.lookups n q hn
  rcases h with ⟨x, hx, hstored⟩ | ⟨k, hk, hid, rfl⟩
  · have hsound := hw.session x hx
    rw [hstored] at hsound
    obtain ⟨q', hq', -, ha⟩ := hsound
    rw [hn] at hq'
    exact Option.some.inj hq' ▸ ha
  · obtain ⟨q', hq', -, ha⟩ := hw.editors k hk
    rw [hid, hn] at hq'
    exact Option.some.inj hq' ▸ ha

/-! ## The lookups as promises -/

/-- The account that is found is handed out as soon as the answer arrives. -/
theorem hands_lookedUp {q : Lookup} {account : Document} (h : q.found = some account)
    (ticks : ℕ → Tick) (l : Unit) (n : ℕ) (w : World) :
    ((lookedUp q).task.run ticks l n w).world.Hands q.id account := by
  by_cases hnew : isNew account
  · simp only [lookedUp, h, hnew]
    refine Or.inr ⟨w.editors.size, Nat.lt_succ_self _, ?_⟩
    simp [Async.task, Async.bind_apply, toEditProfile, modifyOtp, modifyDevice, Async.modify,
      Async.sync, Task.run, World.modifyDevice, Heap.alloc]
  · refine Or.inl ⟨⟨q.signIn.device, .submission q.id account⟩, ?_, rfl⟩
    simp only [lookedUp, h, hnew]
    exact List.mem_cons_self ..

/-- The account that a lookup finds is to be handed out. -/
def lookupPromises (auth : Auth) : Promises ((loginProtocol auth True).protocol Unit) Lookup where
  log := World.lookups
  answer q := (lookedUp q).task
  kept q w := ∀ account, q.found = some account → w.Hands q.id account
  stable hw h account ha := (h account ha).later hw
  prompt _ ticks l n _ ha := hands_lookedUp ha ticks l n _

/-- What looks up no account makes no promise. -/
theorem RunsLogin.honours {m : Handler Unit} (h : RunsLogin auth False m w) :
    m.task.Honours (lookupPromises auth) () w := by
  refine Task.Safe.honours (A := lookupPromises auth)
    ((loginProtocol auth False).protocol Unit) id id id ?_ (h.safe ())
  intro _ w w' hstep
  exact hstep.resolve_left id

/-- A lookup is promised at the moment it is asked for, and the call does nothing but wait for its
answer. -/
theorem honours_lookUp (s : SignIn) : (lookUp s).task.Honours (lookupPromises auth) () w := by
  intro t
  refine ⟨?_, Or.inl rfl⟩
  intro w' _ hs _ t'
  by_cases ht : t'.fails = true
  · simp only [if_pos ht]
    exact ⟨fun _ _ _ _ => trivial, Or.inl trivial⟩
  · simp only [if_neg ht]
    refine ⟨?_, Or.inr ⟨_, rfl, rfl⟩⟩
    intro w'' (hle : World.Extends _ w'') hs' _
    refine (runs_lookedUp hs' ?_).honours
    exact getElem?_extended hle.lookups (by simp)

theorem honours_signedIn (d : ℕ) (value : Option (Option SignIn)) :
    Async.Honours (lookupPromises auth) (signedIn d value) () w fun _ _ _ => True := by
  match value with
  | some (some s) => exact Async.honours_spawn (honours_lookUp s) fun _ _ _ => trivial
  | some none | none =>
    refine Async.honours_bind (Async.honours_sync fun t => ⟨rfl, ?_⟩)
    exact Async.honours_sync fun t => ⟨rfl, trivial⟩

/-- The code that was typed is checked first, and only what comes after the answer makes a promise:
the sign-in goes on in the same way whether the check failed or not. -/
theorem honours_onFormSubmitted (d : ℕ) :
    (onFormSubmitted auth d).task.Honours (lookupPromises auth) () w := by
  refine (Async.honours_bind (Q := fun _ _ _ => True) ?_).task
  refine Async.honours_sync fun t => ⟨rfl, Async.honours_bind ?_⟩
  refine Async.honours_sync fun t => ⟨rfl, ?_⟩
  split
  · refine Async.honours_spawn (Async.honours_bind (Q := fun _ _ _ => True) ?_).task
      fun _ _ _ => trivial
    refine Async.honours_attempt (fun w' _ _ t => ⟨?_, fun _ _ _ => honours_signedIn d _⟩)
      fun _ _ _ => honours_signedIn d _
    split
    · split <;> rfl
    · rfl
  · exact Async.honours_throw

/-- Every lookup of a run is honoured: its answer is there, or the call that waits for it is. By
induction on the run. -/
theorem login_honoured {store : Store Path Key Value} {platform : ℕ → Platform}
    {es : List (Event Action)} {c : Config World Unit}
    (h : (login auth).Run (login auth).admits (start store platform) es c) :
    c.Honoured (lookupPromises auth) := by
  have hinitial : (loginProtocol auth True).inv (start store platform).world :=
    sound_initial auth store platform
  refine System.Run.honoured (A := lookupPromises auth) ⟨hinitial, by simp [start]⟩
    ⟨by simp [start], by simp [start, lookupPromises, World.initial]⟩ ?_ ?_ h
  · intro c e hc he
    exact System.provides_of_runs (fun a _ hs ha => runs_action hs a ha fun _ _ => trivial) hc he
  · intro c a ticks hc ha
    by_cases hsubmit : ∃ d, a = .onFormSubmitted d
    · obtain ⟨d, rfl⟩ := hsubmit
      exact honours_onFormSubmitted d
    · refine RunsLogin.honours (runs_action hc.inv a ha ?_)
      exact fun d hd => hsubmit ⟨d, hd⟩

/-! ## The account that is handed out -/

section Identity

variable {store : Store Path Key Value} {platform : ℕ → Platform} {es : List (Event Action)}
  {c : Config World Unit} {q : Lookup}

/-- Whatever happens, the login that made the lookup hands out no account but the one of the
user who has signed in. -/
def HandsOwn (auth : Auth) (c : Config World Unit) (q : Lookup) : Prop :=
  ∀ es' c', (login auth).Run (login auth).admits c es' c' →
    ∀ account, c'.world.Hands q.id account → account.id = .named q.signIn.user.uid

/-- **Login identity**: in every run, a login hands out the account of the user who has
signed in just when no other user document comes first among those with the telephone
number, as it is looked for. -/
theorem identity_iff (h : (login auth).Run (login auth).admits (start store platform) es c)
    (hq : q ∈ c.world.lookups) :
    HandsOwn auth c q ↔
      ∀ account, firstWith q.users .phone (.ofString q.phone) = some account →
        account.id = .named q.signIn.user.uid := by
  have hc := login_kept h
  constructor
  · intro hown account hfound
    have hdue := (login_honoured h).due q hq
    rcases System.kept_of_due (S := login auth) hc hdue fun _ => ⟨0, 0, false⟩ with hkept | ⟨i, hkept⟩
    · exact hown [] c .nil account (hkept account hfound)
    · refine hown _ _ (.snoc .nil (.resume i fun _ => ⟨0, 0, false⟩) trivial) account ?_
      exact hkept account hfound
  · intro hfirst es' c' h' account hhands
    have hc' := login_kept (h.append h')
    have hle : c.world.Extends c'.world := by
      refine System.Run.later hc (fun c e hc he => ?_) h'
      exact System.provides_of_runs (fun a _ hs ha => runs_action hs a ha fun _ _ => trivial) hc he
    rcases Sound.leadsTo hc'.inv (hle.lookups.subset hq) hhands with hfound | ⟨-, hid⟩
    · exact hfirst account hfound
    · exact hid

/-- Two logins that each hand out their own account never hand out the same one, if their
full numbers differ. -/
theorem HandsOwn.differ {q' : Lookup} (hs : Sound auth c.world) (hq : q ∈ c.world.lookups)
    (hq' : q' ∈ c.world.lookups) (hown : HandsOwn auth c q) (hown' : HandsOwn auth c q')
    (hne : q.signIn.number ≠ q'.signIn.number) {account account' : Document}
    (h : c.world.Hands q.id account) (h' : c.world.Hands q'.id account') :
    account.id ≠ account'.id := by
  intro heq
  rw [hown [] c .nil account h, hown' [] c .nil account' h', DocId.named.injEq] at heq
  have huser : ∀ q ∈ c.world.lookups, auth.userOf q.signIn.number = some q.signIn.user := by
    intro q hq
    obtain ⟨n, hn⟩ := List.getElem?_of_mem hq
    exact (hs.signIns _ (hs.lookups n q hn).2.signIn).user
  exact hne (auth.uid_inj (huser q hq) (huser q' hq') heq)

end Identity

/-! ## Two users with one number -/

/-- Nobody has an account. -/
def nobody : Config World Unit := start .empty fun _ => {}

/-- An American and a British number with the same digits: the second user finds the account
of the first. -/
def sameDigits : List (Event Action) := signsIn 0 0 "+1" "5550100" ++ signsIn 1 1 "+44" "5550100"

theorem identity_iff_first :
    ∃ q ∈ ((login byNumber).exec nobody (signsIn 0 0 "+1" "5550100")).world.lookups,
      HandsOwn byNumber ((login byNumber).exec nobody (signsIn 0 0 "+1" "5550100")) q := by
  have hrun : (login byNumber).Run (login byNumber).admits nobody (signsIn 0 0 "+1" "5550100")
      ((login byNumber).exec nobody (signsIn 0 0 "+1" "5550100")) :=
    System.run_exec (by decide +kernel)
  have hq : ∃ q ∈ ((login byNumber).exec nobody (signsIn 0 0 "+1" "5550100")).world.lookups,
      (firstWith q.users .phone (.ofString q.phone)).isNone = true := by decide +kernel
  obtain ⟨q, hq, hnone⟩ := hq
  refine ⟨q, hq, (identity_iff hrun hq).mpr ?_⟩
  intro account haccount
  rw [haccount] at hnone
  exact absurd hnone (by simp)

/-- The second user is handed the account of the first. -/
theorem identity_mistaken :
    (login byNumber).Allowed (login byNumber).admits nobody sameDigits ∧
    ∃ q ∈ ((login byNumber).exec nobody sameDigits).world.lookups,
      ¬ HandsOwn byNumber ((login byNumber).exec nobody sameDigits) q := by
  refine ⟨by decide +kernel, ?_⟩
  have hq : ∃ q ∈ ((login byNumber).exec nobody sameDigits).world.lookups,
      ∃ k < ((login byNumber).exec nobody sameDigits).world.editors.size,
        (((login byNumber).exec nobody sameDigits).world.editors.get k).lookup = q.id ∧
        (((login byNumber).exec nobody sameDigits).world.editors.get k).account.id ≠
          .named q.signIn.user.uid := by decide +kernel
  obtain ⟨q, hq, k, hk, hlookup, hne⟩ := hq
  exact ⟨q, hq, fun hown => hne (hown [] _ .nil _ (Or.inr ⟨k, hk, hlookup, rfl⟩))⟩

end FlutterTheme.Login
