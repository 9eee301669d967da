import FlutterTheme.Calls
import Mathlib.Logic.Function.Iterate

/-!
# The names of the members of a group

The header of a group chat and the title of a call to the group are built from the list of members,
each by a loop of its own. Both loops leave out the members that are named like the user, whoever
they are; the one of the call compares a further name with itself, and adds none.

* `header_eq`, `title_eq` — what the two loops give.
* `agree_iff` — when both are the names of the members other than the user.
-/

namespace FlutterTheme.MemberNames

open Calls EventLoop

/-! ## The loops -/

/-- `GroupChatMessageController`, as far as `getPeerStatus` reads and writes it; `users` are those of
`pData`. -/
structure GroupChatMessageController where
  user : User
  users : List Member
  nameList : Option String := none

/-- The body of the loop of `getPeerStatus`. -/
def addName (user : User) (nameList : Option String) (receiver : Member) : Option String :=
  if nameList ≠ none ∧ nameList ≠ some "" then
    if some receiver.name ≠ user.name then some (nameList.getD "null" ++ ", " ++ receiver.name)
    else nameList
  else
    if some receiver.name ≠ user.name then some receiver.name else nameList

/-- `getPeerStatus`, with whether the group is found. -/
def getPeerStatus (s : GroupChatMessageController) (found : Bool) : GroupChatMessageController :=
  let s := { s with nameList := some "" }
  if found then { s with nameList := s.users.foldl (addName s.user) none } else s

/-- What the header shows of the names, for a group that is found. -/
def header (user : User) (members : List Member) : String :=
  (getPeerStatus ⟨user, members, none⟩ true).nameList.getD ""

/-- The title of the call after `onJoinChannelSuccess` has been called so many times. -/
def title (user : User) (members : List Member) (times : ℕ) : String :=
  (nameListOf user members)^[times] ""

theorem ctrl_writeEach {writer : Writer} {timestamp : ℕ} {u : String → Data} {ticks : ℕ → Tick}
    {l : Scope} : ∀ {users : List String} {n : ℕ} {w : World},
      ((writeEach writer timestamp users u).task.run ticks l n w).world.ctrl = w.ctrl
  | [], _, _ => rfl
  | _ :: _, _, w => ctrl_writeEach (w := { w with writes := _ :: w.writes })

/-- What is written for a call leaves the controllers alone. -/
theorem ctrl_joined {call : Call} {ids : Ids} {user : User} {callerName : Option String}
    {ticks : ℕ → Tick} {l : Scope} {n : ℕ} {w : World} :
    ((if ids.callerId = user.id then do
        writeHistory (.join true) ids.callerId ids.timestamp
          (callerRecord call "outGoing" "calling" callerName .null)
        writeEach (.join true) ids.timestamp (call.others ids user) fun receiverId =>
          receiverRecord call receiverId "inComing" "missedCall" callerName .null
      else pure () : Handler Unit).task.run ticks l n w).world.ctrl = w.ctrl := by
  split
  · exact ctrl_writeEach (w := { w with writes := _ :: w.writes })
  · rfl

/-- The callback keeps the title in the controller. -/
theorem nameList_onJoinChannelSuccess {k : ℕ} {w : World} {call : Call} {ids : Ids}
    {members : List Member} (hcall : (w.ctrl.get k).call = some call) (hids : call.ids = some ids)
    (hreceiver : call.receiver = some members) (ticks : ℕ → Tick) (l : Scope) :
    (((VideoCall.onJoinChannelSuccess k).task.run ticks l 0 w).world.ctrl.get k).nameList =
      nameListOf (w.ctrl.get k).userData members (w.ctrl.get k).nameList := by
  set s := (w.ctrl.modify k fun s => { s with localUserJoined := true }).get k with hs
  have hjoined : s = { w.ctrl.get k with localUserJoined := true } := by
    rw [hs, Heap.get_modify, if_pos rfl]
  have hcurrent : currentCall s = pure (call, ids) := by
    rw [hjoined, currentCall]
    simp only [hcall, hids]
  have hctrl : ((VideoCall.onJoinChannelSuccess k).task.run ticks l 0 w).world.ctrl =
      (w.ctrl.modify k fun s => { s with localUserJoined := true }).modify k fun s' =>
        { s' with nameList := nameListOf s.userData (call.receiver.getD []) s.nameList } := by
    change ((currentCall s >>= fun x => _ : Handler Unit).task.run ticks l 2 _).world.ctrl = _
    rw [hcurrent]
    exact @ctrl_joined call ids s.userData
      (if call.receiver.isSome then
        some (nameListOf s.userData (call.receiver.getD []) s.nameList) else call.callerName)
      ticks l 3 { w with
        ctrl := (w.ctrl.modify k fun s => { s with localUserJoined := true }).modify k fun s' =>
          { s' with nameList := nameListOf s.userData (call.receiver.getD []) s.nameList } }
  rw [hctrl, Heap.get_modify, if_pos rfl, ← hs, hjoined, hreceiver]
  rfl

/-! ## What both are to be -/

/-- The names of the members other than the user. -/
def otherNames (user : User) (members : List Member) : List String :=
  (members.filter (·.id ≠ user.id)).map (·.name)

/-- The header, and the title whenever it has been built, are these names. -/
structure Agree (user : User) (members : List Member) : Prop where
  header : header user members = ", ".intercalate (otherNames user members)
  title : ∀ n, title user members (n + 1) = ", ".intercalate (otherNames user members)

/-! ## What the loops give -/

section Loops

variable {user : User} {m : Member} {members : List Member} {s : String}

/-- The member is named like the user, or has an empty name. -/
def Silent (user : User) (m : Member) : Prop := some m.name = user.name ∨ m.name = ""

instance : DecidablePred (Silent user) := fun _ => inferInstanceAs (Decidable (_ ∨ _))

/-- The names that are not the user's. -/
def names (user : User) (members : List Member) : List String :=
  (members.filter fun m => some m.name ≠ user.name).map (·.name)

/-- Those that are not empty, and what follows them. -/
def visible (user : User) (members : List Member) : List String :=
  (names user members).dropWhile (· = "")

theorem names_cons_of_eq (h : some m.name = user.name) :
    names user (m :: members) = names user members := by
  rw [names, List.filter_cons_of_neg (by simpa using h)]
  rfl

theorem names_cons_of_ne (h : some m.name ≠ user.name) :
    names user (m :: members) = m.name :: names user members := by
  rw [names, List.filter_cons_of_pos (by simpa using h)]
  rfl

theorem visible_cons_of_silent (h : Silent user m) :
    visible user (m :: members) = visible user members := by
  by_cases heq : some m.name = user.name
  · rw [visible, names_cons_of_eq heq]
    rfl
  · rw [visible, names_cons_of_ne heq, List.dropWhile_cons_of_pos (by simpa using h.resolve_left heq)]
    rfl

theorem visible_cons_of_not_silent (h : ¬ Silent user m) :
    visible user (m :: members) = m.name :: names user members := by
  obtain ⟨hne, hempty⟩ := not_or.mp h
  rw [visible, names_cons_of_ne hne, List.dropWhile_cons_of_neg (by simpa using hempty)]

/-- A name that is added to the last one. -/
theorem intercalate_concat {t : String} : ∀ {l : List String},
    ", ".intercalate ((s ++ ", " ++ t) :: l) = ", ".intercalate (s :: t :: l)
  | [] => by simp
  | _ :: _ => by simp [String.append_assoc]

/-- The loop of the header, once there is a name. -/
theorem foldl_addName_some : ∀ {members : List Member} {s : String}, s ≠ "" →
    members.foldl (addName user) (some s) = some (", ".intercalate (s :: names user members))
  | [], s, _ => by rw [names, List.filter_nil, List.map_nil, String.intercalate_singleton]; rfl
  | m :: members, s, hs => by
    have hcond : some s ≠ none ∧ some s ≠ some "" := ⟨Option.some_ne_none s, fun h => hs (Option.some.inj h)⟩
    by_cases heq : some m.name = user.name
    · rw [List.foldl_cons, addName, if_pos hcond, if_neg (not_not.mpr heq), names_cons_of_eq heq]
      exact foldl_addName_some hs
    · have hne : s ++ ", " ++ m.name ≠ "" := by simp [hs]
      rw [List.foldl_cons, addName, if_pos hcond, if_pos heq, names_cons_of_ne heq,
        ← intercalate_concat]
      exact foldl_addName_some hne

/-- The loop of the header, before there is a name. -/
theorem foldl_addName : ∀ {members : List Member} {nameList : Option String},
    nameList = none ∨ nameList = some "" →
    (members.foldl (addName user) nameList).getD "" = ", ".intercalate (visible user members)
  | [], nameList, h => by
    rcases h with rfl | rfl <;> rfl
  | m :: members, nameList, h => by
    have hcond : ¬ (nameList ≠ none ∧ nameList ≠ some "") := by
      rcases h with rfl | rfl <;> simp
    rw [List.foldl_cons, addName, if_neg hcond]
    by_cases hsilent : Silent user m
    · rw [visible_cons_of_silent hsilent]
      refine foldl_addName ?_
      split
      · next hne => exact .inr (congrArg some (hsilent.resolve_left hne))
      · exact h
    · obtain ⟨hne, hempty⟩ := not_or.mp hsilent
      rw [if_pos hne, foldl_addName_some hempty, visible_cons_of_not_silent hsilent]
      rfl

/-- **The header.** -/
theorem header_eq : header user members = ", ".intercalate (visible user members) :=
  foldl_addName (.inl rfl)

theorem nameListOf_of_ne : ∀ {members : List Member} {s : String}, s ≠ "" →
    nameListOf user members s = s
  | [], _, _ => rfl
  | m :: members, s, hs => by
    rw [nameListOf, if_pos hs]
    exact nameListOf_of_ne hs

/-- The loop with an empty list so far: silent members leave it empty, and the first member with a
name fills it, after which nothing is added any more. -/
theorem nameListOf_empty : ∀ {members : List Member},
    nameListOf user members "" = (visible user members).headD ""
  | [] => rfl
  | m :: members => by
    rw [nameListOf, if_neg (not_not.mpr rfl)]
    by_cases hsilent : Silent user m
    · have hname : (if some m.name ≠ user.name then m.name else "") = "" := by
        split
        · next hne => exact hsilent.resolve_left hne
        · rfl
      rw [hname, visible_cons_of_silent hsilent]
      exact nameListOf_empty
    · obtain ⟨hne, hempty⟩ := not_or.mp hsilent
      rw [if_pos hne, visible_cons_of_not_silent hsilent, nameListOf_of_ne hempty]
      rfl

/-- **The title** is the first name, however often the callback is called. -/
theorem title_eq : ∀ n, title user members (n + 1) = (visible user members).headD ""
  | 0 => nameListOf_empty
  | n + 1 => by
    have hfixed : nameListOf user members ((visible user members).headD "") =
        (visible user members).headD "" := by
      by_cases h : (visible user members).headD "" = ""
      · rw [h, nameListOf_empty, h]
      · exact nameListOf_of_ne h
    rw [title, Function.iterate_succ_apply']
    exact (congrArg (nameListOf user members) (title_eq n)).trans hfixed

end Loops

/-! ## When they agree -/

section Agreement

variable {user : User} {m : Member} {members : List Member} {n : String} {l : List String}

/-- Every name is in the text. -/
theorem length_le_intercalate : ∀ {l : List String}, n ∈ l →
    n.length ≤ (", ".intercalate l).length
  | [t], h => by
    obtain rfl := List.mem_singleton.mp h
    rw [String.intercalate_singleton]
  | t :: t' :: l, h => by
    rw [String.intercalate_cons_cons, String.length_append, String.length_append]
    rcases List.mem_cons.mp h with rfl | h
    · omega
    · have := length_le_intercalate h
      omega

/-- The text is one of the names only if there is no other. -/
theorem eq_singleton_of_intercalate (h : n ∈ l) (heq : ", ".intercalate l = n) : l = [n] := by
  match l, h with
  | [t], h => rw [List.mem_singleton.mp h]
  | t :: t' :: l, h =>
    have hlength := congrArg String.length heq
    rw [String.intercalate_cons_cons, String.length_append, String.length_append] at hlength
    have hsep : (", " : String).length = 2 := rfl
    rcases List.mem_cons.mp h with rfl | h
    · omega
    · have := length_le_intercalate h
      omega

theorem eq_of_intercalate_eq_empty (h : ", ".intercalate l = "") : l = [] ∨ l = [""] := by
  match l with
  | [] => exact .inl rfl
  | [t] => exact .inr (by rw [← h, String.intercalate_singleton])
  | t :: t' :: l =>
    have hlength := congrArg String.length h
    rw [String.intercalate_cons_cons, String.length_append, String.length_append] at hlength
    have hsep : (", " : String).length = 2 := rfl
    have hempty : ("" : String).length = 0 := rfl
    omega

theorem names_eq_nil : names user members = [] ↔ ∀ m ∈ members, some m.name = user.name := by
  rw [names, List.map_eq_nil_iff, List.filter_eq_nil_iff]
  simp only [decide_eq_true_eq, not_not]

/-- No name is shown exactly if all members are silent. By recursion on the members. -/
theorem visible_eq_nil : ∀ {members : List Member},
    visible user members = [] ↔ ∀ m ∈ members, Silent user m
  | [] => iff_of_true rfl fun _ h => absurd h List.not_mem_nil
  | m :: members => by
    rw [List.forall_mem_cons]
    by_cases h : Silent user m
    · rw [visible_cons_of_silent h, visible_eq_nil]
      exact (and_iff_right h).symm
    · rw [visible_cons_of_not_silent h]
      exact iff_of_false (List.cons_ne_nil _ _) fun h' => h h'.1

/-- One member is named, apart from those named like the user and, before it, those with an empty
name. -/
structure Named (user : User) (before : List Member) (m : Member) (after : List Member) : Prop where
  before : ∀ m' ∈ before, Silent user m'
  named : ¬ Silent user m
  after : ∀ m' ∈ after, some m'.name = user.name

/-- The names shown are one name exactly if one member has it and every other member, before and
after, is silent. By recursion on the members. -/
theorem visible_eq_singleton : ∀ {members : List Member}, visible user members = [n] ↔
    ∃ before m after, members = before ++ m :: after ∧ Named user before m after ∧ m.name = n
  | [] => by
    refine iff_of_false (List.cons_ne_nil _ _).symm ?_
    rintro ⟨before, m, after, heq, -⟩
    exact absurd heq (by simp)
  | m :: members => by
    by_cases h : Silent user m
    · rw [visible_cons_of_silent h, visible_eq_singleton]
      constructor
      · rintro ⟨before, m', after, rfl, hnamed, rfl⟩
        exact ⟨m :: before, m', after, rfl,
          ⟨List.forall_mem_cons.mpr ⟨h, hnamed.before⟩, hnamed.named, hnamed.after⟩, rfl⟩
      · rintro ⟨before, m', after, heq, hnamed, rfl⟩
        cases before with
        | nil =>
          obtain ⟨rfl, -⟩ := List.cons.inj heq
          exact absurd h hnamed.named
        | cons m'' before =>
          obtain ⟨rfl, rfl⟩ := List.cons.inj heq
          exact ⟨before, m', after, rfl,
            ⟨(List.forall_mem_cons.mp hnamed.before).2, hnamed.named, hnamed.after⟩, rfl⟩
    · rw [visible_cons_of_not_silent h]
      constructor
      · intro heq
        obtain ⟨rfl, hnames⟩ := List.cons.inj heq
        exact ⟨[], m, members, rfl,
          ⟨fun _ hm => absurd hm List.not_mem_nil, h, names_eq_nil.mp hnames⟩, rfl⟩
      · rintro ⟨before, m', after, heq, hnamed, rfl⟩
        cases before with
        | nil =>
          obtain ⟨rfl, rfl⟩ := List.cons.inj heq
          rw [names_eq_nil.mpr hnamed.after]
        | cons m'' before =>
          obtain ⟨rfl, -⟩ := List.cons.inj heq
          exact absurd (hnamed.before m (List.mem_cons_self ..)) h

/-- The members other than the user. -/
def others (user : User) (members : List Member) : List Member := members.filter (·.id ≠ user.id)

/-- No name is shown, or one. -/
inductive Alike (user : User) (members : List Member) : Prop where
  /-- nobody is named, and there is at most one other member -/
  | silent (h : ∀ m ∈ members, Silent user m) (hothers : (others user members).length ≤ 1)
      (hempty : ∀ m ∈ others user members, m.name = "")
  /-- the only other member is named -/
  | other (before : List Member) (m : Member) (after : List Member)
      (heq : members = before ++ m :: after) (h : Named user before m after)
      (hothers : others user members = [m])
  /-- the user's entry is named, and by chance it is what the names of the others make -/
  | self (before : List Member) (m : Member) (after : List Member)
      (heq : members = before ++ m :: after) (h : Named user before m after)
      (hid : m.id = user.id) (hname : m.name = ", ".intercalate (otherNames user members))

/-- Both are the same only if at most one name is shown: the loop of the call keeps the first name
only, and the header joins all of them. -/
theorem agree_iff_visible : Agree user members ↔
    (visible user members = [] ∧ ", ".intercalate (otherNames user members) = "") ∨
      visible user members = [", ".intercalate (otherNames user members)] := by
  constructor
  · intro h
    have hheader := h.header
    have htitle := h.title 0
    rw [header_eq] at hheader
    rw [title_eq] at htitle
    cases hvisible : visible user members with
    | nil =>
      rw [hvisible, String.intercalate_nil] at hheader
      exact .inl ⟨rfl, hheader.symm⟩
    | cons n l =>
      rw [hvisible] at hheader htitle
      have hone : n :: l = [n] :=
        eq_singleton_of_intercalate (List.mem_cons_self ..) (hheader.trans htitle.symm)
      rw [hone, ← htitle]
      exact .inr rfl
  · intro h
    rcases h with ⟨hvisible, hempty⟩ | hvisible
    · refine ⟨?_, fun n => ?_⟩
      · rw [header_eq, hvisible, hempty, String.intercalate_nil]
      · rw [title_eq, hvisible, hempty]
        rfl
    · refine ⟨?_, fun n => ?_⟩
      · rw [header_eq, hvisible, String.intercalate_singleton]
      · rw [title_eq, hvisible]
        rfl

/-- There is nothing to be shown. -/
theorem intercalate_otherNames_eq_empty : ", ".intercalate (otherNames user members) = "" ↔
    (others user members).length ≤ 1 ∧ ∀ m ∈ others user members, m.name = "" := by
  have hnames : otherNames user members = (others user members).map (·.name) := rfl
  rw [hnames]
  constructor
  · intro h
    rcases eq_of_intercalate_eq_empty h with h | h
    · rw [List.map_eq_nil_iff.mp h]
      exact ⟨Nat.zero_le 1, fun _ hm => absurd hm List.not_mem_nil⟩
    · obtain ⟨m, hm, hname⟩ := List.map_eq_singleton_iff.mp h
      rw [hm]
      exact ⟨le_refl 1, fun m' hm' => List.mem_singleton.mp hm' ▸ hname⟩
  · rintro ⟨hlength, hempty⟩
    match hothers : others user members, hlength, hempty with
    | [], _, _ => exact String.intercalate_nil
    | [m], _, hempty =>
      rw [List.map_singleton, String.intercalate_singleton]
      exact hempty m (List.mem_singleton_self m)

/-- **Both lists agree** on the names of the other members just when at most one name is shown, and
this one is all that is to be shown. -/
theorem agree_iff : Agree user members ↔ Alike user members := by
  rw [agree_iff_visible, intercalate_otherNames_eq_empty, visible_eq_nil, visible_eq_singleton]
  constructor
  · rintro (⟨hsilent, hlength, hempty⟩ | ⟨before, m, after, heq, hnamed, hname⟩)
    · exact .silent hsilent hlength hempty
    · by_cases hid : m.id = user.id
      · exact .self before m after heq hnamed hid hname
      · refine .other before m after heq hnamed ?_
        have hm : m ∈ others user members := by
          refine List.mem_filter.mpr ⟨?_, decide_eq_true hid⟩
          rw [heq]
          exact List.mem_append_right _ (List.mem_cons_self ..)
        have hone : (others user members).map (·.name) = [m.name] :=
          eq_singleton_of_intercalate (List.mem_map_of_mem hm) hname.symm
        obtain ⟨m', hm', -⟩ := List.map_eq_singleton_iff.mp hone
        rw [hm'] at hm ⊢
        rw [List.mem_singleton.mp hm]
  · rintro (⟨hsilent, hlength, hempty⟩ | ⟨before, m, after, heq, hnamed, hothers⟩ |
      ⟨before, m, after, heq, hnamed, -, hname⟩)
    · exact .inl ⟨hsilent, hlength, hempty⟩
    · refine .inr ⟨before, m, after, heq, hnamed, ?_⟩
      rw [otherNames, show members.filter (·.id ≠ user.id) = [m] from hothers, List.map_singleton,
        String.intercalate_singleton]
    · exact .inr ⟨before, m, after, heq, hnamed, hname⟩

/-- Alice, in a group with Bob and Carol. -/
def alice : User := ⟨"a", some "Alice", none, none⟩

def friends : List Member := [⟨"a", "Alice"⟩, ⟨"b", "Bob"⟩, ⟨"c", "Carol"⟩]

/-- **The title names only Bob.** -/
theorem title_of_friends : ¬ ∀ (user : User) (members : List Member),
    (members.map (·.id)).Nodup → user.id ∈ members.map (·.id) → Agree user members := by
  intro h
  have htitle := (h alice friends (by decide) (by decide)).title 0
  exact absurd htitle (by decide)

end Agreement

end FlutterTheme.MemberNames
