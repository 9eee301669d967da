import FlutterTheme.Machine
import FlutterTheme.Actions
import FlutterTheme.Group
import Mathlib.Algebra.Order.BigOperators.Group.Multiset
import Mathlib.Algebra.Order.Ring.Nat

/-!
# Creating a group

`createGroup` adds the creator to the selected contacts before its first awaited step and puts
everything back at its very end, so a call that throws on the way leaves the creator selected and
the screen loading. `groups_created` is what holds of all runs in which no step throws, however
the calls are resumed: every call creates one group, with the contacts selected and the creator,
and every member gets one entry for it.
-/

namespace FlutterTheme.GroupCreation

open EventLoop DocStore

/-! ## The runs -/

/-- What a user does on the screen that creates a group. -/
inductive Action : Type where
  | tap : UserData → Action
  | edit : String → Option String → Action
  | create : Action

/-- The screen with the controller `g`. -/
def grouping (g : ℕ) : System World Scope Action where
  scope _ _ := .idle
  body
    | .tap value => selectUserTap g value
    | .edit name imageFile => editGroup g name imageFile
    | .create => createGroup g
  enabled _ _ := True

/-- Whom a group created on the screen is to have: the contacts selected, and the creator. -/
def chosen (g : ℕ) (w : World) : List SelectedContact :=
  let s := w.createCtrl.get g
  let user := w.session s.device
  s.entries s.selectedContact ++
    [{ id := user.id, name := user.name, phone := user.phone, image := user.image }]

/-- Whom the groups created at the events are to have, in order. -/
def calls (g : ℕ) (c : Config World Scope) : List (Event Action) → List (List SelectedContact)
  | [] => []
  | .call .create ticks :: es =>
    chosen g c.world :: calls g ((grouping g).apply c (.call .create ticks)) es
  | e :: es => calls g ((grouping g).apply c e) es

/-- Nothing is done on the screen while a call is under way, the creator and the contacts selected
have distinct ids, and the clock never shows the id of a group that exists. -/
structure Attempt (g : ℕ) (c : Config World Scope) (e : Event Action) : Prop where
  turn : ∀ a ticks, e = .call a ticks → (c.world.createCtrl.get g).isLoading = false ∨ c.Settled
  distinct : ∀ ticks, e = .call .create ticks → ((chosen g c.world).map (·.id)).Nodup
  fresh : ∀ n, c.world.store.doc? .groups (.named (toString (e.ticks n).now)) = none

/-- What is to hold after the events `es`, carried out from `w₀` on. -/
structure Created (g : ℕ) (w₀ : World) (es : List (Event Action)) (c : Config World Scope) :
    Prop where
  /-- a group that has been created lists those chosen for it -/
  groups : ∀ x ∈ c.world.store.docs .groups, x ∈ w₀.store.docs .groups ∨
    ∃ users ∈ calls g ⟨w₀, [], []⟩ es, x.data .users = some (.contacts users) ∧
      (users.map (·.id)).Nodup
  /-- every call that is over has created its group -/
  each : (c.world.createCtrl.get g).isLoading = false →
    ((c.world.store.docs .groups).map (·.data .users)).Perm
      ((w₀.store.docs .groups).map (·.data .users) ++
        (calls g ⟨w₀, [], []⟩ es).map fun users => some (.contacts users))
  /-- every user listed gets one entry -/
  entries : c.Settled → ∀ x ∈ c.world.store.docs .groups, x ∉ w₀.store.docs .groups →
    ∀ b users, x.data .groupId = some (.str b) → x.data .users = some (.contacts users) →
      ∀ m ∈ users,
        (c.world.store.query (.chats m.id) (Fields.isEqualTo .groupId (.str b))).length = 1
  /-- a call that fails leaves the screen as it was -/
  restored : ∀ es₁ ticks es₂, es = es₁ ++ .call .create ticks :: es₂ →
    (∀ e ∈ es₂, ∃ i ticks, e = .resume i ticks) → c.Settled →
    ((grouping g).exec ⟨w₀, [], []⟩ es₁).uncaught.length < c.uncaught.length →
      chosen g c.world = chosen g ((grouping g).exec ⟨w₀, [], []⟩ es₁).world ∧
      (c.world.createCtrl.get g).isLoading = false

/-! ## The points of the program -/

/-- Where a call of `createGroup`, or one it has started, is suspended. The `user` creates the
group on the device `d`. -/
inductive Point : Type where
  /-- the image is on its way to the storage -/
  | put (d : ℕ) (user : UserData) (fileName : String) : Point
  /-- it is there -/
  | stored (d : ℕ) (user : UserData) (fileName : String) : Point
  /-- the group has got its id -/
  | delay (d : ℕ) (user : UserData) (id : String) : Point
  /-- the group is on its way to the store -/
  | set (d : ℕ) (user : UserData) (id : String) (data : Data) : Point
  /-- it is there -/
  | written (d : ℕ) (user : UserData) (id : String) : Point
  /-- the group is to be read -/
  | read (d : ℕ) (user : UserData) (id : String) : Point
  /-- it has been read -/
  | answer (d : ℕ) (user : UserData) (id : String) (value : Option Document) : Point
  /-- the address of the image is to be fetched -/
  | fetch (fileName : String) : Point
  /-- it has been fetched, or has not -/
  | fetched (fileName : String) (downloadUrl : Option Unit) : Point
  /-- a document is on its way to the store -/
  | add (path : Path) (data : Data) : Point
  /-- it is there -/
  | added : Point

/-- `createGroup` when the image is in the storage. -/
def identify (g d : ℕ) (user : UserData) : Call Unit := do
  let id ← microsecondsSinceEpoch
  Async.enter (.group id)
  createGroupDocs g d user id

/-- The address of the image becomes known, or cannot be fetched. -/
def setImageUrl (g : ℕ) (fileName : String) : Option Unit → Call Unit
  | some _ => modifyCreate g fun s => { s with imageUrl := fileName }
  | none => pure ()

/-- The address of the image is fetched. -/
def fetchUrl (g : ℕ) (fileName : String) : Call Unit := do
  let downloadUrl ← Async.attempt fun _ w => ((), w)
  setImageUrl g fileName downloadUrl

/-- Everything on the screen is put back. -/
def cleared (s : CreateGroupController) : CreateGroupController :=
  { s with selectedContact := [], txtGroupName := "", isLoading := false, imageUrl := "",
           imageFile := none }

/-- The screen of the group is shown. -/
def showGroup (d : ℕ) (value : Option Document) : Call Unit :=
  match value with
  | some group => openGroup d group.data
  | none => Async.throw

/-- `createGroup` when the group has been read. -/
def finish (g d : ℕ) (user : UserData) (id : String) (value : Option Document) : Call Unit := do
  let s ← createGroupCtrl g
  addGroupEntries s user id
  modifyCreate g cleared
  showGroup d value

/-- `createGroup` when the group has been written. -/
def announce (g d : ℕ) (user : UserData) (id : String) : Call Unit := do
  let s ← createGroupCtrl g
  Async.spawn (addGroupCreated s user id)
  let value ← getDoc .groups (.named id)
  finish g d user id value

/-- `createGroup` when the time it waits is over. -/
def writeGroup (g d : ℕ) (user : UserData) (id : String) : Call Unit := do
  let timestamp ← millisecondsSinceEpoch
  let s ← createGroupCtrl g
  FlutterTheme.set .groups id
    (groupFields s.txtGroupName s.imageUrl (s.entries s.selectedContact) id user timestamp)
  announce g d user id

/-- What a call has left to do. -/
def task (g : ℕ) : Point → Task World Scope
  | .put d user fileName =>
    .request (fun _ w => ((), w)) fun _ =>
      (do Async.spawn (fetchUrl g fileName); identify g d user : Call Unit).task
  | .stored d user fileName =>
    (do Async.spawn (fetchUrl g fileName); identify g d user : Call Unit).task
  | .delay d user id => (writeGroup g d user id).task
  | .set d user id data =>
    .request (fun t w => ((), { w with store := w.store.set .groups id t.pos data })) fun _ =>
      (announce g d user id).task
  | .written d user id => (announce g d user id).task
  | .read d user id =>
    .request (fun _ w => (w.store.doc? .groups (.named id), w)) fun value =>
      (finish g d user id value).task
  | .answer d user id value => (finish g d user id value).task
  | .fetch fileName =>
    .tryRequest (fun _ w => ((), w)) fun downloadUrl => (setImageUrl g fileName downloadUrl).task
  | .fetched fileName downloadUrl => (setImageUrl g fileName downloadUrl).task
  | .add path data =>
    .request (fun t w => ((), { w with store := w.store.add path t.pos data })) fun _ => .done
  | .added => .done

/-! ## The program as a machine -/

/-- The controller of the screen changes. -/
def modified (g : ℕ) (w : World) (f : CreateGroupController → CreateGroupController) : World :=
  { w with createCtrl := w.createCtrl.modify g f }

/-- The screen of the group opens, if the group has been found. -/
def opened (d : ℕ) (value : Option Document) (w : World) : Segment World Point :=
  match value with
  | some group =>
    match group.data .groupId, group.data .name, group.data .users with
    | some (.str pId), some (.str pName), some (.contacts users) =>
      { world := { w with groupCtrl := w.groupCtrl.alloc {
          device := d, pId := pId, pName := pName, users := users } } }
    | _, _, _ => .threw w
  | none => .threw w

/-- The entries of the members, on their way to the store. -/
def entryPoints (receiverId : List SelectedContact) (user : UserData) (id : String)
    (ticks : ℕ → Tick) : ℕ → List SelectedContact → List Point
  | _, [] => []
  | n, e :: es =>
    .add (.chats e.id) (groupEntryFields receiverId user id (toString ((ticks n).now / 1000))) ::
      entryPoints receiverId user id ticks (n + 1) es

/-- What a call does that is resumed. -/
def resume (g : ℕ) : Point → (ℕ → Tick) → World → Segment World Point
  | .put d user fileName, ticks, w =>
    if (ticks 0).fails then .threw w else { world := w, points := [.stored d user fileName] }
  | .stored d user fileName, ticks, w =>
    { world := w, points := [.fetch fileName, .delay d user (toString (ticks 0).now)] }
  | .delay d user id, ticks, w =>
    let s := w.createCtrl.get g
    { world := w
      points := [.set d user id (groupFields s.txtGroupName s.imageUrl
        (s.entries s.selectedContact) id user (toString ((ticks 0).now / 1000)))] }
  | .set d user id data, ticks, w =>
    if (ticks 0).fails then .threw w
    else { world := { w with store := w.store.set .groups id (ticks 0).pos data }
           points := [.written d user id] }
  | .written d user id, ticks, w =>
    let s := w.createCtrl.get g
    { world := w
      points := [
        .add (.groupMessage id) (groupMessageFields user.id user.name
          (s.entries s.selectedContact) (user.name ++ " created this group") id .messageType
          (toString ((ticks 1).now / 1000))),
        .read d user id] }
  | .read d user id, ticks, w =>
    if (ticks 0).fails then .threw w
    else { world := w, points := [.answer d user id (w.store.doc? .groups (.named id))] }
  | .answer d user id value, ticks, w =>
    let s := w.createCtrl.get g
    let selectedContact := s.entries s.selectedContact
    let o := opened d value (modified g w cleared)
    { o with points := entryPoints selectedContact user id ticks 1 selectedContact ++ o.points }
  | .fetch fileName, ticks, w =>
    { world := w, points := [.fetched fileName (if (ticks 0).fails then none else some ())] }
  | .fetched fileName (some _), _, w =>
    { world := modified g w fun s => { s with imageUrl := fileName } }
  | .fetched _ none, _, w => { world := w }
  | .add path data, ticks, w =>
    if (ticks 0).fails then .threw w
    else { world := { w with store := w.store.add path (ticks 0).pos data }, points := [.added] }
  | .added, _, w => { world := w }

/-- What the start of a call does. -/
def call (g : ℕ) : Action → (ℕ → Tick) → World → Segment World Point
  | .tap value, _, w => { world := modified g w (·.tap value) }
  | .edit name imageFile, _, w =>
    { world := modified g w fun s => { s with txtGroupName := name, imageFile := imageFile } }
  | .create, ticks, w =>
    let s := w.createCtrl.get g
    let user := w.session s.device
    { world := modified g w (·.addSelf user)
      points := [if s.imageFile.isSome then .put s.device user (toString ((ticks 3).now / 1000))
        else .delay s.device user (toString (ticks 3).now)] }

/-- The screen as a machine. -/
def machine (g : ℕ) : Machine World Point Action := ⟨call g, resume g⟩

section Models

variable {g : ℕ} {ticks : ℕ → Tick} {l : Scope} {n : ℕ} {w : World}

/-- The entries of the members are all on their way when the rest of the segment starts. -/
theorem run_entries {receiverId : List SelectedContact} {user : UserData} {id : String}
    {k : Unit → Task World Scope} {s : Segment World Point} :
    ∀ {as : List SelectedContact} {n : ℕ},
      ((k ()).run ticks l (n + as.length) w).Is (task g) s →
      ((Async.forEach as (addGroupEntry receiverId user id) k).run ticks l n w).Is (task g)
        { s with points := entryPoints receiverId user id ticks n as ++ s.points }
  | [], _, h => h
  | a :: as, n, h => by
    have hlen : n + 1 + as.length = n + (a :: as).length := by
      rw [List.length_cons]
      omega
    obtain ⟨hworld, hthreads, huncaught⟩ := run_entries (hlen ▸ h)
    exact ⟨hworld, congrArg (List.cons _) hthreads, huncaught⟩

/-- Whether there is an image decides where a call is suspended first. -/
theorem run_upload (ticks : ℕ → Tick) (l : Scope) (d : ℕ) (user : UserData) (b : Bool) :
    (((if b then uploadFile g else pure () : Call Unit) fun _ => (identify g d user).task).run
      ticks l 3 w).Is (task g)
        { world := w
          points := [if b then .put d user (toString ((ticks 3).now / 1000))
            else .delay d user (toString (ticks 3).now)] } := by
  cases b with
  | true => exact ⟨rfl, rfl, rfl⟩
  | false => exact ⟨rfl, rfl, rfl⟩

/-- The group's screen is opened with the document that was read back, and the handler throws where
a field the screen needs is missing. -/
theorem run_opened {d : ℕ} {value : Option Document} :
    ((showGroup d value).task.run ticks l n w).Is (task g) (opened d value w) := by
  cases value with
  | none => exact ⟨rfl, rfl, rfl⟩
  | some group =>
    by_cases hshown : ∃ pId pName users, group.data .groupId = some (.str pId) ∧
        group.data .name = some (.str pName) ∧ group.data .users = some (.contacts users)
    · obtain ⟨pId, pName, users, hid, hname, husers⟩ := hshown
      simp only [opened, showGroup, openGroup, hid, hname, husers]
      exact ⟨rfl, rfl, rfl⟩
    · have hthrow : openGroup d group.data = Async.throw := by
        unfold openGroup
        split
        · next hid hname husers => exact absurd ⟨_, _, _, hid, hname, husers⟩ hshown
        · rfl
      have hthrew : opened d (some group) w = .threw w := by
        simp only [opened]
        split
        · next hid hname husers => exact absurd ⟨_, _, _, hid, hname, husers⟩ hshown
        · rfl
      simp only [showGroup, hthrow, hthrew]
      exact ⟨rfl, rfl, rfl⟩

/-- The machine does what `createGroup` and its un-awaited parts do, point by point. The answer for
the group starts one thread for each member before it opens the screen. -/
theorem models : (machine g).Models (grouping g) (task g) where
  call a ticks l w := by
    cases a with
    | tap value => exact ⟨rfl, rfl, rfl⟩
    | edit name imageFile => exact ⟨rfl, rfl, rfl⟩
    | create =>
      have h := fun user => run_upload (g := g) (w := modified g w (·.addSelf user)) ticks l
        (w.createCtrl.get g).device user (w.createCtrl.get g).imageFile.isSome
      exact ⟨(h _).world, (h _).threads, (h _).uncaught⟩
  resume p ticks l w := by
    cases p with
    | put d user fileName =>
      simp only [task, machine, resume]
      exact Task.request_is rfl rfl
    | stored d user fileName => exact ⟨rfl, rfl, rfl⟩
    | delay d user id => exact ⟨rfl, rfl, rfl⟩
    | set d user id data =>
      simp only [task, machine, resume]
      exact Task.request_is rfl rfl
    | written d user id => exact ⟨rfl, rfl, rfl⟩
    | read d user id =>
      simp only [task, machine, resume]
      exact Task.request_is rfl rfl
    | answer d user id value =>
      have ho : ∀ n, ((showGroup d value).task.run ticks l n (modified g w cleared)).Is (task g)
          (opened d value (modified g w cleared)) := fun n => run_opened
      have h : ∀ receiverId as, ((Async.forEach as (addGroupEntry receiverId user id)
          fun _ => (modifyCreate g cleared >>= fun _ => showGroup d value).task).run
            ticks l 1 w).Is (task g) _ := fun receiverId as =>
        run_entries ⟨(ho _).world, (ho _).threads, (ho _).uncaught⟩
      exact ⟨(h _ _).world, (h _ _).threads, (h _ _).uncaught⟩
    | fetch fileName =>
      simp only [task, machine, resume]
      exact Task.tryRequest_is (by simp) rfl
    | fetched fileName downloadUrl =>
      cases downloadUrl with
      | some _ => exact ⟨rfl, rfl, rfl⟩
      | none => exact ⟨rfl, rfl, rfl⟩
    | add path data =>
      simp only [task, machine, resume]
      exact Task.request_is rfl rfl
    | added => exact ⟨rfl, rfl, rfl⟩

end Models

/-! ## What holds at the points -/

/-- The document is of the group that is being created. -/
structure Describes (s : CreateGroupController) (id : String) (data : Data) : Prop where
  groupId : data .groupId = some (.str id)
  users : data .users = some (.contacts (s.entries s.selectedContact))
  name : ∃ name, data .name = some (.str name)

/-- The group is in the store. -/
def IsWritten (g : ℕ) (w : World) (id : String) (x : Document) : Prop :=
  w.store.doc? .groups (.named id) = some x ∧ Describes (w.createCtrl.get g) id x.data

namespace Point

/-- What holds when a call is suspended at the point. -/
def Ok (g : ℕ) (w : World) : Point → Prop
  | delay _ _ id => w.store.doc? .groups (.named id) = none
  | set _ _ id data =>
    w.store.doc? .groups (.named id) = none ∧ Describes (w.createCtrl.get g) id data
  | written _ _ id | read _ _ id => ∃ x, IsWritten g w id x
  | answer _ _ id value => ∃ x, IsWritten g w id x ∧ value = some x
  | add path _ => path ≠ .groups
  | put _ _ _ | stored _ _ _ | fetch _ | fetched _ _ | added => True

/-- The point belongs to a call of `createGroup` itself. -/
def main : Point → ℕ
  | put _ _ _ | stored _ _ _ | delay _ _ _ | set _ _ _ _ | written _ _ _ | read _ _ _
  | answer _ _ _ _ => 1
  | fetch _ | fetched _ _ | add _ _ | added => 0

/-- The group that is still to be written. -/
def pending (users : List SelectedContact) : Point → Multiset (Option Value)
  | put _ _ _ | stored _ _ _ | delay _ _ _ | set _ _ _ _ => {some (.contacts users)}
  | written _ _ _ | read _ _ _ | answer _ _ _ _ | fetch _ | fetched _ _ | add _ _ | added => 0

/-- How many entries for the group `b` the user `u` is still to get, if `users` are its members. -/
def owes (users : List SelectedContact) (b u : String) : Point → ℕ
  | written _ _ id | read _ _ id | answer _ _ id _ =>
    if id = b then (users.map (·.id)).count u else 0
  | add path data => if .chats u = path ∧ data .groupId = some (.str b) then 1 else 0
  | put _ _ _ | stored _ _ _ | delay _ _ _ | set _ _ _ _ | fetch _ | fetched _ _ | added => 0

end Point

/-- The members of a group. -/
def members (w : World) (b : String) : List SelectedContact :=
  match (w.store.fieldsAt .groups (.named b)) .users with
  | some (.contacts users) => users
  | _ => []

/-- Where the screen has got to after calls that chose the lists in `chose`. -/
structure Inv (g : ℕ) (w₀ : World) (chose : List (List SelectedContact)) (w : World)
    (r : Multiset Point) : Prop where
  ok : ∀ p ∈ r, p.Ok g w
  /-- one group is created at a time -/
  one : (r.map Point.main).sum = if (w.createCtrl.get g).isLoading then 1 else 0
  lt : ∀ e ∈ (w.createCtrl.get g).selectedContact, e < (w.createCtrl.get g).contacts.size
  nodup : ∀ users ∈ chose, (users.map (·.id)).Nodup
  loading : (w.createCtrl.get g).isLoading = true →
    (w.createCtrl.get g).entries (w.createCtrl.get g).selectedContact ∈ chose
  kept : ∀ x ∈ w₀.store.docs .groups, x ∈ w.store.docs .groups
  groups : ∀ x ∈ w.store.docs .groups, x ∈ w₀.store.docs .groups ∨
    ∃ b, ∃ users ∈ chose, x.id = .named b ∧ w₀.store.doc? .groups (.named b) = none ∧
      x.data .groupId = some (.str b) ∧ x.data .users = some (.contacts users)
  each : ((w.store.docs .groups).map (·.data .users) : Multiset (Option Value)) +
      (r.map (Point.pending ((w.createCtrl.get g).entries
        (w.createCtrl.get g).selectedContact))).sum =
    ((w₀.store.docs .groups).map (·.data .users) : Multiset (Option Value)) +
      (chose.map fun users => some (Value.contacts users) : Multiset (Option Value))
  entries : ∀ b, w₀.store.doc? .groups (.named b) = none → ∀ u,
    (w.store.query (.chats u) (Fields.isEqualTo .groupId (.str b))).length +
        (r.map (Point.owes (members w b) b u)).sum =
      ((members w b).map (·.id)).count u

section Steps

variable {g : ℕ} {w₀ w w' : World} {chose : List (List SelectedContact)} {p : Point}
  {r new : Multiset Point}

/-- A point of a call that was started and is not awaited says nothing about the world. -/
theorem Point.Ok.of_main (h : p.Ok g w) (hp : p.main = 0) (w' : World) : p.Ok g w' := by
  cases p with
  | put | stored | delay | set | written | read | answer => exact nomatch hp
  | fetch | fetched | added => exact trivial
  | add => exact h

/-- What the points speak of has not changed. -/
theorem Point.Ok.congr (h : p.Ok g w) (hdocs : w'.store.docs .groups = w.store.docs .groups)
    (hcontacts : (w'.createCtrl.get g).contacts = (w.createCtrl.get g).contacts)
    (hselected : (w'.createCtrl.get g).selectedContact = (w.createCtrl.get g).selectedContact) :
    p.Ok g w' := by
  have hdoc : ∀ id, w'.store.doc? .groups id = w.store.doc? .groups id := fun id => by
    rw [Store.doc?, Store.doc?, hdocs]
  have hentries : (w'.createCtrl.get g).entries (w'.createCtrl.get g).selectedContact =
      (w.createCtrl.get g).entries (w.createCtrl.get g).selectedContact := by
    rw [hselected, CreateGroupController.entries, CreateGroupController.entries, hcontacts]
  have hdescribes : ∀ {id data}, Describes (w.createCtrl.get g) id data →
      Describes (w'.createCtrl.get g) id data := fun hd =>
    ⟨hd.groupId, hentries.symm ▸ hd.users, hd.name⟩
  have hwritten : ∀ {id x}, IsWritten g w id x → IsWritten g w' id x := fun hw =>
    ⟨(hdoc _).trans hw.1, hdescribes hw.2⟩
  cases p with
  | put | stored | fetch | fetched | added => exact trivial
  | delay d user id => exact (hdoc _).trans h
  | set d user id data => exact ⟨(hdoc _).trans h.1, hdescribes h.2⟩
  | written d user id =>
    obtain ⟨x, hx⟩ := h
    exact ⟨x, hwritten hx⟩
  | read d user id =>
    obtain ⟨x, hx⟩ := h
    exact ⟨x, hwritten hx⟩
  | answer d user id value =>
    obtain ⟨x, hx, hvalue⟩ := h
    exact ⟨x, hwritten hx, hvalue⟩
  | add path data => exact h

/-- The screen is the same as far as the groups are concerned. -/
structure Same (g : ℕ) (w w' : World) : Prop where
  contacts : (w'.createCtrl.get g).contacts = (w.createCtrl.get g).contacts
  selected : (w'.createCtrl.get g).selectedContact = (w.createCtrl.get g).selectedContact
  loading : (w'.createCtrl.get g).isLoading = (w.createCtrl.get g).isLoading

theorem Same.refl (g : ℕ) (w : World) : Same g w w := ⟨rfl, rfl, rfl⟩

theorem Same.entries (h : Same g w w') :
    (w'.createCtrl.get g).entries (w'.createCtrl.get g).selectedContact =
      (w.createCtrl.get g).entries (w.createCtrl.get g).selectedContact := by
  rw [h.selected, CreateGroupController.entries, CreateGroupController.entries, h.contacts]

/-- The documents of the groups determine their members. -/
theorem members_congr (h : w'.store.docs .groups = w.store.docs .groups) (b : String) :
    members w' b = members w b := by
  rw [members, members, Store.fieldsAt_congr _ h]

/-- A call goes on from one point to others, and the groups and entries stay as they are. -/
theorem Inv.step (h : Inv g w₀ chose w (p ::ₘ r)) (hstore : w'.store = w.store)
    (hs : Same g w w') (hok : ∀ q ∈ new, q.Ok g w')
    (hmain : (new.map Point.main).sum = p.main)
    (hpending : ∀ users, (new.map (Point.pending users)).sum = p.pending users)
    (howes : ∀ users b u, (new.map (Point.owes users b u)).sum = p.owes users b u) :
    Inv g w₀ chose w' (new + r) := by
  have hdocs : w'.store.docs .groups = w.store.docs .groups := by rw [hstore]
  refine ⟨fun q hq => ?_, ?_, ?_, h.nodup, fun hloading => ?_, ?_, ?_, ?_, fun b hb u => ?_⟩
  · rcases Multiset.mem_add.mp hq with hq | hq
    · exact hok q hq
    · exact (h.ok q (Multiset.mem_cons_of_mem hq)).congr hdocs hs.contacts hs.selected
  · rw [Multiset.map_add, Multiset.sum_add, hmain, hs.loading, ← h.one, Multiset.map_cons,
      Multiset.sum_cons]
  · rw [hs.selected, hs.contacts]
    exact h.lt
  · rw [hs.entries]
    exact h.loading (hs.loading ▸ hloading)
  · rw [hdocs]
    exact h.kept
  · rw [hdocs]
    exact h.groups
  · rw [hs.entries, hdocs, ← h.each, Multiset.map_add, Multiset.sum_add, hpending,
      Multiset.map_cons, Multiset.sum_cons]
  · rw [members_congr hdocs, ← h.entries b hb u, Multiset.map_add, Multiset.sum_add, howes,
      Multiset.map_cons, Multiset.sum_cons, hstore]

/-- When a call of `createGroup` itself is suspended at a point, the screen is loading, and no
other one is. -/
theorem Inv.alone (h : Inv g w₀ chose w (p ::ₘ r)) (hp : p.main = 1) :
    (w.createCtrl.get g).isLoading = true ∧ ∀ q ∈ r, q.main = 0 := by
  have hone := h.one
  rw [Multiset.map_cons, Multiset.sum_cons, hp] at hone
  split at hone
  · next hloading =>
    refine ⟨hloading, fun q hq => ?_⟩
    have hsum : (r.map Point.main).sum = 0 := by omega
    exact Multiset.sum_eq_zero_iff.mp hsum _ (Multiset.mem_map_of_mem _ hq)
  · omega

/-- While the screen is not loading, no call of `createGroup` itself is suspended. -/
theorem Inv.idle (h : Inv g w₀ chose w r) (hs : (w.createCtrl.get g).isLoading = false) :
    ∀ q ∈ r, q.main = 0 := by
  have hsum := h.one
  rw [hs, if_neg Bool.false_ne_true] at hsum
  exact fun q hq => Multiset.sum_eq_zero_iff.mp hsum _ (Multiset.mem_map_of_mem _ hq)

/-- Without a call of `createGroup` itself, no group is still to be written. -/
theorem pending_eq_zero {users : List SelectedContact} (h : ∀ q ∈ r, q.main = 0) :
    (r.map (Point.pending users)).sum = 0 := by
  refine Multiset.sum_eq_zero fun x hx => ?_
  obtain ⟨q, hq, rfl⟩ := Multiset.mem_map.mp hx
  have hmain := h q hq
  cases q with
  | put | stored | delay | set | written | read | answer => exact nomatch hmain
  | fetch | fetched | add | added => rfl

/-- Without a call of `createGroup` itself, the entries owed do not depend on the members. -/
theorem owes_congr {users users' : List SelectedContact} {b u : String}
    (h : ∀ q ∈ r, q.main = 0) :
    (r.map (Point.owes users b u)).sum = (r.map (Point.owes users' b u)).sum := by
  refine congrArg Multiset.sum (Multiset.map_congr rfl fun q hq => ?_)
  have hmain := h q hq
  cases q with
  | put | stored | delay | set | written | read | answer => exact nomatch hmain
  | fetch | fetched | add | added => rfl

/-- A document that is on its way arrives: the first message of a group, or the entry of a member,
who is owed one less. -/
theorem Inv.add {path : Path} {data : Data} (h : Inv g w₀ chose w (.add path data ::ₘ r))
    (pos : ℕ) :
    Inv g w₀ chose { w with store := w.store.add path pos data } ({.added} + r) := by
  have hpath : path ≠ .groups := h.ok _ (Multiset.mem_cons_self ..)
  have hdocs : (w.store.add path pos data).docs .groups = w.store.docs .groups :=
    Store.docs_add_of_ne (Ne.symm hpath)
  refine ⟨fun q hq => ?_, ?_, h.lt, h.nodup, h.loading, ?_, ?_, ?_, fun b hb u => ?_⟩
  · rcases Multiset.mem_add.mp hq with hq | hq
    · rw [Multiset.mem_singleton.mp hq]
      exact trivial
    · exact (h.ok q (Multiset.mem_cons_of_mem hq)).congr hdocs rfl rfl
  · have hone := h.one
    rw [Multiset.map_cons, Multiset.sum_cons] at hone
    rw [Multiset.map_add, Multiset.sum_add]
    exact hone
  · rw [hdocs]
    exact h.kept
  · rw [hdocs]
    exact h.groups
  · have heach := h.each
    rw [Multiset.map_cons, Multiset.sum_cons] at heach
    rw [hdocs, Multiset.map_add, Multiset.sum_add]
    exact heach
  · have hentries := h.entries b hb u
    rw [Multiset.map_cons, Multiset.sum_cons] at hentries
    rw [members_congr hdocs, ← hentries, Multiset.map_add, Multiset.sum_add,
      Store.length_query_add]
    have howes : Point.owes (members w b) b u (.add path data) =
        if Path.chats u = path ∧ Fields.isEqualTo .groupId (.str b) data = true then 1 else 0 := by
      simp only [Point.owes, Fields.isEqualTo_iff]
    rw [howes]
    simp only [Multiset.map_singleton, Multiset.sum_singleton, Point.owes]
    omega

/-- The group arrives in the store, with the members chosen for it: it is new, as its id has not
been used before, and all other groups stay as they are. -/
theorem Inv.set {d : ℕ} {user : UserData} {id : String} {data : Data}
    (h : Inv g w₀ chose w (.set d user id data ::ₘ r)) (pos : ℕ) :
    Inv g w₀ chose { w with store := w.store.set .groups id pos data }
      ({.written d user id} + r) := by
  obtain ⟨hnew, hdescribes⟩ := h.ok _ (Multiset.mem_cons_self ..)
  obtain ⟨hloading, hrest⟩ := h.alone rfl
  have hperm := Store.perm_docs_set hnew pos data
  have hdoc : (w.store.set .groups id pos data).doc? .groups (.named id) =
      some ⟨.named id, data⟩ :=
    (Store.doc?_eq_some _).mpr ⟨Store.mem_set.mpr (Or.inl ⟨rfl, rfl⟩), rfl⟩
  have hother : ∀ b, b ≠ id → (w.store.set .groups id pos data).doc? .groups (.named b) =
      w.store.doc? .groups (.named b) := fun b hb => by
    refine Option.ext fun x => ?_
    rw [Store.doc?_eq_some, Store.doc?_eq_some, Store.mem_set]
    constructor
    · rintro ⟨⟨-, rfl⟩ | ⟨hx, -⟩, hid⟩
      · exact absurd (DocId.named.inj hid).symm hb
      · exact ⟨hx, hid⟩
    · rintro ⟨hx, hid⟩
      refine ⟨Or.inr ⟨hx, fun hc => hb (DocId.named.inj (hid.symm.trans hc.2))⟩, hid⟩
  have hmembers : ∀ b, b ≠ id → members { w with store := w.store.set .groups id pos data } b =
      members w b := fun b hb => by
    rw [members, members, Store.fieldsAt, Store.fieldsAt, hother b hb]
  -- the new group has the members that are selected
  have hmembers' : members { w with store := w.store.set .groups id pos data } id =
      (w.createCtrl.get g).entries (w.createCtrl.get g).selectedContact := by
    rw [members, Store.fieldsAt, hdoc]
    simp only [Option.map_some, Option.getD_some, hdescribes.users]
  have hquery : ∀ u f, (w.store.set .groups id pos data).query (.chats u) f =
      w.store.query (.chats u) f := fun u f => by
    have hchats : (w.store.write (.set .groups id pos data)).docs (.chats u) =
        w.store.docs (.chats u) :=
      Store.docs_write_of_ne fun hpath => Path.noConfusion hpath
    rw [Store.query, Store.query, ← hchats]
    rfl
  have hfree : ∀ x ∈ w.store.docs .groups, x.id ≠ .named id :=
    (Store.doc?_eq_none _).mp hnew
  have hfree₀ : w₀.store.doc? .groups (.named id) = none :=
    (Store.doc?_eq_none _).mpr fun x hx => hfree x (h.kept x hx)
  refine ⟨fun q hq => ?_, ?_, h.lt, h.nodup, h.loading, fun x hx => ?_, fun x hx => ?_, ?_,
    fun b hb u => ?_⟩
  · rcases Multiset.mem_add.mp hq with hq | hq
    · rw [Multiset.mem_singleton.mp hq]
      exact ⟨_, hdoc, hdescribes⟩
    · exact (h.ok q (Multiset.mem_cons_of_mem hq)).of_main (hrest q hq) _
  · have hone := h.one
    rw [Multiset.map_cons, Multiset.sum_cons] at hone
    rw [Multiset.map_add, Multiset.sum_add]
    exact hone
  · have hin := h.kept x hx
    exact Store.mem_set.mpr (Or.inr ⟨hin, fun hc => hfree x hin hc.2⟩)
  · rcases Store.mem_set.mp hx with ⟨-, rfl⟩ | ⟨hx, -⟩
    · exact Or.inr ⟨id, _, h.loading hloading, rfl, hfree₀, hdescribes.groupId, hdescribes.users⟩
    · exact h.groups x hx
  · have heach := h.each
    rw [Multiset.map_cons, Multiset.sum_cons, pending_eq_zero hrest, add_zero] at heach
    rw [Multiset.map_add, Multiset.sum_add, pending_eq_zero hrest, ← heach,
      Multiset.coe_eq_coe.mpr (hperm.map _), List.map_cons, ← Multiset.cons_coe]
    simp only [Multiset.map_singleton, Multiset.sum_singleton, Point.pending, add_zero,
      hdescribes.users]
    rw [add_comm, Multiset.singleton_add]
  · have hentries := h.entries b hb u
    rw [Multiset.map_cons, Multiset.sum_cons] at hentries
    rw [Multiset.map_add, Multiset.sum_add, Multiset.map_singleton, Multiset.sum_singleton, hquery]
    by_cases hid : b = id
    · subst hid
      -- a group that is not there yet has no members
      have hnone : members w b = [] := by
        rw [members, Store.fieldsAt, hnew]
        rfl
      have howes : (r.map (Point.owes ((w.createCtrl.get g).entries
          (w.createCtrl.get g).selectedContact) b u)).sum = (r.map (Point.owes [] b u)).sum :=
        owes_congr hrest
      rw [hmembers', howes]
      rw [hnone] at hentries
      simp only [Point.owes, List.map_nil, List.count_nil, if_true] at hentries ⊢
      omega
    · rw [hmembers b hid]
      simp only [Point.owes, if_neg (Ne.symm hid)] at hentries ⊢
      omega

/-- The members of a group that has been written are those selected. -/
theorem IsWritten.members {id : String} {x : Document} (h : IsWritten g w id x) :
    members w id = (w.createCtrl.get g).entries (w.createCtrl.get g).selectedContact := by
  rw [GroupCreation.members, Store.fieldsAt, h.1]
  simp only [Option.map_some, Option.getD_some, h.2.users]

/-- The screen of a group that has been written can be shown. -/
theorem opened_of_describes {d : ℕ} {s : CreateGroupController} {id : String} {x : Document}
    (h : Describes s id x.data) (w : World) :
    ∃ groupCtrl, opened d (some x) w = { world := { w with groupCtrl := groupCtrl } } := by
  obtain ⟨name, hname⟩ := h.name
  simp only [opened, h.groupId, hname, h.users]
  exact ⟨_, rfl⟩

/-- The entries on their way are what the members are owed. -/
theorem owes_entryPoints {receiverId users as : List SelectedContact} {user : UserData}
    {id b u : String} {ticks : ℕ → Tick} : ∀ n,
    ((entryPoints receiverId user id ticks n as : Multiset Point).map
      (Point.owes users b u)).sum = if id = b then (as.map (·.id)).count u else 0 := by
  induction as with
  | nil => simp [entryPoints]
  | cons a as ih =>
    intro n
    rw [entryPoints, ← Multiset.cons_coe, Multiset.map_cons, Multiset.sum_cons, ih, Point.owes]
    have hgroupId : groupEntryFields receiverId user id (toString ((ticks n).now / 1000)) .groupId =
        some (.str id) := rfl
    simp only [hgroupId, Option.some.injEq, Value.str.injEq, Path.chats.injEq, List.map_cons,
      List.count_cons, beq_iff_eq, eq_comm (a := u)]
    by_cases hid : id = b
    · simp only [hid, and_true, if_true]
      omega
    · simp only [hid, and_false, if_false]

/-- The entries on their way do not belong to `createGroup` itself. -/
theorem mem_entryPoints {receiverId : List SelectedContact} {user : UserData} {id : String}
    {ticks : ℕ → Tick} : ∀ {n : ℕ} {as : List SelectedContact},
    ∀ q ∈ entryPoints receiverId user id ticks n as, q.main = 0 ∧ q.Ok g w
  | _, [], _, hq => absurd hq List.not_mem_nil
  | n, a :: as, q, hq => by
    rcases List.mem_cons.mp hq with rfl | hq
    · exact ⟨rfl, fun hpath => Path.noConfusion hpath⟩
    · exact mem_entryPoints q hq

/-- The group has been read: the entries are on their way, and the screen is put back. -/
theorem Inv.answer {d : ℕ} {user : UserData} {id : String} {value : Option Document}
    (h : Inv g w₀ chose w (.answer d user id value ::ₘ r)) (ticks : ℕ → Tick) :
    (resume g (.answer d user id value) ticks w).thrown = 0 ∧
      Inv g w₀ chose (resume g (.answer d user id value) ticks w).world
        ((resume g (.answer d user id value) ticks w).points + r) := by
  obtain ⟨x, hx, rfl⟩ := h.ok _ (Multiset.mem_cons_self ..)
  obtain ⟨-, hrest⟩ := h.alone rfl
  obtain ⟨groupCtrl, hopened⟩ := opened_of_describes (d := d) hx.2 (modified g w cleared)
  have hs : (modified g w cleared).createCtrl.get g = cleared (w.createCtrl.get g) := by
    simp only [modified, Heap.get_modify, if_true]
  have hloading : ((modified g w cleared).createCtrl.get g).isLoading = false := by
    rw [hs]
    rfl
  simp only [resume, hopened, List.append_nil]
  have hmain : ∀ q ∈ (entryPoints ((w.createCtrl.get g).entries
      (w.createCtrl.get g).selectedContact) user id ticks 1 ((w.createCtrl.get g).entries
      (w.createCtrl.get g).selectedContact) : Multiset Point) + r, q.main = 0 := fun q hq => by
    rcases Multiset.mem_add.mp hq with hq | hq
    · exact (mem_entryPoints q (Multiset.mem_coe.mp hq) (w := w) (g := g)).1
    · exact hrest q hq
  refine ⟨trivial, fun q hq => ?_, ?_, ?_, h.nodup, fun hload => ?_, h.kept, h.groups, ?_,
    fun b hb u => ?_⟩
  · rcases Multiset.mem_add.mp hq with hq | hq
    · exact (mem_entryPoints q (Multiset.mem_coe.mp hq)).2
    · exact (h.ok q (Multiset.mem_cons_of_mem hq)).of_main (hrest q hq) _
  · rw [hloading]
    refine Multiset.sum_eq_zero fun y hy => ?_
    obtain ⟨q, hq, rfl⟩ := Multiset.mem_map.mp hy
    exact hmain q hq
  · rw [hs]
    exact fun e he => absurd he List.not_mem_nil
  · exact absurd (hloading.symm.trans hload) Bool.false_ne_true
  · have heach := h.each
    rw [Multiset.map_cons, Multiset.sum_cons, pending_eq_zero hrest] at heach
    rw [pending_eq_zero hmain]
    exact heach
  · have hentries := h.entries b hb u
    rw [Multiset.map_cons, Multiset.sum_cons] at hentries
    rw [Multiset.map_add, Multiset.sum_add, owes_entryPoints]
    have howes : Point.owes (members w b) b u (.answer d user id (some x)) =
        if id = b then (((w.createCtrl.get g).entries
          (w.createCtrl.get g).selectedContact).map (·.id)).count u else 0 := by
      by_cases hid : id = b
      · subst hid
        simp only [Point.owes, if_true, hx.members]
      · simp only [Point.owes, if_neg hid]
    rw [howes] at hentries
    exact hentries

/-- A call that starts, while none is under way: what is chosen now is what its group will list, the
creator included. -/
theorem Inv.create (h : Inv g w₀ chose w r)
    (hidle : (w.createCtrl.get g).isLoading = false)
    (hdistinct : ((chosen g w).map (·.id)).Nodup) (hmain : p.main = 1)
    (hpending : ∀ users, p.pending users = {some (.contacts users)})
    (howes : ∀ users b u, p.owes users b u = 0)
    (hok : ∀ w', w'.store = w.store → p.Ok g w') :
    Inv g w₀ (chose ++ [chosen g w])
      (modified g w (·.addSelf (w.session (w.createCtrl.get g).device))) ({p} + r) := by
  have hrest := h.idle hidle
  have hs : (modified g w (·.addSelf (w.session (w.createCtrl.get g).device))).createCtrl.get g =
      (w.createCtrl.get g).addSelf (w.session (w.createCtrl.get g).device) := by
    simp only [modified, Heap.get_modify, if_true]
  have hentries : ((w.createCtrl.get g).addSelf (w.session (w.createCtrl.get g).device)).entries
      ((w.createCtrl.get g).addSelf (w.session (w.createCtrl.get g).device)).selectedContact =
      chosen g w := by
    simp only [CreateGroupController.addSelf, CreateGroupController.entries, chosen,
      List.map_append, List.map_singleton, Heap.get_alloc, if_true]
    refine congrArg (· ++ _) (List.map_congr_left fun e he => ?_)
    rw [Heap.get_alloc, if_neg (Nat.ne_of_lt (h.lt e he))]
  refine ⟨fun q hq => ?_, ?_, ?_, fun users husers => ?_, fun _ => ?_, h.kept, fun x hx => ?_, ?_,
    fun b hb u => ?_⟩
  · rcases Multiset.mem_add.mp hq with hq | hq
    · rw [Multiset.mem_singleton.mp hq]
      exact hok _ rfl
    · exact (h.ok q hq).of_main (hrest q hq) _
  · have hone := h.one
    rw [hidle, if_neg Bool.false_ne_true] at hone
    rw [hs, Multiset.map_add, Multiset.sum_add, hone, Multiset.map_singleton,
      Multiset.sum_singleton, hmain]
    rfl
  · rw [hs]
    intro e he
    rcases List.mem_append.mp he with he | he
    · exact Nat.lt_succ_of_lt (h.lt e he)
    · rw [List.mem_singleton.mp he]
      exact Nat.lt_succ_self _
  · rcases List.mem_append.mp husers with husers | husers
    · exact h.nodup users husers
    · rw [List.mem_singleton.mp husers]
      exact hdistinct
  · rw [hs, hentries]
    exact List.mem_append_right _ (List.mem_singleton_self _)
  · rcases h.groups x hx with hx | ⟨b, users, husers, hx⟩
    · exact Or.inl hx
    · exact Or.inr ⟨b, users, List.mem_append_left _ husers, hx⟩
  · have heach := h.each
    rw [pending_eq_zero hrest, add_zero] at heach
    rw [hs, hentries, Multiset.map_add, Multiset.sum_add, pending_eq_zero hrest, add_zero,
      Multiset.map_singleton, Multiset.sum_singleton, hpending, List.map_append,
      ← Multiset.coe_add, ← add_assoc, ← heach]
    rfl
  · have howed := h.entries b hb u
    rw [Multiset.map_add, Multiset.sum_add, Multiset.map_singleton, Multiset.sum_singleton, howes,
      zero_add]
    exact howed

/-- The screen changes while no call is under way. -/
theorem Inv.edit (h : Inv g w₀ chose w r) (hidle : (w.createCtrl.get g).isLoading = false)
    {f : CreateGroupController → CreateGroupController}
    (hloading : (f (w.createCtrl.get g)).isLoading = false)
    (hlt : ∀ e ∈ (f (w.createCtrl.get g)).selectedContact,
      e < (f (w.createCtrl.get g)).contacts.size) :
    Inv g w₀ chose (modified g w f) r := by
  have hrest := h.idle hidle
  have hs : (modified g w f).createCtrl.get g = f (w.createCtrl.get g) := by
    simp only [modified, Heap.get_modify, if_true]
  refine ⟨fun q hq => (h.ok q hq).of_main (hrest q hq) _, ?_, ?_, h.nodup, fun hload => ?_, h.kept,
    h.groups, ?_, h.entries⟩
  · rw [hs, hloading, h.one, hidle]
  · rw [hs]
    exact hlt
  · rw [hs, hloading] at hload
    exact absurd hload Bool.false_ne_true
  · have heach := h.each
    rw [pending_eq_zero hrest] at heach ⊢
    exact heach

end Steps

/-! ## Runs -/

section Runs

variable {g : ℕ} {w₀ w : World} {chose : List (List SelectedContact)} {r : Multiset Point}
  {c : Config World Scope} {es : List (Event Action)} {ticks : ℕ → Tick}

/-- Nothing is under way on the screen, and every entry for a group is for one that exists. -/
structure Ready (g : ℕ) (w : World) : Prop where
  idle : (w.createCtrl.get g).isLoading = false
  lt : ∀ e ∈ (w.createCtrl.get g).selectedContact, e < (w.createCtrl.get g).contacts.size
  known : ∀ b, w.store.doc? .groups (.named b) = none → ∀ u,
    w.store.query (.chats u) (Fields.isEqualTo .groupId (.str b)) = []

/-- The calls of a run and one more event: each call is judged in the state in which it is made. By
recursion on the run, as `calls` is defined. -/
theorem calls_append : ∀ {es : List (Event Action)} {c : Config World Scope} {e : Event Action},
    calls g c (es ++ [e]) = calls g c es ++ calls g ((grouping g).exec c es) [e]
  | [], _, _ => rfl
  | .call .create ticks :: es, c, e => by
    rw [List.cons_append, calls, calls, calls_append, List.cons_append]
    rfl
  | .call (.tap value) ticks :: es, c, e => by
    rw [List.cons_append, calls, calls, calls_append]
    · rfl
    · nofun
    · nofun
  | .call (.edit name imageFile) ticks :: es, c, e => by
    rw [List.cons_append, calls, calls, calls_append]
    · rfl
    · nofun
    · nofun
  | .resume i ticks :: es, c, e => by
    rw [List.cons_append, calls, calls, calls_append]
    · rfl
    · nofun
    · nofun

/-- A screen on which nothing is under way satisfies the invariant with no call made so far and
nothing owed; a group that does not exist has no members and no entries. -/
theorem Ready.inv (h : Ready g w₀) : Inv g w₀ [] w₀ 0 where
  ok _ hp := absurd hp (Multiset.notMem_zero _)
  one := by
    rw [h.idle]
    rfl
  lt := h.lt
  nodup _ husers := absurd husers List.not_mem_nil
  loading hloading := absurd (h.idle.symm.trans hloading) Bool.false_ne_true
  kept _ hx := hx
  groups _ hx := Or.inl hx
  each := rfl
  entries b hb u := by
    have hnone : members w₀ b = [] := by
      rw [members, Store.fieldsAt, hb]
      rfl
    rw [h.known b hb u, hnone]
    rfl

/-- What the start of a call keeps. Only a creation adds to the selections made, and only it leaves
a point behind. -/
theorem Inv.call (h : Inv g w₀ chose w r) (a : Action)
    (hidle : (w.createCtrl.get g).isLoading = false)
    (hdistinct : a = .create → ((chosen g w).map (·.id)).Nodup)
    (hfresh : ∀ n, w.store.doc? .groups (.named (toString (ticks n).now)) = none) :
    (call g a ticks w).thrown = 0 ∧
      Inv g w₀ (chose ++ calls g ⟨w, [], []⟩ [.call a ticks]) (call g a ticks w).world
        ((call g a ticks w).points + r) := by
  cases a with
  | tap value =>
    have hcalls : chose ++ calls g ⟨w, [], []⟩ [.call (.tap value) ticks] = chose :=
      List.append_nil _
    have hkeep : ((w.createCtrl.get g).tap value).isLoading = false ∧
        ∀ e ∈ ((w.createCtrl.get g).tap value).selectedContact,
          e < ((w.createCtrl.get g).tap value).contacts.size := by
      unfold CreateGroupController.tap
      split
      · exact ⟨hidle, fun e he => h.lt e (List.mem_of_mem_filter he)⟩
      · refine ⟨hidle, fun e he => ?_⟩
        rcases List.mem_append.mp he with he | he
        · exact Nat.lt_succ_of_lt (h.lt e he)
        · rw [List.mem_singleton.mp he]
          exact Nat.lt_succ_self _
    simp only [GroupCreation.call, Multiset.coe_nil, zero_add, hcalls]
    exact ⟨trivial, h.edit hidle hkeep.1 hkeep.2⟩
  | edit name imageFile =>
    have hcalls : chose ++ calls g ⟨w, [], []⟩ [.call (.edit name imageFile) ticks] = chose :=
      List.append_nil _
    simp only [GroupCreation.call, Multiset.coe_nil, zero_add, hcalls]
    exact ⟨trivial, h.edit hidle hidle h.lt⟩
  | create =>
    have hcalls : calls g ⟨w, [], []⟩ [.call .create ticks] = [chosen g w] := rfl
    simp only [GroupCreation.call, Multiset.coe_singleton, hcalls]
    refine ⟨trivial, ?_⟩
    split
    · exact h.create hidle (hdistinct rfl) rfl (fun _ => rfl) (fun _ _ _ => rfl) fun _ _ => trivial
    · refine h.create hidle (hdistinct rfl) rfl (fun _ => rfl) (fun _ _ _ => rfl) fun w' hw' => ?_
      exact (congrArg (Store.doc? · _ _) hw').trans (hfresh 3)

/-- What a call that is resumed keeps, one case for each point of `createGroup` and its un-awaited
parts: nothing is thrown as long as no operation fails. -/
theorem Inv.resume {p : Point} (h : Inv g w₀ chose w (p ::ₘ r))
    (hsucceeds : ∀ n, (ticks n).fails = false)
    (hfresh : ∀ n, w.store.doc? .groups (.named (toString (ticks n).now)) = none) :
    (resume g p ticks w).thrown = 0 ∧
      Inv g w₀ chose (resume g p ticks w).world ((resume g p ticks w).points + r) := by
  have hok := h.ok p (Multiset.mem_cons_self ..)
  cases p with
  | put d user fileName =>
    simp only [GroupCreation.resume, hsucceeds, Bool.false_eq_true, if_false]
    exact ⟨trivial, h.step rfl (.refl g w) (by simp [Point.Ok]) rfl (fun _ => rfl)
      fun _ _ _ => rfl⟩
  | stored d user fileName =>
    simp only [GroupCreation.resume]
    exact ⟨trivial, h.step rfl (.refl g w) (by simpa [Point.Ok] using hfresh 0) rfl (fun _ => rfl)
      fun _ _ _ => rfl⟩
  | delay d user id =>
    simp only [GroupCreation.resume]
    refine ⟨trivial, h.step rfl (.refl g w) (fun q hq => ?_) rfl (fun _ => rfl) fun _ _ _ => rfl⟩
    rw [Multiset.mem_singleton.mp hq]
    exact ⟨hok, rfl, rfl, ⟨_, rfl⟩⟩
  | set d user id data =>
    simp only [GroupCreation.resume, hsucceeds, Bool.false_eq_true, if_false]
    exact ⟨trivial, h.set _⟩
  | written d user id =>
    simp only [GroupCreation.resume]
    refine ⟨trivial, h.step rfl (.refl g w) (fun q hq => ?_) rfl (fun _ => rfl) fun _ _ _ => ?_⟩
    · rcases List.mem_pair.mp (Multiset.mem_coe.mp hq) with rfl | rfl
      · exact fun hpath => Path.noConfusion hpath
      · exact hok
    · simp [Point.owes]
  | read d user id =>
    simp only [GroupCreation.resume, hsucceeds, Bool.false_eq_true, if_false]
    refine ⟨trivial, h.step rfl (.refl g w) (fun q hq => ?_) rfl (fun _ => rfl) fun _ _ _ => rfl⟩
    obtain ⟨x, hx⟩ := hok
    rw [Multiset.mem_singleton.mp hq]
    exact ⟨x, hx, hx.1⟩
  | answer d user id value => exact h.answer ticks
  | fetch fileName =>
    simp only [GroupCreation.resume, hsucceeds, Bool.false_eq_true, if_false]
    exact ⟨trivial, h.step rfl (.refl g w) (by simp [Point.Ok]) rfl (fun _ => rfl)
      fun _ _ _ => rfl⟩
  | fetched fileName downloadUrl =>
    cases downloadUrl with
    | none =>
      simp only [GroupCreation.resume]
      exact ⟨trivial, h.step rfl (.refl g w) (fun q hq => absurd hq (Multiset.notMem_zero q)) rfl
        (fun _ => rfl) fun _ _ _ => rfl⟩
    | some _ =>
      have hs : (modified g w fun s => { s with imageUrl := fileName }).createCtrl.get g =
          { w.createCtrl.get g with imageUrl := fileName } := by
        simp only [modified, Heap.get_modify, if_true]
      simp only [GroupCreation.resume]
      refine ⟨trivial, h.step rfl ?_ (fun q hq => absurd hq (Multiset.notMem_zero q)) rfl
        (fun _ => rfl) fun _ _ _ => rfl⟩
      exact ⟨by rw [hs], by rw [hs], by rw [hs]⟩
  | add path data =>
    simp only [GroupCreation.resume, hsucceeds, Bool.false_eq_true, if_false]
    exact ⟨trivial, h.add _⟩
  | added =>
    simp only [GroupCreation.resume]
    exact ⟨trivial, h.step rfl (.refl g w) (fun q hq => absurd hq (Multiset.notMem_zero q)) rfl
      (fun _ => rfl) fun _ _ _ => rfl⟩

/-- What holds along a run in which no operation fails: the invariant, for the selections of the
calls made so far, with no error. By induction on the run. -/
theorem Ready.run (hr : Ready g w₀)
    (h : (grouping g).Run (fun c e => (∀ n, (e.ticks n).fails = false) ∧ Attempt g c e)
      ⟨w₀, [], []⟩ es c) :
    ∃ r, c.At (task g) r ∧ c.uncaught = [] ∧
      Inv g w₀ (calls g ⟨w₀, [], []⟩ es) c.world r := by
  have hrun := models.run
    (I := fun es w r n => n = 0 ∧ Inv g w₀ (calls g ⟨w₀, [], []⟩ es) w r) Config.at_nil
    ⟨rfl, hr.inv⟩ (fun es c r a ticks hrun hat he hi => ?_)
    (fun es c r i p ticks hrun he hi => ?_) (fun es i ticks w r n hi => ?_) h
  · obtain ⟨r, hat, hn, hi⟩ := hrun
    exact ⟨r, hat, List.length_eq_zero_iff.mp hn, hi⟩
  · have hidle : (c.world.createCtrl.get g).isLoading = false := by
      rcases he.2.turn a ticks rfl with hidle | hsettled
      · exact hidle
      · -- a call that is under way would be suspended
        have hone := hi.2.one
        rw [hat.settled hsettled] at hone
        by_contra hloading
        rw [if_pos (Bool.not_eq_false _ ▸ hloading)] at hone
        exact absurd hone (by simp)
    have hcalls : calls g ⟨w₀, [], []⟩ (es ++ [.call a ticks]) =
        calls g ⟨w₀, [], []⟩ es ++ calls g ⟨c.world, [], []⟩ [.call a ticks] := by
      rw [calls_append, ← hrun.exec_eq]
      cases a <;> rfl
    obtain ⟨hthrown, hi'⟩ := hi.2.call a hidle (fun ha => he.2.distinct ticks (by rw [ha])) he.2.fresh
    refine ⟨?_, hcalls ▸ hi'⟩
    rw [hi.1]
    exact (Nat.zero_add _).trans hthrown
  · have hcalls : calls g ⟨w₀, [], []⟩ (es ++ [.resume i ticks]) = calls g ⟨w₀, [], []⟩ es := by
      rw [calls_append]
      exact List.append_nil _
    obtain ⟨hthrown, hi'⟩ := hi.2.resume he.1 he.2.fresh
    refine ⟨?_, hcalls.symm ▸ hi'⟩
    rw [hi.1]
    exact (Nat.zero_add _).trans hthrown
  · have hcalls : calls g ⟨w₀, [], []⟩ (es ++ [.resume i ticks]) = calls g ⟨w₀, [], []⟩ es := by
      rw [calls_append]
      exact List.append_nil _
    exact ⟨hi.1, hcalls.symm ▸ hi.2⟩

/-- **Every call creates its group.** In a run in which no operation fails, every group lists the
creator and the contacts selected for it, each of them once, every call that is over has created
one, and every user listed gets one entry for it. -/
theorem groups_created (hr : Ready g w₀)
    (h : (grouping g).Run (fun c e => (∀ n, (e.ticks n).fails = false) ∧ Attempt g c e)
      ⟨w₀, [], []⟩ es c) :
    Created g w₀ es c := by
  obtain ⟨r, hat, huncaught, hi⟩ := hr.run h
  refine ⟨fun x hx => ?_, fun hidle => ?_, fun hsettled x hx hnew b users hb husers m hm => ?_,
    fun es₁ ticks es₂ _ _ _ hlt => ?_⟩
  · rcases hi.groups x hx with hold | ⟨b, users, husers, -, -, -, heq⟩
    · exact Or.inl hold
    · exact Or.inr ⟨users, husers, heq, hi.nodup users husers⟩
  · have heach := hi.each
    rw [pending_eq_zero (hi.idle hidle), add_zero, Multiset.coe_add, Multiset.coe_eq_coe] at heach
    exact heach
  · obtain hold | ⟨b', users', husers', hid, hfree, hb', heq⟩ := hi.groups x hx
    · exact absurd hold hnew
    · obtain rfl : b' = b := Value.str.inj (Option.some.inj (hb'.symm.trans hb))
      obtain rfl : users' = users := Value.contacts.inj (Option.some.inj (heq.symm.trans husers))
      have hmembers : members c.world b' = users' := by
        rw [members, ← hid, Store.fieldsAt_of_mem _ hx, heq]
      have hentries := hi.entries b' hfree m.id
      rw [hat.settled hsettled, hmembers, Multiset.map_zero, Multiset.sum_zero,
        add_zero] at hentries
      rw [hentries]
      exact List.count_eq_one_of_mem (hi.nodup users' husers') (List.mem_map_of_mem hm)
  · rw [huncaught] at hlt
    exact absurd hlt (Nat.not_lt_zero _)

end Runs

/-- Alice has selected Bob for a group. -/
def bobSelected : World :=
  { World.initial fun _ => ⟨"alice", "Alice", "1", ""⟩ with
    createCtrl := Heap.empty.alloc
      { device := 0, isGroup := true, contacts := Heap.empty.alloc ⟨"bob", "Bob", "2", "", none⟩,
        selectedContact := [0] } }

theorem ready_bobSelected : Ready 0 bobSelected := ⟨rfl, by decide, fun _ _ _ => rfl⟩

/-- The group is created when the clock shows zero. -/
def create : Event Action := .call .create fun _ => ⟨0, 0, false⟩

/-- Whatever is suspended first goes on, one microsecond later. -/
def go : Event Action := .resume 0 fun _ => ⟨1, 0, false⟩

/-- The events, carried out on the screen on which Bob is selected. -/
def after (es : List (Event Action)) : Config World Scope :=
  (grouping 0).exec ⟨bobSelected, [], []⟩ es

theorem attempt_create : Attempt 0 ⟨bobSelected, [], []⟩ create :=
  ⟨fun _ _ _ => Or.inl rfl, fun _ _ => by decide, fun _ => rfl⟩

/-- The group of Alice and Bob is created, and both get their entries. -/
theorem groups_created_bob : Created 0 bobSelected (create :: List.replicate 11 go)
    (after (create :: List.replicate 11 go)) := by
  refine groups_created ready_bobSelected (System.run_exec
    ⟨⟨fun _ => rfl, attempt_create⟩, System.allowed_replicate fun k hk => ?_⟩)
  have hfree : ∀ k < 11, ((after (create :: List.replicate k go)).world.store.doc? .groups
      (.named (toString 1))).isNone = true := by decide +kernel
  exact ⟨fun _ => rfl, nofun, nofun, fun _ => Option.isNone_iff_eq_none.mp (hfree k hk)⟩

/-- The group does not arrive. -/
def failing : Event Action := .resume 0 fun _ => ⟨1, 0, true⟩

/-- **A call that fails leaves its traces**: when the group does not arrive in the store, the
screen keeps loading, and Alice is among the contacts selected. -/
theorem failed_call_leaves_traces : ¬ ∀ {g : ℕ} {w₀ : World} {es : List (Event Action)}
    {c : Config World Scope}, Ready g w₀ →
    (grouping g).Run (Attempt g) ⟨w₀, [], []⟩ es c → Created g w₀ es c := by
  intro hclaim
  have hattempt : ∀ {c : Config World Scope} {e : Event Action}, e = go ∨ e = failing →
      (c.world.store.doc? .groups (.named (toString 1))).isNone = true → Attempt 0 c e := by
    rintro c e (rfl | rfl) hfree
    · exact ⟨nofun, nofun, fun _ => Option.isNone_iff_eq_none.mp hfree⟩
    · exact ⟨nofun, nofun, fun _ => Option.isNone_iff_eq_none.mp hfree⟩
  have hrun : (grouping 0).Run (Attempt 0) ⟨bobSelected, [], []⟩ [create, go, failing]
      (after [create, go, failing]) :=
    System.run_exec ⟨attempt_create, hattempt (Or.inl rfl) (by decide +kernel),
      hattempt (Or.inr rfl) (by decide +kernel), trivial⟩
  have hcreated := hclaim ready_bobSelected hrun
  have hresumes : ∀ e ∈ [go, failing], ∃ i ticks, e = Event.resume i ticks := by
    intro e he
    rcases List.mem_pair.mp he with rfl | rfl
    · exact ⟨_, _, rfl⟩
    · exact ⟨_, _, rfl⟩
  have hloading := (hcreated.restored [] _ [go, failing] rfl hresumes (by decide +kernel)
    (by decide +kernel)).2
  exact absurd hloading (by decide +kernel)

end FlutterTheme.GroupCreation
