import FlutterTheme.Duties
import FlutterTheme.Broadcast
import Mathlib.Algebra.BigOperators.Group.Multiset.Basic

/-!
# Looking up the chats with the selected contacts

`checkChatAvailable` compares every selected contact with all 1:1 documents of the user, and every
document that is not the contact's sets the `chatId` back to null. So a chat is found if its
document is the last one, and only then (`chats_found_iff`).
-/

namespace FlutterTheme.ChatLookup

open EventLoop DocStore

/-! ## What one lookup does -/

/-- What is found for a contact: the last document decides. -/
def found (user id : String) (docs : List Document) : Option String :=
  docs.getLast?.bind fun doc => if isBetween user id doc.data then chatIdOf doc.data else none

section Available

variable {s : CreateGroupController} {e e' : ℕ} {x y : Option String} {user : String}

/-- The contact is what it was but for its `chatId`. -/
theorem get_setChatId : (s.setChatId e x).contacts.get e' =
    if e' = e then { s.contacts.get e with chatId := x } else s.contacts.get e' := by
  simp only [CreateGroupController.setChatId, Heap.get_modify]

theorem mem_newContact : e' ∈ (s.setChatId e x).newContact ↔ e' = e ∨ e' ∈ s.newContact := by
  by_cases he : e ∈ s.newContact
  · simp only [CreateGroupController.setChatId, if_pos he]
    exact ⟨Or.inr, fun h => h.elim (fun heq => heq ▸ he) id⟩
  · simp only [CreateGroupController.setChatId, if_neg he, List.mem_append, List.mem_singleton]
    exact or_comm

theorem nodup_newContact (h : s.newContact.Nodup) : (s.setChatId e x).newContact.Nodup := by
  by_cases he : e ∈ s.newContact
  · simpa only [CreateGroupController.setChatId, if_pos he] using h
  · simp only [CreateGroupController.setChatId, if_neg he]
    refine List.nodup_append.mpr ⟨h, List.nodup_singleton e, fun a ha b hb => ?_⟩
    obtain rfl := List.mem_singleton.mp hb
    exact fun heq => he (heq ▸ ha)

/-- Of two answers for the same contact the second counts. -/
theorem setChatId_setChatId : (s.setChatId e x).setChatId e y = s.setChatId e y := by
  have hmem : e ∈ (s.setChatId e x).newContact := mem_newContact.mpr (Or.inl rfl)
  have hcontacts : (s.setChatId e x).contacts.modify e (fun value => { value with chatId := y }) =
      s.contacts.modify e fun value => { value with chatId := y } := by
    simp [CreateGroupController.setChatId, Heap.modify]
  rw [CreateGroupController.setChatId, if_pos hmem, hcontacts]
  rfl

/-- The documents are compared with the contact one after the other, and the last one counts. -/
theorem foldl_compare (user : String) (e : ℕ) (doc : Document) : ∀ (docs : List Document) (s : CreateGroupController),
    (docs ++ [doc]).foldl (CreateGroupController.compare user e) s =
      s.setChatId e
        (if isBetween user (s.contacts.get e).id doc.data then chatIdOf doc.data else none)
  | [], _ => rfl
  | d :: docs, s => by
    rw [List.cons_append, List.foldl_cons, foldl_compare user e doc docs, CreateGroupController.compare,
      setChatId_setChatId, get_setChatId, if_pos rfl]

/-- A lookup as a whole. -/
theorem available_eq {docs : List Document} :
    s.available user e docs = s.setChatId e (found user (s.contacts.get e).id docs) := by
  rcases List.eq_nil_or_concat docs with rfl | ⟨rest, doc, rfl⟩
  · rfl
  · rw [List.concat_eq_append]
    have hfound : found user (s.contacts.get e).id (rest ++ [doc]) =
        if isBetween user (s.contacts.get e).id doc.data then chatIdOf doc.data else none := by
      simp [found]
    rw [hfound, ← foldl_compare user e doc rest s]
    cases rest <;> rfl

end Available

/-! ## All lookups -/

/-- The 1:1 documents that the lookups of a controller get. -/
def chatsOf (w : World) (g : ℕ) : List Document :=
  w.store.query (.chats (w.session (w.createCtrl.get g).device).id)
    (Fields.isEqualTo .isOneToOne (.bool true))

/-- The document is of a chat between the user of the controller and a selected contact. -/
def Between (w : World) (g e : ℕ) (doc : Document) : Prop :=
  isBetween (w.session (w.createCtrl.get g).device).id ((w.createCtrl.get g).contacts.get e).id
    doc.data = true

/-- The state before the lookups: no contact is twice in `newContact`, and there is one 1:1
document for a peer at most. -/
structure Ready (w : World) (g : ℕ) : Prop where
  nodup : (w.createCtrl.get g).newContact.Nodup
  unique : ∀ e ∈ (w.createCtrl.get g).selectedContact, ∀ doc ∈ chatsOf w g, ∀ doc' ∈ chatsOf w g,
    Between w g e doc → Between w g e doc' → doc = doc'

/-- The chats are found: the selected contacts are in `newContact`, each of them once, with the
`chatId` of the chat with them, if there is one. -/
structure ChatsFound (w : World) (g : ℕ) (w' : World) : Prop where
  once : ∀ e ∈ (w.createCtrl.get g).selectedContact, (w'.createCtrl.get g).newContact.count e = 1
  known : ∀ e ∈ (w.createCtrl.get g).selectedContact, ∀ doc ∈ chatsOf w g, Between w g e doc →
    ((w'.createCtrl.get g).contacts.get e).chatId = chatIdOf doc.data
  unknown : ∀ e ∈ (w.createCtrl.get g).selectedContact,
    (∀ doc ∈ chatsOf w g, ¬ Between w g e doc) →
      ((w'.createCtrl.get g).contacts.get e).chatId = none

/-- The document of a selected contact's chat, if it has a `chatId`, is the last of all. -/
def EachLast (w : World) (g : ℕ) : Prop :=
  ∀ e ∈ (w.createCtrl.get g).selectedContact, ∀ doc ∈ chatsOf w g, Between w g e doc →
    chatIdOf doc.data ≠ none → (chatsOf w g).getLast? = some doc

/-- What has been looked up when the contacts in `r` are still to be looked up. -/
structure LookedUp (w : World) (g : ℕ) (w' : World) (r : Multiset ℕ) : Prop where
  store : w'.store = w.store
  nodup : (w'.createCtrl.get g).newContact.Nodup
  ids : ∀ e, ((w'.createCtrl.get g).contacts.get e).id = ((w.createCtrl.get g).contacts.get e).id
  listed : ∀ e ∈ (w.createCtrl.get g).selectedContact, e ∉ r →
    e ∈ (w'.createCtrl.get g).newContact
  answered : ∀ e ∈ (w.createCtrl.get g).selectedContact, e ∉ r →
    ((w'.createCtrl.get g).contacts.get e).chatId =
      found (w.session (w.createCtrl.get g).device).id ((w.createCtrl.get g).contacts.get e).id
        (chatsOf w g)

/-- The runs looked at: no operation fails. -/
def duties (w : World) (g : ℕ) : Duties World Scope (Multiset ℕ) where
  admits t := t.fails = false
  inv := LookedUp w g

section Lookup

variable {w w' : World} {g e : ℕ} {r : Multiset ℕ}

/-- The answer for one contact: it is listed, with the `chatId` that comparing the documents leaves,
and the answers for the other contacts stay as they are. -/
theorem lookedUp_available (h : LookedUp w g w' ({e} + r)) :
    LookedUp w g
      { w' with createCtrl := w'.createCtrl.modify g (CreateGroupController.available
        (w.session (w.createCtrl.get g).device).id e (chatsOf w g)) } (0 + r) := by
  have hctrl : (w'.createCtrl.modify g (CreateGroupController.available
      (w.session (w.createCtrl.get g).device).id e (chatsOf w g))).get g =
        (w'.createCtrl.get g).setChatId e (found (w.session (w.createCtrl.get g).device).id
          ((w.createCtrl.get g).contacts.get e).id (chatsOf w g)) := by
    rw [Heap.get_modify, if_pos rfl, available_eq, h.ids e]
  have hdue : ∀ e', e' ∉ 0 + r → e' ≠ e → e' ∉ ({e} : Multiset ℕ) + r := by
    intro e' he' hne
    rw [zero_add] at he'
    simp [hne, he']
  refine ⟨h.store, ?_, fun e' => ?_, fun e' hsel hnot => ?_, fun e' hsel hnot => ?_⟩ <;>
    simp only [hctrl]
  · exact nodup_newContact h.nodup
  · rw [get_setChatId]
    split
    · rename_i heq
      rw [heq]
      exact h.ids e
    · exact h.ids e'
  · by_cases heq : e' = e
    · exact mem_newContact.mpr (Or.inl heq)
    · exact mem_newContact.mpr (Or.inr (h.listed e' hsel (hdue e' hnot heq)))
  · rw [get_setChatId]
    by_cases heq : e' = e
    · rw [if_pos heq, heq]
    · rw [if_neg heq]
      exact h.answered e' hsel (hdue e' hnot heq)

/-- The call for one contact. -/
theorem leaves_checkContact :
    (checkContact g (w.session (w.createCtrl.get g).device).id e).task.Leaves (duties w g) w
      fun w' r => w' = w ∧ r = {e} := by
  refine Async.Leaves.task (Async.leaves_bind (Async.leaves_remote {e} (fun _ => trivial) ⟨rfl, rfl⟩
    (fun t _ _ w' f hi => ⟨{e}, fun _ => trivial, hi, fun w'' f' hi' => ?_⟩)
    fun t ht hf => absurd (hf.symm.trans ht) Bool.noConfusion))
  have hdocs : w'.store.query (.chats (w.session (w.createCtrl.get g).device).id)
      (Fields.isEqualTo .isOneToOne (.bool true)) = chatsOf w g := by
    rw [chatsOf, hi.store]
  simp only [hdocs]
  exact Async.leaves_modify (lookedUp_available hi')

/-- The lookups of all selected contacts are started at once, and nothing waits for them: one duty
for each contact. By induction on the selection. -/
theorem leaves_checkChatAvailable (hw : Ready w g) :
    (checkChatAvailable g).task.Leaves (duties w g) w ((duties w g).after 0) := by
  refine Async.Leaves.task (Async.leaves_bind (Async.leaves_get (Async.leaves_bind
    (Async.leaves_get (Async.leaves_forEach (fun e => {e}) (· = w) rfl ?_ ?_)))))
  · rintro e - w' rfl
    exact leaves_checkContact
  · rintro w' rfl
    have hsum : ∀ as : List ℕ, (as.map fun e => ({e} : Multiset ℕ)).sum = as := by
      intro as
      induction as with
      | nil => rfl
      | cons a as ih =>
        rw [List.map_cons, List.sum_cons, ih]
        rfl
    have hall : ∀ e ∈ (w'.createCtrl.get g).selectedContact,
        e ∈ ((w'.createCtrl.get g).selectedContact : Multiset ℕ) + 0 + 0 := by
      intro e he
      simpa using he
    simp only [Duties.after, hsum]
    exact ⟨rfl, hw.nodup, fun _ => rfl, fun e he hnot => absurd (hall e he) hnot,
      fun e he hnot => absurd (hall e he) hnot⟩

/-- What is found for a contact is right exactly if its document, with a `chatId`, is the last. -/
theorem found_eq_iff {user id : String} {docs : List Document}
    (hunique : ∀ doc ∈ docs, ∀ doc' ∈ docs, isBetween user id doc.data = true →
      isBetween user id doc'.data = true → doc = doc') :
    ((∀ doc ∈ docs, isBetween user id doc.data = true →
        found user id docs = chatIdOf doc.data) ∧
      ((∀ doc ∈ docs, ¬ isBetween user id doc.data = true) → found user id docs = none)) ↔
    ∀ doc ∈ docs, isBetween user id doc.data = true → chatIdOf doc.data ≠ none →
      docs.getLast? = some doc := by
  constructor
  · rintro ⟨hknown, -⟩ doc hdoc hbetween hsome
    have heq := hknown doc hdoc hbetween
    cases hlast : docs.getLast? with
    | none => exact absurd (heq.symm.trans (by simp [found, hlast])) hsome
    | some last =>
      have hmem : last ∈ docs := List.mem_of_getLast? hlast
      -- each document overwrites what was found, so only the last one counts
      by_cases hb : isBetween user id last.data = true
      · rw [hunique last hmem doc hdoc hb hbetween]
      · exact absurd (heq.symm.trans (by simp [found, hlast, hb])) hsome
  · intro hlast
    refine ⟨fun doc hdoc hbetween => ?_, fun hnone => ?_⟩
    · by_cases hsome : chatIdOf doc.data = none
      · -- whether the document is the last one or not, there is nothing to be found
        cases hlast' : docs.getLast? with
        | none => simp [found, hlast', hsome]
        | some last =>
          have hmem : last ∈ docs := List.mem_of_getLast? hlast'
          by_cases hb : isBetween user id last.data = true
          · simp [found, hlast', hbetween, hunique last hmem doc hdoc hb hbetween]
          · simp [found, hlast', hb, hsome]
      · simp [found, hlast doc hdoc hbetween hsome, hbetween]
    · cases hlast' : docs.getLast? with
      | none => simp [found, hlast']
      | some last => simp [found, hlast', hnone last (List.mem_of_getLast? hlast')]

end Lookup

/-- **The chats are found exactly if their documents are the last ones.** Once all lookups of
`checkChatAvailable` have settled, every selected contact is in `newContact` once, with the
`chatId` of the chat with it, if and only if each such chat's document comes last. -/
theorem chats_found_iff {w : World} {g : ℕ} {l : Scope} {ticks : ℕ → Tick} {es : List (Event Empty)}
    {c : Config World Scope} (hw : Ready w g) (hticks : ∀ n, (ticks n).fails = false)
    (h : (System.quiet World Scope).Run (fun _ e => ∀ n, (e.ticks n).fails = false)
      ((checkChatAvailable g).start l ticks w) es c) (hc : c.Settled) :
    ChatsFound w g c.world ↔ EachLast w g := by
  have hdone := System.Run.done (fun _ _ => trivial) (leaves_checkChatAvailable hw) hticks h hc
  have hiff : ∀ e ∈ (w.createCtrl.get g).selectedContact, _ :=
    fun e he => found_eq_iff (hw.unique e he)
  constructor
  · intro hfound e he
    refine (hiff e he).mp ?_
    rw [← hdone.answered e he (Multiset.notMem_zero e)]
    exact ⟨hfound.known e he, hfound.unknown e he⟩
  · intro hlast
    refine ⟨fun e he => ?_, fun e he => ?_, fun e he => ?_⟩
    · exact List.count_eq_one_of_mem hdone.nodup (hdone.listed e he (Multiset.notMem_zero e))
    · rw [hdone.answered e he (Multiset.notMem_zero e)]
      exact ((hiff e he).mpr (hlast e he)).1
    · rw [hdone.answered e he (Multiset.notMem_zero e)]
      exact ((hiff e he).mpr (hlast e he)).2

/-- Alice's chat with Bob, which she has started. -/
def withBob : Document := ⟨.named "a", .ofList [(.isOneToOne, .bool true),
  (.senderId, .str "alice"), (.receiverId, .str "bob"), (.chatId, .str "ab")]⟩

/-- Her chat with Carol, which Carol has started. -/
def withCarol : Document := ⟨.named "b", .ofList [(.isOneToOne, .bool true),
  (.senderId, .str "carol"), (.receiverId, .str "alice"), (.chatId, .str "ca")]⟩

/-- Alice has these chats, in this order, and has selected a contact. -/
def twoChats (contact : SelectedContact) : World :=
  { World.initial fun _ => ⟨"alice", "Alice", "1", ""⟩ with
    store := (Store.empty.set (.chats "alice") "a" 0 withBob.data).set
      (.chats "alice") "b" 1 withCarol.data
    createCtrl := Heap.empty.alloc
      { device := 0, isGroup := false, contacts := Heap.empty.alloc contact,
        selectedContact := [0] } }

/-- Alice's contacts. -/
def bob : SelectedContact := ⟨"bob", "Bob", "2", "", none⟩

@[inherit_doc bob]
def carol : SelectedContact := ⟨"carol", "Carol", "3", "", none⟩

/-- Nothing fails. -/
def noFailure : ℕ → Tick := fun _ => ⟨0, 0, false⟩

/-- The lookup of the one contact, carried on to its end. -/
def lookedUpIn (w : World) : Config World Scope :=
  (System.quiet World Scope).exec ((checkChatAvailable 0).start .idle noFailure w)
    (List.replicate 2 (.resume 0 noFailure))

theorem run_lookedUpIn (w : World) :
    (System.quiet World Scope).Run (fun _ e => ∀ n, (e.ticks n).fails = false)
      ((checkChatAvailable 0).start .idle noFailure w) (List.replicate 2 (.resume 0 noFailure))
      (lookedUpIn w) :=
  System.run_replicate fun _ => rfl

theorem chatsOf_twoChats (contact : SelectedContact) :
    chatsOf (twoChats contact) 0 = [withBob, withCarol] := rfl

/-- The two chats are with different peers. -/
theorem ready_twoChats (contact : SelectedContact) : Ready (twoChats contact) 0 := by
  have hbob : ∀ id, isBetween "alice" id withBob.data = true → id = "bob" := by
    intro id h
    simpa [isBetween, withBob, Fields.ofList, eq_comm] using h
  have hcarol : ∀ id, isBetween "alice" id withCarol.data = true → id = "carol" := by
    intro id h
    simpa [isBetween, withCarol, Fields.ofList, eq_comm] using h
  refine ⟨List.nodup_nil, fun e _ doc hdoc doc' hdoc' hb hb' => ?_⟩
  rw [chatsOf_twoChats, List.mem_pair] at hdoc hdoc'
  rcases hdoc with rfl | rfl <;> rcases hdoc' with rfl | rfl
  · rfl
  · exact absurd ((hbob _ hb).symm.trans (hcarol _ hb')) (by decide)
  · exact absurd ((hbob _ hb').symm.trans (hcarol _ hb)) (by decide)
  · rfl

/-- The chat with Carol, the last one, is found. -/
theorem chats_found_iff_carol :
    ChatsFound (twoChats carol) 0 (lookedUpIn (twoChats carol)).world ↔
      EachLast (twoChats carol) 0 :=
  chats_found_iff (ready_twoChats carol) (fun _ => rfl) (run_lookedUpIn _) (by decide +kernel)

/-- **The chat with Bob is not found**, since Carol's document comes after it. -/
theorem chats_lost : ¬ ∀ {w : World} {g : ℕ} {l : Scope} {ticks : ℕ → Tick}
    {es : List (Event Empty)} {c : Config World Scope}, Ready w g →
    (∀ n, (ticks n).fails = false) →
    (System.quiet World Scope).Run (fun _ e => ∀ n, (e.ticks n).fails = false)
      ((checkChatAvailable g).start l ticks w) es c → c.Settled → ChatsFound w g c.world := by
  intro hclaim
  have hfound := hclaim (ready_twoChats bob) (fun _ => rfl) (run_lookedUpIn _) (by decide +kernel)
  have hknown := hfound.known 0 (List.mem_singleton_self 0) withBob
    (chatsOf_twoChats bob ▸ List.mem_cons_self) rfl
  exact absurd hknown (by decide +kernel)

end FlutterTheme.ChatLookup
