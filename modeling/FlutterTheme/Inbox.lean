import FlutterTheme.Account
import FlutterTheme.Chat

/-!
# The inbox entries of a conversation

`saveMessageInUserCollection` asks for the entry of a conversation and adds one if
it has found none, without a transaction. Two calls that both ask before either
adds leave two entries, and all later calls update the first of them only
(`two_entries`).

The number of entries is what this file counts: a call that starts where there is
an entry already owes nothing, a call that starts where there is none owes at most
one entry. So there is at most one as long as no call for an entry that does not
exist yet is started while another one is under way (`at_most_one_entry`).
-/

namespace FlutterTheme

open EventLoop DocStore

/-! ## Calls of `saveMessageInUserCollection` -/

/-- The arguments of `saveMessageInUserCollection`. -/
structure SaveMessage where
  /-- the device the call is made on -/
  device : ℕ
  id : String
  receiverId : Value
  newChatId : String
  content : String
  senderId : String
  isBlock : Bool
  isBroadcast : Bool
  deriving DecidableEq

/-- Any number of calls of `saveMessageInUserCollection`, by any number of clients. -/
def saving : System World Scope SaveMessage where
  scope a _ := .save a.id a.newChatId
  body a := saveMessageInUserCollection a.device a.id a.receiverId a.newChatId a.content a.senderId
    a.isBlock a.isBroadcast
  enabled _ _ := True

instance (cfg : Config World Scope) : (e : Event SaveMessage) → Decidable (saving.admits cfg e)
  | .call _ _ | .resume _ _ => inferInstanceAs (Decidable True)

/-- The entries of the conversation `c` in the inbox of `u`. -/
def chatEntries (w : World) (u c : String) : List Document :=
  w.store.query (.chats u) (Fields.isEqualTo .chatId (.str c))

/-- No call for the entry of `u` and `c` is started that may find no entry while
another such call is under way. -/
def NoRace (u c : String) (cfg : Config World Scope) : Event SaveMessage → Prop
  | .call a _ => a.id = u → a.newChatId = c →
      0 < (chatEntries cfg.world u c).length ∨ ∀ th ∈ cfg.threads, th.scope ≠ .save u c
  | .resume _ _ => True

instance (u c : String) (cfg : Config World Scope) :
    (e : Event SaveMessage) → Decidable (NoRace u c cfg e)
  | .call a _ => inferInstanceAs (Decidable (a.id = u → a.newChatId = c →
      0 < (chatEntries cfg.world u c).length ∨ ∀ th ∈ cfg.threads, th.scope ≠ .save u c))
  | .resume _ _ => inferInstanceAs (Decidable True)

/-! ## The account of the entries -/

/-- Entries stay, in their conversations. -/
def inboxProtocol : Protocol World Scope where
  rely w w' := ∀ u, Store.Keeps (fun d : Data => d .chatId) (Path.chats u) w.store w'.store
  inv _ := True
  step _ _ _ := True
  rely_refl _ _ := Store.Keeps.refl _ _ _
  rely_trans := fun h h' u => Store.Keeps.trans (h u) (h' u)
  step_refl _ _ := trivial

variable {u c : String} {w w' : World} {l : Scope} {n : ℤ}

/-- The entries of the conversation `c` of `u`: only calls for this entry owe any. -/
def entryLedger (u c : String) : Ledger World Scope where
  balance w := (chatEntries w u c).length
  limit l n := 0 ≤ n ∧ (l ≠ .save u c → n = 0)
  exact := False

theorem entryLedger_settles (hn : 0 ≤ n)
    (h : (chatEntries w' u c).length = (chatEntries w u c).length) :
    (entryLedger u c).Settles w w' 0 n :=
  ⟨by simp only [entryLedger, h]; omega, False.elim⟩

section Save

variable {x cid sender content stamp : String} {receiverId : Value} {isBlock isBroadcast : Bool}
  {docs : List Document}

/-- The documents are entries of `x` for the conversation `cid`, and stay so. -/
def FoundEntries (w : World) (x cid : String) (docs : List Document) : Prop :=
  ∀ d ∈ docs, ∀ w', inboxProtocol.rely w w' → ∀ d' ∈ w'.store.docs (.chats x), d'.id = d.id →
    d'.data .chatId = some (.str cid)

theorem foundEntries_query (hw : inboxProtocol.rely w w') :
    FoundEntries w' x cid (chatEntries w x cid) := by
  intro d hd w'' hw' d' hd' hid
  obtain ⟨hd, hq⟩ := (Store.mem_query _).mp hd
  have hsame := (inboxProtocol.rely_trans hw hw' x).of_id hd hd' hid
  exact hsame.trans (Fields.isEqualTo_iff.mp hq)

/-- Entries that were there are still found. -/
theorem chatEntries_ne_nil (hw : inboxProtocol.rely w w') (h : chatEntries w u c ≠ []) :
    chatEntries w' u c ≠ [] := by
  obtain ⟨d, hd⟩ := List.exists_mem_of_ne_nil _ h
  obtain ⟨hd, hq⟩ := (Store.mem_query _).mp hd
  obtain ⟨d', hd', -, hcid⟩ := hw u d hd
  refine List.ne_nil_of_mem ((Store.mem_query _).mpr ⟨hd', ?_⟩)
  exact Fields.isEqualTo_iff.mpr (hcid.trans (Fields.isEqualTo_iff.mp hq))

/-- A call for the entry of `x` and `cid` may owe something to the account of `u`
and `c` only if this is the same entry. -/
structure OwesOnlyOwn (u c x cid : String) (n : ℤ) : Prop where
  nonneg : 0 ≤ n
  other : ¬ (x = u ∧ cid = c) → n = 0

theorem OwesOnlyOwn.zero (u c x cid : String) : OwesOnlyOwn u c x cid 0 :=
  ⟨Int.le_refl 0, fun _ => rfl⟩

/-- A call that fails adds no entry. -/
theorem OwesOnlyOwn.dropped (h : OwesOnlyOwn u c x cid n) : (entryLedger u c).Fits 0 n :=
  ⟨h.nonneg, False.elim⟩

theorem OwesOnlyOwn.limit (h : OwesOnlyOwn u c x cid n) :
    (entryLedger u c).limit (.save x cid) n := by
  refine ⟨h.nonneg, fun hne => h.other ?_⟩
  rintro ⟨rfl, rfl⟩
  exact hne rfl

/-- The first document found is written again: the entries of the conversation stay the same, so
that a call which owes an entry has paid by finding one. -/
theorem pays_update {d : Document} (hn : OwesOnlyOwn u c x cid n)
    (hd : FoundEntries w x cid (d :: docs)) :
    (update (.chats x) d.id
      (inboxFields stamp x receiverId cid content sender isBlock isBroadcast)).Pays inboxProtocol
      (entryLedger u c) (.save x cid) w n fun _ _ _ r => r = 0 := by
  refine Async.pays_bind (Async.pays_remote hn.limit (Or.inr hn.dropped) fun w₁ hw₁ _ _ t _ => ?_)
  have hsame : ∀ y ∈ w₁.store.docs (.chats x), y.id = d.id →
      (y.data.merge (inboxFields stamp x receiverId cid content sender isBlock isBroadcast)) .chatId =
        y.data .chatId :=
    fun y hy hid => (hd d (List.mem_cons_self ..) w₁ hw₁ y hy hid).symm
  refine ⟨?_, trivial, trivial, 0, entryLedger_settles hn.nonneg ?_, (OwesOnlyOwn.zero ..).limit, fun w₂ _ _ _ => ?_⟩
  · intro y
    refine Store.keeps_update ?_
    intro he z hz hid
    cases he
    exact hsame z hz hid
  · refine Store.length_query_update ?_
    intro he z hz hid
    cases he
    simp only [Fields.isEqualTo, hsame z hz hid]
  · split
    · exact Async.pays_pure rfl
    · exact Async.pays_throw rfl

/-- A new entry is what a call may owe: it pays the one it owes, or is an entry of another
conversation or of another user. -/
theorem pays_add (hn : OwesOnlyOwn u c x cid n) (hone : x = u ∧ cid = c → n = 1) :
    (add (.chats x)
      (inboxFields stamp x receiverId cid content sender isBlock isBroadcast)).Pays inboxProtocol
      (entryLedger u c) (.save x cid) w n fun _ _ _ r => r = 0 := by
  refine Async.pays_remote hn.limit (Or.inr hn.dropped) fun w₁ _ _ _ t _ => ?_
  refine ⟨fun y => Store.keeps_add, trivial, trivial, 0, ?_, (OwesOnlyOwn.zero ..).limit,
    fun _ _ _ _ => rfl⟩
  have hlen := Store.length_query_add (s := w₁.store) (.chats x) (.chats u) t.pos
    (inboxFields stamp x receiverId cid content sender isBlock isBroadcast)
    (Fields.isEqualTo .chatId (.str c))
  refine ⟨?_, False.elim⟩
  simp only [entryLedger, chatEntries, hlen]
  split
  · next h =>
    obtain ⟨he, hq⟩ := h
    cases he
    cases Fields.isEqualTo_iff.mp hq
    rw [hone ⟨rfl, rfl⟩]
    omega
  · have := hn.nonneg
    omega

theorem pays_saveFirst (hn : OwesOnlyOwn u c x cid n) (hd : FoundEntries w x cid docs)
    (hone : x = u ∧ cid = c → docs = [] → n = 1) :
    (saveFirst (.chats x) docs
      (inboxFields stamp x receiverId cid content sender isBlock isBroadcast)).Pays inboxProtocol
      (entryLedger u c) (.save x cid) w n fun _ _ _ r => r = 0 := by
  cases docs with
  | nil => exact pays_add hn fun he => hone he rfl
  | cons d docs => exact pays_update hn hd

/-- A change of screens does not touch the entries. -/
theorem pays_clearInput {chatCtrl : Option ℕ} :
    (clearInput chatCtrl).Pays inboxProtocol (entryLedger u c) l w 0 fun _ _ _ r => r = 0 := by
  cases chatCtrl with
  | none => exact Async.pays_pure rfl
  | some chatCtrl =>
    refine Async.pays_sync fun t => ⟨fun _ => Store.Keeps.refl _ _ _, trivial, trivial, 0, ?_, rfl⟩
    exact entryLedger_settles (Int.le_refl 0) rfl

/-- A call owes at most the entry it is for, and nothing if that exists. -/
theorem owes_saveMessage {d : ℕ} (hn : OwesOnlyOwn u c x cid n)
    (hentry : x = u ∧ cid = c → n = 1 ∨ chatEntries w u c ≠ []) :
    (saveMessageInUserCollection d x receiverId cid content sender isBlock isBroadcast).task.Owes
      inboxProtocol (entryLedger u c) (.save x cid) w fun _ m => m = n := by
  refine Async.Pays.owes (Async.pays_bind (Async.pays_get trivial ?_))
  refine Async.pays_bind (Async.pays_remote hn.limit (Or.inr hn.dropped) fun w₁ hw₁ _ _ _ _ => ?_)
  refine ⟨inboxProtocol.rely_refl w₁, trivial, trivial, n, Ledger.settles_of_eq rfl,
    hn.limit, fun w₂ hw₂ _ _ => ?_⟩
  refine Async.pays_bind (Async.pays_sync fun t => ?_)
  refine ⟨inboxProtocol.rely_refl w₂, trivial, trivial, n, Ledger.settles_of_eq rfl, ?_⟩
  refine Async.pays_bind (Async.Pays.mono (pays_saveFirst hn (foundEntries_query hw₂) ?_) ?_)
  · -- where an entry was there at the start, the query has found one
    rintro ⟨rfl, rfl⟩ hnil
    rcases hentry ⟨rfl, rfl⟩ with h | h
    · exact h
    · exact absurd hnil (chatEntries_ne_nil hw₁ h)
  · rintro l' _ w₃ r rfl
    exact pays_clearInput

end Save

/-! ## Runs -/

variable {cfg : Config World Scope} {es : List (Event SaveMessage)} {w₀ : World}

/-- A call of any arguments, with what it owes. -/
theorem owes_saving (a : SaveMessage) (hn : OwesOnlyOwn u c a.id a.newChatId n)
    (hentry : a.id = u ∧ a.newChatId = c → n = 1 ∨ chatEntries w u c ≠ []) :
    (saving.body a).task.Owes inboxProtocol (entryLedger u c) (saving.scope a w) w
      fun _ m => m = n :=
  owes_saveMessage hn hentry

/-- The entries there are and those that are owed are at most one. -/
def AtMostOne (u c : String) (cfg : Config World Scope) : Prop :=
  ∃ total, total ≤ 1 ∧ cfg.Balanced inboxProtocol (entryLedger u c) total

/-- One event keeps the count at most one. The only event that owes an entry is a call that finds
none, and then no other such call is under way, so the account starts again from nothing owed. -/
theorem AtMostOne.apply (hc : AtMostOne u c cfg) {e : Event SaveMessage} (he : NoRace u c cfg e) :
    AtMostOne u c (saving.apply cfg e) := by
  obtain ⟨total, htotal, hbal⟩ := hc
  cases e with
  | resume i ticks =>
    exact ⟨total, htotal,
      (System.balanced_resume hbal (fun _ _ => False.elim) fun _ _ => trivial).1⟩
  | call a ticks =>
    have hadmits : saving.Admits (entryLedger u c) cfg (.call a ticks) := False.elim
    by_cases howes : a.id = u ∧ a.newChatId = c ∧ chatEntries cfg.world u c = []
    · -- the first entry: no other call is under way, and this one owes it
      obtain ⟨hu, hcid, hnil⟩ := howes
      have hnone : ∀ th ∈ cfg.threads, th.scope ≠ .save u c := by
        rcases he hu hcid with hpos | hnone
        · rw [hnil] at hpos
          exact absurd hpos (Nat.lt_irrefl 0)
        · exact hnone
      have hempty : cfg.Balanced inboxProtocol (entryLedger u c) 0 := by
        refine hbal.restart (fun th hth n hl => hl.2 (hnone th hth)) ⟨?_, False.elim⟩
        simp [entryLedger, hnil]
      have hcall := owes_saving (n := 1) (w := cfg.world) a
        ⟨Int.one_nonneg, fun hne => absurd ⟨hu, hcid⟩ hne⟩ fun _ => Or.inl rfl
      obtain ⟨n, hn, -, rfl⟩ := System.balanced_call hempty hadmits hcall
      exact ⟨0 + 1, by omega, hn⟩
    · -- an entry that exists, or another one: nothing is owed
      have hcall := owes_saving (u := u) (c := c) (n := 0) (w := cfg.world) a (.zero ..)
        fun h => Or.inr fun hnil => howes ⟨h.1, h.2, hnil⟩
      obtain ⟨n, hn, -, rfl⟩ := System.balanced_call hbal hadmits hcall
      exact ⟨total + 0, by omega, hn⟩

/-- **At most one entry.** However the reads and writes of any number of calls are
interleaved, and whether or not they fail: an inbox with at most one entry of a
conversation never gets a second one, as long as no call for the entry is started
while there is none and another such call is under way. -/
theorem at_most_one_entry (h₀ : (chatEntries w₀ u c).length ≤ 1)
    (h : saving.Run (NoRace u c) { world := w₀ } es cfg) :
    (chatEntries cfg.world u c).length ≤ 1 := by
  have hstart : AtMostOne u c { world := w₀ } :=
    ⟨1, Int.le_refl 1, trivial, [], .nil, by simp only [entryLedger, List.sum_nil]; omega,
      False.elim⟩
  obtain ⟨total, htotal, hbal⟩ := h.induct hstart fun _ _ hc he => hc.apply he
  have hle := hbal.le fun _ _ hl => hl.1
  simp only [entryLedger] at hle
  omega

/-! ## Two first messages -/

/-- The entry of Alice for the conversation, after a message of hers to Bob. -/
def saveForAlice (content : String) : SaveMessage :=
  ⟨0, "alice", .str "bob", "5000", content, "alice", false, false⟩

/-- Nothing is stored and no call is under way. -/
def nothingStored : Config World Scope := { world := World.initial fun _ => default }

/-- One message after the other. -/
def oneByOne : List (Event SaveMessage) :=
  [.call (saveForAlice "hello") fun _ => ⟨1, 0, false⟩] ++
    List.replicate 8 (.resume 0 fun _ => ⟨1, 0, false⟩) ++
    [.call (saveForAlice "there?") fun _ => ⟨2, 0, false⟩] ++
    List.replicate 8 (.resume 0 fun _ => ⟨2, 0, false⟩)

theorem at_most_one_entry_oneByOne :
    (chatEntries (saving.exec nothingStored oneByOne).world "alice" "5000").length ≤ 1 :=
  at_most_one_entry (by decide +kernel) (System.run_exec (by decide +kernel))

/-- Two messages in quick succession: both calls ask before either adds. -/
def inQuickSuccession : List (Event SaveMessage) :=
  [.call (saveForAlice "hello") fun _ => ⟨1, 0, false⟩,
    .call (saveForAlice "there?") fun _ => ⟨1, 0, false⟩,
    .resume 0 fun _ => ⟨2, 0, false⟩, .resume 0 fun _ => ⟨2, 0, false⟩] ++
    List.replicate 8 (.resume 0 fun _ => ⟨3, 0, false⟩)

/-- Two entries of one conversation. -/
theorem two_entries :
    ¬ ∀ u c es cfg, saving.Run saving.admits nothingStored es cfg →
      (chatEntries cfg.world u c).length ≤ 1 := by
  intro h
  have hone := h "alice" "5000" inQuickSuccession _ (System.run_exec (by decide +kernel))
  exact absurd hone (by decide +kernel)

end FlutterTheme
