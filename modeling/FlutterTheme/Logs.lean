import FlutterTheme.Account
import FlutterTheme.BlockRecord
import FlutterTheme.Transcript

/-!
# No message is lost, and none is stored twice

Messages of chats and of groups are stored by handlers that any number of devices carry on at the
same time, each in several steps. The log of a conversation or of a group is looked at when all of
them are over.

* `postedAt` — what a call posts to a log: a message of a chat or of a group, or the message that
  records a block.
* `accounted_call` — a call that is started owes the log what it posts, whatever the others do.
* `logs_complete` — what is stored is what was there before and what has been posted since. No
  order is asked of the calls: the messages of a conversation may all be under way at once.
-/

namespace FlutterTheme.Logs

open EventLoop DocStore Transcript

/-! ## Logs -/

/-- What a message says: its sender, its content and its type. -/
abbrev Face : Type := Option Value × Option Value × Option Value

def face (d : Data) : Face := (d .sender, d .content, d .type)

/-- The face of a message. -/
def posted (sender content : String) (type : MessageType) : Face :=
  (some (.str sender), some (.str content), some (.str type.name))

/-- The messages of a collection. -/
def log (p : Path) (w : World) : List Face := (w.store.docs p).map fun d => face d.data

/-- The collection is a log, of a conversation or of a group. -/
def isLog : Path → Bool
  | .messages _ | .groupMessage _ => true
  | _ => false

/-- What a message to a group posts to the log. -/
def postedToGroup (p : Path) (w : World) (g : ℕ) (content : String) (type : MessageType) :
    List Face :=
  let s := w.groupCtrl.get g
  if isBlank content then []
  else if .groupMessage s.pId = p then [posted (w.session s.device).id content type]
  else []

/-- What a call posts to the log. -/
def postedAt (p : Path) (c : Clients) (e : Event Action) : List Face :=
  match e with
  | .call (.onSendMessage _ _ _) _ =>
    ((sendsAt c e).filter fun m => .messages m.chatId = p).map fun m =>
      posted m.sender m.content m.type
  | .call (.blockUser k) ticks =>
    if .messages (assignChatId k (ticks 0) c.world).1 = p then
      [posted (c.world.chatCtrl.get k).userData.id "You block this contact" .messageType]
    else []
  | .call (.sendToGroup g content type) _ => postedToGroup p c.world g content type
  | _ => []

/-- What is posted to the log in a run. -/
def postedIn (p : Path) : Clients → List (Event Action) → List Face
  | _, [] => []
  | c, e :: es => postedAt p c e ++ postedIn p (messaging.apply c e) es

theorem postedIn_snoc {p : Path} {e : Event Action} : ∀ {es : List (Event Action)} {c : Clients},
    postedIn p c (es ++ [e]) = postedIn p c es ++ postedAt p (messaging.exec c es) e
  | [], _ => by simp [postedIn, System.exec]
  | e' :: es, c => by
    rw [List.cons_append, postedIn, postedIn_snoc, postedIn, List.append_assoc]
    rfl

/-! ## What is left alone -/

variable {p : Path} {x : Face} {w w' : World} {l : Scope}

theorem log_of_store (h : w'.store = w.store) : log p w' = log p w := by rw [log, log, h]

/-- The actions that post nothing to the log. -/
def silent (p : Path) : Deeds World where
  rel _ w w' := log p w' = log p w
  refl _ _ := rfl

instance : AllowsHandlers (silent p) where
  screens hstore _ _ _ := log_of_store hstore
  mint _ hstore _ _ _ := log_of_store hstore
  notify _ := rfl

instance : AllowsLoading (silent p) where
  screens hstore _ _ := log_of_store hstore

theorem silent_of_ne {op : Write Path Key Value} (h : p ≠ op.path) :
    AllowsWrite (silent p) op := by
  intro t w
  change log p _ = log p w
  rw [log, log, Store.docs_write_of_ne h]

/-- A mark is not posted. -/
theorem silent_marks {op : Write Path Key Value} (h : Marks op) : AllowsWrite (silent p) op := by
  have hface (s : Store Path Key Value) (q : Path) (id : DocId) :
      ((s.update q id seenFields).docs p).map (fun d => face d.data) =
        (s.docs p).map fun d => face d.data := by
    simp only [Store.update]
    split
    · next hp =>
      rw [hp, List.map_map]
      refine List.map_congr_left fun d _ => ?_
      simp only [Function.comp_apply]
      split
      · simp only [face, Fields.merge_of_none (show seenFields .sender = none from rfl),
          Fields.merge_of_none (show seenFields .content = none from rfl),
          Fields.merge_of_none (show seenFields .type = none from rfl)]
      · rfl
    · rfl
  intro t w
  cases h with
  | entry u id => exact hface ..
  | message c id => exact hface ..

theorem silent_save (hp : isLog p = true) {u : String} {op : Write Path Key Value}
    (h : SavesTo u op) : AllowsWrite (silent p) op := by
  refine silent_of_ne ?_
  rintro rfl
  cases h with
  | add | update => exact Bool.false_ne_true hp

/-! ## What is owed -/

/-- Anything may happen. -/
def anything : Protocol World Scope where
  rely _ _ := True
  inv _ := True
  step _ _ _ := True
  rely_refl _ := trivial
  rely_trans _ _ := trivial
  step_refl _ _ := trivial

/-- How often a message is in the log. No operation fails. -/
def count (p : Path) (x : Face) : Ledger World Scope where
  balance w := (log p w).count x
  strict _ := True
  exact := True

/-- The call owes the log these messages. -/
abbrev Owes (p : Path) (x : Face) (t : Task World Scope) (l : Scope) (w : World) (xs : List Face) :
    Prop :=
  t.Owes anything (count p x) l w fun _ n => n = xs.count x

theorem owes_silent {t : Task World Scope} (h : t.All (silent p)) : Owes p x t l w [] := by
  refine (Task.All.owes (fun _ _ _ _ _ hlog => ⟨trivial, trivial, trivial, ?_⟩)
    (fun _ => trivial) (fun _ _ h => h) h trivial).mono fun _ _ h => h
  refine Ledger.settles_of_eq ?_
  exact congrArg (fun xs : List Face => (xs.count x : ℤ)) hlog

/-- A document is added. -/
theorem pays_add {q : Path} {d : Data} {r : ℤ} {Q : Scope → Unit → World → ℤ → Prop}
    (h : ∀ w', Q l () w' r) :
    Async.Pays anything (count p x) (add q d) l w
      ((if q = p then [face d] else []).count x + r) Q := by
  refine Async.pays_remote trivial (.inl trivial) fun w' _ _ _ t _ =>
    ⟨trivial, trivial, trivial, r, ?_, trivial, fun w'' _ _ _ => h w''⟩
  have hbalance : (count p x).balance { w' with store := w'.store.add q t.pos d } =
      (count p x).balance w' + (if q = p then [face d] else []).count x := by
    simp only [count, log]
    split
    · next hq =>
      subst hq
      have hperm := (Store.perm_docs_add (s := w'.store) q t.pos d).map fun d => face d.data
      rw [hperm.count_eq, List.map_cons, List.count_cons, List.count_singleton]
      push_cast
      rfl
    · next hq =>
      rw [Store.docs_add_of_ne fun he => hq he.symm]
      simp
  refine ⟨?_, fun _ => ?_⟩ <;> rw [hbalance] <;> omega

/-! ## The calls -/

variable {m : Sent} {c : Clients} {ticks : ℕ → Tick}

/-- A message of a chat is on its way. -/
theorem owes_rest (hp : isLog p = true) {k stamp : ℕ} {s : ChatController} :
    Owes p x (rest k s m stamp).task l w
      (if .messages m.chatId = p then [posted m.sender m.content m.type] else []) := by
  have hentries : (saveEntries k s m).All (silent p) :=
    all_saveEntries (fun _ => silent_marks) (fun _ => silent_save hp) fun _ => silent_save hp
  refine Async.Pays.seq (Q := fun _ _ _ r => r = 0) ?_ ?_
  · have hpays := pays_add (p := p) (x := x) (q := .messages m.chatId) (d := m.message stamp)
      (l := l) (w := w) (r := 0) (Q := fun _ _ _ r => r = 0) fun _ => rfl
    rwa [add_zero] at hpays
  · rintro l' _ w' _ rfl
    exact owes_silent hentries.task

/-- A message is stored and not awaited, and what is done besides is silent. -/
theorem owes_record {q : Path} {d : String → Data} {y : Face} {m : Call Unit}
    (hface : ∀ stamp, face (d stamp) = y) (hm : m.All (silent p)) :
    Owes p x (do
      let stamp ← millisecondsSinceEpoch
      Async.spawn (add q (d stamp))
      m : Call Unit).task l w (if q = p then [y] else []) := by
  refine Async.Pays.seq (Q := fun _ stamp _ r =>
    r = (if q = p then [face (d stamp)] else []).count x) ?_ ?_
  · exact Async.pays_sync fun t => ⟨trivial, trivial, trivial, _, Ledger.settles_of_eq rfl,
      by rw [hface]⟩
  · rintro l' stamp w' _ rfl
    refine Async.Pays.seq (Q := fun _ _ _ r => r = 0) ?_ ?_
    · have hpays := pays_add (p := p) (x := x) (q := q) (d := d stamp) (l := l') (w := w') (r := 0)
        (Q := fun _ _ _ r => r = 0) fun _ => rfl
      exact Async.pays_spawn trivial hpays.owes fun w'' _ _ => ⟨0, rfl, rfl⟩
    · rintro l'' _ w'' _ rfl
      exact owes_silent hm.task

/-- The message that records a block. -/
theorem owes_block (hp : isLog p = true) {s : ChatController} {cid : String} :
    Owes p x (block s cid).task l w
      (if .messages cid = p then [posted s.userData.id "You block this contact" .messageType]
      else []) := by
  refine owes_record (d := fun stamp => blockFields stamp s.userData.id s.pId
    "You block this contact" cid) (fun _ => rfl) ?_
  split
  · exact Async.all_throw
  · exact all_saveTo fun _ => silent_save hp

/-- The entries of the members of a group. -/
theorem all_saveGroupData (hp : isLog p = true) {n : ℕ} {groupId content : String}
    {pData : GroupChatMessageController} :
    (saveGroupData n groupId content pData).All (silent p) := by
  refine Async.all_bind Async.all_get fun user => Async.all_forEach fun element _ => ?_
  refine Async.all_bind all_getDocs fun value => ?_
  split
  · exact Async.all_pure
  · refine Async.all_bind all_millisecondsSinceEpoch fun updateStamp => ?_
    refine Async.all_bind (Async.all_spawn (all_update (silent_save hp (.update _ _)))) fun _ => ?_
    exact Async.all_ite (Async.all_spawn all_notifyMember) Async.all_pure

/-- A message to a group owes one document, with the sender and the text that the screen and the
session have when it is sent, below the group of the screen. -/
theorem owes_deliverToGroup (hp : isLog p = true) {g : ℕ} {content : String}
    {type : MessageType} {s : GroupChatMessageController} {user : UserData}
    (hs : w.groupCtrl.get g = s) (huser : w.session s.device = user) :
    Owes p x (deliverToGroup g content type).task l w
      (if .groupMessage s.pId = p then [posted user.id content type] else []) := by
  refine Async.Pays.seq (Q := fun _ a w' r => a = s ∧ w' = w ∧ r = _)
    (Async.pays_get trivial ⟨hs, rfl, rfl⟩) ?_
  rintro l₁ _ _ _ ⟨rfl, rfl, rfl⟩
  refine Async.Pays.seq (Q := fun _ a _ r => a = user ∧ r = _)
    (Async.pays_get trivial ⟨huser, rfl⟩) ?_
  rintro l₂ _ w₂ _ ⟨rfl, rfl⟩
  refine Async.Pays.seq (Q := fun _ _ _ r => r = _) (Async.pays_enter id rfl) ?_
  rintro l₃ _ w₃ _ rfl
  exact owes_record (fun _ => rfl) (Async.all_bind (all_saveGroupData hp) fun _ =>
    all_modifyGroup fun _ => nofun)

/-- A message to a group owes one document in the group's log, a blank one none. -/
theorem owes_sendToGroup (hp : isLog p = true) {g : ℕ} {content : String} {type : MessageType} :
    Owes p x (GroupChat.onSendMessage g content type).task l w
      (postedToGroup p w g content type) := by
  refine Async.Pays.seq (Q := fun _ _ w' r => r = (postedToGroup p w g content type).count x ∧
    w'.session = w.session ∧ (w'.groupCtrl.get g).pId = (w.groupCtrl.get g).pId ∧
    (w'.groupCtrl.get g).device = (w.groupCtrl.get g).device) ?_ ?_
  · refine Async.pays_sync fun t =>
      ⟨trivial, trivial, trivial, _, Ledger.settles_of_eq rfl, rfl, ?_⟩
    simp only [Heap.get_modify, if_true, and_self]
  · rintro l' _ w' _ ⟨rfl, hsession, hpId, hdevice⟩
    by_cases hblank : isBlank content = true
    · simp only [postedToGroup, if_pos hblank]
      exact Async.Pays.owes (Async.pays_pure rfl)
    · simp only [postedToGroup, if_neg hblank, ← hsession, ← hpId, ← hdevice]
      exact owes_deliverToGroup hp rfl rfl

/-- The calls that post nothing, messages without text among them: what they write is not in a log,
or is a mark of an entry. -/
theorem all_silent (hp : isLog p = true) {a : Action} (ticks : ℕ → Tick)
    (h : isChat (.call a ticks) = true)
    (hsend : ∀ k content type, a = .onSendMessage k content type → isBlank content = true) :
    a.body.All (silent p) := by
  have hmarks : ∀ op, Marks op → AllowsWrite (silent p) op := fun _ => silent_marks
  cases a with
  | userRegister user email pushToken =>
    refine Async.all_bind Async.all_enter fun _ => Async.all_bind all_getDocs fun value => ?_
    split
    · exact Async.all_pure
    · refine all_set fun pos => silent_of_ne ?_
      rintro rfl
      exact Bool.false_ne_true hp
  | saveContact d contact isRegister => exact all_saveContact hmarks
  | tapCard d entry => exact all_tapCard hmarks
  | openCreate d isGroup => exact all_screens (fun _ => ⟨rfl, rfl, rfl⟩) fun _ => .of_eq rfl rfl
  | editGroup g name imageFile => exact all_modifyCreate
  | selectUserTap g value => exact all_modifyCreate
  | onSendMessage k content type => exact all_onSendMessage_blank (hsend k content type rfl)
  | blockUser c | deleteAlert c message | addGroupBottomSheet g | createGroup g
  | sendToGroup g content type | sendToBroadcast b content type =>
    exact absurd h Bool.false_ne_true

/-! ## Runs -/

/-- Accounts and screens come about, messages are sent to users and groups, and contacts are
blocked. -/
def isTalk : Event Action → Bool
  | .call (.blockUser _) _ | .call (.sendToGroup _ _ _) _ => true
  | e => isChat e

/-- What has been done to the log when a call is first suspended. -/
abbrev Accounted (p : Path) (x : Face) (w : World) (o : Outcome World Scope) (xs : List Face) :
    Prop :=
  o.Accounted anything (count p x) w fun _ n => n = xs.count x

theorem Accounted.of_log {o : Outcome World Scope} {xs : List Face} (h : Accounted p x w' o xs)
    (hlog : log p w' = log p w) : Accounted p x w o xs := by
  obtain ⟨hle, hinv, hsteps, ns, hns, n, hsettles, hn⟩ := h
  refine ⟨trivial, trivial, fun _ _ => trivial, ns, hns, n, ?_, hn⟩
  exact (Ledger.settles_of_eq (by simp only [count, hlog])).trans hsettles

theorem Owes.accounted {t : Task World Scope} {xs : List Face} {i : ℕ}
    {steps : List (Step World Scope)} (h : Owes p x t l w xs)
    (hticks : ∀ n, (ticks n).fails = false) :
    Accounted p x w { t.run ticks l i w with steps := steps } xs :=
  { Task.Owes.run (i := i) (fun _ => hticks) trivial h with steps := fun _ _ => trivial }

theorem accounted_silent {a : Action} (h : a.body.All (silent p))
    (hposted : postedAt p c (.call a ticks) = []) (hticks : ∀ n, (ticks n).fails = false) :
    Accounted p x c.world (messaging.outcome c (.call a ticks)) (postedAt p c (.call a ticks)) := by
  rw [hposted]
  exact Owes.accounted (owes_silent h.task) hticks

/-- A message that is not blank starts exactly one call, which owes the message to the conversation
it is sent in and nothing to any other log. -/
theorem accounted_onSendMessage (hp : isLog p = true) {k : ℕ} {content : String}
    {type : MessageType} (hc : Consistent c.world) (hk : k < c.world.chatCtrl.size)
    (hblank : ¬ isBlank content = true) :
    Accounted p x c.world (messaging.outcome c (.call (.onSendMessage k content type) ticks))
      (postedAt p c (.call (.onSendMessage k content type) ticks)) := by
  obtain ⟨m, hsent, hstarts⟩ := exists_starts type ticks hc hk hblank
  obtain ⟨s, body, hbody, hthreads⟩ := hstarts.threads
  have howes : ∀ w, (Task.await body).Owes anything (count p x) (.send m.sender m.receiver m.chatId)
      w fun _ n => n = (if .messages m.chatId = p then [posted m.sender m.content m.type]
        else []).count x := fun w => hbody ▸ owes_rest hp
  have hposted : postedAt p c (.call (.onSendMessage k content type) ticks) =
      if .messages m.chatId = p then [posted m.sender m.content m.type] else [] := by
    by_cases hpath : .messages m.chatId = p <;> simp [postedAt, hsent, hpath]
  rw [hposted]
  obtain ⟨n, hn, hlimit, hcarried⟩ := howes c.world
  refine ⟨trivial, trivial, fun _ _ => trivial, [n], ?_, n, ?_, hn⟩
  · rw [hthreads]
    exact .cons ⟨trivial, fun w' _ _ _ => hcarried w' trivial trivial trivial⟩ .nil
  · rw [List.sum_singleton]
    exact Ledger.settles_of_eq (by simp only [count, log_of_store hstarts.store])

/-- A block posts one message to the conversation of its screen, the one that announces it. -/
theorem accounted_blockUser (hp : isLog p = true) {k : ℕ} (hc : Consistent c.world)
    (hk : k < c.world.chatCtrl.size) (hticks : ∀ n, (ticks n).fails = false) :
    Accounted p x c.world (messaging.outcome c (.call (.blockUser k) ticks))
      (postedAt p c (.call (.blockUser k) ticks)) := by
  have hsound := hc.chat k hk
  obtain ⟨hstore, hs⟩ := assignChatId_get k (ticks 0) c.world
  obtain ⟨steps, houtcome⟩ := outcome_blockUser c k ticks rfl rfl
  simp only [hs, hsound.isBlock, Bool.false_eq_true, if_false] at houtcome
  rw [houtcome]
  exact (Owes.accounted (owes_block hp) hticks).of_log (log_of_store hstore)

/-- Every action accounts for what it posts: a message or a block posts what it owes, and the others
post nothing. One case for each action that the run may hold. -/
theorem accounted_call (hp : isLog p = true) {a : Action} (hc : Consistent c.world)
    (ha : a.enabled c.world) (htalk : isTalk (.call a ticks) = true)
    (hticks : ∀ n, (ticks n).fails = false) :
    Accounted p x c.world (messaging.outcome c (.call a ticks)) (postedAt p c (.call a ticks)) := by
  cases a with
  | onSendMessage k content type =>
    by_cases hblank : isBlank content = true
    · -- a blank message is not posted
      have hposted : postedAt p c (.call (.onSendMessage k content type) ticks) = [] := by
        simp [postedAt, sendsAt, hblank]
      refine accounted_silent (all_silent hp ticks rfl ?_) hposted hticks
      rintro _ _ _ he
      cases he
      exact hblank
    · exact accounted_onSendMessage hp hc ha hblank
  | blockUser k => exact accounted_blockUser hp hc ha hticks
  | sendToGroup g content type => exact Owes.accounted (owes_sendToGroup hp) hticks
  | userRegister user email pushToken | saveContact d contact isRegister | tapCard d entry
  | openCreate d isGroup | editGroup g name imageFile | selectUserTap g value =>
    refine accounted_silent (all_silent hp ticks rfl ?_) rfl hticks
    -- none of these is an `onSendMessage`
    rintro _ _ _ he
    cases he
  | deleteAlert k message | addGroupBottomSheet g | createGroup g
  | sendToBroadcast b content type => exact absurd htalk Bool.false_ne_true

/-- What is in the log, and what will be put into it, is what was there before and what has been
posted since. -/
theorem balanced_run (hp : isLog p = true) {session : ℕ → UserData} {es₀ es : List (Event Action)}
    {c₀ : Clients} (h₀ : messaging.Run messaging.admits (Clients.initial session) es₀ c₀)
    (hrest : c₀.Settled)
    (h : messaging.Run (fun c e => messaging.admits c e ∧ isTalk e = true ∧ e.Succeeds) c₀ es c) :
    c.Balanced anything (count p x) ((log p c₀.world).count x + (postedIn p c₀ es).count x) := by
  induction h with
  | nil =>
    refine ⟨trivial, [], hrest ▸ .nil, ?_⟩
    simp only [postedIn, List.count_nil, Nat.cast_zero, List.sum_nil]
    exact Ledger.fits_refl _ _
  | @snoc es c h e he ih =>
    obtain ⟨hadmits, htalk, hsucc⟩ := he
    have hc : Consistent c.world :=
      Clients.consistent (h₀.append (h.mono fun _ _ he => he.1))
    rw [postedIn_snoc, ← h.exec_eq, List.count_append, Nat.cast_add, ← add_assoc]
    cases e with
    | resume i ticks =>
      simp only [postedAt, List.count_nil, Nat.cast_zero, add_zero]
      exact (System.balanced_resume ih (fun _ _ _ => hsucc) fun _ _ => trivial).1
    | call a ticks =>
      obtain ⟨-, -, -, ms, hms, _, hsettles, rfl⟩ :=
        accounted_call (x := x) hp hc hadmits htalk hsucc
      obtain ⟨ns, hns, hfits⟩ := ih.owes
      refine ⟨trivial, ns ++ ms, List.rel_append (hns.imp fun _ _ h => h.mono trivial) hms, ?_⟩
      rw [List.sum_append]
      refine hfits.add_cancel hsettles (k := (count p x).balance c.world) ?_ ?_
      · simp only [System.apply]
        omega
      · omega

/-- **No message is lost, and none is stored twice.** Whatever is sent to users and groups and
whoever is blocked, and however the steps of the handlers are interleaved: once all of them are
over, what is stored in a conversation or a group is what was stored before and what has been
posted since, each message as often as it has been posted. -/
theorem logs_complete (hp : isLog p = true) {session : ℕ → UserData}
    {es₀ es : List (Event Action)} {c₀ : Clients}
    (h₀ : messaging.Run messaging.admits (Clients.initial session) es₀ c₀) (hrest₀ : c₀.Settled)
    (h : messaging.Run (fun c e => messaging.admits c e ∧ isTalk e = true ∧ e.Succeeds) c₀ es c)
    (hrest : c.Settled) : (log p c.world).Perm (log p c₀.world ++ postedIn p c₀ es) := by
  refine List.perm_iff_count.mpr fun x => ?_
  have hfits := (balanced_run (x := x) hp h₀ hrest₀ h).settled hrest
  have hcount : ((log p c.world).count x : ℤ) = _ := hfits.2 trivial
  rw [List.count_append]
  omega

/-- Alice writes twice and blocks Bob before any of it is stored. -/
def hurried : List (Event Action) :=
  .call (.onSendMessage 0 "hello" .text) (clock 5000) ::
    .call (.onSendMessage 0 "are you there" .text) (clock 5001) ::
      .call (.blockUser 0) (clock 5002) :: settle 5003 80

/-- Both chats are open and nothing is under way. -/
def bothReady : Clients := messaging.exec (Clients.initial aliceAndBob) bothOpen

/-- Two messages and a block, all under way at once: each is logged exactly once, in some order. -/
theorem logs_hurried :
    (log (.messages "5000") (messaging.exec bothReady hurried).world).Perm
      [posted "alice" "hello" .text, posted "alice" "are you there" .text,
        posted "alice" "You block this contact" .messageType] := by
  have hallowed : messaging.Allowed (fun c e => messaging.admits c e ∧ isTalk e = true)
      bothReady hurried := by decide +kernel
  have hrun : messaging.Run (fun c e => messaging.admits c e ∧ isTalk e = true ∧ e.Succeeds)
      bothReady hurried (messaging.exec bothReady hurried) := by
    refine System.run_exec (hallowed.imp (q := Event.Succeeds) (fun c e he hsucc => ?_) ?_)
    · exact ⟨he.1, he.2, hsucc⟩
    · simp only [hurried, List.forall_mem_cons]
      exact ⟨fun _ => rfl, fun _ => rfl, fun _ => rfl, Event.succeeds_replicate fun _ => rfl⟩
  have hopen : messaging.Run messaging.admits (Clients.initial aliceAndBob) bothOpen bothReady :=
    System.run_exec (by decide +kernel)
  have hperm := logs_complete (p := .messages "5000") rfl hopen (by decide +kernel) hrun
    (by decide +kernel)
  have hposted : log (.messages "5000") bothReady.world ++
      postedIn (.messages "5000") bothReady hurried =
        [posted "alice" "hello" .text, posted "alice" "are you there" .text,
          posted "alice" "You block this contact" .messageType] := by decide +kernel
  rwa [hposted] at hperm

end FlutterTheme.Logs
