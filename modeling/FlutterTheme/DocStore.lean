import Mathlib.Data.List.Nodup
import Mathlib.Data.List.Sort
import Mathlib.Data.List.InsertIdx

/-!
# A store of schemaless documents

Documents are partial maps from keys to values, kept in collections that are
addressed by paths. The store knows nothing of what the keys mean. A collection
lists its documents in the order of their identifiers, which is the order a query
without `orderBy` returns them in; the identifiers of added documents are random,
so an added document may sort anywhere (the argument `pos`).

That identifiers are unique in a collection, and that no generated identifier has
been handed out before, are fields of `Store`: every store is well formed.

The rest of the file is what proofs about a store use: what each operation does to
the members of each collection, `Store.Puts` and `Store.Takes` (what a write puts
in and takes out), `Store.Frame` (only the documents picked out by a predicate
have changed) and `Store.Keeps` (documents persist with the same value of a
projection).
-/

namespace DocStore

variable {π κ ν β : Type}

/-! ## Documents -/

/-- The fields of a document; a key without a value is absent. -/
def Fields (κ ν : Type) : Type := κ → Option ν

namespace Fields

/-- The fields of a map literal. -/
def ofList [DecidableEq κ] : List (κ × ν) → Fields κ ν
  | [] => fun _ => none
  | (k, v) :: l => fun j => if j = k then some v else ofList l j

/-- No field at all. -/
def empty : Fields κ ν := fun _ => none

/-- Overwrite the fields that `u` has. -/
def merge (d u : Fields κ ν) : Fields κ ν := fun k => (u k).or (d k)

@[simp] theorem empty_apply (k : κ) : (empty : Fields κ ν) k = none := rfl

@[simp] theorem empty_merge (u : Fields κ ν) : empty.merge u = u := by
  funext k
  simp [merge]

theorem merge_of_some {d u : Fields κ ν} {k : κ} {v : ν} (h : u k = some v) :
    d.merge u k = some v := by
  simp [merge, h]

theorem merge_of_none {d u : Fields κ ν} {k : κ} (h : u k = none) : d.merge u k = d k := by
  simp [merge, h]

/-- Fields are overwritten with what they are. -/
theorem merge_eq_self {d u : Fields κ ν} (h : ∀ k v, u k = some v → d k = some v) :
    d.merge u = d := by
  funext k
  cases hk : u k with
  | none => exact merge_of_none hk
  | some v => rw [merge_of_some hk, h k v hk]

/-- The fields are overwritten a second time. -/
theorem merge_merge {d u u' : Fields κ ν} (h : ∀ k, u' k = none → u k = none) :
    (d.merge u).merge u' = d.merge u' := by
  funext k
  cases hk : u' k with
  | none => rw [merge_of_none hk, merge_of_none hk, merge_of_none (h k hk)]
  | some v => rw [merge_of_some hk, merge_of_some hk]

/-- The condition of a query `where(k, isEqualTo: v)`. -/
def isEqualTo [DecidableEq ν] (k : κ) (v : ν) (d : Fields κ ν) : Bool := d k = some v

theorem isEqualTo_iff [DecidableEq ν] {k : κ} {v : ν} {d : Fields κ ν} :
    d.isEqualTo k v = true ↔ d k = some v := by
  simp [isEqualTo]

end Fields

/-- The identifier of a document: given by the program or generated. -/
inductive DocId : Type where
  /-- a generated identifier -/
  | auto : ℕ → DocId
  /-- an identifier the program chose -/
  | named : String → DocId
  deriving DecidableEq, Repr

/-- A document. -/
structure Doc (κ ν : Type) where
  /-- its identifier in its collection -/
  id : DocId
  /-- its fields -/
  data : Fields κ ν

/-- One write to a store, as data. -/
inductive Write (π κ ν : Type) : Type where
  /-- `collection(p).add(d)` -/
  | add : π → ℕ → Fields κ ν → Write π κ ν
  /-- `collection(p).doc(id).update(u)` -/
  | update : π → DocId → Fields κ ν → Write π κ ν
  /-- `collection(p).doc(name).set(d)` -/
  | set : π → String → ℕ → Fields κ ν → Write π κ ν
  /-- `collection(p).doc(id).delete()` -/
  | delete : π → DocId → Write π κ ν

/-- The collection that is written. -/
def Write.path : Write π κ ν → π
  | .add p _ _ | .update p _ _ | .set p _ _ _ | .delete p _ => p

/-! ## The store -/

/-- The collections, one for each path. -/
structure Store (π κ ν : Type) where
  /-- the documents of a collection, in the order of their identifiers -/
  docs : π → List (Doc κ ν)
  /-- how many identifiers have been generated -/
  next : ℕ
  /-- identifiers are unique in a collection -/
  nodup : ∀ p, ((docs p).map Doc.id).Nodup
  /-- the next generated identifier has not been handed out -/
  fresh : ∀ p, ∀ d ∈ docs p, ∀ n, d.id = .auto n → n < next

namespace Store

variable (s : Store π κ ν)

/-- The store without any document. -/
def empty : Store π κ ν where
  docs _ := []
  next := 0
  nodup _ := List.nodup_nil
  fresh _ _ hd := absurd hd (List.not_mem_nil)

/-- The documents of a collection that satisfy a condition. -/
def query (p : π) (q : Fields κ ν → Bool) : List (Doc κ ν) := (s.docs p).filter (q ·.data)

/-- The document of a collection with a given identifier. -/
def doc? (p : π) (id : DocId) : Option (Doc κ ν) := (s.docs p).find? (·.id = id)

theorem mem_query {p : π} {q : Fields κ ν → Bool} {d : Doc κ ν} :
    d ∈ s.query p q ↔ d ∈ s.docs p ∧ q d.data = true := List.mem_filter

theorem mem_of_doc? {p : π} {id : DocId} {d : Doc κ ν} (h : s.doc? p id = some d) :
    d ∈ s.docs p ∧ d.id = id :=
  ⟨List.mem_of_find?_eq_some h, by simpa using List.find?_some h⟩

/-- Documents of a collection with the same identifier are the same. -/
theorem eq_of_id {p : π} {d d' : Doc κ ν} (hd : d ∈ s.docs p) (hd' : d' ∈ s.docs p)
    (h : d.id = d'.id) : d = d' :=
  List.inj_on_of_nodup_map (s.nodup p) hd hd' h

/-! ### The fields under an identifier -/

/-- The fields of the document with a given identifier, none if there is no document. -/
def fieldsAt (p : π) (id : DocId) : Fields κ ν := ((s.doc? p id).map Doc.data).getD .empty

theorem doc?_eq_some {q : π} {id : DocId} {d : Doc κ ν} :
    s.doc? q id = some d ↔ d ∈ s.docs q ∧ d.id = id := by
  refine ⟨s.mem_of_doc?, ?_⟩
  rintro ⟨hd, rfl⟩
  obtain ⟨x, hx⟩ : ∃ x, s.doc? q d.id = some x := by
    rw [← Option.isSome_iff_exists, doc?, List.find?_isSome]
    exact ⟨d, hd, by simp⟩
  obtain ⟨hmem, hid⟩ := s.mem_of_doc? hx
  rw [hx, s.eq_of_id hmem hd hid]

theorem doc?_eq_none {q : π} {id : DocId} : s.doc? q id = none ↔ ∀ d ∈ s.docs q, d.id ≠ id := by
  simp [doc?]

@[simp] theorem fieldsAt_of_mem {q : π} {d : Doc κ ν} (hd : d ∈ s.docs q) :
    s.fieldsAt q d.id = d.data := by
  simp [fieldsAt, s.doc?_eq_some.mpr ⟨hd, rfl⟩]

theorem fieldsAt_of_not_mem {q : π} {id : DocId} (h : ∀ d ∈ s.docs q, d.id ≠ id) :
    s.fieldsAt q id = .empty := by
  simp [fieldsAt, s.doc?_eq_none.mpr h]

/-- The fields under an identifier are those of a document there, or none. -/
theorem fieldsAt_cases (q : π) (id : DocId) :
    (∃ d ∈ s.docs q, d.id = id ∧ s.fieldsAt q id = d.data) ∨
      (∀ d ∈ s.docs q, d.id ≠ id) ∧ s.fieldsAt q id = .empty := by
  by_cases h : ∃ d ∈ s.docs q, d.id = id
  · obtain ⟨d, hd, rfl⟩ := h
    exact Or.inl ⟨d, hd, rfl, s.fieldsAt_of_mem hd⟩
  · have hnone : ∀ d ∈ s.docs q, d.id ≠ id := fun d hd hid => h ⟨d, hd, hid⟩
    exact Or.inr ⟨hnone, s.fieldsAt_of_not_mem hnone⟩

/-- Collections with the same documents have the same fields. -/
theorem fieldsAt_congr {s' : Store π κ ν} {q : π} (h : s'.docs q = s.docs q) (id : DocId) :
    s'.fieldsAt q id = s.fieldsAt q id := by
  rw [fieldsAt, fieldsAt, doc?, doc?, h]

/-! ### Frames and persistence -/

section Compare

variable {s}

/-- `s'` differs from `s` at most in documents that `F` picks out. -/
def Frame (F : π → Doc κ ν → Prop) (s s' : Store π κ ν) : Prop :=
  ∀ p d, ¬ F p d → (d ∈ s.docs p ↔ d ∈ s'.docs p)

variable {F F' : π → Doc κ ν → Prop} {s' s'' : Store π κ ν}

theorem Frame.refl (F : π → Doc κ ν → Prop) (s : Store π κ ν) : Frame F s s :=
  fun _ _ _ => Iff.rfl

theorem Frame.trans (h : Frame F s s') (h' : Frame F s' s'') : Frame F s s'' :=
  fun p d hd => (h p d hd).trans (h' p d hd)

/-- Every document of the collection is still there, with the same value of `f`. -/
def Keeps (f : Fields κ ν → β) (p : π) (s s' : Store π κ ν) : Prop :=
  ∀ d ∈ s.docs p, ∃ d' ∈ s'.docs p, d'.id = d.id ∧ f d'.data = f d.data

variable {f : Fields κ ν → β} {p : π}

theorem Keeps.refl (f : Fields κ ν → β) (p : π) (s : Store π κ ν) : Keeps f p s s :=
  fun d hd => ⟨d, hd, rfl, rfl⟩

theorem Keeps.trans (h : Keeps f p s s') (h' : Keeps f p s' s'') : Keeps f p s s'' := by
  intro d hd
  obtain ⟨d', hd', hid, hf⟩ := h d hd
  obtain ⟨d'', hd'', hid', hf'⟩ := h' d' hd'
  exact ⟨d'', hd'', hid'.trans hid, hf'.trans hf⟩

/-- What a document that has been seen looks like later. -/
theorem Keeps.of_id (h : Keeps f p s s') {d d' : Doc κ ν} (hd : d ∈ s.docs p)
    (hd' : d' ∈ s'.docs p) (hid : d'.id = d.id) : f d'.data = f d.data := by
  obtain ⟨x, hx, hxid, hf⟩ := h d hd
  obtain rfl := s'.eq_of_id hx hd' (hxid.trans hid.symm)
  exact hf

/-- Every document of the collection was there before, with the same value of `f`, or has a
new identifier. -/
def Stems (f : Fields κ ν → β) (p : π) (s s' : Store π κ ν) : Prop :=
  s.next ≤ s'.next ∧ ∀ d' ∈ s'.docs p, (∃ d ∈ s.docs p, d.id = d'.id ∧ f d'.data = f d.data) ∨
    ∃ n, d'.id = .auto n ∧ s.next ≤ n

theorem Stems.refl (f : Fields κ ν → β) (p : π) (s : Store π κ ν) : Stems f p s s :=
  ⟨Nat.le_refl _, fun d hd => Or.inl ⟨d, hd, rfl, rfl⟩⟩

theorem Stems.trans (h : Stems f p s s') (h' : Stems f p s' s'') : Stems f p s s'' := by
  refine ⟨Nat.le_trans h.1 h'.1, fun d'' hd'' => ?_⟩
  rcases h'.2 d'' hd'' with ⟨d', hd', hid, hf⟩ | ⟨n, hn, hle⟩
  · rcases h.2 d' hd' with ⟨d, hd, hid', hf'⟩ | ⟨n, hn, hle⟩
    · exact Or.inl ⟨d, hd, hid'.trans hid, hf.trans hf'⟩
    · exact Or.inr ⟨n, hid ▸ hn, hle⟩
  · exact Or.inr ⟨n, hn, Nat.le_trans h.1 hle⟩

/-- What a document that has been seen looks like later, if it is still there. -/
theorem Stems.of_id (h : Stems f p s s') {d d' : Doc κ ν} (hd : d ∈ s.docs p)
    (hd' : d' ∈ s'.docs p) (hid : d'.id = d.id) : f d'.data = f d.data := by
  rcases h.2 d' hd' with ⟨x, hx, hxid, hf⟩ | ⟨n, hn, hle⟩
  · rwa [← s.eq_of_id hx hd (hxid.trans hid)]
  · exact absurd (s.fresh p d hd n (hid ▸ hn)) (Nat.not_lt.mpr hle)

end Compare

/-! ### Operations -/

variable [DecidableEq π]

private theorem nodup_map_insertIdx {l : List (Doc κ ν)} {i : ℕ} {d : Doc κ ν}
    (hi : i ≤ l.length) (hl : (l.map Doc.id).Nodup) (hd : ∀ x ∈ l, x.id ≠ d.id) :
    ((l.insertIdx i d).map Doc.id).Nodup := by
  refine (List.Perm.nodup_iff ((List.perm_insertIdx d l hi).map Doc.id)).mpr ?_
  refine List.nodup_cons.mpr ⟨?_, hl⟩
  intro hmem
  obtain ⟨x, hx, he⟩ := List.mem_map.mp hmem
  exact hd x hx he

/-- Add a document under a generated identifier that sorts at `pos`. -/
def add (p : π) (pos : ℕ) (d : Fields κ ν) : Store π κ ν where
  docs q := if q = p then (s.docs p).insertIdx (min pos (s.docs p).length) ⟨.auto s.next, d⟩
    else s.docs q
  next := s.next + 1
  nodup q := by
    split
    · refine nodup_map_insertIdx (Nat.min_le_right ..) (s.nodup p) ?_
      intro x hx he
      exact absurd (s.fresh p x hx s.next he) (lt_irrefl _)
    · exact s.nodup q
  fresh q x hx n hn := by
    split at hx
    · rcases (List.mem_insertIdx (Nat.min_le_right ..)).mp hx with rfl | hx
      · cases hn; exact Nat.lt_succ_self _
      · exact Nat.lt_succ_of_lt (s.fresh p x hx n hn)
    · exact Nat.lt_succ_of_lt (s.fresh q x hx n hn)

/-- Overwrite fields of a document; nothing happens if it does not exist. -/
def update (p : π) (id : DocId) (u : Fields κ ν) : Store π κ ν where
  docs q := if q = p then (s.docs p).map fun x => if x.id = id then ⟨x.id, x.data.merge u⟩ else x
    else s.docs q
  next := s.next
  nodup q := by
    split
    · have hid : (Doc.id ∘ fun x : Doc κ ν => if x.id = id then ⟨x.id, x.data.merge u⟩ else x) =
          Doc.id := by
        funext x
        simp only [Function.comp_apply]
        split <;> rfl
      rw [List.map_map, hid]
      exact s.nodup p
    · exact s.nodup q
  fresh q x hx n hn := by
    split at hx
    · obtain ⟨y, hy, rfl⟩ := List.mem_map.mp hx
      refine s.fresh p y hy n ?_
      split at hn <;> exact hn
    · exact s.fresh q x hx n hn

/-- Write a document under a chosen identifier, replacing the one there. -/
def set (p : π) (name : String) (pos : ℕ) (d : Fields κ ν) : Store π κ ν where
  docs q := if q = p then
      let rest := (s.docs p).filter (·.id ≠ .named name)
      rest.insertIdx (min pos rest.length) ⟨.named name, d⟩
    else s.docs q
  next := s.next
  nodup q := by
    split
    · refine nodup_map_insertIdx (Nat.min_le_right ..) ?_ ?_
      · exact (s.nodup p).sublist (List.filter_sublist.map Doc.id)
      · intro x hx
        simpa using (List.mem_filter.mp hx).2
    · exact s.nodup q
  fresh q x hx n hn := by
    split at hx
    · rcases (List.mem_insertIdx (Nat.min_le_right ..)).mp hx with rfl | hx
      · cases hn
      · exact s.fresh p x (List.mem_of_mem_filter hx) n hn
    · exact s.fresh q x hx n hn

/-- Remove a document. -/
def delete (p : π) (id : DocId) : Store π κ ν where
  docs q := if q = p then (s.docs p).filter (·.id ≠ id) else s.docs q
  next := s.next
  nodup q := by
    split
    · exact (s.nodup p).sublist (List.filter_sublist.map Doc.id)
    · exact s.nodup q
  fresh q x hx n hn := by
    split at hx
    · exact s.fresh p x (List.mem_of_mem_filter hx) n hn
    · exact s.fresh q x hx n hn

/-- `doc(name).set(u, SetOptions(merge: true))`: overwrite fields, of a new document
where there is none. -/
def setMerge (p : π) (name : String) (pos : ℕ) (u : Fields κ ν) : Store π κ ν :=
  if (s.doc? p (.named name)).isSome then s.update p (.named name) u else s.set p name pos u

/-- The store after a write. -/
def write : Write π κ ν → Store π κ ν
  | .add p pos d => s.add p pos d
  | .update p id u => s.update p id u
  | .set p name pos d => s.set p name pos d
  | .delete p id => s.delete p id

/-! ### Members after an operation -/

variable {s}

theorem mem_add {p q : π} {pos : ℕ} {d : Fields κ ν} {x : Doc κ ν} :
    x ∈ (s.add p pos d).docs q ↔ (q = p ∧ x = ⟨.auto s.next, d⟩) ∨ x ∈ s.docs q := by
  by_cases h : q = p
  · subst h
    simp [add, List.mem_insertIdx]
  · simp [add, h]

theorem mem_update {p q : π} {id : DocId} {u : Fields κ ν} {x : Doc κ ν} :
    x ∈ (s.update p id u).docs q ↔ ∃ y ∈ s.docs q,
      x = if q = p ∧ y.id = id then ⟨y.id, y.data.merge u⟩ else y := by
  by_cases h : q = p
  · subst h
    simp [update, eq_comm]
  · simp [update, h]

theorem mem_set {p q : π} {name : String} {pos : ℕ} {d : Fields κ ν} {x : Doc κ ν} :
    x ∈ (s.set p name pos d).docs q ↔
      (q = p ∧ x = ⟨.named name, d⟩) ∨ (x ∈ s.docs q ∧ ¬ (q = p ∧ x.id = .named name)) := by
  by_cases h : q = p
  · subst h
    simp [set, List.mem_insertIdx]
  · simp [set, h]

theorem mem_delete {p q : π} {id : DocId} {x : Doc κ ν} :
    x ∈ (s.delete p id).docs q ↔ x ∈ s.docs q ∧ ¬ (q = p ∧ x.id = id) := by
  by_cases h : q = p
  · subst h
    simp [delete]
  · simp [delete, h]

/-- A write leaves the other collections alone. -/
theorem docs_write_of_ne {op : Write π κ ν} {q : π} (h : q ≠ op.path) :
    (s.write op).docs q = s.docs q := by
  cases op <;> exact if_neg h

/-- The document that is updated. -/
theorem doc?_update {p : π} {id : DocId} {u : Fields κ ν} {d : Doc κ ν} (h : s.doc? p id = some d) :
    (s.update p id u).doc? p id = some ⟨id, d.data.merge u⟩ := by
  obtain ⟨hd, rfl⟩ := s.doc?_eq_some.mp h
  exact (doc?_eq_some _).mpr ⟨mem_update.mpr ⟨d, hd, (if_pos ⟨rfl, rfl⟩).symm⟩, rfl⟩

/-- The documents that are not updated. -/
theorem doc?_update_of_ne {p : π} {id id' : DocId} {u : Fields κ ν} (h : id' ≠ id) :
    (s.update p id u).doc? p id' = s.doc? p id' := by
  refine Option.ext fun d => ?_
  rw [doc?_eq_some, doc?_eq_some, mem_update]
  constructor
  · rintro ⟨⟨x, hx, rfl⟩, hid⟩
    have hne : ¬ (p = p ∧ x.id = id) := fun hor => by
      rw [if_pos hor] at hid
      exact h (hid.symm.trans hor.2)
    rw [if_neg hne] at hid ⊢
    exact ⟨hx, hid⟩
  · rintro ⟨hd, rfl⟩
    exact ⟨⟨d, hd, (if_neg fun hor => h hor.2).symm⟩, rfl⟩

/-- The document that is set. -/
theorem doc?_set {p : π} {name : String} {pos : ℕ} {d : Fields κ ν} :
    (s.set p name pos d).doc? p (.named name) = some ⟨.named name, d⟩ :=
  (doc?_eq_some _).mpr ⟨mem_set.mpr (Or.inl ⟨rfl, rfl⟩), rfl⟩

/-- A document is added to those there. -/
theorem perm_docs_add (p : π) (pos : ℕ) (d : Fields κ ν) :
    ((s.add p pos d).docs p).Perm (⟨.auto s.next, d⟩ :: s.docs p) := by
  simp only [add, if_true]
  exact List.perm_insertIdx _ _ (Nat.min_le_right pos _)

/-- A document under a name that is not taken is added to those there. -/
theorem perm_docs_set {p : π} {name : String} (h : s.doc? p (.named name) = none) (pos : ℕ)
    (d : Fields κ ν) :
    ((s.set p name pos d).docs p).Perm (⟨.named name, d⟩ :: s.docs p) := by
  have hrest : (s.docs p).filter (·.id ≠ .named name) = s.docs p :=
    List.filter_eq_self.mpr fun x hx => by
      simpa using List.find?_eq_none.mp h x hx
  simp only [set, if_true, hrest]
  exact List.perm_insertIdx _ _ (Nat.min_le_right pos _)

/-- An update of one of the documents. -/
theorem docs_update_middle {p : π} {x : Doc κ ν} {before after : List (Doc κ ν)}
    (h : s.docs p = before ++ x :: after) (u : Fields κ ν) :
    (s.update p x.id u).docs p = before ++ ⟨x.id, x.data.merge u⟩ :: after := by
  have hids := s.nodup p
  rw [h, List.map_append, List.map_cons, List.nodup_middle, ← List.map_append] at hids
  have hother : ∀ y ∈ before ++ after, (if y.id = x.id then ⟨y.id, y.data.merge u⟩ else y) = y := by
    refine fun y hy => if_neg fun he => (List.nodup_cons.mp hids).1 ?_
    exact he ▸ List.mem_map_of_mem hy
  simp only [update, if_true, h, List.map_append, List.map_cons]
  rw [List.map_congr_left fun y hy => hother y (List.mem_append_left _ hy),
    List.map_congr_left fun y hy => hother y (List.mem_append_right _ hy), List.map_id',
    List.map_id']

/-- An update of the first document. -/
theorem docs_update_head {p : π} {x : Doc κ ν} {rest : List (Doc κ ν)} (h : s.docs p = x :: rest)
    (u : Fields κ ν) : (s.update p x.id u).docs p = ⟨x.id, x.data.merge u⟩ :: rest := by
  have hnodup := s.nodup p
  rw [h, List.map_cons, List.nodup_cons] at hnodup
  simp only [update, if_true, h, List.map_cons]
  refine congrArg _ ((List.map_congr_left fun y hy => if_neg fun hid => ?_).trans (List.map_id _))
  exact hnodup.1 (hid ▸ List.mem_map_of_mem hy)

/-! ### How many documents a query finds -/

/-- A document that is added makes a query one longer if it is in its collection and the query holds
of it, wherever it is put. -/
theorem length_query_add (p q : π) (pos : ℕ) (d : Fields κ ν) (f : Fields κ ν → Bool) :
    ((s.add p pos d).query q f).length =
      (s.query q f).length + if q = p ∧ f d = true then 1 else 0 := by
  by_cases h : q = p
  · subst h
    have hperm := (List.perm_insertIdx ⟨.auto s.next, d⟩ (s.docs q)
      (Nat.min_le_right pos _)).filter (f ·.data)
    simp only [query, add, if_true, hperm.length_eq, true_and, List.filter_cons]
    split
    · rw [List.length_cons]
    · rw [Nat.add_zero]
  · simp only [query, add, h, false_and, if_false, Nat.add_zero]

/-- An update that does not change whether the document is found. -/
theorem length_query_update {p q : π} {id : DocId} {u : Fields κ ν} {f : Fields κ ν → Bool}
    (h : q = p → ∀ x ∈ s.docs p, x.id = id → f (x.data.merge u) = f x.data) :
    ((s.update p id u).query q f).length = (s.query q f).length := by
  by_cases hq : q = p
  · subst hq
    simp only [query, update, if_true, ← List.countP_eq_length_filter, List.countP_map]
    refine List.countP_congr fun x hx => ?_
    simp only [Function.comp_apply]
    split
    · next hid => rw [h rfl x hx hid]
    · rfl
  · simp only [query, update, if_neg hq]

/-! ### What a query finds after an operation -/

private theorem filter_insertIdx {f : Doc κ ν → Bool} {d : Doc κ ν} (hd : f d = false) :
    ∀ {i : ℕ} {l : List (Doc κ ν)}, (l.insertIdx i d).filter f = l.filter f
  | 0, l => by simp [hd]
  | i + 1, [] => by simp
  | i + 1, x :: l => by
    rw [List.insertIdx_succ_cons, List.filter_cons, List.filter_cons, filter_insertIdx hd]

/-- A document is added that is not found. -/
theorem query_add_of_not {p : π} {pos : ℕ} {d : Fields κ ν} {f : Fields κ ν → Bool}
    (h : f d = false) : (s.add p pos d).query p f = s.query p f := by
  simp only [query, add, if_true]
  exact filter_insertIdx h

/-- A document is added that is found. -/
theorem perm_query_add {p : π} (pos : ℕ) {d : Fields κ ν} {f : Fields κ ν → Bool}
    (h : f d = true) :
    ((s.add p pos d).query p f).Perm (⟨.auto s.next, d⟩ :: s.query p f) := by
  have hperm := (List.perm_insertIdx ⟨.auto s.next, d⟩ (s.docs p)
    (Nat.min_le_right pos _)).filter (f ·.data)
  rw [List.filter_cons, if_pos h] at hperm
  simpa only [query, add, if_true] using hperm

/-- An update that changes no field. -/
theorem docs_update_of_merge_eq {p q : π} {id : DocId} {u : Fields κ ν}
    (h : ∀ x ∈ s.docs p, x.id = id → x.data.merge u = x.data) :
    (s.update p id u).docs q = s.docs q := by
  by_cases hq : q = p
  · subst hq
    simp only [update, if_true]
    refine (List.map_congr_left fun x hx => ?_).trans (List.map_id' _)
    split
    · next hid => rw [h x hx hid]
    · rfl
  · simp only [update, if_neg hq]

/-- An update that does not change whether the document is found. -/
theorem query_update {p : π} {id : DocId} {u : Fields κ ν} {f : Fields κ ν → Bool}
    (h : ∀ x ∈ s.docs p, x.id = id → f (x.data.merge u) = f x.data) :
    (s.update p id u).query p f =
      (s.query p f).map fun x => if x.id = id then ⟨x.id, x.data.merge u⟩ else x := by
  simp only [query, update, if_true, List.filter_map]
  refine congrArg _ (List.filter_congr fun x hx => ?_)
  simp only [Function.comp_apply]
  split
  · next hid => exact h x hx hid
  · rfl

/-- An update of a document that is not found. -/
theorem query_update_of_not {p : π} {id : DocId} {u : Fields κ ν} {f : Fields κ ν → Bool}
    (h : ∀ x ∈ s.docs p, x.id = id → f (x.data.merge u) = f x.data)
    (hnot : ∀ x ∈ s.query p f, x.id ≠ id) : (s.update p id u).query p f = s.query p f := by
  rw [query_update h]
  refine (List.map_congr_left fun x hx => if_neg (hnot x hx)).trans (List.map_id' _)

/-- What is found is what was found, less the document that is removed. -/
theorem query_delete {p : π} {id : DocId} {f : Fields κ ν → Bool} :
    (s.delete p id).query p f = (s.query p f).filter (·.id ≠ id) := by
  simp only [query, delete, if_true, List.filter_filter, Bool.and_comm]

/-- A document is removed that is not found. -/
theorem query_delete_of_not {p : π} {id : DocId} {f : Fields κ ν → Bool}
    (hnot : ∀ x ∈ s.query p f, x.id ≠ id) : (s.delete p id).query p f = s.query p f := by
  rw [query_delete, List.filter_eq_self]
  simpa using hnot

/-! ### What a write puts in and takes out -/

variable (s) in
/-- A document that a write puts into a collection. -/
def Puts : Write π κ ν → π → Doc κ ν → Prop
  | .add p _ d, q, x => q = p ∧ x = ⟨.auto s.next, d⟩
  | .update p id u, q, x => q = p ∧ ∃ y ∈ s.docs p, y.id = id ∧ x = ⟨y.id, y.data.merge u⟩
  | .set p name _ d, q, x => q = p ∧ x = ⟨.named name, d⟩
  | .delete _ _, _, _ => False

/-- A document that a write replaces or removes. -/
def Takes : Write π κ ν → π → Doc κ ν → Prop
  | .add _ _ _, _, _ => False
  | .update p id _, q, x => q = p ∧ x.id = id
  | .set p name _ _, q, x => q = p ∧ x.id = .named name
  | .delete p id, q, x => q = p ∧ x.id = id

/-- After a write a collection has the documents it had and those put in. -/
theorem of_mem_write {op : Write π κ ν} {q : π} {x : Doc κ ν} (h : x ∈ (s.write op).docs q) :
    x ∈ s.docs q ∨ s.Puts op q x := by
  cases op with
  | add p pos d =>
    rcases mem_add.mp h with hx | hx
    · exact Or.inr hx
    · exact Or.inl hx
  | update p id u =>
    obtain ⟨y, hy, rfl⟩ := mem_update.mp h
    split
    · next hc => obtain ⟨rfl, hid⟩ := hc; exact Or.inr ⟨rfl, y, hy, hid, rfl⟩
    · exact Or.inl hy
  | set p name pos d =>
    rcases mem_set.mp h with hx | hx
    · exact Or.inr hx
    · exact Or.inl hx.1
  | delete p id => exact Or.inl (mem_delete.mp h).1

/-- A document that a write does not take out is still there. -/
theorem mem_write_of_mem {op : Write π κ ν} {q : π} {x : Doc κ ν} (h : x ∈ s.docs q)
    (hx : ¬ Takes op q x) : x ∈ (s.write op).docs q := by
  cases op with
  | add p pos d => exact mem_add.mpr (Or.inr h)
  | update p id u => exact mem_update.mpr ⟨x, h, (if_neg hx).symm⟩
  | set p name pos d => exact mem_set.mpr (Or.inr ⟨h, hx⟩)
  | delete p id => exact mem_delete.mpr ⟨h, hx⟩

/-- A property of all documents survives a write that puts in only documents
that have it. -/
theorem forall_write {P : π → Doc κ ν → Prop} {op : Write π κ ν} (h : ∀ q, ∀ x ∈ s.docs q, P q x)
    (hop : ∀ q x, s.Puts op q x → P q x) : ∀ q, ∀ x ∈ (s.write op).docs q, P q x := by
  intro q x hx
  rcases of_mem_write hx with hx | hx
  · exact h q x hx
  · exact hop q x hx

/-- A write stays in a frame that covers what it puts in and takes out. -/
theorem frame_write {F : π → Doc κ ν → Prop} {op : Write π κ ν}
    (hput : ∀ q x, s.Puts op q x → F q x) (htake : ∀ q, ∀ x ∈ s.docs q, Takes op q x → F q x) :
    Frame F s (s.write op) := by
  intro q x hx
  constructor
  · exact fun hmem => mem_write_of_mem hmem fun ht => hx (htake q x hmem ht)
  · intro hmem
    rcases of_mem_write hmem with hmem | hmem
    · exact hmem
    · exact absurd (hput q x hmem) hx

/-! ### Operations and what documents stem from -/

section Stems

variable {f : Fields κ ν → β} {p : π}

theorem stems_add {pos : ℕ} {d : Fields κ ν} : Stems f p s (s.add p pos d) := by
  refine ⟨Nat.le_succ _, fun x hx => ?_⟩
  rcases mem_add.mp hx with ⟨-, rfl⟩ | hx
  · exact Or.inr ⟨s.next, rfl, Nat.le_refl _⟩
  · exact Or.inl ⟨x, hx, rfl, rfl⟩

theorem stems_update {id : DocId} {u : Fields κ ν}
    (h : ∀ d ∈ s.docs p, d.id = id → f (d.data.merge u) = f d.data) :
    Stems f p s (s.update p id u) := by
  refine ⟨Nat.le_refl _, fun x hx => ?_⟩
  obtain ⟨y, hy, rfl⟩ := mem_update.mp hx
  split
  · next hc => exact Or.inl ⟨y, hy, rfl, h y hy hc.2⟩
  · exact Or.inl ⟨y, hy, rfl, rfl⟩

theorem stems_delete {id : DocId} : Stems f p s (s.delete p id) :=
  ⟨Nat.le_refl _, fun x hx => Or.inl ⟨x, (mem_delete.mp hx).1, rfl, rfl⟩⟩

end Stems

/-! ### Operations and persistence -/

variable {f : Fields κ ν → β} {p : π}

theorem keeps_add {q : π} {pos : ℕ} {d : Fields κ ν} : Keeps f p s (s.add q pos d) :=
  fun x hx => ⟨x, mem_add.mpr (Or.inr hx), rfl, rfl⟩

theorem keeps_update {q : π} {id : DocId} {u : Fields κ ν}
    (h : q = p → ∀ d ∈ s.docs p, d.id = id → f (d.data.merge u) = f d.data) :
    Keeps f p s (s.update q id u) := by
  intro x hx
  refine ⟨_, mem_update.mpr ⟨x, hx, rfl⟩, ?_, ?_⟩
  · split <;> rfl
  · split
    · next hc => exact h hc.1.symm x hx hc.2
    · rfl

theorem keeps_set {q : π} {name : String} {pos : ℕ} {d : Fields κ ν} (h : p ≠ q) :
    Keeps f p s (s.set q name pos d) :=
  fun x hx => ⟨x, mem_set.mpr (Or.inr ⟨hx, fun hc => h hc.1⟩), rfl, rfl⟩

theorem keeps_delete {q : π} {id : DocId} (h : p ≠ q) : Keeps f p s (s.delete q id) :=
  fun x hx => ⟨x, mem_delete.mpr ⟨hx, fun hc => h hc.1⟩, rfl, rfl⟩

/-! ### The fields under an identifier after an operation -/

/-- What `set` with `merge` leaves in every document: the one written has its fields merged, or is
new with these fields alone, and all others are as before. -/
theorem fieldsAt_setMerge (q : π) (name : String) (pos : ℕ) (u : Fields κ ν) (q' : π)
    (id : DocId) :
    (s.setMerge q name pos u).fieldsAt q' id =
      if q' = q ∧ id = .named name then (s.fieldsAt q id).merge u else s.fieldsAt q' id := by
  have hother : ∀ s' : Store π κ ν, (∀ x, x.id = id → (x ∈ s'.docs q' ↔ x ∈ s.docs q')) →
      s'.fieldsAt q' id = s.fieldsAt q' id := by
    intro s' hs'
    rcases s.fieldsAt_cases q' id with ⟨x, hx, hid, -⟩ | ⟨hnone, hempty⟩
    · subst hid
      rw [s.fieldsAt_of_mem hx, fieldsAt_of_mem _ ((hs' x rfl).mpr hx)]
    · rw [hempty]
      exact fieldsAt_of_not_mem _ fun x hx hid => hnone x ((hs' x hid).mp hx) hid
  by_cases hc : q' = q ∧ id = .named name
  · obtain ⟨rfl, rfl⟩ := hc
    rw [if_pos ⟨rfl, rfl⟩]
    rcases s.fieldsAt_cases q' (.named name) with ⟨⟨_, xd⟩, hx, rfl, hf⟩ | ⟨hnone, hempty⟩
    · -- there is a document: its fields are overwritten
      have hsome : (s.doc? q' (.named name)).isSome := by
        rw [(s.doc?_eq_some).mpr ⟨hx, rfl⟩]
        rfl
      have hmem : (⟨.named name, xd.merge u⟩ : Doc κ ν) ∈ (s.update q' (.named name) u).docs q' :=
        mem_update.mpr ⟨_, hx, (if_pos ⟨rfl, rfl⟩).symm⟩
      rw [setMerge, if_pos hsome, hf]
      exact fieldsAt_of_mem _ hmem
    · have hnot : ¬ (s.doc? q' (.named name)).isSome := by
        simp [s.doc?_eq_none.mpr hnone]
      have hmem : (⟨.named name, u⟩ : Doc κ ν) ∈ (s.set q' name pos u).docs q' :=
        mem_set.mpr (Or.inl ⟨rfl, rfl⟩)
      rw [setMerge, if_neg hnot, hempty, Fields.empty_merge]
      exact fieldsAt_of_mem _ hmem
  · rw [if_neg hc, setMerge]
    refine hother _ fun x hx => ?_
    split
    · rw [mem_update]
      constructor
      · rintro ⟨y, hy, rfl⟩
        by_cases hy' : q' = q ∧ y.id = .named name
        · rw [if_pos hy'] at hx
          exact absurd ⟨hy'.1, hx ▸ hy'.2⟩ hc
        · rwa [if_neg hy']
      · exact fun hmem => ⟨x, hmem, (if_neg fun h => hc ⟨h.1, hx ▸ h.2⟩).symm⟩
    · rw [mem_set]
      constructor
      · rintro (⟨rfl, rfl⟩ | ⟨hmem, -⟩)
        · exact absurd ⟨rfl, hx.symm⟩ hc
        · exact hmem
      · exact fun hmem => Or.inr ⟨hmem, fun h => hc ⟨h.1, hx ▸ h.2⟩⟩

/-- A document that is added has fields of its own. -/
theorem fieldsAt_add (q : π) (pos : ℕ) (d : Fields κ ν) (q' : π) (id : DocId) :
    (s.add q pos d).fieldsAt q' id =
      if q' = q ∧ id = .auto s.next then d else s.fieldsAt q' id := by
  by_cases hc : q' = q ∧ id = .auto s.next
  · obtain ⟨rfl, rfl⟩ := hc
    have hmem : (⟨.auto s.next, d⟩ : Doc κ ν) ∈ (s.add q' pos d).docs q' :=
      mem_add.mpr (Or.inl ⟨rfl, rfl⟩)
    rw [if_pos ⟨rfl, rfl⟩]
    exact fieldsAt_of_mem _ hmem
  · rw [if_neg hc]
    rcases s.fieldsAt_cases q' id with ⟨x, hx, rfl, hf⟩ | ⟨hnone, hempty⟩
    · rw [hf]
      exact fieldsAt_of_mem _ (mem_add.mpr (Or.inr hx))
    · rw [hempty]
      refine fieldsAt_of_not_mem _ fun x hx hid => ?_
      rcases mem_add.mp hx with ⟨rfl, rfl⟩ | hx
      · exact hc ⟨rfl, hid.symm⟩
      · exact hnone x hx hid

theorem docs_add_of_ne {q q' : π} {pos : ℕ} {d : Fields κ ν} (h : q' ≠ q) :
    (s.add q pos d).docs q' = s.docs q' := if_neg h

theorem docs_update_of_ne {q q' : π} {id : DocId} {u : Fields κ ν} (h : q' ≠ q) :
    (s.update q id u).docs q' = s.docs q' := if_neg h

theorem docs_delete_of_ne {q q' : π} {id : DocId} (h : q' ≠ q) :
    (s.delete q id).docs q' = s.docs q' := if_neg h

/-- An update neither adds nor removes a document. -/
theorem length_docs_update {q q' : π} {id : DocId} {u : Fields κ ν} :
    ((s.update q id u).docs q').length = (s.docs q').length := by
  by_cases h : q' = q
  · subst h
    simp only [update, if_true, List.length_map]
  · rw [docs_update_of_ne h]

/-- Nothing has been deleted if as many documents are left. -/
theorem docs_delete_of_length {q q' : π} {id : DocId}
    (h : ((s.delete q id).docs q').length = (s.docs q').length) :
    (s.delete q id).docs q' = s.docs q' := by
  by_cases hq : q' = q
  · subst hq
    simp only [delete, if_true] at h ⊢
    exact List.filter_eq_self.mpr (List.length_filter_eq_length_iff.mp h)
  · exact docs_delete_of_ne hq

/-- A merge under a chosen identifier leaves the other collections alone. -/
theorem docs_setMerge_of_ne {q q' : π} {name : String} {pos : ℕ} {u : Fields κ ν} (h : q' ≠ q) :
    (s.setMerge q name pos u).docs q' = s.docs q' := by
  rw [setMerge]
  split <;> exact if_neg h

/-- After a merge a collection has the documents it had and the one merged into. -/
theorem of_mem_setMerge {q q' : π} {name : String} {pos : ℕ} {u : Fields κ ν} {x : Doc κ ν}
    (h : x ∈ (s.setMerge q name pos u).docs q') :
    x ∈ s.docs q' ∨
      q' = q ∧ x.id = .named name ∧ x.data = (s.fieldsAt q (.named name)).merge u := by
  by_cases hc : q' = q ∧ x.id = .named name
  · obtain ⟨rfl, hid⟩ := hc
    have hf := fieldsAt_setMerge (s := s) q' name pos u q' x.id
    rw [fieldsAt_of_mem _ h, if_pos ⟨rfl, hid⟩, hid] at hf
    exact Or.inr ⟨rfl, hid, hf⟩
  · rw [setMerge] at h
    split at h
    · obtain ⟨y, hy, rfl⟩ := mem_update.mp h
      by_cases hy' : q' = q ∧ y.id = .named name
      · rw [if_pos hy'] at hc
        exact absurd hy' hc
      · rw [if_neg hy']
        exact Or.inl hy
    · rcases mem_set.mp h with ⟨rfl, rfl⟩ | ⟨hmem, -⟩
      · exact absurd ⟨rfl, rfl⟩ hc
      · exact Or.inl hmem

/-- After a merge there is a document under the name. -/
theorem exists_named_setMerge (s : Store π κ ν) (q : π) (name : String) (pos : ℕ)
    (u : Fields κ ν) : ∃ x ∈ (s.setMerge q name pos u).docs q, x.id = .named name := by
  rw [setMerge]
  split
  · next hsome =>
    obtain ⟨x, hfound⟩ := Option.isSome_iff_exists.mp hsome
    obtain ⟨hx, hid⟩ := (s.doc?_eq_some).mp hfound
    refine ⟨_, mem_update.mpr ⟨x, hx, rfl⟩, ?_⟩
    split <;> exact hid
  · exact ⟨_, mem_set.mpr (Or.inl ⟨rfl, rfl⟩), rfl⟩

/-- A merge removes no document, and changes at most the fields that it has. -/
theorem exists_mem_setMerge (q : π) {q' : π} (name : String) (pos : ℕ) (u : Fields κ ν)
    {x : Doc κ ν} (h : x ∈ s.docs q') :
    ∃ y ∈ (s.setMerge q name pos u).docs q', y.id = x.id ∧
      (y.data = x.data ∨ y.data = x.data.merge u) := by
  rw [setMerge]
  split
  · refine ⟨_, mem_update.mpr ⟨x, h, rfl⟩, ?_⟩
    split
    · exact ⟨rfl, Or.inr rfl⟩
    · exact ⟨rfl, Or.inl rfl⟩
  · next hnone =>
    refine ⟨x, mem_set.mpr (Or.inr ⟨h, ?_⟩), rfl, Or.inl rfl⟩
    rintro ⟨rfl, hid⟩
    simp [s.doc?_eq_some.mpr ⟨h, hid⟩] at hnone

end Store

end DocStore
