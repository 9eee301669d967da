import FlutterTheme.Deletion
import FlutterTheme.Greatest
import FlutterTheme.IntParse

/-!
# Documents in the order of time

The times of messages and of inbox entries are stored as texts, and queries order documents by these
texts.

* `orderByLimit` — `orderBy(k, descending: true).limit(n)`, with which messages, inbox entries and,
  for `n = 1`, the newest message that a deletion leaves are found (`newest_eq`).
* `stamps_sort_by_time` — as long as all times have thirteen digits, these are the newest ones.
-/

namespace FlutterTheme.Stamps

open DocStore Greatest

/-! ## The query -/

/-- The text of a field. -/
def fieldText (k : Key) (doc : Document) : String :=
  match doc.data k with
  | some (.str s) => s
  | _ => ""

/-- `orderBy(k, descending: true).limit(n)`: documents without the field are not found, and those
with the same text are ordered by their ids. -/
def orderByLimit (k : Key) (n : ℕ) (docs : List Document) : List Document :=
  (descending (fieldText k) (docs.filter fun doc => (doc.data k).isSome)).take n

/-- The newest message is what the query finds with the limit 1. -/
theorem newest_eq (messages : List Document) :
    newest messages = (orderByLimit .timestamp 1 messages).head? := by
  have hlater : later = greater (fieldText .timestamp) := by
    funext found message
    cases found <;> rfl
  rw [newest, hlater, orderByLimit, ← head?_descending]
  cases descending (fieldText .timestamp) (messages.filter fun m => (m.data .timestamp).isSome) <;>
    rfl

/-! ## Times -/

/-- A number of milliseconds since the epoch with thirteen digits. -/
def ThirteenDigits (instant : ℕ) : Prop := 10 ^ 12 ≤ instant ∧ instant < 10 ^ 13

/-- The document was written at the instant: the field is
`DateTime.now().millisecondsSinceEpoch.toString()`. -/
structure Stamped (k : Key) (instant : ℕ) (doc : Document) : Prop where
  field : doc.data k = some (.str (toString instant))
  digits : ThirteenDigits instant

variable {k : Key} {instant : Document → ℕ} {docs : List Document} {doc : Document} {m n : ℕ}

theorem Stamped.fieldText_eq (h : Stamped k m doc) : fieldText k doc = toString m := by
  rw [fieldText, h.field]

theorem ThirteenDigits.length (h : ThirteenDigits m) : (toString m).toList.length = 13 :=
  length_toString h.1 h.2 (by decide)

/-- The texts of two times are ordered as the times. -/
theorem ThirteenDigits.lt_iff (hm : ThirteenDigits m) (hn : ThirteenDigits n) :
    toString m < toString n ↔ m < n :=
  toString_lt_iff (hm.length.trans hn.length.symm)

/-- What the query is for. -/
structure SortsByTime (k : Key) (instant : Document → ℕ) (docs : List Document) : Prop where
  /-- texts are compared as times -/
  lt_iff : ∀ doc ∈ docs, ∀ doc' ∈ docs,
    fieldText k doc < fieldText k doc' ↔ instant doc < instant doc'
  /-- the query finds the newest documents -/
  newest : ∀ n, IsGreatest instant n docs (orderByLimit k n docs)
  /-- with the limit 1 it finds the newest one -/
  one : docs ≠ [] → ∃ doc ∈ docs, orderByLimit k 1 docs = [doc] ∧
    ∀ doc' ∈ docs, instant doc' ≤ instant doc

/-- **Texts of times sort by time.** The texts of times with thirteen digits are ordered as the
times, and the query finds the newest documents. -/
theorem stamps_sort_by_time (h : ∀ doc ∈ docs, Stamped k (instant doc) doc) :
    SortsByTime k instant docs := by
  have hlt : ∀ doc ∈ docs, ∀ doc' ∈ docs,
      fieldText k doc < fieldText k doc' ↔ instant doc < instant doc' := fun doc hdoc doc' hdoc' => by
    rw [(h doc hdoc).fieldText_eq, (h doc' hdoc').fieldText_eq]
    exact (h doc hdoc).digits.lt_iff (h doc' hdoc').digits
  have hall : docs.filter (fun doc => (doc.data k).isSome) = docs :=
    List.filter_eq_self.mpr fun doc hdoc => by rw [(h doc hdoc).field]; rfl
  have hnewest : ∀ n, IsGreatest instant n docs (orderByLimit k n docs) := fun n => by
    rw [orderByLimit, hall]
    exact greatest_take.congr fun a ha b hb hab =>
      Nat.le_of_not_lt fun hba => absurd ((hlt b hb a ha).mpr hba) (not_lt.mpr hab)
  exact ⟨hlt, hnewest, (hnewest 1).one⟩

/-- A message, and one of a minute later. -/
def hello : Document := ⟨.auto 0, .ofList [(.timestamp, .str "1699999999999")]⟩

def bye : Document := ⟨.auto 1, .ofList [(.timestamp, .str "1700000059999")]⟩

/-- The one of a minute later is found. -/
theorem stamps_sort_by_time_bye :
    SortsByTime .timestamp (fun doc => if doc.id = .auto 0 then 1699999999999 else 1700000059999)
      [hello, bye] :=
  stamps_sort_by_time fun doc hdoc => by
    simp only [List.mem_cons, List.not_mem_nil, or_false] at hdoc
    rcases hdoc with rfl | rfl
    · exact ⟨rfl, by decide, by decide⟩
    · exact ⟨rfl, by decide, by decide⟩

end FlutterTheme.Stamps
