import Mathlib.Data.Nat.Notation
import Mathlib.Data.Int.Notation
import Mathlib.Data.String.Basic

/-!
# Numbers in texts

Times are stored as texts. `intParse` reads them, and what `toString` writes it reads back
(`intParse_toString`). Texts of numbers with as many digits are ordered as the numbers
(`toString_lt_iff`).
-/

namespace FlutterTheme

/-- White space as `String.trim` removes it. -/
def isWhitespace (c : Char) : Bool :=
  c.toNat ∈ [0x9, 0xA, 0xB, 0xC, 0xD, 0x20, 0x85, 0xA0, 0x1680, 0x2000, 0x2001, 0x2002, 0x2003,
    0x2004, 0x2005, 0x2006, 0x2007, 0x2008, 0x2009, 0x200A, 0x2028, 0x2029, 0x202F, 0x205F,
    0x3000, 0xFEFF]

/-- A digit of a base up to 16. -/
def digit (base : ℕ) (c : Char) : Option ℕ :=
  let n :=
    if '0' ≤ c ∧ c ≤ '9' then c.toNat - '0'.toNat
    else if 'a' ≤ c ∧ c ≤ 'f' then c.toNat - 'a'.toNat + 10
    else if 'A' ≤ c ∧ c ≤ 'F' then c.toNat - 'A'.toNat + 10
    else base
  if n < base then some n else none

/-- A number without a sign: at least one digit. -/
def digits (base : ℕ) : List Char → Option ℕ
  | [] => none
  | cs => cs.foldl (fun acc c => acc.bind fun n => (digit base c).map (n * base + ·)) (some 0)

/-- A number that 64 bits do not hold is an error. -/
def int64 (n : ℤ) : Option ℤ :=
  if -0x8000000000000000 ≤ n ∧ n < 0x8000000000000000 then some n else none

/-- A hexadecimal number with its sign. Without a minus it may take all 64 bits, and is then the
number that has these bits. -/
def hexadecimal (sign : ℤ) (n : ℕ) : Option ℤ :=
  if sign = 1 ∧ 0x8000000000000000 ≤ n ∧ n < 0x10000000000000000 then
    some (n - 0x10000000000000000)
  else int64 (sign * n)

/-- A number after its sign, decimal or hexadecimal. A decimal number may be as long as it likes:
that it is an error from 64 bits on is left out, since no clock shows such a time. -/
def signed (sign : ℤ) : List Char → Option ℤ
  | '0' :: 'x' :: cs | '0' :: 'X' :: cs => (digits 16 cs).bind (hexadecimal sign)
  | cs => (digits 10 cs).map fun n : ℕ => sign * (n : ℤ)

/-- The spaces around a number do not count. -/
def trimmed (s : String) : List Char :=
  ((s.toList.dropWhile isWhitespace).reverse.dropWhile isWhitespace).reverse

/-- `int.parse`; `none` is an error. -/
def intParse (s : String) : Option ℤ :=
  match trimmed s with
  | '-' :: cs => signed (-1) cs
  | '+' :: cs => signed 1 cs
  | cs => signed 1 cs

/-- `int.parse(s, radix: base)`. -/
def intParseRadix (base : ℕ) (s : String) : Option ℤ :=
  match trimmed s with
  | '-' :: cs => (digits base cs).bind fun n : ℕ => int64 (-(n : ℤ))
  | '+' :: cs => (digits base cs).bind fun n : ℕ => int64 (n : ℤ)
  | cs => (digits base cs).bind fun n : ℕ => int64 (n : ℤ)

/-! ## What `toString` writes -/

theorem toNat_of_isDigit {c : Char} (h : c.isDigit = true) : 48 ≤ c.toNat ∧ c.toNat ≤ 57 :=
  Char.isDigit_iff_toNat.mp h

/-- A decimal digit. -/
theorem digit_of_isDigit {c : Char} (h : c.isDigit = true) :
    digit 10 c = some (c.toNat - '0'.toNat) := by
  obtain ⟨hge, hle⟩ := toNat_of_isDigit h
  have hzero : '0'.toNat = 48 := rfl
  have hdigit : '0' ≤ c ∧ c ≤ '9' :=
    ⟨UInt32.le_iff_toNat_le.mpr hge, UInt32.le_iff_toNat_le.mpr hle⟩
  rw [digit, if_pos hdigit]
  exact if_pos (by omega)

/-- A digit is no space, no sign and no `x`. -/
theorem ne_of_isDigit {c : Char} (h : c.isDigit = true) (c' : Char)
    (h' : c'.toNat < 48 ∨ 57 < c'.toNat) : c ≠ c' := by
  rintro rfl
  have := toNat_of_isDigit h
  omega

/-- Reading decimal digits one after the other gives the number they are the digits of, behind those
read before. -/
theorem foldl_digit {cs : List Char} (h : ∀ c ∈ cs, c.isDigit = true) (n : ℕ) :
    cs.foldl (fun acc c => acc.bind fun n => (digit 10 c).map (n * 10 + ·)) (some n) =
      some (Nat.ofDigitChars 10 cs n) := by
  induction cs generalizing n with
  | nil => rfl
  | cons c cs ih =>
    have hc := digit_of_isDigit (h c (List.mem_cons_self ..))
    rw [List.foldl_cons, Nat.ofDigitChars_cons, Nat.mul_comm 10]
    simp only [Option.bind_some, hc, Option.map_some]
    exact ih (fun c' hc' => h c' (List.mem_cons_of_mem _ hc')) _

theorem digits_of_isDigit {cs : List Char} (h : ∀ c ∈ cs, c.isDigit = true) (hne : cs ≠ []) :
    digits 10 cs = some (Nat.ofDigitChars 10 cs 0) := by
  cases cs with
  | nil => exact absurd rfl hne
  | cons c cs => exact foldl_digit h 0

theorem signed_of_isDigit {cs : List Char} (h : ∀ c ∈ cs, c.isDigit = true) (hne : cs ≠ []) :
    signed 1 cs = some (Nat.ofDigitChars 10 cs 0 : ℤ) := by
  unfold signed
  split
  · exact absurd rfl (ne_of_isDigit (h 'x' (by simp)) 'x' (by decide))
  · exact absurd rfl (ne_of_isDigit (h 'X' (by simp)) 'X' (by decide))
  · rw [digits_of_isDigit h hne, Option.map_some, Int.one_mul]

/-- There are no spaces around digits. -/
theorem dropWhile_of_isDigit {cs : List Char} (h : ∀ c ∈ cs, c.isDigit = true) :
    cs.dropWhile isWhitespace = cs := by
  cases cs with
  | nil => rfl
  | cons c cs =>
    obtain ⟨hge, hle⟩ := toNat_of_isDigit (h c (List.mem_cons_self ..))
    have hspace : isWhitespace c = false := by
      simp only [isWhitespace, List.mem_cons, List.not_mem_nil, or_false, decide_eq_false_iff_not]
      omega
    rw [List.dropWhile_cons, hspace]
    rfl

theorem trimmed_of_isDigit {s : String} (h : ∀ c ∈ s.toList, c.isDigit = true) :
    trimmed s = s.toList := by
  have hrev : ∀ c ∈ s.toList.reverse, c.isDigit = true :=
    fun c hc => h c (List.mem_reverse.mp hc)
  rw [trimmed, dropWhile_of_isDigit h, dropWhile_of_isDigit hrev, List.reverse_reverse]

/-- A text of digits is the number that they write. -/
theorem intParse_of_isDigit {s : String} (h : ∀ c ∈ s.toList, c.isDigit = true)
    (hne : s.toList ≠ []) : intParse s = some (Nat.ofDigitChars 10 s.toList 0 : ℤ) := by
  unfold intParse
  rw [trimmed_of_isDigit h]
  split
  · next hminus =>
    have hmem : '-' ∈ s.toList := hminus ▸ List.mem_cons_self ..
    exact absurd rfl (ne_of_isDigit (h '-' hmem) '-' (by decide))
  · next hplus =>
    have hmem : '+' ∈ s.toList := hplus ▸ List.mem_cons_self ..
    exact absurd rfl (ne_of_isDigit (h '+' hmem) '+' (by decide))
  · exact signed_of_isDigit h hne

theorem isDigit_of_mem_toString {n : ℕ} : ∀ c ∈ (toString n).toList, c.isDigit = true := by
  rw [show (toString n).toList = Nat.toDigits 10 n from Nat.toList_repr]
  exact fun c hc => Nat.isDigit_of_mem_toDigits (by decide) (by decide) hc

theorem toList_toString_ne_nil {n : ℕ} : (toString n).toList ≠ [] := by
  rw [show (toString n).toList = Nat.toDigits 10 n from Nat.toList_repr]
  exact Nat.toDigits_ne_nil

theorem ofDigitChars_toString (n : ℕ) : Nat.ofDigitChars 10 (toString n).toList 0 = n := by
  rw [show (toString n).toList = Nat.toDigits 10 n from Nat.toList_repr]
  exact Nat.ofDigitChars_ten_toDigits

/-- **What `toString` writes is read back.** -/
theorem intParse_toString (n : ℕ) : intParse (toString n) = some (n : ℤ) := by
  rw [intParse_of_isDigit isDigit_of_mem_toString toList_toString_ne_nil, ofDigitChars_toString]

/-- Different numbers are different texts. -/
theorem toString_inj {m n : ℕ} : toString m = toString n ↔ m = n := by
  refine ⟨fun h => ?_, congrArg toString⟩
  have hparse := congrArg intParse h
  rw [intParse_toString, intParse_toString] at hparse
  exact Int.ofNat.inj (Option.some.inj hparse)

/-! ## The order of numbers -/

/-- The digits before decide. -/
theorem ofDigitChars_lt : ∀ {cs cs' : List Char} {n n' : ℕ}, cs.length = cs'.length →
    (∀ c ∈ cs, c.isDigit = true) → n < n' → Nat.ofDigitChars 10 cs n < Nat.ofDigitChars 10 cs' n'
  | [], [], _, _, _, _, hlt => by rwa [Nat.ofDigitChars_nil, Nat.ofDigitChars_nil]
  | c :: cs, c' :: cs', n, n', hlength, h, hlt => by
    have hc := toNat_of_isDigit (h c (List.mem_cons_self ..))
    have hzero : '0'.toNat = 48 := rfl
    rw [Nat.ofDigitChars_cons, Nat.ofDigitChars_cons]
    exact ofDigitChars_lt (Nat.succ.inj hlength) (fun c hc => h c (List.mem_cons_of_mem _ hc))
      (by omega)

/-- Of texts with as many digits the one of the smaller number comes first. -/
theorem ofDigitChars_lt_iff : ∀ {cs cs' : List Char} {n : ℕ}, cs.length = cs'.length →
    (∀ c ∈ cs, c.isDigit = true) → (∀ c ∈ cs', c.isDigit = true) →
    (Nat.ofDigitChars 10 cs n < Nat.ofDigitChars 10 cs' n ↔ cs < cs')
  | [], [], n, _, _, _ => iff_of_false (lt_irrefl _) (lt_irrefl _)
  | c :: cs, c' :: cs', n, hlength, h, h' => by
    have hc := toNat_of_isDigit (h c (List.mem_cons_self ..))
    have hc' := toNat_of_isDigit (h' c' (List.mem_cons_self ..))
    have hrest : ∀ c ∈ cs, c.isDigit = true := fun c hc => h c (List.mem_cons_of_mem _ hc)
    have hrest' : ∀ c ∈ cs', c.isDigit = true := fun c hc => h' c (List.mem_cons_of_mem _ hc)
    have hlength' : cs.length = cs'.length := Nat.succ.inj hlength
    have hzero : '0'.toNat = 48 := rfl
    rw [Nat.ofDigitChars_cons, Nat.ofDigitChars_cons, List.cons_lt_cons_iff]
    rcases lt_trichotomy c c' with hlt | rfl | hlt
    · have hnat : c.toNat < c'.toNat := UInt32.lt_iff_toNat_lt.mp hlt
      exact iff_of_true (ofDigitChars_lt hlength' hrest (by omega)) (.inl hlt)
    · rw [ofDigitChars_lt_iff hlength' hrest hrest']
      exact ⟨fun hlt => .inr ⟨rfl, hlt⟩, fun hor => (hor.resolve_left (lt_irrefl c)).2⟩
    · have hnat : c'.toNat < c.toNat := UInt32.lt_iff_toNat_lt.mp hlt
      refine iff_of_false (ofDigitChars_lt hlength'.symm hrest' (by omega)).not_gt ?_
      rintro (hlt' | ⟨rfl, -⟩)
      · exact lt_asymm hlt hlt'
      · exact lt_irrefl _ hlt

/-- Numbers with as many digits are ordered as their texts. -/
theorem toString_lt_iff {m n : ℕ}
    (h : (toString m).toList.length = (toString n).toList.length) :
    toString m < toString n ↔ m < n := by
  have hiff := ofDigitChars_lt_iff (n := 0) h isDigit_of_mem_toString isDigit_of_mem_toString
  rw [ofDigitChars_toString, ofDigitChars_toString] at hiff
  rw [String.lt_iff_toList_lt, hiff]

/-- How many digits a number has. -/
theorem length_toString {n k : ℕ} (hle : 10 ^ k ≤ n) (hlt : n < 10 ^ (k + 1)) (hk : 0 < k) :
    (toString n).toList.length = k + 1 := by
  rw [show (toString n).toList = Nat.toDigits 10 n from Nat.toList_repr]
  have hmost := (Nat.length_toDigits_le_iff (by decide) (Nat.succ_pos k)).mpr hlt
  have hleast := mt (Nat.length_toDigits_le_iff (by decide) hk).mp (Nat.not_lt.mpr hle)
  omega

end FlutterTheme
