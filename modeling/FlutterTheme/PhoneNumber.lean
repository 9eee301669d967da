import Mathlib.Algebra.GroupWithZero.Nat
import Mathlib.Data.List.Basic

/-!
# Phone numbers

A contact's number is stored the way it was typed. `phoneNumberExtension` brings the spellings
of one number to the same text (`same_number`).
-/

namespace FlutterTheme

/-- How many UTF-16 units a text has, which is its `length`. -/
def utf16Length (cs : List Char) : ℕ := (cs.map fun c => if c.toNat < 0x10000 then 1 else 2).sum

/-- `replaceAll` for a nonempty pattern: the occurrences are replaced from the left. The first
argument is how much of the last occurrence is still to be skipped. -/
def replaceAllFrom (pattern replacement : List Char) : ℕ → List Char → List Char
  | _, [] => []
  | n + 1, _ :: cs => replaceAllFrom pattern replacement n cs
  | 0, c :: cs =>
    if pattern.isPrefixOf (c :: cs) then
      replacement ++ replaceAllFrom pattern replacement (pattern.length - 1) cs
    else c :: replaceAllFrom pattern replacement 0 cs

/-- `replaceAll(pattern, replacement)`. -/
def replaceAll (pattern replacement : String) (cs : List Char) : List Char :=
  replaceAllFrom pattern.toList replacement.toList 0 cs

/-- `phoneNumberExtension`. -/
def phoneNumberExtension (phoneNumber : String) : String :=
  let phone := phoneNumber.toList
  if utf16Length phone > 10 then
    let phone := if phone.contains ' ' then replaceAll " " "" phone else phone
    let phone := if phone.contains '-' then replaceAll "-" "" phone else phone
    let phone := if phone.contains '+' then replaceAll "+91" "" phone else phone
    let phone := if phone.contains ' ' then replaceAll "  " "" phone else phone
    String.ofList phone
  else phoneNumber

/-! ## Replacing -/

/-- Where the pattern's first character does not occur there is nothing to replace. -/
theorem replaceAllFrom_of_not_mem {p : Char} {ps r cs : List Char} (h : p ∉ cs) :
    replaceAllFrom (p :: ps) r 0 cs = cs := by
  induction cs with
  | nil => rfl
  | cons c cs ih =>
    obtain ⟨hne, hrest⟩ := List.ne_and_not_mem_of_not_mem_cons h
    simp [replaceAllFrom, hne, ih hrest]

/-- To replace a single character by nothing is to leave it out. -/
theorem replaceAllFrom_singleton (p : Char) (cs : List Char) :
    replaceAllFrom [p] [] 0 cs = cs.filter (· != p) := by
  induction cs with
  | nil => rfl
  | cons c cs ih =>
    by_cases h : c = p
    · simp [replaceAllFrom, h, ih]
    · simp [replaceAllFrom, h, Ne.symm h, ih]

/-- The check in front of such a replacement changes nothing. -/
theorem replace_if_contains (p : Char) (cs : List Char) :
    (if cs.contains p then replaceAllFrom [p] [] 0 cs else cs) = cs.filter (· != p) := by
  split
  case isTrue => exact replaceAllFrom_singleton p cs
  case isFalse h =>
    refine (List.filter_eq_self.mpr fun c hc => ?_).symm
    have hne : c ≠ p := fun heq => h (List.contains_iff_mem.mpr (heq ▸ hc))
    simpa using hne

/-! ## Spellings -/

/-- The second text is the first with spaces and hyphens inserted. -/
inductive Inserted : List Char → List Char → Prop
  | nil : Inserted [] []
  | keep (c : Char) {cs cs' : List Char} : Inserted cs cs' → Inserted (c :: cs) (c :: cs')
  | space {cs cs' : List Char} : Inserted cs cs' → Inserted cs (' ' :: cs')
  | hyphen {cs cs' : List Char} : Inserted cs cs' → Inserted cs ('-' :: cs')

/-- A number of exactly ten digits. -/
structure TenDigits (d : String) : Prop where
  length : d.length = 10
  digits : ∀ c ∈ d.toList, c.isDigit = true

/-- A way to write the number: with or without the country code, with any spaces and hyphens. -/
def Spelling (d s : String) : Prop :=
  Inserted d.toList s.toList ∨ Inserted ("+91" ++ d).toList s.toList

/-- Leaving the spaces and hyphens out undoes the insertion. -/
theorem Inserted.filter {cs cs' : List Char} (h : Inserted cs cs') :
    (cs'.filter (· != ' ')).filter (· != '-') = (cs.filter (· != ' ')).filter (· != '-') := by
  induction h with
  | nil => rfl
  | keep c _ ih => by_cases hs : c = ' ' <;> by_cases hh : c = '-' <;> simp_all
  | space _ ih => simpa using ih
  | hyphen _ ih => simpa using ih

/-- A text spells what is left of it without the spaces and hyphens. -/
theorem Inserted.of_filter {cs' : List Char} : ∀ {cs : List Char},
    (cs'.filter (· != ' ')).filter (· != '-') = cs → Inserted cs cs' := by
  induction cs' with
  | nil => rintro _ rfl; exact .nil
  | cons c cs' ih =>
    rintro _ rfl
    by_cases hspace : c = ' '
    · subst hspace
      exact .space (ih rfl)
    · by_cases hhyphen : c = '-'
      · subst hhyphen
        exact .hyphen (ih rfl)
      · rw [List.filter_cons_of_pos (by simpa using hspace),
          List.filter_cons_of_pos (by simpa using hhyphen)]
        exact .keep c (ih rfl)

/-- An insertion makes the text longer, or there was none. -/
theorem Inserted.eq_or_longer {cs cs' : List Char} (h : Inserted cs cs') :
    cs' = cs ∨ utf16Length cs < utf16Length cs' := by
  induction h with
  | nil => exact Or.inl rfl
  | keep c _ ih =>
    rcases ih with rfl | ih
    · exact Or.inl rfl
    · exact Or.inr (by simpa [utf16Length] using ih)
  | space _ ih =>
    right
    rcases ih with rfl | ih
    · simp [utf16Length]
    · simp only [utf16Length, List.map_cons, List.sum_cons] at ih ⊢
      omega
  | hyphen _ ih =>
    right
    rcases ih with rfl | ih
    · simp [utf16Length]
    · simp only [utf16Length, List.map_cons, List.sum_cons] at ih ⊢
      omega

/-- A text has at least as many UTF-16 units as characters. -/
theorem length_le_utf16Length (cs : List Char) : cs.length ≤ utf16Length cs := by
  induction cs with
  | nil => exact Nat.le_refl _
  | cons c cs ih =>
    simp only [utf16Length, List.map_cons, List.sum_cons, List.length_cons] at ih ⊢
    split <;> omega

namespace TenDigits

variable {d : String}

/-- None of the characters the function takes out is a digit. -/
theorem not_mem (h : TenDigits d) {c : Char} (hc : c.isDigit = false) : c ∉ d.toList :=
  fun hmem => Bool.noConfusion ((h.digits c hmem).symm.trans hc)

theorem filter_eq (h : TenDigits d) {c : Char} (hc : c.isDigit = false) :
    d.toList.filter (· != c) = d.toList := by
  refine List.filter_eq_self.mpr fun x hx => ?_
  have hne : x ≠ c := fun heq => h.not_mem hc (heq ▸ hx)
  simpa using hne

/-- Ten digits have at least ten units. -/
theorem ten_le (h : TenDigits d) : 10 ≤ utf16Length d.toList := by
  have hle := length_le_utf16Length d.toList
  rwa [String.length_toList, h.length] at hle

end TenDigits

/-- What is left after the spaces and hyphens: the number, with or without the country code. -/
theorem stripped {d s : String} (hd : TenDigits d) (h : Spelling d s) :
    (s.toList.filter (· != ' ')).filter (· != '-') = d.toList ∨
    (s.toList.filter (· != ' ')).filter (· != '-') = "+91".toList ++ d.toList := by
  have hspace : d.toList.filter (· != ' ') = d.toList := hd.filter_eq rfl
  have hhyphen : d.toList.filter (· != '-') = d.toList := hd.filter_eq rfl
  rcases h with h | h
  · left
    rw [h.filter, hspace, hhyphen]
  · right
    rw [h.filter, String.toList_append, List.filter_append, List.filter_append, hspace, hhyphen]
    rfl

/-- The country code is taken off, and only it. -/
theorem replace_countryCode {d : String} (hd : TenDigits d) {cs : List Char}
    (h : cs = d.toList ∨ cs = "+91".toList ++ d.toList) :
    (if cs.contains '+' then replaceAll "+91" "" cs else cs) = d.toList := by
  have hplus : '+' ∉ d.toList := hd.not_mem rfl
  rcases h with rfl | rfl
  · rw [if_neg (by simpa using hplus)]
  · have hcode : replaceAllFrom "+91".toList [] 0 ("+91".toList ++ d.toList) =
        replaceAllFrom "+91".toList [] 0 d.toList := by
      simp [replaceAllFrom]
    rw [if_pos (by simp)]
    exact hcode.trans (replaceAllFrom_of_not_mem hplus)

/-- Every spelling of the number is brought to its ten digits: spaces, hyphens and the country code
are taken out, and a text that is no longer than the number has none of them. -/
theorem phoneNumberExtension_eq {d s : String} (hd : TenDigits d) (h : Spelling d s) :
    phoneNumberExtension s = d := by
  have hlong : s = d ∨ 10 < utf16Length s.toList := by
    have hten := hd.ten_le
    rcases h with h | h
    · rcases h.eq_or_longer with heq | hlt
      · exact Or.inl (String.toList_inj.mp heq)
      · exact Or.inr (by omega)
    · have hcode : utf16Length ("+91" ++ d).toList = 3 + utf16Length d.toList := by
        rw [String.toList_append, utf16Length, List.map_append, List.sum_append]
        rfl
      right
      rcases h.eq_or_longer with heq | hlt
      · rw [heq, hcode]
        omega
      · omega
  by_cases hgt : 10 < utf16Length s.toList
  · have hcut := replace_countryCode hd (stripped hd h)
    have hspace : d.toList.contains ' ' = false := by
      simpa using hd.not_mem (c := ' ') rfl
    have hfirst : (if s.toList.contains ' ' then replaceAll " " "" s.toList else s.toList) =
        s.toList.filter (· != ' ') := replace_if_contains ' ' _
    have hsecond : (if (s.toList.filter (· != ' ')).contains '-' then
        replaceAll "-" "" (s.toList.filter (· != ' ')) else s.toList.filter (· != ' ')) =
        (s.toList.filter (· != ' ')).filter (· != '-') := replace_if_contains '-' _
    simp only [phoneNumberExtension, hgt, if_true, hfirst, hsecond, hcut, hspace,
      String.ofList_toList, Bool.false_eq_true, if_false]
  · have heq : s = d := hlong.resolve_right hgt
    rw [phoneNumberExtension, if_neg (by simpa using hgt), heq]

/-- **The spellings of a number are normalised to its ten digits**, so two spellings are brought
to the same text exactly when they are of the same number. -/
theorem same_number {d d' s s' : String} (hd : TenDigits d) (h : Spelling d s)
    (hd' : TenDigits d') (h' : Spelling d' s') :
    phoneNumberExtension s = d ∧
      (phoneNumberExtension s = phoneNumberExtension s' ↔ d = d') := by
  have hs := phoneNumberExtension_eq hd h
  have hs' := phoneNumberExtension_eq hd' h'
  exact ⟨hs, by rw [hs, hs']⟩

/-- A number that starts with the digits of the country code, in two spellings. -/
theorem same_number_code :
    phoneNumberExtension "+9 1-91912-34567 " = "9191234567" ∧
      (phoneNumberExtension "+9 1-91912-34567 " = phoneNumberExtension "91912 34567" ↔
        "9191234567" = "9191234567") :=
  same_number ⟨rfl, List.all_eq_true.mp rfl⟩ (.inr (.of_filter (by decide +kernel)))
    ⟨rfl, List.all_eq_true.mp rfl⟩ (.inl (.of_filter (by decide +kernel)))

end FlutterTheme
