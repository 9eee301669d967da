import Mathlib.Data.List.Infix

/-!
# Lists joined by a separator

`split sep l` cuts `l` at the occurrences of `sep`, from the left and without overlaps. Joining
lists and cutting the result gives the lists back when the separator occurs nowhere but where it
has been put: `prefix_split_iff`. An occurrence may also begin in a list and end in the separator
behind it, which is why a list is looked at together with all but the last element of `sep`.
-/

namespace Separator

variable {α : Type} [DecidableEq α]

/-- An element joins the first piece. -/
def push (a : α) : List (List α) → List (List α)
  | [] => [[a]]
  | p :: ps => (a :: p) :: ps

/-- The pieces of a list, of which so many elements still belong to a separator. -/
def pieces (sep : List α) : ℕ → List α → List (List α)
  | _, [] => [[]]
  | n + 1, _ :: as => pieces sep n as
  | 0, a :: as =>
    if sep.isPrefixOf (a :: as) then [] :: pieces sep (sep.length - 1) as
    else push a (pieces sep 0 as)

/-- The list, cut at the occurrences of the separator. -/
def split (sep l : List α) : List (List α) := pieces sep 0 l

variable {sep l x y : List α} {a : α}

theorem pieces_eq : ∀ {n : ℕ} {l : List α}, pieces sep n l = split sep (l.drop n)
  | 0, _ => rfl
  | _ + 1, [] => rfl
  | n + 1, _ :: as => by rw [pieces, pieces_eq, List.drop_succ_cons]

/-- The list begins with the separator. -/
theorem split_append_left (h : sep ≠ []) : split sep (sep ++ l) = [] :: split sep l := by
  obtain ⟨a, as, rfl⟩ := List.exists_cons_of_ne_nil h
  have hprefix : (a :: as).isPrefixOf (a :: (as ++ l)) = true :=
    List.isPrefixOf_iff_prefix.mpr (List.prefix_append (a :: as) l)
  rw [split, List.cons_append, pieces, if_pos hprefix, pieces_eq, List.length_cons,
    Nat.add_sub_cancel, List.drop_left]

theorem split_cons (h : ¬ sep <+: a :: l) : split sep (a :: l) = push a (split sep l) := by
  have hprefix : ¬ sep.isPrefixOf (a :: l) = true := fun hp => h (List.isPrefixOf_iff_prefix.mp hp)
  rw [split, pieces, if_neg hprefix]
  rfl

/-- The separator does not occur. -/
theorem split_free : ∀ {l : List α}, ¬ sep <:+: l → split sep l = [l]
  | [], _ => rfl
  | a :: l, h => by
    have hprefix : ¬ sep <+: a :: l := fun hp => h hp.isInfix
    have htail : ¬ sep <:+: l := fun hi => h (List.infix_cons_iff.mpr (Or.inr hi))
    rw [split_cons hprefix, split_free htail, push]

omit [DecidableEq α] in
theorem dropLast_prefix : a :: (x ++ sep.dropLast) <+: a :: (x ++ (sep ++ y)) := by
  rw [List.cons_prefix_cons, List.prefix_append_right_inj]
  exact ⟨rfl, (List.dropLast_prefix sep).trans (List.prefix_append sep y)⟩

omit [DecidableEq α] in
/-- An occurrence that begins in `x` is seen in `x` and all but the last element behind it. -/
theorem prefix_dropLast (h : sep <+: a :: (x ++ (sep ++ y))) : sep <+: a :: (x ++ sep.dropLast) := by
  refine List.prefix_of_prefix_length_le h dropLast_prefix ?_
  simp only [List.length_cons, List.length_append, List.length_dropLast]
  omega

omit [DecidableEq α] in
theorem push_ne_nil {ps : List (List α)} : push a ps ≠ [] := by
  cases ps with
  | nil => exact List.cons_ne_nil _ _
  | cons p ps => exact List.cons_ne_nil _ _

theorem split_ne_nil : ∀ {l : List α}, split sep l ≠ []
  | [] => List.cons_ne_nil _ _
  | a :: l => by
    rw [split, pieces]
    split
    · exact List.cons_ne_nil _ _
    · exact push_ne_nil

/-- The separator does not occur before it has been put. -/
theorem split_append (hsep : sep ≠ []) : ∀ {x : List α}, ¬ sep <:+: x ++ sep.dropLast →
    split sep (x ++ (sep ++ y)) = x :: split sep y
  | [], _ => split_append_left hsep
  | a :: x, h => by
    have hprefix : ¬ sep <+: a :: (x ++ (sep ++ y)) := fun hp => h (prefix_dropLast hp).isInfix
    have htail : ¬ sep <:+: x ++ sep.dropLast := fun hi => h (List.infix_cons_iff.mpr (Or.inr hi))
    rw [List.cons_append, split_cons hprefix, split_append hsep htail, push]

/-- Where the separator occurs, it occurs a first time: there is a part in front of it in which it
does not. By recursion on the list. -/
theorem exists_first (hsep : sep ≠ []) : ∀ {l : List α}, sep <:+: l →
    ∃ x y, l = x ++ (sep ++ y) ∧ ¬ sep <:+: x ++ sep.dropLast
  | l, h => by
    by_cases hprefix : sep <+: l
    · obtain ⟨y, rfl⟩ := hprefix
      refine ⟨[], y, rfl, fun hi => ?_⟩
      have hlen := hi.length_le
      rw [List.nil_append, List.length_dropLast] at hlen
      have hpos := List.length_pos_iff.mpr hsep
      omega
    · cases l with
      | nil => exact absurd (List.infix_nil.mp h) hsep
      | cons a l =>
        obtain ⟨x, y, rfl, hx⟩ := exists_first hsep ((List.infix_cons_iff.mp h).resolve_left hprefix)
        refine ⟨a :: x, y, rfl, fun hi => ?_⟩
        rcases List.infix_cons_iff.mp hi with hi | hi
        · exact hprefix (hi.trans dropLast_prefix)
        · exact hx hi

/-- What is behind the first occurrence contains what is behind any other, so that cutting there
never loses a later part. -/
theorem exists_first_append (hsep : sep ≠ []) (x y : List α) :
    ∃ x' y', x ++ (sep ++ y) = x' ++ (sep ++ y') ∧ ¬ sep <:+: x' ++ sep.dropLast ∧ y <:+ y' := by
  obtain ⟨x', y', heq, hx'⟩ := exists_first hsep (List.infix_append' x sep y)
  refine ⟨x', y', heq, hx', ?_⟩
  have hlen : x'.length ≤ x.length := by
    by_contra hlt
    have hpos := List.length_pos_iff.mpr hsep
    have hprefix : x ++ sep <+: x' ++ sep.dropLast := by
      have hleft : x ++ sep <+: x' ++ (sep ++ y') := heq ▸ ⟨y, List.append_assoc x sep y⟩
      have hright : x' ++ sep.dropLast <+: x' ++ (sep ++ y') :=
        (List.prefix_append_right_inj x').mpr
          ((List.dropLast_prefix sep).trans (List.prefix_append sep y'))
      refine List.prefix_of_prefix_length_le hleft hright ?_
      simp only [List.length_append, List.length_dropLast]
      omega
    exact hx' ((List.suffix_append x sep).isInfix.trans hprefix.isInfix)
  have hsuffix : y <:+ x' ++ (sep ++ y') := heq ▸ ⟨x ++ sep, List.append_assoc x sep y⟩
  have hsuffix' : y' <:+ x' ++ (sep ++ y') := ⟨x' ++ sep, List.append_assoc x' sep y'⟩
  refine List.suffix_of_suffix_length_le hsuffix hsuffix' ?_
  have hlen' := congrArg List.length heq
  simp only [List.length_append] at hlen'
  omega

/-- A list in which the separator occurs has two pieces. -/
theorem two_pieces (hsep : sep ≠ []) (h : sep <:+: l) : 2 ≤ (split sep l).length := by
  obtain ⟨x, y, rfl, hx⟩ := exists_first hsep h
  rw [split_append hsep hx, List.length_cons]
  have hne : split sep y ≠ [] := split_ne_nil
  have hpos := List.length_pos_iff.mpr hne
  omega

/-- A list with the separator at two places has three pieces. -/
theorem three_pieces (hsep : sep ≠ []) (x y z : List α) :
    3 ≤ (split sep (x ++ (sep ++ (y ++ (sep ++ z))))).length := by
  obtain ⟨x', y', heq, hx', hsuffix⟩ := exists_first_append hsep x (y ++ (sep ++ z))
  have hoccurs : sep <:+: y ++ (sep ++ z) := List.infix_append' y sep z
  have hlen := two_pieces hsep (hoccurs.trans hsuffix.isInfix)
  rw [heq, split_append hsep hx', List.length_cons]
  omega

/-- The first piece is the part before the separator. -/
theorem head_split_append (hsep : sep ≠ []) :
    (split sep (x ++ (sep ++ y)))[0]? = some x ↔ ¬ sep <:+: x ++ sep.dropLast := by
  constructor
  · intro hhead
    obtain ⟨x', y', heq, hx'⟩ := exists_first hsep (List.infix_append' x sep y)
    rw [heq, split_append hsep hx'] at hhead
    rwa [← Option.some.inj hhead]
  · intro h
    rw [split_append hsep h]
    rfl

/-- The first piece is the whole list. -/
theorem head_split (hsep : sep ≠ []) : (split sep l)[0]? = some l ↔ ¬ sep <:+: l := by
  constructor
  · intro hhead h
    obtain ⟨x, y, rfl, hx⟩ := exists_first hsep h
    rw [split_append hsep hx] at hhead
    have hlen := congrArg List.length (Option.some.inj hhead)
    have hpos := List.length_pos_iff.mpr hsep
    simp only [List.length_append] at hlen
    omega
  · intro h
    rw [split_free h]
    rfl

/-- The second piece is never the whole list. -/
theorem second_split_ne (hsep : sep ≠ []) : (split sep l)[1]? ≠ some l := by
  intro hsecond
  have hpos := List.length_pos_iff.mpr hsep
  by_cases h : sep <:+: l
  · obtain ⟨x, y, rfl, hx⟩ := exists_first hsep h
    rw [split_append hsep hx, List.getElem?_cons_succ] at hsecond
    by_cases hy : sep <:+: y
    · obtain ⟨z, rest, rfl, hz⟩ := exists_first hsep hy
      rw [split_append hsep hz] at hsecond
      have hlen := congrArg List.length (Option.some.inj hsecond)
      simp only [List.length_append] at hlen
      omega
    · rw [split_free hy] at hsecond
      have hlen := congrArg List.length (Option.some.inj hsecond)
      simp only [List.length_append] at hlen
      omega
  · rw [split_free h] at hsecond
    exact absurd hsecond (by simp)

/-- The second piece is what has been put behind the separator, if `x` itself is free of it. -/
theorem second_split_append (hsep : sep ≠ []) (hx : ¬ sep <:+: x) :
    (split sep (x ++ (sep ++ y)))[1]? = some y ↔
      ¬ sep <:+: x ++ sep.dropLast ∧ ¬ sep <:+: y := by
  constructor
  · intro hsecond
    obtain ⟨x', y', heq, hx'⟩ := exists_first hsep (List.infix_append' x sep y)
    rw [heq, split_append hsep hx', List.getElem?_cons_succ] at hsecond
    have hlen := congrArg List.length heq
    simp only [List.length_append] at hlen
    by_cases hy' : sep <:+: y'
    · -- then the first two occurrences are in `x` and the separator behind it
      obtain ⟨z, rest, rfl, hz⟩ := exists_first hsep hy'
      rw [split_append hsep hz] at hsecond
      obtain rfl : z = y := Option.some.inj hsecond
      have hprefix : x' ++ sep <+: x := by
        have hleft : x' ++ sep <+: x ++ (sep ++ z) :=
          heq ▸ ⟨z ++ (sep ++ rest), List.append_assoc x' sep _⟩
        refine List.prefix_of_prefix_length_le hleft (List.prefix_append x _) ?_
        simp only [List.length_append] at hlen ⊢
        omega
      have hsep' : sep <:+: x' ++ sep := List.infix_append_right
      exact absurd (hsep'.trans hprefix.isInfix) hx
    · rw [split_free hy'] at hsecond
      obtain rfl : y' = y := Option.some.inj hsecond
      obtain ⟨rfl, -⟩ := List.append_inj heq (by omega)
      exact ⟨hx', hy'⟩
  · rintro ⟨hclean, hy⟩
    rw [split_append hsep hclean, List.getElem?_cons_succ, split_free hy]
    rfl

/-- The separator occurs nowhere but where the lists are joined. -/
def Separable (sep : List α) : List (List α) → Prop
  | [] => True
  | [x] => ¬ sep <:+: x
  | x :: xs => ¬ sep <:+: x ++ sep.dropLast ∧ Separable sep xs

/-- **Cutting undoes joining** just when the separator occurs nowhere else: not in a part, nor
across the place where a part and the next separator meet. By recursion on the parts. -/
theorem prefix_split_iff (hsep : sep ≠ []) : ∀ {xs : List (List α)}, xs ≠ [] →
    (xs <+: split sep (sep.intercalate xs) ↔ Separable sep xs)
  | [x], _ => by
    rw [List.intercalate_singleton, Separable, ← head_split hsep]
    cases split sep x with
    | nil => simp
    | cons p ps => simp [eq_comm]
  | x :: x' :: xs, _ => by
    have ih := prefix_split_iff hsep (List.cons_ne_nil x' xs)
    rw [List.intercalate_cons_cons, List.append_assoc]
    constructor
    · rintro ⟨rest, hrest⟩
      have hx : ¬ sep <:+: x ++ sep.dropLast := by
        rw [← head_split_append hsep, ← hrest]
        rfl
      rw [split_append hsep hx] at hrest
      exact ⟨hx, ih.mp ⟨rest, (List.cons.inj hrest).2⟩⟩
    · rintro ⟨hx, hxs⟩
      rw [split_append hsep hx, List.cons_prefix_cons]
      exact ⟨rfl, ih.mpr hxs⟩

end Separator
