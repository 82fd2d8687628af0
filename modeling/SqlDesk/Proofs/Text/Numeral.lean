/-
Whole numbers as they are typed and as they are shown.

A numeral is a row of decimal digits with a sign in front or without one (`Denotes`), and a text
stands for a number if it is a numeral with blanks around it (`StandsFor`). These are the texts that
are read (`integer?_eq_some_iff`), so a number is read back from its digits (`integer?_toDigits`).
Whatever is read has at most as many digits as a numeral may have, so it can be written out
(`isWritable_of_integer?`).
-/
import Mathlib.Data.List.Forall2
import Mathlib.Data.Nat.Digits.Defs
import SqlDesk.Text.Numeral
import SqlDesk.Proofs.Text.Blank
import SqlDesk.Proofs.Text.Trim

namespace SqlDesk.Text

/-! ## Digits -/

/-- A decimal digit and its value: it is so many places behind the first one of its script. -/
def IsDigit (c : Char) (d : Nat) : Prop :=
  d ≤ 9 ∧ ∃ first ∈ digitZeros, c.toNat = first + d

/-- The digits of two scripts do not overlap. -/
theorem eq_of_digitZeros : ∀ first ∈ digitZeros, ∀ first' ∈ digitZeros,
    first ≤ first' + 9 → first' ≤ first + 9 → first = first' := by
  decide +kernel

theorem digit?_eq_some_iff {c : Char} {d : Nat} : digit? c = some d ↔ IsDigit c d := by
  simp only [digit?, Option.map_eq_some_iff]
  constructor
  · rintro ⟨first, hfirst, rfl⟩
    have hrange := List.find?_some hfirst
    simp only [Bool.and_eq_true, decide_eq_true_eq] at hrange
    exact ⟨by omega, first, List.mem_of_find?_eq_some hfirst, by omega⟩
  · rintro ⟨hle, first, hfirst, hplace⟩
    have hsome : (digitZeros.find? fun z => z ≤ c.toNat && c.toNat ≤ z + 9).isSome = true := by
      rw [List.find?_isSome]
      exact ⟨first, hfirst, by simp only [Bool.and_eq_true, decide_eq_true_eq]; omega⟩
    obtain ⟨found, hfound⟩ := Option.isSome_iff_exists.mp hsome
    have hrange := List.find?_some hfound
    simp only [Bool.and_eq_true, decide_eq_true_eq] at hrange
    obtain rfl := eq_of_digitZeros found (List.mem_of_find?_eq_some hfound) first hfirst (by omega)
      (by omega)
    exact ⟨found, hfound, by omega⟩

theorem IsDigit.isBlank {c : Char} {d : Nat} (h : IsDigit c d) : isBlank c = false := by
  rw [← Bool.not_eq_true]
  intro hblank
  have hdigit := digit?_eq_some_iff.mpr h
  rw [digit?_of_isBlank hblank] at hdigit
  cases hdigit

theorem IsDigit.of_isDigit {c : Char} (h : c.isDigit = true) :
    IsDigit c (c.toNat - '0'.toNat) := by
  have hrange : '0'.toNat ≤ c.toNat ∧ c.toNat ≤ '0'.toNat + 9 := by
    simpa [Char.isDigit, UInt32.le_iff_toNat_le] using h
  exact ⟨by omega, '0'.toNat, by decide, by omega⟩

theorem isBlank_of_isDigit {c : Char} (h : c.isDigit = true) : isBlank c = false :=
  (IsDigit.of_isDigit h).isBlank

/-! ## Rows of digits -/

/-- A row of digits and their values: groups of digits, with one underscore between two groups. -/
def IsRow (cs : List Char) (ds : List Nat) : Prop :=
  ∃ groups : List (List Char), groups ≠ [] ∧ [] ∉ groups ∧
    cs = ['_'].intercalate groups ∧ List.Forall₂ IsDigit groups.flatten ds

theorem intercalate_cons_cons (c : Char) (group : List Char) (groups : List (List Char)) :
    ['_'].intercalate ((c :: group) :: groups) = c :: ['_'].intercalate (group :: groups) := by
  cases groups <;> simp [List.intercalate]

theorem intercalate_nil_cons (group : List Char) (groups : List (List Char)) :
    ['_'].intercalate ([] :: group :: groups) = '_' :: ['_'].intercalate (group :: groups) := by
  simp [List.intercalate]

namespace IsRow

variable {c : Char} {d : Nat} {cs : List Char} {ds : List Nat}

theorem one (hc : IsDigit c d) : IsRow [c] [d] :=
  ⟨[[c]], by simp, by simp, rfl, .cons hc .nil⟩

theorem next (hc : IsDigit c d) (h : IsRow cs ds) : IsRow (c :: cs) (d :: ds) := by
  obtain ⟨groups, hne, hfull, rfl, hdigits⟩ := h
  obtain ⟨group, groups, rfl⟩ := List.exists_cons_of_ne_nil hne
  refine ⟨(c :: group) :: groups, by simp, ?_, (intercalate_cons_cons c group groups).symm,
    .cons hc hdigits⟩
  exact List.not_mem_cons_of_ne_of_not_mem (by simp) (List.not_mem_of_not_mem_cons hfull)

theorem mark (hc : IsDigit c d) (h : IsRow cs ds) : IsRow (c :: '_' :: cs) (d :: ds) := by
  obtain ⟨groups, hne, hfull, rfl, hdigits⟩ := h
  obtain ⟨group, groups, rfl⟩ := List.exists_cons_of_ne_nil hne
  refine ⟨[c] :: group :: groups, by simp, List.not_mem_cons_of_ne_of_not_mem (by simp) hfull, ?_,
    .cons hc hdigits⟩
  rw [intercalate_cons_cons, intercalate_nil_cons]

/-- A row is put together from its end: a digit comes in front, with an underscore or without one.
-/
@[elab_as_elim]
theorem digit_induction {motive : ∀ cs ds, IsRow cs ds → Prop}
    (one : ∀ c d (hc : IsDigit c d), motive [c] [d] (.one hc))
    (next : ∀ c d cs ds (hc : IsDigit c d) (h : IsRow cs ds), motive cs ds h →
      motive (c :: cs) (d :: ds) (.next hc h))
    (mark : ∀ c d cs ds (hc : IsDigit c d) (h : IsRow cs ds), motive cs ds h →
      motive (c :: '_' :: cs) (d :: ds) (.mark hc h))
    (h : IsRow cs ds) : motive cs ds h := by
  obtain ⟨groups, hne, hfull, rfl, hdigits⟩ := h
  -- along the groups, and along the characters of the first group
  induction groups generalizing ds with
  | nil => exact absurd rfl hne
  | cons group groups ihgroups =>
    induction group generalizing ds with
    | nil => exact absurd List.mem_cons_self hfull
    | cons c group ihgroup =>
      obtain ⟨d, ds, hc, hrest, rfl⟩ := List.forall₂_cons_left_iff.mp hdigits
      have hgroups := List.not_mem_of_not_mem_cons hfull
      simp only [intercalate_cons_cons]
      cases group with
      | cons e group =>
        have hfull' : [] ∉ (e :: group) :: groups :=
          List.not_mem_cons_of_ne_of_not_mem (by simp) hgroups
        exact next c d _ _ hc _ (ihgroup (List.cons_ne_nil _ _) hfull' hrest)
      | nil =>
        cases groups with
        | nil =>
          obtain rfl := List.forall₂_nil_left_iff.mp hrest
          exact one c d hc
        | cons group groups =>
          simp only [intercalate_nil_cons]
          exact mark c d _ _ hc _ (ihgroups (List.cons_ne_nil _ _) hgroups hrest)

end IsRow

theorem digits?_eq_some_iff {cs : List Char} {ds : List Nat} :
    digits? cs = some ds ↔ IsRow cs ds := by
  constructor
  · intro h
    fun_induction digits? cs generalizing ds with
    | case1 => cases h
    | case2 => cases h
    | case3 c d hc =>
      cases h
      exact .one (digit?_eq_some_iff.mp hc)
    | case4 c d hc more ih =>
      obtain ⟨rest, hrest, rfl⟩ := Option.map_eq_some_iff.mp h
      exact .mark (digit?_eq_some_iff.mp hc) (ih hrest)
    | case5 c d hc more _ _ ih =>
      obtain ⟨rest, hrest, rfl⟩ := Option.map_eq_some_iff.mp h
      exact .next (digit?_eq_some_iff.mp hc) (ih hrest)
  · intro h
    induction h using IsRow.digit_induction with
    | one c d hc => rw [digits?, digit?_eq_some_iff.mpr hc]
    | next c d cs ds hc _ ih =>
      rw [digits?, digit?_eq_some_iff.mpr hc]
      dsimp only
      -- the rest is a row, so it is neither empty nor opened by an underscore
      split
      · cases ih
      · have hmark : digit? '_' = none := by decide
        simp [digits?, hmark] at ih
      · rw [ih]
        rfl
    | mark c d cs ds hc _ ih =>
      rw [digits?, digit?_eq_some_iff.mpr hc]
      exact congrArg (Option.map (d :: ·)) ih

namespace IsRow

variable {cs : List Char} {ds : List Nat}

theorem isBlank (h : IsRow cs ds) : ∀ c ∈ cs, isBlank c = false := by
  induction h using digit_induction with
  | one c d hc => simpa using hc.isBlank
  | next c d cs ds hc _ ih => simpa using ⟨hc.isBlank, ih⟩
  | mark c d cs ds hc _ ih =>
    have hmark : Text.isBlank '_' = false := by decide
    simpa using ⟨hc.isBlank, hmark, ih⟩

theorem le (h : IsRow cs ds) : ∀ d ∈ ds, d ≤ 9 := by
  induction h using digit_induction with
  | one c d hc => simpa using hc.1
  | next c d cs ds hc _ ih => simpa using ⟨hc.1, ih⟩
  | mark c d cs ds hc _ ih => simpa using ⟨hc.1, ih⟩

theorem exists_cons (h : IsRow cs ds) : ∃ c rest d, cs = c :: rest ∧ IsDigit c d := by
  induction h using digit_induction with
  | one c d hc => exact ⟨c, _, d, rfl, hc⟩
  | next c d cs ds hc => exact ⟨c, _, d, rfl, hc⟩
  | mark c d cs ds hc => exact ⟨c, _, d, rfl, hc⟩

theorem of_isDigit (hne : cs ≠ []) (h : ∀ c ∈ cs, c.isDigit = true) :
    IsRow cs (cs.map fun c => c.toNat - '0'.toNat) := by
  refine ⟨[cs], by simp, by simpa using hne.symm, by simp [List.intercalate], ?_⟩
  rw [List.flatten_singleton, List.forall₂_map_right_iff, List.forall₂_same]
  exact fun c hc => .of_isDigit (h c hc)

end IsRow

/-! ## Numerals -/

/-- Digits are weighed by their places, the last one by one. -/
theorem ofDigits_eq (ds : List Nat) : ofDigits ds = Nat.ofDigits 10 ds.reverse := by
  have hstep : (fun n d => 10 * n + d) = fun n d => d + 10 * n := by
    funext n d
    exact Nat.add_comm _ _
  rw [Nat.ofDigits_eq_foldr, List.foldr_reverse, ofDigits, hstep]
  rfl

theorem ofDigits_toDigits (n : Nat) :
    ofDigits ((Nat.toDigits 10 n).map fun c => c.toNat - '0'.toNat) = n := by
  have hfold : ∀ (cs : List Char) (m : Nat),
      (cs.map fun c => c.toNat - '0'.toNat).foldl (fun n d => 10 * n + d) m =
        Nat.ofDigitChars 10 cs m := by
    intro cs
    induction cs with
    | nil => exact fun _ => rfl
    | cons c cs ih =>
      intro m
      rw [List.map_cons, List.foldl_cons, ih, Nat.ofDigitChars_cons]
  rw [ofDigits, hfold, Nat.ofDigitChars_toDigits (by decide) (by decide)]

theorem toList_toString (n : Nat) : (toString n).toList = Nat.toDigits 10 n := by
  simp [Nat.toString_eq_repr]

/-- A number can be written out just if it has at most as many digits as a numeral may have. -/
theorem isWritable_iff {n : Nat} :
    isWritable n = true ↔ (Nat.toDigits 10 n).length ≤ maxDigits := by
  have hpos : 0 < maxDigits := by decide
  simp only [isWritable, decide_eq_true_eq, Int.natAbs_natCast]
  generalize maxDigits = count at hpos ⊢
  exact (Nat.length_toDigits_le_iff (by decide) hpos).symm

theorem isWritable_of_lt {n digits : Nat} (h : n < Nat.pow 10 digits)
    (hdigits : digits ≤ maxDigits) : isWritable n = true := by
  simp only [isWritable, decide_eq_true_eq, Int.natAbs_natCast]
  generalize maxDigits = count at hdigits ⊢
  exact Nat.lt_of_lt_of_le h (Nat.pow_le_pow_right (by decide) hdigits)

/-- A numeral without a sign, and its value: a row of not too many digits, the last one of which
counts ones and each other ten times as much as the one behind it. -/
def IsNumeral (cs : List Char) (n : Nat) : Prop :=
  ∃ ds, IsRow cs ds ∧ ds.length ≤ maxDigits ∧ n = Nat.ofDigits 10 ds.reverse

theorem natural?_eq_some_iff {cs : List Char} {n : Nat} :
    natural? cs = some n ↔ IsNumeral cs n := by
  simp only [natural?, Option.bind_eq_some_iff, Option.ite_none_right_eq_some, Option.some.injEq,
    digits?_eq_some_iff, ofDigits_eq, IsNumeral, eq_comm (a := n)]

theorem isNumeral_toDigits {n : Nat} (h : isWritable n = true) :
    IsNumeral (Nat.toDigits 10 n) n := by
  have hdigits : ∀ c ∈ Nat.toDigits 10 n, c.isDigit = true := fun c hc =>
    Nat.isDigit_of_mem_toDigits (by decide) (by decide) hc
  have hrow := IsRow.of_isDigit Nat.toDigits_ne_nil hdigits
  refine ⟨_, hrow, ?_, ?_⟩
  · rw [List.length_map]
    exact isWritable_iff.mp h
  · rw [← ofDigits_eq, ofDigits_toDigits]

theorem IsNumeral.isWritable {cs : List Char} {n : Nat} (h : IsNumeral cs n) :
    isWritable n = true := by
  obtain ⟨ds, hrow, hlength, rfl⟩ := h
  have hdigits : ∀ d ∈ ds.reverse, d < 10 := fun d hd =>
    Nat.lt_succ_of_le (hrow.le d (List.mem_reverse.mp hd))
  refine isWritable_of_lt (Nat.ofDigits_lt_base_pow_length (by decide) hdigits) ?_
  rwa [List.length_reverse]

theorem IsNumeral.isBlank {cs : List Char} {n : Nat} (h : IsNumeral cs n) :
    ∀ c ∈ cs, isBlank c = false := by
  obtain ⟨ds, hrow, -⟩ := h
  exact hrow.isBlank

theorem IsNumeral.head_ne {c : Char} {cs : List Char} {n : Nat} (h : IsNumeral (c :: cs) n) :
    c ≠ '+' ∧ c ≠ '-' := by
  obtain ⟨ds, hrow, -⟩ := h
  obtain ⟨c, rest, d, hcons, hdigit⟩ := hrow.exists_cons
  cases hcons
  have hsigns : digit? '+' = none ∧ digit? '-' = none := by decide
  rw [← digit?_eq_some_iff] at hdigit
  constructor
  · rintro rfl
    rw [hsigns.1] at hdigit
    cases hdigit
  · rintro rfl
    rw [hsigns.2] at hdigit
    cases hdigit

/-! ## Whole numbers -/

/-- A numeral of a whole number, and its value. -/
inductive Denotes : List Char → Int → Prop
  | unsigned {cs : List Char} {n : Nat} : IsNumeral cs n → Denotes cs n
  | plus {cs : List Char} {n : Nat} : IsNumeral cs n → Denotes ('+' :: cs) n
  | minus {cs : List Char} {n : Nat} : IsNumeral cs n → Denotes ('-' :: cs) (-n)

/-- A text that stands for a whole number: a numeral, but for blanks around it. -/
def StandsFor (text : List Char) (n : Int) : Prop :=
  ∃ front numeral back, text = front ++ numeral ++ back ∧ allBlank front = true ∧
    allBlank back = true ∧ Denotes numeral n

theorem Denotes.isBlank {cs : List Char} {n : Int} (h : Denotes cs n) :
    ∀ c ∈ cs, isBlank c = false := by
  have hplus : Text.isBlank '+' = false := by decide
  have hminus : Text.isBlank '-' = false := by decide
  cases h with
  | unsigned h => exact h.isBlank
  | plus h => simpa using ⟨hplus, h.isBlank⟩
  | minus h => simpa using ⟨hminus, h.isBlank⟩

theorem integer?_eq_some_iff_denotes {cs : List Char} {n : Int} :
    integer? cs = some n ↔ Denotes (trim cs) n := by
  unfold integer?
  generalize trim cs = text
  constructor
  · intro h
    split at h
    · obtain ⟨m, hm, rfl⟩ := Option.map_eq_some_iff.mp h
      exact .plus (natural?_eq_some_iff.mp hm)
    · obtain ⟨_, hcast, rfl⟩ := Option.map_eq_some_iff.mp h
      obtain ⟨m, hm, ⟨⟩⟩ := Option.bind_eq_some_iff.mp hcast
      exact .minus (natural?_eq_some_iff.mp hm)
    · obtain ⟨m, hm, rfl⟩ := Option.map_eq_some_iff.mp h
      exact .unsigned (natural?_eq_some_iff.mp hm)
  · intro h
    cases h with
    | plus h => exact Option.map_eq_some_iff.mpr ⟨_, natural?_eq_some_iff.mpr h, rfl⟩
    | minus h =>
      refine Option.map_eq_some_iff.mpr ⟨_, Option.bind_eq_some_iff.mpr ⟨_, ?_, rfl⟩, rfl⟩
      exact natural?_eq_some_iff.mpr h
    | unsigned h =>
      split
      · exact absurd rfl h.head_ne.1
      · exact absurd rfl h.head_ne.2
      · exact Option.map_eq_some_iff.mpr ⟨_, natural?_eq_some_iff.mpr h, rfl⟩

/-- **What is read** are the texts that stand for a whole number. -/
theorem integer?_eq_some_iff {cs : List Char} {n : Int} :
    integer? cs = some n ↔ StandsFor cs n := by
  rw [integer?_eq_some_iff_denotes]
  constructor
  · intro h
    obtain ⟨front, back, heq, hfront, hback⟩ := exists_trim cs
    exact ⟨front, trim cs, back, heq, hfront, hback, h⟩
  · rintro ⟨front, numeral, back, rfl, hfront, hback, h⟩
    rwa [trim_around hfront hback, trim_eq_self h.isBlank]

theorem standsFor_toDigits {n : Nat} (h : isWritable n = true) {front back : List Char}
    (hfront : allBlank front = true) (hback : allBlank back = true) :
    StandsFor (front ++ Nat.toDigits 10 n ++ back) n :=
  ⟨front, _, back, rfl, hfront, hback, .unsigned (isNumeral_toDigits h)⟩

/-- **A number is read back** from its digits, if there are not too many. -/
theorem integer?_toDigits {n : Nat} (h : isWritable n = true) :
    integer? (Nat.toDigits 10 n) = some (n : Int) := by
  have hself : StandsFor ([] ++ Nat.toDigits 10 n ++ []) n := standsFor_toDigits h rfl rfl
  rwa [List.nil_append, List.append_nil, ← integer?_eq_some_iff] at hself

/-- **What is read can be written out.** -/
theorem isWritable_of_integer? {cs : List Char} {n : Int} (h : integer? cs = some n) :
    isWritable n = true := by
  rw [integer?_eq_some_iff_denotes] at h
  generalize trim cs = text at h
  cases h with
  | unsigned h => exact h.isWritable
  | plus h => exact h.isWritable
  | minus h =>
    have hsize := h.isWritable
    rwa [Text.isWritable, Int.natAbs_neg, ← Text.isWritable]

end SqlDesk.Text
