/-
A natural number at the end of a line is read back as it was written.

Its digits are all decimal, and the first one is no zero unless it is the only one. No point,
exponent, dash or colon follows them, so they are neither a fraction nor a date or a time of day.
-/
import SqlDesk.Toml.Number
import SqlDesk.Proofs.Text.Numeral

namespace SqlDesk.Toml

/-! ## Digits -/

theorem isDecimal_of_isDigit {c : Char} (h : c.isDigit = true) : isDecimal c = true := by
  simpa [isDecimal, Char.isDigit, Char.le_def] using h

theorem isDecimal_of_mem {n : Nat} {c : Char} (h : c ∈ Nat.toDigits 10 n) : isDecimal c = true :=
  isDecimal_of_isDigit (Nat.isDigit_of_mem_toDigits (by decide) (by decide) h)

theorem hexDigit?_of_isDecimal {c : Char} (h : isDecimal c = true) :
    hexDigit? c = some (c.toNat - '0'.toNat) := by
  simp only [isDecimal] at h
  simp only [hexDigit?, h, if_true]

/-- The digits of a number denote it. -/
theorem numberIn_toDigits (n : Nat) : numberIn 10 (Nat.toDigits 10 n) = n := by
  have hfold : ∀ (cs : List Char) (m : Nat), (∀ c ∈ cs, isDecimal c = true) →
      cs.foldl (fun n c => 10 * n + (hexDigit? c).getD 0) m = Nat.ofDigitChars 10 cs m := by
    intro cs
    induction cs with
    | nil => simp
    | cons c cs ih =>
      intro m h
      rw [List.foldl_cons, Nat.ofDigitChars_cons, ih _ fun d hd => h d (List.mem_cons_of_mem _ hd),
        hexDigit?_of_isDecimal (h c List.mem_cons_self), Option.getD_some]
  rw [numberIn, hfold _ 0 fun _ => isDecimal_of_mem,
    Nat.ofDigitChars_toDigits (by decide) (by decide)]

theorem toDigits_head {n : Nat} (h : 0 < n) : ∃ c more, Nat.toDigits 10 n = c :: more ∧ c ≠ '0' := by
  induction n using Nat.strongRecOn with
  | ind n ih =>
    by_cases hsmall : n < 10
    · refine ⟨Nat.digitChar n, [], Nat.toDigits_of_lt_base hsmall, ?_⟩
      simp only [ne_eq, Nat.digitChar_eq_zero]
      omega
    · obtain ⟨c, more, htens, hc⟩ := ih (n / 10) (by omega) (by omega)
      refine ⟨c, more ++ [Nat.digitChar (n % 10)], ?_, hc⟩
      rw [Nat.toDigits_of_base_le (by decide) (by omega), htens]
      rfl

/-! ## Numbers -/

theorem digitTail_append {ds : List Char} (h : ∀ c ∈ ds, isDecimal c = true) (rest : List Char) :
    digitTail isDecimal (ds ++ '\n' :: rest) = (ds, '\n' :: rest) := by
  induction ds with
  | nil => rfl
  | cons c ds ih =>
    have hc := h c List.mem_cons_self
    have hne : c ≠ '_' := by
      rintro rfl
      cases hc
    rw [List.cons_append, digitTail]
    · simp only [hc, if_true, ih fun d hd => h d (List.mem_cons_of_mem _ hd)]
    · exact fun _ _ he => absurd he hne

theorem wholePart_toDigits (n : Nat) (rest : List Char) :
    wholePart (Nat.toDigits 10 n ++ '\n' :: rest) = (Nat.toDigits 10 n, '\n' :: rest) := by
  by_cases hzero : n = 0
  · subst hzero
    rfl
  · obtain ⟨c, more, hdigits, hne⟩ := toDigits_head (Nat.pos_of_ne_zero hzero)
    have hall : ∀ d ∈ c :: more, isDecimal d = true := fun _ hd => isDecimal_of_mem (hdigits ▸ hd)
    rw [hdigits, List.cons_append, wholePart, digitRun]
    · simp only [hall c List.mem_cons_self, if_true,
        digitTail_append fun d hd => hall d (List.mem_cons_of_mem _ hd)]
    · simp [hne]

theorem sign_toDigits (n : Nat) (rest : List Char) :
    sign (Nat.toDigits 10 n ++ rest) = ([], Nat.toDigits 10 n ++ rest) := by
  obtain ⟨c, more, hdigits⟩ := List.exists_cons_of_ne_nil (Nat.toDigits_ne_nil (n := n) (b := 10))
  have hc : isDecimal c = true := isDecimal_of_mem (hdigits ▸ List.mem_cons_self)
  rw [hdigits, List.cons_append, sign]
  · rintro _ ⟨⟩
    cases hc
  · rintro _ ⟨⟩
    cases hc

theorem readDecimal_toDigits {n : Nat} (h : Text.isWritable n = true) (rest : List Char) :
    readDecimal (Nat.toDigits 10 n ++ '\n' :: rest) = .ok (.integer n, '\n' :: rest) := by
  have hlength := Text.isWritable_iff.mp h
  have hnumber := numberIn_toDigits n
  simp only [readDecimal, sign_toDigits, wholePart_toDigits]
  obtain ⟨c, more, hdigits⟩ := List.exists_cons_of_ne_nil (Nat.toDigits_ne_nil (n := n) (b := 10))
  rw [hdigits] at hlength hnumber ⊢
  have hfits : ¬ Text.maxDigits < (c :: more).length := Nat.not_lt.mpr hlength
  simp only [fractionPart, exponentPart, hfits, if_false, hnumber]
  rfl

/-- **A natural number is read back.** -/
theorem readNumber_toDigits {n : Nat} (h : Text.isWritable n = true) (rest : List Char) :
    readNumber (Nat.toDigits 10 n ++ '\n' :: rest) = .ok (.integer n, '\n' :: rest) := by
  rw [← readDecimal_toDigits h rest]
  by_cases hzero : n = 0
  · subst hzero
    rfl
  · obtain ⟨c, more, hdigits, hne⟩ := toDigits_head (Nat.pos_of_ne_zero hzero)
    rw [hdigits]
    simp [readNumber, hne]

/-! ## Neither a date nor a time of day -/

/-- A text of decimal digits up to a line end. -/
def IsDigitLine (cs : List Char) : Prop :=
  ∃ ds rest, cs = ds ++ '\n' :: rest ∧ ∀ c ∈ ds, isDecimal c = true

theorem IsDigitLine.fixedDigits? {cs after : List Char} (h : IsDigitLine cs) {count number : Nat}
    (hdigits : fixedDigits? count cs = some (number, after)) : IsDigitLine after := by
  obtain ⟨ds, rest, rfl, hall⟩ := h
  simp only [Toml.fixedDigits?, Option.ite_none_right_eq_some, Bool.and_eq_true, decide_eq_true_eq,
    Option.some.injEq, Prod.mk.injEq] at hdigits
  obtain ⟨⟨hcount, htaken⟩, -, rfl⟩ := hdigits
  by_cases hle : count ≤ ds.length
  · refine ⟨ds.drop count, rest, ?_, fun c hc => hall c (List.mem_of_mem_drop hc)⟩
    rw [List.drop_append_of_le_length hle]
  · -- the line end would be one of the digits
    have hend : '\n' ∈ (ds ++ '\n' :: rest).take count := by
      rw [List.take_append, List.take_cons (by omega)]
      simp
    have := List.all_eq_true.mp htaken _ hend
    cases this

theorem IsDigitLine.expect? {cs : List Char} (h : IsDigitLine cs) {c : Char}
    (hc : isDecimal c = false) (hend : c ≠ '\n') : expect? c cs = none := by
  obtain ⟨ds, rest, rfl, hall⟩ := h
  cases ds with
  | nil => simp [Toml.expect?, hend.symm]
  | cons d ds =>
    have hd : d ≠ c := by
      rintro rfl
      rw [hall _ List.mem_cons_self] at hc
      cases hc
    simp [Toml.expect?, hd]

theorem readMoment?_of_isDigitLine {cs : List Char} (h : IsDigitLine cs) :
    readMoment? cs = none := by
  have hdate : date? cs = none := by
    simp only [date?]
    cases hyear : Toml.fixedDigits? 4 cs with
    | none => rfl
    | some year =>
      have hnone := (h.fixedDigits? hyear).expect? (c := '-') (by decide) (by decide)
      simp [hnone]
  have htime : dropTime? cs = none := by
    simp only [dropTime?]
    cases hhour : Toml.fixedDigits? 2 cs with
    | none => rfl
    | some hour =>
      have hnone := (h.fixedDigits? hhour).expect? (c := ':') (by decide) (by decide)
      simp [hnone]
  simp only [readMoment?, hdate, htime]

theorem readMoment?_toDigits (n : Nat) (rest : List Char) :
    readMoment? (Nat.toDigits 10 n ++ '\n' :: rest) = none :=
  readMoment?_of_isDigitLine ⟨_, _, rfl, fun _ => isDecimal_of_mem⟩

end SqlDesk.Toml
