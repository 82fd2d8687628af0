/-
A string in double quotes is read back as it was written.

Every character is either itself, or a letter after a backslash, or four digits after `\u`; what is
written for it takes the machine from between characters back to there (`readBasic_escapeChar`). No
quote stands inside, so the closing one is found, and no carriage return, so the line ends of a file
stay what they are.
-/
import SqlDesk.Toml.Text

namespace SqlDesk.Toml

theorem hexDigit?_digitChar : ∀ d < 16, hexDigit? (Nat.digitChar d) = some d := by
  decide

theorem toNat_lt_of_isControl {c : Char} (h : isControl c = true) : c.toNat < 128 := by
  simp only [isControl, Bool.or_eq_true, Bool.and_eq_true, decide_eq_true_eq] at h
  omega

theorem readBasic_hexDigit {d : Nat} (hd : d < 16) (multiline : Bool) (left code : Nat)
    (rest : List Char) :
    readBasic multiline (.hex (left + 2) code) (Nat.digitChar d :: rest) =
      readBasic multiline (.hex (left + 1) (16 * code + d)) rest := by
  have hdigit := hexDigit?_digitChar d hd
  simp only [readBasic, hdigit]
  rw [if_pos (by omega)]
  rfl

theorem readBasic_code {n : Nat} (h : n < 0xD800) (multiline : Bool) (rest : List Char) :
    readBasic multiline (.hex 4 0) (Text.hexDigits 4 n ++ rest) =
      (readBasic multiline (.text false) rest).cons (Char.ofNat n) := by
  have hlt : ∀ m, m % 16 < 16 := fun m => Nat.mod_lt m (by decide)
  have hdigits : Text.hexDigits 4 n ++ rest = Nat.digitChar (n / 16 / 16 / 16 % 16) ::
      Nat.digitChar (n / 16 / 16 % 16) :: Nat.digitChar (n / 16 % 16) ::
      Nat.digitChar (n % 16) :: rest := rfl
  have hlast := hexDigit?_digitChar (n % 16) (hlt n)
  have hcode : 16 * (16 * (16 * (16 * 0 + n / 16 / 16 / 16 % 16) + n / 16 / 16 % 16) +
      n / 16 % 16) + n % 16 = n := by omega
  have hscalar : isScalar n = true := by simp [isScalar, h]
  rw [hdigits, readBasic_hexDigit (hlt _), readBasic_hexDigit (hlt _), readBasic_hexDigit (hlt _)]
  simp only [readBasic, hlast, hcode, hscalar]
  rfl

/-- What is written for a character is read as the character. -/
theorem readBasic_escapeChar (c : Char) (rest : List Char) :
    readBasic false (.text false) (escapeChar c ++ rest) =
      (readBasic false (.text false) rest).cons c := by
  simp only [escapeChar]
  split
  · next letter hletter =>
    simp only [shortEscape?] at hletter
    split at hletter <;> cases hletter <;> rfl
  · next hshort =>
    have hquote : c ≠ '"' := by
      rintro rfl
      cases hshort
    have hslash : c ≠ '\\' := by
      rintro rfl
      cases hshort
    split
    · next hcontrol =>
      have hlt := toNat_lt_of_isControl hcontrol
      have hcode := readBasic_code (show c.toNat < 0xD800 by omega) false rest
      rw [Char.ofNat_toNat] at hcode
      exact hcode
    · next hcontrol => simp [readBasic, hquote, hslash, hcontrol]

/-- A string in double quotes is read up to its closing quote. -/
theorem readBasic_escape (cs rest : List Char) :
    readBasic false (.text false) (cs.flatMap escapeChar ++ '"' :: rest) = .ok (cs, rest) := by
  induction cs with
  | nil => rfl
  | cons c cs ih =>
    rw [List.flatMap_cons, List.append_assoc, readBasic_escapeChar, ih]
    rfl

theorem escapeChar_head (c : Char) : ∃ d more, escapeChar c = d :: more ∧ d ≠ '"' := by
  simp only [escapeChar]
  split
  · exact ⟨_, _, rfl, by decide⟩
  · next hshort =>
    split
    · exact ⟨_, _, rfl, by decide⟩
    · refine ⟨c, [], rfl, ?_⟩
      rintro rfl
      cases hshort

/-- **A string is read back**, if no quote follows the closing one. -/
theorem readQuoted_escape (cs rest : List Char) (h : rest.head? ≠ some '"') :
    readQuoted (cs.flatMap escapeChar ++ '"' :: rest) = .ok (cs, rest) := by
  rw [← readBasic_escape cs rest, readQuoted]
  rintro after heq
  cases cs with
  | nil =>
    simp only [List.flatMap_nil, List.nil_append, List.cons.injEq, true_and] at heq
    exact h (by rw [heq]; rfl)
  | cons c cs =>
    obtain ⟨d, more, hd, hne⟩ := escapeChar_head c
    simp only [List.flatMap_cons, hd, List.cons_append, List.cons.injEq] at heq
    exact hne heq.1

theorem not_mem_escapeChar (c : Char) : '\r' ∉ escapeChar c := by
  simp only [escapeChar]
  split
  · next letter hletter =>
    simp only [shortEscape?] at hletter
    split at hletter <;> cases hletter <;> decide
  · next hshort =>
    have hreturn : c ≠ '\r' := by
      rintro rfl
      cases hshort
    split
    · have hdigits : ∀ d, '\r' ≠ Nat.digitChar d := fun d => (Nat.digitChar_ne _ (by decide)).symm
      simp [Text.hexDigits, hdigits]
    · simpa using hreturn.symm

theorem not_mem_escape (cs : List Char) : '\r' ∉ escape cs := by
  simp [escape, not_mem_escapeChar]

end SqlDesk.Toml
