/-
Lines of a file: what is written for an entry, and for the header of a table, is read back.

The values are those that settings have: strings, natural numbers and truth values (`IsPlain`). A key
is read back from what is written for it whether it needs quotes or not, and a path of keys from
their texts with dots in between.
-/
import SqlDesk.Toml.Writer
import SqlDesk.Proofs.Toml.Text
import SqlDesk.Proofs.Toml.Number
import SqlDesk.Proofs.Toml.Table

namespace SqlDesk.Toml

theorem skipSpaces_cons {c : Char} (h : isSpace c = false) (cs : List Char) :
    skipSpaces (c :: cs) = c :: cs := by
  simp [skipSpaces, h]

/-! ## Keys -/

/-- Whether a text can begin a key. -/
def StartsKey (cs : List Char) : Prop :=
  ∃ c more, cs = c :: more ∧ (isBare c = true ∨ c = '"')

theorem StartsKey.append {cs : List Char} (h : StartsKey cs) (rest : List Char) :
    StartsKey (cs ++ rest) := by
  obtain ⟨c, more, rfl, hc⟩ := h
  exact ⟨c, more ++ rest, rfl, hc⟩

theorem StartsKey.skipSpaces {cs : List Char} (h : StartsKey cs) : skipSpaces cs = cs := by
  obtain ⟨c, more, rfl, hc⟩ := h
  refine skipSpaces_cons (Bool.eq_false_iff.mpr fun hspace => ?_) more
  simp only [isSpace, Bool.or_eq_true, decide_eq_true_eq] at hspace
  rcases hspace with rfl | rfl <;> simp [isBare, isDecimal] at hc

theorem isBareKey_eq (key : List Char) : isBareKey key = (!key.isEmpty && key.all isBare) := rfl

theorem startsKey_keyText (key : String) : StartsKey (keyText key) := by
  simp only [keyText]
  split
  · next hbare =>
    rw [isBareKey_eq, Bool.and_eq_true, Bool.not_eq_true', List.isEmpty_eq_false_iff,
      List.all_eq_true] at hbare
    obtain ⟨c, more, hkey⟩ := List.exists_cons_of_ne_nil hbare.1
    exact ⟨c, more, hkey, .inl (hbare.2 c (hkey ▸ List.mem_cons_self))⟩
  · exact ⟨'"', _, rfl, .inr rfl⟩

/-- A text after a key: nothing in front of it could belong to the key. -/
def EndsKey (rest : List Char) : Prop :=
  ∃ c more, rest = c :: more ∧ isBare c = false

/-- **A key is read back.** -/
theorem readKeyPart_keyText (key : String) {rest : List Char} (h : EndsKey rest) :
    readKeyPart (keyText key ++ rest) = .ok (key, rest) := by
  obtain ⟨d, after, rfl, hd⟩ := h
  simp only [keyText]
  split
  · next hbare =>
    rw [isBareKey_eq, Bool.and_eq_true, Bool.not_eq_true', List.isEmpty_eq_false_iff,
      List.all_eq_true] at hbare
    have htake : (key.toList ++ d :: after).takeWhile isBare = key.toList := by
      rw [List.takeWhile_append_of_pos hbare.2, List.takeWhile_cons_of_neg (by simp [hd]),
        List.append_nil]
    have hdrop : (key.toList ++ d :: after).dropWhile isBare = d :: after := by
      rw [List.dropWhile_append_of_pos hbare.2, List.dropWhile_cons_of_neg (by simp [hd])]
    obtain ⟨c, more, hkey⟩ := List.exists_cons_of_ne_nil hbare.1
    have hc : isBare c = true := hbare.2 c (hkey ▸ List.mem_cons_self)
    rw [hkey, List.cons_append] at htake hdrop ⊢
    simp only [readKeyPart, hc, if_true, htake, hdrop]
    rw [← hkey, String.ofList_toList]
  · have hquote : isBare '"' = false := by decide
    have hread := readBasic_escape key.toList (d :: after)
    simp only [escape, List.cons_append, List.append_assoc, List.nil_append, readKeyPart, hquote,
      hread, Bool.false_eq_true, if_false, if_true, Except.map, String.ofList_toList]

/-- The keys of a path with dots in between. -/
def dotted : List String → List Char
  | [] => []
  | [key] => keyText key
  | key :: path => keyText key ++ '.' :: dotted path

theorem startsKey_dotted (key : String) (path : List String) : StartsKey (dotted (key :: path)) := by
  cases path with
  | nil => exact startsKey_keyText key
  | cons next path => exact (startsKey_keyText key).append _

theorem length_le_dotted (path : List String) : path.length ≤ (dotted path).length := by
  have hkey : ∀ key, 0 < (keyText key).length := fun key => by
    obtain ⟨c, more, hcons, -⟩ := startsKey_keyText key
    simp [hcons]
  induction path with
  | nil => simp
  | cons key path ih =>
    cases path with
    | nil => exact hkey key
    | cons next path =>
      have := hkey key
      simp only [dotted, List.length_cons, List.length_append] at ih ⊢
      omega

theorem readKey_fuel (key : String) (path : List String) {fuel : Nat} (hfuel : path.length < fuel)
    {rest : List Char} (h : EndsKey rest) (hdot : (skipSpaces rest).head? ≠ some '.') :
    readKey fuel (dotted (key :: path) ++ rest) = .ok (key :: path, skipSpaces rest) := by
  induction path generalizing key fuel with
  | nil =>
    obtain ⟨fuel, rfl⟩ : ∃ n, fuel = n + 1 := ⟨fuel - 1, by omega⟩
    simp only [dotted, readKey, readKeyPart_keyText key h]
    split
    · next hskip => simp [hskip] at hdot
    · rfl
  | cons next path ih =>
    obtain ⟨fuel, rfl⟩ : ∃ n, fuel = n + 1 := ⟨fuel - 1, by omega⟩
    rw [List.length_cons] at hfuel
    have hends : EndsKey ('.' :: (dotted (next :: path) ++ rest)) := ⟨_, _, rfl, by decide⟩
    have hspace : isSpace '.' = false := by decide
    have hmore := ((startsKey_dotted next path).append rest).skipSpaces
    have hread : readKey fuel (dotted (next :: path) ++ rest) =
        .ok (next :: path, skipSpaces rest) := ih next (by omega)
    simp only [dotted, List.append_assoc, List.cons_append, readKey, readKeyPart_keyText key hends,
      skipSpaces_cons hspace, hmore, hread]
    rfl

/-- **A path is read back.** The length of the text is fuel enough for its keys. -/
theorem readKey_dotted (key : String) (path : List String) {rest : List Char} (h : EndsKey rest)
    (hdot : (skipSpaces rest).head? ≠ some '.') :
    readKey (dotted (key :: path) ++ rest).length (dotted (key :: path) ++ rest) =
      .ok (key :: path, skipSpaces rest) := by
  refine readKey_fuel key path ?_ h hdot
  have := length_le_dotted (key :: path)
  rw [List.length_cons] at this
  rw [List.length_append]
  omega

/-! ## Values -/

/-- The values of settings: strings, natural numbers and truth values. -/
inductive Value.IsPlain : Value → Prop
  | string (text : String) : IsPlain (.string text)
  | natural (n : Nat) : IsPlain (.integer n)
  | boolean (truth : Bool) : IsPlain (.boolean truth)

theorem Value.IsPlain.isSection {value : Value} (h : value.IsPlain) : isSection value = false := by
  cases h <;> rfl

theorem Value.IsPlain.isCompound {value : Value} (h : value.IsPlain) : value.isCompound = false := by
  cases h <;> rfl

theorem toDigits_cons (n : Nat) : ∃ c more, Nat.toDigits 10 n = c :: more ∧ isDecimal c = true := by
  obtain ⟨c, more, hdigits⟩ := List.exists_cons_of_ne_nil (Nat.toDigits_ne_nil (n := n) (b := 10))
  exact ⟨c, more, hdigits, isDecimal_of_mem (hdigits ▸ List.mem_cons_self)⟩

theorem readScalar_toDigits {n : Nat} (h : Text.isWritable n = true) (rest : List Char) :
    readScalar (Nat.toDigits 10 n ++ '\n' :: rest) = .ok (.integer n, '\n' :: rest) := by
  have hnumber := readNumber_toDigits h rest
  have hmoment := readMoment?_toDigits n rest
  obtain ⟨c, more, hdigits, hc⟩ := toDigits_cons n
  have hne : ∀ d, isDecimal d = false → d ≠ c := by
    rintro d hd rfl
    rw [hc] at hd
    cases hd
  rw [hdigits, List.cons_append] at hnumber hmoment ⊢
  rw [readScalar]
  · simp [keyword?, hne 't' (by decide), hne 'f' (by decide), hmoment, hnumber]
  · rintro _ ⟨⟩
    exact hne '"' (by decide) rfl
  · rintro _ ⟨⟩
    exact hne '\'' (by decide) rfl

/-- A text that begins like a plain value: neither a space nor a bracket stands in front. -/
def StartsScalar (cs : List Char) : Prop :=
  ∃ c more, cs = c :: more ∧ isSpace c = false ∧ c ≠ '[' ∧ c ≠ '\x7b'

theorem StartsScalar.readValue {cs : List Char} (h : StartsScalar cs) (fuel : Nat) :
    readValue (fuel + 1) (skipSpaces cs) = readScalar cs := by
  obtain ⟨c, more, rfl, hspace, hbracket, hbrace⟩ := h
  rw [skipSpaces_cons hspace, Toml.readValue]
  · rintro _ ⟨⟩
    exact hbracket rfl
  · rintro _ ⟨⟩
    exact hbrace rfl

/-- **A value is read back**, up to the end of its line. -/
theorem readValue_valueText {value : Value} (hplain : value.IsPlain) {text : List Char}
    (htext : valueText 0 value = .ok text) (fuel : Nat) (rest : List Char) :
    readValue (fuel + 1) (skipSpaces (text ++ '\n' :: rest)) = .ok (value, '\n' :: rest) := by
  cases hplain with
  | string s =>
    simp only [valueText, Except.ok.injEq] at htext
    subst htext
    have hstart : StartsScalar (escape s.toList ++ '\n' :: rest) :=
      ⟨'"', _, rfl, by decide, by decide, by decide⟩
    have hread := readQuoted_escape s.toList ('\n' :: rest) (by simp)
    rw [hstart.readValue]
    simp [escape, readScalar, hread, Except.map]
  | natural n =>
    simp only [valueText] at htext
    split at htext
    · next hwritable =>
      have hdigits : integerText n = Nat.toDigits 10 n := rfl
      rw [Except.ok.injEq, hdigits] at htext
      subst htext
      have hstart : StartsScalar (Nat.toDigits 10 n ++ '\n' :: rest) := by
        obtain ⟨c, more, hcons, hc⟩ := toDigits_cons n
        refine ⟨c, more ++ '\n' :: rest, by rw [hcons, List.cons_append], ?_, ?_, ?_⟩
        · refine Bool.eq_false_iff.mpr fun hspace => ?_
          simp only [isSpace, Bool.or_eq_true, decide_eq_true_eq] at hspace
          rcases hspace with rfl | rfl <;> cases hc
        · rintro rfl
          cases hc
        · rintro rfl
          cases hc
      rw [hstart.readValue, readScalar_toDigits hwritable]
    · cases htext
  | boolean truth =>
    cases truth <;> simp only [valueText, Except.ok.injEq] at htext <;> subst htext <;> rfl

end SqlDesk.Toml
