/-
Decoding undoes encoding, and encoding undoes decoding.

The bytes of a character take the decoder from between two characters back to there. How many bytes
are due, and in which range the second one has to lie, depends on the first: `lead?_two`,
`lead?_three` and `lead?_four` say that the first byte of a character asks for just the bytes that
follow it. The other way round, `Lead` says what a first byte that is accepted leaves open, and
`between_cons_eq_ok` that a text can only be decoded by the bytes of one character after another.
-/
import SqlDesk.Text.Utf8

namespace SqlDesk.Text.Utf8

theorem toNat_cases (c : Char) : c.toNat < 0xD800 ∨ 0xDFFF < c.toNat ∧ c.toNat < 0x110000 := by
  have h := c.valid
  simp only [UInt32.isValidChar, Nat.isValidChar] at h
  exact h

theorem toNat_toUInt8 {n : Nat} (h : n < 256) : n.toUInt8.toNat = n := by
  simp only [Nat.toUInt8, UInt8.toNat_ofNat']
  omega

/-! ## First bytes -/

theorem lead?_one {n : Nat} (h : n < 0x80) : lead? n.toUInt8 = some (0, 0x80, 0xBF, n) := by
  simp only [lead?, toNat_toUInt8 (show n < 256 by omega), if_pos h]

theorem lead?_two {n : Nat} (hlow : 0x80 ≤ n) (hhigh : n < 0x800) :
    lead? (0xC0 + n / 64).toUInt8 = some (1, 0x80, 0xBF, n / 64) := by
  have hbyte : 0xC0 + n / 64 < 256 := by omega
  simp only [lead?, toNat_toUInt8 hbyte]
  rw [if_neg (by omega), if_neg (by omega), if_pos (by omega)]
  simp

theorem lead?_three {n : Nat} (hlow : 0x800 ≤ n) (hhigh : n < 0x10000)
    (hscalar : n < 0xD800 ∨ 0xDFFF < n) :
    ∃ low high, lead? (0xE0 + n / 4096).toUInt8 = some (2, low, high, n / 4096) ∧
      low ≤ 0x80 + n / 64 % 64 ∧ 0x80 + n / 64 % 64 ≤ high := by
  have hbyte : 0xE0 + n / 4096 < 256 := by omega
  simp only [lead?, toNat_toUInt8 hbyte]
  rw [if_neg (by omega), if_neg (by omega), if_neg (by omega)]
  by_cases hfirst : n / 4096 = 0
  · exact ⟨0xA0, 0xBF, by simp [hfirst], by omega, by omega⟩
  rw [if_neg (by omega)]
  by_cases hsurrogate : n / 4096 = 0xD
  · exact ⟨0x80, 0x9F, by simp [hsurrogate], by omega, by omega⟩
  refine ⟨0x80, 0xBF, ?_, by omega, by omega⟩
  rw [if_neg (by omega), if_pos (by omega)]
  simp

theorem lead?_four {n : Nat} (hlow : 0x10000 ≤ n) (hhigh : n < 0x110000) :
    ∃ low high, lead? (0xF0 + n / 262144).toUInt8 = some (3, low, high, n / 262144) ∧
      low ≤ 0x80 + n / 4096 % 64 ∧ 0x80 + n / 4096 % 64 ≤ high := by
  have hbyte : 0xF0 + n / 262144 < 256 := by omega
  simp only [lead?, toNat_toUInt8 hbyte]
  rw [if_neg (by omega), if_neg (by omega), if_neg (by omega), if_neg (by omega), if_neg (by omega),
    if_neg (by omega)]
  by_cases hfirst : n / 262144 = 0
  · exact ⟨0x90, 0xBF, by simp [hfirst], by omega, by omega⟩
  rw [if_neg (by omega)]
  by_cases hlast : n / 262144 = 4
  · exact ⟨0x80, 0x8F, by simp [hlast], by omega, by omega⟩
  refine ⟨0x80, 0xBF, ?_, by omega, by omega⟩
  rw [if_pos (by omega)]
  simp

/-! ## Steps of the decoder -/

theorem decodeFrom_lead {b : UInt8} {missing low high bits : Nat}
    (h : lead? b = some (missing + 1, low, high, bits)) (position : Nat) (rest : List UInt8) :
    decodeFrom .between position (b :: rest) =
      decodeFrom (.inside position b 1 (missing + 1) low high bits) (position + 1) rest := by
  simp only [decodeFrom, h]

theorem decodeFrom_inside {byte low high : Nat} (hlow : low ≤ byte) (hhigh : byte ≤ high)
    (hbyte : byte < 256) (start : Nat) (first : UInt8) (seen left bits position : Nat)
    (rest : List UInt8) :
    decodeFrom (.inside start first seen (left + 2) low high bits) position
        (byte.toUInt8 :: rest) =
      decodeFrom (.inside start first (seen + 1) (left + 1) 0x80 0xBF (64 * bits + (byte - 0x80)))
        (position + 1) rest := by
  simp [decodeFrom, toNat_toUInt8 hbyte, hlow, hhigh]

theorem decodeFrom_last {byte low high : Nat} (hlow : low ≤ byte) (hhigh : byte ≤ high)
    (hbyte : byte < 256) (start : Nat) (first : UInt8) (seen bits position : Nat)
    (rest : List UInt8) :
    decodeFrom (.inside start first seen 1 low high bits) position (byte.toUInt8 :: rest) =
      (decodeFrom .between (position + 1) rest).map
        (Char.ofNat (64 * bits + (byte - 0x80)) :: ·) := by
  simp [decodeFrom, toNat_toUInt8 hbyte, hlow, hhigh]

/-! ## Texts -/

/-- The bytes of a character give the character. -/
theorem decodeFrom_encodeChar (c : Char) (position : Nat) (rest : List UInt8) :
    ∃ position', decodeFrom .between position (encodeChar c ++ rest) =
      (decodeFrom .between position' rest).map (c :: ·) := by
  have hscalar := toNat_cases c
  have hchar : ∀ code : Nat, code = c.toNat → Char.ofNat code = c := by
    rintro code rfl
    exact Char.ofNat_toNat c
  simp only [encodeChar]
  split
  · next hone =>
    refine ⟨position + 1, ?_⟩
    simp only [List.singleton_append, decodeFrom, lead?_one hone, Char.ofNat_toNat]
  split
  · next hone htwo =>
    refine ⟨position + 2, ?_⟩
    rw [List.cons_append, decodeFrom_lead (lead?_two (by omega) htwo), List.singleton_append,
      decodeFrom_last (by omega) (by omega) (by omega), hchar _ (by omega)]
  split
  · next hone htwo hthree =>
    obtain ⟨low, high, hlead, hlow, hhigh⟩ :=
      lead?_three (n := c.toNat) (by omega) hthree (by omega)
    refine ⟨position + 3, ?_⟩
    rw [List.cons_append, decodeFrom_lead hlead, List.cons_append,
      decodeFrom_inside hlow hhigh (by omega), List.singleton_append,
      decodeFrom_last (by omega) (by omega) (by omega), hchar _ (by omega)]
  · obtain ⟨low, high, hlead, hlow, hhigh⟩ := lead?_four (n := c.toNat) (by omega) (by omega)
    refine ⟨position + 4, ?_⟩
    rw [List.cons_append, decodeFrom_lead hlead, List.cons_append,
      decodeFrom_inside hlow hhigh (by omega), List.cons_append,
      decodeFrom_inside (by omega) (by omega) (by omega), List.singleton_append,
      decodeFrom_last (by omega) (by omega) (by omega), hchar _ (by omega)]

/-- **Decoding undoes encoding**, for every text. -/
theorem decode_encode (cs : List Char) : decode (encode cs) = .ok cs := by
  have hfrom : ∀ position, decodeFrom .between position (encode cs) = .ok cs := by
    induction cs with
    | nil => exact fun _ => rfl
    | cons c rest ih =>
      intro position
      obtain ⟨position', h⟩ := decodeFrom_encodeChar c position (encode rest)
      rw [encode, List.flatMap_cons, ← encode, h, ih]
      rfl
  exact hfrom 0

/-- Bytes that are not decoded are those of no text. -/
theorem encode_ne_of_decode {bytes : List UInt8} {flaw : Malformed}
    (h : decode bytes = .error flaw) (cs : List Char) : encode cs ≠ bytes := by
  rintro rfl
  rw [decode_encode] at h
  cases h

/-! ## What is decoded -/

/-- The bits that a first byte adds, and the range that the second byte has to lie in, if there is
one: it leaves out what could have been said in fewer bytes, surrogates, and what is too large. -/
inductive Lead (b : UInt8) : Nat → Nat → Nat → Nat → Prop
  | one {bits low high : Nat} (hbits : bits < 0x80) (hb : b.toNat = bits) : Lead b 0 low high bits
  | two {bits : Nat} (hlow : 2 ≤ bits) (hhigh : bits < 0x20) (hb : b.toNat = 0xC0 + bits) :
      Lead b 1 0x80 0xBF bits
  | three {bits low high : Nat} (hbits : bits < 0x10) (hb : b.toNat = 0xE0 + bits)
      (hlow : 0x80 ≤ low) (hhigh : high ≤ 0xBF) (hshort : bits = 0 → 0xA0 ≤ low)
      (hsurrogate : bits = 0xD → high ≤ 0x9F) : Lead b 2 low high bits
  | four {bits low high : Nat} (hbits : bits < 5) (hb : b.toNat = 0xF0 + bits)
      (hlow : 0x80 ≤ low) (hhigh : high ≤ 0xBF) (hshort : bits = 0 → 0x90 ≤ low)
      (hlarge : bits = 4 → high ≤ 0x8F) : Lead b 3 low high bits

theorem lead_of_lead? {b : UInt8} {missing low high bits : Nat}
    (h : lead? b = some (missing, low, high, bits)) : Lead b missing low high bits := by
  have hb : b.toNat < 256 := b.toNat_lt
  revert h
  fun_cases lead? b
  all_goals
    intro h
    simp only [Option.some.injEq, Prod.mk.injEq, reduceCtorEq] at h
  all_goals obtain ⟨rfl, rfl, rfl, rfl⟩ := h
  · exact .one (by omega) rfl
  · exact .two (by omega) (by omega) (by omega)
  · exact .three (by omega) (by omega) (by omega) (by omega) (by omega) (by omega)
  · exact .three (by omega) (by omega) (by omega) (by omega) (by omega) (by omega)
  · exact .three (by omega) (by omega) (by omega) (by omega) (by omega) (by omega)
  · exact .four (by omega) (by omega) (by omega) (by omega) (by omega) (by omega)
  · exact .four (by omega) (by omega) (by omega) (by omega) (by omega) (by omega)
  · exact .four (by omega) (by omega) (by omega) (by omega) (by omega) (by omega)

theorem between_eq_ok {b : UInt8} {rest : List UInt8} {position : Nat} {cs : List Char}
    (h : decodeFrom .between position (b :: rest) = .ok cs) :
    ∃ missing low high bits, Lead b missing low high bits ∧
      if missing = 0 then ∃ more, decodeFrom .between (position + 1) rest = .ok more ∧
        cs = Char.ofNat bits :: more
      else
        decodeFrom (.inside position b 1 missing low high bits) (position + 1) rest = .ok cs := by
  simp only [decodeFrom] at h
  split at h
  · cases h
  · next low high bits hlead =>
    refine ⟨0, low, high, bits, lead_of_lead? hlead, ?_⟩
    rw [if_pos rfl]
    cases hrest : decodeFrom .between (position + 1) rest with
    | error e => simp [hrest, Except.map] at h
    | ok more => exact ⟨more, rfl, by simpa [hrest, Except.map] using h.symm⟩
  · next missing low high bits hlead =>
    exact ⟨missing + 1, low, high, bits, lead_of_lead? hlead, by rwa [if_neg (Nat.succ_ne_zero _)]⟩

section

variable {start position seen low high bits : Nat} {first : UInt8} {bytes : List UInt8}
  {cs : List Char}

theorem inside_eq_ok {left : Nat}
    (h : decodeFrom (.inside start first seen (left + 2) low high bits) position bytes = .ok cs) :
    ∃ b rest, bytes = b :: rest ∧ low ≤ b.toNat ∧ b.toNat ≤ high ∧
      decodeFrom (.inside start first (seen + 1) (left + 1) 0x80 0xBF
        (64 * bits + (b.toNat - 0x80))) (position + 1) rest = .ok cs := by
  cases bytes with
  | nil => cases h
  | cons b rest =>
    simp only [decodeFrom] at h
    split at h
    · next hrange =>
      simp only [Bool.and_eq_true, decide_eq_true_eq] at hrange
      exact ⟨b, rest, rfl, hrange.1, hrange.2, h⟩
    · cases h

theorem last_eq_ok
    (h : decodeFrom (.inside start first seen 1 low high bits) position bytes = .ok cs) :
    ∃ b rest more, bytes = b :: rest ∧ low ≤ b.toNat ∧ b.toNat ≤ high ∧
      decodeFrom .between (position + 1) rest = .ok more ∧
      cs = Char.ofNat (64 * bits + (b.toNat - 0x80)) :: more := by
  cases bytes with
  | nil => cases h
  | cons b rest =>
    simp only [decodeFrom] at h
    split at h
    · next hrange =>
      simp only [Bool.and_eq_true, decide_eq_true_eq] at hrange
      cases hrest : decodeFrom .between (position + 1) rest with
      | error e => simp [hrest, Except.map] at h
      | ok more =>
        exact ⟨b, rest, more, rfl, hrange.1, hrange.2, hrest,
          by simpa [hrest, Except.map] using h.symm⟩
    · cases h

end

theorem encodeChar_ne_nil (c : Char) : encodeChar c ≠ [] := by
  simp only [encodeChar]
  repeat' split
  all_goals exact List.cons_ne_nil _ _

theorem toUInt8_eq {n : Nat} {b : UInt8} (h : n = b.toNat) : n.toUInt8 = b := by
  subst h
  simp [Nat.toUInt8]

theorem toNat_ofNat {n : Nat} (h : n < 0xD800 ∨ 0xDFFF < n ∧ n < 0x110000) :
    (Char.ofNat n).toNat = n := by
  have hvalid : n.isValidChar := h
  rw [Char.ofNat, dif_pos hvalid]
  rfl

/-- What is decoded first is the bytes of the first character. -/
theorem between_cons_eq_ok {b : UInt8} {rest : List UInt8} {position : Nat} {cs : List Char}
    (h : decodeFrom .between position (b :: rest) = .ok cs) :
    ∃ c tail more position', cs = c :: more ∧ b :: rest = encodeChar c ++ tail ∧
      decodeFrom .between position' tail = .ok more := by
  obtain ⟨missing, low, high, bits, hlead, hrest⟩ := between_eq_ok h
  cases hlead with
  | one hbits hb =>
    obtain ⟨more, hmore, rfl⟩ := hrest
    have hcode : (Char.ofNat bits).toNat = bits := toNat_ofNat (by omega)
    refine ⟨_, rest, more, _, rfl, ?_, hmore⟩
    simp only [encodeChar, hcode, if_pos hbits, toUInt8_eq hb.symm]
    rfl
  | two hlow hhigh hb =>
    obtain ⟨b₂, rest, more, rfl, hlow₂, hhigh₂, hmore, rfl⟩ := last_eq_ok hrest
    have hcode : (Char.ofNat (64 * bits + (b₂.toNat - 0x80))).toNat =
      64 * bits + (b₂.toNat - 0x80) := toNat_ofNat (by omega)
    refine ⟨_, rest, more, _, rfl, ?_, hmore⟩
    simp only [encodeChar, hcode]
    rw [if_neg (by omega), if_pos (by omega), toUInt8_eq (b := b) (by omega),
      toUInt8_eq (b := b₂) (by omega)]
    rfl
  | three hbits hb hlow hhigh hshort hsurrogate =>
    obtain ⟨b₂, rest, rfl, hlow₂, hhigh₂, hrest⟩ := inside_eq_ok hrest
    obtain ⟨b₃, rest, more, rfl, hlow₃, hhigh₃, hmore, rfl⟩ := last_eq_ok hrest
    have hcode : (Char.ofNat (64 * (64 * bits + (b₂.toNat - 0x80)) + (b₃.toNat - 0x80))).toNat =
      64 * (64 * bits + (b₂.toNat - 0x80)) + (b₃.toNat - 0x80) := toNat_ofNat (by omega)
    refine ⟨_, rest, more, _, rfl, ?_, hmore⟩
    simp only [encodeChar, hcode]
    rw [if_neg (by omega), if_neg (by omega), if_pos (by omega), toUInt8_eq (b := b) (by omega),
      toUInt8_eq (b := b₂) (by omega), toUInt8_eq (b := b₃) (by omega)]
    rfl
  | four hbits hb hlow hhigh hshort hlarge =>
    obtain ⟨b₂, rest, rfl, hlow₂, hhigh₂, hrest⟩ := inside_eq_ok hrest
    obtain ⟨b₃, rest, rfl, hlow₃, hhigh₃, hrest⟩ := inside_eq_ok hrest
    obtain ⟨b₄, rest, more, rfl, hlow₄, hhigh₄, hmore, rfl⟩ := last_eq_ok hrest
    have hcode : (Char.ofNat (64 * (64 * (64 * bits + (b₂.toNat - 0x80)) + (b₃.toNat - 0x80)) +
        (b₄.toNat - 0x80))).toNat =
      64 * (64 * (64 * bits + (b₂.toNat - 0x80)) + (b₃.toNat - 0x80)) + (b₄.toNat - 0x80) :=
      toNat_ofNat (by omega)
    refine ⟨_, rest, more, _, rfl, ?_, hmore⟩
    simp only [encodeChar, hcode]
    rw [if_neg (by omega), if_neg (by omega), if_neg (by omega), toUInt8_eq (b := b) (by omega),
      toUInt8_eq (b := b₂) (by omega), toUInt8_eq (b := b₃) (by omega),
      toUInt8_eq (b := b₄) (by omega)]
    rfl

/-- **Only the bytes of a text are decoded.** -/
theorem encode_decode {bytes : List UInt8} {cs : List Char} (h : decode bytes = .ok cs) :
    encode cs = bytes := by
  have hfrom : ∀ n, ∀ bytes : List UInt8, bytes.length ≤ n → ∀ position cs,
      decodeFrom .between position bytes = .ok cs → encode cs = bytes := by
    clear h
    intro n
    induction n with
    | zero =>
      intro bytes hlength position cs h
      obtain rfl := List.length_eq_zero_iff.mp (Nat.le_zero.mp hlength)
      obtain rfl := Except.ok.inj h
      rfl
    | succ n ih =>
      intro bytes hlength position cs h
      cases bytes with
      | nil =>
        obtain rfl := Except.ok.inj h
        rfl
      | cons b rest =>
        obtain ⟨c, tail, more, position', rfl, heq, hmore⟩ := between_cons_eq_ok h
        have hshorter : tail.length ≤ n := by
          have hpos : 0 < (encodeChar c).length := List.length_pos_iff.mpr (encodeChar_ne_nil c)
          have hsum := congrArg List.length heq
          rw [List.length_append] at hsum
          omega
        rw [encode, List.flatMap_cons, ← encode, ih tail hshorter position' more hmore, heq]
  exact hfrom _ bytes (Nat.le_refl _) 0 cs h

end SqlDesk.Text.Utf8
