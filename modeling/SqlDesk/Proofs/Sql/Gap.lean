/-
Words with blanks behind them.

Words and numbers are read as if the text ended at the first blank behind them. A phrase goes on
behind its blanks, and a name looks behind them for a dot; but if an ON stands there no phrase goes
on and no dot is found, so a token that starts with a word ends before the blanks, whatever blanks
they are (`BlanksBeforeOn.wordToken_append`).
-/
import SqlDesk.Sql.Lexer
import SqlDesk.Engine.Lines
import SqlDesk.Proofs.Text.Blank

namespace SqlDesk.Sql

open Text

/-! ## Words and numbers

They are read as if the text ended at the first blank. -/

section

variable {b : Char} (hb : isBlank b = true) (cs rest : List Char)
include hb

theorem wordLength_append_blank : wordLength (cs ++ b :: rest) = wordLength cs := by
  rw [wordLength, takeWhile_append_cons (isWordChar_of_isBlank hb), wordLength]

theorem startsWithWord_append_blank (word : String) :
    startsWithWord word (cs ++ b :: rest) = startsWithWord word cs := by
  rw [startsWithWord, takeWhile_append_cons (isWordChar_of_isBlank hb), startsWithWord]

theorem opensWord_of_isBlank : opensWord b = false := by
  have hcodes : ∀ n ∈ blankCodes, opensWord (Char.ofNat n) = false := by decide +kernel
  rw [← Char.ofNat_toNat b]
  exact hcodes _ (toNat_mem_blankCodes hb)

theorem startsWord_append_blank : startsWord (cs ++ b :: rest) = startsWord cs := by
  cases cs with
  | nil => exact opensWord_of_isBlank hb
  | cons c cs => rfl

theorem takeWhile_digits_append_blank : (cs ++ b :: rest).takeWhile (fun c => (digit? c).isSome) =
    cs.takeWhile fun c => (digit? c).isSome := by
  refine takeWhile_append_cons ?_ cs rest
  rw [digit?_of_isBlank hb, Option.isSome_none]

omit hb in
theorem drop_digits_append_blank :
    (cs ++ b :: rest).drop (cs.takeWhile fun c => (digit? c).isSome).length =
      cs.drop (cs.takeWhile fun c => (digit? c).isSome).length ++ b :: rest :=
  List.drop_append_of_le_length (List.takeWhile_prefix _).length_le

theorem digitsLength?_append_blank : digitsLength? (cs ++ b :: rest) = digitsLength? cs := by
  simp only [digitsLength?, takeWhile_digits_append_blank hb, drop_digits_append_blank,
    startsWord_append_blank hb]

theorem unsignedLength?_append_blank : unsignedLength? (cs ++ b :: rest) = unsignedLength? cs := by
  have hpoint : b ≠ '.' := ne_of_isBlank hb (by decide)
  simp only [unsignedLength?, takeWhile_digits_append_blank hb, drop_digits_append_blank,
    digitsLength?_append_blank hb]
  rcases cs.drop (cs.takeWhile fun c => (digit? c).isSome).length with _ | ⟨c, more⟩
  · simp only [List.nil_append]
    split
    · next heq => exact absurd (List.cons.inj heq).1 hpoint
    · rfl
  · by_cases hc : c = '.'
    · subst hc
      simp only [List.cons_append, digitsLength?_append_blank hb, startsWord_append_blank hb]
    · simp [hc]

theorem numberLength?_append_blank : numberLength? (cs ++ b :: rest) = numberLength? cs := by
  have hminus : b ≠ '-' := ne_of_isBlank hb (by decide)
  have hunsigned := unsignedLength?_append_blank hb
  cases cs with
  | nil =>
    have hend := hunsigned [] rest
    simp only [List.nil_append] at hend ⊢
    rw [numberLength?, numberLength?, hend]
    · nofun
    · rintro _ ⟨⟩
      exact hminus rfl
  | cons c cs =>
    by_cases hc : c = '-'
    · subst hc
      simp only [List.cons_append, numberLength?, hunsigned]
    · rw [List.cons_append, numberLength?, numberLength?, ← List.cons_append, hunsigned]
      · rintro _ ⟨⟩
        exact hc rfl
      · rintro _ ⟨⟩
        exact hc rfl

/-- The length of a name behind some marks: a letter and at least one character more. -/
def nameLength? (marks : Nat) (name : List Char) : Option Nat :=
  if startsWord name && name.head? != some '_' && wordLength name > 1 then
    some (marks + wordLength name)
  else none

omit hb in
theorem markedLength?_eq (c : Char) : markedLength? (c :: cs) =
    if c = '#' then
      if cs.head? = some '#' then nameLength? 2 cs.tail else nameLength? 1 cs
    else if c = '@' then nameLength? 1 cs
    else none := by
  by_cases hash : c = '#'
  · subst hash
    match cs with
    | [] => rfl
    | d :: more =>
      by_cases hd : d = '#'
      · subst hd
        simp [markedLength?, nameLength?]
      · simp [markedLength?, nameLength?, hd]
  · by_cases hat : c = '@'
    · subst hat
      simp [markedLength?, nameLength?]
    · simp [markedLength?, hash, hat]

theorem nameLength?_append_blank (marks : Nat) :
    nameLength? marks (cs ++ b :: rest) = nameLength? marks cs := by
  cases cs with
  | nil => simp [nameLength?, startsWord, opensWord_of_isBlank hb]
  | cons c cs =>
    have hlength := wordLength_append_blank hb (c :: cs) rest
    have hstarts := startsWord_append_blank hb (c :: cs) rest
    simp only [List.cons_append] at hlength hstarts
    simp only [nameLength?, List.cons_append, hlength, hstarts, List.head?_cons]
    rfl

theorem markedLength?_append_blank (c : Char) :
    markedLength? (c :: cs ++ b :: rest) = markedLength? (c :: cs) := by
  have hname := nameLength?_append_blank hb
  rw [List.cons_append, markedLength?_eq, markedLength?_eq]
  cases cs with
  | nil =>
    have hhash : ¬ some b = some '#' := fun heq =>
      ne_of_isBlank hb (by decide) (Option.some.inj heq)
    have hend := hname [] rest 1
    simp only [List.nil_append] at hend
    simp only [List.nil_append, List.head?_cons, hhash, List.head?_nil, reduceCtorEq, if_false,
      hend]
  | cons d more =>
    have hcons := hname (d :: more) rest
    simp only [List.cons_append] at hcons
    simp only [List.cons_append, List.head?_cons, List.tail_cons, hname, hcons]
    rfl

end

/-- A phrase of several words is its first word, blanks, and the rest of it. -/
theorem phraseLength?_cons_cons (word next : String) (words : List String) (cs : List Char) :
    phraseLength? (word :: next :: words) cs =
      if startsWithWord word cs && ((cs.drop word.length).takeWhile isBlank).length > 0 then
        (phraseLength? (next :: words) ((cs.drop word.length).dropWhile isBlank)).map
          (word.length + ((cs.drop word.length).takeWhile isBlank).length + ·)
      else none := by
  rw [phraseLength?, ← List.drop_drop, drop_length_takeWhile]
  nofun

theorem phraseLength?_nil {word : String} (hword : word ≠ "") (words : List String) :
    phraseLength? (word :: words) [] = none := by
  have hstarts : startsWithWord word [] = false := by
    rw [startsWithWord, decide_eq_false_iff_not]
    exact fun heq => hword (String.toList_inj.mp heq.symm)
  cases words <;> simp [phraseLength?, hstarts]

theorem length_le_of_startsWithWord {word : String} {cs : List Char}
    (h : startsWithWord word cs = true) : word.length ≤ cs.length := by
  have hword := congrArg List.length (of_decide_eq_true h)
  rw [capitals, List.length_map] at hword
  rw [← String.length_toList, ← hword]
  exact (List.takeWhile_prefix _).length_le

/-! ## Blanks before an ON -/

/-- Blanks, at least one, and behind them a text that opens with the word ON. -/
structure BlanksBeforeOn (w y : List Char) : Prop where
  ne : w ≠ []
  blank : ∀ c ∈ w, isBlank c = true
  on : Engine.opensWithOn y = true

theorem toUpper_of_le {c : Char} (h : 123 ≤ c.toNat) : c.toUpper = c := by
  have hlarge : ¬ ('a'.val ≤ c.val ∧ c.val ≤ 'z'.val) := by
    rintro ⟨-, hle⟩
    have hz : c.toNat ≤ 122 := UInt32.le_iff_toNat_le.mp hle
    omega
  unfold Char.toUpper
  rw [dif_neg hlarge]

/-- The letters that are folded to O and N. -/
theorem eq_of_foldLetter {c : Char} : (Engine.foldLetter c = 'O' → c = 'O' ∨ c = 'o') ∧
    (Engine.foldLetter c = 'N' → c = 'N' ∨ c = 'n') := by
  have hsmall : ∀ n < 123,
      (Engine.foldLetter (Char.ofNat n) = 'O' → Char.ofNat n = 'O' ∨ Char.ofNat n = 'o') ∧
        (Engine.foldLetter (Char.ofNat n) = 'N' → Char.ofNat n = 'N' ∨ Char.ofNat n = 'n') := by
    decide
  by_cases h : c.toNat < 123
  · rw [← Char.ofNat_toNat c]
    exact hsmall _ h
  · have hsame : Engine.foldLetter c = 'I' ∨ Engine.foldLetter c = 'S' ∨
        Engine.foldLetter c = c := by
      unfold Engine.foldLetter
      split
      · exact .inl rfl
      · split
        · exact .inr (.inl rfl)
        · exact .inr (.inr (toUpper_of_le (by omega)))
    rcases hsame with heq | heq | heq
    · rw [heq]
      exact ⟨fun h => absurd h (by decide), fun h => absurd h (by decide)⟩
    · rw [heq]
      exact ⟨fun h => absurd h (by decide), fun h => absurd h (by decide)⟩
    · rw [heq]
      exact ⟨.inl, .inl⟩

/-- A text that opens with ON: its two letters, the blank behind them, and the rest. -/
theorem exists_of_opensWithOn {y : List Char} (h : Engine.opensWithOn y = true) :
    ∃ o n b more, y = o :: n :: b :: more ∧ (o = 'O' ∨ o = 'o') ∧ (n = 'N' ∨ n = 'n') ∧
      isBlank b = true := by
  unfold Engine.opensWithOn Engine.afterWord? at h
  split at h
  · next c after heq =>
    split at heq
    · next hword =>
      have hlength : "ON".length = 2 := rfl
      rw [hlength] at heq hword
      match y, heq, hword with
      | o :: n :: b :: more, heq, hword =>
        obtain ⟨rfl, rfl⟩ := List.cons.inj (Option.some.inj heq)
        have hletters : [Engine.foldLetter o, Engine.foldLetter n] = ['O', 'N'] := hword
        obtain ⟨ho, hn⟩ := List.cons.inj hletters
        exact ⟨o, n, _, _, rfl, eq_of_foldLetter.1 ho, eq_of_foldLetter.2 (List.cons.inj hn).1, h⟩
    · cases heq
  · cases h

theorem takeWhile_isWordChar_on {y : List Char} (h : Engine.opensWithOn y = true) :
    capitals (y.takeWhile isWordChar) = "ON".toList := by
  obtain ⟨o, n, b, more, rfl, ho, hn, hb⟩ := exists_of_opensWithOn h
  have hword : isWordChar o = true ∧ isWordChar n = true := by
    rcases ho with rfl | rfl <;> rcases hn with rfl | rfl <;> decide +kernel
  have htake : (o :: n :: b :: more).takeWhile isWordChar = [o, n] := by
    simp [hword, isWordChar_of_isBlank hb]
  rw [htake]
  rcases ho with rfl | rfl <;> rcases hn with rfl | rfl <;> rfl

theorem phraseLength?_on {y : List Char} (h : Engine.opensWithOn y = true) {word : String}
    (hword : word ≠ "ON") (words : List String) : phraseLength? (word :: words) y = none := by
  have hstarts : startsWithWord word y = false := by
    rw [startsWithWord, takeWhile_isWordChar_on h, decide_eq_false_iff_not, String.toList_inj]
    exact Ne.symm hword
  cases words <;> simp [phraseLength?, hstarts]

theorem head_of_opensWithOn {y : List Char} (h : Engine.opensWithOn y = true) :
    ∃ o more, y = o :: more ∧ isBlank o = false ∧ o ≠ '.' := by
  obtain ⟨o, n, b, more, rfl, ho, -, -⟩ := exists_of_opensWithOn h
  refine ⟨o, _, rfl, ?_⟩
  rcases ho with rfl | rfl <;> decide

theorem dropWhile_blanks {w y : List Char} (hw : ∀ c ∈ w, isBlank c = true)
    (hy : Engine.opensWithOn y = true) : (w ++ y).dropWhile isBlank = y := by
  obtain ⟨o, more, rfl, ho, -⟩ := head_of_opensWithOn hy
  exact dropWhile_append_of_stop hw (by simpa using ho)

namespace BlanksBeforeOn

variable {w y : List Char} (h : BlanksBeforeOn w y)
include h

theorem exists_cons : ∃ b rest, isBlank b = true ∧ w ++ y = b :: rest := by
  obtain ⟨b, rest, rfl⟩ := List.exists_cons_of_ne_nil h.ne
  exact ⟨b, rest ++ y, h.blank b List.mem_cons_self, rfl⟩

theorem dropWhile_isBlank (cs : List Char) : (cs ++ (w ++ y)).dropWhile isBlank =
    if cs.dropWhile isBlank = [] then y else cs.dropWhile isBlank ++ (w ++ y) := by
  induction cs with
  | nil =>
    rw [List.nil_append, dropWhile_blanks h.blank h.on, List.dropWhile_nil, if_pos rfl]
  | cons c cs ih =>
    rw [List.cons_append, List.dropWhile_cons, List.dropWhile_cons]
    cases hc : isBlank c with
    | true => simpa only [if_true] using ih
    | false => simp

theorem startsWithDot_dropWhile (cs : List Char) :
    startsWithDot ((cs ++ (w ++ y)).dropWhile isBlank) = startsWithDot (cs.dropWhile isBlank) := by
  obtain ⟨b, rest, hb, hrest⟩ := h.exists_cons
  obtain ⟨o, more, hy, -, ho⟩ := head_of_opensWithOn h.on
  rw [h.dropWhile_isBlank]
  generalize cs.dropWhile isBlank = left
  match left with
  | [] => simp [startsWithDot, hy, ho]
  | [c] =>
    by_cases hc : c = '.'
    · subst hc
      simp [hrest, startsWithDot, digit?_of_isBlank hb]
    · simp [hrest, startsWithDot, hc]
  | c :: d :: left =>
    by_cases hc : c = '.'
    · subst hc
      simp [startsWithDot]
    · simp [startsWithDot, hc]

theorem namedByNeighbour_append (before : Option Char) (cs : List Char) :
    namedByNeighbour before (cs ++ (w ++ y)) = namedByNeighbour before cs := by
  obtain ⟨b, rest, hb, hrest⟩ := h.exists_cons
  have hlength : wordLength (cs ++ (w ++ y)) = wordLength cs := by
    rw [hrest, wordLength_append_blank hb]
  have hdrop : (cs ++ (w ++ y)).drop (wordLength cs) = cs.drop (wordLength cs) ++ (w ++ y) :=
    List.drop_append_of_le_length (List.takeWhile_prefix _).length_le
  have hbracket : ∀ left : List Char,
      ((left ++ (w ++ y)).head? = some '(' ↔ left.head? = some '(') := by
    intro left
    cases left with
    | nil => simp [hrest, ne_of_isBlank hb (show isBlank '(' = false by decide)]
    | cons c left => rfl
  simp only [namedByNeighbour, hlength, hdrop, hbracket, h.startsWithDot_dropWhile]

/-- No phrase goes on behind the blanks. -/
theorem phraseLength?_append {words : List String} (hon : "ON" ∉ words) (hne : "" ∉ words)
    (cs : List Char) : phraseLength? words (cs ++ (w ++ y)) = phraseLength? words cs := by
  obtain ⟨b, rest, hb, hrest⟩ := h.exists_cons
  have hword : ∀ word cs, startsWithWord word (cs ++ (w ++ y)) = startsWithWord word cs := by
    intro word cs
    rw [hrest, startsWithWord_append_blank hb]
  induction words generalizing cs with
  | nil => rfl
  | cons word words ih =>
    cases words with
    | nil => simp only [phraseLength?, hword]
    | cons next words =>
      rw [phraseLength?_cons_cons, phraseLength?_cons_cons, hword]
      cases hstarts : startsWithWord word cs with
      | false => rfl
      | true =>
        rw [List.drop_append_of_le_length (length_le_of_startsWithWord hstarts),
          h.dropWhile_isBlank]
        generalize cs.drop word.length = left
        rw [List.mem_cons, not_or] at hon hne
        by_cases hleft : left.dropWhile isBlank = []
        · -- the next word would have to be the ON, or it would have to be empty
          have hnext : next ≠ "ON" := fun heq => hon.2 (heq ▸ List.mem_cons_self)
          have hempty : next ≠ "" := fun heq => hne.2 (heq ▸ List.mem_cons_self)
          rw [if_pos hleft, hleft, phraseLength?_on h.on hnext, phraseLength?_nil hempty]
          simp
        · have hgap : (left ++ (w ++ y)).takeWhile isBlank = left.takeWhile isBlank := by
            rw [List.takeWhile_append, if_neg]
            intro hlength
            have hsplit := List.takeWhile_append_dropWhile (p := isBlank) (l := left)
            have hsum := congrArg List.length hsplit
            rw [List.length_append, hlength] at hsum
            exact hleft (List.length_eq_zero_iff.mp (by omega))
          rw [if_neg hleft, hgap, ih hon.2 hne.2]

/-- The phrases that are one token are made of words, and ON is none of them. -/
theorem anyPhraseLength?_append {choices : List (List String)}
    (hchoices : ∀ words ∈ choices, "ON" ∉ words ∧ "" ∉ words) (cs : List Char) :
    anyPhraseLength? choices (cs ++ (w ++ y)) = anyPhraseLength? choices cs := by
  unfold anyPhraseLength?
  induction choices with
  | nil => rfl
  | cons words choices ih =>
    obtain ⟨hon, hne⟩ := hchoices words List.mem_cons_self
    have hrest := ih fun words' hmem => hchoices words' (List.mem_cons_of_mem _ hmem)
    rw [List.findSome?_cons, List.findSome?_cons, h.phraseLength?_append hon hne, hrest]

/-- **A token that starts with a word** is read as if the text ended at the blanks. -/
theorem wordToken_append (before : Option Char) (c : Char) (cs : List Char) :
    wordToken before (c :: cs ++ (w ++ y)) = wordToken before (c :: cs) := by
  obtain ⟨b, rest, hb, hrest⟩ := h.exists_cons
  have hlength : wordLength (c :: cs ++ (w ++ y)) = wordLength (c :: cs) := by
    rw [hrest, wordLength_append_blank hb]
  have htake : (c :: cs ++ (w ++ y)).take (wordLength (c :: cs)) =
      (c :: cs).take (wordLength (c :: cs)) :=
    List.take_append_of_le_length (List.takeWhile_prefix _).length_le
  have hstarts : startsWord (c :: cs ++ (w ++ y)) = startsWord (c :: cs) := by
    rw [hrest, startsWord_append_blank hb]
  have hnumber : numberLength? (c :: cs ++ (w ++ y)) = numberLength? (c :: cs) := by
    rw [hrest, numberLength?_append_blank hb]
  have hphrases : anyPhraseLength? phrases (c :: cs ++ (w ++ y)) =
      anyPhraseLength? phrases (c :: cs) := h.anyPhraseLength?_append (by decide) _
  have hcomparing : anyPhraseLength? comparingPhrases (c :: cs ++ (w ++ y)) =
      anyPhraseLength? comparingPhrases (c :: cs) := h.anyPhraseLength?_append (by decide) _
  have hwhole : (c :: cs ++ (w ++ y)).takeWhile (fun c => isWordChar c || c = '$' || c = '#') =
      (c :: cs).takeWhile fun c => isWordChar c || c = '$' || c = '#' := by
    rw [hrest]
    refine takeWhile_append_cons ?_ _ _
    simp [isWordChar_of_isBlank hb, ne_of_isBlank hb (show isBlank '$' = false by decide),
      ne_of_isBlank hb (show isBlank '#' = false by decide)]
  have hhead : (c :: cs ++ (w ++ y)).head? = (c :: cs).head? := rfl
  simp only [wordToken, hlength, htake, hstarts, hnumber, hphrases, hcomparing, hwhole, hhead,
    h.namedByNeighbour_append]

end BlanksBeforeOn

end SqlDesk.Sql
