/-
What the rules of a line take, said without patterns.

The first way of a pattern is found by trying; here each rule is read off it as what is left when all
that fails is gone. No number and no word of the language is taken from the middle of a longer word,
since there is no boundary in it (`find_number`, `find_keyword`). A quoted text that is not closed is
given back two quotes at a time, so the last of them close it (`find_string`).
-/
import SqlDesk.Editor.Highlight
import SqlDesk.Proofs.Editor.Pattern
import SqlDesk.Proofs.Text.Blank
import Mathlib

namespace SqlDesk.Highlight

open Pattern

variable {before : Option Char} {cs : List Char}

/-! ## Boundaries -/

/-- Whether a word may start behind a character. -/
def wordStarts (before : Option Char) : Bool :=
  before.all fun c => !isWordChar c

/-- Whether no word goes on at the start of a text. -/
def wordEnds (cs : List Char) : Bool :=
  cs.head?.all fun c => !isWordChar c

theorem isWordChar_of_isDigit {c : Char} (h : c.isDigit = true) : isWordChar c = true := by
  rw [isWordChar, Char.isAlphanum, h, Bool.or_true, Bool.true_or]

theorem isBoundary_cons {c : Char} (hc : isWordChar c = true) (rest : List Char) :
    (Place.mk before (c :: rest)).isBoundary = wordStarts before := by
  cases before with
  | none => simp [Place.isBoundary, wordStarts, hc]
  | some b => simp [Place.isBoundary, wordStarts, hc]

theorem isBoundary_some {c : Char} (hc : isWordChar c = true) (rest : List Char) :
    (Place.mk (some c) rest).isBoundary = wordEnds rest := by
  cases rest with
  | nil => simp [Place.isBoundary, wordEnds, hc]
  | cons d rest => cases h : isWordChar d <;> simp [Place.isBoundary, wordEnds, hc, h]

theorem exists_lastOr {p : Char → Prop} {c : Char} (hc : p c) {read : List Char}
    (hread : ∀ d ∈ read, p d) : ∃ last, lastOr (some c) read = some last ∧ p last := by
  induction read generalizing c with
  | nil => exact ⟨c, rfl, hc⟩
  | cons d read ih =>
    obtain ⟨hd, hread⟩ := List.forall_mem_cons.mp hread
    rw [lastOr_cons]
    exact ih hd hread

/-! ## Keywords -/

/-- Whether a word is one of the language, in either case of its letters. -/
def isKeyword (word : List Char) : Bool :=
  keywords.contains (String.ofList (word.map Char.toUpper))

/-- A folding takes a character for the same capital letters as ASCII does. -/
def FoldsAscii (fold : Char → Char) (c : Char) : Prop :=
  ∀ k : Char, k.isUpper = true → (fold c = fold k ↔ c.toUpper = k)

theorem isKeyword_iff {word : List Char} : isKeyword word = true ↔
    ∃ keyword ∈ keywords, keyword.toList.map Char.toUpper = word.map Char.toUpper := by
  have hupper : ∀ keyword ∈ keywords, keyword.toList.map Char.toUpper = keyword.toList := by decide
  rw [isKeyword]
  constructor
  · intro h
    have hmem := List.contains_iff_mem.mp h
    refine ⟨_, hmem, ?_⟩
    rw [hupper _ hmem, String.toList_ofList]
  · rintro ⟨keyword, hmem, heq⟩
    rw [← heq, hupper keyword hmem, String.ofList_toList]
    exact List.contains_iff_mem.mpr hmem

/-- What the rule for keywords takes: characters that fold to those of a word of the language, with
a boundary on either side. -/
theorem find_keyword_eq_some {fold : Char → Char} {n : Nat}
    (h : (keywordPattern fold).find before cs = some n) :
    (Place.mk before cs).isBoundary = true ∧ ∃ keyword ∈ keywords, ∃ read rest, cs = read ++ rest ∧
      read.map fold = keyword.toList.map fold ∧
      (Place.mk (lastOr before read) rest).isBoundary = true ∧ n = read.length := by
  rw [find_eq_followed, keywordPattern, followed_seq, followed_boundary] at h
  obtain ⟨hstart, h⟩ := Option.ite_none_right_eq_some.mp h
  refine ⟨hstart, ?_⟩
  rw [followed_seq, followed_oneOf, List.findSome?_map] at h
  obtain ⟨keyword, hmem, h⟩ := List.exists_of_findSome?_eq_some h
  obtain ⟨read, rest, rfl, hread, h⟩ := followed_caseless.mp h
  rw [followed_boundary] at h
  obtain ⟨hend, h⟩ := Option.ite_none_right_eq_some.mp h
  refine ⟨keyword, hmem, read, rest, rfl, hread, hend, ?_⟩
  rw [← Option.some.inj h, List.length_append, Nat.add_sub_cancel]

theorem exists_find_keyword {fold : Char → Char} {keyword : String} {read rest : List Char}
    (hstart : (Place.mk before (read ++ rest)).isBoundary = true) (hmem : keyword ∈ keywords)
    (hread : read.map fold = keyword.toList.map fold)
    (hend : (Place.mk (lastOr before read) rest).isBoundary = true) :
    ∃ n, (keywordPattern fold).find before (read ++ rest) = some n := by
  rw [find_eq_followed, keywordPattern, followed_seq, followed_boundary, if_pos hstart,
    followed_seq, followed_oneOf, List.findSome?_map, ← Option.isSome_iff_exists,
    List.findSome?_isSome_iff]
  have hword : ((caseless fold keyword).followed ⟨before, read ++ rest⟩ fun middle =>
      boundary.followed middle fun place => some ((read ++ rest).length - place.rest.length)) =
        some ((read ++ rest).length - rest.length) :=
    followed_caseless.mpr ⟨read, rest, rfl, hread, by rw [followed_boundary, if_pos hend]⟩
  exact ⟨keyword, hmem, Option.isSome_iff_exists.mpr ⟨_, hword⟩⟩

theorem takeWhile_word {p : Char → Bool} (hp : ∀ c, p c = true → isWordChar c = true)
    {word rest : List Char} (hword : ∀ c ∈ word, p c = true) (hend : wordEnds rest = true) :
    (word ++ rest).takeWhile p = word := by
  refine Text.takeWhile_append_of_stop hword fun c hmem => ?_
  have hc : isWordChar c = false := by
    simpa [wordEnds, Option.mem_def.mp hmem] using hend
  rw [Bool.eq_false_iff] at hc ⊢
  exact hc ∘ hp c

theorem wordEnds_dropWhile (cs : List Char) : wordEnds (cs.dropWhile isWordChar) = true := by
  have hhead := List.head?_dropWhile_not isWordChar cs
  rw [wordEnds]
  cases h : (cs.dropWhile isWordChar).head? with
  | none => rfl
  | some c => simpa [h] using hhead

/-- A whole word that is one of the language. -/
def keywordRule : Rule := fun before cs =>
  let word := cs.takeWhile isWordChar
  if wordStarts before && isKeyword word then some word.length else none

theorem keywordRule_eq_some_iff {n : Nat} : keywordRule before cs = some n ↔
    wordStarts before = true ∧ isKeyword (cs.takeWhile isWordChar) = true ∧
      (cs.takeWhile isWordChar).length = n := by
  rw [keywordRule, Option.ite_none_right_eq_some, Bool.and_eq_true, and_assoc, Option.some_inj]

theorem not_isLower_of_isDigit {c : Char} (h : c.isDigit = true) : ¬ c.isLower = true := by
  rw [Char.isDigit, Bool.and_eq_true, decide_eq_true_eq, decide_eq_true_eq] at h
  rw [Char.isLower, Bool.and_eq_true, decide_eq_true_eq]
  exact fun hlower => absurd (UInt32.le_trans hlower.1 h.2) (by decide)

theorem foldsAscii_toUpper (c : Char) : FoldsAscii Char.toUpper c := by
  intro k hk
  rw [Char.toUpper_eq_of_not_isLower (Char.not_isLower_of_isUpper hk)]

theorem isWordChar_of_toUpper {c : Char} (h : c.toUpper.isUpper = true) : isWordChar c = true := by
  rw [Char.isUpper_toUpper_eq_isAlpha] at h
  rw [isWordChar, Char.isAlphanum, h, Bool.true_or, Bool.true_or]

/-- Where the folding is that of ASCII, characters fold to those of a word in capitals just if they
are that word when they are put into capitals. -/
theorem map_fold_eq_iff {fold : Char → Char} {read word : List Char}
    (hread : ∀ c ∈ read, FoldsAscii fold c) (hword : ∀ k ∈ word, k.isUpper = true) :
    read.map fold = word.map fold ↔ read.map Char.toUpper = word := by
  induction read generalizing word with
  | nil => simp [eq_comm]
  | cons c read ih =>
    obtain ⟨hc, hread⟩ := List.forall_mem_cons.mp hread
    cases word with
    | nil => simp
    | cons k word =>
      obtain ⟨hk, hword⟩ := List.forall_mem_cons.mp hword
      rw [List.map_cons, List.map_cons, List.map_cons, List.cons.injEq, List.cons.injEq, hc k hk,
        ih hread hword]

theorem isUpper_of_mem_keywords {keyword : String} (h : keyword ∈ keywords) :
    keyword.toList ≠ [] ∧ ∀ k ∈ keyword.toList, k.isUpper = true := by
  revert keyword
  simp only [← List.all_eq_true]
  decide

theorem isBoundary_word (before : Option Char) {read : List Char} (rest : List Char) (hne : read ≠ [])
    (hread : ∀ c ∈ read, isWordChar c = true) :
    (Place.mk before (read ++ rest)).isBoundary = wordStarts before ∧
      (Place.mk (lastOr before read) rest).isBoundary = wordEnds rest := by
  obtain ⟨c, read, rfl⟩ := List.exists_cons_of_ne_nil hne
  obtain ⟨hc, hread⟩ := List.forall_mem_cons.mp hread
  obtain ⟨last, hlast, hword⟩ := exists_lastOr hc hread
  rw [lastOr_cons, hlast]
  exact ⟨isBoundary_cons hc _, isBoundary_some hword rest⟩

section

variable {fold : Char → Char} {n : Nat}

theorem keywordRule_of_find (hfold : ∀ c ∈ cs, FoldsAscii fold c)
    (h : (keywordPattern fold).find before cs = some n) : keywordRule before cs = some n := by
  obtain ⟨hstart, keyword, hmem, read, rest, rfl, hread, hend, rfl⟩ := find_keyword_eq_some h
  obtain ⟨hne, hupper⟩ := isUpper_of_mem_keywords hmem
  have hcapitals := (map_fold_eq_iff
    (fun c hc => hfold c (List.mem_append_left rest hc)) hupper).mp hread
  have hword (c : Char) (hc : c ∈ read) : isWordChar c = true :=
    isWordChar_of_toUpper (hupper _ (hcapitals ▸ List.mem_map_of_mem hc))
  have hread' : read ≠ [] := fun hnil => hne (by rw [← hcapitals, hnil, List.map_nil])
  obtain ⟨hstart', hend'⟩ := isBoundary_word before rest hread' hword
  have htake : (read ++ rest).takeWhile isWordChar = read :=
    takeWhile_word (fun _ => id) hword (hend' ▸ hend)
  rw [keywordRule_eq_some_iff, htake, isKeyword, hcapitals, String.ofList_toList]
  exact ⟨hstart' ▸ hstart, List.contains_iff_mem.mpr hmem, rfl⟩

theorem exists_find_of_keywordRule (hfold : ∀ c ∈ cs, FoldsAscii fold c)
    (h : keywordRule before cs = some n) :
    ∃ m, (keywordPattern fold).find before cs = some m := by
  obtain ⟨hstart, hkeyword, -⟩ := keywordRule_eq_some_iff.mp h
  have hmem := List.contains_iff_mem.mp hkeyword
  obtain ⟨hne, hupper⟩ := isUpper_of_mem_keywords hmem
  rw [String.toList_ofList] at hne hupper
  have hword := List.all_eq_true.mp (List.all_takeWhile (l := cs) (p := isWordChar))
  have hread : (cs.takeWhile isWordChar).map fold =
      (String.ofList ((cs.takeWhile isWordChar).map Char.toUpper)).toList.map fold := by
    rw [String.toList_ofList,
      map_fold_eq_iff (fun c hc => hfold c (List.takeWhile_subset _ hc)) hupper]
  obtain ⟨hstart', hend'⟩ := isBoundary_word before (cs.dropWhile isWordChar)
    (fun hnil => hne (by rw [hnil, List.map_nil])) hword
  obtain ⟨m, hm⟩ := exists_find_keyword (hstart'.trans hstart) hmem hread
    (hend'.trans (wordEnds_dropWhile cs))
  rw [List.takeWhile_append_dropWhile] at hm
  exact ⟨m, hm⟩

/-- **The rule for keywords takes whole words**, where the folding is that of ASCII. -/
theorem find_keyword (hfold : ∀ c ∈ cs, FoldsAscii fold c) (before : Option Char) :
    (keywordPattern fold).find before cs = keywordRule before cs := by
  cases hrule : keywordRule before cs with
  | none =>
    rw [Option.eq_none_iff_forall_ne_some]
    intro n h
    rw [keywordRule_of_find hfold h] at hrule
    cases hrule
  | some n =>
    obtain ⟨m, hm⟩ := exists_find_of_keywordRule hfold hrule
    rw [hm, ← keywordRule_of_find hfold hm, hrule]

end

/-! ## Numbers -/

/-- The length of a point and the digits behind it, if there are any and no word goes on there. -/
def placesLength? : List Char → Option Nat
  | '.' :: more =>
    let places := more.takeWhile Char.isDigit
    if !places.isEmpty && wordEnds (more.dropWhile Char.isDigit) then some (places.length + 1)
    else none
  | _ => none

/-- Digits, with more digits behind a point if they end there; neither may be part of a longer word.
-/
def numberRule : Rule := fun before cs =>
  let whole := cs.takeWhile Char.isDigit
  let rest := cs.dropWhile Char.isDigit
  if whole.isEmpty || !wordStarts before then none
  else ((placesLength? rest).or (if wordEnds rest then some 0 else none)).map (whole.length + ·)

theorem followed_boundary_digits {α : Type} (next : Place → Option α) (c d : Char)
    (rest : List Char) (hc : c.isDigit = true) (hd : d.isDigit = true) :
    boundary.followed ⟨some c, d :: rest⟩ next = none := by
  rw [followed_boundary, isBoundary_some (isWordChar_of_isDigit hc), if_neg]
  simp [wordEnds, isWordChar_of_isDigit hd]

theorem isWordChar_of_mem_digits {cs : List Char} :
    ∀ c ∈ cs.takeWhile Char.isDigit, isWordChar c = true :=
  fun c hc => isWordChar_of_isDigit (List.all_eq_true.mp List.all_takeWhile c hc)

theorem length_digits (cs : List Char) : cs.length =
    (cs.takeWhile Char.isDigit).length + (cs.dropWhile Char.isDigit).length := by
  rw [← List.length_append, List.takeWhile_append_dropWhile]

theorem followed_places (n : Nat) (rest : List Char) :
    ((seq (only '.') (plus (char Char.isDigit))).followed ⟨before, rest⟩ fun place =>
        boundary.followed place fun place => some (n + rest.length - place.rest.length)) =
      (placesLength? rest).map (n + ·) := by
  rw [followed_seq]
  unfold placesLength?
  split
  next more =>
    rw [followed_only_cons, if_pos rfl, followed_plus_char (followed_boundary_digits _),
      followed_boundary, List.length_cons, length_digits more]
    by_cases hnil : more.takeWhile Char.isDigit = []
    · simp [hnil]
    · rw [(isBoundary_word _ _ hnil isWordChar_of_mem_digits).2]
      cases wordEnds (more.dropWhile Char.isDigit) with
      | false => simp
      | true =>
        simp only [List.isEmpty_eq_false_iff.mpr hnil, Bool.false_eq_true, if_false, if_true,
          Bool.not_false, Bool.and_self, Option.map_some, Option.some_inj]
        omega
  next hpoint =>
    cases rest with
    | nil => rfl
    | cons d more =>
      have hd : d ≠ '.' := fun h => hpoint more (by rw [h])
      rw [followed_only_cons, if_neg hd]
      rfl

/-- **The rule for numbers gives no digits back**: where it would go on behind a part of them, there
is no boundary. -/
theorem find_number (before : Option Char) (cs : List Char) :
    numberPattern.find before cs = numberRule before cs := by
  have hsplit : cs.takeWhile Char.isDigit ++ cs.dropWhile Char.isDigit = cs :=
    List.takeWhile_append_dropWhile
  rw [find_eq_followed, numberPattern, followed_seq, followed_boundary, followed_seq,
    followed_plus_char fun c d rest hc hd => ?_, numberRule]
  · by_cases hnil : cs.takeWhile Char.isDigit = []
    · simp [hnil]
    · have hbounds := isBoundary_word before (cs.dropWhile Char.isDigit) hnil
        isWordChar_of_mem_digits
      rw [hsplit] at hbounds
      rw [hbounds.1, followed_seq, followed_optional, followed_boundary, hbounds.2, length_digits cs,
        followed_places, Nat.add_sub_cancel]
      cases wordStarts before with
      | false => simp
      | true =>
        rw [List.isEmpty_eq_false_iff.mpr hnil, Option.map_or]
        cases wordEnds (cs.dropWhile Char.isDigit) <;> rfl
  · have hpoint : d ≠ '.' := by
      rintro rfl
      exact absurd hd (by decide)
    rw [followed_seq, followed_optional, followed_seq, followed_only_cons, if_neg hpoint,
      followed_boundary_digits _ c d rest hc hd, Option.none_or]

/-! ## Quoted texts -/

/-- The length of the rest of a quoted text, in which two quotes stand for one. If it is never
closed, the last two quotes close it with the first of them. -/
def quotedLength? : List Char → Option Nat
  | [] => none
  | '\'' :: '\'' :: rest =>
    match quotedLength? rest with
    | some n => some (n + 2)
    | none => some 1
  | c :: rest => if c = '\'' then some 1 else (quotedLength? rest).map (· + 1)

/-- A quoted text, with an N right before it if there is one. -/
def stringRule : Rule
  | _, 'N' :: '\'' :: rest => (quotedLength? rest).map (· + 2)
  | _, '\'' :: rest => (quotedLength? rest).map (· + 1)
  | _, _ => none

section

variable {α : Type} {next : Place → Option α} {c : Char} {rest : List Char}

theorem followed_insideQuotes_nil :
    insideQuotes.followed ⟨before, []⟩ next = next ⟨before, []⟩ := by
  rw [insideQuotes, followed_star, followed_alt, followed_char_nil, followed_seq, followed_only_nil,
    Option.none_or, Option.none_or]

theorem followed_insideQuotes_char (hc : c ≠ '\'') :
    insideQuotes.followed ⟨before, c :: rest⟩ next =
      (insideQuotes.followed ⟨some c, rest⟩ next).or (next ⟨before, c :: rest⟩) := by
  rw [insideQuotes, followed_star, followed_alt, followed_char_cons, if_pos (decide_eq_true hc),
    followed_seq, followed_only_cons, if_neg hc, Option.or_none, if_pos]
  exact Nat.lt_succ_self rest.length

theorem followed_insideQuotes_quotes :
    insideQuotes.followed ⟨before, '\'' :: '\'' :: rest⟩ next =
      (insideQuotes.followed ⟨some '\'', rest⟩ next).or
        (next ⟨before, '\'' :: '\'' :: rest⟩) := by
  rw [insideQuotes, followed_star, followed_alt, followed_char_cons,
    if_neg (by decide : ¬ decide ('\'' ≠ '\'') = true), followed_seq, followed_only_cons, if_pos rfl,
    followed_only_cons, if_pos rfl, Option.none_or, if_pos]
  exact Nat.lt_add_of_pos_right Nat.two_pos

theorem followed_insideQuotes_quote (hrest : ∀ more, rest ≠ '\'' :: more) :
    insideQuotes.followed ⟨before, '\'' :: rest⟩ next = next ⟨before, '\'' :: rest⟩ := by
  have hnone (next : Place → Option α) : (only '\'').followed ⟨some '\'', rest⟩ next = none := by
    cases rest with
    | nil => exact followed_only_nil _
    | cons c more =>
      rw [followed_only_cons, if_neg]
      rintro rfl
      exact hrest more rfl
  rw [insideQuotes, followed_star, followed_alt, followed_char_cons,
    if_neg (by decide : ¬ decide ('\'' ≠ '\'') = true), followed_seq, followed_only_cons, if_pos rfl,
    hnone, Option.none_or, Option.none_or]

end

/-- What stands in quotes is followed by a quote: two quotes at a time are given back for it. -/
theorem followed_quoted (total : Nat) (cs : List Char) :
    (insideQuotes.followed ⟨before, cs⟩ fun place =>
        (only '\'').followed place fun place => some (total + cs.length - place.rest.length)) =
      (quotedLength? cs).map (total + ·) := by
  fun_induction quotedLength? cs generalizing before total with
  | case1 => rw [followed_insideQuotes_nil, followed_only_nil, Option.map_none]
  | case2 rest n hn ih =>
    have hlength : total + (rest.length + 1 + 1) = total + 2 + rest.length := by omega
    rw [followed_insideQuotes_quotes, List.length_cons, List.length_cons, hlength, ih, hn]
    simp only [Option.map_some, Option.some_or, Option.some_inj]
    omega
  | case3 rest hnone ih =>
    have hlength : total + (rest.length + 1 + 1) = total + 2 + rest.length := by omega
    rw [followed_insideQuotes_quotes, List.length_cons, List.length_cons, hlength, ih, hnone,
      followed_only_cons, if_pos rfl]
    simp only [Option.map_none, Option.none_or, Option.map_some, Option.some_inj, List.length_cons]
    omega
  | case4 rest hlast =>
    rw [followed_insideQuotes_quote fun more hmore => hlast more rfl hmore, followed_only_cons,
      if_pos rfl]
    simp only [Option.map_some, Option.some_inj, List.length_cons]
    omega
  | case5 c rest _ hc ih =>
    have hlength : total + (rest.length + 1) = total + 1 + rest.length := by omega
    rw [followed_insideQuotes_char hc, List.length_cons, hlength, ih, followed_only_cons, if_neg hc,
      Option.or_none, Option.map_map]
    congr 1
    funext n
    exact (Nat.add_right_comm total 1 n).trans (Nat.add_assoc total n 1)

/-- **The rule for quoted texts.** An N that no quote follows is given back, and then there is no
match. -/
theorem find_string (before : Option Char) (cs : List Char) :
    stringPattern.find before cs = stringRule before cs := by
  have hquote (before : Option Char) (n : Nat) (rest : List Char) :
      ((seq (only '\'') (seq insideQuotes (only '\''))).followed ⟨before, '\'' :: rest⟩ fun place =>
        some (n + rest.length - place.rest.length)) = (quotedLength? rest).map (n + ·) := by
    rw [followed_seq, followed_only_cons, if_pos rfl, followed_seq, followed_quoted]
  have hnone {α : Type} (next : Place → Option α) (before : Option Char) (cs : List Char)
      (hcs : ∀ rest, cs ≠ '\'' :: rest) : (seq (only '\'') (seq insideQuotes (only '\''))).followed
        ⟨before, cs⟩ next = none := by
    rw [followed_seq]
    cases cs with
    | nil => exact followed_only_nil _
    | cons c rest =>
      rw [followed_only_cons, if_neg]
      rintro rfl
      exact hcs rest rfl
  rw [find_eq_followed, stringPattern, followed_seq, followed_optional]
  unfold stringRule
  split
  next rest =>
    have hlength : ('N' :: '\'' :: rest).length = 2 + rest.length := Nat.add_comm rest.length 2
    rw [followed_only_cons, if_pos rfl, hnone _ before _ (by simp), Option.or_none, hlength, hquote]
    simp only [Nat.add_comm]
  next rest =>
    have hlength : ('\'' :: rest).length = 1 + rest.length := Nat.add_comm rest.length 1
    rw [followed_only_cons, if_neg (by decide), Option.none_or, hlength, hquote]
    simp only [Nat.add_comm]
  next hnational hplain =>
    rw [hnone _ before cs fun rest hcs => hplain rest hcs, Option.or_none]
    cases cs with
    | nil => exact followed_only_nil _
    | cons c rest =>
      rw [followed_only_cons]
      split
      next hc => exact hnone _ _ _ fun more hmore => hnational more (by rw [hc, hmore])
      next => rfl

/-! ## Comments -/

/-- Two dashes and what follows them on the line. -/
def commentRule : Rule
  | _, '-' :: '-' :: rest => some (2 + (rest.takeWhile (· ≠ '\n')).length)
  | _, _ => none

theorem find_comment (before : Option Char) (cs : List Char) :
    commentPattern.find before cs = commentRule before cs := by
  rw [find_eq_followed, commentPattern, followed_seq]
  unfold commentRule
  split
  next rest =>
    have hlength : ('-' :: '-' :: rest).length = 2 + rest.length := Nat.add_comm rest.length 2
    rw [followed_only_cons, if_pos rfl, followed_seq, followed_only_cons, if_pos rfl, hlength,
      followed_star_end]
  next hdashes =>
    cases cs with
    | nil => exact followed_only_nil _
    | cons c rest =>
      rw [followed_only_cons]
      split
      next hc =>
        rw [followed_seq]
        cases rest with
        | nil => exact followed_only_nil _
        | cons d more =>
          rw [followed_only_cons, if_neg]
          rintro rfl
          exact hdashes more (by rw [hc])
      next => rfl

end SqlDesk.Highlight
