/-
Rules that take whole words.

A word is a run of word characters that no other one stands next to. The rule for keywords and the
rule for numbers both take a word as a whole or leave it alone (`WordRule`): the first takes those of
the language, the second those of digits only, where a match that started in front of the word may
reach up to its end, as with the places behind a point. So a character of a word is covered just if
the whole word is one that the rule takes (`WordRule.covered_iff`).
-/
import SqlDesk.Proofs.Editor.Cover
import SqlDesk.Proofs.Editor.Rule

namespace SqlDesk.Highlight

/-! ## Words -/

/-- The word around a place of a text: a run of word characters with the place in it, and none before
or behind it. -/
structure WordAround (cs : List Char) (i : Nat) (word : List Char) : Prop where
  around : ∃ front rest, cs = front ++ (word ++ rest) ∧ front.length ≤ i ∧
    i < front.length + word.length ∧ wordStarts front.getLast? = true ∧ wordEnds rest = true
  all : ∀ c ∈ word, isWordChar c = true

theorem word_unique {word word' rest rest' : List Char} (hword : ∀ c ∈ word, isWordChar c = true)
    (hend : wordEnds rest = true) (hword' : ∀ c ∈ word', isWordChar c = true)
    (hend' : wordEnds rest' = true) (h : word ++ rest = word' ++ rest') : word = word' := by
  rw [← takeWhile_word (fun _ => id) hword hend, h, takeWhile_word (fun _ => id) hword' hend']

theorem mem_of_append_cons_eq {xs ys xs' ys' : List Char} {c : Char}
    (h : xs ++ c :: ys = xs' ++ ys') (hlt : xs.length < xs'.length) : c ∈ xs' := by
  rcases List.append_eq_append_iff.mp h with ⟨zs, rfl, hzs⟩ | ⟨zs, rfl, -⟩
  · cases zs with
    | nil => simp at hlt
    | cons z zs => simp [(List.cons.inj hzs).1]
  · rw [List.length_append] at hlt
    omega

/-! ## Rules for words -/

/-- A rule that takes the words it accepts from end to end, and of the others nothing. -/
structure WordRule (rule : Rule) (accepts : List Char → Bool) : Prop where
  starts {before : Option Char} {cs : List Char} {n : Nat} (h : rule before cs = some n) :
    wordStarts before = true
  accepted {before : Option Char} {word rest : List Char} {n : Nat}
    (hall : ∀ c ∈ word, isWordChar c = true) (hend : wordEnds rest = true)
    (h : rule before (word ++ rest) = some n) : accepts word = true
  exists_of {before : Option Char} {word rest : List Char} (hne : word ≠ [])
    (hall : ∀ c ∈ word, isWordChar c = true) (hend : wordEnds rest = true)
    (hstart : wordStarts before = true) (h : accepts word = true) :
    ∃ n, rule before (word ++ rest) = some (word.length + n)
  -- What a match takes of a word that it did not start with.
  reaches {before : Option Char} {front word rest : List Char} {c : Char} {n : Nat}
    (hc : isWordChar c = false) (hall : ∀ c ∈ word, isWordChar c = true)
    (hend : wordEnds rest = true)
    (h : rule before (front ++ c :: (word ++ rest)) = some (front.length + 1 + (n + 1))) :
    n + 1 = word.length ∧ accepts word = true

section

variable {rule : Rule} {accepts : List Char → Bool}

theorem WordRule.none_inside (h : WordRule rule accepts) {c : Char} (hc : isWordChar c = true)
    (cs : List Char) : rule (some c) cs = none := by
  rw [Option.eq_none_iff_forall_ne_some]
  intro n hmatch
  have hstart := h.starts hmatch
  simp [wordStarts, hc] at hstart

theorem WordRule.none_of_refused (h : WordRule rule accepts) {before : Option Char}
    {word rest : List Char} (hall : ∀ c ∈ word, isWordChar c = true) (hend : wordEnds rest = true)
    (hrefused : accepts word = false) : rule before (word ++ rest) = none := by
  rw [Option.eq_none_iff_forall_ne_some]
  intro n hmatch
  rw [h.accepted hall hend hmatch] at hrefused
  cases hrefused

theorem WordRule.coverFrom_inside (h : WordRule rule accepts) {c : Char}
    (hc : isWordChar c = true) {word : List Char} (hall : ∀ d ∈ word, isWordChar d = true)
    (rest : List Char) :
    coverFrom rule (some c) 0 (word ++ rest) =
      List.replicate word.length false ++ coverFrom rule (lastOr (some c) word) 0 rest := by
  induction word generalizing c with
  | nil => rfl
  | cons d word ih =>
    obtain ⟨hd, hall⟩ := List.forall_mem_cons.mp hall
    rw [List.cons_append, coverFrom_of_none (h.none_inside hc _), ih hd hall, lastOr_cons]
    rfl

theorem WordRule.coverFrom_start (h : WordRule rule accepts) {before : Option Char}
    {word rest : List Char} (hne : word ≠ []) (hall : ∀ c ∈ word, isWordChar c = true)
    (hend : wordEnds rest = true) (hstart : wordStarts before = true) :
    ∃ skip, coverFrom rule before 0 (word ++ rest) =
      List.replicate word.length (accepts word) ++ coverFrom rule (lastOr before word) skip rest := by
  cases haccepts : accepts word with
  | true =>
    obtain ⟨n, hmatch⟩ := h.exists_of hne hall hend hstart haccepts
    exact ⟨n, by rw [coverFrom_zero hmatch, coverFrom_skip]⟩
  | false =>
    obtain ⟨c, word, rfl⟩ := List.exists_cons_of_ne_nil hne
    have hmatch : rule before (c :: (word ++ rest)) = none := h.none_of_refused hall hend haccepts
    obtain ⟨hc, hall⟩ := List.forall_mem_cons.mp hall
    refine ⟨0, ?_⟩
    rw [List.cons_append, coverFrom_of_none hmatch, h.coverFrom_inside hc hall, lastOr_cons]
    rfl

/-- **A word is covered as a whole or not at all**, whatever was read before it. -/
theorem WordRule.coverFrom_word (h : WordRule rule accepts) {before : Option Char} {skip : Nat}
    {word rest : List Char} (hne : word ≠ []) (hall : ∀ c ∈ word, isWordChar c = true)
    (hend : wordEnds rest = true) (hstart : wordStarts before = true)
    (hreaches : Reaches rule before skip (word ++ rest)) :
    ∃ skip', coverFrom rule before skip (word ++ rest) =
      List.replicate word.length (accepts word) ++ coverFrom rule (lastOr before word) skip' rest := by
  rcases hreaches with rfl | ⟨before', front, hfront, rfl, hmatch⟩
  · exact h.coverFrom_start hne hall hend hstart
  · cases skip with
    | zero => exact h.coverFrom_start hne hall hend hstart
    | succ n =>
      obtain ⟨front, c, rfl⟩ := (List.eq_nil_or_concat front).resolve_left hfront
      have hc : isWordChar c = false := by simpa [wordStarts] using hstart
      rw [List.concat_append, List.length_concat] at hmatch
      obtain ⟨hn, haccepts⟩ := h.reaches hc hall hend hmatch
      refine ⟨0, ?_⟩
      rw [haccepts, hn, ← Nat.add_zero word.length, coverFrom_skip]
      rfl

/-- **Which characters of words a rule for words covers**: those of the words that it accepts. -/
theorem WordRule.covered_iff (h : WordRule rule accepts) {cs word : List Char} {i : Nat}
    (hword : WordAround cs i word) :
    (cover rule cs)[i]? = some true ↔ accepts word = true := by
  obtain ⟨⟨front, rest, rfl, hle, hlt, hstart, hend⟩, hall⟩ := hword
  have hne : word ≠ [] := by
    rintro rfl
    exact absurd hlt (Nat.not_lt.mpr hle)
  have hfirst : Reaches rule none 0 (front ++ (word ++ rest)) := .inl rfl
  obtain ⟨marks, skip, hmarks, hreaches, hcover⟩ := exists_coverFrom_append hfirst
  obtain ⟨skip', hcover'⟩ :=
    h.coverFrom_word hne hall hend (by rw [lastOr_none, hstart]) hreaches
  have hi : i - front.length < word.length := by omega
  rw [cover, hcover, hcover', List.getElem?_append_right (hmarks ▸ hle), hmarks,
    List.getElem?_append_left (by rw [List.length_replicate]; exact hi),
    List.getElem?_replicate_of_lt hi, Option.some_inj]

end

/-! ## Keywords -/

theorem keywordRule_wordRule : WordRule keywordRule isKeyword where
  starts h := (keywordRule_eq_some_iff.mp h).1
  accepted hall hend h := by
    have hkeyword := (keywordRule_eq_some_iff.mp h).2.1
    rwa [takeWhile_word (fun _ => id) hall hend] at hkeyword
  exists_of {before word rest} _ hall hend hstart h := by
    refine ⟨0, keywordRule_eq_some_iff.mpr ?_⟩
    rw [takeWhile_word (fun _ => id) hall hend]
    exact ⟨hstart, h, rfl⟩
  reaches {before front word rest c n} hc _ _ h := by
    have hlength := (keywordRule_eq_some_iff.mp h).2.2
    have hmem : c ∈ (front ++ c :: (word ++ rest)).takeWhile isWordChar :=
      mem_of_append_cons_eq List.takeWhile_append_dropWhile.symm (by omega)
    have hword := List.all_eq_true.mp List.all_takeWhile c hmem
    rw [hc] at hword
    cases hword

/-- Where the folding is that of ASCII, the pattern for keywords covers whole words. -/
theorem cover_keyword {fold : Char → Char} {cs : List Char}
    (hfold : ∀ c ∈ cs, FoldsAscii fold c) :
    cover (keywordPattern fold).find cs = cover keywordRule cs :=
  coverFrom_congr (fun before _ hsuffix => find_keyword (fun c hc => hfold c (hsuffix.subset hc)) before)
    none 0

/-- **Which characters are part of a keyword**: those of the words of the language. -/
theorem covered_keyword_iff {fold : Char → Char} {cs : List Char} {i : Nat}
    (hfold : ∀ c ∈ cs, FoldsAscii fold c) :
    (cover (keywordPattern fold).find cs)[i]? = some true ↔
      ∃ word, WordAround cs i word ∧ isKeyword word = true := by
  rw [cover_keyword hfold]
  constructor
  · intro h
    obtain ⟨front, rest, n, rfl, hmatch, hle, hlt⟩ :=
      (exists_match_of_covered h).resolve_left (Nat.not_lt_zero i)
    obtain ⟨hstart, hkeyword, rfl⟩ := keywordRule_eq_some_iff.mp hmatch
    rw [lastOr_none] at hstart
    exact ⟨rest.takeWhile isWordChar, ⟨⟨front, rest.dropWhile isWordChar,
      by rw [List.takeWhile_append_dropWhile], hle, hlt, hstart, wordEnds_dropWhile rest⟩,
      List.all_eq_true.mp List.all_takeWhile⟩, hkeyword⟩
  · rintro ⟨word, hword, hkeyword⟩
    exact (keywordRule_wordRule.covered_iff hword).mpr hkeyword

/-! ## Numbers -/

theorem placesLength?_eq_some {rest : List Char} {n : Nat} (h : placesLength? rest = some n) :
    ∃ places more, rest = '.' :: (places ++ more) ∧ (∀ c ∈ places, c.isDigit = true) ∧
      wordEnds more = true ∧ n = places.length + 1 := by
  unfold placesLength? at h
  split at h
  next more =>
    obtain ⟨hplaces, hn⟩ := Option.ite_none_right_eq_some.mp h
    exact ⟨more.takeWhile Char.isDigit, more.dropWhile Char.isDigit,
      by rw [List.takeWhile_append_dropWhile], List.all_eq_true.mp List.all_takeWhile,
      (Bool.and_eq_true_iff.mp hplaces).2, (Option.some.inj hn).symm⟩
  next => cases h

/-- What the rule for numbers finds: digits that no word goes on behind, or with a point between them
and more such digits. -/
theorem numberRule_eq_some {before : Option Char} {cs : List Char} {n : Nat}
    (h : numberRule before cs = some n) : wordStarts before = true ∧
    ∃ whole rest, cs = whole ++ rest ∧ whole ≠ [] ∧ (∀ c ∈ whole, c.isDigit = true) ∧
      (n = whole.length ∧ wordEnds rest = true ∨
        ∃ places more, rest = '.' :: (places ++ more) ∧ (∀ c ∈ places, c.isDigit = true) ∧
          wordEnds more = true ∧ n = whole.length + 1 + places.length) := by
  obtain ⟨hif, h⟩ := Option.ite_none_left_eq_some.mp h
  rw [Bool.or_eq_true, not_or, List.isEmpty_iff, Bool.not_eq_true', Bool.not_eq_false] at hif
  obtain ⟨m, hm, rfl⟩ := Option.map_eq_some_iff.mp h
  refine ⟨hif.2, cs.takeWhile Char.isDigit, cs.dropWhile Char.isDigit,
    List.takeWhile_append_dropWhile.symm, hif.1, List.all_eq_true.mp List.all_takeWhile, ?_⟩
  rcases Option.or_eq_some_iff.mp hm with hplaces | ⟨-, hnone⟩
  · obtain ⟨places, more, hrest, hdigits, hend, rfl⟩ := placesLength?_eq_some hplaces
    exact .inr ⟨places, more, hrest, hdigits, hend, by omega⟩
  · obtain ⟨hend, hzero⟩ := Option.ite_none_right_eq_some.mp hnone
    exact .inl ⟨by rw [← Option.some.inj hzero, Nat.add_zero], hend⟩

theorem exists_numberRule_eq_some {before : Option Char} {word rest : List Char} (hne : word ≠ [])
    (hall : ∀ c ∈ word, c.isDigit = true) (hend : wordEnds rest = true)
    (hstart : wordStarts before = true) :
    ∃ n, numberRule before (word ++ rest) = some (word.length + n) := by
  have htake : (word ++ rest).takeWhile Char.isDigit = word :=
    takeWhile_word (fun _ => isWordChar_of_isDigit) hall hend
  have hdrop : (word ++ rest).dropWhile Char.isDigit = rest := by
    have hsplit := List.takeWhile_append_dropWhile (p := Char.isDigit) (l := word ++ rest)
    rw [htake] at hsplit
    exact List.append_cancel_left hsplit
  obtain ⟨n, hn⟩ : ∃ n, (placesLength? rest).or (if wordEnds rest then some 0 else none) = some n := by
    rw [if_pos hend]
    cases placesLength? rest with
    | none => exact ⟨0, rfl⟩
    | some n => exact ⟨n, rfl⟩
  refine ⟨n, ?_⟩
  simp only [numberRule]
  rw [htake, hdrop, hn, hstart, List.isEmpty_eq_false_iff.mpr hne]
  rfl

theorem numberRule_wordRule : WordRule numberRule (·.all Char.isDigit) where
  starts h := (numberRule_eq_some h).1
  accepted {before word rest n} hall hend h := by
    obtain ⟨-, whole, more, hcs, -, hdigits, hmore⟩ := numberRule_eq_some h
    have hend' : wordEnds more = true := by
      rcases hmore with ⟨-, hend'⟩ | ⟨places, rest', rfl, -⟩
      · exact hend'
      · rfl
    have hword : word = whole :=
      word_unique hall hend (fun c hc => isWordChar_of_isDigit (hdigits c hc)) hend' hcs
    exact hword ▸ List.all_eq_true.mpr hdigits
  exists_of {before word rest} hne _ hend hstart h :=
    exists_numberRule_eq_some hne (List.all_eq_true.mp h) hend hstart
  reaches {before front word rest c n} hc hall hend h := by
    have hdigit {cs : List Char} (hall : ∀ d ∈ cs, d.isDigit = true) : c ∉ cs := by
      intro hmem
      rw [isWordChar_of_isDigit (hall c hmem)] at hc
      cases hc
    obtain ⟨-, whole, more, hcs, -, hdigits, ⟨hn, -⟩ | ⟨places, rest', rfl, hplaces, hend', hn⟩⟩ :=
      numberRule_eq_some h
    · exact absurd (mem_of_append_cons_eq hcs (by omega)) (hdigit hdigits)
    -- The character in front of the word is the point: any other one would be a digit.
    · rcases Text.cases_of_append_cons_eq hcs with ⟨zs, rfl⟩ | ⟨rfl, rfl⟩ | ⟨zs, rfl⟩
      · exact absurd (by simp) (hdigit hdigits)
      · have hword : word = places :=
          word_unique hall hend (fun d hd => isWordChar_of_isDigit (hplaces d hd)) hend'
            (by simpa using hcs)
        rw [hword]
        exact ⟨by omega, List.all_eq_true.mpr hplaces⟩
      · have hzs : zs ++ c :: (word ++ rest) = places ++ rest' := by simpa using hcs
        simp at hn
        exact absurd (mem_of_append_cons_eq hzs (by omega)) (hdigit hplaces)

theorem isKeyword_eq_false {word : List Char} (h : word.all Char.isDigit = true) :
    isKeyword word = false := by
  have hkeywords : ∀ keyword ∈ keywords, keyword.toList.all Char.isDigit = false := by decide
  have hupper : word.map Char.toUpper = word :=
    (List.map_congr_left fun c hc =>
      Char.toUpper_eq_of_not_isLower
        (not_isLower_of_isDigit (List.all_eq_true.mp h c hc))).trans
      (List.map_id word)
  rw [isKeyword, Bool.eq_false_iff]
  intro hmem
  have hnone := hkeywords _ (List.contains_iff_mem.mp hmem)
  rw [String.toList_ofList, hupper, h] at hnone
  cases hnone

end SqlDesk.Highlight
