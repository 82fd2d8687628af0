/-
How far the tokens of a text reach that has an ON on its way.

Put other blanks before an ON: a token that starts before them ends before them as well, or it is a
text or a name in quotes, a name in brackets or a comment, and it goes on behind them, the ON in it
(`Gap.tokenAt_meets`).
-/
import SqlDesk.Proofs.Sql.Gap

namespace SqlDesk.Sql

open Text

/-! ## Quotes and comments -/

/-- How far something reaches that starts `count` characters before blanks of some width, and how
far it reaches with other blanks in their place: it is closed before the blanks, it goes on behind
them, or it is closed nowhere. -/
inductive Closes (width count : Nat) : Option Nat → Option Nat → Prop
  | within {n : Nat} (h : n ≤ count) : Closes width count (some n) (some n)
  | across {n : Nat} (n' : Nat) (h : count + width < n) : Closes width count (some n) (some n')
  | never : Closes width count none none

theorem Closes.map_add {width count : Nat} {reached reached' : Option Nat}
    (h : Closes width count reached reached') (more : Nat) :
    Closes width (count + more) (reached.map (· + more)) (reached'.map (· + more)) := by
  cases h with
  | within h => exact .within (Nat.add_le_add_right h more)
  | across n' h =>
    refine .across _ ?_
    show _ < _ + more
    omega
  | never => exact .never

/-- What starts with the blanks is closed behind them, or nowhere. -/
theorem Closes.of_blanks {reached : Option Nat} (hpos : ∀ n, reached = some n → 0 < n)
    (width width' : Nat) :
    Closes width 0 (reached.map (· + width)) (reached.map (· + width')) := by
  cases reached with
  | none => exact .never
  | some n =>
    have hn := hpos n rfl
    refine .across _ ?_
    show 0 + width < n + width
    omega

/-- Blanks before an ON, on one line, and others that stand in their place, which open with a line
feed. -/
structure Gap (w w' y : List Char) : Prop where
  before : BlanksBeforeOn w y
  other : BlanksBeforeOn w' y
  inline : ∀ c ∈ w, c ≠ '\n' ∧ c ≠ '\r'
  feed : w'.head? = some '\n'
  noReturn : ∀ c ∈ w', c ≠ '\r'

theorem quotedLength?_pos {quote : Char} {cs : List Char} {n : Nat}
    (h : quotedLength? quote cs = some n) : 0 < n := by
  have hmap : ∀ {reached : Option Nat}, reached.map (· + 1) = some n → 0 < n := by
    intro reached hreached
    obtain ⟨m, -, rfl⟩ := Option.map_eq_some_iff.mp hreached
    exact Nat.succ_pos m
  unfold quotedLength? at h
  split at h
  · cases h
  · split at h
    · cases h
      exact Nat.one_pos
    · cases h
  · split at h
    · split at h
      · split at h <;> cases h <;> omega
      · cases h
        exact Nat.one_pos
    · split at h
      · split at h
        · cases h
          omega
        · exact hmap h
      · exact hmap h

theorem quotedLength?_blank {quote : Char} (hquote : isBlank quote = false) {w y : List Char}
    (hw : ∀ c ∈ w, isBlank c = true) (hy : y ≠ []) :
    quotedLength? quote (w ++ y) = (quotedLength? quote y).map (· + w.length) := by
  induction w with
  | nil => simp
  | cons b w ih =>
    have hb := hw b List.mem_cons_self
    have hrest := ih fun c hc => hw c (List.mem_cons_of_mem _ hc)
    have hne : b ≠ quote := ne_of_isBlank hb hquote
    have hslash : b ≠ '\\' := ne_of_isBlank hb (by decide)
    obtain ⟨d, more, hcons⟩ := List.exists_cons_of_ne_nil (List.append_ne_nil_of_right_ne_nil w hy)
    rw [hcons] at hrest
    rw [List.cons_append, hcons, quotedLength?, hrest]
    simp only [hne, hslash, if_false, decide_false, Bool.false_and, Bool.false_eq_true,
      Option.map_map]
    rfl

theorem blockCommentLength?_cons {c d : Char} {rest : List Char} (h : ¬ (c = '*' ∧ d = '/')) :
    blockCommentLength? (c :: d :: rest) = (blockCommentLength? (d :: rest)).map (· + 1) := by
  rw [blockCommentLength?]
  rintro _ rfl heq
  exact h ⟨rfl, (List.cons.inj heq).1⟩

theorem blockCommentLength?_pos {cs : List Char} {n : Nat} (h : blockCommentLength? cs = some n) :
    0 < n := by
  unfold blockCommentLength? at h
  split at h
  · cases h
  · cases h
    exact Nat.two_pos
  · obtain ⟨m, -, rfl⟩ := Option.map_eq_some_iff.mp h
    exact Nat.succ_pos m

theorem blockCommentLength?_blank {w y : List Char} (hw : ∀ c ∈ w, isBlank c = true) :
    blockCommentLength? (w ++ y) = (blockCommentLength? y).map (· + w.length) := by
  induction w with
  | nil => simp
  | cons b w ih =>
    have hstar : b ≠ '*' := ne_of_isBlank (hw b List.mem_cons_self) (by decide)
    rw [List.cons_append, blockCommentLength?, ih fun c hc => hw c (List.mem_cons_of_mem _ hc),
      Option.map_map]
    · rfl
    · exact fun _ heq _ => hstar heq

theorem bracketedLength?_of_inner {cs w y : List Char}
    (hinner : (cs.takeWhile fun c => c != '[' && c != ']').length = cs.length)
    (h : BlanksBeforeOn w y) : bracketedLength? (cs ++ (w ++ y)) =
      if y[(y.takeWhile fun c => c != '[' && c != ']').length]? = some ']' then
        some (cs.length + w.length + (y.takeWhile fun c => c != '[' && c != ']').length + 1)
      else none := by
  have hblank : w.takeWhile (fun c => c != '[' && c != ']') = w := by
    have happend : (w ++ []).takeWhile (fun c => c != '[' && c != ']') =
        w ++ [].takeWhile fun c => c != '[' && c != ']' :=
      List.takeWhile_append_of_pos fun b hb => by
        have hopen : b ≠ '[' := ne_of_isBlank (h.blank b hb) (by decide)
        have hclose : b ≠ ']' := ne_of_isBlank (h.blank b hb) (by decide)
        simp [hopen, hclose]
    simpa using happend
  simp only [bracketedLength?, List.takeWhile_append, hinner, hblank, if_true]
  generalize (y.takeWhile fun c => c != '[' && c != ']') = inner
  have hne : (cs ++ (w ++ inner)).isEmpty = false := by
    simp [h.ne]
  have hlength : (cs ++ (w ++ inner)).length = cs.length + w.length + inner.length := by
    rw [List.length_append, List.length_append, Nat.add_assoc]
  have hget : (cs ++ (w ++ y))[cs.length + w.length + inner.length]? = y[inner.length]? := by
    rw [← List.append_assoc, ← List.length_append, List.getElem?_append_right (by omega)]
    congr 1
    omega
  simp only [hne, hlength, hget, Bool.not_false, Bool.true_and, decide_eq_true_eq]

theorem lineCommentLength_cons {c : Char} (h : c ≠ '\r') (cs : List Char) :
    lineCommentLength (c :: cs) = if c = '\n' then 1 else lineCommentLength cs + 1 := by
  rw [lineCommentLength]
  · simp [h]
  · rintro _ rfl
    exact absurd rfl h

theorem lineCommentLength_pos {cs : List Char} (h : cs ≠ []) : 0 < lineCommentLength cs := by
  unfold lineCommentLength
  split
  · exact absurd rfl h
  · exact Nat.two_pos
  · split
    · exact Nat.one_pos
    · exact Nat.succ_pos _

theorem lineCommentLength_blank {w : List Char} (h : ∀ c ∈ w, c ≠ '\n' ∧ c ≠ '\r') (y : List Char) :
    lineCommentLength (w ++ y) = w.length + lineCommentLength y := by
  induction w with
  | nil => simp
  | cons b w ih =>
    obtain ⟨hfeed, hreturn⟩ := h b List.mem_cons_self
    rw [List.cons_append, lineCommentLength_cons hreturn, if_neg hfeed,
      ih fun c hc => h c (List.mem_cons_of_mem _ hc), List.length_cons]
    omega

namespace Gap

variable {w w' y : List Char} (h : Gap w w' y)
include h

theorem ne_nil : y ≠ [] := by
  obtain ⟨o, more, rfl, -⟩ := head_of_opensWithOn h.before.on
  exact List.cons_ne_nil o more

theorem quotedLength?_closes {quote : Char} (hquote : isBlank quote = false) : ∀ cs : List Char,
    Closes w.length cs.length (quotedLength? quote (cs ++ (w ++ y)))
      (quotedLength? quote (cs ++ (w' ++ y)))
  | [] => by
    rw [List.nil_append, List.nil_append, quotedLength?_blank hquote h.before.blank h.ne_nil,
      quotedLength?_blank hquote h.other.blank h.ne_nil]
    exact .of_blanks (fun _ => quotedLength?_pos) _ _
  | [c] => by
    have hnext := (quotedLength?_closes hquote []).map_add 1
    obtain ⟨b, rest, hb, hrest⟩ := h.before.exists_cons
    obtain ⟨b', rest', hb', hrest'⟩ := h.other.exists_cons
    have hne : b ≠ quote := ne_of_isBlank hb hquote
    have hne' : b' ≠ quote := ne_of_isBlank hb' hquote
    simp only [List.nil_append, List.length_nil, hrest, hrest', List.cons_append,
      List.length_singleton, quotedLength?, hne, hne', if_false, decide_false, Bool.and_false,
      Bool.false_eq_true] at hnext ⊢
    by_cases hc : c = quote
    · simp only [hc, if_true]
      exact .within (Nat.le_refl _)
    · simpa only [hc, if_false] using hnext
  | c :: d :: rest => by
    have hfar := quotedLength?_closes hquote rest
    have hnear := (quotedLength?_closes hquote (d :: rest)).map_add 1
    simp only [List.cons_append, quotedLength?, List.length_cons] at hnear ⊢
    generalize quotedLength? quote (rest ++ (w ++ y)) = far at hfar
    generalize quotedLength? quote (rest ++ (w' ++ y)) = far' at hfar
    split
    · split
      · -- a doubled quote belongs to the text if another one closes it, and closes it otherwise
        cases hfar with
        | within hle => exact .within (by omega)
        | across n' hlt => exact .across _ (by omega)
        | never => exact .within (by omega)
      · exact .within (by omega)
    · split
      · cases hfar with
        | within hle => exact .within (by omega)
        | across n' hlt => exact .across _ (by omega)
        | never => exact hnear
      · exact hnear

theorem blockCommentLength?_closes : ∀ cs : List Char,
    Closes w.length cs.length (blockCommentLength? (cs ++ (w ++ y)))
      (blockCommentLength? (cs ++ (w' ++ y)))
  | [] => by
    rw [List.nil_append, List.nil_append, blockCommentLength?_blank h.before.blank,
      blockCommentLength?_blank h.other.blank]
    exact .of_blanks (fun _ => blockCommentLength?_pos) _ _
  | [c] => by
    have hnext := (blockCommentLength?_closes []).map_add 1
    obtain ⟨b, rest, hb, hrest⟩ := h.before.exists_cons
    obtain ⟨b', rest', hb', hrest'⟩ := h.other.exists_cons
    have hne : b ≠ '/' := ne_of_isBlank hb (by decide)
    have hne' : b' ≠ '/' := ne_of_isBlank hb' (by decide)
    simp only [List.nil_append, List.length_nil, List.cons_append, hrest, hrest',
      List.length_singleton] at hnext ⊢
    rw [blockCommentLength?_cons fun heq => hne heq.2,
      blockCommentLength?_cons fun heq => hne' heq.2]
    exact hnext
  | c :: d :: rest => by
    have hnear := (blockCommentLength?_closes (d :: rest)).map_add 1
    by_cases hclosed : c = '*' ∧ d = '/'
    · obtain ⟨rfl, rfl⟩ := hclosed
      simp only [List.cons_append, blockCommentLength?, List.length_cons]
      exact .within (by omega)
    · simp only [List.cons_append, List.length_cons] at hnear ⊢
      rw [blockCommentLength?_cons hclosed, blockCommentLength?_cons hclosed]
      exact hnear

theorem bracketedLength?_closes (cs : List Char) :
    Closes w.length cs.length (bracketedLength? (cs ++ (w ++ y)))
      (bracketedLength? (cs ++ (w' ++ y))) := by
  by_cases hinner : (cs.takeWhile fun c => c != '[' && c != ']').length = cs.length
  · rw [bracketedLength?_of_inner hinner h.before, bracketedLength?_of_inner hinner h.other]
    split
    · exact .across _ (by omega)
    · exact .never
  · -- a bracket before the blanks closes the name, or it is none
    have hlt : (cs.takeWhile fun c => c != '[' && c != ']').length < cs.length :=
      Nat.lt_of_le_of_ne (List.takeWhile_prefix _).length_le hinner
    have hsame : ∀ rest, bracketedLength? (cs ++ rest) = bracketedLength? cs := by
      intro rest
      simp only [bracketedLength?, List.takeWhile_append, if_neg hinner,
        List.getElem?_append_left hlt]
    rw [hsame, hsame]
    unfold bracketedLength?
    dsimp only
    split
    · exact .within hlt
    · exact .never

theorem lineCommentLength_closes : ∀ cs : List Char, cs.getLast? ≠ some '\r' →
    Closes w.length cs.length (some (lineCommentLength (cs ++ (w ++ y))))
      (some (lineCommentLength (cs ++ (w' ++ y))))
  | [], _ => by
    refine .across _ ?_
    rw [List.nil_append, lineCommentLength_blank h.inline, List.length_nil]
    have hpos := lineCommentLength_pos h.ne_nil
    omega
  | [c], hlast => by
    have hc : c ≠ '\r' := fun heq => hlast (heq ▸ rfl)
    have hnext := (lineCommentLength_closes [] nofun).map_add 1
    simp only [List.cons_append, List.nil_append, lineCommentLength_cons hc]
    split
    · exact .within (Nat.le_refl _)
    · exact hnext
  | c :: d :: rest, hlast => by
    have hnear := (lineCommentLength_closes (d :: rest) (getLast?_ne_of_cons hlast)).map_add 1
    by_cases hc : c = '\r'
    · subst hc
      have hclosed : ∀ more, lineCommentLength ('\r' :: d :: more) = if d = '\n' then 2 else 1 := by
        intro more
        by_cases hd : d = '\n'
        · simp [lineCommentLength, hd]
        · simp [lineCommentLength, hd]
      simp only [List.cons_append, hclosed, List.length_cons]
      exact .within (by split <;> omega)
    · simp only [List.cons_append, List.length_cons] at hnear ⊢
      rw [lineCommentLength_cons hc, lineCommentLength_cons hc]
      split
      · exact .within (by omega)
      · exact hnear

end Gap

/-! ## Lengths

A token is not empty, and not longer than the text. -/

theorem digitsLength?_le {cs : List Char} {n : Nat} (h : digitsLength? cs = some n) :
    0 < n ∧ n ≤ cs.length := by
  have hle : (cs.takeWhile fun c => (digit? c).isSome).length ≤ cs.length :=
    (List.takeWhile_prefix _).length_le
  unfold digitsLength? at h
  dsimp only at h
  split at h
  all_goals
    split at h
    · have hn := Option.some.inj h
      omega
    · cases h

theorem unsignedLength?_le {cs : List Char} {n : Nat} (h : unsignedLength? cs = some n) :
    0 < n ∧ n ≤ cs.length := by
  unfold unsignedLength? at h
  dsimp only at h
  split at h
  · next rest hpoint =>
    have hlength := congrArg List.length hpoint
    rw [List.length_drop, List.length_cons] at hlength
    split at h
    · next m hm =>
      obtain ⟨hpos, hle⟩ := digitsLength?_le hm
      have hn := Option.some.inj h
      omega
    · split at h
      · have hn := Option.some.inj h
        omega
      · exact digitsLength?_le h
  · exact digitsLength?_le h

theorem numberLength?_le {cs : List Char} {n : Nat} (h : numberLength? cs = some n) :
    0 < n ∧ n ≤ cs.length := by
  unfold numberLength? at h
  split at h
  · obtain ⟨m, hm, rfl⟩ := Option.map_eq_some_iff.mp h
    have hle := (unsignedLength?_le hm).2
    exact ⟨Nat.succ_pos m, Nat.succ_le_succ hle⟩
  · exact unsignedLength?_le h

theorem nameLength?_le {marks n : Nat} {name : List Char} (h : nameLength? marks name = some n) :
    marks < n ∧ n ≤ marks + name.length := by
  have hle : wordLength name ≤ name.length := (List.takeWhile_prefix _).length_le
  unfold nameLength? at h
  split at h
  · next hname =>
    have hlong : 1 < wordLength name := by
      simp only [Bool.and_eq_true, decide_eq_true_eq] at hname
      exact hname.2
    have hn := Option.some.inj h
    omega
  · cases h

theorem markedLength?_le {c : Char} {cs : List Char} {n : Nat}
    (h : markedLength? (c :: cs) = some n) : 0 < n ∧ n ≤ cs.length + 1 := by
  rw [markedLength?_eq] at h
  split at h
  · split at h
    · next hhash =>
      obtain ⟨d, more, rfl⟩ : ∃ d more, cs = d :: more := by
        cases cs with
        | nil => cases hhash
        | cons d more => exact ⟨d, more, rfl⟩
      have hn := nameLength?_le h
      rw [List.tail_cons] at hn
      rw [List.length_cons]
      omega
    · have hn := nameLength?_le h
      omega
  · split at h
    · have hn := nameLength?_le h
      omega
    · cases h

theorem phraseLength?_le {words : List String} (hne : "" ∉ words) {cs : List Char} {n : Nat}
    (h : phraseLength? words cs = some n) : 0 < n ∧ n ≤ cs.length := by
  have hpos : ∀ {word : String}, word ≠ "" → 0 < word.length := fun hword =>
    Nat.pos_of_ne_zero fun hzero => hword (String.length_eq_zero_iff.mp hzero)
  induction words generalizing cs n with
  | nil => cases h
  | cons word words ih =>
    rw [List.mem_cons, not_or] at hne
    have hword := hpos (Ne.symm hne.1)
    cases words with
    | nil =>
      simp only [phraseLength?] at h
      split at h
      · next hstarts =>
        cases h
        exact ⟨hword, length_le_of_startsWithWord hstarts⟩
      · cases h
    | cons next words =>
      rw [phraseLength?_cons_cons] at h
      split at h
      · next hstarts =>
        rw [Bool.and_eq_true] at hstarts
        obtain ⟨m, hm, hsum⟩ := Option.map_eq_some_iff.mp h
        have hle := (ih hne.2 hm).2
        have hfirst := length_le_of_startsWithWord hstarts.1
        have hsplit := congrArg List.length
          (List.takeWhile_append_dropWhile (p := isBlank) (l := cs.drop word.length))
        rw [List.length_append, List.length_drop] at hsplit
        omega
      · cases h

theorem anyPhraseLength?_le {choices : List (List String)}
    (hchoices : ∀ words ∈ choices, "" ∉ words) {cs : List Char} {n : Nat}
    (h : anyPhraseLength? choices cs = some n) : 0 < n ∧ n ≤ cs.length := by
  obtain ⟨words, hmem, hwords⟩ := List.exists_of_findSome?_eq_some h
  exact phraseLength?_le (hchoices words hmem) hwords

theorem length_takeWhile_pos {p : Char → Bool} {c : Char} (h : p c = true) (cs : List Char) :
    0 < ((c :: cs).takeWhile p).length ∧ ((c :: cs).takeWhile p).length ≤ cs.length + 1 := by
  refine ⟨?_, (List.takeWhile_prefix p).length_le⟩
  rw [List.takeWhile_cons_of_pos h]
  exact Nat.succ_pos _

theorem wordToken_le (before : Option Char) {c : Char} (h : isWordChar c = true) (cs : List Char) :
    0 < (wordToken before (c :: cs)).2 ∧ (wordToken before (c :: cs)).2 ≤ cs.length + 1 := by
  have hword := length_takeWhile_pos h cs
  unfold wordToken
  dsimp only
  split
  · exact hword
  · split
    · exact hword
    · split
      · next n hn => exact numberLength?_le hn
      · split
        · next n hn => exact anyPhraseLength?_le (by decide) hn
        · next n hn _ => exact anyPhraseLength?_le (by decide) hn
        · exact length_takeWhile_pos (by simp [h]) cs

/-! ## Tokens -/

/-- The token that a mark opens if something closes it: a text or a name in quotes, or a name in
brackets. -/
def quotedToken? (before : Option Char) (c : Char) (rest : List Char) : Option (TokenKind × Nat) :=
  match c with
  | '\'' => (quotedLength? c rest).map fun n => (.string, n + 1)
  | '"' => (quotedLength? c rest).map fun n => (.symbol, n + 1)
  | '[' =>
    if before.any fun b => isWordChar b || b = ']' || b = ')' then none
    else (bracketedLength? rest).map fun n => (.name, n + 1)
  | _ => none

/-- The token that a mark is part of if it opens nothing. -/
def signToken (c : Char) (rest : List Char) : TokenKind × Nat :=
  if punctuates c then (.punctuation, 1)
  else if c = '-' then (.operator, 1)
  else if compares c then (.comparison, ((c :: rest).takeWhile compares).length)
  else if operates c then (.operator, ((c :: rest).takeWhile operates).length)
  else (.other, 1)

theorem markToken_eq (before : Option Char) (c : Char) (rest : List Char) :
    markToken before c rest =
      (((markedLength? (c :: rest)).map fun n => (TokenKind.name, n)).or
        ((numberLength? (c :: rest)).map fun n => (TokenKind.number, n))).getD
        ((quotedToken? before c rest).getD (signToken c rest)) := by
  unfold markToken
  dsimp only
  cases markedLength? (c :: rest) with
  | some n => rfl
  | none =>
    cases numberLength? (c :: rest) with
    | some n => rfl
    | none =>
      dsimp only
      split
      · next found heq =>
        have hquoted : quotedToken? before c rest = some found := heq
        rw [hquoted]
        rfl
      · next heq =>
        have hquoted : quotedToken? before c rest = none := heq
        rw [hquoted]
        rfl

/-- The token at the start of a text where no comment starts. -/
def plainToken (before : Option Char) (c : Char) (rest : List Char) : TokenKind × Nat :=
  if c = '\r' then (.newline, if rest.head? = some '\n' then 2 else 1)
  else if c = '\n' then (.newline, 1)
  else if isBlank c then (.blank, 1)
  else if c = '*' then (.wildcard, 1)
  else if isWordChar c then wordToken before (c :: rest)
  else markToken before c rest

theorem tokenAt_eq (before : Option Char) (c : Char) (rest : List Char) :
    tokenAt before c rest =
      if (c = '-' && rest.head? = some '-') || (c = '#' && rest.head? = some ' ') then
        (.lineComment, lineCommentLength (rest.drop 1) + 2)
      else
        ((if c = '/' && rest.head? = some '*' then blockCommentLength? (rest.drop 1) else none).map
          fun n => (TokenKind.blockComment, n + 2)).getD (plainToken before c rest) := by
  unfold tokenAt
  dsimp only
  split
  · rw [Nat.add_comm]
  · cases (if c = '/' && rest.head? = some '*' then blockCommentLength? (rest.drop 1) else none) <;>
      rfl

/-- The first character of a token that may go on through blanks, and its kind. -/
inductive Encloses : Char → TokenKind → Prop
  | string : Encloses '\'' .string
  | symbol : Encloses '"' .symbol
  | name : Encloses '[' .name
  | blockComment : Encloses '/' .blockComment
  | lineComment {c : Char} (h : c = '-' ∨ c = '#') : Encloses c .lineComment

/-- The token that starts `count` characters before blanks of some width, and the one that starts
there with other blanks in their place: they are the same and end before the blanks, or the first
one goes on behind them. -/
inductive Meets (width count : Nat) (c : Char) : TokenKind × Nat → TokenKind × Nat → Prop
  | within {found : TokenKind × Nat} (hpos : 0 < found.2) (hle : found.2 ≤ count) :
    Meets width count c found found
  | across {found : TokenKind × Nat} (found' : TokenKind × Nat) (hkind : Encloses c found.1)
    (hlt : count + width < found.2) : Meets width count c found found'

theorem Closes.meets {width count more : Nat} {reached reached' : Option Nat}
    (h : Closes width count reached reached') {c : Char} {kind : TokenKind} (hkind : Encloses c kind)
    (hmore : 0 < more) {other other' : TokenKind × Nat}
    (hother : Meets width (count + more) c other other') :
    Meets width (count + more) c ((reached.map fun n => (kind, n + more)).getD other)
      ((reached'.map fun n => (kind, n + more)).getD other') := by
  cases h with
  | within hle => exact .within (Nat.add_pos_right _ hmore) (Nat.add_le_add_right hle more)
  | across n' hlt =>
    refine .across _ hkind ?_
    show count + more + width < _ + more
    omega
  | never => exact hother

namespace Gap

variable {w w' y : List Char} (h : Gap w w' y)
include h

theorem signToken_meets {c : Char} (cs : List Char) :
    Meets w.length (cs.length + 1) c (signToken c (cs ++ (w ++ y)))
      (signToken c (cs ++ (w' ++ y))) := by
  obtain ⟨b, rest, hb, hrest⟩ := h.before.exists_cons
  obtain ⟨b', rest', hb', hrest'⟩ := h.other.exists_cons
  have hends : ∀ {b : Char}, isBlank b = true → compares b = false ∧ operates b = false := by
    intro b hb
    have hcodes : ∀ n ∈ blankCodes,
        compares (Char.ofNat n) = false ∧ operates (Char.ofNat n) = false := by decide +kernel
    rw [← Char.ofNat_toNat b]
    exact hcodes _ (toNat_mem_blankCodes hb)
  have hsame : ∀ {b : Char}, isBlank b = true → ∀ rest,
      signToken c (cs ++ b :: rest) = signToken c cs := by
    intro b hb rest
    have hcompares := takeWhile_append_cons (hends hb).1 (c :: cs) rest
    have hoperates := takeWhile_append_cons (hends hb).2 (c :: cs) rest
    rw [List.cons_append] at hcompares hoperates
    simp only [signToken, hcompares, hoperates]
  have hle : 0 < (signToken c cs).2 ∧ (signToken c cs).2 ≤ cs.length + 1 := by
    unfold signToken
    split
    · exact ⟨Nat.one_pos, Nat.le_add_left 1 _⟩
    · split
      · exact ⟨Nat.one_pos, Nat.le_add_left 1 _⟩
      · split
        · next hc => exact length_takeWhile_pos hc cs
        · split
          · next hc => exact length_takeWhile_pos hc cs
          · exact ⟨Nat.one_pos, Nat.le_add_left 1 _⟩
  rw [hrest, hrest', hsame hb, hsame hb']
  exact .within hle.1 hle.2

theorem markToken_meets (before : Option Char) {c : Char} (cs : List Char) :
    Meets w.length (cs.length + 1) c (markToken before c (cs ++ (w ++ y)))
      (markToken before c (cs ++ (w' ++ y))) := by
  obtain ⟨b, rest, hb, hrest⟩ := h.before.exists_cons
  obtain ⟨b', rest', hb', hrest'⟩ := h.other.exists_cons
  have hsign := h.signToken_meets (c := c) cs
  have hquoted : Meets w.length (cs.length + 1) c
      ((quotedToken? before c (cs ++ (w ++ y))).getD (signToken c (cs ++ (w ++ y))))
      ((quotedToken? before c (cs ++ (w' ++ y))).getD (signToken c (cs ++ (w' ++ y)))) := by
    unfold quotedToken?
    split
    · exact (h.quotedLength?_closes (by decide) cs).meets .string Nat.one_pos hsign
    · exact (h.quotedLength?_closes (by decide) cs).meets .symbol Nat.one_pos hsign
    · split
      · exact hsign
      · exact (h.bracketedLength?_closes cs).meets .name Nat.one_pos hsign
    · exact hsign
  rw [markToken_eq, markToken_eq]
  generalize (quotedToken? before c (cs ++ (w ++ y))).getD (signToken c (cs ++ (w ++ y))) = other
    at hquoted
  generalize (quotedToken? before c (cs ++ (w' ++ y))).getD (signToken c (cs ++ (w' ++ y))) = other'
    at hquoted
  have hmarked := markedLength?_append_blank hb cs rest c
  have hmarked' := markedLength?_append_blank hb' cs rest' c
  have hnumber := numberLength?_append_blank hb (c :: cs) rest
  have hnumber' := numberLength?_append_blank hb' (c :: cs) rest'
  rw [List.cons_append] at hmarked hmarked' hnumber hnumber'
  rw [hrest, hrest', hmarked, hmarked', hnumber, hnumber']
  cases hname : markedLength? (c :: cs) with
  | some n =>
    obtain ⟨hpos, hle⟩ := markedLength?_le hname
    exact .within hpos hle
  | none =>
    cases hfound : numberLength? (c :: cs) with
    | some n =>
      obtain ⟨hpos, hle⟩ := numberLength?_le hfound
      exact .within hpos hle
    | none => exact hquoted

theorem plainToken_meets (before : Option Char) {c : Char} (cs : List Char)
    (hlast : (c :: cs).getLast? ≠ some '\r') :
    Meets w.length (cs.length + 1) c (plainToken before c (cs ++ (w ++ y)))
      (plainToken before c (cs ++ (w' ++ y))) := by
  have hone : ∀ kind, Meets w.length (cs.length + 1) c (kind, 1) (kind, 1) :=
    fun _ => .within Nat.one_pos (Nat.le_add_left 1 _)
  unfold plainToken
  split
  · next hc =>
    cases cs with
    | nil => exact absurd (congrArg some hc) hlast
    | cons d cs =>
      refine .within ?_ ?_
      · show 0 < if _ then 2 else 1
        split <;> omega
      · show (if _ then 2 else 1) ≤ cs.length + 1 + 1
        split <;> omega
  · split
    · exact hone _
    · split
      · exact hone _
      · split
        · exact hone _
        · split
          · next hword =>
            have hwords := h.before.wordToken_append before c cs
            have hwords' := h.other.wordToken_append before c cs
            rw [List.cons_append] at hwords hwords'
            obtain ⟨hpos, hle⟩ := wordToken_le before hword cs
            rw [hwords, hwords']
            exact .within hpos hle
          · exact h.markToken_meets before cs

/-- A comment sign between its character and blanks there is none, but for a number sign before a
space. -/
theorem tokenAt_meets_nil (before : Option Char) {c : Char}
    (hplain : Meets w.length 1 c (plainToken before c (w ++ y)) (plainToken before c (w' ++ y))) :
    Meets w.length 1 c (tokenAt before c (w ++ y)) (tokenAt before c (w' ++ y)) := by
  obtain ⟨b, rest, hrest⟩ := List.exists_cons_of_ne_nil h.before.ne
  obtain ⟨b', rest', hrest'⟩ := List.exists_cons_of_ne_nil h.other.ne
  have hfeed : b' = '\n' := by
    have hhead := h.feed
    rw [hrest'] at hhead
    exact Option.some.inj hhead
  have hb : isBlank b = true := h.before.blank b (hrest ▸ List.mem_cons_self)
  have hminus : b ≠ '-' := ne_of_isBlank hb (by decide)
  have hstar : b ≠ '*' := ne_of_isBlank hb (by decide)
  have hother : tokenAt before c (w' ++ y) = plainToken before c (w' ++ y) := by
    rw [tokenAt_eq, hrest', hfeed]
    simp
  rw [hother]
  by_cases hhash : c = '#' ∧ b = ' '
  · obtain ⟨rfl, rfl⟩ := hhash
    have hpos := lineCommentLength_pos h.ne_nil
    have hinline := lineCommentLength_blank
      (fun c hc => h.inline c (hrest ▸ List.mem_cons_of_mem _ hc)) y
    refine .across _ ?_ ?_
    · rw [tokenAt_eq, hrest]
      exact .lineComment (.inr rfl)
    · rw [tokenAt_eq, hrest]
      simp only [List.cons_append, List.head?_cons, List.drop_one, List.tail_cons, decide_true,
        Bool.and_true, Bool.or_true, if_true, hinline, List.length_cons]
      omega
  · have hsame : tokenAt before c (w ++ y) = plainToken before c (w ++ y) := by
      have hspace : (decide (c = '#') && decide (b = ' ')) = false := by
        rw [← Bool.decide_and, decide_eq_false hhash]
      rw [tokenAt_eq, hrest]
      simp [hminus, hstar, hspace]
    rwa [hsame]

/-- **A token that starts before the blanks** ends before them, whatever blanks they are, or goes on
behind them. -/
theorem tokenAt_meets (before : Option Char) {c : Char} (cs : List Char)
    (hlast : (c :: cs).getLast? ≠ some '\r') :
    Meets w.length (cs.length + 1) c (tokenAt before c (cs ++ (w ++ y)))
      (tokenAt before c (cs ++ (w' ++ y))) := by
  have hplain := h.plainToken_meets before cs hlast
  cases cs with
  | nil => exact h.tokenAt_meets_nil before hplain
  | cons d cs =>
    have hlast' : cs.getLast? ≠ some '\r' := getLast?_ne_of_cons (getLast?_ne_of_cons hlast)
    rw [tokenAt_eq, tokenAt_eq]
    simp only [List.cons_append, List.head?_cons, List.drop_one, List.tail_cons] at hplain ⊢
    by_cases hline : (c = '-' && d = '-' || c = '#' && d = ' ') = true
    · have hkind : Encloses c .lineComment := by
        simp only [Bool.or_eq_true, Bool.and_eq_true, decide_eq_true_eq] at hline
        exact .lineComment (hline.imp And.left And.left)
      simp only [Option.some.injEq, hline, if_true]
      exact (h.lineCommentLength_closes cs hlast').meets hkind Nat.two_pos hplain
    · simp only [Option.some.injEq, hline, Bool.false_eq_true, if_false]
      by_cases hblock : (c = '/' && d = '*') = true
      · have hkind : Encloses c .blockComment := by
          simp only [Bool.and_eq_true, decide_eq_true_eq] at hblock
          exact hblock.1 ▸ .blockComment
        simp only [hblock, if_true]
        exact (h.blockCommentLength?_closes cs).meets hkind Nat.two_pos hplain
      · simp only [hblock, Bool.false_eq_true, if_false]
        exact hplain

end Gap

end SqlDesk.Sql
