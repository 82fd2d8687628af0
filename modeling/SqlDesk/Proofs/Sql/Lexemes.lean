/-
The tokens of a text with other blanks before one of its ONs.

Either the ON is a token of the text; then the blanks before it may be others, and neither the
tokens that are no white space nor what is behind the ON changes. Or it stands within a quoted text,
a name in brackets or a comment; then the tokens of the two texts part at that token
(`Gap.outcome`), and whatever happens behind, they stay apart (`Parts.gap`).
-/
import SqlDesk.Sql.Statement
import SqlDesk.Proofs.Sql.Extent

namespace SqlDesk.Sql

open Text

/-- The tokens of a text that are no white space. -/
def lexemes (cs : List Char) : List Token :=
  (tokens cs).filter (!·.isBlank)

/-- A token of a text that starts where the text goes on with `rest`. -/
def TokenAt (text rest : List Char) (token : Token) : Prop :=
  ∃ front back, tokens text = front ++ token :: back ∧ text = textOf front ++ rest

/-- A text goes on with `rest` where it has the word ON as a token. -/
def OnAt (text rest : List Char) : Prop :=
  ∃ token, TokenAt text rest token ∧ capitals token.text = "ON".toList

@[simp] theorem textOf_nil : textOf [] = [] := rfl

@[simp] theorem textOf_cons (token : Token) (ts : List Token) :
    textOf (token :: ts) = token.text ++ textOf ts := by
  rw [textOf, textOf, List.flatMap_cons]

@[simp] theorem textOf_append (ts us : List Token) :
    textOf (ts ++ us) = textOf ts ++ textOf us := by
  rw [textOf, textOf, textOf, List.flatMap_append]

/-! ## White space -/

theorem isBlank_wordToken (before : Option Char) (cs text : List Char) :
    Token.isBlank ⟨(wordToken before cs).1, text⟩ = false := by
  have hkind : ∀ word, Token.isBlank ⟨wordKind word, text⟩ = false := by
    intro word
    unfold wordKind
    dsimp only
    repeat' split
    all_goals rfl
  unfold wordToken
  dsimp only
  repeat' split
  all_goals first | rfl | exact hkind _

theorem isBlank_markToken (before : Option Char) (c : Char) (rest text : List Char) :
    Token.isBlank ⟨(markToken before c rest).1, text⟩ = false := by
  have hsign : Token.isBlank ⟨(signToken c rest).1, text⟩ = false := by
    unfold signToken
    repeat' split
    all_goals rfl
  have hquoted : Token.isBlank ⟨((quotedToken? before c rest).getD (signToken c rest)).1, text⟩ =
      false := by
    unfold quotedToken?
    split
    · cases quotedLength? '\'' rest <;> rfl
    · cases quotedLength? '"' rest <;> rfl
    · split
      · exact hsign
      · cases bracketedLength? rest <;> rfl
    · exact hsign
  rw [markToken_eq]
  cases markedLength? (c :: rest) with
  | some n => rfl
  | none =>
    cases numberLength? (c :: rest) with
    | some n => rfl
    | none => exact hquoted

theorem isBlank_plainToken (before : Option Char) (c : Char) (rest text : List Char) :
    Token.isBlank ⟨(plainToken before c rest).1, text⟩ = isBlank c := by
  unfold plainToken
  split
  · next hc => rw [hc]; rfl
  · split
    · next hc => rw [hc]; rfl
    · split
      · next hc => rw [hc]; rfl
      · next hc =>
        rw [Bool.not_eq_true] at hc
        rw [hc]
        split
        · rfl
        · split
          · exact isBlank_wordToken before _ text
          · exact isBlank_markToken before c rest text

/-- **A token is white space** just if its first character is. -/
theorem isBlank_tokenAt (before : Option Char) (c : Char) (rest text : List Char) :
    Token.isBlank ⟨(tokenAt before c rest).1, text⟩ = isBlank c := by
  have hplain := isBlank_plainToken before c rest text
  rw [tokenAt_eq]
  split
  · next hcomment =>
    have hc : c = '-' ∨ c = '#' := by
      simp only [Bool.or_eq_true, Bool.and_eq_true, decide_eq_true_eq] at hcomment
      exact hcomment.imp And.left And.left
    rcases hc with rfl | rfl <;> rfl
  · split
    · next hcomment =>
      have hc : c = '/' := by
        simp only [Bool.and_eq_true, decide_eq_true_eq] at hcomment
        exact hcomment.1
      cases blockCommentLength? (rest.drop 1) with
      | some n => rw [hc]; rfl
      | none => exact hplain
    · exact hplain

theorem tokensFrom_blank (before : Option Char) {c : Char} (hc : isBlank c = true)
    (hreturn : c ≠ '\r') (rest : List Char) : ∃ token, token.isBlank = true ∧ token.text = [c] ∧
      tokensFrom before 0 (c :: rest) = token :: tokensFrom (some c) 0 rest := by
  have hminus : c ≠ '-' := ne_of_isBlank hc (by decide)
  have hhash : c ≠ '#' := ne_of_isBlank hc (by decide)
  have hslash : c ≠ '/' := ne_of_isBlank hc (by decide)
  obtain ⟨kind, hkind⟩ : ∃ kind, tokenAt before c rest = (kind, 1) := by
    simp only [tokenAt_eq, plainToken, hminus, hhash, hslash, hreturn, hc, decide_false,
      Bool.false_and, Bool.or_false, Bool.false_eq_true, if_false, if_true, Option.map_none,
      Option.getD_none]
    split
    · exact ⟨_, rfl⟩
    · exact ⟨_, rfl⟩
  have hblank := isBlank_tokenAt before c rest [c]
  rw [hkind, hc] at hblank
  refine ⟨⟨kind, [c]⟩, hblank, rfl, ?_⟩
  rw [tokensFrom, hkind]
  rfl

/-! ## The ON -/

section

variable {y : List Char} (hy : Engine.opensWithOn y = true)
include hy

theorem exists_cons_of_on : ∃ o rest, y = o :: rest ∧
    ∀ before, tokenAt before o rest = wordToken before y := by
  obtain ⟨o, n, b, more, rfl, ho, -, -⟩ := exists_of_opensWithOn hy
  refine ⟨o, _, rfl, fun before => ?_⟩
  have hword : isWordChar o = true := by
    rcases ho with rfl | rfl <;> decide +kernel
  have hmarks : o ≠ '-' ∧ o ≠ '#' ∧ o ≠ '/' ∧ o ≠ '\r' ∧ o ≠ '\n' ∧ isBlank o = false ∧
      o ≠ '*' := by
    rcases ho with rfl | rfl <;> decide
  obtain ⟨hminus, hhash, hslash, hreturn, hfeed, hblank, hstar⟩ := hmarks
  simp only [tokenAt_eq, plainToken, hminus, hhash, hslash, hreturn, hfeed, hblank, hstar, hword,
    decide_false, Bool.false_and, Bool.or_false, Bool.false_eq_true, if_false, if_true,
    Option.map_none, Option.getD_none]

/-- What is read from an ON on does not depend on which blank is before it. -/
theorem tokensFrom_on {b : Char} (hb : isBlank b = true) :
    tokensFrom (some b) 0 y = tokensFrom (some ' ') 0 y := by
  have hdot : b ≠ '.' := ne_of_isBlank hb (by decide)
  have hnamed : ∀ cs, namedByNeighbour (some b) cs = namedByNeighbour (some ' ') cs := by
    intro cs
    simp [namedByNeighbour, hdot]
  have hword : wordToken (some b) y = wordToken (some ' ') y := by
    simp only [wordToken, hnamed]
  obtain ⟨o, rest, hcons, htoken⟩ := exists_cons_of_on hy
  have hblank := htoken (some b)
  have hspace := htoken (some ' ')
  rw [hword, ← hspace] at hblank
  rw [hcons, tokensFrom, tokensFrom, hblank]

theorem length_wordToken_on (before : Option Char) : (wordToken before y).2 = 2 := by
  have hlength : wordLength y = 2 := by
    have htake := congrArg List.length (takeWhile_isWordChar_on hy)
    rwa [capitals, List.length_map] at htake
  have hphrases : ∀ {choices : List (List String)},
      (∀ words ∈ choices, words ≠ [] ∧ words.head? ≠ some "ON") →
        anyPhraseLength? choices y = none := by
    intro choices hchoices
    rw [anyPhraseLength?, List.findSome?_eq_none_iff]
    intro words hmem
    obtain ⟨hne, hhead⟩ := hchoices words hmem
    obtain ⟨word, more, rfl⟩ := List.exists_cons_of_ne_nil hne
    exact phraseLength?_on hy (fun heq => hhead (heq ▸ rfl)) more
  have hstated : anyPhraseLength? phrases y = none := hphrases (by decide)
  have hcompared : anyPhraseLength? comparingPhrases y = none := hphrases (by decide)
  obtain ⟨o, n, b, more, rfl, ho, hn, hb⟩ := exists_of_opensWithOn hy
  have hdigit : digit? o = none ∧ opensWord o = true ∧ o ≠ '.' ∧ o ≠ '-' := by
    rcases ho with rfl | rfl <;> decide +kernel
  have hword : isWordChar o = true ∧ isWordChar n = true := by
    rcases ho with rfl | rfl <;> rcases hn with rfl | rfl <;> decide +kernel
  obtain ⟨hdigit, hopens, hpoint, hminus⟩ := hdigit
  have hnumber : numberLength? (o :: n :: b :: more) = none := by
    simp [numberLength?, unsignedLength?, digitsLength?, startsWord, hdigit, hopens, hpoint, hminus]
  have hwhole : ((o :: n :: b :: more).takeWhile fun c => isWordChar c || c = '$' || c = '#') =
      [o, n] := by
    have hdollar : b ≠ '$' := ne_of_isBlank hb (by decide)
    have hhash : b ≠ '#' := ne_of_isBlank hb (by decide)
    simp [hword, isWordChar_of_isBlank hb, hdollar, hhash]
  unfold wordToken
  simp only [hlength, hnumber, hstated, hcompared, hwhole]
  repeat' split
  all_goals rfl

theorem exists_tokensFrom_on (before : Option Char) :
    ∃ token back, tokensFrom before 0 y = token :: back ∧ capitals token.text = "ON".toList := by
  obtain ⟨o, rest, hcons, htoken⟩ := exists_cons_of_on hy
  have hletters : capitals (y.take 2) = "ON".toList := by
    obtain ⟨o, n, b, more, rfl, ho, hn, -⟩ := exists_of_opensWithOn hy
    rcases ho with rfl | rfl <;> rcases hn with rfl | rfl <;> rfl
  have hlength := length_wordToken_on hy before
  rcases hfound : wordToken before y with ⟨kind, n⟩
  rw [hfound] at hlength
  obtain rfl : n = 2 := hlength
  refine ⟨⟨kind, y.take 2⟩, tokensFrom (some o) 1 rest, ?_, hletters⟩
  rw [hcons, tokensFrom, htoken, hfound]

end

/-- Blanks before an ON are read one by one, and then the ON. -/
theorem BlanksBeforeOn.tokensFrom_append {w y : List Char} (h : BlanksBeforeOn w y)
    (hreturn : ∀ c ∈ w, c ≠ '\r') (before : Option Char) :
    ∃ blanks, (∀ token ∈ blanks, token.isBlank = true) ∧ textOf blanks = w ∧
      tokensFrom before 0 (w ++ y) = blanks ++ tokensFrom (some ' ') 0 y := by
  obtain ⟨hne, hblank, hon⟩ := h
  induction w generalizing before with
  | nil => exact absurd rfl hne
  | cons b w ih =>
    have hb := hblank b List.mem_cons_self
    obtain ⟨token, htoken, htext, hfirst⟩ :=
      tokensFrom_blank before hb (hreturn b List.mem_cons_self) (w ++ y)
    rw [List.cons_append, hfirst]
    by_cases hw : w = []
    · subst hw
      refine ⟨[token], by simpa using htoken, by simp [htext], ?_⟩
      rw [List.nil_append, tokensFrom_on hon hb, List.singleton_append]
    · obtain ⟨blanks, hblanks, hrest, heq⟩ :=
        ih (fun c hc => hreturn c (List.mem_cons_of_mem _ hc)) (some b) hw
          fun c hc => hblank c (List.mem_cons_of_mem _ hc)
      refine ⟨token :: blanks, List.forall_mem_cons.mpr ⟨htoken, hblanks⟩, ?_, ?_⟩
      · rw [textOf_cons, htext, hrest, List.singleton_append]
      · rw [heq, List.cons_append]

/-! ## Two texts -/

/-- The tokens of a text whose blanks `w` before an ON come behind `q`, and those of the text with
others in their place: either they are the same up to the blanks, or up to a token that goes on
behind the blanks in the first text. -/
inductive Parting (w w' y q : List Char) : List Token → List Token → Prop
  | apart (front : List Token) (before : Option Char) (htext : textOf front = q) :
    Parting w w' y q (front ++ tokensFrom before 0 (w ++ y))
      (front ++ tokensFrom before 0 (w' ++ y))
  | across (front : List Token) {c : Char} {cs : List Char} {kind kind' : TokenKind} {n n' : Nat}
    (back back' : List Token) (htext : textOf front ++ c :: cs = q) (hkind : Encloses c kind)
    (hfilled : ∀ text, Token.isBlank ⟨kind', text⟩ = false) (hlt : cs.length + 1 + w.length < n) :
    Parting w w' y q (front ++ ⟨kind, (c :: cs ++ (w ++ y)).take n⟩ :: back)
      (front ++ ⟨kind', (c :: cs ++ (w' ++ y)).take n'⟩ :: back')

theorem Parting.cons {w w' y q : List Char} {ts ts' : List Token} (h : Parting w w' y q ts ts')
    (token : Token) : Parting w w' y (token.text ++ q) (token :: ts) (token :: ts') := by
  cases h with
  | apart front before htext =>
    exact .apart (token :: front) before (by rw [textOf_cons, htext])
  | @across front c cs _ _ _ _ back back' htext hkind hfilled hlt =>
    refine .across (token :: front) back back' ?_ hkind hfilled hlt
    rw [textOf_cons, List.append_assoc, htext]

namespace Gap

variable {w w' y : List Char} (h : Gap w w' y)
include h

theorem parting_tokensFrom : ∀ (q : List Char) (before : Option Char) (skip : Nat),
    skip ≤ q.length → q.getLast? ≠ some '\r' → Parting w w' y (q.drop skip)
      (tokensFrom before skip (q ++ (w ++ y))) (tokensFrom before skip (q ++ (w' ++ y)))
  | [], before, 0, _, _ => .apart [] before rfl
  | c :: q, before, skip + 1, hskip, hlast =>
    parting_tokensFrom q (some c) skip (Nat.le_of_succ_le_succ hskip) (getLast?_ne_of_cons hlast)
  | c :: q, before, 0, _, hlast => by
    have hmeets := h.tokenAt_meets before q hlast
    have hfilled := isBlank_tokenAt before c (q ++ (w' ++ y))
    rw [List.cons_append, List.cons_append, tokensFrom, tokensFrom, List.drop_zero]
    generalize tokenAt before c (q ++ (w ++ y)) = found at hmeets
    generalize tokenAt before c (q ++ (w' ++ y)) = found' at hmeets hfilled
    obtain ⟨kind, n⟩ := found
    obtain ⟨kind', n'⟩ := found'
    cases hmeets with
    | within hpos hle =>
      dsimp only at hpos hle ⊢
      obtain ⟨m, rfl⟩ : ∃ m, n = m + 1 := ⟨n - 1, by omega⟩
      have hrest := parting_tokensFrom q (some c) m (by omega) (getLast?_ne_of_cons hlast)
      have htake : ∀ v, (c :: (q ++ v)).take (m + 1) = (c :: q).take (m + 1) := by
        intro v
        rw [← List.cons_append]
        exact List.take_append_of_le_length hle
      have hsplit : (c :: q).take (m + 1) ++ q.drop m = c :: q :=
        List.take_append_drop (m + 1) (c :: q)
      rw [htake, htake, Nat.add_sub_cancel]
      have hboth := hrest.cons ⟨kind, (c :: q).take (m + 1)⟩
      rwa [hsplit] at hboth
    | across _ hkind hlt =>
      have hc : isBlank c = false := by
        cases hkind with
        | lineComment hc => rcases hc with rfl | rfl <;> rfl
        | _ => rfl
      exact .across [] _ _ rfl hkind (fun text => (hfilled text).trans hc) hlt

theorem parting {q : List Char} (hlast : q.getLast? ≠ some '\r') :
    Parting w w' y q (tokens (q ++ (w ++ y))) (tokens (q ++ (w' ++ y))) :=
  h.parting_tokensFrom q none 0 (Nat.zero_le _) hlast

end Gap

/-- Two texts with the same tokens from the place on where they go on with `y`. -/
def AgreeFrom (y text text' : List Char) : Prop :=
  ∃ front front' back, tokens text = front ++ back ∧ text = textOf front ++ y ∧
    tokens text' = front' ++ back ∧ text' = textOf front' ++ y

theorem AgreeFrom.symm {y text text' : List Char} (h : AgreeFrom y text text') :
    AgreeFrom y text' text := by
  obtain ⟨front, front', back, htokens, htext, htokens', htext'⟩ := h
  exact ⟨front', front, back, htokens', htext', htokens, htext⟩

theorem AgreeFrom.onAt {y text text' rest : List Char} (h : AgreeFrom y text text')
    (hrest : rest.length < y.length) (hon : OnAt text rest) : OnAt text' rest := by
  obtain ⟨front, front', back, htokens, htext, htokens', htext'⟩ := h
  obtain ⟨token, ⟨before, after, hsplit, hplace⟩, hletters⟩ := hon
  rw [htokens] at hsplit
  rw [htext] at hplace
  rcases List.append_eq_append_iff.mp hsplit with ⟨between, rfl, hback⟩ | ⟨between, rfl, -⟩
  · refine ⟨token, ⟨front' ++ between, after, ?_, ?_⟩, hletters⟩
    · rw [htokens', hback, List.append_assoc]
    · rw [textOf_append, List.append_assoc] at hplace
      rw [htext', List.append_cancel_left hplace, textOf_append, List.append_assoc]
  · -- the token would start before the place from which on the texts agree
    rw [textOf_append, List.append_assoc] at hplace
    have hlength := congrArg List.length (List.append_cancel_left hplace)
    rw [List.length_append] at hlength
    omega

/-- A token that starts with `c` and further characters before the place where a text goes on with
`rest`, and goes on behind that place. -/
structure Encloser (text rest : List Char) (token : Token) (c : Char) (inner : List Char) :
    Prop where
  tokenAt : TokenAt text (c :: inner ++ rest) token
  kind : Encloses c token.kind
  reaches : inner.length + 1 < token.text.length

/-- At a place over which a token goes on no token starts. -/
theorem Encloser.not_onAt {text rest : List Char} {token : Token} {c : Char} {inner : List Char}
    (h : Encloser text rest token c inner) : ¬ OnAt text rest := by
  rintro ⟨on, ⟨before, after, hsplit, hplace⟩, -⟩
  obtain ⟨front, back, htokens, htext⟩ := h.tokenAt
  have hover := h.reaches
  rw [htokens] at hsplit
  have hlength := congrArg List.length (htext.symm.trans hplace)
  simp only [List.length_append, List.length_cons] at hlength
  rcases cases_of_append_cons_eq hsplit with ⟨between, rfl⟩ | ⟨rfl, -⟩ | ⟨between, rfl⟩
  · simp only [textOf_append, textOf_cons, List.length_append] at hlength
    omega
  · omega
  · simp only [textOf_append, List.length_append] at hlength
    omega

/-- Two texts part at a token: what starts it in the first text does not start it in the second one,
and this shows in the first `seen` characters. -/
def Parts (seen : Nat) (text text' : List Char) : Prop :=
  ∃ front token token' back back' start, tokens text = front ++ token :: back ∧
    tokens text' = front ++ token' :: back' ∧ token.isBlank = false ∧ token'.isBlank = false ∧
    start <+: token.text ∧ ¬ start <+: token'.text ∧ (textOf front).length + start.length ≤ seen

theorem Parts.lexemes_ne {seen : Nat} {text text' : List Char} (h : Parts seen text text') :
    lexemes text' ≠ lexemes text := by
  obtain ⟨front, token, token', back, back', start, htokens, htokens', hfilled, hfilled', hstart,
    hstart', -⟩ := h
  intro heq
  simp only [lexemes, htokens, htokens', List.filter_append, List.filter_cons, hfilled, hfilled',
    Bool.not_false, if_true] at heq
  obtain ⟨rfl, -⟩ := List.cons.inj (List.append_cancel_left heq)
  exact hstart' hstart

theorem Parts.mono {seen seen' : Nat} {text text' : List Char} (h : Parts seen text text')
    (hle : seen ≤ seen') : Parts seen' text text' := by
  obtain ⟨front, token, token', back, back', start, htokens, htokens', hfilled, hfilled', hstart,
    hstart', hseen⟩ := h
  exact ⟨front, token, token', back, back', start, htokens, htokens', hfilled, hfilled', hstart,
    hstart', Nat.le_trans hseen hle⟩

namespace Gap

variable {w w' y : List Char} (h : Gap w w' y)
include h

theorem kept_of_apart {q : List Char} {front : List Token} {before : Option Char}
    (htext : textOf front = q)
    (htokens : tokens (q ++ (w ++ y)) = front ++ tokensFrom before 0 (w ++ y))
    (htokens' : tokens (q ++ (w' ++ y)) = front ++ tokensFrom before 0 (w' ++ y)) :
    OnAt (q ++ (w ++ y)) y ∧ lexemes (q ++ (w' ++ y)) = lexemes (q ++ (w ++ y)) ∧
      AgreeFrom y (q ++ (w ++ y)) (q ++ (w' ++ y)) := by
  obtain ⟨blanks, hblank, hw, hread⟩ :=
    h.before.tokensFrom_append (fun c hc => (h.inline c hc).2) before
  obtain ⟨blanks', hblank', hw', hread'⟩ := h.other.tokensFrom_append h.noReturn before
  obtain ⟨on, back, hon, hletters⟩ := exists_tokensFrom_on h.before.on (some ' ')
  rw [hread, ← List.append_assoc front] at htokens
  rw [hread', ← List.append_assoc front] at htokens'
  have hplace : q ++ (w ++ y) = textOf (front ++ blanks) ++ y := by
    rw [textOf_append, htext, hw, List.append_assoc]
  have hplace' : q ++ (w' ++ y) = textOf (front ++ blanks') ++ y := by
    rw [textOf_append, htext, hw', List.append_assoc]
  have hnone : ∀ {blanks : List Token}, (∀ token ∈ blanks, token.isBlank = true) →
      blanks.filter (!·.isBlank) = [] := fun hblank =>
    List.filter_eq_nil_iff.mpr fun token hmem => by simp [hblank token hmem]
  refine ⟨⟨on, ⟨front ++ blanks, back, by rw [htokens, hon], hplace⟩, hletters⟩, ?_,
    front ++ blanks, front ++ blanks', _, htokens, hplace, htokens', hplace'⟩
  simp only [lexemes, htokens, htokens', List.filter_append, hnone hblank, hnone hblank']

theorem parts_of_across {q : List Char} {front back back' : List Token} {c : Char} {cs : List Char}
    {kind kind' : TokenKind} {n n' : Nat} (htext : textOf front ++ c :: cs = q)
    (hkind : Encloses c kind) (hfilled : ∀ text, Token.isBlank ⟨kind', text⟩ = false)
    (hlt : cs.length + 1 + w.length < n)
    (htokens : tokens (q ++ (w ++ y)) = front ++ ⟨kind, (c :: cs ++ (w ++ y)).take n⟩ :: back)
    (htokens' : tokens (q ++ (w' ++ y)) =
      front ++ ⟨kind', (c :: cs ++ (w' ++ y)).take n'⟩ :: back') :
    (∃ token, Encloser (q ++ (w ++ y)) y token c (cs ++ w)) ∧
      Parts (q.length + 1) (q ++ (w ++ y)) (q ++ (w' ++ y)) := by
  obtain ⟨b, w, rfl⟩ := List.exists_cons_of_ne_nil h.before.ne
  obtain ⟨b', w', rfl⟩ := List.exists_cons_of_ne_nil h.other.ne
  have hpos := List.length_pos_iff.mpr h.ne_nil
  have hlength := congrArg List.length htext
  rw [List.length_append, List.length_cons] at hlength
  rw [List.length_cons] at hlt
  refine ⟨⟨⟨kind, _⟩, ⟨front, back, htokens, ?_⟩, hkind, ?_⟩,
    front, _, _, back, back', c :: cs ++ [b], htokens, htokens', ?_, hfilled _, ?_, ?_, ?_⟩
  · rw [← htext]
    simp
  · simp only [List.length_take, List.length_append, List.length_cons]
    omega
  · cases hkind <;> rfl
  · rw [List.prefix_take_iff]
    refine ⟨⟨w ++ y, by simp⟩, ?_⟩
    simp only [List.length_append, List.length_cons, List.length_nil]
    omega
  · -- the blanks that were put in open with a line feed, and `b` is none
    intro hstart
    have hwhole := hstart.trans (List.take_prefix _ _)
    rw [List.prefix_append_right_inj, List.cons_append, List.cons_prefix_cons] at hwhole
    have hfeed : b' = '\n' := Option.some.inj h.feed
    exact (h.inline b List.mem_cons_self).1 (hwhole.1.trans hfeed)
  · simp only [List.length_append, List.length_cons, List.length_nil]
    omega

/-- **Other blanks before an ON.** If the ON is a token, the two texts have the same lexemes and
agree from the ON on. Otherwise it stands within a token that starts before the blanks, and the
texts part at that token. -/
theorem outcome {q : List Char} (hlast : q.getLast? ≠ some '\r') :
    (OnAt (q ++ (w ++ y)) y ∧ lexemes (q ++ (w' ++ y)) = lexemes (q ++ (w ++ y)) ∧
        AgreeFrom y (q ++ (w ++ y)) (q ++ (w' ++ y))) ∨
      ∃ c cs, c :: cs <:+ q ∧ (∃ token, Encloser (q ++ (w ++ y)) y token c (cs ++ w)) ∧
        Parts (q.length + 1) (q ++ (w ++ y)) (q ++ (w' ++ y)) := by
  have hparting := h.parting hlast
  generalize htokens : tokens (q ++ (w ++ y)) = ts at hparting
  generalize htokens' : tokens (q ++ (w' ++ y)) = ts' at hparting
  cases hparting with
  | apart front before htext => exact .inl (h.kept_of_apart htext htokens htokens')
  | across front back back' htext hkind hfilled hlt =>
    exact .inr ⟨_, _, ⟨_, htext⟩,
      h.parts_of_across htext hkind hfilled hlt htokens htokens'⟩

end Gap

/-- A token that starts before the blanks has one in its place in the second text, and what starts
that one before the blanks starts it as well. -/
theorem Parting.exists_next {w w' y q : List Char} {front back ts' : List Token} {token : Token}
    (h : Parting w w' y q (front ++ token :: back) ts') (hy : y ≠ [])
    (hfilled : token.isBlank = false) (hfront : (textOf front).length < q.length) :
    ∃ next rest, ts' = front ++ next :: rest ∧ next.isBlank = false ∧
      ∀ start, (textOf front).length + start.length ≤ q.length → start <+: next.text →
        start <+: token.text := by
  generalize hts : front ++ token :: back = ts at h
  cases h with
  | apart front' before htext =>
    have hlong := congrArg List.length htext
    rcases List.append_eq_append_iff.mp hts with ⟨between, rfl, hback⟩ | ⟨between, rfl, -⟩
    · cases between with
      | nil =>
        rw [List.append_nil] at hlong
        omega
      | cons first between =>
        obtain ⟨rfl, -⟩ := List.cons.inj hback
        exact ⟨token, _, by rw [List.append_assoc, List.cons_append], hfilled, fun _ _ => id⟩
    · rw [textOf_append, List.length_append] at hfront
      omega
  | @across front' c cs kind kind' n n' tail tail' htext hkind hblank hlt =>
    have hlong := congrArg List.length htext
    rw [List.length_append, List.length_cons] at hlong
    rcases cases_of_append_cons_eq hts with ⟨between, rfl⟩ | ⟨rfl, rfl⟩ | ⟨between, rfl⟩
    · exact ⟨token, _, by rw [List.append_assoc, List.cons_append], hfilled, fun _ _ => id⟩
    · -- the token goes on behind the blanks itself, and may end elsewhere with others
      refine ⟨_, tail', rfl, hblank _, fun start hstart hnext => ?_⟩
      have hshort : start.length ≤ (c :: cs).length := by
        rw [List.length_cons]
        omega
      have hinner : start <+: c :: cs := List.prefix_of_prefix_length_le
        (hnext.trans (List.take_prefix _ _)) (List.prefix_append _ _) hshort
      refine List.prefix_take_iff.mpr ⟨hinner.trans (List.prefix_append _ _), ?_⟩
      rw [List.length_cons] at hshort
      omega
    · have hpos := List.length_pos_iff.mpr hy
      simp only [textOf_append, textOf_cons, List.length_append, List.length_take,
        List.length_cons] at hfront
      omega

/-- **Two texts that part stay apart**, whatever blanks are put before an ON behind what was seen.
-/
theorem Parts.gap {w w' y q text : List Char} {seen : Nat} (h : Parts seen text (q ++ (w ++ y)))
    (hgap : Gap w w' y) (hseen : seen ≤ q.length) (hlast : q.getLast? ≠ some '\r') :
    Parts seen text (q ++ (w' ++ y)) := by
  obtain ⟨front, token, token', back, back', start, htokens, htokens', hfilled, hfilled', hstart,
    hstart', hlength⟩ := h
  have hpos : 0 < start.length := by
    refine List.length_pos_iff.mpr ?_
    rintro rfl
    exact hstart' List.nil_prefix
  have hparting := hgap.parting hlast
  rw [htokens'] at hparting
  obtain ⟨next, rest, hnext, hblank, hsame⟩ :=
    hparting.exists_next hgap.ne_nil hfilled' (by omega)
  exact ⟨front, token, next, back, rest, start, htokens, hnext, hfilled, hblank, hstart,
    fun hother => hstart' (hsame start (by omega) hother), hlength⟩

end SqlDesk.Sql
