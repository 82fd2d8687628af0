/-
Lines that are broken before an ON.

A line is broken if it opens with a JOIN (`JoinOpening`), with any of its modifiers in front of it,
and has an ON between blanks; the first such ON counts, and a quote before it keeps the line whole.
`breaks_breakLine` says so of every line. Neither half is broken again: the first one has no ON left
and the second one opens with the ON, which no JOIN does (`flatMap_breakLine`).
-/
import SqlDesk.Proofs.Engine.Join
import SqlDesk.Proofs.Engine.Literal
import Mathlib.Data.List.Forall2

namespace SqlDesk.Engine

open Text Sql

/-! ## Words at the start of a text -/

/-- A text is a word, in letters that are folded to those of the word. -/
def Reads (word : String) (cs : List Char) : Prop :=
  cs.map foldLetter = word.toList

theorem Reads.length {word : String} {cs : List Char} (h : Reads word cs) :
    cs.length = word.length := by
  rw [← String.length_toList, ← h, List.length_map]

theorem afterWord?_eq_some_iff {word : String} {cs rest : List Char} :
    afterWord? word cs = some rest ↔ ∃ read, Reads word read ∧ cs = read ++ rest := by
  unfold afterWord?
  constructor
  · intro h
    split at h
    · next hword =>
      obtain rfl := Option.some.inj h
      exact ⟨cs.take word.length, hword, (List.take_append_drop _ _).symm⟩
    · cases h
  · rintro ⟨read, hread, rfl⟩
    rw [← hread.length, List.take_left, List.drop_left]
    exact if_pos hread

/-- The words that a JOIN may open with. -/
def joinWords : List String :=
  "JOIN" :: joinModifiers

theorem Reads.take {word : String} {read : List Char} (h : Reads word read) {n : Nat}
    (hn : n ≤ word.length) (rest : List Char) :
    ((read ++ rest).take n).map foldLetter = word.toList.take n := by
  rw [List.take_append_of_le_length (h.length ▸ hn), List.map_take, h]

theorem two_le_length {word : String} (h : word ∈ joinWords) : 2 ≤ word.length := by
  have hall : ∀ word ∈ joinWords, 2 ≤ word.length := by decide
  exact hall word h

/-- At most one of the words opens a text: they differ in their first two letters. -/
theorem Reads.unique {word word' : String} (hmem : word ∈ joinWords) (hmem' : word' ∈ joinWords)
    {read read' rest rest' : List Char} (h : Reads word read) (h' : Reads word' read')
    (heq : read ++ rest = read' ++ rest') : word = word' := by
  have hletters : ∀ word ∈ joinWords, ∀ word' ∈ joinWords,
      word.toList.take 2 = word'.toList.take 2 → word = word' := by
    decide
  apply hletters word hmem word' hmem'
  rw [← h.take (two_le_length hmem) rest, heq, h'.take (two_le_length hmem') rest']

theorem isBlank_of_reads {word : String} (hmem : word ∈ joinWords) {read rest : List Char}
    (h : Reads word read) {c : Char} {cs : List Char} (heq : read ++ rest = c :: cs) :
    isBlank c = false := by
  have hletters : ∀ n ∈ blankCodes, ∀ word ∈ joinWords,
      word.toList.take 1 ≠ [foldLetter (Char.ofNat n)] := by
    decide
  have hfirst := h.take (Nat.le_of_succ_le (two_le_length hmem)) rest
  rw [heq] at hfirst
  cases hblank : isBlank c with
  | false => rfl
  | true =>
    have hnone := hletters c.toNat (toNat_mem_blankCodes hblank) word hmem
    rw [Char.ofNat_toNat] at hnone
    exact absurd hfirst.symm hnone

theorem not_reads_of_opensWithOn {word : String} (hmem : word ∈ joinWords)
    {read rest : List Char} (h : Reads word read) : opensWithOn (read ++ rest) = false := by
  have hletters : ∀ word ∈ joinWords, word.toList.take 2 ≠ "ON".toList := by decide
  cases hon : opensWithOn (read ++ rest) with
  | false => rfl
  | true =>
    obtain ⟨o, n, b, more, heq, ho, hn, -⟩ := exists_of_opensWithOn hon
    have hfirst := h.take (two_le_length hmem) rest
    have hfold : ((o :: n :: b :: more).take 2).map foldLetter = "ON".toList := by
      rcases ho with rfl | rfl <;> rcases hn with rfl | rfl <;> rfl
    rw [heq, hfold] at hfirst
    exact absurd hfirst.symm (hletters word hmem)

theorem afterAnyWord?_of_reads {modifier : String} (hmem : modifier ∈ joinModifiers)
    {read : List Char} (h : Reads modifier read) (rest : List Char) :
    afterAnyWord? joinModifiers (read ++ rest) = some rest := by
  have hafter : afterWord? modifier (read ++ rest) = some rest :=
    afterWord?_eq_some_iff.mpr ⟨read, h, rfl⟩
  cases hany : afterAnyWord? joinModifiers (read ++ rest) with
  | none =>
    have hnone := List.findSome?_eq_none_iff.mp hany modifier hmem
    rw [hafter] at hnone
    cases hnone
  | some left =>
    obtain ⟨modifier', hmem', hafter'⟩ := List.exists_of_findSome?_eq_some hany
    obtain ⟨read', hread', heq⟩ := afterWord?_eq_some_iff.mp hafter'
    have hsame := h.unique (List.mem_cons_of_mem _ hmem) (List.mem_cons_of_mem _ hmem') hread' heq
    rw [← hsame, hafter] at hafter'
    exact hafter'.symm

/-! ## A JOIN at the start of a text -/

/-- A text opens with a JOIN: with modifiers, any number of them and blanks behind each, and then the
word JOIN, which ends there. -/
inductive JoinOpening : List Char → Prop
  | join {word rest : List Char} (hword : Reads "JOIN" word) (hend : wordEndsAt rest = true) :
      JoinOpening (word ++ rest)
  | modifier {modifier : String} {word gap rest : List Char} (hmem : modifier ∈ joinModifiers)
      (hword : Reads modifier word) (hne : gap ≠ []) (hgap : ∀ c ∈ gap, isBlank c = true)
      (hrest : JoinOpening rest) : JoinOpening (word ++ (gap ++ rest))

theorem JoinOpening.exists_word {cs : List Char} (h : JoinOpening cs) :
    ∃ word ∈ joinWords, ∃ read rest, Reads word read ∧ cs = read ++ rest := by
  cases h with
  | join hword => exact ⟨"JOIN", List.mem_cons_self, _, _, hword, rfl⟩
  | modifier hmem hword => exact ⟨_, List.mem_cons_of_mem _ hmem, _, _, hword, rfl⟩

theorem JoinOpening.exists_cons {cs : List Char} (h : JoinOpening cs) :
    ∃ c rest, cs = c :: rest ∧ isBlank c = false := by
  obtain ⟨word, hmem, read, rest, hread, rfl⟩ := h.exists_word
  have hlength : 2 ≤ (read ++ rest).length := by
    have htwo := two_le_length hmem
    have hread := hread.length
    rw [List.length_append]
    omega
  cases hcs : read ++ rest with
  | nil =>
    rw [hcs] at hlength
    simp at hlength
  | cons c more => exact ⟨c, more, rfl, isBlank_of_reads hmem hread hcs⟩

theorem JoinOpening.opensWithOn {cs : List Char} (h : JoinOpening cs) :
    Engine.opensWithOn cs = false := by
  obtain ⟨word, hmem, read, rest, hread, rfl⟩ := h.exists_word
  exact not_reads_of_opensWithOn hmem hread

theorem opensWithJoin_of_opening {cs : List Char} (h : JoinOpening cs) {fuel : Nat}
    (hfuel : cs.length < fuel) : opensWithJoin fuel cs = true := by
  induction h generalizing fuel with
  | @join word rest hword hend =>
    obtain ⟨fuel, rfl⟩ : ∃ k, fuel = k + 1 := ⟨fuel - 1, by omega⟩
    have hafter : afterWord? "JOIN" (word ++ rest) = some rest :=
      afterWord?_eq_some_iff.mpr ⟨word, hword, rfl⟩
    simp only [opensWithJoin, hafter, hend]
  | @modifier modifier word gap rest hmem hword hne hgap hrest ih =>
    obtain ⟨fuel, rfl⟩ : ∃ k, fuel = k + 1 := ⟨fuel - 1, by omega⟩
    have hother : afterWord? "JOIN" (word ++ (gap ++ rest)) = none := by
      cases hjoin : afterWord? "JOIN" (word ++ (gap ++ rest)) with
      | none => rfl
      | some left =>
        obtain ⟨read, hread, heq⟩ := afterWord?_eq_some_iff.mp hjoin
        obtain rfl := hread.unique List.mem_cons_self (List.mem_cons_of_mem _ hmem) hword heq.symm
        exact absurd hmem (by decide)
    have hafter := afterAnyWord?_of_reads hmem hword (gap ++ rest)
    obtain ⟨b, more, rfl⟩ := List.exists_cons_of_ne_nil hne
    have hblank : isBlank b = true := hgap b List.mem_cons_self
    have hskip : (more ++ rest).dropWhile isBlank = rest := by
      obtain ⟨c, left, rfl, hc⟩ := hrest.exists_cons
      exact dropWhile_append_of_stop (fun c hc => hgap c (List.mem_cons_of_mem _ hc)) (by simpa using hc)
    have hshort : rest.length < fuel := by
      simp only [List.length_append, List.length_cons] at hfuel
      omega
    rw [List.cons_append] at hother hafter ⊢
    simp only [opensWithJoin, hother, hafter, hblank, hskip, ih hshort, Bool.and_self]

theorem opening_of_opensWithJoin {fuel : Nat} {cs : List Char}
    (h : opensWithJoin fuel cs = true) : JoinOpening cs := by
  induction fuel generalizing cs with
  | zero => cases h
  | succ fuel ih =>
    simp only [opensWithJoin] at h
    split at h
    · next rest hafter =>
      obtain ⟨read, hread, rfl⟩ := afterWord?_eq_some_iff.mp hafter
      exact .join hread h
    · split at h
      · next b more hafter =>
        obtain ⟨hblank, hmore⟩ := Bool.and_eq_true_iff.mp h
        obtain ⟨modifier, hmem, hword⟩ := List.exists_of_findSome?_eq_some hafter
        obtain ⟨read, hread, rfl⟩ := afterWord?_eq_some_iff.mp hword
        have hgap : ∀ c ∈ b :: more.takeWhile isBlank, isBlank c = true := by
          intro c hc
          rcases List.mem_cons.mp hc with rfl | hc
          · exact hblank
          · exact List.all_eq_true.mp List.all_takeWhile c hc
        have hparts : b :: more = b :: more.takeWhile isBlank ++ more.dropWhile isBlank := by
          rw [List.cons_append, List.takeWhile_append_dropWhile]
        rw [hparts]
        exact .modifier hmem hread (List.cons_ne_nil _ _) hgap (ih hmore)
      · cases h

/-- **The search for a JOIN finds just those that open a text.** -/
theorem isJoin_iff {cs : List Char} : isJoin cs = true ↔ JoinOpening cs :=
  ⟨opening_of_opensWithJoin, fun h => opensWithJoin_of_opening h (Nat.lt_succ_self _)⟩

/-! ## The first ON of a text -/

/-- The word ON is in a text, with a blank in front of it and a blank or the end of the text behind
it. -/
def HasOn (cs : List Char) : Prop :=
  ∃ front b word back, cs = front ++ b :: (word ++ back) ∧ isBlank b = true ∧ Reads "ON" word ∧
    ∀ c ∈ back.head?, isBlank c = true

theorem opensWithOn_iff {cs : List Char} : opensWithOn cs = true ↔
    ∃ word b rest, cs = word ++ b :: rest ∧ Reads "ON" word ∧ isBlank b = true := by
  unfold opensWithOn
  constructor
  · intro h
    split at h
    · next b rest hafter =>
      obtain ⟨word, hword, rfl⟩ := afterWord?_eq_some_iff.mp hafter
      exact ⟨word, b, rest, rfl, hword, h⟩
    · cases h
  · rintro ⟨word, b, rest, rfl, hword, hb⟩
    rw [afterWord?_eq_some_iff.mpr ⟨word, hword, rfl⟩]
    exact hb

/-- **The search for an ON stops at the first one**, wherever else there is one. -/
theorem exists_cutOn? (front : List Char) {gap on : List Char} (h : BlanksBeforeOn gap on) :
    ∃ before rest, cutOn? (front ++ (gap ++ on)) = some (before, rest) ∧
      before.length ≤ front.length := by
  induction front with
  | nil =>
    obtain ⟨b, more, rfl⟩ := List.exists_cons_of_ne_nil h.ne
    have hskip := dropWhile_blanks (fun c hc => h.blank c (List.mem_cons_of_mem _ hc)) h.on
    have hcut : cutOn? (b :: (more ++ on)) = some ([], on) := by
      simp only [cutOn?, hskip, h.blank b List.mem_cons_self, h.on, Bool.and_self, if_true]
    exact ⟨[], on, hcut, Nat.le_refl 0⟩
  | cons c front ih =>
    obtain ⟨before, rest, hcut, hle⟩ := ih
    simp only [List.cons_append, cutOn?]
    split
    · exact ⟨[], _, rfl, Nat.zero_le _⟩
    · exact ⟨c :: before, rest, by rw [hcut]; rfl, Nat.succ_le_succ hle⟩

theorem cutOn?_eq_none {cs : List Char} (h : cutOn? cs = none) {before gap on : List Char}
    (hcs : cs = before ++ (gap ++ on)) : ¬ BlanksBeforeOn gap on := by
  intro hblanks
  obtain ⟨_, _, hcut, -⟩ := exists_cutOn? before hblanks
  rw [← hcs, h] at hcut
  cases hcut

/-- No ON starts in front of the one that the search finds. -/
theorem length_le_of_cutOn? {cs before on : List Char} (h : cutOn? cs = some (before, on))
    {front gap rest : List Char} (hcs : cs = front ++ (gap ++ rest))
    (hblanks : BlanksBeforeOn gap rest) : before.length ≤ front.length := by
  obtain ⟨_, _, hcut, hle⟩ := exists_cutOn? front hblanks
  rw [← hcs, h] at hcut
  obtain ⟨rfl, -⟩ := Prod.mk.inj (Option.some.inj hcut)
  exact hle

section

variable {cs before on : List Char} (h : cutOn? cs = some (before, on))
include h

theorem not_hasOn_of_cutOn? : ¬ HasOn before := by
  rintro ⟨front, b, word, back, rfl, hb, hword, hback⟩
  obtain ⟨gap, hblanks, hcs⟩ := exists_gap_of_cutOn? h
  -- the blank behind the word is in what is in front of the cut, or the first one of the gap
  obtain ⟨b', rest, hrest, hb'⟩ : ∃ b' rest, back ++ (gap ++ on) = b' :: rest ∧
      isBlank b' = true := by
    cases back with
    | nil =>
      obtain ⟨b', rest, hb', hgap⟩ := hblanks.exists_cons
      exact ⟨b', rest, hgap, hb'⟩
    | cons b' back => exact ⟨b', back ++ (gap ++ on), rfl, hback b' rfl⟩
  have hon : opensWithOn (word ++ (back ++ (gap ++ on))) = true :=
    opensWithOn_iff.mpr ⟨word, b', rest, by rw [hrest], hword, hb'⟩
  have hsplit : cs = front ++ ([b] ++ (word ++ (back ++ (gap ++ on)))) := by
    rw [hcs]
    simp only [List.append_assoc, List.cons_append, List.nil_append]
  have hle := length_le_of_cutOn? h hsplit
    ⟨List.cons_ne_nil _ _, fun c hc => List.mem_singleton.mp hc ▸ hb, hon⟩
  rw [List.length_append, List.length_cons] at hle
  omega

theorem getLast?_of_cutOn? {c : Char} (hlast : before.getLast? = some c) : isBlank c = false := by
  obtain ⟨gap, hblanks, hcs⟩ := exists_gap_of_cutOn? h
  obtain ⟨front, rfl⟩ := List.getLast?_eq_some_iff.mp hlast
  cases hblank : isBlank c with
  | false => rfl
  | true =>
    have hall : ∀ b ∈ c :: gap, isBlank b = true := by
      intro b hb
      rcases List.mem_cons.mp hb with rfl | hb
      · exact hblank
      · exact hblanks.blank b hb
    have hsplit : cs = front ++ (c :: gap ++ on) := by
      rw [hcs, List.append_assoc, List.singleton_append, List.cons_append]
    have hle := length_le_of_cutOn? h hsplit ⟨List.cons_ne_nil _ _, hall, hblanks.on⟩
    rw [List.length_append, List.length_singleton] at hle
    omega

theorem hasOn_of_cutOn? : HasOn cs := by
  obtain ⟨gap, hblanks, rfl⟩ := exists_gap_of_cutOn? h
  obtain ⟨word, b, rest, rfl, hword, hb⟩ := opensWithOn_iff.mp hblanks.on
  have hgap : gap.dropLast ++ [gap.getLast hblanks.ne] = gap :=
    List.dropLast_concat_getLast hblanks.ne
  refine ⟨before ++ gap.dropLast, gap.getLast hblanks.ne, word, b :: rest, ?_,
    hblanks.blank _ (List.getLast_mem hblanks.ne), hword, ?_⟩
  · conv => lhs; rw [← hgap]
    simp only [List.append_assoc, List.singleton_append]
  · intro c hc
    obtain rfl := Option.some.inj hc
    exact hb

end

theorem cutOn?_spaces {spaces : List Char} (hspaces : ∀ c ∈ spaces, c = ' ') {c : Char}
    (hc : isBlank c = false) {rest : List Char} (hon : opensWithOn (c :: rest) = false) :
    cutOn? (spaces ++ c :: rest) = (cutOn? (c :: rest)).map fun (before, on) =>
      (spaces ++ before, on) := by
  induction spaces with
  | nil =>
    rw [List.nil_append]
    cases cutOn? (c :: rest) with
    | none => rfl
    | some cut => rfl
  | cons s spaces ih =>
    have hrest := ih fun c hmem => hspaces c (List.mem_cons_of_mem _ hmem)
    have hskip : (spaces ++ c :: rest).dropWhile isBlank = c :: rest := by
      refine dropWhile_append_of_stop (fun s hmem => ?_) (by simpa using hc)
      rw [hspaces s (List.mem_cons_of_mem _ hmem)]
      rfl
    simp only [List.cons_append, cutOn?, hskip, hon, Bool.and_false, Bool.false_eq_true, if_false,
      hrest, Option.map_map]
    rfl

/-! ## A line -/

/-- Behind its spaces a line is a JOIN with an ON between blanks. -/
def IsJoinOn (line : List Char) : Prop :=
  JoinOpening (dropSpaces line) ∧
    ∃ before gap on, dropSpaces line = before ++ (gap ++ on) ∧ BlanksBeforeOn gap on

/-- The two lines that a line is broken into. Both start with its spaces, and the second one has a
step of them more. Without these and with the blanks before the ON, they are the line again. The
first one ends in front of those blanks and has no ON and no quote in it. -/
structure Halves (unit : Nat) (line first second : List Char) : Prop where
  spaces_first : leadingSpaces first = leadingSpaces line
  spaces_second : leadingSpaces second = leadingSpaces line ++ List.replicate unit ' '
  rejoined : ∃ gap, BlanksBeforeOn gap (dropSpaces second) ∧
    dropSpaces line = dropSpaces first ++ (gap ++ dropSpaces second)
  last : ∀ c ∈ first.getLast?, isBlank c = false
  alone : ¬ HasOn first
  unquoted : '\'' ∉ first

/-- What a line becomes. It stays as it is if it is no JOIN with an ON, or if a quote stands before
the first ON of it. Any other line is broken in two. -/
inductive Breaks (unit : Nat) (line : List Char) : List (List Char) → Prop
  | other (h : ¬ IsJoinOn line) : Breaks unit line [line]
  | quoted {before gap on : List Char} (h : IsJoinOn line)
      (hline : dropSpaces line = before ++ (gap ++ on)) (hblanks : BlanksBeforeOn gap on)
      (hfirst : ¬ HasOn before) (hquote : '\'' ∈ before) : Breaks unit line [line]
  | broken {first second : List Char} (h : IsJoinOn line)
      (hhalves : Halves unit line first second) : Breaks unit line [first, second]

/-- A JOIN is broken into two halves at the first ON of it. -/
theorem halves_of_cutOn? {unit : Nat} {line before on : List Char}
    (hjoin : JoinOpening (dropSpaces line)) (hcut : cutOn? (dropSpaces line) = some (before, on))
    (hquote : '\'' ∉ before) :
    Halves unit line (leadingSpaces line ++ before) (onSpaces unit line ++ on) := by
  obtain ⟨c, rest, hcontent, hc⟩ := hjoin.exists_cons
  obtain ⟨gap, hblanks, hparts⟩ := exists_gap_of_cutOn? hcut
  -- what is in front of the cut opens with the letter that the line opens with
  obtain ⟨more, rfl⟩ : ∃ more, before = c :: more := by
    rw [hcontent] at hparts
    cases before with
    | nil =>
      obtain ⟨b, more, hb, hgap⟩ := hblanks.exists_cons
      rw [List.nil_append, hgap] at hparts
      rw [(List.cons.inj hparts).1, hb] at hc
      cases hc
    | cons d more => exact ⟨more, by rw [(List.cons.inj hparts).1]⟩
  have hspace : c ≠ ' ' := by
    rintro rfl
    cases hc
  have hleading : ∀ c ∈ leadingSpaces line, c = ' ' := fun c => eq_space_of_mem_leadingSpaces
  have hwhole : cutOn? line = some (leadingSpaces line ++ c :: more, on) := by
    have hon := hjoin.opensWithOn
    rw [hcontent] at hon hcut
    conv => lhs; rw [← leadingSpaces_append_dropSpaces line, hcontent]
    rw [cutOn?_spaces hleading hc hon, hcut]
    rfl
  obtain ⟨o, tail, htail, ho, -⟩ := head_of_opensWithOn hblanks.on
  exact
    { spaces_first := leadingSpaces_append hleading hspace more
      spaces_second := by
        rw [htail]
        refine leadingSpaces_append (fun c hmem => eq_space_of_mem_onSpaces hmem) ?_ tail
        rintro rfl
        cases ho
      rejoined := by
        refine ⟨gap, ?_, ?_⟩
        · rw [dropSpaces_onSpaces_append unit line hblanks.on]
          exact hblanks
        · rw [dropSpaces_onSpaces_append unit line hblanks.on,
            dropSpaces_append hleading hspace more]
          exact hparts
      last := fun c hlast => getLast?_of_cutOn? hwhole hlast
      alone := not_hasOn_of_cutOn? hwhole
      unquoted := by
        rw [List.mem_append, not_or]
        refine ⟨fun hmem => ?_, hquote⟩
        exact absurd (hleading _ hmem) (by decide) }

/-- **Every line becomes what it should.** -/
theorem breaks_breakLine (unit : Nat) (line : List Char) :
    Breaks unit line (breakLine unit line) := by
  simp only [breakLine]
  cases hjoin : isJoin (dropSpaces line) with
  | false =>
    have hnone : ¬ IsJoinOn line := fun h => by
      rw [isJoin_iff.mpr h.1] at hjoin
      cases hjoin
    exact .other hnone
  | true =>
    have hopening := isJoin_iff.mp hjoin
    cases hcut : cutOn? (dropSpaces line) with
    | none =>
      have hnone : ¬ IsJoinOn line := by
        rintro ⟨-, before, gap, on, hparts, hblanks⟩
        exact cutOn?_eq_none hcut hparts hblanks
      exact .other hnone
    | some cut =>
      obtain ⟨before, on⟩ := cut
      obtain ⟨gap, hblanks, hparts⟩ := exists_gap_of_cutOn? hcut
      have hjoinOn : IsJoinOn line := ⟨hopening, before, gap, on, hparts, hblanks⟩
      by_cases hquote : '\'' ∈ before
      · simp only [if_true, List.contains_iff_mem.mpr hquote]
        exact .quoted hjoinOn hparts hblanks (not_hasOn_of_cutOn? hcut) hquote
      · have hcontains : before.contains '\'' = false := by simpa using hquote
        simp only [if_true, hcontains, Bool.false_eq_true, if_false]
        exact .broken hjoinOn (halves_of_cutOn? hopening hcut hquote)

/-- Of two ONs the first one counts, and all blanks in front of it go. -/
example : breakLine 2 " left  join t \tOn on x".toList =
    [" left  join t".toList, "   On on x".toList] := by
  decide +kernel

/-! ## Breaking lines again -/

theorem hasOn_of_dropSpaces {line : List Char} (h : HasOn (dropSpaces line)) : HasOn line := by
  obtain ⟨front, b, word, back, hparts, hrest⟩ := h
  refine ⟨leadingSpaces line ++ front, b, word, back, ?_, hrest⟩
  rw [List.append_assoc, ← hparts, leadingSpaces_append_dropSpaces]

theorem breakLine_of_not_hasOn (unit : Nat) {line : List Char} (h : ¬ HasOn line) :
    breakLine unit line = [line] := by
  rw [breakLine_eq_self_iff]
  intro _ before on hcut
  exact absurd (hasOn_of_dropSpaces (hasOn_of_cutOn? hcut)) h

theorem breakLine_of_opensWithOn (unit : Nat) {line : List Char}
    (h : opensWithOn (dropSpaces line) = true) : breakLine unit line = [line] := by
  rw [breakLine_eq_self_iff]
  intro hjoin
  have hon := (isJoin_iff.mp hjoin).opensWithOn
  rw [h] at hon
  cases hon

/-- **What a line is broken into is not broken again.** -/
theorem flatMap_breakLine (unit : Nat) (line : List Char) :
    (breakLine unit line).flatMap (breakLine unit) = breakLine unit line := by
  have hbreaks := breaks_breakLine unit line
  generalize hpieces : breakLine unit line = pieces at hbreaks
  cases hbreaks with
  | other => rw [List.flatMap_singleton, hpieces]
  | quoted => rw [List.flatMap_singleton, hpieces]
  | broken h hhalves =>
    obtain ⟨gap, hblanks, -⟩ := hhalves.rejoined
    rw [List.flatMap_cons, List.flatMap_singleton, breakLine_of_not_hasOn unit hhalves.alone,
      breakLine_of_opensWithOn unit hblanks.on, List.singleton_append]

/-- **Lines with JOINs that are broken.** Breaking them again changes nothing. Each line becomes what
it should by itself, and the lines stay in order. -/
theorem breakJoinOn_breaks (unit : Nat) (lines : List (List Char)) :
    breakJoinOn unit (breakJoinOn unit lines) = breakJoinOn unit lines ∧
      ∃ pieces, breakJoinOn unit lines = pieces.flatten ∧
        List.Forall₂ (Breaks unit) lines pieces := by
  constructor
  · simp only [breakJoinOn, List.flatMap_assoc, flatMap_breakLine]
  · refine ⟨lines.map (breakLine unit), rfl, ?_⟩
    rw [List.forall₂_map_right_iff, List.forall₂_same]
    exact fun line _ => breaks_breakLine unit line

end SqlDesk.Engine
