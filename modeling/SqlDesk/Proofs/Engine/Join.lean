/-
Where a JOIN is broken.

A line that opens with a JOIN is broken before the first ON between blanks, without regard to what
the ON is a part of. If it is a token of the statement, the statement keeps its lexemes; otherwise
it stands within a comment, a name in quotes or brackets, or a literal that was opened on an earlier
line, and the statement becomes another one (`breakLine_outcome`). No line that is broken later
mends that (`parts_breakJoinOn`), so a statement keeps its lexemes just if every ON before which a
line is broken is one of its tokens (`breakJoinOn_outcome`).
-/
import SqlDesk.Proofs.Engine.Words
import SqlDesk.Proofs.Sql.Lexemes
import SqlDesk.Proofs.Text.Lines

namespace SqlDesk.Engine

open Text Sql

/-! ## A line -/

theorem opensWithOn_of_cutOn? {cs before on : List Char} (h : cutOn? cs = some (before, on)) :
    opensWithOn on = true := by
  induction cs generalizing before with
  | nil => cases h
  | cons c rest ih =>
    simp only [cutOn?] at h
    split at h
    · next hcut =>
      obtain ⟨-, rfl⟩ := Prod.mk.inj (Option.some.inj h)
      exact (Bool.and_eq_true_iff.mp hcut).2
    · obtain ⟨⟨b, a⟩, hrest, heq⟩ := Option.map_eq_some_iff.mp h
      obtain ⟨-, rfl⟩ := Prod.mk.inj heq
      exact ih hrest

theorem exists_gap_of_cutOn? {cs before on : List Char} (h : cutOn? cs = some (before, on)) :
    ∃ gap, BlanksBeforeOn gap on ∧ cs = before ++ (gap ++ on) := by
  obtain ⟨gap, hne, hblank, hcs⟩ := cutOn?_eq_some h
  exact ⟨gap, ⟨hne, List.all_eq_true.mp hblank, opensWithOn_of_cutOn? h⟩,
    hcs.trans (List.append_assoc _ _ _)⟩

/-- What an ON opens with does not depend on what comes behind the blank after it. -/
theorem opensWithOn_append {on : List Char} (h : opensWithOn on = true) (rest : List Char) :
    opensWithOn (on ++ rest) = true := by
  obtain ⟨o, n, b, more, rfl, ho, hn, hb⟩ := exists_of_opensWithOn h
  rcases ho with rfl | rfl <;> rcases hn with rfl | rfl <;> exact hb

/-- The spaces that the ON of a broken line is put behind. -/
def onSpaces (unit : Nat) (line : List Char) : List Char :=
  leadingSpaces line ++ List.replicate unit ' '

theorem eq_space_of_mem_onSpaces {unit : Nat} {line : List Char} {c : Char}
    (h : c ∈ onSpaces unit line) : c = ' ' := by
  rcases List.mem_append.mp h with h | h
  · exact eq_space_of_mem_leadingSpaces h
  · exact List.eq_of_mem_replicate h

/-- **A line that becomes two** is broken at blanks before an ON, and no quote stands before them. -/
theorem exists_of_breakLine {unit : Nat} {line first second : List Char}
    (h : breakLine unit line = [first, second]) : ∃ gap on, line = first ++ (gap ++ on) ∧
      second = onSpaces unit line ++ on ∧ BlanksBeforeOn gap on ∧ '\'' ∉ first := by
  simp only [breakLine] at h
  split at h
  · split at h
    · next before on hcut =>
      split at h
      · cases h
      · next hquote =>
        obtain ⟨rfl, hsecond⟩ := List.cons.inj h
        obtain rfl := List.singleton_inj.mp hsecond
        obtain ⟨gap, hblanks, hcontent⟩ := exists_gap_of_cutOn? hcut
        refine ⟨gap, on, ?_, rfl, hblanks, ?_⟩
        · rw [List.append_assoc, ← hcontent, leadingSpaces_append_dropSpaces]
        · rw [List.mem_append, not_or]
          refine ⟨fun hmem => ?_, by simpa using hquote⟩
          exact absurd (eq_space_of_mem_leadingSpaces hmem) (by decide)
    · cases h
  · cases h

theorem dropSpaces_onSpaces_append (unit : Nat) (line : List Char) {on : List Char}
    (hon : opensWithOn on = true) : dropSpaces (onSpaces unit line ++ on) = on := by
  obtain ⟨o, more, rfl, hblank, -⟩ := head_of_opensWithOn hon
  have hspace : o ≠ ' ' := by
    rintro rfl
    cases hblank
  exact dropSpaces_append (fun c hmem => eq_space_of_mem_onSpaces hmem) hspace more

/-! ## A line among others -/

theorem joinLines_between (front rest : List (List Char)) (first gap on : List Char) :
    joinLines (front ++ (first ++ (gap ++ on)) :: rest) =
      joinLines (front ++ [first]) ++ (gap ++ joinLines (on :: rest)) := by
  rw [joinLines_append, joinLines_append_cons]

theorem joinLines_broken (front rest : List (List Char)) (first spaces on : List Char) :
    joinLines (front ++ first :: (spaces ++ on) :: rest) =
      joinLines (front ++ [first]) ++ ('\n' :: spaces ++ joinLines (on :: rest)) := by
  have hne : front ++ [first] ≠ [] :=
    List.append_ne_nil_of_right_ne_nil front (List.cons_ne_nil _ _)
  rw [List.append_cons, joinLines_append_lines hne (List.cons_ne_nil _ _),
    joinLines_append_cons, List.cons_append]

theorem length_joinLines_le (front rest : List (List Char)) :
    (joinLines front).length ≤ (joinLines (front ++ rest)).length := by
  by_cases hfront : front = []
  · subst hfront
    exact Nat.zero_le _
  · by_cases hrest : rest = []
    · exact Nat.le_of_eq (by rw [hrest, List.append_nil])
    · rw [joinLines_append_lines hfront hrest, List.length_append]
      exact Nat.le_add_right _ _

/-- No line end is in a line, but for a carriage return that may be left at its end. -/
def IsLine (line : List Char) : Prop :=
  '\n' ∉ line ∧ '\r' ∉ line.dropLast

instance : DecidablePred IsLine := fun line =>
  inferInstanceAs (Decidable ('\n' ∉ line ∧ '\r' ∉ line.dropLast))

section

variable {unit : Nat} {front rest : List (List Char)} {line first second : List Char}

theorem not_mem_of_isLine {first gap on : List Char} (hline : IsLine (first ++ (gap ++ on)))
    (hon : opensWithOn on = true) : '\r' ∉ first ++ gap := by
  obtain ⟨o, more, rfl, -⟩ := head_of_opensWithOn hon
  have hreturn := hline.2
  rw [← List.append_assoc, List.dropLast_append_of_ne_nil (List.cons_ne_nil o more),
    List.mem_append, not_or] at hreturn
  exact hreturn.1

/-- **A line is broken** by putting a line feed and spaces in the place of the blanks before its ON.
-/
theorem exists_gap (hline : IsLine line) (h : breakLine unit line = [first, second])
    (front rest : List (List Char)) : ∃ w w',
      Gap w w' (joinLines (dropSpaces second :: rest)) ∧
      joinLines (front ++ line :: rest) =
        joinLines (front ++ [first]) ++ (w ++ joinLines (dropSpaces second :: rest)) ∧
      joinLines (front ++ first :: second :: rest) =
        joinLines (front ++ [first]) ++ (w' ++ joinLines (dropSpaces second :: rest)) := by
  obtain ⟨gap, on, rfl, rfl, hblanks, -⟩ := exists_of_breakLine h
  rw [dropSpaces_onSpaces_append _ _ hblanks.on]
  have hon : opensWithOn (joinLines (on :: rest)) = true := by
    have hmeet := joinLines_append_cons on [] rest
    rw [List.append_nil] at hmeet
    exact hmeet ▸ opensWithOn_append hblanks.on _
  have hspaces : ∀ c ∈ '\n' :: onSpaces unit (first ++ (gap ++ on)), c = '\n' ∨ c = ' ' := by
    intro c hc
    exact (List.mem_cons.mp hc).imp id eq_space_of_mem_onSpaces
  refine ⟨gap, '\n' :: onSpaces unit (first ++ (gap ++ on)), ⟨⟨hblanks.ne, hblanks.blank, hon⟩,
    ⟨List.cons_ne_nil _ _, fun c hc => ?_, hon⟩, fun c hc => ?_, rfl, fun c hc => ?_⟩,
    joinLines_between front rest first gap on, joinLines_broken front rest first _ on⟩
  · rcases hspaces c hc with rfl | rfl <;> decide
  · refine ⟨?_, ?_⟩
    · rintro rfl
      exact hline.1 (List.mem_append_right _ (List.mem_append_left _ hc))
    · rintro rfl
      exact not_mem_of_isLine hline hblanks.on (List.mem_append_right _ hc)
  · rcases hspaces c hc with rfl | rfl <;> decide

theorem getLast?_joinLines_ne (hline : IsLine line) (h : breakLine unit line = [first, second])
    (front : List (List Char)) : (joinLines (front ++ [first])).getLast? ≠ some '\r' := by
  obtain ⟨gap, on, rfl, -, hblanks, -⟩ := exists_of_breakLine h
  have hfirst : '\r' ∉ first := fun hmem =>
    not_mem_of_isLine hline hblanks.on (List.mem_append_left _ hmem)
  by_cases hfront : front = []
  · subst hfront
    exact fun hlast => hfirst (List.mem_of_getLast? hlast)
  · rw [joinLines_append_lines hfront (List.cons_ne_nil _ _), List.getLast?_append,
      List.getLast?_cons, Option.some_or, joinLines]
    intro hlast
    cases hend : first.getLast? with
    | none =>
      rw [hend] at hlast
      exact absurd (Option.some.inj hlast) (by decide)
    | some c =>
      rw [hend] at hlast
      obtain rfl := Option.some.inj hlast
      exact hfirst (List.mem_of_getLast? hend)

/-- A quote that stands before a line, and not on it, has the line feed behind it that ends its own.
-/
theorem feed_mem_of_suffix {last cs : List Char} (hquote : '\'' ∉ last)
    (h : '\'' :: cs <:+ joinLines (front ++ [last])) : '\n' ∈ cs := by
  have hself : ∀ {before : List Char}, before ++ '\'' :: cs ≠ last := by
    rintro before rfl
    exact hquote (List.mem_append_right _ List.mem_cons_self)
  obtain ⟨before, hbefore⟩ := h
  by_cases hfront : front = []
  · subst hfront
    exact absurd hbefore hself
  · rw [joinLines_append_lines hfront (List.cons_ne_nil _ _)] at hbefore
    rcases List.append_eq_append_iff.mp hbefore with ⟨between, -, hback⟩ | ⟨between, -, hback⟩
    · cases between with
      | nil => exact absurd (List.cons.inj hback).1 (by decide)
      | cons c between =>
        rw [(List.cons.inj hback).2]
        exact List.mem_append_right _ List.mem_cons_self
    · cases between with
      | nil => exact absurd (List.cons.inj hback).1 (by decide)
      | cons c between => exact absurd (List.cons.inj hback).2.symm hself

/-- The ON before which a line is broken stands within a token that starts before it: a comment, a
name in quotes or brackets, or a literal, which starts on an earlier line. -/
def OnEnclosed (text rest : List Char) : Prop :=
  ∃ token c inner, Encloser text rest token c inner ∧ (c = '\'' → '\n' ∈ inner)

/-- **Breaking one line.** If the ON is a token, the lexemes stay, and the tokens from the ON on.
Otherwise it stands within a token, and the statements part at that token. -/
theorem breakLine_outcome (hline : IsLine line) (h : breakLine unit line = [first, second])
    (front rest : List (List Char)) :
    (OnAt (joinLines (front ++ line :: rest)) (joinLines (dropSpaces second :: rest)) ∧
        lexemes (joinLines (front ++ first :: second :: rest)) =
          lexemes (joinLines (front ++ line :: rest)) ∧
        AgreeFrom (joinLines (dropSpaces second :: rest)) (joinLines (front ++ line :: rest))
          (joinLines (front ++ first :: second :: rest))) ∨
      (OnEnclosed (joinLines (front ++ line :: rest)) (joinLines (dropSpaces second :: rest)) ∧
        Parts (joinLines (front ++ [first, second])).length (joinLines (front ++ line :: rest))
          (joinLines (front ++ first :: second :: rest))) := by
  obtain ⟨-, -, -, -, -, hquote⟩ := exists_of_breakLine h
  obtain ⟨w, w', hgap, htext, htext'⟩ := exists_gap hline h front rest
  have hlast := getLast?_joinLines_ne hline h front
  rw [htext, htext']
  rcases hgap.outcome hlast with hkept | ⟨c, cs, hsuffix, ⟨token, hencloser⟩, hparts⟩
  · exact .inl hkept
  · refine .inr ⟨⟨token, c, cs ++ w, hencloser, ?_⟩, hparts.mono ?_⟩
    · rintro rfl
      exact List.mem_append_left _ (feed_mem_of_suffix hquote hsuffix)
    · have hsecond : joinLines (front ++ [first] ++ [second]) =
          joinLines (front ++ [first]) ++ '\n' :: joinLines [second] :=
        joinLines_append_lines (List.append_ne_nil_of_right_ne_nil front (List.cons_ne_nil _ _))
          (List.cons_ne_nil _ _)
      rw [List.append_assoc, List.singleton_append] at hsecond
      rw [hsecond, List.length_append, List.length_cons]
      omega

/-- Statements that part stay apart when another line is broken behind that place. -/
theorem parts_broken {text : List Char} {seen : Nat}
    (hparts : Parts seen text (joinLines (front ++ line :: rest)))
    (hseen : seen ≤ (joinLines front).length) (hline : IsLine line)
    (h : breakLine unit line = [first, second]) :
    Parts seen text (joinLines (front ++ first :: second :: rest)) := by
  obtain ⟨w, w', hgap, htext, htext'⟩ := exists_gap hline h front rest
  rw [htext] at hparts
  rw [htext']
  exact hparts.gap hgap (Nat.le_trans hseen (length_joinLines_le front [first]))
    (getLast?_joinLines_ne hline h front)

end

/-! ## All lines -/

theorem breakLine_cases (unit : Nat) (line : List Char) :
    breakLine unit line = [line] ∨ ∃ first second, breakLine unit line = [first, second] := by
  simp only [breakLine]
  split
  · split
    · split
      · exact .inl rfl
      · exact .inr ⟨_, _, rfl⟩
    · exact .inl rfl
  · exact .inl rfl

/-- Statements that part stay apart when lines are broken behind that place. -/
theorem parts_breakJoinOn (unit : Nat) {text : List Char} {seen : Nat}
    {front rest : List (List Char)} (hparts : Parts seen text (joinLines (front ++ rest)))
    (hseen : seen ≤ (joinLines front).length) (hrest : ∀ line ∈ rest, IsLine line) :
    Parts seen text (joinLines (front ++ breakJoinOn unit rest)) := by
  induction rest generalizing front with
  | nil => exact hparts
  | cons line rest ih =>
    have hline := hrest line List.mem_cons_self
    have hnext : ∀ line ∈ rest, IsLine line := fun piece hmem =>
      hrest piece (List.mem_cons_of_mem _ hmem)
    have hpieces : breakJoinOn unit (line :: rest) = breakLine unit line ++ breakJoinOn unit rest :=
      List.flatMap_cons
    rw [hpieces, ← List.append_assoc]
    rcases breakLine_cases unit line with hkept | ⟨first, second, hbroken⟩
    · rw [hkept]
      rw [List.append_cons] at hparts
      exact ih hparts (Nat.le_trans hseen (length_joinLines_le front [line])) hnext
    · rw [hbroken]
      have hafter := parts_broken hparts hseen hline hbroken
      rw [List.append_cons, List.append_cons, List.append_assoc front] at hafter
      exact ih hafter (Nat.le_trans hseen (length_joinLines_le front [first, second])) hnext

/-- Wherever one of some lines at the end of a text is broken, the text has the ON as a token. -/
def BreaksAtOns (unit : Nat) (text : List Char) (lines : List (List Char)) : Prop :=
  ∀ front line back first second, lines = front ++ line :: back →
    breakLine unit line = [first, second] → OnAt text (joinLines (dropSpaces second :: back))

theorem breaksAtOns_cons {unit : Nat} {text line : List Char} {rest : List (List Char)} :
    BreaksAtOns unit text (line :: rest) ↔
      (∀ first second, breakLine unit line = [first, second] →
          OnAt text (joinLines (dropSpaces second :: rest))) ∧
        BreaksAtOns unit text rest := by
  constructor
  · intro h
    refine ⟨fun first second => h [] line rest first second rfl, ?_⟩
    rintro front piece back first second rfl
    exact h (line :: front) piece back first second rfl
  · rintro ⟨hline, hrest⟩ front piece back first second heq hbroken
    cases front with
    | nil =>
      obtain ⟨rfl, rfl⟩ := List.cons.inj heq
      exact hline first second hbroken
    | cons _ front => exact hrest front piece back first second (List.cons.inj heq).2 hbroken

theorem length_on_lt {unit : Nat} {line first second on : List Char}
    {front rest : List (List Char)} (h : breakLine unit line = [first, second]) :
    (joinLines (dropSpaces second :: rest)).length <
      (joinLines (on :: (front ++ line :: rest))).length := by
  obtain ⟨gap, on', rfl, rfl, hblanks, -⟩ := exists_of_breakLine h
  rw [dropSpaces_onSpaces_append _ _ hblanks.on]
  have hpos := List.length_pos_iff.mpr hblanks.ne
  have hsplit := congrArg List.length (joinLines_between (on :: front) rest first gap on')
  simp only [List.length_append, List.cons_append] at hsplit
  omega

theorem breaksAtOns_iff_of_agreeFrom {unit : Nat} {text text' on : List Char}
    {rest : List (List Char)} (h : AgreeFrom (joinLines (on :: rest)) text text') :
    BreaksAtOns unit text rest ↔ BreaksAtOns unit text' rest := by
  constructor
  · rintro hons front line back first second rfl hbroken
    exact h.onAt (length_on_lt hbroken) (hons front line back first second rfl hbroken)
  · rintro hons front line back first second rfl hbroken
    exact h.symm.onAt (length_on_lt hbroken) (hons front line back first second rfl hbroken)

theorem lexemes_breakJoinOn_append (unit : Nat) (front : List (List Char)) {rest : List (List Char)}
    (hrest : ∀ line ∈ rest, IsLine line) :
    lexemes (joinLines (front ++ breakJoinOn unit rest)) = lexemes (joinLines (front ++ rest)) ↔
      BreaksAtOns unit (joinLines (front ++ rest)) rest := by
  induction rest generalizing front with
  | nil =>
    refine ⟨fun _ => ?_, fun _ => rfl⟩
    intro before line back first second heq
    cases before <;> cases heq
  | cons line rest ih =>
    have hline := hrest line List.mem_cons_self
    have hnext : ∀ line ∈ rest, IsLine line := fun piece hmem =>
      hrest piece (List.mem_cons_of_mem _ hmem)
    have hpieces : breakJoinOn unit (line :: rest) = breakLine unit line ++ breakJoinOn unit rest :=
      List.flatMap_cons
    rw [hpieces, ← List.append_assoc, breaksAtOns_cons]
    rcases breakLine_cases unit line with hkept | ⟨first, second, hbroken⟩
    · have hsame := ih (front ++ [line]) hnext
      rw [List.append_assoc front [line] rest, List.singleton_append] at hsame
      rw [hkept, hsame]
      exact ⟨fun hons => ⟨nofun, hons⟩, And.right⟩
    · rw [hbroken]
      rcases breakLine_outcome hline hbroken front rest with
        ⟨hon, hsame, hagree⟩ | ⟨⟨_, _, _, hencloser, -⟩, hparts⟩
      · have hbreak := ih (front ++ [first, second]) hnext
        rw [List.append_assoc front [first, second] rest, List.cons_append, List.cons_append,
          List.nil_append, hsame, ← breaksAtOns_iff_of_agreeFrom hagree] at hbreak
        rw [hbreak]
        refine ⟨fun hons => ⟨?_, hons⟩, And.right⟩
        rintro _ _ ⟨⟩
        exact hon
      · -- the texts part here, and no later line brings them together again
        have happend : front ++ first :: second :: rest = (front ++ [first, second]) ++ rest := by
          rw [List.append_assoc, List.cons_append, List.singleton_append]
        rw [happend] at hparts
        have hlexemes := (parts_breakJoinOn unit hparts (Nat.le_refl _) hnext).lexemes_ne
        exact ⟨fun heq => absurd heq hlexemes,
          fun hons => absurd (hons.1 first second rfl) hencloser.not_onAt⟩

/-- **Where lines are broken, and what that does.** Each line stays as it is, or it is broken at the
blanks before an ON, which is a token of the statement unless it stands within another one. The
statement keeps its lexemes just if each of these ONs is a token. -/
theorem breakJoinOn_outcome (unit : Nat) {lines : List (List Char)}
    (hlines : ∀ line ∈ lines, IsLine line) :
    (∀ front line back, lines = front ++ line :: back →
      breakLine unit line = [line] ∨ ∃ first gap on, line = first ++ (gap ++ on) ∧
        BlanksBeforeOn gap on ∧ breakLine unit line = [first, onSpaces unit line ++ on] ∧
        (¬ OnAt (joinLines lines) (joinLines (on :: back)) ↔
          OnEnclosed (joinLines lines) (joinLines (on :: back)))) ∧
      (lexemes (joinLines (breakJoinOn unit lines)) = lexemes (joinLines lines) ↔
        BreaksAtOns unit (joinLines lines) lines) := by
  refine ⟨?_, lexemes_breakJoinOn_append unit [] hlines⟩
  rintro front line back rfl
  have hline := hlines line (List.mem_append_right _ List.mem_cons_self)
  rcases breakLine_cases unit line with hkept | ⟨first, second, hbroken⟩
  · exact .inl hkept
  · obtain ⟨gap, on, hsplit, rfl, hblanks, -⟩ := exists_of_breakLine hbroken
    have houtcome := breakLine_outcome hline hbroken front back
    rw [dropSpaces_onSpaces_append _ _ hblanks.on] at houtcome
    refine .inr ⟨first, gap, on, hsplit, hblanks, hbroken, fun hnone => ?_, ?_⟩
    · rcases houtcome with ⟨hon, -⟩ | ⟨henclosed, -⟩
      · exact absurd hon hnone
      · exact henclosed
    · rintro ⟨_, _, _, hencloser, -⟩
      exact hencloser.not_onAt

/-- A comment above a JOIN and a name in brackets before its ON, which is a token. -/
theorem breakJoinOn_outcome_sales :
    (∀ line ∈ ["FROM sales -- based on orders\r".toList, "LEFT JOIN [u] ON u.id = sales.id\r".toList],
      IsLine line) ∧
      breakLine 4 "LEFT JOIN [u] ON u.id = sales.id\r".toList =
        ["LEFT JOIN [u]".toList, "    ON u.id = sales.id\r".toList] ∧
      OnAt "FROM sales -- based on orders\r\nLEFT JOIN [u] ON u.id = sales.id\r".toList
        "ON u.id = sales.id\r".toList := by
  have hlines : ∀ line ∈ ["FROM sales -- based on orders\r".toList,
      "LEFT JOIN [u] ON u.id = sales.id\r".toList], IsLine line := by
    decide +kernel
  have hbroken : breakLine 4 "LEFT JOIN [u] ON u.id = sales.id\r".toList =
      ["LEFT JOIN [u]".toList, "    ON u.id = sales.id\r".toList] := by
    decide +kernel
  have hons := (breakJoinOn_outcome 4 hlines).2.mp (by decide +kernel)
  exact ⟨hlines, hbroken, hons [_] _ [] _ _ rfl hbroken⟩

/-- A line is broken into two that are not read as the line was. -/
def Spoils (line first second : String) : Prop :=
  breakJoinOn 4 [line.toList] = [first.toList, second.toList] ∧
    lexemes (joinLines (breakJoinOn 4 [line.toList])) ≠ lexemes line.toList

/-- **An ON within another token is taken for that of the JOIN**: in a line comment, in a name in
brackets, in one in quotes and in a block comment. -/
theorem breakJoinOn_spoils :
    Spoils "JOIN u -- match on id" "JOIN u -- match" "    on id" ∧
      Spoils "CROSS JOIN [stock on hand]" "CROSS JOIN [stock" "    on hand]" ∧
      Spoils "CROSS JOIN \"stock on hand\" s" "CROSS JOIN \"stock" "    on hand\" s" ∧
      Spoils "CROSS JOIN u /* based on id */" "CROSS JOIN u /* based" "    on id */" := by
  refine ⟨⟨?_, ?_⟩, ⟨?_, ?_⟩, ⟨?_, ?_⟩, ⟨?_, ?_⟩⟩
  all_goals decide +kernel

end SqlDesk.Engine
