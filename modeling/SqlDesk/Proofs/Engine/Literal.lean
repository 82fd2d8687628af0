/-
What becomes of a literal in a laid out statement.

The steps on lines look at how a line starts, and at an ON before which no quote stands, but not at
where a literal starts and ends. So nothing that stands behind a quote on its line is touched
(`breakLine_append_quote`, `reindent_append_quote`), and a statement is finished in two parts at any
quote (`finishText_append_quote`). But the further lines of a literal are treated as any other line:
it stays as it is just if all of them are kept (`finishText_quote_eq_iff`).
-/
import SqlDesk.Proofs.Engine.Words
import SqlDesk.Proofs.Text.Blank
import SqlDesk.Proofs.Text.Lines

namespace SqlDesk.Engine

open Text

/-! ## Lists -/

section

variable {α β : Type} {f : α → List β}

theorem length_le_length_flatMap (hf : ∀ x, f x ≠ []) (xs : List α) :
    xs.length ≤ (xs.flatMap f).length := by
  induction xs with
  | nil => exact Nat.le_refl _
  | cons x xs ih =>
    have hpos := List.length_pos_iff.mpr (hf x)
    rw [List.flatMap_cons, List.length_append, List.length_cons]
    omega

theorem flatMap_eq_singleton (hf : ∀ x, f x ≠ []) {xs : List α} {y : β}
    (h : xs.flatMap f = [y]) : ∃ x, xs = [x] ∧ f x = [y] := by
  have hlength := length_le_length_flatMap hf xs
  rw [h] at hlength
  match xs with
  | [] => cases h
  | [x] => exact ⟨x, rfl, by simpa using h⟩
  | _ :: _ :: _ => simp at hlength

theorem flatMap_eq_self_iff {f : α → List α} (hf : ∀ x, f x ≠ []) {xs : List α} :
    xs.flatMap f = xs ↔ ∀ x ∈ xs, f x = [x] := by
  induction xs with
  | nil => simp
  | cons x xs ih =>
    rw [List.flatMap_cons, List.forall_mem_cons, ← ih]
    constructor
    · intro h
      have hlength := congrArg List.length h
      rw [List.length_append, List.length_cons] at hlength
      have hle := length_le_length_flatMap hf xs
      have hpos := List.length_pos_iff.mpr (hf x)
      have hone : (f x).length = [x].length := by
        rw [List.length_singleton]
        omega
      exact List.append_inj (show f x ++ xs.flatMap f = [x] ++ xs from h) hone
    · rintro ⟨hx, hxs⟩
      rw [hx, hxs, List.singleton_append]

end

/-! ## A quote in a line -/

theorem afterWord?_append_quote {word : String} (hword : '\'' ∉ word.toList) (cs rest : List Char) :
    afterWord? word (cs ++ '\'' :: rest) = (afterWord? word cs).map (· ++ '\'' :: rest) := by
  by_cases hlength : word.length ≤ cs.length
  · rw [afterWord?, afterWord?, List.take_append_of_le_length hlength,
      List.drop_append_of_le_length hlength]
    split <;> rfl
  · have hlonger : ¬ ((cs ++ '\'' :: rest).take word.length).map foldLetter = word.toList := by
      intro heq
      refine hword (heq ▸ List.mem_map.mpr ⟨'\'', ?_, by decide⟩)
      rw [List.take_append, List.mem_append]
      obtain ⟨n, hn⟩ : ∃ n, word.length - cs.length = n + 1 := ⟨word.length - cs.length - 1, by omega⟩
      rw [hn, List.take_succ_cons]
      exact .inr List.mem_cons_self
    have hshorter : ¬ (cs.take word.length).map foldLetter = word.toList := by
      intro heq
      have hlen := congrArg List.length heq
      simp only [List.length_map, List.length_take, String.length_toList] at hlen
      omega
    rw [afterWord?, afterWord?, if_neg hlonger, if_neg hshorter]
    rfl

theorem dropWhile_isBlank_append_quote (cs rest : List Char) :
    (cs ++ '\'' :: rest).dropWhile isBlank = cs.dropWhile isBlank ++ '\'' :: rest :=
  dropWhile_append_cons (by decide) cs rest

theorem afterAnyWord?_append_quote {words : List String}
    (hwords : ∀ word ∈ words, '\'' ∉ word.toList) (cs rest : List Char) :
    afterAnyWord? words (cs ++ '\'' :: rest) =
      (afterAnyWord? words cs).map (· ++ '\'' :: rest) := by
  induction words with
  | nil => rfl
  | cons word words ih =>
    have hrest := ih fun word hmem => hwords word (List.mem_cons_of_mem _ hmem)
    simp only [afterAnyWord?] at hrest ⊢
    rw [List.findSome?_cons, List.findSome?_cons,
      afterWord?_append_quote (hwords word List.mem_cons_self), hrest]
    cases afterWord? word cs <;> rfl

theorem length_of_afterWord? {word : String} {cs rest : List Char}
    (h : afterWord? word cs = some rest) : rest.length ≤ cs.length := by
  unfold afterWord? at h
  split at h
  · obtain rfl := Option.some.inj h
    rw [List.length_drop]
    exact Nat.sub_le _ _
  · cases h

theorem length_of_afterAnyWord? {words : List String} {cs rest : List Char}
    (h : afterAnyWord? words cs = some rest) : rest.length ≤ cs.length := by
  obtain ⟨word, -, hword⟩ := List.exists_of_findSome?_eq_some h
  exact length_of_afterWord? hword

theorem wordEndsAt_append_quote (cs rest : List Char) :
    wordEndsAt (cs ++ '\'' :: rest) = wordEndsAt cs := by
  cases cs with
  | nil =>
    have hquote : isWordChar '\'' = false := by decide +kernel
    simp only [List.nil_append, wordEndsAt, hquote, Bool.not_false]
  | cons c cs => rfl

/-- Whether a text opens with JOIN is decided before the first quote. -/
theorem opensWithJoin_append_quote {fuel fuel' : Nat} {cs : List Char} (rest : List Char)
    (hfuel : cs.length < fuel) (hfuel' : cs.length < fuel') :
    opensWithJoin fuel (cs ++ '\'' :: rest) = opensWithJoin fuel' cs := by
  induction fuel generalizing fuel' cs with
  | zero => omega
  | succ fuel ih =>
    obtain ⟨fuel', rfl⟩ : ∃ n, fuel' = n + 1 := ⟨fuel' - 1, by omega⟩
    have hmodifiers : ∀ word ∈ joinModifiers, '\'' ∉ word.toList := by decide
    simp only [opensWithJoin]
    rw [afterWord?_append_quote (show '\'' ∉ "JOIN".toList by decide),
      afterAnyWord?_append_quote hmodifiers]
    cases afterWord? "JOIN" cs with
    | some after => exact wordEndsAt_append_quote after rest
    | none =>
      cases hafter : afterAnyWord? joinModifiers cs with
      | none => rfl
      | some after =>
        cases after with
        | nil => rfl
        | cons c after =>
          have hlength := length_of_afterAnyWord? hafter
          have hdrop : (after.dropWhile isBlank).length ≤ after.length :=
            (List.dropWhile_sublist _).length_le
          rw [List.length_cons] at hlength
          have hrest : opensWithJoin fuel (after.dropWhile isBlank ++ '\'' :: rest) =
              opensWithJoin fuel' (after.dropWhile isBlank) := ih (by omega) (by omega)
          simp only [Option.map_some, Option.map_none, List.cons_append,
            dropWhile_isBlank_append_quote, hrest]

theorem isJoin_append_quote (cs rest : List Char) : isJoin (cs ++ '\'' :: rest) = isJoin cs := by
  refine opensWithJoin_append_quote rest ?_ (Nat.lt_succ_self _)
  rw [List.length_append]
  omega

theorem opensWithOn_append_quote (cs rest : List Char) :
    opensWithOn (cs ++ '\'' :: rest) = opensWithOn cs := by
  simp only [opensWithOn]
  rw [afterWord?_append_quote (show '\'' ∉ "ON".toList by decide)]
  cases afterWord? "ON" cs with
  | none => rfl
  | some after => cases after <;> rfl

/-- A text is cut before a quote as it is without it, or behind the quote. -/
theorem cutOn?_append_quote (cs rest : List Char) : cutOn? (cs ++ '\'' :: rest) =
    match cutOn? cs with
    | some (before, on) => some (before, on ++ '\'' :: rest)
    | none => (cutOn? rest).map fun (before, on) => (cs ++ '\'' :: before, on) := by
  induction cs with
  | nil =>
    have hquote : isBlank '\'' = false := by decide
    simp only [List.nil_append, cutOn?, hquote, Bool.false_and, Bool.false_eq_true, if_false]
  | cons c cs ih =>
    simp only [List.cons_append, cutOn?, dropWhile_isBlank_append_quote, opensWithOn_append_quote,
      ih]
    split
    · rfl
    · cases cutOn? cs with
      | none => cases cutOn? rest <;> rfl
      | some cut => rfl

theorem leadingSpaces_append_quote (cs rest : List Char) :
    leadingSpaces (cs ++ '\'' :: rest) = leadingSpaces cs :=
  takeWhile_append_cons (by decide) cs rest

theorem dropSpaces_append_quote (cs rest : List Char) :
    dropSpaces (cs ++ '\'' :: rest) = dropSpaces cs ++ '\'' :: rest :=
  dropWhile_append_cons (by decide) cs rest

theorem breakLine_append_quote {unit : Nat} {cs last : List Char} {front : List (List Char)}
    (h : breakLine unit cs = front ++ [last]) (rest : List Char) :
    breakLine unit (cs ++ '\'' :: rest) = front ++ [last ++ '\'' :: rest] := by
  have whole : ∀ {front : List (List Char)} {last : List Char}, [cs] = front ++ [last] →
      [cs ++ '\'' :: rest] = front ++ [last ++ '\'' :: rest] := by
    intro front last heq
    obtain ⟨rfl, hlast⟩ := List.append_inj' (show [] ++ [cs] = front ++ [last] from heq) rfl
    rw [List.singleton_inj.mp hlast, List.nil_append]
  simp only [breakLine, dropSpaces_append_quote, leadingSpaces_append_quote, isJoin_append_quote,
    cutOn?_append_quote] at h ⊢
  cases hjoin : isJoin (dropSpaces cs) with
  | false =>
    rw [hjoin] at h
    exact whole h
  | true =>
    rw [hjoin] at h
    cases hcut : cutOn? (dropSpaces cs) with
    | none =>
      rw [hcut] at h
      -- an ON behind the quote has the quote before it
      cases cutOn? rest with
      | none => exact whole h
      | some cut =>
        have hquote : (dropSpaces cs ++ '\'' :: cut.1).contains '\'' = true := by simp
        simp only [Option.map_some, hquote, if_true]
        exact whole h
    | some cut =>
      simp only [hcut, if_true] at h ⊢
      by_cases hquote : cut.1.contains '\'' = true
      · rw [if_pos hquote] at h ⊢
        exact whole h
      · rw [if_neg hquote] at h ⊢
        obtain ⟨rfl, hlast⟩ := List.append_inj' (show [_] ++ [_] = front ++ [last] from h) rfl
        rw [← List.singleton_inj.mp hlast]
        simp

/-! ## A line among the lines of a statement -/

variable {options : Options}

/-- Whether lines are broken before an ON. -/
def breaksLines (options : Options) : Bool :=
  0 < options.count .clauseBreaks && options.toggle .breakJoinOnSections

/-- The lines that a line is broken into. -/
def pieces (options : Options) (line : List Char) : List (List Char) :=
  if breaksLines options then breakLine (unit options) line else [line]

/-- A line with the empty lines before it if it starts a clause. -/
def spaced (extra : Nat) (line : List Char) : List (List Char) :=
  if startsClause line then List.replicate extra [] ++ [line] else [line]

/-- The lines that a line becomes when it is not the first one. -/
def laterLines (options : Options) (line : List Char) : List (List Char) :=
  ((pieces options line).flatMap (spaced (options.count .clauseBreaks - 1))).map
    (reindent options.indent.toList (unit options))

theorem breakLine_ne_nil (unit : Nat) (line : List Char) : breakLine unit line ≠ [] := by
  simp only [breakLine]
  split
  · split
    · split <;> exact List.cons_ne_nil _ _
    · exact List.cons_ne_nil _ _
  · exact List.cons_ne_nil _ _

theorem pieces_ne_nil (options : Options) (line : List Char) : pieces options line ≠ [] := by
  unfold pieces
  split
  · exact breakLine_ne_nil _ line
  · exact List.cons_ne_nil _ _

theorem spaceClauses_append {lines : List (List Char)} (h : lines ≠ []) (extra : Nat)
    (rest : List (List Char)) :
    spaceClauses extra (lines ++ rest) = spaceClauses extra lines ++ rest.flatMap (spaced extra) := by
  obtain ⟨first, lines, rfl⟩ := List.exists_cons_of_ne_nil h
  simp only [List.cons_append, spaceClauses, List.flatMap_append]
  rfl

/-- The steps on lines, one after the other; without room between clauses no line is added. -/
theorem finishLines_eq (options : Options) (lines : List (List Char)) : finishLines options lines =
    (spaceClauses (options.count .clauseBreaks - 1) (lines.flatMap (pieces options))).map
      (reindent options.indent.toList (unit options)) := by
  have hspace : ∀ lines, (if 1 < options.count .clauseBreaks then
      spaceClauses (options.count .clauseBreaks - 1) lines else lines) =
        spaceClauses (options.count .clauseBreaks - 1) lines := by
    intro lines
    split
    · rfl
    · next hone =>
      have hextra : options.count .clauseBreaks - 1 = 0 := by omega
      rw [hextra]
      cases lines with
      | nil => rfl
      | cons first rest => simp [spaceClauses]
  have hbreak : (if breaksLines options then breakJoinOn (unit options) lines else lines) =
      lines.flatMap (pieces options) := by
    unfold pieces
    split
    · rfl
    · exact (List.flatMap_singleton' lines).symm
  rw [← hbreak, ← hspace]
  rfl

theorem finishLines_cons (options : Options) (first : List Char) (rest : List (List Char)) :
    finishLines options (first :: rest) =
      finishLines options [first] ++ rest.flatMap (laterLines options) := by
  simp only [finishLines_eq, List.flatMap_cons, List.flatMap_nil, List.append_nil]
  rw [spaceClauses_append (pieces_ne_nil options first), List.map_append, List.flatMap_assoc,
    List.map_flatMap]
  rfl

theorem pieces_append_quote {cs last : List Char} {front : List (List Char)}
    (h : pieces options cs = front ++ [last]) (rest : List Char) :
    pieces options (cs ++ '\'' :: rest) = front ++ [last ++ '\'' :: rest] := by
  unfold pieces at h ⊢
  split at h
  · next hbreaks =>
    rw [if_pos hbreaks]
    exact breakLine_append_quote h rest
  · next hbreaks =>
    obtain ⟨rfl, hlast⟩ := List.append_inj' (show [] ++ [cs] = front ++ [last] from h) rfl
    rw [if_neg hbreaks, List.singleton_inj.mp hlast, List.nil_append]

theorem spaced_append_quote (extra : Nat) (cs rest : List Char) :
    spaced extra (cs ++ '\'' :: rest) =
      (if startsClause (cs ++ ['\'']) then List.replicate extra [] else []) ++
        [cs ++ '\'' :: rest] := by
  have hstarts : startsClause (cs ++ '\'' :: rest) = startsClause (cs ++ ['\'']) := by
    cases cs <;> rfl
  rw [spaced, hstarts]
  split <;> rfl

/-- A line with its indents, even if there is nothing else on it. -/
def indented (indent : List Char) (unit : Nat) (line : List Char) : List Char :=
  (List.replicate ((leadingSpaces line).length / unit) indent).flatten ++
    List.replicate ((leadingSpaces line).length % unit) ' ' ++ dropSpaces line

/-- What stands from a quote on is not touched by the indents. -/
theorem reindent_append_quote (indent : List Char) (unit : Nat) (cs rest : List Char) :
    reindent indent unit (cs ++ '\'' :: rest) = indented indent unit cs ++ '\'' :: rest := by
  have hfilled : (dropSpaces cs ++ '\'' :: rest).isEmpty = false := by simp
  simp only [reindent, indented, dropSpaces_append_quote, leadingSpaces_append_quote, hfilled,
    Bool.false_eq_true, if_false, List.append_assoc]

theorem exists_pieces (options : Options) (line : List Char) :
    ∃ front last, pieces options line = front ++ [last] :=
  ⟨_, _, (List.dropLast_concat_getLast (pieces_ne_nil options line)).symm⟩

theorem laterLines_append_quote (options : Options) (cs : List Char) : ∃ front last, ∀ rest,
    laterLines options (cs ++ '\'' :: rest) = front ++ [last ++ '\'' :: rest] := by
  obtain ⟨front, last, hpieces⟩ := exists_pieces options cs
  let extra := options.count .clauseBreaks - 1
  let indent := options.indent.toList
  refine ⟨(front.flatMap (spaced extra)).map (reindent indent (unit options)) ++
    (if startsClause (last ++ ['\'']) then List.replicate extra [] else []).map
      (reindent indent (unit options)), indented indent (unit options) last, fun rest => ?_⟩
  simp only [laterLines, pieces_append_quote hpieces, List.flatMap_append, List.flatMap_cons,
    List.flatMap_nil, List.append_nil, spaced_append_quote, List.map_append, List.map_cons,
    List.map_nil, reindent_append_quote, List.append_assoc, extra, indent]

theorem finishLines_singleton_append_quote (options : Options) (cs : List Char) :
    ∃ front last, ∀ rest,
      finishLines options [cs ++ '\'' :: rest] = front ++ [last ++ '\'' :: rest] := by
  obtain ⟨front, last, hpieces⟩ := exists_pieces options cs
  let extra := options.count .clauseBreaks - 1
  let indent := options.indent.toList
  cases front with
  | nil =>
    refine ⟨[], indented indent (unit options) last, fun rest => ?_⟩
    simp only [finishLines_eq, List.flatMap_cons, List.flatMap_nil, List.append_nil,
      pieces_append_quote hpieces, List.nil_append, spaceClauses, List.map_cons, List.map_nil,
      reindent_append_quote, indent]
  | cons first front =>
    refine ⟨(spaceClauses extra (first :: front)).map (reindent indent (unit options)) ++
      (if startsClause (last ++ ['\'']) then List.replicate extra [] else []).map
        (reindent indent (unit options)), indented indent (unit options) last, fun rest => ?_⟩
    simp only [finishLines_eq, List.flatMap_cons, List.flatMap_nil, List.append_nil,
      pieces_append_quote hpieces]
    rw [spaceClauses_append (List.cons_ne_nil first front)]
    simp only [List.flatMap_cons, List.flatMap_nil, List.append_nil, spaced_append_quote,
      List.map_append, List.map_cons, List.map_nil, reindent_append_quote, List.append_assoc,
      extra, indent]

/-- Where lines are finished nothing changes from a quote on to the end of its line, and the lines
before it do not depend on what is behind it. -/
theorem finishLines_append_quote (options : Options) (before : List (List Char)) (cs : List Char) :
    ∃ front last, ∀ rest lines, finishLines options (before ++ (cs ++ '\'' :: rest) :: lines) =
      front ++ (last ++ '\'' :: rest) :: lines.flatMap (laterLines options) := by
  cases before with
  | nil =>
    obtain ⟨front, last, hfirst⟩ := finishLines_singleton_append_quote options cs
    refine ⟨front, last, fun rest lines => ?_⟩
    rw [List.nil_append, finishLines_cons, hfirst, List.append_assoc, List.singleton_append]
  | cons first before =>
    obtain ⟨front, last, hlater⟩ := laterLines_append_quote options cs
    refine ⟨finishLines options [first] ++ (before.flatMap (laterLines options) ++ front), last,
      fun rest lines => ?_⟩
    rw [List.cons_append, finishLines_cons, List.flatMap_append, List.flatMap_cons, hlater]
    simp only [List.append_assoc, List.singleton_append]

theorem finishLines_quote (options : Options) (rest : List Char) (lines : List (List Char)) :
    finishLines options (('\'' :: rest) :: lines) =
      ('\'' :: rest) :: lines.flatMap (laterLines options) := by
  have hpieces : pieces options ('\'' :: rest) = ['\'' :: rest] := by
    have hempty : pieces options [] = [] ++ [[]] := by
      unfold pieces
      split <;> rfl
    exact pieces_append_quote hempty rest
  have hreindent : reindent options.indent.toList (unit options) ('\'' :: rest) = '\'' :: rest := by
    have hquote := reindent_append_quote options.indent.toList (unit options) [] rest
    have hempty : indented options.indent.toList (unit options) [] = [] := by
      simp [indented, leadingSpaces, dropSpaces]
    rwa [hempty] at hquote
  rw [finishLines_cons, finishLines_eq]
  simp only [List.flatMap_cons, List.flatMap_nil, List.append_nil, hpieces, spaceClauses,
    List.map_cons, List.map_nil, hreindent, List.singleton_append]

/-! ## A quote in a statement -/

/-- A laid out statement after all steps on lines. -/
def finishText (options : Options) (laidOut : List Char) : List Char :=
  joinLines (finishLines options (splitLines laidOut))

/-- **A statement is finished in two parts at any quote**: what is in front of the quote, and from
the quote on what would be a statement of its own. -/
theorem finishText_append_quote (options : Options) (before after : List Char) :
    ∃ front back, finishText options (before ++ ['\'']) = front ++ ['\''] ∧
      finishText options ('\'' :: after) = '\'' :: back ∧
      finishText options (before ++ '\'' :: after) = front ++ '\'' :: back := by
  obtain ⟨lines, line, hbefore⟩ : ∃ lines line, splitLines before = lines ++ [line] :=
    ⟨_, _, (List.dropLast_concat_getLast (splitLines_ne_nil before)).symm⟩
  obtain ⟨first, rest, hafter⟩ := List.exists_cons_of_ne_nil (splitLines_ne_nil after)
  have hquote : splitLines ('\'' :: after) = ('\'' :: first) :: rest := by
    rw [splitLines_cons hafter, if_neg (by decide)]
  obtain ⟨front, last, hfinish⟩ := finishLines_append_quote options lines line
  refine ⟨joinLines (front ++ [last]), joinLines (first :: rest.flatMap (laterLines options)),
    ?_, ?_, ?_⟩
  · have hend : splitLines ['\''] = [['\'']] := rfl
    have hfront := hfinish [] []
    rw [finishText, splitLines_append hbefore hend, hfront, List.flatMap_nil, joinLines_append]
    rfl
  · rw [finishText, hquote, finishLines_quote, joinLines_cons_cons]
  · rw [finishText, splitLines_append hbefore hquote, hfinish, joinLines_append,
      joinLines_cons_cons]

/-! ## The lines that are kept -/

/-- A line that the steps on lines leave alone where it is not the first one: it is not of spaces
only, its indents are the steps of spaces that they stand for, it starts no clause that is set
apart, and it is no JOIN that is broken. -/
structure Kept (options : Options) (line : List Char) : Prop where
  filled : dropSpaces line = [] → line = []
  stepped : unit options ≤ (leadingSpaces line).length →
    options.indent.toList = List.replicate (unit options) ' '
  inner : 1 < options.count .clauseBreaks → startsClause line = false
  whole : breaksLines options = true → isJoin (dropSpaces line) = true →
    ∀ before on, cutOn? (dropSpaces line) = some (before, on) → '\'' ∈ before

/-- Indents are as wide as the spaces that they stand for just if one of them is. -/
theorem indents_eq_spaces_iff {indent : List Char} {unit : Nat} (hunit : 0 < unit) (depth : Nat) :
    (List.replicate (depth / unit) indent).flatten ++ List.replicate (depth % unit) ' ' =
        List.replicate depth ' ' ↔ (unit ≤ depth → indent = List.replicate unit ' ') := by
  constructor
  · intro heq hle
    have hpos : 0 < depth / unit := Nat.div_pos hle hunit
    have hspaces : ∀ c ∈ indent, c = ' ' := by
      intro c hc
      refine (List.mem_replicate.mp (heq ▸ List.mem_append_left _ ?_)).2
      exact List.mem_flatten.mpr ⟨indent, List.mem_replicate.mpr ⟨by omega, rfl⟩, hc⟩
    refine List.eq_replicate_iff.mpr ⟨?_, hspaces⟩
    have hlength := congrArg List.length heq
    simp only [List.length_append, List.length_flatten, List.map_replicate, List.sum_replicate_nat,
      List.length_replicate] at hlength
    have hdepth := Nat.div_add_mod depth unit
    rw [Nat.mul_comm] at hdepth
    exact Nat.eq_of_mul_eq_mul_left hpos (by omega)
  · intro hindent
    by_cases hle : unit ≤ depth
    · rw [hindent hle, List.flatten_replicate_replicate, List.replicate_append_replicate,
        Nat.mul_comm, Nat.div_add_mod]
    · rw [Nat.div_eq_of_lt (by omega), Nat.mod_eq_of_lt (by omega)]
      simp

theorem reindent_eq_self_iff {indent line : List Char} {unit : Nat} (hunit : 0 < unit) :
    reindent indent unit line = line ↔ (dropSpaces line = [] → line = []) ∧
      (unit ≤ (leadingSpaces line).length → indent = List.replicate unit ' ') := by
  simp only [reindent, List.isEmpty_iff]
  split
  · next hempty =>
    constructor
    · intro heq
      obtain rfl : line = [] := heq.symm
      refine ⟨fun _ => rfl, fun hle => ?_⟩
      have hzero : unit ≤ 0 := hle
      omega
    · intro hkept
      exact (hkept.1 hempty).symm
  · next hfilled =>
    have hsplit : (List.replicate ((leadingSpaces line).length / unit) indent).flatten ++
          List.replicate ((leadingSpaces line).length % unit) ' ' ++ dropSpaces line = line ↔
        (List.replicate ((leadingSpaces line).length / unit) indent).flatten ++
          List.replicate ((leadingSpaces line).length % unit) ' ' =
            List.replicate (leadingSpaces line).length ' ' := by
      rw [← leadingSpaces_eq]
      conv => lhs; rhs; rw [← leadingSpaces_append_dropSpaces line]
      exact List.append_left_inj _
    rw [hsplit, indents_eq_spaces_iff hunit]
    exact ⟨fun hindent => ⟨fun hempty => absurd hempty hfilled, hindent⟩, fun hkept => hkept.2⟩

theorem breakLine_eq_self_iff {unit : Nat} {line : List Char} : breakLine unit line = [line] ↔
    (isJoin (dropSpaces line) = true →
      ∀ before on, cutOn? (dropSpaces line) = some (before, on) → '\'' ∈ before) := by
  simp only [breakLine]
  cases hjoin : isJoin (dropSpaces line) with
  | false => simp
  | true =>
    cases hcut : cutOn? (dropSpaces line) with
    | none => simp
    | some cut =>
      obtain ⟨before, on⟩ := cut
      by_cases hquote : '\'' ∈ before
      · simp [hquote]
      · simp [hquote]

theorem breakLine_singleton {unit : Nat} {line piece : List Char}
    (h : breakLine unit line = [piece]) : piece = line := by
  simp only [breakLine] at h
  split at h
  · split at h
    · split at h
      · exact (List.singleton_inj.mp h).symm
      · cases h
    · exact (List.singleton_inj.mp h).symm
  · exact (List.singleton_inj.mp h).symm

theorem pieces_singleton {line piece : List Char} (h : pieces options line = [piece]) :
    piece = line := by
  unfold pieces at h
  split at h
  · exact breakLine_singleton h
  · exact (List.singleton_inj.mp h).symm

theorem pieces_eq_self_iff {line : List Char} : pieces options line = [line] ↔
    (breaksLines options = true → isJoin (dropSpaces line) = true →
      ∀ before on, cutOn? (dropSpaces line) = some (before, on) → '\'' ∈ before) := by
  unfold pieces
  split
  · next hbreaks => rw [breakLine_eq_self_iff, forall_prop_of_true hbreaks]
  · next hbreaks => exact ⟨fun _ h => absurd h hbreaks, fun _ => rfl⟩

theorem spaced_ne_nil (extra : Nat) (line : List Char) : spaced extra line ≠ [] := by
  unfold spaced
  split
  · exact List.append_ne_nil_of_right_ne_nil _ (List.cons_ne_nil _ _)
  · exact List.cons_ne_nil _ _

theorem spaced_eq_self_iff {extra : Nat} {line : List Char} : spaced extra line = [line] ↔
    (0 < extra → startsClause line = false) := by
  unfold spaced
  cases startsClause line with
  | false => simp
  | true =>
    have hcancel : List.replicate extra [] ++ [line] = [] ++ [line] ↔ extra = 0 := by
      rw [List.append_left_inj, List.replicate_eq_nil_iff]
    rw [if_pos rfl]
    refine hcancel.trans ?_
    simp [Nat.pos_iff_ne_zero]

theorem spaced_singleton {extra : Nat} {line line' : List Char} (h : spaced extra line = [line']) :
    line' = line := by
  unfold spaced at h
  split at h
  · have hlast := congrArg List.getLast? h
    rw [List.getLast?_concat] at hlast
    exact (Option.some.inj hlast).symm
  · exact (List.singleton_inj.mp h).symm

/-- **The lines that are kept** are those that become themselves. -/
theorem laterLines_eq_self_iff {line : List Char} :
    laterLines options line = [line] ↔ Kept options line := by
  have hunit : 0 < unit options := Nat.le_max_right _ _
  constructor
  · intro h
    obtain ⟨line', hspaced, hreindent⟩ := List.map_eq_singleton_iff.mp h
    obtain ⟨piece, hpieces, hpiece⟩ := flatMap_eq_singleton (spaced_ne_nil _) hspaced
    obtain rfl := spaced_singleton hpiece
    obtain rfl := pieces_singleton hpieces
    obtain ⟨hfilled, hstepped⟩ := (reindent_eq_self_iff hunit).mp hreindent
    exact ⟨hfilled, hstepped, fun hclauses => spaced_eq_self_iff.mp hpiece (by omega),
      pieces_eq_self_iff.mp hpieces⟩
  · intro h
    have hpieces := pieces_eq_self_iff.mpr h.whole
    have hspaced : spaced (options.count .clauseBreaks - 1) line = [line] :=
      spaced_eq_self_iff.mpr fun hextra => h.inner (by omega)
    have hreindent := (reindent_eq_self_iff hunit).mpr ⟨h.filled, h.stepped⟩
    simp only [laterLines, hpieces, List.flatMap_cons, List.flatMap_nil, List.append_nil, hspaced,
      List.map_cons, List.map_nil, hreindent]

theorem laterLines_ne_nil (options : Options) (line : List Char) : laterLines options line ≠ [] := by
  intro h
  have hspaced := List.flatMap_eq_nil_iff.mp (List.map_eq_nil_iff.mp h)
  obtain ⟨piece, hpiece⟩ := List.exists_mem_of_ne_nil _ (pieces_ne_nil options line)
  exact spaced_ne_nil _ piece (hspaced piece hpiece)

/-- **A text that starts with a quote stays as it is** just if all its lines but the first are kept.
-/
theorem finishText_quote_eq_iff (text : List Char) :
    finishText options ('\'' :: text) = '\'' :: text ↔
      ∀ line ∈ (splitLines ('\'' :: text)).tail, Kept options line := by
  obtain ⟨first, rest, htext⟩ := List.exists_cons_of_ne_nil (splitLines_ne_nil text)
  have hlines : splitLines ('\'' :: text) = ('\'' :: first) :: rest := by
    rw [splitLines_cons htext, if_neg (by decide)]
  have hkept : (∀ line ∈ rest, Kept options line) ↔
      rest.flatMap (laterLines options) = rest := by
    rw [flatMap_eq_self_iff (laterLines_ne_nil options)]
    simp only [laterLines_eq_self_iff]
  rw [hlines, List.tail_cons, hkept, finishText, hlines, finishLines_quote]
  constructor
  · intro heq
    have hplain : ∀ line ∈ ('\'' :: first) :: rest, '\n' ∉ line := fun line hmem =>
      not_mem_of_mem_splitLines (hlines ▸ hmem)
    rw [← joinLines_splitLines ('\'' :: text), hlines] at heq
    have hlength := length_le_length_flatMap (laterLines_ne_nil options) rest
    exact (List.cons.inj (eq_of_joinLines_eq (List.cons_ne_nil _ _) hplain
      (Nat.succ_le_succ hlength) heq)).2
  · intro heq
    rw [heq, ← hlines, joinLines_splitLines]

/-! ## Literals -/

/-- A literal with some inner text. -/
def literal (inner : List Char) : List Char :=
  '\'' :: inner ++ ['\'']

theorem formatStatement_eq {tools : Tools} {k : Nat} {statement laidOut : String}
    (h : tools.layOut k (requestOf options) statement = .ok laidOut) :
    formatStatement tools options.value k statement = .ok (finishText options laidOut.toList) := by
  simp only [formatStatement, request_value, h, finish_value]
  rfl

/-- **What becomes of a literal.** With any valid options, a literal in a laid out statement is
finished as if it were a statement of its own, between what is in front of it and what is behind it;
it stays as it is just if all its lines but the first are kept. So a literal of one line always does.
-/
theorem formatStatement_literal (tools : Tools) (options : Options) {k : Nat}
    {statement laidOut : String}
    (hlaid : tools.layOut k (requestOf options) statement = .ok laidOut)
    {before inner after : List Char} (hliteral : laidOut.toList = before ++ literal inner ++ after) :
    ∃ front back,
      formatStatement tools options.value k statement =
        .ok (front ++ finishText options (literal inner) ++ back) ∧
      finishText options (before ++ ['\'']) = front ++ ['\''] ∧
      finishText options ('\'' :: after) = '\'' :: back ∧
      (finishText options (literal inner) = literal inner ↔
        ∀ line ∈ (splitLines (literal inner)).tail, Kept options line) := by
  -- the text is cut at the quote that opens the literal, and the rest of it at the one that closes it
  have hopened : laidOut.toList = before ++ '\'' :: (inner ++ '\'' :: after) := by
    rw [hliteral, literal]
    simp
  obtain ⟨front, rest, hfront, hrest, hwhole⟩ :=
    finishText_append_quote options before (inner ++ '\'' :: after)
  obtain ⟨inside, back, hinside, hback, hclosed⟩ :=
    finishText_append_quote options ('\'' :: inner) after
  rw [List.cons_append, hrest] at hclosed
  refine ⟨front, back, ?_, hfront, hback, finishText_quote_eq_iff _⟩
  rw [formatStatement_eq hlaid, hopened, hwhole, hclosed, literal, hinside]
  simp only [List.append_assoc, List.singleton_append]

/-- A literal stays whose further lines have nothing on them or fewer spaces in front than a step. -/
theorem formatStatement_literal_kept :
    (sqlTools.layOut 0 (requestOf {}) "select 'a\n\n  b' from t" =
        .ok "SELECT 'a\n\n  b'\nFROM t" ∧
      "SELECT 'a\n\n  b'\nFROM t".toList =
        "SELECT ".toList ++ literal "a\n\n  b".toList ++ "\nFROM t".toList) ∧
    (∀ line ∈ (splitLines (literal "a\n\n  b".toList)).tail, Kept {} line) ∧
    ∃ front back, formatStatement sqlTools (Options.value {}) 0 "select 'a\n\n  b' from t" =
      .ok (front ++ literal "a\n\n  b".toList ++ back) := by
  have hlaid : sqlTools.layOut 0 (requestOf {}) "select 'a\n\n  b' from t" =
      .ok "SELECT 'a\n\n  b'\nFROM t" :=
    congrArg Except.ok (by decide +kernel)
  have hliteral : "SELECT 'a\n\n  b'\nFROM t".toList =
      "SELECT ".toList ++ literal "a\n\n  b".toList ++ "\nFROM t".toList := by
    decide +kernel
  have hkept : ∀ line ∈ (splitLines (literal "a\n\n  b".toList)).tail, Kept {} line := by
    simp only [← laterLines_eq_self_iff]
    decide +kernel
  obtain ⟨front, back, hfinal, -, -, hsame⟩ :=
    formatStatement_literal sqlTools {} hlaid hliteral
  rw [hsame.mpr hkept] at hfinal
  exact ⟨⟨hlaid, hliteral⟩, hkept, front, back, hfinal⟩

/-- A literal is in the layout of a statement but not in its final form. -/
def Loses (options : Options) (statement layout final : String) (inner : List Char) : Prop :=
  sqlTools.layOut 0 (requestOf options) statement = .ok layout ∧
    literal inner <:+: layout.toList ∧
    formatStatement sqlTools options.value 0 statement = .ok final.toList ∧
    ¬ literal inner <:+: final.toList

theorem Loses.of_layout {options : Options} {statement layout final : String} {inner : List Char}
    (hlaid : sqlTools.layOut 0 (requestOf options) statement = .ok layout)
    (hfinal : finishText options layout.toList = final.toList)
    (hbefore : literal inner <:+: layout.toList) (hafter : ¬ literal inner <:+: final.toList) :
    Loses options statement layout final inner :=
  ⟨hlaid, hbefore, hfinal ▸ formatStatement_eq hlaid, hafter⟩

/-- **A literal of several lines can be altered**: spaces at the start of its second line become an
indent, an empty line gets into it, and its second line is broken before an ON. -/
theorem formatStatement_loses :
    Loses {} "select 'a\n    b'" "SELECT 'a\n    b'" "SELECT 'a\n\tb'" "a\n    b".toList ∧
    Loses tightOptions "select 'a\nb'" "SELECT 'a\nb'" "SELECT 'a\n\nb'" "a\nb".toList ∧
    Loses tightOptions "select 'a\n join b on c'" "SELECT 'a\n join b on c'"
      "SELECT 'a\njoin b\non c'" "a\n join b on c".toList := by
  refine ⟨.of_layout (congrArg Except.ok ?_) ?_ ?_ ?_, .of_layout (congrArg Except.ok ?_) ?_ ?_ ?_,
    .of_layout (congrArg Except.ok ?_) ?_ ?_ ?_⟩
  all_goals decide +kernel

end SqlDesk.Engine
