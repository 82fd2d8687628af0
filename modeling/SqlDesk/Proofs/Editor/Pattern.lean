/-
How patterns are matched.

A pattern followed by something is tried way after way, until what follows goes on (`Pattern.followed`).
There is one equation for each kind of pattern; that of a repetition says that one more step is tried
before it is given up (`followed_star`). The rest reads patterns off these equations: a run of
characters followed by what cannot start within it is taken as a whole (`followed_star_char`), and a
word in any case of its letters stands at a place just if its characters fold to those that are there
(`followed_caseless`).
-/
import SqlDesk.Editor.Pattern
import Mathlib.Data.List.Basic

namespace SqlDesk.Highlight

/-- The character before the rest of a text, when some of it has been read. -/
def lastOr (before : Option Char) (read : List Char) : Option Char :=
  read.getLast?.or before

@[simp] theorem lastOr_nil (before : Option Char) : lastOr before [] = before := rfl

@[simp] theorem lastOr_cons (before : Option Char) (c : Char) (read : List Char) :
    lastOr before (c :: read) = lastOr (some c) read := by
  cases read with
  | nil => rfl
  | cons d read => simp [lastOr, List.getLast?_cons]

theorem lastOr_none (read : List Char) : lastOr none read = read.getLast? :=
  Option.or_none

theorem lastOr_getLast? (front read : List Char) :
    lastOr front.getLast? read = (front ++ read).getLast? :=
  List.getLast?_append.symm

namespace Pattern

variable {α : Type} {before : Option Char} {cs : List Char} {place : Place}

/-! ## Repetition -/

/-- More fuel than there are characters changes nothing. -/
theorem repeated_of_le (step : Place → List Place) {fuel fuel' : Nat}
    (h : place.rest.length ≤ fuel) (h' : place.rest.length ≤ fuel') :
    repeated step fuel place = repeated step fuel' place := by
  have hnone (place : Place) (hnil : place.rest.length = 0) :
      ((step place).filter fun next => next.rest.length < place.rest.length) = [] := by
    rw [hnil]
    simp
  induction fuel generalizing fuel' place with
  | zero =>
    cases fuel' with
    | zero => rfl
    | succ fuel' => simp [repeated, hnone place (Nat.le_zero.mp h)]
  | succ fuel ih =>
    cases fuel' with
    | zero => simp [repeated, hnone place (Nat.le_zero.mp h')]
    | succ fuel' =>
      simp only [repeated]
      congr 1
      refine List.flatMap_congr fun next hnext => ?_
      have hshorter := of_decide_eq_true (List.mem_filter.mp hnext).2
      exact ih (by omega) (by omega)

/-- One more step is tried first, if it takes something. -/
theorem ways_star (body : Pattern) (place : Place) : (star body).ways place =
    ((body.ways place).filter fun next => next.rest.length < place.rest.length).flatMap
      (star body).ways ++ [place] := by
  rw [ways, repeated_of_le _ (Nat.le_refl _) (Nat.le_succ _), repeated]
  congr 1
  refine List.flatMap_congr fun next hnext => ?_
  have hshorter := of_decide_eq_true (List.mem_filter.mp hnext).2
  rw [ways, repeated_of_le _ (Nat.le_of_lt hshorter) (Nat.le_refl _)]

/-! ## What follows -/

/-- What follows a pattern, in the first of its ways in which that goes on. -/
def followed (pattern : Pattern) (place : Place) (next : Place → Option α) : Option α :=
  (pattern.ways place).findSome? next

variable {next : Place → Option α}

theorem find_eq_followed (pattern : Pattern) (before : Option Char) (cs : List Char) :
    pattern.find before cs =
      pattern.followed ⟨before, cs⟩ fun place => some (cs.length - place.rest.length) := by
  rw [find, followed]
  cases pattern.ways ⟨before, cs⟩ with
  | nil => rfl
  | cons place others => rfl

@[simp] theorem followed_char_nil (accepts : Char → Bool) :
    (char accepts).followed ⟨before, []⟩ next = none := rfl

@[simp] theorem followed_char_cons (accepts : Char → Bool) (c : Char) :
    (char accepts).followed ⟨before, c :: cs⟩ next =
      if accepts c then next ⟨some c, cs⟩ else none := by
  simp only [followed, ways]
  split
  · exact List.findSome?_singleton
  · rfl

@[simp] theorem followed_only_nil (k : Char) : (only k).followed ⟨before, []⟩ next = none := rfl

@[simp] theorem followed_only_cons (k c : Char) : (only k).followed ⟨before, c :: cs⟩ next =
    if c = k then next ⟨some c, cs⟩ else none := by
  rw [only, followed_char_cons]
  simp only [decide_eq_true_eq]

@[simp] theorem followed_boundary :
    boundary.followed place next = if place.isBoundary then next place else none := by
  simp only [followed, ways]
  split
  · exact List.findSome?_singleton
  · rfl

@[simp] theorem followed_empty : empty.followed place next = next place :=
  List.findSome?_singleton

theorem findSome?_flatMap {places : List Place} {step : Place → List Place} :
    (places.flatMap step).findSome? next =
      places.findSome? fun place => (step place).findSome? next := by
  rw [← List.head?_filterMap, List.filterMap_flatMap, List.head?_flatMap]
  simp only [List.head?_filterMap]

@[simp] theorem followed_seq (first second : Pattern) : (seq first second).followed place next =
    first.followed place fun middle => second.followed middle next :=
  findSome?_flatMap

@[simp] theorem followed_alt (first second : Pattern) : (alt first second).followed place next =
    (first.followed place next).or (second.followed place next) :=
  List.findSome?_append

@[simp] theorem followed_optional (body : Pattern) : (optional body).followed place next =
    (body.followed place next).or (next place) := by
  rw [optional, followed_alt, followed_empty]

@[simp] theorem followed_plus (body : Pattern) : (plus body).followed place next =
    body.followed place fun middle => (star body).followed middle next :=
  followed_seq body (star body)

theorem followed_star (body : Pattern) : (star body).followed place next =
    (body.followed place fun middle =>
      if middle.rest.length < place.rest.length then (star body).followed middle next
      else none).or (next place) := by
  rw [followed, ways_star, List.findSome?_append, findSome?_flatMap, List.findSome?_singleton]
  congr 1
  rw [← List.head?_filterMap, List.filterMap_filter, List.head?_filterMap]
  simp only [decide_eq_true_eq]
  rfl

theorem followed_star_nil (accepts : Char → Bool) :
    (star (char accepts)).followed ⟨before, []⟩ next = next ⟨before, []⟩ := by
  rw [followed_star, followed_char_nil, Option.none_or]

theorem followed_star_cons (accepts : Char → Bool) (c : Char) :
    (star (char accepts)).followed ⟨before, c :: cs⟩ next =
      (if accepts c then (star (char accepts)).followed ⟨some c, cs⟩ next else none).or
        (next ⟨before, c :: cs⟩) := by
  rw [followed_star, followed_char_cons]
  simp only [List.length_cons, Nat.lt_succ_self, if_true]

/-- **A run of characters is taken as a whole** by a repetition, if what follows does not go on
between two of them. -/
theorem followed_star_char {accepts : Char → Bool} {last : Char} (hlast : accepts last = true)
    (hnext : ∀ c d rest, accepts c = true → accepts d = true → next ⟨some c, d :: rest⟩ = none) :
    (star (char accepts)).followed ⟨some last, cs⟩ next =
      next ⟨lastOr (some last) (cs.takeWhile accepts), cs.dropWhile accepts⟩ := by
  induction cs generalizing last with
  | nil => exact followed_star_nil accepts
  | cons c rest ih =>
    rw [followed_star_cons]
    by_cases hc : accepts c = true
    · rw [if_pos hc, ih hc, hnext last c rest hlast hc, Option.or_none, List.takeWhile_cons_of_pos hc,
        List.dropWhile_cons_of_pos hc, lastOr_cons]
    · rw [if_neg hc, Option.none_or, List.takeWhile_cons_of_neg hc, List.dropWhile_cons_of_neg hc,
        lastOr_nil]

theorem followed_plus_char {accepts : Char → Bool}
    (hnext : ∀ c d rest, accepts c = true → accepts d = true → next ⟨some c, d :: rest⟩ = none) :
    (plus (char accepts)).followed ⟨before, cs⟩ next =
      if (cs.takeWhile accepts).isEmpty then none
      else next ⟨lastOr before (cs.takeWhile accepts), cs.dropWhile accepts⟩ := by
  rw [followed_plus]
  cases cs with
  | nil => rfl
  | cons c rest =>
    rw [followed_char_cons]
    by_cases hc : accepts c = true
    · rw [if_pos hc, followed_star_char hc hnext, List.takeWhile_cons_of_pos hc,
        List.dropWhile_cons_of_pos hc, lastOr_cons, List.isEmpty_cons, if_neg Bool.false_ne_true]
    · rw [if_neg hc, List.takeWhile_cons_of_neg hc, List.isEmpty_nil, if_pos rfl]

/-- A repetition that nothing follows takes all that it can. -/
theorem followed_star_end (accepts : Char → Bool) (n : Nat) :
    ((star (char accepts)).followed ⟨before, cs⟩ fun place =>
      some (n + cs.length - place.rest.length)) = some (n + (cs.takeWhile accepts).length) := by
  induction cs generalizing before n with
  | nil => exact followed_star_nil accepts
  | cons c rest ih =>
    have hlength : n + (c :: rest).length = n + 1 + rest.length := by
      rw [List.length_cons]
      omega
    rw [followed_star_cons, hlength, ih]
    by_cases hc : accepts c = true
    · rw [if_pos hc, List.takeWhile_cons_of_pos hc, Option.some_or, List.length_cons, Nat.add_assoc,
        Nat.add_comm 1]
    · rw [if_neg hc, List.takeWhile_cons_of_neg hc, Option.none_or]
      simp only [Option.some_inj, List.length_cons, List.length_nil]
      omega

/-! ## Words -/

theorem followed_oneOf (patterns : List Pattern) : (oneOf patterns).followed place next =
    patterns.findSome? fun pattern => pattern.followed place next := by
  induction patterns with
  | nil =>
    obtain ⟨before, cs⟩ := place
    cases cs with
    | nil => rfl
    | cons c rest => exact followed_char_cons _ c
  | cons pattern patterns ih =>
    rw [oneOf, List.foldr_cons, followed_alt, ← oneOf, ih, List.findSome?_cons]
    cases pattern.followed place next with
    | none => rfl
    | some found => rfl

/-- **A word stands where its characters fold to those that are there**, and what follows goes on
behind them. -/
theorem followed_caseless {fold : Char → Char} {word : String} {found : α} :
    (caseless fold word).followed ⟨before, cs⟩ next = some found ↔
      ∃ read rest, cs = read ++ rest ∧ read.map fold = word.toList.map fold ∧
        next ⟨lastOr before read, rest⟩ = some found := by
  rw [caseless]
  induction word.toList generalizing before cs with
  | nil => simp
  | cons k word ih =>
    rw [List.foldr_cons, followed_seq]
    cases cs with
    | nil => simp
    | cons c rest =>
      rw [followed_char_cons]
      by_cases hc : fold c = fold k
      · rw [if_pos (decide_eq_true hc), ih]
        constructor
        · rintro ⟨read, rest, rfl, hread, hnext⟩
          exact ⟨c :: read, rest, rfl, by rw [List.map_cons, List.map_cons, hc, hread],
            by rwa [lastOr_cons]⟩
        · rintro ⟨read, rest', hcs, hread, hnext⟩
          obtain ⟨d, read, rfl⟩ : ∃ d tail, read = d :: tail := by
            cases read with
            | nil => cases hread
            | cons d tail => exact ⟨d, tail, rfl⟩
          obtain ⟨rfl, rfl⟩ := List.cons.inj hcs
          exact ⟨read, rest', rfl, (List.cons.inj hread).2, by rwa [lastOr_cons] at hnext⟩
      · rw [if_neg (by simpa using hc)]
        refine iff_of_false nofun ?_
        rintro ⟨read, rest', hcs, hread, -⟩
        cases read with
        | nil => cases hread
        | cons d read =>
          obtain ⟨rfl, -⟩ := List.cons.inj hcs
          exact hc (List.cons.inj hread).1

end Pattern

end SqlDesk.Highlight
