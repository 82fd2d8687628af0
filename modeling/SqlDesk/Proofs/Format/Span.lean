/-
The span that a selection inside a text asks for.

`Selection.Covers` says which part that is without signed offsets: from the smaller end of the
selection to the larger one, or to the character before it if that character is a line end or a
space. `Span.of_eq` says that the command takes just this part, and all of the text if the part is
empty or the whole. `Span.of_picks` says the same of the offsets as they were given, in either
order, and of the texts in front of the part and behind it.
-/
import SqlDesk.Format.Selection

namespace SqlDesk

namespace Selection

/-- Both ends of a selection lie in a text. -/
def Inside (selection : Selection) (text : List Char) : Prop :=
  0 ≤ selection.start ∧ selection.stop ≤ text.length

instance (selection : Selection) (text : List Char) : Decidable (selection.Inside text) :=
  inferInstanceAs (Decidable (_ ∧ _))

/-- The characters that do not count at the end of a selection. -/
def terminators : List Char := ['\n', '\r', '\u2028', '\u2029', ' ']

/-- A selection covers the text from `first` up to `last`: all that is selected, or all but the last
character, which is a line end or a space. -/
inductive Covers (text : List Char) (selection : Selection) (first last : Nat) : Prop
  | all (hstart : selection.start = first) (hstop : selection.stop = last)
      (hend : first < last → ∃ c ∉ terminators, text[last - 1]? = some c)
  | trimmed (hstart : selection.start = first) (hstop : selection.stop = last + 1)
      (hle : first ≤ last) (hend : ∃ c ∈ terminators, text[last]? = some c)

theorem Covers.le {text : List Char} {selection : Selection} {first last : Nat}
    (h : selection.Covers text first last) : first ≤ last := by
  cases h with
  | all hstart hstop =>
    simp only [start, stop] at hstart hstop
    omega
  | trimmed _ _ hle => exact hle

theorem Covers.last_le {text : List Char} {selection : Selection} {first last : Nat}
    (h : selection.Covers text first last) (hin : selection.Inside text) : last ≤ text.length := by
  have hlen := hin.2
  cases h with
  | all _ hstop => omega
  | trimmed _ hstop => omega

theorem isTrailing_iff {c : Char} : isTrailing c = true ↔ c ∈ terminators := by
  have code : ∀ n : Nat, ∀ d : Char, d.toNat = n → (c.toNat = n ↔ c = d) := by
    rintro n d rfl
    exact ⟨Char.toNat_inj.mp, fun h => h ▸ rfl⟩
  simp only [isTrailing, terminators, Bool.or_eq_true, decide_eq_true_eq, List.mem_cons,
    List.not_mem_nil, or_false, code 0x2028 '\u2028' rfl, code 0x2029 '\u2029' rfl]
  grind

theorem normalized_eq (selection : Selection) :
    selection.normalized = ⟨selection.start, selection.stop⟩ := by
  simp only [normalized, isBackward, decide_eq_true_eq, start, stop]
  split
  · rw [Int.min_eq_right (by omega), Int.max_eq_left (by omega)]
  · rw [Int.min_eq_left (by omega), Int.max_eq_right (by omega)]

theorem endsTrailing_eq {text : List Char} {selection : Selection} {k : Nat}
    (hstop : selection.stop = k + 1) (hk : k < text.length) :
    selection.endsTrailing text = isTrailing text[k] := by
  have hslice : Text.slice text (selection.stop - 1) selection.stop = [text[k]] := by
    have hlast : selection.stop = ((k + 1 : Nat) : Int) := by omega
    have hprev : selection.stop - 1 = ((k : Nat) : Int) := by omega
    rw [hprev, hlast, Text.slice_ofNat text (by omega) (by omega),
      List.take_succ_eq_append_getElem hk, List.drop_append]
    simp [Nat.min_eq_left (Nat.le_of_lt hk)]
  simp only [endsTrailing, hslice]

/-- A selection inside a text, turned forward and trimmed, covers a part of the text. -/
theorem exists_covers {text : List Char} {selection : Selection} (h : selection.Inside text) :
    ∃ first last : Nat, selection.trimmed text = ⟨first, last⟩ ∧
      selection.Covers text first last := by
  obtain ⟨hstart, hlen⟩ := h
  have hle : selection.start ≤ selection.stop := by
    simp only [start, stop]
    omega
  have hmin : (⟨selection.start, selection.stop⟩ : Selection).start = selection.start := by
    simp only [start, stop] at hle ⊢
    omega
  have hmax : (⟨selection.start, selection.stop⟩ : Selection).stop = selection.stop := by
    simp only [start, stop] at hle ⊢
    omega
  obtain ⟨first, hfirst⟩ := Int.eq_ofNat_of_zero_le hstart
  obtain ⟨last, hlast⟩ := Int.eq_ofNat_of_zero_le (Int.le_trans hstart hle)
  simp only [trimmed, normalized_eq, hmin, hmax, Bool.and_eq_true, decide_eq_true_eq]
  by_cases hempty : first = last
  · refine ⟨first, last, ?_, .all hfirst hlast (by omega)⟩
    rw [if_neg (by omega), hfirst, hlast]
  obtain ⟨k, rfl⟩ : ∃ k, last = k + 1 := ⟨last - 1, by omega⟩
  have hk : k < text.length := by omega
  have hlastChar := endsTrailing_eq (hmax.trans hlast) hk
  rw [hlastChar]
  by_cases hend : isTrailing text[k] = true
  · refine ⟨first, k, ?_, .trimmed hfirst hlast (by omega)
      ⟨text[k], isTrailing_iff.mp hend, List.getElem?_eq_getElem hk⟩⟩
    rw [if_pos ⟨by omega, hend⟩, hfirst, hlast]
    simp
  · refine ⟨first, k + 1, ?_, .all hfirst hlast fun _ =>
      ⟨text[k], fun hmem => hend (isTrailing_iff.mpr hmem), List.getElem?_eq_getElem hk⟩⟩
    rw [if_neg fun hboth => hend hboth.2, hfirst, hlast]

/-- Something is selected, and its last character does not count. -/
def EndsLoose (selection : Selection) (text : List Char) : Prop :=
  selection.start < selection.stop ∧
    ∃ c ∈ terminators, text[(selection.stop - 1).toNat]? = some c

theorem Covers.stop_cases {text : List Char} {selection : Selection} {first last : Nat}
    (h : selection.Covers text first last) :
    (¬ selection.EndsLoose text ∧ selection.stop = last) ∨
      (selection.EndsLoose text ∧ selection.stop = last + 1 ∧
        ∃ c ∈ terminators, text[last]? = some c) := by
  cases h with
  | all hstart hstop hend =>
    refine .inl ⟨?_, hstop⟩
    rintro ⟨hlt, c, hmem, hc⟩
    obtain ⟨d, hother, hd⟩ := hend (by omega)
    have hlast : (selection.stop - 1).toNat = last - 1 := by omega
    rw [hlast, hd] at hc
    exact hother (Option.some.inj hc ▸ hmem)
  | trimmed hstart hstop hle hend =>
    refine .inr ⟨⟨by omega, ?_⟩, hstop, hend⟩
    have hlast : (selection.stop - 1).toNat = last := by omega
    rw [hlast]
    exact hend

/-- The same selection, made from its other end. -/
def swapped (selection : Selection) : Selection :=
  ⟨selection.position, selection.anchor⟩

theorem trimmed_swapped (selection : Selection) (text : List Char) :
    selection.swapped.trimmed text = selection.trimmed text := by
  have hstart : selection.swapped.start = selection.start := Int.min_comm _ _
  have hstop : selection.swapped.stop = selection.stop := Int.max_comm _ _
  simp only [trimmed, normalized_eq, hstart, hstop]

end Selection

namespace Span

/-- **The span of a selection**: the part that the selection covers, to be changed alone if it is
neither empty nor the whole text, with the caret at its end. -/
theorem of_eq {text : List Char} {selection : Selection} (h : selection.Inside text) :
    ∃ first last : Nat, selection.Covers text first last ∧ Span.of text selection =
      ⟨first, last, decide (first < last) && decide (last - first < text.length), last⟩ := by
  obtain ⟨first, last, htrimmed, hcovers⟩ := Selection.exists_covers h
  have hle := hcovers.le
  refine ⟨first, last, hcovers, ?_⟩
  simp only [Span.of, htrimmed, Selection.start, Selection.stop]
  have hmin : min (first : Int) last = first := by omega
  have hmax : max (first : Int) last = last := by omega
  have hpos : (0 < (last : Int) - first) = (first < last) := by
    simp only [eq_iff_iff]
    omega
  have hshort : ((last : Int) - first < text.length) = (last - first < text.length) := by
    simp only [eq_iff_iff]
    omega
  simp only [hmin, hmax, hpos, hshort]

/-- What a span takes of a text for a selection in it. It goes from the smaller offset to the larger
one, or to the one before if the selection ends loose. Where it is formatted alone, it is a proper
part of the text with something in it, and what it leaves at its end is still behind it. -/
structure Picks (text : List Char) (selection : Selection) (span : Span) : Prop where
  start_eq : span.start = min selection.anchor selection.position
  stop_of_loose : selection.EndsLoose text →
    span.stop = max selection.anchor selection.position - 1
  stop_of_tight : ¬ selection.EndsLoose text →
    span.stop = max selection.anchor selection.position
  nonneg : 0 ≤ span.start
  ordered : span.start ≤ span.stop
  inside : span.stop ≤ text.length
  caret_eq : span.caret = span.stop
  only_iff : span.selectionOnly = true ↔
    0 < span.stop - span.start ∧ span.stop - span.start < text.length
  parts : span.selectionOnly = true →
    text = text.take span.start.toNat ++ span.target text ++ text.drop span.stop.toNat
  filled : span.selectionOnly = true → span.target text ≠ []
  proper : span.selectionOnly = true → (span.target text).length < text.length
  behind : selection.EndsLoose text →
    ∃ c ∈ Selection.terminators, (text.drop span.stop.toNat).head? = some c

theorem picks_of_covers {text : List Char} {selection : Selection} {first last : Nat}
    (hcovers : selection.Covers text first last) (hin : selection.Inside text) :
    Picks text selection
      ⟨first, last, decide (first < last) && decide (last - first < text.length), last⟩ := by
  have hle := hcovers.le
  have hlast := hcovers.last_le hin
  have hstart : selection.start = first := by
    cases hcovers with
    | all hstart => exact hstart
    | trimmed hstart => exact hstart
  have hstop := hcovers.stop_cases
  have hlength : ((text.take last).drop first).length = last - first := by
    rw [List.length_drop, List.length_take, Nat.min_eq_left hlast]
  -- a span that is formatted alone has its part of the text as its target
  have htarget : ∀ only, only = true →
      target ⟨first, last, only, last⟩ text = (text.take last).drop first := by
    rintro only rfl
    exact Text.slice_ofNat text (Nat.le_trans hle hlast) hlast
  have honly : (decide (first < last) && decide (last - first < text.length)) = true ↔
      first < last ∧ last - first < text.length := by
    simp only [Bool.and_eq_true, decide_eq_true_eq]
  refine
    { start_eq := hstart.symm
      stop_of_loose := fun hloose => ?_
      stop_of_tight := fun htight => ?_
      nonneg := Int.natCast_nonneg first
      ordered := Int.ofNat_le.mpr hle
      inside := Int.ofNat_le.mpr hlast
      caret_eq := rfl
      only_iff := ?_
      parts := fun h => ?_
      filled := fun h => ?_
      proper := fun h => ?_
      behind := fun hloose => ?_ }
  · rcases hstop with ⟨htight, -⟩ | ⟨-, hstop, -⟩
    · exact absurd hloose htight
    · show (last : Int) = selection.stop - 1
      omega
  · rcases hstop with ⟨-, hstop⟩ | ⟨hloose, -⟩
    · exact hstop.symm
    · exact absurd hloose htight
  · rw [honly]
    simp only
    omega
  · rw [htarget _ h]
    have hfront := List.take_append_drop first (text.take last)
    rw [List.take_take, Nat.min_eq_left hle] at hfront
    simp only [Int.toNat_natCast, hfront, List.take_append_drop]
  · rw [htarget _ h, ← List.length_pos_iff, hlength]
    have hpart := honly.mp h
    omega
  · rw [htarget _ h, hlength]
    exact (honly.mp h).2
  · rcases hstop with ⟨htight, -⟩ | ⟨-, -, c, hmem, hc⟩
    · exact absurd hloose htight
    · exact ⟨c, hmem, by rw [List.head?_drop]; exact hc⟩

theorem endsLoose_whole {text : List Char} {selection : Selection} (hstart : selection.start = 0)
    (hstop : selection.stop = text.length) :
    selection.EndsLoose text ↔ ∃ c ∈ Selection.terminators, text.getLast? = some c := by
  have hlast : (selection.stop - 1).toNat = text.length - 1 := by omega
  rw [Selection.EndsLoose, hlast, ← List.getLast?_eq_getElem?]
  refine ⟨And.right, fun hends => ⟨?_, hends⟩⟩
  obtain ⟨c, -, hc⟩ := hends
  have hpos := List.length_pos_of_mem (List.mem_of_getLast? hc)
  omega

/-- A selection of the whole text has it formatted as a whole just if the text has no loose end, or
nothing in front of that. -/
theorem Picks.selectionOnly_whole {text : List Char} {selection : Selection} {span : Span}
    (h : Picks text selection span) (hstart : selection.start = 0)
    (hstop : selection.stop = text.length) :
    span.selectionOnly = false ↔ text = [] ∨ text.length = 1 ∨
      ∀ c ∈ Selection.terminators, text.getLast? ≠ some c := by
  have hfirst : span.start = 0 := h.start_eq.trans hstart
  rw [← Bool.not_eq_true, h.only_iff, hfirst, ← List.length_eq_zero_iff]
  by_cases hends : ∃ c ∈ Selection.terminators, text.getLast? = some c
  · have hloose := (endsLoose_whole hstart hstop).mpr hends
    have hlast : span.stop = text.length - 1 := by
      rw [h.stop_of_loose hloose, ← hstop]
      rfl
    have hpos := hloose.1
    have hnever : ¬ ∀ c ∈ Selection.terminators, text.getLast? ≠ some c := by
      simpa using hends
    simp only [hnever, or_false]
    omega
  · have htight := mt (endsLoose_whole hstart hstop).mp hends
    have hlast : span.stop = text.length := (h.stop_of_tight htight).trans hstop
    have hnone : ∀ c ∈ Selection.terminators, text.getLast? ≠ some c :=
      fun c hmem hc => hends ⟨c, hmem, hc⟩
    simp only [hlast]
    exact ⟨fun _ => .inr (.inr hnone), fun _ => by omega⟩

/-- **The span of a selection, by its offsets.** It is the same for both directions and takes what
is selected, but for a loose end. A selection of the whole text has it formatted as a whole just if
the text has no loose end, or nothing in front of that. -/
theorem of_picks {text : List Char} {selection : Selection} (h : selection.Inside text) :
    Span.of text selection.swapped = Span.of text selection ∧
      Picks text selection (Span.of text selection) ∧
      (selection.start = 0 → selection.stop = text.length →
        ((Span.of text selection).selectionOnly = false ↔ text = [] ∨ text.length = 1 ∨
          ∀ c ∈ Selection.terminators, text.getLast? ≠ some c)) := by
  obtain ⟨first, last, hcovers, hspan⟩ := of_eq h
  have hpicks : Picks text selection (Span.of text selection) := by
    rw [hspan]
    exact picks_of_covers hcovers h
  refine ⟨?_, hpicks, hpicks.selectionOnly_whole⟩
  simp only [Span.of, Selection.trimmed_swapped]

/-- All of a text is selected from its end to its start. It ends in a carriage return and a line
feed, and the line feed is left out. -/
theorem of_picks_backwards :
    Selection.Inside ⟨3, 0⟩ ['a', '\r', '\n'] ∧
      Span.of ['a', '\r', '\n'] ⟨0, 3⟩ = Span.of ['a', '\r', '\n'] ⟨3, 0⟩ ∧
      (Span.of ['a', '\r', '\n'] ⟨3, 0⟩).stop = 2 ∧
      (Span.of ['a', '\r', '\n'] ⟨3, 0⟩).selectionOnly = true := by
  have hin : Selection.Inside ⟨3, 0⟩ ['a', '\r', '\n'] := by decide
  obtain ⟨hswapped, hpicks, hwhole⟩ := of_picks hin
  have hloose : Selection.EndsLoose ⟨3, 0⟩ ['a', '\r', '\n'] :=
    ⟨by decide, '\n', by decide, rfl⟩
  refine ⟨hin, hswapped, hpicks.stop_of_loose hloose, ?_⟩
  rw [← Bool.not_eq_false, hwhole rfl rfl]
  rintro (hempty | hone | htight)
  · exact List.cons_ne_nil _ _ hempty
  · exact absurd hone (by decide)
  · exact htight '\n' (by decide) rfl

end Span

end SqlDesk
