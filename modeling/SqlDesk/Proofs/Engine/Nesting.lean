/-
Which indents keep the nesting of lines.

With an indent of `w` spaces for each `unit`, the depth of a line becomes `w * (d / unit) + d % unit`.
Within a block of `unit` depths this rises by one at each step, and from the last depth of a block,
which is `unit - 1` deeper than its first, it goes on to a depth that is `w` deeper than the first
(`depthAfter_succ`). So it all depends on that one step: it goes up if `w` is at least `unit`, and not
down if it is at least `unit - 1`.
-/
import SqlDesk.Proofs.Engine.Words
import Mathlib.Order.Monotone.Basic

namespace SqlDesk.Engine

/-! ## Depths -/

/-- What a depth becomes with an indent of some width for each `unit`. -/
def depthAfter (width unit depth : Nat) : Nat :=
  width * (depth / unit) + depth % unit

section

variable {unit : Nat} (hunit : 0 < unit) (width : Nat)
include hunit

/-- One step deeper: into a new block, or on in the same one. -/
theorem depthAfter_succ (depth : Nat) :
    (depth % unit + 1 = unit ∧
        depthAfter width unit (depth + 1) + (unit - 1) = depthAfter width unit depth + width) ∨
      depthAfter width unit (depth + 1) = depthAfter width unit depth + 1 := by
  have hlt := Nat.mod_lt depth hunit
  have hsplit := Nat.div_add_mod depth unit
  by_cases hlast : depth % unit + 1 = unit
  · left
    have hnext : depth + 1 = unit * (depth / unit + 1) := by
      rw [Nat.mul_add]
      omega
    refine ⟨hlast, ?_⟩
    rw [depthAfter, depthAfter, hnext, Nat.mul_div_cancel_left _ hunit, Nat.mul_mod_right, Nat.mul_add]
    omega
  · right
    have hnext : depth + 1 = depth % unit + 1 + unit * (depth / unit) := by omega
    have hdiv : (depth + 1) / unit = depth / unit := by
      rw [hnext, Nat.add_mul_div_left _ _ hunit, Nat.div_eq_of_lt (by omega), Nat.zero_add]
    have hmod : (depth + 1) % unit = depth % unit + 1 := by
      rw [hnext, Nat.add_mul_mod_self_left, Nat.mod_eq_of_lt (by omega)]
    rw [depthAfter, depthAfter, hdiv, hmod, Nat.add_assoc]

theorem depthAfter_first : depthAfter width unit (unit - 1) = unit - 1 ∧
    depthAfter width unit unit = width := by
  have hlt : unit - 1 < unit := by omega
  constructor
  · rw [depthAfter, Nat.div_eq_of_lt hlt, Nat.mod_eq_of_lt hlt, Nat.mul_zero, Nat.zero_add]
  · rw [depthAfter, Nat.div_self hunit, Nat.mod_self, Nat.mul_one, Nat.add_zero]

theorem monotone_depthAfter_iff : Monotone (depthAfter width unit) ↔ unit - 1 ≤ width := by
  obtain ⟨hlast, hfirst⟩ := depthAfter_first hunit width
  constructor
  · intro hmono
    have hstep := hmono (Nat.sub_le unit 1)
    rwa [hlast, hfirst] at hstep
  · intro hwidth
    refine monotone_nat_of_le_succ fun depth => ?_
    rcases depthAfter_succ hunit width depth with ⟨-, hstep⟩ | hstep <;> omega

theorem strictMono_depthAfter_iff : StrictMono (depthAfter width unit) ↔ unit ≤ width := by
  obtain ⟨hlast, hfirst⟩ := depthAfter_first hunit width
  constructor
  · intro hmono
    have hstep := hmono (Nat.sub_one_lt (Nat.ne_of_gt hunit))
    rw [hlast, hfirst] at hstep
    omega
  · intro hwidth
    refine strictMono_nat_of_lt_succ fun depth => ?_
    rcases depthAfter_succ hunit width depth with ⟨-, hstep⟩ | hstep <;> omega

end

/-! ## Lines -/

/-- A line that is not blank: it has another character than a space. -/
def HasContent (line : List Char) : Prop :=
  ∃ c ∈ line, c ≠ ' '

/-- The number of spaces that a line starts with. -/
def depth (line : List Char) : Nat :=
  (leadingSpaces line).length

section

variable {line : List Char} {c : Char} {rest : List Char}

theorem HasContent.exists_dropSpaces (h : HasContent line) :
    ∃ c rest, dropSpaces line = c :: rest ∧ c ≠ ' ' := by
  obtain ⟨d, hmem, hd⟩ := h
  cases hcontent : dropSpaces line with
  | nil =>
    rw [← leadingSpaces_append_dropSpaces line, hcontent, List.append_nil] at hmem
    exact absurd (eq_space_of_mem_leadingSpaces hmem) hd
  | cons c rest =>
    have hhead := List.head?_dropWhile_not (fun c => decide (c = ' ')) line
    rw [← dropSpaces, hcontent] at hhead
    exact ⟨c, rest, rfl, by simpa using hhead⟩

theorem eq_replicate_append (h : dropSpaces line = c :: rest) :
    line = List.replicate (depth line) ' ' ++ c :: rest := by
  rw [depth, ← leadingSpaces_eq, ← h, leadingSpaces_append_dropSpaces]

theorem depth_replicate_append (hc : c ≠ ' ') (n : Nat) (rest : List Char) :
    depth (List.replicate n ' ' ++ c :: rest) = n := by
  rw [depth, leadingSpaces_append (fun _ => List.eq_of_mem_replicate) hc, List.length_replicate]

theorem reindent_of_content (indent : List Char) (unit : Nat) (h : dropSpaces line = c :: rest) :
    reindent indent unit line = (List.replicate (depth line / unit) indent).flatten ++
      List.replicate (depth line % unit) ' ' ++ c :: rest := by
  simp only [reindent, h, List.isEmpty_cons, Bool.false_eq_true, if_false]
  rfl

/-- With spaces for an indent, a line has the spaces of its new depth. -/
theorem reindent_spaces (width unit : Nat) (h : dropSpaces line = c :: rest) :
    reindent (List.replicate width ' ') unit line =
      List.replicate (depthAfter width unit (depth line)) ' ' ++ c :: rest := by
  rw [reindent_of_content _ _ h, List.flatten_replicate_replicate, List.replicate_append_replicate,
    depthAfter, Nat.mul_comm]

theorem depth_reindent_spaces (h : HasContent line) (width unit : Nat) :
    depth (reindent (List.replicate width ' ') unit line) = depthAfter width unit (depth line) := by
  obtain ⟨c, rest, hcontent, hc⟩ := h.exists_dropSpaces
  rw [reindent_spaces _ _ hcontent, depth_replicate_append hc]

end

/-! ## Nesting -/

/-- Of any two lines with content, the second one deeper, the depths afterwards are related. -/
def KeepsDepths (related : Nat → Nat → Prop) (indent : List Char) (unit : Nat) : Prop :=
  ∀ first second, HasContent first → HasContent second → depth first < depth second →
    related (depth (reindent indent unit first)) (depth (reindent indent unit second))

/-- There are lines of all depths, so it is a property of the depths. -/
theorem keepsDepths_spaces_iff {related : Nat → Nat → Prop} {width unit : Nat} :
    KeepsDepths related (List.replicate width ' ') unit ↔
      ∀ {d d'}, d < d' → related (depthAfter width unit d) (depthAfter width unit d') := by
  have hline : ∀ n, HasContent (List.replicate n ' ' ++ ['x']) ∧
      depth (List.replicate n ' ' ++ ['x']) = n := fun n =>
    ⟨⟨'x', by simp, by decide⟩, depth_replicate_append (by decide) n []⟩
  constructor
  · intro h d d' hlt
    obtain ⟨hcontent, hdepth⟩ := hline d
    obtain ⟨hcontent', hdepth'⟩ := hline d'
    have hrelated := h _ _ hcontent hcontent' (by rwa [hdepth, hdepth'])
    rwa [depth_reindent_spaces hcontent, depth_reindent_spaces hcontent', hdepth, hdepth'] at hrelated
  · intro h first second hfirst hsecond hlt
    rw [depth_reindent_spaces hfirst, depth_reindent_spaces hsecond]
    exact h hlt

theorem reindent_unit {line : List Char} (h : HasContent line) (unit : Nat) :
    reindent (List.replicate unit ' ') unit line = line := by
  obtain ⟨c, rest, hcontent, -⟩ := h.exists_dropSpaces
  conv => rhs; rw [eq_replicate_append hcontent]
  rw [reindent_spaces _ _ hcontent, depthAfter, Nat.div_add_mod]

/-- A line with `unit` spaces in the place of each tab that it starts with. -/
def untabbed (unit : Nat) (line : List Char) : List Char :=
  (line.takeWhile (· = '\t')).flatMap (fun _ => List.replicate unit ' ') ++
    line.dropWhile (· = '\t')

theorem untabbed_replicate_append {rest : List Char} (h : rest.head? ≠ some '\t') (unit n : Nat) :
    untabbed unit (List.replicate n '\t' ++ rest) = List.replicate (unit * n) ' ' ++ rest := by
  have htabs : ∀ c ∈ List.replicate n '\t', decide (c = '\t') = true := fun c hmem =>
    decide_eq_true (List.eq_of_mem_replicate hmem)
  have hstop : ∀ c ∈ rest.head?, decide (c = '\t') = false := fun c hmem =>
    decide_eq_false fun heq => h (heq ▸ hmem)
  rw [untabbed, Text.takeWhile_append_of_stop htabs hstop, Text.dropWhile_append_of_stop htabs hstop,
    List.flatMap_replicate, List.flatten_replicate_replicate, Nat.mul_comm]

theorem untabbed_reindent {line : List Char} (h : HasContent line)
    (htab : (dropSpaces line).head? ≠ some '\t') (unit : Nat) :
    untabbed unit (reindent ['\t'] unit line) = line := by
  obtain ⟨c, rest, hcontent, -⟩ := h.exists_dropSpaces
  rw [hcontent] at htab
  have hstop : (List.replicate (depth line % unit) ' ' ++ c :: rest).head? ≠ some '\t' := by
    cases depth line % unit with
    | zero => exact htab
    | succ n => simp [List.replicate_succ]
  have htabs : ∀ n, (List.replicate n ['\t']).flatten = List.replicate n '\t' := fun n => by
    rw [← List.replicate_one, List.flatten_replicate_replicate, Nat.mul_one]
  conv => rhs; rw [eq_replicate_append hcontent]
  rw [reindent_of_content _ _ hcontent, htabs, List.append_assoc, untabbed_replicate_append hstop,
    ← List.append_assoc, List.replicate_append_replicate, Nat.div_add_mod]

/-- **Indents of spaces keep the nesting of lines** just if they are wide enough: no deeper line
comes out less deep just if an indent is at least one space short of a unit, and every deeper line
stays deeper just if it is no shorter than a unit. An indent as wide as a unit changes no line with
content, and indents of tabs can be taken back if the content does not start with one. -/
theorem reindent_keeps_nesting {unit : Nat} (hunit : 0 < unit) (width : Nat) :
    (KeepsDepths (· ≤ ·) (List.replicate width ' ') unit ↔ unit - 1 ≤ width) ∧
      (KeepsDepths (· < ·) (List.replicate width ' ') unit ↔ unit ≤ width) ∧
      (width = unit → ∀ line, HasContent line →
        reindent (List.replicate width ' ') unit line = line) ∧
      ∀ line, HasContent line → (dropSpaces line).head? ≠ some '\t' →
        untabbed unit (reindent ['\t'] unit line) = line := by
  refine ⟨?_, ?_, ?_, fun line h htab => untabbed_reindent h htab unit⟩
  · rw [keepsDepths_spaces_iff, ← monotone_depthAfter_iff hunit width]
    exact monotone_iff_forall_lt.symm
  · rw [keepsDepths_spaces_iff, ← strictMono_depthAfter_iff hunit width]
    rfl
  · rintro rfl line h
    exact reindent_unit h width

/-- Three spaces for each four keep the order of the depths, but two of them fall together. -/
theorem reindent_keeps_nesting_narrow :
    0 < 4 ∧ KeepsDepths (· ≤ ·) "   ".toList 4 ∧ ¬ KeepsDepths (· < ·) "   ".toList 4 ∧
      untabbed 4 (reindent ['\t'] 4 "      a\t".toList) = "      a\t".toList := by
  have hunit : 0 < 4 := by decide
  obtain ⟨hkept, hstrict, -, htabs⟩ := reindent_keeps_nesting hunit 3
  refine ⟨hunit, hkept.mpr (by decide), fun h => absurd (hstrict.mp h) (by decide), ?_⟩
  exact htabs _ ⟨'a', by decide, by decide⟩ (by decide)

end SqlDesk.Engine
