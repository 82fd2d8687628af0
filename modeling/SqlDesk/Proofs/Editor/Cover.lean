/-
Which characters of a text a rule covers.

A rule is searched for from left to right; behind a match the search goes on after it. Two facts about
any rule are enough for the rest: what is covered is part of a match (`exists_match_of_covered`), and a
text can be cut anywhere, if the part of a match that reaches over the cut is kept in mind
(`exists_coverFrom_append`). `Scan` says without a rule what it is to search a text for the longest
members of a language.
-/
import SqlDesk.Editor.Highlight
import SqlDesk.Proofs.Editor.Pattern

namespace SqlDesk.Highlight

/-! ## Steps -/

variable {rule : Rule} {before : Option Char} {c : Char} {rest : List Char}

theorem coverFrom_of_match {n : Nat} (h : rule before (c :: rest) = some (n + 1)) :
    coverFrom rule before 0 (c :: rest) = true :: coverFrom rule (some c) n rest := by
  simp only [coverFrom, h]

theorem coverFrom_of_none (h : rule before (c :: rest) = none) :
    coverFrom rule before 0 (c :: rest) = false :: coverFrom rule (some c) 0 rest := by
  simp only [coverFrom, h]

theorem coverFrom_cases (rule : Rule) (before : Option Char) (c : Char) (rest : List Char) :
    (∃ n, rule before (c :: rest) = some (n + 1) ∧
        coverFrom rule before 0 (c :: rest) = true :: coverFrom rule (some c) n rest) ∨
      coverFrom rule before 0 (c :: rest) = false :: coverFrom rule (some c) 0 rest := by
  match hmatch : rule before (c :: rest) with
  | none => exact .inr (coverFrom_of_none hmatch)
  | some 0 =>
    right
    simp only [coverFrom, hmatch]
  | some (n + 1) => exact .inl ⟨n, rfl, coverFrom_of_match hmatch⟩

theorem coverFrom_zero {cs : List Char} {n : Nat} (h : rule before cs = some n) :
    coverFrom rule before 0 cs = coverFrom rule before n cs := by
  cases cs with
  | nil => simp only [coverFrom]
  | cons c rest =>
    cases n with
    | zero => rfl
    | succ n => rw [coverFrom_of_match h, coverFrom]

@[simp] theorem length_coverFrom (rule : Rule) (before : Option Char) (skip : Nat)
    (cs : List Char) : (coverFrom rule before skip cs).length = cs.length := by
  induction cs generalizing before skip with
  | nil => simp only [coverFrom, List.length_nil]
  | cons c rest ih =>
    cases skip with
    | succ skip => simp only [coverFrom, List.length_cons, ih]
    | zero =>
      rcases coverFrom_cases rule before c rest with ⟨n, -, hcover⟩ | hcover <;>
        rw [hcover, List.length_cons, List.length_cons, ih]

@[simp] theorem length_cover (rule : Rule) (cs : List Char) : (cover rule cs).length = cs.length :=
  length_coverFrom rule none 0 cs

theorem coverFrom_skip (rule : Rule) (before : Option Char) (taken rest : List Char) (skip : Nat) :
    coverFrom rule before (taken.length + skip) (taken ++ rest) =
      List.replicate taken.length true ++ coverFrom rule (lastOr before taken) skip rest := by
  induction taken generalizing before with
  | nil => simp
  | cons c taken ih =>
    rw [List.length_cons, Nat.add_right_comm, List.cons_append, coverFrom, ih, lastOr_cons]
    rfl

theorem coverFrom_length (rule : Rule) (before : Option Char) (cs : List Char) :
    coverFrom rule before cs.length cs = List.replicate cs.length true := by
  have h := coverFrom_skip rule before cs [] 0
  rwa [Nat.add_zero, List.append_nil, coverFrom, List.append_nil] at h

/-- Rules that agree on what is left of a text cover the same of it. -/
theorem coverFrom_congr {rule' : Rule} {cs : List Char}
    (h : ∀ before rest, rest <:+ cs → rule before rest = rule' before rest)
    (before : Option Char) (skip : Nat) :
    coverFrom rule before skip cs = coverFrom rule' before skip cs := by
  induction cs generalizing before skip with
  | nil => rfl
  | cons c rest ih =>
    have ih := ih fun before suffix hsuffix => h before suffix (hsuffix.trans (List.suffix_cons c rest))
    cases skip with
    | succ skip => rw [coverFrom, coverFrom, ih]
    | zero =>
      rw [coverFrom, coverFrom, h before _ (List.suffix_refl _)]
      simp only [ih]

/-- **What is covered is part of a match**, or of what the last match still had to take. -/
theorem exists_match_of_covered {skip : Nat} {cs : List Char} {i : Nat}
    (h : (coverFrom rule before skip cs)[i]? = some true) : i < skip ∨ ∃ front rest n,
      cs = front ++ rest ∧ rule (lastOr before front) rest = some n ∧ front.length ≤ i ∧
        i < front.length + n := by
  induction cs generalizing before skip i with
  | nil => simp [coverFrom] at h
  | cons c rest ih =>
    -- A match behind the first character is one of the whole text.
    have hbehind {n i : Nat} (hi : (coverFrom rule (some c) n rest)[i]? = some true) :
        i < n ∨ ∃ front tail m, c :: rest = front ++ tail ∧ rule (lastOr before front) tail = some m ∧
          front.length ≤ i + 1 ∧ i + 1 < front.length + m := by
      refine (ih hi).imp_right ?_
      rintro ⟨front, tail, m, rfl, hmatch, hle, hlt⟩
      exact ⟨c :: front, tail, m, rfl, by rwa [lastOr_cons], Nat.succ_le_succ hle,
        by rw [List.length_cons]; omega⟩
    cases skip with
    | succ skip =>
      rw [coverFrom] at h
      cases i with
      | zero => exact .inl (Nat.succ_pos skip)
      | succ i => exact (hbehind h).imp_left Nat.succ_lt_succ
    | zero =>
      right
      rcases coverFrom_cases rule before c rest with ⟨n, hmatch, hcover⟩ | hcover
      · rw [hcover] at h
        have hfirst {i : Nat} (hi : i < n + 1) : ∃ front tail m, c :: rest = front ++ tail ∧
            rule (lastOr before front) tail = some m ∧ front.length ≤ i ∧ i < front.length + m :=
          ⟨[], c :: rest, n + 1, rfl, hmatch, Nat.zero_le i, by rwa [List.length_nil, Nat.zero_add]⟩
        cases i with
        | zero => exact hfirst (Nat.succ_pos n)
        | succ i => exact (hbehind h).elim (fun hi => hfirst (Nat.succ_lt_succ hi)) id
      · rw [hcover] at h
        cases i with
        | zero => cases h
        | succ i => exact (hbehind h).resolve_left (Nat.not_lt_zero i)

/-! ## Cuts -/

/-- Of the last match in front of a rest there is nothing left to take, or as much as it reaches over
into the rest. -/
def Reaches (rule : Rule) (before : Option Char) (skip : Nat) (rest : List Char) : Prop :=
  skip = 0 ∨ ∃ before' front, front ≠ [] ∧ front.getLast? = before ∧
    rule before' (front ++ rest) = some (front.length + skip)

/-- **A text can be cut anywhere**, and is covered in two parts. -/
theorem exists_coverFrom_append {skip : Nat} {front : List Char}
    (h : Reaches rule before skip (front ++ rest)) : ∃ marks skip',
      marks.length = front.length ∧ Reaches rule (lastOr before front) skip' rest ∧
        coverFrom rule before skip (front ++ rest) =
          marks ++ coverFrom rule (lastOr before front) skip' rest := by
  induction front generalizing before skip with
  | nil => exact ⟨[], skip, rfl, h, rfl⟩
  | cons c front ih =>
    have hstep : ∀ {mark skip'}, Reaches rule (some c) skip' (front ++ rest) →
        ∃ marks skip'', marks.length = (c :: front).length ∧
          Reaches rule (lastOr before (c :: front)) skip'' rest ∧
          mark :: coverFrom rule (some c) skip' (front ++ rest) =
            marks ++ coverFrom rule (lastOr before (c :: front)) skip'' rest := by
      intro mark skip' hreaches
      obtain ⟨marks, skip'', hlength, hreaches', hcover⟩ := ih hreaches
      rw [lastOr_cons]
      exact ⟨mark :: marks, skip'', congrArg (· + 1) hlength, hreaches', congrArg (mark :: ·) hcover⟩
    cases skip with
    | succ skip =>
      rcases h with h | ⟨before', read, -, -, hmatch⟩
      · cases h
      · refine hstep (.inr ⟨before', read ++ [c], by simp, by simp, ?_⟩)
        rw [List.append_assoc, List.singleton_append, ← List.cons_append, hmatch, List.length_append,
          List.length_singleton, Nat.add_assoc, Nat.add_comm 1]
    | zero =>
      rw [List.cons_append]
      rcases coverFrom_cases rule before c (front ++ rest) with ⟨n, hmatch, hcover⟩ | hcover
      · rw [hcover]
        refine hstep (.inr ⟨before, [c], by simp, rfl, ?_⟩)
        rw [List.singleton_append, hmatch, List.length_singleton, Nat.add_comm]
      · rw [hcover]
        exact hstep (.inl rfl)

/-! ## Languages -/

/-- A text that is searched from left to right for the longest members of a language, and which of
its characters they cover. -/
inductive Scan (language : List Char → Prop) : List Char → List Bool → Prop
  | nil : Scan language [] []
  | pass {c : Char} {rest : List Char} {marks : List Bool}
      (hnone : ∀ other, language other → ¬ other <+: c :: rest) (hrest : Scan language rest marks) :
      Scan language (c :: rest) (false :: marks)
  | take {found rest : List Char} {marks : List Bool} (hfound : language found) (hne : found ≠ [])
      (hlongest : ∀ other, language other → other <+: found ++ rest → other.length ≤ found.length)
      (hrest : Scan language rest marks) :
      Scan language (found ++ rest) (List.replicate found.length true ++ marks)

theorem Scan.unique {language : List Char → Prop} {cs : List Char} {marks marks' : List Bool}
    (h : Scan language cs marks) (h' : Scan language cs marks') : marks = marks' := by
  induction h generalizing marks' with
  | nil =>
    generalize hcs : [] = cs at h'
    cases h' with
    | nil => rfl
    | pass => cases hcs
    | take _ hne => exact absurd (List.append_eq_nil_iff.mp hcs.symm).1 hne
  | @pass c rest marks hnone hrest ih =>
    generalize hcs : c :: rest = cs at h'
    cases h' with
    | nil => cases hcs
    | pass _ hrest' =>
      obtain ⟨-, rfl⟩ := List.cons.inj hcs
      rw [ih hrest']
    | take hfound =>
      exact absurd (hcs ▸ List.prefix_append _ _) (hnone _ hfound)
  | @take found rest marks hfound hne hlongest hrest ih =>
    generalize hcs : found ++ rest = cs at h'
    cases h' with
    | nil => exact absurd (List.append_eq_nil_iff.mp hcs).1 hne
    | pass hnone => exact absurd (hcs ▸ List.prefix_append _ _) (hnone _ hfound)
    | @take found' rest' _ hfound' _ hlongest' hrest' =>
      have hlength : found.length = found'.length :=
        Nat.le_antisymm (hlongest' _ hfound (hcs ▸ List.prefix_append _ _))
          (hlongest _ hfound' (hcs ▸ List.prefix_append _ _))
      obtain ⟨rfl, rfl⟩ := List.append_inj hcs hlength
      rw [ih hrest']

/-- The length of the longest member of a language that a text opens with, if there is one. -/
def IsLongest (language : List Char → Prop) (cs : List Char) : Option Nat → Prop
  | none => ∀ other, language other → ¬ other <+: cs
  | some n => (∃ found rest, cs = found ++ rest ∧ language found ∧ found.length = n) ∧
      ∀ other, language other → other <+: cs → other.length ≤ n

theorem IsLongest.cons {language language' : List Char → Prop} {cs : List Char} {n? : Option Nat}
    (h : IsLongest language cs n?) (hcons : ∀ other, language other → language' (c :: other))
    (hcases : ∀ other, language' other → other <+: c :: cs →
      ∃ tail, other = c :: tail ∧ language tail) :
    IsLongest language' (c :: cs) (n?.map (· + 1)) := by
  cases n? with
  | none =>
    intro other hother hprefix
    obtain ⟨tail, rfl, htail⟩ := hcases other hother hprefix
    exact h tail htail (List.cons_prefix_cons.mp hprefix).2
  | some n =>
    obtain ⟨⟨found, rest, rfl, hfound, rfl⟩, hlongest⟩ := h
    refine ⟨⟨c :: found, rest, rfl, hcons found hfound, rfl⟩, ?_⟩
    intro other hother hprefix
    obtain ⟨tail, rfl, htail⟩ := hcases other hother hprefix
    exact Nat.succ_le_succ (hlongest tail htail (List.cons_prefix_cons.mp hprefix).2)

/-- A rule that takes the longest member of a language covers the longest members. -/
theorem scan_coverFrom {language : List Char → Prop} (hnil : ¬ language [])
    (h : ∀ before cs, IsLongest language cs (rule before cs)) (before : Option Char)
    (cs : List Char) : Scan language cs (coverFrom rule before 0 cs) := by
  induction hlength : cs.length using Nat.strongRecOn generalizing before cs with
  | ind n ih =>
    cases cs with
    | nil =>
      rw [coverFrom]
      exact .nil
    | cons c rest =>
      have hlongest := h before (c :: rest)
      cases hmatch : rule before (c :: rest) with
      | none =>
        rw [hmatch] at hlongest
        rw [coverFrom_of_none hmatch]
        exact .pass hlongest (ih rest.length (by simp [← hlength]) _ _ rfl)
      | some m =>
        rw [hmatch] at hlongest
        obtain ⟨⟨found, more, hcs, hfound, rfl⟩, hlongest⟩ := hlongest
        rw [hcs] at hlength hmatch hlongest
        rw [hcs, coverFrom_zero hmatch, ← Nat.add_zero found.length, coverFrom_skip]
        have hne : found ≠ [] := by
          rintro rfl
          exact hnil hfound
        have hpos := List.length_pos_iff.mpr hne
        rw [List.length_append] at hlength
        exact .take hfound hne hlongest (ih more.length (by omega) _ _ rfl)

end SqlDesk.Highlight
