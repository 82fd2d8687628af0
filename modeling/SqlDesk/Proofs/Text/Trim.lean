/-
Texts that are trimmed, and texts that are cut in two.

A text without a blank at either end is not changed by trimming (`trim_of_ends`), and nothing else is
what trimming leaves (`trim_trim`). A text is cut at the first place where the phrase is: no later
than at any place where it is known to be (`cut?_of_append`).
-/
import Mathlib.Data.List.TakeWhile
import SqlDesk.Text.Blank
import SqlDesk.Text.Replace

namespace SqlDesk.Text

/-! ## Trimming -/

theorem trimLeft_of_head {cs : List Char} (h : ∀ c, cs.head? = some c → isBlank c = false) :
    trimLeft cs = cs := by
  cases cs with
  | nil => rfl
  | cons c rest => rw [trimLeft, List.dropWhile_cons, h c rfl, if_neg Bool.false_ne_true]

theorem trimRight_eq (cs : List Char) : trimRight cs = (trimLeft cs.reverse).reverse := rfl

theorem trim_of_ends {cs : List Char} (hhead : ∀ c, cs.head? = some c → isBlank c = false)
    (hlast : ∀ c, cs.getLast? = some c → isBlank c = false) : trim cs = cs := by
  have hreverse : ∀ c, cs.reverse.head? = some c → isBlank c = false := by
    simpa only [List.head?_reverse] using hlast
  rw [trim, trimLeft_of_head hhead, trimRight_eq, trimLeft_of_head hreverse, List.reverse_reverse]

theorem trim_eq_self {cs : List Char} (h : ∀ c ∈ cs, isBlank c = false) : trim cs = cs :=
  trim_of_ends (fun c hc => h c (List.mem_of_mem_head? hc))
    fun c hc => h c (List.mem_of_getLast? hc)

theorem head_trimLeft {cs : List Char} {c : Char} (h : (trimLeft cs).head? = some c) :
    isBlank c = false := by
  have hhead := List.head?_dropWhile_not isBlank cs
  rw [← trimLeft, h] at hhead
  simpa using hhead

theorem ends_trim (cs : List Char) : (∀ c, (trim cs).head? = some c → isBlank c = false) ∧
    ∀ c, (trim cs).getLast? = some c → isBlank c = false := by
  refine ⟨fun c hc => ?_, fun c hc => ?_⟩
  · -- trimming at the end leaves the first character, if it leaves any
    have hprefix : trim cs <+: trimLeft cs := by
      rw [trim, trimRight_eq, ← List.reverse_suffix, List.reverse_reverse]
      exact List.dropWhile_suffix isBlank
    obtain ⟨rest, hrest⟩ := hprefix
    refine @head_trimLeft cs c ?_
    rw [← hrest, List.head?_append, hc]
    rfl
  · rw [trim, trimRight_eq, List.getLast?_reverse] at hc
    exact head_trimLeft hc

theorem trim_trim (cs : List Char) : trim (trim cs) = trim cs :=
  trim_of_ends (ends_trim cs).1 (ends_trim cs).2

theorem strip_strip (text : String) : strip (strip text) = strip text := by
  simp only [strip, String.toList_ofList, trim_trim]

/-- Where two texts have no blanks around them, the text that they make together has none. -/
theorem strip_append {text text' : String} (h : strip text = text) (h' : strip text' = text') :
    strip (text ++ text') = text ++ text' := by
  obtain ⟨hhead, hlast⟩ := ends_trim text.toList
  obtain ⟨hhead', hlast'⟩ := ends_trim text'.toList
  have htrim : ∀ {text : String}, strip text = text → trim text.toList = text.toList := by
    intro text h
    rw [← String.toList_ofList (l := trim text.toList)]
    exact congrArg String.toList h
  rw [htrim h] at hhead hlast
  rw [htrim h'] at hhead' hlast'
  rw [strip, String.toList_append, trim_of_ends, ← String.toList_append, String.ofList_toList]
  · intro c hc
    rw [List.head?_append, Option.or_eq_some_iff] at hc
    exact hc.elim (hhead c) fun hc => hhead' c hc.2
  · intro c hc
    rw [List.getLast?_append, Option.or_eq_some_iff] at hc
    exact hc.elim (hlast' c) fun hc => hlast c hc.2

theorem trimLeft_append {front : List Char} (h : allBlank front = true) (cs : List Char) :
    trimLeft (front ++ cs) = trimLeft cs :=
  List.dropWhile_append_of_pos (List.all_eq_true.mp h)

theorem trimRight_append {back : List Char} (h : allBlank back = true) (cs : List Char) :
    trimRight (cs ++ back) = trimRight cs := by
  have hreverse : allBlank back.reverse = true := by rwa [allBlank, List.all_reverse]
  rw [trimRight_eq, List.reverse_append, trimLeft_append hreverse, trimRight_eq]

theorem trim_around {front back : List Char} (hfront : allBlank front = true)
    (hback : allBlank back = true) (cs : List Char) : trim (front ++ cs ++ back) = trim cs := by
  rw [trim, List.append_assoc, trimLeft_append hfront, trim]
  cases hleft : trimLeft cs with
  | nil =>
    have hblank : allBlank cs = true := List.all_eq_true.mpr (List.dropWhile_eq_nil_iff.mp hleft)
    rw [trimLeft_append hblank, ← List.append_nil back, trimLeft_append hback]
    rfl
  | cons c rest =>
    have happend : trimLeft (cs ++ back) = trimLeft cs ++ back := by
      rw [trimLeft, List.dropWhile_append, ← trimLeft, hleft]
      rfl
    rw [happend, hleft, trimRight_append hback]

theorem exists_trim (cs : List Char) : ∃ front back, cs = front ++ trim cs ++ back ∧
    allBlank front = true ∧ allBlank back = true := by
  have hright : ∀ ds : List Char, ds = trimRight ds ++ (ds.reverse.takeWhile isBlank).reverse := by
    intro ds
    rw [trimRight, ← List.reverse_append, List.takeWhile_append_dropWhile, List.reverse_reverse]
  refine ⟨cs.takeWhile isBlank, ((trimLeft cs).reverse.takeWhile isBlank).reverse, ?_,
    List.all_takeWhile, ?_⟩
  · rw [List.append_assoc, trim, ← hright (trimLeft cs), trimLeft, List.takeWhile_append_dropWhile]
  · rw [allBlank, List.all_reverse]
    exact List.all_takeWhile

theorem length_trim_le (cs : List Char) : (trim cs).length ≤ cs.length := by
  rw [trim, trimRight_eq, List.length_reverse]
  refine (List.length_dropWhile_le isBlank _).trans ?_
  rw [List.length_reverse]
  exact List.length_dropWhile_le isBlank cs

theorem mem_trim {cs : List Char} {c : Char} (hc : isBlank c = false) (h : c ∈ cs) :
    c ∈ trim cs := by
  have hleft : ∀ {ds : List Char}, c ∈ ds → c ∈ trimLeft ds := by
    intro ds hds
    rw [← List.takeWhile_append_dropWhile (p := isBlank) (l := ds), List.mem_append] at hds
    refine hds.resolve_left fun htaken => ?_
    have hblank := List.all_eq_true.mp (List.all_takeWhile (p := isBlank)) c htaken
    exact absurd hblank (by rw [hc]; exact Bool.false_ne_true)
  rw [trim, trimRight_eq, List.mem_reverse]
  exact hleft (List.mem_reverse.mpr (hleft h))

theorem trim_eq_nil_iff {cs : List Char} : trim cs = [] ↔ ∀ c ∈ cs, isBlank c = true := by
  constructor
  · intro h c hc
    refine Decidable.byContradiction fun hblank => ?_
    have hleft := mem_trim (Bool.eq_false_iff.mpr hblank) hc
    rw [h] at hleft
    cases hleft
  · intro h
    have hleft : trimLeft cs = [] := List.dropWhile_eq_nil_iff.mpr h
    rw [trim, hleft]
    rfl

theorem strip_ne_empty_iff {text : String} :
    strip text ≠ "" ↔ ∃ c ∈ text.toList, isBlank c = false := by
  have hnil : strip text = "" ↔ trim text.toList = [] := by
    rw [strip, ← String.toList_inj, String.toList_ofList, String.toList_empty]
  rw [Ne, hnil, trim_eq_nil_iff]
  simp

/-! ## Cutting -/

theorem cut?_of_append (before phrase after : List Char) :
    ∃ first rest, cut? phrase (before ++ phrase ++ after) = some (first, rest) ∧
      first.length ≤ before.length := by
  induction before with
  | nil =>
    cases phrase with
    | nil => cases after <;> exact ⟨[], _, rfl, Nat.le_refl _⟩
    | cons c phrase => exact ⟨[], after, by simp [cut?], Nat.le_refl _⟩
  | cons c before ih =>
    obtain ⟨first, rest, hcut, hle⟩ := ih
    simp only [List.cons_append, cut?]
    split
    · exact ⟨[], _, rfl, Nat.zero_le _⟩
    · exact ⟨c :: first, rest, by rw [hcut]; rfl, Nat.succ_le_succ hle⟩

end SqlDesk.Text
