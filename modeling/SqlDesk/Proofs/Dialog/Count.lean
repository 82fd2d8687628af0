/-
Counts in their boxes.

A box of a count takes the texts that stand for a whole number that is not negative
(`parseCount_eq_ok_iff_standsFor`), and refuses all others with one of two errors
(`parseCount_of_negative`, `parseCount_of_other`). When options are shown, each box shows its count,
unless that count or one above it cannot be written out (`count_load`). So a count that is shown in a
box is the one that is read from it.
-/
import SqlDesk.Proofs.Dialog.Form

namespace SqlDesk

namespace OptionControls

/-- When counts are shown, a box shows its count, or it is left alone. If it had its turn among them,
something was in the way. -/
theorem count_showCounts (options : Options) (cs : List Count) (controls : OptionControls)
    (c : Count) :
    (Text.isWritable (options.count c) = true ∧
        (showCounts options cs controls).2.count c = toString (options.count c)) ∨
      ((c ∈ cs → (showCounts options cs controls).1 ≠ .ok ()) ∧
        (showCounts options cs controls).2.count c = controls.count c) := by
  induction cs generalizing controls with
  | nil => exact .inr ⟨fun hmem => absurd hmem List.not_mem_nil, rfl⟩
  | cons d cs ih =>
    by_cases hd : Text.isWritable (options.count d) = true
    · have hshown : showCounts options (d :: cs) controls =
          showCounts options cs
            (controls.enter (.count d) (.string (toString (options.count d)))) := by
        rw [showCounts, if_pos hd]
      rw [hshown]
      rcases ih (controls.enter (.count d) (.string (toString (options.count d)))) with
        hwritten | ⟨hstop, hkept⟩
      · exact .inl hwritten
      · -- what the rest leaves alone is what was put into the box just now
        by_cases hc : c = d
        · subst hc
          refine .inl ⟨hd, ?_⟩
          rw [hkept]
          exact if_pos rfl
        · refine .inr ⟨fun hmem => hstop ((List.mem_cons.mp hmem).resolve_left hc), ?_⟩
          rw [hkept]
          exact if_neg hc
    · have hrefused : showCounts options (d :: cs) controls = (.error (.numeral none), controls) := by
        rw [showCounts, if_neg hd]
      rw [hrefused]
      exact .inr ⟨fun _ => by simp, rfl⟩

/-- When options are shown, each box shows its count, or it is left alone because some count cannot
be written out. -/
theorem count_load (controls : OptionControls) (options : Options) (c : Count) :
    (Text.isWritable (options.count c) = true ∧
        (controls.load options).2.count c = toString (options.count c)) ∨
      ((controls.load options).1 ≠ .ok () ∧
        (controls.load options).2.count c = controls.count c) := by
  rw [load_fst, load_snd_count]
  rcases count_showCounts options boxes _ c with hshown | ⟨hstop, hkept⟩
  · exact .inl hshown
  · exact .inr ⟨hstop (mem_boxes c), hkept⟩

end OptionControls

namespace Dialog

variable {label text : String}

theorem parseCount_eq_ok_iff_standsFor {n : Nat} :
    parseCount label text = .ok n ↔ Text.StandsFor text.toList n := by
  rw [parseCount_eq_ok_iff, Text.integer?_eq_some_iff]

theorem parseCount_of_negative {n : Int} (h : Text.StandsFor text.toList n) (hn : n < 0) :
    parseCount label text = .error (.negativeCount (plainLabel label)) := by
  rw [parseCount, Text.integer?_eq_some_iff.mpr h]
  exact if_pos hn

theorem parseCount_of_other (h : ∀ n, ¬ Text.StandsFor text.toList n) :
    parseCount label text = .error (.notWholeNumber (plainLabel label) text) := by
  have hnone : Text.integer? text.toList = none := by
    rw [Option.eq_none_iff_forall_ne_some]
    exact fun n hn => h n (Text.integer?_eq_some_iff.mp hn)
  rw [parseCount, hnone]

theorem parseCount_around {n : Nat} {front back : String}
    (hlength : (toString n).length ≤ Text.maxDigits) (hfront : Text.allBlank front.toList = true)
    (hback : Text.allBlank back.toList = true) :
    parseCount label (front ++ toString n ++ back) = .ok n := by
  have hwritable : Text.isWritable n = true := by
    rwa [Text.isWritable_iff, ← Text.toList_toString, String.length_toList]
  rw [parseCount_eq_ok_iff_standsFor, String.toList_append, String.toList_append,
    Text.toList_toString]
  exact Text.standsFor_toDigits hwritable hfront hback

/-- **What a box of a count takes.** It reads a natural number just from the texts that stand for it:
an optional sign and a row of not too many decimal digits of any script, in groups with one underscore
between two groups, with blanks around them or without. A text that stands for a negative number is
refused, and so is one that stands for none. A number that is written out with not too many digits is
read back, whatever blanks are put around it; and when options are shown, each box is read as the
count that it shows, or it is left alone because some count cannot be written out. -/
theorem parseCount_reads (label : String) :
    (∀ text (n : Nat), parseCount label text = .ok n ↔ Text.StandsFor text.toList n) ∧
      (∀ text, (∃ n < 0, Text.StandsFor text.toList n) →
        parseCount label text = .error (.negativeCount (plainLabel label))) ∧
      (∀ text, (¬ ∃ n, Text.StandsFor text.toList n) →
        parseCount label text = .error (.notWholeNumber (plainLabel label) text)) ∧
      (∀ (n : Nat) (front back : String), (toString n).length ≤ Text.maxDigits →
        Text.allBlank front.toList = true → Text.allBlank back.toList = true →
        parseCount label (front ++ toString n ++ back) = .ok n) ∧
      ∀ (controls : OptionControls) (options : Options) (c : Count),
        parseCount label ((controls.load options).2.count c) = .ok (options.count c) ∨
          ((controls.load options).1 ≠ .ok () ∧
            (controls.load options).2.count c = controls.count c) := by
  refine ⟨fun text n => parseCount_eq_ok_iff_standsFor, ?_, ?_, ?_, ?_⟩
  · rintro text ⟨n, hn, h⟩
    exact parseCount_of_negative h hn
  · exact fun text h => parseCount_of_other (not_exists.mp h)
  · exact fun n front back => parseCount_around
  · intro controls options c
    refine (controls.count_load options c).imp_left fun ⟨hwritable, hshown⟩ => ?_
    rw [hshown]
    exact parseCount_toString hwritable label

/-- Digits of two scripts, a sign that makes no difference, a negative number, two underscores in a
row, and blanks that are not spaces. -/
theorem parseCount_reads_mixed :
    (Text.StandsFor " +1_２ ".toList 12 ∧ parseCount "Max Line Width:" " +1_２ " = .ok 12) ∧
      (Text.StandsFor "-0".toList 0 ∧ parseCount "Max Line Width:" "-0" = .ok 0) ∧
      ((∃ n < 0, Text.StandsFor "-1".toList n) ∧
        parseCount "Max Line Width:" "-1" = .error (.negativeCount "Max Line Width")) ∧
      ((¬ ∃ n, Text.StandsFor "1__2".toList n) ∧
        parseCount "Max Line Width:" "1__2" = .error (.notWholeNumber "Max Line Width" "1__2")) ∧
      (toString 80).length ≤ Text.maxDigits ∧ Text.allBlank "\t".toList = true ∧
      Text.allBlank "\u3000".toList = true ∧
      parseCount "Max Line Width:" ("\t" ++ toString 80 ++ "\u3000") = .ok 80 := by
  obtain ⟨hreads, hnegative, hother, hback, -⟩ := parseCount_reads "Max Line Width:"
  have hlabel : plainLabel "Max Line Width:" = "Max Line Width" := by decide
  rw [hlabel] at hnegative hother
  have hplus : Text.StandsFor " +1_２ ".toList 12 := Text.integer?_eq_some_iff.mp (by decide +kernel)
  have hminus : Text.StandsFor "-0".toList 0 := Text.integer?_eq_some_iff.mp (by decide +kernel)
  have hless : Text.StandsFor "-1".toList (-1) := Text.integer?_eq_some_iff.mp (by decide +kernel)
  have hnone : Text.integer? "1__2".toList = none := by decide +kernel
  have hmarks : ¬ ∃ n, Text.StandsFor "1__2".toList n := by
    rintro ⟨n, hn⟩
    rw [← Text.integer?_eq_some_iff, hnone] at hn
    cases hn
  have hlength : (toString 80).length ≤ Text.maxDigits := by decide
  have hblank : Text.allBlank "\t".toList = true ∧ Text.allBlank "\u3000".toList = true := by decide
  exact ⟨⟨hplus, (hreads _ _).mpr hplus⟩, ⟨hminus, (hreads _ _).mpr hminus⟩,
    ⟨⟨-1, by decide, hless⟩, hnegative _ ⟨-1, by decide, hless⟩⟩, ⟨hmarks, hother _ hmarks⟩,
    hlength, hblank.1, hblank.2, hback 80 _ _ hlength hblank.1 hblank.2⟩

end Dialog

end SqlDesk
