/-
Replacing every occurrence of a phrase.

Occurrences are found from left to right and do not overlap; what a replacement brings in is not
searched again.
-/
namespace SqlDesk.Text

/-- `cs` with each occurrence of `phrase` replaced, after `skip` more characters of the last one. -/
def replaceFrom (phrase replacement : List Char) : Nat → List Char → List Char
  | _, [] => []
  | skip + 1, _ :: rest => replaceFrom phrase replacement skip rest
  | 0, c :: rest =>
    if phrase.isPrefixOf (c :: rest) then
      replacement ++ replaceFrom phrase replacement (phrase.length - 1) rest
    else c :: replaceFrom phrase replacement 0 rest

/-- `cs` with each occurrence of a non-empty phrase replaced. -/
def replaceAll (phrase replacement cs : List Char) : List Char :=
  replaceFrom phrase replacement 0 cs

/-- `s` with each occurrence of a non-empty phrase replaced. -/
def replace (s phrase replacement : String) : String :=
  String.ofList (replaceAll phrase.toList replacement.toList s.toList)

/-- The text before and after the first occurrence of a phrase. -/
def cut? (phrase : List Char) : List Char → Option (List Char × List Char)
  | [] => if phrase.isEmpty then some ([], []) else none
  | c :: rest =>
    if phrase.isPrefixOf (c :: rest) then some ([], (c :: rest).drop phrase.length)
    else (cut? phrase rest).map fun (before, after) => (c :: before, after)

theorem eq_of_cut? {phrase cs before after : List Char}
    (h : cut? phrase cs = some (before, after)) :
    cs = before ++ phrase ++ after := by
  induction cs generalizing before after with
  | nil =>
    simp only [cut?] at h
    split at h
    · next hp =>
      simp_all
    · simp at h
  | cons c rest ih =>
    simp only [cut?] at h
    split at h
    · next hp =>
      obtain ⟨t, ht⟩ := List.isPrefixOf_iff_prefix.mp hp
      simp only [Option.some.injEq, Prod.mk.injEq] at h
      obtain ⟨rfl, rfl⟩ := h
      rw [← ht]
      simp
    · rw [Option.map_eq_some_iff] at h
      obtain ⟨⟨b, a⟩, hr, he⟩ := h
      simp only [Prod.mk.injEq] at he
      obtain ⟨rfl, rfl⟩ := he
      simp [ih hr]

end SqlDesk.Text
