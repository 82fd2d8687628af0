/-
When a path has an extension.

`EndsIn` says what the last component of a path is without taking the path apart: the path is a
directory part, the component, and a rest that leads nowhere. `endsIn_iff` ties it to the components.
A component has a suffix just if a stem stands before its last dot and something behind it
(`suffixOf_eq_cons_iff`). In small letters no dot and no slash is lost (`count_lower`), so an
extension with one of these in its body is never met.
-/
import SqlDesk.Proofs.Path
import SqlDesk.Proofs.Text.Lowercase
import SqlDesk.Proofs.Text.Blank
import Mathlib.Data.List.TakeWhile

namespace SqlDesk.Path

open Text

/-! ## The last component -/

theorem exists_last_of_mem {α : Type} {a : α} {xs : List α} (h : a ∈ xs) :
    ∃ front back, xs = front ++ a :: back ∧ a ∉ back := by
  obtain ⟨back, front, hxs, hnot⟩ := List.eq_append_cons_of_mem (List.mem_reverse.mpr h)
  refine ⟨front.reverse, back.reverse, ?_, by simpa using hnot⟩
  rw [← List.reverse_inj, hxs]
  simp

/-- A rest of a path that leads nowhere: slashes, and single dots behind some of them. -/
inductive Idle : List Char → Prop
  | nil : Idle []
  | slash {rest : List Char} (h : Idle rest) : Idle ('/' :: rest)
  | dot {rest : List Char} (h : Idle rest) : Idle ('/' :: '.' :: rest)

theorem Idle.append {front rest : List Char} (h : Idle front) (hrest : Idle rest) :
    Idle (front ++ rest) := by
  induction h with
  | nil => exact hrest
  | slash _ ih => exact .slash ih
  | dot _ ih => exact .dot ih

/-- A path ends in a component: before it is nothing or a directory part, behind it a rest that leads
nowhere. -/
structure EndsIn (path : String) (part : List Char) : Prop where
  around : ∃ folder rest, path.toList = folder ++ (part ++ rest) ∧
    (folder = [] ∨ folder.getLast? = some '/') ∧ Idle rest
  isComponent : IsComponent (String.ofList part)

/-- The pieces that lead somewhere. -/
def leading (cs : List Char) : List (List Char) :=
  (pieces cs).filter fun piece => !(piece.isEmpty || piece == ['.'])

theorem components_eq (path : String) :
    components path = (leading path.toList).map String.ofList := rfl

theorem leading_append_slash (as bs : List Char) :
    leading (as ++ '/' :: bs) = leading as ++ leading bs := by
  rw [leading, pieces_append_slash, List.filter_append]
  rfl

theorem leading_of_not_mem {part : List Char} (h : '/' ∉ part) :
    leading part = if part = [] ∨ part = ['.'] then [] else [part] := by
  rw [leading, pieces_eq_singleton h]
  by_cases hidle : part = [] ∨ part = ['.']
  · rw [if_pos hidle]
    rcases hidle with rfl | rfl <;> rfl
  · obtain ⟨hne, hdot⟩ := not_or.mp hidle
    rw [if_neg hidle]
    simp [hne, hdot]

theorem Idle.leading_append {rest : List Char} (h : Idle rest) {part : List Char}
    (hpart : '/' ∉ part) : leading (part ++ rest) = leading part := by
  induction h generalizing part with
  | nil => rw [List.append_nil]
  | @slash rest _ ih =>
    have hrest : leading ([] ++ rest) = [] := ih List.not_mem_nil
    rw [List.nil_append] at hrest
    rw [leading_append_slash, hrest, List.append_nil]
  | @dot rest _ ih =>
    have hrest : leading (['.'] ++ rest) = [] := ih (by decide)
    rw [List.singleton_append] at hrest
    rw [leading_append_slash, hrest, List.append_nil]

theorem IsComponent.leading_eq {part : List Char} (h : IsComponent (String.ofList part)) :
    leading part = [part] := by
  have hslash : '/' ∉ part := by simpa using h.no_slash
  have hidle : ¬ (part = [] ∨ part = ['.']) := by
    rintro (rfl | rfl)
    · exact h.ne_empty rfl
    · exact h.ne_dot rfl
  rw [leading_of_not_mem hslash, if_neg hidle]

theorem leading_of_around {part folder rest : List Char} (hpart : IsComponent (String.ofList part))
    (hfolder : folder = [] ∨ folder.getLast? = some '/') (hrest : Idle rest) :
    (leading (folder ++ (part ++ rest))).getLast? = some part := by
  have hslash : '/' ∉ part := by simpa using hpart.no_slash
  have hlast : leading (part ++ rest) = [part] := by
    rw [hrest.leading_append hslash, hpart.leading_eq]
  rcases hfolder with rfl | hfolder
  · rw [List.nil_append, hlast]
    rfl
  · obtain ⟨front, rfl⟩ := List.getLast?_eq_some_iff.mp hfolder
    rw [List.append_assoc, List.singleton_append, leading_append_slash, hlast,
      List.getLast?_concat]

/-- Any path with a component parts around its last one. -/
theorem exists_around {cs part : List Char} (h : (leading cs).getLast? = some part) :
    ∃ folder rest, cs = folder ++ (part ++ rest) ∧
      (folder = [] ∨ folder.getLast? = some '/') ∧ Idle rest := by
  induction hlength : cs.length using Nat.strongRecOn generalizing cs with
  | ind n ih =>
    by_cases hslash : '/' ∈ cs
    · obtain ⟨front, back, rfl, hback⟩ := exists_last_of_mem hslash
      rw [leading_append_slash, leading_of_not_mem hback] at h
      split at h
      · next hidle =>
        -- nothing behind the last slash: the component is the last one in front of it
        rw [List.append_nil] at h
        obtain ⟨folder, rest, hfront, hfolder, hrest⟩ :=
          ih front.length (by rw [← hlength]; simp) h rfl
        refine ⟨folder, rest ++ '/' :: back, ?_, hfolder, hrest.append ?_⟩
        · rw [hfront, List.append_assoc, List.append_assoc]
        · rcases hidle with rfl | rfl
          · exact .slash .nil
          · exact .dot .nil
      · rw [List.getLast?_concat, Option.some.injEq] at h
        refine ⟨front ++ ['/'], [], ?_, .inr (by simp), .nil⟩
        rw [h, List.append_nil, List.append_assoc, List.singleton_append]
    · rw [leading_of_not_mem hslash] at h
      split at h
      · cases h
      · obtain rfl := Option.some.inj h
        exact ⟨[], [], (List.append_nil _).symm, .inl rfl, .nil⟩

/-- **A path ends in its last component** and in nothing else. -/
theorem endsIn_iff {path : String} {part : List Char} :
    EndsIn path part ↔ (components path).getLast? = some (String.ofList part) := by
  have hleading : (components path).getLast? = some (String.ofList part) ↔
      (leading path.toList).getLast? = some part := by
    rw [components_eq, List.getLast?_map, Option.map_eq_some_iff]
    simp only [String.ofList_inj, exists_eq_right]
  constructor
  · rintro ⟨⟨folder, rest, hpath, hfolder, hrest⟩, hpart⟩
    rw [hleading, hpath]
    exact leading_of_around hpart hfolder hrest
  · intro h
    exact ⟨exists_around (hleading.mp h), isComponent_of_mem (List.mem_of_getLast? h)⟩

theorem EndsIn.name_eq {path : String} {part : List Char} (h : EndsIn path part) :
    (name path).toList = part := by
  rw [name, List.getLastD_eq_getLast?, endsIn_iff.mp h]
  simp

theorem endsIn_name {path : String} (h : name path ≠ "") : EndsIn path (name path).toList := by
  rw [endsIn_iff, String.ofList_toList]
  rw [name, List.getLastD_eq_getLast?] at h ⊢
  cases hlast : (components path).getLast? with
  | none => simp [hlast] at h
  | some part => rfl

/-! ## Suffixes -/

theorem suffixOf_of_not_mem {component : List Char} (h : '.' ∉ component) :
    suffixOf component = [] := by
  have hall : ∀ c ∈ component.reverse, decide (c ≠ '.') = true := by
    intro c hmem
    have hc : c ≠ '.' := ne_of_mem_of_not_mem (List.mem_reverse.mp hmem) h
    exact decide_eq_true hc
  have hstem : component.reverse.dropWhile (fun c => decide (c ≠ '.')) = [] :=
    List.dropWhile_eq_nil_iff.mpr hall
  rw [suffixOf, hstem, List.drop_nil, List.isEmpty_nil, Bool.or_true]
  rfl

theorem suffixOf_append {tail : List Char} (h : '.' ∉ tail) (stem : List Char) :
    suffixOf (stem ++ '.' :: tail) = if stem = [] ∨ tail = [] then [] else '.' :: tail := by
  have hall : ∀ c ∈ tail.reverse, decide (c ≠ '.') = true := by
    intro c hmem
    have hc : c ≠ '.' := ne_of_mem_of_not_mem (List.mem_reverse.mp hmem) h
    exact decide_eq_true hc
  have hreverse : (stem ++ '.' :: tail).reverse = tail.reverse ++ '.' :: stem.reverse := by simp
  have hbody : (tail.reverse ++ '.' :: stem.reverse).takeWhile (fun c => decide (c ≠ '.')) =
      tail.reverse := by
    rw [takeWhile_append_cons (by decide), List.takeWhile_eq_self_iff]
    exact hall
  have hstem : (tail.reverse ++ '.' :: stem.reverse).dropWhile (fun c => decide (c ≠ '.')) =
      '.' :: stem.reverse := by
    rw [dropWhile_append_cons (by decide), List.dropWhile_eq_nil_iff.mpr hall, List.nil_append]
  simp only [suffixOf, hreverse, hbody, hstem, List.drop_one, List.tail_cons, List.reverse_reverse,
    List.isEmpty_reverse, Bool.or_eq_true, List.isEmpty_iff, or_comm]

/-- A component has a suffix just if a stem stands before its last dot and something behind it. -/
theorem suffixOf_eq_cons_iff {component tail : List Char} {c : Char} :
    suffixOf component = c :: tail ↔
      c = '.' ∧ tail ≠ [] ∧ '.' ∉ tail ∧ ∃ stem, stem ≠ [] ∧ component = stem ++ '.' :: tail := by
  constructor
  · intro h
    by_cases hdot : '.' ∈ component
    · obtain ⟨stem, back, rfl, hback⟩ := exists_last_of_mem hdot
      rw [suffixOf_append hback] at h
      split at h
      · cases h
      · next hne =>
        obtain ⟨rfl, rfl⟩ := List.cons.inj h
        obtain ⟨hstem, htail⟩ := not_or.mp hne
        exact ⟨rfl, htail, hback, stem, hstem, rfl⟩
    · rw [suffixOf_of_not_mem hdot] at h
      cases h
  · rintro ⟨rfl, htail, hdot, stem, hstem, rfl⟩
    rw [suffixOf_append hdot, if_neg (not_or.mpr ⟨hstem, htail⟩)]

theorem isMark_dot : IsMark '.' := ⟨by decide, by decide⟩

theorem isMark_slash : IsMark '/' := ⟨by decide, by decide⟩

/-! ## Extensions -/

/-- What an extension says behind its leading dot, which may be left out. -/
def body (extension : String) : List Char :=
  match extension.toList with
  | '.' :: rest => rest
  | cs => cs

theorem withDot_eq (extension : String) : withDot extension.toList = '.' :: body extension := by
  unfold withDot
  split
  · next heq => simp only [body, heq]
  · next hother =>
    unfold body
    split
    · next rest heq => exact absurd heq (hother rest)
    · rfl

/-- The body of an extension that a path can have. -/
structure IsProper (body : List Char) : Prop where
  ne_nil : body ≠ []
  no_dot : '.' ∉ body
  no_slash : '/' ∉ body

/-- A path ends in a stem, a dot and a suffix that, dot and all, is the extension in small letters.
-/
def Bears (path extension : String) : Prop :=
  ∃ stem tail, stem ≠ [] ∧ '.' ∉ tail ∧ EndsIn path (stem ++ '.' :: tail) ∧
    lower ('.' :: tail) = lower ('.' :: body extension)

theorem hasExtension_eq (path : String) {extension : String} (h : body extension ≠ []) :
    hasExtension path extension = (lower (suffix path) == lower ('.' :: body extension)) := by
  have hne : extension.toList ≠ [] := by
    intro hnil
    exact h (by rw [body, hnil])
  rw [hasExtension, withDot_eq, List.isEmpty_eq_false_iff.mpr hne]
  rfl

theorem lower_ne_of_dot {cs : List Char} (h : '.' ∈ cs) : lower [] ≠ lower cs := by
  intro heq
  have hcount := count_lower isMark_dot cs
  rw [← heq] at hcount
  exact absurd (List.count_pos_iff.mpr h) (by rw [← hcount]; decide)

theorem lower_cons_ne {cs cs' : List Char} (hdot : '.' ∉ cs) (hslash : '/' ∉ cs)
    (h : '.' ∈ cs' ∨ '/' ∈ cs') : lower ('.' :: cs) ≠ lower ('.' :: cs') := by
  intro heq
  have hcount : ∀ {mark}, IsMark mark → mark ∈ cs' → mark ∈ cs := by
    intro mark hmark hmem
    have hsame := count_lower hmark ('.' :: cs)
    rw [heq, count_lower hmark, List.count_cons, List.count_cons, Nat.add_right_cancel_iff] at hsame
    rw [← List.count_pos_iff, ← hsame]
    exact List.count_pos_iff.mpr hmem
  rcases h with h | h
  · exact hdot (hcount isMark_dot h)
  · exact hslash (hcount isMark_slash h)

theorem suffix_eq_nil_or (path : String) :
    suffix path = [] ∨ ∃ tail, suffix path = '.' :: tail ∧ '.' ∉ tail ∧ '/' ∉ tail ∧
      ∃ stem, stem ≠ [] ∧ EndsIn path (stem ++ '.' :: tail) := by
  cases hsuffix : suffix path with
  | nil => exact .inl rfl
  | cons c tail =>
    obtain ⟨rfl, htail, hdot, stem, hstem, hname⟩ := suffixOf_eq_cons_iff.mp hsuffix
    have hne : name path ≠ "" := by
      intro hempty
      simp [hempty] at hname
    have hends := endsIn_name hne
    rw [hname] at hends
    have hslash : '/' ∉ tail := by
      have hcomponent := hends.isComponent.no_slash
      simp only [String.toList_ofList, List.mem_append, List.mem_cons, not_or] at hcomponent
      exact hcomponent.2.2
    exact .inr ⟨tail, rfl, hdot, hslash, stem, hstem, hends⟩

theorem hasExtension_iff {extension : String} (h : IsProper (body extension)) (path : String) :
    hasExtension path extension = true ↔ Bears path extension := by
  rw [hasExtension_eq path h.ne_nil, beq_iff_eq]
  constructor
  · intro hlower
    rcases suffix_eq_nil_or path with hnil | ⟨tail, hsuffix, hdot, -, stem, hstem, hends⟩
    · rw [hnil] at hlower
      exact absurd hlower (lower_ne_of_dot List.mem_cons_self)
    · rw [hsuffix] at hlower
      exact ⟨stem, tail, hstem, hdot, hends, hlower⟩
  · rintro ⟨stem, tail, hstem, hdot, hends, hlower⟩
    have htail : tail ≠ [] := by
      rintro rfl
      have hlength := length_le_lower ('.' :: body extension)
      rw [← hlower] at hlength
      exact h.ne_nil (List.length_eq_zero_iff.mp (Nat.le_zero.mp (Nat.le_of_succ_le_succ hlength)))
    rw [suffix, hends.name_eq, suffixOf_append hdot, if_neg (not_or.mpr ⟨hstem, htail⟩), hlower]

/-- No path has an extension with a further dot or a slash in it. -/
theorem hasExtension_of_improper {extension : String}
    (h : '.' ∈ body extension ∨ '/' ∈ body extension) (path : String) :
    hasExtension path extension = false := by
  have hne : body extension ≠ [] := by
    intro hnil
    simp [hnil] at h
  rw [hasExtension_eq path hne, beq_eq_false_iff_ne]
  rcases suffix_eq_nil_or path with hnil | ⟨tail, hsuffix, hdot, hslash, -⟩
  · rw [hnil]
    exact lower_ne_of_dot List.mem_cons_self
  · rw [hsuffix]
    exact lower_cons_ne hdot hslash h

theorem body_ofList {cs : List Char} (h : '.' ∉ cs) : body (String.ofList cs) = cs := by
  rw [body, String.toList_ofList]
  split
  · exact absurd List.mem_cons_self h
  · rfl

theorem body_ofList_dot (cs : List Char) : body (String.ofList ('.' :: cs)) = cs := by
  simp only [body, String.toList_ofList]

/-- Neither the directory part nor a slash at the end changes what a path ends in. -/
theorem endsIn_folder_iff {path : String} (h : name path ≠ "") (folder : String)
    {part : List Char} : EndsIn (folder ++ "/" ++ path) part ↔ EndsIn path part := by
  have hlast := endsIn_iff.mp (endsIn_name h)
  rw [endsIn_iff, endsIn_iff, components_append_slash, List.getLast?_append, hlast]
  rfl

theorem endsIn_slash_iff (path : String) {part : List Char} :
    EndsIn (path ++ "/") part ↔ EndsIn path part := by
  have hempty : components "" = [] := by decide
  have hslash : components (path ++ "/" ++ "") = components path := by
    rw [components_append_slash, hempty, List.append_nil]
  rw [String.append_empty] at hslash
  rw [endsIn_iff, endsIn_iff, hslash]

theorem not_bears_of_hidden {path : String} {tail : List Char} (h : EndsIn path ('.' :: tail))
    (htail : '.' ∉ tail) (extension : String) : ¬ Bears path extension := by
  rintro ⟨stem, tail', hstem, -, hends, -⟩
  obtain ⟨c, rest, rfl⟩ := List.exists_cons_of_ne_nil hstem
  have hname := h.name_eq.symm.trans hends.name_eq
  obtain ⟨-, hrest⟩ := List.cons.inj hname
  exact htail (hrest ▸ List.mem_append_right rest List.mem_cons_self)

/-- **When a path has an extension.** If the extension has a body without dots and slashes, the path
has to end in a stem, a dot and a suffix that is the same in small letters. The leading dot of the
extension may be left out, directories and slashes at the end of the path are no matter, and neither
a file that is named by an extension only nor the empty path has one. No path has an extension with
a further dot or a slash in it. -/
theorem hasExtension_bears (extension : String) :
    (IsProper (body extension) →
      (∀ path, hasExtension path extension = true ↔ Bears path extension) ∧
      (∀ path, hasExtension path (String.ofList (body extension)) =
        hasExtension path (String.ofList ('.' :: body extension))) ∧
      (∀ folder path, name path ≠ "" →
        hasExtension (folder ++ "/" ++ path) extension = hasExtension path extension) ∧
      (∀ path, hasExtension (path ++ "/") extension = hasExtension path extension) ∧
      (∀ path tail, '.' ∉ tail → EndsIn path ('.' :: tail) → hasExtension path extension = false) ∧
      hasExtension "" extension = false) ∧
    ('.' ∈ body extension ∨ '/' ∈ body extension → ∀ path, hasExtension path extension = false) := by
  refine ⟨fun h => ?_, hasExtension_of_improper⟩
  have hiff := hasExtension_iff h
  have hsame : ∀ {path path'}, (∀ {part}, EndsIn path part ↔ EndsIn path' part) →
      hasExtension path extension = hasExtension path' extension := by
    intro path path' hends
    rw [Bool.eq_iff_iff, hiff, hiff]
    simp only [Bears, hends]
  refine ⟨hiff, fun path => ?_, fun folder path hname => hsame (endsIn_folder_iff hname folder),
    fun path => hsame (endsIn_slash_iff path), fun path tail htail hends => ?_, ?_⟩
  · have hplain := body_ofList h.no_dot
    have hdotted := body_ofList_dot (body extension)
    rw [hasExtension_eq path (hplain.symm ▸ h.ne_nil), hplain,
      hasExtension_eq path (hdotted.symm ▸ h.ne_nil), hdotted]
  · rw [← Bool.not_eq_true, hiff]
    exact not_bears_of_hidden hends htail extension
  · rw [← Bool.not_eq_true, hiff]
    rintro ⟨stem, tail, -, -, hends, -⟩
    have hlast := endsIn_iff.mp hends
    rw [show components "" = [] by decide] at hlast
    cases hlast

/-- An archive of a query is no query, and a query is one wherever it lies. -/
theorem hasExtension_bears_query :
    IsProper (body ".Sql") ∧ hasExtension "new/./report.v2.sQL" ".Sql" = true ∧
      hasExtension ("old" ++ "/" ++ "new/./report.v2.sQL") ".Sql" = true ∧
      hasExtension "new/.sql/." ".Sql" = false ∧ hasExtension "report.tar.gz" "tar.gz" = false := by
  have hproper : IsProper (body ".Sql") := ⟨by decide, by decide, by decide⟩
  obtain ⟨hiff, -, hfolder, -, hhidden, -⟩ := (hasExtension_bears ".Sql").1 hproper
  have hquery : hasExtension "new/./report.v2.sQL" ".Sql" = true := by
    refine (hiff _).mpr ⟨"report.v2".toList, "sQL".toList, by decide, by decide, ?_, by decide +kernel⟩
    exact endsIn_iff.mpr (by decide)
  refine ⟨hproper, hquery, ?_, hhidden _ "sql".toList (by decide) (endsIn_iff.mpr (by decide)), ?_⟩
  · rw [hfolder _ _ (by decide), hquery]
  · exact (hasExtension_bears "tar.gz").2 (.inl (by decide)) _

end SqlDesk.Path
