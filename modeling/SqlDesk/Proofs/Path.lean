/-
The components of paths that are put together.

`components` undoes `assemble` (`components_assemble`), so a path in normal form, a path inside a
directory and the directory of a path have the components one expects. `place` is where a path
leads when every directory on its way exists.
-/
import SqlDesk.Path

namespace SqlDesk.Path

/-! ## Pieces -/

theorem pieces_ne_nil (cs : List Char) : pieces cs ≠ [] := by
  cases cs with
  | nil => simp [pieces]
  | cons c rest =>
    simp only [pieces]
    split
    · simp
    · split <;> simp

theorem pieces_append_slash (as bs : List Char) :
    pieces (as ++ '/' :: bs) = pieces as ++ pieces bs := by
  induction as with
  | nil => simp [pieces]
  | cons a as ih =>
    simp only [List.cons_append, pieces]
    split
    · rw [ih, List.cons_append]
    · obtain ⟨piece, more, h⟩ := List.exists_cons_of_ne_nil (pieces_ne_nil as)
      rw [ih, h, List.cons_append, List.cons_append]

theorem pieces_eq_singleton {cs : List Char} (h : '/' ∉ cs) : pieces cs = [cs] := by
  induction cs with
  | nil => rfl
  | cons c rest ih =>
    simp only [List.mem_cons, not_or] at h
    simp only [pieces, if_neg (Ne.symm h.1), ih h.2]

theorem not_mem_of_mem_pieces {cs piece : List Char} (h : piece ∈ pieces cs) : '/' ∉ piece := by
  induction cs generalizing piece with
  | nil => simp_all [pieces]
  | cons c rest ih =>
    simp only [pieces] at h
    split at h
    · rcases List.mem_cons.mp h with rfl | h
      · simp
      · exact ih h
    · next hc =>
      obtain ⟨first, more, hrest⟩ := List.exists_cons_of_ne_nil (pieces_ne_nil rest)
      rw [hrest] at h
      rcases List.mem_cons.mp h with rfl | h
      · have hfirst := ih (hrest ▸ List.mem_cons_self)
        simp [Ne.symm hc, hfirst]
      · exact ih (hrest ▸ List.mem_cons_of_mem _ h)

/-! ## Components -/

theorem isComponent_of_mem {path part : String} (h : part ∈ components path) :
    IsComponent part := by
  simp only [components, List.mem_map, List.mem_filter, Bool.not_eq_true', Bool.or_eq_false_iff,
    List.isEmpty_eq_false_iff, beq_eq_false_iff_ne] at h
  obtain ⟨piece, ⟨hmem, hne, hdot⟩, rfl⟩ := h
  refine ⟨fun he => hne ?_, fun he => hdot ?_, ?_⟩
  · simpa using congrArg String.toList he
  · simpa using congrArg String.toList he
  · simpa using not_mem_of_mem_pieces hmem

theorem components_append_slash (a b : String) :
    components (a ++ "/" ++ b) = components a ++ components b := by
  have h : (a ++ "/" ++ b).toList = a.toList ++ '/' :: b.toList := by simp
  simp only [components, h, pieces_append_slash, List.filter_append, List.map_append]

theorem components_eq_singleton {part : String} (h : IsComponent part) :
    components part = [part] := by
  have hne : part.toList ≠ [] := fun he => h.ne_empty (String.toList_inj.mp he)
  have hdot : part.toList ≠ ['.'] := fun he => h.ne_dot (String.toList_inj.mp he)
  simp [components, pieces_eq_singleton h.no_slash, hne, hdot]

theorem components_intercalate {parts : List String} (h : ∀ part ∈ parts, IsComponent part) :
    components ("/".intercalate parts) = parts := by
  induction parts with
  | nil => rfl
  | cons part rest ih =>
    have hpart := components_eq_singleton (h part List.mem_cons_self)
    cases rest with
    | nil => rw [String.intercalate_singleton, hpart]
    | cons next rest =>
      rw [String.intercalate_cons_cons, components_append_slash, hpart,
        ih fun part hmem => h part (List.mem_cons_of_mem _ hmem)]
      rfl

/-- **The components of an assembled path** are those that it was assembled from. -/
theorem components_assemble (path : String) {parts : List String}
    (h : ∀ part ∈ parts, IsComponent part) : components (assemble path parts) = parts := by
  have hroot : ∀ s, components ("/" ++ s) = components s := by
    intro s
    simp [components, pieces]
  have hparts := components_intercalate h
  simp only [assemble]
  split
  · next hempty =>
    rw [List.isEmpty_iff.mp hempty]
    split <;> rfl
  · split
    · rw [hroot, hparts]
    · rw [String.empty_append, hparts]

@[simp] theorem components_normal (path : String) : components (normal path) = components path :=
  components_assemble path fun _ => isComponent_of_mem

@[simp] theorem components_parent (path : String) :
    components (parent path) = (components path).dropLast :=
  components_assemble path fun _ hmem => isComponent_of_mem (List.dropLast_subset _ hmem)

theorem components_inside {name : String} (h : IsComponent name) (folder : String) :
    components (inside folder name) = components folder ++ [name] := by
  rw [inside, components_normal, components_append_slash, components_eq_singleton h]

/-! ## Places -/

@[simp] theorem place_normal (path : String) : place (normal path) = place path := by
  simp only [place, components_normal]

theorem climb_append_name {name : String} (h : name ≠ "..") (parts : List String) :
    climb (parts ++ [name]) = climb parts ++ [name] := by
  simp [climb, List.foldl_append, h]

theorem climb_eq_self {parts : List String} (h : ".." ∉ parts) : climb parts = parts := by
  have hfold : ∀ seen : List String, parts.foldl
      (fun seen part => if part = ".." then seen.tail else part :: seen) seen =
        parts.reverse ++ seen := by
    induction parts with
    | nil => exact fun _ => rfl
    | cons part rest ih =>
      intro seen
      simp only [List.mem_cons, not_or] at h
      obtain ⟨hpart, hrest⟩ := h
      rw [List.foldl_cons, if_neg (Ne.symm hpart), ih hrest, List.reverse_cons, List.append_assoc]
      rfl
  rw [climb, hfold, List.append_nil, List.reverse_reverse]

theorem mem_of_mem_climb {parts : List String} {part : String} (h : part ∈ climb parts) :
    part ∈ parts := by
  have hfold : ∀ seen : List String, part ∈ parts.foldl
      (fun seen part => if part = ".." then seen.tail else part :: seen) seen →
        part ∈ seen ∨ part ∈ parts := by
    clear h
    induction parts with
    | nil => exact fun _ => .inl
    | cons next rest ih =>
      intro seen hmem
      rw [List.foldl_cons] at hmem
      split at hmem
      · rcases ih _ hmem with hseen | hrest
        · exact .inl (List.mem_of_mem_tail hseen)
        · exact .inr (List.mem_cons_of_mem _ hrest)
      · rcases ih _ hmem with hseen | hrest
        · rcases List.mem_cons.mp hseen with rfl | hseen
          · exact .inr List.mem_cons_self
          · exact .inl hseen
        · exact .inr (List.mem_cons_of_mem _ hrest)
  simpa using hfold [] (List.mem_reverse.mp h)

theorem assemble_ne_empty (path : String) {parts : List String}
    (h : ∀ part ∈ parts, IsComponent part) : assemble path parts ≠ "" := by
  intro hempty
  have hparts := components_assemble path h
  rw [hempty] at hparts
  obtain rfl : parts = [] := hparts.symm
  revert hempty
  simp only [assemble, List.isEmpty_nil, if_true]
  split <;> decide

theorem resolve_ne_empty (path : String) : resolve path ≠ "" :=
  assemble_ne_empty path fun _ hmem => isComponent_of_mem (mem_of_mem_climb hmem)

theorem not_mem_climb (parts : List String) : ".." ∉ climb parts := by
  have hfold : ∀ seen : List String, ".." ∉ seen → ".." ∉ parts.foldl
      (fun seen part => if part = ".." then seen.tail else part :: seen) seen := by
    induction parts with
    | nil => exact fun _ => id
    | cons part rest ih =>
      intro seen hseen
      rw [List.foldl_cons]
      refine ih _ ?_
      split
      · exact fun hmem => hseen (List.mem_of_mem_tail hmem)
      · next hpart => exact List.not_mem_cons_of_ne_of_not_mem (Ne.symm hpart) hseen
  exact fun hmem => hfold [] List.not_mem_nil (List.mem_reverse.mp hmem)

@[simp] theorem components_resolve (path : String) : components (resolve path) = place path :=
  components_assemble path fun _ hmem => isComponent_of_mem (mem_of_mem_climb hmem)

@[simp] theorem place_resolve (path : String) : place (resolve path) = place path := by
  rw [place, components_resolve]
  exact climb_eq_self (not_mem_climb _)

theorem place_inside {name : String} (h : IsName name) (folder : String) :
    place (inside folder name) = place folder ++ [name] := by
  rw [place, components_inside h.toIsComponent, climb_append_name h.ne_dots, place]

/-- A path to a file ends in the name of the file. -/
theorem components_of_isName {path : String} (h : IsName (name path)) :
    components path = components (parent path) ++ [name path] := by
  rcases List.eq_nil_or_concat (components path) with hnil | ⟨init, last, hlast⟩
  · exact absurd (by simp [name, hnil]) h.ne_empty
  · rw [List.concat_eq_append] at hlast
    rw [components_parent, name, hlast, List.dropLast_concat, List.getLastD_concat]

theorem place_of_isName {path : String} (h : IsName (name path)) :
    place path = place (parent path) ++ [name path] := by
  simp only [place, components_of_isName h, climb_append_name h.ne_dots]

/-- A path that leads to a place has the name that the place ends in. -/
theorem name_of_place {path name : String}
    (h : place path = place (parent path) ++ [name]) : Path.name path = name := by
  rcases List.eq_nil_or_concat (components path) with hnil | ⟨init, last, hlast⟩
  · simp [place, hnil, climb] at h
  · rw [List.concat_eq_append] at hlast
    simp only [place, components_parent, hlast, List.dropLast_concat] at h
    have hne : last ≠ ".." := by
      rintro rfl
      have hlen := congrArg List.length h
      simp [climb, List.foldl_append] at hlen
    rw [climb_append_name hne, List.append_cancel_left_eq, List.singleton_inj] at h
    rw [Path.name, hlast, List.getLastD_concat, h]

end SqlDesk.Path
