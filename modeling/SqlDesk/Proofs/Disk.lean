/-
What file operations do to a disk.

A path leads to its place (`locate_eq`), or nowhere if a directory on its way is missing. An atomic
write goes through a temporary file, so three disks have to be compared: the one before, the one
with the temporary file, and the one after. `Written` does that: one disk is another with a file put
at a place. With it a write that succeeds changes that one place, and a write that fails changes
nothing, at whatever step it fails (`writeAtomically_cases`). So does a write in place
(`write_cases`). Where storage takes an atomic write, it succeeds (`writeAtomically_of_accepts`).
-/
import SqlDesk.Disk
import SqlDesk.Proofs.Path

namespace SqlDesk.Disk

/-! ## Entries -/

/-- The bytes of the file at a place, if a file lies there. -/
def file? (disk : Disk) (place : List String) : Option (List UInt8) :=
  match disk.entry? place with
  | some (.file bytes) => some bytes
  | _ => none

theorem file?_eq_some {disk : Disk} {place : List String} {bytes : List UInt8} :
    disk.file? place = some bytes ↔ disk.entry? place = some (.file bytes) := by
  simp only [file?]
  split
  · next h => simp [h]
  · next h => simpa using h bytes

theorem place_ne_nil {disk : Disk} {place : List String}
    (h : disk.entry? place ≠ some .directory) : place ≠ [] := by
  rintro rfl
  exact h rfl

theorem entry?_erase (disk : Disk) {place : List String} (h : place ≠ []) (p : List String) :
    entry? (disk.erase place) p = if p = place then none else disk.entry? p := by
  simp only [erase, entry?, List.find?_filter]
  by_cases hp : p = place
  · subst hp
    simp [h]
  · rw [if_neg hp]
    congr 3
    funext e
    by_cases he : e.1 = p <;> simp [he, hp]

theorem entry?_put (disk : Disk) {place : List String} (h : place ≠ []) (entry : Entry)
    (p : List String) :
    entry? (disk.put place entry) p = if p = place then some entry else disk.entry? p := by
  by_cases hp : p = place
  · subst hp
    simp [put, entry?, h]
  · have herase := entry?_erase disk h p
    rw [if_neg hp] at herase ⊢
    rw [← herase]
    simp [put, erase, entry?, Ne.symm hp]

/-! ## Ways -/

theorem walk_mono {disk disk' : Disk}
    (h : ∀ p, disk.entry? p = some .directory → disk'.entry? p = some .directory)
    {path path' : String} {here parts place : List String}
    (hwalk : disk.walk path here parts = .ok place) : disk'.walk path' here parts = .ok place := by
  induction parts generalizing here with
  | nil => simpa only [walk] using hwalk
  | cons part rest ih =>
    simp only [walk] at hwalk ⊢
    split at hwalk
    · next hdir =>
      rw [h _ hdir]
      exact ih hwalk
    · cases hwalk
    · cases hwalk

theorem walk_append_name {disk : Disk} {path path' name : String} {here parts folder : List String}
    (hwalk : disk.walk path here parts = .ok folder) (hdir : disk.entry? folder = some .directory)
    (hname : name ≠ "..") : disk.walk path' here (parts ++ [name]) = .ok (folder ++ [name]) := by
  induction parts generalizing here with
  | nil =>
    simp only [walk, Except.ok.injEq] at hwalk
    subst hwalk
    simp only [List.nil_append, walk, hdir, if_neg hname]
  | cons part rest ih =>
    simp only [walk] at hwalk
    split at hwalk
    · next hpart =>
      simp only [List.cons_append, walk, hpart]
      exact ih hwalk
    · cases hwalk
    · cases hwalk

theorem locate_mono {disk disk' : Disk}
    (h : ∀ p, disk.entry? p = some .directory → disk'.entry? p = some .directory)
    {path path' : String} (hsame : Path.components path = Path.components path')
    {place : List String} (hlocate : disk.locate path = .ok place) :
    disk'.locate path' = .ok place := by
  simp only [locate] at hlocate ⊢
  rw [← hsame]
  exact walk_mono h hlocate

/-- A path leads to its place, if it leads anywhere. -/
theorem locate_eq {disk : Disk} {path : String} {place : List String}
    (h : disk.locate path = .ok place) : place = Path.place path := by
  -- `climb` keeps what it has seen backwards, so the induction is over the reversed way
  have hclimb : ∀ (parts seen : List String), disk.walk path seen.reverse parts = .ok place →
      place = (parts.foldl (fun seen part => if part = ".." then seen.tail else part :: seen)
        seen).reverse := by
    intro parts
    induction parts with
    | nil =>
      intro seen hwalk
      simp only [walk, Except.ok.injEq] at hwalk
      exact hwalk.symm
    | cons part rest ih =>
      intro seen hwalk
      simp only [walk] at hwalk
      split at hwalk
      · refine ih _ ?_
        by_cases hdots : part = ".."
        · simpa [hdots] using hwalk
        · simpa [hdots] using hwalk
      · cases hwalk
      · cases hwalk
  exact hclimb _ [] h

theorem read_eq_ok {disk : Disk} {path : String} {bytes : List UInt8} :
    disk.read path = .ok bytes ↔
      disk.locate path = .ok (Path.place path) ∧ disk.file? (Path.place path) = some bytes := by
  constructor
  · intro h
    simp only [read, lookup] at h
    cases hlocate : disk.locate path with
    | error e => simp [hlocate] at h
    | ok place =>
      obtain rfl := locate_eq hlocate
      refine ⟨rfl, file?_eq_some.mpr ?_⟩
      simp only [hlocate] at h
      match hentry : disk.entry? (Path.place path) with
      | none => simp [hentry] at h
      | some .directory => simp [hentry] at h
      | some (.file bytes') =>
        simp only [hentry, Except.ok.injEq] at h
        rw [h]
  · rintro ⟨hlocate, hfile⟩
    simp only [read, lookup, hlocate, file?_eq_some.mp hfile]

theorem read_normal_iff {disk : Disk} {path : String} {bytes : List UInt8} :
    disk.read (Path.normal path) = .ok bytes ↔ disk.read path = .ok bytes := by
  rw [read_eq_ok, read_eq_ok, locate, locate, Path.components_normal, Path.place_normal]
  refine and_congr_left' ⟨fun h => ?_, fun h => ?_⟩ <;> exact walk_mono (fun _ => id) h

/-- Every directory on the way to a place exists. -/
def Passable (disk : Disk) (place : List String) : Prop :=
  ∀ here part rest, place = here ++ part :: rest → disk.entry? here = some .directory

theorem Passable.dropLast {disk : Disk} {place : List String} (h : disk.Passable place) :
    disk.Passable place.dropLast := by
  intro here part rest hplace
  obtain ⟨last, hlast⟩ := List.dropLast_prefix place
  refine h here part (rest ++ last) ?_
  rw [← hlast, hplace, List.append_assoc, List.cons_append]

theorem Passable.append_singleton {disk : Disk} {place : List String} (h : disk.Passable place)
    (hdir : disk.entry? place = some .directory) (part : String) :
    disk.Passable (place ++ [part]) := by
  intro here next rest hplace
  rcases List.eq_nil_or_concat rest with rfl | ⟨init, last, rfl⟩
  · obtain ⟨rfl, -⟩ := List.append_inj' hplace rfl
    exact hdir
  · rw [List.concat_eq_append, ← List.cons_append, ← List.append_assoc] at hplace
    exact h here next init (List.append_inj' hplace rfl).1

/-- Whoever gets to a place has passed all the directories on the way there. -/
theorem Passable.of_walk {disk : Disk} {path : String} {here parts place : List String}
    (h : disk.Passable here) (hwalk : disk.walk path here parts = .ok place) :
    disk.Passable place := by
  induction parts generalizing here with
  | nil =>
    simp only [Disk.walk, Except.ok.injEq] at hwalk
    exact hwalk ▸ h
  | cons part rest ih =>
    simp only [Disk.walk] at hwalk
    split at hwalk
    · next hdir =>
      refine ih ?_ hwalk
      split
      · exact h.dropLast
      · exact h.append_singleton hdir part
    · cases hwalk
    · cases hwalk

theorem passable_of_locate {disk : Disk} {path : String} {place : List String}
    (h : disk.locate path = .ok place) : disk.Passable place := by
  have hroot : disk.Passable [] := fun here part rest hplace => by simp at hplace
  exact hroot.of_walk h

theorem Passable.walk {disk : Disk} (path : String) (here : List String) {parts : List String}
    (h : disk.Passable (here ++ parts)) (hplain : ".." ∉ parts) :
    disk.walk path here parts = .ok (here ++ parts) := by
  induction parts generalizing here with
  | nil => simp only [Disk.walk, List.append_nil]
  | cons part rest ih =>
    simp only [List.mem_cons, not_or] at hplain
    obtain ⟨hpart, hrest⟩ := hplain
    have hdir := h here part rest rfl
    rw [List.append_cons] at h ⊢
    simp only [Disk.walk, hdir, if_neg (Ne.symm hpart)]
    exact ih (here ++ [part]) h hrest

/-- A path that leads somewhere leads there also without the detours in it. -/
theorem locate_resolve {disk : Disk} {path : String} {place : List String}
    (h : disk.locate path = .ok place) : disk.locate (Path.resolve path) = .ok place := by
  have hpassable := passable_of_locate h
  rw [locate_eq h] at hpassable ⊢
  rw [locate, Path.components_resolve]
  exact Passable.walk _ [] hpassable (Path.not_mem_climb _)

theorem read_resolve {disk : Disk} {path : String} {bytes : List UInt8}
    (h : disk.read path = .ok bytes) : disk.read (Path.resolve path) = .ok bytes := by
  obtain ⟨hlocate, hfile⟩ := read_eq_ok.mp h
  rw [read_eq_ok, Path.place_resolve]
  exact ⟨locate_resolve hlocate, hfile⟩

/-- Whatever lies on a disk lies inside directories. -/
def Nested (disk : Disk) : Prop :=
  ∀ here part rest entry, disk.entry? (here ++ part :: rest) = some entry →
    disk.entry? here = some .directory

theorem Nested.passable {disk : Disk} (h : disk.Nested) {place : List String} {entry : Entry}
    (hentry : disk.entry? place = some entry) : disk.Passable place := by
  rintro here part rest rfl
  exact h here part rest entry hentry

theorem Nested.read {disk : Disk} (h : disk.Nested) {path : String} {bytes : List UInt8}
    (hplain : ".." ∉ Path.components path) (hfile : disk.file? (Path.place path) = some bytes) :
    disk.read path = .ok bytes := by
  refine read_eq_ok.mpr ⟨?_, hfile⟩
  have hplace : Path.place path = Path.components path := Path.climb_eq_self hplain
  rw [hplace] at hfile ⊢
  exact Passable.walk path [] (h.passable (file?_eq_some.mp hfile)) hplain

theorem remove_of_none {disk : Disk} {path : String}
    (h : disk.entry? (Path.place path) = none) : disk.remove path = disk := by
  simp only [remove]
  cases hlocate : disk.locate path with
  | error e => rfl
  | ok place =>
    obtain rfl := locate_eq hlocate
    simp only [h]

theorem exists?_of_read {disk : Disk} {path : String} {bytes : List UInt8}
    (h : disk.read path = .ok bytes) : disk.exists? path = true := by
  obtain ⟨hlocate, hfile⟩ := read_eq_ok.mp h
  simp only [exists?, lookup, hlocate, file?_eq_some.mp hfile]

/-! ## Growing -/

/-- Every directory is still there, and every file is as it was. -/
structure Grows (disk disk' : Disk) : Prop where
  directories : ∀ p, disk.entry? p = some .directory → disk'.entry? p = some .directory
  files : ∀ p, disk'.file? p = disk.file? p

theorem Grows.refl (disk : Disk) : Grows disk disk := ⟨fun _ h => h, fun _ => rfl⟩

theorem Grows.trans {disk disk' disk'' : Disk} (h : Grows disk disk') (h' : Grows disk' disk'') :
    Grows disk disk'' :=
  ⟨fun p hp => h'.directories p (h.directories p hp), fun p => (h'.files p).trans (h.files p)⟩

theorem Grows.of_entries {disk disk' : Disk} (h : ∀ p, disk'.entry? p = disk.entry? p) :
    Grows disk disk' :=
  ⟨fun p hp => (h p).trans hp, fun p => by simp only [file?, h p]⟩

theorem Grows.read {disk disk' : Disk} (h : Grows disk disk') {path : String} {bytes : List UInt8}
    (hread : disk.read path = .ok bytes) : disk'.read path = .ok bytes := by
  obtain ⟨hlocate, hfile⟩ := read_eq_ok.mp hread
  exact read_eq_ok.mpr ⟨locate_mono h.directories rfl hlocate, (h.files _).trans hfile⟩

theorem Grows.put_directory {disk : Disk} {place : List String} (h : disk.entry? place = none) :
    Grows disk (disk.put place .directory) := by
  have hne : place ≠ [] := by
    rintro rfl
    cases h
  constructor
  · intro p hp
    rw [entry?_put disk hne]
    split
    · rfl
    · exact hp
  · intro p
    simp only [file?, entry?_put disk hne]
    by_cases hp : p = place
    · simp only [hp, if_true, h]
    · simp only [hp, if_false]

theorem makeAlong_grows {path : String} {disk disk' : Disk} {here parts : List String}
    (h : makeAlong path disk here parts = .ok disk') : Grows disk disk' := by
  induction parts generalizing disk here with
  | nil =>
    simp only [makeAlong, Except.ok.injEq] at h
    exact h ▸ Grows.refl disk
  | cons part rest ih =>
    simp only [makeAlong] at h
    split at h
    · exact ih h
    · split at h
      · exact ih h
      · cases h
      · next hentry => exact (Grows.put_directory hentry).trans (ih h)

theorem makeDirectories_grows {disk disk' : Disk} {path : String}
    (h : disk.makeDirectories path = .ok disk') : Grows disk disk' :=
  makeAlong_grows h

/-! ## Writing -/

/-- One disk is another with a file put where a path leads. -/
structure Written (disk disk' : Disk) (path : String) (bytes : List UInt8) : Prop where
  located : disk'.locate path = .ok (Path.place path)
  target : disk.entry? (Path.place path) ≠ some .directory
  entry : ∀ p, disk'.entry? p = if p = Path.place path then some (.file bytes) else disk.entry? p

namespace Written

variable {disk disk' disk'' : Disk} {path : String} {bytes bytes' : List UInt8}

theorem entry_place (h : Written disk disk' path bytes) :
    disk'.entry? (Path.place path) = some (.file bytes) := by
  rw [h.entry, if_pos rfl]

theorem files (h : Written disk disk' path bytes) (p : List String) :
    disk'.file? p = if p = Path.place path then some bytes else disk.file? p := by
  simp only [file?, h.entry]
  by_cases hp : p = Path.place path <;> simp only [hp, if_true, if_false]

theorem read (h : Written disk disk' path bytes) : disk'.read path = .ok bytes :=
  read_eq_ok.mpr ⟨h.located, file?_eq_some.mpr h.entry_place⟩

theorem entry_directory (h : Written disk disk' path bytes) (p : List String) :
    disk'.entry? p = some .directory ↔ disk.entry? p = some .directory := by
  rw [h.entry]
  split
  · next hp => simp [hp, h.target]
  · rfl

theorem read_same (h : Written disk disk' path bytes) {other : String}
    (hplace : Path.place other = Path.place path) (hread : disk.read other = .ok bytes') :
    disk'.read other = .ok bytes := by
  obtain ⟨hlocate, -⟩ := read_eq_ok.mp hread
  refine read_eq_ok.mpr ⟨locate_mono (fun p => (h.entry_directory p).mpr) rfl hlocate, ?_⟩
  rw [h.files, if_pos hplace]

theorem read_other (h : Written disk disk' path bytes) {other : String}
    (hne : Path.place other ≠ Path.place path) (hread : disk.read other = .ok bytes') :
    disk'.read other = .ok bytes' := by
  obtain ⟨hlocate, hfile⟩ := read_eq_ok.mp hread
  refine read_eq_ok.mpr ⟨locate_mono (fun p => (h.entry_directory p).mpr) rfl hlocate, ?_⟩
  rw [h.files, if_neg hne, hfile]

end Written

theorem store_eq_ok {disk : Disk} {path : String} {place : List String}
    (hlocate : disk.locate path = .ok place) (htarget : disk.entry? place ≠ some .directory)
    (hdir : disk.entry? place.dropLast = some .directory) (bytes : List UInt8) :
    disk.store path bytes = .ok (disk.put place (.file bytes)) := by
  simp only [store, hlocate, hdir]

theorem store_written {disk disk' : Disk} {path : String} {bytes : List UInt8}
    (h : disk.store path bytes = .ok disk') : Written disk disk' path bytes := by
  simp only [store] at h
  cases hlocate : disk.locate path with
  | error e => simp [hlocate] at h
  | ok place =>
    obtain rfl := locate_eq hlocate
    simp only [hlocate] at h
    split at h
    · cases h
    · next htarget =>
      have hne : disk.entry? (Path.place path) ≠ some .directory := htarget
      have hput := entry?_put disk (place_ne_nil hne) (.file bytes)
      simp only [Except.ok.injEq] at h
      subst h
      refine ⟨locate_mono (fun p hp => ?_) rfl hlocate, hne, hput⟩
      have hp' : p ≠ Path.place path := by
        rintro rfl
        exact hne hp
      rw [hput, if_neg hp', hp]
    · cases h
    · cases h

namespace Written

variable {disk disk' disk'' : Disk} {path : String} {bytes bytes' : List UInt8}

/-- Of two files put at one place the second one stays. -/
theorem trans (h : Written disk disk' path bytes) (h' : Written disk' disk'' path bytes') :
    Written disk disk'' path bytes' := by
  refine ⟨h'.located, h.target, fun p => ?_⟩
  rw [h'.entry, h.entry]
  split <;> rfl

theorem of_entries (h : Written disk' disk'' path bytes)
    (hsame : ∀ p, disk'.entry? p = disk.entry? p) : Written disk disk'' path bytes := by
  refine ⟨h.located, ?_, fun p => ?_⟩
  · rw [← hsame]
    exact h.target
  · rw [h.entry, hsame]

theorem of_normal (h : Written disk disk' (Path.normal path) bytes) :
    Written disk disk' path bytes := by
  obtain ⟨hlocated, htarget, hentry⟩ := h
  rw [Path.place_normal] at hlocated htarget hentry
  exact ⟨locate_mono (fun _ hp => hp) (Path.components_normal path) hlocated, htarget, hentry⟩

theorem remove (h : Written disk disk' path bytes) (hfree : disk.entry? (Path.place path) = none)
    (p : List String) : entry? (disk'.remove path) p = disk.entry? p := by
  have hremove : disk'.remove path = disk'.erase (Path.place path) := by
    simp only [Disk.remove, h.located, h.entry_place]
  rw [hremove, entry?_erase disk' (place_ne_nil h.target), h.entry]
  split
  · next hp => rw [hp, hfree]
  · rfl

/-- A file put where nothing lay, and then moved, is a file put at its new place. -/
theorem replace {temp : String} (h : Written disk disk' temp bytes)
    (hfree : disk.entry? (Path.place temp) = none) (hmove : disk'.replace temp path = .ok disk'') :
    Written disk disk'' path bytes := by
  simp only [Disk.replace, h.read] at hmove
  cases hlocate : disk'.locate path with
  | error e => simp [hlocate] at hmove
  | ok place =>
    obtain rfl := locate_eq hlocate
    simp only [hlocate] at hmove
    split at hmove
    · cases hmove
    · next htarget =>
      simp only [Except.ok.injEq] at hmove
      subst hmove
      have hplace : disk.entry? (Path.place path) ≠ some .directory := fun hdir =>
        htarget ((h.entry_directory _).mpr hdir)
      have hput : ∀ p, entry? ((disk'.remove temp).put (Path.place path) (.file bytes)) p =
          if p = Path.place path then some (.file bytes) else disk.entry? p := by
        intro p
        rw [entry?_put _ (place_ne_nil hplace), h.remove hfree]
      refine ⟨locate_mono (fun p hp => ?_) rfl hlocate, hplace, hput⟩
      have hdir := (h.entry_directory p).mp hp
      have hp' : p ≠ Path.place path := by
        rintro rfl
        exact hplace hdir
      rw [hput, if_neg hp', hdir]

end Written

/-- The disk after a write in place has taken its refusal, if there is one. -/
def taken (disk : Disk) : Disk :=
  { disk with writeRefusals := disk.writeRefusals.tail }

/-- What a write in place does, in two cases: it fails and changes nothing, or it puts the file at
its place. -/
theorem write_cases (disk : Disk) (path : String) (bytes : List UInt8) :
    (∃ e disk', disk.write path bytes = (.error e, disk') ∧ ∀ p, disk'.entry? p = disk.entry? p) ∨
      ∃ disk', disk.write path bytes = (.ok (), disk') ∧ Written disk disk' path bytes := by
  have htaken : ∀ p, disk.taken.entry? p = disk.entry? p := fun _ => rfl
  unfold write
  dsimp only
  rw [← taken]
  split
  · exact .inl ⟨_, _, rfl, htaken⟩
  cases hstore : disk.taken.store path bytes with
  | error e => exact .inl ⟨_, _, rfl, htaken⟩
  | ok disk' => exact .inr ⟨_, rfl, (store_written hstore).of_entries htaken⟩

theorem write_of_read {disk : Disk} {path : String} {old : List UInt8}
    (hread : disk.read path = .ok old) (hstorage : ∀ refused ∈ disk.writeRefusals, refused = false)
    (bytes : List UInt8) : ∃ disk', disk.write path bytes = (.ok (), disk') ∧
      Written disk disk' path bytes ∧ ∀ refused ∈ disk'.writeRefusals, refused = false := by
  obtain ⟨hlocate, hfile⟩ := read_eq_ok.mp hread
  have hentry := file?_eq_some.mp hfile
  have hnotDir : disk.entry? (Path.place path) ≠ some .directory := by simp [hentry]
  have hdir : disk.entry? (Path.place path).dropLast = some .directory := by
    have hsplit := List.dropLast_concat_getLast (place_ne_nil hnotDir)
    exact passable_of_locate hlocate _ _ [] hsplit.symm
  have hrefused : disk.writeRefusals.headD false = false := by
    cases hrefusals : disk.writeRefusals with
    | nil => rfl
    | cons first rest => exact hstorage first (by simp [hrefusals])
  have htaken : Grows disk disk.taken := .of_entries fun _ => rfl
  have hlocated := locate_mono htaken.directories rfl hlocate
  have hstore := store_eq_ok hlocated hnotDir hdir bytes
  refine ⟨_, ?_, (store_written hstore).of_entries fun _ => rfl, ?_⟩
  · unfold write
    dsimp only
    rw [hrefused, ← taken, hstore]
    rfl
  · intro refused hmem
    exact hstorage refused (List.mem_of_mem_tail hmem)

/-! ## Atomic writes -/

theorem entry?_of_not_mem {disk : Disk} {folder : List String} {name : String}
    (h : name ∉ disk.namesIn folder) : disk.entry? (folder ++ [name]) = none := by
  have hnone : disk.entries.find? (fun e => e.1 == folder ++ [name]) = none := by
    rw [List.find?_eq_none]
    intro e hmem hplace
    refine h (List.mem_filterMap.mpr ⟨e, hmem, ?_⟩)
    rw [beq_iff_eq.mp hplace, List.dropLast_concat, if_pos rfl, List.getLast?_concat]
  simp [Disk.entry?, hnone]

theorem isName_tempNameFor (disk : Disk) (path : String) : Path.IsName (disk.tempNameFor path) :=
  disk.tempName.isName _

theorem place_tempFor (disk : Disk) (path : String) : Path.place (disk.tempFor path) =
    Path.place (Path.parent path) ++ [disk.tempNameFor path] := by
  rw [tempFor, Path.place_inside (disk.isName_tempNameFor path)]
  simp only [Path.place, Path.components_parent, Path.components_normal]

/-- Nothing lies at the place of the temporary file. -/
theorem entry?_tempFor (disk : Disk) (path : String) :
    disk.entry? (Path.place (disk.tempFor path)) = none := by
  rw [place_tempFor]
  exact entry?_of_not_mem fun hmem => disk.tempName.fresh _ (List.mem_cons_of_mem _ hmem)

theorem place_tempFor_ne (disk : Disk) (path : String) :
    Path.place (disk.tempFor path) ≠ Path.place path := by
  rw [place_tempFor]
  intro heq
  have hname := Path.name_of_place heq.symm
  exact disk.tempName.fresh _ (List.mem_cons.mpr (.inl hname.symm))

/-- Once the temporary file exists, filling it and moving it over the target either puts the bytes
at the target or leaves the temporary file, and nothing else, behind. -/
theorem fillAndReplace_written {disk disk' : Disk} {temp : String} {held : List UInt8}
    (h : Written disk disk' temp held) (hfree : disk.entry? (Path.place temp) = none)
    (refused : Option WriteStep) (path : String) (bytes : List UInt8) :
    (∃ e disk'' held', disk'.fillAndReplace refused temp path bytes = (.error e, disk'') ∧
        Written disk disk'' temp held') ∨
      ∃ disk'', disk'.fillAndReplace refused temp path bytes = (.ok (), disk'') ∧
        Written disk disk'' path bytes := by
  simp only [fillAndReplace]
  split
  · exact .inl ⟨_, _, _, rfl, h⟩
  · cases hstore : disk'.store temp bytes with
    | error e => exact .inl ⟨_, _, _, rfl, h⟩
    | ok filled =>
      have hfilled := h.trans (store_written hstore)
      dsimp only
      split
      · exact .inl ⟨_, _, _, rfl, hfilled⟩
      · cases hmove : filled.replace temp path with
        | error e => exact .inl ⟨_, _, _, rfl, hfilled⟩
        | ok moved => exact .inr ⟨_, rfl, hfilled.replace hfree hmove⟩

/-- The disk after an atomic write has taken its refusal, if there is one. -/
def ready (disk : Disk) : Disk :=
  { disk with refusals := disk.refusals.tail }

/-- What an atomic write does, in two cases: it fails and changes nothing, or it puts the file at
its place. -/
theorem writeAtomically_cases (disk : Disk) (path : String) (bytes : List UInt8) :
    (∃ e disk', disk.writeAtomically path bytes = (.error e, disk') ∧
        ∀ p, disk'.entry? p = disk.entry? p) ∨
      ∃ disk', disk.writeAtomically path bytes = (.ok (), disk') ∧
        Written disk disk' path bytes := by
  have hready : ∀ p, disk.ready.entry? p = disk.entry? p := fun _ => rfl
  have htemp : disk.ready.tempFor path = disk.tempFor path := rfl
  have hfree := disk.entry?_tempFor path
  unfold writeAtomically
  dsimp only
  rw [← ready, htemp]
  split
  · exact .inl ⟨_, _, rfl, hready⟩
  cases hstore : disk.ready.store (disk.tempFor path) [] with
  | error e => exact .inl ⟨_, _, rfl, hready⟩
  | ok made =>
    have hmade := (store_written hstore).of_entries hready
    rcases fillAndReplace_written hmade hfree (disk.refusals.headD none) (Path.normal path) bytes
      with ⟨e, left, held, hfill, hleft⟩ | ⟨moved, hfill, hmoved⟩
    · refine .inl ⟨e, left.remove (disk.tempFor path), ?_, hleft.remove hfree⟩
      simp only [hfill]
    · -- the temporary file has been moved away, so nothing is left to remove
      have hgone : moved.entry? (Path.place (disk.tempFor path)) = none := by
        rw [hmoved.entry, Path.place_normal, if_neg (disk.place_tempFor_ne path), hfree]
      refine .inr ⟨moved, ?_, ?_⟩
      · simp only [hfill, remove_of_none hgone]
      · exact hmoved.of_normal

/-- Storage takes an atomic write: the directory of the path exists, the path is none, and the write
is not refused. -/
structure Accepts (disk : Disk) (path : String) : Prop where
  isName : Path.IsName (Path.name path)
  folder : disk.locate (Path.parent path) = .ok (Path.place (Path.parent path))
  directory : disk.entry? (Path.place (Path.parent path)) = some .directory
  target : disk.entry? (Path.place path) ≠ some .directory
  unrefused : disk.refusals.headD none = none

namespace Accepts

variable {disk : Disk} {path : String}

theorem locate (h : Accepts disk path) : disk.locate path = .ok (Path.place path) := by
  have hcomponents := Path.components_of_isName h.isName
  have hplace := Path.place_of_isName h.isName
  have hwalk := h.folder
  rw [Disk.locate] at hwalk ⊢
  rw [hcomponents, hplace]
  exact walk_append_name hwalk h.directory h.isName.ne_dots

theorem locate_tempFor (h : Accepts disk path) :
    disk.locate (disk.tempFor path) = .ok (Path.place (disk.tempFor path)) := by
  have hname := disk.isName_tempNameFor path
  have hcomponents : Path.components (disk.tempFor path) =
      Path.components (Path.parent path) ++ [disk.tempNameFor path] := by
    rw [tempFor, Path.components_inside hname.toIsComponent, Path.components_parent,
      Path.components_normal, Path.components_parent]
  have hwalk := h.folder
  rw [Disk.locate] at hwalk ⊢
  rw [hcomponents, place_tempFor]
  exact walk_append_name hwalk h.directory hname.ne_dots

theorem directory_tempFor (h : Accepts disk path) :
    disk.entry? (Path.place (disk.tempFor path)).dropLast = some .directory := by
  rw [place_tempFor, List.dropLast_concat]
  exact h.directory

theorem fillAndReplace (h : Accepts disk path) {disk' : Disk} {held : List UInt8}
    (hmade : Written disk disk' (disk.tempFor path) held) (bytes : List UInt8) :
    (disk'.fillAndReplace none (disk.tempFor path) (Path.normal path) bytes).1 = .ok () := by
  have hkept : ∀ {made : Disk} {held : List UInt8}, Written disk made (disk.tempFor path) held →
      ∀ p, disk.entry? p = some .directory → made.entry? p = some .directory :=
    fun hw p => (hw.entry_directory p).mpr
  have hstore : disk'.store (disk.tempFor path) bytes =
      .ok (disk'.put (Path.place (disk.tempFor path)) (.file bytes)) :=
    store_eq_ok hmade.located (by rw [hmade.entry_place]; simp)
      (hkept hmade _ h.directory_tempFor) bytes
  have hfilled := hmade.trans (store_written hstore)
  have hlocate : (disk'.put (Path.place (disk.tempFor path)) (.file bytes)).locate
      (Path.normal path) = .ok (Path.place path) :=
    locate_mono (hkept hfilled) (Path.components_normal path).symm h.locate
  have htarget : entry? (disk'.put (Path.place (disk.tempFor path)) (.file bytes))
      (Path.place path) ≠ some .directory :=
    fun hdir => h.target ((hfilled.entry_directory _).mp hdir)
  simp only [Disk.fillAndReplace, hstore, Disk.replace, hfilled.read, hlocate, reduceCtorEq,
    if_false]

end Accepts

/-- **An atomic write succeeds** where storage takes it. -/
theorem writeAtomically_of_accepts {disk : Disk} {path : String} (h : disk.Accepts path)
    (bytes : List UInt8) : (disk.writeAtomically path bytes).1 = .ok () := by
  have hready : ∀ p, disk.ready.entry? p = disk.entry? p := fun _ => rfl
  have hdirs : ∀ p, disk.entry? p = some .directory → disk.ready.entry? p = some .directory :=
    fun _ hp => hp
  have hlocate : disk.ready.locate (disk.tempFor path) = .ok (Path.place (disk.tempFor path)) :=
    locate_mono hdirs rfl h.locate_tempFor
  have hnone : disk.ready.entry? (Path.place (disk.tempFor path)) ≠ some .directory := by
    rw [hready, entry?_tempFor]
    exact nofun
  have hstore : disk.ready.store (disk.tempFor path) [] =
      .ok (disk.ready.put (Path.place (disk.tempFor path)) (.file [])) :=
    store_eq_ok hlocate hnone h.directory_tempFor []
  have hmade := (store_written hstore).of_entries hready
  have htemp : disk.ready.tempFor path = disk.tempFor path := rfl
  rw [← h.fillAndReplace hmade bytes]
  unfold writeAtomically
  simp only [h.unrefused, reduceCtorEq, if_false]
  rw [← ready, htemp, hstore]

end SqlDesk.Disk
