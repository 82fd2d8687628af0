/-
A file of plain entries below headers is read back as it was written.

`Takes` says what a part of a file does to the state of the reader, whatever follows it. Lines and
sections are put together with it one after another (`Takes.append`), each section adding its entries
to the table that its header names (`takes_section`), and a whole file leaves the table that its
sections have built up (`read_of_takes`).
-/
import SqlDesk.Proofs.Toml.Line

namespace SqlDesk.Toml

/-! ## Parts of a file -/

/-- A part of a file takes the reader from one state to another, whatever follows it, in no more
lines than it has characters; and no carriage return is in it. -/
structure Takes (cs : List Char) (state state' : State) : Prop where
  lines : ∃ n ≤ cs.length, ∀ fuel rest,
    State.readLines (n + fuel) state (cs ++ rest) = State.readLines fuel state' rest
  noReturn : '\r' ∉ cs

namespace Takes

theorem append {cs more : List Char} {state state' state'' : State} (h : Takes cs state state')
    (h' : Takes more state' state'') : Takes (cs ++ more) state state'' := by
  obtain ⟨⟨n, hn, hlines⟩, hreturn⟩ := h
  obtain ⟨⟨m, hm, hlines'⟩, hreturn'⟩ := h'
  refine ⟨⟨n + m, ?_, fun fuel rest => ?_⟩, by simp [hreturn, hreturn']⟩
  · rw [List.length_append]
    omega
  · rw [Nat.add_assoc, List.append_assoc, hlines, hlines']

theorem line {cs : List Char} {state state' : State} (hreturn : '\r' ∉ cs)
    (h : ∀ rest, state.readStatement (skipSpaces (cs ++ '\n' :: rest)) =
      .ok (state', '\n' :: rest)) : Takes (cs ++ ['\n']) state state' := by
  refine ⟨⟨1, by simp, fun fuel rest => ?_⟩, by simp [hreturn]⟩
  have hspace : isSpace '\n' = false := by decide
  have hcomment : skipComment ('\n' :: rest) = .ok ('\n' :: rest) := rfl
  rw [Nat.add_comm, State.readLines, List.append_assoc, List.singleton_append, h]
  simp only [skipSpaces_cons hspace, hcomment]

theorem blankLine (state : State) : Takes ['\n'] state state := by
  refine line List.not_mem_nil fun rest => ?_
  have hspace : isSpace '\n' = false := by decide
  rw [List.nil_append, skipSpaces_cons hspace]
  rfl

theorem spaced_cons {part : List Char} {parts : List (List Char)} {state state' state'' : State}
    (hne : part ≠ []) (h : Takes part state state') (h' : Takes (spaced parts) state' state'') :
    Takes (spaced (part :: parts)) state state'' := by
  have hpart : part.isEmpty = false := List.isEmpty_eq_false_iff.mpr hne
  simp only [spaced, hpart, Bool.false_eq_true, if_false]
  split
  · next hempty =>
    rw [List.isEmpty_iff.mp hempty] at h'
    simpa using h.append h'
  · exact h.append ((blankLine state').append h')

theorem spaced_singleton {part : List Char} {state state' : State} (hne : part ≠ [])
    (h : Takes part state state') : Takes (spaced [part]) state state' := by
  have hpart : spaced [part] = part := by simp [spaced, hne]
  rwa [hpart]

end Takes

theorem joinNewlines_eq {cs : List Char} (h : '\r' ∉ cs) : joinNewlines cs = cs := by
  induction cs with
  | nil => rfl
  | cons c cs ih =>
    simp only [List.mem_cons, not_or] at h
    rw [joinNewlines, ih h.2]
    rintro _ rfl
    exact absurd rfl h.1

/-! ## Entries and headers -/

/-- The state in which the tables at some places have been opened, the current one first. -/
def State.having (table : Table) (places : List (List String)) : State where
  table := table
  header := places.headD []
  marks := places.map (·, .closed)

/-- **A whole file** leaves the table of the state that it ends in. -/
theorem read_of_takes {cs : List Char} {state : State} (h : Takes cs (.having [] []) state) :
    read cs = .ok state.table := by
  obtain ⟨⟨n, hn, hlines⟩, hreturn⟩ := h
  have hend : State.readLines (n + (cs.length - n + 1)) (.having [] []) (cs ++ []) = .ok state := by
    rw [hlines]
    rfl
  have hfuel : n + (cs.length - n + 1) = cs.length + 1 := by omega
  have hstart : State.having [] [] = {} := rfl
  rw [hfuel, List.append_nil, hstart] at hend
  rw [read, joinNewlines_eq hreturn, hend]
  rfl

theorem not_frozen (places : List (List String)) (place : List String) :
    Marks.has (places.map (·, .closed)) place .frozen = false := by
  simp [Marks.has]

theorem not_closed {places : List (List String)} {place : List String} (h : place ∉ places) :
    Marks.has (places.map (·, .closed)) place .closed = false := by
  simp only [Marks.has, List.any_map, List.any_eq_false, Function.comp, decide_true, Bool.true_and,
    Bool.or_eq_true, beq_iff_eq, Bool.and_eq_true, decide_eq_true_eq, reduceCtorEq, false_and,
    or_false]
  rintro p hp rfl
  exact h hp

theorem not_mem_keyText (key : String) : '\r' ∉ keyText key := by
  simp only [keyText]
  split
  · next hbare =>
    rw [isBareKey_eq, Bool.and_eq_true, List.all_eq_true] at hbare
    intro hmem
    have := hbare.2 _ hmem
    revert this
    decide
  · exact not_mem_escape _

theorem not_mem_dotted (path : List String) : '\r' ∉ dotted path := by
  induction path with
  | nil => simp [dotted]
  | cons key path ih =>
    cases path with
    | nil => exact not_mem_keyText key
    | cons next path => simp [dotted, not_mem_keyText, ih]

theorem not_mem_valueText {value : Value} (hplain : value.IsPlain) {text : List Char}
    (htext : valueText 0 value = .ok text) : '\r' ∉ text := by
  cases hplain with
  | string s =>
    simp only [valueText, Except.ok.injEq] at htext
    exact htext ▸ not_mem_escape _
  | natural n =>
    simp only [valueText] at htext
    split at htext
    · simp only [Except.ok.injEq] at htext
      subst htext
      intro hmem
      have : isDecimal '\r' = true := isDecimal_of_mem hmem
      cases this
    · cases htext
  | boolean truth =>
    cases truth <;> simp only [valueText, Except.ok.injEq] at htext <;> subst htext <;> decide

theorem readStatement_entry {cs rest after : List Char} {key : List String} {value : Value}
    {state state' : State} (hstart : StartsKey cs)
    (hkey : readKey cs.length cs = .ok (key, '=' :: rest))
    (hvalue : readValue (2 * rest.length + 2) (skipSpaces rest) = .ok (value, after))
    (hadd : state.addEntry key value = .ok state') :
    state.readStatement cs = .ok (state', after) := by
  obtain ⟨c, more, rfl, hc⟩ := hstart
  have hbracket : c ≠ '[' := by
    rintro rfl
    revert hc
    decide
  have hentry : (isBare c || c = '"' || c = '\'') = true := by
    rcases hc with hc | rfl
    · simp [hc]
    · decide
  simp only [State.readStatement, hbracket, if_false, hentry, if_true, hkey, hvalue, hadd]
  rfl

/-- The line of an entry adds it to the current table. -/
theorem takes_entry {key : String} {value : Value} (hplain : value.IsPlain) {text : List Char}
    (htext : valueText 0 value = .ok text) {table table' : Table} {path : List String}
    (hadd : table.update true (Table.add key value) path = .ok table') (places : List (List String)) :
    Takes (keyText key ++ ' ' :: '=' :: ' ' :: text ++ ['\n']) (.having table (path :: places))
      (.having table' (path :: places)) := by
  have hentry : (State.having table (path :: places)).addEntry [key] value =
      .ok (.having table' (path :: places)) := by
    have hfrozen := not_frozen (path :: places) path
    simp only [State.addEntry, State.having, between, List.headD_cons, List.length_singleton,
      Nat.sub_self, List.range_zero, List.map_nil, List.any_nil, Bool.false_eq_true, if_false,
      List.dropLast_singleton, List.append_nil, hfrozen, List.getLastD_cons, List.getLastD_nil, hadd,
      hplain.isCompound]
  refine .line (by simp [not_mem_keyText, not_mem_valueText hplain htext]) fun rest => ?_
  let after := ' ' :: (text ++ '\n' :: rest)
  have hshape : keyText key ++ ' ' :: '=' :: ' ' :: text ++ '\n' :: rest =
      dotted [key] ++ ' ' :: '=' :: after := by simp [after, dotted]
  have hstart : StartsKey (dotted [key] ++ ' ' :: '=' :: after) :=
    (startsKey_dotted key []).append _
  have hends : EndsKey (' ' :: '=' :: after) := ⟨_, _, rfl, by decide⟩
  have hskip : skipSpaces (' ' :: '=' :: after) = '=' :: after := rfl
  have hkey := readKey_dotted key [] hends (by simp [hskip])
  rw [hskip] at hkey
  rw [hshape, hstart.skipSpaces]
  exact readStatement_entry hstart hkey (readValue_valueText hplain htext _ rest) hentry

theorem entryLines_cons {e : String × Value} {entries : Table} (hplain : e.2.IsPlain)
    {lines : List Char} (h : entryLines (e :: entries) = .ok lines) :
    ∃ text more, valueText 0 e.2 = .ok text ∧ entryLines entries = .ok more ∧
      lines = keyText e.1 ++ ' ' :: '=' :: ' ' :: text ++ ['\n'] ++ more := by
  simp only [entryLines, hplain.isSection, Bool.false_eq_true, if_false] at h
  split at h
  · cases h
  · cases h
  · next text more htext hmore =>
    simp only [Except.ok.injEq] at h
    exact ⟨text, more, htext, hmore, by simp [← h]⟩

/-- The lines of entries add them to the current table, in order. -/
theorem takes_entries {e : String × Value} {entries : Table}
    (hplain : ∀ e' ∈ e :: entries, e'.2.IsPlain) {lines : List Char}
    (hlines : entryLines (e :: entries) = .ok lines) {table table' : Table} {path : List String}
    (hadd : table.update true (Table.addAll (e :: entries)) path = .ok table')
    (places : List (List String)) :
    Takes lines (.having table (path :: places)) (.having table' (path :: places)) := by
  induction entries generalizing e table lines with
  | nil =>
    obtain ⟨text, more, htext, hmore, rfl⟩ := entryLines_cons (hplain e List.mem_cons_self) hlines
    have hlast : Table.addAll [e] = Table.add e.1 e.2 := by
      funext t
      simp only [Table.addAll]
      cases Table.add e.1 e.2 t <;> rfl
    rw [hlast] at hadd
    simp only [entryLines, Except.ok.injEq] at hmore
    rw [← hmore, List.append_nil]
    exact takes_entry (hplain e List.mem_cons_self) htext hadd places
  | cons next entries ih =>
    obtain ⟨text, more, htext, hmore, rfl⟩ := entryLines_cons (hplain e List.mem_cons_self) hlines
    obtain ⟨between, hfirst, hrest⟩ := Table.update_bind hadd
    have hplain' : ∀ e' ∈ next :: entries, e'.2.IsPlain := fun e' he =>
      hplain e' (List.mem_cons_of_mem _ he)
    exact (takes_entry (hplain e List.mem_cons_self) htext hfirst places).append
      (ih hplain' hmore hrest)

/-- The header of a table opens it. -/
theorem takes_header {key : String} {path : List String} {places : List (List String)}
    (hnew : key :: path ∉ places) {table table' : Table}
    (hopen : table.update true .ok (key :: path) = .ok table') :
    Takes ('[' :: dotted (key :: path) ++ [']', '\n']) (.having table places)
      (.having table' ((key :: path) :: places)) := by
  have hopened : (State.having table places).openTable (key :: path) =
      .ok (.having table' ((key :: path) :: places)) := by
    have hfrozen := not_frozen places (key :: path)
    have hclosed := not_closed hnew
    simp only [State.openTable, State.having, hfrozen, hclosed, Bool.or_false, Bool.false_eq_true,
      if_false, hopen, Except.map, List.headD_cons, List.map_cons]
  have hshape : ∀ rest, '[' :: dotted (key :: path) ++ [']'] ++ '\n' :: rest =
      '[' :: (dotted (key :: path) ++ ']' :: '\n' :: rest) := by simp
  have hbreak : '[' :: dotted (key :: path) ++ [']', '\n'] =
      '[' :: dotted (key :: path) ++ [']'] ++ ['\n'] := by simp
  rw [hbreak]
  refine .line (by simp [not_mem_dotted]) fun rest => ?_
  have hstart : StartsKey (dotted (key :: path) ++ ']' :: '\n' :: rest) :=
    (startsKey_dotted key path).append _
  have hends : EndsKey (']' :: '\n' :: rest) := ⟨_, _, rfl, by decide⟩
  have hskip : skipSpaces (']' :: '\n' :: rest) = ']' :: '\n' :: rest := rfl
  have hkey := readKey_dotted key path hends (by simp [hskip])
  have hspace : isSpace '[' = false := by decide
  have hsettle : (State.having table places).settle = .having table places := rfl
  rw [hskip] at hkey
  have hitem : ∀ more, dotted (key :: path) ++ ']' :: '\n' :: rest ≠ '[' :: more := by
    obtain ⟨c, after, hcons, hc⟩ := hstart
    rw [hcons]
    rintro _ ⟨⟩
    revert hc
    decide
  rw [hshape, skipSpaces_cons hspace, State.readStatement, if_pos rfl, State.readHeader, hsettle,
    hstart.skipSpaces, hkey]
  · simp only [hopened]
  · exact fun more heq => hitem more heq

/-! ## Sections -/

/-- The text of a section: the header of a table, and the lines of its entries. -/
def sectionOf (path : List String) (lines : List Char) : List Char :=
  '[' :: dotted path ++ [']', '\n'] ++ lines

theorem sectionOf_ne_nil (path : List String) (lines : List Char) : sectionOf path lines ≠ [] := by
  simp [sectionOf]

/-- **A section** opens its table and adds its entries to it. -/
theorem takes_section {key : String} {path : List String} {places : List (List String)}
    (hnew : key :: path ∉ places) {entries : Table} (hne : entries ≠ [])
    (hplain : ∀ e ∈ entries, e.2.IsPlain) {lines : List Char}
    (hlines : entryLines entries = .ok lines) {table table' : Table}
    (hadd : table.update true (Table.addAll entries) (key :: path) = .ok table') :
    Takes (sectionOf (key :: path) lines) (.having table places)
      (.having table' ((key :: path) :: places)) := by
  obtain ⟨e, entries, rfl⟩ := List.exists_cons_of_ne_nil hne
  obtain ⟨opened, hopen, hentries⟩ := Table.update_bind (f := .ok) hadd
  exact (takes_header hnew hopen).append (takes_entries hplain hlines hentries places)

theorem belowTexts_plain (name : List Char) {entries : Table}
    (hplain : ∀ e ∈ entries, e.2.IsPlain) : belowTexts name entries = .ok [] := by
  induction entries with
  | nil => rfl
  | cons e entries ih =>
    have hrest := ih fun e' he => hplain e' (List.mem_cons_of_mem _ he)
    simp [belowTexts, (hplain e List.mem_cons_self).isSection, hrest]

/-- A table of plain entries is written as one section. -/
theorem sectionTexts_plain {path : List String} (hpath : path ≠ []) {entries : Table}
    (hne : entries ≠ []) (hplain : ∀ e ∈ entries, e.2.IsPlain) :
    sectionTexts (dotted path) false (.table entries) =
      (entryLines entries).map fun lines => [sectionOf path lines] := by
  obtain ⟨key, path, rfl⟩ := List.exists_cons_of_ne_nil hpath
  obtain ⟨c, more, hname, -⟩ := startsKey_dotted key path
  have hown : entries.any (fun e => !isSection e.2) = true := by
    obtain ⟨e, rest, rfl⟩ := List.exists_cons_of_ne_nil hne
    simp [(hplain e List.mem_cons_self).isSection]
  have hheader : headerText (dotted (key :: path)) false entries =
      '[' :: dotted (key :: path) ++ [']', '\n'] := by
    simp [headerText, hown, hname]
  simp only [sectionTexts, belowTexts_plain _ hplain, hheader]
  cases entryLines entries <;> simp [spaced, sectionOf, Except.map]

theorem entryLines_sections {entries : Table} (h : ∀ e ∈ entries, isSection e.2 = true) :
    entryLines entries = .ok [] := by
  induction entries with
  | nil => rfl
  | cons e entries ih =>
    simp only [entryLines, h e List.mem_cons_self, if_true]
    exact ih fun e' he => h e' (List.mem_cons_of_mem _ he)

/-- A table of tables has no header, but a section for each of its tables. -/
theorem sectionTexts_sections (name : List Char) {entries : Table} (hne : entries ≠ [])
    (h : ∀ e ∈ entries, isSection e.2 = true) :
    sectionTexts name false (.table entries) =
      (belowTexts name entries).map fun below => [spaced below] := by
  have hown : entries.any (fun e => !isSection e.2) = false := by
    rw [List.any_eq_false]
    intro e he
    simp [h e he]
  have hbelow : entries.any (fun e => isSection e.2) = true := by
    obtain ⟨e, rest, rfl⟩ := List.exists_cons_of_ne_nil hne
    simp [h e List.mem_cons_self]
  have hheader : headerText name false entries = [] := by
    simp [headerText, hown, hbelow]
  simp only [sectionTexts, entryLines_sections h, hheader]
  cases belowTexts name entries <;> simp [spaced, Except.map]

theorem belowTexts_cons (name : List Char) (key : String) {value : Value}
    (h : isSection value = true) (entries : Table) :
    belowTexts name ((key, value) :: entries) =
      (sectionTexts (sectionName name key) false value).bind fun texts =>
        (belowTexts name entries).map fun more => texts ++ more := by
  simp only [belowTexts, h, if_true]
  cases sectionTexts (sectionName name key) false value <;> cases belowTexts name entries <;> rfl

theorem entryLines_isOk {entries : Table}
    (h : ∀ e ∈ entries, ∃ text, valueText 0 e.2 = .ok text) :
    ∃ lines, entryLines entries = .ok lines := by
  induction entries with
  | nil => exact ⟨[], rfl⟩
  | cons e entries ih =>
    obtain ⟨text, htext⟩ := h e List.mem_cons_self
    obtain ⟨lines, hlines⟩ := ih fun e' he => h e' (List.mem_cons_of_mem _ he)
    simp only [entryLines, htext, hlines]
    split <;> exact ⟨_, rfl⟩

theorem sectionTexts_isOk {name : List Char} {entries : Table}
    (hlines : ∃ lines, entryLines entries = .ok lines)
    (hbelow : ∃ below, belowTexts name entries = .ok below) :
    ∃ texts, sectionTexts name false (.table entries) = .ok texts := by
  obtain ⟨lines, hlines⟩ := hlines
  obtain ⟨below, hbelow⟩ := hbelow
  refine ⟨[spaced ((headerText name false entries ++ lines) :: below)], ?_⟩
  simp only [sectionTexts, hlines, hbelow]

theorem belowTexts_isOk {name : List Char} {entries : Table}
    (hsections : ∀ e ∈ entries, isSection e.2 = true)
    (h : ∀ e ∈ entries, ∃ texts, sectionTexts (sectionName name e.1) false e.2 = .ok texts) :
    ∃ texts, belowTexts name entries = .ok texts := by
  induction entries with
  | nil => exact ⟨[], rfl⟩
  | cons e entries ih =>
    obtain ⟨here, hhere⟩ := h e List.mem_cons_self
    obtain ⟨more, hmore⟩ := ih (fun e' he => hsections e' (List.mem_cons_of_mem _ he))
      fun e' he => h e' (List.mem_cons_of_mem _ he)
    rw [belowTexts_cons name e.1 (hsections e List.mem_cons_self), hhere, hmore]
    exact ⟨_, rfl⟩

theorem belowTexts_plain_eq_ok {name : List Char} {key : String} {path : List String}
    (hname : sectionName name key = dotted path) (hpath : path ≠ []) {entries : Table}
    (hne : entries ≠ []) (hplain : ∀ e ∈ entries, e.2.IsPlain) {more : Table}
    {texts : List (List Char)} (h : belowTexts name ((key, .table entries) :: more) = .ok texts) :
    ∃ lines texts', entryLines entries = .ok lines ∧ belowTexts name more = .ok texts' ∧
      texts = sectionOf path lines :: texts' := by
  rw [belowTexts_cons name key rfl, hname, sectionTexts_plain hpath hne hplain] at h
  cases hlines : entryLines entries with
  | error e => simp [hlines, Except.map, Except.bind] at h
  | ok lines =>
    cases hmore : belowTexts name more with
    | error e => simp [hlines, hmore, Except.map, Except.bind] at h
    | ok texts' =>
      refine ⟨lines, texts', rfl, rfl, ?_⟩
      simpa [hlines, hmore, Except.map, Except.bind, eq_comm] using h

theorem belowTexts_sections_eq_ok {name : List Char} {key : String} {entries : Table}
    (hne : entries ≠ []) (hsections : ∀ e ∈ entries, isSection e.2 = true) {more : Table}
    {texts : List (List Char)} (h : belowTexts name ((key, .table entries) :: more) = .ok texts) :
    ∃ below texts', belowTexts (sectionName name key) entries = .ok below ∧
      belowTexts name more = .ok texts' ∧ texts = spaced below :: texts' := by
  rw [belowTexts_cons name key rfl, sectionTexts_sections _ hne hsections] at h
  cases hbelow : belowTexts (sectionName name key) entries with
  | error e => simp [hbelow, Except.map, Except.bind] at h
  | ok below =>
    cases hmore : belowTexts name more with
    | error e => simp [hbelow, hmore, Except.map, Except.bind] at h
    | ok texts' =>
      refine ⟨below, texts', rfl, rfl, ?_⟩
      simpa [hbelow, hmore, Except.map, Except.bind, eq_comm] using h

/-- A document of tables is written as their sections, with blank lines between them. -/
theorem write_eq_ok {table : Table} (hne : table ≠ [])
    (hsections : ∀ e ∈ table, isSection e.2 = true) {cs : List Char} (h : write table = .ok cs) :
    ∃ below, belowTexts [] table = .ok below ∧ cs = spaced below := by
  rw [write, sectionTexts_sections [] hne hsections] at h
  cases hbelow : belowTexts [] table with
  | error e => simp [hbelow, Except.map] at h
  | ok below =>
    refine ⟨below, rfl, ?_⟩
    simpa [hbelow, Except.map, eq_comm] using h

theorem spaced_ne_nil {part : List Char} (h : part ≠ []) (parts : List (List Char)) :
    spaced (part :: parts) ≠ [] := by
  have hpart : part.isEmpty = false := List.isEmpty_eq_false_iff.mpr h
  simp only [spaced, hpart, Bool.false_eq_true, if_false]
  split
  · exact h
  · simp

theorem sectionName_nil (key : String) : sectionName [] key = dotted [key] := rfl

theorem sectionName_dotted (key next : String) :
    sectionName (dotted [key]) next = dotted [key, next] := by
  obtain ⟨c, more, hcons, -⟩ := startsKey_keyText key
  simp [sectionName, dotted, hcons]

end SqlDesk.Toml
