/-
What saving the document of a window does.

A save writes the file, and the guard may then format the document and write the file once more;
each of the two writes may fail, and so may the formatting. `Standing` says how a window stands with
its file after the first write: what the file holds, that an unmodified document is just that, and
which boxes were seen. Every later step keeps it (`Standing.afterRun`, `Standing.attempted_error`,
`Standing.attempted_ok`, `Standing.shown`), and the law of the save is read off in the end.
-/
import SqlDesk.Window.Files
import SqlDesk.Proofs.Disk
import SqlDesk.Proofs.Format.Editor
import SqlDesk.Proofs.Format.SaveGuard

namespace SqlDesk

namespace Window

/-! ## The host of the guard -/

/-- A window as the host of the guard. -/
def saveHost : SaveHost Window Unit EditorDocument where
  command := command
  answers := fun window n => .ok (window.user.reply n)
  view := EditorDocument.view
  document := fun _ => document
  formatted := fun _ run window =>
    { window.withWidget run.document.widget with user := prompted window.user run.prompts }
  save := fun _ => write

theorem saveHooks_eq : saveHooks = saveHost.hooks := rfl

/-- The question that a prompt is shown as. -/
def question (prompt : Prompt) : Box :=
  .question prompt.title prompt.message

theorem prompted_seen (user : User) (prompts : List Prompt) :
    (prompted user prompts).seen = user.seen ++ prompts.map question := by
  induction prompts generalizing user with
  | nil => exact (List.append_nil _).symm
  | cons prompt prompts ih =>
    rw [prompted, List.foldl_cons, ← prompted, ih, List.map_cons, List.append_cons]
    rfl

theorem withWidget_eq (window : Window) (widget : TextWidget) :
    ∃ title, window.withWidget widget =
      { window with document.widget := widget, title := title } := by
  simp only [withWidget]
  split
  · exact ⟨window.title, rfl⟩
  · exact ⟨_, rfl⟩

theorem afterRun_eq (window : Window) :
    ∃ title, saveHost.afterRun () window =
      { window with
        document.widget := (saveHost.run () window).document.widget
        title := title
        user := prompted window.user (saveHost.run () window).prompts } := by
  obtain ⟨title, htitle⟩ := withWidget_eq window (saveHost.run () window).document.widget
  refine ⟨title, ?_⟩
  show ({ window.withWidget (saveHost.run () window).document.widget with
    user := prompted window.user (saveHost.run () window).prompts } : Window) = _
  rw [htitle]

/-! ## One write -/

/-- One attempt to write the document to its file: the outcome, and the window after it. -/
def attempted (window : Window) : Except FileError Unit × Window :=
  match window.store.disk.write window.document.path (Text.Utf8.encode window.document.text) with
  | (.error e, disk) => (.error e, { window with store.disk := disk })
  | (.ok (), disk) => (.ok (), { window with store.disk := disk }.written)

/-- A write is an attempt, of which the guard hears if it succeeds. -/
theorem write_eq (window : Window) : window.write =
    match window.attempted with
    | (.error e, after) => .done (.error (.file e)) after
    | (.ok (), after) => .notify () after fun _ window => .done (.ok ()) window := by
  cases hwrite : window.store.disk.write window.document.path
      (Text.Utf8.encode window.document.text) with
  | mk outcome disk => cases outcome <;> simp only [write, attempted, hwrite]

theorem write_of_error {window after : Window} {e : FileError}
    (h : window.attempted = (.error e, after)) :
    window.write = .done (.error (.file e)) after := by
  rw [write_eq, h]

theorem write_of_ok {window after : Window} (h : window.attempted = (.ok (), after)) :
    window.write = .notify () after fun _ window => .done (.ok ()) window := by
  rw [write_eq, h]

theorem quiet_of_error {window after : Window} {e : FileError}
    (h : window.attempted = (.error e, after)) :
    window.write.quiet = (.error (.file e), after) := by
  rw [write_of_error h, Saving.quiet]

theorem quiet_of_ok {window after : Window} (h : window.attempted = (.ok (), after)) :
    window.write.quiet = (.ok (), after) := by
  rw [write_of_ok h, Saving.quiet, Saving.quiet]

/-- An attempt fails and leaves all files as they were, or it puts the text into the file. -/
theorem attempted_cases (window : Window) :
    (∃ e disk, window.attempted = (.error e, { window with store.disk := disk }) ∧
        ∀ place, disk.entry? place = window.store.disk.entry? place) ∨
      ∃ disk, window.attempted = (.ok (), { window with store.disk := disk }.written) ∧
        window.store.disk.Written disk window.document.path
          (Text.Utf8.encode window.document.text) := by
  rcases Disk.write_cases window.store.disk window.document.path
      (Text.Utf8.encode window.document.text) with
    ⟨e, disk, hwrite, hsame⟩ | ⟨disk, hwrite, hwritten⟩
  · exact .inl ⟨e, disk, by simp only [attempted, hwrite], hsame⟩
  · exact .inr ⟨disk, by simp only [attempted, hwrite], hwritten⟩

theorem unchanged_of_error {window after : Window} {e : FileError}
    (h : window.attempted = (.error e, after)) :
    after.document = window.document ∧ after.user = window.user ∧
      ∀ place, after.store.disk.entry? place = window.store.disk.entry? place := by
  rcases window.attempted_cases with ⟨e', disk, hattempt, hsame⟩ | ⟨disk, hattempt, -⟩
  · obtain ⟨-, rfl⟩ := Prod.mk.inj (hattempt.symm.trans h)
    exact ⟨rfl, rfl, hsame⟩
  · cases hattempt.symm.trans h

/-! ## Standing with the file -/

/-- How a window stands with the file at a path: what the file holds, which boxes were seen, and
that a document without changes is what the file holds. -/
structure Standing (window : Window) (path : String) (held : List Char) (seen : List Box) :
    Prop where
  located : window.document.path = path
  holds : window.store.disk.read path = .ok (Text.Utf8.encode held)
  synced : window.document.widget.modified = false → window.document.text = held
  seen : window.user.seen = seen

namespace Standing

variable {window after : Window} {path : String} {held : List Char} {seen : List Box}

theorem attempted_ok (h : window.attempted = (.ok (), after)) :
    Standing after window.document.path window.document.text window.user.seen := by
  rcases window.attempted_cases with ⟨e, disk, hattempt, -⟩ | ⟨disk, hattempt, hwritten⟩
  · cases hattempt.symm.trans h
  · obtain ⟨-, rfl⟩ := Prod.mk.inj (hattempt.symm.trans h)
    exact ⟨rfl, hwritten.read, fun _ => rfl, rfl⟩

theorem attempted_error {e : FileError} (h : Standing window path held seen)
    (hattempt : window.attempted = (.error e, after)) : Standing after path held seen := by
  obtain ⟨hdocument, huser, hsame⟩ := unchanged_of_error hattempt
  refine ⟨hdocument ▸ h.located, (Disk.Grows.of_entries hsame).read h.holds, ?_, huser ▸ h.seen⟩
  rw [hdocument]
  exact h.synced

/-- Formatting leaves the file alone, and the document has changes if it was rewritten. -/
theorem afterRun (h : Standing window path held seen) :
    Standing (saveHost.afterRun () window) path held
      (seen ++ (saveHost.run () window).prompts.map question) := by
  obtain ⟨title, hafter⟩ := afterRun_eq window
  rw [hafter]
  refine ⟨h.located, h.holds, ?_, ?_⟩
  · intro hmodified
    rcases window.command.run_document EditorDocument.view
        (fun n => .ok (window.user.reply n)) window.document with hkept | ⟨span, text, hreplaced⟩
    · have hdocument : (saveHost.run () window).document = window.document := hkept
      rw [hdocument] at hmodified
      exact (congrArg EditorDocument.text hdocument).trans (h.synced hmodified)
    · have hdocument : (saveHost.run () window).document = _ := hreplaced
      rw [hdocument, EditorDocument.modified_replaceSpan] at hmodified
      cases hmodified
  · rw [← h.seen]
    exact prompted_seen _ _

theorem shown (h : Standing window path held seen) (box : Box) :
    Standing (window.shown box) path held (seen ++ [box]) :=
  ⟨h.located, h.holds, h.synced, congrArg (· ++ [box]) h.seen⟩

end Standing

/-! ## The tree of calls -/

/-- The calls of a save: its own first write, and what the guard calls. -/
abbrev Call : Type := GuardCall Window Unit EditorDocument

/-- The window after the guard has handled a notification: a failure is shown. -/
def told (window : Window) : Except Failure Unit → Window
  | .ok () => window
  | .error failure => window.shown (.warning "Format on save" (onSavedMessage failure))

/-- A save of a window, with its calls, what it returns and the window after it. Without the first
write there is no notification. -/
inductive Saves (window : Window) : List Call → Bool → Guarded Window → Prop
  | refused {e : FileError} {after : Window} (hattempt : window.attempted = (.error e, after)) :
      Saves window [.saved () window] false ⟨after.shown (.critical "Save failed" e.message), false⟩
  | accepted {between : Window} {calls : List Call} {outcome : Except Failure Unit}
      {after : Guarded Window} (hattempt : window.attempted = (.ok (), between))
      (hguard : Handled saveHost () ⟨between, false⟩ calls outcome after) :
      Saves window (.saved () window :: calls) true ⟨after.state.told outcome, after.inProgress⟩

/-- The guard never fails the save that notified it. -/
theorem onSaved_of_handled {guarded after : Guarded Window} {calls : List Call}
    {outcome : Except Failure Unit} (h : Handled saveHost () guarded calls outcome after) :
    onSaved () guarded = (.ok (), ⟨after.state.told outcome, after.inProgress⟩) := by
  have hguard := h.onSaved_eq
  rw [← saveHooks_eq] at hguard
  cases outcome <;> simp only [onSaved, hguard, told]

section

variable {window after between : Window} {calls : List Call} {returned : Bool}
  {guarded : Guarded Window}

theorem saves_iff_of_error {e : FileError} (h : window.attempted = (.error e, after)) :
    Saves window calls returned guarded ↔
      calls = [.saved () window] ∧ returned = false ∧
        guarded = ⟨after.shown (.critical "Save failed" e.message), false⟩ := by
  constructor
  · rintro (@⟨e', after', h'⟩ | ⟨h'⟩)
    · obtain ⟨he, rfl⟩ := Prod.mk.inj (h.symm.trans h')
      obtain rfl := Except.error.inj he
      exact ⟨rfl, rfl, rfl⟩
    · simp [h] at h'
  · rintro ⟨rfl, rfl, rfl⟩
    exact .refused h

theorem saves_iff_of_ok {made : List Call} {outcome : Except Failure Unit}
    {ended : Guarded Window} (h : window.attempted = (.ok (), between))
    (hguard : ∀ {calls outcome' after}, Handled saveHost () ⟨between, false⟩ calls outcome' after ↔
      calls = made ∧ outcome' = outcome ∧ after = ended) :
    Saves window calls returned guarded ↔
      calls = .saved () window :: made ∧ returned = true ∧
        guarded = ⟨ended.state.told outcome, ended.inProgress⟩ := by
  constructor
  · rintro (⟨h'⟩ | ⟨h', hhandled⟩)
    · simp [h] at h'
    · obtain ⟨-, rfl⟩ := Prod.mk.inj (h.symm.trans h')
      obtain ⟨rfl, rfl, rfl⟩ := hguard.mp hhandled
      exact ⟨rfl, rfl, rfl⟩
  · rintro ⟨rfl, rfl, rfl⟩
    exact .accepted h (hguard.mpr ⟨rfl, rfl, rfl⟩)

/-- The tree of calls ends as the save does. -/
theorem Saves.saveNow_eq (h : Saves window calls returned guarded) :
    saveNow ⟨window, false⟩ = (returned, guarded) := by
  cases h with
  | refused hattempt =>
    simp only [saveNow, write_of_error hattempt, Saving.run]
    rfl
  | accepted hattempt hguard =>
    simp only [saveNow, write_of_ok hattempt, Saving.run, onSaved_of_handled hguard]

theorem isFileError_of_write {failure : Failure} (handle : SavedHandler Window Unit)
    (h : (window.write.run handle false).1 = .error failure) : failure.isFileError = true := by
  cases hattempt : window.attempted with
  | mk outcome after =>
    cases outcome with
    | error e =>
      rw [write_of_error hattempt, Saving.run] at h
      obtain rfl := Except.error.inj h
      rfl
    | ok => simp [write_of_ok hattempt, Saving.run] at h

theorem onSaved_ok (guarded : Guarded Window) : (onSaved () guarded).1 = .ok () := by
  simp only [onSaved]
  split <;> rfl

end

/-! ## The law of a save -/

/-- The windows whose document was written, or was to be written, in this order. -/
def writes (calls : List Call) : List Window :=
  calls.filterMap fun
    | .formatted _ _ => none
    | .saved _ window => some window

/-- Whether a write of a window succeeds. -/
def isWritten (window : Window) : Bool :=
  window.attempted.1.isOk

theorem isWritten_of_ok {window after : Window} (h : window.attempted = (.ok (), after)) :
    window.isWritten = true := by
  rw [isWritten, h]
  rfl

theorem isWritten_of_error {window after : Window} {e : FileError}
    (h : window.attempted = (.error e, after)) : window.isWritten = false := by
  rw [isWritten, h]
  rfl

/-- The questions that were asked. -/
def questions (calls : List Call) : List Box :=
  (calls.flatMap GuardCall.prompts).map question

/-- What failed after the first write: the formatting, or the second write. -/
inductive FailsAfter (calls : List Call) : Failure → Prop
  | formatting {run : FormatRun EditorDocument} {failure : Failure}
      (hmem : .formatted () run ∈ calls) (hfailed : run.outcome = .error failure) :
      FailsAfter calls failure
  | writing {window : Window} {e : FileError} (hmem : window ∈ (writes calls).tail)
      (hfailed : window.attempted.1 = .error e) : FailsAfter calls (.file e)

theorem failsAfter_first {window : Window} {failure : Failure} :
    ¬ FailsAfter [.saved () window] failure := by
  rintro (⟨hmem⟩ | ⟨hmem⟩)
  · simp at hmem
  · simp [writes] at hmem

theorem failsAfter_formatted {window : Window} {run : FormatRun EditorDocument}
    {failure : Failure} :
    FailsAfter [.saved () window, .formatted () run] failure ↔ run.outcome = .error failure := by
  constructor
  · rintro (⟨hmem, hfailed⟩ | ⟨hmem⟩)
    · simp only [List.mem_cons, GuardCall.formatted.injEq, reduceCtorEq, List.not_mem_nil, true_and,
        false_or, or_false] at hmem
      rwa [← hmem]
    · simp [writes] at hmem
  · intro hfailed
    exact .formatting (List.mem_cons_of_mem _ List.mem_cons_self) hfailed

theorem failsAfter_saved {window second : Window} {run : FormatRun EditorDocument}
    {failure : Failure} {result : Outcome} (hrun : run.outcome = .ok result) :
    FailsAfter [.saved () window, .formatted () run, .saved () second] failure ↔
      ∃ e, second.attempted.1 = .error e ∧ failure = .file e := by
  constructor
  · rintro (⟨hmem, hfailed⟩ | ⟨hmem, hfailed⟩)
    · simp only [List.mem_cons, GuardCall.formatted.injEq, reduceCtorEq, List.not_mem_nil, true_and,
        false_or, or_false] at hmem
      simp [hmem, hrun] at hfailed
    · obtain rfl : _ = second := by simpa [writes] using hmem
      exact ⟨_, hfailed, rfl⟩
  · rintro ⟨e, hfailed, rfl⟩
    exact .writing (by simp [writes]) hfailed

/-- The law of a save. It returns whether the first write succeeded; what fails is caught. If that
write fails, all files and the document are as they were, and the error is shown. If it succeeds,
the file holds the text of the last write that did, a document that counts as unmodified has just
this text, and the user is warned once if formatting or the second write fails and never otherwise.
There are at most two writes and one question to the engine, and the flag of the guard is down. -/
structure SaveLaw (window : Window) (calls : List Call) (returned : Bool)
    (guarded : Guarded Window) : Prop where
  first : (writes calls).head? = some window
  returns : returned = true ↔ window.attempted.1 = .ok ()
  caught : ∀ failure, (window.write.run onSaved false).1 = .error failure →
    failure.isFileError = true
  heard : ∀ guarded : Guarded Window, (onSaved () guarded).1 = .ok ()
  refused : ∀ e, window.attempted.1 = .error e →
    writes calls = [window] ∧
    (∀ place, guarded.state.store.disk.file? place = window.store.disk.file? place) ∧
    guarded.state.document = window.document ∧
    guarded.state.user.seen = window.user.seen ++ [.critical "Save failed" e.message]
  holds : returned = true → ∃ last, ((writes calls).filter isWritten).getLast? = some last ∧
    guarded.state.store.disk.read window.document.path =
      .ok (Text.Utf8.encode last.document.text)
  synced : returned = true → guarded.state.document.widget.modified = false →
    guarded.state.store.disk.read window.document.path =
      .ok (Text.Utf8.encode guarded.state.document.text)
  warned : ∀ failure, FailsAfter calls failure → guarded.state.user.seen =
    window.user.seen ++ questions calls ++ [.warning "Format on save" (onSavedMessage failure)]
  unwarned : returned = true → (∀ failure, ¬ FailsAfter calls failure) →
    guarded.state.user.seen = window.user.seen ++ questions calls
  located : guarded.state.document.path = window.document.path
  writesTwice : (writes calls).length ≤ 2
  asksOnce : (calls.flatMap GuardCall.inputs).length ≤ 1
  lowered : guarded.inProgress = false

namespace SaveLaw

variable {window between : Window}

theorem of_refused {e : FileError} (h : window.attempted = (.error e, between)) :
    SaveLaw window [.saved () window] false
      ⟨between.shown (.critical "Save failed" e.message), false⟩ := by
  obtain ⟨hdocument, huser, hsame⟩ := unchanged_of_error h
  exact {
    first := rfl
    returns := by simp [h]
    caught := fun _ => isFileError_of_write onSaved
    heard := onSaved_ok
    refused := by
      intro e' he
      obtain rfl : e = e' := by simpa [h] using he
      refine ⟨rfl, fun place => ?_, hdocument, ?_⟩
      · simp only [Disk.file?, shown, hsame]
      · rw [← huser]
        rfl
    holds := by simp
    synced := by simp
    warned := fun _ hfails => absurd hfails failsAfter_first
    unwarned := by simp
    located := congrArg EditorDocument.path hdocument
    writesTwice := by simp [writes]
    asksOnce := by simp [GuardCall.inputs]
    lowered := rfl }

/-- The first write succeeds, and the guard leaves the window in some standing with the file. -/
theorem of_accepted {calls : List Call} {after : Window} (last : Window)
    (outcome : Except Failure Unit) (h : window.attempted = (.ok (), between))
    (hlast : ((window :: writes calls).filter isWritten).getLast? = some last)
    (hstanding : Standing after window.document.path last.document.text
      (window.user.seen ++ questions calls))
    (hwrites : (writes calls).length ≤ 1) (hinputs : (calls.flatMap GuardCall.inputs).length ≤ 1)
    (hfails : ∀ failure,
      FailsAfter (.saved () window :: calls) failure ↔ outcome = .error failure) :
    SaveLaw window (.saved () window :: calls) true ⟨after.told outcome, false⟩ := by
  have hquestions : questions (.saved () window :: calls) = questions calls := rfl
  -- a failure adds a box and nothing else
  have htold : ∃ seen, Standing (after.told outcome) window.document.path last.document.text
      seen := by
    cases outcome with
    | ok => exact ⟨_, hstanding⟩
    | error failure => exact ⟨_, hstanding.shown _⟩
  obtain ⟨seen, htold⟩ := htold
  exact {
    first := rfl
    returns := by simp [h]
    caught := fun _ => isFileError_of_write onSaved
    heard := onSaved_ok
    refused := by simp [h]
    holds := fun _ => ⟨last, hlast, htold.holds⟩
    synced := by
      intro _ hmodified
      rw [htold.synced hmodified]
      exact htold.holds
    warned := by
      intro failure hfailure
      obtain rfl := (hfails failure).mp hfailure
      rw [hquestions]
      exact (hstanding.shown _).seen
    unwarned := by
      intro _ hnone
      cases outcome with
      | ok => exact hstanding.seen
      | error failure => exact absurd ((hfails failure).mpr rfl) (hnone failure)
    located := htold.located
    writesTwice := Nat.succ_le_succ hwrites
    asksOnce := hinputs
    lowered := rfl }

theorem of_skip (h : window.attempted = (.ok (), between)) :
    SaveLaw window [.saved () window] true ⟨between, false⟩ := by
  have hstanding := Standing.attempted_ok h
  refine of_accepted window (.ok ()) h ?_ ?_ ?_ ?_ ?_
  · simp [writes, isWritten_of_ok h]
  · simpa [questions] using hstanding
  · simp [writes]
  · simp
  · simp [failsAfter_first]

section

variable {input : String} (h : window.attempted = (.ok (), between))
  (hinputs : (saveHost.run () between).inputs = [input])

include h hinputs

theorem of_raised {failure : Failure} (hrun : (saveHost.run () between).outcome = .error failure) :
    SaveLaw window [.saved () window, .formatted () (saveHost.run () between)] true
      ⟨(saveHost.afterRun () between).told (.error failure), false⟩ := by
  have hformatted := (Standing.attempted_ok h).afterRun
  refine of_accepted window _ h ?_ ?_ ?_ ?_ ?_
  · simp [writes, isWritten_of_ok h]
  · simpa [questions, GuardCall.prompts] using hformatted
  · simp [writes]
  · simp [GuardCall.inputs, hinputs]
  · simp [failsAfter_formatted, hrun]

variable {after : Window} {result : Outcome}
  (hrun : (saveHost.run () between).outcome = .ok result)

include hrun

theorem of_unwritten {e : FileError}
    (hsecond : (saveHost.afterRun () between).attempted = (.error e, after)) :
    SaveLaw window
      [.saved () window, .formatted () (saveHost.run () between),
        .saved () (saveHost.afterRun () between)] true
      ⟨after.told (.error (.file e)), false⟩ := by
  have hended := (Standing.attempted_ok h).afterRun.attempted_error hsecond
  refine of_accepted window _ h ?_ ?_ ?_ ?_ ?_
  · simp [writes, isWritten_of_ok h, isWritten_of_error hsecond]
  · simpa [questions, GuardCall.prompts] using hended
  · simp [writes]
  · simp [GuardCall.inputs, hinputs]
  · simp [failsAfter_saved hrun, hsecond, eq_comm]

theorem of_written (hsecond : (saveHost.afterRun () between).attempted = (.ok (), after)) :
    SaveLaw window
      [.saved () window, .formatted () (saveHost.run () between),
        .saved () (saveHost.afterRun () between)] true ⟨after, false⟩ := by
  have hformatted := (Standing.attempted_ok h).afterRun
  have hended := Standing.attempted_ok hsecond
  rw [hformatted.located, hformatted.seen] at hended
  refine of_accepted (saveHost.afterRun () between) (.ok ()) h ?_ ?_ ?_ ?_ ?_
  · simp [writes, isWritten_of_ok h, isWritten_of_ok hsecond]
  · simpa [questions, GuardCall.prompts] using hended
  · simp [writes]
  · simp [GuardCall.inputs, hinputs]
  · simp [failsAfter_saved hrun, hsecond]

end

end SaveLaw

/-- After the first write there is just one way on, and it keeps the law. -/
theorem exists_saveLaw {window between : Window} (h : window.attempted = (.ok (), between)) :
    ∃ calls outcome after,
      (∀ {calls' outcome' after'}, Handled saveHost () ⟨between, false⟩ calls' outcome' after' ↔
        calls' = calls ∧ outcome' = outcome ∧ after' = ⟨after, false⟩) ∧
      SaveLaw window (.saved () window :: calls) true ⟨after.told outcome, false⟩ := by
  by_cases hskip : saveHost.enabled between = false ∨ saveHost.isSql () between = false
  · exact ⟨_, _, _, handled_iff_of_skip hskip, .of_skip h⟩
  obtain ⟨henabled, hsql⟩ : saveHost.enabled between = true ∧ saveHost.isSql () between = true := by
    simpa using hskip
  obtain ⟨⟨input, hinputs⟩, -⟩ := SaveHost.run_of_isSql hsql
  cases hrun : (saveHost.run () between).outcome with
  | error failure =>
    exact ⟨_, _, _, handled_iff_of_error henabled hsql hrun, .of_raised h hinputs hrun⟩
  | ok result =>
    cases hsecond : (saveHost.afterRun () between).attempted with
    | mk second after =>
      cases second with
      | error e =>
        exact ⟨_, _, _, handled_iff_of_ok henabled hsql hrun (quiet_of_error hsecond),
          .of_unwritten h hinputs hrun hsecond⟩
      | ok =>
        exact ⟨_, _, _, handled_iff_of_ok henabled hsql hrun (quiet_of_ok hsecond),
          .of_written h hinputs hrun hsecond⟩

/-- **The law of a save** holds for every window whose document has a file, whatever the engine, the
user and the storage do: there is just one tree of calls, the save ends as it does, and it keeps the
law. -/
theorem saveLaw_save (window : Window) (chosen : String) (hpath : window.document.path ≠ "") :
    ∃ calls returned guarded,
      (∀ calls' returned' guarded', Saves window calls' returned' guarded' ↔
        calls' = calls ∧ returned' = returned ∧ guarded' = guarded) ∧
      save ⟨window, false⟩ chosen = (returned, guarded) ∧
      SaveLaw window calls returned guarded := by
  have hsave : save ⟨window, false⟩ chosen = saveNow ⟨window, false⟩ := if_neg hpath
  rw [hsave]
  cases hattempt : window.attempted with
  | mk first between =>
    cases first with
    | error e =>
      exact ⟨_, _, _, fun _ _ _ => saves_iff_of_error hattempt,
        ((saves_iff_of_error hattempt).mpr ⟨rfl, rfl, rfl⟩).saveNow_eq, .of_refused hattempt⟩
    | ok =>
      obtain ⟨calls, outcome, after, hguard, hlaw⟩ := exists_saveLaw hattempt
      exact ⟨_, _, _, fun _ _ _ => saves_iff_of_ok hattempt hguard,
        ((saves_iff_of_ok hattempt hguard).mpr ⟨rfl, rfl, rfl⟩).saveNow_eq, hlaw⟩

/-- A window that formats on save, on a disk that refuses the second write. -/
def flakyWindow : Window where
  store := ⟨{ writeRefusals := [false, true] }, "config", .factory, false⟩
  document := ⟨{ text := "select 1".toList, modified := true }, "query.sql"⟩
  command := Command.configured { options := { toggle := fun _ => true } }
    (some fun _ => .ok ⟨"SELECT 1", false⟩)
  editor := {}
  title := ""

theorem saveLaw_save_flakyWindow :
    flakyWindow.document.path ≠ "" ∧
      ∃ calls guarded, save ⟨flakyWindow, false⟩ "" = (true, guarded) ∧
        SaveLaw flakyWindow calls true guarded ∧
        guarded.state.document.text = "SELECT 1".toList ∧
        guarded.state.store.disk.file? ["query.sql"] =
          some (Text.Utf8.encode "select 1".toList) := by
  have hrun : (save ⟨flakyWindow, false⟩ "").1 = true ∧
      (save ⟨flakyWindow, false⟩ "").2.state.document.text = "SELECT 1".toList ∧
      (save ⟨flakyWindow, false⟩ "").2.state.store.disk.file? ["query.sql"] =
        some (Text.Utf8.encode "select 1".toList) := by
    decide +kernel
  obtain ⟨calls, returned, guarded, -, hsave, hlaw⟩ := saveLaw_save flakyWindow "" (by decide)
  rw [hsave] at hrun
  obtain ⟨hreturned, htext, hfile⟩ := hrun
  obtain rfl : returned = true := hreturned
  exact ⟨by decide, calls, guarded, hsave, hlaw, htext, hfile⟩

end Window

end SqlDesk
