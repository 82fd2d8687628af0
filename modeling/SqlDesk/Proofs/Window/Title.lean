/-
What the title of a window shows, and a document that could not be saved under another name.

The title is set anew when a document is opened or written and when the flag of the widget changes.
A document that is to be saved under another name has the new path before it is written. If the
write fails it keeps this path, and the title does not follow. So the title may show any path of the
document since it was last opened, written or made empty (`Shows`), and the present one if there was
no other.
-/
import SqlDesk.Proofs.Path
import SqlDesk.Proofs.Window.Session

namespace SqlDesk.Window

/-! ## The title -/

/-- The title shows whether the document has changes, and the name of one of some paths, among which
the document has its own. -/
structure Shows (window : Window) (paths : List String) : Prop where
  located : window.document.path ∈ paths
  titled : ∃ path ∈ paths, window.title = titleOf { window.document with path := path }

section

variable {window after : Window} {paths : List String}

theorem shows_of_titleOf (hlocated : window.document.path ∈ paths)
    (htitle : window.title = titleOf window.document) : window.Shows paths :=
  ⟨hlocated, _, hlocated, htitle⟩

theorem Shows.of_same (h : window.Shows paths) {more : List String} (hmore : paths ⊆ more)
    (hlocated : after.document.path ∈ more)
    (hmodified : after.document.widget.modified = window.document.widget.modified)
    (htitle : after.title = window.title) : after.Shows more := by
  obtain ⟨-, path, hmem, hshown⟩ := h
  refine ⟨hlocated, path, hmore hmem, ?_⟩
  rw [htitle, hshown]
  simp only [titleOf, hmodified]

theorem Shows.of_kept (h : window.Shows paths) (hpath : after.document.path = window.document.path)
    (hmodified : after.document.widget.modified = window.document.widget.modified)
    (htitle : after.title = window.title) : after.Shows paths :=
  h.of_same (fun _ hmem => hmem) (hpath ▸ h.located) hmodified htitle

theorem Shows.moved (h : window.Shows paths)
    (hmodified : after.document.widget.modified = window.document.widget.modified)
    (htitle : after.title = window.title) : after.Shows (after.document.path :: paths) :=
  h.of_same (List.subset_cons_self _ _) List.mem_cons_self hmodified htitle

theorem Shows.spared (h : window.Shows paths) (hspares : Spares window after) :
    after.Shows paths :=
  h.of_kept (congrArg EditorDocument.path hspares.document)
    (congrArg (fun document => document.widget.modified) hspares.document) hspares.title

theorem Shows.withWidget (h : window.Shows paths) (widget : TextWidget) :
    (window.withWidget widget).Shows paths := by
  simp only [Window.withWidget]
  split
  · next hmodified => exact h.of_kept rfl hmodified rfl
  · exact shows_of_titleOf h.located rfl

theorem Shows.attempted (h : window.Shows paths) : window.attempted.2.Shows paths := by
  rcases window.attempted_cases with ⟨e, disk, hattempt, -⟩ | ⟨disk, hattempt, -⟩
  · rw [hattempt]
    exact h.of_kept rfl rfl rfl
  · rw [hattempt]
    exact shows_of_titleOf h.located rfl

theorem shows_of_attempted (h : window.attempted = (.ok (), after)) :
    after.Shows [window.document.path] := by
  rcases window.attempted_cases with ⟨e, disk, hattempt, -⟩ | ⟨disk, hattempt, -⟩
  · cases hattempt.symm.trans h
  · obtain ⟨-, rfl⟩ := Prod.mk.inj (hattempt.symm.trans h)
    exact shows_of_titleOf List.mem_cons_self rfl

theorem Shows.afterRun (h : window.Shows paths) : (saveHost.afterRun () window).Shows paths := by
  show ({ window.withWidget (saveHost.run () window).document.widget with
    user := prompted window.user (saveHost.run () window).prompts } : Window).Shows paths
  exact (h.withWidget _).of_kept rfl rfl rfl

theorem Shows.quit (h : window.Shows paths) : window.quit.Shows paths := by
  obtain ⟨granted, user, hdiscard⟩ := window.mayDiscard_eq
  simp only [Window.quit, hdiscard]
  cases granted <;> exact h.of_kept rfl rfl rfl

theorem Shows.formatSql (h : window.Shows paths) : window.formatSql.2.Shows paths := by
  obtain ⟨status, hformat⟩ := formatSql_eq window
  rw [hformat]
  exact h.afterRun.of_kept rfl rfl rfl

theorem quiet_snd (window : Window) : window.write.quiet.2 = window.attempted.2 := by
  rcases hattempt : window.attempted with ⟨e | u, after⟩
  · rw [quiet_of_error hattempt]
  · rw [quiet_of_ok hattempt]

/-- A save whose first write succeeds leaves the path of the document in the title, whatever the
formatting and the second write do. -/
theorem shows_saveNow (h : window.attempted = (.ok (), after)) :
    (saveNow ⟨window, false⟩).1 = true ∧
      (saveNow ⟨window, false⟩).2.state.Shows [window.document.path] := by
  have hwritten := shows_of_attempted h
  obtain ⟨calls, outcome, ended, hguard, -⟩ := exists_saveLaw h
  have hhandled := hguard.mpr ⟨rfl, rfl, rfl⟩
  -- the guard does nothing, or it formats the document, or it writes it once more after that
  have hended : ended.Shows [window.document.path] := by
    cases hhandled with
    | skipped => exact hwritten
    | failed => exact hwritten.afterRun
    | @saved _ _ _ _ _ second _ _ _ hsave =>
      obtain ⟨-, -, rfl⟩ := (ran_inProgress_iff _).mp hsave
      show Shows (saveHost.afterRun () after).write.quiet.2 _
      rw [quiet_snd]
      exact hwritten.afterRun.attempted
  rw [(Saves.accepted h hhandled).saveNow_eq]
  refine ⟨rfl, ?_⟩
  cases outcome with
  | ok => exact hended
  | error failure => exact hended.of_kept rfl rfl rfl

end

/-! ## A save that fails -/

/-- What is left of a save to a path that the user chose, when it was not made: the files, the text,
its flag and the title are as they were. The document has the path, if one was chosen, and the next
save goes to it without asking. -/
structure Unsaved (window : Window) (chosen : String) (after : Window) : Prop where
  widget : after.document.widget = window.document.widget
  title : after.title = window.title
  files : ∀ place, after.store.disk.file? place = window.store.disk.file? place
  path : after.document.path = if chosen = "" then window.document.path else Path.resolve chosen
  next : chosen ≠ "" → ∀ chosen', save ⟨after, false⟩ chosen' = saveNow ⟨after, false⟩

variable {window : Window} {guarded : Guarded Window}

theorem saveNow_false (h : saveNow ⟨window, false⟩ = (false, guarded)) : ∃ disk user,
    guarded = ⟨{ window with store.disk := disk, user := user }, false⟩ ∧
      ∀ place, disk.file? place = window.store.disk.file? place := by
  rcases window.attempted_cases with ⟨e, disk, hattempt, hsame⟩ | ⟨disk, hattempt, -⟩
  · rw [(Saves.refused hattempt).saveNow_eq] at h
    obtain ⟨-, rfl⟩ := Prod.mk.inj h
    refine ⟨disk, _, rfl, fun place => ?_⟩
    simp only [Disk.file?, hsame]
  · have hsaved := (shows_saveNow hattempt).1
    rw [h] at hsaved
    cases hsaved

theorem unsaved_of_saveAs {chosen : String} (h : saveAs ⟨window, false⟩ chosen = (false, guarded)) :
    Unsaved window chosen guarded.state := by
  rw [saveAs_eq] at h
  split at h
  · next hchosen =>
    obtain ⟨-, rfl⟩ := Prod.mk.inj h
    exact ⟨rfl, rfl, fun _ => rfl, (if_pos hchosen).symm, fun hne => absurd hchosen hne⟩
  · next hchosen =>
    obtain ⟨disk, user, rfl, hfiles⟩ := saveNow_false h
    refine ⟨rfl, rfl, hfiles, (if_neg hchosen).symm, fun _ chosen' => ?_⟩
    exact if_neg (Path.resolve_ne_empty chosen)

/-! ## Sessions -/

namespace Session

variable {session : Session}

/-- The title shows one of the paths that the document has had since it was last opened, written or
made empty. -/
def Titled (session : Session) : Prop :=
  session.window.Shows session.paths

theorem titled_start (store : Store) (action : Action) : (start store action).Titled := by
  unfold Titled start window Window.opened
  rcases Hotkey.push (some Action.host) action store with ⟨reply, action⟩
  exact shows_of_titleOf List.mem_cons_self rfl

theorem titled_showing {window : Window} (h : window.Shows session.paths) :
    (session.showing window).Titled :=
  h

theorem Titled.opening (h : session.Titled) {window : Window} {text : Option (List Char)}
    (hopens : Opens session.window window text) : (session.opening window text).Titled := by
  cases hopens with
  | nothing hspares => exact titled_showing (Shows.spared h hspares)
  | text => exact shows_of_titleOf List.mem_cons_self rfl

/-- A save that fails leaves one more path that the title may show, and one that is done leaves the
path of the document alone. -/
theorem Titled.saving (h : session.Titled) {window : Window}
    (hmodified : window.document.widget.modified = session.window.document.widget.modified)
    (htitle : window.title = session.window.title) :
    (session.saving (saveNow ⟨window, false⟩)).Titled := by
  rcases hsave : saveNow ⟨window, false⟩ with ⟨returned, guarded⟩
  cases returned with
  | false =>
    obtain ⟨disk, user, rfl, -⟩ := saveNow_false hsave
    exact Shows.moved h hmodified htitle
  | true =>
    rcases window.attempted_cases with ⟨e, disk, hattempt, -⟩ | ⟨disk, hattempt, -⟩
    · rw [(Saves.refused hattempt).saveNow_eq] at hsave
      cases hsave
    · have hshows := (shows_saveNow hattempt).2
      rw [hsave] at hshows
      rw [← List.mem_singleton.mp hshows.located] at hshows
      exact hshows

theorem Titled.saveAs (h : session.Titled) (chosen : String) :
    (session.saving (Window.saveAs ⟨session.window, false⟩ chosen)).Titled := by
  rw [saveAs_eq]
  split
  · exact Shows.moved h rfl rfl
  · exact h.saving rfl rfl

theorem Titled.save (h : session.Titled) (chosen : String) :
    (session.saving (Window.save ⟨session.window, false⟩ chosen)).Titled := by
  rw [save_eq]
  split
  · exact h.saveAs chosen
  · exact h.saving rfl rfl

theorem Titled.act (h : session.Titled) (hsound : session.Sound) (event : Event) :
    (session.act event).Titled := by
  cases event with
  | type text => exact titled_showing (Shows.withWidget h _)
  | select anchor position => exact titled_showing (Shows.withWidget h _)
  | format => exact titled_showing (Shows.formatSql h)
  | save chosen =>
    rw [hsound.act_save]
    exact h.save chosen
  | saveAs chosen =>
    rw [hsound.act_saveAs]
    exact h.saveAs chosen
  | new => exact h.opening (opens_new session.window)
  | openFile chosen => exact h.opening (opens_openFile session.window chosen)
  | load path =>
    have hload := h.opening (opens_load session.window path)
    exact hload
  | options actions =>
    exact titled_showing (Shows.spared h (session.window.spares_showOptions actions))
  | quit => exact titled_showing (Shows.quit h)
  | meet store user command action => exact titled_showing (Shows.of_kept h rfl rfl rfl)

theorem Titled.run (h : session.Titled) (hsound : session.Sound) (events : List Event) :
    (session.run events).Titled := by
  induction events generalizing session with
  | nil => exact h
  | cons event events ih => exact ih (h.act hsound event) (hsound.act event)

theorem Reached.titled (h : session.Reached) : session.Titled := by
  obtain ⟨store, action, events, rfl⟩ := h
  exact (titled_start store action).run (sound_start store action) events

/-- **The title, and what a Save As that fails leaves.** In a session the title shows the flag of the
document and the name of a path that the document has had since it was last opened, written or made
empty; it is the title for the document if there was no other path. A Save As that returns that
nothing was saved leaves the text, its flag, the title and all files as they were, and the path too
if the box was closed. If a path was chosen, the document keeps it and later saves go there. -/
theorem Reached.saveAs_failed (h : session.Reached) :
    session.window.Shows session.paths ∧
      ((∀ path ∈ session.paths, path = session.window.document.path) →
        session.window.title = titleOf session.window.document) ∧
      ∀ chosen guarded, Window.saveAs session.guarded chosen = (false, guarded) →
        Unsaved session.window chosen guarded.state := by
  refine ⟨h.titled, fun hpaths => ?_, fun chosen guarded hsave => ?_⟩
  · obtain ⟨-, path, hmem, htitle⟩ := h.titled
    rw [htitle, hpaths path hmem]
  · rw [h.sound.guarded_eq] at hsave
    exact unsaved_of_saveAs hsave

/-- A text is typed that was never saved. -/
def typedSession : Session :=
  (start Store.emptyStore {}).run [.type "select 1".toList]

theorem Reached.saveAs_failed_typedSession :
    typedSession.Reached ∧ typedSession.window.title = "*Untitled - SqlTidy" ∧
      ∃ guarded, Window.saveAs typedSession.guarded "missing/query.sql" = (false, guarded) ∧
        Unsaved typedSession.window "missing/query.sql" guarded.state := by
  have hreached : typedSession.Reached := ⟨_, _, _, rfl⟩
  have hreturned : (Window.saveAs typedSession.guarded "missing/query.sql").1 = false := by
    decide +kernel
  rcases hsave : Window.saveAs typedSession.guarded "missing/query.sql" with ⟨returned, guarded⟩
  rw [hsave] at hreturned
  obtain rfl : returned = false := hreturned
  obtain ⟨-, htitle, hfailed⟩ := hreached.saveAs_failed
  have hpaths : typedSession.paths = [typedSession.window.document.path] := by decide +kernel
  refine ⟨hreached, ?_, guarded, rfl, hfailed _ _ hsave⟩
  rw [htitle (by simp [hpaths])]
  decide +kernel

/-- **A Save As that fails moves the document.** The file cannot be written where the user wants it;
the document has this path nevertheless, and the title does not show it. -/
theorem saveAs_strays :
    ∃ guarded, Window.saveAs typedSession.guarded "missing/query.sql" = (false, guarded) ∧
      typedSession.window.document.path = "" ∧
      guarded.state.document.path = "missing/query.sql" ∧
      (typedSession.act (.saveAs "missing/query.sql")).Reached ∧
      (typedSession.act (.saveAs "missing/query.sql")).window = guarded.state ∧
      guarded.state.title = "*Untitled - SqlTidy" ∧
      titleOf guarded.state.document = "*query.sql - SqlTidy" := by
  have hreached : typedSession.Reached := ⟨_, _, _, rfl⟩
  have hreturned : (Window.saveAs typedSession.guarded "missing/query.sql").1 = false := by
    decide +kernel
  have hafter : (Window.saveAs typedSession.guarded "missing/query.sql").2.state.document.path =
        "missing/query.sql" ∧
      (Window.saveAs typedSession.guarded "missing/query.sql").2.state.title =
        "*Untitled - SqlTidy" ∧
      titleOf (Window.saveAs typedSession.guarded "missing/query.sql").2.state.document =
        "*query.sql - SqlTidy" := by
    decide +kernel
  rcases hsave : Window.saveAs typedSession.guarded "missing/query.sql" with ⟨returned, guarded⟩
  rw [hsave] at hreturned hafter
  obtain rfl : returned = false := hreturned
  obtain ⟨hpath, htitle, hname⟩ := hafter
  refine ⟨guarded, rfl, by decide +kernel, hpath, hreached.act _, ?_, htitle, hname⟩
  simp only [Session.act, hsave]
  rfl

end Session

end SqlDesk.Window
