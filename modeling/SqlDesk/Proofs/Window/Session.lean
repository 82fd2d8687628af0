/-
A session at a window never gives up changes of the text unasked.

A session is a run of whatever a user does with a window; between two actions storage, the answers
of the user and the format command may be exchanged for any others. It remembers the text that the
document last had in common with a file, or that was made empty. The invariant (`Sound`) is that a
document that counts as unmodified is just this text. Typing and formatting raise the flag
(`afterRun_document`), so a save is the one step that needs an argument: the law of the save has it.
New, Open and Quit ask before they give up a document with the flag up, which is all that the last
theorem adds.
-/
import SqlDesk.Proofs.Window.Save
import SqlDesk.Proofs.Window.Options

namespace SqlDesk

theorem TextWidget.select_kept (widget : TextWidget) (anchor position : Int) :
    (widget.select anchor position).text = widget.text ∧
      (widget.select anchor position).modified = widget.modified := by
  have hmove : (widget.moveTo anchor).text = widget.text ∧
      (widget.moveTo anchor).modified = widget.modified := by
    unfold TextWidget.moveTo
    split <;> exact ⟨rfl, rfl⟩
  rw [← hmove.1, ← hmove.2]
  unfold TextWidget.select TextWidget.extendTo
  split <;> exact ⟨rfl, rfl⟩

namespace Window

/-! ## Formatting and saving -/

/-- Formatting leaves the document as it was, or with changes. -/
theorem afterRun_document (window : Window) :
    (saveHost.afterRun () window).document = window.document ∨
      (saveHost.afterRun () window).document.widget.modified = true := by
  obtain ⟨title, hafter⟩ := afterRun_eq window
  rw [hafter]
  rcases window.command.run_document EditorDocument.view
      (fun n => .ok (window.user.reply n)) window.document with hkept | ⟨span, text, hreplaced⟩
  · have hdocument : (saveHost.run () window).document = window.document := hkept
    left
    rw [hdocument]
  · have hdocument : (saveHost.run () window).document = _ := hreplaced
    right
    rw [hdocument]
    exact EditorDocument.modified_replaceSpan _ _ _

/-- Whatever becomes of the formatting, the window is as after the run of the command but for its
status line. -/
theorem formatSql_eq (window : Window) : ∃ status, window.formatSql.2 =
    { saveHost.afterRun () window with status := status } := by
  have hrun : window.runCommand.2 = saveHost.afterRun () window := rfl
  unfold formatSql
  rcases hcommand : window.runCommand with ⟨e | outcome, after⟩
  · rw [hcommand] at hrun
    exact ⟨after.status, by rw [← hrun]⟩
  · rw [hcommand] at hrun
    exact ⟨outcomeStatus outcome, by rw [← hrun]; rfl⟩

/-- A save comes to its end and keeps its law. -/
theorem saveNow_law (window : Window) : ∃ calls returned guarded,
    saveNow ⟨window, false⟩ = (returned, guarded) ∧ SaveLaw window calls returned guarded := by
  rcases hattempt : window.attempted with ⟨e | u, between⟩
  · exact ⟨_, _, _, (Saves.refused hattempt).saveNow_eq, .of_refused hattempt⟩
  · obtain ⟨calls, outcome, after, hguard, hlaw⟩ := exists_saveLaw hattempt
    have hhandled := hguard.mpr ⟨rfl, rfl, rfl⟩
    exact ⟨_, _, _, (Saves.accepted hattempt hhandled).saveNow_eq, hlaw⟩

/-! ## Giving up changes -/

/-- The question whether unsaved changes may be given up. -/
def discardQuestion : Box := .question "Unsaved changes" "Discard unsaved changes?"

/-- The user was asked first whether unsaved changes may be given up, and said yes. -/
def Discards (window after : Window) : Prop :=
  window.user.reply 0 = true ∧ window.user.seen ++ [discardQuestion] <+: after.user.seen

/-- The document and the title are what they were, and the window was not closed. -/
structure Spares (window after : Window) : Prop where
  document : after.document = window.document
  title : after.title = window.title
  closed : after.closed = window.closed

theorem Spares.trans {window between after : Window} (h : Spares window between)
    (h' : Spares between after) : Spares window after :=
  ⟨h'.document.trans h.document, h'.title.trans h.title, h'.closed.trans h.closed⟩

theorem spares_shown (window : Window) (box : Box) : Spares window (window.shown box) :=
  ⟨rfl, rfl, rfl⟩

/-- The window after that question was asked. -/
def asked (window : Window) : Window :=
  { window with user := ⟨window.user.seen ++ [discardQuestion], window.user.answers.tail⟩ }

theorem spares_asked (window : Window) : Spares window window.asked :=
  ⟨rfl, rfl, rfl⟩

section

variable {window : Window}

theorem mayDiscard_of_unmodified (h : window.document.widget.modified = false) :
    window.mayDiscard = (true, window) := by
  simp [mayDiscard, h]

theorem mayDiscard_of_modified (h : window.document.widget.modified = true) :
    window.mayDiscard = (window.user.reply 0, window.asked) := by
  simp only [mayDiscard, h, if_true]
  rfl

theorem mayDiscard_eq (window : Window) : ∃ granted user,
    window.mayDiscard = (granted, { window with user := user }) := by
  cases hmodified : window.document.widget.modified with
  | false => exact ⟨_, _, mayDiscard_of_unmodified hmodified⟩
  | true => exact ⟨_, _, mayDiscard_of_modified hmodified⟩

theorem load_of_error {path : String} {e : Failure}
    (h : readText window.store.disk path = .error e) :
    window.load path = (false, window.shown (.critical "Open failed" e.message)) := by
  unfold load
  rw [h]

theorem load_of_ok {path : String} {text : List Char}
    (h : readText window.store.disk path = .ok text) : window.load path =
      (true, (window.holding text (Path.resolve path)).noted ("Opened: " ++ path)) := by
  unfold load
  rw [h]

/-- The window after the user chose a file to open, or closed the box. -/
def choosing (window : Window) (chosen : String) : Window :=
  let window := window.shown (.openFile "Open SQL File" "")
  if chosen = "" then window else (window.load chosen).2

theorem openFile_of_refused {after : Window} (h : window.mayDiscard = (false, after))
    (chosen : String) : window.openFile chosen = after := by
  simp only [openFile, h]

theorem openFile_of_granted {after : Window} (h : window.mayDiscard = (true, after))
    (chosen : String) : window.openFile chosen = after.choosing chosen := by
  simp only [openFile, h]
  rfl

theorem seen_choosing (window : Window) (chosen : String) :
    window.user.seen <+: (window.choosing chosen).user.seen := by
  simp only [choosing]
  split
  · exact List.prefix_append _ _
  · cases hread : readText window.store.disk chosen with
    | error e =>
      rw [@load_of_error (window.shown _) _ _ hread]
      exact (List.prefix_append _ _).trans (List.prefix_append _ _)
    | ok text =>
      rw [@load_of_ok (window.shown _) _ _ hread]
      exact List.prefix_append _ _

/-- The text that is opened when a user chose a file, if the document may be given up for it. -/
def chosenText (window : Window) (chosen : String) : Option (List Char) :=
  if window.mayDiscard.1 && chosen ≠ "" then (readText window.store.disk chosen).toOption else none

/-- What a window has when a text was to be opened in it: that text and the title for it, or what it
had before. -/
inductive Opens (window : Window) : Window → Option (List Char) → Prop
  | nothing {after : Window} (hspares : Spares window after) : Opens window after none
  | text (text : List Char) (path : String) (user : User) (status : String) :
      Opens window { window.holding text path with user := user, status := status } (some text)

theorem Opens.spares {after : Window} {text : Option (List Char)} (h : Opens window after text)
    (hnone : text = none) : Spares window after := by
  cases h with
  | nothing hspares => exact hspares
  | text => cases hnone

theorem Opens.of_user {after : Window} {user : User} {text : Option (List Char)}
    (h : Opens { window with user := user } after text) : Opens window after text := by
  cases h with
  | nothing hspares => exact .nothing ⟨hspares.document, hspares.title, hspares.closed⟩
  | text text path user status => exact .text text path user status

theorem opens_load (window : Window) (path : String) :
    Opens window (window.load path).2 (readText window.store.disk path).toOption := by
  cases hread : readText window.store.disk path with
  | error e =>
    rw [load_of_error hread]
    exact .nothing (window.spares_shown _)
  | ok text =>
    rw [load_of_ok hread]
    exact .text text (Path.resolve path) window.user ("Opened: " ++ path)

theorem opens_new (window : Window) :
    Opens window window.new (if window.mayDiscard.1 then some [] else none) := by
  obtain ⟨granted, user, hdiscard⟩ := window.mayDiscard_eq
  simp only [Window.new, hdiscard]
  cases granted with
  | false => exact .nothing ⟨rfl, rfl, rfl⟩
  | true => exact .text [] "" user window.status

theorem opens_openFile (window : Window) (chosen : String) :
    Opens window (window.openFile chosen) (window.chosenText chosen) := by
  obtain ⟨granted, user, hdiscard⟩ := window.mayDiscard_eq
  rw [chosenText, hdiscard]
  cases granted with
  | false =>
    rw [openFile_of_refused hdiscard]
    exact .nothing ⟨rfl, rfl, rfl⟩
  | true =>
    rw [openFile_of_granted hdiscard, choosing]
    by_cases hchosen : chosen = ""
    · simp only [hchosen, if_true, ne_eq, not_true, decide_false, Bool.and_false]
      exact .nothing ⟨rfl, rfl, rfl⟩
    · simp only [hchosen, if_false, ne_eq, not_false_iff, decide_true, Bool.and_true, if_true]
      exact .of_user (opens_load _ chosen)

theorem load_failed {path : String} (h : (window.load path).1 = false) :
    Spares window (window.load path).2 := by
  refine (opens_load window path).spares ?_
  cases hread : readText window.store.disk path with
  | error e => rfl
  | ok text => simp [load_of_ok hread] at h

/-- A file that is chosen and cannot be opened leaves the document as it was, whether the user was
asked about changes before or not, and so does a box that is closed. -/
theorem openFile_failed {chosen : String}
    (h : chosen = "" ∨ ∃ e, readText window.store.disk chosen = .error e) :
    Spares window (window.openFile chosen) := by
  refine (opens_openFile window chosen).spares ?_
  rcases h with rfl | ⟨e, hread⟩
  · simp [chosenText]
  · simp [chosenText, hread, Except.toOption]

/-- The three actions that can give up a document. -/
inductive Leaving (window : Window) : Window → Prop
  | new : Leaving window window.new
  | openFile (chosen : String) : Leaving window (window.openFile chosen)
  | quit : Leaving window window.quit

/-- A document with changes is left as it is, or the user allowed to give it up. -/
theorem Leaving.asks {after : Window} (h : Leaving window after)
    (hmodified : window.document.widget.modified = true) :
    Spares window after ∨ Discards window after := by
  have hasked := mayDiscard_of_modified hmodified
  cases hreply : window.user.reply 0 with
  | false =>
    rw [hreply] at hasked
    left
    cases h with
    | new =>
      simp only [Window.new, hasked]
      exact window.spares_asked
    | openFile chosen =>
      rw [openFile_of_refused hasked]
      exact window.spares_asked
    | quit =>
      simp only [Window.quit, hasked]
      exact window.spares_asked
  | true =>
    rw [hreply] at hasked
    refine .inr ⟨hreply, ?_⟩
    cases h with
    | new =>
      simp only [Window.new, hasked]
      exact List.prefix_rfl
    | quit =>
      simp only [Window.quit, hasked]
      exact List.prefix_rfl
    | openFile chosen =>
      rw [openFile_of_granted hasked]
      exact seen_choosing window.asked chosen

end

/-! ## Sessions -/

/-- What happens in a session. File boxes come with the path that they are answered with; `meet`
puts storage, the user, the format command and its action into any state. -/
inductive Event where
  | type (text : List Char)
  | select (anchor position : Int)
  | format
  | save (chosen : String)
  | saveAs (chosen : String)
  | new
  | openFile (chosen : String)
  | load (path : String)
  | options (actions : List DialogAction)
  | quit
  | meet (store : Store) (user : User) (command : Command) (action : Action)

/-- A window in the course of a session, with the text that was last opened, written or made empty,
and the paths that the document has had since then, the present one first. -/
structure Session where
  guarded : Guarded Window
  synced : List Char := []
  paths : List String := [""]

/-- The text that a file holds, if it can be read. -/
def textIn (disk : Disk) (path : String) : Option (List Char) :=
  match disk.read path with
  | .error _ => none
  | .ok bytes => (Text.Utf8.decode bytes).toOption

namespace Session

/-- The window of a session. -/
abbrev window (session : Session) : Window := session.guarded.state

/-- The session with another window, of which nothing else is remembered. -/
def showing (session : Session) (window : Window) : Session :=
  { session with guarded.state := window }

/-- The session with another window, in which a text was opened or made empty, or none was. -/
def opening (session : Session) (window : Window) : Option (List Char) → Session
  | none => session.showing window
  | some text =>
    { session.showing window with synced := text, paths := [window.document.path] }

/-- The session after a save: if that was done, the text is what the file of the document holds. -/
def saving (session : Session) : Bool × Guarded Window → Session
  | (true, guarded) =>
    let path := guarded.state.document.path
    ⟨guarded, (textIn guarded.state.store.disk path).getD session.synced, [path]⟩
  | (false, guarded) =>
    { session with guarded := guarded, paths := guarded.state.document.path :: session.paths }

/-- The session after something happened. -/
def act (session : Session) : Event → Session
  | .type text => session.showing (session.window.type text)
  | .select anchor position => session.showing (session.window.select anchor position)
  | .format => session.showing session.window.formatSql.2
  | .save chosen => session.saving (Window.save session.guarded chosen)
  | .saveAs chosen => session.saving (Window.saveAs session.guarded chosen)
  | .new => session.opening session.window.new (if session.window.mayDiscard.1 then some [] else none)
  | .openFile chosen =>
    session.opening (session.window.openFile chosen) (session.window.chosenText chosen)
  | .load path =>
    session.opening (session.window.load path).2
      (readText session.window.store.disk path).toOption
  | .options actions => session.showing (session.window.showOptions actions).2
  | .quit => session.showing session.window.quit
  | .meet store user command action =>
    session.showing { session.window with store, user, command, action }

/-- The session when a window was opened. -/
def start (store : Store) (action : Action) : Session :=
  { guarded := ⟨Window.opened store action, false⟩ }

/-- The session after several things happened. -/
def run (session : Session) (events : List Event) : Session :=
  events.foldl act session

end Session

/-! ## What an action keeps -/

/-- A document that counts as unmodified is a given text. -/
def Synced (window : Window) (text : List Char) : Prop :=
  window.document.widget.modified = false → window.document.text = text

section

variable {window after : Window} {text : List Char}

theorem Synced.of_document (h : Synced window text) (hdocument : after.document = window.document) :
    Synced after text := by
  rw [Synced, hdocument]
  exact h

theorem Synced.of_modified (h : window.document.widget.modified = true) : Synced window text := by
  intro hmodified
  cases h.symm.trans hmodified

theorem withWidget_widget (window : Window) (widget : TextWidget) :
    (window.withWidget widget).document.widget = widget := by
  obtain ⟨title, hwidget⟩ := withWidget_eq window widget
  rw [hwidget]

theorem synced_type (window : Window) (typed : List Char) : Synced (window.type typed) text := by
  refine .of_modified ?_
  rw [type, withWidget_widget]
  rfl

theorem Synced.select (h : Synced window text) (anchor position : Int) :
    Synced (window.select anchor position) text := by
  obtain ⟨htext, hmodified⟩ := TextWidget.select_kept window.document.widget anchor position
  rw [Synced, EditorDocument.text, Window.select, withWidget_widget, htext, hmodified]
  exact h

theorem Synced.formatSql (h : Synced window text) : Synced window.formatSql.2 text := by
  obtain ⟨status, hformat⟩ := formatSql_eq window
  rw [hformat]
  rcases window.afterRun_document with hkept | hmodified
  · exact h.of_document hkept
  · exact .of_modified hmodified

theorem spares_pullHotkey (window : Window) : Spares window window.pullHotkey := by
  obtain ⟨user, hpull⟩ := window.pullHotkey_eq
  rw [hpull]
  exact ⟨rfl, rfl, rfl⟩

theorem spares_accepted (window : Window) (status : String) :
    Spares window (window.pushHotkey.refreshed.noted status) := by
  obtain ⟨action, user, hpush⟩ := window.pushHotkey_eq
  rw [hpush]
  exact ⟨rfl, rfl, rfl⟩

theorem spares_showOptions (window : Window) (actions : List DialogAction) :
    Spares window (window.showOptions actions).2 := by
  have hpulled := window.spares_pullHotkey
  unfold showOptions
  generalize window.pullHotkey = pulled at hpulled ⊢
  dsimp only
  split
  · exact hpulled
  · refine hpulled.trans ?_
    split
    · refine Spares.trans ?_ (spares_accepted _ _)
      exact ⟨rfl, rfl, rfl⟩
    · exact ⟨rfl, rfl, rfl⟩

theorem document_quit (window : Window) : window.quit.document = window.document := by
  cases hmodified : window.document.widget.modified with
  | false => simp only [quit, mayDiscard_of_unmodified hmodified]
  | true =>
    simp only [quit, mayDiscard_of_modified hmodified]
    cases window.user.reply 0 <;> rfl

end

/-! ## The invariant -/

/-- The window after the user was asked for a path to save the document to. -/
def askedPath (window : Window) : Window :=
  window.shown (.saveFile "Save SQL File"
    (if window.document.path = "" then "query.sql" else window.document.path))

/-- The window whose document is to be saved to a path that the user chose. -/
def moved (window : Window) (chosen : String) : Window :=
  { window.askedPath with document.path := Path.resolve chosen }

theorem saveAs_eq (window : Window) (chosen : String) : saveAs ⟨window, false⟩ chosen =
    if chosen = "" then (false, ⟨window.askedPath, false⟩)
    else saveNow ⟨window.moved chosen, false⟩ := rfl

theorem save_eq (window : Window) (chosen : String) : save ⟨window, false⟩ chosen =
    if window.document.path = "" then saveAs ⟨window, false⟩ chosen
    else saveNow ⟨window, false⟩ := rfl

/-- What is said about the bytes of a file is what the file says about its text. -/
theorem textIn_of_read {disk : Disk} {path : String} {text : List Char}
    (h : disk.read path = .ok (Text.Utf8.encode text)) : textIn disk path = some text := by
  simp only [textIn, h, Text.Utf8.decode_encode]
  rfl

namespace Session

/-- The flag of the guard is down, and a document without changes is what was last opened, written or
made empty. -/
structure Sound (session : Session) : Prop where
  lowered : session.guarded.inProgress = false
  synced : session.window.Synced session.synced

variable {session : Session}

theorem Sound.guarded_eq (h : session.Sound) : session.guarded = ⟨session.window, false⟩ := by
  rw [← h.lowered]

theorem Sound.act_save (h : session.Sound) (chosen : String) : session.act (.save chosen) =
    session.saving (Window.save ⟨session.window, false⟩ chosen) := by
  rw [← h.guarded_eq]
  rfl

theorem Sound.act_saveAs (h : session.Sound) (chosen : String) : session.act (.saveAs chosen) =
    session.saving (Window.saveAs ⟨session.window, false⟩ chosen) := by
  rw [← h.guarded_eq]
  rfl

theorem sound_start (store : Store) (action : Action) : (start store action).Sound := by
  refine ⟨rfl, fun _ => ?_⟩
  unfold start window Window.opened
  rcases Hotkey.push (some Action.host) action store with ⟨reply, action⟩
  rfl

theorem Sound.showing (h : session.Sound) {window : Window} (hsynced : window.Synced session.synced) :
    (session.showing window).Sound :=
  ⟨h.lowered, hsynced⟩

theorem Sound.opening (h : session.Sound) {window : Window} {text : Option (List Char)}
    (hopens : Opens session.window window text) : (session.opening window text).Sound := by
  cases hopens with
  | nothing hspares => exact h.showing (h.synced.of_document hspares.document)
  | text => exact ⟨h.lowered, fun _ => rfl⟩

/-- The file of the document holds the text of the session. -/
def Held (session : Session) : Prop :=
  session.window.store.disk.read session.window.document.path =
    .ok (Text.Utf8.encode session.synced)

theorem held_saveNow {window : Window} (hsave : (saveNow ⟨window, false⟩).1 = true) :
    (session.saving (saveNow ⟨window, false⟩)).Held := by
  obtain ⟨calls, returned, guarded, heq, hlaw⟩ := window.saveNow_law
  rw [heq] at hsave ⊢
  obtain rfl : returned = true := hsave
  obtain ⟨last, -, hread⟩ := hlaw.holds rfl
  rw [← hlaw.located] at hread
  simp only [Held, saving, Session.window, textIn_of_read hread, Option.getD_some]
  exact hread

theorem held_saveAs {window : Window} {chosen : String}
    (hsave : (Window.saveAs ⟨window, false⟩ chosen).1 = true) :
    (session.saving (Window.saveAs ⟨window, false⟩ chosen)).Held := by
  rw [saveAs_eq] at hsave ⊢
  split at hsave
  · cases hsave
  · next hchosen =>
    rw [if_neg hchosen]
    exact held_saveNow hsave

theorem held_save {window : Window} {chosen : String}
    (hsave : (Window.save ⟨window, false⟩ chosen).1 = true) :
    (session.saving (Window.save ⟨window, false⟩ chosen)).Held := by
  rw [save_eq] at hsave ⊢
  split at hsave
  · next hpath =>
    rw [if_pos hpath]
    exact held_saveAs hsave
  · next hpath =>
    rw [if_neg hpath]
    exact held_saveNow hsave

/-- A save keeps the invariant, and it does so at whatever path. -/
theorem Sound.saving (h : session.Sound) {window : Window}
    (hwidget : window.document.widget = session.window.document.widget) :
    (session.saving (saveNow ⟨window, false⟩)).Sound := by
  obtain ⟨calls, returned, guarded, heq, hlaw⟩ := window.saveNow_law
  rw [heq]
  cases returned with
  | true =>
    -- with its flag down after the save, the document is what the file holds
    refine ⟨hlaw.lowered, fun hmodified => ?_⟩
    have hheld := hlaw.synced rfl hmodified
    rw [← hlaw.located] at hheld
    simp only [Session.saving, textIn_of_read hheld, Option.getD_some]
  | false =>
    refine ⟨hlaw.lowered, ?_⟩
    cases hattempt : window.attempted.1 with
    | ok => exact absurd (hlaw.returns.mpr hattempt) Bool.false_ne_true
    | error e =>
      -- a refused write leaves text and flag alone, so they say what they said before
      obtain ⟨-, -, hdocument, -⟩ := hlaw.refused e hattempt
      intro hmodified
      have hkept : guarded.state.document.widget = session.window.document.widget :=
        (congrArg EditorDocument.widget hdocument).trans hwidget
      simp only [Session.saving, Session.window] at hmodified ⊢
      rw [hkept] at hmodified
      rw [EditorDocument.text, hkept]
      exact h.synced hmodified

theorem Sound.saveAs (h : session.Sound) (chosen : String) :
    (session.saving (Window.saveAs ⟨session.window, false⟩ chosen)).Sound := by
  rw [saveAs_eq]
  split
  · exact ⟨rfl, h.synced⟩
  · exact h.saving rfl

theorem Sound.save (h : session.Sound) (chosen : String) :
    (session.saving (Window.save ⟨session.window, false⟩ chosen)).Sound := by
  rw [save_eq]
  split
  · exact h.saveAs chosen
  · exact h.saving rfl

theorem Sound.act (h : session.Sound) (event : Event) : (session.act event).Sound := by
  cases event with
  | type text => exact h.showing (synced_type session.window text)
  | select anchor position => exact h.showing (h.synced.select anchor position)
  | format => exact h.showing h.synced.formatSql
  | save chosen =>
    rw [h.act_save]
    exact h.save chosen
  | saveAs chosen =>
    rw [h.act_saveAs]
    exact h.saveAs chosen
  | new => exact h.opening (opens_new session.window)
  | openFile chosen => exact h.opening (opens_openFile session.window chosen)
  | load path =>
    have hload := h.opening (opens_load session.window path)
    exact hload
  | options actions =>
    exact h.showing (h.synced.of_document (session.window.spares_showOptions actions).document)
  | quit => exact h.showing (h.synced.of_document session.window.document_quit)
  | meet store user command action => exact h.showing h.synced

theorem Sound.run (h : session.Sound) (events : List Event) : (session.run events).Sound := by
  induction events generalizing session with
  | nil => exact h
  | cons event events ih => exact ih (h.act event)

/-- The sessions that begin with a window that is opened. -/
def Reached (session : Session) : Prop :=
  ∃ store action events, session = (start store action).run events

theorem Reached.act (h : session.Reached) (event : Event) : (session.act event).Reached := by
  obtain ⟨store, action, events, rfl⟩ := h
  exact ⟨store, action, events ++ [event], by rw [run, run, List.foldl_append]; rfl⟩

theorem Reached.sound (h : session.Reached) : session.Sound := by
  obtain ⟨store, action, events, rfl⟩ := h
  exact (sound_start store action).run events

/-- A document whose text is not the one that was last opened, written or made empty has its flag
up. -/
theorem Sound.modified_of_ne (h : session.Sound)
    (hchanged : session.window.document.text ≠ session.synced) :
    session.window.document.widget.modified = true := by
  rw [← Bool.not_eq_false]
  exact fun hmodified => hchanged (h.synced hmodified)

/-- **No changes are given up unasked.** In a session of whatever actions, prompts, files and
failures, a document that counts as unmodified is the text that was last opened, written or made
empty, and after a save that was done this text is what the file of the document holds. A document
with another text is left as it is by New, Open and Quit, or the user was asked and allowed to give
it up. A file that cannot be opened leaves the document and the title as they were. -/
theorem Reached.keeps_changes (h : session.Reached) :
    (session.window.document.widget.modified = false →
        session.window.document.text = session.synced) ∧
      (session.window.document.text ≠ session.synced → ∀ after, Leaving session.window after →
        Spares session.window after ∨ Discards session.window after) ∧
      (∀ path, (session.window.load path).1 = false →
        Spares session.window (session.window.load path).2) ∧
      (∀ chosen, (chosen = "" ∨ ∃ e, readText session.window.store.disk chosen = .error e) →
        Spares session.window (session.window.openFile chosen)) ∧
      (∀ chosen, (Window.save session.guarded chosen).1 = true →
        (session.act (.save chosen)).Held) ∧
      ∀ chosen, (Window.saveAs session.guarded chosen).1 = true →
        (session.act (.saveAs chosen)).Held := by
  have hsound := h.sound
  refine ⟨hsound.synced, fun hchanged after hleaving => ?_, fun path => load_failed,
    fun chosen => openFile_failed, fun chosen hsave => ?_, fun chosen hsave => ?_⟩
  · exact hleaving.asks (hsound.modified_of_ne hchanged)
  · rw [hsound.guarded_eq] at hsave
    rw [hsound.act_save]
    exact held_save hsave
  · rw [hsound.guarded_eq] at hsave
    rw [hsound.act_saveAs]
    exact held_saveAs hsave

/-- A text is typed and saved, and formatting on save changes it; the disk refuses the second write.
-/
def flakySession : Session :=
  (start Store.emptyStore {}).run
    [.type "select 1".toList,
      .meet flakyWindow.store { answers := [true] } flakyWindow.command {},
      .saveAs "query.sql"]

theorem Reached.keeps_changes_flakySession :
    flakySession.Reached ∧ flakySession.window.document.text = "SELECT 1".toList ∧
      flakySession.synced = "select 1".toList ∧
      (Discards flakySession.window flakySession.window.quit ∧
        flakySession.window.quit.closed = true) ∧
      Spares flakySession.window (flakySession.window.load "missing.sql").2 := by
  have hreached : flakySession.Reached := ⟨_, _, _, rfl⟩
  obtain ⟨htext, hsynced, hopen, hclosed, hmissing⟩ :
      flakySession.window.document.text = "SELECT 1".toList ∧
        flakySession.synced = "select 1".toList ∧ flakySession.window.closed = false ∧
        flakySession.window.quit.closed = true ∧
        (flakySession.window.load "missing.sql").1 = false := by
    decide +kernel
  obtain ⟨-, hleaving, hload, -⟩ := hreached.keeps_changes
  refine ⟨hreached, htext, hsynced, ⟨?_, hclosed⟩, hload _ hmissing⟩
  refine (hleaving ?_ _ .quit).resolve_left fun hspares => ?_
  · rw [htext, hsynced]
    decide
  · exact absurd (hspares.closed.symm.trans hclosed) (by rw [hopen]; decide)

end Session

end Window

end SqlDesk
