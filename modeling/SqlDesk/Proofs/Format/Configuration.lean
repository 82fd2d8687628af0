/-
What the format command was configured with, while the store goes on.

A desk has a store, a command that was configured from it, documents, and the guard that formats them
when they are saved. Its events come in any order: requests to the store, refreshes of the command,
edits, format commands and notifications. The command always stems as a whole from the settings that
the store had at the last refresh (`Run.stems`), and only the command is asked when a document is
formatted or saved: desks that agree but for their stores show the same until one of them is
refreshed (`Run.alike`).
-/
import SqlDesk.Proofs.Format.SaveGuard
import SqlDesk.Proofs.Settings.Store

namespace SqlDesk

/-! ## The configuration of a command -/

/-- All that a command was configured with stems from the same settings: the extension, the options,
and the options and the dialect of its engine, unless that was injected. -/
structure Command.StemsFrom (command : Command) (settings : Settings) (injected : Option Formatter)
    (libraries : Engine.Libraries) : Prop where
  sqlExtension : command.sqlExtension = settings.sqlExtension
  options : command.options = settings.options
  built : injected = none → command.engine =
    .built libraries.tools ⟨settings.options.value, libraries.known settings.dialect⟩
  given : ∀ format, injected = some format → command.engine = .given format
  injected : command.injected = injected
  libraries : command.libraries = libraries

theorem Command.stemsFrom_configured (settings : Settings) (injected : Option Formatter)
    (libraries : Engine.Libraries) :
    (Command.configured settings injected libraries).StemsFrom settings injected libraries where
  sqlExtension := rfl
  options := rfl
  built := by
    rintro rfl
    rfl
  given := by
    rintro format rfl
    rfl
  injected := rfl
  libraries := rfl

theorem Command.StemsFrom.refresh {command : Command} {settings : Settings}
    {injected : Option Formatter} {libraries : Engine.Libraries}
    (h : command.StemsFrom settings injected libraries) (now : Settings) :
    (command.refresh now).StemsFrom now injected libraries := by
  rw [Command.refresh, h.injected, h.libraries]
  exact stemsFrom_configured now injected libraries

/-! ## Notifications -/

section

variable {σ ι δ : Type}

/-- A notification is handled in one way. -/
theorem exists_handled_iff (host : SaveHost σ ι δ) (document : ι) (guarded : Guarded σ) :
    ∃ calls outcome after, ∀ calls' outcome' after',
      Handled host document guarded calls' outcome' after' ↔
        calls' = calls ∧ outcome' = outcome ∧ after' = after := by
  obtain ⟨state, inProgress⟩ := guarded
  cases inProgress with
  | false =>
    obtain ⟨calls, outcome, after, hiff, -⟩ := host.guardLaw_onSaved document state
    exact ⟨calls, outcome, after, hiff⟩
  | true =>
    refine ⟨[], .ok (), ⟨state, true⟩, fun calls outcome after =>
      ⟨fun h => h.of_inProgress rfl, ?_⟩⟩
    rintro ⟨rfl, rfl, rfl⟩
    exact .skipped (.inl rfl)

theorem exists_handled (host : SaveHost σ ι δ) (document : ι) (guarded : Guarded σ) :
    ∃ calls outcome after, Handled host document guarded calls outcome after := by
  obtain ⟨calls, outcome, after, hiff⟩ := exists_handled_iff host document guarded
  exact ⟨calls, outcome, after, (hiff _ _ _).mpr ⟨rfl, rfl, rfl⟩⟩

theorem Handled.unique {host : SaveHost σ ι δ} {document : ι} {guarded after after' : Guarded σ}
    {calls calls' : List (GuardCall σ ι δ)} {outcome outcome' : Except Failure Unit}
    (h : Handled host document guarded calls outcome after)
    (h' : Handled host document guarded calls' outcome' after') :
    calls = calls' ∧ outcome = outcome' ∧ after = after' := by
  obtain ⟨_, _, _, hiff⟩ := exists_handled_iff host document guarded
  obtain ⟨rfl, rfl, rfl⟩ := (hiff _ _ _).mp h
  obtain ⟨rfl, rfl, rfl⟩ := (hiff _ _ _).mp h'
  exact ⟨rfl, rfl, rfl⟩

end

/-! ## Desks -/

/-- A store, a command that was configured from it, documents by name, and the flag of the guard. -/
structure Desk (ι δ : Type) where
  store : Store
  command : Command
  documents : ι → δ
  inProgress : Bool := false

/-- What can happen at a desk. A request finds the disk in some state, prompts are answered in some
way, and saving a document does something to the documents and notifies the guard now and then. -/
inductive Desk.Event (ι δ : Type) where
  | request (disk : Disk) (request : Store.Request)
  | refresh
  | edit (change : (ι → δ) → ι → δ)
  | format (document : ι) (answers : Answers)
  | saved (document : ι) (answers : Answers) (save : ι → (ι → δ) → Saving (ι → δ) ι)

/-- What is seen of an event: a run of the command, with its prompts, what the engine was asked, the
outcome and the document; or what the guard called, and how that ended. -/
inductive Desk.Shown (ι δ : Type) where
  | formatted (run : FormatRun δ)
  | handled (calls : List (GuardCall (ι → δ) ι δ)) (outcome : Except Failure Unit)

namespace Desk

variable {ι δ : Type}

/-- The desk on a store. -/
def opened (store : Store) (injected : Option Formatter) (libraries : Engine.Libraries)
    (documents : ι → δ) : Desk ι δ where
  store := store
  command := Command.configured store.settings injected libraries
  documents := documents

namespace Event

/-- Whether an event is a request to the store. -/
def isRequest : Event ι δ → Bool
  | request _ _ => true
  | _ => false

/-- Whether an event is a refresh of the command. -/
def isRefresh : Event ι δ → Bool
  | refresh => true
  | _ => false

end Event

variable [DecidableEq ι]

/-- The documents with another one under a name. -/
def put (documents : ι → δ) (name : ι) (document : δ) : ι → δ :=
  fun other => if other = name then document else documents other

/-- The documents as the guard of a command works with them. -/
def host (view : DocumentView δ) (command : Command) (answers : Answers)
    (save : ι → (ι → δ) → Saving (ι → δ) ι) : SaveHost (ι → δ) ι δ where
  command _ := command
  answers _ := answers
  view := view
  document name documents := documents name
  formatted name run documents := put documents name run.document
  save := save

/-- One event: what is seen of it, and the desk after it. -/
inductive Step (view : DocumentView δ) : Desk ι δ → Event ι δ → List (Shown ι δ) → Desk ι δ → Prop
  | request {desk : Desk ι δ} {disk : Disk} {request : Store.Request} :
      Step view desk (.request disk request) []
        { desk with store := (Store.perform { desk.store with disk := disk } request).2 }
  | refresh {desk : Desk ι δ} :
      Step view desk .refresh [] { desk with command := desk.command.refresh desk.store.settings }
  | edit {desk : Desk ι δ} {change : (ι → δ) → ι → δ} :
      Step view desk (.edit change) [] { desk with documents := change desk.documents }
  | format {desk : Desk ι δ} {name : ι} {answers : Answers} {run : FormatRun δ}
      (hrun : run = desk.command.run view answers (desk.documents name)) :
      Step view desk (.format name answers) [.formatted run]
        { desk with documents := put desk.documents name run.document }
  | saved {desk : Desk ι δ} {name : ι} {answers : Answers}
      {save : ι → (ι → δ) → Saving (ι → δ) ι} {calls : List (GuardCall (ι → δ) ι δ)}
      {outcome : Except Failure Unit} {after : Guarded (ι → δ)}
      (hhandled : Handled (host view desk.command answers save) name
        ⟨desk.documents, desk.inProgress⟩ calls outcome after) :
      Step view desk (.saved name answers save) [.handled calls outcome]
        { desk with documents := after.state, inProgress := after.inProgress }

/-- Some events, one after the other. -/
inductive Run (view : DocumentView δ) :
    Desk ι δ → List (Event ι δ) → List (Shown ι δ) → Desk ι δ → Prop
  | nil {desk : Desk ι δ} : Run view desk [] [] desk
  | cons {desk next last : Desk ι δ} {event : Event ι δ} {events : List (Event ι δ)}
      {shown more : List (Shown ι δ)} (hstep : Step view desk event shown next)
      (hrun : Run view next events more last) :
      Run view desk (event :: events) (shown ++ more) last

variable {view : DocumentView δ} {desk next next' last last' : Desk ι δ} {event : Event ι δ}
  {events : List (Event ι δ)} {shown shown' : List (Shown ι δ)}

/-! ## Every event happens in one way -/

theorem exists_step (view : DocumentView δ) (desk : Desk ι δ) (event : Event ι δ) :
    ∃ shown next, Step view desk event shown next := by
  cases event with
  | request disk request => exact ⟨_, _, .request⟩
  | refresh => exact ⟨_, _, .refresh⟩
  | edit change => exact ⟨_, _, .edit⟩
  | format name answers => exact ⟨_, _, .format rfl⟩
  | saved name answers save =>
    obtain ⟨calls, outcome, after, hhandled⟩ := exists_handled
      (host view desk.command answers save) name ⟨desk.documents, desk.inProgress⟩
    exact ⟨_, _, .saved hhandled⟩

theorem Step.unique (h : Step view desk event shown next) (h' : Step view desk event shown' next') :
    shown = shown' ∧ next = next' := by
  cases h with
  | request =>
    cases h'
    exact ⟨rfl, rfl⟩
  | refresh =>
    cases h'
    exact ⟨rfl, rfl⟩
  | edit =>
    cases h'
    exact ⟨rfl, rfl⟩
  | format hrun =>
    cases h' with
    | format hrun' =>
      subst hrun hrun'
      exact ⟨rfl, rfl⟩
  | saved hhandled =>
    cases h' with
    | saved hhandled' =>
      obtain ⟨rfl, rfl, rfl⟩ := hhandled.unique hhandled'
      exact ⟨rfl, rfl⟩

theorem exists_run (view : DocumentView δ) (desk : Desk ι δ) (events : List (Event ι δ)) :
    ∃ shown last, Run view desk events shown last := by
  induction events generalizing desk with
  | nil => exact ⟨[], desk, .nil⟩
  | cons event events ih =>
    obtain ⟨shown, next, hstep⟩ := exists_step view desk event
    obtain ⟨more, last, hrun⟩ := ih next
    exact ⟨_, _, .cons hstep hrun⟩

theorem Run.unique (h : Run view desk events shown last) (h' : Run view desk events shown' last') :
    shown = shown' ∧ last = last' := by
  induction h generalizing shown' with
  | nil =>
    cases h'
    exact ⟨rfl, rfl⟩
  | cons hstep hrun ih =>
    cases h' with
    | cons hstep' hrun' =>
      obtain ⟨rfl, rfl⟩ := hstep.unique hstep'
      obtain ⟨rfl, rfl⟩ := ih hrun'
      exact ⟨rfl, rfl⟩

theorem Run.split {before after : List (Event ι δ)}
    (h : Run view desk (before ++ after) shown last) : ∃ first middle second,
      Run view desk before first middle ∧ Run view middle after second last ∧
        shown = first ++ second := by
  induction before generalizing desk shown with
  | nil => exact ⟨[], desk, shown, .nil, h, rfl⟩
  | cons event before ih =>
    cases h with
    | cons hstep hrun =>
      obtain ⟨first, middle, second, hbefore, hafter, rfl⟩ := ih hrun
      exact ⟨_, middle, second, .cons hstep hbefore, hafter, (List.append_assoc _ _ _).symm⟩

/-! ## Where the configuration stems from -/

theorem Step.command_eq (h : Step view desk event shown next) (hevent : event.isRefresh = false) :
    next.command = desk.command := by
  cases h with
  | refresh => cases hevent
  | _ => rfl

theorem Run.command_eq (h : Run view desk events shown last)
    (hevents : ∀ event ∈ events, event.isRefresh = false) : last.command = desk.command := by
  induction h with
  | nil => rfl
  | cons hstep hrun ih =>
    obtain ⟨hevent, hevents⟩ := List.forall_mem_cons.mp hevents
    rw [ih hevents, hstep.command_eq hevent]

theorem Step.stems {settings : Settings} {injected : Option Formatter}
    {libraries : Engine.Libraries} (h : Step view desk event shown next)
    (hstems : desk.command.StemsFrom settings injected libraries) :
    ∃ settings', next.command.StemsFrom settings' injected libraries := by
  cases h with
  | refresh => exact ⟨_, hstems.refresh _⟩
  | _ => exact ⟨settings, hstems⟩

theorem Run.stems {settings : Settings} {injected : Option Formatter}
    {libraries : Engine.Libraries} (h : Run view desk events shown last)
    (hstems : desk.command.StemsFrom settings injected libraries) :
    ∃ settings', last.command.StemsFrom settings' injected libraries := by
  induction h generalizing settings with
  | nil => exact ⟨settings, hstems⟩
  | cons hstep hrun ih =>
    obtain ⟨settings', hnext⟩ := hstep.stems hstems
    exact ih hnext

/-- After the last refresh the command stems from the settings that the store had there. -/
theorem Run.stems_of_refresh {settings : Settings} {injected : Option Formatter}
    {libraries : Engine.Libraries} {before after : List (Event ι δ)}
    (h : Run view desk (before ++ .refresh :: after) shown last)
    (hstems : desk.command.StemsFrom settings injected libraries)
    (hafter : ∀ event ∈ after, event.isRefresh = false) : ∃ first middle second,
      Run view desk before first middle ∧ Run view middle (.refresh :: after) second last ∧
        last.command.StemsFrom middle.store.settings injected libraries := by
  obtain ⟨first, middle, second, hbefore, hrest, -⟩ := h.split
  refine ⟨first, middle, second, hbefore, hrest, ?_⟩
  obtain ⟨settings', hmiddle⟩ := hbefore.stems hstems
  cases hrest with
  | cons hstep hrun =>
    cases hstep
    rw [hrun.command_eq hafter]
    exact hmiddle.refresh _

/-! ## Desks that agree but for their stores -/

/-- The desks have the same command, the same documents and the same flag. -/
structure Alike (a b : Desk ι δ) : Prop where
  command : a.command = b.command
  documents : a.documents = b.documents
  inProgress : a.inProgress = b.inProgress

variable {a a' b : Desk ι δ}

theorem Step.of_request (h : Step view a event shown a') (hevent : event.isRequest = true) :
    shown = [] ∧ Alike a' a := by
  cases h with
  | request => exact ⟨rfl, rfl, rfl, rfl⟩
  | _ => cases hevent

/-- What is no request and no refresh is the same at desks that agree but for their stores. -/
theorem Step.alike (h : Step view a event shown a') (halike : Alike a b)
    (hrequest : event.isRequest = false) (hrefresh : event.isRefresh = false) :
    ∃ b', Step view b event shown b' ∧ Alike a' b' := by
  obtain ⟨store, command, documents, inProgress⟩ := a
  obtain ⟨store', command', documents', inProgress'⟩ := b
  obtain ⟨rfl, rfl, rfl⟩ := halike
  cases h with
  | request => cases hrequest
  | refresh => cases hrefresh
  | edit => exact ⟨_, .edit, rfl, rfl, rfl⟩
  | format hrun => exact ⟨_, .format hrun, rfl, rfl, rfl⟩
  | saved hhandled => exact ⟨_, .saved hhandled, rfl, rfl, rfl⟩

/-- **What is seen until the next refresh is seen without the requests to the store**, at every desk
that agrees but for its store. -/
theorem Run.alike (h : Run view a events shown a') (halike : Alike a b)
    (hevents : ∀ event ∈ events, event.isRefresh = false) :
    ∃ b', Run view b (events.filter fun event => !event.isRequest) shown b' ∧ Alike a' b' := by
  induction h generalizing b with
  | nil => exact ⟨b, .nil, halike⟩
  | @cons a next last event events shown more hstep hrun ih =>
    obtain ⟨hevent, hevents⟩ := List.forall_mem_cons.mp hevents
    cases hrequest : event.isRequest with
    | true =>
      obtain ⟨rfl, hnext⟩ := hstep.of_request hrequest
      rw [List.filter_cons_of_neg (by simp [hrequest])]
      exact ih ⟨hnext.command.trans halike.command, hnext.documents.trans halike.documents,
        hnext.inProgress.trans halike.inProgress⟩ hevents
    | false =>
      obtain ⟨between, hstep', hbetween⟩ := hstep.alike halike hrequest hevent
      obtain ⟨b', hrun', hlast⟩ := ih hbetween hevents
      rw [List.filter_cons_of_pos (by simp [hrequest])]
      exact ⟨b', .cons hstep' hrun', hlast⟩

/-- **A desk goes by one state of its store.** All events can happen, in any order. Until the first
refresh the command stems from the settings that the store had at first, and after a refresh from
those that it had there, whatever was asked of the store since; an injected engine stays, and every
other one is built on the same libraries, whatever these do. So until the next refresh requests to
the store make no difference to what is seen of the other events: two runs that agree up to some
point, and but for such requests after it, show the same prompts, inputs of the engine, outcomes and
texts. -/
theorem opened_runs (view : DocumentView δ) (store : Store) (injected : Option Formatter)
    (libraries : Engine.Libraries) (documents : ι → δ) :
    (∀ events, ∃ shown last,
      Run view (opened store injected libraries documents) events shown last) ∧
    (∀ events shown last, Run view (opened store injected libraries documents) events shown last →
      (∀ event ∈ events, event.isRefresh = false) →
        last.command.StemsFrom store.settings injected libraries) ∧
    (∀ before after shown last,
      Run view (opened store injected libraries documents) (before ++ .refresh :: after)
          shown last →
      (∀ event ∈ after, event.isRefresh = false) →
        ∃ first middle second,
          Run view (opened store injected libraries documents) before first middle ∧
          Run view middle (.refresh :: after) second last ∧
          last.command.StemsFrom middle.store.settings injected libraries) ∧
    (∀ before after after' shown shown' last last',
      Run view (opened store injected libraries documents) (before ++ after) shown last →
      Run view (opened store injected libraries documents) (before ++ after') shown' last' →
      (∀ event ∈ after, event.isRefresh = false) → (∀ event ∈ after', event.isRefresh = false) →
      (after.filter fun event => !event.isRequest) = (after'.filter fun event => !event.isRequest) →
        shown = shown' ∧ last.documents = last'.documents) := by
  have hopened : (opened store injected libraries documents).command.StemsFrom store.settings
      injected libraries :=
    Command.stemsFrom_configured store.settings injected libraries
  refine ⟨exists_run view _, fun events shown last hrun hevents => ?_,
    fun before after shown last hrun hafter => hrun.stems_of_refresh hopened hafter, ?_⟩
  · rw [hrun.command_eq hevents]
    exact hopened
  · intro before after after' shown shown' last last' hrun hrun' hafter hafter' hsame
    obtain ⟨first, middle, second, hbefore, hrest, rfl⟩ := hrun.split
    obtain ⟨first', middle', second', hbefore', hrest', rfl⟩ := hrun'.split
    obtain ⟨rfl, rfl⟩ := hbefore.unique hbefore'
    -- without their requests both runs go on in the same way
    obtain ⟨bare, hbare, hlast⟩ := hrest.alike ⟨rfl, rfl, rfl⟩ hafter
    obtain ⟨bare', hbare', hlast'⟩ := hrest'.alike ⟨rfl, rfl, rfl⟩ hafter'
    rw [← hsame] at hbare'
    obtain ⟨rfl, rfl⟩ := hbare.unique hbare'
    exact ⟨rfl, hlast.documents.trans hlast'.documents.symm⟩

end Desk

end SqlDesk
