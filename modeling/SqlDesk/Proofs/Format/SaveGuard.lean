/-
What one notification makes the guard do.

`Handled` and `Ran` follow the calls of the guard without a bound on their depth: handling a
notification may format and save the document, a save may notify the guard, and that is handled in
turn. While the flag is up such a notification does nothing (`Handled.of_inProgress`), so by
induction on the save none of its notifications does (`ran_inProgress_iff`), and what is left is one
formatting and at most one save.
-/
import SqlDesk.Format.SaveGuard
import SqlDesk.Proofs.Format.Command

namespace SqlDesk

/-! ## The host -/

/-- What the guard works with: the command and the answers to its prompts, the documents as the
command sees them, the state after a document was formatted, and the save of a document. -/
structure SaveHost (σ ι δ : Type) where
  command : σ → Command
  answers : σ → Answers
  view : DocumentView δ
  document : ι → σ → δ
  formatted : ι → FormatRun δ → σ → σ
  save : ι → σ → Saving σ ι

namespace SaveHost

variable {σ ι δ : Type}

/-- The run of the command on a document. -/
def run (host : SaveHost σ ι δ) (document : ι) (state : σ) : FormatRun δ :=
  (host.command state).run host.view (host.answers state) (host.document document state)

/-- The state after that run. -/
def afterRun (host : SaveHost σ ι δ) (document : ι) (state : σ) : σ :=
  host.formatted document (host.run document state) state

/-- Whether the command as it is configured formats documents when they are saved. -/
def enabled (host : SaveHost σ ι δ) (state : σ) : Bool :=
  (host.command state).options.toggle .formatOnSave

/-- Whether a document is an SQL file to that command. -/
def isSql (host : SaveHost σ ι δ) (document : ι) (state : σ) : Bool :=
  (host.command state).isSql (host.view.path (host.document document state))

/-- What the guard asks of the host. -/
def hooks (host : SaveHost σ ι δ) : SaveHooks σ ι where
  enabled := host.enabled
  isSql := host.isSql
  format := fun document state =>
    ((host.run document state).outcome.map fun _ => (), host.afterRun document state)
  save := host.save

end SaveHost

/-- What the guard calls: the command for a document, with the run that this was, or the save of a
document in some state. -/
inductive GuardCall (σ ι δ : Type) where
  | formatted (document : ι) (run : FormatRun δ)
  | saved (document : ι) (state : σ)

namespace GuardCall

variable {σ ι δ : Type}

/-- The document that a call is about. -/
def document : GuardCall σ ι δ → ι
  | formatted document _ => document
  | saved document _ => document

/-- What the engine was asked to format. -/
def inputs : GuardCall σ ι δ → List String
  | formatted _ run => run.inputs
  | saved _ _ => []

/-- The prompts that were shown. -/
def prompts : GuardCall σ ι δ → List Prompt
  | formatted _ run => run.prompts
  | saved _ _ => []

/-- Whether a document was saved. -/
def isSave : GuardCall σ ι δ → Bool
  | formatted _ _ => false
  | saved _ _ => true

end GuardCall

/-! ## The tree of calls -/

section

variable {σ ι δ : Type} (host : SaveHost σ ι δ)

mutual

/-- The guard handles a notification, with what it calls meanwhile, the outcome and the state after
it. The flag is up from before the document is formatted until its save has ended. -/
inductive Handled : ι → Guarded σ → List (GuardCall σ ι δ) → Except Failure Unit → Guarded σ → Prop
  | skipped {document : ι} {guarded : Guarded σ}
      (hskip : guarded.inProgress = true ∨ host.enabled guarded.state = false ∨
        host.isSql document guarded.state = false) :
      Handled document guarded [] (.ok ()) guarded
  | failed {document : ι} {state : σ} {e : Failure} (henabled : host.enabled state = true)
      (hsql : host.isSql document state = true)
      (hrun : (host.run document state).outcome = .error e) :
      Handled document ⟨state, false⟩ [.formatted document (host.run document state)] (.error e)
        ⟨host.afterRun document state, false⟩
  | saved {document : ι} {state : σ} {result : Outcome} {calls : List (GuardCall σ ι δ)}
      {outcome : Except Failure Unit} {after : Guarded σ} (henabled : host.enabled state = true)
      (hsql : host.isSql document state = true)
      (hrun : (host.run document state).outcome = .ok result)
      (hsave : Ran (host.save document (host.afterRun document state)) true calls outcome after) :
      Handled document ⟨state, false⟩
        (.formatted document (host.run document state) ::
          .saved document (host.afterRun document state) :: calls)
        outcome ⟨after.state, false⟩

/-- A save runs to its end. Each of its notifications is handled and it goes on with the outcome. -/
inductive Ran : Saving σ ι → Bool → List (GuardCall σ ι δ) → Except Failure Unit → Guarded σ → Prop
  | done {outcome : Except Failure Unit} {state : σ} {inProgress : Bool} :
      Ran (.done outcome state) inProgress [] outcome ⟨state, inProgress⟩
  | notify {document : ι} {state : σ} {next : Except Failure Unit → σ → Saving σ ι}
      {inProgress : Bool} {calls calls' : List (GuardCall σ ι δ)}
      {heard outcome : Except Failure Unit} {between after : Guarded σ}
      (hhandled : Handled document ⟨state, inProgress⟩ calls heard between)
      (hnext : Ran (next heard between.state) between.inProgress calls' outcome after) :
      Ran (.notify document state next) inProgress (calls ++ calls') outcome after

end

end

/-- What a save comes to when no notification does anything. -/
def Saving.quiet {σ ι : Type} : Saving σ ι → Except Failure Unit × σ
  | done outcome state => (outcome, state)
  | notify _ state next => quiet (next (.ok ()) state)

section

variable {σ ι δ : Type} {host : SaveHost σ ι δ} {document : ι} {state : σ} {guarded : Guarded σ}
  {calls : List (GuardCall σ ι δ)} {outcome : Except Failure Unit} {after : Guarded σ}

/-! ## While the flag is up -/

/-- **A notification that arises while the flag is up** does nothing and calls nothing. -/
theorem Handled.of_inProgress (hup : guarded.inProgress = true)
    (h : Handled host document guarded calls outcome after) :
    calls = [] ∧ outcome = .ok () ∧ after = guarded := by
  cases h with
  | skipped => exact ⟨rfl, rfl, rfl⟩
  | failed => cases hup
  | saved => cases hup

/-- With the flag up a save runs as if nothing listened to it, however often it notifies. -/
theorem ran_inProgress_iff (saving : Saving σ ι) :
    Ran host saving true calls outcome after ↔
      calls = [] ∧ outcome = saving.quiet.1 ∧ after = ⟨saving.quiet.2, true⟩ := by
  induction saving generalizing calls outcome after with
  | done result state =>
    constructor
    · rintro ⟨⟩
      exact ⟨rfl, rfl, rfl⟩
    · rintro ⟨rfl, rfl, rfl⟩
      exact .done
  | notify document state next ih =>
    constructor
    · rintro (_ | ⟨hhandled, hnext⟩)
      obtain ⟨rfl, rfl, rfl⟩ := hhandled.of_inProgress rfl
      exact (ih _ _).mp hnext
    · intro h
      exact .notify (.skipped (.inl rfl)) ((ih _ _).mpr h)

theorem Saving.run_eq_quiet (handle : SavedHandler σ ι)
    (hquiet : ∀ document guarded, guarded.inProgress = true →
      handle document guarded = (.ok (), guarded)) (saving : Saving σ ι) :
    saving.run handle true = (saving.quiet.1, ⟨saving.quiet.2, true⟩) := by
  induction saving with
  | done outcome state => rfl
  | notify document state next ih =>
    simp only [Saving.run, hquiet document ⟨state, true⟩ rfl]
    exact ih _ _

/-! ## While the flag is down -/

theorem handled_iff_of_skip
    (hskip : host.enabled state = false ∨ host.isSql document state = false) :
    Handled host document ⟨state, false⟩ calls outcome after ↔
      calls = [] ∧ outcome = .ok () ∧ after = ⟨state, false⟩ := by
  constructor
  · intro h
    cases h with
    | skipped => exact ⟨rfl, rfl, rfl⟩
    | failed henabled hsql => simp [henabled, hsql] at hskip
    | saved henabled hsql => simp [henabled, hsql] at hskip
  · rintro ⟨rfl, rfl, rfl⟩
    exact .skipped (.inr hskip)

theorem handled_iff_of_error {e : Failure} (henabled : host.enabled state = true)
    (hsql : host.isSql document state = true)
    (hrun : (host.run document state).outcome = .error e) :
    Handled host document ⟨state, false⟩ calls outcome after ↔
      calls = [.formatted document (host.run document state)] ∧ outcome = .error e ∧
        after = ⟨host.afterRun document state, false⟩ := by
  constructor
  · intro h
    cases h with
    | skipped hskip => simp [henabled, hsql] at hskip
    | failed _ _ hrun' =>
      obtain rfl := Except.error.inj (hrun.symm.trans hrun')
      exact ⟨rfl, rfl, rfl⟩
    | saved _ _ hrun' => simp [hrun] at hrun'
  · rintro ⟨rfl, rfl, rfl⟩
    exact .failed henabled hsql hrun

theorem handled_iff_of_ok {result : Outcome} {ended : Except Failure Unit} {last : σ}
    (henabled : host.enabled state = true) (hsql : host.isSql document state = true)
    (hrun : (host.run document state).outcome = .ok result)
    (hquiet : (host.save document (host.afterRun document state)).quiet = (ended, last)) :
    Handled host document ⟨state, false⟩ calls outcome after ↔
      calls = [.formatted document (host.run document state),
          .saved document (host.afterRun document state)] ∧
        outcome = ended ∧ after = ⟨last, false⟩ := by
  obtain ⟨rfl, rfl⟩ := Prod.mk.inj hquiet
  constructor
  · intro h
    cases h with
    | skipped hskip => simp [henabled, hsql] at hskip
    | failed _ _ hrun' => simp [hrun] at hrun'
    | saved _ _ _ hsave =>
      obtain ⟨rfl, rfl, rfl⟩ := (ran_inProgress_iff _).mp hsave
      exact ⟨rfl, rfl, rfl⟩
  · rintro ⟨rfl, rfl, rfl⟩
    exact .saved henabled hsql hrun ((ran_inProgress_iff _).mpr ⟨rfl, rfl, rfl⟩)

/-- The tree of calls ends as the guard does. -/
theorem Handled.onSaved_eq (h : Handled host document guarded calls outcome after) :
    SaveGuard.onSaved host.hooks document guarded = (outcome, after) := by
  -- at the second level the flag is up
  have hnested := Saving.run_eq_quiet _
    (SaveGuard.handle_of_inProgress host.hooks fun _ guarded => (.ok (), guarded))
  cases h with
  | skipped hskip =>
    have hcond : (guarded.inProgress || !host.hooks.enabled guarded.state ||
        !host.hooks.isSql document guarded.state) = true := by
      simpa [SaveHost.hooks, or_assoc] using hskip
    rw [SaveGuard.onSaved, SaveGuard.handle, if_pos hcond]
  | failed henabled hsql hrun =>
    simp [SaveGuard.onSaved, SaveGuard.handle, SaveGuard.formatAndSave, SaveHost.hooks, henabled,
      hsql, hrun, Except.map]
  | saved henabled hsql hrun hsave =>
    obtain ⟨-, rfl, rfl⟩ := (ran_inProgress_iff _).mp hsave
    simp only [SaveGuard.onSaved, SaveGuard.handle, SaveGuard.formatAndSave, hnested]
    simp [SaveHost.hooks, henabled, hsql, hrun, Except.map]

/-! ## One notification -/

namespace SaveHost

theorem run_of_isSql (hsql : host.isSql document state = true) :
    (∃ input, (host.run document state).inputs = [input]) ∧
      ∀ prompt ∈ (host.run document state).prompts, prompt = .parseErrors := by
  have hrun := Command.run_of_isSql hsql (host.answers state)
  have hinputs := (formatText_cases host.view (host.command state).engine.format
    (host.answers state) 0 (host.document document state)).1
  rw [run, hrun]
  exact ⟨⟨_, hinputs⟩, fun _ => formatText_prompts _ _ _ _ _⟩

end SaveHost

end

/-- The law of the guard for a notification that finds its flag down. The engine is asked at most
once and the document saved at most once: just if its formatting ended without an error, whether it
was formatted or not. The notifications that this save issues do nothing. Nobody is asked about the
type of the file, and the flag is down again. Nothing at all is called if formatting on save is off
or the document is not an SQL file. -/
structure GuardLaw {σ ι δ : Type} (host : SaveHost σ ι δ) (document : ι) (state : σ)
    (calls : List (GuardCall σ ι δ)) (outcome : Except Failure Unit) (after : Guarded σ) :
    Prop where
  asksOnce : (calls.flatMap GuardCall.inputs).length ≤ 1
  savesOnce : (calls.filter GuardCall.isSave).length ≤ 1
  saves : (∃ saved, .saved document saved ∈ calls) ↔
    ∃ run result, .formatted document run ∈ calls ∧ run.outcome = .ok result
  raises : ∀ run e, .formatted document run ∈ calls → run.outcome = .error e → outcome = .error e
  nested : ∀ saved, .saved document saved ∈ calls →
    outcome = (host.save document saved).quiet.1 ∧ after.state = (host.save document saved).quiet.2
  own : ∀ call ∈ calls, call.document = document
  silent : ∀ ext, .fileType ext ∉ calls.flatMap GuardCall.prompts
  lowered : after.inProgress = false
  active : host.enabled state = true → host.isSql document state = true →
    .formatted document (host.run document state) ∈ calls
  idle : host.enabled state = false ∨ host.isSql document state = false →
    calls = [] ∧ outcome = .ok () ∧ after.state = state

namespace GuardLaw

variable {σ ι δ : Type} {host : SaveHost σ ι δ} {document : ι} {state : σ}

theorem of_skip (hskip : host.enabled state = false ∨ host.isSql document state = false) :
    GuardLaw host document state [] (.ok ()) ⟨state, false⟩ where
  asksOnce := Nat.zero_le _
  savesOnce := Nat.zero_le _
  saves := by simp
  raises := by simp
  nested := by simp
  own := by simp
  silent := by simp
  lowered := rfl
  active henabled hsql := by simp [henabled, hsql] at hskip
  idle _ := ⟨rfl, rfl, rfl⟩

theorem of_error {e : Failure} (henabled : host.enabled state = true)
    (hsql : host.isSql document state = true)
    (hrun : (host.run document state).outcome = .error e) :
    GuardLaw host document state [.formatted document (host.run document state)] (.error e)
      ⟨host.afterRun document state, false⟩ := by
  obtain ⟨⟨input, hinputs⟩, hprompts⟩ := SaveHost.run_of_isSql hsql
  exact {
    asksOnce := by simp [GuardCall.inputs, hinputs]
    savesOnce := by simp [GuardCall.isSave]
    saves := by simp [hrun]
    raises := by
      intro run e' hmem hfailed
      obtain rfl : run = host.run document state := by simpa using hmem
      exact congrArg Except.error (Except.error.inj (hrun.symm.trans hfailed))
    nested := by simp
    own := by simp [GuardCall.document]
    silent := by
      intro ext hmem
      have hprompt := hprompts (.fileType ext) (by simpa [GuardCall.prompts] using hmem)
      simp at hprompt
    lowered := rfl
    active := fun _ _ => List.mem_singleton_self _
    idle := by simp [henabled, hsql] }

theorem of_ok {result : Outcome} (henabled : host.enabled state = true)
    (hsql : host.isSql document state = true)
    (hrun : (host.run document state).outcome = .ok result) :
    GuardLaw host document state
      [.formatted document (host.run document state),
        .saved document (host.afterRun document state)]
      (host.save document (host.afterRun document state)).quiet.1
      ⟨(host.save document (host.afterRun document state)).quiet.2, false⟩ := by
  obtain ⟨⟨input, hinputs⟩, hprompts⟩ := SaveHost.run_of_isSql hsql
  exact {
    asksOnce := by simp [GuardCall.inputs, hinputs]
    savesOnce := by simp [List.filter_cons, GuardCall.isSave]
    saves := by simp [hrun]
    raises := by
      intro run e hmem hfailed
      obtain rfl : run = host.run document state := by simpa using hmem
      simp [hrun] at hfailed
    nested := by
      intro saved hmem
      obtain rfl : saved = host.afterRun document state := by simpa using hmem
      exact ⟨rfl, rfl⟩
    own := by simp [GuardCall.document]
    silent := by
      intro ext hmem
      have hprompt := hprompts (.fileType ext) (by simpa [GuardCall.prompts] using hmem)
      simp at hprompt
    lowered := rfl
    active := fun _ _ => List.mem_cons_self
    idle := by simp [henabled, hsql] }

end GuardLaw

/-- **The law of the guard** holds for every host, whatever its engine, its answers and its saves
do: there is just one tree of calls, the guard ends as it does, and it keeps the law. -/
theorem SaveHost.guardLaw_onSaved {σ ι δ : Type} (host : SaveHost σ ι δ) (document : ι)
    (state : σ) :
    ∃ calls outcome after,
      (∀ calls' outcome' after',
        Handled host document ⟨state, false⟩ calls' outcome' after' ↔
          calls' = calls ∧ outcome' = outcome ∧ after' = after) ∧
      SaveGuard.onSaved host.hooks document ⟨state, false⟩ = (outcome, after) ∧
      GuardLaw host document state calls outcome after := by
  by_cases hskip : host.enabled state = false ∨ host.isSql document state = false
  · exact ⟨_, _, _, fun _ _ _ => handled_iff_of_skip hskip,
      ((handled_iff_of_skip hskip).mpr ⟨rfl, rfl, rfl⟩).onSaved_eq, .of_skip hskip⟩
  obtain ⟨henabled, hsql⟩ : host.enabled state = true ∧ host.isSql document state = true := by
    simpa using hskip
  cases hrun : (host.run document state).outcome with
  | error e =>
    exact ⟨_, _, _, fun _ _ _ => handled_iff_of_error henabled hsql hrun,
      ((handled_iff_of_error henabled hsql hrun).mpr ⟨rfl, rfl, rfl⟩).onSaved_eq,
      .of_error henabled hsql hrun⟩
  | ok result =>
    exact ⟨_, _, _, fun _ _ _ => handled_iff_of_ok henabled hsql hrun rfl,
      ((handled_iff_of_ok henabled hsql hrun rfl).mpr ⟨rfl, rfl, rfl⟩).onSaved_eq,
      .of_ok henabled hsql hrun⟩

end SqlDesk
