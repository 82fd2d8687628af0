/-
Formatting on save.

When a document has been saved the guard formats it and saves it again. That second save notifies
the guard again; while the guard is at work its flag is up, and a notification then does nothing.
The flag is down again at the end, whatever happened.

What a save does is an event tree: it changes the state, it may notify the guard any number of times
and go on with the outcome of each notification, and it ends.
-/
import SqlDesk.Failure

namespace SqlDesk

/-- A save: it ends with an outcome, or it notifies that a document was saved and goes on. -/
inductive Saving (σ ι : Type) where
  | done (outcome : Except Failure Unit) (state : σ)
  | notify (document : ι) (state : σ) (next : Except Failure Unit → σ → Saving σ ι)

/-- A state with the flag of the guard. -/
structure Guarded (σ : Type) where
  state : σ
  inProgress : Bool := false
  deriving DecidableEq, Repr

/-- What happens when a document has been saved. -/
abbrev SavedHandler (σ ι : Type) : Type :=
  ι → Guarded σ → Except Failure Unit × Guarded σ

namespace Saving

/-- Runs a save with a handler for its notifications. -/
def run {σ ι : Type} (handle : SavedHandler σ ι) (inProgress : Bool) :
    Saving σ ι → Except Failure Unit × Guarded σ
  | done outcome state => (outcome, ⟨state, inProgress⟩)
  | notify document state next =>
    let (outcome, after) := handle document ⟨state, inProgress⟩
    run handle after.inProgress (next outcome after.state)

end Saving

/-- What the guard asks of the program. -/
structure SaveHooks (σ ι : Type) where
  enabled : σ → Bool
  isSql : ι → σ → Bool
  format : ι → σ → Except Failure Unit × σ
  save : ι → σ → Saving σ ι

namespace SaveGuard

/-- Formats a document and saves it if that went well, with the flag up; `nested` handles the
notifications of the save. -/
def formatAndSave {σ ι : Type} (hooks : SaveHooks σ ι) (nested : SavedHandler σ ι) (document : ι)
    (state : σ) : Except Failure Unit × σ :=
  match hooks.format document state with
  | (.error e, state) => (.error e, state)
  | (.ok (), state) =>
    let (outcome, after) := (hooks.save document state).run nested true
    (outcome, after.state)

/-- Handles a notification; `nested` handles those that arise meanwhile. -/
def handle {σ ι : Type} (hooks : SaveHooks σ ι) (nested : SavedHandler σ ι) : SavedHandler σ ι :=
  fun document guarded =>
    if guarded.inProgress || !hooks.enabled guarded.state ||
        !hooks.isSql document guarded.state then
      (.ok (), guarded)
    else
      let (outcome, state) := formatAndSave hooks nested document guarded.state
      (outcome, ⟨state, false⟩)

/-- Handles a notification that a document was saved. One level of nesting is enough: a notification
that arises meanwhile finds the flag up. -/
def onSaved {σ ι : Type} (hooks : SaveHooks σ ι) : SavedHandler σ ι :=
  handle hooks (handle hooks fun _ guarded => (.ok (), guarded))

/-- While the flag is up a notification does nothing, whatever would handle those below it. -/
theorem handle_of_inProgress {σ ι : Type} (hooks : SaveHooks σ ι) (nested : SavedHandler σ ι)
    (document : ι) (guarded : Guarded σ) (h : guarded.inProgress = true) :
    handle hooks nested document guarded = (.ok (), guarded) := by
  simp [handle, h]

/-- Handlers that leave the flag up and agree while it is up run a save alike. -/
theorem run_congr {σ ι : Type} {f g : SavedHandler σ ι}
    (hf : ∀ document guarded, guarded.inProgress = true →
      f document guarded = g document guarded ∧ (g document guarded).2.inProgress = true)
    (saving : Saving σ ι) : saving.run f true = saving.run g true := by
  induction saving with
  | done outcome state => rfl
  | notify document state next ih =>
    obtain ⟨h1, h2⟩ := hf document ⟨state, true⟩ rfl
    simp only [Saving.run, h1, h2]
    exact ih _ _

/-- A notification is handled as if all those that arise meanwhile were handled in the same way. -/
theorem onSaved_eq {σ ι : Type} (hooks : SaveHooks σ ι) :
    onSaved hooks = handle hooks (onSaved hooks) := by
  funext document guarded
  have agree : ∀ saving : Saving σ ι,
      saving.run (handle hooks fun _ guarded => (.ok (), guarded)) true =
        saving.run (onSaved hooks) true :=
    run_congr fun document guarded h => by
      rw [handle_of_inProgress hooks _ document guarded h, onSaved,
        handle_of_inProgress hooks _ document guarded h]
      exact ⟨rfl, h⟩
  rw [onSaved]
  simp only [handle, formatAndSave]
  split
  · rfl
  · split
    · rfl
    · rw [← onSaved] at *
      rw [agree]

end SaveGuard

end SqlDesk
