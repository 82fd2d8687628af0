/-
The stored hotkey and the bindings of a host.

A host may be missing and may fail; neither stops the program. What went wrong is part of the reply,
and the caller shows it.
-/
import SqlDesk.Hotkey.Host
import SqlDesk.Settings.Store

namespace SqlDesk

/-- Why a host gave no answer. -/
inductive Refusal where
  | unsupported
  | scope (cause : Failure)
  | read (cause : Failure)
  | bind (hotkey : String) (cause : Failure)
  deriving DecidableEq, Repr

namespace Refusal

/-- The wording of a refusal. -/
def message : Refusal → String
  | unsupported => "Key bindings are not supported by this host."
  | scope cause => "Could not determine the key binding scope name:\n" ++ cause.message
  | read cause => "Could not read the current hotkey:\n" ++ cause.message
  | bind hotkey cause =>
    "Could not bind the hotkey " ++ Text.quoted hotkey ++ ":\n" ++ cause.message

/-- How many notices a refusal gives. -/
def notices : Refusal → Nat
  | unsupported => 0
  | _ => 1

end Refusal

/-- The reply to a question to a host. -/
abbrev Reply : Type := Except Refusal String

namespace Hotkey

/-- The name of the scope at a host. -/
def readScope {σ : Type} (host : Option (BindingHost σ)) (state : σ) : Reply :=
  match host with
  | none => .error .unsupported
  | some host => (host.scope state).mapError .scope

/-- Stores the first binding of a host, if it is another hotkey than the stored one. -/
def pull {σ : Type} (host : Option (BindingHost σ)) (state : σ) (store : Store) :
    Reply × Store :=
  match host with
  | none => (.error .unsupported, store)
  | some host =>
    match host.bindings state with
    | .error e => (.error (.read e), store)
    | .ok bindings =>
      let current := bindings.headD ""
      if store.settings.hotkey = current then (.ok current, store)
      else
        match store.save none (some current) with
        | (.ok (), store) => (.ok current, store)
        | (.error e, store) => (.error (.read e), store)

/-- Binds the stored hotkey at a host; a blank one clears the bindings. -/
def push {σ : Type} (host : Option (BindingHost σ)) (state : σ) (store : Store) : Reply × σ :=
  match host with
  | none => (.error .unsupported, state)
  | some host =>
    let hotkey := store.settings.hotkey
    match host.setBindings (if Text.strip hotkey = "" then [] else [hotkey]) state with
    | (.ok (), state) => (.ok hotkey, state)
    | (.error e, state) => (.error (.bind hotkey e), state)

end Hotkey

end SqlDesk
