/-
Hosts of key bindings.

A host tells the bindings of the format command, sets them, and knows how the scope of the editor is
called. Each of these can fail. A host that keeps its bindings as key sequences reads and spells them
in its own notation. The host of an action keeps them as the shortcuts of that action; its scope has
its English name unless the host has another.
-/
import SqlDesk.Hotkey.KeyNotation

namespace SqlDesk

/-- What a host with a state of some type does. -/
structure BindingHost (σ : Type) where
  bindings : σ → Except Failure (List String)
  setBindings : List String → σ → Except Failure Unit × σ
  scope : σ → Except Failure String

/-- The host that keeps its bindings as key sequences and calls the scope by a name. It sets all
bindings or none; an empty name is no name. -/
def KeyNotation.host {κ : Type} (keys : KeyNotation κ) (name : String) : BindingHost (List κ) where
  bindings shortcuts :=
    if name = "" then .error .noScope
    else
      .ok ((shortcuts.filter fun sequence => !keys.isEmpty sequence).map fun sequence =>
        name ++ Hotkey.separator ++ keys.spell sequence)
  setBindings bindings shortcuts :=
    match keys.sequences bindings with
    | .error e => (.error e, shortcuts)
    | .ok sequences => (.ok (), sequences)
  scope _ := if name = "" then .error .noScope else .ok name

/-- An action with shortcuts, and the name of the scope at the host if it has one of its own. -/
structure Action (κ : Type := String) where
  shortcuts : List κ := []
  scopeName : Option String := none
  deriving DecidableEq, Repr

namespace Action

variable {κ : Type} [keys : KeyNotation κ]

/-- The action with other shortcuts, as they are read. -/
def rebind (texts : List String) (action : Action κ) : Action κ :=
  { action with shortcuts := texts.map keys.read }

/-- The host of the shortcuts of an action. -/
def keyHost (action : Action κ) : BindingHost (List κ) :=
  keys.host (action.scopeName.getD factoryScope)

/-- The host of an action. -/
def host : BindingHost (Action κ) where
  bindings action := action.keyHost.bindings action.shortcuts
  setBindings bindings action :=
    let (outcome, shortcuts) := action.keyHost.setBindings bindings action.shortcuts
    (outcome, { action with shortcuts := shortcuts })
  scope action := action.keyHost.scope action.shortcuts

end Action

end SqlDesk
