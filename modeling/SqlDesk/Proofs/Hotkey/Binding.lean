/-
Bindings that a host renders and reads again.

A host renders each of its key sequences behind the name of its scope, and reads the keys of a
binding behind the first separator in it. So it reads what it has rendered if that separator is the
one it has put there (`Hotkey.split_append`), which no other scope grants (`Hotkey.split_append_ne`);
a scope is one of these just if it holds no separator and does not end with a colon
(`Hotkey.isProper_iff`).
-/
import SqlDesk.Proofs.Hotkey.Exchange

namespace SqlDesk

namespace Hotkey

/-- Just the names that hold no separator and do not end with a colon are proper scopes. -/
theorem isProper_iff {name : String} : IsProper name ↔
    ¬ separator.toList <:+: name.toList ∧ name.toList.getLast? ≠ some ':' := by
  refine ⟨fun h => ⟨fun hinside => ?_, fun hlast => ?_⟩, fun h => isProper_of_free h.1 h.2⟩
  · exact h (hinside.trans (List.prefix_append _ _).isInfix)
  · obtain ⟨front, hfront⟩ := List.getLast?_eq_some_iff.mp hlast
    have hseparator : separator.toList = [':', ':'] := by decide
    exact h ⟨front, [], by simp [hfront, hseparator]⟩

end Hotkey

namespace KeyNotation

open Hotkey (separator)

variable {κ : Type} (keys : KeyNotation κ)

/-- The key sequence that the keys of a binding are read as. -/
def denoted (binding : String) : κ :=
  keys.read (Hotkey.keys binding)

/-- A sequence that is not empty is spelt without blanks around it, and is read again from its
spelling. -/
structure Spells (sequence : κ) : Prop where
  filled : keys.isEmpty sequence = false
  strip_spell : Text.strip (keys.spell sequence) = keys.spell sequence
  read_spell : keys.read (keys.spell sequence) = sequence

theorem Lawful.spells {keys : KeyNotation κ} (hkeys : keys.Lawful) {text : String}
    (h : keys.isEmpty (keys.read text) = false) : keys.Spells (keys.read text) :=
  ⟨h, hkeys.strip_spell text h, hkeys.read_spell text h⟩

/-! ## Reading bindings -/

/-- The sequences of some bindings are those of all of them in their order, or there is a first one
that is read as no sequence. -/
theorem sequences_cases (bindings : List String) :
    ((∀ binding ∈ bindings, keys.isEmpty (keys.denoted binding) = false) ∧
        keys.sequences bindings = .ok (bindings.map keys.denoted)) ∨
      ∃ before binding after, bindings = before ++ binding :: after ∧
        (∀ other ∈ before, keys.isEmpty (keys.denoted other) = false) ∧
        keys.isEmpty (keys.denoted binding) = true ∧
        keys.sequences bindings = .error (.keySequence (Hotkey.keys binding)) := by
  induction bindings with
  | nil => exact .inl ⟨nofun, rfl⟩
  | cons binding rest ih =>
    cases hread : keys.isEmpty (keys.denoted binding) with
    | true => exact .inr ⟨[], binding, rest, rfl, nofun, hread, if_pos hread⟩
    | false =>
      have hsome : ¬ keys.isEmpty (keys.read (Hotkey.keys binding)) = true :=
        Bool.eq_false_iff.mp hread
      have hfront : ∀ {more : List String},
          (∀ other ∈ more, keys.isEmpty (keys.denoted other) = false) →
            ∀ other ∈ binding :: more, keys.isEmpty (keys.denoted other) = false :=
        fun hmore => List.forall_mem_cons.mpr ⟨hread, hmore⟩
      obtain ⟨hrest, hsequences⟩ | ⟨before, other, after, rfl, hbefore, hother, hsequences⟩ := ih
      · refine .inl ⟨hfront hrest, ?_⟩
        simp only [sequences, if_neg hsome, hsequences, List.map_cons]
        rfl
      · refine .inr ⟨binding :: before, other, after, rfl, hfront hbefore, hother, ?_⟩
        simp only [sequences, if_neg hsome, hsequences]

/-- A host takes all of some bindings, or refuses the first one that is read as no sequence. -/
theorem setBindings_cases (name : String) (bindings : List String) (shortcuts : List κ) :
    ((∀ binding ∈ bindings, keys.isEmpty (keys.denoted binding) = false) ∧
        (keys.host name).setBindings bindings shortcuts = (.ok (), bindings.map keys.denoted)) ∨
      ∃ before binding after, bindings = before ++ binding :: after ∧
        (∀ other ∈ before, keys.isEmpty (keys.denoted other) = false) ∧
        keys.isEmpty (keys.denoted binding) = true ∧
        (keys.host name).setBindings bindings shortcuts =
          (.error (.keySequence (Hotkey.keys binding)), shortcuts) := by
  simp only [host]
  obtain ⟨hread, hsequences⟩ | ⟨before, binding, after, hparts, hbefore, hread, hsequences⟩ :=
    keys.sequences_cases bindings
  · exact .inl ⟨hread, by rw [hsequences]⟩
  · exact .inr ⟨before, binding, after, hparts, hbefore, hread, by rw [hsequences]⟩

/-! ## Rendering and reading -/

variable {keys} {name : String}

theorem Spells.denoted_append {sequence : κ} (h : keys.Spells sequence)
    (hproper : Hotkey.IsProper name) :
    keys.denoted (name ++ separator ++ keys.spell sequence) = sequence := by
  rw [denoted, Hotkey.keys_append hproper, h.strip_spell, h.read_spell]

/-- A host in a proper scope reads what it has rendered, whatever it holds by then. -/
theorem setBindings_bindings (hname : name ≠ "") (hproper : Hotkey.IsProper name)
    {shortcuts : List κ} (h : ∀ sequence ∈ shortcuts, keys.Spells sequence) :
    ∃ bindings, (keys.host name).bindings shortcuts = .ok bindings ∧
      ∀ others, (keys.host name).setBindings bindings others = (.ok (), shortcuts) := by
  have hfilled : (shortcuts.filter fun sequence => !keys.isEmpty sequence) = shortcuts :=
    List.filter_eq_self.mpr fun sequence hmem => by rw [(h sequence hmem).filled]; rfl
  refine ⟨shortcuts.map fun sequence => name ++ separator ++ keys.spell sequence, ?_, ?_⟩
  · simp only [host, if_neg hname, hfilled]
  · intro others
    have hdenoted : (shortcuts.map fun sequence =>
        name ++ separator ++ keys.spell sequence).map keys.denoted = shortcuts := by
      rw [List.map_map]
      exact (List.map_congr_left fun sequence hmem =>
        (h sequence hmem).denoted_append hproper).trans (List.map_id _)
    obtain ⟨-, hset⟩ | ⟨before, binding, after, hparts, -, hempty, -⟩ := keys.setBindings_cases name
      (shortcuts.map fun sequence => name ++ separator ++ keys.spell sequence) others
    · rw [hset, hdenoted]
    · have hmem : binding ∈ before ++ binding :: after := by simp
      rw [← hparts] at hmem
      obtain ⟨sequence, hsequence, rfl⟩ := List.mem_map.mp hmem
      rw [(h sequence hsequence).denoted_append hproper, (h sequence hsequence).filled] at hempty
      cases hempty

/-- **A host takes bindings as a whole, and takes back those that it renders.** Given some bindings
it holds the sequences of all of them, in their order, or it refuses the first one that is read as no
sequence and holds what it held.

If the name of its scope is not empty, holds no separator and does not end with a colon, then it
renders sequences as bindings from which these sequences are read, whatever it holds by then. For just
under this condition on the name does a text cut in two at its separator give the name and the keys
behind it, whatever the keys are, blanks around them and around the name aside. -/
theorem host_takes_back (keys : KeyNotation κ) (name : String) :
    (∀ bindings shortcuts,
      ((∀ binding ∈ bindings, keys.isEmpty (keys.denoted binding) = false) ∧
          (keys.host name).setBindings bindings shortcuts = (.ok (), bindings.map keys.denoted)) ∨
        ∃ before binding after, bindings = before ++ binding :: after ∧
          (∀ other ∈ before, keys.isEmpty (keys.denoted other) = false) ∧
          keys.isEmpty (keys.denoted binding) = true ∧
          (keys.host name).setBindings bindings shortcuts =
            (.error (.keySequence (Hotkey.keys binding)), shortcuts)) ∧
    (name ≠ "" → ¬ separator.toList <:+: name.toList → name.toList.getLast? ≠ some ':' →
      ∀ shortcuts, (∀ sequence ∈ shortcuts, keys.Spells sequence) →
        ∃ bindings, (keys.host name).bindings shortcuts = .ok bindings ∧
          ∀ others, (keys.host name).setBindings bindings others = (.ok (), shortcuts)) ∧
    (¬ separator.toList <:+: name.toList ∧ name.toList.getLast? ≠ some ':' → ∀ text,
      Hotkey.split (name ++ separator ++ text) = (Text.strip name, Text.strip text)) ∧
    (separator.toList <:+: name.toList ∨ name.toList.getLast? = some ':' →
      Text.strip name = name → ∀ text,
        Hotkey.split (name ++ separator ++ text) ≠ (Text.strip name, Text.strip text)) := by
  refine ⟨fun bindings shortcuts => keys.setBindings_cases name bindings shortcuts,
    fun hname hfree hlast shortcuts h =>
      setBindings_bindings hname (Hotkey.isProper_of_free hfree hlast) h,
    fun hproper => Hotkey.split_append (Hotkey.isProper_iff.mpr hproper), fun hcut hstrip => ?_⟩
  refine Hotkey.split_append_ne (fun hproper => ?_) hstrip
  obtain ⟨hfree, hlast⟩ := Hotkey.isProper_iff.mp hproper
  exact hcut.elim hfree hlast

/-- An action at a host that calls the scope by a name with a single colon in it. -/
def colonAction : Action :=
  { shortcuts := ["Ctrl+K, Ctrl+F", "F5"], scopeName := some "SQL: Éditeur" }

/-- The bindings of that action are taken by another one as they are, while those of a name with a
separator in it are cut elsewhere. -/
theorem host_takes_back_colonAction :
    ("SQL: Éditeur" ≠ "" ∧ ¬ separator.toList <:+: "SQL: Éditeur".toList ∧
      "SQL: Éditeur".toList.getLast? ≠ some ':' ∧
      ∀ sequence ∈ colonAction.shortcuts, verbatim.Spells sequence) ∧
    (∃ bindings, Action.host.bindings colonAction = .ok bindings ∧
      ∀ shortcuts, Action.host.setBindings bindings { colonAction with shortcuts := shortcuts } =
        (.ok (), colonAction)) ∧
    Hotkey.split "SQL: Éditeur:: F5" = ("SQL: Éditeur", "F5") ∧
    Hotkey.split "A::B::F5" ≠ ("A::B", "F5") := by
  have hname : "SQL: Éditeur" ≠ "" := by decide
  have hfree : ¬ separator.toList <:+: "SQL: Éditeur".toList := by decide +kernel
  have hlast : "SQL: Éditeur".toList.getLast? ≠ some ':' := by decide +kernel
  have hspells : ∀ sequence ∈ colonAction.shortcuts, verbatim.Spells sequence := by
    intro sequence hmem
    have hread : verbatim.isEmpty (verbatim.read sequence) = false ∧
        verbatim.read sequence = sequence := by
      revert sequence
      decide +kernel
    exact hread.2 ▸ lawful_verbatim.spells hread.1
  obtain ⟨-, hback, hsplit, -⟩ := host_takes_back verbatim "SQL: Éditeur"
  obtain ⟨-, -, -, hother⟩ := host_takes_back verbatim "A::B"
  obtain ⟨bindings, hbindings, hset⟩ := hback hname hfree hlast colonAction.shortcuts hspells
  refine ⟨⟨hname, hfree, hlast, hspells⟩, ⟨bindings, ?_, fun shortcuts => ?_⟩, ?_, ?_⟩
  · exact hbindings
  · rw [Hotkey.setBindings_action, Hotkey.keyHost_rebound]
    exact congrArg (fun outcome : Except Failure Unit × List String =>
      (outcome.1, { colonAction with shortcuts := outcome.2 })) (hset shortcuts)
  · have hstrip : (Text.strip "SQL: Éditeur", Text.strip " F5") = ("SQL: Éditeur", "F5") := by
      decide +kernel
    exact (hsplit ⟨hfree, hlast⟩ " F5").trans hstrip
  · have hstrip : Text.strip "A::B" = "A::B" ∧ Text.strip "F5" = "F5" := by decide +kernel
    have hinside : separator.toList <:+: "A::B".toList := by decide +kernel
    have hcut := hother (.inl hinside) hstrip.1 "F5"
    rw [hstrip.1, hstrip.2] at hcut
    exact hcut

end KeyNotation

end SqlDesk
