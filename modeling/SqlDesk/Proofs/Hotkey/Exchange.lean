/-
The stored hotkey and the bindings of a host settle in one round.

A host that keeps its bindings as key sequences reads the keys of a hotkey in its own notation and
spells them in its own scope (`KeyNotation.host`). Once the stored hotkey was pushed and what the
host has was pulled, both sides agree (`Lawful.agree_settled`), and where they agree no exchange
changes anything, whatever the disk would do with a file (`exchangeAll_of_agree`). The host of an
action is such a host, whose notation spells every sequence as it was read (`exchangeAll_action`).
-/
import SqlDesk.Proofs.Hotkey
import SqlDesk.Proofs.Text.Numeral

namespace SqlDesk

/-! ## Notations -/

namespace KeyNotation

variable {κ : Type}

/-- What is read is spelt without blanks around it, and is read again from its spelling. -/
structure Lawful (keys : KeyNotation κ) : Prop where
  strip_spell : ∀ text, keys.isEmpty (keys.read text) = false →
    Text.strip (keys.spell (keys.read text)) = keys.spell (keys.read text)
  read_spell : ∀ text, keys.isEmpty (keys.read text) = false →
    keys.read (keys.spell (keys.read text)) = keys.read text

/-- The key sequences that a host has once a hotkey was accepted. -/
def settledKeys (keys : KeyNotation κ) (hotkey : String) : List κ :=
  if Text.strip hotkey = "" then [] else [keys.read (Hotkey.keys hotkey)]

/-- The hotkey that comes back from a host once a hotkey was accepted. -/
def settledHotkey (keys : KeyNotation κ) (name hotkey : String) : String :=
  if Text.strip hotkey = "" then ""
  else name ++ Hotkey.separator ++ keys.spell (keys.read (Hotkey.keys hotkey))

end KeyNotation

/-! ## The notation of an action -/

namespace KeySequence

open Text (isBlank)

theorem isBlank_of_isUpper {c : Char} (h : c.isUpper = true) : isBlank c = false := by
  have hletter : c.val ≥ 'A'.val ∧ c.val ≤ 'Z'.val := of_decide_eq_true h
  have hrange : 0x41 ≤ c.toNat ∧ c.toNat ≤ 0x5A := hletter
  simp only [isBlank, Bool.or_eq_false_iff, Bool.and_eq_false_iff, decide_eq_false_iff_not,
    beq_eq_false_iff_ne]
  omega

/-- A text that is not empty and has no blank in it. -/
def IsSolid (cs : List Char) : Prop :=
  cs ≠ [] ∧ ∀ c ∈ cs, isBlank c = false

theorem isSolid_of_isKey {cs : List Char} (h : isKey cs = true) : IsSolid cs := by
  have hF : isBlank 'F' = false := by decide
  unfold isKey at h
  split at h
  · next c =>
    refine ⟨List.cons_ne_nil _ _, ?_⟩
    rcases Bool.or_eq_true_iff.mp h with hupper | hdigit
    · simp [isBlank_of_isUpper hupper]
    · simp [Text.isBlank_of_isDigit hdigit]
  · next c =>
    obtain ⟨hdigit, -⟩ := Bool.and_eq_true_iff.mp h
    exact ⟨List.cons_ne_nil _ _, by simp [hF, Text.isBlank_of_isDigit hdigit]⟩
  · next c d =>
    obtain ⟨hfirst, hsecond⟩ := Bool.and_eq_true_iff.mp h
    obtain ⟨hdigit, -⟩ := Bool.and_eq_true_iff.mp hfirst
    exact ⟨List.cons_ne_nil _ _,
      by simp [hF, Text.isBlank_of_isDigit hdigit, Text.isBlank_of_isDigit hsecond]⟩
  · cases h

theorem eq_of_dropModifier? {chord rest : List Char} (h : dropModifier? chord = some rest) :
    ∃ modifier ∈ modifiers, chord = modifier.toList ++ rest := by
  obtain ⟨modifier, hmem, hdrop⟩ := List.exists_of_findSome?_eq_some h
  refine ⟨modifier, hmem, ?_⟩
  split at hdrop
  · next hfront =>
    obtain ⟨tail, rfl⟩ := List.isPrefixOf_iff_prefix.mp hfront
    obtain rfl : tail = rest := by simpa [← String.length_toList] using hdrop
    rfl
  · cases hdrop

theorem isSolid_of_isChordWithin {fuel : Nat} {chord : List Char}
    (h : isChordWithin fuel chord = true) : IsSolid chord := by
  induction fuel generalizing chord with
  | zero => exact isSolid_of_isKey h
  | succ fuel ih =>
    simp only [isChordWithin] at h
    split at h
    · next rest hdrop =>
      obtain ⟨modifier, hmem, rfl⟩ := eq_of_dropModifier? hdrop
      have hmodifier : ∀ modifier ∈ modifiers, (modifier.toList.all fun c => !isBlank c) = true := by
        decide
      obtain ⟨hne, hsolid⟩ := ih h
      refine ⟨List.append_ne_nil_of_right_ne_nil _ hne, fun c hc => ?_⟩
      rcases List.mem_append.mp hc with hc | hc
      · simpa using List.all_eq_true.mp (hmodifier modifier hmem) c hc
      · exact hsolid c hc
    · exact isSolid_of_isKey h

theorem solid_ends_of_isSequenceOf {count : Nat} {cs : List Char}
    (h : isSequenceOf count cs = true) : ∃ first last, IsSolid first ∧ IsSolid last ∧
      first <+: cs ∧ last <:+ cs := by
  induction count generalizing cs with
  | zero => cases h
  | succ count ih =>
    simp only [isSequenceOf] at h
    split at h
    · next chord rest hcut =>
      obtain ⟨hchord, hrest⟩ := Bool.and_eq_true_iff.mp h
      obtain ⟨-, last, -, hlast, -, hsuffix⟩ := ih hrest
      rw [Text.eq_of_cut? hcut]
      refine ⟨chord, last, isSolid_of_isChordWithin hchord, hlast, ?_,
        hsuffix.trans (List.suffix_append _ _)⟩
      rw [List.append_assoc]
      exact List.prefix_append _ _
    · have hsolid := isSolid_of_isChordWithin h
      exact ⟨cs, cs, hsolid, hsolid, List.prefix_refl _, List.suffix_refl _⟩

theorem ofText_eq {text : String} (h : ofText text ≠ "") : ofText text = text := by
  unfold ofText at h ⊢
  split at h
  · next hsequence => rw [if_pos hsequence]
  · exact absurd rfl h

theorem strip_ofText (text : String) : Text.strip (ofText text) = ofText text := by
  by_cases hsequence : isSequenceOf 4 text.toList = true
  · obtain ⟨first, last, hfirst, hlast, ⟨more, hmore⟩, before, hbefore⟩ :=
      solid_ends_of_isSequenceOf hsequence
    have htrim : Text.trim text.toList = text.toList := by
      refine Text.trim_of_ends (fun c hc => ?_) fun c hc => ?_
      · rw [← hmore, List.head?_append, List.head?_eq_some_head hfirst.1] at hc
        obtain rfl := Option.some.inj hc
        exact hfirst.2 _ (List.head_mem hfirst.1)
      · rw [← hbefore, List.getLast?_append, List.getLast?_eq_some_getLast hlast.1] at hc
        obtain rfl := Option.some.inj hc
        exact hlast.2 _ (List.getLast_mem hlast.1)
    rw [ofText, if_pos hsequence, Text.strip, htrim, String.ofList_toList]
  · rw [ofText, if_neg hsequence]
    decide

end KeySequence

namespace KeyNotation

theorem isEmpty_verbatim {text : String} :
    verbatim.isEmpty (verbatim.read text) = true ↔ KeySequence.ofText text = "" :=
  decide_eq_true_iff

theorem lawful_verbatim : verbatim.Lawful where
  strip_spell text _ := KeySequence.strip_ofText text
  read_spell text hread := by
    have hne : KeySequence.ofText text ≠ "" := fun hempty => by
      rw [isEmpty_verbatim.mpr hempty] at hread
      cases hread
    have hspell : verbatim.spell (verbatim.read text) = text := KeySequence.ofText_eq hne
    rw [hspell]

end KeyNotation

/-! ## Exchanges -/

namespace Hotkey

/-- The two ways in which the hotkey goes: from the store to a host, and back. -/
inductive Exchange where
  | push
  | pull
  deriving DecidableEq, Repr

variable {σ : Type} {host : BindingHost σ} {state : σ} {store : Store}

/-- What an exchange does to the state of a host and to a store. -/
def Exchange.perform (host : BindingHost σ) (state : σ) (store : Store) :
    Exchange → Reply × σ × Store
  | push =>
    let (reply, state) := Hotkey.push (some host) state store
    (reply, state, store)
  | pull =>
    let (reply, store) := Hotkey.pull (some host) state store
    (reply, state, store)

/-- What exchanges do one after the other, with the reply to each of them. -/
def exchangeAll (host : BindingHost σ) : List Exchange → σ → Store → List Reply × σ × Store
  | [], state, store => ([], state, store)
  | exchange :: rest, state, store =>
    let (reply, state, store) := exchange.perform host state store
    let (replies, state, store) := exchangeAll host rest state store
    (reply :: replies, state, store)

/-- The host has bound the hotkey, and it comes back from there. -/
structure Agree (host : BindingHost σ) (state : σ) (hotkey : String) : Prop where
  bound : host.setBindings (if Text.strip hotkey = "" then [] else [hotkey]) state = (.ok (), state)
  back : ∃ bindings, host.bindings state = .ok bindings ∧ bindings.headD "" = hotkey

theorem Agree.perform (h : Agree host state store.settings.hotkey) (exchange : Exchange) :
    exchange.perform host state store = (.ok store.settings.hotkey, state, store) := by
  obtain ⟨hbound, bindings, hbindings, hback⟩ := h
  cases exchange with
  | push => simp only [Exchange.perform, Hotkey.push, hbound]
  | pull => simp only [Exchange.perform, Hotkey.pull, hbindings, hback, if_true]

/-- Where both sides agree, no exchange changes anything. -/
theorem exchangeAll_of_agree (h : Agree host state store.settings.hotkey)
    (exchanges : List Exchange) : exchangeAll host exchanges state store =
      (exchanges.map fun _ => .ok store.settings.hotkey, state, store) := by
  induction exchanges with
  | nil => rfl
  | cons exchange rest ih => simp only [exchangeAll, h.perform, ih, List.map_cons]

theorem pull_of_write {hotkey : String}
    (hback : ∃ bindings, host.bindings state = .ok bindings ∧ bindings.headD "" = hotkey)
    (hwrite : (store.write { store.settings with hotkey := hotkey }).1 = .ok ()) :
    ∃ after, pull (some host) state store = (.ok hotkey, after) ∧
      after.settings = { store.settings with hotkey := hotkey } := by
  obtain ⟨bindings, hbindings, rfl⟩ := hback
  simp only [pull, hbindings]
  by_cases hsame : store.settings.hotkey = bindings.headD ""
  · refine ⟨store, by rw [if_pos hsame], ?_⟩
    rw [← hsame]
  · rcases hresult : store.write { store.settings with hotkey := bindings.headD "" } with
      ⟨outcome, disk⟩
    obtain rfl : outcome = .ok () := by rw [← hwrite, hresult]
    have hsave : store.save none (some (bindings.headD "")) = (.ok (), { store with
        disk := disk, settings := { store.settings with hotkey := bindings.headD "" } }) := by
      simp only [Store.save, Store.newOptions, Store.commit, Option.getD_some]
      rw [hresult]
    exact ⟨_, by rw [if_neg hsame, hsave], rfl⟩

/-! ## The host of an action -/

section

variable {κ : Type} [KeyNotation κ]

theorem setBindings_action (bindings : List String) (action : Action κ) :
    Action.host.setBindings bindings action =
      ((action.keyHost.setBindings bindings action.shortcuts).1,
        { action with
          shortcuts := (action.keyHost.setBindings bindings action.shortcuts).2 }) := rfl

theorem push_action (action : Action κ) (store : Store) : push (some Action.host) action store =
    ((push (some action.keyHost) action.shortcuts store).1,
      { action with shortcuts := (push (some action.keyHost) action.shortcuts store).2 }) := by
  simp only [push, setBindings_action]
  rcases action.keyHost.setBindings _ action.shortcuts with ⟨e | u, shortcuts⟩
  · rfl
  · rfl

theorem pull_action (action : Action κ) (store : Store) :
    pull (some Action.host) action store = pull (some action.keyHost) action.shortcuts store := rfl

theorem keyHost_rebound (action : Action κ) (shortcuts : List κ) :
    Action.keyHost { action with shortcuts := shortcuts } = action.keyHost := rfl

/-- The host of an action is the host of its shortcuts in every run of exchanges. -/
theorem exchangeAll_action (exchanges : List Exchange) (action : Action κ) (store : Store) :
    exchangeAll Action.host exchanges action store =
      ((exchangeAll action.keyHost exchanges action.shortcuts store).1,
        { action with
          shortcuts := (exchangeAll action.keyHost exchanges action.shortcuts store).2.1 },
        (exchangeAll action.keyHost exchanges action.shortcuts store).2.2) := by
  induction exchanges generalizing action store with
  | nil => rfl
  | cons exchange rest ih =>
    cases exchange with
    | push => simp only [exchangeAll, Exchange.perform, push_action, ih, keyHost_rebound]
    | pull => simp only [exchangeAll, Exchange.perform, pull_action, ih]

end

/-! ## Settling -/

theorem isProper_of_free {name : String} (hname : ¬ separator.toList <:+: name.toList)
    (hlast : name.toList.getLast? ≠ some ':') : IsProper name := by
  rintro ⟨before, after, heq⟩
  have hseparator : separator.toList = [':', ':'] := by decide
  rcases List.eq_nil_or_concat after with rfl | ⟨more, c, rfl⟩
  · -- the separator ends with the colon that was added
    rw [hseparator, List.append_nil] at heq
    have hfront : before ++ [':'] = name.toList :=
      (List.append_inj' (show (before ++ [':']) ++ [':'] = name.toList ++ [':'] by
        rw [← heq]; simp) rfl).1
    exact hlast (by rw [← hfront, List.getLast?_concat])
  · rw [List.concat_eq_append, ← List.append_assoc] at heq
    exact hname ⟨before, more, (List.append_inj' heq rfl).1⟩

end Hotkey

namespace KeyNotation

open Hotkey

variable {κ : Type} {keys : KeyNotation κ} {name hotkey : String}

/-- A hotkey is accepted if it is blank or its keys are read as a sequence. -/
theorem setBindings_accepted (h : Text.strip hotkey ≠ "" →
      keys.isEmpty (keys.read (Hotkey.keys hotkey)) = false) (shortcuts : List κ) :
    (keys.host name).setBindings (if Text.strip hotkey = "" then [] else [hotkey]) shortcuts =
      (.ok (), keys.settledKeys hotkey) := by
  by_cases hblank : Text.strip hotkey = ""
  · simp only [host, settledKeys, if_pos hblank, sequences]
  · simp only [host, settledKeys, if_neg hblank, sequences, h hblank, if_neg Bool.false_ne_true]

theorem isEmpty_of_push {shortcuts : List κ} {store : Store} {reply : String}
    (h : (push (some (keys.host name)) shortcuts store).1 = .ok reply)
    (hblank : Text.strip store.settings.hotkey ≠ "") :
    keys.isEmpty (keys.read (Hotkey.keys store.settings.hotkey)) = false := by
  rw [← Bool.not_eq_true]
  intro hempty
  simp only [push, host, if_neg hblank, sequences, if_pos hempty] at h
  cases h

theorem bindings_settledKeys (hname : name ≠ "") (h : Text.strip hotkey ≠ "" →
      keys.isEmpty (keys.read (Hotkey.keys hotkey)) = false) :
    ∃ bindings, (keys.host name).bindings (keys.settledKeys hotkey) = .ok bindings ∧
      bindings.headD "" = keys.settledHotkey name hotkey := by
  by_cases hblank : Text.strip hotkey = ""
  · refine ⟨[], ?_, ?_⟩
    · simp [host, settledKeys, if_pos hblank, if_neg hname]
    · simp only [settledHotkey, if_pos hblank, List.headD_nil]
  · refine ⟨[keys.settledHotkey name hotkey], ?_, List.headD_cons⟩
    simp [host, settledKeys, settledHotkey, if_neg hblank, if_neg hname, h hblank]

theorem strip_ne_of_separator (name text : String) :
    Text.strip (name ++ separator ++ text) ≠ "" := by
  have hcolon : ':' ∈ Text.trim (name ++ separator ++ text).toList :=
    Text.mem_trim (by decide) (by simp [separator])
  intro hblank
  have htrim : Text.trim (name ++ separator ++ text).toList = [] := by
    simpa [Text.strip] using congrArg String.toList hblank
  rw [htrim] at hcolon
  cases hcolon

theorem Lawful.read_settledHotkey (hkeys : keys.Lawful) (hproper : IsProper name)
    (hblank : Text.strip hotkey ≠ "")
    (h : keys.isEmpty (keys.read (Hotkey.keys hotkey)) = false) :
    keys.read (Hotkey.keys (keys.settledHotkey name hotkey)) =
      keys.read (Hotkey.keys hotkey) := by
  rw [settledHotkey, if_neg hblank, keys_append hproper, hkeys.strip_spell _ h,
    hkeys.read_spell _ h]

/-- Once a hotkey was accepted and came back, both sides agree on it. -/
theorem Lawful.agree_settled (hkeys : keys.Lawful) (hname : name ≠ "") (hproper : IsProper name)
    (h : Text.strip hotkey ≠ "" → keys.isEmpty (keys.read (Hotkey.keys hotkey)) = false) :
    Agree (keys.host name) (keys.settledKeys hotkey) (keys.settledHotkey name hotkey) := by
  refine ⟨?_, bindings_settledKeys hname h⟩
  by_cases hblank : Text.strip hotkey = ""
  · have hsettled : keys.settledHotkey name hotkey = "" := if_pos hblank
    rw [hsettled, settledKeys, if_pos hblank]
    rfl
  · have hread := hkeys.read_settledHotkey hproper hblank (h hblank)
    rw [setBindings_accepted fun _ => by rw [hread]; exact h hblank, settledKeys, settledKeys,
      if_neg hblank, hread, settledHotkey, if_neg hblank, if_neg (strip_ne_of_separator _ _)]

/-- **The hotkey settles in one round.** If a host whose notation is lawful accepts the stored
hotkey, in a scope whose name is not empty, holds no separator and does not end with a colon, then
the hotkey that is pulled next is empty if the stored one was blank and else the keys as they were
read, in that scope. It is stored if that can be written. From then on every push and every pull
succeeds and changes neither the bindings nor the store, not even on a disk on which no file could
be written. -/
theorem Lawful.settles (hkeys : keys.Lawful) (hname : name ≠ "")
    (hfree : ¬ separator.toList <:+: name.toList) (hlast : name.toList.getLast? ≠ some ':')
    (shortcuts : List κ) (store : Store)
    (haccepted : ∃ reply, (push (some (keys.host name)) shortcuts store).1 = .ok reply)
    (hwrite : (store.write { store.settings with
      hotkey := keys.settledHotkey name store.settings.hotkey }).1 = .ok ()) :
    ∃ after, exchangeAll (keys.host name) [.push, .pull] shortcuts store =
        ([.ok store.settings.hotkey, .ok (keys.settledHotkey name store.settings.hotkey)],
          keys.settledKeys store.settings.hotkey, after) ∧
      after.settings = { store.settings with
        hotkey := keys.settledHotkey name store.settings.hotkey } ∧
      ∀ (exchanges : List Exchange) (disk : Disk),
        exchangeAll (keys.host name) exchanges (keys.settledKeys store.settings.hotkey)
            { after with disk := disk } =
          (exchanges.map fun _ => .ok (keys.settledHotkey name store.settings.hotkey),
            keys.settledKeys store.settings.hotkey, { after with disk := disk }) := by
  obtain ⟨reply, hreply⟩ := haccepted
  have hread := isEmpty_of_push hreply
  have hagree := hkeys.agree_settled hname (isProper_of_free hfree hlast) hread
  obtain ⟨after, hpull, hafter⟩ := pull_of_write hagree.back hwrite
  refine ⟨after, ?_, hafter, fun exchanges disk => ?_⟩
  · simp only [exchangeAll, Exchange.perform, push, setBindings_accepted hread, hpull]
  · have hstored : ({ after with disk := disk } : Store).settings.hotkey =
        keys.settledHotkey name store.settings.hotkey := by
      rw [hafter]
    rw [← hstored] at hagree ⊢
    exact exchangeAll_of_agree hagree exchanges

/-- A store in an empty directory whose hotkey has another scope than that of the host. -/
def foreignStore : Store :=
  { Store.emptyStore with settings.hotkey := "Text Editor:: Ctrl+K, Ctrl+F" }

/-- The hotkey of another scope settles in that of the host. -/
theorem settles_foreign :
    (∃ reply, (push (some (verbatim.host "Éditeur")) ["Ctrl+Q"] foreignStore).1 = .ok reply) ∧
    ∃ after, exchangeAll (verbatim.host "Éditeur") [.push, .pull] ["Ctrl+Q"] foreignStore =
        ([.ok "Text Editor:: Ctrl+K, Ctrl+F", .ok "Éditeur::Ctrl+K, Ctrl+F"],
          ["Ctrl+K, Ctrl+F"], after) ∧
      after.settings = { Settings.factory with hotkey := "Éditeur::Ctrl+K, Ctrl+F" } ∧
      ∀ (exchanges : List Exchange) (disk : Disk),
        exchangeAll (verbatim.host "Éditeur") exchanges ["Ctrl+K, Ctrl+F"]
            { after with disk := disk } =
          (exchanges.map fun _ => .ok "Éditeur::Ctrl+K, Ctrl+F", ["Ctrl+K, Ctrl+F"],
            { after with disk := disk }) := by
  have hhotkey : verbatim.settledHotkey "Éditeur" foreignStore.settings.hotkey =
      "Éditeur::Ctrl+K, Ctrl+F" := by
    decide +kernel
  have hbound : verbatim.settledKeys foreignStore.settings.hotkey = ["Ctrl+K, Ctrl+F"] := by
    decide +kernel
  have haccepted : ∃ reply,
      (push (some (verbatim.host "Éditeur")) ["Ctrl+Q"] foreignStore).1 = .ok reply :=
    ⟨"Text Editor:: Ctrl+K, Ctrl+F", Except.eq_ok_of_toOption (by decide +kernel)⟩
  refine ⟨haccepted, ?_⟩
  have hfree : ¬ separator.toList <:+: "Éditeur".toList := by decide +kernel
  have hlast : "Éditeur".toList.getLast? ≠ some ':' := by decide +kernel
  have hwrite : (foreignStore.write { foreignStore.settings with
      hotkey := verbatim.settledHotkey "Éditeur" foreignStore.settings.hotkey }).1 = .ok () := by
    rw [hhotkey]
    exact Except.eq_ok_of_toOption (by decide +kernel)
  have hsettles := Lawful.settles lawful_verbatim (by decide) hfree hlast ["Ctrl+Q"] foreignStore
    haccepted hwrite
  rw [hhotkey, hbound] at hsettles
  exact hsettles

end KeyNotation

end SqlDesk
