/-
What is asked of a host that may be missing and may fail.

A host is asked for the name of its scope, its bindings are pulled, and the stored hotkey is pushed to
it. Each of these is answered. It is refused if something failed on the way (`Fails.answer_eq_error`)
and only then (`fails_of_answer`): no failure is lost, and none goes on to the caller. Only a pull
touches the store, and one that is refused leaves its settings and all files as they are
(`Inquiry.answer_keeps`).
-/
import SqlDesk.Proofs.Hotkey

namespace SqlDesk

/-- A host holds the bindings that were set last, where they can be seen in its state. -/
def BindingHost.Holds {σ : Type} (host : BindingHost σ) (held : σ → List String) : Prop :=
  ∀ bindings state state', host.setBindings bindings state = (.ok (), state') →
    held state' = bindings

namespace Hotkey

/-- What a host is asked for. -/
inductive Inquiry where
  | scope
  | pull
  | push
  deriving DecidableEq, Repr

variable {σ : Type}

/-- The bindings of a hotkey: none if it is blank. -/
def bindingsOf (hotkey : String) : List String :=
  if Text.strip hotkey = "" then [] else [hotkey]

namespace Inquiry

/-- The reply to an inquiry, and what becomes of the host and the store. -/
def answer (host : Option (BindingHost σ)) (state : σ) (store : Store) :
    Inquiry → Reply × σ × Store
  | scope => (readScope host state, state, store)
  | pull => ((Hotkey.pull host state store).1, state, (Hotkey.pull host state store).2)
  | push => ((Hotkey.push host state store).1, (Hotkey.push host state store).2, store)

/-- What fails when an inquiry is refused: there is no host, the host fails with a cause, or storage
does when another hotkey is to be stored. -/
inductive Fails (host : Option (BindingHost σ)) (state : σ) (store : Store) :
    Inquiry → Refusal → Prop
  | absent (hhost : host = none) (inquiry : Inquiry) : Fails host state store inquiry .unsupported
  | scope {present : BindingHost σ} {cause : Failure} (hhost : host = some present)
      (hscope : present.scope state = .error cause) : Fails host state store .scope (.scope cause)
  | bindings {present : BindingHost σ} {cause : Failure} (hhost : host = some present)
      (hbindings : present.bindings state = .error cause) :
      Fails host state store .pull (.read cause)
  | commit {present : BindingHost σ} {bindings : List String} {cause : Failure}
      (hhost : host = some present) (hbindings : present.bindings state = .ok bindings)
      (hother : store.settings.hotkey ≠ bindings.headD "")
      (hcommit : (store.commit { store.settings with hotkey := bindings.headD "" }).1 =
        .error cause) : Fails host state store .pull (.read cause)
  | bind {present : BindingHost σ} {cause : Failure} (hhost : host = some present)
      (hset : (present.setBindings (bindingsOf store.settings.hotkey) state).1 = .error cause) :
      Fails host state store .push (.bind store.settings.hotkey cause)

variable {host : Option (BindingHost σ)} {state : σ} {store : Store} {inquiry : Inquiry}
  {refusal : Refusal}

/-- Whatever fails, the caller is told. -/
theorem Fails.answer_eq_error (h : Fails host state store inquiry refusal) :
    (inquiry.answer host state store).1 = .error refusal := by
  cases h with
  | absent hhost =>
    subst hhost
    cases inquiry <;> rfl
  | scope hhost hscope =>
    subst hhost
    simp only [answer, readScope, hscope]
    rfl
  | bindings hhost hbindings =>
    subst hhost
    simp only [answer, Hotkey.pull, hbindings]
  | @commit present bindings cause hhost hbindings hother hcommit =>
    subst hhost
    have hsave : (store.save none (some (bindings.headD ""))).1 = .error cause := hcommit
    rcases hresult : store.save none (some (bindings.headD "")) with ⟨outcome, after⟩
    rw [hresult] at hsave
    obtain rfl : outcome = .error cause := hsave
    simp only [answer, Hotkey.pull, hbindings, if_neg hother, hresult]
  | @bind present cause hhost hset =>
    subst hhost
    rcases hresult : present.setBindings (bindingsOf store.settings.hotkey) state with
      ⟨outcome, after⟩
    rw [hresult] at hset
    obtain rfl : outcome = .error cause := hset
    rw [bindingsOf] at hresult
    simp only [answer, Hotkey.push, hresult]

theorem fails_of_answer (h : (inquiry.answer host state store).1 = .error refusal) :
    Fails host state store inquiry refusal := by
  cases inquiry with
  | scope =>
    simp only [answer, readScope] at h
    split at h
    · cases h
      exact .absent rfl _
    · next present =>
      cases hscope : present.scope state with
      | error cause =>
        rw [hscope] at h
        cases h
        exact .scope rfl hscope
      | ok name =>
        rw [hscope] at h
        cases h
  | pull =>
    simp only [answer] at h
    have hpulled := pulled host state store
    generalize Hotkey.pull host state store = result at h hpulled
    cases hpulled with
    | absent hhost =>
      cases h
      exact .absent hhost _
    | unread hhost hbindings =>
      cases h
      exact .bindings hhost hbindings
    | same _ _ _ => cases h
    | stored _ _ _ _ => cases h
    | unstored hhost hbindings hother hcommit =>
      cases h
      exact .commit hhost hbindings hother (congrArg Prod.fst hcommit)
  | push =>
    simp only [answer, Hotkey.push] at h
    split at h
    · cases h
      exact .absent rfl _
    · split at h
      · cases h
      · next hset =>
        cases h
        exact .bind rfl (congrArg Prod.fst hset)

theorem pull_eq_error {after : Store}
    (h : Hotkey.pull host state store = (.error refusal, after)) :
    after.settings = store.settings ∧ ∀ p, after.disk.file? p = store.disk.file? p := by
  have hpulled := pulled host state store
  rw [h] at hpulled
  cases hpulled with
  | absent _ => exact ⟨rfl, fun _ => rfl⟩
  | unread _ _ => exact ⟨rfl, fun _ => rfl⟩
  | @unstored present bindings e _ _ _ _ hcommit =>
    have hfailed := (Store.perform_failed store (.save none (some (bindings.headD "")))).1
    obtain ⟨hsettings, hfiles, -⟩ := hfailed e after hcommit
    exact ⟨hsettings, hfiles⟩

/-- A pull that is not refused stores the first binding of the host, which takes no write if it is
stored already. -/
theorem pull_eq_ok {hotkey : String} {after : Store}
    (h : Hotkey.pull host state store = (.ok hotkey, after)) :
    ∃ present bindings, host = some present ∧ present.bindings state = .ok bindings ∧
      hotkey = bindings.headD "" ∧ after.settings = { store.settings with hotkey := hotkey } ∧
      if store.settings.hotkey = hotkey then after = store
      else store.commit after.settings = (.ok (), after) := by
  have hpulled := pulled host state store
  rw [h] at hpulled
  cases hpulled with
  | same hhost hbindings hsame =>
    refine ⟨_, _, hhost, hbindings, rfl, ?_, ?_⟩
    · rw [← hsame]
    · rw [if_pos hsame]
  | stored hhost hbindings hother hcommit =>
    have hsettings := Store.commit_of_ok hcommit
    refine ⟨_, _, hhost, hbindings, rfl, hsettings, ?_⟩
    rw [if_neg hother, hsettings]
    exact hcommit

theorem push_eq_ok {hotkey : String} {state' : σ}
    (h : Hotkey.push host state store = (.ok hotkey, state')) :
    hotkey = store.settings.hotkey ∧ ∃ present, host = some present ∧
      present.setBindings (bindingsOf hotkey) state = (.ok (), state') := by
  simp only [Hotkey.push] at h
  split at h
  · cases h
  · next present =>
    split at h
    · next hset =>
      cases h
      exact ⟨rfl, present, rfl, hset⟩
    · cases h

/-- **What an inquiry reports and what it keeps**, whatever the host does and wherever storage refuses
a write. It is refused just if something has failed. Only a pull touches the store. If it is refused,
the settings in memory and every file are as they were; otherwise the stored hotkey is the first
binding of the host, no other setting is changed, and nothing is written if it was stored before.
After a push that is not refused the host holds the stored hotkey, or nothing if it is blank. -/
theorem answer_keeps (host : Option (BindingHost σ)) (state : σ) (store : Store)
    (inquiry : Inquiry) (reply : Reply) (state' : σ) (after : Store)
    (h : inquiry.answer host state store = (reply, state', after)) :
    (∀ refusal, reply = .error refusal ↔ Fails host state store inquiry refusal) ∧
    (inquiry ≠ .pull → after = store) ∧
    (inquiry = .pull → ∀ refusal, reply = .error refusal →
      after.settings = store.settings ∧ ∀ p, after.disk.file? p = store.disk.file? p) ∧
    (inquiry = .pull → ∀ hotkey, reply = .ok hotkey →
      ∃ present bindings, host = some present ∧ present.bindings state = .ok bindings ∧
        hotkey = bindings.headD "" ∧ after.settings = { store.settings with hotkey := hotkey } ∧
        if store.settings.hotkey = hotkey then after = store
        else store.commit after.settings = (.ok (), after)) ∧
    (inquiry = .push → ∀ hotkey, reply = .ok hotkey → hotkey = store.settings.hotkey ∧
      ∃ present, host = some present ∧
        present.setBindings (bindingsOf hotkey) state = (.ok (), state') ∧
        ∀ held, present.Holds held → held state' = bindingsOf hotkey) := by
  have hreply : reply = (inquiry.answer host state store).1 := by rw [h]
  refine ⟨fun refusal => ?_, fun hother => ?_, ?_, ?_, ?_⟩
  · rw [hreply]
    exact ⟨fails_of_answer, Fails.answer_eq_error⟩
  · cases inquiry with
    | pull => exact absurd rfl hother
    | scope =>
      cases h
      rfl
    | push =>
      cases h
      rfl
  · rintro rfl refusal rfl
    simp only [answer, Prod.mk.injEq] at h
    exact pull_eq_error (Prod.ext h.1 h.2.2)
  · rintro rfl hotkey rfl
    simp only [answer, Prod.mk.injEq] at h
    exact pull_eq_ok (Prod.ext h.1 h.2.2)
  · rintro rfl hotkey rfl
    simp only [answer, Prod.mk.injEq] at h
    obtain ⟨hstored, present, hhost, hset⟩ := push_eq_ok (Prod.ext h.1 h.2.1)
    exact ⟨hstored, present, hhost, hset, fun held hheld => hheld _ _ _ hset⟩

/-- A host that keeps bindings as they are, and does not know how its scope is called. -/
def namelessHost : BindingHost (List String) where
  bindings state := .ok state
  setBindings bindings _ := (.ok (), bindings)
  scope _ := .error .noScope

theorem holds_namelessHost : namelessHost.Holds id := by
  intro bindings state state' h
  exact (congrArg Prod.snd h).symm

/-- A store in which a hotkey was saved, and whose next write is refused at its last step. -/
def stubbornStore : Store :=
  Store.savedStore.meeting "a" [some .replace]

/-- Another hotkey is not pulled into that store. The stored one is pushed, and the host is asked in
vain for its scope. -/
theorem answer_keeps_stubbornStore :
    (∃ refusal after, pull.answer (some namelessHost) ["F9"] stubbornStore =
        (.error refusal, ["F9"], after) ∧
      Fails (some namelessHost) ["F9"] stubbornStore .pull refusal ∧
      after.settings = stubbornStore.settings ∧
      ∀ p, after.disk.file? p = stubbornStore.disk.file? p) ∧
    push.answer (some namelessHost) ["F9"] stubbornStore =
      (.ok "F6", ["F6"], stubbornStore) ∧
    scope.answer (some namelessHost) ["F9"] stubbornStore =
      (.error (.scope .noScope), ["F9"], stubbornStore) := by
  have hrefused : (pull.answer (some namelessHost) ["F9"] stubbornStore).1.toOption = none := by
    decide +kernel
  have hpushed : (push.answer (some namelessHost) ["F9"] stubbornStore).1.toOption = some "F6" := by
    decide +kernel
  have hfails : Fails (some namelessHost) ["F9"] stubbornStore .scope (.scope .noScope) :=
    .scope rfl rfl
  refine ⟨?_, ?_, ?_⟩
  · obtain ⟨refusal, hrefusal⟩ := Except.eq_error_of_toOption hrefused
    rcases hresult : pull.answer (some namelessHost) ["F9"] stubbornStore with ⟨reply, state, after⟩
    rw [hresult] at hrefusal
    obtain rfl : reply = .error refusal := hrefusal
    obtain ⟨hreported, -, hkept, -⟩ :=
      answer_keeps (some namelessHost) ["F9"] stubbornStore .pull _ state after hresult
    obtain ⟨hsettings, hfiles⟩ := hkept rfl refusal rfl
    have hstate : state = ["F9"] := (congrArg (·.2.1) hresult).symm
    exact ⟨refusal, after, by rw [hstate], (hreported refusal).mp rfl, hsettings, hfiles⟩
  · rcases hresult : push.answer (some namelessHost) ["F9"] stubbornStore with
      ⟨reply, state, after⟩
    rw [hresult] at hpushed
    obtain rfl : reply = .ok "F6" := Except.eq_ok_of_toOption hpushed
    obtain ⟨-, hstore, -, -, hbound⟩ :=
      answer_keeps (some namelessHost) ["F9"] stubbornStore .push _ state after hresult
    obtain ⟨-, present, hpresent, -, hheld⟩ := hbound rfl "F6" rfl
    obtain rfl := Option.some.inj hpresent
    have hstate : state = ["F6"] := hheld id holds_namelessHost
    rw [hstate, hstore nofun]
  · rcases hresult : scope.answer (some namelessHost) ["F9"] stubbornStore with
      ⟨reply, state, after⟩
    obtain ⟨hreported, hstore, -⟩ :=
      answer_keeps (some namelessHost) ["F9"] stubbornStore .scope reply state after hresult
    have hstate : state = ["F9"] := (congrArg (·.2.1) hresult).symm
    rw [(hreported _).mpr hfails, hstate, hstore nofun]

end Inquiry

end Hotkey

end SqlDesk
