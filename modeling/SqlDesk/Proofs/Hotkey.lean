/-
The scope and the keys of a hotkey, and what is pulled from a host.

The keys of a hotkey are what stands after its first separator. Keys that come after a scope are found
again if the scope has no separator in it and no colon at its end (`split_append`), and no other scope
is found again before them (`split_append_ne`). A pull stores the first binding of the host, or nothing
(`pull_hotkey`).
-/
import SqlDesk.Hotkey.Sync
import SqlDesk.Proofs.Text.Trim
import SqlDesk.Proofs.Settings.Session

namespace SqlDesk

namespace Hotkey

/-! ## The keys of a hotkey -/

/-- Whether the separator after a scope is the first one, whatever comes after it: there is none in
the scope, and no colon at its end. -/
def IsProper (scope : String) : Prop :=
  ¬ separator.toList <:+: scope.toList ++ [':']

instance (scope : String) : Decidable (IsProper scope) :=
  inferInstanceAs (Decidable (¬ _))

/-- Where a scope with keys after it is cut: after the scope, or so that a colon stays. -/
theorem cut?_separator (scope text : List Char) : ∃ first rest,
    Text.cut? separator.toList (scope ++ separator.toList ++ text) = some (first, rest) ∧
      (first = scope ∧ rest = text ∨
        first.length < scope.length ∧ ':' ∈ rest ∧ separator.toList <:+: scope ++ [':']) := by
  obtain ⟨first, rest, hcut, hle⟩ := Text.cut?_of_append scope separator.toList text
  refine ⟨first, rest, hcut, ?_⟩
  have heq := Text.eq_of_cut? hcut
  have hseparator : separator.toList = [':', ':'] := by decide
  rw [hseparator] at heq ⊢
  rw [List.append_assoc, List.append_assoc, List.append_eq_append_iff] at heq
  obtain ⟨more, rfl, hmore⟩ | ⟨more, rfl, hmore⟩ := heq
  · obtain rfl : more = [] := by
      rw [← List.length_eq_zero_iff]
      simp only [List.length_append] at hle
      omega
    simp only [List.nil_append, List.cons_append, List.cons.injEq, true_and] at hmore
    exact .inl ⟨by simp, hmore.symm⟩
  · cases more with
    | nil =>
      simp only [List.nil_append, List.cons_append, List.cons.injEq, true_and] at hmore
      exact .inl ⟨by simp, hmore⟩
    | cons c more =>
      refine .inr ⟨by simp, ?_⟩
      cases more with
      | nil =>
        simp only [List.nil_append, List.cons_append, List.cons.injEq, true_and] at hmore
        obtain ⟨rfl, rfl⟩ := hmore
        exact ⟨List.mem_cons_self, ⟨first, [], by simp⟩⟩
      | cons d more =>
        simp only [List.nil_append, List.cons_append, List.cons.injEq] at hmore
        obtain ⟨rfl, rfl, rfl⟩ := hmore
        exact ⟨by simp, ⟨first, more ++ [':'], by simp⟩⟩

variable {scope : String}

/-- What comes before the separator of a proper scope is the scope, and what comes after it are the
keys. -/
theorem split_append (h : IsProper scope) (text : String) :
    split (scope ++ separator ++ text) = (Text.strip scope, Text.strip text) := by
  obtain ⟨first, rest, hcut, ⟨rfl, rfl⟩ | ⟨-, -, hinfix⟩⟩ :=
    cut?_separator scope.toList text.toList
  · simp only [split, String.toList_append, hcut, Text.strip]
  · exact absurd hinfix h

theorem keys_append (h : IsProper scope) (text : String) :
    keys (scope ++ separator ++ text) = Text.strip text :=
  congrArg Prod.snd (split_append h text)

/-- After another scope the cut is within the scope, and a colon of it stays with the keys. -/
theorem cut?_of_not_isProper (h : ¬ IsProper scope) (text : List Char) : ∃ first rest,
    Text.cut? separator.toList (scope.toList ++ separator.toList ++ text) = some (first, rest) ∧
      first.length < scope.toList.length ∧ ':' ∈ rest := by
  obtain ⟨first, rest, hcut, hfirst⟩ := cut?_separator scope.toList text
  refine ⟨first, rest, hcut, ?_⟩
  -- the separator in the scope comes before the one after it
  obtain ⟨before, after, heq⟩ := Decidable.not_not.mp h
  have hseparator : separator.toList = [':'] ++ [':'] := by decide
  have hmoved : scope.toList ++ separator.toList ++ text =
      before ++ separator.toList ++ (after ++ ':' :: text) := by
    calc scope.toList ++ separator.toList ++ text
        = scope.toList ++ [':'] ++ ':' :: text := by simp [hseparator]
      _ = before ++ separator.toList ++ (after ++ ':' :: text) := by
          rw [← heq, List.append_assoc _ after]
  obtain ⟨first', rest', hcut', hle⟩ :=
    Text.cut?_of_append before separator.toList (after ++ ':' :: text)
  rw [← hmoved, hcut] at hcut'
  obtain ⟨rfl, rfl⟩ : first = first' ∧ rest = rest' := by simpa using hcut'
  have hlength := congrArg List.length heq
  rcases hfirst with ⟨rfl, -⟩ | ⟨hlt, hmem, -⟩
  · simp [hseparator] at hlength
    omega
  · exact ⟨hlt, hmem⟩

theorem split_append_ne (h : ¬ IsProper scope) (hstrip : Text.strip scope = scope)
    (text : String) : split (scope ++ separator ++ text) ≠ (Text.strip scope, Text.strip text) := by
  obtain ⟨first, rest, hcut, hlt, -⟩ := cut?_of_not_isProper h text.toList
  have hsplit : split (scope ++ separator ++ text) =
      (String.ofList (Text.trim first), String.ofList (Text.trim rest)) := by
    simp only [split, String.toList_append, hcut]
  rw [hsplit, hstrip]
  intro heq
  have hscope : String.ofList (Text.trim first) = scope := congrArg Prod.fst heq
  have hle := Text.length_trim_le first
  rw [← hscope, String.toList_ofList] at hlt
  omega

/-! ## Pulling -/

section Pull

variable {σ : Type} {host : Option (BindingHost σ)} {state : σ} {store : Store}

/-- What a pull can do: it fails for want of a host or of its bindings, it finds the stored hotkey,
or it commits another one. -/
inductive Pulled (host : Option (BindingHost σ)) (state : σ) (store : Store) :
    Reply × Store → Prop
  | absent (hhost : host = none) : Pulled host state store (.error .unsupported, store)
  | unread {present : BindingHost σ} {e : Failure} (hhost : host = some present)
      (hbindings : present.bindings state = .error e) :
      Pulled host state store (.error (.read e), store)
  | same {present : BindingHost σ} {bindings : List String} (hhost : host = some present)
      (hbindings : present.bindings state = .ok bindings)
      (hsame : store.settings.hotkey = bindings.headD "") :
      Pulled host state store (.ok (bindings.headD ""), store)
  | stored {present : BindingHost σ} {bindings : List String} {after : Store}
      (hhost : host = some present) (hbindings : present.bindings state = .ok bindings)
      (hother : store.settings.hotkey ≠ bindings.headD "")
      (hcommit : store.commit { store.settings with hotkey := bindings.headD "" } =
        (.ok (), after)) :
      Pulled host state store (.ok (bindings.headD ""), after)
  | unstored {present : BindingHost σ} {bindings : List String} {e : Failure} {after : Store}
      (hhost : host = some present) (hbindings : present.bindings state = .ok bindings)
      (hother : store.settings.hotkey ≠ bindings.headD "")
      (hcommit : store.commit { store.settings with hotkey := bindings.headD "" } =
        (.error e, after)) :
      Pulled host state store (.error (.read e), after)

theorem pulled (host : Option (BindingHost σ)) (state : σ) (store : Store) :
    Pulled host state store (pull host state store) := by
  unfold pull
  split
  · exact .absent rfl
  · next present =>
    split
    · next hbindings => exact .unread rfl hbindings
    · next bindings hbindings =>
      dsimp only
      split
      · next hsame => exact .same rfl hbindings hsame
      · next hother =>
        split
        · next hsave => exact .stored rfl hbindings hother hsave
        · next hsave => exact .unstored rfl hbindings hother hsave

theorem pull_hotkey {host : BindingHost σ} {after : Store} {reply : Reply}
    (h : pull (some host) state store = (reply, after)) :
    (∀ refusal, reply = .error refusal → after.settings.hotkey = store.settings.hotkey) ∧
      ∀ hotkey, reply = .ok hotkey → after.settings.hotkey = hotkey ∧
        ∃ bindings, host.bindings state = .ok bindings ∧ hotkey = bindings.headD "" := by
  have hpulled := pulled (some host) state store
  rw [h] at hpulled
  cases hpulled with
  | absent hhost => cases hhost
  | unread _ _ => exact ⟨fun _ _ => rfl, nofun⟩
  | same hhost hbindings hsame =>
    obtain rfl := Option.some.inj hhost
    refine ⟨nofun, fun hotkey hreply => ?_⟩
    obtain rfl := Except.ok.inj hreply
    exact ⟨hsame, _, hbindings, rfl⟩
  | stored hhost hbindings _ hcommit =>
    obtain rfl := Option.some.inj hhost
    refine ⟨nofun, fun hotkey hreply => ?_⟩
    obtain rfl := Except.ok.inj hreply
    exact ⟨congrArg SettingsWith.hotkey (Store.commit_of_ok hcommit), _, hbindings, rfl⟩
  | unstored _ _ _ hcommit =>
    exact ⟨fun _ _ => congrArg SettingsWith.hotkey (Store.commit_of_error hcommit), nofun⟩

end Pull

end Hotkey

end SqlDesk
