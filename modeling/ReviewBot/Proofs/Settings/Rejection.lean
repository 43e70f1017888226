import Mathlib.Data.List.Basic
import ReviewBot.Proofs.Settings.Key

set_option autoImplicit false

/-!
# Environments that cannot be read

An environment is applied one variable after the other, and the first value that cannot be read ends
this. What was applied before stays, and nothing else changes: a setting has the value of its
variable if that comes before the bad one, and otherwise the value that it had
(`Settings.applyEnvironment_of_error`). So the settings stay as they were exactly if the variables
before the bad one say nothing new.
-/

namespace ReviewBot

/-- The variable `v` is set to a value that cannot be read, and all variables that are looked at
before it can be read. -/
structure Environment.BreaksAt (env : Environment) (earlier : List SettingVariable)
    (v : SettingVariable) (value : String) : Prop where
  inOrder : ∃ later, SettingVariable.all = earlier ++ v :: later
  canRead : ∀ u ∈ earlier, env.CanRead u
  isSet : env v.name = some value
  unreadable : ∀ key : SettingKey, key.replacedBy? = some v → key.kind.ofText? value = none

namespace SettingKey

theorem eq_of_replacedBy? {key key' : SettingKey} {v : SettingVariable}
    (h : key.replacedBy? = some v) (h' : key'.replacedBy? = some v) : key = key' := by
  cases key <;> cases h <;> cases key' <;> simp [replacedBy?] at h' ⊢

theorem exists_replacedBy? (v : SettingVariable) :
    ∃ key : SettingKey, key.replacedBy? = some v := by
  cases v with
  | appId => exact ⟨.appId, rfl⟩
  | clientId => exact ⟨.clientId, rfl⟩
  | privateKeyPath => exact ⟨.privateKeyPath, rfl⟩
  | webhookSecret => exact ⟨.webhookSecret, rfl⟩
  | apiUrl => exact ⟨.apiUrl, rfl⟩
  | model => exact ⟨.model, rfl⟩
  | baseUrl => exact ⟨.baseUrl, rfl⟩
  | timeoutSeconds => exact ⟨.timeoutSeconds, rfl⟩
  | modelEnabled => exact ⟨.modelEnabled, rfl⟩
  | bindAddress => exact ⟨.bindAddress, rfl⟩

/-- A value that is none of its key cannot be set. -/
theorem set?_eq_none {key : SettingKey} {v : SettingVariable} {value : String}
    (hkey : key.replacedBy? = some v) (h : key.kind.ofText? value = none) (s : Settings) :
    v.set? s value = none := by
  cases key <;> cases hkey <;> simp_all [kind, SettingKind.ofText?, SettingVariable.set?]

end SettingKey

namespace Environment

variable {env : Environment}

/-- A variable that cannot be read is set to a value that is none of its key. -/
theorem exists_unreadable {v : SettingVariable} (h : ¬ env.CanRead v) :
    ∃ value, env v.name = some value ∧
      ∀ key : SettingKey, key.replacedBy? = some v → key.kind.ofText? value = none := by
  unfold CanRead at h
  push Not at h
  obtain ⟨key, value, hkey, hvalue, hnone⟩ := h
  refine ⟨value, hvalue, ?_⟩
  intro key' hkey'
  obtain rfl := SettingKey.eq_of_replacedBy? hkey hkey'
  exact Option.eq_none_iff_forall_ne_some.2 hnone

/-- An environment with a variable that cannot be read breaks at the first one. -/
theorem exists_breaksAt {v : SettingVariable} (hv : v ∈ SettingVariable.all)
    (h : ¬ env.CanRead v) : ∃ earlier u value, env.BreaksAt earlier u value := by
  classical
  have hsome : (SettingVariable.all.find? fun u => ¬ env.CanRead u).isSome := by
    rw [List.find?_isSome]
    exact ⟨v, hv, by simpa using h⟩
  obtain ⟨u, hu⟩ := Option.isSome_iff_exists.1 hsome
  obtain ⟨hbad, earlier, later, hsplit, hearlier⟩ := List.find?_eq_some_iff_append.1 hu
  obtain ⟨value, hvalue, hnone⟩ := exists_unreadable (of_decide_eq_true hbad)
  refine ⟨earlier, u, value, ⟨later, hsplit⟩, ?_, hvalue, hnone⟩
  intro w hw
  simpa using hearlier w hw

end Environment

namespace Settings

variable {env : Environment}

/-- Where an environment breaks, the variables before are applied and nothing else. -/
theorem applyEnvironment_of_breaksAt {earlier : List SettingVariable} {v : SettingVariable}
    {value : String} (h : env.BreaksAt earlier v value) (s : Settings) :
    (s.applyEnvironment env).error = some (v.invalid value) ∧
      ∀ key : SettingKey, key.get (s.applyEnvironment env).settings =
        if key.replacedBy? ∈ earlier.map some then (key.inEnvironment? env).or (key.get s)
        else key.get s := by
  obtain ⟨later, hall⟩ := h.inOrder
  obtain ⟨s', hrun, hget⟩ := exists_lookAtAll h.canRead s
  obtain ⟨key, hkey⟩ := SettingKey.exists_replacedBy? v
  have hstop : s'.applyVariables env (v :: later) = ⟨s', some (v.invalid value)⟩ := by
    rw [applyVariables, h.isSet]
    simp only [SettingKey.set?_eq_none hkey (h.unreadable key hkey)]
  have happlied : s.applyEnvironment env = ⟨s', some (v.invalid value)⟩ := by
    rw [applyEnvironment, hall, hrun, hstop]
  rw [happlied]
  exact ⟨rfl, hget⟩

/-- Only an environment that breaks somewhere gives an error. -/
theorem exists_breaksAt_of_error {s : Settings} {e : Error}
    (h : (s.applyEnvironment env).error = some e) :
    ∃ earlier v value, env.BreaksAt earlier v value := by
  by_contra hnone
  have hreadable : ∀ v ∈ SettingVariable.all, env.CanRead v := by
    intro v hv
    by_contra hbad
    exact hnone (Environment.exists_breaksAt hv hbad)
  obtain ⟨s', hrun, -⟩ := exists_lookAtAll hreadable s
  have happlied : s.applyEnvironment env = ⟨s', none⟩ := hrun []
  rw [happlied] at h
  cases h

/-- The error names the first variable that cannot be read. The settings whose variables come before
it have the values of the environment, as far as these are set, and all other settings have the
values that they had. So nothing has changed exactly if the earlier variables say nothing new. -/
theorem applyEnvironment_of_error {s : Settings} {e : Error}
    (h : (s.applyEnvironment env).error = some e) :
    ∃ earlier v value, env.BreaksAt earlier v value ∧
      e = .config ("invalid value for " ++ v.name ++ ": " ++ value.inQuotes) ∧
      (∀ key : SettingKey, key.get (s.applyEnvironment env).settings =
        if key.replacedBy? ∈ earlier.map some then (key.inEnvironment? env).or (key.get s)
        else key.get s) ∧
      ((s.applyEnvironment env).settings = s ↔
        ∀ key : SettingKey, key.replacedBy? ∈ earlier.map some →
          ∀ x, key.inEnvironment? env = some x → key.get s = some x) := by
  obtain ⟨earlier, v, value, hbreaks⟩ := exists_breaksAt_of_error h
  obtain ⟨herror, hget⟩ := applyEnvironment_of_breaksAt hbreaks s
  have he : e = v.invalid value := Option.some.inj (h.symm.trans herror)
  refine ⟨earlier, v, value, hbreaks, he, hget, ?_⟩
  constructor
  · intro hsame key hkey x hx
    have hvalue := hget key
    rw [hsame, if_pos hkey, hx, Option.some_or] at hvalue
    exact hvalue
  · intro hold
    apply eq_of_get
    intro key
    rw [hget key]
    split
    · rename_i hkey
      cases hx : key.inEnvironment? env with
      | none => rfl
      | some x => exact (hold key hkey x hx).symm
    · rfl

/-- An environment with a name for the client, a switch that is neither on nor off, and an address
to listen on. -/
def brokenEnvironment : Environment := fun name =>
  if name = SettingVariable.clientId.name then some "a"
  else if name = SettingVariable.modelEnabled.name then some "maybe"
  else if name = SettingVariable.bindAddress.name then some "b"
  else none

/-- The name of the client has been replaced, and the address has not. -/
theorem applyEnvironment_of_error_of_switch :
    (({} : Settings).applyEnvironment brokenEnvironment).error =
        some (.config "invalid value for LOOKOUT_LLM_ENABLED: \"maybe\"") ∧
      SettingKey.clientId.get (({} : Settings).applyEnvironment brokenEnvironment).settings =
        some (.text "a") ∧
      SettingKey.bindAddress.get (({} : Settings).applyEnvironment brokenEnvironment).settings =
        some (.text "0.0.0.0:8080") := by
  have herror : (({} : Settings).applyEnvironment brokenEnvironment).error =
      some (.config "invalid value for LOOKOUT_LLM_ENABLED: \"maybe\"") := by decide +kernel
  obtain ⟨earlier, v, value, hbreaks, -, hget, -⟩ := applyEnvironment_of_error herror
  -- The other two variables that are set take any text.
  have hv : v = .modelEnabled := by
    have hset := hbreaks.isSet
    have hbad := hbreaks.unreadable
    cases v with
    | modelEnabled => rfl
    | clientId => exact absurd (hbad .clientId rfl) (Option.some_ne_none _)
    | bindAddress => exact absurd (hbad .bindAddress rfl) (Option.some_ne_none _)
    | _ => simp [brokenEnvironment, SettingVariable.name] at hset
  subst hv
  obtain ⟨later, hall⟩ := hbreaks.inOrder
  have hsplit : SettingVariable.all =
      [.appId, .clientId, .privateKeyPath, .webhookSecret, .apiUrl, .model, .baseUrl,
        .timeoutSeconds] ++ .modelEnabled :: [.bindAddress] := rfl
  rw [hsplit, List.append_cons_inj_of_notMem (by decide) (by decide)] at hall
  obtain ⟨rfl, -, -⟩ := hall
  refine ⟨herror, ?_, ?_⟩
  · rw [hget]
    decide +kernel
  · rw [hget]
    decide +kernel

/-- An environment that is rejected can have changed the settings. -/
theorem rejected_environment_changes_settings :
    ∃ (s : Settings) (env : Environment) (e : Error),
      (s.applyEnvironment env).error = some e ∧ (s.applyEnvironment env).settings ≠ s :=
  ⟨{}, brokenEnvironment, .config "invalid value for LOOKOUT_LLM_ENABLED: \"maybe\"",
    by decide +kernel, by decide +kernel⟩

end Settings

end ReviewBot
