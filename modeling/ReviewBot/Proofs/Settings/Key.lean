import ReviewBot.Document.Fields
import ReviewBot.Settings.Environment

set_option autoImplicit false

/-!
# Settings by key

Every setting has a key, a kind of value and, some of them, a variable of the environment. Settings
are determined by the values of all keys (`Settings.eq_of_get`). Setting a variable changes the
value of its key and of no other (`SettingKey.get_of_set?`), so an environment in which every
variable that is set can be read is applied as a whole, and it comes before the settings that were
there (`Settings.withEnvironment_of_valid`).
-/

namespace ReviewBot

/-- The value of a setting. -/
inductive SettingValue where
  | number (n : Nat)
  | text (t : String)
  | switch (on : Bool)
  deriving DecidableEq

/-- What the values of a setting look like. -/
inductive SettingKind where
  | number
  | text
  | switch

namespace SettingKind

/-- Reads a value in a document. -/
def ofDocument? : SettingKind → Document → Option SettingValue
  | number, d => (d.nat? maxLong).map .number
  | text, d => d.string?.map .text
  | switch, d => d.bool?.map .switch

/-- Reads the value of a variable, blanks around numbers and truth values allowed. -/
def ofText? : SettingKind → String → Option SettingValue
  | number, value => (SettingVariable.number? value).map .number
  | text, value => some (.text value)
  | switch, value => (SettingVariable.switch? value).map .switch

end SettingKind

/-- A key under which a setting is written. -/
inductive SettingKey where
  | appId
  | clientId
  | privateKeyPath
  | webhookSecret
  | apiUrl
  | model
  | baseUrl
  | timeoutSeconds
  | modelEnabled
  | maxDiffSizeBytes
  | maxFilesPerPr
  | heuristicsEnabled
  | llmEnabled
  | enableCommentDeletion
  | bindAddress
  deriving DecidableEq

namespace SettingKey

/-- The names of the sections that lead to the key, and its own name. -/
def path : SettingKey → List String
  | appId => ["github", "app", "id"]
  | clientId => ["github", "app", "client_id"]
  | privateKeyPath => ["github", "app", "private_key_path"]
  | webhookSecret => ["github", "app", "webhook_secret"]
  | apiUrl => ["github", "api_url"]
  | model => ["llm", "model"]
  | baseUrl => ["llm", "base_url"]
  | timeoutSeconds => ["llm", "timeout_seconds"]
  | modelEnabled => ["llm", "enabled"]
  | maxDiffSizeBytes => ["app", "max_diff_size_bytes"]
  | maxFilesPerPr => ["app", "max_files_per_pr"]
  | heuristicsEnabled => ["app", "heuristics_enabled"]
  | llmEnabled => ["app", "llm_enabled"]
  | enableCommentDeletion => ["app", "enable_comment_deletion"]
  | bindAddress => ["server", "bind_address"]

/-- What the values of the key look like. -/
def kind : SettingKey → SettingKind
  | appId => .number
  | clientId => .text
  | privateKeyPath => .text
  | webhookSecret => .text
  | apiUrl => .text
  | model => .text
  | baseUrl => .text
  | timeoutSeconds => .number
  | modelEnabled => .switch
  | maxDiffSizeBytes => .number
  | maxFilesPerPr => .number
  | heuristicsEnabled => .switch
  | llmEnabled => .switch
  | enableCommentDeletion => .switch
  | bindAddress => .text

/-- The variable of the environment that replaces the value of the key. -/
def replacedBy? : SettingKey → Option SettingVariable
  | appId => some .appId
  | clientId => some .clientId
  | privateKeyPath => some .privateKeyPath
  | webhookSecret => some .webhookSecret
  | apiUrl => some .apiUrl
  | model => some .model
  | baseUrl => some .baseUrl
  | timeoutSeconds => some .timeoutSeconds
  | modelEnabled => some .modelEnabled
  | maxDiffSizeBytes => none
  | maxFilesPerPr => none
  | heuristicsEnabled => none
  | llmEnabled => none
  | enableCommentDeletion => none
  | bindAddress => some .bindAddress

/-- The value of the key; some keys have none unless one is set. -/
def get (s : Settings) : SettingKey → Option SettingValue
  | appId => s.github.app.id.map .number
  | clientId => s.github.app.clientId.map .text
  | privateKeyPath => s.github.app.privateKeyPath.map .text
  | webhookSecret => s.github.app.webhookSecret.map .text
  | apiUrl => some (.text s.github.apiUrl)
  | model => some (.text s.llm.model)
  | baseUrl => some (.text s.llm.baseUrl)
  | timeoutSeconds => some (.number s.llm.timeoutSeconds)
  | modelEnabled => some (.switch s.llm.enabled)
  | maxDiffSizeBytes => some (.number s.app.maxDiffSizeBytes)
  | maxFilesPerPr => some (.number s.app.maxFilesPerPr)
  | heuristicsEnabled => some (.switch s.app.heuristicsEnabled)
  | llmEnabled => some (.switch s.app.llmEnabled)
  | enableCommentDeletion => some (.switch s.app.enableCommentDeletion)
  | bindAddress => some (.text s.server.bindAddress)

/-- The value that the environment gives to the key, if its variable is set. -/
def inEnvironment? (env : Environment) (key : SettingKey) : Option SettingValue :=
  key.replacedBy?.bind fun v => (env v.name).bind key.kind.ofText?

end SettingKey

/-- The variable is not set, or it has a value that can be read. -/
def Environment.CanRead (env : Environment) (v : SettingVariable) : Prop :=
  ∀ (key : SettingKey) (value : String), key.replacedBy? = some v → env v.name = some value →
    ∃ x, key.kind.ofText? value = some x

/-- Every variable that is set has a value that can be read. -/
def Environment.IsValid (env : Environment) : Prop :=
  ∀ (key : SettingKey) (v : SettingVariable) (value : String), key.replacedBy? = some v →
    env v.name = some value → ∃ x, key.kind.ofText? value = some x

/-! ## Settings and their keys -/

/-- Settings in which all keys have the same values are the same. -/
theorem Settings.eq_of_get {s t : Settings} (h : ∀ key : SettingKey, key.get s = key.get t) :
    s = t := by
  obtain ⟨⟨apiUrl, id, clientId, keyPath, secret⟩, ⟨model, baseUrl, timeout, enabled⟩,
    ⟨diffSize, files, heuristics, llm, deletion⟩, ⟨bind⟩⟩ := s
  obtain ⟨⟨apiUrl', id', clientId', keyPath', secret'⟩, ⟨model', baseUrl', timeout', enabled'⟩,
    ⟨diffSize', files', heuristics', llm', deletion'⟩, ⟨bind'⟩⟩ := t
  have number {n m : Nat} (e : some (SettingValue.number n) = some (.number m)) : n = m :=
    SettingValue.number.inj (Option.some.inj e)
  have text {t u : String} (e : some (SettingValue.text t) = some (.text u)) : t = u :=
    SettingValue.text.inj (Option.some.inj e)
  have switch {b c : Bool} (e : some (SettingValue.switch b) = some (.switch c)) : b = c :=
    SettingValue.switch.inj (Option.some.inj e)
  have optionalText {t u : Option String}
      (e : t.map SettingValue.text = u.map SettingValue.text) : t = u :=
    (Option.map_inj_right fun _ _ => SettingValue.text.inj).1 e
  obtain rfl : id = id' := (Option.map_inj_right fun _ _ => SettingValue.number.inj).1 (h .appId)
  obtain rfl : clientId = clientId' := optionalText (h .clientId)
  obtain rfl : keyPath = keyPath' := optionalText (h .privateKeyPath)
  obtain rfl : secret = secret' := optionalText (h .webhookSecret)
  obtain rfl : apiUrl = apiUrl' := text (h .apiUrl)
  obtain rfl : model = model' := text (h .model)
  obtain rfl : baseUrl = baseUrl' := text (h .baseUrl)
  obtain rfl : timeout = timeout' := number (h .timeoutSeconds)
  obtain rfl : enabled = enabled' := switch (h .modelEnabled)
  obtain rfl : diffSize = diffSize' := number (h .maxDiffSizeBytes)
  obtain rfl : files = files' := number (h .maxFilesPerPr)
  obtain rfl : heuristics = heuristics' := switch (h .heuristicsEnabled)
  obtain rfl : llm = llm' := switch (h .llmEnabled)
  obtain rfl : deletion = deletion' := switch (h .enableCommentDeletion)
  obtain rfl : bind = bind' := text (h .bindAddress)
  rfl

/-! ## Settings and the environment -/

namespace SettingKey

/-- A variable replaces the value of its key and leaves all others as they are. -/
theorem get_of_set? {v : SettingVariable} {s s' : Settings} {value : String}
    (h : v.set? s value = some s') (key : SettingKey) :
    key.get s' = if key.replacedBy? = some v then key.kind.ofText? value else key.get s := by
  cases v with
  | appId =>
    obtain ⟨n, hn, rfl⟩ := Option.map_eq_some_iff.1 h
    cases key <;> simp [replacedBy?, get, kind, SettingKind.ofText?, hn]
  | timeoutSeconds =>
    obtain ⟨n, hn, rfl⟩ := Option.map_eq_some_iff.1 h
    cases key <;> simp [replacedBy?, get, kind, SettingKind.ofText?, hn]
  | modelEnabled =>
    obtain ⟨b, hb, rfl⟩ := Option.map_eq_some_iff.1 h
    cases key <;> simp [replacedBy?, get, kind, SettingKind.ofText?, hb]
  | _ =>
    obtain rfl := Option.some.inj h
    cases key <;> rfl

theorem inEnvironment?_of_replacedBy {env : Environment} {key : SettingKey} {v : SettingVariable}
    (h : key.replacedBy? = some v) :
    key.inEnvironment? env = (env v.name).bind key.kind.ofText? := by
  rw [inEnvironment?, h]
  rfl

end SettingKey

namespace Settings

variable {env : Environment}

theorem exists_set? {v : SettingVariable} (henv : env.CanRead v) {value : String}
    (h : env v.name = some value) (s : Settings) : ∃ s', v.set? s value = some s' := by
  have readable {read? : String → Option Nat} {f : Nat → SettingValue}
      (hx : ∃ x, (read? value).map f = some x) : ∃ n, read? value = some n := by
    obtain ⟨x, hx⟩ := hx
    obtain ⟨n, hn, -⟩ := Option.map_eq_some_iff.1 hx
    exact ⟨n, hn⟩
  cases v with
  | appId =>
    obtain ⟨n, hn⟩ := readable (henv .appId value rfl h)
    exact ⟨_, Option.map_eq_some_iff.2 ⟨n, hn, rfl⟩⟩
  | timeoutSeconds =>
    obtain ⟨n, hn⟩ := readable (henv .timeoutSeconds value rfl h)
    exact ⟨_, Option.map_eq_some_iff.2 ⟨n, hn, rfl⟩⟩
  | modelEnabled =>
    obtain ⟨x, hx⟩ := henv .modelEnabled value rfl h
    obtain ⟨b, hb, -⟩ := Option.map_eq_some_iff.1 hx
    exact ⟨_, Option.map_eq_some_iff.2 ⟨b, hb, rfl⟩⟩
  | _ => exact ⟨_, rfl⟩

/-- Looking at one variable changes at most the value of its key, to what the environment gives. -/
theorem exists_lookAt {v : SettingVariable} (henv : env.CanRead v) (s : Settings) :
    ∃ s', (∀ rest, s.applyVariables env (v :: rest) = s'.applyVariables env rest) ∧
      ∀ key : SettingKey, key.get s' =
        if key.replacedBy? = some v then (key.inEnvironment? env).or (key.get s)
        else key.get s := by
  cases hvalue : env v.name with
  | none =>
    refine ⟨s, fun rest => ?_, fun key => ?_⟩
    · rw [applyVariables, hvalue]
    · split
      · rename_i hkey
        rw [SettingKey.inEnvironment?_of_replacedBy hkey, hvalue]
        rfl
      · rfl
  | some value =>
    obtain ⟨s', hs'⟩ := exists_set? henv hvalue s
    refine ⟨s', fun rest => ?_, fun key => ?_⟩
    · rw [applyVariables, hvalue]
      simp only [hs']
    · rw [SettingKey.get_of_set? hs']
      split
      · rename_i hkey
        obtain ⟨x, hx⟩ := henv key value hkey hvalue
        rw [SettingKey.inEnvironment?_of_replacedBy hkey, hvalue, Option.bind_some, hx]
        rfl
      · rfl

/-- Variables that can be read are all applied, and those behind them are looked at next. -/
theorem exists_lookAtAll {vs : List SettingVariable} (henv : ∀ v ∈ vs, env.CanRead v)
    (s : Settings) :
    ∃ s', (∀ rest, s.applyVariables env (vs ++ rest) = s'.applyVariables env rest) ∧
      ∀ key : SettingKey, key.get s' =
        if key.replacedBy? ∈ vs.map some then (key.inEnvironment? env).or (key.get s)
        else key.get s := by
  induction vs generalizing s with
  | nil => exact ⟨s, fun rest => rfl, fun key => rfl⟩
  | cons v vs ih =>
    obtain ⟨now, hrun, hnow⟩ := exists_lookAt (henv v List.mem_cons_self) s
    obtain ⟨s', hlaterRun, hlater⟩ := ih (fun u hu => henv u (List.mem_cons_of_mem v hu)) now
    refine ⟨s', fun rest => (hrun (vs ++ rest)).trans (hlaterRun rest), fun key => ?_⟩
    rw [hlater key, hnow key]
    by_cases hkey : key.replacedBy? = some v
    · -- A variable that is looked at again gives the same value once more.
      have hmem : key.replacedBy? ∈ (v :: vs).map some := List.mem_cons.2 (.inl hkey)
      rw [if_pos hkey, if_pos hmem, ← Option.or_assoc, Option.or_self, ite_self]
    · have hmem : key.replacedBy? ∈ (v :: vs).map some ↔ key.replacedBy? ∈ vs.map some := by
        rw [List.map_cons, List.mem_cons, or_iff_right hkey]
      simp only [if_neg hkey, hmem]

/-- An environment that can be read comes before the settings that were there. -/
theorem withEnvironment_of_valid (henv : env.IsValid) (s : Settings) :
    ∃ s', s.withEnvironment env = .ok s' ∧
      ∀ key : SettingKey, key.get s' = (key.inEnvironment? env).or (key.get s) := by
  have hreadable : ∀ v ∈ SettingVariable.all, env.CanRead v := by
    intro v _ key value hkey hvalue
    exact henv key v value hkey hvalue
  obtain ⟨s', hrun, hget⟩ := exists_lookAtAll hreadable s
  have happlied : s.applyEnvironment env = ⟨s', none⟩ := hrun []
  refine ⟨s', ?_, fun key => ?_⟩
  · rw [withEnvironment, happlied]
  · rw [hget key]
    cases key <;> rfl

end Settings

end ReviewBot
