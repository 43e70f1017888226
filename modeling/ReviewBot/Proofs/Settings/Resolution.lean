import ReviewBot.Files.Tree
import ReviewBot.Proofs.Document.Fields
import ReviewBot.Proofs.Settings.Key
import ReviewBot.Settings.File

set_option autoImplicit false

/-!
# Which value a setting takes

The environment comes before the file, and the file before the usual values. A document with
settings may leave out any key and any section (`Document.IsConfiguration`); what is left out keeps
its usual value, no matter whether the usual values are those of a field or of a whole section
(`Settings.exists_ofDocument?`). With the environment on top this gives the value of every key
after the settings are loaded (`Settings.load_resolves`).
-/

namespace ReviewBot

/-- The names that lead to the tables of the settings, from the whole document on. -/
def Settings.sectionPaths : List (List String) :=
  [[], ["github"], ["github", "app"], ["llm"], ["app"], ["server"]]

namespace SettingKey

/-- The key stands in the section or in one inside it. -/
def IsIn (key : SettingKey) (sectionPath : List String) : Prop :=
  ∃ name rest, key.path = sectionPath ++ name :: rest

/-- The value that a document gives to the key, if the key is present. -/
def inDocument? (d : Document) (key : SettingKey) : Option SettingValue :=
  (d.under? key.path).bind key.kind.ofDocument?

end SettingKey

namespace Document

/-- A document that sets some of the keys: all sections that are present are tables, and all keys
that are present have values of their kind. -/
structure IsConfiguration (d : Document) : Prop where
  isTable : ∀ path ∈ Settings.sectionPaths, ∀ v, d.under? path = some v → v.IsTable
  fits : ∀ (key : SettingKey) (v : Document), d.under? key.path = some v →
    ∃ x, key.kind.ofDocument? v = some x

/-- The section is absent or empty. -/
def LacksSection (d : Document) (sectionPath : List String) : Prop :=
  d.under? sectionPath = none ∨ d.under? sectionPath = some (table [])

variable {d e : Document} {name : String}

theorem under?_append (path more : List String) (d : Document) :
    d.under? (path ++ more) = (d.under? path).bind (under? more) := by
  induction path generalizing d with
  | nil => rfl
  | cons name path ih =>
    rw [List.cons_append, under?_cons, under?_cons name path, Option.bind_assoc]
    exact congrArg _ (funext ih)

theorem inDocument?_of_lacksSection {key : SettingKey} {sectionPath : List String}
    (hkey : key.IsIn sectionPath) (h : d.LacksSection sectionPath) : key.inDocument? d = none := by
  obtain ⟨name, rest, hpath⟩ := hkey
  rw [SettingKey.inDocument?, hpath, under?_append]
  obtain h | h := h
  · rw [h]
    rfl
  · rw [h]
    rfl

/-! ## Values of one kind -/

namespace IsConfiguration

variable (hd : d.IsConfiguration) (key : SettingKey)
include hd

theorem fits_nat? (hkind : key.kind = .number) (he : e.under? [name] = d.under? key.path) :
    e.Fits (nat? maxLong) name := by
  intro v hv
  obtain ⟨x, hx⟩ := hd.fits key v (he ▸ hv)
  rw [hkind] at hx
  obtain ⟨n, hn, -⟩ := Option.map_eq_some_iff.1 hx
  exact ⟨n, hn⟩

theorem fits_string? (hkind : key.kind = .text) (he : e.under? [name] = d.under? key.path) :
    e.Fits string? name := by
  intro v hv
  obtain ⟨x, hx⟩ := hd.fits key v (he ▸ hv)
  rw [hkind] at hx
  obtain ⟨t, ht, -⟩ := Option.map_eq_some_iff.1 hx
  exact ⟨t, ht⟩

theorem fits_bool? (hkind : key.kind = .switch) (he : e.under? [name] = d.under? key.path) :
    e.Fits bool? name := by
  intro v hv
  obtain ⟨x, hx⟩ := hd.fits key v (he ▸ hv)
  rw [hkind] at hx
  obtain ⟨b, hb, -⟩ := Option.map_eq_some_iff.1 hx
  exact ⟨b, hb⟩

end IsConfiguration

end Document

/-! ## Empty sections

The usual values stand twice, with the sections and with the readers of the settings in them. A
section in which nothing is set shows that they are the same. -/

section Empty

variable (surplus : Surplus)

theorem AppSettings.ofDocument?_empty :
    AppSettings.ofDocument? surplus (.table []) = some {} := rfl

theorem HostSettings.ofDocument?_empty :
    HostSettings.ofDocument? surplus (.table []) = some {} := rfl

theorem ModelSettings.ofDocument?_empty :
    ModelSettings.ofDocument? surplus (.table []) = some {} := rfl

theorem ReviewSettings.ofDocument?_empty :
    ReviewSettings.ofDocument? surplus (.table []) = some {} := rfl

theorem ServerSettings.ofDocument?_empty :
    ServerSettings.ofDocument? surplus (.table []) = some {} := rfl

/-- A document that sets nothing gives the usual settings. -/
theorem Settings.ofDocument?_empty : Settings.ofDocument? surplus (.table []) = some {} := rfl

end Empty

/-! ## Sections that are tables -/

section Sections

variable {d : Document} (surplus : Surplus)

theorem AppSettings.ofDocument?_of_isTable (h : d.IsTable)
    (hid : d.Fits (Document.nat? maxLong) "id")
    (hclient : d.Fits Document.string? "client_id")
    (hkey : d.Fits Document.string? "private_key_path")
    (hsecret : d.Fits Document.string? "webhook_secret") :
    AppSettings.ofDocument? surplus d = some
      { id := (d.under? ["id"]).bind (Document.nat? maxLong)
        clientId := (d.under? ["client_id"]).bind Document.string?
        privateKeyPath := (d.under? ["private_key_path"]).bind Document.string?
        webhookSecret := (d.under? ["webhook_secret"]).bind Document.string? } := by
  rw [AppSettings.ofDocument?, Document.slots?_of_isTable h]
  simp only [List.map_cons, List.map_nil, Option.bind_eq_bind, Option.bind_some,
    Document.optional?_slot hid rfl, Document.optional?_slot hclient rfl,
    Document.optional?_slot hkey rfl, Document.optional?_slot hsecret rfl]

theorem ModelSettings.ofDocument?_of_isTable (h : d.IsTable)
    (hmodel : d.Fits Document.string? "model") (hbase : d.Fits Document.string? "base_url")
    (htimeout : d.Fits (Document.nat? maxLong) "timeout_seconds")
    (henabled : d.Fits Document.bool? "enabled") :
    ModelSettings.ofDocument? surplus d = some
      { model := ((d.under? ["model"]).bind Document.string?).getD ({} : ModelSettings).model
        baseUrl := ((d.under? ["base_url"]).bind Document.string?).getD
          ({} : ModelSettings).baseUrl
        timeoutSeconds := ((d.under? ["timeout_seconds"]).bind (Document.nat? maxLong)).getD
          ({} : ModelSettings).timeoutSeconds
        enabled := ((d.under? ["enabled"]).bind Document.bool?).getD
          ({} : ModelSettings).enabled } := by
  rw [ModelSettings.ofDocument?, Document.slots?_of_isTable h]
  simp only [List.map_cons, List.map_nil, Option.bind_eq_bind, Option.bind_some,
    Document.orElse?_slot hmodel, Document.orElse?_slot hbase, Document.orElse?_slot htimeout,
    Document.orElse?_slot henabled]
  rfl

theorem ReviewSettings.ofDocument?_of_isTable (h : d.IsTable)
    (hsize : d.Fits (Document.nat? maxLong) "max_diff_size_bytes")
    (hfiles : d.Fits (Document.nat? maxLong) "max_files_per_pr")
    (hheuristics : d.Fits Document.bool? "heuristics_enabled")
    (hllm : d.Fits Document.bool? "llm_enabled")
    (hdeletion : d.Fits Document.bool? "enable_comment_deletion") :
    ReviewSettings.ofDocument? surplus d = some
      { maxDiffSizeBytes := ((d.under? ["max_diff_size_bytes"]).bind (Document.nat? maxLong)).getD
          ({} : ReviewSettings).maxDiffSizeBytes
        maxFilesPerPr := ((d.under? ["max_files_per_pr"]).bind (Document.nat? maxLong)).getD
          ({} : ReviewSettings).maxFilesPerPr
        heuristicsEnabled := ((d.under? ["heuristics_enabled"]).bind Document.bool?).getD
          ({} : ReviewSettings).heuristicsEnabled
        llmEnabled := ((d.under? ["llm_enabled"]).bind Document.bool?).getD
          ({} : ReviewSettings).llmEnabled
        enableCommentDeletion := ((d.under? ["enable_comment_deletion"]).bind Document.bool?).getD
          ({} : ReviewSettings).enableCommentDeletion } := by
  rw [ReviewSettings.ofDocument?, Document.slots?_of_isTable h]
  simp only [List.map_cons, List.map_nil, Option.bind_eq_bind, Option.bind_some,
    Document.orElse?_slot hsize, Document.orElse?_slot hfiles, Document.orElse?_slot hheuristics,
    Document.orElse?_slot hllm, Document.orElse?_slot hdeletion]
  rfl

theorem ServerSettings.ofDocument?_of_isTable (h : d.IsTable)
    (hbind : d.Fits Document.string? "bind_address") :
    ServerSettings.ofDocument? surplus d = some
      { bindAddress := ((d.under? ["bind_address"]).bind Document.string?).getD
          ({} : ServerSettings).bindAddress } := by
  rw [ServerSettings.ofDocument?, Document.slots?_of_isTable h]
  simp only [List.map_cons, List.map_nil, Option.bind_eq_bind, Option.bind_some,
    Document.orElse?_slot hbind]

theorem HostSettings.ofDocument?_of_isTable {app : AppSettings} (h : d.IsTable)
    (hurl : d.Fits Document.string? "api_url")
    (happ : AppSettings.ofDocument? surplus (d.inside "app") = some app) :
    HostSettings.ofDocument? surplus d = some
      { apiUrl := ((d.under? ["api_url"]).bind Document.string?).getD ({} : HostSettings).apiUrl
        app := app } := by
  rw [HostSettings.ofDocument?, Document.slots?_of_isTable h]
  simp only [List.map_cons, List.map_nil, Option.bind_eq_bind, Option.bind_some,
    Document.orElse?_slot hurl]
  rw [Document.orElse?_section (AppSettings.ofDocument?_empty surplus), happ]
  rfl

theorem Settings.ofDocument?_of_isTable {github : HostSettings} {llm : ModelSettings}
    {app : ReviewSettings} {server : ServerSettings} (h : d.IsTable)
    (hgithub : HostSettings.ofDocument? surplus (d.inside "github") = some github)
    (hllm : ModelSettings.ofDocument? surplus (d.inside "llm") = some llm)
    (happ : ReviewSettings.ofDocument? surplus (d.inside "app") = some app)
    (hserver : ServerSettings.ofDocument? surplus (d.inside "server") = some server) :
    Settings.ofDocument? surplus d = some ⟨github, llm, app, server⟩ := by
  rw [Settings.ofDocument?, Document.slots?_of_isTable h]
  simp only [List.map_cons, List.map_nil, Option.bind_eq_bind, Option.bind_some]
  rw [Document.orElse?_section (HostSettings.ofDocument?_empty surplus),
    Document.orElse?_section (ModelSettings.ofDocument?_empty surplus),
    Document.orElse?_section (ReviewSettings.ofDocument?_empty surplus),
    Document.orElse?_section (ServerSettings.ofDocument?_empty surplus), hgithub, hllm, happ,
    hserver]
  rfl

end Sections

/-! ## Whole documents -/

section Values

variable {α : Type} {read? : Document → Option α} {f : α → SettingValue} {o o' : Option Document}

theorem optional_value (h : o = o') :
    (o.bind read?).map f = (o'.bind fun v => (read? v).map f).or none := by
  rw [h, Option.or_none, Option.map_bind]
  rfl

theorem value_orElse (h : o = o') (missing : α) :
    some (f ((o.bind read?).getD missing)) =
      (o'.bind fun v => (read? v).map f).or (some (f missing)) := by
  rw [h]
  cases o' with
  | none => rfl
  | some v =>
    show some (f ((read? v).getD missing)) = ((read? v).map f).or _
    cases read? v <;> rfl

end Values

namespace Settings

variable {d : Document}

/-- In the settings of a document every key has the value that the document gives, or else its
usual one. -/
theorem exists_ofDocument? (hd : d.IsConfiguration) (surplus : Surplus) :
    ∃ s, ofDocument? surplus d = some s ∧
      ∀ key : SettingKey, key.get s = (key.inDocument? d).or (key.get {}) := by
  have htop : d.IsTable := hd.isTable [] (by decide) d rfl
  have isTable (name : String) (h : [name] ∈ sectionPaths) : (d.inside name).IsTable :=
    Document.isTable_inside (hd.isTable [name] h)
  have happ : ((d.inside "github").inside "app").IsTable := Document.isTable_inside fun v hv =>
    hd.isTable ["github", "app"] (by decide) v (by rwa [Document.under?_inside])
  have under (outer name : String) : (d.inside outer).under? [name] = d.under? [outer, name] :=
    (Document.under?_inside outer name [] d).symm
  have underApp (name : String) :
      ((d.inside "github").inside "app").under? [name] = d.under? ["github", "app", name] := by
    rw [← Document.under?_inside, ← Document.under?_inside]
  -- Every section is read as it stands, and what is read in it stands under a key of the whole.
  have hidentity := AppSettings.ofDocument?_of_isTable surplus happ
    (hd.fits_nat? .appId rfl (underApp _)) (hd.fits_string? .clientId rfl (underApp _))
    (hd.fits_string? .privateKeyPath rfl (underApp _))
    (hd.fits_string? .webhookSecret rfl (underApp _))
  have hgithub := HostSettings.ofDocument?_of_isTable surplus
    (isTable "github" (by decide)) (hd.fits_string? .apiUrl rfl (under _ _)) hidentity
  have hllm := ModelSettings.ofDocument?_of_isTable surplus (isTable "llm" (by decide))
    (hd.fits_string? .model rfl (under _ _)) (hd.fits_string? .baseUrl rfl (under _ _))
    (hd.fits_nat? .timeoutSeconds rfl (under _ _)) (hd.fits_bool? .modelEnabled rfl (under _ _))
  have hreview := ReviewSettings.ofDocument?_of_isTable surplus
    (isTable "app" (by decide)) (hd.fits_nat? .maxDiffSizeBytes rfl (under _ _))
    (hd.fits_nat? .maxFilesPerPr rfl (under _ _))
    (hd.fits_bool? .heuristicsEnabled rfl (under _ _)) (hd.fits_bool? .llmEnabled rfl (under _ _))
    (hd.fits_bool? .enableCommentDeletion rfl (under _ _))
  have hserver := ServerSettings.ofDocument?_of_isTable surplus
    (isTable "server" (by decide)) (hd.fits_string? .bindAddress rfl (under _ _))
  refine ⟨_, ofDocument?_of_isTable surplus htop hgithub hllm hreview hserver, fun key => ?_⟩
  -- Only the keys of the app have no usual value.
  cases key with
  | appId => exact optional_value (underApp _)
  | clientId => exact optional_value (underApp _)
  | privateKeyPath => exact optional_value (underApp _)
  | webhookSecret => exact optional_value (underApp _)
  | _ => exact value_orElse (under _ _) _

/-! ## Loading -/

variable {σ : Type} {files : Files (StateM σ)} {start : σ} {path : Option String}

/-- The document that settings are loaded from. Where no file is named and the usual one is missing,
it is an empty one. -/
inductive ReadsDocument (files : Files (StateM σ)) (start : σ) : Option String → Document → Prop
  | named {path text : String} {d : Document} :
      ((files.look path).run start).1.text path = .ok text → Document.ofTomlText? text = some d →
      ReadsDocument files start (some path) d
  | usual {text : String} {d : Document} :
      ((files.look usualFile).run start).1.text usualFile = .ok text →
      Document.ofTomlText? text = some d → ReadsDocument files start none d
  | nothing : ((files.look usualFile).run start).1 = .missing →
      ReadsDocument files start none (.table [])

theorem ofFile_eq_ok {state : PathState} {path text : String} {s : Settings}
    (hstate : state.text path = .ok text) (htext : Document.ofTomlText? text = some d)
    (hd : ofDocument? .ignored d = some s) : ofFile path state = .ok s := by
  rw [ofFile, hstate]
  show ofToml text = .ok s
  rw [ofToml, htext, Option.bind_some, hd]

theorem present_of_text {state : PathState} {path text : String}
    (h : state.text path = .ok text) : state.present = true := by
  cases state with
  | missing => exact absurd h nofun
  | unreadable reason => exact absurd h nofun
  | file content => rfl

theorem ofNamedFile_none_run : ((ofNamedFile files none).run start).1 =
    if ((files.look usualFile).run start).1.present
    then ofFile usualFile ((files.look usualFile).run start).1 else .ok {} := rfl

theorem ofNamedFile_run (hread : ReadsDocument files start path d) {s : Settings}
    (hd : ofDocument? .ignored d = some s) :
    ((ofNamedFile files path).run start).1 = .ok s := by
  cases hread with
  | named hstate htext => exact ofFile_eq_ok hstate htext hd
  | usual hstate htext =>
    rw [ofNamedFile_none_run, if_pos (present_of_text hstate)]
    exact ofFile_eq_ok hstate htext hd
  | nothing hstate =>
    rw [ofNamedFile_none_run, hstate]
    exact congrArg Except.ok (Option.some.inj hd)

theorem load_run {s : Settings} (h : ((ofNamedFile files path).run start).1 = .ok s)
    (env : Environment) : ((load files path env).run start).1 = s.withEnvironment env := by
  have hrun : (ofNamedFile files path).run start =
      pure (.ok s, ((ofNamedFile files path).run start).2) := Prod.ext h rfl
  rw [load, StateT.run_bind, hrun, pure_bind]
  rfl

/-- Loading gives every key the value of its variable if that is set, or else the value in the file
if the key is present, or else its usual one. No variable changes a key that has none, and a section
counts for the same whether it is empty or absent. -/
theorem load_resolves {env : Environment} (hread : ReadsDocument files start path d)
    (hd : d.IsConfiguration) (henv : env.IsValid) :
    ∃ settings, ((load files path env).run start).1 = .ok settings ∧
      (∀ key : SettingKey, key.get settings =
        (key.inEnvironment? env).or ((key.inDocument? d).or (key.get {}))) ∧
      (∀ key : SettingKey, key.replacedBy? = none →
        key.get settings = (key.inDocument? d).or (key.get {})) ∧
      ∀ (key : SettingKey) (sectionPath : List String), key.IsIn sectionPath →
        d.LacksSection sectionPath →
        key.get settings = (key.inEnvironment? env).or (key.get {}) := by
  obtain ⟨s, hs, hget⟩ := exists_ofDocument? hd .ignored
  obtain ⟨settings, hsettings, hvalue⟩ := withEnvironment_of_valid henv s
  refine ⟨settings, (load_run (ofNamedFile_run hread hs) env).trans hsettings, fun key => ?_,
    fun key hkey => ?_, fun key sectionPath hkey hlacks => ?_⟩
  · rw [hvalue, hget]
  · rw [hvalue, hget, SettingKey.inEnvironment?, hkey]
    rfl
  · rw [hvalue, hget, Document.inDocument?_of_lacksSection hkey hlacks]
    rfl

/-- A working directory in which the usual file has an empty section and one with a single key. -/
def sparseTree : FileTree :=
  ⟨[([usualFile], some (Text.utf8 "[github]\n[llm]\nmodel = \"a\"\n"))]⟩

/-- What that file says. -/
def sparseDocument : Document :=
  .table [(some "github", .table []), (some "llm", .table [(some "model", .text (some "a"))])]

/-- An environment in which one variable is set, with blanks around its number. -/
def sparseEnvironment : Environment := fun name =>
  if name = SettingVariable.timeoutSeconds.name then some " 5 " else none

/-- The document is `sparseDocument`, for which it can be tested. -/
def isSparse : Document → Bool
  | .table [(some "github", .table []), (some "llm", .table [(some "model", .text (some "a"))])] =>
    true
  | _ => false

theorem eq_of_isSparse {d : Document} (h : isSparse d = true) : d = sparseDocument := by
  unfold isSparse at h
  split at h
  · rfl
  · exact absurd h Bool.false_ne_true

theorem readsDocument_sparse : ReadsDocument FileTree.files sparseTree none sparseDocument := by
  have htext : ((FileTree.files.look usualFile).run sparseTree).1.text usualFile =
      .ok "[github]\n[llm]\nmodel = \"a\"\n" := by decide +kernel
  have hsparse : (Document.ofTomlText? "[github]\n[llm]\nmodel = \"a\"\n").any isSparse = true :=
    by decide +kernel
  obtain ⟨d, hd, hsparse⟩ := (Option.any_eq_true _ _).1 hsparse
  rw [eq_of_isSparse hsparse] at hd
  exact .usual htext hd

theorem isConfiguration_sparse : sparseDocument.IsConfiguration := by
  refine ⟨fun path hpath v hv => ?_, fun key v hv => ?_⟩
  · simp only [sectionPaths, List.mem_cons, List.not_mem_nil, or_false] at hpath
    obtain rfl | rfl | rfl | rfl | rfl | rfl := hpath
    · obtain rfl := Option.some.inj hv
      exact ⟨_, rfl, by decide, by decide⟩
    · obtain rfl := Option.some.inj hv
      exact Document.isTable_empty
    · exact absurd hv nofun
    · obtain rfl := Option.some.inj hv
      exact ⟨_, rfl, by decide, by decide⟩
    · exact absurd hv nofun
    · exact absurd hv nofun
  · cases key with
    | model =>
      obtain rfl := Option.some.inj hv
      exact ⟨_, rfl⟩
    | _ => exact absurd hv nofun

theorem isValid_sparse : sparseEnvironment.IsValid := by
  intro key v value hkey hvalue
  obtain rfl : v = .timeoutSeconds := by
    cases v with
    | timeoutSeconds => rfl
    | _ => exact absurd hvalue nofun
  obtain rfl := Option.some.inj hvalue
  cases key with
  | timeoutSeconds => exact ⟨.number 5, by decide +kernel⟩
  | _ => exact absurd hkey nofun

/-- The number comes from the environment, the name from the file, and the key of the empty section
has its usual value. -/
theorem load_resolves_sparse :
    ∃ settings,
      ((load FileTree.files none sparseEnvironment).run sparseTree).1 = .ok settings ∧
      SettingKey.timeoutSeconds.get settings = some (.number 5) ∧
      SettingKey.model.get settings = some (.text "a") ∧
      SettingKey.apiUrl.get settings = some (.text "https://api.github.com") := by
  obtain ⟨settings, hload, hget, -⟩ :=
    load_resolves readsDocument_sparse isConfiguration_sparse isValid_sparse
  have htimeout := hget .timeoutSeconds
  have hnumber : SettingKey.timeoutSeconds.inEnvironment? sparseEnvironment =
      some (.number 5) := by decide +kernel
  rw [hnumber] at htimeout
  exact ⟨settings, hload, htimeout, hget .model, hget .apiUrl⟩

end Settings

end ReviewBot
