import Pulpcore.Serializers.StorageClasses

/-!
# Domains

`DomainSerializer` checks a request to create or update a domain, and `ModelSerializer`
saves it: a new row holds the validated data, an updated row has each validated attribute set
on it. A row is modelled as the dict of its columns.

Its `storage_settings` field is a `StorageSettingsSerializer`, which reads the request itself:
the settings come as a JSON object or as a JSON string (`json.loads`, a parameter); on an
update that keeps the storage class they are merged over the stored ones; and they go through
the settings serializer of the storage class (`storageMapping`). `validate` then constructs
the backend from the settings (`_validate_storage_backend`, with the backends as a parameter)
and refuses redirects to an SFTP backend.

Domains are served by requests one after another (`runRequests`). The viewset, which is not
part of this model, answers an update of the domain named `default` itself, so the serializer
never sees one. Over every run of requests, the store keeps distinct names, and every domain
but the default one keeps a valid name, a storage class among `BACKEND_CHOICES`, and settings
that its class's settings serializer takes back unchanged (`runRequests_valid`), as long as a
backend refuses settings its settings serializer does not declare.
-/

namespace Pulpcore

/-- A domain's row: its columns by name. -/
abbrev Row := PyDict JsonValue

/-- `getattr(row, attr)`: a column the request never set holds the database's `NULL`. -/
def column (row : Row) (attr : String) : JsonValue := (row.get? attr).getD .none

/-- How a request that does not succeed ends: a `ValidationError`, answered with its detail
(a 400), or another exception (a 500). -/
inductive RequestError where
  | validation (errors : Errors)
  | exception (name : String)
  deriving DecidableEq

/-- What constructing a backend from settings does: it succeeds, raises `ImproperlyConfigured`
with its message, or raises another exception. -/
inductive BackendOutcome where
  | ok
  | improperlyConfigured (message : String)
  | exception (name : String)
  deriving DecidableEq

/-- The world a domain request runs in: `json.loads` (`none` for a `JSONDecodeError`),
whether `import_string` finds a storage class, and what its constructor does with
settings. -/
structure DomainEnv where
  jsonLoads : String → Option JsonValue
  importable : String → Bool
  construct : String → PyDict JsonValue → BackendOutcome

/-! ### StorageSettingsSerializer -/

/-- `STORAGE_MAPPING.get(storage_class)` on a JSON value: a list or a dict is unhashable. -/
def storageMappingGet : JsonValue → Except RequestError (Option SettingsSerializer)
  | .str s => .ok (storageMapping.get? s)
  | .list _ => .error (.exception "TypeError")
  | .dict _ => .error (.exception "TypeError")
  | _ => .ok none

/-- `{**stored, **incoming}`: both must be mappings. -/
def mergeSettings : JsonValue → JsonValue → Except RequestError JsonValue
  | .dict stored, .dict incoming =>
    .ok (.dict ((PyDict.ofList stored).update (PyDict.ofList incoming)).entries)
  | _, _ => .error (.exception "TypeError")

/-- `serializer_class(data=storage_settings).is_valid(raise_exception=True)`: a dict goes
through the settings serializer; `None` is refused as `No data provided`; any other value
fails at `data.items()`. -/
def settingsIsValid (c : SettingsSerializer) : JsonValue →
    Except RequestError (Except Errors (PyDict JsonValue))
  | .dict entries => .ok (c.runValidation (PyDict.ofList entries))
  | .none => .ok (.error [(["non_field_errors"], "No data provided")])
  | _ => .error (.exception "AttributeError")

/-- The settings the request gives: a dict, or a JSON string that `json.loads` reads. -/
def loadStorageSettings (env : DomainEnv) (initialData : PyDict JsonValue) :
    Except Errors JsonValue :=
  match (initialData.get? "storage_settings").getD (.dict []) with
  | .dict entries => .ok (.dict entries)
  | .str s =>
    match env.jsonLoads s with
    | some v => .ok v
    | none => .error (messagesAt ["Improper JSON string passed in"])
  | _ => .error (messagesAt ["Storage settings should be a JSON object."])

/-- The `storage_class` that picks the settings serializer: on an update, the request's class
or else the stored one; on a create, `initial_data["storage_class"]` (`none` for the
`KeyError`). -/
def settingsStorageClass (inst : Option Row) (initialData : PyDict JsonValue) :
    Option JsonValue :=
  match inst with
  | some row => some ((initialData.get? "storage_class").getD (column row "storage_class"))
  | none => initialData.get? "storage_class"

/-- The storage class the settings are for, and the settings, which an update that keeps the
stored class merges over the stored ones. -/
def settingsSource (inst : Option Row) (initialData : PyDict JsonValue)
    (storageSettings : JsonValue) : Except RequestError (JsonValue × JsonValue) :=
  match settingsStorageClass inst initialData with
  | none => .error (.exception "KeyError")
  | some storageClass =>
    match inst with
    | some row =>
      if storageClass = column row "storage_class" then
        (storageClass, ·) <$> mergeSettings (column row "storage_settings") storageSettings
      else .ok (storageClass, storageSettings)
    | none => .ok (storageClass, storageSettings)

/-- `StorageSettingsSerializer.to_internal_value`, which reads the request's `storage_settings`
and `storage_class` from `initial_data` and returns the validated settings, `{}` for a class
without a settings serializer. A `ValidationError` it raises is the field's error. -/
def storageSettingsToInternalValue (env : DomainEnv) (inst : Option Row)
    (initialData : PyDict JsonValue) : Except RequestError (Except Errors (PyDict JsonValue)) :=
  match loadStorageSettings env initialData with
  | .error e => .ok (.error e)
  | .ok storageSettings => do
    let source ← settingsSource inst initialData storageSettings
    match ← storageMappingGet source.1 with
    | some c => settingsIsValid c source.2
    | none => .ok (.ok PyDict.empty)

/-- The `storage_settings` field's `run_validation`: a missing value is skipped on a partial
update and otherwise required, `null` is refused, and any other value leads to
`to_internal_value`, whose result `set_value` puts under `storage_settings`. -/
def storageSettingsRun (env : DomainEnv) (inst : Option Row) (partialUpdate : Bool)
    (data : PyDict JsonValue) : Except RequestError (Except Errors (Option JsonValue)) :=
  match data.get? "storage_settings" with
  | none => .ok (if partialUpdate then .ok none else .error (messagesAt ["This field is required."]))
  | some .none => .ok (.error (messagesAt ["This field may not be null."]))
  | some _ =>
    Except.map (fun settings => some (.dict settings.entries)) <$>
      storageSettingsToInternalValue env inst data

/-! ### DomainSerializer -/

/-- `name`'s `to_internal_value` and validators: a `SlugField(max_length=50)` whose
`UniqueValidator`, against the other domains' names, runs before the slug's own validators. -/
def domainNameValue (otherNames : List JsonValue) (v : JsonValue) : Except Errors JsonValue := do
  let s ← charValue false v
  checkValidators
    ((if .str s ∈ otherNames then ["This field must be unique."] else []) ++ slugErrors 50 s)
    (.str s)

/-- `DomainSerializer.validate_name`. The name has passed the slug pattern, so it is ASCII and
`str.lower()` lowers it letter by letter. -/
def validateName (value : JsonValue) : Except Errors JsonValue :=
  if value.pyStr.toList.map Char.toLower ∈ ["api".toList, "content".toList] then
    .error (messagesAt ["Name can not be 'api' or 'content'."])
  else .ok value

/-- `name = SlugField(max_length=50, validators=[UniqueValidator(...)])`. -/
def domainNameField : SerializerField FieldKind := requiredField "name" (.slug 50)

/-- `description = CharField(required=False, allow_null=True)`. -/
def descriptionField : SerializerField FieldKind := ⟨"description", .char false, false, true, none⟩

/-- `storage_class = ChoiceField(choices=BACKEND_CHOICES)`. -/
def storageClassField : SerializerField FieldKind :=
  requiredField "storage_class" (.choice (backendChoices.map Prod.fst))

/-- `redirect_to_object_storage = BooleanField(default=True)`. -/
def redirectField : SerializerField FieldKind :=
  defaultField "redirect_to_object_storage" .boolean false (.bool true)

/-- `hide_guarded_distributions = BooleanField(default=False)`. -/
def hideGuardedField : SerializerField FieldKind :=
  defaultField "hide_guarded_distributions" .boolean false (.bool false)

/-- The `name` field in `Serializer.to_internal_value`: `run_validation`, then
`validate_name` unless the field was skipped. -/
def domainNameRun (otherNames : List JsonValue) (partialUpdate : Bool) (data : PyDict JsonValue) :
    Except Errors (Option JsonValue) := do
  match ← domainNameField.runValidation (domainNameValue otherNames) partialUpdate
      (data.get? "name") with
  | some v => some <$> validateName v
  | none => .ok none

/-- `DomainSerializer.to_internal_value`: the fields in their declared order. Only
`storage_settings` can raise something other than a `ValidationError`. -/
def domainToInternalValue (env : DomainEnv) (otherNames : List JsonValue) (inst : Option Row)
    (partialUpdate : Bool) (data : PyDict JsonValue) : Except RequestError (PyDict JsonValue) := do
  let settings ← storageSettingsRun env inst partialUpdate data
  match collectFields
      [("name", domainNameRun otherNames partialUpdate data),
       ("description", descriptionField.run partialUpdate data),
       ("storage_class", storageClassField.run partialUpdate data),
       ("storage_settings", settings),
       ("redirect_to_object_storage", redirectField.run partialUpdate data),
       ("hide_guarded_distributions", hideGuardedField.run partialUpdate data)] with
  | .ok value => .ok value
  | .error e => .error (.validation e)

/-- `BackendSettingsValidator._validate_storage_backend`. -/
def validateStorageBackend (env : DomainEnv) (storageClass storageSettings : JsonValue) :
    Except RequestError Unit :=
  match storageClass with
  | .str cls =>
    if !env.importable cls then
      .error (.validation [(["storage_class"], "Backend is not installed on Pulp.")])
    else
      match storageSettings with
      | .dict entries =>
        match env.construct cls (PyDict.ofList entries) with
        | .ok => .ok ()
        | .improperlyConfigured e =>
          .error (.validation [(["storage_settings"],
            "Backend settings contain incorrect values: " ++ e)])
        | .exception name => .error (.exception name)
      | _ => .error (.exception "TypeError")
  | _ => .error (.exception "AttributeError")

/-- `data.get(key) or self.instance.<key>`. -/
def valueOrInstance (data : PyDict JsonValue) (inst : Option Row) (key : String) :
    Except RequestError JsonValue :=
  match data.get? key with
  | some v => if v.truthy then .ok v else fallback
  | none => fallback
where
  fallback : Except RequestError JsonValue :=
    match inst with
    | some row => .ok (column row key)
    | none => .error (.exception "AttributeError")

/-- The storage class of the SFTP backend, which `BACKEND_CHOICES` leaves out. -/
def sftpStorageClass : String := "pulpcore.app.models.storage.PulpSFTPStorage"

/-- The error `validate` raises for a redirect to the SFTP backend. -/
def sftpRedirectError : RequestError :=
  .validation [(["redirect_to_object_storage"],
    "This field does not support being used with the SFTP backend.")]

/-- `DomainSerializer.validate`. -/
def domainValidate (env : DomainEnv) (inst : Option Row) (data : PyDict JsonValue) :
    Except RequestError (PyDict JsonValue) :=
  if inst.any (fun row => column row "name" = .str "default") then .ok data
  else do
    let storageClass ← valueOrInstance data inst "storage_class"
    let storageSettings ← valueOrInstance data inst "storage_settings"
    validateStorageBackend env storageClass storageSettings
    let redirect := match inst, data.get? "redirect_to_object_storage" with
      | _, some v => v
      | some row, none => column row "redirect_to_object_storage"
      | none, none => .bool true
    if redirect.truthy ∧ storageClass = .str sftpStorageClass then .error sftpRedirectError
    else .ok data

/-- `is_valid()` and `save()`: `to_internal_value` and `validate`, then `create`, which makes a
row of the validated data, or `update`, which sets each validated attribute on the row. -/
def saveDomain (env : DomainEnv) (otherNames : List JsonValue) (inst : Option Row)
    (partialUpdate : Bool) (data : PyDict JsonValue) : Except RequestError Row := do
  let value ← domainToInternalValue env otherNames inst partialUpdate data
  let value ← domainValidate env inst value
  match inst with
  | some row => .ok (row.update value)
  | none => .ok value

/-! ### DomainBackendMigratorSerializer -/

/-- `DomainBackendMigratorSerializer`'s `is_valid()`: its two fields, `storage_class` and
`storage_settings`, then `validate`, which constructs the backend from
`data["storage_class"]` and `data["storage_settings"]`. -/
def migratorValidate (env : DomainEnv) (inst : Option Row) (data : PyDict JsonValue) :
    Except RequestError (PyDict JsonValue) := do
  let settings ← storageSettingsRun env inst false data
  match collectFields
      [("storage_class", storageClassField.run false data), ("storage_settings", settings)] with
  | .error e => .error (.validation e)
  | .ok value =>
    match value.get? "storage_class" with
    | none => .error (.exception "KeyError")
    | some storageClass =>
      match value.get? "storage_settings" with
      | none => .error (.exception "KeyError")
      | some storageSettings => do
        validateStorageBackend env storageClass storageSettings
        pure value

/-! ### The store of domains -/

/-- A request to the domain endpoints: create a domain, or update the one of a name, fully or
partially. -/
inductive DomainRequest where
  | create (data : PyDict JsonValue)
  | update (name : String) (partialUpdate : Bool) (data : PyDict JsonValue)

/-- The rows before the first row of a name, that row, and the rows after it. -/
def splitAtName (name : String) : List Row → Option (List Row × Row × List Row)
  | [] => none
  | row :: rest =>
    if column row "name" = .str name then some ([], row, rest)
    else (fun (pre, found, post) => (row :: pre, found, post)) <$> splitAtName name rest

/-- One request against the store: a new domain is appended, an updated one replaces its row;
a domain the request names but the store lacks is `Http404`. -/
def handleRequest (env : DomainEnv) (store : List Row) :
    DomainRequest → Except RequestError (List Row)
  | .create data =>
    (fun row => store ++ [row]) <$> saveDomain env (store.map (column · "name")) none false data
  | .update name partialUpdate data =>
    match splitAtName name store with
    | none => .error (.exception "Http404")
    | some (pre, row, post) =>
      (fun row' => pre ++ row' :: post) <$>
        saveDomain env ((pre ++ post).map (column · "name")) (some row) partialUpdate data

/-- Requests served one after another; a request that fails leaves the store as it was. -/
def runRequests (env : DomainEnv) (store : List Row) (requests : List DomainRequest) : List Row :=
  requests.foldl (fun store request =>
    match handleRequest env store request with
    | .ok store' => store'
    | .error _ => store) store

/-! ### What a successful request went through -/

/-- A name a domain may be given: the slug validators and `validate_name` pass it. -/
def NameValid (n : String) : Prop := slugErrors 50 n = [] ∧ validateName (.str n) = .ok (.str n)

/-- A storage class and settings as a domain keeps them: a class of `BACKEND_CHOICES`, and
settings that the class's settings serializer takes back unchanged. -/
def SettingsValid (storageClass storageSettings : JsonValue) : Prop :=
  ∃ cls ∈ backendChoices.map Prod.fst, storageClass = .str cls ∧
    ∃ c, storageMapping.get? cls = some c ∧
      ∃ settings : PyDict JsonValue, storageSettings = .dict settings.entries ∧
        c.runValidation settings = .ok settings

lemma truthy_of_backendChoice :
    ∀ cls ∈ backendChoices.map Prod.fst, (JsonValue.str cls).truthy = true := by
  decide

/-- Only a str names a storage class: `str()` of any other JSON value is no choice. -/
lemma eq_str_of_pyStr_mem_backendChoices {v : JsonValue}
    (h : v.pyStr ∈ backendChoices.map Prod.fst) : v = .str v.pyStr := by
  have hdot : ∀ c ∈ backendChoices.map Prod.fst, '.' ∈ c.toList := by decide
  have hhead : ∀ c ∈ backendChoices.map Prod.fst,
      c.toList.head? ≠ some '[' ∧ c.toList.head? ≠ some '\x7b' := by decide
  cases v with
  | str s => rfl
  | none => exact absurd h (by decide)
  | bool b => cases b <;> exact absurd h (by decide)
  | int n => exact absurd ((toString_int_chars n).2 '.' (hdot _ h)).2 (by simp)
  | list items =>
    exact absurd (show (JsonValue.list items).pyStr.toList.head? = some '[' from rfl) (hhead _ h).1
  | dict entries =>
    exact absurd (show (JsonValue.dict entries).pyStr.toList.head? = some '\x7b' from rfl) (hhead _ h).2

lemma choiceValue_backendChoices {v w : JsonValue}
    (h : choiceValue (backendChoices.map Prod.fst) v = .ok w) :
    ∃ cls ∈ backendChoices.map Prod.fst, v = .str cls ∧ w = .str cls := by
  unfold choiceValue at h
  split at h
  · next hmem =>
    cases h
    exact ⟨_, hmem, eq_str_of_pyStr_mem_backendChoices hmem, rfl⟩
  · cases h

/-- The `storage_class` field skips a missing class on a partial update, and otherwise passes
only a str of `BACKEND_CHOICES`. -/
lemma storageClassField_run_eq_ok {partialUpdate : Bool} {data : PyDict JsonValue}
    {x : Option JsonValue} (h : storageClassField.run partialUpdate data = .ok x) :
    (x = none ∧ partialUpdate = true ∧ data.get? "storage_class" = none) ∨
      ∃ cls ∈ backendChoices.map Prod.fst,
        x = some (.str cls) ∧ data.get? "storage_class" = some (.str cls) := by
  rw [SerializerField.run, show storageClassField.getValue data = data.get? "storage_class" from rfl]
    at h
  rcases SerializerField.runValidation_required_eq_ok rfl rfl h with
    ⟨rfl, hp, hd⟩ | ⟨v, w, hd, hw, rfl⟩
  · exact .inl ⟨rfl, hp, hd⟩
  · obtain ⟨cls, hcls, rfl, rfl⟩ := choiceValue_backendChoices hw
    exact .inr ⟨cls, hcls, rfl, hd⟩

/-- The `name` field skips a missing name on a partial update, and otherwise passes only a
valid name that no other domain has. -/
lemma domainNameRun_eq_ok {otherNames : List JsonValue} {partialUpdate : Bool}
    {data : PyDict JsonValue} {x : Option JsonValue}
    (h : domainNameRun otherNames partialUpdate data = .ok x) :
    (x = none ∧ partialUpdate = true ∧ data.get? "name" = none) ∨
      ∃ n, x = some (.str n) ∧ .str n ∉ otherNames ∧ NameValid n := by
  simp only [domainNameRun, except_bind_eq_ok] at h
  obtain ⟨y, hy, hx⟩ := h
  rcases SerializerField.runValidation_required_eq_ok rfl rfl hy with
    ⟨rfl, hp, hd⟩ | ⟨v, u, -, hu, rfl⟩
  · exact .inl ⟨(Except.ok.inj hx).symm, hp, hd⟩
  · simp only [domainNameValue, except_bind_eq_ok, checkValidators_eq_ok, List.append_eq_nil]
      at hu
    obtain ⟨n, -, ⟨hunique, hslug⟩, rfl⟩ := hu
    simp only [except_map_eq_ok] at hx
    obtain ⟨w, hw, rfl⟩ := hx
    have hwn : w = .str n := by
      unfold validateName at hw; split at hw <;> cases hw; rfl
    subst hwn
    exact .inr ⟨n, rfl, fun hmem => by simp [hmem] at hunique, hslug, hw⟩

/-- The `storage_settings` field skips missing settings on a partial update, and otherwise
holds what `StorageSettingsSerializer.to_internal_value` returned. -/
lemma storageSettingsRun_eq_ok {env : DomainEnv} {inst : Option Row} {partialUpdate : Bool}
    {data : PyDict JsonValue} {x : Option JsonValue}
    (h : storageSettingsRun env inst partialUpdate data = .ok (.ok x)) :
    (x = none ∧ partialUpdate = true ∧ data.get? "storage_settings" = none) ∨
      ∃ settings : PyDict JsonValue, x = some (.dict settings.entries) ∧
        storageSettingsToInternalValue env inst data = .ok (.ok settings) := by
  unfold storageSettingsRun at h
  split at h
  · next hd =>
    cases partialUpdate
    · cases h
    · exact .inl ⟨(Except.ok.inj (Except.ok.inj h)).symm, rfl, hd⟩
  · cases h
  · rw [except_map_eq_ok] at h
    obtain ⟨y, hy, hxy⟩ := h
    cases y with
    | error e => cases hxy
    | ok settings => exact .inr ⟨settings, (Except.ok.inj hxy).symm, hy⟩

lemma settingsStorageClass_of_settingsSource {inst : Option Row} {data : PyDict JsonValue}
    {storageSettings : JsonValue} {source : JsonValue × JsonValue}
    (h : settingsSource inst data storageSettings = .ok source) :
    settingsStorageClass inst data = some source.1 := by
  unfold settingsSource at h
  split at h
  · cases h
  · next storageClass hsc =>
    rw [hsc]
    split at h
    · split at h
      · rw [except_map_eq_ok] at h
        obtain ⟨_, -, rfl⟩ := h
        rfl
      · cases h; rfl
    · cases h; rfl

lemma storageMappingGet_eq_some {v : JsonValue} {c : SettingsSerializer}
    (h : storageMappingGet v = .ok (some c)) : ∃ cls, v = .str cls ∧ storageMapping.get? cls = some c := by
  cases v <;> simp only [storageMappingGet, Except.ok.injEq, reduceCtorEq] at h
  exact ⟨_, rfl, h⟩

lemma settingsIsValid_eq_ok {c : SettingsSerializer} {v : JsonValue} {settings : PyDict JsonValue}
    (h : settingsIsValid c v = .ok (.ok settings)) :
    ∃ entries, v = .dict entries ∧ c.runValidation (PyDict.ofList entries) = .ok settings := by
  cases v <;> simp only [settingsIsValid, Except.ok.injEq, reduceCtorEq] at h
  exact ⟨_, rfl, h⟩

/-- The settings `StorageSettingsSerializer.to_internal_value` returns: those the serializer of
its storage class validated, which that serializer takes back unchanged, or `{}` for a class
without one. -/
lemma storageSettingsToInternalValue_eq_ok {env : DomainEnv} {inst : Option Row}
    {data : PyDict JsonValue} {settings : PyDict JsonValue}
    (h : storageSettingsToInternalValue env inst data = .ok (.ok settings)) :
    ∃ storageClass, settingsStorageClass inst data = some storageClass ∧
      ((∃ cls c, storageClass = .str cls ∧ storageMapping.get? cls = some c ∧
          c.runValidation settings = .ok settings) ∨
        (storageMappingGet storageClass = .ok none ∧ settings = PyDict.empty)) := by
  unfold storageSettingsToInternalValue at h
  split at h
  · cases h
  · simp only [except_bind_eq_ok] at h
    obtain ⟨source, hsource, found, hfound, h⟩ := h
    refine ⟨source.1, settingsStorageClass_of_settingsSource hsource, ?_⟩
    cases found with
    | none => exact .inr ⟨hfound, (Except.ok.inj (Except.ok.inj h)).symm⟩
    | some c =>
      obtain ⟨cls, hcls, hc⟩ := storageMappingGet_eq_some hfound
      obtain ⟨entries, -, hrun⟩ := settingsIsValid_eq_ok h
      exact .inl ⟨cls, c, hcls, hc,
        SettingsSerializer.runValidation_stable (coherent_of_storageMapping hc) hrun⟩

lemma settingsStorageClass_of_given {inst : Option Row} {data : PyDict JsonValue} {v : JsonValue}
    (h : data.get? "storage_class" = some v) : settingsStorageClass inst data = some v := by
  cases inst <;> simp [settingsStorageClass, h]

/-- Settings validated for a storage class of `BACKEND_CHOICES` are validated by that class's
settings serializer, which takes them back unchanged. -/
lemma storageSettings_validated {env : DomainEnv} {inst : Option Row} {data : PyDict JsonValue}
    {settings : PyDict JsonValue} {cls : String}
    (h : storageSettingsToInternalValue env inst data = .ok (.ok settings))
    (hclass : settingsStorageClass inst data = some (.str cls))
    (hmem : cls ∈ backendChoices.map Prod.fst) :
    ∃ c, storageMapping.get? cls = some c ∧ c.runValidation settings = .ok settings := by
  obtain ⟨sc, hsc, hres⟩ := storageSettingsToInternalValue_eq_ok h
  rw [hclass, Option.some.injEq] at hsc
  subst hsc
  obtain ⟨c, hc⟩ := Option.isSome_iff_exists.mp (storageMapping_of_backendChoice cls hmem)
  rcases hres with ⟨cls', c', ⟨⟩, hc', hrun⟩ | ⟨hnone, -⟩
  · exact ⟨c', hc', hrun⟩
  · simp [storageMappingGet, hc] at hnone

/-- What the validated data of `DomainSerializer` holds under `name`, `storage_class` and
`storage_settings`: what those fields returned. -/
lemma domainToInternalValue_eq_ok {env : DomainEnv} {otherNames : List JsonValue}
    {inst : Option Row} {partialUpdate : Bool} {data value : PyDict JsonValue}
    (h : domainToInternalValue env otherNames inst partialUpdate data = .ok value) :
    domainNameRun otherNames partialUpdate data = .ok (value.get? "name") ∧
      storageClassField.run partialUpdate data = .ok (value.get? "storage_class") ∧
      storageSettingsRun env inst partialUpdate data = .ok (.ok (value.get? "storage_settings")) := by
  simp only [domainToInternalValue, except_bind_eq_ok] at h
  obtain ⟨settings, hsettings, h⟩ := h
  split at h
  · next hcol =>
    cases h
    have hout := fun {k o} => @outcome_eq_of_collectFields _ _ hcol
      (by simp only [List.map_cons, List.map_nil]; decide) k o
    exact ⟨hout (by simp), hout (by simp), hsettings ▸ congrArg Except.ok (hout (by simp))⟩
  · cases h

lemma validateStorageBackend_eq_ok {env : DomainEnv} {storageClass storageSettings : JsonValue}
    (h : validateStorageBackend env storageClass storageSettings = .ok ()) :
    ∃ cls entries, storageClass = .str cls ∧ storageSettings = .dict entries ∧
      env.construct cls (PyDict.ofList entries) = .ok := by
  unfold validateStorageBackend at h
  split at h
  · split at h
    · cases h
    · split at h
      · split at h
        · exact ⟨_, _, rfl, rfl, ‹_›⟩
        · cases h
        · cases h
      · cases h
  · cases h

lemma valueOrInstance_of_truthy {data : PyDict JsonValue} {inst : Option Row} {key : String}
    {v : JsonValue} (h : data.get? key = some v) (hv : v.truthy = true) :
    valueOrInstance data inst key = .ok v := by
  simp [valueOrInstance, h, hv]

lemma valueOrInstance_of_none {data : PyDict JsonValue} {row : Row} {key : String}
    (h : data.get? key = none) : valueOrInstance data (some row) key = .ok (column row key) := by
  simp [valueOrInstance, valueOrInstance.fallback, h]

/-- `validate` returns its data. -/
lemma domainValidate_eq_ok {env : DomainEnv} {inst : Option Row} {data v : PyDict JsonValue}
    (h : domainValidate env inst data = .ok v) : v = data := by
  unfold domainValidate at h
  split at h
  · exact (Except.ok.inj h).symm
  · simp only [except_bind_eq_ok] at h
    obtain ⟨_, -, _, -, _, -, h⟩ := h
    split at h
    · cases h
    · exact (Except.ok.inj h).symm

/-- For any domain but the default one, `validate` has constructed the backend. -/
lemma domainValidate_backend {env : DomainEnv} {inst : Option Row} {data v : PyDict JsonValue}
    (hinst : ∀ row ∈ inst, column row "name" ≠ .str "default")
    (h : domainValidate env inst data = .ok v) :
    ∃ storageClass storageSettings, valueOrInstance data inst "storage_class" = .ok storageClass ∧
      valueOrInstance data inst "storage_settings" = .ok storageSettings ∧
      validateStorageBackend env storageClass storageSettings = .ok () := by
  unfold domainValidate at h
  rw [if_neg (by cases inst <;> simp_all)] at h
  simp only [except_bind_eq_ok] at h
  obtain ⟨storageClass, hc, storageSettings, hs, u, hb, -⟩ := h
  exact ⟨storageClass, storageSettings, hc, hs, hb⟩

/-- A saved row: the validated data, set on the row of an update. -/
lemma saveDomain_eq_ok {env : DomainEnv} {otherNames : List JsonValue} {inst : Option Row}
    {partialUpdate : Bool} {data : PyDict JsonValue} {row' : Row}
    (h : saveDomain env otherNames inst partialUpdate data = .ok row') :
    ∃ value, domainToInternalValue env otherNames inst partialUpdate data = .ok value ∧
      domainValidate env inst value = .ok value ∧
      ∀ k, row'.get? k = (value.get? k).or (inst.bind (·.get? k)) := by
  simp only [saveDomain, except_bind_eq_ok] at h
  obtain ⟨value, hto, v, hval, hrow⟩ := h
  obtain rfl := domainValidate_eq_ok hval
  refine ⟨v, hto, hval, fun k => ?_⟩
  cases inst with
  | none => cases hrow; simp
  | some row => cases hrow; simp

lemma column_of_saved_some {row' value : Row} {inst : Option Row}
    (hrow : ∀ k, row'.get? k = (value.get? k).or (inst.bind (·.get? k))) {k : String} {v : JsonValue}
    (hv : value.get? k = some v) : column row' k = v := by
  simp [column, hrow, hv]

lemma column_of_saved_none {row' value row : Row}
    (hrow : ∀ k, row'.get? k = (value.get? k).or ((some row).bind (·.get? k))) {k : String}
    (hv : value.get? k = none) : column row' k = column row k := by
  simp [column, hrow, hv]

/-- Backends of `BACKEND_CHOICES` that refuse the validated settings of another class of
`BACKEND_CHOICES`. -/
def DomainEnv.RefusesForeignSettings (env : DomainEnv) : Prop :=
  ∀ cls cls', cls ∈ backendChoices.map Prod.fst → cls' ∈ backendChoices.map Prod.fst → cls' ≠ cls →
    ∀ c settings, storageMapping.get? cls = some c → c.runValidation settings = .ok settings →
      env.construct cls' settings ≠ .ok

/-- Backends that refuse settings their settings serializer does not declare. -/
def DomainEnv.RefusesUndeclared (env : DomainEnv) : Prop :=
  ∀ storageClass c settings, storageMapping.get? storageClass = some c →
    env.construct storageClass settings = .ok → ∀ k ∈ settings.keys, ∃ f ∈ c.fields, f.name = k

/-- A backend that refuses undeclared settings refuses those of another class, which hold a
setting it does not declare. -/
lemma DomainEnv.RefusesUndeclared.refusesForeignSettings {env : DomainEnv}
    (hstrict : env.RefusesUndeclared) : env.RefusesForeignSettings := by
  intro cls cls' hmem hmem' hne c settings hc hrun hconstruct
  obtain ⟨c', hc'⟩ := Option.isSome_iff_exists.mp (storageMapping_of_backendChoice cls' hmem')
  obtain ⟨f, hf, hforeign⟩ :=
    backendChoices_foreign_field cls hmem cls' hmem' (Ne.symm hne) c hc c' hc'
  obtain ⟨f', hf', hname⟩ := hstrict cls' c' settings hc' hconstruct f.name
    (SettingsSerializer.mem_keys_of_runValidation (coherent_of_storageMapping hc) hrun hf
      (storageMapping_field_present hc f hf))
  exact hforeign (List.mem_map.mpr ⟨f', hf', hname⟩)

/-- Backends that accept exactly the settings their settings serializer declares, as
django-storages' backends refuse an unknown setting with `ImproperlyConfigured`. -/
def declaredSettingsEnv (jsonLoads : String → Option JsonValue) : DomainEnv where
  jsonLoads := jsonLoads
  importable _ := true
  construct storageClass settings :=
    if ∀ k ∈ settings.keys, ∃ c ∈ storageMapping.get? storageClass, ∃ f ∈ c.fields, f.name = k
    then .ok
    else .improperlyConfigured "Invalid setting"

lemma declaredSettingsEnv_refusesUndeclared (jsonLoads : String → Option JsonValue) :
    (declaredSettingsEnv jsonLoads).RefusesUndeclared := by
  intro storageClass c settings hc hok k hk
  simp only [declaredSettingsEnv] at hok
  split at hok
  · next hall =>
    obtain ⟨c', hc', hf⟩ := hall k hk
    rw [hc, Option.mem_def, Option.some.injEq] at hc'
    exact hc' ▸ hf
  · cases hok

section Save

variable {env : DomainEnv} {otherNames : List JsonValue} {inst : Option Row}
  {partialUpdate : Bool} {data : PyDict JsonValue} {row' : Row}

/-- The name of a saved row: a valid name no other domain has, or the name the row had. -/
lemma saveDomain_name (hcreate : inst = none → partialUpdate = false)
    (h : saveDomain env otherNames inst partialUpdate data = .ok row') :
    (∃ n, column row' "name" = .str n ∧ .str n ∉ otherNames ∧ NameValid n) ∨
      ∃ row ∈ inst, column row' "name" = column row "name" := by
  obtain ⟨value, hto, -, hrow⟩ := saveDomain_eq_ok h
  rcases domainNameRun_eq_ok (domainToInternalValue_eq_ok hto).1 with ⟨hnone, hp, -⟩ | ⟨n, hn, hfresh, hvalid⟩
  · cases inst with
    | none => cases hp ▸ hcreate rfl
    | some row => exact .inr ⟨row, rfl, column_of_saved_none hrow hnone⟩
  · exact .inl ⟨n, column_of_saved_some hrow hn, hfresh, hvalid⟩

/-- A saved row of a new domain, or of a valid domain other than the default one, holds a
storage class of `BACKEND_CHOICES` and settings that the class's settings serializer takes
back unchanged. An update that changes the class and keeps the settings passes only when the
new backend accepts the old class's settings, which these backends do not. -/
lemma saveDomain_settingsValid (hstrict : env.RefusesForeignSettings)
    (hinst : ∀ row ∈ inst, column row "name" ≠ .str "default" ∧
      SettingsValid (column row "storage_class") (column row "storage_settings"))
    (hcreate : inst = none → partialUpdate = false)
    (h : saveDomain env otherNames inst partialUpdate data = .ok row') :
    SettingsValid (column row' "storage_class") (column row' "storage_settings") := by
  obtain ⟨value, hto, hval, hrow⟩ := saveDomain_eq_ok h
  obtain ⟨-, hcls, hset⟩ := domainToInternalValue_eq_ok hto
  rcases storageSettingsRun_eq_ok hset with ⟨hsnone, hp, -⟩ | ⟨settings, hsome, hsti⟩
  · -- settings skipped by a partial update: the row keeps its settings
    obtain ⟨row, rfl⟩ : ∃ row, inst = some row := by
      cases inst with
      | none => cases hp ▸ hcreate rfl
      | some row => exact ⟨row, rfl⟩
    obtain ⟨hdefault, hvalid⟩ := hinst row rfl
    rw [column_of_saved_none hrow hsnone]
    rcases storageClassField_run_eq_ok hcls with ⟨hcnone, -, -⟩ | ⟨cls, hmem, hcsome, -⟩
    · rwa [column_of_saved_none hrow hcnone]
    rw [column_of_saved_some hrow hcsome]
    by_cases hsame : JsonValue.str cls = column row "storage_class"
    · rwa [hsame]
    exfalso
    obtain ⟨cls0, hmem0, hcls0, c0, hc0, s0, hs0, hrun0⟩ := hvalid
    obtain ⟨sc, ss, hsc, hss, hb⟩ := domainValidate_backend (by simpa using hdefault) hval
    rw [valueOrInstance_of_truthy hcsome (truthy_of_backendChoice cls hmem)] at hsc
    rw [valueOrInstance_of_none hsnone, hs0] at hss
    cases hsc; cases hss
    obtain ⟨cls', entries, hcls', hentries, hconstruct⟩ := validateStorageBackend_eq_ok hb
    cases hcls'; cases hentries
    rw [PyDict.ofList_entries] at hconstruct
    exact hstrict _ _ hmem0 hmem (by rintro rfl; exact hsame hcls0.symm) _ _ hc0 hrun0 hconstruct
  · -- settings validated by the serializer of the class the row ends with
    rw [column_of_saved_some hrow hsome]
    obtain ⟨cls, hmem, hrowcls, hclass⟩ : ∃ cls ∈ backendChoices.map Prod.fst,
        column row' "storage_class" = .str cls ∧ settingsStorageClass inst data = some (.str cls) := by
      rcases storageClassField_run_eq_ok hcls with ⟨hcnone, hp, hdc⟩ | ⟨cls, hmem, hcsome, hdc⟩
      · obtain ⟨row, rfl⟩ : ∃ row, inst = some row := by
          cases inst with
          | none => cases hp ▸ hcreate rfl
          | some row => exact ⟨row, rfl⟩
        obtain ⟨cls, hmem, hcls0, -⟩ := (hinst row rfl).2
        refine ⟨cls, hmem, by rw [column_of_saved_none hrow hcnone, hcls0], ?_⟩
        simp [settingsStorageClass, hdc, hcls0]
      · exact ⟨cls, hmem, column_of_saved_some hrow hcsome, settingsStorageClass_of_given hdc⟩
    obtain ⟨c, hc, hrun⟩ := storageSettings_validated hsti hclass hmem
    exact ⟨cls, hmem, hrowcls, c, hc, settings, rfl, hrun⟩

end Save

/-! ### What the serializer never does, and edge cases

The samples run against backends that take the settings they declare.
-/

/-- Backends that take the settings they declare, and a `json.loads` that decodes nothing. -/
def sampleEnv : DomainEnv := declaredSettingsEnv fun _ => none

/-- The file system backend. -/
def fileSystemClass : String := "pulpcore.app.models.storage.FileSystem"

/-- Validated file system settings. -/
def fileSystemSettings (location baseUrl : String) : List (String × JsonValue) :=
  [("location", .str location), ("base_url", .str baseUrl), ("file_permissions_mode", .int 420),
    ("directory_permissions_mode", .none)]

/-- The row of the file system domain `media` at `/var/lib/pulp/media`. -/
def mediaRow (baseUrl : String) : Row :=
  PyDict.ofList [("name", .str "media"), ("storage_class", .str fileSystemClass),
    ("storage_settings", .dict (fileSystemSettings "/var/lib/pulp/media" baseUrl)),
    ("redirect_to_object_storage", .bool true), ("hide_guarded_distributions", .bool false)]

/-- The request that creates it, naming its location by the setting `MEDIA_ROOT`. -/
def createMedia : PyDict JsonValue :=
  PyDict.ofList [("name", .str "media"), ("storage_class", .str fileSystemClass),
    ("storage_settings", .dict [("media_root", .str "/var/lib/pulp/media")])]


lemma valueOrInstance_eq_error {data : PyDict JsonValue} {inst : Option Row} {key : String}
    {e : RequestError} (h : valueOrInstance data inst key = .error e) :
    e = .exception "AttributeError" := by
  unfold valueOrInstance valueOrInstance.fallback at h
  split at h <;> (try split at h) <;> (try split at h) <;> first | cases h; rfl | cases h

lemma validateStorageBackend_ne_sftpRedirectError {env : DomainEnv}
    {storageClass storageSettings : JsonValue} :
    validateStorageBackend env storageClass storageSettings ≠ .error sftpRedirectError := by
  unfold validateStorageBackend sftpRedirectError
  split <;> (try split) <;> (try split) <;> (try split) <;> simp

/-- `validate` raises the SFTP error only for a domain other than the default one, after
taking `storage_class` to be the SFTP backend. -/
lemma domainValidate_eq_sftpRedirectError {env : DomainEnv} {inst : Option Row}
    {data : PyDict JsonValue} (h : domainValidate env inst data = .error sftpRedirectError) :
    (∀ row ∈ inst, column row "name" ≠ .str "default") ∧
      valueOrInstance data inst "storage_class" = .ok (.str sftpStorageClass) := by
  unfold domainValidate at h
  split at h
  · cases h
  · next hdefault =>
    refine ⟨fun row hrow hname => hdefault (by simp_all), ?_⟩
    rcases except_bind_eq_error.mp h with h | ⟨storageClass, hsc, h⟩
    · cases valueOrInstance_eq_error h
    rcases except_bind_eq_error.mp h with h | ⟨_, -, h⟩
    · cases valueOrInstance_eq_error h
    rcases except_bind_eq_error.mp h with h | ⟨_, -, h⟩
    · exact absurd h validateStorageBackend_ne_sftpRedirectError
    by_cases hclass : storageClass = .str sftpStorageClass
    · rw [hsc, hclass]
    · simp [hclass] at h

/-- `validate` never refuses a redirect to the SFTP backend for a new domain or a valid one:
the storage class it checks is the request's, which the `storage_class` field only passes from
`BACKEND_CHOICES`, or the stored one, and `BACKEND_CHOICES` leave SFTP out. -/
theorem domainValidate_never_sftpRedirectError {env : DomainEnv} {otherNames : List JsonValue}
    {inst : Option Row} {partialUpdate : Bool} {data value : PyDict JsonValue}
    (hinst : ∀ row ∈ inst, column row "name" ≠ .str "default" →
      SettingsValid (column row "storage_class") (column row "storage_settings"))
    (h : domainToInternalValue env otherNames inst partialUpdate data = .ok value) :
    domainValidate env inst value ≠ .error sftpRedirectError := by
  intro hsftp
  obtain ⟨hnotdefault, hsc⟩ := domainValidate_eq_sftpRedirectError hsftp
  have hsftpChoice : sftpStorageClass ∉ backendChoices.map Prod.fst := by decide
  rcases storageClassField_run_eq_ok (domainToInternalValue_eq_ok h).2.1 with
    ⟨hnone, -, -⟩ | ⟨cls, hmem, hsome, -⟩
  · cases inst with
    | none => simp [valueOrInstance, valueOrInstance.fallback, hnone] at hsc
    | some row =>
      obtain ⟨cls, hmem, hcls, -⟩ := hinst row rfl (hnotdefault row rfl)
      rw [valueOrInstance_of_none hnone, hcls] at hsc
      cases hsc
      exact hsftpChoice hmem
  · rw [valueOrInstance_of_truthy hsome (truthy_of_backendChoice cls hmem)] at hsc
    cases hsc
    exact hsftpChoice hmem

theorem domainValidate_never_sftpRedirectError_on_create :
    (∀ row ∈ (none : Option Row), column row "name" ≠ .str "default" →
        SettingsValid (column row "storage_class") (column row "storage_settings")) ∧
      domainToInternalValue sampleEnv [] none false createMedia = .ok (mediaRow "") ∧
      domainValidate sampleEnv none (mediaRow "") ≠ .error sftpRedirectError :=
  have hinst : ∀ row ∈ (none : Option Row), column row "name" ≠ .str "default" →
      SettingsValid (column row "storage_class") (column row "storage_settings") := nofun
  have h : domainToInternalValue sampleEnv [] none false createMedia = .ok (mediaRow "") := by
    decide
  ⟨hinst, h, domainValidate_never_sftpRedirectError hinst h⟩

/-- Without a storage class, `StorageSettingsSerializer.to_internal_value` of a create raises
`KeyError` once it has read the settings. -/
lemma storageSettingsToInternalValue_keyError {env : DomainEnv} {data : PyDict JsonValue}
    {storageSettings : JsonValue} (hclass : data.get? "storage_class" = none)
    (hload : loadStorageSettings env data = .ok storageSettings) :
    storageSettingsToInternalValue env none data = .error (.exception "KeyError") := by
  simp [storageSettingsToInternalValue, hload, settingsSource, settingsStorageClass, hclass]

/-- Creating a domain with storage settings but no storage class is answered with a server
error, the `KeyError` of `initial_data["storage_class"]`, and not with the
`This field is required.` of the `storage_class` field: the `storage_settings` field reads the
class itself, and its `KeyError` is no `ValidationError`. -/
theorem handleRequest_create_without_storage_class {env : DomainEnv} {store : List Row}
    {data : PyDict JsonValue} {given storageSettings : JsonValue}
    (hclass : data.get? "storage_class" = none) (hgiven : data.get? "storage_settings" = some given)
    (hnotnull : given ≠ .none) (hload : loadStorageSettings env data = .ok storageSettings) :
    handleRequest env store (.create data) = .error (.exception "KeyError") := by
  have hrun : storageSettingsRun env none false data = .error (.exception "KeyError") := by
    unfold storageSettingsRun
    split
    · simp_all
    · simp_all
    · rw [storageSettingsToInternalValue_keyError hclass hload]; rfl
  simp [handleRequest, saveDomain, domainToInternalValue, hrun]

/-- A create that names the domain and gives empty settings. -/
def createWithoutClass : PyDict JsonValue :=
  PyDict.ofList [("name", .str "media"), ("storage_settings", .dict [])]

theorem handleRequest_create_without_storage_class_on_empty_settings :
    createWithoutClass.get? "storage_class" = none ∧
      createWithoutClass.get? "storage_settings" = some (.dict []) ∧ JsonValue.dict [] ≠ .none ∧
      loadStorageSettings sampleEnv createWithoutClass = .ok (.dict []) ∧
      handleRequest sampleEnv [] (.create createWithoutClass) = .error (.exception "KeyError") :=
  have hclass : createWithoutClass.get? "storage_class" = none := by decide
  have hgiven : createWithoutClass.get? "storage_settings" = some (.dict []) := by decide
  have hnotnull : JsonValue.dict [] ≠ .none := nofun
  have hload : loadStorageSettings sampleEnv createWithoutClass = .ok (.dict []) := by decide
  ⟨hclass, hgiven, hnotnull, hload,
    handleRequest_create_without_storage_class hclass hgiven hnotnull hload⟩

lemma storageSettingsToInternalValue_congr {env : DomainEnv} {inst : Option Row}
    {d₁ d₂ : PyDict JsonValue} (hload : loadStorageSettings env d₁ = loadStorageSettings env d₂)
    (hclass : d₁.get? "storage_class" = d₂.get? "storage_class") :
    storageSettingsToInternalValue env inst d₁ = storageSettingsToInternalValue env inst d₂ := by
  have hsource : settingsSource inst d₁ = settingsSource inst d₂ := by
    funext storageSettings
    simp only [settingsSource, settingsStorageClass, hclass]
  simp only [storageSettingsToInternalValue, hload, hsource]

/-- The fields other than `storage_settings` read the request only under their names. -/
lemma domainToInternalValue_congr {env : DomainEnv} {otherNames : List JsonValue}
    {inst : Option Row} {partialUpdate : Bool} {d₁ d₂ : PyDict JsonValue}
    (hsettings : storageSettingsRun env inst partialUpdate d₁ =
      storageSettingsRun env inst partialUpdate d₂)
    (hget : ∀ k, k ≠ "storage_settings" → d₁.get? k = d₂.get? k) :
    domainToInternalValue env otherNames inst partialUpdate d₁ =
      domainToInternalValue env otherNames inst partialUpdate d₂ := by
  have hrun : ∀ f : SerializerField FieldKind, f.name ≠ "storage_settings" →
      f.run partialUpdate d₁ = f.run partialUpdate d₂ := fun f hf => by
    simp only [SerializerField.run, SerializerField.getValue, hget _ hf]
  have hname : domainNameRun otherNames partialUpdate d₁ = domainNameRun otherNames partialUpdate d₂ := by
    simp only [domainNameRun, hget "name" (by decide)]
  simp only [domainToInternalValue, hsettings, hname, hrun descriptionField (by decide),
    hrun storageClassField (by decide), hrun redirectField (by decide),
    hrun hideGuardedField (by decide)]

/-- Storage settings given as a JSON string in a JSON body are handled as the object the
string encodes. -/
theorem saveDomain_storageSettings_jsonString {env : DomainEnv} {otherNames : List JsonValue}
    {inst : Option Row} {partialUpdate : Bool} {data : PyDict JsonValue} {s : String}
    {entries : List (String × JsonValue)} (hjson : env.jsonLoads s = some (.dict entries)) :
    saveDomain env otherNames inst partialUpdate (data.set "storage_settings" (.str s)) =
      saveDomain env otherNames inst partialUpdate (data.set "storage_settings" (.dict entries)) := by
  have hget : ∀ k, k ≠ "storage_settings" →
      (data.set "storage_settings" (.str s)).get? k =
        (data.set "storage_settings" (.dict entries)).get? k := fun k hk => by
    simp [Ne.symm hk]
  have hload : loadStorageSettings env (data.set "storage_settings" (.str s)) =
      loadStorageSettings env (data.set "storage_settings" (.dict entries)) := by
    simp [loadStorageSettings, hjson]
  have hsettings : storageSettingsRun env inst partialUpdate (data.set "storage_settings" (.str s)) =
      storageSettingsRun env inst partialUpdate (data.set "storage_settings" (.dict entries)) := by
    simp only [storageSettingsRun, PyDict.get?_set, if_true,
      storageSettingsToInternalValue_congr hload (hget _ (by decide))]
  simp only [saveDomain, domainToInternalValue_congr hsettings hget]

/-- The JSON text of the `MEDIA_ROOT` setting `/srv`. -/
def srvJson : String := "\x7b\"media_root\": \"/srv\"\x7d"

/-- Backends that take the settings they declare, and a `json.loads` that decodes that text. -/
def srvEnv : DomainEnv :=
  declaredSettingsEnv fun s => if s = srvJson then some (.dict [("media_root", .str "/srv")]) else none

/-- A create of the file system domain `media` without its settings. -/
def mediaWithoutSettings : PyDict JsonValue :=
  PyDict.ofList [("name", .str "media"), ("storage_class", .str fileSystemClass)]

theorem saveDomain_storageSettings_jsonString_media_root :
    srvEnv.jsonLoads srvJson = some (.dict [("media_root", .str "/srv")]) ∧
      saveDomain srvEnv [] none false (mediaWithoutSettings.set "storage_settings" (.str srvJson)) =
        saveDomain srvEnv [] none false
          (mediaWithoutSettings.set "storage_settings" (.dict [("media_root", .str "/srv")])) :=
  have hjson : srvEnv.jsonLoads srvJson = some (.dict [("media_root", .str "/srv")]) := by decide
  ⟨hjson, saveDomain_storageSettings_jsonString hjson⟩

/-- The settings a row holds, as the dict they are. -/
def rowSettings (row : Row) : PyDict JsonValue :=
  match column row "storage_settings" with
  | .dict entries => PyDict.ofList entries
  | _ => PyDict.empty

/-- An update that keeps the storage class merges the settings it gives over the stored
ones: what the class's settings serializer returns for the merge. -/
lemma storageSettingsToInternalValue_merge {env : DomainEnv} {row : Row} {data : PyDict JsonValue}
    {cls : String} {c : SettingsSerializer} {stored : PyDict JsonValue}
    {entries : List (String × JsonValue)}
    (hcls : column row "storage_class" = .str cls) (hc : storageMapping.get? cls = some c)
    (hstored : column row "storage_settings" = .dict stored.entries)
    (hsame : (data.get? "storage_class").getD (column row "storage_class") =
      column row "storage_class")
    (hgiven : data.get? "storage_settings" = some (.dict entries)) :
    storageSettingsToInternalValue env (some row) data =
      .ok (c.runValidation (stored.update (PyDict.ofList entries))) := by
  rw [hcls] at hsame
  simp [storageSettingsToInternalValue, loadStorageSettings, hgiven, settingsSource,
    settingsStorageClass, hsame, hstored, mergeSettings, hcls, storageMappingGet, hc,
    settingsIsValid]

/-- An update that gives some storage settings and keeps the storage class keeps every stored
setting that the given ones do not name, neither by the init argument nor by a setting
name. -/
theorem saveDomain_keeps_unnamed_settings {env : DomainEnv} {otherNames : List JsonValue}
    {row row' : Row} {partialUpdate : Bool} {data : PyDict JsonValue} {cls : String}
    {c : SettingsSerializer} {stored : PyDict JsonValue} {entries : List (String × JsonValue)}
    (hcls : column row "storage_class" = .str cls) (hc : storageMapping.get? cls = some c)
    (hstored : column row "storage_settings" = .dict stored.entries)
    (hfixed : c.runValidation stored = .ok stored)
    (hsame : (data.get? "storage_class").getD (column row "storage_class") =
      column row "storage_class")
    (hgiven : data.get? "storage_settings" = some (.dict entries))
    (h : saveDomain env otherNames (some row) partialUpdate data = .ok row')
    {f : SerializerField SettingsFieldKind} (hf : f ∈ c.fields)
    (hunnamed : ∀ k ∈ (PyDict.ofList entries).keys,
      k ≠ f.name ∧ c.settingMapping.get? (lowerKey k) ≠ some f.name) :
    (rowSettings row').get? f.name = (rowSettings row).get? f.name := by
  obtain ⟨value, hto, -, hrow⟩ := saveDomain_eq_ok h
  rcases storageSettingsRun_eq_ok (domainToInternalValue_eq_ok hto).2.2 with
    ⟨-, -, hnone⟩ | ⟨settings, hsome, hsti⟩
  · rw [hgiven] at hnone; cases hnone
  rw [storageSettingsToInternalValue_merge hcls hc hstored hsame hgiven] at hsti
  have hkeep := SettingsSerializer.runValidation_update_keeps (coherent_of_storageMapping hc) hfixed
    (Except.ok.inj hsti) hf hunnamed
  simp only [rowSettings, column_of_saved_some hrow hsome, hstored, PyDict.ofList_entries, hkeep]

/-- A partial update that sets the file system domain's `base_url`. -/
def setBaseUrl : PyDict JsonValue :=
  PyDict.ofList [("storage_settings", .dict [("base_url", .str "https://media.example")])]

/-- Setting a file system domain's `base_url` alone keeps its `location`. -/
theorem saveDomain_keeps_unnamed_settings_location :
    saveDomain sampleEnv [] (some (mediaRow "")) true setBaseUrl =
        .ok (mediaRow "https://media.example") ∧
      (rowSettings (mediaRow "https://media.example")).get? "location" =
        (rowSettings (mediaRow "")).get? "location" :=
  have h : saveDomain sampleEnv [] (some (mediaRow "")) true setBaseUrl =
      .ok (mediaRow "https://media.example") := by decide
  ⟨h, @saveDomain_keeps_unnamed_settings _ _ _ _ _ _ fileSystemClass fileSystemSettingsSerializer
    (PyDict.ofList (fileSystemSettings "/var/lib/pulp/media" "")) [("base_url", .str "https://media.example")]
    (by decide) rfl (by decide) (by decide) (by decide) (by decide) h
    (requiredField "location" (.plain (.char true))) (by decide) (by decide)⟩

/-- What the backend migrator accepts: a storage class of `BACKEND_CHOICES`, settings that the
class's settings serializer takes back unchanged, and a backend that was constructed from
them. -/
theorem migratorValidate_eq_ok {env : DomainEnv} {inst : Option Row} {data value : PyDict JsonValue}
    (h : migratorValidate env inst data = .ok value) :
    SettingsValid (column value "storage_class") (column value "storage_settings") ∧
      ∃ cls entries, column value "storage_class" = .str cls ∧
        column value "storage_settings" = .dict entries ∧
        env.construct cls (PyDict.ofList entries) = .ok := by
  simp only [migratorValidate, except_bind_eq_ok] at h
  obtain ⟨settings, hsettings, h⟩ := h
  split at h
  · cases h
  next value' hcol =>
  have hout := fun {k o} => @outcome_eq_of_collectFields _ _ hcol
    (by simp only [List.map_cons, List.map_nil]; decide) k o
  have hcls : storageClassField.run false data = .ok (value'.get? "storage_class") := hout (by simp)
  have hset : settings = .ok (value'.get? "storage_settings") := hout (by simp)
  subst hset
  rcases storageClassField_run_eq_ok hcls with ⟨-, ⟨⟩, -⟩ | ⟨cls, hmem, hcsome, hdc⟩
  rcases storageSettingsRun_eq_ok hsettings with ⟨-, ⟨⟩, -⟩ | ⟨settings, hsome, hsti⟩
  obtain ⟨c, hc, hrun⟩ := storageSettings_validated hsti (settingsStorageClass_of_given hdc) hmem
  rw [hcsome, hsome] at h
  simp only [except_bind_eq_ok] at h
  obtain ⟨u, hb, ⟨⟩⟩ := h
  obtain ⟨cls', entries, ⟨⟩, ⟨⟩, hconstruct⟩ := validateStorageBackend_eq_ok hb
  simp only [column, hcsome, hsome, Option.getD_some]
  exact ⟨⟨cls, hmem, rfl, c, hc, settings, rfl, hrun⟩, cls, _, rfl, rfl, hconstruct⟩

/-- A migration to the file system backend with its `MEDIA_ROOT` setting. -/
def migrateToSrv : PyDict JsonValue :=
  PyDict.ofList [("storage_class", .str fileSystemClass),
    ("storage_settings", .dict [("MEDIA_ROOT", .str "/srv")])]

theorem migratorValidate_eq_ok_media_root :
    migratorValidate sampleEnv none migrateToSrv =
        .ok (PyDict.ofList [("storage_class", .str fileSystemClass),
          ("storage_settings", .dict (fileSystemSettings "/srv" ""))]) ∧
      SettingsValid (.str fileSystemClass) (.dict (fileSystemSettings "/srv" "")) :=
  have h : migratorValidate sampleEnv none migrateToSrv =
      .ok (PyDict.ofList [("storage_class", .str fileSystemClass),
        ("storage_settings", .dict (fileSystemSettings "/srv" ""))]) := by decide
  ⟨h, (migratorValidate_eq_ok h).1⟩

end Pulpcore
