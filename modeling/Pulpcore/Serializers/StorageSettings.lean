import Pulpcore.Serializers.Fields

/-!
# Storage settings

A subclass of `BaseSettingsClass` is the serializer of one storage backend's settings. Its
`to_internal_value` first renames the keys of the incoming dict (`translateSettings`): a key
whose lower case is one of the backend's Django setting names, a key of `SETTING_MAPPING`, is
replaced by the init argument it maps to; a key that is an init argument already stays; any
other key is refused as `"Unexpected field"`. The renamed dict then goes through the
serializer's fields, and `is_valid` passes the result through `validate`
(`SettingsSerializer.runValidation`).

`translateSettings_get?` says what the renamed dict holds under every key: the value of the
last incoming key under a setting name for it, and otherwise the value given under the key
itself. So the renamed dict holds only init arguments (`translateSettings_keys`), and a
setting name overrides the init argument it maps to.

For a serializer whose declaration is coherent (`SettingsSerializer.Coherent`: distinct field
names, fields that take back what they return, and field names the renaming keeps), the
settings it returns validate again to themselves (`SettingsSerializer.runValidation_stable`),
and validating stored settings merged with new ones keeps every stored setting that the new
ones do not name (`SettingsSerializer.runValidation_update_keeps`).
-/

namespace Pulpcore

/-! ### Renaming setting names -/

/-- `str.lower()` on an incoming key, as far as matching the ASCII setting names goes: ASCII
capitals are lowered, and the Kelvin sign U+212A, the one other character whose lower case is
ASCII, becomes `k`. Any other character is kept; its lower case is not ASCII, so a key that
holds one matches no setting name either way. -/
def lowerKey (key : String) : String :=
  String.mk (key.toList.map fun c => if c = '\u212A' then 'k' else c.toLower)

/-- The init arguments, `set(SETTING_MAPPING.values())`. -/
def initKeys (mapping : PyDict String) : List String := mapping.entries.map Prod.snd

/-- The state of the loop over the incoming keys: the unknown keys, the keys to pop, and the
values to set under init arguments. -/
structure TranslateState where
  unknownFields : List String
  fieldsToPop : List String
  updateDict : PyDict JsonValue

/-- One incoming key in `BaseSettingsClass.to_internal_value`. -/
def translateStep (mapping : PyDict String) (st : TranslateState) (kv : String × JsonValue) :
    TranslateState :=
  match mapping.get? (lowerKey kv.1) with
  | some initKey =>
    { st with fieldsToPop := st.fieldsToPop ++ [kv.1], updateDict := st.updateDict.set initKey kv.2 }
  | none =>
    if kv.1 ∈ initKeys mapping then st
    else { st with unknownFields := st.unknownFields ++ [kv.1] }

/-- `BaseSettingsClass.to_internal_value` up to `super().to_internal_value(data)`: with an
unknown key, each unknown key is reported as `"Unexpected field"`; otherwise the keys under
setting names are popped and the renamed values set. The sets `unknown_fields` and
`fields_to_pop` are lists in the order of the incoming keys. -/
def translateSettings (mapping : PyDict String) (data : PyDict JsonValue) :
    Except Errors (PyDict JsonValue) :=
  let st := data.entries.foldl (translateStep mapping) ⟨[], [], PyDict.empty⟩
  if st.unknownFields.isEmpty then .ok ((st.fieldsToPop.foldl PyDict.pop data).update st.updateDict)
  else .error (st.unknownFields.map fun field => ([field], "Unexpected field"))

/-- The incoming entries under setting names, renamed to their init arguments, in order. -/
def renamedEntries (mapping : PyDict String) (entries : List (String × JsonValue)) :
    List (String × JsonValue) :=
  entries.filterMap fun kv => (mapping.get? (lowerKey kv.1)).map (·, kv.2)

/-- The value the last incoming key under a setting name gives to the init argument `k`. -/
def lastRenamedValue (mapping : PyDict String) (data : PyDict JsonValue) (k : String) :
    Option JsonValue :=
  PyDict.lookup k (renamedEntries mapping data.entries).reverse

/-- The keys the loop finds unknown. -/
def unknownKeys (mapping : PyDict String) (data : PyDict JsonValue) : List String :=
  data.keys.filter fun k => (mapping.get? (lowerKey k)).isNone && k ∉ initKeys mapping

lemma foldl_translateStep (mapping : PyDict String) :
    ∀ (entries : List (String × JsonValue)) (st : TranslateState),
      entries.foldl (translateStep mapping) st =
        ⟨st.unknownFields ++ (entries.map Prod.fst).filter
            (fun k => (mapping.get? (lowerKey k)).isNone && k ∉ initKeys mapping),
          st.fieldsToPop ++ (entries.map Prod.fst).filter fun k => (mapping.get? (lowerKey k)).isSome,
          st.updateDict.setAll (renamedEntries mapping entries)⟩
  | [], st => by simp [renamedEntries, PyDict.setAll]
  | (k, v) :: rest, st => by
    rw [List.foldl_cons, foldl_translateStep mapping rest]
    unfold translateStep
    cases hk : mapping.get? (lowerKey k) with
    | some initKey =>
      simp [hk, renamedEntries, PyDict.setAll]
    | none =>
      by_cases hi : k ∈ initKeys mapping <;> simp [hk, hi, renamedEntries]

lemma get?_foldl_pop (k : String) :
    ∀ (ks : List String) (d : PyDict JsonValue),
      (ks.foldl PyDict.pop d).get? k = if k ∈ ks then none else d.get? k
  | [], d => by simp
  | k' :: rest, d => by
    rw [List.foldl_cons, get?_foldl_pop k rest, PyDict.get?_pop]
    by_cases h : k = k' <;> by_cases h' : k ∈ rest <;> simp [h, h', eq_comm]

/-- The renaming fails exactly on the unknown keys, each reported under its own name. -/
lemma translateSettings_eq_error {mapping : PyDict String} {data : PyDict JsonValue}
    {errors : Errors} (h : translateSettings mapping data = .error errors) :
    unknownKeys mapping data ≠ [] ∧
      errors = (unknownKeys mapping data).map fun field => ([field], "Unexpected field") := by
  simp only [translateSettings, foldl_translateStep, List.nil_append] at h
  split at h
  · cases h
  · next hne =>
    cases h
    exact ⟨by simpa [unknownKeys, PyDict.keys] using hne, rfl⟩

/-- The renaming accepts data exactly when every key is a setting name, in any case, or an
init argument. -/
lemma translateSettings_isOk_iff (mapping : PyDict String) (data : PyDict JsonValue) :
    (∃ out, translateSettings mapping data = .ok out) ↔ unknownKeys mapping data = [] := by
  simp only [translateSettings, foldl_translateStep, List.nil_append]
  split
  · next h => simpa [unknownKeys, PyDict.keys] using h
  · next h => simpa [unknownKeys, PyDict.keys] using h

/-- What the renamed dict holds under each key: the value given last under a setting name for
it, otherwise the value given under the key itself, unless that key is a setting name. -/
theorem translateSettings_get? {mapping : PyDict String} {data out : PyDict JsonValue}
    (h : translateSettings mapping data = .ok out) (k : String) :
    out.get? k = (lastRenamedValue mapping data k).or
      (if (mapping.get? (lowerKey k)).isSome then none else data.get? k) := by
  simp only [translateSettings, foldl_translateStep, List.nil_append] at h
  split at h
  · cases h
    rw [PyDict.get?_update, PyDict.get?_setAll, PyDict.get?_empty, Option.or_none,
      get?_foldl_pop]
    congr 1
    by_cases hk : k ∈ data.entries.map Prod.fst
    · by_cases hm : (mapping.get? (lowerKey k)).isSome <;> simp [hk, hm]
    · have hnone : data.get? k = none := (PyDict.get?_eq_none_iff data k).mpr hk
      simp [hnone]
  · cases h

lemma lookup_renamedEntries {mapping : PyDict String} {k : String} :
    ∀ {l : List (String × JsonValue)},
      (∀ g ∈ l.map Prod.fst, mapping.get? (lowerKey g) = some k → g = k) →
      PyDict.lookup k (renamedEntries mapping l) =
        if mapping.get? (lowerKey k) = some k then PyDict.lookup k l else none
  | [], _ => by simp [renamedEntries, PyDict.lookup]
  | (g, v) :: rest, halias => by
    have ih := lookup_renamedEntries (l := rest) fun g' hg' => halias g' (List.mem_cons_of_mem _ hg')
    have hg := halias g (List.mem_cons_self _ _)
    simp only [renamedEntries, List.filterMap_cons] at ih ⊢
    cases hm : mapping.get? (lowerKey g) with
    | none =>
      by_cases hgk : g = k
      · subst hgk; simp [hm, ih, PyDict.lookup]
      · simp [hm, ih, PyDict.lookup, hgk]
    | some i =>
      by_cases hik : i = k
      · subst hik
        obtain rfl := hg hm
        simp [hm, PyDict.lookup]
      · have hgk : g ≠ k ∨ mapping.get? (lowerKey k) ≠ some k := by
          by_cases hgk : g = k
          · subst hgk; exact .inr (by rw [hm]; simpa using hik)
          · exact .inl hgk
        simp only [Option.map_some', PyDict.lookup, hik, ↓reduceIte, ih]
        rcases hgk with hgk | hgk
        · simp [hgk]
        · simp [hgk]

/-- A key that only itself renames to, and that renames to nothing else, keeps its value. -/
lemma translateSettings_get?_of_unaliased {mapping : PyDict String} {data out : PyDict JsonValue}
    (h : translateSettings mapping data = .ok out) {k : String}
    (hk : ∀ k' ∈ mapping.get? (lowerKey k), k' = k)
    (halias : ∀ g ∈ data.keys, mapping.get? (lowerKey g) = some k → g = k) :
    out.get? k = data.get? k := by
  rw [translateSettings_get? h, lastRenamedValue, renamedEntries, ← List.filterMap_reverse,
    ← renamedEntries, lookup_renamedEntries (by simpa [PyDict.keys] using halias),
    PyDict.lookup_reverse data.nodup]
  cases hm : mapping.get? (lowerKey k) with
  | none => simp
  | some k' =>
    obtain rfl := hk k' hm
    simp [PyDict.get?]

/-- The renamed dict holds only init arguments. -/
theorem translateSettings_keys {mapping : PyDict String} {data out : PyDict JsonValue}
    (h : translateSettings mapping data = .ok out) : ∀ k ∈ out.keys, k ∈ initKeys mapping := by
  intro k hk
  have hunknown := (translateSettings_isOk_iff mapping data).mp ⟨out, h⟩
  rw [PyDict.mem_keys_iff, translateSettings_get? h] at hk
  cases hl : lastRenamedValue mapping data k with
  | some v =>
    have hmem := PyDict.lookup_mem hl
    rw [List.mem_reverse, renamedEntries, List.mem_filterMap] at hmem
    obtain ⟨⟨g, w⟩, -, hgw⟩ := hmem
    obtain ⟨k', hk', he⟩ := Option.map_eq_some'.mp hgw
    cases he
    exact List.mem_map.mpr ⟨_, PyDict.lookup_mem hk', rfl⟩
  | none =>
    rw [hl, Option.none_or] at hk
    split at hk
    · simp at hk
    · next hm =>
      have hkd : k ∈ data.keys := (PyDict.mem_keys_iff data k).mpr hk
      by_contra hni
      have hmem : k ∈ unknownKeys mapping data :=
        List.mem_filter.mpr ⟨hkd, by simp [Option.not_isSome_iff_eq_none.mp hm, hni]⟩
      rw [hunknown] at hmem
      exact List.not_mem_nil k hmem

/-- The renaming of `BaseSettingsClass.to_internal_value`: it refuses data with a key that is
neither a setting name, in any case, nor an init argument, reporting each such key as
`"Unexpected field"`; otherwise the renamed dict holds only init arguments, and under each the
value given last under a setting name for it, or else the value given under the init argument
itself, unless the init argument is a setting name too. -/
theorem translateSettings_spec (mapping : PyDict String) (data : PyDict JsonValue) :
    (unknownKeys mapping data ≠ [] →
      translateSettings mapping data =
        .error ((unknownKeys mapping data).map fun field => ([field], "Unexpected field"))) ∧
    (unknownKeys mapping data = [] → ∃ out, translateSettings mapping data = .ok out ∧
      (∀ k ∈ out.keys, k ∈ initKeys mapping) ∧
      ∀ k, out.get? k = (lastRenamedValue mapping data k).or
        (if (mapping.get? (lowerKey k)).isSome then none else data.get? k)) := by
  constructor
  · intro hne
    cases h : translateSettings mapping data with
    | error e => rw [(translateSettings_eq_error h).2]
    | ok out => exact absurd ((translateSettings_isOk_iff mapping data).mp ⟨out, h⟩) hne
  · intro hnil
    obtain ⟨out, h⟩ := (translateSettings_isOk_iff mapping data).mpr hnil
    exact ⟨out, h, translateSettings_keys h, translateSettings_get? h⟩

/-! ### The settings serializer -/

/-- The kind of a settings field: a plain field, or a nested serializer of plain fields
(`TransferConfigSerializer`). -/
inductive SettingsFieldKind where
  | plain (kind : FieldKind)
  | serializer (fields : List (SerializerField FieldKind))
  deriving DecidableEq

/-- The kind's `to_internal_value` and validators. A nested serializer takes a dict, which its
own fields validate (it is not partial, since its root is not); anything else is refused under
`non_field_errors`. -/
def SettingsFieldKind.toInternalValue (allowNull : Bool) :
    SettingsFieldKind → JsonValue → Except Errors JsonValue
  | .plain kind, v => kind.toInternalValue allowNull v
  | .serializer fields, v =>
    match v.asDict with
    | some data =>
      (fun ret => JsonValue.dict ret.entries) <$> serializerToInternalValue false fields data
    | none =>
      .error [(["non_field_errors"],
        "Invalid data. Expected a dictionary, but got " ++ v.typeName ++ ".")]

/-- A `HiddenField`, whose `get_value` finds nothing. -/
def SettingsFieldKind.isHidden : SettingsFieldKind → Bool
  | .plain .hidden => true
  | _ => false

/-- The nested serializer of a settings field has distinct field names and defaults that pass
their fields. -/
def SettingsFieldKind.NestedValid : SettingsFieldKind → Prop
  | .plain _ => True
  | .serializer fields => (fields.map (·.name)).Nodup ∧ ∀ f ∈ fields, f.DefaultValid

instance : DecidablePred SettingsFieldKind.NestedValid := fun k =>
  match k with
  | .plain _ => isTrue trivial
  | .serializer fields => inferInstanceAs (Decidable (_ ∧ ∀ f ∈ fields, f.DefaultValid))

/-- A value a settings field's kind returns passes the kind again unchanged, unless it is the
`None` of a `BooleanField` that allows null. -/
theorem SettingsFieldKind.toInternalValue_stable {k : SettingsFieldKind} (hk : k.NestedValid)
    {allowNull : Bool} {v w : JsonValue} (hv : v ≠ .none) (h : k.toInternalValue allowNull v = .ok w) :
    (w = .none ∧ allowNull = true) ∨ (w ≠ .none ∧ k.toInternalValue allowNull w = .ok w) := by
  cases k with
  | plain kind => exact FieldKind.toInternalValue_stable hv h
  | serializer fields =>
    simp only [toInternalValue] at h ⊢
    cases hd : v.asDict with
    | none => simp [hd] at h
    | some data =>
      simp only [hd, except_map_eq_ok] at h
      obtain ⟨ret, hret, rfl⟩ := h
      refine .inr ⟨nofun, ?_⟩
      simp [JsonValue.asDict, serializerToInternalValue_stable hk.1 hk.2 hret]

/-- The settings field takes its default back unchanged. -/
def SerializerField.SettingsDefaultValid (f : SerializerField SettingsFieldKind) : Prop :=
  ∀ d ∈ f.default,
    f.runValidation (f.kind.toInternalValue f.allowNull) false (some d) = .ok (some d)

instance (f : SerializerField SettingsFieldKind) : Decidable f.SettingsDefaultValid :=
  inferInstanceAs (Decidable (∀ d ∈ f.default, _))

/-- A subclass of `BaseSettingsClass`: its `STORAGE_CLASS`, its `SETTING_MAPPING` from
lower-case Django setting names to init arguments, its fields in their order, its
`validate_<field>` methods (the identity where it declares none) and its `validate`. -/
structure SettingsSerializer where
  storageClass : String
  settingMapping : PyDict String
  fields : List (SerializerField SettingsFieldKind)
  validateField : String → JsonValue → JsonValue
  validate : PyDict JsonValue → Except String (PyDict JsonValue)

namespace SettingsSerializer

variable (c : SettingsSerializer)

/-- A settings field on the value `get_value` found: `run_validation`, then its
`validate_<field>` method unless the field is skipped. -/
def validateFieldValue (f : SerializerField SettingsFieldKind) (x : Option JsonValue) :
    Except Errors (Option JsonValue) :=
  Option.map (c.validateField f.name) <$>
    f.runValidation (f.kind.toInternalValue f.allowNull) false x

/-- One settings field in `Serializer.to_internal_value`. -/
def runField (f : SerializerField SettingsFieldKind) (data : PyDict JsonValue) :
    Except Errors (Option JsonValue) :=
  c.validateFieldValue f (if f.kind.isHidden then none else data.get? f.name)

/-- `BaseSettingsClass.to_internal_value`: the renaming, then the fields. -/
def toInternalValue (data : PyDict JsonValue) : Except Errors (PyDict JsonValue) := do
  let renamed ← translateSettings c.settingMapping data
  collectFields (c.fields.map fun f => (f.name, c.runField f renamed))

/-- `is_valid()`: `run_validation`, which is `to_internal_value` and then `validate`, whose
error is reported under `non_field_errors`. -/
def runValidation (data : PyDict JsonValue) : Except Errors (PyDict JsonValue) := do
  let value ← c.toInternalValue data
  match c.validate value with
  | .ok v => .ok v
  | .error e => .error [(["non_field_errors"], e)]

/-- The field takes back, through its `validate_<field>` method, what it returned. -/
def FieldStable (f : SerializerField SettingsFieldKind) : Prop :=
  ∀ x w, c.validateFieldValue f x = .ok (some w) → c.validateFieldValue f (some w) = .ok (some w)

/-- What makes the settings a serializer returns its fixed points: distinct field names,
fields that take back what they return (a `HiddenField` reads nothing and always gives its
default), field names that rename to nothing but themselves and that the renaming accepts, and
a `validate` that returns its data. -/
structure Coherent : Prop where
  nodup : (c.fields.map (·.name)).Nodup
  fieldStable : ∀ f ∈ c.fields, f.kind.isHidden = false → c.FieldStable f
  renamesToSelf : ∀ f ∈ c.fields, ∀ k ∈ c.settingMapping.get? (lowerKey f.name), k = f.name
  accepted : ∀ f ∈ c.fields,
    (c.settingMapping.get? (lowerKey f.name)).isSome ∨ f.name ∈ initKeys c.settingMapping
  validateReturns : ∀ v w, c.validate v = .ok w → w = v

variable {c}

/-- A field is stable when its kind and default are and its `validate_<field>` method keeps
each value or, on a field that allows null, turns it into `None`. -/
lemma fieldStable_of_validateField {f : SerializerField SettingsFieldKind}
    (hk : f.kind.NestedValid) (hdef : f.SettingsDefaultValid)
    (hg : ∀ v, c.validateField f.name v = v ∨ (c.validateField f.name v = .none ∧ f.allowNull = true)) :
    c.FieldStable f := by
  intro x w h
  simp only [validateFieldValue, except_map_eq_ok, Option.map_eq_some'] at h ⊢
  obtain ⟨_, hu, u, rfl, rfl⟩ := h
  have hu := SerializerField.runValidation_stable
    (fun _ _ hv hvw => SettingsFieldKind.toInternalValue_stable hk hv hvw) hdef hu
  have hnone : c.validateField f.name .none = .none := by rcases hg .none with h | h <;> simp [h]
  rcases hg u with he | ⟨he, hnull⟩
  · rw [he]
    exact ⟨some u, hu, u, rfl, he⟩
  · rw [he, SerializerField.runValidation_some_none, if_pos hnull]
    exact ⟨some .none, rfl, .none, rfl, hnone⟩

/-- The part of `Coherent` that the declaration's tables decide: distinct field names, nested
serializers and defaults that pass their fields (but for a `HiddenField`'s), and field names
that the renaming keeps. -/
def TablesCoherent : Prop :=
  (c.fields.map (·.name)).Nodup ∧
    ∀ f ∈ c.fields, f.kind.NestedValid ∧ (f.kind.isHidden = false → f.SettingsDefaultValid) ∧
    (∀ k ∈ c.settingMapping.get? (lowerKey f.name), k = f.name) ∧
    ((c.settingMapping.get? (lowerKey f.name)).isSome ∨ f.name ∈ initKeys c.settingMapping)

instance : Decidable c.TablesCoherent := inferInstanceAs (Decidable (_ ∧ ∀ f ∈ c.fields, _))

/-- A serializer is coherent when its tables are, its `validate_<field>` methods keep values
or null them, and its `validate` returns its data. -/
lemma coherent_of_tables (ht : c.TablesCoherent)
    (hg : ∀ f ∈ c.fields, ∀ v, c.validateField f.name v = v ∨
      (c.validateField f.name v = .none ∧ f.allowNull = true))
    (hv : ∀ v w, c.validate v = .ok w → w = v) : c.Coherent where
  nodup := ht.1
  fieldStable f hf hh := fieldStable_of_validateField (ht.2 f hf).1 ((ht.2 f hf).2.1 hh) (hg f hf)
  renamesToSelf f hf := (ht.2 f hf).2.2.1
  accepted f hf := (ht.2 f hf).2.2.2
  validateReturns := hv

lemma runValidation_inv (hc : c.Coherent) {data v : PyDict JsonValue}
    (h : c.runValidation data = .ok v) :
    ∃ t, translateSettings c.settingMapping data = .ok t ∧
      collectFields (c.fields.map fun f => (f.name, c.runField f t)) = .ok v ∧
      c.validate v = .ok v := by
  simp only [runValidation, toInternalValue, except_bind_eq_ok] at h
  obtain ⟨value, ⟨t, ht, hcol⟩, hval⟩ := h
  split at hval
  · next w hw =>
    cases hval
    obtain rfl := hc.validateReturns _ _ hw
    exact ⟨t, ht, hcol, hw⟩
  · cases hval

/-- The keys of validated settings are field names. -/
lemma mem_fields_of_runValidation (hc : c.Coherent) {data v : PyDict JsonValue}
    (h : c.runValidation data = .ok v) : ∀ k ∈ v.keys, ∃ f ∈ c.fields, f.name = k := by
  obtain ⟨t, -, hcol, -⟩ := runValidation_inv hc h
  intro k hk
  by_contra hnot
  push_neg at hnot
  obtain ⟨values, hvals, rfl⟩ := collectFields_eq_ok.mp hcol
  rw [PyDict.mem_keys_iff, get?_ofList, PyDict.lookup_isSome_iff, List.map_reverse,
    List.mem_reverse] at hk
  obtain ⟨⟨k', v'⟩, hm, rfl⟩ := List.mem_map.mp hk
  obtain ⟨⟨g, x⟩, hg, hgx⟩ := List.mem_filterMap.mp hm
  obtain ⟨_, -, he⟩ := Option.map_eq_some'.mp hgx
  cases he
  have : (g, Except.ok x) ∈ c.fields.map fun f => (f.name, c.runField f t) := by
    rw [hvals]; exact List.mem_map_of_mem _ hg
  obtain ⟨f, hf, hfe⟩ := List.mem_map.mp this
  exact hnot f hf (congrArg Prod.fst hfe)

/-- On data none of whose other keys renames to a field, the field reads the data's own value
under its name. -/
lemma runField_translate (hc : c.Coherent) {d t : PyDict JsonValue}
    (ht : translateSettings c.settingMapping d = .ok t) {f : SerializerField SettingsFieldKind}
    (hf : f ∈ c.fields)
    (halias : ∀ g ∈ d.keys, c.settingMapping.get? (lowerKey g) = some f.name → g = f.name) :
    c.runField f t = c.validateFieldValue f (if f.kind.isHidden then none else d.get? f.name) := by
  rw [runField, translateSettings_get?_of_unaliased ht (hc.renamesToSelf f hf) halias]

/-- In data whose keys are field names, only a field's own name renames to it. -/
lemma unaliased_of_fields (hc : c.Coherent) {d : PyDict JsonValue}
    (hd : ∀ k ∈ d.keys, ∃ f ∈ c.fields, f.name = k) (f : SerializerField SettingsFieldKind) :
    ∀ g ∈ d.keys, c.settingMapping.get? (lowerKey g) = some f.name → g = f.name := by
  intro g hg hgf
  obtain ⟨f', hf', rfl⟩ := hd g hg
  exact (hc.renamesToSelf f' hf' f.name hgf).symm

/-- Validated settings hold, under each field, what the field gives for the value they hold. -/
lemma validateFieldValue_of_fixed (hc : c.Coherent) {stored : PyDict JsonValue}
    (hstored : c.runValidation stored = .ok stored) {f : SerializerField SettingsFieldKind}
    (hf : f ∈ c.fields) :
    c.validateFieldValue f (if f.kind.isHidden then none else stored.get? f.name) =
      .ok (stored.get? f.name) := by
  obtain ⟨t, ht, hcol, -⟩ := runValidation_inv hc hstored
  rw [← runField_translate hc ht hf
    (unaliased_of_fields hc (mem_fields_of_runValidation hc hstored) f)]
  exact collectFields_run_eq hc.nodup hcol hf

/-- Validated settings hold every field that is required or has a default. -/
lemma mem_keys_of_runValidation (hc : c.Coherent) {data v : PyDict JsonValue}
    (h : c.runValidation data = .ok v) {f : SerializerField SettingsFieldKind} (hf : f ∈ c.fields)
    (hpresent : f.required = true ∨ f.default.isSome = true) : f.name ∈ v.keys := by
  obtain ⟨t, -, hcol, -⟩ := runValidation_inv hc h
  have hrun := collectFields_run_eq hc.nodup hcol hf
  rw [PyDict.mem_keys_iff, Option.isSome_iff_ne_none]
  intro hnone
  rw [hnone, runField, validateFieldValue, except_map_eq_ok] at hrun
  obtain ⟨x, hx, hmap⟩ := hrun
  rw [Option.map_eq_none'] at hmap
  subst hmap
  rw [SerializerField.runValidation_eq_ok_none hx, SerializerField.runValidation_none] at hx
  rcases hpresent with hreq | hdef
  · simp [hreq] at hx
  · simp only [Bool.false_eq_true, ↓reduceIte] at hx
    split at hx
    · cases hx
    · rw [Except.ok.inj hx] at hdef; cases hdef

/-- The settings a coherent settings serializer returns validate again to themselves. -/
theorem runValidation_stable (hc : c.Coherent) {data v : PyDict JsonValue}
    (h : c.runValidation data = .ok v) : c.runValidation v = .ok v := by
  obtain ⟨t, -, hcol, hval⟩ := runValidation_inv hc h
  have hkeys := mem_fields_of_runValidation hc h
  obtain ⟨t', ht'⟩ : ∃ t', translateSettings c.settingMapping v = .ok t' := by
    rw [translateSettings_isOk_iff, List.eq_nil_iff_forall_not_mem]
    intro k hk
    obtain ⟨hkv, hunk⟩ := List.mem_filter.mp hk
    obtain ⟨f, hf, rfl⟩ := hkeys k hkv
    rcases hc.accepted f hf with hm | hm <;> simp_all
  have hcol' : collectFields (c.fields.map fun f => (f.name, c.runField f t')) = .ok v := by
    refine collectFields_stable hc.nodup hcol fun f hf => ?_
    rw [runField_translate hc ht' hf (unaliased_of_fields hc hkeys f)]
    have hx := collectFields_run_eq hc.nodup hcol hf
    unfold runField at hx
    split
    · next hh => rwa [if_pos hh] at hx
    · next hh =>
      rw [if_neg hh] at hx
      cases hget : v.get? f.name with
      | some w => rw [hget] at hx; exact hc.fieldStable f hf ((Bool.not_eq_true _).mp hh) _ _ hx
      | none =>
        rw [hget] at hx
        have hnone : f.runValidation (f.kind.toInternalValue f.allowNull) false
            (t.get? f.name) = .ok none := by
          simp only [validateFieldValue, except_map_eq_ok, Option.map_eq_none'] at hx
          obtain ⟨y, hy, rfl⟩ := hx
          exact hy
        rwa [SerializerField.runValidation_eq_ok_none hnone] at hx
  simp [runValidation, toInternalValue, ht', hcol', hval]

/-- Validating stored settings merged with new ones (`{**stored, **new}`) keeps every stored
setting that no new key names, neither by the init argument nor by a setting name. -/
theorem runValidation_update_keeps (hc : c.Coherent) {stored incoming new : PyDict JsonValue}
    (hstored : c.runValidation stored = .ok stored)
    (h : c.runValidation (stored.update incoming) = .ok new)
    {f : SerializerField SettingsFieldKind} (hf : f ∈ c.fields)
    (hunnamed : ∀ k ∈ incoming.keys, k ≠ f.name ∧ c.settingMapping.get? (lowerKey k) ≠ some f.name) :
    new.get? f.name = stored.get? f.name := by
  obtain ⟨t, ht, hcol, -⟩ := runValidation_inv hc h
  have halias : ∀ g ∈ (stored.update incoming).keys,
      c.settingMapping.get? (lowerKey g) = some f.name → g = f.name := by
    intro g hg hgf
    rcases (PyDict.mem_keys_update stored incoming g).mp hg with hgi | hgs
    · exact absurd hgf (hunnamed g hgi).2
    · exact unaliased_of_fields hc (mem_fields_of_runValidation hc hstored) f g hgs hgf
  have hinc : incoming.get? f.name = none :=
    (PyDict.get?_eq_none_iff _ _).mpr fun hm => (hunnamed _ hm).1 rfl
  have hrun := collectFields_run_eq hc.nodup hcol hf
  rw [runField_translate hc ht hf halias, PyDict.get?_update, hinc, Option.none_or,
    validateFieldValue_of_fixed hc hstored hf] at hrun
  exact (Except.ok.inj hrun).symm

end SettingsSerializer

end Pulpcore
