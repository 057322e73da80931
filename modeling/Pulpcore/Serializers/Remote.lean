import Pulpcore.Models.Basic
import Pulpcore.Serializers.Text

/-!
# The proxy fields of a Remote

`RemoteSerializer` validates `proxy_url`, `proxy_username` and `proxy_password` field by field
(Django REST framework's `CharField`, then `validate_proxy_url`) and then together in
`validate`: credentials need a proxy URL, and a username goes with a password. On a partial
update `validate` reads a field the request leaves out from the stored Remote; on a full
update it reads it as `None`. Saving sets exactly the fields the request sent.

So a full update that sends some proxy fields and not others is checked against values the
Remote will not have: `{"proxy_url": null}` on a Remote with a proxy and credentials passes,
and leaves the credentials without a proxy (`full_update_keeps_credentials_without_proxy`).
Every history whose full updates send the three fields together, or none of them, keeps the
two conditions (`runWrites_proxy_consistent`).
-/

namespace Pulpcore

/-- The proxy fields of a stored Remote, each `None` or a string. -/
structure Remote where
  proxyUrl : Option String
  proxyUsername : Option String
  proxyPassword : Option String
  deriving DecidableEq, Repr

/-- The proxy fields of a request or of validated data: left out, `null`, or a string. -/
structure ProxyFields where
  proxyUrl : Option (Option String)
  proxyUsername : Option (Option String)
  proxyPassword : Option (Option String)
  deriving DecidableEq, Repr

/-! ### Field validation -/

/-- `CharField.run_validation` with `allow_blank=False` and `allow_null=True`. -/
def charField (trimWhitespace : Bool) : Option String → Except String (Option String)
  | none => .ok none
  | some s =>
    if s = "" ∨ (trimWhitespace ∧ strip s.toList = []) then
      .error "This field may not be blank."
    else
      let value := if trimWhitespace then String.mk (strip s.toList) else s
      if '\x00' ∈ value.toList then .error "Null characters are not allowed."
      else .ok (some value)

/-- `RemoteSerializer.validate_proxy_url`. -/
def validateProxyUrl : Option String → Except String (Option String)
  | none => .ok none
  | some value =>
    if value ≠ "" ∧ '@' ∈ value.toList then .error "proxy_url must not contain credentials"
    else .ok (some value)

/-- One field in `Serializer.to_internal_value`: skipped when left out, else validated. -/
def runField (field validateField : Option String → Except String (Option String)) :
    Option (Option String) → Except String (Option (Option String))
  | none => .ok none
  | some value => (field value >>= validateField).map some

def fieldErrors {α : Type} (name : String) : Except String α → List (String × String)
  | .error e => [(name, e)]
  | .ok _ => []

/-- `Serializer.to_internal_value` on the proxy fields, in the order of `Meta.fields`. -/
def toInternalValue (request : ProxyFields) : Except (List (String × String)) ProxyFields :=
  match runField (charField true) validateProxyUrl request.proxyUrl,
      runField (charField true) .ok request.proxyUsername,
      runField (charField false) .ok request.proxyPassword with
  | .ok proxyUrl, .ok proxyUsername, .ok proxyPassword =>
    .ok ⟨proxyUrl, proxyUsername, proxyPassword⟩
  | proxyUrl, proxyUsername, proxyPassword =>
    .error (fieldErrors "proxy_url" proxyUrl ++ fieldErrors "proxy_username" proxyUsername ++
      fieldErrors "proxy_password" proxyPassword)

/-! ### validate -/

/-- What `validate` reads: the data's value, else the stored one on a partial update. -/
def readProxyFields (stored : Option Remote) (partialUpdate : Bool) (data : ProxyFields) :
    Remote :=
  { proxyUrl := data.proxyUrl.getD (if partialUpdate then stored.bind (·.proxyUrl) else none)
    proxyUsername :=
      data.proxyUsername.getD (if partialUpdate then stored.bind (·.proxyUsername) else none)
    proxyPassword :=
      data.proxyPassword.getD (if partialUpdate then stored.bind (·.proxyPassword) else none) }

/-- `RemoteSerializer.validate`; `super().validate` returns the data unchanged. -/
def validate (stored : Option Remote) (partialUpdate : Bool) (data : ProxyFields) :
    Except String ProxyFields :=
  let values := readProxyFields stored partialUpdate data
  if (truthy values.proxyUsername || truthy values.proxyPassword) && !truthy values.proxyUrl then
    .error "proxy credentials cannot be specified without a proxy"
  else if truthy values.proxyUsername != truthy values.proxyPassword then
    .error "proxy username and password can only be specified together"
  else .ok data

/-- `Serializer.run_validation`: the fields, then `validate`, as `non_field_errors`. -/
def runValidation (stored : Option Remote) (partialUpdate : Bool) (request : ProxyFields) :
    Except (List (String × String)) ProxyFields :=
  match toInternalValue request with
  | .error errors => .error errors
  | .ok data =>
    match validate stored partialUpdate data with
    | .ok data => .ok data
    | .error e => .error [("non_field_errors", e)]

/-! ### Writes -/

/-- `ModelSerializer.update`: every field of the validated data is set on the Remote. -/
def Remote.update (r : Remote) (data : ProxyFields) : Remote :=
  { proxyUrl := data.proxyUrl.getD r.proxyUrl
    proxyUsername := data.proxyUsername.getD r.proxyUsername
    proxyPassword := data.proxyPassword.getD r.proxyPassword }

def Remote.empty : Remote := ⟨none, none, none⟩

/-- `ModelSerializer.create`: the model's defaults for the fields the data leaves out. -/
def Remote.create (data : ProxyFields) : Remote := Remote.empty.update data

/-- A write to a Remote: a create, or an update that is partial or full. -/
inductive RemoteWrite where
  | create (request : ProxyFields)
  | update (partialUpdate : Bool) (request : ProxyFields)
  deriving DecidableEq, Repr

/-- The stored Remote after a write: updated when it is accepted, unchanged otherwise. -/
def RemoteWrite.run : Option Remote → RemoteWrite → Option Remote
  | none, .create request =>
    match runValidation none false request with
    | .ok data => some (Remote.create data)
    | .error _ => none
  | some r, .update partialUpdate request =>
    match runValidation (some r) partialUpdate request with
    | .ok data => some (r.update data)
    | .error _ => some r
  | stored, _ => stored

def runWrites (writes : List RemoteWrite) : Option Remote :=
  writes.foldl RemoteWrite.run none

/-- What `validate` checks, on a stored Remote. -/
def Remote.ProxyConsistent (r : Remote) : Prop :=
  ((r.proxyUsername.isSome || r.proxyPassword.isSome) → r.proxyUrl.isSome) ∧
    r.proxyUsername.isSome = r.proxyPassword.isSome

instance : DecidablePred Remote.ProxyConsistent :=
  fun _ => inferInstanceAs (Decidable (_ ∧ _))

/-- A proxy value that is not the blank string: the only kind a validated request holds. -/
def NotBlank (value : Option String) : Prop := value ≠ some ""

lemma truthy_eq_isSome {value : Option String} (h : NotBlank value) :
    truthy value = value.isSome := by
  cases value with
  | none => rfl
  | some s => simpa [NotBlank] using h

structure Remote.NonBlank (r : Remote) : Prop where
  proxyUrl : NotBlank r.proxyUrl
  proxyUsername : NotBlank r.proxyUsername
  proxyPassword : NotBlank r.proxyPassword

structure ProxyFields.NonBlank (data : ProxyFields) : Prop where
  proxyUrl : ∀ value ∈ data.proxyUrl, NotBlank value
  proxyUsername : ∀ value ∈ data.proxyUsername, NotBlank value
  proxyPassword : ∀ value ∈ data.proxyPassword, NotBlank value

def ProxyFields.sent (request : ProxyFields) : Bool × Bool × Bool :=
  (request.proxyUrl.isSome, request.proxyUsername.isSome, request.proxyPassword.isSome)

/-- A write that does not split the proxy fields: a full update sends all three or none. -/
def RemoteWrite.keepsProxyTogether : RemoteWrite → Bool
  | .update false request =>
    request.sent = (true, true, true) || request.sent = (false, false, false)
  | _ => true

lemma charField_notBlank {trimWhitespace : Bool} {value value' : Option String}
    (h : charField trimWhitespace value = .ok value') : NotBlank value' := by
  cases value with
  | none => cases h; simp [NotBlank]
  | some s =>
    cases trimWhitespace
    · simp only [charField, Bool.false_eq_true, false_and, or_false, ↓reduceIte] at h
      split_ifs at h with hblank
      cases h
      simpa [NotBlank] using hblank
    · simp only [charField, true_and, ↓reduceIte] at h
      split_ifs at h with hblank
      cases h
      intro heq
      exact hblank (Or.inr (by simpa using congrArg String.toList (Option.some.inj heq)))

lemma validateProxyUrl_ok {value value' : Option String} (h : validateProxyUrl value = .ok value') :
    value' = value := by
  cases value with
  | none => cases h; rfl
  | some s =>
    simp only [validateProxyUrl] at h
    split_ifs at h
    cases h; rfl

lemma runField_ok {field validateField : Option String → Except String (Option String)}
    (hfield : ∀ v v', field v = .ok v' → NotBlank v')
    (hvalidate : ∀ v v', validateField v = .ok v' → v' = v)
    {value : Option (Option String)} {value' : Option (Option String)}
    (h : runField field validateField value = .ok value') :
    value'.isSome = value.isSome ∧ ∀ v ∈ value', NotBlank v := by
  cases value with
  | none => cases h; simp
  | some v =>
    obtain ⟨w', hw', rfl⟩ := except_map_eq_ok.mp h
    obtain ⟨w, hf, hg⟩ := except_bind_eq_ok.mp hw'
    refine ⟨rfl, fun u hu => ?_⟩
    cases Option.some.inj hu
    rw [hvalidate w _ hg]
    exact hfield v w hf

lemma toInternalValue_ok {request data : ProxyFields} (h : toInternalValue request = .ok data) :
    data.sent = request.sent ∧ data.NonBlank := by
  unfold toInternalValue at h
  split at h
  · next hu hn hp =>
    cases h
    have hu := runField_ok (fun _ _ => charField_notBlank) (fun _ _ => validateProxyUrl_ok) hu
    have hn := runField_ok (fun _ _ => charField_notBlank) (fun _ _ h => (Except.ok.inj h).symm) hn
    have hp := runField_ok (fun _ _ => charField_notBlank) (fun _ _ h => (Except.ok.inj h).symm) hp
    exact ⟨by simp [ProxyFields.sent, hu.1, hn.1, hp.1], ⟨hu.2, hn.2, hp.2⟩⟩
  · cases h

lemma validate_ok {stored : Option Remote} {partialUpdate : Bool} {data data' : ProxyFields}
    (h : validate stored partialUpdate data = .ok data') :
    data' = data ∧
      let values := readProxyFields stored partialUpdate data
      ((truthy values.proxyUsername || truthy values.proxyPassword) → truthy values.proxyUrl) ∧
        truthy values.proxyUsername = truthy values.proxyPassword := by
  simp only [validate] at h ⊢
  split_ifs at h with h₁ h₂
  cases h
  exact ⟨rfl, fun hc => by simpa [hc] using h₁, by simpa using h₂⟩

/-- An accepted write: what `to_internal_value` made of the request, passed by `validate`. -/
lemma runValidation_ok {stored : Option Remote} {partialUpdate : Bool}
    {request data : ProxyFields} (h : runValidation stored partialUpdate request = .ok data) :
    toInternalValue request = .ok data ∧ validate stored partialUpdate data = .ok data := by
  unfold runValidation at h
  split at h
  · cases h
  · next data' hdata =>
    split at h
    · next hv =>
      cases h
      obtain ⟨rfl, -⟩ := validate_ok hv
      exact ⟨hdata, hv⟩
    · cases h

/-- What every stored Remote of a history that keeps the proxy fields together satisfies. -/
structure Remote.ProxyInv (r : Remote) : Prop where
  nonBlank : r.NonBlank
  consistent : r.ProxyConsistent

lemma notBlank_read {stored : Option Remote} {partialUpdate : Bool} {f : Remote → Option String}
    (hstored : ∀ r ∈ stored, NotBlank (f r)) {value : Option (Option String)}
    (hvalue : ∀ v ∈ value, NotBlank v) :
    NotBlank (value.getD (if partialUpdate then stored.bind f else none)) := by
  cases value with
  | some v => exact hvalue v rfl
  | none =>
    cases partialUpdate
    · simp [NotBlank]
    · cases stored with
      | none => simp [NotBlank]
      | some r => exact hstored r rfl

lemma readProxyFields_proxyInv {stored : Option Remote} {partialUpdate : Bool}
    {request data : ProxyFields} (hstored : ∀ r ∈ stored, r.NonBlank)
    (h : runValidation stored partialUpdate request = .ok data) :
    (readProxyFields stored partialUpdate data).ProxyInv := by
  obtain ⟨hdata, hv⟩ := runValidation_ok h
  obtain ⟨-, hblank⟩ := toInternalValue_ok hdata
  obtain ⟨-, hc⟩ := validate_ok hv
  have hnb : (readProxyFields stored partialUpdate data).NonBlank :=
    ⟨notBlank_read (fun r hr => (hstored r hr).proxyUrl) hblank.proxyUrl,
      notBlank_read (fun r hr => (hstored r hr).proxyUsername) hblank.proxyUsername,
      notBlank_read (fun r hr => (hstored r hr).proxyPassword) hblank.proxyPassword⟩
  simp only [truthy_eq_isSome hnb.proxyUrl, truthy_eq_isSome hnb.proxyUsername,
    truthy_eq_isSome hnb.proxyPassword] at hc
  exact ⟨hnb, hc⟩

lemma Remote.update_of_sent_all {data : ProxyFields} (hs : data.sent = (true, true, true))
    (r r' : Remote) : r.update data = r'.update data := by
  obtain ⟨u, n, p⟩ := data
  simp only [ProxyFields.sent, Prod.mk.injEq, Option.isSome_iff_exists] at hs
  obtain ⟨⟨_, rfl⟩, ⟨_, rfl⟩, ⟨_, rfl⟩⟩ := hs
  rfl

lemma Remote.update_of_sent_none {data : ProxyFields} (hs : data.sent = (false, false, false))
    (r : Remote) : r.update data = r := by
  obtain ⟨u, n, p⟩ := data
  simp only [ProxyFields.sent, Prod.mk.injEq, ← Bool.not_eq_true,
    Option.not_isSome_iff_eq_none] at hs
  obtain ⟨rfl, rfl, rfl⟩ := hs
  rfl

/-- A write that keeps the proxy fields together keeps the stored Remote valid. -/
lemma RemoteWrite.run_proxyInv {stored : Option Remote} {w : RemoteWrite}
    (hstored : ∀ r ∈ stored, r.ProxyInv) (hw : w.keepsProxyTogether) :
    ∀ r ∈ w.run stored, r.ProxyInv := by
  match stored, w with
  | none, .create request =>
    simp only [RemoteWrite.run]
    split
    · next data h => simpa using readProxyFields_proxyInv (by simp) h
    · simp
  | some r, .update partialUpdate request =>
    simp only [RemoteWrite.run]
    split
    · next data h =>
      have hr : ∀ r' ∈ some r, r'.NonBlank := fun _ hr' => (hstored _ hr').nonBlank
      have hread := readProxyFields_proxyInv hr h
      cases partialUpdate
      · have hsent := (toInternalValue_ok (runValidation_ok h).1).1
        simp only [RemoteWrite.keepsProxyTogether, Bool.or_eq_true, decide_eq_true_eq] at hw
        rcases hw with hall | hnone
        · rw [← hsent] at hall
          simpa [Remote.update_of_sent_all hall r Remote.empty] using hread
        · rw [← hsent] at hnone
          simpa [Remote.update_of_sent_none hnone r] using hstored r rfl
      · simpa using hread
    · simpa using hstored r rfl
  | none, .update _ _ => simp [RemoteWrite.run]
  | some _, .create _ => simpa [RemoteWrite.run] using hstored

/-- Every history whose full updates send the three proxy fields together, or none of them,
leaves a Remote whose credentials come with a proxy URL and with each other. -/
theorem runWrites_proxy_consistent (writes : List RemoteWrite)
    (h : ∀ w ∈ writes, w.keepsProxyTogether) :
    ∀ r, runWrites writes = some r → r.ProxyConsistent := by
  suffices ∀ (ws : List RemoteWrite) (stored : Option Remote),
      (∀ w ∈ ws, w.keepsProxyTogether) →
      (∀ r ∈ stored, r.ProxyInv) → ∀ r ∈ ws.foldl RemoteWrite.run stored, r.ProxyInv from
    fun r hr => (this writes none h (by simp) r hr).consistent
  intro ws
  induction ws with
  | nil => exact fun _ _ hs => hs
  | cons w ws ih =>
    intro stored hws hs
    exact ih _ (fun w' hw' => hws w' (List.mem_cons_of_mem w hw'))
      (RemoteWrite.run_proxyInv hs (hws w (List.mem_cons_self w ws)))

/-- Create with a proxy, change the password, then clear all three fields. -/
def rotateThenClear : List RemoteWrite :=
  [.create ⟨some (some "http://proxy"), some (some "u"), some (some "p")⟩,
    .update true ⟨none, none, some (some "q")⟩,
    .update false ⟨some none, some none, some none⟩]

theorem runWrites_proxy_consistent_on_rotateThenClear :
    (∀ w ∈ rotateThenClear, w.keepsProxyTogether) ∧
      runWrites rotateThenClear = some Remote.empty ∧
      Remote.empty.ProxyConsistent :=
  have h : ∀ w ∈ rotateThenClear, w.keepsProxyTogether := by decide
  have hrun : runWrites rotateThenClear = some Remote.empty := by decide
  ⟨h, hrun, runWrites_proxy_consistent rotateThenClear h _ hrun⟩

/-- A Remote created with a proxy and its credentials. -/
def proxiedRemote : ProxyFields :=
  ⟨some (some "http://proxy"), some (some "u"), some (some "p")⟩

/-- A full update that clears the proxy URL and leaves the credentials out. -/
def clearProxyUrl : ProxyFields := ⟨some none, none, none⟩

/-- Both writes are accepted, and the Remote keeps credentials without a proxy. -/
theorem full_update_keeps_credentials_without_proxy :
    runValidation none false proxiedRemote = .ok proxiedRemote ∧
      runValidation (some (Remote.create proxiedRemote)) false clearProxyUrl = .ok clearProxyUrl ∧
      runWrites [.create proxiedRemote, .update false clearProxyUrl] =
        some ⟨none, some "u", some "p"⟩ ∧
      ¬ Remote.ProxyConsistent ⟨none, some "u", some "p"⟩ := by
  decide

end Pulpcore
