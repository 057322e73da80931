import Pulpcore.Serializers.Domain

/-!
# The store of domains

Requests to the domain endpoints are served one after another (`runRequests`): a create
appends the saved row, an update replaces the row of the name it gives, and a failed request
leaves the store as it was. The viewset answers an update of the domain named `default`
itself, so the serializer never sees one.

Over every such run, from a store whose names are distinct and whose domains other than the
default one are valid, the store keeps both (`runRequests_valid`): each domain's name is a
slug of at most 50 characters other than `api` and `content` that no other domain has, its
storage class is one of `BACKEND_CHOICES`, and its settings are validated settings of that
class, which its settings serializer takes back unchanged. This needs backends that refuse the
validated settings of another class (`DomainEnv.RefusesForeignSettings`): a partial update that
changes the class and sends no settings keeps the old class's settings, and only the backend's
constructor turns them away.
-/

namespace Pulpcore

/-- A domain as every domain but the default one is kept: a valid name, and a storage class
of `BACKEND_CHOICES` with settings that its settings serializer takes back unchanged. -/
structure RowValid (row : Row) : Prop where
  name : ∃ n, column row "name" = .str n ∧ NameValid n
  settings : SettingsValid (column row "storage_class") (column row "storage_settings")

/-- The store of domains: distinct names, and every domain but the default one valid. -/
structure DomainsValid (store : List Row) : Prop where
  nodup : (store.map (column · "name")).Nodup
  rows : ∀ row ∈ store, column row "name" ≠ .str "default" → RowValid row

/-- The request updates the domain named `default`, which the viewset answers itself. -/
def DomainRequest.updatesDefault : DomainRequest → Bool
  | .update name _ _ => name = "default"
  | .create _ => false

lemma splitAtName_eq_some {name : String} :
    ∀ {store pre : List Row} {row : Row} {post : List Row},
      splitAtName name store = some (pre, row, post) →
        store = pre ++ row :: post ∧ column row "name" = .str name
  | [], _, _, _, h => by cases h
  | r :: rest, pre, row, post, h => by
    unfold splitAtName at h
    split at h
    · next hr => cases h; exact ⟨rfl, hr⟩
    · cases hrest : splitAtName name rest with
      | none => rw [hrest] at h; cases h
      | some found =>
        rw [hrest] at h
        cases h
        obtain ⟨rfl, hname⟩ := splitAtName_eq_some hrest
        exact ⟨rfl, hname⟩

variable {env : DomainEnv}

/-- One request keeps the store valid. -/
theorem handleRequest_valid (hstrict : env.RefusesForeignSettings) {store store' : List Row}
    (hvalid : DomainsValid store) {request : DomainRequest}
    (hguard : request.updatesDefault = false) (h : handleRequest env store request = .ok store') :
    DomainsValid store' := by
  cases request with
  | create data =>
    simp only [handleRequest, except_map_eq_ok] at h
    obtain ⟨row', hsave, rfl⟩ := h
    have hsettings := saveDomain_settingsValid hstrict (by simp) (fun _ => rfl) hsave
    rcases saveDomain_name (fun _ => rfl) hsave with ⟨n, hn, hfresh, hname⟩ | ⟨_, hnone, -⟩
    · refine ⟨?_, fun r hr hne => ?_⟩
      · rw [List.map_append, List.nodup_append]
        exact ⟨hvalid.nodup, List.nodup_singleton _, by simpa [hn] using hfresh⟩
      · rcases List.mem_append.mp hr with hr | hr
        · exact hvalid.rows r hr hne
        · rw [List.mem_singleton.mp hr]
          exact ⟨⟨n, hn, hname⟩, hsettings⟩
    · cases hnone
  | update name partialUpdate data =>
    simp only [handleRequest] at h
    split at h
    · cases h
    · next pre row post hsplit =>
      obtain ⟨rfl, hrowname⟩ := splitAtName_eq_some hsplit
      rw [except_map_eq_ok] at h
      obtain ⟨row', hsave, rfl⟩ := h
      have hdefault : column row "name" ≠ .str "default" := by
        rw [hrowname]; simpa [DomainRequest.updatesDefault] using hguard
      have hrow := hvalid.rows row (by simp) hdefault
      have hsettings := saveDomain_settingsValid hstrict (by simpa using ⟨hdefault, hrow.settings⟩)
        (by simp) hsave
      have hnd := hvalid.nodup
      rw [List.map_append, List.map_cons, List.nodup_middle, List.nodup_cons, ← List.map_append]
        at hnd
      have hname : (∃ n, column row' "name" = .str n ∧ NameValid n) ∧
          column row' "name" ∉ (pre ++ post).map (column · "name") := by
        rcases saveDomain_name (by simp) hsave with ⟨n, hn, hfresh, hv⟩ | ⟨r, hr, heq⟩
        · exact ⟨⟨n, hn, hv⟩, hn ▸ hfresh⟩
        · cases hr
          rw [heq]
          exact ⟨hrow.name, hnd.1⟩
      refine ⟨?_, fun r hr hne => ?_⟩
      · rw [List.map_append, List.map_cons, List.nodup_middle, List.nodup_cons, ← List.map_append]
        exact ⟨hname.2, hnd.2⟩
      · simp only [List.mem_append, List.mem_cons] at hr
        rcases hr with hr | rfl | hr
        · exact hvalid.rows r (by simp [hr]) hne
        · exact ⟨hname.1, hsettings⟩
        · exact hvalid.rows r (by simp [hr]) hne

/-- Every run of requests that leaves the default domain to the viewset keeps the store of
domains valid. -/
theorem runRequests_valid (hstrict : env.RefusesForeignSettings) {store : List Row}
    (hvalid : DomainsValid store) {requests : List DomainRequest}
    (hguard : ∀ request ∈ requests, request.updatesDefault = false) :
    DomainsValid (runRequests env store requests) := by
  induction requests generalizing store with
  | nil => exact hvalid
  | cons request rest ih =>
    refine ih ?_ fun r hr => hguard r (List.mem_cons_of_mem _ hr)
    dsimp only
    split
    · next store' h => exact handleRequest_valid hstrict hvalid (hguard _ (List.mem_cons_self _ _)) h
    · exact hvalid

/-- Create the file system domain `media`, then move it to S3 without settings. -/
def createThenMove : List DomainRequest :=
  [.create createMedia,
    .update "media" true (PyDict.ofList [("storage_class", .str "storages.backends.s3boto3.S3Boto3Storage")])]

/-- From the empty store: the move is refused, and the store holds the created domain. -/
theorem runRequests_valid_create_then_move :
    sampleEnv.RefusesForeignSettings ∧ DomainsValid [] ∧
      (∀ request ∈ createThenMove, request.updatesDefault = false) ∧
      runRequests sampleEnv [] createThenMove = [mediaRow ""] ∧
      DomainsValid (runRequests sampleEnv [] createThenMove) :=
  have hstrict := (declaredSettingsEnv_refusesUndeclared fun _ => none).refusesForeignSettings
  have hvalid : DomainsValid [] := ⟨List.nodup_nil, nofun⟩
  have hguard : ∀ request ∈ createThenMove, request.updatesDefault = false := by decide
  ⟨hstrict, hvalid, hguard, by decide, runRequests_valid hstrict hvalid hguard⟩

end Pulpcore
