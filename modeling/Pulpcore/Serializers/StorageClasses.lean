import Pulpcore.Serializers.StorageSettings

/-!
# The storage backends' settings serializers

The subclasses of `BaseSettingsClass` in `domain.py`, as tables: each backend's
`STORAGE_CLASS`, its `SETTING_MAPPING` from Django setting names to init arguments, and its
fields with their kinds, `required`, `allow_null` and defaults. `StorageSettingsSerializer`
picks one of them by the domain's storage class (`storageMapping`).

Every serializer of the mapping is coherent: its tables decide the part of `Coherent` they
carry (`SettingsSerializer.TablesCoherent`), and the methods it declares besides its fields,
`AmazonS3SettingsSerializer.validate_verify` and `validate`, keep or null a value and return
their data. So the settings each of them returns validate again to themselves
(`storageMapping_runValidation_stable`).
-/

namespace Pulpcore

/-- A field declared `required=True`, or with neither a default nor `required`. -/
def requiredField {κ : Type} (name : String) (kind : κ) : SerializerField κ :=
  ⟨name, kind, true, false, none⟩

/-- A field declared with a default, which makes it optional. -/
def defaultField {κ : Type} (name : String) (kind : κ) (allowNull : Bool) (default : JsonValue) :
    SerializerField κ :=
  ⟨name, kind, false, allowNull, some default⟩

/-- `BACKEND_CHOICES`, the choices of a domain's `storage_class`. -/
def backendChoices : List (String × String) :=
  [("pulpcore.app.models.storage.FileSystem", "Use local filesystem as storage"),
   ("storages.backends.s3boto3.S3Boto3Storage", "Use Amazon S3 as storage"),
   ("storages.backends.azure_storage.AzureStorage", "Use Azure Blob as storage")]

/-- `DEFAULT_CONTENT_TYPES`. -/
def defaultContentTypes : List String :=
  ["text/css", "text/javascript", "application/javascript", "application/x-javascript",
   "image/svg+xml"]

/-- `FileSystemSettingsSerializer`. -/
def fileSystemSettingsSerializer : SettingsSerializer where
  storageClass := "pulpcore.app.models.storage.FileSystem"
  settingMapping := PyDict.ofList
    [("media_root", "location"),
     ("media_url", "base_url"),
     ("file_upload_permissions", "file_permissions_mode"),
     ("file_upload_directory_permissions", "directory_permissions_mode")]
  fields :=
    [requiredField "location" (.plain (.char true)),
     defaultField "base_url" (.plain (.char true)) false (.str ""),
     defaultField "file_permissions_mode" (.plain (.integer none)) false (.int 0o644),
     defaultField "directory_permissions_mode" (.plain (.integer none)) true .none]
  validateField _ v := v
  validate := .ok

/-- `SFTPSettingsSerializer`. -/
def sftpSettingsSerializer : SettingsSerializer where
  storageClass := "pulpcore.app.models.storage.PulpSFTPStorage"
  settingMapping := PyDict.ofList
    [("sftp_storage_host", "host"),
     ("sftp_storage_params", "params"),
     ("sftp_storage_interactive", "interactive"),
     ("sftp_storage_file_mode", "file_mode"),
     ("sftp_storage_dir_mode", "dir_mode"),
     ("sftp_storage_uid", "uid"),
     ("sftp_storage_gid", "gid"),
     ("sftp_known_host_file", "known_host_file"),
     ("sftp_storage_root", "root_path"),
     ("media_url", "base_url"),
     ("sftp_base_url", "base_url")]
  fields :=
    [requiredField "host" (.plain (.char false)),
     requiredField "root_path" (.plain (.char false)),
     defaultField "params" (.plain .dict) false (.dict []),
     defaultField "file_mode" (.plain (.integer none)) true .none,
     defaultField "dir_mode" (.plain (.integer none)) true .none,
     defaultField "uid" (.plain (.char false)) true .none,
     defaultField "gid" (.plain (.char false)) true .none,
     defaultField "base_url" (.plain (.char false)) true .none,
     defaultField "interactive" (.plain .hidden) false (.bool false),
     defaultField "known_host_file" (.plain .hidden) false .none]
  validateField _ v := v
  validate := .ok

/-- The fields of `TransferConfigSerializer`, the nested serializer of S3's
`transfer_config`. -/
def transferConfigFields : List (SerializerField FieldKind) :=
  [defaultField "multipart_threshold" (.integer none) false (.int 8388608),
   defaultField "max_concurrency" (.integer none) false (.int 10),
   defaultField "multipart_chunksize" (.integer none) false (.int 8388608),
   defaultField "num_download_attempts" (.integer none) false (.int 5),
   defaultField "max_io_queue" (.integer none) false (.int 100),
   defaultField "io_chunksize" (.integer none) false (.int 262144),
   defaultField "use_threads" .boolean false (.bool true),
   defaultField "max_bandwidth" (.integer none) true .none,
   defaultField "preferred_transfer_client" (.choice ["auto", "classic"]) false (.str "auto")]

/-- `AmazonS3SettingsSerializer.validate_verify`: a truthy value becomes `None`. -/
def validateVerify (value : JsonValue) : JsonValue :=
  if value.truthy then .none else value

/-- The `validate_<field>` methods of `AmazonS3SettingsSerializer`: only `verify` has one. -/
def amazonS3ValidateField (name : String) (value : JsonValue) : JsonValue :=
  if name = "verify" then validateVerify value else value

/-- `AmazonS3SettingsSerializer.validate`: one of `secret_key` and `security_token` must be
truthy. -/
def amazonS3Validate (data : PyDict JsonValue) : Except String (PyDict JsonValue) :=
  if !((data.get? "secret_key").any JsonValue.truthy ||
      (data.get? "security_token").any JsonValue.truthy) then
    .error "One of 'secret_key' or 'security_token' must be set."
  else .ok data

/-- `AmazonS3SettingsSerializer`. -/
def amazonS3SettingsSerializer : SettingsSerializer where
  storageClass := "storages.backends.s3boto3.S3Boto3Storage"
  settingMapping := PyDict.ofList
    [("aws_s3_access_key_id", "access_key"),
     ("aws_access_key_id", "access_key"),
     ("aws_s3_secret_access_key", "secret_key"),
     ("aws_secret_access_key", "secret_key"),
     ("aws_session_token", "security_token"),
     ("aws_security_token", "security_token"),
     ("aws_s3_session_profile", "session_profile"),
     ("aws_s3_file_overwrite", "file_overwrite"),
     ("aws_s3_object_parameters", "object_parameters"),
     ("aws_storage_bucket_name", "bucket_name"),
     ("aws_querystring_auth", "querystring_auth"),
     ("aws_querystring_expire", "querystring_expire"),
     ("aws_s3_signature_version", "signature_version"),
     ("aws_location", "location"),
     ("aws_s3_custom_domain", "custom_domain"),
     ("aws_cloudfront_key_id", "cloudfront_key_id"),
     ("aws_cloudfront_key", "cloudfront_key"),
     ("aws_s3_addressing_style", "addressing_style"),
     ("aws_s3_file_name_charset", "file_name_charset"),
     ("aws_is_gzipped", "gzip"),
     ("gzip_content_types", "gzip_content_types"),
     ("aws_s3_url_protocol", "url_protocol"),
     ("aws_s3_endpoint_url", "endpoint_url"),
     ("aws_s3_proxies", "proxies"),
     ("aws_s3_region_name", "region_name"),
     ("aws_s3_use_ssl", "use_ssl"),
     ("aws_s3_verify", "verify"),
     ("aws_s3_max_memory_size", "max_memory_size"),
     ("aws_default_acl", "default_acl"),
     ("aws_s3_use_threads", "use_threads"),
     ("aws_s3_transfer_config", "transfer_config"),
     ("aws_s3_client_config", "client_config")]
  fields :=
    [requiredField "access_key" (.plain (.char false)),
     defaultField "secret_key" (.plain (.char false)) true .none,
     defaultField "security_token" (.plain (.char false)) true .none,
     defaultField "session_profile" (.plain .hidden) false (.bool false),
     defaultField "file_overwrite" (.plain .boolean) false (.bool true),
     defaultField "object_parameters" (.plain .dict) false (.dict []),
     requiredField "bucket_name" (.plain (.char false)),
     defaultField "querystring_auth" (.plain .boolean) false (.bool true),
     defaultField "querystring_expire" (.plain (.integer none)) false (.int 3600),
     defaultField "signature_version" (.plain (.char false)) true .none,
     defaultField "location" (.plain (.char true)) false (.str ""),
     defaultField "custom_domain" (.plain (.char false)) true .none,
     defaultField "cloudfront_key_id" (.plain (.char false)) true .none,
     defaultField "cloudfront_key" (.plain (.char false)) true .none,
     defaultField "addressing_style" (.plain (.char false)) true .none,
     defaultField "file_name_charset" (.plain (.char false)) false (.str "utf-8"),
     defaultField "gzip" (.plain .boolean) false (.bool false),
     defaultField "gzip_content_types" (.plain .charList) false
       (.list (defaultContentTypes.map .str)),
     defaultField "url_protocol" (.plain (.char false)) false (.str "https:"),
     defaultField "endpoint_url" (.plain (.char false)) true .none,
     defaultField "proxies" (.plain .dict) true .none,
     defaultField "region_name" (.plain (.char false)) true .none,
     defaultField "use_ssl" (.plain .boolean) false (.bool true),
     defaultField "verify" (.plain .boolean) true .none,
     defaultField "max_memory_size" (.plain (.integer none)) false (.int 0),
     defaultField "default_acl" (.plain (.char false)) true .none,
     defaultField "use_threads" (.plain .boolean) false (.bool true),
     defaultField "transfer_config" (.serializer transferConfigFields) true .none,
     defaultField "client_config" (.plain .hidden) false .none]
  validateField := amazonS3ValidateField
  validate := amazonS3Validate

/-- `AzureSettingsSerializer`. -/
def azureSettingsSerializer : SettingsSerializer where
  storageClass := "storages.backends.azure_storage.AzureStorage"
  settingMapping := PyDict.ofList
    [("azure_account_name", "account_name"),
     ("azure_account_key", "account_key"),
     ("azure_object_parameters", "object_parameters"),
     ("azure_container", "azure_container"),
     ("azure_ssl", "azure_ssl"),
     ("azure_upload_max_conn", "upload_max_conn"),
     ("azure_connection_timeout_secs", "timeout"),
     ("azure_blob_max_memory_size", "max_memory_size"),
     ("azure_url_expiration_secs", "expiration_secs"),
     ("azure_overwrite_files", "overwrite_files"),
     ("azure_location", "location"),
     ("azure_cache_control", "cache_control"),
     ("azure_sas_token", "sas_token"),
     ("azure_endpoint_suffix", "endpoint_suffix"),
     ("azure_custom_domain", "custom_domain"),
     ("azure_connection_string", "connection_string"),
     ("azure_token_credential", "token_credential"),
     ("azure_api_version", "api_version")]
  fields :=
    [requiredField "account_name" (.plain (.char false)),
     requiredField "account_key" (.plain (.char false)),
     defaultField "object_parameters" (.plain .dict) false (.dict []),
     requiredField "azure_container" (.plain (.char false)),
     defaultField "azure_ssl" (.plain .boolean) false (.bool true),
     defaultField "upload_max_conn" (.plain (.integer none)) false (.int 2),
     defaultField "timeout" (.plain (.integer none)) false (.int 20),
     defaultField "max_memory_size" (.plain (.integer none)) false (.int (2 * 1024 * 1024)),
     defaultField "expiration_secs" (.plain (.integer none)) true .none,
     defaultField "overwrite_files" (.plain .boolean) false (.bool true),
     defaultField "location" (.plain (.char true)) false (.str ""),
     defaultField "cache_control" (.plain (.char false)) true .none,
     defaultField "sas_token" (.plain (.char false)) true .none,
     defaultField "endpoint_suffix" (.plain (.char false)) false (.str "core.windows.net"),
     defaultField "custom_domain" (.plain (.char false)) true .none,
     defaultField "connection_string" (.plain (.char false)) true .none,
     defaultField "token_credential" (.plain (.char false)) true .none,
     defaultField "api_version" (.plain (.char false)) true .none]
  validateField _ v := v
  validate := .ok

/-- `GoogleSettingsSerializer`. -/
def googleSettingsSerializer : SettingsSerializer where
  storageClass := "storages.backends.gcloud.GoogleCloudStorage"
  settingMapping := PyDict.ofList
    [("gs_project_id", "project_id"),
     ("gs_bucket_name", "bucket_name"),
     ("gs_custom_endpoint", "custom_endpoint"),
     ("gs_location", "location"),
     ("gs_default_acl", "default_acl"),
     ("gs_querystring_auth", "querystring_auth"),
     ("gs_expiration", "expiration"),
     ("gs_is_gzipped", "gzip"),
     ("gzip_content_types", "gzip_content_types"),
     ("gs_file_overwrite", "file_overwrite"),
     ("gs_object_parameters", "object_parameters"),
     ("gs_max_memory_size", "max_memory_size"),
     ("gs_blob_chunk_size", "blob_chunk_size")]
  fields :=
    [requiredField "bucket_name" (.plain (.char false)),
     requiredField "project_id" (.plain (.char false)),
     defaultField "custom_endpoint" (.plain (.char false)) true .none,
     defaultField "location" (.plain (.char true)) false (.str ""),
     defaultField "default_acl" (.plain (.char false)) true .none,
     defaultField "querystring_auth" (.plain .boolean) false (.bool true),
     defaultField "expiration" (.plain (.integer (some 604800))) false (.int 86400),
     defaultField "gzip" (.plain .boolean) false (.bool false),
     defaultField "gzip_content_types" (.plain .charList) false
       (.list (defaultContentTypes.map .str)),
     defaultField "file_overwrite" (.plain .boolean) false (.bool true),
     defaultField "object_parameters" (.plain .dict) false (.dict []),
     defaultField "max_memory_size" (.plain (.integer none)) false (.int 0),
     defaultField "blob_chunk_size" (.plain (.integer none)) true .none]
  validateField _ v := v
  validate := .ok

/-- `StorageSettingsSerializer.STORAGE_MAPPING`: both S3 storage classes take the S3
settings. -/
def storageMapping : PyDict SettingsSerializer :=
  PyDict.ofList
    [("pulpcore.app.models.storage.FileSystem", fileSystemSettingsSerializer),
     ("pulpcore.app.models.storage.PulpSFTPStorage", sftpSettingsSerializer),
     ("storages.backends.s3.S3Storage", amazonS3SettingsSerializer),
     ("storages.backends.s3boto3.S3Boto3Storage", amazonS3SettingsSerializer),
     ("storages.backends.azure_storage.AzureStorage", azureSettingsSerializer),
     ("storages.backends.gcloud.GoogleCloudStorage", googleSettingsSerializer)]

/-! ### Coherence -/

namespace SettingsSerializer

/-- A serializer without `validate_<field>` methods or `validate` is coherent when its tables
are. -/
lemma coherent_of_plain {c : SettingsSerializer} (ht : c.TablesCoherent)
    (hg : ∀ name v, c.validateField name v = v) (hv : c.validate = .ok) : c.Coherent :=
  coherent_of_tables ht (fun f _ v => .inl (hg f.name v)) (fun v w h => by
    rw [hv] at h; exact (Except.ok.inj h).symm)

end SettingsSerializer

/-- `validate_verify` keeps a value or turns it into `None`. -/
lemma validateVerify_eq (v : JsonValue) : validateVerify v = v ∨ validateVerify v = .none := by
  unfold validateVerify
  split <;> simp

lemma amazonS3Validate_eq_ok {v w : PyDict JsonValue} (h : amazonS3Validate v = .ok w) : w = v := by
  unfold amazonS3Validate at h
  split at h
  · cases h
  · exact (Except.ok.inj h).symm

lemma fileSystemSettingsSerializer_coherent : fileSystemSettingsSerializer.Coherent :=
  SettingsSerializer.coherent_of_plain (by decide) (fun _ _ => rfl) rfl

lemma sftpSettingsSerializer_coherent : sftpSettingsSerializer.Coherent :=
  SettingsSerializer.coherent_of_plain (by decide) (fun _ _ => rfl) rfl

lemma azureSettingsSerializer_coherent : azureSettingsSerializer.Coherent :=
  SettingsSerializer.coherent_of_plain (by decide) (fun _ _ => rfl) rfl

lemma googleSettingsSerializer_coherent : googleSettingsSerializer.Coherent :=
  SettingsSerializer.coherent_of_plain (by decide) (fun _ _ => rfl) rfl

/-- S3's `verify`, the one field with a `validate_<field>` method, allows null. -/
lemma amazonS3SettingsSerializer_coherent : amazonS3SettingsSerializer.Coherent := by
  have hverify : ∀ f ∈ amazonS3SettingsSerializer.fields, f.name = "verify" → f.allowNull = true := by
    decide
  refine SettingsSerializer.coherent_of_tables (by decide) (fun f hf v => ?_)
    fun _ _ => amazonS3Validate_eq_ok
  show amazonS3ValidateField f.name v = v ∨ amazonS3ValidateField f.name v = .none ∧ _
  unfold amazonS3ValidateField
  split
  · next hname => exact (validateVerify_eq v).imp_right fun h => ⟨h, hverify f hf hname⟩
  · exact .inl rfl

/-- The settings serializers `STORAGE_MAPPING` maps to. -/
lemma mem_storageMapping {storageClass : String} {c : SettingsSerializer}
    (h : storageMapping.get? storageClass = some c) :
    c ∈ [fileSystemSettingsSerializer, sftpSettingsSerializer, amazonS3SettingsSerializer,
      azureSettingsSerializer, googleSettingsSerializer] := by
  rw [storageMapping, PyDict.ofList, PyDict.get?_setAll, PyDict.get?_empty, Option.or_none] at h
  have hmem := List.mem_reverse.mp (PyDict.lookup_mem h)
  simp only [List.mem_cons, Prod.mk.injEq, List.mem_nil_iff, or_false] at hmem ⊢
  rcases hmem with ⟨-, rfl⟩ | ⟨-, rfl⟩ | ⟨-, rfl⟩ | ⟨-, rfl⟩ | ⟨-, rfl⟩ | ⟨-, rfl⟩ <;> simp

/-- Every serializer of `STORAGE_MAPPING` is coherent. -/
lemma coherent_of_storageMapping {storageClass : String} {c : SettingsSerializer}
    (h : storageMapping.get? storageClass = some c) : c.Coherent := by
  have hmem := mem_storageMapping h
  simp only [List.mem_cons, List.mem_nil_iff, or_false] at hmem
  rcases hmem with rfl | rfl | rfl | rfl | rfl
  exacts [fileSystemSettingsSerializer_coherent, sftpSettingsSerializer_coherent,
    amazonS3SettingsSerializer_coherent, azureSettingsSerializer_coherent,
    googleSettingsSerializer_coherent]

/-- Every field of a settings serializer is required or has a default, so validated settings
hold all of them. -/
lemma storageMapping_field_present {storageClass : String} {c : SettingsSerializer}
    (h : storageMapping.get? storageClass = some c) :
    ∀ f ∈ c.fields, f.required = true ∨ f.default.isSome = true := by
  have hall : ∀ c ∈ [fileSystemSettingsSerializer, sftpSettingsSerializer,
      amazonS3SettingsSerializer, azureSettingsSerializer, googleSettingsSerializer],
      ∀ f ∈ c.fields, f.required = true ∨ f.default.isSome = true := by decide
  exact hall c (mem_storageMapping h)

/-- Each storage class of `BACKEND_CHOICES` has a settings serializer. -/
lemma storageMapping_of_backendChoice :
    ∀ storageClass ∈ backendChoices.map Prod.fst, (storageMapping.get? storageClass).isSome := by
  decide

/-- Each backend of `BACKEND_CHOICES` declares a setting that no other one declares. -/
lemma backendChoices_foreign_field :
    ∀ a ∈ backendChoices.map Prod.fst, ∀ b ∈ backendChoices.map Prod.fst, a ≠ b →
      ∀ ca ∈ storageMapping.get? a, ∀ cb ∈ storageMapping.get? b,
        ∃ f ∈ ca.fields, f.name ∉ cb.fields.map (·.name) := by
  decide

/-- The settings that the serializer `STORAGE_MAPPING` picks for a storage class returns
validate again to themselves. -/
theorem storageMapping_runValidation_stable {storageClass : String} {c : SettingsSerializer}
    (hc : storageMapping.get? storageClass = some c) {data v : PyDict JsonValue}
    (h : c.runValidation data = .ok v) : c.runValidation v = .ok v :=
  SettingsSerializer.runValidation_stable (coherent_of_storageMapping hc) h

/-- `MEDIA_ROOT` names the file system's `location`, whose value is stripped, and the other
fields take their defaults; the result validates to itself. -/
theorem storageMapping_runValidation_stable_media_root :
    storageMapping.get? "pulpcore.app.models.storage.FileSystem" =
        some fileSystemSettingsSerializer ∧
      fileSystemSettingsSerializer.runValidation (PyDict.ofList [("MEDIA_ROOT", .str " /srv ")]) =
        .ok (PyDict.ofList [("location", .str "/srv"), ("base_url", .str ""),
          ("file_permissions_mode", .int 420), ("directory_permissions_mode", .none)]) ∧
      fileSystemSettingsSerializer.runValidation (PyDict.ofList [("location", .str "/srv"),
          ("base_url", .str ""), ("file_permissions_mode", .int 420),
          ("directory_permissions_mode", .none)]) =
        .ok (PyDict.ofList [("location", .str "/srv"), ("base_url", .str ""),
          ("file_permissions_mode", .int 420), ("directory_permissions_mode", .none)]) :=
  have hc : storageMapping.get? "pulpcore.app.models.storage.FileSystem" =
      some fileSystemSettingsSerializer := rfl
  have h : fileSystemSettingsSerializer.runValidation
      (PyDict.ofList [("MEDIA_ROOT", .str " /srv ")]) =
      .ok (PyDict.ofList [("location", .str "/srv"), ("base_url", .str ""),
        ("file_permissions_mode", .int 420), ("directory_permissions_mode", .none)]) := by decide
  ⟨hc, h, storageMapping_runValidation_stable hc h⟩

end Pulpcore
