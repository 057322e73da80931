import Pulpcore.Tasks.RepairScan

/-!
# What a repair run leaves in storage

The repair tasks of one run work on content artifacts, and several content artifacts may
share an artifact, hence a file. A task that returns `True` leaves a file with the recorded
sha256, but a concurrent task on the same file that runs out of sources deletes it
afterwards (`repair_undone_by_shared_artifact`). What every run does guarantee is that an
artifact whose tasks all returned `True` ends with its recorded sha256
(`repaired_file_verified`).
-/

namespace Pulpcore

section Files

variable {verifyChecksums : Bool} {domain : String}
  {sources : ContentArtifact → List (RemoteArtifact × Option DownloadResult)}

/-- A scan step leaves the storage alone and only adds the task it starts. -/
lemma scanStep_frame {s s' : RepairState} (h : scanStep verifyChecksums domain sources s = some s') :
    s'.storage = s.storage ∧ (∀ x ∈ s.started, x ∈ s'.started) ∧
      ∀ x ∈ s'.started, x ∈ s.started ∨ ∃ ca a, x = startTask sources ca a := by
  rcases scanStep_cases verifyChecksums domain sources h with
    ⟨-, -, rfl⟩ | ⟨_, _, _, -, -, -, -, rfl⟩ | ⟨_, _, _, -, -, -, -, rfl⟩ |
    ⟨_, _, _, -, -, -, rfl⟩ | ⟨_, _, -, -, rfl⟩ | ⟨_, _, -, -, rfl⟩ |
    ⟨_, _, -, -, rfl⟩ | ⟨ca, a, -, -, rfl⟩ | ⟨ca, a, -, -, -, rfl⟩ | ⟨-, -, rfl⟩
  all_goals try exact ⟨rfl, fun x hx => hx, fun x hx => .inl hx⟩
  · refine ⟨rfl, fun x hx => ?_, fun x hx => ?_⟩
    · simp only [RepairState.started, List.mem_append] at hx ⊢; tauto
    · simp only [RepairState.started, List.mem_append, List.mem_singleton] at hx
      rcases hx with hx | hx | rfl
      · exact .inl (List.mem_append_left _ hx)
      · exact .inl (List.mem_append_right _ hx)
      · exact .inr ⟨ca, a, rfl⟩
  · refine ⟨rfl, fun x hx => ?_, fun x hx => ?_⟩
    · simp only [RepairState.started, List.mem_append, List.mem_filter] at hx ⊢
      rcases hx with hx | hx
      · exact .inl (.inl hx)
      · cases hd : x.todo.isEmpty
        · exact .inr (.inl ⟨hx, by simp [hd]⟩)
        · exact .inl (.inr ⟨hx, rfl⟩)
    · simp only [RepairState.started, List.mem_append, List.mem_filter, List.mem_singleton] at hx
      rcases hx with (hx | hx) | hx | rfl
      · exact .inl (List.mem_append_left _ hx)
      · exact .inl (List.mem_append_right _ hx.1)
      · exact .inl (List.mem_append_right _ hx.1)
      · exact .inr ⟨ca, a, rfl⟩

/-- The file of an artifact whose started tasks all return `True` and one of which has
saved its file: it has the recorded sha256, or some task on it has deleted the file and
not yet saved its own. -/
def FileInv (s : RepairState) : Prop :=
  ∀ a, (∀ t ∈ s.started, t.artifact = a → t.result = true) →
    (∃ t ∈ s.started, t.artifact = a ∧ t.todo.length ≤ 1) →
    s.storage a = some a.sha256 ∨ ∃ t ∈ s.started, t.artifact = a ∧ t.todo.length = 2

lemma fileInv_start (st : Storage) (scope : List (ContentArtifact × Artifact)) :
    FileInv (.start st scope) := by
  intro a _ ⟨t, ht, _⟩
  simp [RepairState.start, RepairState.started] at ht

lemma fileInv_scan {s s' : RepairState} (hi : FileInv s)
    (h : scanStep verifyChecksums domain sources s = some s') : FileInv s' := by
  obtain ⟨hst, hsub, hnew⟩ := scanStep_frame h
  intro a hall ⟨t, ht, hta, hlen⟩
  rcases hnew t ht with ht | ⟨ca, a', rfl⟩
  · rw [hst]
    rcases hi a (fun x hx => hall x (hsub x hx)) ⟨t, ht, hta, hlen⟩ with h | ⟨x, hx, hxa, hxl⟩
    · exact .inl h
    · exact .inr ⟨x, hsub x hx, hxa, hxl⟩
  · have := repairCa_ne_nil a' (sources ca)
    have h1 := hall _ ht hta
    simp only [startTask] at hlen h1
    rcases repairCa_cases a' (sources ca) with ⟨pre, dl, h2, -⟩ | ⟨pre, -, h2, -⟩
    · rw [h2] at hlen; simp at hlen
    · rw [h2] at h1; cases h1

lemma applyTo_of_ne {a b : Artifact} (op : RepairOp) (st : Storage) (h : b ≠ a) :
    op.applyTo a st b = st b := by
  cases op <;> simp [RepairOp.applyTo, Function.update_noteq h]

lemma fileInv_task {s s' : RepairState} {i : Nat} (hi : FileInv s) (hti : TaskInv sources s)
    (h : taskStep s i = some s') : FileInv s' := by
  obtain ⟨t, op, rest, hget, hto, rfl⟩ := taskStep_cases h
  have htm : t ∈ s.started := List.mem_append_right _ (List.mem_iff_getElem?.mpr ⟨i, hget⟩)
  have hlt : i < s.pending.length := (List.getElem?_eq_some_iff.mp hget).1
  set t' : RepairTask := { t with todo := rest }
  have mem' : ∀ x ∈ s.harvested ++ s.pending.set i t', x ∈ s.started ∨ x = t' :=
    fun _ => mem_started_of_mem_set
  have keep : ∀ x ∈ s.started, x ≠ t → x ∈ s.harvested ++ s.pending.set i t' :=
    fun _ => mem_set_of_mem_started hget
  have ht'm : t' ∈ s.harvested ++ s.pending.set i t' := set_mem_started hlt
  intro a hall ⟨x, hx, hxa, hxl⟩
  by_cases ha : t.artifact = a
  · subst ha
    have hres := (hti.traces t htm).2 ▸ hall t' ht'm rfl
    have hsuf : op :: rest <:+ (repairCa t.artifact (sources t.ca) true).1 :=
      hto ▸ (hti.traces t htm).1
    have hstep := applyTo_of_verified hres hsuf s.storage
    by_cases h2 : rest.length = 2
    · exact .inr ⟨t', ht'm, rfl, h2⟩
    by_cases h1 : rest.length = 1
    · left; simp [hstep, h1]
    simp only [h2, h1, if_false] at hstep
    have hsav : ∃ y ∈ s.started, y.artifact = t.artifact ∧ y.todo.length ≤ 1 := by
      rcases mem' x hx with hx | hxt
      · exact ⟨x, hx, hxa, hxl⟩
      · have hr : rest.length ≤ 1 := by rw [hxt] at hxl; exact hxl
        exact ⟨t, htm, rfl, by rw [hto, List.length_cons]; omega⟩
    have hall' : ∀ y ∈ s.started, y.artifact = t.artifact → y.result = true := by
      intro y hy hya
      by_cases hyt : y = t
      · exact hyt ▸ hall t' ht'm rfl
      · exact hall y (keep y hy hyt) hya
    rcases hi t.artifact hall' hsav with hok | ⟨y, hy, hya, hyl⟩
    · exact .inl ((congrFun hstep t.artifact).trans hok)
    · have hyt : y ≠ t := by rintro rfl; simp [hto] at hyl; omega
      exact .inr ⟨y, keep y hy hyt, hya, hyl⟩
  · have hsav : ∃ y ∈ s.started, y.artifact = a ∧ y.todo.length ≤ 1 := by
      rcases mem' x hx with hx | rfl
      · exact ⟨x, hx, hxa, hxl⟩
      · exact absurd hxa ha
    have hne : ∀ y ∈ s.started, y.artifact = a → y ≠ t := fun y _ hya hyt => ha (hyt ▸ hya)
    rcases hi a (fun y hy hya => hall y (keep y hy (hne y hy hya)) hya) hsav with
      hok | ⟨y, hy, hya, hyl⟩
    · exact .inl ((applyTo_of_ne op s.storage (Ne.symm ha)).trans hok)
    · exact .inr ⟨y, keep y hy (hne y hy hya), hya, hyl⟩

lemma fileInv_exec {s s' : RepairState} {sched : List RepairEvent} (hf : FileInv s)
    (ht : TaskInv sources s) (h : s.exec verifyChecksums domain sources sched = some s') :
    FileInv s' ∧ TaskInv sources s' := by
  induction sched generalizing s with
  | nil => cases h; exact ⟨hf, ht⟩
  | cons e es ih =>
    simp only [RepairState.exec] at h
    cases hs : s.step verifyChecksums domain sources e with
    | none => simp [hs] at h
    | some s₁ =>
      rw [hs, Option.some_bind] at h
      cases e with
      | scan => exact ih (fileInv_scan hf hs) (taskInv_scan ht hs) h
      | task i => exact ih (fileInv_task hf ht hs) (taskInv_task ht hs) h

end Files

/-- Over every schedule of the scan loop and its repair tasks: when the run returns, an
artifact one of whose started tasks returned `True`, and none of whose started tasks
returned `False`, has a stored file with its recorded sha256. -/
theorem repaired_file_verified (verifyChecksums : Bool) (domain : String)
    (sources : ContentArtifact → List (RemoteArtifact × Option DownloadResult)) (st : Storage)
    (scope : List (ContentArtifact × Artifact)) (sched : List RepairEvent) (s : RepairState)
    (h : (RepairState.start st scope).exec verifyChecksums domain sources sched = some s)
    (hr : s.phase = .returned) (a : Artifact)
    (hsome : ∃ t ∈ s.started, t.artifact = a ∧ t.result = true)
    (hall : ∀ t ∈ s.started, t.artifact = a → t.result = true) :
    s.storage a = some a.sha256 := by
  obtain ⟨hf, ht⟩ := fileInv_exec (fileInv_start st scope) (taskInv_start sources st) h
  have hdone : ∀ t ∈ s.started, t.todo = [] := fun t hts =>
    (List.mem_append.mp hts).elim (ht.harvestedDone t) (ht.returnedDone hr t)
  obtain ⟨t, hts, hta, -⟩ := hsome
  rcases hf a hall ⟨t, hts, hta, by simp [hdone t hts]⟩ with hok | ⟨y, hy, -, hyl⟩
  · exact hok
  · simp [hdone y hy] at hyl

/-- The content artifact at `p` alone, file missing: its repair restores the file. -/
theorem repaired_file_verified_on_sample :
    ∃ s, (RepairState.start (fun _ => none) [(sampleCa "p", sampleArtifact)]).exec true "default"
        sampleSources [.scan, .scan, .task 0, .task 0, .task 0, .task 0, .scan, .scan] = some s ∧
      s.phase = .returned ∧ (∃ t ∈ s.started, t.artifact = sampleArtifact ∧ t.result = true) ∧
      (∀ t ∈ s.started, t.artifact = sampleArtifact → t.result = true) ∧
      s.storage sampleArtifact = some sampleArtifact.sha256 :=
  ⟨_, rfl, rfl, by decide, by decide,
    repaired_file_verified true "default" sampleSources (fun _ => none) [(sampleCa "p", sampleArtifact)]
      [.scan, .scan, .task 0, .task 0, .task 0, .task 0, .scan, .scan] _ rfl rfl _ (by decide) (by decide)⟩

/-- Over the sample, the run returns with one repair counted and the task on `p` having
returned `True`, yet the shared file is missing: the task on `q` deleted it last. -/
theorem repair_undone_by_shared_artifact :
    ((RepairState.start (fun _ => none) [(sampleCa "p", sampleArtifact), (sampleCa "q", sampleArtifact)]).exec
        true "default" sampleSources sampleSchedule).map
      (fun s => (s.phase, s.repaired, s.started.map (·.result), s.storage sampleArtifact)) =
      some (.returned, 1, [true, false], none) := rfl

/-- A store with the content artifact at `p` only, whose file is corrupted. -/
def sampleDb : Db := ⟨[(sampleCa "p").content], [sampleCa "p"], [], by decide, by decide⟩

/-- `repair_version` of a version with no content walks the content artifact at `p`, which
is not in the version, and deletes its file, which has no remote source. -/
theorem repairVersion_empty_deletes_other_file :
    repairVersion sampleDb "default" [] = [(sampleCa "p", sampleArtifact)] ∧
    ((RepairState.start (fun _ => some "bad") (repairVersion sampleDb "default" [])).exec true
        "default" (fun _ => []) [.scan, .scan, .scan, .task 0, .scan, .scan]).map
      (fun s => (s.phase, s.storage sampleArtifact)) = some (.returned, none) := ⟨rfl, rfl⟩

/-! ### What a repair run touches -/

section Touched

variable {verifyChecksums : Bool} {domain : String}
  {sources : ContentArtifact → List (RemoteArtifact × Option DownloadResult)}

/-- Every file that differs from the storage `st` is the file of a started task's artifact. -/
def Touched (st : Storage) (s : RepairState) : Prop :=
  ∀ a, s.storage a ≠ st a → ∃ t ∈ s.started, t.artifact = a

lemma touched_scan {st : Storage} {s s' : RepairState} (hi : Touched st s)
    (h : scanStep verifyChecksums domain sources s = some s') : Touched st s' := by
  obtain ⟨hst, hsub, -⟩ := scanStep_frame h
  intro a ha
  obtain ⟨t, ht, hta⟩ := hi a (hst ▸ ha)
  exact ⟨t, hsub t ht, hta⟩

lemma touched_task {st : Storage} {s s' : RepairState} {i : Nat} (hi : Touched st s)
    (h : taskStep s i = some s') : Touched st s' := by
  obtain ⟨t, op, rest, hget, -, rfl⟩ := taskStep_cases h
  have hlt : i < s.pending.length := (List.getElem?_eq_some_iff.mp hget).1
  intro a ha
  by_cases hta : t.artifact = a
  · exact ⟨{ t with todo := rest }, set_mem_started hlt, hta⟩
  · obtain ⟨x, hx, hxa⟩ := hi a (by rw [← applyTo_of_ne op s.storage (Ne.symm hta)]; exact ha)
    exact ⟨x, mem_set_of_mem_started hget hx (fun hxt => hta (hxt ▸ hxa)), hxa⟩

lemma touched_exec {st : Storage} {s s' : RepairState} {sched : List RepairEvent}
    (hi : Touched st s) (h : s.exec verifyChecksums domain sources sched = some s') :
    Touched st s' := by
  induction sched generalizing s with
  | nil => cases h; exact hi
  | cons e es ih =>
    simp only [RepairState.exec] at h
    cases hs : s.step verifyChecksums domain sources e with
    | none => simp [hs] at h
    | some s₁ =>
      rw [hs, Option.some_bind] at h
      cases e with
      | scan => exact ih (touched_scan hi hs) h
      | task i => exact ih (touched_task hi hs) h

/-- A run over `scope` changes only files of artifacts of the scope whose check found the
file missing or, with `verify_checksums`, found a mismatching digest. -/
lemma repair_changes_only_invalid {st : Storage} {scope : List (ContentArtifact × Artifact)}
    {sched : List RepairEvent} {s : RepairState}
    (h : (RepairState.start st scope).exec verifyChecksums domain sources sched = some s)
    {a : Artifact} (ha : s.storage a ≠ st a) :
    ∃ c ∈ s.checks, c.key ∈ scope ∧ c.artifact = a ∧
      (c.existed = false ∨ verifyChecksums = true ∧ c.digestOk = some false) := by
  obtain ⟨hw, ht⟩ := inv_exec (walkInv_start verifyChecksums scope st) (taskInv_start sources st) h
  obtain ⟨t, hts, rfl⟩ := touched_exec (fun _ ha => absurd rfl ha) h a ha
  obtain ⟨c, hc, hck⟩ := List.mem_map.mp
    (ht.startedPerm.subset (List.mem_append_left _ (List.mem_map_of_mem RepairTask.key hts)))
  obtain ⟨hcm, hinv⟩ := List.mem_filter.mp hc
  refine ⟨c, hcm, ?_, congrArg Prod.snd hck, ?_⟩
  · rw [← hw.walked]
    exact List.mem_append_left _ (List.mem_append_left _ (List.mem_map_of_mem _ hcm))
  · have hv := List.all_eq_true.mp hw.verified c hcm
    cases he : c.existed
    · exact .inl rfl
    · cases hd : c.digestOk <;> simp_all [Check.invalid]

end Touched

/-- Over every schedule, `repair_version` of a version with content changes only files of
artifacts linked through a content artifact to the version's content, and only those whose
check found the file missing or, with `verify_checksums`, found a mismatching digest. -/
theorem repairVersion_changes_only_invalid_version_files (verifyChecksums : Bool) (domain : String)
    (sources : ContentArtifact → List (RemoteArtifact × Option DownloadResult)) (db : Db)
    (versionContent : List Content) (hv : versionContent ≠ []) (st : Storage)
    (sched : List RepairEvent) (s : RepairState)
    (h : (RepairState.start st (repairVersion db domain versionContent)).exec verifyChecksums domain
      sources sched = some s)
    (a : Artifact) (ha : s.storage a ≠ st a) :
    ∃ c ∈ s.checks, c.ca ∈ db.contentArtifacts ∧ c.ca.artifact = some a ∧
      c.ca.content ∈ versionContent ∧ c.artifact = a ∧
      (c.existed = false ∨ verifyChecksums = true ∧ c.digestOk = some false) := by
  obtain ⟨c, hc, hscope, hca, hinv⟩ := repair_changes_only_invalid h ha
  obtain ⟨hlink, hart, hcontent⟩ := mem_repairScope.mp hscope
  obtain ⟨v, vs, rfl⟩ := List.exists_cons_of_ne_nil hv
  exact ⟨c, hc, hlink, hca ▸ hart, hcontent, hca, hinv⟩

/-- The version holding the content at `p`, whose file is corrupted and has no source: the
run deletes it, a file of the version found invalid. -/
theorem repairVersion_changes_only_invalid_version_files_on_sample :
    ∃ s, (RepairState.start (fun _ => some "bad") (repairVersion sampleDb "default"
        [(sampleCa "p").content])).exec true "default" (fun _ => [])
        [.scan, .scan, .scan, .task 0, .scan, .scan] = some s ∧
      s.storage sampleArtifact ≠ some "bad" ∧
      ∃ c ∈ s.checks, c.ca ∈ sampleDb.contentArtifacts ∧ c.ca.artifact = some sampleArtifact ∧
        c.ca.content ∈ [(sampleCa "p").content] ∧ c.artifact = sampleArtifact ∧
        (c.existed = false ∨ true = true ∧ c.digestOk = some false) :=
  ⟨_, rfl, by decide, repairVersion_changes_only_invalid_version_files true "default" (fun _ => [])
    sampleDb [(sampleCa "p").content] (by decide) (fun _ => some "bad")
    [.scan, .scan, .scan, .task 0, .scan, .scan] _ rfl sampleArtifact (by decide)⟩

/-- Over every schedule, `repair_all_artifacts` changes only files of artifacts linked through a
content artifact to stored content of the current domain, and only those whose check found
the file missing or, with `verify_checksums`, found a mismatching digest. -/
theorem repairAllArtifacts_changes_only_invalid_domain_files (verifyChecksums : Bool)
    (domain : String) (sources : ContentArtifact → List (RemoteArtifact × Option DownloadResult))
    (db : Db) (st : Storage) (sched : List RepairEvent) (s : RepairState)
    (h : (RepairState.start st (repairAllArtifacts db domain)).exec verifyChecksums domain sources
      sched = some s)
    (a : Artifact) (ha : s.storage a ≠ st a) :
    ∃ c ∈ s.checks, c.ca ∈ db.contentArtifacts ∧ c.ca.artifact = some a ∧
      c.ca.content ∈ db.content ∧ c.ca.content.pulpDomain = domain ∧ c.artifact = a ∧
      (c.existed = false ∨ verifyChecksums = true ∧ c.digestOk = some false) := by
  obtain ⟨c, hc, hscope, hca, hinv⟩ := repair_changes_only_invalid h ha
  obtain ⟨hlink, hart, hcontent⟩ := mem_repairScope.mp hscope
  simp only [scopeContent, List.mem_filter, decide_eq_true_eq] at hcontent
  exact ⟨c, hc, hlink, hca ▸ hart, hcontent.1, hcontent.2, hca, hinv⟩

/-- The domain's content at `p`, whose file is corrupted and has no source: the run deletes it. -/
theorem repairAllArtifacts_changes_only_invalid_domain_files_on_sample :
    ∃ s, (RepairState.start (fun _ => some "bad") (repairAllArtifacts sampleDb "default")).exec true
        "default" (fun _ => []) [.scan, .scan, .scan, .task 0, .scan, .scan] = some s ∧
      s.storage sampleArtifact ≠ some "bad" ∧
      ∃ c ∈ s.checks, c.ca ∈ sampleDb.contentArtifacts ∧ c.ca.artifact = some sampleArtifact ∧
        c.ca.content ∈ sampleDb.content ∧ c.ca.content.pulpDomain = "default" ∧
        c.artifact = sampleArtifact ∧ (c.existed = false ∨ true = true ∧ c.digestOk = some false) :=
  ⟨_, rfl, by decide, repairAllArtifacts_changes_only_invalid_domain_files true "default" (fun _ => [])
    sampleDb (fun _ => some "bad") [.scan, .scan, .scan, .task 0, .scan, .scan] _ rfl sampleArtifact
    (by decide)⟩

end Pulpcore
