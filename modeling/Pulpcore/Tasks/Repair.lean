import Pulpcore.Tasks.RepairCa

/-!
# The repair scan

`_repair_artifacts_for_content` walks the content artifacts of its scope, checks that each
artifact's file exists and, with `verify_checksums`, that its sha256 is the recorded one,
and starts a `_repair_ca` task for each invalid one, with at most five tasks in `pending`:
at five it waits for some to finish (`asyncio.wait(..., FIRST_COMPLETED)`) and drops the
finished ones. After the walk it waits for every task still pending.

The scan and the tasks run concurrently. A schedule is the order in which they take their
atomic steps: a step of the scan loop, or the next effect of a pending task. The state
carries, besides what the code keeps, the checks made so far and the tasks dropped from
`pending` (`checks`, `harvested`); these are written by the steps and read by nothing.
-/

namespace Pulpcore

/-- What the storage holds: for each artifact, the sha256 of the bytes at its file's path,
or `none` when the file is missing. -/
abbrev Storage := Artifact → Option String

/-- A `_repair_ca` task: the content artifact and artifact it repairs, the effects it has
yet to have, and what it returns. -/
structure RepairTask where
  ca : ContentArtifact
  artifact : Artifact
  todo : List RepairOp
  result : Bool

/-- A check made by the scan: whether the file existed and, if its checksum was verified,
whether it matched. -/
structure Check where
  ca : ContentArtifact
  artifact : Artifact
  existed : Bool
  digestOk : Option Bool

/-- The check found the artifact invalid: missing, or with a mismatching digest. -/
def Check.invalid (c : Check) : Bool := !c.existed || c.digestOk == some false

/-- Where the scan loop is. -/
inductive ScanPhase where
  /-- At the head of `async for`. -/
  | next
  /-- The file exists; its checksum is being verified. -/
  | verifying (ca : ContentArtifact) (a : Artifact)
  /-- The artifact is invalid; its repair task is being started. -/
  | admitting (ca : ContentArtifact) (a : Artifact)
  /-- The walk is over: `await asyncio.gather(*pending)`. -/
  | gathering
  | returned
  /-- `_verify_artifact` failed its domain assertion on this content artifact. -/
  | failed (ca : ContentArtifact) (a : Artifact)
  deriving DecidableEq

/-- The state of a repair run. -/
structure RepairState where
  storage : Storage
  toCheck : List (ContentArtifact × Artifact)
  phase : ScanPhase
  pending : List RepairTask
  harvested : List RepairTask
  missing : Nat
  corrupted : Nat
  repaired : Nat
  checks : List Check

/-- A step of a schedule: one of the scan loop, or the next effect of the `i`-th pending task. -/
inductive RepairEvent where
  | scan
  | task (i : Nat)
  deriving DecidableEq, Repr

/-- The effect of a task's step on the file of its artifact. -/
def RepairOp.applyTo (a : Artifact) (st : Storage) : RepairOp → Storage
  | .delete => Function.update st a none
  | .save dl => Function.update st a (some dl.sha256)
  | _ => st

/-- The step of a `_repair_ca` task that will return `True`, by how many effects it has
left after it: the delete leaves two, the save of the verified file leaves one, and the
downloads and the increment leave the file alone. -/
lemma applyTo_of_verified {artifact : Artifact} {srcs : List (RemoteArtifact × Option DownloadResult)}
    {op : RepairOp} {rest : List RepairOp} (hres : (repairCa artifact srcs true).2 = true)
    (h : op :: rest <:+ (repairCa artifact srcs true).1) (st : Storage) :
    op.applyTo artifact st =
      if rest.length = 2 then Function.update st artifact none
      else if rest.length = 1 then Function.update st artifact (some artifact.sha256) else st := by
  rcases repairCa_cases artifact srcs with ⟨pre, dl, h1, -, hdl, hpre⟩ | ⟨pre, -, h2, -⟩
  · obtain ⟨l₀, hl⟩ := h
    rw [h1, List.append_eq_append_iff] at hl
    rcases hl with ⟨a', rfl, ha'⟩ | ⟨c', rfl, hc'⟩
    · rcases a' with _ | ⟨x, a''⟩
      · simp only [List.nil_append, List.cons.injEq] at ha'
        obtain ⟨rfl, rfl⟩ := ha'
        simp [RepairOp.applyTo]
      · simp only [List.cons_append, List.cons.injEq] at ha'
        obtain ⟨rfl, rfl⟩ := ha'
        have hx := hpre op (by simp)
        cases op <;> simp_all [RepairOp.isDownload, RepairOp.applyTo]
    · match c', hc' with
      | [], hc' => simp only [List.nil_append, List.cons.injEq] at hc'; obtain ⟨rfl, rfl⟩ := hc'; rfl
      | [_], hc' =>
        simp only [List.singleton_append, List.cons.injEq] at hc'
        obtain ⟨-, rfl, rfl⟩ := hc'
        simp [RepairOp.applyTo, hdl]
      | [_, _], hc' =>
        simp only [List.cons_append, List.cons.injEq, List.nil_append] at hc'
        obtain ⟨-, -, rfl, rfl⟩ := hc'
        rfl
      | _ :: _ :: _ :: _, hc' => simp at hc'
  · rw [h2] at hres; cases hres

section Scan

/- The run's parameters: `verify_checksums`, the current domain, and for each content
artifact its remote artifacts in stored order with the outcome of their downloads. -/
variable (verifyChecksums : Bool) (domain : String)
  (sources : ContentArtifact → List (RemoteArtifact × Option DownloadResult))

/-- `asyncio.ensure_future(_repair_ca(content_artifact, repaired))`. -/
def startTask (ca : ContentArtifact) (a : Artifact) : RepairTask :=
  ⟨ca, a, (repairCa a (sources ca) true).1, (repairCa a (sources ca) true).2⟩

/-- A step of the scan loop; `none` while it is blocked on a wait. -/
def scanStep (s : RepairState) : Option RepairState :=
  match s.phase with
  | .next =>
    match s.toCheck with
    | [] => some { s with phase := .gathering }
    | (ca, a) :: rest =>
      if (s.storage a).isSome then
        if verifyChecksums then some { s with toCheck := rest, phase := .verifying ca a }
        else some { s with toCheck := rest, checks := s.checks ++ [⟨ca, a, true, none⟩] }
      else
        some { s with toCheck := rest, phase := .admitting ca a, missing := s.missing + 1,
                      checks := s.checks ++ [⟨ca, a, false, none⟩] }
  | .verifying ca a =>
    if a.pulpDomain ≠ domain then some { s with phase := .failed ca a }
    else if s.storage a = some a.sha256 then
      some { s with phase := .next, checks := s.checks ++ [⟨ca, a, true, some true⟩] }
    else
      some { s with phase := .admitting ca a, corrupted := s.corrupted + 1,
                    checks := s.checks ++ [⟨ca, a, true, some false⟩] }
  | .admitting ca a =>
    if s.pending.length < 5 then
      some { s with phase := .next, pending := s.pending ++ [startTask sources ca a] }
    else if s.pending.any (·.todo.isEmpty) then
      some { s with phase := .next,
                    harvested := s.harvested ++ s.pending.filter (·.todo.isEmpty),
                    pending := s.pending.filter (!·.todo.isEmpty) ++ [startTask sources ca a] }
    else none
  | .gathering => if s.pending.all (·.todo.isEmpty) then some { s with phase := .returned } else none
  | .returned => none
  | .failed _ _ => none

/-- The next effect of the `i`-th pending task; `none` when there is no such task or it
has finished. -/
def taskStep (s : RepairState) (i : Nat) : Option RepairState :=
  match s.pending[i]? with
  | none => none
  | some t =>
    match t.todo with
    | [] => none
    | op :: rest =>
      some { s with
        storage := op.applyTo t.artifact s.storage
        repaired := if op = .increment then s.repaired + 1 else s.repaired
        pending := s.pending.set i { t with todo := rest } }

/-- One event of a schedule. -/
def RepairState.step (s : RepairState) : RepairEvent → Option RepairState
  | .scan => scanStep verifyChecksums domain sources s
  | .task i => taskStep s i

/-- A schedule run from a state; `none` when one of its events cannot happen. -/
def RepairState.exec : RepairState → List RepairEvent → Option RepairState
  | s, [] => some s
  | s, e :: es => (s.step verifyChecksums domain sources e).bind fun s' => s'.exec es

/-- Everything a step of the scan loop can do. -/
lemma scanStep_cases {s s' : RepairState} (h : scanStep verifyChecksums domain sources s = some s') :
    (s.phase = .next ∧ s.toCheck = [] ∧ s' = { s with phase := .gathering }) ∨
    (∃ ca a rest, s.phase = .next ∧ s.toCheck = (ca, a) :: rest ∧ (s.storage a).isSome ∧
      verifyChecksums = true ∧ s' = { s with toCheck := rest, phase := .verifying ca a }) ∨
    (∃ ca a rest, s.phase = .next ∧ s.toCheck = (ca, a) :: rest ∧ (s.storage a).isSome ∧
      verifyChecksums = false ∧
      s' = { s with toCheck := rest, checks := s.checks ++ [⟨ca, a, true, none⟩] }) ∨
    (∃ ca a rest, s.phase = .next ∧ s.toCheck = (ca, a) :: rest ∧ s.storage a = none ∧
      s' = { s with toCheck := rest, phase := .admitting ca a, missing := s.missing + 1,
                    checks := s.checks ++ [⟨ca, a, false, none⟩] }) ∨
    (∃ ca a, s.phase = .verifying ca a ∧ a.pulpDomain ≠ domain ∧
      s' = { s with phase := .failed ca a }) ∨
    (∃ ca a, s.phase = .verifying ca a ∧ s.storage a = some a.sha256 ∧
      s' = { s with phase := .next, checks := s.checks ++ [⟨ca, a, true, some true⟩] }) ∨
    (∃ ca a, s.phase = .verifying ca a ∧ s.storage a ≠ some a.sha256 ∧
      s' = { s with phase := .admitting ca a, corrupted := s.corrupted + 1,
                    checks := s.checks ++ [⟨ca, a, true, some false⟩] }) ∨
    (∃ ca a, s.phase = .admitting ca a ∧ s.pending.length < 5 ∧
      s' = { s with phase := .next, pending := s.pending ++ [startTask sources ca a] }) ∨
    (∃ ca a, s.phase = .admitting ca a ∧ 5 ≤ s.pending.length ∧
      (s.pending.any (·.todo.isEmpty)) = true ∧
      s' = { s with phase := .next,
                    harvested := s.harvested ++ s.pending.filter (·.todo.isEmpty),
                    pending := s.pending.filter (!·.todo.isEmpty) ++ [startTask sources ca a] }) ∨
    (s.phase = .gathering ∧ (s.pending.all (·.todo.isEmpty)) = true ∧
      s' = { s with phase := .returned }) := by
  unfold scanStep at h
  split at h
  · split at h
    · cases h; exact .inl ⟨‹_›, ‹_›, rfl⟩
    · rename_i _ ca a rest hq
      split at h
      · split at h <;> cases h
        · exact .inr <| .inl ⟨ca, a, rest, ‹_›, hq, ‹_›, ‹_›, rfl⟩
        · exact .inr <| .inr <| .inl ⟨ca, a, rest, ‹_›, hq, ‹_›, Bool.eq_false_iff.mpr ‹_›, rfl⟩
      · cases h
        exact .inr <| .inr <| .inr <| .inl ⟨ca, a, rest, ‹_›, hq, Option.not_isSome_iff_eq_none.mp ‹_›, rfl⟩
  · rename_i ca a _
    split at h
    · cases h; exact .inr <| .inr <| .inr <| .inr <| .inl ⟨ca, a, ‹_›, ‹_›, rfl⟩
    · split at h <;> cases h
      · exact .inr <| .inr <| .inr <| .inr <| .inr <| .inl ⟨ca, a, ‹_›, ‹_›, rfl⟩
      · exact .inr <| .inr <| .inr <| .inr <| .inr <| .inr <| .inl ⟨ca, a, ‹_›, ‹_›, rfl⟩
  · rename_i ca a _
    split at h
    · cases h
      exact .inr <| .inr <| .inr <| .inr <| .inr <| .inr <| .inr <| .inl ⟨ca, a, ‹_›, ‹_›, rfl⟩
    · split at h <;> cases h
      exact .inr <| .inr <| .inr <| .inr <| .inr <| .inr <| .inr <| .inr <| .inl
        ⟨ca, a, ‹_›, by omega, ‹_›, rfl⟩
  · split at h <;> cases h
    exact .inr <| .inr <| .inr <| .inr <| .inr <| .inr <| .inr <| .inr <| .inr ⟨‹_›, ‹_›, rfl⟩
  · cases h
  · cases h

/-- A task step: the `i`-th pending task has its next effect. -/
lemma taskStep_cases {s s' : RepairState} {i : Nat} (h : taskStep s i = some s') :
    ∃ t op rest, s.pending[i]? = some t ∧ t.todo = op :: rest ∧
      s' = { s with storage := op.applyTo t.artifact s.storage,
                    repaired := if op = .increment then s.repaired + 1 else s.repaired,
                    pending := s.pending.set i { t with todo := rest } } := by
  unfold taskStep at h
  split at h
  · cases h
  · rename_i t ht
    split at h
    · cases h
    · cases h; exact ⟨t, _, _, ht, ‹_›, rfl⟩

end Scan

/-- A run over `scope` from the storage `st`, before any step. -/
def RepairState.start (st : Storage) (scope : List (ContentArtifact × Artifact)) : RepairState :=
  ⟨st, scope, .next, [], [], 0, 0, 0, []⟩

/-- The content `_repair_artifacts_for_content(subset)` works on: `subset`, replaced by all
content of the domain when it is missing or empty. -/
def scopeContent (db : Db) (domain : String) : Option (List Content) → List Content
  | some (c :: cs) => c :: cs
  | _ => db.content.filter (·.pulpDomain = domain)

/-- The rows `_repair_artifacts_for_content(subset)` walks: the content artifacts with an
artifact whose content is in the scope's content. -/
def repairScope (db : Db) (domain : String) (subset : Option (List Content)) :
    List (ContentArtifact × Artifact) :=
  db.contentArtifacts.filterMap fun ca =>
    match ca.artifact with
    | some a => if ca.content ∈ scopeContent db domain subset then some (ca, a) else none
    | none => none

lemma mem_repairScope {db : Db} {domain : String} {subset : Option (List Content)}
    {ca : ContentArtifact} {a : Artifact} :
    (ca, a) ∈ repairScope db domain subset ↔
      ca ∈ db.contentArtifacts ∧ ca.artifact = some a ∧ ca.content ∈ scopeContent db domain subset := by
  simp only [repairScope, List.mem_filterMap]
  constructor
  · rintro ⟨ca', hca', hx⟩
    split at hx
    · split_ifs at hx with hc
      cases hx
      exact ⟨hca', ‹_›, hc⟩
    · cases hx
  · rintro ⟨hca, hart, hc⟩
    exact ⟨ca, hca, by simp [hart, hc]⟩

/-- `repair_version`: the scope of the version's content. -/
def repairVersion (db : Db) (domain : String) (versionContent : List Content) :
    List (ContentArtifact × Artifact) :=
  repairScope db domain (some versionContent)

/-- `repair_all_artifacts`: the scope of all content of the domain. -/
def repairAllArtifacts (db : Db) (domain : String) : List (ContentArtifact × Artifact) :=
  repairScope db domain none

end Pulpcore
