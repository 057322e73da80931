import Pulpcore.Models.Basic
import Mathlib.Data.Finset.Basic

/-!
# Repository versions

`delete_version` and `add_and_remove`, the two tasks of `pulpcore.app.tasks.repository`
that change the versions of a repository. Each runs in a transaction: a task that raises
leaves the versions as they were.

`delete_version` refuses to delete when the version's repository has at most one complete
version. The guard counts complete versions without asking whether the version to delete
is one of them, so deleting an in-progress version is refused too while a single complete
version exists (`deleteVersion_in_progress_raises`). Every repository that has a complete
version keeps one through any history of the two tasks (`complete_version_retained`).

`Repository.new_version`, `Repository.latest_version` and `RepositoryVersion.delete` are not
part of the sources; they are modelled from the spec.
-/

namespace Pulpcore

/-- A `RepositoryVersion` row: its primary key, its repository's, its number, whether it is
complete, and the primary keys of its content. -/
structure RepositoryVersion where
  pk : String
  repository : String
  number : Nat
  complete : Bool
  content : Finset String
  deriving DecidableEq

/-- A `Repository` row: its primary key and the number its next version gets. -/
structure Repository where
  pk : String
  nextVersion : Nat
  deriving DecidableEq, Repr

/-- The rows the two tasks read and write; `content` holds the primary keys of all stored
`Content`. -/
structure RepoState where
  repositories : List Repository
  versions : List RepositoryVersion
  content : Finset String

namespace RepoState

/-- `repository.versions.complete()`. -/
def completeVersions (s : RepoState) (repository : String) : List RepositoryVersion :=
  s.versions.filter fun v => v.repository = repository ∧ v.complete

/-- The highest-numbered of a list of versions. -/
def highest : List RepositoryVersion → Option RepositoryVersion
  | [] => none
  | v :: vs =>
    match highest vs with
    | none => some v
    | some w => if w.number ≤ v.number then some v else some w

/-- Modelled from the spec: `Repository.latest_version()`, the complete version with the
highest number. -/
def latestVersion (s : RepoState) (repository : String) : Option RepositoryVersion :=
  highest (s.completeVersions repository)

/-- Modelled from the spec: `RepositoryVersion.delete()`, which squashes the version into
its successor. The content sets of the other versions and the repository's next number are
unchanged; only the version itself goes. -/
def deleteRow (s : RepoState) (v : RepositoryVersion) : RepoState :=
  { s with versions := s.versions.erase v }

/-- `delete_version(pk)`. -/
def deleteVersion (s : RepoState) (pk : String) : Except Error RepoState :=
  match s.versions.find? (·.pk = pk) with
  | none => .ok s
  | some version =>
    if (s.completeVersions version.repository).length ≤ 1 then .error .validation
    else .ok (s.deleteRow version)

/-- Modelled from the spec: `repository.new_version(base_version)` entered and left
without error. It creates one complete version, numbered by the repository's next number,
whose content is `change` applied to the base version's content (the latest version's when
no base is given, none when there is no complete version). -/
def newVersion (s : RepoState) (repository : Repository) (baseVersion : Option RepositoryVersion)
    (change : Finset String → Finset String) : RepoState :=
  let base := match baseVersion with
    | some b => b.content
    | none => ((s.latestVersion repository.pk).map (·.content)).getD ∅
  { s with
    versions := s.versions ++
      [⟨repository.pk ++ "/versions/" ++ toString repository.nextVersion, repository.pk,
        repository.nextVersion, true, change base⟩]
    repositories := s.repositories.map fun r =>
      if r.pk = repository.pk then { r with nextVersion := r.nextVersion + 1 } else r }

/-- `add_and_remove(repository_pk, add_content_units, remove_content_units, base_version_pk)`.
Removal comes first, then addition; only primary keys of stored content are added. -/
def addAndRemove (s : RepoState) (repositoryPk : String)
    (addContentUnits removeContentUnits : List String) (baseVersionPk : Option String) :
    Except Error RepoState := do
  let repository ← match s.repositories.find? (·.pk = repositoryPk) with
    | some r => pure r
    | none => throw .doesNotExist
  let baseVersion ← match baseVersionPk with
    | none => pure none
    | some pk => match s.versions.find? (·.pk = pk) with
      | some v => pure (some v)
      | none => throw .doesNotExist
  let remove := if "*" ∈ removeContentUnits then
      ((s.latestVersion repository.pk).map (·.content)).getD ∅
    else removeContentUnits.toFinset
  pure (s.newVersion repository baseVersion fun c =>
    (c \ remove) ∪ (addContentUnits.toFinset ∩ s.content))

end RepoState

/-- A call of one of the two tasks. -/
inductive RepoTask where
  | deleteVersion (pk : String)
  | addAndRemove (repositoryPk : String) (add remove : List String) (baseVersionPk : Option String)

/-- The body of a task. -/
def RepoTask.body : RepoTask → RepoState → Except Error RepoState
  | .deleteVersion pk, s => s.deleteVersion pk
  | .addAndRemove r add remove b, s => s.addAndRemove r add remove b

namespace RepoState

/-- A task in its transaction: the new state, or the old one and the exception raised. -/
def run (s : RepoState) (t : RepoTask) : RepoState × Option Error :=
  match t.body s with
  | .ok s' => (s', none)
  | .error e => (s, some e)

/-- Tasks run one after another. -/
def runAll (s : RepoState) : List RepoTask → RepoState
  | [] => s
  | t :: ts => (s.run t).1.runAll ts

/-! ### Complete versions are never all deleted -/

lemma completeVersions_deleteRow (s : RepoState) (v : RepositoryVersion) (r : String) :
    (s.deleteRow v).completeVersions r = (s.completeVersions r).erase v :=
  (List.erase_filter _ _).symm

lemma deleteVersion_retains {s s' : RepoState} {pk r : String} (h : s.deleteVersion pk = .ok s')
    (hr : 0 < (s.completeVersions r).length) : 0 < (s'.completeVersions r).length := by
  unfold deleteVersion at h
  split at h
  · cases h; exact hr
  · rename_i v hv
    split at h
    · cases h
    · rename_i hguard
      cases h
      rw [completeVersions_deleteRow]
      by_cases hmem : v ∈ s.completeVersions r
      · have hvr : v.repository = r := by
          simp only [completeVersions, List.mem_filter, decide_eq_true_eq] at hmem
          exact hmem.2.1
        have := List.le_length_erase v (s.completeVersions r)
        subst hvr; omega
      · rwa [List.erase_eq_self_iff.mpr hmem]

lemma addAndRemove_retains {s s' : RepoState} {rp : String} {add remove : List String}
    {b : Option String} (h : s.addAndRemove rp add remove b = .ok s') (r : String) :
    (s.completeVersions r).length ≤ (s'.completeVersions r).length := by
  simp only [addAndRemove] at h
  split at h <;> [skip; cases h]
  split at h
  · cases h
    simp [newVersion, completeVersions, List.filter_append]
  · split at h <;> cases h
    simp [newVersion, completeVersions, List.filter_append]

lemma run_retains (s : RepoState) (t : RepoTask) {r : String}
    (hr : 0 < (s.completeVersions r).length) : 0 < ((s.run t).1.completeVersions r).length := by
  unfold run
  cases ht : t.body s with
  | error e => exact hr
  | ok s' =>
    cases t with
    | deleteVersion pk => exact deleteVersion_retains ht hr
    | addAndRemove rp add remove b => exact lt_of_lt_of_le hr (addAndRemove_retains ht r)

lemma runAll_retains (s : RepoState) (ts : List RepoTask) {r : String}
    (hr : 0 < (s.completeVersions r).length) : 0 < ((s.runAll ts).completeVersions r).length := by
  induction ts generalizing s with
  | nil => exact hr
  | cons t ts ih => exact ih _ (run_retains s t hr)

/-- `delete_version` raises exactly when the version exists and its repository has at most
one complete version, and then the state is unchanged; for a missing version it does
nothing. -/
lemma run_deleteVersion (s : RepoState) (pk : String) :
    (s.versions.find? (·.pk = pk) = none → s.run (.deleteVersion pk) = (s, none)) ∧
    ((s.run (.deleteVersion pk)).2.isSome ↔
      ∃ v, s.versions.find? (·.pk = pk) = some v ∧ (s.completeVersions v.repository).length ≤ 1) ∧
    ((s.run (.deleteVersion pk)).2.isSome → (s.run (.deleteVersion pk)).1 = s) := by
  refine ⟨fun h => by simp [run, RepoTask.body, deleteVersion, h], ?_, ?_⟩
  · cases hv : s.versions.find? (·.pk = pk) with
    | none => simp [run, RepoTask.body, deleteVersion, hv]
    | some v =>
      by_cases hc : (s.completeVersions v.repository).length ≤ 1
      · simp [run, RepoTask.body, deleteVersion, hv, hc]
      · simp [run, RepoTask.body, deleteVersion, hv, hc]
  · intro h
    cases hv : s.versions.find? (·.pk = pk) with
    | none => simp [run, RepoTask.body, deleteVersion, hv]
    | some v =>
      by_cases hc : (s.completeVersions v.repository).length ≤ 1
      · simp [run, RepoTask.body, deleteVersion, hv, hc]
      · simp [run, RepoTask.body, deleteVersion, hv, hc] at h

end RepoState

/-- Through every history of `delete_version` and `add_and_remove` calls, a repository that
has a complete version keeps one. At every point of such a history, `delete_version` of a
missing version does nothing, and `delete_version` raises exactly when the version exists
and its repository has at most one complete version, whether or not the version itself is
complete; when it raises, nothing changes. -/
theorem complete_version_retained (s : RepoState) (r : String)
    (hr : 0 < (s.completeVersions r).length) (ts : List RepoTask) (pk : String) :
    0 < ((s.runAll ts).completeVersions r).length ∧
    ((s.runAll ts).versions.find? (·.pk = pk) = none →
      (s.runAll ts).run (.deleteVersion pk) = (s.runAll ts, none)) ∧
    (((s.runAll ts).run (.deleteVersion pk)).2.isSome ↔
      ∃ v, (s.runAll ts).versions.find? (·.pk = pk) = some v ∧
        ((s.runAll ts).completeVersions v.repository).length ≤ 1) ∧
    (((s.runAll ts).run (.deleteVersion pk)).2.isSome →
      ((s.runAll ts).run (.deleteVersion pk)).1 = s.runAll ts) :=
  ⟨RepoState.runAll_retains s ts hr, RepoState.run_deleteVersion _ pk⟩

theorem complete_version_retained_on_sample :
    let s : RepoState := ⟨[⟨"r", 2⟩], [⟨"v0", "r", 0, true, ∅⟩, ⟨"v1", "r", 1, false, ∅⟩], ∅⟩
    let ts : List RepoTask := [.addAndRemove "r" [] ["*"] none, .deleteVersion "v0"]
    0 < (s.completeVersions "r").length ∧
    0 < ((s.runAll ts).completeVersions "r").length ∧
    ((s.runAll ts).versions.find? (·.pk = "v1") = none →
      (s.runAll ts).run (.deleteVersion "v1") = (s.runAll ts, none)) ∧
    (((s.runAll ts).run (.deleteVersion "v1")).2.isSome ↔
      ∃ v, (s.runAll ts).versions.find? (·.pk = "v1") = some v ∧
        ((s.runAll ts).completeVersions v.repository).length ≤ 1) ∧
    (((s.runAll ts).run (.deleteVersion "v1")).2.isSome →
      ((s.runAll ts).run (.deleteVersion "v1")).1 = s.runAll ts) :=
  ⟨by decide, complete_version_retained _ "r" (by decide) _ "v1"⟩

/-- A repository with a complete version `v0` and an in-progress version `v1`: deleting
`v1` raises, although `v1` is not the repository's only complete version. -/
theorem deleteVersion_in_progress_raises :
    let s : RepoState := ⟨[⟨"r", 2⟩], [⟨"v0", "r", 0, true, ∅⟩, ⟨"v1", "r", 1, false, ∅⟩], ∅⟩
    (s.run (.deleteVersion "v1")).2 = some .validation ∧
      ∃ v ∈ s.versions, v.pk = "v1" ∧ v.complete = false := by
  decide

end Pulpcore
