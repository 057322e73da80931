import Pulpcore.Models.Basic

/-!
# Repairing one content artifact

`_repair_ca` tries the remote artifacts of a content artifact in their stored order. A
download either raises or yields a file with the sha256 the downloader computed; the first
file whose sha256 is the artifact's replaces the stored file, and the function returns
`True`. When no source gives such a file, or there is no source, the stored file is deleted
and the function returns `False`.

The function is modelled by the effects it has, in order (`RepairOp`): that is all the
scan loop and the other repair tasks can observe of it, and what `repairCa_spec` describes.
-/

namespace Pulpcore

/-- A successful `downloader.run()`: the downloaded file and the sha256 computed for it. -/
structure DownloadResult where
  path : String
  sha256 : String
  deriving DecidableEq, Repr

/-- A visible effect of `_repair_ca`. -/
inductive RepairOp where
  | download (ra : RemoteArtifact)
  | delete
  | save (dl : DownloadResult)
  | increment
  deriving DecidableEq

/-- The effect is a download, which touches neither the stored file nor `repaired`. -/
def RepairOp.isDownload : RepairOp → Bool
  | .download _ => true
  | _ => false

/-- The `async for` loop over the remote artifacts, each paired with the outcome of its
download (`none` when `downloader.run()` raises). -/
def repairLoop (sha256 : String) (repaired : Bool) :
    List (RemoteArtifact × Option DownloadResult) → List RepairOp × Bool
  | [] => ([.delete], false)
  | (ra, none) :: rest => (.download ra :: (repairLoop sha256 repaired rest).1,
      (repairLoop sha256 repaired rest).2)
  | (ra, some dl) :: rest =>
    if dl.sha256 = sha256 then
      ([.download ra, .delete, .save dl] ++ (if repaired then [.increment] else []), true)
    else (.download ra :: (repairLoop sha256 repaired rest).1, (repairLoop sha256 repaired rest).2)

/-- `_repair_ca(content_artifact, repaired)` for a content artifact with `artifact`: its
effects and its return value. `repaired` says whether a progress report was passed. -/
def repairCa (artifact : Artifact) (sources : List (RemoteArtifact × Option DownloadResult))
    (repaired : Bool) : List RepairOp × Bool :=
  if sources = [] then ([.delete], false) else repairLoop artifact.sha256 repaired sources

/-- A source whose download succeeds with the expected sha256. -/
def Verified (sha256 : String) (src : RemoteArtifact × Option DownloadResult) : Prop :=
  ∃ dl, src.2 = some dl ∧ dl.sha256 = sha256

instance (sha256 : String) (src : RemoteArtifact × Option DownloadResult) :
    Decidable (Verified sha256 src) :=
  match src with
  | (_, none) => isFalse fun ⟨_, h, _⟩ => by cases h
  | (_, some dl) => decidable_of_iff (dl.sha256 = sha256) ⟨fun h => ⟨dl, rfl, h⟩,
      fun ⟨_, h, h'⟩ => by cases h; exact h'⟩

lemma repairLoop_eq_of_verified {sha256 : String} {repaired : Bool} {pre : List _}
    {ra : RemoteArtifact} {dl : DownloadResult} (post : List _) (hpre : ∀ p ∈ pre, ¬Verified sha256 p)
    (hdl : dl.sha256 = sha256) :
    repairLoop sha256 repaired (pre ++ (ra, some dl) :: post) =
      (pre.map (RepairOp.download ·.1) ++ [.download ra, .delete, .save dl] ++
        (if repaired then [.increment] else []), true) := by
  induction pre with
  | nil => simp [repairLoop, hdl]
  | cons p pre ih =>
    have ih := ih fun q hq => hpre q (List.mem_cons_of_mem p hq)
    obtain ⟨ra', o⟩ := p
    cases o with
    | none => simp [repairLoop, ih]
    | some dl' =>
      have hne : dl'.sha256 ≠ sha256 := fun h => hpre _ (List.mem_cons_self _ _) ⟨dl', rfl, h⟩
      simp [repairLoop, hne, ih]

lemma repairLoop_eq_of_not_verified {sha256 : String} {repaired : Bool} {srcs : List _}
    (h : ∀ p ∈ srcs, ¬Verified sha256 p) :
    repairLoop sha256 repaired srcs = (srcs.map (RepairOp.download ·.1) ++ [.delete], false) := by
  induction srcs with
  | nil => rfl
  | cons p srcs ih =>
    have ih := ih fun q hq => h q (List.mem_cons_of_mem p hq)
    obtain ⟨ra', o⟩ := p
    cases o with
    | none => simp [repairLoop, ih]
    | some dl' =>
      have hne : dl'.sha256 ≠ sha256 := fun h' => h _ (List.mem_cons_self _ _) ⟨dl', rfl, h'⟩
      simp [repairLoop, hne, ih]

/-- The first verified source of a list that has one. -/
lemma exists_first_verified {sha256 : String} {srcs : List (RemoteArtifact × Option DownloadResult)}
    (h : ∃ src ∈ srcs, Verified sha256 src) :
    ∃ pre ra dl post, srcs = pre ++ (ra, some dl) :: post ∧ dl.sha256 = sha256 ∧
      ∀ p ∈ pre, ¬Verified sha256 p := by
  obtain ⟨src, hs⟩ := Option.isSome_iff_exists.mp
    (List.find?_isSome.mpr (by simpa using h) : (srcs.find? fun p => decide (Verified sha256 p)).isSome)
  obtain ⟨hv, pre, post, rfl, hpre⟩ := List.find?_eq_some.mp hs
  obtain ⟨ra, o⟩ := src
  obtain ⟨dl, rfl, hsha⟩ := of_decide_eq_true hv
  exact ⟨pre, ra, dl, post, rfl, hsha, fun p hp => by simpa using hpre p hp⟩

/-- `_repair_ca` on sources with a verified one. -/
lemma repairCa_of_verified {artifact : Artifact} {repaired : Bool} {pre : List _}
    {ra : RemoteArtifact} {dl : DownloadResult} (post : List _)
    (hpre : ∀ p ∈ pre, ¬Verified artifact.sha256 p) (hdl : dl.sha256 = artifact.sha256) :
    repairCa artifact (pre ++ (ra, some dl) :: post) repaired =
      (pre.map (RepairOp.download ·.1) ++ [.download ra, .delete, .save dl] ++
        (if repaired then [.increment] else []), true) := by
  simp [repairCa, repairLoop_eq_of_verified post hpre hdl]

/-- `_repair_ca` on sources none of which is verified, the empty list included. -/
lemma repairCa_of_not_verified {artifact : Artifact} {repaired : Bool} {srcs : List _}
    (h : ∀ p ∈ srcs, ¬Verified artifact.sha256 p) :
    repairCa artifact srcs repaired = (srcs.map (RepairOp.download ·.1) ++ [.delete], false) := by
  rcases srcs with _ | ⟨p, srcs⟩
  · rfl
  · simp [repairCa, repairLoop_eq_of_not_verified h]

/-- What `_repair_ca` does, for every list of sources and every download outcome. If some
download gives the expected sha256, it downloads the sources up to the first such one and
no further, deletes the stored file, saves that source's file and increments `repaired`
once, returning `True`. Otherwise it downloads every source, deletes the stored file, saves
nothing and returns `False`. -/
theorem repairCa_spec (artifact : Artifact) (srcs : List (RemoteArtifact × Option DownloadResult))
    (repaired : Bool) :
    ((repairCa artifact srcs repaired).2 = true ↔ ∃ src ∈ srcs, Verified artifact.sha256 src) ∧
    (∀ pre ra dl post, srcs = pre ++ (ra, some dl) :: post → dl.sha256 = artifact.sha256 →
      (∀ p ∈ pre, ¬Verified artifact.sha256 p) →
      (repairCa artifact srcs repaired).1 = pre.map (RepairOp.download ·.1) ++
        [.download ra, .delete, .save dl] ++ (if repaired then [.increment] else [])) ∧
    ((∀ p ∈ srcs, ¬Verified artifact.sha256 p) →
      (repairCa artifact srcs repaired).1 = srcs.map (RepairOp.download ·.1) ++ [.delete]) := by
  refine ⟨?_, fun pre ra dl post hs hdl hpre => by rw [hs, repairCa_of_verified post hpre hdl],
    fun h => by rw [repairCa_of_not_verified h]⟩
  by_cases h : ∃ src ∈ srcs, Verified artifact.sha256 src
  · obtain ⟨pre, ra, dl, post, rfl, hdl, hpre⟩ := exists_first_verified h
    simpa [repairCa_of_verified post hpre hdl] using h
  · push_neg at h
    simpa [repairCa_of_not_verified h] using h

/-- The two shapes of a run of `_repair_ca` with a progress report: downloads, then either
the delete, the save of a file with the expected sha256 and the increment, returning `True`,
or the delete alone, returning `False`. -/
lemma repairCa_cases (artifact : Artifact) (srcs : List (RemoteArtifact × Option DownloadResult)) :
    (∃ pre dl, (repairCa artifact srcs true).1 = pre ++ [.delete, .save dl, .increment] ∧
      (repairCa artifact srcs true).2 = true ∧ dl.sha256 = artifact.sha256 ∧
      ∀ op ∈ pre, op.isDownload) ∨
    (∃ pre, (repairCa artifact srcs true).1 = pre ++ [.delete] ∧
      (repairCa artifact srcs true).2 = false ∧ ∀ op ∈ pre, op.isDownload) := by
  by_cases h : ∃ src ∈ srcs, Verified artifact.sha256 src
  · obtain ⟨pre, ra, dl, post, rfl, hdl, hpre⟩ := exists_first_verified h
    refine .inl ⟨pre.map (RepairOp.download ·.1) ++ [.download ra], dl, ?_, ?_, hdl, ?_⟩
    · simp [repairCa_of_verified post hpre hdl]
    · simp [repairCa_of_verified post hpre hdl]
    · intro op hop
      simp only [List.mem_append, List.mem_map, List.mem_singleton] at hop
      rcases hop with ⟨_, -, rfl⟩ | rfl <;> rfl
  · push_neg at h
    refine .inr ⟨srcs.map (RepairOp.download ·.1), ?_, ?_, fun op hop => ?_⟩
    · simp [repairCa_of_not_verified h]
    · simp [repairCa_of_not_verified h]
    · obtain ⟨_, -, rfl⟩ := List.mem_map.mp hop; rfl

/-- A run of `_repair_ca` increments `repaired` once if it returns `True`, never otherwise. -/
lemma repairCa_count_increment (artifact : Artifact) (srcs : List (RemoteArtifact × Option DownloadResult)) :
    (repairCa artifact srcs true).1.count .increment =
      if (repairCa artifact srcs true).2 then 1 else 0 := by
  have hd : ∀ pre : List RepairOp, (∀ op ∈ pre, op.isDownload) → pre.count .increment = 0 :=
    fun pre h => List.count_eq_zero.mpr fun hm => by simpa [RepairOp.isDownload] using h _ hm
  rcases repairCa_cases artifact srcs with ⟨pre, dl, h1, h2, -, h3⟩ | ⟨pre, h1, h2, h3⟩
  · rw [h1, h2]; simp [List.count_append, hd pre h3]
  · rw [h1, h2]; simp [List.count_append, hd pre h3]

/-- A task whose remaining effects start with `op` has, once `op` is done, returned `True`
and finished exactly when `op` is its increment. -/
lemma repairCa_suffix_increment {artifact : Artifact} {srcs : List (RemoteArtifact × Option DownloadResult)}
    {op : RepairOp} {rest : List RepairOp} (h : op :: rest <:+ (repairCa artifact srcs true).1) :
    ((repairCa artifact srcs true).2 && rest.isEmpty) = (op == .increment) := by
  have hc := h.sublist.count_le RepairOp.increment
  rw [repairCa_count_increment] at hc
  rcases repairCa_cases artifact srcs with ⟨pre, dl, h1, h2, -, -⟩ | ⟨pre, h1, h2, -⟩
  · have hl := h.getLast (List.cons_ne_nil op rest)
    simp only [h1, List.getLast_append_of_ne_nil (List.cons_ne_nil _ _)] at hl
    rw [h2, if_pos rfl] at hc
    rw [h2]
    cases rest with
    | nil => simpa using hl
    | cons r rs =>
      have hlast : (op :: r :: rs).getLast (List.cons_ne_nil _ _) = .increment := hl.trans rfl
      have hmem : RepairOp.increment ∈ r :: rs := by
        rw [← hlast, List.getLast_cons_cons]; exact List.getLast_mem _
      -- a second increment after `op` would make two
      have hop : op ≠ .increment := by
        rintro rfl
        rw [List.count_cons_self] at hc
        have := List.count_pos_iff.mpr hmem
        omega
      simpa using hop
  · rw [h2, if_neg Bool.false_ne_true] at hc
    rw [h2]
    have hop : op ≠ .increment := fun he => absurd hc (by rw [he, List.count_cons_self]; omega)
    simpa using hop

end Pulpcore
