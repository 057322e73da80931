import Pulpcore.Models.Basic

/-!
# The `content_unit_saver` stage

One iteration of the stage's loop, on the batch it drained. Inside one `transaction.atomic()`
it saves every unit whose content is still unsaved, collects one `ContentArtifact` per
declarative artifact of such a unit, bulk-creates them, and then creates one
`RemoteArtifact` per created link from the data it kept in `remote_artifact_map`.

That map is keyed by `relative_path` alone. Two units of one batch with a file at the same
relative path share one entry: the first link pops the second unit's data and the second
link's `pop` raises a `KeyError`, which rolls the whole batch back
(`saveBatch_shared_relative_path`). What does hold for every batch is that a committed batch
has saved each of its unsaved units and removed nothing (`saveBatch_saved_mem`).
-/

namespace Pulpcore

/-- The `remote_artifact_data` dict built for one declarative artifact. -/
def remoteArtifactData (da : DeclarativeArtifact) : RemoteArtifactData where
  url := da.url
  size := da.artifact.size
  md5 := da.artifact.md5
  sha1 := da.artifact.sha1
  sha224 := da.artifact.sha224
  sha256 := da.artifact.sha256
  sha384 := da.artifact.sha384
  sha512 := da.artifact.sha512
  remote := da.remote

/-- What the transaction has built so far: the store with the saved units,
`content_artifact_bulk`, and `remote_artifact_map`. -/
structure SaverAcc where
  db : Db
  contentArtifactBulk : List ContentArtifact
  remoteArtifactMap : String → Option RemoteArtifactData

/-- `ContentArtifact(content=..., artifact=..., relative_path=...)` for a declarative artifact
of a unit saved as `c`. -/
def contentArtifactOf (c : Content) (da : DeclarativeArtifact) : ContentArtifact :=
  ⟨c, some da.artifact, da.relativePath⟩

/-- The loop over the `d_artifacts` of a unit just saved as `c`. -/
def addArtifacts (c : Content) (acc : SaverAcc) : List DeclarativeArtifact → SaverAcc
  | [] => acc
  | da :: das =>
    addArtifacts c
      { acc with
        contentArtifactBulk := acc.contentArtifactBulk ++ [contentArtifactOf c da]
        remoteArtifactMap :=
          Function.update acc.remoteArtifactMap da.relativePath (some (remoteArtifactData da)) }
      das

/-- One entry of the loop inside `transaction.atomic()`; the sentinel only sets
`shutdown`, and a unit whose content is already saved is skipped. -/
def saveEntry (acc : SaverAcc) : Item → Except Error SaverAcc
  | none => .ok acc
  | some dc =>
    if dc.content.adding then do
      let db ← acc.db.saveContent dc.content
      pure (addArtifacts dc.content.saved { acc with db } dc.dArtifacts)
    else .ok acc

/-- The loop over the bulk-created links: `remote_artifact_map.pop(relative_path)` for
each, raising a `KeyError` on a missing key. -/
def popRemoteArtifacts (m : String → Option RemoteArtifactData) :
    List ContentArtifact → Except Error (List RemoteArtifact)
  | [] => .ok []
  | ca :: cas =>
    match m ca.relativePath with
    | none => .error .key
    | some d => (⟨d, ca⟩ :: ·) <$> popRemoteArtifacts (Function.update m ca.relativePath none) cas

/-- The body of `transaction.atomic()` for one batch: the store once the batch commits. An
error leaves the store as it was. -/
def saveBatch (db : Db) (batch : List Item) : Except Error Db := do
  let acc ← batch.foldlM saveEntry ⟨db, [], fun _ => none⟩
  let db ← acc.db.bulkCreateContentArtifacts acc.contentArtifactBulk
  let ras ← popRemoteArtifacts acc.remoteArtifactMap acc.contentArtifactBulk
  pure (db.bulkCreateRemoteArtifacts ras)

/-- A unit as the stage forwards it after the transaction: its content now saved if it was
unsaved. -/
def savedEntry (dc : DeclarativeContent) : DeclarativeContent :=
  if dc.content.adding then { dc with content := dc.content.saved } else dc

/-- The entries the stage forwards after the transaction: the batch without the sentinel. -/
def savedEntries (batch : List Item) : List DeclarativeContent :=
  batch.filterMap (Option.map savedEntry)

@[simp] lemma savedEntry_unitKey (dc : DeclarativeContent) :
    (savedEntry dc).content.unitKey = dc.content.unitKey := by
  unfold savedEntry; split <;> simp

@[simp] lemma savedEntry_adding (dc : DeclarativeContent) : (savedEntry dc).content.adding = false := by
  unfold savedEntry; split <;> simp_all

@[simp] lemma savedEntry_dArtifacts (dc : DeclarativeContent) :
    (savedEntry dc).dArtifacts = dc.dArtifacts := by
  unfold savedEntry; split <;> rfl

@[simp] lemma savedEntries_append (b b' : List Item) :
    savedEntries (b ++ b') = savedEntries b ++ savedEntries b' := List.filterMap_append _ _ _

@[simp] lemma savedEntries_map_some (l : List DeclarativeContent) :
    savedEntries (l.map some) = l.map savedEntry := by
  rw [savedEntries, List.filterMap_map, ← List.filterMap_eq_map]; rfl

@[simp] lemma savedEntries_cons_none (b : List Item) : savedEntries (none :: b) = savedEntries b := rfl

@[simp] lemma savedEntries_cons_some (dc : DeclarativeContent) (b : List Item) :
    savedEntries (some dc :: b) = savedEntry dc :: savedEntries b := rfl

@[simp] lemma savedEntries_nil : savedEntries [] = [] := rfl

/-! ### What a committed batch has written -/

lemma Db.saveContent_content {db db' : Db} {c : Content} (h : db.saveContent c = .ok db') :
    db'.content = db.content ++ [c.saved] := by
  unfold Db.saveContent at h
  split at h <;> cases h
  rfl

lemma Db.bulkCreateContentArtifacts_content {db db' : Db} {cas : List ContentArtifact}
    (h : db.bulkCreateContentArtifacts cas = .ok db') : db'.content = db.content := by
  unfold Db.bulkCreateContentArtifacts at h
  split at h <;> cases h
  rfl

@[simp] lemma addArtifacts_db (c : Content) (acc : SaverAcc) (das : List DeclarativeArtifact) :
    (addArtifacts c acc das).db = acc.db := by
  induction das generalizing acc with
  | nil => rfl
  | cons da das ih => exact ih _

/-- One entry keeps the stored units and saves the entry's unit if it is unsaved. -/
lemma saveEntry_content {acc acc' : SaverAcc} {x : Item} (h : saveEntry acc x = .ok acc') :
    acc.db.content <+: acc'.db.content ∧
      ∀ dc, x = some dc → dc.content.adding → dc.content.saved ∈ acc'.db.content := by
  cases x with
  | none => cases h; simp
  | some dc =>
    by_cases had : dc.content.adding
    · cases hs : acc.db.saveContent dc.content with
      | error e => simp [saveEntry, had, hs] at h
      | ok db =>
        simp only [saveEntry, had, if_true, hs, except_ok_bind, except_pure, Except.ok.injEq] at h
        subst h
        simp [Db.saveContent_content hs]
    · simp only [saveEntry, had] at h
      cases h
      simp_all

lemma foldlM_saveEntry_content {acc acc' : SaverAcc} {b : List Item}
    (h : b.foldlM saveEntry acc = .ok acc') :
    acc.db.content <+: acc'.db.content ∧
      ∀ dc, some dc ∈ b → dc.content.adding → dc.content.saved ∈ acc'.db.content := by
  induction b generalizing acc with
  | nil => cases h; simp
  | cons x b ih =>
    rw [List.foldlM_cons] at h
    cases hx : saveEntry acc x with
    | error e => simp [hx] at h
    | ok a =>
      rw [hx, except_ok_bind] at h
      obtain ⟨hp, hm⟩ := ih h
      obtain ⟨hp₀, hm₀⟩ := saveEntry_content hx
      refine ⟨hp₀.trans hp, fun dc hdc had => ?_⟩
      rcases List.mem_cons.mp hdc with rfl | hdc
      · exact hp.subset (hm₀ dc rfl had)
      · exact hm dc hdc had

/-- A committed batch keeps every stored unit and has saved each of its unsaved units. -/
theorem saveBatch_saved_mem {db db' : Db} {b : List Item} (h : saveBatch db b = .ok db') :
    db.content <+: db'.content ∧
      ∀ dc, some dc ∈ b → dc.content.adding → dc.content.saved ∈ db'.content := by
  unfold saveBatch at h
  cases hf : b.foldlM saveEntry ⟨db, [], fun _ => none⟩ with
  | error e => simp [hf] at h
  | ok acc =>
    rw [hf, except_ok_bind] at h
    cases hc : acc.db.bulkCreateContentArtifacts acc.contentArtifactBulk with
    | error e => simp [hc] at h
    | ok db₁ =>
      rw [hc, except_ok_bind] at h
      cases hp : popRemoteArtifacts acc.remoteArtifactMap acc.contentArtifactBulk with
      | error e => simp [hp] at h
      | ok ras =>
        simp only [hp, except_ok_bind, except_pure, Except.ok.injEq] at h
        subst h
        have hdb : (db₁.bulkCreateRemoteArtifacts ras).content = acc.db.content := by
          simpa [Db.bulkCreateRemoteArtifacts] using Db.bulkCreateContentArtifacts_content hc
        rw [hdb]
        exact foldlM_saveEntry_content hf

/-! ### Batches whose relative paths are distinct -/

/-- The units a batch's transaction saves: those whose content is still unsaved. -/
def unsavedUnits (b : List Item) : List DeclarativeContent :=
  b.filterMap fun x => x.filter (·.content.adding)

@[simp] lemma unsavedUnits_nil : unsavedUnits [] = [] := rfl

@[simp] lemma unsavedUnits_cons_none (b : List Item) : unsavedUnits (none :: b) = unsavedUnits b := rfl

@[simp] lemma unsavedUnits_cons_some (dc : DeclarativeContent) (b : List Item) :
    unsavedUnits (some dc :: b) = if dc.content.adding then dc :: unsavedUnits b else unsavedUnits b := by
  by_cases h : dc.content.adding <;> simp [unsavedUnits, Option.filter, h]

@[simp] lemma unsavedUnits_append (b b' : List Item) :
    unsavedUnits (b ++ b') = unsavedUnits b ++ unsavedUnits b' := List.filterMap_append _ _ _

lemma unsavedUnits_map_some {l : List DeclarativeContent} (h : ∀ dc ∈ l, dc.content.adding = true) :
    unsavedUnits (l.map some) = l := by
  induction l with
  | nil => rfl
  | cons dc l ih =>
    simp only [List.map_cons, unsavedUnits_cons_some, h dc (List.mem_cons_self _ _), if_true,
      ih fun d hd => h d (List.mem_cons_of_mem _ hd)]

lemma unsavedUnits_of_forall_none {b : List Item} (h : ∀ x ∈ b, x = none) : unsavedUnits b = [] :=
  List.filterMap_eq_nil_iff.mpr fun x hx => by simp [h x hx]

/-- The links the transaction creates for a batch, in order, each with the
`remote_artifact_data` of the declarative artifact it comes from. -/
def batchLinks (b : List Item) : List (ContentArtifact × RemoteArtifactData) :=
  (unsavedUnits b).flatMap fun dc =>
    dc.dArtifacts.map fun da => (contentArtifactOf dc.content.saved da, remoteArtifactData da)

lemma batchLinks_append (b b' : List Item) : batchLinks (b ++ b') = batchLinks b ++ batchLinks b' := by
  simp [batchLinks]

lemma mem_batchLinks {b : List Item} {l : ContentArtifact × RemoteArtifactData} (h : l ∈ batchLinks b) :
    ∃ dc ∈ unsavedUnits b, ∃ da ∈ dc.dArtifacts,
      l = (contentArtifactOf dc.content.saved da, remoteArtifactData da) := by
  simp only [batchLinks, List.mem_flatMap, List.mem_map] at h
  obtain ⟨dc, hdc, da, hda, rfl⟩ := h
  exact ⟨dc, hdc, da, hda, rfl⟩

/-- `remote_artifact_map[rel_path] = remote_artifact_data` for each link in turn. -/
def recordLinks (m : String → Option RemoteArtifactData)
    (ls : List (ContentArtifact × RemoteArtifactData)) : String → Option RemoteArtifactData :=
  ls.foldl (fun m l => Function.update m l.1.relativePath (some l.2)) m

lemma addArtifacts_eq (c : Content) (acc : SaverAcc) (das : List DeclarativeArtifact) :
    addArtifacts c acc das =
      { acc with
        contentArtifactBulk := acc.contentArtifactBulk ++ das.map (contentArtifactOf c)
        remoteArtifactMap := recordLinks acc.remoteArtifactMap
          (das.map fun da => (contentArtifactOf c da, remoteArtifactData da)) } := by
  induction das generalizing acc with
  | nil => simp [addArtifacts, recordLinks]
  | cons da das ih => simp [addArtifacts, ih, recordLinks, contentArtifactOf]

lemma Db.saveContent_ok {db : Db} {c : Content} (h : c.unitKey ∉ db.content.map Content.unitKey) :
    ∃ db', db.saveContent c = .ok db' ∧ db'.content = db.content ++ [c.saved] ∧
      db'.contentArtifacts = db.contentArtifacts ∧ db'.remoteArtifacts = db.remoteArtifacts :=
  ⟨_, dif_neg h, rfl, rfl, rfl⟩

/-- The loop inside the transaction succeeds when the unsaved units are new and of distinct
natural keys: it saves them and records one link per declarative artifact. -/
lemma foldlM_saveEntry_eq (b : List Item) (acc : SaverAcc)
    (h : ((acc.db.content ++ (unsavedUnits b).map (·.content)).map Content.unitKey).Nodup) :
    ∃ acc' : SaverAcc, b.foldlM saveEntry acc = .ok acc' ∧
      acc'.db.content = acc.db.content ++ (unsavedUnits b).map (·.content.saved) ∧
      acc'.db.contentArtifacts = acc.db.contentArtifacts ∧
      acc'.db.remoteArtifacts = acc.db.remoteArtifacts ∧
      acc'.contentArtifactBulk = acc.contentArtifactBulk ++ (batchLinks b).map Prod.fst ∧
      acc'.remoteArtifactMap = recordLinks acc.remoteArtifactMap (batchLinks b) := by
  induction b generalizing acc with
  | nil => exact ⟨acc, rfl, by simp [batchLinks, recordLinks]⟩
  | cons x b ih =>
    cases x with
    | none => simpa [batchLinks, saveEntry] using ih acc (by simpa using h)
    | some dc =>
      by_cases had : dc.content.adding
      · have hnd : ((acc.db.content ++ dc.content :: (unsavedUnits b).map (·.content)).map
            Content.unitKey).Nodup := by simpa [had] using h
        have hfresh : dc.content.unitKey ∉ acc.db.content.map Content.unitKey := by
          rw [List.map_append, List.nodup_append] at hnd
          exact fun hm => hnd.2.2 hm (List.mem_cons_self _ _)
        obtain ⟨db₁, hs, hc, hca, hra⟩ := Db.saveContent_ok hfresh
        obtain ⟨acc', hf, hc', hca', hra', hb', hm'⟩ :=
          ih (addArtifacts dc.content.saved { acc with db := db₁ } dc.dArtifacts)
            (by simpa [hc] using hnd)
        refine ⟨acc', ?_, ?_, ?_, ?_, ?_, ?_⟩
        · simp [saveEntry, had, hs, hf]
        · simp [hc', hc, had]
        · simp [hca', hca]
        · simp [hra', hra]
        · simp [hb', addArtifacts_eq, batchLinks, had]
        · simp [hm', addArtifacts_eq, batchLinks, had, recordLinks]
      · simpa [batchLinks, saveEntry, had] using ih acc (by simpa [had] using h)

lemma recordLinks_cons (m : String → Option RemoteArtifactData) (l : ContentArtifact × RemoteArtifactData)
    (ls : List (ContentArtifact × RemoteArtifactData)) :
    recordLinks m (l :: ls) = recordLinks (Function.update m l.1.relativePath (some l.2)) ls := rfl

lemma recordLinks_of_not_mem (m : String → Option RemoteArtifactData)
    (ls : List (ContentArtifact × RemoteArtifactData)) {p : String}
    (hp : p ∉ ls.map (·.1.relativePath)) : recordLinks m ls p = m p := by
  induction ls generalizing m with
  | nil => rfl
  | cons l ls ih =>
    simp only [List.map_cons, List.mem_cons, not_or] at hp
    rw [recordLinks_cons, ih _ hp.2, Function.update_noteq hp.1]

/-- With distinct relative paths, the map holds each link's data under its path. -/
lemma recordLinks_of_nodup (m : String → Option RemoteArtifactData)
    {ls : List (ContentArtifact × RemoteArtifactData)} (hnd : (ls.map (·.1.relativePath)).Nodup) :
    ∀ l ∈ ls, recordLinks m ls l.1.relativePath = some l.2 := by
  induction ls generalizing m with
  | nil => simp
  | cons l ls ih =>
    rw [List.map_cons, List.nodup_cons] at hnd
    intro l' hl'
    rw [recordLinks_cons]
    rcases List.mem_cons.mp hl' with rfl | hl'
    · rw [recordLinks_of_not_mem _ _ hnd.1, Function.update_same]
    · exact ih _ hnd.2 l' hl'

/-- Popping each link's path from a map that holds its data gives one remote artifact per
link, when no two links share a path. -/
lemma popRemoteArtifacts_eq {m : String → Option RemoteArtifactData}
    {ls : List (ContentArtifact × RemoteArtifactData)} (hnd : (ls.map (·.1.relativePath)).Nodup)
    (hm : ∀ l ∈ ls, m l.1.relativePath = some l.2) :
    popRemoteArtifacts m (ls.map Prod.fst) = .ok (ls.map fun l => ⟨l.2, l.1⟩) := by
  induction ls generalizing m with
  | nil => rfl
  | cons l ls ih =>
    rw [List.map_cons, List.nodup_cons] at hnd
    have hm' : ∀ l' ∈ ls, Function.update m l.1.relativePath none l'.1.relativePath = some l'.2 :=
      fun l' hl' => by
        rw [Function.update_noteq fun he => hnd.1 (by rw [← he]; exact List.mem_map_of_mem _ hl')]
        exact hm l' (List.mem_cons_of_mem _ hl')
    simp [popRemoteArtifacts, hm l (List.mem_cons_self _ _), ih hnd.2 hm']

/-- On a store whose links all belong to stored units, a batch whose unsaved units are new,
of distinct natural keys, and whose declarative artifacts have distinct relative paths
commits: it saves each unsaved unit once, creates one link per declarative artifact, and one
remote artifact per link with the url, remote, size and checksums of that declarative
artifact. Units already saved write nothing. -/
theorem saveBatch_writes_links (db : Db) (b : List Item)
    (hnew : ((db.content ++ (unsavedUnits b).map (·.content)).map Content.unitKey).Nodup)
    (hlinks : ∀ ca ∈ db.contentArtifacts, ca.content ∈ db.content)
    (hpaths : ((unsavedUnits b).flatMap fun dc => dc.dArtifacts.map (·.relativePath)).Nodup) :
    ∃ db', saveBatch db b = .ok db' ∧
      db'.content = db.content ++ (unsavedUnits b).map (·.content.saved) ∧
      db'.contentArtifacts = db.contentArtifacts ++ (batchLinks b).map Prod.fst ∧
      db'.remoteArtifacts = db.remoteArtifacts ++ (batchLinks b).map fun l => ⟨l.2, l.1⟩ := by
  have hnd : ((batchLinks b).map (·.1.relativePath)).Nodup := by
    simpa [batchLinks, List.map_flatMap, contentArtifactOf, Function.comp_def] using hpaths
  obtain ⟨acc, hf, hc, hca, hra, hb, hm⟩ := foldlM_saveEntry_eq b ⟨db, [], fun _ => none⟩ hnew
  have hkeys : ((acc.db.contentArtifacts ++ acc.contentArtifactBulk).map ContentArtifact.key).Nodup := by
    rw [hca, hb, List.nil_append, List.map_append, List.nodup_append]
    refine ⟨db.contentArtifact_unique, ?_, ?_⟩
    · refine List.Nodup.of_map Prod.snd ?_
      simpa [List.map_map, Function.comp_def, ContentArtifact.key] using hnd
    · rintro _ hx hy
      obtain ⟨ca, hca', rfl⟩ := List.mem_map.mp hx
      obtain ⟨ca₂, hca₂, hk⟩ := List.mem_map.mp hy
      obtain ⟨l, hl, rfl⟩ := List.mem_map.mp hca₂
      obtain ⟨dc, hdc, da, -, rfl⟩ := mem_batchLinks hl
      have hk' : dc.content.saved = ca.content := congrArg Prod.fst hk
      have hstored : dc.content.saved ∈ db.content := by rw [hk']; exact hlinks ca hca'
      rw [List.map_append, List.nodup_append] at hnew
      exact hnew.2.2 (by simpa using List.mem_map_of_mem Content.unitKey hstored)
        (List.mem_map_of_mem Content.unitKey (List.mem_map_of_mem (·.content) hdc))
  refine ⟨Db.bulkCreateRemoteArtifacts
    { acc.db with contentArtifacts := acc.db.contentArtifacts ++ acc.contentArtifactBulk,
                  contentArtifact_unique := hkeys } ((batchLinks b).map fun l => ⟨l.2, l.1⟩),
    ?_, hc, by simp [Db.bulkCreateRemoteArtifacts, hca, hb], by simp [Db.bulkCreateRemoteArtifacts, hra]⟩
  have hpop : popRemoteArtifacts acc.remoteArtifactMap acc.contentArtifactBulk =
      .ok ((batchLinks b).map fun l => ⟨l.2, l.1⟩) := by
    rw [hb, hm]; exact popRemoteArtifacts_eq hnd (recordLinks_of_nodup _ hnd)
  simp only [saveBatch, hf, except_ok_bind, Db.bulkCreateContentArtifacts, dif_pos hkeys, hpop]
  rfl

private def fileUnit : ContentType := ⟨"file.file", ["relative_path", "digest"]⟩

private def fileArtifact (d : String) : Artifact := ⟨3, none, none, none, d, none, none, "default"⟩

/-- An unsaved `file.file` unit with digest `d` and its one file at `p`. -/
def fileUnitAt (p d : String) : DeclarativeContent :=
  ⟨⟨fileUnit, [("relative_path", p), ("digest", d)], true, "default", by
      intro f hf
      simp only [fileUnit, List.mem_cons, List.mem_singleton, List.not_mem_nil, or_false] at hf
      rcases hf with rfl | rfl <;> rfl⟩,
    [⟨fileArtifact d, "http://h/" ++ d, p, "r"⟩]⟩

/-- Two units with digests `1` and `2`, with their files at `p` and `q`. -/
def twoFileUnits (p q : String) : List Item := [some (fileUnitAt p "1"), some (fileUnitAt q "2")]

/-- The two units with their files at distinct paths, on an empty store: the batch commits. -/
theorem saveBatch_writes_links_on_sample :
    ∃ db', saveBatch ⟨[], [], [], by decide, by decide⟩ (twoFileUnits "p" "q") = .ok db' ∧
      db'.content = [] ++ (unsavedUnits (twoFileUnits "p" "q")).map (·.content.saved) ∧
      db'.contentArtifacts = [] ++ (batchLinks (twoFileUnits "p" "q")).map Prod.fst ∧
      db'.remoteArtifacts = [] ++ (batchLinks (twoFileUnits "p" "q")).map fun l => ⟨l.2, l.1⟩ :=
  saveBatch_writes_links _ (twoFileUnits "p" "q") (by decide) (by decide) (by decide)

/-! ### Units sharing a relative path -/

/-- Two `file.file` units with digests `1` and `2`, each with one file at `p`: the second
`pop` of `p` raises. -/
theorem saveBatch_shared_relative_path :
    saveBatch ⟨[], [], [], by decide, by decide⟩
      [some ⟨⟨fileUnit, [("relative_path", "p"), ("digest", "1")], true, "default", by decide⟩,
          [⟨fileArtifact "1", "http://h/1", "p", "r"⟩]⟩,
       some ⟨⟨fileUnit, [("relative_path", "p"), ("digest", "2")], true, "default", by decide⟩,
          [⟨fileArtifact "2", "http://h/2", "p", "r"⟩]⟩] = .error .key := rfl

end Pulpcore
