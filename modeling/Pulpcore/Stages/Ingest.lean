import Pulpcore.Stages.Interleaving

/-!
# One pipeline run on its own

A run of `query_existing_content_units` feeding `content_unit_saver`, alone on the store,
fed new units of one content type whose files have distinct relative paths. Over every
schedule, that is every way the two stages split what they drain into batches, no stage
raises, the run takes at most `2 n + 4` steps for `n` units, and it can take a step until it
has completed. Once complete it has put out each unit saved, in order, followed by one
sentinel, and has written what one transaction over the whole stream would: each unit saved
once, one link per declarative artifact and one remote artifact per link
(`pipeline_run_writes_each_unit_once`).
-/

namespace Pulpcore

/-- What is left to drain in a run of `pipeline`: twice the resolver's queue, the saver's
queue, and one for each stage still in its loop. Every step lowers it. -/
def workLeft (a b : Stage) : Nat :=
  2 * a.inQ.length + b.inQ.length + (if a.done then 0 else 1) + (if b.done then 0 else 1)

/-- The resolver moves what it drains to the saver's queue. -/
lemma workLeft_resolverStep {a b : Stage} {k : Nat} (hr : a.Ready k) (hb : b.done = false) :
    workLeft { a with inQ := a.inQ.drop k, done := decide (none ∈ a.inQ.take k) }
      { b with inQ := b.inQ ++
          if none ∈ a.inQ.take k then a.inQ.take k ++ [none] else a.inQ.take k } <
      workLeft a b := by
  obtain ⟨hd, hk, hkl⟩ := hr
  unfold workLeft
  by_cases hsd : none ∈ a.inQ.take k <;>
    simp only [hsd, hd, hb, decide_True, decide_False, Bool.false_eq_true, ↓reduceIte,
      List.length_append, List.length_drop, List.length_take, List.length_singleton] <;> omega

lemma workLeft_saverStep {a b : Stage} {k : Nat} (hr : b.Ready k) :
    workLeft a { b with inQ := b.inQ.drop k, done := decide (none ∈ b.inQ.take k) } <
      workLeft a b := by
  obtain ⟨hd, hk, hkl⟩ := hr
  unfold workLeft
  by_cases hsd : none ∈ b.inQ.take k <;>
    simp only [hsd, hd, decide_True, decide_False, Bool.false_eq_true, ↓reduceIte,
      List.length_drop] <;> split <;> omega

lemma Queues.saver_running {a b : Stage} {out : List Item} {zs ys xs : List DeclarativeContent}
    (hq : Queues a b out zs ys xs) (ha : a.done = false) : b.done = false := by
  unfold Queues at hq
  split at hq <;> simp_all

/-- A stream the run can take on its own: units of one content type, all unsaved, whose
natural keys are distinct and not stored, and whose files have distinct relative paths, on a
store whose links belong to stored units. -/
structure FreshStream (db : Db) (items : List DeclarativeContent) : Prop where
  oneType : OneType items
  unsaved : ∀ dc ∈ items, dc.content.adding = true
  newKeys : ((db.content ++ items.map (·.content)).map Content.unitKey).Nodup
  linksStored : ∀ ca ∈ db.contentArtifacts, ca.content ∈ db.content
  paths : (items.flatMap fun dc => dc.dArtifacts.map (·.relativePath)).Nodup

section FreshStream

variable {db store : Db} {items put ys xs : List DeclarativeContent}

/-- A unit the run has not put out has a natural key the store does not hold. -/
lemma FreshStream.not_stored (hf : FreshStream db items) {rest : List DeclarativeContent}
    (hitems : put ++ rest = items) (hc : store.content = db.content ++ put.map (·.content.saved))
    {dc : DeclarativeContent} (hdc : dc ∈ rest) :
    ¬∃ r ∈ store.content, r.unitKey = dc.content.unitKey := by
  rintro ⟨r, hr, hk⟩
  have hsplit : db.content ++ items.map (·.content) =
      (db.content ++ put.map (·.content)) ++ rest.map (·.content) := by simp [← hitems]
  have hnd := hf.newKeys
  rw [hsplit, List.map_append, List.nodup_append] at hnd
  refine hnd.2.2 ?_ (List.mem_map_of_mem Content.unitKey (List.mem_map_of_mem (·.content) hdc))
  rw [← hk]
  rw [hc, List.mem_append, List.mem_map] at hr
  rcases hr with hr | ⟨p, hp, rfl⟩
  · exact List.mem_map_of_mem _ (List.mem_append_left _ hr)
  · simpa using List.mem_map_of_mem Content.unitKey
      (List.mem_append_right db.content (List.mem_map_of_mem (·.content) hp))

/-- The resolver's batches change nothing: none of their units is stored yet. -/
lemma FreshStream.queryBatch_eq (hf : FreshStream db items) (hitems : put ++ ys ++ xs = items)
    (hc : store.content = db.content ++ put.map (·.content.saved)) {batch : List Item}
    (hb : ∀ dc, some dc ∈ batch → dc ∈ xs) : queryBatch store batch = .ok batch := by
  have hitems' : put ++ (ys ++ xs) = items := by rw [← hitems, List.append_assoc]
  obtain ⟨t, hot⟩ := ofType_of_oneType hf.oneType fun dc hdc =>
    hitems' ▸ List.mem_append_right _ (List.mem_append_right _ (hb dc hdc))
  rw [queryBatch_of_sameType store hot]
  conv_rhs => rw [← List.map_id batch]
  refine congrArg _ (List.map_congr_left fun x hx => ?_)
  cases x with
  | none => rfl
  | some dc =>
    simp [resolve_of_not_stored
      (hf.not_stored hitems' hc (List.mem_append_right _ (hb dc hx)))]

/-- The saver's batches commit: their unsaved units are the next units of the stream, new
and with files at new relative paths. -/
lemma FreshStream.saveBatch_eq (hf : FreshStream db items) (hitems : put ++ ys ++ xs = items)
    (hc : store.content = db.content ++ put.map (·.content.saved))
    (hca : store.contentArtifacts = db.contentArtifacts ++ (batchLinks (put.map some)).map Prod.fst)
    (k : Nat) {l : List Item} (hl : ∀ x ∈ l, x = none) :
    ∃ db', saveBatch store ((ys.take k).map some ++ l) = .ok db' ∧
      db'.content = store.content ++ (ys.take k).map (·.content.saved) ∧
      db'.contentArtifacts = store.contentArtifacts ++ (batchLinks ((ys.take k).map some)).map Prod.fst ∧
      db'.remoteArtifacts =
        store.remoteArtifacts ++ (batchLinks ((ys.take k).map some)).map fun l => ⟨l.2, l.1⟩ := by
  have hmem : ∀ dc ∈ put ++ ys.take k, dc ∈ items := fun dc hdc => by
    rw [← hitems]
    rcases List.mem_append.mp hdc with h | h
    · exact List.mem_append_left _ (List.mem_append_left _ h)
    · exact List.mem_append_left _ (List.mem_append_right _ (List.mem_of_mem_take h))
  have hadd : ∀ dc ∈ ys.take k, dc.content.adding = true := fun dc hdc =>
    hf.unsaved dc (hmem dc (List.mem_append_right _ hdc))
  have hu : unsavedUnits ((ys.take k).map some ++ l) = ys.take k := by
    rw [unsavedUnits_append, unsavedUnits_map_some hadd, unsavedUnits_of_forall_none hl,
      List.append_nil]
  have hlinks : batchLinks ((ys.take k).map some ++ l) = batchLinks ((ys.take k).map some) := by
    simp only [batchLinks, hu, unsavedUnits_map_some hadd]
  -- the store's keys and the batch's are the keys of a sublist of the stream's
  have hnew : ((store.content ++ (unsavedUnits ((ys.take k).map some ++ l)).map (·.content)).map
      Content.unitKey).Nodup := by
    have hsub : List.Sublist (put ++ ys.take k) items := by
      rw [← hitems, List.append_assoc]
      exact ((List.take_sublist k ys).trans (List.sublist_append_left ys xs)).append_left put
    have := hf.newKeys.sublist (((hsub.map (·.content)).append_left db.content).map Content.unitKey)
    rw [hu, hc]
    simpa [Function.comp_def] using this
  have hstored : ∀ ca ∈ store.contentArtifacts, ca.content ∈ store.content := by
    intro ca hca'
    rw [hca, List.mem_append] at hca'
    rw [hc]
    rcases hca' with hold | hnew
    · exact List.mem_append_left _ (hf.linksStored ca hold)
    · obtain ⟨l, hl, rfl⟩ := List.mem_map.mp hnew
      obtain ⟨dc, hdc, da, -, rfl⟩ := mem_batchLinks hl
      have hdc' : dc ∈ put := by
        rwa [unsavedUnits_map_some fun d hd => hf.unsaved d (hmem d (List.mem_append_left _ hd))]
          at hdc
      exact List.mem_append_right _ (List.mem_map_of_mem (·.content.saved) hdc')
  have hpaths : ((unsavedUnits ((ys.take k).map some ++ l)).flatMap fun dc =>
      dc.dArtifacts.map (·.relativePath)).Nodup := by
    have hp := hf.paths
    rw [← hitems, ← List.take_append_drop k ys] at hp
    simp only [List.flatMap_append, List.nodup_append] at hp
    rw [hu]
    exact hp.1.2.1.1
  obtain ⟨db', h1, h2, h3, h4⟩ :=
    saveBatch_writes_links store ((ys.take k).map some ++ l) hnew hstored hpaths
  exact ⟨db', h1, by rw [h2, hu], by rw [h3, hlinks], by rw [h4, hlinks]⟩

end FreshStream

/-- The run alone on the store, fed `items`, with `w` work left: it is in some phase; `put`
are the units it has put out, as they were fed, and `ys` and `xs` the units queued for the
saver and for the resolver; the store holds exactly the writes for `put`. -/
def IngestInv (db : Db) (items : List DeclarativeContent) (s : System) (w : Nat) : Prop :=
  ∃ a b out put ys xs, s.runs = [⟨[a, b], out, false⟩] ∧
    a.kind = .queryExistingContentUnits ∧ b.kind = .contentUnitSaver ∧
    Queues a b out (put.map savedEntry) ys xs ∧ put ++ ys ++ xs = items ∧
    s.db.content = db.content ++ put.map (·.content.saved) ∧
    s.db.contentArtifacts = db.contentArtifacts ++ (batchLinks (put.map some)).map Prod.fst ∧
    s.db.remoteArtifacts =
      db.remoteArtifacts ++ (batchLinks (put.map some)).map (fun l => ⟨l.2, l.1⟩) ∧
    workLeft a b = w

section IngestInv

variable {db : Db} {items : List DeclarativeContent} {s s' : System} {w : Nat}

lemma ingestInv_start :
    IngestInv db items ⟨db, [Run.start pipeline (items.map some ++ [none])]⟩
      (2 * items.length + 4) :=
  ⟨_, _, [], [], [], items, rfl, rfl, rfl, by simp [Queues, Run.start], by simp, by simp,
    by simp [batchLinks], by simp [batchLinks], by simp [workLeft, Run.start]; omega⟩

/-- A step of the run keeps the invariant and lowers the work left: the resolver passes its
batch on unchanged, and the saver's transaction commits the next units of the stream. -/
lemma IngestInv.step (hf : FreshStream db items) (h : IngestInv db items s w) {e : Event}
    (hs : s.step e = some s') : ∃ w' < w, IngestInv db items s' w' := by
  obtain ⟨a, b, out, put, ys, xs, hruns, ha, hb, hq, hitems, hc, hca, hra, rfl⟩ := h
  obtain ⟨j, i, k⟩ := e
  cases j with
  | succ j => simp [System.step, hruns] at hs
  | zero =>
    simp only [System.step, hruns, List.getElem?_cons_zero] at hs
    obtain ⟨⟨db', ss', out', failed'⟩, hp, rfl⟩ := Option.map_eq_some'.mp hs
    have hqb : queryBatch s.db (a.inQ.take k) = .ok (a.inQ.take k) :=
      hf.queryBatch_eq hitems hc fun dc hdc => hq.resolver_mem (List.mem_of_mem_take hdc)
    obtain ⟨l, hl, hn⟩ := hq.saver_take k
    obtain ⟨db₁, hsave, hc₁, hca₁, hra₁⟩ := hf.saveBatch_eq hitems hc hca k hn
    rcases Run.step_pair rfl hp with
      ⟨-, -, -, ⟨-, e, he⟩ | ⟨-, e, he⟩⟩ | ⟨hr, a', o, hstep, hst, ho, hfl⟩ |
        ⟨hr, b', o, hstep, hst, ho, hfl⟩
    · -- the resolver does not raise
      simp [Stage.step, ha, StageKind.process, hqb] at he
    · -- nor does the saver
      rw [Stage.step, hb, StageKind.process, hl, hsave] at he
      cases he
    · obtain ⟨o₀, hp', rfl, rfl⟩ := Stage.step_eq_ok hstep
      rw [ha] at hp'
      obtain ⟨rfl, hqb'⟩ := process_queryExistingContentUnits hp'
      rw [hqb, Except.ok.injEq] at hqb'
      subst hqb'
      simp only at hst ho hfl
      subst hst ho hfl
      have hq' := hq.resolverStep id hr
      simp only [Option.map_id, List.map_id] at hq'
      refine ⟨_, workLeft_resolverStep hr (hq.saver_running hr.1), _, _, _, put,
        ys ++ xs.take k, xs.drop k, rfl, ha, hb, hq', ?_, hc, hca, hra, rfl⟩
      rw [← hitems, List.append_assoc, List.append_assoc, List.append_assoc, List.take_append_drop]
    · obtain ⟨o₀, hp', rfl, rfl⟩ := Stage.step_eq_ok hstep
      rw [hb] at hp'
      obtain ⟨hsave', rfl⟩ := process_contentUnitSaver hp'
      rw [hl, hsave, Except.ok.injEq] at hsave'
      subst hsave'
      simp only at hst ho hfl
      subst hst ho hfl
      have hq' := hq.saverStep hr
      rw [← List.map_append] at hq'
      refine ⟨_, workLeft_saverStep hr, _, _, _, put ++ ys.take k, ys.drop k, xs, rfl, ha, hb,
        hq', ?_, ?_, ?_, ?_, rfl⟩
      · rw [← hitems, List.append_assoc put, List.append_left_inj, List.take_append_drop]
      · rw [hc₁, hc, List.map_append, List.append_assoc]
      · rw [hca₁, hca, List.map_append, batchLinks_append, List.map_append, List.append_assoc]
      · rw [hra₁, hra, List.map_append, batchLinks_append, List.map_append, List.append_assoc]

lemma IngestInv.exec (hf : FreshStream db items) (h : IngestInv db items s w)
    {sched : List Event} (hs : s.exec sched = some s') :
    ∃ w', IngestInv db items s' w' ∧ sched.length + w' ≤ w := by
  induction sched generalizing s w with
  | nil => cases hs; exact ⟨w, h, by simp⟩
  | cons e es ih =>
    obtain ⟨s₁, h₁, hs⟩ := Option.bind_eq_some.mp hs
    obtain ⟨w₁, hw, h₁'⟩ := h.step hf h₁
    obtain ⟨w', h', hle⟩ := ih h₁' hs
    exact ⟨w', h', by simp only [List.length_cons]; omega⟩

/-- The run is never stuck: it has completed, or one of its stages can take a step. -/
lemma IngestInv.progress (h : IngestInv db items s w) :
    (∃ r, s.runs = [r] ∧ r.Complete) ∨ ∃ i k, (s.step ⟨0, i, k⟩).isSome := by
  obtain ⟨a, b, out, put, ys, xs, hruns, -, -, hq, -⟩ := h
  have step_of : ∀ i k, (stepStages s.db k i [a, b]).isSome → (s.step ⟨0, i, k⟩).isSome :=
    fun i k h => by
      simp only [System.step, hruns, List.getElem?_cons_zero, Option.map_eq_map, Option.isSome_map']
      exact Run.step_isSome ⟨[a, b], out, false⟩ rfl h
  cases hda : a.done <;> cases hdb : b.done <;> simp only [Queues, hda, hdb] at hq
  · exact .inr ⟨0, 1, step_of 0 1 (by simp [stepStages, Stage.Ready, hda, hq.1])⟩
  · exact .inr ⟨1, 1, step_of 1 1 (by simp [stepStages, Stage.Ready, hdb, hq.2.2.1])⟩
  · exact .inl ⟨_, hruns, rfl, by simp [hda, hdb]⟩

/-- Once the run has completed, every unit has gone through the saver. -/
lemma IngestInv.complete (h : IngestInv db items s w) {r : Run} (hr : s.runs = [r])
    (hc : r.Complete) :
    r.out = (items.map savedEntry).map some ++ [none] ∧
      s.db.content = db.content ++ items.map (·.content.saved) ∧
      s.db.contentArtifacts = db.contentArtifacts ++ (batchLinks (items.map some)).map Prod.fst ∧
      s.db.remoteArtifacts =
        db.remoteArtifacts ++ (batchLinks (items.map some)).map fun l => ⟨l.2, l.1⟩ := by
  obtain ⟨a, b, out, put, ys, xs, hruns, -, -, hq, hitems, hcon, hca, hra, -⟩ := h
  rw [hruns, List.cons.injEq] at hr
  obtain ⟨rfl, -⟩ := hr
  have hda : a.done = true := hc.2 a (by simp)
  have hdb : b.done = true := hc.2 b (by simp)
  simp only [Queues, hda, hdb] at hq
  obtain ⟨rfl, rfl, -, -, hout⟩ := hq
  rw [List.append_nil, List.append_nil] at hitems
  subst hitems
  exact ⟨hout, hcon, hca, hra⟩

end IngestInv

/-- A run of `pipeline` alone on the store, fed new units of one content type whose files have
distinct relative paths, and then the sentinel. Over every schedule, the run takes at most
`2 n + 4` steps for `n` units, no stage raises, and until it has completed one of its stages
can take a step. Once complete it has put out each unit saved, in order, and one sentinel; the
store holds each unit saved once, one link per declarative artifact of the stream and one
remote artifact per link, and nothing else new. -/
theorem pipeline_run_writes_each_unit_once (db : Db) (items : List DeclarativeContent)
    (hty : OneType items) (hadd : ∀ dc ∈ items, dc.content.adding = true)
    (hnew : ((db.content ++ items.map (·.content)).map Content.unitKey).Nodup)
    (hlinks : ∀ ca ∈ db.contentArtifacts, ca.content ∈ db.content)
    (hpaths : (items.flatMap fun dc => dc.dArtifacts.map (·.relativePath)).Nodup)
    (sched : List Event) (s : System)
    (h : System.exec ⟨db, [Run.start pipeline (items.map some ++ [none])]⟩ sched = some s) :
    sched.length ≤ 2 * items.length + 4 ∧
    ∃ r, s.runs = [r] ∧ r.failed = false ∧ (r.Complete ∨ ∃ i k, (s.step ⟨0, i, k⟩).isSome) ∧
      (r.Complete →
        r.out = (items.map savedEntry).map some ++ [none] ∧
        s.db.content = db.content ++ items.map (·.content.saved) ∧
        s.db.contentArtifacts = db.contentArtifacts ++ (batchLinks (items.map some)).map Prod.fst ∧
        s.db.remoteArtifacts =
          db.remoteArtifacts ++ (batchLinks (items.map some)).map fun l => ⟨l.2, l.1⟩) := by
  obtain ⟨w, hinv, hlen⟩ := ingestInv_start.exec ⟨hty, hadd, hnew, hlinks, hpaths⟩ h
  obtain ⟨a, b, out, -, -, -, hruns, -⟩ := id hinv
  refine ⟨by omega, _, hruns, rfl, ?_, hinv.complete hruns⟩
  rcases hinv.progress with ⟨r, hr, hc⟩ | hstep
  · rw [hruns, List.cons.injEq] at hr
    exact .inl (hr.1 ▸ hc)
  · exact .inr hstep

/-- Two new units with files at distinct paths. -/
def twoNewFiles : List DeclarativeContent := [fileUnitAt "p" "1", fileUnitAt "q" "2"]

/-- A run of `pipeline` fed the two units, alone on an empty store. -/
def oneRunOfTwoFiles : System :=
  ⟨⟨[], [], [], by decide, by decide⟩, [Run.start pipeline (twoNewFiles.map some ++ [none])]⟩

/-- The resolver drains one unit, then the saver it, then the resolver the rest and the saver
everything left: the run completes in four steps. -/
theorem pipeline_run_writes_each_unit_once_on_sample :
    ∃ s, oneRunOfTwoFiles.exec [⟨0, 0, 1⟩, ⟨0, 1, 1⟩, ⟨0, 0, 2⟩, ⟨0, 1, 3⟩] = some s ∧
      ([⟨0, 0, 1⟩, ⟨0, 1, 1⟩, ⟨0, 0, 2⟩, ⟨0, 1, 3⟩] : List Event).length ≤
        2 * twoNewFiles.length + 4 ∧
      ∃ r, s.runs = [r] ∧ r.failed = false ∧ (r.Complete ∨ ∃ i k, (s.step ⟨0, i, k⟩).isSome) ∧
        (r.Complete →
          r.out = (twoNewFiles.map savedEntry).map some ++ [none] ∧
          s.db.content = [] ++ twoNewFiles.map (·.content.saved) ∧
          s.db.contentArtifacts = [] ++ (batchLinks (twoNewFiles.map some)).map Prod.fst ∧
          s.db.remoteArtifacts = [] ++ (batchLinks (twoNewFiles.map some)).map fun l => ⟨l.2, l.1⟩) := by
  obtain ⟨s, hs⟩ := Option.isSome_iff_exists.mp
    (show (oneRunOfTwoFiles.exec [⟨0, 0, 1⟩, ⟨0, 1, 1⟩, ⟨0, 0, 2⟩, ⟨0, 1, 3⟩]).isSome by decide)
  exact ⟨s, hs, pipeline_run_writes_each_unit_once ⟨[], [], [], by decide, by decide⟩ twoNewFiles
    (by decide) (by decide) (by decide) (by decide) (by decide) _ s hs⟩

end Pulpcore
