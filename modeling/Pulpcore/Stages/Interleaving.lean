import Pulpcore.Stages.Pipeline

/-!
# Runs of the pipeline sharing one store

Runs of `query_existing_content_units` feeding `content_unit_saver` whose stage steps
interleave in any order against one store, each run fed a stream of units of one content
type and then the sentinel. Two runs racing on one unit do not store it twice, but they do
not both complete either: when both resolvers query before either saver commits, the later
saver transaction raises an `IntegrityError` and fails its run
(`concurrent_runs_second_transaction_fails`). What holds over every schedule is that the
store keeps one unit per natural key, and that a run which completes has put out each of its
units, in order, as the stored unit of that natural key, followed by one sentinel
(`pipelines_reference_stored_units`).

A run is followed through the phases of its sentinel (`Queues`): while the resolver runs,
after it has put the sentinel of its stream and one of its own, and after the saver has left
at the first of the two. In each phase the units queued before the sentinel are named: `zs`
put out, `ys` queued for the saver, `xs` queued for the resolver. What the store must hold
of them is `Tracked`.
-/

namespace Pulpcore

/-! ### Steps of a two-stage run -/

lemma Stage.step_eq_ok {s s' : Stage} {db db' : Db} {k : Nat} {o : List Item}
    (h : s.step db k = .ok (db', s', o)) :
    ∃ o₀, s.kind.process db (s.inQ.take k) = .ok (db', o₀) ∧
      s' = { s with inQ := s.inQ.drop k, done := decide (none ∈ s.inQ.take k) } ∧
      o = if none ∈ s.inQ.take k then o₀ ++ [none] else o₀ := by
  unfold Stage.step at h
  cases hp : s.kind.process db (s.inQ.take k) with
  | error e => simp [hp] at h
  | ok r =>
    simp only [hp, except_map_ok, Except.ok.injEq, Prod.mk.injEq] at h
    obtain ⟨rfl, rfl, rfl⟩ := h
    exact ⟨r.2, rfl, rfl, by simp⟩

lemma process_queryExistingContentUnits {db db' : Db} {b o : List Item}
    (h : StageKind.queryExistingContentUnits.process db b = .ok (db', o)) :
    db' = db ∧ queryBatch db b = .ok o := by
  simp only [StageKind.process] at h
  cases hq : queryBatch db b <;> simp_all

lemma process_contentUnitSaver {db db' : Db} {b o : List Item}
    (h : StageKind.contentUnitSaver.process db b = .ok (db', o)) :
    saveBatch db b = .ok db' ∧ o = (savedEntries b).map some := by
  simp only [StageKind.process] at h
  cases hs : saveBatch db b <;> simp_all

/-- No stage step removes a stored unit. -/
lemma StageKind.process_prefix {κ : StageKind} {db db' : Db} {b o : List Item}
    (h : κ.process db b = .ok (db', o)) : db.content <+: db'.content := by
  cases κ with
  | queryExistingContentUnits => exact (process_queryExistingContentUnits h).1 ▸ List.prefix_refl _
  | contentUnitSaver => exact (saveBatch_saved_mem (process_contentUnitSaver h).1).1

/-- A step of the first stage of a chain: it delivers what it puts to the next stage. -/
lemma stepStages_zero_ok {db db' : Db} {k : Nat} {s : Stage} {ss ss' : List Stage} {o : List Item}
    (h : stepStages db k 0 (s :: ss) = some (.ok (db', ss', o))) :
    s.Ready k ∧ ∃ s' o₁, s.step db k = .ok (db', s', o₁) ∧
      ss' = s' :: (deliver o₁ ss).1 ∧ o = (deliver o₁ ss).2 := by
  simp only [stepStages] at h
  split_ifs at h with hr
  refine ⟨hr, ?_⟩
  cases hs : s.step db k with
  | error e => simp [hs] at h
  | ok p =>
    simp only [hs, except_map_ok, Option.some.injEq, Except.ok.injEq, Prod.mk.injEq] at h
    obtain ⟨rfl, rfl, rfl⟩ := h
    exact ⟨p.2.1, p.2.2, rfl, rfl, rfl⟩

/-- A step of a later stage leaves the first one as it is. -/
lemma stepStages_succ_ok {db db' : Db} {k i : Nat} {s : Stage} {ss ss' : List Stage} {o : List Item}
    (h : stepStages db k (i + 1) (s :: ss) = some (.ok (db', ss', o))) :
    ∃ ss'', stepStages db k i ss = some (.ok (db', ss'', o)) ∧ ss' = s :: ss'' := by
  simp only [stepStages] at h
  cases hr : stepStages db k i ss with
  | none => simp [hr] at h
  | some x =>
    cases x with
    | error e => simp [hr] at h
    | ok r =>
      obtain ⟨db₁, ss₁, o₁⟩ := r
      simp only [hr, Option.map_eq_map, Option.map_some', except_map_ok, Option.some.injEq,
        Except.ok.injEq, Prod.mk.injEq] at h
      obtain ⟨rfl, rfl, rfl⟩ := h
      exact ⟨ss₁, rfl, rfl⟩

lemma stepStages_zero_error {db : Db} {k : Nat} {s : Stage} {ss : List Stage} {e : Error}
    (h : stepStages db k 0 (s :: ss) = some (.error e)) : s.Ready k ∧ s.step db k = .error e := by
  simp only [stepStages] at h
  split_ifs at h with hr
  refine ⟨hr, ?_⟩
  cases hs : s.step db k with
  | error e' =>
    simp only [hs, except_map_error, Option.some.injEq, Except.error.injEq] at h
    rw [h]
  | ok p => simp [hs] at h

lemma stepStages_succ_error {db : Db} {k i : Nat} {s : Stage} {ss : List Stage} {e : Error}
    (h : stepStages db k (i + 1) (s :: ss) = some (.error e)) :
    stepStages db k i ss = some (.error e) := by
  simp only [stepStages] at h
  cases hr : stepStages db k i ss with
  | none => simp [hr] at h
  | some x =>
    cases x with
    | error e' =>
      simp only [hr, Option.map_eq_map, Option.map_some', except_map_error, Option.some.injEq,
        Except.error.injEq] at h
      rw [h]
    | ok r => simp [hr] at h

lemma stepStages_prefix {db db' : Db} {k : Nat} {o : List Item} {ss ss' : List Stage} {i : Nat}
    (h : stepStages db k i ss = some (.ok (db', ss', o))) : db.content <+: db'.content := by
  induction ss generalizing i ss' o with
  | nil => simp [stepStages] at h
  | cons s ss ih =>
    cases i with
    | zero =>
      obtain ⟨-, s', o₁, hs, -⟩ := stepStages_zero_ok h
      obtain ⟨o₀, hp, -⟩ := Stage.step_eq_ok hs
      exact StageKind.process_prefix hp
    | succ i =>
      obtain ⟨ss'', h', -⟩ := stepStages_succ_ok h
      exact ih h'

/-- Everything a step of a run can do: a stage that raises fails the run and leaves the store
and the queues; otherwise the chain steps and its output goes out of the run. -/
lemma Run.step_cases {r r' : Run} {db db' : Db} {i k : Nat} (h : r.step db i k = some (db', r')) :
    r.failed = false ∧
      ((∃ e, stepStages db k i r.stages = some (.error e) ∧ db' = db ∧
          r' = { r with failed := true }) ∨
        ∃ ss o, stepStages db k i r.stages = some (.ok (db', ss, o)) ∧
          r' = { r with stages := ss, out := r.out ++ o }) := by
  unfold Run.step at h
  split at h
  · cases h
  rename_i hf
  refine ⟨Bool.eq_false_iff.mpr hf, ?_⟩
  split at h
  · cases h
  · cases h; exact .inl ⟨_, ‹_›, rfl, rfl⟩
  · cases h; exact .inr ⟨_, _, ‹_›, rfl⟩

lemma Run.step_prefix {r r' : Run} {db db' : Db} {i k : Nat} (h : r.step db i k = some (db', r')) :
    db.content <+: db'.content := by
  obtain ⟨-, ⟨e, -, rfl, -⟩ | ⟨ss, o, hs, -⟩⟩ := Run.step_cases h
  · exact List.prefix_refl _
  · exact stepStages_prefix hs

/-- A stage of the run can take a step when it is ready and the run has not failed. -/
lemma Run.step_isSome (r : Run) {db : Db} {i k : Nat} (hf : r.failed = false)
    (hs : (stepStages db k i r.stages).isSome) : (r.step db i k).isSome := by
  obtain ⟨x, hx⟩ := Option.isSome_iff_exists.mp hs
  unfold Run.step
  rw [hx]
  cases x <;> simp [hf]

/-- A step of a run of two stages: a stage that raises fails the run and leaves its queues,
a step of the resolver delivers to the saver, and a step of the saver puts out. -/
lemma Run.step_pair {r r' : Run} {a b : Stage} {db db' : Db} {i k : Nat}
    (hs : r.stages = [a, b]) (h : r.step db i k = some (db', r')) :
    (db' = db ∧ r'.stages = r.stages ∧ r'.out = r.out ∧
      ((a.Ready k ∧ ∃ e, a.step db k = .error e) ∨ (b.Ready k ∧ ∃ e, b.step db k = .error e))) ∨
    (a.Ready k ∧ ∃ a' o, a.step db k = .ok (db', a', o) ∧
      r'.stages = [a', { b with inQ := b.inQ ++ o }] ∧ r'.out = r.out ∧ r'.failed = false) ∨
    (b.Ready k ∧ ∃ b' o, b.step db k = .ok (db', b', o) ∧
      r'.stages = [a, b'] ∧ r'.out = r.out ++ o ∧ r'.failed = false) := by
  obtain ⟨hf, ⟨e, hs', rfl, rfl⟩ | ⟨ss, o, hs', rfl⟩⟩ := Run.step_cases h <;> rw [hs] at hs'
  · -- a stage raised
    refine .inl ⟨rfl, rfl, rfl, ?_⟩
    rcases i with _ | _ | i
    · obtain ⟨hr, he⟩ := stepStages_zero_error hs'
      exact .inl ⟨hr, e, he⟩
    · obtain ⟨hr, he⟩ := stepStages_zero_error (stepStages_succ_error hs')
      exact .inr ⟨hr, e, he⟩
    · simp [stepStages] at hs'
  · rcases i with _ | _ | i
    · -- the resolver delivers to the saver
      obtain ⟨hr, a', o₁, hstep, rfl, rfl⟩ := stepStages_zero_ok hs'
      exact .inr (.inl ⟨hr, a', o₁, hstep, rfl, List.append_nil _, hf⟩)
    · -- the saver puts out
      obtain ⟨ss'', h', rfl⟩ := stepStages_succ_ok hs'
      obtain ⟨hr, b', o₁, hstep, rfl, rfl⟩ := stepStages_zero_ok h'
      exact .inr (.inr ⟨hr, b', _, hstep, rfl, rfl, hf⟩)
    · obtain ⟨_, h', -⟩ := stepStages_succ_ok hs'
      obtain ⟨_, h'', -⟩ := stepStages_succ_ok h'
      simp [stepStages] at h''

/-! ### The phases of the sentinel -/

/-- The queues of a run of `pipeline` (resolver `a`, saver `b`, output `out`) in each phase,
with `zs`, `ys` and `xs` the units queued before the sentinel. -/
def Queues (a b : Stage) (out : List Item) (zs ys xs : List DeclarativeContent) : Prop :=
  match a.done, b.done with
  | false, false => a.inQ = xs.map some ++ [none] ∧ b.inQ = ys.map some ∧ out = zs.map some
  | true, false =>
    xs = [] ∧ a.inQ = [] ∧ b.inQ = ys.map some ++ [none, none] ∧ out = zs.map some
  | true, true =>
    xs = [] ∧ ys = [] ∧ a.inQ = [] ∧ (b.inQ = [none] ∨ b.inQ = []) ∧ out = zs.map some ++ [none]
  | false, true => False

private lemma take_map_some_append {α : Type} (xs : List α) (l : List (Option α)) (k : Nat) :
    (xs.map some ++ l).take k = (xs.take k).map some ++ l.take (k - xs.length) := by
  rw [List.take_append_eq_append_take, List.map_take, List.length_map]

private lemma drop_map_some_append {α : Type} (xs : List α) (l : List (Option α)) (k : Nat) :
    (xs.map some ++ l).drop k = (xs.drop k).map some ++ l.drop (k - xs.length) := by
  rw [List.drop_append_eq_append_drop, List.map_drop, List.length_map]

lemma Queues.resolver_mem {a b : Stage} {out : List Item} {zs ys xs : List DeclarativeContent}
    (hq : Queues a b out zs ys xs) {dc : DeclarativeContent} (h : some dc ∈ a.inQ) : dc ∈ xs := by
  unfold Queues at hq
  split at hq <;> simp_all

/-- The resolver drains `k` items and delivers them, each unit passed through `g`, to the
saver; the sentinel goes on when the drain reached it. -/
lemma Queues.resolverStep {a b : Stage} {out : List Item} {zs ys xs : List DeclarativeContent}
    {k : Nat} (g : DeclarativeContent → DeclarativeContent) (hq : Queues a b out zs ys xs)
    (hr : a.Ready k) :
    Queues { a with inQ := a.inQ.drop k, done := decide (none ∈ a.inQ.take k) }
      { b with inQ := b.inQ ++
          if none ∈ a.inQ.take k then (a.inQ.take k).map (Option.map g) ++ [none]
          else (a.inQ.take k).map (Option.map g) }
      out zs (ys ++ (xs.take k).map g) (xs.drop k) := by
  obtain ⟨hd, hk, hkl⟩ := hr
  cases hbd : b.done
  · simp only [Queues, hd, hbd] at hq
    obtain ⟨ha, hb, ho⟩ := hq
    rw [ha] at hkl ⊢
    rw [List.length_append, List.length_map, List.length_singleton] at hkl
    rcases Nat.lt_or_ge xs.length k with hlt | hle
    · have hk' : k - xs.length = 1 := by omega
      simp [Queues, hbd, take_map_some_append, drop_map_some_append, hk', hb, ho,
        List.take_of_length_le hlt.le, List.drop_of_length_le hlt.le, Function.comp_def]
    · have hk' : k - xs.length = 0 := by omega
      have hn : none ∉ (xs.map some).take k := fun h => by simpa using List.mem_of_mem_take h
      simp [Queues, hbd, take_map_some_append, drop_map_some_append, hk', hb, ho, hn,
        Function.comp_def]
  · simp [Queues, hd, hbd] at hq

/-- The saver drains `k` items and puts out the units of the batch; it leaves after a batch
that held a sentinel, putting one of its own. -/
lemma Queues.saverStep {a b : Stage} {out : List Item} {zs ys xs : List DeclarativeContent}
    {k : Nat} (hq : Queues a b out zs ys xs) (hr : b.Ready k) :
    Queues a { b with inQ := b.inQ.drop k, done := decide (none ∈ b.inQ.take k) }
      (out ++ if none ∈ b.inQ.take k then (savedEntries (b.inQ.take k)).map some ++ [none]
        else (savedEntries (b.inQ.take k)).map some)
      (zs ++ (ys.take k).map savedEntry) (ys.drop k) xs := by
  obtain ⟨hd, hk, hkl⟩ := hr
  have hn : none ∉ (ys.take k).map some := by simp [-List.map_take]
  cases had : a.done
  · simp only [Queues, had, hd] at hq
    obtain ⟨ha, hb, ho⟩ := hq
    rw [hb, List.length_map] at hkl
    rw [hb, ← List.append_nil (ys.map some), take_map_some_append, drop_map_some_append]
    simp [Queues, had, ha, ho, -List.map_take, -List.map_drop, hn]
  · simp only [Queues, had, hd] at hq
    obtain ⟨rfl, ha, hb, ho⟩ := hq
    rw [hb, List.length_append, List.length_map] at hkl
    rw [hb, take_map_some_append, drop_map_some_append]
    obtain hle | rfl | rfl : k ≤ ys.length ∨ k = ys.length + 1 ∨ k = ys.length + 2 := by
      simp at hkl; omega
    · simp [Queues, had, ha, ho, -List.map_take, -List.map_drop, hn, Nat.sub_eq_zero_of_le hle]
    all_goals simp [Queues, had, ha, ho, -List.map_take, -List.map_drop]

/-- The saver's queue holds the units of `ys` and then only sentinels. -/
lemma Queues.saver_inQ {a b : Stage} {out : List Item} {zs ys xs : List DeclarativeContent}
    (hq : Queues a b out zs ys xs) : ∃ l, b.inQ = ys.map some ++ l ∧ ∀ x ∈ l, x = none := by
  unfold Queues at hq
  split at hq
  · exact ⟨[], by simp [hq.2.1], by simp⟩
  · exact ⟨[none, none], hq.2.2.1, by simp⟩
  · obtain ⟨-, rfl, -, hb | hb, -⟩ := hq
    · exact ⟨[none], by simp [hb], by simp⟩
    · exact ⟨[], by simp [hb], by simp⟩
  · exact hq.elim

lemma Queues.saver_take {a b : Stage} {out : List Item} {zs ys xs : List DeclarativeContent}
    (hq : Queues a b out zs ys xs) (k : Nat) :
    ∃ l, b.inQ.take k = (ys.take k).map some ++ l ∧ ∀ x ∈ l, x = none := by
  obtain ⟨l, hl, hn⟩ := hq.saver_inQ
  exact ⟨l.take (k - ys.length), by rw [hl, take_map_some_append],
    fun x hx => hn x (List.mem_of_mem_take hx)⟩

lemma Queues.saver_mem_take {a b : Stage} {out : List Item} {zs ys xs : List DeclarativeContent}
    (hq : Queues a b out zs ys xs) (k : Nat) : ∀ dc ∈ ys.take k, some dc ∈ b.inQ.take k := by
  obtain ⟨l, hl, -⟩ := hq.saver_take k
  intro dc hdc
  rw [hl]
  exact List.mem_append_left _ (List.mem_map_of_mem some hdc)

/-! ### What the store holds of a run's units -/

/-- What the store holds of the units of a run fed `items`, queued before its sentinel: they
have the natural keys of `items`, in order; those the resolver has not reached are units of
`items`; every saved one is stored; and those put out are saved. -/
structure Tracked (db : Db) (items zs ys xs : List DeclarativeContent) : Prop where
  keys : (zs ++ ys ++ xs).map (·.content.unitKey) = items.map (·.content.unitKey)
  unresolved : ∀ dc ∈ xs, dc ∈ items
  settled : ∀ dc ∈ zs ++ ys ++ xs, dc.content.adding = false → dc.content ∈ db.content
  saved : ∀ dc ∈ zs, dc.content.adding = false

section Tracked

variable {db db' : Db} {items zs ys xs : List DeclarativeContent}

lemma Tracked.mono (h : Tracked db items zs ys xs) (hdb : db.content <+: db'.content) :
    Tracked db' items zs ys xs :=
  { h with settled := fun dc hdc had => hdb.subset (h.settled dc hdc had) }

/-- The resolver's step: the units it drains now hold the stored unit of their natural key,
if there is one. -/
lemma Tracked.resolve (h : Tracked db items zs ys xs) (k : Nat) :
    Tracked db items zs (ys ++ (xs.take k).map fun dc => { dc with content := resolve db dc.content })
      (xs.drop k) where
  keys := by rw [← h.keys]; simp [Function.comp_def]
  unresolved dc hdc := h.unresolved dc (List.mem_of_mem_drop hdc)
  settled dc hdc had := by
    simp only [List.mem_append, List.mem_map] at hdc
    rcases hdc with (hz | hy | ⟨dc₀, hdc₀, rfl⟩) | hx
    · exact h.settled dc (by simp [hz]) had
    · exact h.settled dc (by simp [hy]) had
    · rcases resolve_mem_or_eq db dc₀.content with hm | he
      · exact hm
      · simp only [he] at had ⊢
        exact h.settled dc₀ (by simp [List.mem_of_mem_take hdc₀]) had
    · exact h.settled dc (by simp [List.mem_of_mem_drop hx]) had
  saved := h.saved

/-- The saver's committed step: the units it drains are put out saved, and stored. -/
lemma Tracked.save (h : Tracked db items zs ys xs) {b : List Item} (hdb : saveBatch db b = .ok db')
    {k : Nat} (hb : ∀ dc ∈ ys.take k, some dc ∈ b) :
    Tracked db' items (zs ++ (ys.take k).map savedEntry) (ys.drop k) xs where
  keys := by
    rw [← h.keys]
    simp only [List.map_append, List.map_map, Function.comp_def, savedEntry_unitKey, List.append_assoc]
    rw [← List.append_assoc (List.map _ (List.take k ys)), ← List.map_append, List.take_append_drop]
  unresolved := h.unresolved
  settled dc hdc had := by
    obtain ⟨hpre, hsaved⟩ := saveBatch_saved_mem hdb
    simp only [List.mem_append, List.mem_map] at hdc
    rcases hdc with ((hz | ⟨dc₀, hdc₀, rfl⟩) | hy) | hx
    · exact hpre.subset (h.settled dc (by simp [hz]) had)
    · unfold savedEntry
      split
      · exact hsaved dc₀ (hb dc₀ hdc₀) ‹_›
      · exact hpre.subset (h.settled dc₀ (by simp [List.mem_of_mem_take hdc₀]) (Bool.eq_false_iff.mpr ‹_›))
    · exact hpre.subset (h.settled dc (by simp [List.mem_of_mem_drop hy]) had)
    · exact hpre.subset (h.settled dc (by simp [hx]) had)
  saved dc hdc := by
    rcases List.mem_append.mp hdc with hz | hn
    · exact h.saved dc hz
    · obtain ⟨dc₀, -, rfl⟩ := List.mem_map.mp hn
      exact savedEntry_adding dc₀

end Tracked

/-! ### Runs and schedules -/

/-- Every unit of a stream has one content type. -/
def OneType (items : List DeclarativeContent) : Prop :=
  ∀ dc ∈ items, ∀ dc' ∈ items, dc.content.type = dc'.content.type

instance (items : List DeclarativeContent) : Decidable (OneType items) :=
  inferInstanceAs (Decidable (∀ dc ∈ items, _))

lemma ofType_of_oneType {items : List DeclarativeContent} {b : List Item} (hty : OneType items)
    (hb : ∀ dc, some dc ∈ b → dc ∈ items) : ∃ t, OfType t b := by
  cases items with
  | nil => exact ⟨⟨"", []⟩, fun dc hdc => absurd (hb dc hdc) (List.not_mem_nil _)⟩
  | cons o _ => exact ⟨o.content.type, fun dc hdc => hty dc (hb dc hdc) o (List.mem_cons_self _ _)⟩

/-- A run of `pipeline` fed `items` and the sentinel, in some phase, with what the store
holds of its units. -/
def RunInv (db : Db) (items : List DeclarativeContent) (r : Run) : Prop :=
  ∃ a b, r.stages = [a, b] ∧ a.kind = .queryExistingContentUnits ∧ b.kind = .contentUnitSaver ∧
    ∃ zs ys xs, Queues a b r.out zs ys xs ∧ Tracked db items zs ys xs

section RunInv

variable {db db' : Db} {items : List DeclarativeContent} {r r' : Run}

lemma runInv_start (hset : ∀ dc ∈ items, dc.content.adding = false → dc.content ∈ db.content) :
    RunInv db items (Run.start pipeline (items.map some ++ [none])) :=
  ⟨_, _, rfl, rfl, rfl, [], [], items, by simp [Queues, Run.start],
    ⟨by simp, fun _ h => h, by simpa using hset, by simp⟩⟩

lemma RunInv.mono (h : RunInv db items r) (hdb : db.content <+: db'.content) : RunInv db' items r :=
  let ⟨a, b, hs, ha, hb, zs, ys, xs, hq, ht⟩ := h
  ⟨a, b, hs, ha, hb, zs, ys, xs, hq, ht.mono hdb⟩

/-- A step of the run itself keeps its invariant. -/
lemma RunInv.step (hty : OneType items) (h : RunInv db items r) {i k : Nat}
    (hs : r.step db i k = some (db', r')) : RunInv db' items r' := by
  obtain ⟨a, b, hst, ha, hb, zs, ys, xs, hq, ht⟩ := h
  rcases Run.step_pair hst hs with
    ⟨rfl, hst', ho, -⟩ | ⟨hr, a', o, hstep, hst', ho, -⟩ | ⟨hr, b', o, hstep, hst', ho, -⟩
  · exact ⟨a, b, hst'.trans hst, ha, hb, zs, ys, xs, ho ▸ hq, ht⟩
  · obtain ⟨o₀, hp, rfl, rfl⟩ := Stage.step_eq_ok hstep
    rw [ha] at hp
    obtain ⟨rfl, hqb⟩ := process_queryExistingContentUnits hp
    obtain ⟨t, hot⟩ := ofType_of_oneType hty fun dc hdc =>
      ht.unresolved dc (hq.resolver_mem (List.mem_of_mem_take hdc))
    rw [queryBatch_of_sameType _ hot, Except.ok.injEq] at hqb
    subst hqb
    exact ⟨_, _, hst', ha, hb, zs, _, _, ho ▸ hq.resolverStep _ hr, ht.resolve k⟩
  · obtain ⟨o₀, hp, rfl, rfl⟩ := Stage.step_eq_ok hstep
    rw [hb] at hp
    obtain ⟨hsave, rfl⟩ := process_contentUnitSaver hp
    exact ⟨_, _, hst', ha, hb, _, _, _, ho ▸ hq.saverStep hr, ht.save hsave (hq.saver_mem_take k)⟩

end RunInv

/-- Every run of the system is a run of `pipeline` fed the stream of the same index. -/
def SysInv (inputs : List (List DeclarativeContent)) (s : System) : Prop :=
  ∀ (j : Nat) (r : Run) (items : List DeclarativeContent),
    s.runs[j]? = some r → inputs[j]? = some items → RunInv s.db items r

section Schedules

variable {inputs : List (List DeclarativeContent)}

lemma sysInv_start {db : Db}
    (hset : ∀ items ∈ inputs, ∀ dc ∈ items, dc.content.adding = false → dc.content ∈ db.content) :
    SysInv inputs ⟨db, inputs.map fun items => Run.start pipeline (items.map some ++ [none])⟩ := by
  intro j r items hj hi
  rw [List.getElem?_map, hi, Option.map_some', Option.some.injEq] at hj
  subst hj
  exact runInv_start (hset items (List.mem_iff_getElem?.mpr ⟨j, hi⟩))

/-- An event is a step of the run it names, whose new state replaces the old. -/
lemma System.step_cases {s s' : System} {e : Event} (h : s.step e = some s') :
    ∃ r r', s.runs[e.run]? = some r ∧ r.step s.db e.stage e.size = some (s'.db, r') ∧
      s'.runs = s.runs.set e.run r' := by
  unfold System.step at h
  cases hr : s.runs[e.run]? with
  | none => simp [hr] at h
  | some r =>
    simp only [hr] at h
    obtain ⟨p, hp, rfl⟩ := Option.map_eq_some'.mp h
    exact ⟨r, p.2, rfl, hp, rfl⟩

/-- A step of one run keeps its own invariant, and the others' since the store only grows. -/
lemma sysInv_step (hty : ∀ items ∈ inputs, OneType items) {s s' : System} {e : Event}
    (h : SysInv inputs s) (hs : s.step e = some s') : SysInv inputs s' := by
  obtain ⟨r, r₁, hr, hp, hruns⟩ := System.step_cases hs
  intro j r' items hj hi
  rw [hruns] at hj
  by_cases hje : e.run = j
  · subst hje
    rw [List.getElem?_set_self (List.getElem?_eq_some_iff.mp hr).1, Option.some.injEq] at hj
    subst hj
    exact (h _ r items hr hi).step (hty items (List.mem_iff_getElem?.mpr ⟨_, hi⟩)) hp
  · rw [List.getElem?_set_ne hje] at hj
    exact (h j r' items hj hi).mono (Run.step_prefix hp)

lemma sysInv_exec (hty : ∀ items ∈ inputs, OneType items) {s s' : System} {sched : List Event}
    (h : SysInv inputs s) (hs : s.exec sched = some s') : SysInv inputs s' := by
  induction sched generalizing s with
  | nil => cases hs; exact h
  | cons e es ih =>
    obtain ⟨s₁, h₁, hs⟩ := Option.bind_eq_some.mp hs
    exact ih (sysInv_step hty h h₁) hs

end Schedules

lemma Db.find?_unitKey_of_mem {db : Db} {c : Content} (h : c ∈ db.content) :
    db.content.find? (fun r => r.unitKey = c.unitKey) = some c := by
  have hc : (db.content.find? fun r => r.unitKey = c.unitKey).isSome :=
    List.find?_isSome.mpr ⟨c, h, by simp⟩
  obtain ⟨r, hr⟩ := Option.isSome_iff_exists.mp hc
  have hk : r.unitKey = c.unitKey := by have h' := List.find?_some hr; simpa using h'
  rw [hr, List.inj_on_of_nodup_map db.content_unique (List.mem_of_find?_eq_some hr) h hk]

/-- Over every schedule of runs of `pipeline` sharing one store, each fed units of one content
type, each unsaved or stored, and then the sentinel: the store keeps one unit per natural key,
and every run that completes has put out its units in order, each holding the stored unit of
its natural key, and then one sentinel. -/
theorem pipelines_reference_stored_units (db : Db) (inputs : List (List DeclarativeContent))
    (hty : ∀ items ∈ inputs, OneType items)
    (hset : ∀ items ∈ inputs, ∀ dc ∈ items, dc.content.adding = false → dc.content ∈ db.content)
    (sched : List Event) (s : System)
    (h : System.exec ⟨db, inputs.map fun items => Run.start pipeline (items.map some ++ [none])⟩
      sched = some s) :
    (∀ c ∈ s.db.content, ∀ c' ∈ s.db.content, c.unitKey = c'.unitKey → c = c') ∧
    ∀ (j : Nat) (r : Run) (items : List DeclarativeContent),
      s.runs[j]? = some r → inputs[j]? = some items → r.Complete →
      ∃ outs : List DeclarativeContent, r.out = outs.map some ++ [none] ∧
        outs.map (·.content.unitKey) = items.map (·.content.unitKey) ∧
        ∀ dc ∈ outs, s.db.content.find? (·.unitKey = dc.content.unitKey) = some dc.content := by
  refine ⟨fun c hc c' hc' hk => List.inj_on_of_nodup_map s.db.content_unique hc hc' hk, ?_⟩
  intro j r items hj hi hc
  obtain ⟨a, b, hst, -, -, zs, ys, xs, hq, ht⟩ := sysInv_exec hty (sysInv_start hset) h j r items hj hi
  have ha : a.done = true := hc.2 a (by simp [hst])
  have hb : b.done = true := hc.2 b (by simp [hst])
  simp only [Queues, ha, hb] at hq
  obtain ⟨rfl, rfl, -, -, hout⟩ := hq
  refine ⟨zs, hout, by simpa using ht.keys, fun dc hdc => Db.find?_unitKey_of_mem ?_⟩
  exact ht.settled dc (by simp [hdc]) (ht.saved dc hdc)

/-- The same unit fed to two runs of `pipeline` on an empty store. -/
def twoRunsOfOneUnit : System :=
  ⟨⟨[], [], [], by decide, by decide⟩,
    [[fileAt "1"], [fileAt "1"]].map fun items => Run.start pipeline (items.map some ++ [none])⟩

/-- The two runs one after the other: both complete, and both put out the one stored unit. -/
theorem pipelines_reference_stored_units_on_sample :
    ∃ s, twoRunsOfOneUnit.exec [⟨0, 0, 2⟩, ⟨0, 1, 3⟩, ⟨1, 0, 2⟩, ⟨1, 1, 3⟩] = some s ∧
      (∀ r ∈ s.runs, r.Complete) ∧
      (∀ c ∈ s.db.content, ∀ c' ∈ s.db.content, c.unitKey = c'.unitKey → c = c') ∧
      ∀ (j : Nat) (r : Run) (items : List DeclarativeContent),
        s.runs[j]? = some r → [[fileAt "1"], [fileAt "1"]][j]? = some items →
        ∃ outs : List DeclarativeContent, r.out = outs.map some ++ [none] ∧
          outs.map (·.content.unitKey) = items.map (·.content.unitKey) ∧
          ∀ dc ∈ outs, s.db.content.find? (·.unitKey = dc.content.unitKey) = some dc.content := by
  obtain ⟨s, hs⟩ := Option.isSome_iff_exists.mp
    (show (twoRunsOfOneUnit.exec [⟨0, 0, 2⟩, ⟨0, 1, 3⟩, ⟨1, 0, 2⟩, ⟨1, 1, 3⟩]).isSome by decide)
  have hc : ∀ r ∈ s.runs, r.Complete := by
    have h := show (twoRunsOfOneUnit.exec [⟨0, 0, 2⟩, ⟨0, 1, 3⟩, ⟨1, 0, 2⟩, ⟨1, 1, 3⟩]).all
      (fun s => decide (∀ r ∈ s.runs, r.Complete)) = true by decide
    simpa [hs] using h
  obtain ⟨huniq, hruns⟩ := pipelines_reference_stored_units ⟨[], [], [], by decide, by decide⟩
    [[fileAt "1"], [fileAt "1"]] (by decide) (by decide) _ s hs
  exact ⟨s, hs, hc, huniq, fun j r items hj hi => hruns j r items hj hi (hc r (List.getElem?_mem hj))⟩

end Pulpcore
