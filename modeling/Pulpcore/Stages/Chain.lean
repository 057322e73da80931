import Pulpcore.Stages.Interleaving

/-!
# Chains of stages

The stages of `content_unit_stages` are links of a chain: each drains its `in_q`, forwards
what it processed to its `out_q`, and leaves its loop after a batch that held the sentinel.
Here a run is any chain of `query_existing_content_units` and `content_unit_saver` stages,
fed items and one sentinel, sharing the store with any other runs, under every schedule.

What a stage forwards is what it drained, each entry's `content` aside: the resolver
reassigns it and the saver saves it. `skeleton` erases it. Over every schedule
(`chain_run_forwards_each_item_once`) the chain's output is, contents aside, the first items
of the stream in order and then sentinels, never a sentinel before the last item. The run can
take a step until it completes or a stage raises, takes a bounded number of steps, and takes
none once complete. Once complete its output is every item once, in order, and then exactly
one sentinel when the last stage is the saver, but at least two when it is the resolver,
which forwards the sentinel of its batch and then puts its own.
-/

namespace Pulpcore

/-! ### Streams with their content erased -/

/-- What a queue holds besides the entries' content: each entry's declarative artifacts, and
the sentinels. -/
def skeleton (l : List Item) : List (Option (List DeclarativeArtifact)) :=
  l.map (Option.map (·.dArtifacts))

@[simp] lemma skeleton_nil : skeleton [] = [] := rfl

@[simp] lemma skeleton_cons (x : Item) (l : List Item) :
    skeleton (x :: l) = x.map (·.dArtifacts) :: skeleton l := rfl

@[simp] lemma skeleton_append (l l' : List Item) :
    skeleton (l ++ l') = skeleton l ++ skeleton l' :=
  List.map_append _ _ _

@[simp] lemma length_skeleton (l : List Item) : (skeleton l).length = l.length :=
  List.length_map _ _

@[simp] lemma none_mem_skeleton {l : List Item} : none ∈ skeleton l ↔ none ∈ l := by
  simp [skeleton]

lemma skeleton_map_some (l : List DeclarativeContent) :
    skeleton (l.map some) = (l.map (·.dArtifacts)).map some := by
  simp [skeleton, Function.comp_def]

lemma skeleton_filter_isSome (l : List Item) :
    skeleton (l.filter Option.isSome) = (skeleton l).filter Option.isSome := by
  induction l with
  | nil => rfl
  | cons x l ih => cases x <;> simp [List.filter_cons, ih]

/-- A stream of the entries `U` in order: the first `p` of them and then `j` sentinels, the
sentinels coming only after all of `U`. -/
def StreamOf {α : Type} (U : List α) (l : List (Option α)) : Prop :=
  ∃ p j, l = (U.take p).map some ++ List.replicate j none ∧ (j = 0 ∨ U.length ≤ p)

section StreamOf

variable {α : Type} {U : List α} {l l' : List (Option α)}

lemma streamOf_closed (U : List α) (j : Nat) : StreamOf U (U.map some ++ List.replicate j none) :=
  ⟨U.length, j, by rw [List.take_length], .inr le_rfl⟩

/-- What has been drained of a stream is a stream. -/
lemma StreamOf.of_append (h : StreamOf U (l ++ l')) : StreamOf U l := by
  obtain ⟨p, j, hl, hj⟩ := h
  have hl' := congrArg (List.take l.length) hl
  rw [List.take_left, List.take_append_eq_append_take, List.take_replicate, ← List.map_take,
    List.take_take, List.length_map, List.length_take] at hl'
  refine ⟨min l.length p, min (l.length - min p U.length) j, hl', ?_⟩
  omega

/-- A stream that holds a sentinel holds all of `U` before it. -/
lemma StreamOf.closed (h : StreamOf U l) (hn : none ∈ l) :
    ∃ j, 1 ≤ j ∧ l = U.map some ++ List.replicate j none := by
  obtain ⟨p, j, rfl, hj⟩ := h
  have hj0 : j ≠ 0 := by
    rintro rfl
    rw [List.replicate_zero, List.append_nil, List.mem_map] at hn
    obtain ⟨a, -, ha⟩ := hn
    cases ha
  refine ⟨j, Nat.one_le_iff_ne_zero.mpr hj0, ?_⟩
  rw [List.take_of_length_le (hj.resolve_left hj0)]

lemma filter_isSome_map_some_append (V : List α) (j : Nat) :
    (V.map some ++ List.replicate j none).filter Option.isSome = V.map some := by
  have hs : (V.map some).filter Option.isSome = V.map some :=
    List.filter_eq_self.mpr fun a ha => by obtain ⟨b, -, rfl⟩ := List.mem_map.mp ha; rfl
  have hn : (List.replicate j (none : Option α)).filter Option.isSome = [] :=
    List.filter_eq_nil_iff.mpr (by simp)
  rw [List.filter_append, hs, hn, List.append_nil]

lemma StreamOf.filter_isSome (h : StreamOf U l) : StreamOf U (l.filter Option.isSome) := by
  obtain ⟨p, j, rfl, -⟩ := h
  exact ⟨p, 0, by rw [filter_isSome_map_some_append, List.replicate_zero, List.append_nil],
    .inl rfl⟩

end StreamOf

/-! ### What one stage forwards -/

/-- What a stage forwards of the items it drained, contents erased: the resolver every item,
sentinels included, and the saver the units. -/
def StageKind.passes : StageKind → List Item → List (Option (List DeclarativeArtifact))
  | .queryExistingContentUnits, d => skeleton d
  | .contentUnitSaver, d => skeleton (d.filter Option.isSome)

@[simp] lemma StageKind.passes_nil (κ : StageKind) : κ.passes [] = [] := by cases κ <;> rfl

lemma StageKind.passes_append (κ : StageKind) (d e : List Item) :
    κ.passes (d ++ e) = κ.passes d ++ κ.passes e := by
  cases κ <;> simp [StageKind.passes, List.filter_append]

lemma StageKind.length_passes_le (κ : StageKind) (d : List Item) : (κ.passes d).length ≤ d.length := by
  cases κ
  · simp [StageKind.passes]
  · simpa [StageKind.passes] using List.length_filter_le _ d

section Forwarded

variable {U : List (List DeclarativeArtifact)} {d : List Item}

lemma StageKind.passes_streamOf (κ : StageKind) (h : StreamOf U (skeleton d)) :
    StreamOf U (κ.passes d) := by
  cases κ
  · exact h
  · rw [StageKind.passes, skeleton_filter_isSome]
    exact h.filter_isSome

/-- What a stage forwards once it drained a sentinel: every unit of the stream, then one
sentinel from the saver, and from the resolver the sentinels of its batch and its own. -/
lemma StageKind.passes_sentinel (κ : StageKind) (h : StreamOf U (skeleton d)) (hn : none ∈ d) :
    ∃ m, κ.passes d ++ [none] = U.map some ++ List.replicate m none ∧
      (κ = .contentUnitSaver → m = 1) ∧ (κ = .queryExistingContentUnits → 2 ≤ m) := by
  obtain ⟨j, hj, hdj⟩ := h.closed (none_mem_skeleton.mpr hn)
  cases κ with
  | queryExistingContentUnits =>
    refine ⟨j + 1, ?_, nofun, fun _ => by omega⟩
    rw [StageKind.passes, hdj, List.replicate_succ', List.append_assoc]
  | contentUnitSaver =>
    refine ⟨1, ?_, fun _ => rfl, nofun⟩
    rw [StageKind.passes, skeleton_filter_isSome, hdj, filter_isSome_map_some_append]
    rfl

/-- What a stage forwarded of a prefix `d` of a stream is a stream. -/
lemma streamOf_forwarded {κ : StageKind} {q o : List Item} (h : StreamOf U (skeleton (d ++ q)))
    (ho : skeleton o = κ.passes d ++ if none ∈ d then [none] else []) : StreamOf U (skeleton o) := by
  have hd : StreamOf U (skeleton d) := by
    rw [skeleton_append] at h
    exact h.of_append
  rw [ho]
  split_ifs with hn
  · obtain ⟨m, hm, -⟩ := κ.passes_sentinel hd hn
    rw [hm]
    exact streamOf_closed U m
  · rw [List.append_nil]
    exact κ.passes_streamOf hd

end Forwarded

/-- A record walked over a batch replaces contents only. -/
lemma matchResult_skeleton {r : Content} {b o : List Item} (h : matchResult r b = .ok o) :
    skeleton o = skeleton b := by
  induction b generalizing o with
  | nil =>
    simp only [matchResult, Except.ok.injEq] at h
    subst h
    rfl
  | cons x b ih =>
    cases x with
    | none =>
      cases hb : matchResult r b with
      | error e => simp [matchResult, hb] at h
      | ok o' =>
        simp only [matchResult, hb, except_map_ok, Except.ok.injEq] at h
        subst h
        simp [ih hb]
    | some dc =>
      cases hs : sameUnit dc.content r r.type.naturalKeyFields with
      | error e => simp [matchResult, hs] at h
      | ok same =>
        cases hb : matchResult r b with
        | error e => simp [matchResult, hs, hb] at h
        | ok o' =>
          simp only [matchResult, hs, hb, except_ok_bind, except_pure, Except.ok.injEq] at h
          subst h
          rw [skeleton_cons, skeleton_cons, ih hb]
          split <;> rfl

/-- The resolver forwards its batch with contents replaced and nothing else changed. -/
lemma queryBatch_skeleton {db : Db} {b o : List Item} (h : queryBatch db b = .ok o) :
    skeleton o = skeleton b := by
  have hresults : ∀ (rs : List Content) (b₁ b₂ : List Item), matchResults rs b₁ = .ok b₂ →
      skeleton b₂ = skeleton b₁ := fun rs b₁ b₂ =>
    foldlM_except_of_step (fun b' => skeleton b' = skeleton b₁) rs
      (fun _ _ _ _ h₁ h₂ => (matchResult_skeleton h₂).trans h₁) b₁ b₂ rfl
  exact foldlM_except_of_step (fun b' => skeleton b' = skeleton b) _
    (fun _ _ _ _ h₁ h₂ => (hresults _ _ _ h₂).trans h₁) b o rfl h

/-- The saver forwards the units of its batch, saved. -/
lemma skeleton_savedEntries (b : List Item) :
    skeleton ((savedEntries b).map some) = skeleton (b.filter Option.isSome) := by
  induction b with
  | nil => rfl
  | cons x b ih => cases x <;> simp [List.filter_cons, ih]

/-- A stage step, contents erased: the stage drains `k` items, forwards what its kind passes
of them, and after a batch with the sentinel leaves its loop and puts one more. -/
lemma Stage.step_skeleton {s s' : Stage} {db db' : Db} {k : Nat} {o : List Item}
    (h : s.step db k = .ok (db', s', o)) :
    s' = { s with inQ := s.inQ.drop k, done := decide (none ∈ s.inQ.take k) } ∧
      skeleton o = s.kind.passes (s.inQ.take k) ++ if none ∈ s.inQ.take k then [none] else [] := by
  obtain ⟨o₀, hp, rfl, rfl⟩ := Stage.step_eq_ok h
  have ho₀ : skeleton o₀ = s.kind.passes (s.inQ.take k) := by
    cases hκ : s.kind with
    | queryExistingContentUnits =>
      rw [hκ] at hp
      exact queryBatch_skeleton (process_queryExistingContentUnits hp).2
    | contentUnitSaver =>
      rw [hκ] at hp
      rw [(process_contentUnitSaver hp).2]
      exact skeleton_savedEntries _
  refine ⟨rfl, ?_⟩
  split <;> simp [ho₀]

/-! ### The invariant of a chain -/

/-- A chain of stages fed `inp` so far, whose last stage has put `out`: each stage has
drained a prefix `d` of what it was fed, has left its loop exactly when `d` holds a
sentinel, and has forwarded what its kind passes of `d`, then one sentinel once it left. -/
def ChainInv : List Item → List Stage → List Item → Prop
  | inp, [], out => out = inp
  | inp, s :: ss, out => ∃ d o, inp = d ++ s.inQ ∧ s.done = decide (none ∈ d) ∧
      (skeleton o = s.kind.passes d ++ if none ∈ d then [none] else []) ∧ ChainInv o ss out

lemma chainInv_idle (ks : List StageKind) :
    ChainInv [] (ks.map fun κ => (⟨κ, [], false⟩ : Stage)) [] := by
  induction ks with
  | nil => rfl
  | cons κ ks ih => exact ⟨[], [], rfl, by simp, by simp, ih⟩

lemma chainInv_start (κ : StageKind) (ks : List StageKind) (input : List Item) :
    ChainInv input (Run.start (κ :: ks) input).stages (Run.start (κ :: ks) input).out :=
  ⟨[], [], rfl, by simp, by simp, chainInv_idle ks⟩

/-- Items put by a stage go on the next stage's queue, or out of the chain after the last. -/
lemma ChainInv.feed {inp out x : List Item} {ss : List Stage} (h : ChainInv inp ss out) :
    ChainInv (inp ++ x) (deliver x ss).1 (out ++ (deliver x ss).2) := by
  cases ss with
  | nil =>
    simp only [ChainInv, deliver] at h ⊢
    rw [h]
  | cons t ts =>
    obtain ⟨d, o, hinp, hd, ho, hrest⟩ := h
    exact ⟨d, o, by rw [hinp, List.append_assoc], hd, ho, by
      simp only [deliver, List.append_nil]; exact hrest⟩

/-- A step of any stage keeps the invariant of the chain. -/
lemma ChainInv.step {db db' : Db} {k : Nat} {out o : List Item} {ss : List Stage} :
    ∀ {i : Nat} {inp : List Item} {ss' : List Stage}, ChainInv inp ss out →
      stepStages db k i ss = some (.ok (db', ss', o)) → ChainInv inp ss' (out ++ o) := by
  induction ss with
  | nil => intro i inp ss' _ h; simp [stepStages] at h
  | cons s ss ih =>
    intro i inp ss' hinv h
    obtain ⟨d, o₀, hinp, hd, ho₀, hrest⟩ := hinv
    cases i with
    | zero =>
      obtain ⟨hr, s', o₁, hstep, rfl, rfl⟩ := stepStages_zero_ok h
      obtain ⟨rfl, hskel⟩ := Stage.step_skeleton hstep
      have hnd : none ∉ d := by simpa [hr.1] using hd
      refine ⟨d ++ s.inQ.take k, o₀ ++ o₁, ?_, by simp [hnd], ?_, hrest.feed⟩
      · rw [hinp, List.append_assoc, List.take_append_drop]
      · rw [skeleton_append, ho₀, hskel, StageKind.passes_append]
        simp [hnd]
    | succ i =>
      obtain ⟨ss'', h', rfl⟩ := stepStages_succ_ok h
      exact ⟨d, o₀, hinp, hd, ho₀, ih hrest h'⟩

/-! ### Every step lowers the work left -/

/-- The work left in a chain: each queued item weighs one for every stage it has still to go
through, and each stage still in its loop as much. -/
def potential : List Stage → Nat
  | [] => 0
  | s :: ss => (ss.length + 1) * s.inQ.length + (if s.done then 0 else ss.length + 1) + potential ss

lemma length_deliver (x : List Item) (ss : List Stage) : (deliver x ss).1.length = ss.length := by
  cases ss <;> rfl

lemma potential_deliver (x : List Item) (ss : List Stage) :
    potential (deliver x ss).1 = potential ss + ss.length * x.length := by
  cases ss with
  | nil => simp [deliver, potential]
  | cons t ts =>
    simp only [deliver, potential, List.length_append, List.length_cons, Nat.mul_add]
    omega

lemma map_kind_deliver (x : List Item) (ss : List Stage) :
    (deliver x ss).1.map (·.kind) = ss.map (·.kind) := by
  cases ss <;> rfl

/-- A step keeps the kinds of the stages and lowers the work left. -/
lemma stepStages_potential {db db' : Db} {k : Nat} {o : List Item} {ss : List Stage} :
    ∀ {i : Nat} {ss' : List Stage}, stepStages db k i ss = some (.ok (db', ss', o)) →
      ss'.map (·.kind) = ss.map (·.kind) ∧ potential ss' < potential ss := by
  induction ss with
  | nil => intro i ss' h; simp [stepStages] at h
  | cons s ss ih =>
    intro i ss' h
    cases i with
    | zero =>
      obtain ⟨⟨hd, hk, hkl⟩, s', o₁, hstep, rfl, rfl⟩ := stepStages_zero_ok h
      obtain ⟨rfl, hskel⟩ := Stage.step_skeleton hstep
      refine ⟨by simp only [List.map_cons, map_kind_deliver], ?_⟩
      -- the stage forwards at most what it drained, and one more sentinel only as it leaves
      have hpass : (s.kind.passes (s.inQ.take k)).length ≤ k :=
        (s.kind.length_passes_le _).trans (List.length_take_le k s.inQ)
      have hlen : o₁.length =
          (s.kind.passes (s.inQ.take k)).length + if none ∈ s.inQ.take k then 1 else 0 := by
        rw [← length_skeleton, hskel, List.length_append]
        split <;> rfl
      have hdrop : (ss.length + 1) * (s.inQ.length - k) + (ss.length + 1) * k =
          (ss.length + 1) * s.inQ.length := by
        rw [← Nat.mul_add, Nat.sub_add_cancel hkl]
      have hk₁ : (ss.length + 1) * k = ss.length * k + k := by rw [Nat.add_mul, Nat.one_mul]
      simp only [potential, potential_deliver, length_deliver, List.length_drop, hd,
        Bool.false_eq_true, ↓reduceIte]
      by_cases hn : none ∈ s.inQ.take k
      · have hmul : ss.length * o₁.length ≤ ss.length * (k + 1) :=
          Nat.mul_le_mul_left _ (by rw [hlen, if_pos hn]; omega)
        have hk₂ : ss.length * (k + 1) = ss.length * k + ss.length := by
          rw [Nat.mul_add, Nat.mul_one]
        simp only [hn, decide_True, ↓reduceIte]
        omega
      · have hmul : ss.length * o₁.length ≤ ss.length * k :=
          Nat.mul_le_mul_left _ (by rw [hlen, if_neg hn]; omega)
        simp only [hn, decide_False, Bool.false_eq_true, ↓reduceIte]
        omega
    | succ i =>
      obtain ⟨ss'', h', rfl⟩ := stepStages_succ_ok h
      obtain ⟨hk, hp⟩ := ih h'
      have hl : ss''.length = ss.length := by simpa using congrArg List.length hk
      refine ⟨by simp only [List.map_cons, hk], ?_⟩
      simp only [potential, hl]
      omega

/-! ### Progress, and quiet once complete -/

/-- A chain fed a sentinel is never stuck: its first stage still in its loop has the
sentinel, or what came before it, queued. -/
lemma ChainInv.exists_step (db : Db) {out : List Item} {ss : List Stage} :
    ∀ {inp : List Item}, ChainInv inp ss out → none ∈ inp → (∃ s ∈ ss, s.done = false) →
      ∃ i, (stepStages db 1 i ss).isSome := by
  induction ss with
  | nil => intro inp _ _ hex; simp at hex
  | cons s ss ih =>
    intro inp hinv hn hex
    obtain ⟨d, o, hinp, hd, ho, hrest⟩ := hinv
    cases hsd : s.done
    · -- the stage is in its loop, with the sentinel still queued
      have hq : none ∈ s.inQ := by
        have hnd : none ∉ d := by simpa [hsd] using hd
        rw [hinp, List.mem_append] at hn
        exact hn.resolve_left hnd
      have hr : s.Ready 1 := ⟨hsd, Nat.one_pos, List.length_pos_of_mem hq⟩
      exact ⟨0, by simp [stepStages, hr]⟩
    · -- the stage has left its loop, having forwarded a sentinel
      have hon : none ∈ o := by
        have hdn : none ∈ d := by simpa [hsd] using hd
        rw [← none_mem_skeleton, ho]
        simp [hdn]
      obtain ⟨t, ht, htd⟩ := hex
      have ht' : t ∈ ss := by
        rcases List.mem_cons.mp ht with rfl | ht
        · rw [hsd] at htd; cases htd
        · exact ht
      obtain ⟨i, hi⟩ := ih hrest hon ⟨t, ht', htd⟩
      exact ⟨i + 1, by simpa [stepStages] using hi⟩

/-- No stage of a chain all of whose stages have left their loops can take a step. -/
lemma stepStages_of_done {db : Db} {k : Nat} {ss : List Stage} (h : ∀ s ∈ ss, s.done = true) :
    ∀ i, stepStages db k i ss = none := by
  induction ss with
  | nil => intro i; cases i <;> rfl
  | cons s ss ih =>
    intro i
    cases i with
    | zero =>
      have hr : ¬s.Ready k := fun hr => by
        have hd := hr.1
        rw [h s (List.mem_cons_self _ _)] at hd
        cases hd
      simp [stepStages, hr]
    | succ i => simp [stepStages, ih (fun t ht => h t (List.mem_cons_of_mem _ ht))]

/-! ### What the chain puts out -/

section Output

variable {U : List (List DeclarativeArtifact)}

/-- Fed a stream, a chain puts out a stream. -/
lemma ChainInv.streamOf {out : List Item} {ss : List Stage} :
    ∀ {inp : List Item}, ChainInv inp ss out → StreamOf U (skeleton inp) →
      StreamOf U (skeleton out) := by
  induction ss with
  | nil => intro inp h hU; rw [show out = inp from h]; exact hU
  | cons s ss ih =>
    intro inp h hU
    obtain ⟨d, o, rfl, -, ho, hrest⟩ := h
    exact ih hrest (streamOf_forwarded hU ho)

/-- Once every stage has left its loop, the chain has put out the whole stream and then the
sentinels its last stage put: one from the saver, at least two from the resolver. -/
lemma ChainInv.complete {out : List Item} {ss : List Stage} {t : Stage} :
    ∀ {inp : List Item}, ChainInv inp ss out → StreamOf U (skeleton inp) →
      (∀ s ∈ ss, s.done = true) → ss.getLast? = some t →
      ∃ m, skeleton out = U.map some ++ List.replicate m none ∧
        (t.kind = .contentUnitSaver → m = 1) ∧ (t.kind = .queryExistingContentUnits → 2 ≤ m) := by
  induction ss with
  | nil => intro inp _ _ _ hlast; cases hlast
  | cons s ss ih =>
    intro inp h hU hdone hlast
    obtain ⟨d, o, rfl, hd, ho, hrest⟩ := h
    cases ss with
    | nil =>
      -- the stage is the last one, and has drained a sentinel
      obtain rfl : s = t := by simpa using hlast
      have hdn : none ∈ d := by simpa [hdone s (List.mem_cons_self _ _)] using hd
      rw [show out = o from hrest, ho, if_pos hdn]
      exact s.kind.passes_sentinel (by rw [skeleton_append] at hU; exact hU.of_append) hdn
    | cons s₂ ss₂ =>
      exact ih hrest (streamOf_forwarded hU ho) (fun x hx => hdone x (List.mem_cons_of_mem _ hx))
        (by rwa [List.getLast?_cons_cons] at hlast)

end Output

/-! ### Runs of a chain among other runs -/

/-- A run of the chain `kinds` fed `input`. -/
structure ChainRun (kinds : List StageKind) (input : List Item) (r : Run) : Prop where
  kinds : r.stages.map (·.kind) = kinds
  inv : ChainInv input r.stages r.out

/-- The steps a run has left: the work left in its chain, and one more for a stage that
raises. -/
def Run.fuel (r : Run) : Nat := potential r.stages + if r.failed then 0 else 1

section ChainRun

variable {kinds : List StageKind} {input : List Item}

lemma chainRun_start (κ : StageKind) (ks : List StageKind) (input : List Item) :
    ChainRun (κ :: ks) input (Run.start (κ :: ks) input) :=
  ⟨by simp [Run.start, Function.comp_def], chainInv_start κ ks input⟩

lemma potential_idle (ks : List StageKind) :
    potential (ks.map fun κ => (⟨κ, [], false⟩ : Stage)) ≤ ks.length * ks.length := by
  induction ks with
  | nil => simp [potential]
  | cons κ ks ih =>
    have hsq : (ks.length + 1) * (ks.length + 1) = ks.length * ks.length + 2 * ks.length + 1 := by
      rw [Nat.add_mul, Nat.mul_add, Nat.mul_one, Nat.one_mul]
      omega
    simp only [List.map_cons, potential, List.length_map, List.length_nil, Nat.mul_zero,
      Nat.zero_add, Bool.false_eq_true, ↓reduceIte, List.length_cons]
    omega

lemma Run.fuel_start (κ : StageKind) (ks : List StageKind) (input : List Item) :
    (Run.start (κ :: ks) input).fuel ≤ (κ :: ks).length * (input.length + (κ :: ks).length) + 1 := by
  have hidle := potential_idle ks
  have hexp : (ks.length + 1) * (input.length + (ks.length + 1)) =
      (ks.length + 1) * input.length + ks.length * ks.length + 2 * ks.length + 1 := by
    rw [Nat.mul_add, Nat.mul_add, Nat.mul_one, Nat.add_mul ks.length 1 ks.length, Nat.one_mul]
    omega
  simp only [Run.fuel, Run.start, potential, List.length_map, List.length_cons, Bool.false_eq_true,
    ↓reduceIte]
  omega

/-- A step of the run keeps its invariant and uses up fuel: a step that commits lowers the
work left, and a stage that raises fails the run. -/
lemma ChainRun.step {r r' : Run} {db db' : Db} {i k : Nat} (h : ChainRun kinds input r)
    (hs : r.step db i k = some (db', r')) : ChainRun kinds input r' ∧ r'.fuel < r.fuel := by
  obtain ⟨hf, ⟨e, -, -, rfl⟩ | ⟨ss, o, heq, rfl⟩⟩ := Run.step_cases hs
  · -- a stage raised: the run fails and keeps its queues
    exact ⟨⟨h.kinds, h.inv⟩, by simp [Run.fuel, hf]⟩
  · obtain ⟨hk, hp⟩ := stepStages_potential heq
    exact ⟨⟨hk.trans h.kinds, h.inv.step heq⟩, by simp only [Run.fuel, hf]; omega⟩

/-- An event of one run leaves the others as they are. -/
lemma System.step_runs {s s' : System} {e : Event} (h : s.step e = some s') (j : Nat) :
    (e.run ≠ j → s'.runs[j]? = s.runs[j]?) ∧
    (e.run = j → ∃ r r', s.runs[j]? = some r ∧ r.step s.db e.stage e.size = some (s'.db, r') ∧
      s'.runs[j]? = some r') := by
  obtain ⟨r, r', hr, hp, hruns⟩ := System.step_cases h
  refine ⟨fun hne => by rw [hruns, List.getElem?_set_ne hne], fun heq => ?_⟩
  subst heq
  exact ⟨r, r', hr, hp, by rw [hruns, List.getElem?_set_self (List.getElem?_eq_some_iff.mp hr).1]⟩

/-- Over a schedule the run keeps its invariant, and the schedule's events of the run use
up its fuel. -/
lemma ChainRun.exec {s s' : System} {sched : List Event} {j : Nat} {r : Run}
    (hs : s.exec sched = some s') (hr : s.runs[j]? = some r) (h : ChainRun kinds input r) :
    ∃ r', s'.runs[j]? = some r' ∧ ChainRun kinds input r' ∧
      (sched.filter (·.run = j)).length + r'.fuel ≤ r.fuel := by
  induction sched generalizing s r with
  | nil => cases hs; exact ⟨r, hr, h, by simp⟩
  | cons e es ih =>
    obtain ⟨s₁, h₁, hs⟩ := Option.bind_eq_some.mp hs
    obtain ⟨hne, heq⟩ := System.step_runs h₁ j
    by_cases he : e.run = j
    · obtain ⟨r₀, r₁, hr₀, hstep, hr₁⟩ := heq he
      obtain rfl : r₀ = r := Option.some.inj (hr₀.symm.trans hr)
      obtain ⟨h₁', hlt⟩ := h.step hstep
      obtain ⟨r', hr', h', hle⟩ := ih hs hr₁ h₁'
      refine ⟨r', hr', h', ?_⟩
      simp only [List.filter_cons, he, decide_True, ↓reduceIte, List.length_cons]
      omega
    · obtain ⟨r', hr', h', hle⟩ := ih hs ((hne he).trans hr) h
      refine ⟨r', hr', h', ?_⟩
      simp only [List.filter_cons, he, decide_False, Bool.false_eq_true, ↓reduceIte]
      omega

/-- A run that has neither completed nor failed can take a step. -/
lemma ChainRun.exists_step {r : Run} (h : ChainRun kinds input r) (hn : none ∈ input) (db : Db)
    (hf : r.failed = false) (hc : ¬r.Complete) : ∃ i, (r.step db i 1).isSome := by
  have hex : ∃ t ∈ r.stages, t.done = false := by
    by_contra hall
    push_neg at hall
    exact hc ⟨hf, fun t ht => Bool.eq_true_of_not_eq_false (hall t ht)⟩
  obtain ⟨i, hi⟩ := ChainInv.exists_step db h.inv hn hex
  exact ⟨i, Run.step_isSome r hf hi⟩

lemma Run.step_eq_none_of_complete {r : Run} (hc : r.Complete) (db : Db) (i k : Nat) :
    r.step db i k = none := by
  simp [Run.step, hc.1, stepStages_of_done hc.2]

/-- A completed run has put out the whole stream and then the sentinels of its last stage. -/
lemma ChainRun.complete {U : List (List DeclarativeArtifact)} {r : Run} (h : ChainRun kinds input r)
    (hU : StreamOf U (skeleton input)) (hk : kinds ≠ []) (hc : r.Complete) :
    ∃ m, skeleton r.out = U.map some ++ List.replicate m none ∧
      (kinds.getLast? = some .contentUnitSaver → m = 1) ∧
      (kinds.getLast? = some .queryExistingContentUnits → 2 ≤ m) := by
  have hne : r.stages ≠ [] := fun h' => hk (by rw [← h.kinds, h', List.map_nil])
  obtain ⟨t, ht⟩ := Option.isSome_iff_exists.mp (List.getLast?_isSome.mpr hne)
  have hlast : kinds.getLast? = some t.kind := by rw [← h.kinds, List.getLast?_map, ht]; rfl
  obtain ⟨m, hout, hsaver, hresolver⟩ := h.inv.complete hU hc.2 ht
  rw [hlast]
  exact ⟨m, hout, fun h => hsaver (Option.some.inj h), fun h => hresolver (Option.some.inj h)⟩

end ChainRun

/-- A run of any chain of `query_existing_content_units` and `content_unit_saver` stages, fed
items and one sentinel, among any other runs on the store, under every schedule. The
schedule has at most `L (n + L + 1) + 1` events of the run, for `L` stages and `n` items. The
run's output, contents aside, is the first items in order and then sentinels, never a
sentinel before the last item. Until the run completes or a stage raises it can take a step;
once complete it takes none, and its output is every item once, in order, then exactly one
sentinel when the last stage is the saver and at least two when it is the resolver. -/
theorem chain_run_forwards_each_item_once (kinds : List StageKind) (hk : kinds ≠ [])
    (items : List DeclarativeContent) (db : Db) (runs : List Run) (j : Nat)
    (hj : runs[j]? = some (Run.start kinds (items.map some ++ [none])))
    (sched : List Event) (s : System) (h : System.exec ⟨db, runs⟩ sched = some s) :
    ∃ r, s.runs[j]? = some r ∧
      (sched.filter (·.run = j)).length ≤ kinds.length * (items.length + kinds.length + 1) + 1 ∧
      (∃ p m, skeleton r.out =
          ((items.map (·.dArtifacts)).take p).map some ++ List.replicate m none ∧
        (m = 0 ∨ items.length ≤ p)) ∧
      (r.failed = false → ¬r.Complete → ∃ i k, (s.step ⟨j, i, k⟩).isSome) ∧
      (r.Complete → ∀ db' i k, r.step db' i k = none) ∧
      (r.Complete → ∃ m, skeleton r.out = (items.map (·.dArtifacts)).map some ++ List.replicate m none ∧
        (kinds.getLast? = some .contentUnitSaver → m = 1) ∧
        (kinds.getLast? = some .queryExistingContentUnits → 2 ≤ m)) := by
  obtain ⟨κ, ks, rfl⟩ := List.exists_cons_of_ne_nil hk
  have hU : StreamOf (items.map (·.dArtifacts)) (skeleton (items.map some ++ [none])) := by
    rw [skeleton_append, skeleton_map_some]
    exact streamOf_closed _ 1
  obtain ⟨r, hr, hrun, hle⟩ := (chainRun_start κ ks _).exec h hj
  refine ⟨r, hr, ?_, ?_, fun hf hc => ?_, fun hc => Run.step_eq_none_of_complete hc,
    hrun.complete hU hk⟩
  · have hfuel := Run.fuel_start κ ks (items.map some ++ [none])
    have hin : (items.map some ++ [none]).length + (κ :: ks).length =
        items.length + (κ :: ks).length + 1 := by
      simp only [List.length_append, List.length_map, List.length_singleton]
      omega
    rw [hin] at hfuel
    omega
  · obtain ⟨p, m, hout, hm⟩ := hrun.inv.streamOf hU
    exact ⟨p, m, hout, by simpa using hm⟩
  · obtain ⟨i, hi⟩ := hrun.exists_step (by simp) s.db hf hc
    refine ⟨i, 1, ?_⟩
    simp only [System.step, hr, Option.map_eq_map, Option.isSome_map']
    exact hi

/-- Two resolvers and then the saver. -/
def resolveTwiceThenSave : List StageKind :=
  [.queryExistingContentUnits, .queryExistingContentUnits, .contentUnitSaver]

/-- A run of that chain fed one unit, alone on an empty store. -/
def threeStageRun : System :=
  ⟨⟨[], [], [], by decide, by decide⟩,
    [Run.start resolveTwiceThenSave ([fileAt "1"].map some ++ [none])]⟩

/-- Each stage drains all it has: the first resolver forwards the unit and two sentinels, the
second the unit and three, and the saver the unit and one. -/
theorem chain_run_forwards_each_item_once_on_sample :
    ∃ s, threeStageRun.exec [⟨0, 0, 2⟩, ⟨0, 1, 3⟩, ⟨0, 2, 4⟩] = some s ∧
    ∃ r, s.runs[0]? = some r ∧
      (([⟨0, 0, 2⟩, ⟨0, 1, 3⟩, ⟨0, 2, 4⟩] : List Event).filter (·.run = 0)).length ≤
        resolveTwiceThenSave.length * ([fileAt "1"].length + resolveTwiceThenSave.length + 1) + 1 ∧
      (∃ p m, skeleton r.out =
          (([fileAt "1"].map (·.dArtifacts)).take p).map some ++ List.replicate m none ∧
        (m = 0 ∨ [fileAt "1"].length ≤ p)) ∧
      (r.failed = false → ¬r.Complete → ∃ i k, (s.step ⟨0, i, k⟩).isSome) ∧
      (r.Complete → ∀ db' i k, r.step db' i k = none) ∧
      (r.Complete → ∃ m, skeleton r.out =
          ([fileAt "1"].map (·.dArtifacts)).map some ++ List.replicate m none ∧
        (resolveTwiceThenSave.getLast? = some .contentUnitSaver → m = 1) ∧
        (resolveTwiceThenSave.getLast? = some .queryExistingContentUnits → 2 ≤ m)) := by
  obtain ⟨s, hs⟩ := Option.isSome_iff_exists.mp
    (show (threeStageRun.exec [⟨0, 0, 2⟩, ⟨0, 1, 3⟩, ⟨0, 2, 4⟩]).isSome by decide)
  exact ⟨s, hs, chain_run_forwards_each_item_once resolveTwiceThenSave (by decide) [fileAt "1"]
    ⟨[], [], [], by decide, by decide⟩ _ 0 rfl _ s hs⟩

end Pulpcore
