import Pulpcore.Stages.QueryExisting
import Pulpcore.Stages.Saver

/-!
# Pipelines of stages

The loop the two stages share: drain what has arrived on `in_q`, process it as one batch,
put what the batch yields on `out_q`, and leave the loop after a batch that held the
sentinel, putting one more sentinel on `out_q`. How many items a drain finds depends on
arrival timing, so a step of a stage takes any positive number of the items queued for it.

A run is a chain of stages, each stage's `out_q` being the next one's `in_q`. Several runs
share one store; a schedule is the list of stage steps in the order they happen, and each
step is atomic with respect to the store (the resolver's queries and the saver's
transaction). A stage that raises fails its run, and the store keeps what it had.
-/

namespace Pulpcore

inductive StageKind where
  | queryExistingContentUnits
  | contentUnitSaver
  deriving DecidableEq, Repr

/-- One iteration of a stage's loop on a drained batch: the store, and what it puts on `out_q`. -/
def StageKind.process : StageKind → Db → List Item → Except Error (Db × List Item)
  | .queryExistingContentUnits, db, b => (db, ·) <$> queryBatch db b
  | .contentUnitSaver, db, b => (·, (savedEntries b).map some) <$> saveBatch db b

structure Stage where
  kind : StageKind
  inQ : List Item
  done : Bool

def Stage.Ready (s : Stage) (k : Nat) : Prop := s.done = false ∧ 0 < k ∧ k ≤ s.inQ.length

instance (s : Stage) (k : Nat) : Decidable (s.Ready k) := inferInstanceAs (Decidable (_ ∧ _))

/-- A stage drains `k` items as one batch; after one with the sentinel it puts its own and leaves. -/
def Stage.step (s : Stage) (db : Db) (k : Nat) : Except Error (Db × Stage × List Item) :=
  let batch := s.inQ.take k
  let shutdown := decide (none ∈ batch)
  (fun r => (r.1, { s with inQ := s.inQ.drop k, done := shutdown },
      if shutdown then r.2 ++ [none] else r.2)) <$> s.kind.process db batch

/-- Items put by a stage go to the next stage's queue, or out of the run after the last. -/
def deliver (items : List Item) : List Stage → List Stage × List Item
  | [] => ([], items)
  | t :: ts => ({ t with inQ := t.inQ ++ items } :: ts, [])

/-- Stage `i` of a chain takes a step draining `k` items; `none` when it cannot. -/
def stepStages (db : Db) (k : Nat) : Nat → List Stage → Option (Except Error (Db × List Stage × List Item))
  | _, [] => none
  | 0, s :: ss =>
    if s.Ready k then
      some ((fun r => (r.1, r.2.1 :: (deliver r.2.2 ss).1, (deliver r.2.2 ss).2)) <$> s.step db k)
    else none
  | i + 1, s :: ss => (Functor.map fun r => (r.1, s :: r.2.1, r.2.2)) <$> stepStages db k i ss

/-- A run: its stages in order, what its last stage put out, and whether a stage raised. -/
structure Run where
  stages : List Stage
  out : List Item
  failed : Bool

def Run.start (kinds : List StageKind) (input : List Item) : Run where
  stages := match kinds with
    | [] => []
    | k :: ks => ⟨k, input, false⟩ :: ks.map fun k => ⟨k, [], false⟩
  out := []
  failed := false

/-- Every stage has left its loop and none raised. -/
def Run.Complete (r : Run) : Prop := r.failed = false ∧ ∀ s ∈ r.stages, s.done = true

instance (r : Run) : Decidable r.Complete :=
  inferInstanceAs (Decidable (_ ∧ ∀ s ∈ r.stages, _))

/-- Stage `i` of the run drains `k` items; a raise fails the run and leaves the store. -/
def Run.step (r : Run) (db : Db) (i k : Nat) : Option (Db × Run) :=
  if r.failed then none
  else match stepStages db k i r.stages with
    | none => none
    | some (.error _) => some (db, { r with failed := true })
    | some (.ok (db', ss, o)) => some (db', { r with stages := ss, out := r.out ++ o })

structure System where
  db : Db
  runs : List Run

structure Event where
  run : Nat
  stage : Nat
  size : Nat
  deriving DecidableEq, Repr

def System.step (s : System) (e : Event) : Option System :=
  match s.runs[e.run]? with
  | none => none
  | some r => (fun p => ⟨p.1, s.runs.set e.run p.2⟩) <$> r.step s.db e.stage e.size

def System.exec : System → List Event → Option System
  | s, [] => some s
  | s, e :: es => (s.step e).bind fun s' => s'.exec es

def pipeline : List StageKind := [.queryExistingContentUnits, .contentUnitSaver]

/-! ### Runs that go wrong -/

/-- The resolver alone, fed the sentinel: it forwards it and then puts its own. -/
theorem queryExistingContentUnits_forwards_two_sentinels :
    ((Run.start [.queryExistingContentUnits] [none]).step ⟨[], [], [], by decide, by decide⟩ 0 1).map
      (·.2.out) = some [none, none] := rfl

def fileAt (d : String) : DeclarativeContent := fileUnitAt "p" d

/-- Two units with a file each at `p`, saved in one batch: the run raises. -/
theorem pipeline_run_raises_on_shared_relative_path :
    ((System.exec ⟨⟨[], [], [], by decide, by decide⟩, [Run.start pipeline [some (fileAt "1"), some (fileAt "2"), none]]⟩
        [⟨0, 0, 3⟩, ⟨0, 1, 3⟩]).map fun s => s.runs.map (·.failed)) = some [true] := rfl

/-- Two runs of one unit, both resolving before either saves: the second saver raises. -/
theorem concurrent_runs_second_transaction_fails :
    ((System.exec ⟨⟨[], [], [], by decide, by decide⟩,
        [Run.start pipeline [some (fileAt "1"), none], Run.start pipeline [some (fileAt "1"), none]]⟩
        [⟨0, 0, 2⟩, ⟨1, 0, 2⟩, ⟨0, 1, 3⟩, ⟨1, 1, 3⟩]).map
      fun s => (s.runs.map (·.failed), s.db.content.length)) = some ([false, true], 1) := rfl

end Pulpcore
