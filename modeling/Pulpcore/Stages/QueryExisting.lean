import Pulpcore.Models.Basic

/-!
# The `query_existing_content_units` stage

One iteration of the stage's loop, on the batch it drained. The first loop groups the
batch by concrete content type and ORs the natural keys of each type into one query
(`content_q_by_type`). The second loop runs one query per type, and for every returned
record walks the whole batch, replacing an entry's content when each of the record's
natural-key fields equals the entry's.

Django's `Q.__or__` returns the other side unchanged when one side is empty, so the unit key
of a type without natural-key fields adds no disjunct: the type is queried with `Q(pk=None)`
alone, which matches nothing.

That walk does not look at the entry's type. An entry of another type that has the
record's natural-key fields with the same values is replaced by a record of the wrong type
(`queryBatch_replaces_other_type`), and one that lacks such a field raises an
`AttributeError`. On a batch of one content type the stage does what its docstring says:
each entry is replaced by the stored unit with its natural key, if there is one and the type
has natural-key fields (`queryBatch_of_sameType`).
-/

namespace Pulpcore

/-- A unit key, as `Q(**unit_key)` takes it. -/
abbrev UnitKey := List (Field × Option Value)

/-- `Q(**unit_key)`: a record matches when each field of the key has the key's value. -/
def matchesQ (r : Content) (k : UnitKey) : Bool :=
  k.all fun fv => r.getattr fv.1 == fv.2

/-- `q | Q(**unit_key)`, for `q` the initial `Q(pk=None)` or-ed with the keys `ks`: an empty
`Q()` leaves `q` as it is. -/
def orQ (ks : List UnitKey) (k : UnitKey) : List UnitKey := if k = [] then ks else ks ++ [k]

/-- `content_q_by_type[model_type] = content_q_by_type[model_type] | Q(**unit_key)`, on
the `defaultdict`, which keeps its keys in insertion order. -/
def addQ : List (ContentType × List UnitKey) → ContentType → UnitKey →
    List (ContentType × List UnitKey)
  | [], t, k => [(t, orQ [] k)]
  | (t', ks) :: qs, t, k => if t' = t then (t', orQ ks k) :: qs else (t', ks) :: addQ qs t k

/-- One entry of the first loop; the sentinel only sets `shutdown`. -/
def addItemQ (qs : List (ContentType × List UnitKey)) : Item → List (ContentType × List UnitKey)
  | none => qs
  | some dc => addQ qs dc.content.type dc.content.naturalKeyDict

/-- The first loop: `content_q_by_type` built from a drained batch. -/
def contentQByType (batch : List Item) : List (ContentType × List UnitKey) :=
  batch.foldl addItemQ []

/-- `model_type.objects.filter(content_q_by_type[model_type])`; the initial `Q(pk=None)`
matches nothing. -/
def filterQ (db : Db) (t : ContentType) (ks : List UnitKey) : List Content :=
  db.content.filter fun r => r.type = t && ks.any (matchesQ r)

/-- The loop over `result.natural_key_fields()`: `false` at the first field whose values
differ (`not_same_unit`), an `AttributeError` when the entry's content lacks the field. -/
def sameUnit (c r : Content) : List Field → Except Error Bool
  | [] => .ok true
  | f :: fs =>
    match c.getattr f with
    | none => .error .attribute
    | some v => if some v = r.getattr f then sameUnit c r fs else .ok false

/-- One returned record walked against every entry of the batch. -/
def matchResult (r : Content) : List Item → Except Error (List Item)
  | [] => .ok []
  | none :: rest => (none :: ·) <$> matchResult r rest
  | some dc :: rest => do
    let same ← sameUnit dc.content r r.type.naturalKeyFields
    let rest' ← matchResult r rest
    pure (some (if same then { dc with content := r } else dc) :: rest')

/-- The second loop: every returned record of every queried type, in order. -/
def matchResults (rs : List Content) (batch : List Item) : Except Error (List Item) :=
  rs.foldlM (fun b r => matchResult r b) batch

/-- One iteration of `query_existing_content_units` on a drained batch: the batch it
forwards, sentinel included. -/
def queryBatch (db : Db) (batch : List Item) : Except Error (List Item) :=
  (contentQByType batch).foldlM (fun b tq => matchResults (filterQ db tq.1 tq.2) b) batch

/-! ### What the stage is for -/

/-- The stored unit with the natural key of `c`, or `c` when there is none or its type has no
natural-key fields: what the stage is meant to put in place of each candidate. -/
def resolve (db : Db) (c : Content) : Content :=
  if c.type.naturalKeyFields = [] then c else (db.content.find? fun r => r.unitKey = c.unitKey).getD c

@[simp] lemma resolve_unitKey (db : Db) (c : Content) : (resolve db c).unitKey = c.unitKey := by
  unfold resolve
  split_ifs
  · rfl
  cases h : db.content.find? fun r => r.unitKey = c.unitKey with
  | none => rfl
  | some r => simpa using List.find?_some h

lemma resolve_mem_or_eq (db : Db) (c : Content) : resolve db c ∈ db.content ∨ resolve db c = c := by
  unfold resolve
  split_ifs
  · exact .inr rfl
  cases h : db.content.find? fun r => r.unitKey = c.unitKey with
  | none => exact .inr rfl
  | some r => exact .inl (List.mem_of_find?_eq_some h)

/-- Every entry of the batch holds content of type `t`. -/
def OfType (t : ContentType) (b : List Item) : Prop := ∀ dc, some dc ∈ b → dc.content.type = t

/-- The entry `dc` after the walk of a record `r` of its own type. -/
def replaceIfSame (r : Content) (dc : DeclarativeContent) : DeclarativeContent :=
  if dc.content.unitKey = r.unitKey then { dc with content := r } else dc

/-- The natural keys of a batch's entries, in order, the empty ones left out as `|` leaves
them. -/
def keysOf (b : List Item) : List UnitKey :=
  b.filterMap fun x => x.bind fun dc => if dc.content.naturalKeyDict = [] then none
    else some dc.content.naturalKeyDict

/-! ### Batches of one content type -/

lemma sameUnit_eq_ok {c r : Content} {fs : List Field} (h : ∀ f ∈ fs, (c.getattr f).isSome) :
    sameUnit c r fs = .ok (decide (fs.map c.getattr = fs.map r.getattr)) := by
  induction fs with
  | nil => rfl
  | cons f fs ih =>
    obtain ⟨v, hv⟩ := Option.isSome_iff_exists.mp (h f (List.mem_cons_self f fs))
    have ih := ih fun g hg => h g (List.mem_cons_of_mem f hg)
    by_cases hr : some v = r.getattr f
    · rw [sameUnit, hv]; simp only [if_pos hr, ih]; simpa using fun _ => hv.trans hr
    · simp [sameUnit, hv, hr, Ne.symm hr]

/-- Between instances of one type the field walk decides equality of unit keys. -/
lemma sameUnit_of_type_eq {c r : Content} (h : c.type = r.type) :
    sameUnit c r r.type.naturalKeyFields = .ok (decide (c.unitKey = r.unitKey)) := by
  rw [sameUnit_eq_ok (h ▸ c.keys_present)]
  simp [Content.unitKey, h, Content.getattr]

lemma matchResult_of_ofType {r : Content} {b : List Item} (h : OfType r.type b) :
    matchResult r b = .ok (b.map (Option.map (replaceIfSame r))) := by
  induction b with
  | nil => rfl
  | cons x b ih =>
    have ih := ih fun dc hdc => h dc (List.mem_cons_of_mem x hdc)
    cases x with
    | none => simp [matchResult, ih]
    | some dc =>
      simp [matchResult, ih, sameUnit_of_type_eq (h dc (List.mem_cons_self _ _)), replaceIfSame]

lemma ofType_map_replaceIfSame {t : ContentType} {r : Content} (hr : r.type = t) {b : List Item}
    (h : OfType t b) : OfType t (b.map (Option.map (replaceIfSame r))) := by
  intro dc hdc
  obtain ⟨x, hx, hdx⟩ := List.mem_map.mp hdc
  cases x with
  | none => cases hdx
  | some dc₀ =>
    cases hdx
    unfold replaceIfSame; split
    · exact hr
    · exact h dc₀ hx

lemma matchResults_of_ofType {t : ContentType} {rs : List Content} (hrs : ∀ r ∈ rs, r.type = t)
    {b : List Item} (h : OfType t b) :
    matchResults rs b = .ok (b.map (Option.map fun dc => rs.foldl (fun dc r => replaceIfSame r dc) dc)) := by
  induction rs generalizing b with
  | nil => simp [matchResults]
  | cons r rs ih =>
    have hr := hrs r (List.mem_cons_self r rs)
    have ih := ih (fun r' hr' => hrs r' (List.mem_cons_of_mem r hr')) (ofType_map_replaceIfSame hr h)
    simp only [matchResults, List.foldlM_cons] at ih ⊢
    rw [matchResult_of_ofType (hr ▸ h), except_ok_bind, ih]
    simp [Function.comp_def]

lemma foldl_replaceIfSame {rs : List Content} (hrs : (rs.map Content.unitKey).Nodup)
    (dc : DeclarativeContent) :
    rs.foldl (fun dc r => replaceIfSame r dc) dc =
      { dc with content := (rs.find? fun r => r.unitKey = dc.content.unitKey).getD dc.content } := by
  induction rs generalizing dc with
  | nil => rfl
  | cons r rs ih =>
    rw [List.map_cons, List.nodup_cons] at hrs
    rw [List.foldl_cons, ih hrs.2]
    by_cases hk : dc.content.unitKey = r.unitKey
    · have hnone : (rs.find? fun r' => r'.unitKey = r.unitKey) = none :=
        List.find?_eq_none.mpr fun r' hr' he =>
          hrs.1 (List.mem_map.mpr ⟨r', hr', of_decide_eq_true he⟩)
      simp [replaceIfSame, hk, hnone]
    · simp [replaceIfSame, hk, Ne.symm hk]

/-- Or-ing a key onto `ks` adds what it adds to the initial `Q(pk=None)`. -/
lemma orQ_append (ks : List UnitKey) (k : UnitKey) : orQ ks k = ks ++ orQ [] k := by
  unfold orQ; split_ifs <;> simp

lemma keysOf_cons_some (dc : DeclarativeContent) (b : List Item) :
    keysOf (some dc :: b) = orQ [] dc.content.naturalKeyDict ++ keysOf b := by
  by_cases he : dc.content.naturalKeyDict = [] <;> simp [keysOf, orQ, he]

lemma foldl_addItemQ_single {t : ContentType} (ks : List UnitKey) {b : List Item} (h : OfType t b) :
    b.foldl addItemQ [(t, ks)] = [(t, ks ++ keysOf b)] := by
  induction b generalizing ks with
  | nil => simp [keysOf]
  | cons x b ih =>
    have ih := fun ks => ih ks (fun dc hdc => h dc (List.mem_cons_of_mem x hdc))
    cases x with
    | none => simpa [addItemQ, keysOf] using ih ks
    | some dc =>
      rw [keysOf_cons_some, ← List.append_assoc, ← orQ_append, ← ih]
      simp [addItemQ, addQ, h dc (List.mem_cons_self _ _)]

/-- The query of a batch of one type: none when the batch holds no unit, and otherwise one
for its type, or-ing the batch's non-empty natural keys. -/
lemma contentQByType_of_ofType {t : ContentType} {b : List Item} (h : OfType t b) :
    (contentQByType b = [] ∧ keysOf b = []) ∨ contentQByType b = [(t, keysOf b)] := by
  induction b with
  | nil => exact .inl ⟨rfl, rfl⟩
  | cons x b ih =>
    have ih := ih fun dc hdc => h dc (List.mem_cons_of_mem x hdc)
    cases x with
    | none => simpa [contentQByType, addItemQ, keysOf] using ih
    | some dc =>
      refine .inr ?_
      rw [keysOf_cons_some, ← foldl_addItemQ_single _ fun dc' hdc => h dc' (List.mem_cons_of_mem _ hdc)]
      simp [contentQByType, addItemQ, addQ, h dc (List.mem_cons_self _ _)]

/-- On a batch of one type the stage runs the one query of that type. -/
lemma queryBatch_of_ofType (db : Db) {t : ContentType} {b : List Item} (h : OfType t b) :
    queryBatch db b = matchResults (filterQ db t (keysOf b)) b := by
  rcases contentQByType_of_ofType h with ⟨hq, hk⟩ | hq
  · simp [queryBatch, hq, hk, filterQ, matchResults]
  · simp only [queryBatch, hq, List.foldlM_cons, List.foldlM_nil]
    cases matchResults (filterQ db t (keysOf b)) b <;> rfl

lemma matchesQ_naturalKeyDict {r c : Content} (h : r.unitKey = c.unitKey) :
    matchesQ r c.naturalKeyDict = true := by
  simp only [Content.unitKey, Prod.mk.injEq] at h
  obtain ⟨ht, hv⟩ := h
  rw [ht, List.map_inj_left] at hv
  simpa [matchesQ, Content.naturalKeyDict] using hv

lemma find?_filterQ (db : Db) {t : ContentType} {ks : List UnitKey} {c : Content}
    (ht : c.type = t) (hk : c.naturalKeyDict ∈ ks) :
    ((filterQ db t ks).find? fun r => r.unitKey = c.unitKey) =
      db.content.find? fun r => r.unitKey = c.unitKey := by
  rw [filterQ, List.find?_filter]
  congr 1
  funext r
  by_cases he : r.unitKey = c.unitKey
  · have hty : r.type = t := ht ▸ congrArg Prod.fst he
    simpa [he, hty] using ⟨_, hk, matchesQ_naturalKeyDict he⟩
  · simp [he]

/-- On a batch of one content type the stage replaces each entry's content by the stored
unit with the same natural key, if there is one and the type has natural-key fields, and
leaves it alone otherwise. -/
theorem queryBatch_of_sameType (db : Db) {t : ContentType} {b : List Item} (h : OfType t b) :
    queryBatch db b = .ok (b.map (Option.map fun dc => { dc with content := resolve db dc.content })) := by
  have hty : ∀ r ∈ filterQ db t (keysOf b), r.type = t := fun r hr => by
    simp only [filterQ, List.mem_filter, Bool.and_eq_true, decide_eq_true_eq] at hr; exact hr.2.1
  have hnd : ((filterQ db t (keysOf b)).map Content.unitKey).Nodup :=
    db.content_unique.sublist ((List.filter_sublist _).map _)
  rw [queryBatch_of_ofType db h, matchResults_of_ofType hty h]
  congr 1
  refine List.map_congr_left fun x hx => ?_
  cases x with
  | none => rfl
  | some dc =>
    simp only [Option.map_some', Option.some.injEq, foldl_replaceIfSame hnd, resolve, h dc hx]
    split_ifs with hkf
    · -- no natural-key fields: every key of the batch is empty, and nothing is queried
      have hk : keysOf b = [] := List.filterMap_eq_nil_iff.mpr fun x hx' => by
        cases x with
        | none => rfl
        | some dc' => simp [Content.naturalKeyDict, h dc' hx', hkf]
      simp [hk, filterQ]
    · have hk : dc.content.naturalKeyDict ∈ keysOf b :=
        List.mem_filterMap.mpr ⟨some dc, hx, by simp [Content.naturalKeyDict, h dc hx, hkf]⟩
      rw [find?_filterQ db (h dc hx) hk]

lemma resolve_of_stored {db : Db} {c : Content} (hkf : c.type.naturalKeyFields ≠ [])
    (h : ∃ r ∈ db.content, r.unitKey = c.unitKey) :
    resolve db c ∈ db.content ∧ (resolve db c).unitKey = c.unitKey := by
  obtain ⟨r, hr⟩ := Option.isSome_iff_exists.mp
    (List.find?_isSome.mpr (by simpa using h) : (db.content.find? fun r => r.unitKey = c.unitKey).isSome)
  simp only [resolve, hkf, ↓reduceIte, hr, Option.getD_some]
  exact ⟨List.mem_of_find?_eq_some hr, by simpa using List.find?_some hr⟩

lemma resolve_of_not_stored {db : Db} {c : Content} (h : ¬∃ r ∈ db.content, r.unitKey = c.unitKey) :
    resolve db c = c := by
  rw [resolve, List.find?_eq_none.mpr fun r hr he => h ⟨r, hr, of_decide_eq_true he⟩]
  split_ifs <;> rfl

/-- On a batch of one content type the stage never raises and keeps the batch's shape; an
entry's content is replaced exactly when the type has natural-key fields and the store holds
a unit of its natural key, and then by that stored unit; every other entry is left as it
was. -/
theorem queryBatch_one_type_replaces_by_stored_unit (db : Db) (t : ContentType) (b : List Item)
    (h : OfType t b) :
    ∃ b' : List Item, queryBatch db b = .ok b' ∧ b'.length = b.length ∧
      (∀ i : Nat, b[i]? = some none → b'[i]? = some none) ∧
      ∀ (i : Nat) (dc : DeclarativeContent), b[i]? = some (some dc) →
        ∃ dc' : DeclarativeContent, b'[i]? = some (some dc') ∧ dc'.dArtifacts = dc.dArtifacts ∧
        ((t.naturalKeyFields ≠ [] ∧ ∃ r ∈ db.content, r.unitKey = dc.content.unitKey) →
          dc'.content ∈ db.content ∧ dc'.content.unitKey = dc.content.unitKey) ∧
        ((t.naturalKeyFields = [] ∨ ¬∃ r ∈ db.content, r.unitKey = dc.content.unitKey) →
          dc'.content = dc.content) := by
  refine ⟨_, queryBatch_of_sameType db h, by simp, fun i hi => by simp [hi], fun i dc hi => ?_⟩
  have ht : dc.content.type = t := h dc (List.mem_iff_getElem?.mpr ⟨i, hi⟩)
  refine ⟨{ dc with content := resolve db dc.content }, by simp [hi], rfl,
    fun ⟨hkf, hs⟩ => resolve_of_stored (ht ▸ hkf) hs, ?_⟩
  rintro (hkf | hs)
  · exact if_pos (ht ▸ hkf)
  · exact resolve_of_not_stored hs

/-- A unit type `a.unit` keyed by `name`, and a type `b.unit` keyed by `name, version`. -/
private def unitA : ContentType := ⟨"a.unit", ["name"]⟩

private def unitB : ContentType := ⟨"b.unit", ["name", "version"]⟩

private def storedA : Content := ⟨unitA, [("name", "x")], false, "default", by decide⟩

/-- A candidate `a.unit` named `x`, and the store holding the `a.unit` named `x`. -/
private def candidateA : DeclarativeContent := ⟨⟨unitA, [("name", "x")], true, "default", by decide⟩, []⟩

private def storeA : Db := ⟨[storedA], [], [], by decide, by decide⟩

/-- The candidate alone, against the store: it is replaced by the stored unit. -/
theorem queryBatch_one_type_replaces_by_stored_unit_on_sample :
    OfType unitA [some candidateA] ∧
    ∃ b' : List Item, queryBatch storeA [some candidateA] = .ok b' ∧ b'.length = 1 ∧
      (∀ i : Nat, [some candidateA][i]? = some none → b'[i]? = some none) ∧
      ∀ (i : Nat) (dc : DeclarativeContent), [some candidateA][i]? = some (some dc) →
        ∃ dc' : DeclarativeContent, b'[i]? = some (some dc') ∧ dc'.dArtifacts = dc.dArtifacts ∧
        ((unitA.naturalKeyFields ≠ [] ∧ ∃ r ∈ storeA.content, r.unitKey = dc.content.unitKey) →
          dc'.content ∈ storeA.content ∧ dc'.content.unitKey = dc.content.unitKey) ∧
        ((unitA.naturalKeyFields = [] ∨ ¬∃ r ∈ storeA.content, r.unitKey = dc.content.unitKey) →
          dc'.content = dc.content) := by
  have hty : OfType unitA [some candidateA] := by
    intro dc hdc
    simp only [List.mem_singleton, Option.some.injEq] at hdc
    subst hdc; rfl
  exact ⟨hty, queryBatch_one_type_replaces_by_stored_unit storeA unitA _ hty⟩

/-- A type without natural-key fields, and a stored unit of it. -/
private def unitE : ContentType := ⟨"e.unit", []⟩

private def storedE : Content := ⟨unitE, [("name", "x")], false, "default", by decide⟩

/-- A candidate of that type is queried with `Q(pk=None)` alone and stays as it is. -/
example :
    queryBatch ⟨[storedE], [], [], by decide, by decide⟩
        [some ⟨⟨unitE, [("name", "y")], true, "default", by decide⟩, []⟩] =
      .ok [some ⟨⟨unitE, [("name", "y")], true, "default", by decide⟩, []⟩] := rfl

/-! ### Batches of several content types -/

/-- The stored `a.unit` named `x` replaces both an `a.unit` candidate named `x` and a
`b.unit` candidate named `x`: the walk compares only the fields of the record's type. -/
theorem queryBatch_replaces_other_type :
    queryBatch ⟨[storedA], [], [], by decide, by decide⟩
        [some ⟨⟨unitA, [("name", "x")], true, "default", by decide⟩, []⟩,
         some ⟨⟨unitB, [("name", "x"), ("version", "1")], true, "default", by decide⟩, []⟩] =
      .ok [some ⟨storedA, []⟩, some ⟨storedA, []⟩] := rfl

end Pulpcore
