import Pulpcore.Models.Basic
import Pulpcore.Serializers.Json
import Pulpcore.Serializers.Text
import Mathlib.Data.Nat.Digits

/-!
# Serializer fields

Django REST framework's fields, as the domain serializers declare them. A field's
`run_validation` (`SerializerField.runValidation`) first settles a missing or null value
(`validate_empty_values`): a missing value is skipped on a partial update, refused when the
field is required, and otherwise is the field's default, which is not validated, or skipped
when there is none; `null` passes only a field that allows it. Any other value goes through
the kind's `to_internal_value` and then its validators, which all run and whose messages are
all kept (`FieldKind.toInternalValue`). `Serializer.to_internal_value`
(`serializerToInternalValue`) runs every field on the value `get_value` finds for it, keeps
the errors of all fields under their names, and otherwise returns the fields' values in their
order (`collectFields`).

A value a kind returns passes the kind again unchanged (`FieldKind.toInternalValue_stable`);
for `IntegerField` this is `int(str(n)) = n` (`pyIntOfString_toString`). So a serializer
whose defaults pass their own fields takes its own validated data back unchanged
(`serializerToInternalValue_stable`).
-/

namespace Pulpcore

/-- `serializer.errors`: each message under its path of field names and list indices. -/
abbrev Errors := List (List String × String)

def messagesAt (messages : List String) : Errors := messages.map fun m => ([], m)

/-- The errors of fields or list items, each under its key. -/
def nestErrors (errors : List (String × Errors)) : Errors :=
  errors.flatMap fun e => e.2.map fun pm => (e.1 :: pm.1, pm.2)

/-- `run_validators`: every validator runs; the value passes when none reports a message. -/
def checkValidators {α : Type} (messages : List String) (value : α) : Except Errors α :=
  if messages = [] then .ok value else .error (messagesAt messages)

lemma checkValidators_eq_ok {α : Type} {messages : List String} {value w : α} :
    checkValidators messages value = .ok w ↔ messages = [] ∧ value = w := by
  unfold checkValidators; split <;> simp_all

/-! ### Collecting outcomes -/

def okOutcomes {α : Type} (outcomes : List (String × Except Errors α)) : List (String × α) :=
  outcomes.filterMap fun o => match o.2 with
    | .ok v => some (o.1, v)
    | .error _ => none

def failedOutcomes {α : Type} (outcomes : List (String × Except Errors α)) :
    List (String × Errors) :=
  outcomes.filterMap fun o => match o.2 with
    | .ok _ => none
    | .error e => some (o.1, e)

/-- The loop of `Serializer.to_internal_value` over outcomes: values, and errors by name. -/
def partitionOutcomes {α : Type} (outcomes : List (String × Except Errors α)) :
    List (String × α) × List (String × Errors) :=
  outcomes.foldl (fun acc o => match o.2 with
    | .ok v => (acc.1 ++ [(o.1, v)], acc.2)
    | .error e => (acc.1, acc.2 ++ [(o.1, e)])) ([], [])

lemma partitionOutcomes_eq {α : Type} (outcomes : List (String × Except Errors α)) :
    partitionOutcomes outcomes = (okOutcomes outcomes, failedOutcomes outcomes) := by
  suffices h : ∀ (acc : List (String × α) × List (String × Errors)),
      outcomes.foldl (fun acc o => match o.2 with
        | .ok v => (acc.1 ++ [(o.1, v)], acc.2)
        | .error e => (acc.1, acc.2 ++ [(o.1, e)])) acc =
        (acc.1 ++ okOutcomes outcomes, acc.2 ++ failedOutcomes outcomes) by
    simpa using h ([], [])
  induction outcomes with
  | nil => simp [okOutcomes, failedOutcomes]
  | cons o rest ih =>
    obtain ⟨k, r⟩ := o
    intro acc
    cases r <;> simp [ih, okOutcomes, failedOutcomes]

lemma failedOutcomes_eq_nil_iff {α : Type} {outcomes : List (String × Except Errors α)} :
    failedOutcomes outcomes = [] ↔
      outcomes = (okOutcomes outcomes).map fun kv => (kv.1, .ok kv.2) := by
  induction outcomes with
  | nil => simp [okOutcomes, failedOutcomes]
  | cons o rest ih =>
    obtain ⟨k, r⟩ := o
    cases r with
    | ok v => simp_all [okOutcomes, failedOutcomes]
    | error e =>
      simp only [failedOutcomes, List.filterMap_cons, reduceCtorEq, false_iff]
      intro h
      have hm : (k, Except.error e) ∈ (okOutcomes ((k, .error e) :: rest)).map
          fun kv => (kv.1, (.ok kv.2 : Except Errors α)) := h ▸ List.mem_cons_self _ _
      simp at hm

@[simp] lemma okOutcomes_map_ok {α : Type} (l : List (String × α)) :
    okOutcomes (l.map fun kv => (kv.1, (.ok kv.2 : Except Errors α))) = l := by
  induction l with
  | nil => rfl
  | cons kv rest ih => simpa [okOutcomes] using ih

@[simp] lemma okOutcomes_map_ok' {α β : Type} (l : List β) (key : β → String) (val : β → α) :
    okOutcomes (l.map fun e => (key e, (.ok (val e) : Except Errors α))) =
      l.map fun e => (key e, val e) := by
  induction l with
  | nil => rfl
  | cons e rest ih => simpa [okOutcomes] using ih

@[simp] lemma failedOutcomes_map_ok {α β : Type} (l : List β) (key : β → String) (val : β → α) :
    failedOutcomes (l.map fun e => (key e, (.ok (val e) : Except Errors α))) = [] := by
  induction l with
  | nil => rfl
  | cons e rest ih => simp [failedOutcomes]

/-- `Serializer.to_internal_value` once every field has run (`none`: skipped). -/
def collectFields (outcomes : List (String × Except Errors (Option JsonValue))) :
    Except Errors (PyDict JsonValue) :=
  let result := partitionOutcomes outcomes
  if result.2.isEmpty then .ok (PyDict.ofList (result.1.filterMap fun kv => kv.2.map (kv.1, ·)))
  else .error (nestErrors result.2)

lemma collectFields_eq_ok {outcomes : List (String × Except Errors (Option JsonValue))}
    {ret : PyDict JsonValue} :
    collectFields outcomes = .ok ret ↔
      ∃ values : List (String × Option JsonValue),
        outcomes = values.map (fun kv => (kv.1, .ok kv.2)) ∧
        ret = PyDict.ofList (values.filterMap fun kv => kv.2.map (kv.1, ·)) := by
  rw [collectFields, partitionOutcomes_eq]
  constructor
  · intro h
    cases hf : failedOutcomes outcomes with
    | nil =>
      simp only [hf, List.isEmpty_nil, ↓reduceIte, Except.ok.injEq] at h
      exact ⟨okOutcomes outcomes, failedOutcomes_eq_nil_iff.mp hf, h.symm⟩
    | cons e rest => simp [hf] at h
  · rintro ⟨values, rfl, rfl⟩
    simp

lemma get?_ofList (l : List (String × JsonValue)) (k : String) :
    (PyDict.ofList l).get? k = PyDict.lookup k l.reverse := by
  rw [PyDict.ofList, PyDict.get?_setAll]; cases PyDict.lookup k l.reverse <;> rfl

lemma lookup_filterMap_of_mem {l : List (String × Option JsonValue)} {k : String}
    {x : Option JsonValue} (hnd : (l.map Prod.fst).Nodup) (hk : (k, x) ∈ l) :
    PyDict.lookup k (l.filterMap fun kv => kv.2.map (kv.1, ·)) = x := by
  induction l with
  | nil => cases hk
  | cons kv rest ih =>
    obtain ⟨k', x'⟩ := kv
    rw [List.map_cons, List.nodup_cons] at hnd
    rcases List.mem_cons.mp hk with he | hm
    · cases he
      have hnone : PyDict.lookup k (rest.filterMap fun kv => kv.2.map (kv.1, ·)) = none := by
        rw [← Option.not_isSome_iff_eq_none, PyDict.lookup_isSome_iff]
        intro hmem
        apply hnd.1
        simp only [List.mem_map, List.mem_filterMap, Option.map_eq_some'] at hmem ⊢
        obtain ⟨_, ⟨a, ha, v, hv, rfl⟩, rfl⟩ := hmem
        exact ⟨a, ha, rfl⟩
      cases x <;> simp [List.filterMap_cons, PyDict.lookup, hnone]
    · have hk' : k' ≠ k := fun e => hnd.1 (List.mem_map.mpr ⟨(k, x), hm, e.symm⟩)
      cases x' <;> simp [List.filterMap_cons, PyDict.lookup, hk', ih hnd.2 hm]

lemma get?_collectFields {outcomes : List (String × Except Errors (Option JsonValue))}
    {ret : PyDict JsonValue} (h : collectFields outcomes = .ok ret)
    (hnd : (outcomes.map Prod.fst).Nodup) {k : String} {x : Option JsonValue}
    (hk : (k, .ok x) ∈ outcomes) : ret.get? k = x := by
  obtain ⟨values, rfl, rfl⟩ := collectFields_eq_ok.mp h
  have hvnd : (values.map Prod.fst).Nodup := by simpa [Function.comp_def] using hnd
  have hkx : (k, x) ∈ values := by
    obtain ⟨⟨k', x'⟩, hm, he⟩ := List.mem_map.mp hk
    cases he; exact hm
  rw [get?_ofList, ← List.filterMap_reverse]
  exact lookup_filterMap_of_mem (by rw [List.map_reverse]; exact List.nodup_reverse.mpr hvnd)
    (List.mem_reverse.mpr hkx)

lemma outcome_eq_of_collectFields {outcomes : List (String × Except Errors (Option JsonValue))}
    {ret : PyDict JsonValue} (h : collectFields outcomes = .ok ret)
    (hnd : (outcomes.map Prod.fst).Nodup) {k : String} {o : Except Errors (Option JsonValue)}
    (hk : (k, o) ∈ outcomes) : o = .ok (ret.get? k) := by
  obtain ⟨values, hvals, -⟩ := collectFields_eq_ok.mp h
  obtain ⟨⟨k', x⟩, -, he⟩ := List.mem_map.mp (hvals ▸ hk)
  cases he
  rw [get?_collectFields h hnd hk]

/-! ### Python's `int()` on a str -/

def digitValue (c : Char) : Nat := c.toNat - '0'.toNat

/-- One character of an `int()` literal: a digit shifts in, an underscore is skipped. -/
def digitStep (n : Nat) (c : Char) : Nat := if c.isDigit then 10 * n + digitValue c else n

def digitsValue (s : List Char) : Nat := s.foldl digitStep 0

/-- The body of an `int()` literal: decimal digits, single underscores between them. -/
def isIntBody (s : List Char) : Bool :=
  s.all (fun c => c.isDigit || c = '_') && s.head?.any Char.isDigit &&
    s.getLast?.any Char.isDigit && !decide (['_', '_'] <:+: s)

/-- The sign of an `int()` literal and the text after it. -/
def splitSign : List Char → Bool × List Char
  | c :: rest => if c = '-' then (true, rest) else if c = '+' then (false, rest) else (false, c :: rest)
  | [] => (false, [])

/-- `int(s)` for a str written in ASCII digits: a signed literal in white space. -/
def pyIntOfString (s : List Char) : Option Int :=
  let (negative, body) := splitSign (strip s)
  if isIntBody body then
    some (if negative then -(digitsValue body : Int) else digitsValue body)
  else none

/-- `IntegerField.re_decimal.sub('', s)`: a tail `.0*` then white space is dropped. -/
def reDecimalSub : List Char → List Char
  | [] => []
  | c :: rest =>
    if c = '.' ∧ (rest.dropWhile (· = '0')).all pyIsSpace then [] else c :: reDecimalSub rest

/-- The characters `Nat.toDigits` writes in base ten. -/
def IsDecimalDigit (c : Char) : Prop := ∃ d < 10, Nat.digitChar d = c

lemma isDecimalDigit_facts {c : Char} (hc : IsDecimalDigit c) :
    c.isDigit ∧ pyIsSpace c = false ∧ c ≠ '.' ∧ c ≠ '_' ∧ c ≠ '-' ∧ c ≠ '+' := by
  obtain ⟨d, hd, rfl⟩ := hc
  have h : ∀ d, d < 10 → (Nat.digitChar d).isDigit ∧ pyIsSpace (Nat.digitChar d) = false ∧
      Nat.digitChar d ≠ '.' ∧ Nat.digitChar d ≠ '_' ∧ Nat.digitChar d ≠ '-' ∧
      Nat.digitChar d ≠ '+' := by decide
  exact h d hd

lemma digitStep_digitChar (n : Nat) {d : Nat} (hd : d < 10) :
    digitStep n (Nat.digitChar d) = 10 * n + d := by
  have h : ∀ d, d < 10 → (Nat.digitChar d).isDigit ∧ digitValue (Nat.digitChar d) = d := by
    decide
  simp [digitStep, (h d hd).1, (h d hd).2]

lemma mem_toDigitsCore : ∀ (fuel n : Nat) (ds : List Char),
    ∀ c ∈ Nat.toDigitsCore 10 fuel n ds, c ∈ ds ∨ IsDecimalDigit c
  | 0, _, _, c, hc => .inl hc
  | fuel + 1, n, ds, c, hc => by
    simp only [Nat.toDigitsCore] at hc
    have hdigit : IsDecimalDigit (Nat.digitChar (n % 10)) := ⟨n % 10, Nat.mod_lt _ (by omega), rfl⟩
    split at hc
    · rcases List.mem_cons.mp hc with rfl | hc
      · exact .inr hdigit
      · exact .inl hc
    · rcases mem_toDigitsCore fuel (n / 10) _ c hc with hc | hc
      · rcases List.mem_cons.mp hc with rfl | hc
        · exact .inr hdigit
        · exact .inl hc
      · exact .inr hc

lemma toDigitsCore_ne_nil : ∀ (fuel n : Nat) (ds : List Char), (0 < fuel ∨ ds ≠ []) →
    Nat.toDigitsCore 10 fuel n ds ≠ []
  | 0, _, _, h => by simpa using h
  | fuel + 1, n, ds, _ => by
    simp only [Nat.toDigitsCore]
    split
    · exact List.cons_ne_nil _ _
    · exact toDigitsCore_ne_nil fuel _ _ (.inr (List.cons_ne_nil _ _))

lemma foldl_digitStep_toDigitsCore : ∀ (fuel n : Nat) (ds : List Char), n < fuel →
    (Nat.toDigitsCore 10 fuel n ds).foldl digitStep 0 = ds.foldl digitStep n
  | 0, _, _, h => absurd h (Nat.not_lt_zero _)
  | fuel + 1, n, ds, h => by
    simp only [Nat.toDigitsCore]
    split
    · next h0 =>
      rw [List.foldl_cons, digitStep_digitChar 0 (Nat.mod_lt _ (by omega))]
      congr 1
      omega
    · next h0 =>
      rw [foldl_digitStep_toDigitsCore fuel _ _ (by omega), List.foldl_cons,
        digitStep_digitChar _ (Nat.mod_lt _ (by omega)), Nat.div_add_mod]

lemma reDecimalSub_of_not_mem {s : List Char} (h : '.' ∉ s) : reDecimalSub s = s := by
  induction s with
  | nil => rfl
  | cons c rest ih =>
    rw [List.mem_cons, not_or] at h
    simp [reDecimalSub, Ne.symm h.1, ih h.2]

lemma toDigits_ne_nil (n : Nat) : Nat.toDigits 10 n ≠ [] :=
  toDigitsCore_ne_nil _ _ _ (.inl (Nat.succ_pos n))

lemma isIntBody_toDigits (n : Nat) :
    isIntBody (Nat.toDigits 10 n) = true ∧ ∀ c ∈ Nat.toDigits 10 n, IsDecimalDigit c := by
  have hdig : ∀ c ∈ Nat.toDigits 10 n, IsDecimalDigit c := fun c hc =>
    (mem_toDigitsCore _ _ _ c hc).resolve_left (List.not_mem_nil c)
  refine ⟨?_, hdig⟩
  obtain ⟨first, hfirst⟩ :=
    Option.ne_none_iff_exists'.mp (mt List.head?_eq_none_iff.mp (toDigits_ne_nil n))
  obtain ⟨last, hlast⟩ :=
    Option.ne_none_iff_exists'.mp (mt List.getLast?_eq_none_iff.mp (toDigits_ne_nil n))
  have hall : (Nat.toDigits 10 n).all (fun c => c.isDigit || c = '_') = true :=
    List.all_eq_true.mpr fun c hc => by simp [(isDecimalDigit_facts (hdig c hc)).1]
  have hhead : (Nat.toDigits 10 n).head?.any Char.isDigit = true := by
    rw [hfirst]; exact (isDecimalDigit_facts (hdig first (List.mem_of_mem_head? hfirst))).1
  have hend : (Nat.toDigits 10 n).getLast?.any Char.isDigit = true := by
    rw [hlast]; exact (isDecimalDigit_facts (hdig last (List.mem_of_mem_getLast? hlast))).1
  have hunder : ¬ ['_', '_'] <:+: Nat.toDigits 10 n := fun hinf =>
    (isDecimalDigit_facts (hdig '_' (hinf.subset (List.mem_cons_self _ _)))).2.2.2.1 rfl
  rw [isIntBody, hall, hhead, hend, decide_eq_false hunder]; rfl

/-- `int(re_decimal.sub('', str(n))) = n`: what `IntegerField` does to an int gives it back. -/
lemma pyIntOfString_toString (n : Int) :
    pyIntOfString (reDecimalSub (toString n).toList) = some n := by
  have hvalue (m : Nat) : digitsValue (Nat.toDigits 10 m) = m := by
    rw [digitsValue, Nat.toDigits, foldl_digitStep_toDigitsCore _ _ _ (Nat.lt_succ_self m)]; rfl
  cases n with
  | ofNat m =>
    obtain ⟨hbody, hdig⟩ := isIntBody_toDigits m
    have hstr : (toString (Int.ofNat m)).toList = Nat.toDigits 10 m := rfl
    obtain ⟨c, rest, hcr⟩ := List.exists_cons_of_ne_nil (toDigits_ne_nil m)
    have hc := isDecimalDigit_facts (hdig c (hcr ▸ List.mem_cons_self c rest))
    rw [hstr, reDecimalSub_of_not_mem (fun h => (isDecimalDigit_facts (hdig _ h)).2.2.1 rfl),
      pyIntOfString, strip_of_forall_not_space (fun c hc => (isDecimalDigit_facts (hdig c hc)).2.1)]
    have hbody' : isIntBody (c :: rest) = true := hcr ▸ hbody
    have hvalue' : digitsValue (c :: rest) = m := hcr ▸ hvalue m
    simp only [hcr, splitSign, hc.2.2.2.2.1, hc.2.2.2.2.2, ↓reduceIte, hbody', hvalue']
    rfl
  | negSucc m =>
    obtain ⟨hbody, hdig⟩ := isIntBody_toDigits (m + 1)
    have hstr : (toString (Int.negSucc m)).toList = '-' :: Nat.toDigits 10 (m + 1) := rfl
    have hnot : ∀ c ∈ '-' :: Nat.toDigits 10 (m + 1), pyIsSpace c = false ∧ c ≠ '.' := by
      intro c hc
      rcases List.mem_cons.mp hc with rfl | hc
      · decide
      · exact ⟨(isDecimalDigit_facts (hdig c hc)).2.1, (isDecimalDigit_facts (hdig c hc)).2.2.1⟩
    rw [hstr, reDecimalSub_of_not_mem (fun h => (hnot _ h).2 rfl), pyIntOfString,
      strip_of_forall_not_space (fun c hc => (hnot c hc).1)]
    simp only [splitSign, ↓reduceIte, hbody, hvalue]
    rfl

lemma toString_int_chars (n : Int) :
    (toString n).toList ≠ [] ∧ ∀ c ∈ (toString n).toList, pyIsSpace c = false ∧ c ≠ '.' := by
  cases n with
  | ofNat m =>
    refine ⟨toDigits_ne_nil m, fun c hc => ?_⟩
    have hc := isDecimalDigit_facts ((isIntBody_toDigits m).2 c hc)
    exact ⟨hc.2.1, hc.2.2.1⟩
  | negSucc m =>
    refine ⟨List.cons_ne_nil _ _, fun c hc => ?_⟩
    rcases List.mem_cons.mp hc with rfl | hc
    · decide
    · have hc := isDecimalDigit_facts ((isIntBody_toDigits (m + 1)).2 c hc)
      exact ⟨hc.2.1, hc.2.2.1⟩

/-! ### Field kinds -/

/-- The kinds of field the domain serializers declare; every `CharField` trims. -/
inductive FieldKind where
  /-- `CharField(allow_blank=...)`. -/
  | char (allowBlank : Bool)
  /-- `SlugField(max_length=...)`. -/
  | slug (maxLength : Nat)
  /-- `IntegerField(max_value=...)`. -/
  | integer (maxValue : Option Int)
  /-- `BooleanField()`. -/
  | boolean
  /-- `DictField()`, whose child takes any value. -/
  | dict
  /-- `ListField(child=CharField())`. -/
  | charList
  /-- `ChoiceField(choices=...)`, with the choices' keys. -/
  | choice (choices : List String)
  /-- `HiddenField(default=...)`. -/
  | hidden
  deriving DecidableEq

/-- `CharField.run_validation` up to its validators. -/
def charValue (allowBlank : Bool) : JsonValue → Except Errors String
  | .str s =>
    if strip s.toList = [] then
      if allowBlank then .ok "" else .error (messagesAt ["This field may not be blank."])
    else .ok (String.mk (strip s.toList))
  | .int n => .ok (String.mk (strip (toString n).toList))
  | _ => .error (messagesAt ["Not a valid string."])

/-- `ProhibitNullCharactersValidator`, which every `CharField` runs. -/
def nullCharacterErrors (s : String) : List String :=
  if '\x00' ∈ s.toList then ["Null characters are not allowed."] else []

/-- The characters of `^[-a-zA-Z0-9_]+$`, the pattern of a `SlugField`. -/
def isSlugChar (c : Char) : Bool := c.isAlphanum || c = '-' || c = '_'

/-- A `SlugField`'s validators: maximum length, null characters, the slug pattern. -/
def slugErrors (maxLength : Nat) (s : String) : List String :=
  (if s.length > maxLength then
    ["Ensure this field has no more than " ++ toString maxLength ++ " characters."] else []) ++
  nullCharacterErrors s ++
  (if s.toList ≠ [] ∧ s.toList.all isSlugChar = true then [] else
    ["Enter a valid \"slug\" consisting of letters, numbers, underscores or hyphens."])

/-- `IntegerField.to_internal_value`: `int(re_decimal.sub('', str(data)))`. -/
def integerValue (data : JsonValue) : Except Errors Int :=
  let tooLong := match data with
    | .str s => decide (s.length > 1000)
    | _ => false
  if tooLong then .error (messagesAt ["String value too large."])
  else match pyIntOfString (reDecimalSub data.pyStr.toList) with
    | some n => .ok n
    | none => .error (messagesAt ["A valid integer is required."])

/-- `MaxValueValidator`, for a field with a `max_value`. -/
def maxValueErrors (maxValue : Option Int) (n : Int) : List String :=
  match maxValue with
  | some m => if n > m then ["Ensure this value is less than or equal to " ++ toString m ++ "."] else []
  | none => []

/-- The strings of `BooleanField.TRUE_VALUES`. -/
def trueStrings : List String :=
  ["t", "T", "y", "Y", "yes", "Yes", "YES", "true", "True", "TRUE", "on", "On", "ON", "1"]

/-- The strings of `BooleanField.FALSE_VALUES`. -/
def falseStrings : List String :=
  ["f", "F", "n", "N", "no", "No", "NO", "false", "False", "FALSE", "off", "Off", "OFF", "0"]

/-- The strings of `BooleanField.NULL_VALUES`. -/
def nullStrings : List String := ["null", "Null", "NULL", ""]

/-- `BooleanField.to_internal_value`. -/
def booleanValue (allowNull : Bool) : JsonValue → Except Errors JsonValue
  | .bool b => .ok (.bool b)
  | .int n =>
    if n = 1 then .ok (.bool true) else if n = 0 then .ok (.bool false)
    else .error (messagesAt ["Must be a valid boolean."])
  | .str s =>
    if s ∈ trueStrings then .ok (.bool true) else if s ∈ falseStrings then .ok (.bool false)
    else if s ∈ nullStrings ∧ allowNull then .ok .none
    else .error (messagesAt ["Must be a valid boolean."])
  | .none => if allowNull then .ok .none else .error (messagesAt ["Must be a valid boolean."])
  | _ => .error (messagesAt ["Must be a valid boolean."])

/-- `DictField.to_internal_value`: a dict, whose values its child takes as they are. -/
def dictValue : JsonValue → Except Errors JsonValue
  | .dict entries => .ok (.dict (PyDict.ofList entries).entries)
  | v => .error (messagesAt ["Expected a dictionary of items but got type \"" ++ v.typeName ++ "\"."])

/-- The child `CharField()` of a `ListField`, on one item. -/
def listItemValue : JsonValue → Except Errors JsonValue
  | .none => .error (messagesAt ["This field may not be null."])
  | v => do
    let s ← charValue false v
    checkValidators (nullCharacterErrors s) (.str s)

/-- `ListField.to_internal_value`, with the errors of the items under their index. -/
def listValue : JsonValue → Except Errors JsonValue
  | .list items =>
    let result := partitionOutcomes (items.enum.map fun e => (toString e.1, listItemValue e.2))
    if result.2.isEmpty then .ok (.list (result.1.map Prod.snd))
    else .error (nestErrors result.2)
  | v => .error (messagesAt ["Expected a list of items but got type \"" ++ v.typeName ++ "\"."])

/-- `ChoiceField.to_internal_value`: the choice whose key is `str(data)`. -/
def choiceValue (choices : List String) (v : JsonValue) : Except Errors JsonValue :=
  if v.pyStr ∈ choices then .ok (.str v.pyStr)
  else .error (messagesAt ["\"" ++ v.pyStr ++ "\" is not a valid choice."])

/-- A kind's `to_internal_value` and validators, on a value neither missing nor `null`. -/
def FieldKind.toInternalValue (allowNull : Bool) : FieldKind → JsonValue → Except Errors JsonValue
  | .char allowBlank, v => do
    let s ← charValue allowBlank v
    checkValidators (nullCharacterErrors s) (.str s)
  | .slug maxLength, v => do
    let s ← charValue false v
    checkValidators (slugErrors maxLength s) (.str s)
  | .integer maxValue, v => do
    let n ← integerValue v
    checkValidators (maxValueErrors maxValue n) (.int n)
  | .boolean, v => booleanValue allowNull v
  | .dict, v => dictValue v
  | .charList, v => listValue v
  | .choice choices, v => choiceValue choices v
  | .hidden, v => .ok v

/-! ### Fields -/

/-- A declared field: name, kind, `required`, `allow_null` and `default`. -/
structure SerializerField (κ : Type) where
  name : String
  kind : κ
  required : Bool
  allowNull : Bool
  default : Option JsonValue
  deriving DecidableEq

/-- `Field.run_validation`, with `convert` for the kind; `none` for a `SkipField`. -/
def SerializerField.runValidation {κ : Type} (f : SerializerField κ)
    (convert : JsonValue → Except Errors JsonValue) (partialUpdate : Bool) :
    Option JsonValue → Except Errors (Option JsonValue)
  | none =>
    if partialUpdate then .ok none
    else if f.required then .error (messagesAt ["This field is required."])
    else .ok f.default
  | some .none =>
    if f.allowNull then .ok (some .none) else .error (messagesAt ["This field may not be null."])
  | some v => some <$> convert v

/-- `get_value`: the value under the field's name; a `HiddenField` finds none. -/
def SerializerField.getValue (f : SerializerField FieldKind) (data : PyDict JsonValue) :
    Option JsonValue :=
  if f.kind = .hidden then none else data.get? f.name

/-- One plain field in `Serializer.to_internal_value`. -/
def SerializerField.run (partialUpdate : Bool) (f : SerializerField FieldKind)
    (data : PyDict JsonValue) : Except Errors (Option JsonValue) :=
  f.runValidation (f.kind.toInternalValue f.allowNull) partialUpdate (f.getValue data)

/-- `Serializer.to_internal_value` for a serializer of plain fields. -/
def serializerToInternalValue (partialUpdate : Bool) (fields : List (SerializerField FieldKind))
    (data : PyDict JsonValue) : Except Errors (PyDict JsonValue) :=
  collectFields (fields.map fun f => (f.name, f.run partialUpdate data))

/-- The field takes its default back unchanged. -/
def SerializerField.DefaultValid (f : SerializerField FieldKind) : Prop :=
  ∀ d ∈ f.default,
    f.runValidation (f.kind.toInternalValue f.allowNull) false (some d) = .ok (some d)

instance (f : SerializerField FieldKind) : Decidable f.DefaultValid :=
  inferInstanceAs (Decidable (∀ d ∈ f.default, _))

/-! ### What a field returns, it takes back -/

lemma charValue_stable {allowBlank : Bool} {v : JsonValue} {s : String}
    (h : charValue allowBlank v = .ok s) : charValue allowBlank (.str s) = .ok s := by
  cases v with
  | str t =>
    simp only [charValue] at h
    by_cases hb : strip t.toList = []
    · rw [if_pos hb] at h
      cases allowBlank
      · cases h
      · cases h; decide
    · rw [if_neg hb] at h
      cases h
      rw [charValue, toList_stringMk, strip_strip, if_neg hb]
  | int n =>
    simp only [charValue, Except.ok.injEq] at h
    subst h
    have hs : strip (toString n).toList = (toString n).toList :=
      strip_of_forall_not_space fun c hc => ((toString_int_chars n).2 c hc).1
    rw [charValue, toList_stringMk, strip_strip, hs, if_neg (toString_int_chars n).1]
  | none | bool _ | list _ | dict _ => cases h

lemma integerValue_int (n : Int) : integerValue (.int n) = .ok n := by
  simp only [integerValue, JsonValue.pyStr, JsonValue.pyRepr, pyIntOfString_toString]
  rfl

lemma booleanValue_eq_ok {allowNull : Bool} {v w : JsonValue} (h : booleanValue allowNull v = .ok w) :
    (∃ b, w = .bool b) ∨ (w = .none ∧ allowNull = true) := by
  unfold booleanValue at h
  split at h <;> (try split at h) <;> (try split at h) <;> (try split at h) <;>
    first | (cases h; simp_all) | cases h

lemma listItemValue_eq_ok {v w : JsonValue} (h : listItemValue v = .ok w) :
    ∃ s, w = .str s ∧ listItemValue w = .ok w := by
  cases v with
  | none => cases h
  | _ =>
    simp only [listItemValue, except_bind_eq_ok, checkValidators_eq_ok] at h
    obtain ⟨s, hs, hnull, rfl⟩ := h
    exact ⟨s, rfl, by simp [listItemValue, charValue_stable hs, hnull, checkValidators]⟩

lemma listValue_of_ok {values : List JsonValue} (h : ∀ x ∈ values, listItemValue x = .ok x) :
    listValue (.list values) = .ok (.list values) := by
  have hout : (values.enum.map fun e => (toString e.1, listItemValue e.2)) =
      values.enum.map fun e => (toString e.1, .ok e.2) :=
    List.map_congr_left fun e he => by simp [h e.2 (List.snd_mem_of_mem_enum he)]
  simp only [listValue, hout, partitionOutcomes_eq, failedOutcomes_map_ok, okOutcomes_map_ok',
    List.map_map]
  simp [Function.comp_def, List.enum_map_snd]

lemma listValue_eq_ok {v w : JsonValue} (h : listValue v = .ok w) :
    ∃ values, w = .list values ∧ ∀ x ∈ values, listItemValue x = .ok x := by
  cases v with
  | list items =>
    simp only [listValue, partitionOutcomes_eq] at h
    cases hf : failedOutcomes (items.enum.map fun e => (toString e.1, listItemValue e.2)) with
    | cons _ _ => simp [hf] at h
    | nil =>
      simp only [hf, List.isEmpty_nil, ↓reduceIte, Except.ok.injEq] at h
      subst h
      refine ⟨_, rfl, fun x hx => ?_⟩
      obtain ⟨kv, hkv, rfl⟩ := List.mem_map.mp hx
      have hmem : (kv.1, Except.ok kv.2) ∈
          items.enum.map fun e => (toString e.1, listItemValue e.2) := by
        rw [failedOutcomes_eq_nil_iff.mp hf]; exact List.mem_map_of_mem _ hkv
      obtain ⟨e, -, he⟩ := List.mem_map.mp hmem
      obtain ⟨-, -, hx⟩ := listItemValue_eq_ok (congrArg Prod.snd he)
      exact hx
  | none | bool _ | int _ | str _ | dict _ => cases h

/-- A kind takes back what it returned, but for the `None` of a null string. -/
theorem FieldKind.toInternalValue_stable {k : FieldKind} {allowNull : Bool} {v w : JsonValue}
    (hv : v ≠ .none) (h : k.toInternalValue allowNull v = .ok w) :
    (w = .none ∧ allowNull = true) ∨ (w ≠ .none ∧ k.toInternalValue allowNull w = .ok w) := by
  cases k with
  | char _ | slug _ =>
    simp only [toInternalValue, except_bind_eq_ok, checkValidators_eq_ok] at h
    obtain ⟨s, hs, hmessages, rfl⟩ := h
    exact .inr ⟨nofun, by simp [toInternalValue, charValue_stable hs, hmessages, checkValidators]⟩
  | integer maxValue =>
    simp only [toInternalValue, except_bind_eq_ok, checkValidators_eq_ok] at h
    obtain ⟨n, -, hmax, rfl⟩ := h
    exact .inr ⟨nofun, by simp [toInternalValue, integerValue_int, hmax, checkValidators]⟩
  | boolean =>
    rcases booleanValue_eq_ok h with ⟨b, rfl⟩ | hnone
    · exact .inr ⟨nofun, rfl⟩
    · exact .inl hnone
  | dict =>
    cases v <;> simp only [toInternalValue, dictValue, Except.ok.injEq, reduceCtorEq] at h
    subst h
    exact .inr ⟨nofun, by simp [toInternalValue, dictValue]⟩
  | charList =>
    obtain ⟨values, rfl, hvalues⟩ := listValue_eq_ok h
    exact .inr ⟨nofun, listValue_of_ok hvalues⟩
  | choice choices =>
    simp only [toInternalValue, choiceValue] at h
    split at h
    · next hmem =>
      cases h
      exact .inr ⟨nofun, by simp only [toInternalValue, choiceValue, JsonValue.pyStr_str, if_pos hmem]⟩
    · cases h
  | hidden =>
    cases h
    exact .inr ⟨hv, rfl⟩

section RunValidation

variable {κ : Type} (f : SerializerField κ) (convert : JsonValue → Except Errors JsonValue)
  (partialUpdate : Bool)

lemma SerializerField.runValidation_none :
    f.runValidation convert partialUpdate none =
      if partialUpdate then .ok none
      else if f.required then .error (messagesAt ["This field is required."])
      else .ok f.default := rfl

lemma SerializerField.runValidation_some_none :
    f.runValidation convert partialUpdate (some .none) =
      if f.allowNull then .ok (some .none)
      else .error (messagesAt ["This field may not be null."]) := rfl

lemma SerializerField.runValidation_some {w : JsonValue} (hw : w ≠ .none) :
    f.runValidation convert partialUpdate (some w) = some <$> convert w := by
  cases w <;> first | exact absurd rfl hw | rfl

variable {f convert partialUpdate}

lemma SerializerField.runValidation_eq_ok_none {x : Option JsonValue}
    (h : f.runValidation convert false x = .ok none) : x = none := by
  rcases x with _ | w
  · rfl
  · by_cases hw : w = .none
    · subst hw
      rw [runValidation_some_none] at h
      split at h <;> cases h
    · rw [runValidation_some _ _ _ hw, except_map_eq_ok] at h
      obtain ⟨_, -, h⟩ := h
      cases h

lemma SerializerField.runValidation_required_eq_ok (hreq : f.required = true)
    (hnull : f.allowNull = false) {x y : Option JsonValue}
    (h : f.runValidation convert partialUpdate x = .ok y) :
    (y = none ∧ partialUpdate = true ∧ x = none) ∨
      ∃ v w, x = some v ∧ convert v = .ok w ∧ y = some w := by
  rcases x with _ | v
  · rw [runValidation_none] at h
    cases partialUpdate
    · simp [hreq] at h
    · exact .inl ⟨(Except.ok.inj h).symm, rfl, rfl⟩
  · by_cases hv : v = .none
    · subst hv
      simp [runValidation_some_none, hnull] at h
    · rw [runValidation_some _ _ _ hv, except_map_eq_ok] at h
      obtain ⟨w, hw, rfl⟩ := h
      exact .inr ⟨v, w, rfl, hw, rfl⟩

/-- A field takes back what it returned, when its kind does and its default passes it. -/
lemma SerializerField.runValidation_stable
    (hconv : ∀ v w, v ≠ .none → convert v = .ok w →
      (w = .none ∧ f.allowNull = true) ∨ (w ≠ .none ∧ convert w = .ok w))
    (hdef : ∀ d ∈ f.default, f.runValidation convert false (some d) = .ok (some d))
    {x : Option JsonValue} {w : JsonValue}
    (h : f.runValidation convert partialUpdate x = .ok (some w)) :
    f.runValidation convert false (some w) = .ok (some w) := by
  have hnull : f.allowNull = true →
      f.runValidation convert false (some .none) = .ok (some .none) := fun ha => by
    rw [runValidation_some_none, if_pos ha]
  rcases x with _ | v
  · rw [runValidation_none] at h
    cases partialUpdate
    · simp only [Bool.false_eq_true, ↓reduceIte] at h
      split at h
      · cases h
      · exact hdef w (Except.ok.inj h)
    · simp at h
  · by_cases hv : v = .none
    · subst hv
      rw [runValidation_some_none] at h
      split at h
      · cases h; exact hnull ‹_›
      · cases h
    · rw [runValidation_some _ _ _ hv, except_map_eq_ok] at h
      obtain ⟨w', hw', hsome⟩ := h
      cases hsome
      rcases hconv _ _ hv hw' with ⟨rfl, ha⟩ | ⟨hne, hw⟩
      · exact hnull ha
      · rw [runValidation_some _ _ _ hne, hw]; rfl

end RunValidation

lemma collectFields_run_eq {κ : Type} {fields : List (SerializerField κ)}
    {run : SerializerField κ → Except Errors (Option JsonValue)} {ret : PyDict JsonValue}
    (hnd : (fields.map (·.name)).Nodup) (h : collectFields (fields.map fun f => (f.name, run f)) = .ok ret)
    {f : SerializerField κ} (hf : f ∈ fields) : run f = .ok (ret.get? f.name) := by
  obtain ⟨values, hvals, -⟩ := collectFields_eq_ok.mp h
  have hmem : (f.name, run f) ∈ fields.map fun f => (f.name, run f) := List.mem_map_of_mem _ hf
  rw [hvals] at hmem
  obtain ⟨⟨k, x⟩, -, he⟩ := List.mem_map.mp hmem
  have hx : run f = .ok x := (congrArg Prod.snd he).symm
  rw [hx, get?_collectFields h (by simpa [Function.comp_def] using hnd)
    (hx ▸ List.mem_map_of_mem (fun f : SerializerField κ => (f.name, run f)) hf)]

lemma collectFields_stable {κ : Type} {fields : List (SerializerField κ)}
    {run run' : SerializerField κ → Except Errors (Option JsonValue)} {ret : PyDict JsonValue}
    (hnd : (fields.map (·.name)).Nodup) (h : collectFields (fields.map fun f => (f.name, run f)) = .ok ret)
    (hrun : ∀ f ∈ fields, run' f = .ok (ret.get? f.name)) :
    collectFields (fields.map fun f => (f.name, run' f)) = .ok ret := by
  rwa [List.map_congr_left fun f hf => by rw [hrun f hf, ← collectFields_run_eq hnd h hf]]

/-- A serializer of plain fields takes its own validated data back unchanged. -/
theorem serializerToInternalValue_stable {fields : List (SerializerField FieldKind)}
    {data ret : PyDict JsonValue} (hnd : (fields.map (·.name)).Nodup)
    (hdef : ∀ f ∈ fields, f.DefaultValid)
    (h : serializerToInternalValue false fields data = .ok ret) :
    serializerToInternalValue false fields ret = .ok ret :=
  collectFields_stable hnd h fun f hf => by
    have hx := collectFields_run_eq hnd h hf
    unfold SerializerField.run SerializerField.getValue at hx ⊢
    split
    · next hk => simpa [hk] using hx
    · next hk =>
      rw [if_neg hk] at hx
      cases hget : ret.get? f.name with
      | none => rw [hget] at hx; rwa [SerializerField.runValidation_eq_ok_none hx] at hx
      | some w =>
        rw [hget] at hx
        exact SerializerField.runValidation_stable
          (fun _ _ hv hvw => FieldKind.toInternalValue_stable hv hvw) (hdef f hf) hx

end Pulpcore
