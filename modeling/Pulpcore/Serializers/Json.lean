import Mathlib.Data.List.Nodup

/-!
# JSON values and Python dicts

The domain serializers read a request body that Django REST framework's JSON parser has turned
into Python values, and they keep a domain's storage settings as a JSON dict. `JsonValue` is
such a value: `None`, a bool, an int, a str, a list or a dict (floats are left out).

A Python `dict` is a `PyDict`: its entries in insertion order, each key once, which is the
order `d.items()` walks. `d[k] = v` replaces the value in place or appends an entry
(`PyDict.set`), `d.pop(k)` removes the entry, and `d.update(e)` and `{**d, **e}` assign the
entries of `e` in their order (`PyDict.update`). The lookup lemmas `get?_set`, `get?_pop` and
`get?_update` say what each does to every key.

Inside a `JsonValue` a dict keeps the entries as the parser read them, since a nested
inductive type cannot hold the proof that its keys are distinct. The dict they make is
`PyDict.ofList`, where a later entry under a key replaces the value of an earlier one, as
`dict(pairs)` does; on the entries of a dict it gives the dict back (`ofList_entries`).
-/

namespace Pulpcore

/-- A JSON value as a serializer receives it. -/
inductive JsonValue where
  | none
  | bool (b : Bool)
  | int (n : Int)
  | str (s : String)
  | list (items : List JsonValue)
  | dict (entries : List (String × JsonValue))

/-! ### Equality -/

mutual

/-- Equality of JSON values, by recursion through their lists and entries. -/
def JsonValue.decEq : (a b : JsonValue) → Decidable (a = b)
  | .none, .none => isTrue rfl
  | .bool a, .bool b => if h : a = b then isTrue (h ▸ rfl) else isFalse (by rintro ⟨⟩; exact h rfl)
  | .int a, .int b => if h : a = b then isTrue (h ▸ rfl) else isFalse (by rintro ⟨⟩; exact h rfl)
  | .str a, .str b => if h : a = b then isTrue (h ▸ rfl) else isFalse (by rintro ⟨⟩; exact h rfl)
  | .list a, .list b =>
    match JsonValue.decEqList a b with
    | isTrue h => isTrue (h ▸ rfl)
    | isFalse h => isFalse (by rintro ⟨⟩; exact h rfl)
  | .dict a, .dict b =>
    match JsonValue.decEqEntries a b with
    | isTrue h => isTrue (h ▸ rfl)
    | isFalse h => isFalse (by rintro ⟨⟩; exact h rfl)
  | .none, .bool _ | .none, .int _ | .none, .str _ | .none, .list _ | .none, .dict _
  | .bool _, .none | .bool _, .int _ | .bool _, .str _ | .bool _, .list _ | .bool _, .dict _
  | .int _, .none | .int _, .bool _ | .int _, .str _ | .int _, .list _ | .int _, .dict _
  | .str _, .none | .str _, .bool _ | .str _, .int _ | .str _, .list _ | .str _, .dict _
  | .list _, .none | .list _, .bool _ | .list _, .int _ | .list _, .str _ | .list _, .dict _
  | .dict _, .none | .dict _, .bool _ | .dict _, .int _ | .dict _, .str _ | .dict _, .list _ =>
    isFalse (by rintro ⟨⟩)

/-- Equality of lists of JSON values. -/
def JsonValue.decEqList : (a b : List JsonValue) → Decidable (a = b)
  | [], [] => isTrue rfl
  | [], _ :: _ | _ :: _, [] => isFalse (by rintro ⟨⟩)
  | a :: as, b :: bs =>
    match JsonValue.decEq a b, JsonValue.decEqList as bs with
    | isTrue h, isTrue h' => isTrue (h ▸ h' ▸ rfl)
    | isFalse h, _ => isFalse (by rintro ⟨⟩; exact h rfl)
    | _, isFalse h => isFalse (by rintro ⟨⟩; exact h rfl)

/-- Equality of the entries of JSON dicts. -/
def JsonValue.decEqEntries : (a b : List (String × JsonValue)) → Decidable (a = b)
  | [], [] => isTrue rfl
  | [], _ :: _ | _ :: _, [] => isFalse (by rintro ⟨⟩)
  | (k, a) :: as, (l, b) :: bs =>
    if hk : k = l then
      match JsonValue.decEq a b, JsonValue.decEqEntries as bs with
      | isTrue h, isTrue h' => isTrue (hk ▸ h ▸ h' ▸ rfl)
      | isFalse h, _ => isFalse (by rintro ⟨⟩; exact h rfl)
      | _, isFalse h => isFalse (by rintro ⟨⟩; exact h rfl)
    else isFalse (by rintro ⟨⟩; exact hk rfl)

end

instance : DecidableEq JsonValue := JsonValue.decEq

/-! ### What Python makes of a value -/

/-- Python's truth value: `None`, `False`, `0`, `""` and an empty list or dict are false. -/
def JsonValue.truthy : JsonValue → Bool
  | .none => false
  | .bool b => b
  | .int n => n != 0
  | .str s => s != ""
  | .list items => !items.isEmpty
  | .dict entries => !entries.isEmpty

/-- `type(value).__name__`. -/
def JsonValue.typeName : JsonValue → String
  | .none => "NoneType"
  | .bool _ => "bool"
  | .int _ => "int"
  | .str _ => "str"
  | .list _ => "list"
  | .dict _ => "dict"

/-- The two lower-case hexadecimal digits of `\xhh`. -/
def hexByte (n : Nat) : List Char := [Nat.digitChar (n / 16 % 16), Nat.digitChar (n % 16)]

/-- `repr` of a str: in single quotes, or in double quotes when it holds a single quote and no
double quote; the quote, the backslash and the ASCII control characters are escaped. The
escapes `repr` gives non-printable characters outside ASCII are left out. -/
def pyReprString (s : String) : String :=
  let quote := if '\'' ∈ s.toList ∧ '"' ∉ s.toList then '"' else '\''
  let escape (c : Char) : List Char :=
    if c = quote ∨ c = '\\' then ['\\', c]
    else if c = '\t' then ['\\', 't']
    else if c = '\n' then ['\\', 'n']
    else if c = '\r' then ['\\', 'r']
    else if c.toNat < 0x20 ∨ c.toNat = 0x7f then '\\' :: 'x' :: hexByte c.toNat
    else [c]
  String.mk (quote :: s.toList.flatMap escape ++ [quote])

mutual

/-- `repr` of a value, as `str` writes the items of a list or dict. -/
def JsonValue.pyRepr : JsonValue → String
  | .str s => pyReprString s
  | .list items => "[" ++ JsonValue.pyReprItems items ++ "]"
  | .dict entries => "\x7b" ++ JsonValue.pyReprEntries entries ++ "\x7d"
  | .none => "None"
  | .bool b => if b then "True" else "False"
  | .int n => toString n

/-- The items of a list, separated by `, `. -/
def JsonValue.pyReprItems : List JsonValue → String
  | [] => ""
  | [v] => JsonValue.pyRepr v
  | v :: rest => JsonValue.pyRepr v ++ ", " ++ JsonValue.pyReprItems rest

/-- The entries of a dict as `'key': value`, separated by `, `. -/
def JsonValue.pyReprEntries : List (String × JsonValue) → String
  | [] => ""
  | [(k, v)] => pyReprString k ++ ": " ++ JsonValue.pyRepr v
  | (k, v) :: rest => pyReprString k ++ ": " ++ JsonValue.pyRepr v ++ ", " ++
    JsonValue.pyReprEntries rest

end

/-- `str(value)`: a str is itself, anything else its `repr`. -/
def JsonValue.pyStr : JsonValue → String
  | .str s => s
  | v => v.pyRepr

@[simp] lemma JsonValue.pyStr_str (s : String) : (JsonValue.str s).pyStr = s := rfl

/-! ### Dicts -/

/-- A Python `dict` with string keys: its entries in insertion order, each key once. -/
structure PyDict (α : Type) where
  entries : List (String × α)
  nodup : (entries.map Prod.fst).Nodup

namespace PyDict

variable {α : Type}

@[ext] lemma ext {d e : PyDict α} (h : d.entries = e.entries) : d = e := by
  cases d; cases e; cases h; rfl

instance [DecidableEq α] : DecidableEq (PyDict α) := fun d e =>
  decidable_of_iff (d.entries = e.entries) ⟨ext, fun h => h ▸ rfl⟩

/-- The value of the first entry under `k`. -/
def lookup (k : String) : List (String × α) → Option α
  | [] => none
  | (k', v) :: rest => if k' = k then some v else lookup k rest

/-- `d[k] = v` on the entries: the first entry under `k` takes the value, in its place, or an
entry is appended when there is none. -/
def assign (k : String) (v : α) : List (String × α) → List (String × α)
  | [] => [(k, v)]
  | (k', v') :: rest => if k' = k then (k, v) :: rest else (k', v') :: assign k v rest

/-- The keys of a dict, in order. -/
def keys (d : PyDict α) : List String := d.entries.map Prod.fst

/-- `d.get(k)`: the value under `k`, `none` when `k not in d`. -/
def get? (d : PyDict α) (k : String) : Option α := lookup k d.entries

lemma keys_assign (k : String) (v : α) :
    ∀ l : List (String × α), (assign k v l).map Prod.fst =
      if k ∈ l.map Prod.fst then l.map Prod.fst else l.map Prod.fst ++ [k]
  | [] => rfl
  | (k', v') :: rest => by
    by_cases h : k' = k
    · simp [assign, h]
    · have hk : k ≠ k' := fun e => h e.symm
      simp only [assign, h, ↓reduceIte, List.map_cons, keys_assign k v rest, List.mem_cons, hk,
        false_or]
      split <;> rfl

lemma nodup_assign (k : String) (v : α) {l : List (String × α)} (h : (l.map Prod.fst).Nodup) :
    ((assign k v l).map Prod.fst).Nodup := by
  rw [keys_assign]
  split
  · exact h
  · next hk => exact h.append (List.nodup_singleton k) (List.disjoint_singleton.mpr hk)

@[simp] lemma lookup_assign (k k' : String) (v : α) :
    ∀ l : List (String × α), lookup k' (assign k v l) = if k = k' then some v else lookup k' l
  | [] => rfl
  | (k'', v') :: rest => by
    by_cases h : k'' = k
    · subst h
      by_cases h' : k'' = k' <;> simp [assign, lookup, h']
    · by_cases h' : k'' = k'
      · subst h'
        simp [assign, lookup, h, Ne.symm h]
      · simp [assign, lookup, h, h', lookup_assign k k' v rest]

@[simp] lemma lookup_filter_ne (k k' : String) :
    ∀ l : List (String × α), lookup k' (l.filter (·.1 != k)) = if k = k' then none else lookup k' l
  | [] => by simp [lookup]
  | (k'', v) :: rest => by
    by_cases h : k'' = k
    · subst h
      by_cases h' : k'' = k' <;> simp [lookup, lookup_filter_ne _ k' rest, h']
    · by_cases h' : k'' = k'
      · subst h'
        simp [lookup, h, Ne.symm h]
      · simp [lookup, h, h', lookup_filter_ne k k' rest]

lemma lookup_append (k : String) :
    ∀ l₁ l₂ : List (String × α), lookup k (l₁ ++ l₂) = (lookup k l₁).or (lookup k l₂)
  | [], _ => rfl
  | (k', v) :: rest, l₂ => by by_cases h : k' = k <;> simp [lookup, h, lookup_append k rest l₂]

lemma lookup_isSome_iff (k : String) :
    ∀ l : List (String × α), (lookup k l).isSome ↔ k ∈ l.map Prod.fst
  | [] => by simp [lookup]
  | (k', v) :: rest => by
    rw [List.map_cons, List.mem_cons, ← lookup_isSome_iff k rest]
    by_cases h : k' = k
    · simp [lookup, h]
    · simp [lookup, h, Ne.symm h]

lemma lookup_mem {k : String} {v : α} :
    ∀ {l : List (String × α)}, lookup k l = some v → (k, v) ∈ l
  | [], h => by cases h
  | (k', v') :: rest, h => by
    unfold lookup at h
    split at h
    · next hk => cases h; subst hk; exact List.mem_cons_self _ _
    · exact List.mem_cons_of_mem _ (lookup_mem h)

lemma lookup_reverse {k : String} :
    ∀ {l : List (String × α)}, (l.map Prod.fst).Nodup → lookup k l.reverse = lookup k l
  | [], _ => rfl
  | (k', v) :: rest, hnd => by
    rw [List.map_cons, List.nodup_cons] at hnd
    rw [List.reverse_cons, lookup_append, lookup_reverse hnd.2]
    by_cases h : k' = k
    · subst h
      have hnone : lookup k' rest = none := by
        rw [← Option.not_isSome_iff_eq_none, lookup_isSome_iff]
        exact hnd.1
      simp [lookup, hnone]
    · simp [lookup, h]

/-- The empty dict `{}`. -/
def empty : PyDict α := ⟨[], List.nodup_nil⟩

/-- `d[k] = v`. -/
def set (d : PyDict α) (k : String) (v : α) : PyDict α :=
  ⟨assign k v d.entries, nodup_assign k v d.nodup⟩

/-- `d.pop(k)`, without the value it returns. -/
def pop (d : PyDict α) (k : String) : PyDict α :=
  ⟨d.entries.filter (·.1 != k), (d.nodup.sublist (List.Sublist.map _ (List.filter_sublist _)))⟩

/-- The entries of `l` assigned in order. -/
def setAll (d : PyDict α) (l : List (String × α)) : PyDict α :=
  l.foldl (fun acc e => acc.set e.1 e.2) d

/-- `d.update(e)`, which is also `{**d, **e}`. -/
def update (d e : PyDict α) : PyDict α := d.setAll e.entries

/-- `dict(pairs)`: the pairs assigned in order into an empty dict. -/
def ofList (l : List (String × α)) : PyDict α := empty.setAll l

@[simp] lemma get?_empty (k : String) : (empty : PyDict α).get? k = none := rfl

@[simp] lemma get?_set (d : PyDict α) (k k' : String) (v : α) :
    (d.set k v).get? k' = if k = k' then some v else d.get? k' :=
  lookup_assign k k' v d.entries

@[simp] lemma get?_pop (d : PyDict α) (k k' : String) :
    (d.pop k).get? k' = if k = k' then none else d.get? k' :=
  lookup_filter_ne k k' d.entries

lemma mem_keys_iff (d : PyDict α) (k : String) : k ∈ d.keys ↔ (d.get? k).isSome :=
  (lookup_isSome_iff k d.entries).symm

lemma get?_eq_none_iff (d : PyDict α) (k : String) : d.get? k = none ↔ k ∉ d.keys := by
  rw [mem_keys_iff, Option.not_isSome_iff_eq_none]

/-- Assigning entries in order: the last entry of `l` under a key wins, and keys that `l` does
not hold keep their value. -/
lemma get?_setAll (k : String) :
    ∀ (d : PyDict α) (l : List (String × α)),
      (d.setAll l).get? k = (lookup k l.reverse).or (d.get? k)
  | d, [] => by simp [setAll, lookup]
  | d, (k', v) :: rest => by
    rw [setAll, List.foldl_cons, ← setAll, get?_setAll k _ rest, List.reverse_cons,
      lookup_append, get?_set]
    cases lookup k rest.reverse <;> by_cases h : k' = k <;> simp [lookup, h]

/-- `d.update(e)`: a key of `e` takes its value there, the others keep theirs. -/
@[simp] lemma get?_update (d e : PyDict α) (k : String) :
    (d.update e).get? k = (e.get? k).or (d.get? k) := by
  rw [update, get?_setAll, lookup_reverse e.nodup]; rfl

lemma mem_keys_update (d e : PyDict α) (k : String) :
    k ∈ (d.update e).keys ↔ k ∈ e.keys ∨ k ∈ d.keys := by
  simp only [mem_keys_iff, get?_update]
  cases e.get? k <;> simp

/-- Assigning entries under new keys appends them. -/
lemma entries_setAll :
    ∀ (d : PyDict α) (l : List (String × α)), ((d.entries ++ l).map Prod.fst).Nodup →
      (d.setAll l).entries = d.entries ++ l
  | d, [], _ => by simp [setAll]
  | d, (k, v) :: rest, hnd => by
    have hk : k ∉ d.entries.map Prod.fst := by
      intro hk
      rw [List.map_append, List.nodup_append] at hnd
      exact hnd.2.2 hk (List.mem_cons_self k _)
    have hset : (d.set k v).entries = d.entries ++ [(k, v)] := by
      exact assign_of_not_mem hk
    rw [setAll, List.foldl_cons, ← setAll, entries_setAll (d.set k v) rest (by
      rw [hset, List.append_assoc]; exact hnd), hset, List.append_assoc]; rfl
where
  assign_of_not_mem {k : String} {v : α} :
      ∀ {l : List (String × α)}, k ∉ l.map Prod.fst → assign k v l = l ++ [(k, v)]
    | [], _ => rfl
    | (k', v') :: rest, hk => by
      rw [List.map_cons, List.mem_cons, not_or] at hk
      simp [assign, Ne.symm hk.1, assign_of_not_mem hk.2]

/-- The dict of a dict's own entries is the dict. -/
@[simp] lemma ofList_entries (d : PyDict α) : ofList d.entries = d :=
  ext (entries_setAll empty d.entries d.nodup)

end PyDict

/-- The dict a JSON object denotes, `none` for a value that is not an object. -/
def JsonValue.asDict : JsonValue → Option (PyDict JsonValue)
  | .dict entries => some (PyDict.ofList entries)
  | _ => Option.none

end Pulpcore
