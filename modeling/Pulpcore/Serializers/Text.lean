import Mathlib.Data.List.Basic
import Mathlib.Data.List.DropRight
import Mathlib.Data.List.Infix

/-!
# Python strings as lists of characters

The serializers read their input with `str.split`, `str.startswith`, `in`, `str.strip`
and `"sep".join`. They are modelled on `List Char`, where prefixes, infixes and equality are
decidable and every operation is structural: `str.split(sep)` with a one-character
separator is `List.splitOn`, `sep.join` is `List.intercalate [sep]`, `a.startswith(b)` is
`b <+: a` and `b in a` is `b <:+: a`.
-/

namespace Pulpcore

/-- Equality of results, so that a serializer's result on a given input can be decided. -/
instance decEqExcept {ε α : Type} [DecidableEq ε] [DecidableEq α] : DecidableEq (Except ε α)
  | .error a, .error b => decidable_of_iff (a = b) (by simp)
  | .ok a, .ok b => decidable_of_iff (a = b) (by simp)
  | .error _, .ok _ => isFalse (by simp)
  | .ok _, .error _ => isFalse (by simp)

/-- Python's truth value of an optional string: `None` and `""` are false. -/
def truthy : Option String → Bool
  | none => false
  | some s => s ≠ ""

@[simp] lemma truthy_none : truthy none = false := rfl

@[simp] lemma truthy_some (s : String) : truthy (some s) = decide (s ≠ "") := rfl

/-- The characters for which Python's `str.isspace` holds, the ones `str.strip()` removes:
the Unicode characters of category Zs or of bidirectional class WS, B or S. -/
def pyIsSpace (c : Char) : Bool :=
  let n := c.toNat
  (0x09 ≤ n && n ≤ 0x0d) || (0x1c ≤ n && n ≤ 0x20) || n == 0x85 || n == 0xa0 ||
    n == 0x1680 || (0x2000 ≤ n && n ≤ 0x200a) || n == 0x2028 || n == 0x2029 || n == 0x202f ||
    n == 0x205f || n == 0x3000

@[simp] lemma toList_stringMk (l : List Char) : (String.mk l).toList = l := rfl

/-- `str.lstrip()`. -/
def lstrip (s : List Char) : List Char := s.dropWhile pyIsSpace

/-- `str.rstrip()`. -/
def rstrip (s : List Char) : List Char := (s.reverse.dropWhile pyIsSpace).reverse

/-- `str.strip()`. -/
def strip (s : List Char) : List Char := rstrip (lstrip s)

lemma rstrip_eq_lstrip_reverse (s : List Char) : rstrip s = (lstrip s.reverse).reverse := rfl

/-- Where `lstrip` stops: a character that is not whitespace. -/
lemma lstrip_eq_cons {s t : List Char} {c : Char} (h : lstrip s = c :: t) :
    pyIsSpace c = false := by
  induction s with
  | nil => cases h
  | cons a s ih =>
    by_cases ha : pyIsSpace a
    · rw [lstrip, List.dropWhile_cons_of_pos ha] at h
      exact ih h
    · rw [lstrip, List.dropWhile_cons_of_neg ha] at h
      cases h
      simpa using ha

/-- `lstrip` of text with a non-whitespace character stops inside it. -/
lemma lstrip_append {x : List Char} (hx : ∃ c ∈ x, pyIsSpace c = false) (y : List Char) :
    lstrip (x ++ y) = lstrip x ++ y := by
  obtain ⟨c, hc, hsp⟩ := hx
  have hne : (x.dropWhile pyIsSpace).isEmpty = false := by
    rw [Bool.eq_false_iff, ne_eq, List.isEmpty_iff, List.dropWhile_eq_nil_iff]
    exact fun h => by simp [h c hc] at hsp
  rw [lstrip, List.dropWhile_append, hne]
  rfl

/-- `rstrip` of text ending in a non-whitespace character stops inside it. -/
lemma rstrip_append (x : List Char) {y : List Char} (hy : ∃ c ∈ y, pyIsSpace c = false) :
    rstrip (x ++ y) = x ++ rstrip y := by
  have hy' : ∃ c ∈ y.reverse, pyIsSpace c = false := by simpa using hy
  rw [rstrip_eq_lstrip_reverse, List.reverse_append, lstrip_append hy', List.reverse_append,
    List.reverse_reverse, ← rstrip_eq_lstrip_reverse]

lemma rstrip_append_space (x : List Char) {c : Char} (hc : pyIsSpace c) :
    rstrip (x ++ [c]) = rstrip x := by
  simp [rstrip, List.dropWhile_cons_of_pos hc]

lemma strip_append_space (x : List Char) {c : Char} (hc : pyIsSpace c) :
    strip (x ++ [c]) = strip x := by
  rw [strip, strip, lstrip, List.dropWhile_append]
  split
  · next h =>
    rw [List.isEmpty_iff] at h
    rw [List.dropWhile_cons_of_pos hc, List.dropWhile_nil, lstrip, h]
  · exact rstrip_append_space _ hc

@[simp] lemma lstrip_lstrip (s : List Char) : lstrip (lstrip s) = lstrip s :=
  List.dropWhile_idempotent _ _

@[simp] lemma rstrip_rstrip (s : List Char) : rstrip (rstrip s) = rstrip s := by
  simp [rstrip_eq_lstrip_reverse]

/-- Text that `lstrip` leaves unchanged keeps its start under `rstrip`. -/
lemma lstrip_rstrip_lstrip (s : List Char) : lstrip (rstrip (lstrip s)) = rstrip (lstrip s) := by
  obtain ⟨u, hu⟩ : rstrip (lstrip s) <+: lstrip s := by
    rw [rstrip_eq_lstrip_reverse, ← List.reverse_suffix, List.reverse_reverse]
    exact List.dropWhile_suffix _
  cases hr : rstrip (lstrip s) with
  | nil => rfl
  | cons c t =>
    rw [hr, List.cons_append] at hu
    rw [lstrip, List.dropWhile_cons_of_neg (by simpa using lstrip_eq_cons hu.symm)]

@[simp] lemma strip_strip (s : List Char) : strip (strip s) = strip s := by
  rw [strip, strip, lstrip_rstrip_lstrip, rstrip_rstrip]

/-- Text without white space is its own `strip()`. -/
lemma strip_of_forall_not_space {s : List Char} (h : ∀ c ∈ s, pyIsSpace c = false) :
    strip s = s := by
  have hl : ∀ t : List Char, (∀ c ∈ t, pyIsSpace c = false) → lstrip t = t := by
    rintro (_ | ⟨c, t⟩) ht
    · rfl
    · rw [lstrip, List.dropWhile_cons_of_neg (by simp [ht c (List.mem_cons_self c t)])]
  rw [strip, hl s h, rstrip_eq_lstrip_reverse, hl _ (fun c hc => h c (List.mem_reverse.mp hc)),
    List.reverse_reverse]

lemma lstrip_infix_self (s : List Char) : lstrip s <:+: s :=
  (List.dropWhile_suffix _).isInfix

lemma rstrip_infix_self (s : List Char) : rstrip s <:+: s := by
  rw [← List.reverse_infix, rstrip_eq_lstrip_reverse, List.reverse_reverse]
  exact lstrip_infix_self _

lemma strip_infix_self (s : List Char) : strip s <:+: s :=
  (rstrip_infix_self _).trans (lstrip_infix_self _)

/-- Text that starts with a non-whitespace character survives `lstrip`. -/
lemma infix_lstrip {m s : List Char} (hm : m <:+: s)
    (hhead : ∀ c ∈ m.head?, pyIsSpace c = false) :
    m <:+: lstrip s := by
  induction s with
  | nil => exact hm
  | cons a s ih =>
    by_cases ha : pyIsSpace a
    · rw [lstrip, List.dropWhile_cons_of_pos ha, ← lstrip]
      rcases List.infix_cons_iff.mp hm with hpre | hinf
      · cases m with
        | nil => exact List.nil_infix
        | cons b m =>
          obtain ⟨rfl, -⟩ := List.cons_prefix_cons.mp hpre
          simp [ha] at hhead
      · exact ih hinf
    · rwa [lstrip, List.dropWhile_cons_of_neg ha]

/-- Text that ends in a non-whitespace character survives `rstrip`. -/
lemma infix_rstrip {m s : List Char} (hm : m <:+: s)
    (hlast : ∀ c ∈ m.getLast?, pyIsSpace c = false) :
    m <:+: rstrip s := by
  rw [← List.reverse_infix, rstrip_eq_lstrip_reverse, List.reverse_reverse]
  exact infix_lstrip (List.reverse_infix.mpr hm) (by simpa using hlast)

/-- Splitting at a separator that ends a first part gives the pieces of the first part, then
the pieces of the rest. -/
lemma splitOn_append_sep {α : Type} [DecidableEq α] (sep : α) (xs ys : List α) :
    (xs ++ sep :: ys).splitOn sep = xs.splitOn sep ++ ys.splitOn sep := by
  unfold List.splitOn
  induction xs with
  | nil => simp
  | cons x xs ih =>
    obtain ⟨p, ps, hps⟩ := List.exists_cons_of_ne_nil (List.splitOnP_ne_nil (· == sep) xs)
    by_cases hx : x = sep
    · simp [hx, ih]
    · simp only [List.cons_append, List.splitOnP_cons, beq_iff_eq, hx, ↓reduceIte, ih, hps,
        List.modifyHead_cons]

/-- No piece of a split holds the separator. -/
lemma not_mem_of_mem_splitOn {α : Type} [DecidableEq α] {sep : α} {xs piece : List α}
    (h : piece ∈ xs.splitOn sep) : sep ∉ piece := by
  unfold List.splitOn at h
  induction xs generalizing piece with
  | nil => simp_all
  | cons x xs ih =>
    obtain ⟨p, ps, hps⟩ := List.exists_cons_of_ne_nil (List.splitOnP_ne_nil (· == sep) xs)
    by_cases hx : x = sep
    · simp only [List.splitOnP_cons, hx, beq_self_eq_true, ↓reduceIte, List.mem_cons] at h
      rcases h with rfl | h
      · simp
      · exact ih h
    · simp only [List.splitOnP_cons, beq_iff_eq, hx, ↓reduceIte, hps, List.modifyHead_cons,
        List.mem_cons] at h
      rcases h with rfl | h
      · simp only [List.mem_cons, not_or]
        exact ⟨Ne.symm hx, ih (by simp [hps])⟩
      · exact ih (by simp [hps, h])

end Pulpcore
