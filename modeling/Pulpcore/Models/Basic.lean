import Mathlib.Data.List.Nodup

/-!
# Content, artifacts and the store

The records that the ingestion stages (`pulpcore.plugin.stages.content_unit_stages`) and
the repository tasks (`pulpcore.app.tasks.repository`) read and write. A content unit is an
instance of a concrete `Content` subclass, and its identity is that class together with the
values of the class's `natural_key_fields()`. The store holds the content rows, the
`ContentArtifact` links and the `RemoteArtifact` provenance rows.

The models' `save()` and `bulk_create()` are not part of the sources. They are modelled from
the spec: a row that breaks one of the two unique constraints (a content type's natural key,
and `(content, relative_path)` for links) raises an `IntegrityError` and writes nothing.
-/

namespace Pulpcore

abbrev Field := String

abbrev Value := String

inductive Error where
  | integrity
  | key
  | attribute
  | assertion
  | validation
  | doesNotExist
  deriving DecidableEq, Repr

@[simp] lemma except_pure {ε α : Type} (a : α) : (pure a : Except ε α) = Except.ok a := rfl

@[simp] lemma except_ok_bind {ε α β : Type} (a : α) (f : α → Except ε β) :
    (Except.ok a >>= f) = f a := rfl

@[simp] lemma except_error_bind {ε α β : Type} (e : ε) (f : α → Except ε β) :
    (Except.error e >>= f) = Except.error e := rfl

@[simp] lemma except_map_ok {ε α β : Type} (a : α) (f : α → β) :
    (f <$> (Except.ok a : Except ε α)) = Except.ok (f a) := rfl

@[simp] lemma except_map_error {ε α β : Type} (e : ε) (f : α → β) :
    (f <$> (Except.error e : Except ε α)) = Except.error e := rfl

lemma except_bind_eq_ok {ε α β : Type} {x : Except ε α} {f : α → Except ε β} {b : β} :
    (x >>= f) = .ok b ↔ ∃ a, x = .ok a ∧ f a = .ok b := by
  cases x <;> simp

lemma except_bind_eq_error {ε α β : Type} {x : Except ε α} {f : α → Except ε β} {e : ε} :
    (x >>= f) = .error e ↔ x = .error e ∨ ∃ a, x = .ok a ∧ f a = .error e := by
  cases x <;> simp

lemma except_map_eq_ok {ε α β : Type} {x : Except ε α} {f : α → β} {b : β} :
    (f <$> x) = .ok b ↔ ∃ a, x = .ok a ∧ f a = b := by
  cases x <;> simp

lemma foldlM_except_of_step {α β ε : Type} {f : β → α → Except ε β} (P : β → Prop) :
    ∀ (l : List α), (∀ b, ∀ x ∈ l, ∀ b', P b → f b x = .ok b' → P b') →
      ∀ (b b' : β), P b → l.foldlM f b = .ok b' → P b'
  | [], _, b, b', hb, h => by
    simp only [List.foldlM_nil, except_pure, Except.ok.injEq] at h
    exact h ▸ hb
  | x :: l, hf, b, b', hb, h => by
    rw [List.foldlM_cons] at h
    cases hx : f b x with
    | error e => simp [hx] at h
    | ok b₁ =>
      rw [hx, except_ok_bind] at h
      exact foldlM_except_of_step P l (fun b y hy => hf b y (List.mem_cons_of_mem x hy)) b₁ b'
        (hf b x (List.mem_cons_self x l) b₁ hb hx) h

/-- A concrete `Content` subclass, with its `natural_key_fields()`. -/
structure ContentType where
  name : String
  naturalKeyFields : List Field
  deriving DecidableEq, Repr

/-- A `Content` instance; it has every field of its class, the natural-key fields among them. -/
structure Content where
  type : ContentType
  attrs : List (Field × Value)
  adding : Bool
  pulpDomain : String
  keys_present : ∀ f ∈ type.naturalKeyFields, (attrs.lookup f).isSome
  deriving DecidableEq

/-- `getattr(content, field)`; `none` stands for an `AttributeError`. -/
def Content.getattr (c : Content) (f : Field) : Option Value := c.attrs.lookup f

/-- `natural_key_dict()`: each natural-key field with its value. -/
def Content.naturalKeyDict (c : Content) : List (Field × Option Value) :=
  c.type.naturalKeyFields.map fun f => (f, c.getattr f)

/-- The identity of a unit: its concrete type and its natural-key values. -/
def Content.unitKey (c : Content) : ContentType × List (Option Value) :=
  (c.type, c.type.naturalKeyFields.map c.getattr)

def Content.saved (c : Content) : Content := { c with adding := false }

@[simp] lemma Content.saved_type (c : Content) : c.saved.type = c.type := rfl

@[simp] lemma Content.saved_getattr (c : Content) : c.saved.getattr = c.getattr := rfl

@[simp] lemma Content.saved_unitKey (c : Content) : c.saved.unitKey = c.unitKey := rfl

@[simp] lemma Content.saved_adding (c : Content) : c.saved.adding = false := rfl

structure Artifact where
  size : Nat
  md5 : Option String
  sha1 : Option String
  sha224 : Option String
  sha256 : String
  sha384 : Option String
  sha512 : Option String
  pulpDomain : String
  deriving DecidableEq, Repr

/-- A `DeclarativeArtifact`: one file of a unit, where it is fetched from and where it goes. -/
structure DeclarativeArtifact where
  artifact : Artifact
  url : String
  relativePath : String
  remote : String
  deriving DecidableEq, Repr

structure DeclarativeContent where
  content : Content
  dArtifacts : List DeclarativeArtifact
  deriving DecidableEq

/-- An entry of a stage queue; `none` is the sentinel that ends a stream. -/
abbrev Item := Option DeclarativeContent

structure ContentArtifact where
  content : Content
  artifact : Option Artifact
  relativePath : String
  deriving DecidableEq

/-- The `remote_artifact_data` the saver records for one file. -/
structure RemoteArtifactData where
  url : String
  size : Nat
  md5 : Option String
  sha1 : Option String
  sha224 : Option String
  sha256 : String
  sha384 : Option String
  sha512 : Option String
  remote : String
  deriving DecidableEq, Repr

/-- A `RemoteArtifact` row: `RemoteArtifact(content_artifact=..., **remote_artifact_data)`. -/
structure RemoteArtifact extends RemoteArtifactData where
  contentArtifact : ContentArtifact
  deriving DecidableEq

def ContentArtifact.key (ca : ContentArtifact) : Content × String := (ca.content, ca.relativePath)

/-- The rows of the store, under its two unique constraints. -/
structure Db where
  content : List Content
  contentArtifacts : List ContentArtifact
  remoteArtifacts : List RemoteArtifact
  content_unique : (content.map Content.unitKey).Nodup
  contentArtifact_unique : (contentArtifacts.map ContentArtifact.key).Nodup

namespace Db

/-- `Content.save()`, from the spec: an `IntegrityError` when the unit is already stored. -/
def saveContent (db : Db) (c : Content) : Except Error Db :=
  if h : c.unitKey ∈ db.content.map Content.unitKey then .error .integrity
  else .ok
    { db with
      content := db.content ++ [c.saved]
      content_unique := by
        simpa [List.nodup_append, h] using db.content_unique }

/-- `ContentArtifact.objects.bulk_create`, from the spec: all rows, or an `IntegrityError`. -/
def bulkCreateContentArtifacts (db : Db) (cas : List ContentArtifact) : Except Error Db :=
  if h : ((db.contentArtifacts ++ cas).map ContentArtifact.key).Nodup then
    .ok { db with contentArtifacts := db.contentArtifacts ++ cas, contentArtifact_unique := h }
  else .error .integrity

def bulkCreateRemoteArtifacts (db : Db) (ras : List RemoteArtifact) : Db :=
  { db with remoteArtifacts := db.remoteArtifacts ++ ras }

end Db

end Pulpcore
