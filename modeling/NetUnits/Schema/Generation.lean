import NetUnits.Schema.Index

/-!
# Generations of schemas

A **generation** holds the schemas of one systemd version: for each kind the schema document, if
there is one, and what it says. A kind without a document, or with one that has no properties, has
no types.

* **`Generation`** — a generation; `Generation.ofDocuments` builds it from documents.
-/

namespace NetUnits

/-- **The schemas of one systemd version.** -/
structure Generation where
  /-- The number of the generation. -/
  version : Nat
  /-- Which load of a store it comes from; loads are counted from 0. -/
  serial : Nat := 0
  /-- The types of the keys of each kind. -/
  types : KeyTypes
  /-- The sections of each kind that may be written several times. -/
  repeatable : Repeatable
  /-- The schema document of each kind, if there is one. -/
  documents : PerKind (Option Json)
deriving Inhabited

namespace Generation

/-- What the document of a kind says; without a document nothing is known. -/
def indexOf (documents : PerKind (Option Json)) (kind : Kind) : SchemaIndex :=
  match documents.get kind with
  | some document => SchemaIndex.ofSchemaOrEmpty kind document
  | none => SchemaIndex.empty

/-- **The generation of a list of documents**, one for each kind that has one. -/
def ofDocuments (version serial : Nat) (documents : PerKind (Option Json)) : Generation where
  version := version
  serial := serial
  types := PerKind.ofFn fun kind => (indexOf documents kind).types
  repeatable := PerKind.ofFn fun kind => (indexOf documents kind).repeatable
  documents := documents

/-- The document of a kind. -/
def document? (g : Generation) (kind : Kind) : Option Json :=
  g.documents.get kind

@[simp] theorem version_ofDocuments (version serial : Nat) (documents : PerKind (Option Json)) :
    (ofDocuments version serial documents).version = version := rfl

@[simp] theorem document?_ofDocuments (version serial : Nat)
    (documents : PerKind (Option Json)) (kind : Kind) :
    (ofDocuments version serial documents).document? kind = documents.get kind := rfl

end Generation

end NetUnits
