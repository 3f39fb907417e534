import SchemaScaffold.Assembly.Through
import SchemaScaffold.Assembly.Integrity

/-!
# From documents to schemas

* `resolve`: the schema of a document: tables and columns, direct relationships, relationships over
  others, and a final check.
* `resolveWithSuffix`: the same with numbers behind taken names and link tables marked by `_`.
-/

namespace SchemaScaffold

/-- The separator that marks link tables unless another one is chosen. -/
def defaultSeparator : String := "_"

/-- The schema of a document. -/
def resolve {σ : Type} (separator : String) (policy : Policy σ) (document : Document) :
    Build σ Schema := do
  let (registry, tables) ← Build.lift (assembleTables separator document)
  let edges ← Build.lift (document.relations.mapM (Edge.ofDecl registry))
  let tables ← relateDirectly policy tables edges
  let tables ← relateThrough policy tables
  Build.lift (Schema.checkIntegrity ⟨tables⟩)
  pure ⟨tables⟩

/-- The schema of a document with numbers behind taken names. -/
def resolveWithSuffix (document : Document) (separator : String) :
    Except Stop Schema :=
  ((resolve separator (.suffix : Policy Unit) document).result ()).1

end SchemaScaffold
