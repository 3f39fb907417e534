import SchemaScaffold.Artifact.Factory
import SchemaScaffold.Artifact.Migration
import SchemaScaffold.Artifact.Model
import SchemaScaffold.Assembly.Resolve

/-!
# Everything made from one document

* `Artifacts`: a schema with its migrations, factories and models.
* `convert`: the artifacts of a document.
-/

namespace SchemaScaffold

/-- A schema with its migrations, factories and models. -/
structure Artifacts where
  schema : Schema
  migrations : List Migration
  factories : List Factory
  models : List Model
  deriving DecidableEq

/-- The artifacts of a schema. -/
def Artifacts.ofSchema (schema : Schema) : Artifacts where
  schema := schema
  migrations := Migration.ofSchema schema
  factories := Factory.ofSchema schema
  models := Model.ofSchema schema

/-- The artifacts of a document. -/
def convert {σ : Type} (separator : String) (policy : Policy σ) (document : Document) :
    Build σ Artifacts :=
  Artifacts.ofSchema <$> resolve separator policy document

end SchemaScaffold
