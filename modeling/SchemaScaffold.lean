import SchemaScaffold.Files.Workspace
import SchemaScaffold.Main
import SchemaScaffold.Proofs.Assembly.TableOrder
import SchemaScaffold.Proofs.Relationships.Transcript
import SchemaScaffold.Proofs.Assembly.Course
import SchemaScaffold.Proofs.Assembly.Contributions
import SchemaScaffold.Proofs.Assembly.Acceptance
import SchemaScaffold.Proofs.Assembly.References
import SchemaScaffold.Proofs.Assembly.Agreement
import SchemaScaffold.Proofs.Output.Records
import SchemaScaffold.Proofs.Assembly.Separation
import SchemaScaffold.Proofs.Assembly.Renaming
import SchemaScaffold.Proofs.Artifacts.CanonicalRules
import SchemaScaffold.Proofs.Artifacts.ScriptLiterals
import SchemaScaffold.Proofs.Assembly.DeclarationOrder
import SchemaScaffold.Proofs.Assembly.EmptyNames
import SchemaScaffold.Proofs.Artifacts.Influence
import SchemaScaffold.Proofs.Documents.Lengths
import SchemaScaffold.Proofs.Output.Consent
import SchemaScaffold.Proofs.Output.Effect
import SchemaScaffold.Proofs.Assembly.Histories
import SchemaScaffold.Proofs.Assembly.Progress
import SchemaScaffold.Proofs.Faults.Contexts
