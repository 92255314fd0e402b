import CrudScaffold.Artifact.Basic
import CrudScaffold.Artifact.Controller
import CrudScaffold.Artifact.Factory
import CrudScaffold.Artifact.FormRequest
import CrudScaffold.Artifact.Kinds
import CrudScaffold.Artifact.Migration
import CrudScaffold.Artifact.Model
import CrudScaffold.Artifact.Resource
import CrudScaffold.Artifact.Routes
import CrudScaffold.Artifact.Seeder
import CrudScaffold.Artifact.Views
import CrudScaffold.Bulk
import CrudScaffold.Clock
import CrudScaffold.Command
import CrudScaffold.Config.Basic
import CrudScaffold.Config.File
import CrudScaffold.Error
import CrudScaffold.Generator
import CrudScaffold.Main
import CrudScaffold.Naming.Case
import CrudScaffold.Naming.Inflection
import CrudScaffold.Naming.Names
import CrudScaffold.Naming.Pattern
import CrudScaffold.Number.Nearest
import CrudScaffold.Number.Scaled
import CrudScaffold.Number.Shortest
import CrudScaffold.Project.Glob
import CrudScaffold.Project.Tree
import CrudScaffold.Proofs.Artifacts
import CrudScaffold.Proofs.ClassNames
import CrudScaffold.Proofs.Columns
import CrudScaffold.Proofs.EmbeddedValues
import CrudScaffold.Proofs.EnumValues
import CrudScaffold.Proofs.FactoryStates
import CrudScaffold.Proofs.FactoryValues
import CrudScaffold.Proofs.FieldGrammar
import CrudScaffold.Proofs.FieldRecords
import CrudScaffold.Proofs.FirstOfEachKey
import CrudScaffold.Proofs.GlobCrate
import CrudScaffold.Proofs.GlobLookup
import CrudScaffold.Proofs.MigrationLookup
import CrudScaffold.Proofs.MigrationOrder
import CrudScaffold.Proofs.ModelPath
import CrudScaffold.Proofs.NameChars
import CrudScaffold.Proofs.ParsedFields
import CrudScaffold.Proofs.PathComponents
import CrudScaffold.Proofs.Paths
import CrudScaffold.Proofs.Placement
import CrudScaffold.Proofs.ProjectTree
import CrudScaffold.Proofs.RelationGrammar
import CrudScaffold.Proofs.Rerun
import CrudScaffold.Proofs.RouteBlock
import CrudScaffold.Proofs.RouteFile
import CrudScaffold.Proofs.RouteMarker
import CrudScaffold.Proofs.Runs
import CrudScaffold.Proofs.SingleMigration
import CrudScaffold.Proofs.Switches
import CrudScaffold.Proofs.Text
import CrudScaffold.Proofs.WriteOrder
import CrudScaffold.Request
import CrudScaffold.Schema.Column
import CrudScaffold.Schema.ForeignKeys
import CrudScaffold.Schema.Input
import CrudScaffold.Schema.Synthetic
import CrudScaffold.Schema.Validation
import CrudScaffold.Spec.Field
import CrudScaffold.Spec.Relation
import CrudScaffold.Stub.Bundled
import CrudScaffold.Stub.Compiled
import CrudScaffold.Stub.Data
import CrudScaffold.Stub.Render
import CrudScaffold.Stub.Syntax
import CrudScaffold.Stub.Template
import CrudScaffold.Text.Basic
import CrudScaffold.Text.Char
import CrudScaffold.Text.Property.Alphabetic
import CrudScaffold.Text.Property.Casing
import CrudScaffold.Text.Property.Escaped
import CrudScaffold.Text.Property.LowerMap
import CrudScaffold.Text.Property.Lowercase
import CrudScaffold.Text.Property.Numeric
import CrudScaffold.Text.Property.Uppercase
import CrudScaffold.Text.Property.Word
import CrudScaffold.Text.Quoted
import CrudScaffold.Text.Ranges
import CrudScaffold.Toml.Document
import CrudScaffold.Toml.Reader
import CrudScaffold.Toml.Value
import CrudScaffold.Yaml.Document
import CrudScaffold.Yaml.Parser
import CrudScaffold.Yaml.Read
import CrudScaffold.Yaml.Scalar
import CrudScaffold.Yaml.Scanner
import CrudScaffold.Yaml.Scanner.Property
import CrudScaffold.Yaml.Scanner.Scalar
import CrudScaffold.Yaml.Scanner.State
import CrudScaffold.Yaml.Token
