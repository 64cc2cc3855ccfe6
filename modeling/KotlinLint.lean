import KotlinLint.Config.OfToml
import KotlinLint.File.OfTree
import KotlinLint.Finding.Codec
import KotlinLint.Rules.Decompose
import KotlinLint.Proofs.Nesting
import KotlinLint.Proofs.Call.Correspondence
import KotlinLint.Proofs.Call.Preorder
import KotlinLint.Proofs.Declaration.Kinds
import KotlinLint.Proofs.Declaration.Walk
import KotlinLint.Proofs.Declaration.Attachment
import KotlinLint.Proofs.Inheritance
import KotlinLint.Proofs.Property
import KotlinLint.Proofs.Query
import KotlinLint.Proofs.RuleSet
import KotlinLint.Proofs.Visit
import KotlinLint.Proofs.Visit.Order
import KotlinLint.Proofs.ContextLeak
import KotlinLint.Proofs.DiscriminatorClash.Offense
import KotlinLint.Proofs.DiscriminatorClash.SerialName
import KotlinLint.Proofs.DiscriminatorClash.Sighting
import KotlinLint.Proofs.DiscriminatorClash
import KotlinLint.Proofs.ContextLeak.Agreement
import KotlinLint.Proofs.Decompose
import KotlinLint.Proofs.Decompose.Appended
import KotlinLint.Proofs.Keys
import KotlinLint.Proofs.Rearrangement
import KotlinLint.Proofs.Decompose.Rearranged
import KotlinLint.Proofs.Decompose.Pruned
import KotlinLint.Proofs.Call.Origin
import KotlinLint.Proofs.Declaration.Origin
import KotlinLint.Proofs.Decompose.Location
import KotlinLint.Proofs.Decompose.Configuration
import KotlinLint.Proofs.ContextLeak.Missed
import KotlinLint.Proofs.Hierarchy.FirstClass
import KotlinLint.Proofs.Hierarchy.Search
import KotlinLint.Proofs.Hierarchy.Chain
import KotlinLint.Proofs.Text.Gap
import KotlinLint.Proofs.Text.Literal
import KotlinLint.Proofs.Text.Passage
import KotlinLint.Proofs.AnnotationEntry.Written
import KotlinLint.Proofs.AnnotationEntry
import KotlinLint.Proofs.Ranges
import KotlinLint.Proofs.Call.SourceOrder
import KotlinLint.Proofs.Call.Chain
import KotlinLint.Proofs.Call.Ranges
import KotlinLint.Proofs.Declaration.Ranges
import KotlinLint.Proofs.File.Ranges
import KotlinLint.Proofs.Text.Division
import KotlinLint.Proofs.TypeName
import KotlinLint.Proofs.Text.DottedName
import KotlinLint.Proofs.Identifier
import KotlinLint.Proofs.Import
import KotlinLint.Proofs.AnnotationEntry.Parts
import KotlinLint.Proofs.AnnotationEntry.Single
import KotlinLint.Proofs.Text.SpelledLiteral
import KotlinLint.Proofs.DiscriminatorClash.Alias
import KotlinLint.Proofs.Backquotes.Annotation
import KotlinLint.Proofs.Backquotes.Supertype
import KotlinLint.Proofs.Backquotes
import KotlinLint.Proofs.Text.TopLevel
import KotlinLint.Proofs.Call.Search
import KotlinLint.Proofs.Json
import KotlinLint.Proofs.Finding.Codec
import KotlinLint.Proofs.Config
