import LayerLint.Main
import LayerLint.Proofs.Lifecycle
import LayerLint.Proofs.Relocation
import LayerLint.Proofs.Tracing
import LayerLint.Proofs.Collection
import LayerLint.Proofs.Tally
import LayerLint.Proofs.Configuration
import LayerLint.Proofs.ExitCode
import LayerLint.Proofs.GlobBaseName
import LayerLint.Proofs.Permission
import LayerLint.Proofs.FileNames
import LayerLint.Proofs.Merging
import LayerLint.Proofs.Agreement
import LayerLint.Proofs.FirstMatch
import LayerLint.Proofs.CanonicalPath
import LayerLint.Proofs.RelativePath
import LayerLint.Proofs.PackageIdentity
import LayerLint.Proofs.Validation
import LayerLint.Proofs.Comments
import LayerLint.Proofs.PlainJson
import LayerLint.Proofs.DocumentShape
import LayerLint.Proofs.PolicyReading
import LayerLint.Proofs.DocumentOrder
import LayerLint.Proofs.NumberText
import LayerLint.Proofs.SourceFiles
import LayerLint.Report.Written
import LayerLint.Proofs.JsonText
import LayerLint.Proofs.StructuredReport
import LayerLint.Proofs.PorcelainLines
import LayerLint.Proofs.ExternalReference
import LayerLint.Proofs.DefaultScope
import LayerLint.Proofs.GrammarCache
import LayerLint.Proofs.ModuleSpecifiers
import LayerLint.Proofs.WholeSegments
import LayerLint.Proofs.AgendaLoop
