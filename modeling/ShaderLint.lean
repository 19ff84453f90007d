import ShaderLint.Model
import ShaderLint.Scan
import ShaderLint.Service.Session
import ShaderLint.Settings.File
import ShaderLint.Json.Writer
import ShaderLint.Main
import ShaderLint.Proofs.PhysicalLines
import ShaderLint.Proofs.Stripping
import ShaderLint.Proofs.Reading
import ShaderLint.Proofs.Statements
import ShaderLint.Proofs.WholeSourceScan
import ShaderLint.Proofs.Concatenation
import ShaderLint.Proofs.DefaultChain
import ShaderLint.Proofs.FirstDeclaration
import ShaderLint.Proofs.ChainOutcome
import ShaderLint.Proofs.Appending
import ShaderLint.Proofs.SourceWalk
import ShaderLint.Proofs.CommentBodies
import ShaderLint.Proofs.Respacing
import ShaderLint.Proofs.Layout
import ShaderLint.Proofs.Languages
import ShaderLint.Proofs.OpenStatements
import ShaderLint.Proofs.DroppedSemicolon
import ShaderLint.Proofs.Halves
import ShaderLint.Proofs.Blurring
import ShaderLint.Proofs.HalvedSources
import ShaderLint.Proofs.SessionSteps
import ShaderLint.Proofs.Survivors
import ShaderLint.Proofs.WrittenText
import ShaderLint.Proofs.WrittenValue
import ShaderLint.Proofs.Submissions
import ShaderLint.Proofs.SettingsInForce
import ShaderLint.Proofs.ReadOnlyRequests
import ShaderLint.Proofs.ReadBack
import ShaderLint.Proofs.JoinedLines
import ShaderLint.Proofs.LineCuts
import ShaderLint.Proofs.ReducedSource
import ShaderLint.Proofs.ReportedRules
