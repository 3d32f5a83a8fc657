import Autofix.Main
import Autofix.Proofs.Fixing
import Autofix.Proofs.Linting
import Autofix.Proofs.Run.Calls
import Autofix.Proofs.Run.Requests
import Autofix.Proofs.Dictionary
import Autofix.Proofs.Json.Ordered
import Autofix.Proofs.Config.Document
import Autofix.Proofs.Config.Extending
import Autofix.Proofs.Config.Source
import Autofix.Proofs.Glob
import Autofix.Proofs.Path.Parts
import Autofix.Proofs.Config.Exclusion
import Autofix.Proofs.Config.Reloading
import Autofix.Proofs.Config.Alike
import Autofix.Proofs.Path.Spelled
import Autofix.Proofs.Run.Agreement
import Autofix.Proofs.Run.Fresh
import Autofix.Proofs.Run.Retained
import Autofix.Proofs.Run.Remaining
import Autofix.Proofs.Project.Members
import Autofix.Proofs.Include.Segments
import Autofix.Proofs.Project.Dependencies
import Autofix.Proofs.Run.Again
import Autofix.Proofs.Run.Clean
import Autofix.Proofs.Run.Reordered
import Autofix.Proofs.Run.Aside
import Autofix.Proofs.Run.Outcome
import Autofix.Proofs.Run.Reused
import Autofix.Proofs.Run.Skipped
import Autofix.Proofs.Path.Folding
import Autofix.Proofs.Disk.Unlinked
import Autofix.Proofs.Disk.Denoted
import Autofix.Proofs.Config.Nearest
import Autofix.Proofs.Json.Written
import Autofix.Proofs.Json.Reading
import Autofix.Proofs.Json.Standard
import Autofix.Proofs.Report.Data
import Autofix.Proofs.Report.Lines
import Autofix.Proofs.TaskOptions
import Autofix.Proofs.Fixing.Selection
import Autofix.Proofs.Config.Flattened
import Autofix.Proofs.Linting.Single
import Autofix.Proofs.Linting.Modified
import Autofix.Proofs.Run.Bytes
import Autofix.Proofs.Path.Order
import Autofix.Proofs.Run.Loads
import Autofix.Proofs.FileSet
import Autofix.Proofs.Project.Bare
import Autofix.Proofs.Include.Trailing
import Autofix.Proofs.Position
import Autofix.Proofs.Project.Kept
