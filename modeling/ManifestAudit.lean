import ManifestAudit.Audit.Engine
import ManifestAudit.Command
import ManifestAudit.Files.Tree
import ManifestAudit.Invocation
import ManifestAudit.Json.Reader
import ManifestAudit.Main
import ManifestAudit.Proofs.Audit.Findings
import ManifestAudit.Proofs.Command.Ending
import ManifestAudit.Proofs.Audit.Clean
import ManifestAudit.Proofs.Command.Verdict
import ManifestAudit.Proofs.Json.Grammar
import ManifestAudit.Proofs.Json.Reading
import ManifestAudit.Proofs.Json.Writing
import ManifestAudit.Proofs.Report.Decoding
import ManifestAudit.Proofs.Audit.Packages
import ManifestAudit.Proofs.Audit.Registration
import ManifestAudit.Proofs.Report.Agreement
import ManifestAudit.Proofs.Invocation.Course
import ManifestAudit.Proofs.Audit.Growth
import ManifestAudit.Proofs.Manifest.LineEndings
import ManifestAudit.Proofs.Audit.Places
import ManifestAudit.Proofs.Manifest.Listing
import ManifestAudit.Proofs.Audit.Locality
import ManifestAudit.Proofs.Json.Completion
import ManifestAudit.Proofs.Report.Truncation
import ManifestAudit.Proofs.Text.Decomposition
import ManifestAudit.Proofs.Options.DebugFlag
import ManifestAudit.Proofs.Invocation.Logging
import ManifestAudit.Proofs.Manifest.LineGrammar
import ManifestAudit.Proofs.Audit.Occurrences
import ManifestAudit.Proofs.Manifest.Concatenation
import ManifestAudit.Proofs.Audit.SkippedLines
import ManifestAudit.Proofs.Options.Spelling
import ManifestAudit.Proofs.Command.Absence
import ManifestAudit.Proofs.Command.Trace
import ManifestAudit.Proofs.Audit.Suffixes
import ManifestAudit.Proofs.Failure.Causes
import ManifestAudit.Proofs.Invocation.Failing
import ManifestAudit.Proofs.Invocation.ErrorStream
