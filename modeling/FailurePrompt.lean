import FailurePrompt.Attachment
import FailurePrompt.Files.Tree
import FailurePrompt.Log.Session
import FailurePrompt.Main
import FailurePrompt.Proofs.Refusal
import FailurePrompt.Proofs.Edits
import FailurePrompt.Proofs.Frame.Marker
import FailurePrompt.Proofs.Frame.Nested
import FailurePrompt.Proofs.Escape.Shown
import FailurePrompt.Proofs.Escape.Removal
import FailurePrompt.Proofs.Escape.Locality
import FailurePrompt.Proofs.TemplateFile
import FailurePrompt.Proofs.FilterOrder
import FailurePrompt.Proofs.DefaultPrompt
import FailurePrompt.Proofs.Attachment
import FailurePrompt.Proofs.CommandLine.Agreement
import FailurePrompt.Proofs.CommandLine.Foreseen
import FailurePrompt.Proofs.CommandLine.SameLocation
import FailurePrompt.Proofs.Settings.Bounds
import FailurePrompt.Proofs.Settings.References
import FailurePrompt.Proofs.SourceLines
import FailurePrompt.Proofs.Frame.Cut
import FailurePrompt.Proofs.PackagePaths
import FailurePrompt.Proofs.PlaceholderNames
import FailurePrompt.Proofs.Log.Reconfiguration
import FailurePrompt.Proofs.Log.Context
