import FailurePrompt.Files.Path
import FailurePrompt.FrameFilter
import FailurePrompt.Log.Level

/-!
# Settings

Everything that a user can choose: which frames are application frames, how much source is shown
and in which encoding it is read, the template, the name of the attachment, and how much is
logged. The defaults are those of the parts that the settings are for.
-/

namespace FailurePrompt

/-- The name of the attachment unless another is chosen. -/
def defaultAttachmentName : String := "🤖 Fix with AI: copy prompt and paste to AI chat"

/-- How source is read. The number of context lines is bounded. -/
structure SnippetSettings where
  contextLines : Nat := 3
  encoding : String := "utf-8"
  contextLines_pos : 0 < contextLines := by decide
  contextLines_le : contextLines ≤ 50 := by decide
  deriving Repr

/-- Which frames belong to packages and to the runtime. -/
structure FilterSettings where
  dependencyDirs : List String := ["node_modules"]
  internalPrefixes : List String := ["internal", "node:"]
  deriving Repr, DecidableEq

/-- What is logged, and how. -/
structure LoggingSettings where
  level : Level := .warning
  format : LogFormat := .console
  deriving Repr, DecidableEq

/-- All settings. -/
structure Settings where
  showInternalFrames : Bool := false
  attachmentName : String := defaultAttachmentName
  templatePath : Option Path := none
  snippet : SnippetSettings := {}
  filter : FilterSettings := {}
  logging : LoggingSettings := {}
  deriving Repr

/-- The filter that the settings ask for. -/
def Settings.frameFilter (settings : Settings) : FrameFilter :=
  ⟨settings.showInternalFrames, settings.filter.dependencyDirs, settings.filter.internalPrefixes⟩

end FailurePrompt
