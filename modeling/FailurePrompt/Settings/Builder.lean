import FailurePrompt.Prompt
import FailurePrompt.Settings.Load

/-!
# Prompt builders from settings

Settings determine the parts of a prompt builder. Only the template can fail, for it may have to
be read from a file; the resolver and the reader exist for all settings. The main statement,
`builder_eq_ok_iff`, says what a builder from settings consists of.
-/

namespace FailurePrompt.Settings

/-- The resolver that the settings ask for. -/
def resolver (settings : Settings) : Resolver :=
  { filter := settings.frameFilter }

/-- The reader that the settings ask for. -/
def reader (settings : Settings) (codecs : Codecs := .standard) : SnippetReader :=
  ⟨settings.snippet.contextLines, settings.snippet.encoding, codecs,
    settings.snippet.contextLines_pos⟩

/-- The template that the settings ask for. -/
def template (settings : Settings) (files : Files) : Except Template.LoadError Template :=
  match settings.templatePath with
  | none => .ok .default
  | some path => Template.load files path

/-- The builder that the settings ask for. -/
def builder (settings : Settings) (files : Files) (codecs : Codecs := .standard) :
    Except Template.LoadError PromptBuilder :=
  (settings.template files).map fun template =>
    ⟨settings.resolver, settings.reader codecs, template⟩

/-- A builder from settings has their resolver, their reader and their template. -/
theorem builder_eq_ok_iff {settings : Settings} {files : Files} {codecs : Codecs}
    {b : PromptBuilder} :
    settings.builder files codecs = .ok b ↔
      b.resolver = settings.resolver ∧ b.reader = settings.reader codecs ∧
        settings.template files = .ok b.template := by
  unfold builder
  cases settings.template files with
  | error e => simp [Except.map]
  | ok t =>
    cases b
    simp only [Except.map, Except.ok.injEq, PromptBuilder.mk.injEq]
    constructor
    · rintro ⟨rfl, rfl, rfl⟩
      exact ⟨rfl, rfl, rfl⟩
    · rintro ⟨rfl, rfl, rfl⟩
      exact ⟨rfl, rfl, rfl⟩

/-- A snippet that is read as the settings say has at most a hundred and one lines. -/
theorem length_window_reader_le (settings : Settings) (codecs : Codecs) (line : Nat)
    (lines : List String) :
    (SnippetReader.window (settings.reader codecs).contextLines line lines).length ≤ 101 := by
  have h₁ := SnippetReader.length_window_le (settings.reader codecs).contextLines line lines
  have h₂ : (settings.reader codecs).contextLines ≤ 50 := settings.snippet.contextLines_le
  omega

end FailurePrompt.Settings
