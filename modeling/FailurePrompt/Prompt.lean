import FailurePrompt.Escape
import FailurePrompt.Resolver
import FailurePrompt.Snippet
import FailurePrompt.Template

/-!
# Building prompts

A prompt asks an assistant to mend a failed test. It is built from the title of the test, the
error with its escape sequences removed, the source around the error's location, and a snapshot
of the page. Without a message, a location or a source there is no prompt, which is an answer and
no failure. The main statements say when `build` gives the empty prompt and what the prompt is
otherwise, in terms of the message, the snippet and the template.
-/

namespace FailurePrompt

/-- What a test runner reports about a failed test. -/
structure Failure where
  message : Option String := none
  stack : Option String := none
  deriving Repr, DecidableEq

/-- The parts that prompts are built with. -/
structure PromptBuilder where
  resolver : Resolver := {}
  reader : SnippetReader := {}
  template : Template := .default

namespace PromptBuilder

/-- The message of a failure as it is shown: without escape sequences, empty if there is none. -/
def shownMessage (failure : Failure) : String :=
  stripEscapes (failure.message.getD "")

/-- The source around a location that may not have been found. -/
def snippetAt (builder : PromptBuilder) (files : Files) :
    Except ResolveError (Option Location) → Traced (Except ResolveError (Option Snippet))
  | .error e => .silent (.error e)
  | .ok none => .silent (.ok none)
  | .ok (some location) => (builder.reader.extract files location).map .ok

/-- The source around the location of a failure. -/
def snippet (builder : PromptBuilder) (files : Files) (failure : Failure) :
    Traced (Except ResolveError (Option Snippet)) :=
  (builder.resolver.resolve failure.stack).andThen (builder.snippetAt files)

/-- The values that a template is filled in with. -/
def values (title message source snapshot : String) : Placeholder → Option String
  | .title => some title
  | .error => some message
  | .snippet => some source
  | .ariaSnapshot => some snapshot

/-- The template filled in, without white space at either end. -/
def compose (builder : PromptBuilder) (title message source snapshot : String) : String :=
  String.ofList (Text.trim
    (builder.template.render (values title message source snapshot)).toList)

/-- The text of a snippet, empty if there is none. -/
def sourceText (snippet : Option Snippet) : String :=
  (snippet.map Snippet.text).getD ""

/-- Puts a prompt together once the source is known. -/
def assemble (builder : PromptBuilder) (title : String) (failure : Failure) (snapshot : String)
    (snippet : Option Snippet) : Traced String :=
  let message := shownMessage failure
  let source := sourceText snippet
  if message = "" ∨ source = "" then
    ⟨"", [.promptNotBuildable title (message ≠ "") (source ≠ "")]⟩
  else .silent (builder.compose title message source snapshot)

/-- Builds the prompt for a failed test; the empty prompt means that there is nothing to ask. -/
def build (builder : PromptBuilder) (files : Files) (title : String) (failure : Failure)
    (snapshot : String) : Traced (Except ResolveError String) :=
  (builder.snippet files failure).andThen fun
    | .error e => .silent (.error e)
    | .ok snippet => (builder.assemble title failure snapshot snippet).map .ok

/-! ### What is built -/

theorem value_assemble {builder : PromptBuilder} {title : String} {failure : Failure}
    {snapshot : String} {snippet : Option Snippet} :
    (builder.assemble title failure snapshot snippet).value =
      if shownMessage failure = "" ∨ sourceText snippet = "" then ""
      else builder.compose title (shownMessage failure) (sourceText snippet) snapshot := by
  unfold assemble
  dsimp only
  split <;> rfl

/-- A prompt depends on the disk through the snippet alone. -/
theorem value_build {builder : PromptBuilder} {files : Files} {title : String}
    {failure : Failure} {snapshot : String} :
    (builder.build files title failure snapshot).value =
      (builder.snippet files failure).value.map fun s =>
        (builder.assemble title failure snapshot s).value := by
  rw [build, Traced.value_andThen]
  cases (builder.snippet files failure).value <;> rfl

end PromptBuilder

end FailurePrompt
