import FailurePrompt.Encoding.Utf8
import FailurePrompt.Files.Basic
import FailurePrompt.Text.Lines

/-!
# Prompt templates

A template is a text with four placeholders in braces: the title of the test, the error, the code
snippet and the accessibility snapshot. Filling one in replaces the first occurrence of each
placeholder that has a value and copies everything else; values are put in as they are and never
looked into. A template names the placeholders that it promises to hold. The main statement,
`chars_pieces`, is that taking a template apart loses nothing.
-/

namespace FailurePrompt

/-- The places of a template that values are put into. -/
inductive Placeholder
  | title
  | error
  | snippet
  | ariaSnapshot
  deriving Repr, DecidableEq

namespace Placeholder

/-- The name between the braces. -/
def name : Placeholder → String
  | .title => "title"
  | .error => "error"
  | .snippet => "snippet"
  | .ariaSnapshot => "ariaSnapshot"

/-- All placeholders. -/
def all : List Placeholder := [.title, .error, .snippet, .ariaSnapshot]

/-- A name in braces. -/
def braced (name : List Char) : List Char := '\x7b' :: name ++ ['\x7d']

/-- A placeholder as it is written in a template. -/
def chars (p : Placeholder) : List Char := braced p.name.toList

/-- A placeholder as it is written in a template, as a string. -/
def text (p : Placeholder) : String := String.ofList p.chars

/-- The placeholder with which a text begins, and the text after it. -/
def at? (cs : List Char) : Option (Placeholder × List Char) :=
  all.findSome? fun p =>
    if p.chars.isPrefixOf cs then some (p, cs.drop p.chars.length) else none

private theorem eq_append_drop_of_isPrefixOf {start cs : List Char}
    (h : start.isPrefixOf cs = true) : cs = start ++ cs.drop start.length := by
  obtain ⟨rest, rfl⟩ := List.isPrefixOf_iff_prefix.1 h
  simp

theorem at?_eq_some {cs rest : List Char} {p : Placeholder} (h : at? cs = some (p, rest)) :
    cs = p.chars ++ rest := by
  obtain ⟨q, _, hq⟩ := List.exists_of_findSome?_eq_some h
  split at hq
  · rename_i hp
    simp only [Option.some.injEq, Prod.mk.injEq] at hq
    obtain ⟨rfl, rfl⟩ := hq
    exact eq_append_drop_of_isPrefixOf hp
  · cases hq

theorem length_lt_of_at? {cs rest : List Char} {p : Placeholder}
    (h : at? cs = some (p, rest)) : rest.length < cs.length := by
  rw [at?_eq_some h]
  simp only [chars, braced, List.length_append, List.length_cons]
  omega

end Placeholder

/-- A part of a template: a character that stands for itself, or a placeholder. -/
inductive TemplatePiece
  | char (c : Char)
  | slot (p : Placeholder)
  deriving Repr, DecidableEq

namespace TemplatePiece

/-- A part as it is written. -/
def chars : TemplatePiece → List Char
  | .char c => [c]
  | .slot p => p.chars

/-- The parts of a template text, from left to right. -/
def ofChars : List Char → List TemplatePiece
  | [] => []
  | c :: cs =>
    match _h : Placeholder.at? (c :: cs) with
    | some (p, rest) => .slot p :: ofChars rest
    | none => .char c :: ofChars cs
termination_by cs => cs.length
decreasing_by
  · exact Placeholder.length_lt_of_at? _h
  · simp

/-- Taking a template apart loses nothing. -/
theorem chars_pieces (cs : List Char) : (ofChars cs).flatMap chars = cs := by
  fun_induction ofChars cs with
  | case1 => rfl
  | case2 c cs p rest h ih =>
    rw [List.flatMap_cons, ih]
    exact (Placeholder.at?_eq_some h).symm
  | case3 c cs h ih =>
    rw [List.flatMap_cons, ih]
    rfl

/-- Fills in parts. The first slot of each placeholder that has a value takes the value; a slot
that is already used or has no value stays as it is written. -/
def fill (values : Placeholder → Option (List Char)) :
    (used : List Placeholder) → List TemplatePiece → List Char
  | _, [] => []
  | used, .char c :: rest => c :: fill values used rest
  | used, .slot p :: rest =>
    match values p with
    | none => p.chars ++ fill values used rest
    | some value =>
      if p ∈ used then p.chars ++ fill values used rest
      else value ++ fill values (p :: used) rest

/-- Without values nothing is filled in. -/
theorem fill_none (used : List Placeholder) (pieces : List TemplatePiece) :
    fill (fun _ => none) used pieces = pieces.flatMap chars := by
  induction pieces generalizing used with
  | nil => rfl
  | cons piece pieces ih => cases piece <;> simp [fill, chars, ih]

end TemplatePiece

/-! ### Templates -/

/-- A text stands somewhere within another. -/
def occursIn (part : List Char) : List Char → Bool
  | [] => part.isEmpty
  | c :: cs => part.isPrefixOf (c :: cs) || occursIn part cs

theorem occursIn_append_of_occursIn {part cs : List Char} (before : List Char)
    (h : occursIn part cs = true) : occursIn part (before ++ cs) = true := by
  induction before with
  | nil => exact h
  | cons c before ih => simp [occursIn, ih]

/-- A text occurs in every text that it is a piece of. -/
theorem occursIn_append (before part behind : List Char) :
    occursIn part (before ++ (part ++ behind)) = true := by
  refine occursIn_append_of_occursIn before ?_
  cases h : part ++ behind with
  | nil => simp [List.append_eq_nil_iff.1 h, occursIn]
  | cons c cs =>
    have hp : part.isPrefixOf (c :: cs) = true :=
      List.isPrefixOf_iff_prefix.2 (h ▸ List.prefix_append part behind)
    simp [occursIn, hp]

/-- A name stands in braces within a text. -/
def holdsPlaceholder (text name : String) : Bool :=
  occursIn (Placeholder.braced name.toList) text.toList

/-- A template with the names of the placeholders it is known to hold. -/
structure Template where
  text : String
  placeholders : List String
  complete : ∀ name ∈ placeholders, holdsPlaceholder text name = true

/-- A template lacks some of the placeholders it should hold. -/
structure TemplateError where
  missing : List String
  deriving Repr, DecidableEq

/-- The wording of an incomplete template. -/
def TemplateError.message (e : TemplateError) : String :=
  let names := String.intercalate ", " e.missing
  s!"Prompt template is missing placeholders: {names}"

namespace Template

/-- The names of the four placeholders. -/
def standardNames : List String := Placeholder.all.map Placeholder.name

/-- Checks that a text holds the named placeholders. -/
def make (text : String) (placeholders : List String) : Except TemplateError Template :=
  if h : placeholders.filter (!holdsPlaceholder text ·) = [] then
    .ok ⟨text, placeholders, fun name hn => by simpa using List.filter_eq_nil_iff.1 h name hn⟩
  else .error ⟨placeholders.filter (!holdsPlaceholder text ·)⟩

/-- The template filled in with values. -/
def render (t : Template) (values : Placeholder → Option String) : String :=
  String.ofList (TemplatePiece.fill (fun p => (values p).map String.toList) []
    (TemplatePiece.ofChars t.text.toList))

/-- Without values a template renders as its own text. -/
theorem render_none (t : Template) : t.render (fun _ => none) = t.text := by
  simp [render, TemplatePiece.fill_none, TemplatePiece.chars_pieces]

/-! ### Template files -/

/-- Why a file gave no template. -/
inductive LoadError
  | refused (path : Path) (e : FileError)
  /-- The path holds a NUL character, so no system was asked. -/
  | nulInPath
  | undecodable (e : Utf8.Error)
  | incomplete (e : TemplateError)
  deriving Repr, DecidableEq

/-- The wording of a failure to load a template. -/
def LoadError.message : LoadError → String
  | .refused path e => s!"Failed to read prompt template {path.text}: {e.message path}"
  | .nulInPath => "embedded null byte"
  | .undecodable e => e.message
  | .incomplete e => e.message

/-- Loads a template with the four placeholders from a file. -/
def load (files : Files) (path : Path) : Except LoadError Template :=
  match files.read path with
  | .error .nulInName => .error .nulInPath
  | .error e => .error (.refused path e)
  | .ok bytes =>
    match Utf8.decode bytes with
    | .error e => .error (.undecodable e)
    | .ok cs =>
      (make (String.ofList (Text.unifyLineEnds cs)) standardNames).mapError .incomplete

/-! ### The default template -/

/-- The default template up to the title. -/
def opening : String :=
  "\nYou are an expert in Playwright testing.\nFix the error in the Playwright test \""

/-- The default template between the title and the error. -/
def instructions : String :=
  "\".
- Start response with a highlighted diff of fixed code snippet.
- Strictly rely on the ARIA snapshot of the page.
- Avoid adding any new code.
- Avoid adding comments to the code.
- Avoid changing the test logic.
- Use only role-based locators: getByRole, getByLabel, etc.
- For 'heading' role try to adjust level first
- Add concise notes about applied changes at the end of your response.
- If the test may be correct and there is a bug in the page, note it.

"

/-- The default template between the error and the snippet. -/
def snippetHeading : String := "\n\nCode snippet of the failing test:\n\n"

/-- The default template between the snippet and the snapshot. -/
def snapshotHeading : String := "\n\nARIA snapshot of the page:\n\n"

/-- The text of the default template. -/
def defaultText : String :=
  opening ++ Placeholder.title.text ++ instructions ++ Placeholder.error.text ++
    snippetHeading ++ Placeholder.snippet.text ++ snapshotHeading ++
    Placeholder.ariaSnapshot.text ++ "\n"

private theorem holdsPlaceholder_defaultText (p : Placeholder) :
    holdsPlaceholder defaultText p.name = true := by
  have later : ∀ {part : List Char} (a b : List Char) {cs : List Char},
      occursIn part cs = true → occursIn part (a ++ (b ++ cs)) = true :=
    fun a b _ h => occursIn_append_of_occursIn a (occursIn_append_of_occursIn b h)
  simp only [holdsPlaceholder, defaultText, String.toList_append, Placeholder.text,
    String.toList_ofList, Placeholder.chars, List.append_assoc]
  cases p
  · exact occursIn_append ..
  · exact later _ _ (occursIn_append ..)
  · exact later _ _ (later _ _ (occursIn_append ..))
  · exact later _ _ (later _ _ (later _ _ (occursIn_append ..)))

/-- The template used where no other is asked for. -/
def default : Template :=
  ⟨defaultText, standardNames, fun name hn => by
    obtain ⟨p, _, rfl⟩ := List.mem_map.1 hn
    exact holdsPlaceholder_defaultText p⟩

end Template

end FailurePrompt
