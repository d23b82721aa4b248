import FailurePrompt.Text.Blank
import FailurePrompt.Text.Digit

/-!
# The grammar of frame lines

A frame line is an optional marker `at`, an optional `new`, an optional function name followed by
an opening parenthesis, an optional clause on the origin of evaluated code, and a site: a file
with a line and a column, or the word `native`. A parenthesis may close the line.

Nothing in such a line is quoted, so a line can often be divided in several ways. `Shape.ofLine?`
tries the divisions in a fixed order and takes the first that reaches the end of the line: a
marker is taken if there is one, then `new`, then the shortest function name, then an origin
clause with the shortest inner file, then the shortest file. The main statement,
`coordinate?_eq_some_iff`, says which texts begin with a coordinate.
-/

namespace FailurePrompt.Frame

/-- Where a frame line says the code is. The coordinates are runs of digits, and `closed` says
that a parenthesis follows them. -/
inductive Site
  | position (file line column : List Char) (closed : Bool)
  | native
  deriving Repr, DecidableEq

/-- A frame line divided into its parts. -/
structure Shape where
  isConstructor : Bool
  name : Option (List Char)
  origin : Option (List Char)
  site : Site
  deriving Repr, DecidableEq

/-- The text after a given beginning. -/
def after? (start cs : List Char) : Option (List Char) :=
  if start.isPrefixOf cs then some (cs.drop start.length) else none

/-! ### Sites -/

/-- The end of a line, and whether a parenthesis closes it. A line feed may stand last. -/
def ending? : List Char → Option Bool
  | [] => some false
  | ['\n'] => some false
  | [')'] => some true
  | [')', '\n'] => some true
  | _ => none

/-- A colon and a run of digits, which may not be empty, with the text after them. -/
def coordinate? : List Char → Option (List Char × List Char)
  | ':' :: rest =>
    match rest.takeWhile Text.isDigit with
    | [] => none
    | digits => some (digits, rest.dropWhile Text.isDigit)
  | _ => none

/-- A line and a column with the text after them. -/
def coordinates? (cs : List Char) : Option (List Char × List Char × List Char) :=
  match coordinate? cs with
  | none => none
  | some (line, rest) => (coordinate? rest).map fun (column, rest) => (line, column, rest)

/-- The coordinates that end a line. -/
def lastCoordinates? (cs : List Char) : Option (List Char × List Char × Bool) :=
  match coordinates? cs with
  | none => none
  | some (line, column, rest) => (ending? rest).map fun closed => (line, column, closed)

/-- A file, at least one character long and on one line, with the coordinates that end the line
after it. -/
def position? : List Char → Option Site
  | [] => none
  | c :: rest =>
    if c = '\n' then none
    else match lastCoordinates? rest with
      | some (line, column, closed) => some (.position [c] line column closed)
      | none =>
        match position? rest with
        | some (.position file line column closed) =>
          some (.position (c :: file) line column closed)
        | _ => none

/-- The word that stands for code of the runtime, at the end of a line. -/
def nativeSite? (cs : List Char) : Option Site :=
  match after? ['n', 'a', 't', 'i', 'v', 'e'] cs with
  | none => none
  | some rest => (ending? rest).map fun _ => .native

/-- The site that a text is, from its first character to its last. -/
def site? (cs : List Char) : Option Site :=
  (position? cs).or (nativeSite? cs)

/-! ### Origins of evaluated code -/

/-- The site after coordinates and the text `), ` that ends an origin clause. -/
def siteAfterPlace? (cs : List Char) : Option Site :=
  match coordinates? cs with
  | some (_, _, tail) => (after? [')', ',', ' '] tail).bind site?
  | none => none

/-- Passes over an inner file, at least one character long and on one line, with its coordinates
and the text `), `, and reads the site after it. The shortest inner file that leaves a site is
taken. -/
def siteAfterInner? : List Char → Option Site
  | [] => none
  | c :: rest =>
    if c = '\n' then none
    else (siteAfterPlace? rest).or (siteAfterInner? rest)

/-- An origin clause and the site after it. -/
def evaluated? (cs : List Char) : Option (List Char × Site) :=
  match after? ['e', 'v', 'a', 'l', ' ', 'a', 't', ' '] cs with
  | none => none
  | some rest =>
    let origin := rest.takeWhile (· ≠ ' ')
    if origin = [] then none
    else match after? [' ', '('] (rest.dropWhile (· ≠ ' ')) with
      | none => none
      | some inner => (siteAfterInner? inner).map fun site => (origin, site)

/-- A site, with an origin clause before it if there is one. -/
def located? (cs : List Char) : Option (Option (List Char) × Site) :=
  match evaluated? cs with
  | some (origin, site) => some (some origin, site)
  | none => (site? cs).map fun site => (none, site)

/-! ### Function names -/

/-- A function name, a space and a parenthesis, and the site after them. The name is on one line
and ends at the first place that leaves a site. -/
def named? : List Char → Option (List Char × Option (List Char) × Site)
  | [] => none
  | c :: rest =>
    let here := match after? [' ', '('] (c :: rest) with
      | some tail => (located? tail).map fun r => ([], r)
      | none => none
    match here with
    | some r => some r
    | none =>
      if c = '\n' then none
      else (named? rest).map fun (name, r) => (c :: name, r)

/-- A site, with a function name before it if there is one. -/
def called? (cs : List Char) : Option (Option (List Char) × Option (List Char) × Site) :=
  match named? cs with
  | some (name, r) => some (some name, r)
  | none => (located? cs).map fun r => (none, r)

/-! ### Whole lines -/

/-- The text after the marker of a frame line, which may be indented. -/
def afterMarker? (cs : List Char) : Option (List Char) :=
  after? ['a', 't', ' '] (cs.dropWhile Text.isBlank)

/-- The ways to begin reading a line, in the order in which they are tried: with the marker or
without, and with the word `new` or without. -/
def starts (cs : List Char) : List (Bool × List Char) :=
  ((afterMarker? cs).toList ++ [cs]).flatMap fun rest =>
    ((after? ['n', 'e', 'w', ' '] rest).toList.map fun r => (true, r)) ++ [(false, rest)]

/-- The first division of a line that reaches its end. -/
def Shape.ofLine? (cs : List Char) : Option Shape :=
  (starts cs).findSome? fun (isConstructor, rest) =>
    (called? rest).map fun (name, origin, site) => ⟨isConstructor, name, origin, site⟩

/-! ### What a coordinate is -/

private theorem takeWhile_append_of_forall (rest : List Char) {digits : List Char}
    (hd : ∀ c ∈ digits, Text.isDigit c = true) :
    (digits ++ rest).takeWhile Text.isDigit = digits ++ rest.takeWhile Text.isDigit ∧
      (digits ++ rest).dropWhile Text.isDigit = rest.dropWhile Text.isDigit := by
  induction digits with
  | nil => simp
  | cons d digits ih =>
    have := ih fun c hc => hd c (List.mem_cons_of_mem _ hc)
    simp [hd d (List.mem_cons_self ..), this]

/-- A coordinate is a colon and a run of digits that cannot be made longer. -/
theorem coordinate?_eq_some_iff {cs digits rest : List Char} :
    coordinate? cs = some (digits, rest) ↔
      cs = ':' :: (digits ++ rest) ∧ digits ≠ [] ∧ (∀ c ∈ digits, Text.isDigit c = true) ∧
        rest.takeWhile Text.isDigit = [] := by
  constructor
  · intro h
    match cs, h with
    | [], h => simp [coordinate?] at h
    | c :: cs, h =>
      by_cases hc : c = ':'
      · subst hc
        cases ht : cs.takeWhile Text.isDigit with
        | nil => simp [coordinate?, ht] at h
        | cons d ds =>
          simp only [coordinate?, ht, Option.some.injEq, Prod.mk.injEq] at h
          obtain ⟨rfl, rfl⟩ := h
          refine ⟨by rw [← ht, List.takeWhile_append_dropWhile], by simp, fun x hx => ?_, ?_⟩
          · rw [← ht] at hx
            exact List.all_eq_true.1 List.all_takeWhile x hx
          · cases hd : cs.dropWhile Text.isDigit with
            | nil => rfl
            | cons e es =>
              have := List.head?_dropWhile_not Text.isDigit cs
              rw [hd] at this
              simp only [List.head?_cons] at this
              rw [List.takeWhile_cons, this]
              rfl
      · simp [coordinate?, hc] at h
  · rintro ⟨rfl, hne, hd, hr⟩
    obtain ⟨htake, hdrop⟩ := takeWhile_append_of_forall rest hd
    obtain ⟨d, ds, rfl⟩ := List.exists_cons_of_ne_nil hne
    have hrest : rest.dropWhile Text.isDigit = rest := by
      cases rest with
      | nil => rfl
      | cons e es =>
        cases he : Text.isDigit e with
        | false => simp [he]
        | true => simp [he] at hr
    simp only [coordinate?, htake, hdrop, hr, hrest, List.append_nil]

end FailurePrompt.Frame
