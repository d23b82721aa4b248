import FailurePrompt.Frame.Line

/-!
# Sites as they are written

`Site.Written` says how a site stands at the end of a frame line: a file with its coordinates, or
the word `native`, and a parenthesis that may close the line. The grammar is unambiguous, for the
coordinates are read off the end of the line, so it does not matter in which order the divisions
of a text are tried. The main statement, `site?_eq_some_iff`, is that the reader of sites accepts
exactly what is written, as long as the text is on one line.
-/

namespace FailurePrompt.Frame

variable {cs rest digits line column file : List Char} {closed : Bool}

/-! ### Words -/

theorem after?_eq_some_iff {start : List Char} :
    after? start cs = some rest ↔ cs = start ++ rest := by
  unfold after?
  constructor
  · intro h
    split at h
    · rename_i hp
      obtain ⟨tail, rfl⟩ := List.isPrefixOf_iff_prefix.1 hp
      simpa using h
    · cases h
  · rintro rfl
    simp

@[simp] theorem after?_append (start rest : List Char) :
    after? start (start ++ rest) = some rest :=
  after?_eq_some_iff.2 rfl

theorem after?_eq_none_iff {start : List Char} : after? start cs = none ↔ ¬start <+: cs := by
  simp [after?]

/-! ### Numerals -/

/-- A run of digits that is not empty. -/
def IsNumeral (digits : List Char) : Prop :=
  digits ≠ [] ∧ ∀ c ∈ digits, Text.isDigit c = true

instance (digits : List Char) : Decidable (IsNumeral digits) :=
  decidable_of_iff (digits ≠ [] ∧ digits.all Text.isDigit = true) (by simp [IsNumeral])

theorem IsNumeral.notMem {c : Char} (h : IsNumeral digits) (hc : Text.isDigit c = false) :
    c ∉ digits := fun hm => by
  simp [h.2 c hm] at hc

@[simp] theorem isDigit_colon : Text.isDigit ':' = false := by decide

@[simp] theorem isDigit_close : Text.isDigit ')' = false := by decide

@[simp] theorem isDigit_feed : Text.isDigit '\n' = false := by decide

/-- A numeral before anything but a digit is read as a whole. -/
theorem coordinate?_eq_some_iff_numeral :
    coordinate? cs = some (digits, rest) ↔
      cs = ':' :: (digits ++ rest) ∧ IsNumeral digits ∧ rest.takeWhile Text.isDigit = [] := by
  rw [coordinate?_eq_some_iff, IsNumeral, and_assoc]

/-- A line and a column as they are written after a file. -/
def coordinateChars (line column : List Char) : List Char :=
  ':' :: (line ++ ':' :: column)

theorem coordinates?_eq_some_iff :
    coordinates? cs = some (line, column, rest) ↔
      cs = coordinateChars line column ++ rest ∧ IsNumeral line ∧ IsNumeral column ∧
        rest.takeWhile Text.isDigit = [] := by
  unfold coordinates?
  constructor
  · intro h
    split at h
    · cases h
    · rename_i l r hl
      obtain ⟨⟨c, t⟩, hc, he⟩ := Option.map_eq_some_iff.1 h
      simp only [Prod.mk.injEq] at he
      obtain ⟨rfl, rfl, rfl⟩ := he
      obtain ⟨rfl, hln, -⟩ := coordinate?_eq_some_iff_numeral.1 hl
      obtain ⟨rfl, hcn, ht⟩ := coordinate?_eq_some_iff_numeral.1 hc
      exact ⟨by simp [coordinateChars], hln, hcn, ht⟩
  · rintro ⟨rfl, hl, hc, ht⟩
    have h1 : coordinate? (coordinateChars line column ++ rest) =
        some (line, ':' :: (column ++ rest)) :=
      coordinate?_eq_some_iff_numeral.2
        ⟨by simp [coordinateChars], hl, by simp⟩
    have h2 : coordinate? (':' :: (column ++ rest)) = some (column, rest) :=
      coordinate?_eq_some_iff_numeral.2 ⟨rfl, hc, ht⟩
    simp [h1, h2]

/-! ### The end of a line -/

/-- The parenthesis that closes a line, if there is one. -/
def closing : Bool → List Char
  | true => [')']
  | false => []

theorem ending?_eq_some_iff (h : '\n' ∉ cs) : ending? cs = some closed ↔ cs = closing closed := by
  constructor
  · intro he
    unfold ending? at he
    split at he <;> simp_all [closing]
  · rintro rfl
    cases closed <;> rfl

theorem ending?_closing (closed : Bool) : ending? (closing closed) = some closed := by
  cases closed <;> rfl

theorem takeWhile_closing (closed : Bool) : (closing closed).takeWhile Text.isDigit = [] := by
  cases closed <;> simp [closing]

/-- A line, a column and the end of the line after them. -/
def tailChars (line column : List Char) (closed : Bool) : List Char :=
  coordinateChars line column ++ closing closed

/-- A tail holds digits, colons and a parenthesis. -/
theorem notMem_tailChars {c : Char} (hl : IsNumeral line) (hc : IsNumeral column) (closed : Bool)
    (hd : Text.isDigit c = false) (hcolon : c ≠ ':') (hclose : c ≠ ')') :
    c ∉ tailChars line column closed := by
  have h1 := hl.notMem hd
  have h2 := hc.notMem hd
  rcases closed with _ | _ <;>
    simp [tailChars, coordinateChars, closing, h1, h2, hcolon, hclose]

theorem lastCoordinates?_tailChars (hl : IsNumeral line) (hc : IsNumeral column)
    (closed : Bool) :
    lastCoordinates? (tailChars line column closed) = some (line, column, closed) := by
  have h : coordinates? (tailChars line column closed) = some (line, column, closing closed) :=
    coordinates?_eq_some_iff.2 ⟨rfl, hl, hc, takeWhile_closing closed⟩
  simp [lastCoordinates?, h, ending?_closing]

theorem eq_tailChars_of_lastCoordinates? (hfeed : '\n' ∉ cs)
    (h : lastCoordinates? cs = some (line, column, closed)) :
    cs = tailChars line column closed ∧ IsNumeral line ∧ IsNumeral column := by
  unfold lastCoordinates? at h
  split at h
  · cases h
  · rename_i l c r hc
    obtain ⟨e, he, heq⟩ := Option.map_eq_some_iff.1 h
    simp only [Prod.mk.injEq] at heq
    obtain ⟨rfl, rfl, rfl⟩ := heq
    obtain ⟨rfl, hln, hcn, -⟩ := coordinates?_eq_some_iff.1 hc
    have hr : '\n' ∉ r := fun hm => hfeed (List.mem_append_right _ hm)
    rw [(ending?_eq_some_iff hr).1 he]
    exact ⟨rfl, hln, hcn⟩

/-! ### Reading from the end -/

/-- The last place of a character splits a text in one way. -/
private theorem append_cons_inj_of_notMem_right {a : Char} {x x' z z' : List Char}
    (hz : a ∉ z) (hz' : a ∉ z') (h : x ++ a :: z = x' ++ a :: z') : x = x' ∧ z = z' := by
  rcases List.append_eq_append_iff.1 h with ⟨as, rfl, he⟩ | ⟨as, rfl, he⟩
  · cases as with
    | nil => simpa using he
    | cons b as => exact absurd (by simp_all) hz
  · cases as with
    | nil => simpa [eq_comm] using he
    | cons b as => exact absurd (by simp_all) hz'

/-- A numeral does not end in a parenthesis, so the last character of a line tells whether the
line is closed. -/
private theorem append_closing_inj {x x' : List Char} {closed' : Bool}
    (hx : x.getLast? ≠ some ')') (hx' : x'.getLast? ≠ some ')')
    (h : x ++ closing closed = x' ++ closing closed') : x = x' ∧ closed = closed' := by
  cases closed <;> cases closed' <;> simp_all [closing]
  all_goals (subst h; simp at hx hx')

private theorem exists_digit_getLast? (lead line : List Char) (hc : IsNumeral column) :
    ∃ d, Text.isDigit d = true ∧ (lead ++ coordinateChars line column).getLast? = some d := by
  refine ⟨column.getLast hc.1, hc.2 _ (List.getLast_mem hc.1), ?_⟩
  have he : lead ++ coordinateChars line column = (lead ++ ':' :: (line ++ [':'])) ++ column := by
    simp [coordinateChars]
  rw [he, List.getLast?_append, List.getLast?_eq_some_getLast hc.1, Option.some_or]

private theorem getLast?_coordinateChars_ne (lead line : List Char) {c : Char}
    (hc : IsNumeral column) (hd : Text.isDigit c = false) :
    (lead ++ coordinateChars line column).getLast? ≠ some c := by
  obtain ⟨d, hdig, he⟩ := exists_digit_getLast? lead line hc
  rw [he]
  rintro ⟨⟩
  simp [hdig] at hd

/-- The end of a line determines the coordinates and everything before them. -/
theorem append_tailChars_inj {lead lead' line' column' : List Char} {closed' : Bool}
    (hl : IsNumeral line) (hc : IsNumeral column) (hl' : IsNumeral line')
    (hc' : IsNumeral column')
    (h : lead ++ tailChars line column closed = lead' ++ tailChars line' column' closed') :
    lead = lead' ∧ line = line' ∧ column = column' ∧ closed = closed' := by
  simp only [tailChars, ← List.append_assoc] at h
  obtain ⟨hbody, rfl⟩ := append_closing_inj
    (getLast?_coordinateChars_ne lead line hc isDigit_close)
    (getLast?_coordinateChars_ne lead' line' hc' isDigit_close) h
  have hsplit : (lead ++ ':' :: line) ++ ':' :: column =
      (lead' ++ ':' :: line') ++ ':' :: column' := by
    simpa [coordinateChars] using hbody
  -- The last colon stands before the column, and the one before it before the line.
  obtain ⟨hline, rfl⟩ := append_cons_inj_of_notMem_right (hc.notMem isDigit_colon)
    (hc'.notMem isDigit_colon) hsplit
  obtain ⟨rfl, rfl⟩ := append_cons_inj_of_notMem_right (hl.notMem isDigit_colon)
    (hl'.notMem isDigit_colon) hline
  exact ⟨rfl, rfl, rfl, rfl⟩

/-! ### Sites -/

/-- The word that stands for code of the runtime. -/
def nativeWord : List Char := ['n', 'a', 't', 'i', 'v', 'e']

/-- How a site is written at the end of a line. -/
inductive Site.Written : Site → List Char → Prop
  | position {file line column : List Char} (hfile : file ≠ []) (hline : IsNumeral line)
      (hcolumn : IsNumeral column) (closed : Bool) :
      Written (.position file line column closed) (file ++ tailChars line column closed)
  | native (closed : Bool) : Written .native (nativeWord ++ closing closed)

/-- The shortest file that leaves coordinates is the only one. -/
theorem position?_append (hfile : file ≠ []) (hfeed : '\n' ∉ file) (hl : IsNumeral line)
    (hc : IsNumeral column) (closed : Bool) :
    position? (file ++ tailChars line column closed) =
      some (.position file line column closed) := by
  induction file with
  | nil => exact absurd rfl hfile
  | cons c file ih =>
    obtain ⟨hcn, hfn⟩ : '\n' ≠ c ∧ '\n' ∉ file := by simpa using hfeed
    rw [List.cons_append, position?, if_neg hcn.symm]
    by_cases hf : file = []
    · subst hf
      rw [List.nil_append, lastCoordinates?_tailChars hl hc]
    · have hn : '\n' ∉ file ++ tailChars line column closed := by
        simp [hfn, notMem_tailChars hl hc closed isDigit_feed]
      have hnone : lastCoordinates? (file ++ tailChars line column closed) = none := by
        -- Coordinates that begin before the file ends would leave no file at all.
        rw [Option.eq_none_iff_forall_ne_some]
        rintro ⟨l, k, e⟩ he
        obtain ⟨ht, hln, hkn⟩ := eq_tailChars_of_lastCoordinates? hn he
        exact hf (append_tailChars_inj hl hc hln hkn (ht.trans (List.nil_append _).symm)).1
      rw [hnone, ih hf hfn]

/-- What is read as a position is written as one. -/
theorem written_of_position? {site : Site} (hfeed : '\n' ∉ cs) (h : position? cs = some site) :
    site.Written cs := by
  induction cs generalizing site with
  | nil => cases h
  | cons c cs ih =>
    obtain ⟨hcn, hn⟩ : '\n' ≠ c ∧ '\n' ∉ cs := by simpa using hfeed
    rw [position?, if_neg hcn.symm] at h
    split at h
    · rename_i l k e hl
      cases h
      obtain ⟨rfl, hln, hkn⟩ := eq_tailChars_of_lastCoordinates? hn hl
      exact .position (List.cons_ne_nil c []) hln hkn e
    · split at h
      · rename_i f l k e hp
        cases h
        cases ih hn hp with
        | position hf hln hkn => exact .position (List.cons_ne_nil c f) hln hkn e
      · cases h

theorem nativeSite?_eq_some_iff {site : Site} (hfeed : '\n' ∉ cs) :
    nativeSite? cs = some site ↔ site = .native ∧ ∃ closed, cs = nativeWord ++ closing closed := by
  constructor
  · intro h
    unfold nativeSite? at h
    split at h
    · cases h
    · rename_i r hr
      obtain ⟨e, he, rfl⟩ := Option.map_eq_some_iff.1 h
      obtain rfl := after?_eq_some_iff.1 hr
      have hn : '\n' ∉ r := fun hm => hfeed (List.mem_append_right _ hm)
      exact ⟨rfl, e, by rw [(ending?_eq_some_iff hn).1 he]; rfl⟩
  · rintro ⟨rfl, e, rfl⟩
    have h : after? ['n', 'a', 't', 'i', 'v', 'e'] (nativeWord ++ closing e) = some (closing e) :=
      after?_append ..
    simp [nativeSite?, h, ending?_closing]

/-- A line that ends with coordinates does not end with the word `native`. -/
theorem append_tailChars_ne_native {lead lead' : List Char} {closed' : Bool}
    (hc : IsNumeral column) :
    lead ++ tailChars line column closed ≠ lead' ++ (nativeWord ++ closing closed') := by
  intro h
  simp only [tailChars, ← List.append_assoc] at h
  obtain ⟨hbody, -⟩ := append_closing_inj
    (getLast?_coordinateChars_ne lead line hc isDigit_close) (by simp [nativeWord]) h
  have hlast : (lead ++ coordinateChars line column).getLast? = some 'e' := by
    rw [hbody]
    simp [nativeWord]
  exact getLast?_coordinateChars_ne lead line hc (by decide) hlast

/-- The coordinates that a site ends with; code of the runtime has none. -/
def Site.coordinates : Site → Option (List Char × List Char × Bool)
  | .position _ line column closed => some (line, column, closed)
  | .native => none

/-- Sites at the end of one text have the same coordinates, wherever they begin. -/
theorem Site.Written.coordinates_eq {site site' : Site} {lead lead' text text' : List Char}
    (h : site.Written text) (h' : site'.Written text') (he : lead ++ text = lead' ++ text') :
    site.coordinates = site'.coordinates := by
  cases h with
  | position hf hl hc closed =>
    cases h' with
    | position hf' hl' hc' closed' =>
      rw [← List.append_assoc, ← List.append_assoc] at he
      obtain ⟨-, rfl, rfl, rfl⟩ := append_tailChars_inj hl hc hl' hc' he
      rfl
    | native closed' =>
      rw [← List.append_assoc] at he
      exact absurd he (append_tailChars_ne_native hc)
  | native closed =>
    cases h' with
    | position hf' hl' hc' closed' =>
      rw [← List.append_assoc lead'] at he
      exact absurd he.symm (append_tailChars_ne_native hc')
    | native closed' => rfl

/-- A site at the end of a text that ends with coordinates is a position with them. -/
theorem Site.Written.exists_position {site : Site} {lead rest text : List Char}
    (hl : IsNumeral line) (hc : IsNumeral column) (h : site.Written text)
    (he : lead ++ text = rest ++ tailChars line column closed) :
    ∃ place, rest = lead ++ place ∧ site = .position place line column closed := by
  cases h with
  | @position place _ _ _ hl' hc' _ =>
    rw [← List.append_assoc] at he
    obtain ⟨hrest, rfl, rfl, rfl⟩ := append_tailChars_inj hl hc hl' hc' he.symm
    exact ⟨place, hrest, rfl⟩
  | native closed' => exact absurd he.symm (append_tailChars_ne_native hc)

/-- The reader of sites accepts what is written as a site and nothing else. -/
theorem site?_eq_some_iff {site : Site} (hfeed : '\n' ∉ cs) :
    site? cs = some site ↔ site.Written cs := by
  rw [site?, Option.or_eq_some_iff]
  constructor
  · rintro (h | ⟨-, h⟩)
    · exact written_of_position? hfeed h
    · obtain ⟨rfl, closed, rfl⟩ := (nativeSite?_eq_some_iff hfeed).1 h
      exact .native closed
  · intro h
    cases h with
    | position hf hl hc closed =>
      exact .inl (position?_append hf (fun hm => hfeed (List.mem_append_left _ hm)) hl hc closed)
    | native closed =>
      have hnone : position? (nativeWord ++ closing closed) = none := by cases closed <;> decide
      exact .inr ⟨hnone, (nativeSite?_eq_some_iff hfeed).2 ⟨rfl, closed, rfl⟩⟩

end FailurePrompt.Frame
