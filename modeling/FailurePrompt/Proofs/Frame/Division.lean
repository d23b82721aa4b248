import FailurePrompt.Proofs.Frame.Site

/-!
# Divisions of frame lines

`Shape.Divides` is the grammar of frame lines: an optional marker, an optional `new`, an optional
name before a parenthesis, an optional origin clause, and a site. A text may have many divisions,
and `Shape.ofLine?` takes one of them. The main statements, `divides_of_ofLine?` and
`isSome_ofLine?`, are that it takes nothing else and that it takes one whenever there is one;
`Shape.Divides.coordinates_eq` says that all divisions of a text end with the same coordinates.
-/

namespace FailurePrompt.Frame

variable {cs rest : List Char} {site : Site}

/-! ### Origin clauses -/

/-- The text that ends an origin clause. -/
def clauseEnd : List Char := [')', ',', ' ']

theorem siteAfterPlace?_eq_some_iff (hfeed : '\n' ∉ cs) :
    siteAfterPlace? cs = some site ↔
      ∃ line column rest, IsNumeral line ∧ IsNumeral column ∧ site.Written rest ∧
        cs = coordinateChars line column ++ (clauseEnd ++ rest) := by
  unfold siteAfterPlace?
  constructor
  · intro h
    split at h
    · rename_i l c tail hc
      obtain ⟨r, hr, hs⟩ := Option.bind_eq_some_iff.1 h
      obtain ⟨rfl, hl, hn, -⟩ := coordinates?_eq_some_iff.1 hc
      obtain rfl := after?_eq_some_iff.1 hr
      have hrn : '\n' ∉ r := fun hm => hfeed (by simp [hm])
      exact ⟨l, c, r, hl, hn, (site?_eq_some_iff hrn).1 hs, rfl⟩
    · cases h
  · rintro ⟨l, c, r, hl, hn, hs, rfl⟩
    have hc : coordinates? (coordinateChars l c ++ (clauseEnd ++ r)) =
        some (l, c, clauseEnd ++ r) :=
      coordinates?_eq_some_iff.2 ⟨rfl, hl, hn, by simp [clauseEnd]⟩
    have hrn : '\n' ∉ r := fun hm => hfeed (by simp [hm])
    simp only [hc]
    rw [show after? [')', ',', ' '] (clauseEnd ++ r) = some r from after?_append ..,
      Option.bind_some]
    exact (site?_eq_some_iff hrn).2 hs

/-- An inner file with its coordinates, to the end of an origin clause. -/
def innerChars (inner line column : List Char) : List Char :=
  inner ++ (coordinateChars line column ++ clauseEnd)

/-- The site stands as the rest of the text behind an inner file. -/
inductive AfterInner : Site → List Char → List Char → Prop
  | intro {site : Site} {inner line column rest : List Char} (hinner : inner ≠ [])
      (hline : IsNumeral line) (hcolumn : IsNumeral column) (hs : site.Written rest) :
      AfterInner site rest (innerChars inner line column ++ rest)

theorem AfterInner.written (h : AfterInner site rest cs) : site.Written rest := by
  obtain ⟨-, -, -, hs⟩ := h
  exact hs

/-- The inner file ends with the first character, or it goes on. -/
theorem afterInner_cons_iff {c : Char} :
    AfterInner site rest (c :: cs) ↔
      (∃ line column, IsNumeral line ∧ IsNumeral column ∧ site.Written rest ∧
        cs = coordinateChars line column ++ (clauseEnd ++ rest)) ∨ AfterInner site rest cs := by
  constructor
  · intro h
    generalize htext : c :: cs = text at h
    obtain ⟨hinner, hl, hk, hs⟩ := h
    rename_i inner line column
    obtain ⟨d, inner, rfl⟩ := List.exists_cons_of_ne_nil hinner
    obtain ⟨rfl, rfl⟩ := List.cons.inj htext
    by_cases hi : inner = []
    · subst hi
      exact .inl ⟨line, column, hl, hk, hs, by simp⟩
    · exact .inr (.intro hi hl hk hs)
  · rintro (⟨line, column, hl, hk, hs, rfl⟩ | ⟨-, hl, hk, hs⟩)
    · have h := AfterInner.intro (List.cons_ne_nil c []) hl hk hs
      simpa [innerChars] using h
    · rename_i inner line column
      exact .intro (List.cons_ne_nil c inner) hl hk hs

theorem exists_of_siteAfterInner? (hfeed : '\n' ∉ cs) (h : siteAfterInner? cs = some site) :
    ∃ rest, AfterInner site rest cs := by
  induction cs with
  | nil => cases h
  | cons c cs ih =>
    obtain ⟨hcn, hn⟩ : '\n' ≠ c ∧ '\n' ∉ cs := by simpa using hfeed
    rw [siteAfterInner?, if_neg hcn.symm, Option.or_eq_some_iff] at h
    rcases h with h | ⟨-, h⟩
    · obtain ⟨l, k, r, hplace⟩ := (siteAfterPlace?_eq_some_iff hn).1 h
      exact ⟨r, afterInner_cons_iff.2 (.inl ⟨l, k, hplace⟩)⟩
    · obtain ⟨r, hr⟩ := ih hn h
      exact ⟨r, afterInner_cons_iff.2 (.inr hr)⟩

/-- The end of a clause has one space, the last character. -/
theorem eq_nil_of_append_space {lead line column : List Char} (hl : IsNumeral line)
    (hc : IsNumeral column) (h : lead ++ ' ' :: rest = coordinateChars line column ++ clauseEnd) :
    rest = [] := by
  have hspace : ' ' ∉ coordinateChars line column ++ [')', ','] := by
    simp [coordinateChars, hl.notMem (c := ' ') (by decide), hc.notMem (c := ' ') (by decide)]
  rcases List.eq_nil_or_concat rest with rfl | ⟨front, c, rfl⟩
  · rfl
  · have hsplit : (lead ++ ' ' :: front) ++ [c] =
        (coordinateChars line column ++ [')', ',']) ++ [' '] := by
      simpa [clauseEnd] using h
    obtain ⟨hfront, -⟩ := List.append_inj' hsplit rfl
    exact absurd (hfront ▸ by simp) hspace

theorem exists_innerChars_eq (inner line column : List Char) :
    ∃ front, innerChars inner line column = front ++ [' '] :=
  ⟨inner ++ (coordinateChars line column ++ [')', ',']), by simp [innerChars, clauseEnd]⟩

/-- A space stands before the rest, behind the first character of the inner file. -/
theorem AfterInner.exists_front {c : Char} (h : AfterInner site rest (c :: cs)) :
    ∃ front, cs = front ++ ' ' :: rest := by
  rcases afterInner_cons_iff.1 h with ⟨l, k, -, -, -, rfl⟩ | ⟨-, -, -, -⟩
  · exact ⟨coordinateChars l k ++ [')', ','], by simp [clauseEnd]⟩
  · rename_i inner line column
    obtain ⟨front, hfront⟩ := exists_innerChars_eq inner line column
    exact ⟨front, by rw [hfront]; simp⟩

/-- Behind a place that ends a clause there is all that stands behind any space of the text. -/
theorem suffix_of_append_clauseEnd {front line column rest' : List Char} (hl : IsNumeral line)
    (hc : IsNumeral column)
    (h : front ++ ' ' :: rest = (coordinateChars line column ++ clauseEnd) ++ rest') :
    rest <:+ rest' := by
  have htext : (front ++ [' ']) ++ rest = (coordinateChars line column ++ clauseEnd) ++ rest' := by
    simpa using h
  have hrest : rest <:+ (front ++ [' ']) ++ rest := List.suffix_append ..
  have hrest' : rest' <:+ (front ++ [' ']) ++ rest := htext ▸ List.suffix_append ..
  rcases List.suffix_or_suffix_of_suffix hrest' hrest with ⟨between, rfl⟩ | hsuffix
  · -- A space within the place and the end of the clause is the last character.
    have hend : front ++ ' ' :: between = coordinateChars line column ++ clauseEnd := by
      refine List.append_cancel_right (?_ : _ ++ rest' = _ ++ rest')
      simpa using h
    rw [eq_nil_of_append_space hl hc hend]
    exact List.suffix_refl _
  · exact hsuffix

/-- The reader takes the first end of a clause behind which there is a site, so no other leaves
more of the text. -/
theorem AfterInner.exists_suffix (hfeed : '\n' ∉ cs) (h : AfterInner site rest cs) :
    ∃ site' rest', siteAfterInner? cs = some site' ∧ AfterInner site' rest' cs ∧
      rest <:+ rest' := by
  induction cs with
  | nil =>
    generalize htext : [] = text at h
    obtain ⟨hinner, -, -, -⟩ := h
    simp [innerChars, hinner] at htext
  | cons c cs ih =>
    obtain ⟨hcn, hn⟩ : '\n' ≠ c ∧ '\n' ∉ cs := by simpa using hfeed
    rw [siteAfterInner?, if_neg hcn.symm]
    rcases hplace : siteAfterPlace? cs with _ | site'
    · have hrest : AfterInner site rest cs := by
        refine (afterInner_cons_iff.1 h).resolve_left fun ⟨l, k, hwritten⟩ => ?_
        simp [(siteAfterPlace?_eq_some_iff hn).2 ⟨l, k, rest, hwritten⟩] at hplace
      obtain ⟨site', rest', hsite, hrest', hsuffix⟩ := ih hn hrest
      exact ⟨site', rest', by simpa using hsite, afterInner_cons_iff.2 (.inr hrest'), hsuffix⟩
    · -- The first end is here, so the rest of any other stands behind it.
      obtain ⟨l, k, rest', hl, hk, hs, htext⟩ := (siteAfterPlace?_eq_some_iff hn).1 hplace
      refine ⟨site', rest', by simp, afterInner_cons_iff.2 (.inl ⟨l, k, hl, hk, hs, htext⟩), ?_⟩
      obtain ⟨front, hfront⟩ := h.exists_front
      rw [← List.append_assoc] at htext
      exact suffix_of_append_clauseEnd hl hk (hfront.symm.trans htext)

/-- The words that begin an origin clause. -/
def evalWords : List Char := ['e', 'v', 'a', 'l', ' ', 'a', 't', ' ']

/-- What stands between a name or an origin and the place it stands at. -/
def opening : List Char := [' ', '(']

/-- An origin is passed over as a whole, for it is written without spaces. -/
theorem evaluated?_append {origin : List Char} (horigin : origin ≠ []) (hspace : ' ' ∉ origin)
    (inner : List Char) :
    evaluated? (evalWords ++ (origin ++ (opening ++ inner))) =
      (siteAfterInner? inner).map fun site => (origin, site) := by
  have hall : ∀ c ∈ origin, decide (c ≠ ' ') = true := fun c hc => by
    simpa using fun (he : c = ' ') => hspace (he ▸ hc)
  have hword : after? ['e', 'v', 'a', 'l', ' ', 'a', 't', ' ']
      (evalWords ++ (origin ++ (opening ++ inner))) = some (origin ++ (opening ++ inner)) :=
    after?_append ..
  have htake : (origin ++ (opening ++ inner)).takeWhile (· ≠ ' ') = origin := by
    rw [List.takeWhile_append_of_pos hall]
    simp [opening]
  have hdrop : (origin ++ (opening ++ inner)).dropWhile (· ≠ ' ') = opening ++ inner := by
    rw [List.dropWhile_append_of_pos hall]
    simp [opening]
  have hopen : after? [' ', '('] (opening ++ inner) = some inner := after?_append ..
  simp only [evaluated?, hword, htake, hdrop, hopen, if_neg horigin]

theorem exists_of_evaluated? {origin : List Char} (h : evaluated? cs = some (origin, site)) :
    ∃ inner, origin ≠ [] ∧ ' ' ∉ origin ∧ siteAfterInner? inner = some site ∧
      cs = evalWords ++ (origin ++ (opening ++ inner)) := by
  rw [evaluated?] at h
  split at h
  · simp at h
  · rename_i r hr
    dsimp only at h
    split at h
    · simp at h
    · rename_i hne
      split at h
      · simp at h
      · rename_i inner hi
        obtain ⟨s, hs, he⟩ := Option.map_eq_some_iff.1 h
        obtain ⟨rfl, rfl⟩ := Prod.mk.inj he
        refine ⟨inner, hne, fun hm => ?_, hs, ?_⟩
        · simpa using List.all_eq_true.1 List.all_takeWhile _ hm
        · have hopen : r.dropWhile (· ≠ ' ') = opening ++ inner := after?_eq_some_iff.1 hi
          rw [← hopen, List.takeWhile_append_dropWhile]
          exact after?_eq_some_iff.1 hr

/-- How the clause on the origin of evaluated code is written. -/
inductive OriginClause : List Char → List Char → Prop
  | intro {origin inner line column : List Char} (horigin : origin ≠ []) (hspace : ' ' ∉ origin)
      (hinner : inner ≠ []) (hline : IsNumeral line) (hcolumn : IsNumeral column) :
      OriginClause origin
        (evalWords ++ (origin ++ (opening ++ innerChars inner line column)))

/-! ### Sites with an origin -/

/-- How a site is written with the origin clause before it, if there is one. -/
inductive Located : Option (List Char) → Site → List Char → Prop
  | plain {site : Site} {cs : List Char} (h : site.Written cs) : Located none site cs
  | evaluated {site : Site} {origin clause cs : List Char} (hc : OriginClause origin clause)
      (h : site.Written cs) : Located (some origin) site (clause ++ cs)

theorem located_of_located? {origin : Option (List Char)} (hfeed : '\n' ∉ cs)
    (h : located? cs = some (origin, site)) : Located origin site cs := by
  rw [located?] at h
  split at h
  · rename_i o s he
    obtain ⟨rfl, rfl⟩ := Prod.mk.inj (Option.some.inj h)
    obtain ⟨inner, ho, hsp, hi, rfl⟩ := exists_of_evaluated? he
    have hin : '\n' ∉ inner := fun hm => hfeed (by simp [hm])
    obtain ⟨rest, ⟨hf, hl, hk, hw⟩⟩ := exists_of_siteAfterInner? hin hi
    simpa using Located.evaluated (.intro ho hsp hf hl hk) hw
  · obtain ⟨s, hs, he⟩ := Option.map_eq_some_iff.1 h
    obtain ⟨rfl, rfl⟩ := Prod.mk.inj he
    exact .plain ((site?_eq_some_iff hfeed).1 hs)

theorem isSome_located? {origin : Option (List Char)} (hfeed : '\n' ∉ cs)
    (h : Located origin site cs) : (located? cs).isSome := by
  rw [located?]
  split
  · rfl
  · rename_i hnone
    rcases h with ⟨hs⟩ | ⟨⟨ho, hsp, hf, hl, hk⟩, hs⟩
    · rw [(site?_eq_some_iff hfeed).2 hs]
      rfl
    · rename_i o r f l k
      have he : evalWords ++ (o ++ (opening ++ innerChars f l k)) ++ r =
          evalWords ++ (o ++ (opening ++ (innerChars f l k ++ r))) := by simp
      rw [he] at hnone hfeed
      rw [evaluated?_append ho hsp, Option.map_eq_none_iff] at hnone
      have hin : '\n' ∉ innerChars f l k ++ r := fun hm => hfeed (by simp at hm ⊢; simp [hm])
      obtain ⟨site', rest', hsite, -⟩ := (AfterInner.intro hf hl hk hs).exists_suffix hin
      simp [hnone] at hsite

/-! ### Names -/

/-- A name without an opening is taken whole: the first opening is the one after it. -/
theorem named?_append {r : Option (List Char) × Site} {name : List Char}
    (hname : ¬opening <:+: name) (hfeed : '\n' ∉ name) (h : located? rest = some r) :
    named? (name ++ (opening ++ rest)) = some (name, r) := by
  induction name with
  | nil =>
    have ho : after? [' ', '('] (' ' :: '(' :: rest) = some rest := after?_append opening rest
    rw [List.nil_append, opening, List.cons_append, List.cons_append, List.nil_append, named?]
    simp [ho, h]
  | cons c name ih =>
    obtain ⟨hcn, hn⟩ : '\n' ≠ c ∧ '\n' ∉ name := by simpa using hfeed
    have hnone : after? [' ', '('] (c :: (name ++ (opening ++ rest))) = none := by
      -- No opening begins with the last character of the name, for the next one is a space.
      rw [after?_eq_none_iff]
      rintro ⟨tail, ht⟩
      rcases name with _ | ⟨d, name⟩
      · simp [opening] at ht
      · obtain ⟨rfl, rfl, -⟩ : ' ' = c ∧ '(' = d ∧ _ := by simpa using ht
        exact hname ⟨[], name, rfl⟩
    have hin : ¬opening <:+: name := fun hi => hname (hi.trans (List.suffix_cons c name).isInfix)
    rw [List.cons_append, named?]
    simp [hnone, hcn.symm, ih hin hn]

/-- How a site is written with a name before it, if there is one. -/
inductive Called : Option (List Char) → Option (List Char) → Site → List Char → Prop
  | anonymous {origin : Option (List Char)} {site : Site} {cs : List Char}
      (h : Located origin site cs) : Called none origin site cs
  | named {origin : Option (List Char)} {site : Site} {cs : List Char} (name : List Char)
      (h : Located origin site cs) : Called (some name) origin site (name ++ (opening ++ cs))

theorem exists_of_named? {name : List Char} {r : Option (List Char) × Site}
    (h : named? cs = some (name, r)) :
    ∃ rest, located? rest = some r ∧ cs = name ++ (opening ++ rest) := by
  induction cs generalizing name with
  | nil => cases h
  | cons c cs ih =>
    rw [named?] at h
    dsimp only at h
    split at h
    · rename_i r' hr
      obtain rfl := Option.some.inj h
      split at hr
      · rename_i tail ht
        obtain ⟨r'', hloc, he⟩ := Option.map_eq_some_iff.1 hr
        obtain ⟨rfl, rfl⟩ := Prod.mk.inj he
        exact ⟨tail, hloc, show c :: cs = opening ++ tail from after?_eq_some_iff.1 ht⟩
      · cases hr
    · split at h
      · cases h
      · obtain ⟨⟨n, r'⟩, hn, he⟩ := Option.map_eq_some_iff.1 h
        obtain ⟨rfl, rfl⟩ := Prod.mk.inj he
        obtain ⟨rest, hloc, rfl⟩ := ih hn
        exact ⟨rest, hloc, rfl⟩

theorem isSome_named? (name : List Char) (hfeed : '\n' ∉ name) (h : (located? rest).isSome) :
    (named? (name ++ (opening ++ rest))).isSome := by
  induction name with
  | nil =>
    obtain ⟨r, hr⟩ := Option.isSome_iff_exists.1 h
    have ho : after? [' ', '('] (' ' :: '(' :: rest) = some rest := after?_append opening rest
    rw [List.nil_append, opening, List.cons_append, List.cons_append, List.nil_append, named?]
    simp [ho, hr]
  | cons c name ih =>
    obtain ⟨hcn, hn⟩ : '\n' ≠ c ∧ '\n' ∉ name := by simpa using hfeed
    rw [List.cons_append, named?]
    dsimp only
    -- An earlier opening may be taken instead; then there is an answer all the same.
    split
    · rfl
    · rw [if_neg hcn.symm, Option.isSome_map]
      exact ih hn

theorem Located.exists_written {origin : Option (List Char)} (h : Located origin site cs) :
    ∃ lead text, site.Written text ∧ cs = lead ++ text := by
  rcases h with ⟨hw⟩ | ⟨hc, hw⟩
  · exact ⟨[], cs, hw, rfl⟩
  · exact ⟨_, _, hw, rfl⟩

theorem Called.exists_written {name origin : Option (List Char)}
    (h : Called name origin site cs) : ∃ lead text, site.Written text ∧ cs = lead ++ text := by
  rcases h with ⟨hloc⟩ | ⟨n, hloc⟩
  · exact hloc.exists_written
  · obtain ⟨lead, text, hw, rfl⟩ := hloc.exists_written
    exact ⟨n ++ (opening ++ lead), text, hw, by simp⟩

theorem called_of_called? {name origin : Option (List Char)} (hfeed : '\n' ∉ cs)
    (h : called? cs = some (name, origin, site)) : Called name origin site cs := by
  rw [called?] at h
  split at h
  · rename_i n r hn
    obtain ⟨rfl, rfl⟩ := Prod.mk.inj (Option.some.inj h)
    obtain ⟨rest, hloc, rfl⟩ := exists_of_named? hn
    have hrest : '\n' ∉ rest := fun hm => hfeed (by simp [hm])
    exact .named n (located_of_located? hrest hloc)
  · obtain ⟨r, hr, he⟩ := Option.map_eq_some_iff.1 h
    obtain ⟨rfl, rfl⟩ := Prod.mk.inj he
    exact .anonymous (located_of_located? hfeed hr)

theorem isSome_called? {name origin : Option (List Char)} (hfeed : '\n' ∉ cs)
    (h : Called name origin site cs) : (called? cs).isSome := by
  rw [called?]
  split
  · rfl
  · rename_i hnone
    rcases h with ⟨hloc⟩ | ⟨n, hloc⟩
    · rw [Option.isSome_map]
      exact isSome_located? hfeed hloc
    · rename_i r
      have hrest : '\n' ∉ r := fun hm => hfeed (by simp [hm])
      have hn : '\n' ∉ n := fun hm => hfeed (by simp [hm])
      have := isSome_named? n hn (isSome_located? hrest hloc)
      rw [hnone] at this
      cases this

/-! ### Whole lines -/

/-- The marker of a frame line, which may be indented and may be missing. -/
inductive Marker : List Char → Prop
  | missing : Marker []
  | marked {indent : List Char} (h : ∀ c ∈ indent, Text.isBlank c = true) :
      Marker (indent ++ ['a', 't', ' '])

/-- The word `new` of a line that says that an object is constructed. -/
def newWord : Bool → List Char
  | true => ['n', 'e', 'w', ' ']
  | false => []

theorem afterMarker?_append {indent : List Char} (h : ∀ c ∈ indent, Text.isBlank c = true)
    (rest : List Char) : afterMarker? (indent ++ (['a', 't', ' '] ++ rest)) = some rest := by
  have hblank : Text.isBlank 'a' = false := by decide
  rw [afterMarker?, List.dropWhile_append_of_pos h, List.cons_append,
    List.dropWhile_cons_of_neg (by simp [hblank])]
  exact after?_append ..

theorem exists_of_afterMarker? (h : afterMarker? cs = some rest) :
    ∃ indent, (∀ c ∈ indent, Text.isBlank c = true) ∧ cs = indent ++ (['a', 't', ' '] ++ rest) :=
  ⟨cs.takeWhile Text.isBlank, fun _ hc => List.all_eq_true.1 List.all_takeWhile _ hc, by
    rw [← after?_eq_some_iff.1 h, List.takeWhile_append_dropWhile]⟩

private theorem mem_afterMarker_iff {r : List Char} :
    r ∈ (afterMarker? cs).toList ++ [cs] ↔ ∃ marker, Marker marker ∧ cs = marker ++ r := by
  rw [List.mem_append, Option.mem_toList, List.mem_singleton]
  constructor
  · rintro (h | rfl)
    · obtain ⟨indent, hb, rfl⟩ := exists_of_afterMarker? h
      exact ⟨_, .marked hb, by simp⟩
    · exact ⟨[], .missing, rfl⟩
  · rintro ⟨marker, ⟨⟩ | ⟨hb⟩, rfl⟩
    · exact .inr rfl
    · rw [List.append_assoc]
      exact .inl (afterMarker?_append hb r)

private theorem mem_afterNew_iff {isConstructor : Bool} :
    (isConstructor, rest) ∈
        ((after? ['n', 'e', 'w', ' '] cs).toList.map fun r => (true, r)) ++ [(false, cs)] ↔
      cs = newWord isConstructor ++ rest := by
  rcases isConstructor with _ | _
  · simp [newWord, eq_comm]
  · simp [newWord, after?_eq_some_iff]

/-- The ways to begin reading a line are the ones that the grammar has. -/
theorem mem_starts_iff {isConstructor : Bool} :
    (isConstructor, rest) ∈ starts cs ↔
      ∃ marker, Marker marker ∧ cs = marker ++ (newWord isConstructor ++ rest) := by
  simp only [starts, List.mem_flatMap, mem_afterMarker_iff, mem_afterNew_iff]
  constructor
  · rintro ⟨r, ⟨marker, hm, rfl⟩, rfl⟩
    exact ⟨marker, hm, rfl⟩
  · rintro ⟨marker, hm, rfl⟩
    exact ⟨_, ⟨marker, hm, rfl⟩, rfl⟩

/-- The grammar of frame lines: a text is divided into the parts of a shape. -/
inductive Shape.Divides : Shape → List Char → Prop
  | intro {shape : Shape} {marker cs : List Char} (hm : Marker marker)
      (hc : Called shape.name shape.origin shape.site cs) :
      Divides shape (marker ++ (newWord shape.isConstructor ++ cs))

/-- A line may begin without a marker and without `new`. -/
theorem Called.divides {name origin : Option (List Char)} (h : Called name origin site cs) :
    Shape.Divides ⟨false, name, origin, site⟩ cs :=
  @Shape.Divides.intro ⟨false, name, origin, site⟩ [] cs .missing h

/-- The reader finds nothing but divisions. -/
theorem divides_of_ofLine? {shape : Shape} (hfeed : '\n' ∉ cs) (h : Shape.ofLine? cs = some shape) :
    shape.Divides cs := by
  obtain ⟨⟨isConstructor, rest⟩, hmem, hr⟩ := List.exists_of_findSome?_eq_some h
  obtain ⟨⟨name, origin, site⟩, hc, rfl⟩ := Option.map_eq_some_iff.1 hr
  obtain ⟨marker, hm, rfl⟩ := mem_starts_iff.1 hmem
  have hrest : '\n' ∉ rest := fun hn => hfeed (by simp [hn])
  exact .intro hm (called_of_called? hrest hc)

/-- The reader finds a division whenever there is one. -/
theorem isSome_ofLine? {shape : Shape} (hfeed : '\n' ∉ cs) (h : shape.Divides cs) :
    (Shape.ofLine? cs).isSome := by
  obtain ⟨hm, hc⟩ := h
  rename_i marker rest
  have hrest : '\n' ∉ rest := fun hn => hfeed (by simp [hn])
  rw [Shape.ofLine?, List.findSome?_isSome_iff]
  refine ⟨(shape.isConstructor, rest), mem_starts_iff.2 ⟨marker, hm, rfl⟩, ?_⟩
  rw [Option.isSome_map]
  exact isSome_called? hrest hc

/-- The site of a division stands at the end of the line. -/
theorem Shape.Divides.exists_written {shape : Shape} (h : shape.Divides cs) :
    ∃ lead text, shape.site.Written text ∧ cs = lead ++ text := by
  obtain ⟨hm, hc⟩ := h
  rename_i marker rest
  obtain ⟨lead, text, hw, rfl⟩ := hc.exists_written
  exact ⟨marker ++ (newWord shape.isConstructor ++ lead), text, hw, by simp⟩

/-- All divisions of a line end with the same coordinates. -/
theorem Shape.Divides.coordinates_eq {shape shape' : Shape} (h : shape.Divides cs)
    (h' : shape'.Divides cs) : shape.site.coordinates = shape'.site.coordinates := by
  obtain ⟨lead, text, hw, rfl⟩ := h.exists_written
  obtain ⟨lead', text', hw', he⟩ := h'.exists_written
  exact hw.coordinates_eq hw' he

end FailurePrompt.Frame
