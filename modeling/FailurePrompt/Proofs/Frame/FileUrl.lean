import FailurePrompt.Proofs.Frame.LineFeed

/-!
# Paths written as file URLs

A URL may keep a character of a path or write the bytes of its UTF-8 form as percent escapes, each
with hexadecimal digits of either case. Unescaping decodes every run of ASCII on its own, which is
enough, for the escapes of one character are never parted. The main statement, `parseLine_fileUrl`,
is that such a URL names its path again, by itself and in a frame, whatever was escaped.
-/

namespace FailurePrompt.Url

variable {path url bytes cs rest : List Char}

/-! ### Percent-encodings -/

/-- A hexadecimal digit of either case. -/
def IsHexDigit (n : Nat) (c : Char) : Prop :=
  c = Nat.digitChar n ∨ c = (Nat.digitChar n).toUpper

instance (n : Nat) (c : Char) : Decidable (IsHexDigit n c) :=
  inferInstanceAs (Decidable (c = Nat.digitChar n ∨ c = (Nat.digitChar n).toUpper))

/-- Bytes as percent escapes. -/
inductive Escapes : List UInt8 → List Char → Prop
  | nil : Escapes [] []
  | cons {b : UInt8} {high low : Char} {bytes : List UInt8} {cs : List Char}
      (hhigh : IsHexDigit (b.toNat / 16) high) (hlow : IsHexDigit (b.toNat % 16) low)
      (h : Escapes bytes cs) : Escapes (b :: bytes) ('%' :: high :: low :: cs)

/-- A percent-encoding of a path. Every character but the percent sign may be kept. -/
inductive Encodes : List Char → List Char → Prop
  | nil : Encodes [] []
  | kept {c : Char} {path url : List Char} (hc : c ≠ '%') (h : Encodes path url) :
      Encodes (c :: path) (c :: url)
  | escaped {c : Char} {path escapes url : List Char}
      (hc : Escapes (String.utf8EncodeChar c) escapes) (h : Encodes path url) :
      Encodes (c :: path) (escapes ++ url)

/-! ### Escapes -/

theorem hexValue?_of_isHexDigit {n : Nat} {c : Char} (hn : n < 16) (h : IsHexDigit n c) :
    hexValue? c = some n := by
  have hall : ∀ n < 16, hexValue? (Nat.digitChar n) = some n ∧
      hexValue? (Nat.digitChar n).toUpper = some n := by
    decide
  rcases h with rfl | rfl
  · exact (hall n hn).1
  · exact (hall n hn).2

theorem isAscii_of_hexValue? {n : Nat} {c : Char} (h : hexValue? c = some n) :
    isAscii c = true := by
  rw [hexValue?_eq_some_iff] at h
  rw [isAscii, decide_eq_true_eq]
  omega

theorem escapedByte?_of_isHexDigit {b : UInt8} {high low : Char}
    (hhigh : IsHexDigit (b.toNat / 16) high) (hlow : IsHexDigit (b.toNat % 16) low) :
    escapedByte? high low = some b := by
  have hb : b.toNat < 256 := b.toNat_lt
  have hvalue : 16 * (b.toNat / 16) + b.toNat % 16 = b.toNat := Nat.div_add_mod ..
  rw [escapedByte?, hexValue?_of_isHexDigit (by omega) hhigh,
    hexValue?_of_isHexDigit (by omega) hlow]
  dsimp only
  rw [hvalue, UInt8.ofNat_toNat]

/-- Escapes give their bytes back. -/
theorem Escapes.asciiBytes_append {bytes : List UInt8} (h : Escapes bytes cs) (rest : List Char) :
    asciiBytes (cs ++ rest) = bytes ++ asciiBytes rest := by
  induction h with
  | nil => rfl
  | cons hhigh hlow _ ih =>
    simp only [List.cons_append]
    rw [asciiBytes, escapedByte?_of_isHexDigit hhigh hlow]
    dsimp only
    rw [ih]

theorem Escapes.isAscii {bytes : List UInt8} (h : Escapes bytes cs) :
    ∀ c ∈ cs, isAscii c = true := by
  induction h with
  | nil => exact List.forall_mem_nil _
  | @cons b high low _ _ hhigh hlow _ ih =>
    have hb : b.toNat < 256 := b.toNat_lt
    simp only [List.forall_mem_cons]
    exact ⟨by decide, isAscii_of_hexValue? (hexValue?_of_isHexDigit (by omega) hhigh),
      isAscii_of_hexValue? (hexValue?_of_isHexDigit (by omega) hlow), ih⟩

/-- The escapes of a character begin with a percent sign. -/
theorem Escapes.exists_percent {c : Char} (h : Escapes (String.utf8EncodeChar c) cs) :
    ∃ tail, cs = '%' :: tail := by
  generalize hbytes : String.utf8EncodeChar c = bytes at h
  rcases h with _ | _
  · exact absurd hbytes String.utf8EncodeChar_ne_nil
  · exact ⟨_, rfl⟩

theorem asciiBytes_cons_of_ne {c : Char} (hc : c ≠ '%') (rest : List Char) :
    asciiBytes (c :: rest) = UInt8.ofNat c.toNat :: asciiBytes rest := by
  rw [asciiBytes]
  rintro high low rest' rfl
  exact absurd rfl hc

theorem utf8EncodeChar_of_isAscii {c : Char} (hc : isAscii c = true) :
    String.utf8EncodeChar c = [UInt8.ofNat c.toNat] := by
  have hlt : c.val.toNat < 0x80 := by simpa [isAscii] using hc
  rw [String.utf8EncodeChar, if_pos (by omega)]
  rfl

/-! ### Runs of ASCII -/

/-- The first run of ASCII of an encoding gives the bytes of the characters encoded there. -/
theorem Encodes.exists_run (h : Encodes path url) :
    ∃ front behind, path = front ++ behind ∧
      asciiBytes (url.takeWhile isAscii) = front.flatMap String.utf8EncodeChar ∧
        Encodes behind (url.dropWhile isAscii) := by
  induction h with
  | nil => exact ⟨[], [], rfl, rfl, .nil⟩
  | @kept c path url hc h ih =>
    by_cases hascii : isAscii c = true
    · obtain ⟨front, behind, rfl, hrun, hbehind⟩ := ih
      refine ⟨c :: front, behind, rfl, ?_, ?_⟩
      · rw [List.takeWhile_cons_of_pos hascii, asciiBytes_cons_of_ne hc, hrun, List.flatMap_cons,
          utf8EncodeChar_of_isAscii hascii]
        rfl
      · rwa [List.dropWhile_cons_of_pos hascii]
    · refine ⟨[], c :: path, rfl, ?_, ?_⟩
      · rw [List.takeWhile_cons_of_neg hascii]
        rfl
      · rw [List.dropWhile_cons_of_neg hascii]
        exact .kept hc h
  | @escaped c path escapes url hc _ ih =>
    -- All of the escapes stand in the run.
    obtain ⟨front, behind, rfl, hrun, hbehind⟩ := ih
    refine ⟨c :: front, behind, rfl, ?_, ?_⟩
    · rw [List.takeWhile_append_of_pos hc.isAscii, hc.asciiBytes_append, hrun, List.flatMap_cons]
    · rwa [List.dropWhile_append_of_pos hc.isAscii]

theorem Encodes.eq_nil (h : Encodes path []) : path = [] := by
  generalize hurl : [] = url at h
  rcases h with _ | _ | ⟨hescapes, -⟩
  · rfl
  · cases hurl
  · obtain ⟨tail, rfl⟩ := hescapes.exists_percent
    cases hurl

/-- A character beyond ASCII was kept, for escapes begin with a percent sign. -/
theorem Encodes.exists_kept {c : Char} (h : Encodes path (c :: url)) (hc : isAscii c = false) :
    ∃ behind, path = c :: behind ∧ Encodes behind url := by
  generalize hurl : c :: url = text at h
  rcases h with _ | ⟨-, h⟩ | ⟨hescapes, -⟩
  · cases hurl
  · obtain ⟨rfl, rfl⟩ := List.cons.inj hurl
    exact ⟨_, rfl, h⟩
  · obtain ⟨tail, rfl⟩ := hescapes.exists_percent
    obtain ⟨rfl, -⟩ := List.cons.inj hurl
    exact absurd hc (by decide)

/-- Unescaping undoes every encoding. -/
theorem Encodes.unescape_eq (h : Encodes path url) : unescape url = path := by
  fun_induction unescape url generalizing path with
  | case1 => exact h.eq_nil.symm
  | case2 c rest hc ih =>
    obtain ⟨front, behind, rfl, hrun, hbehind⟩ := h.exists_run
    rw [List.dropWhile_cons_of_pos hc] at hbehind
    rw [hrun, Utf8.decodeLossy_flatMap, ih hbehind]
  | case3 c rest hc ih =>
    obtain ⟨behind, rfl, hbehind⟩ := h.exists_kept (Bool.eq_false_iff.2 hc)
    rw [ih hbehind]

/-! ### Paths -/

/-- The path without the slash that a URL puts before a drive letter, if there is one. -/
inductive Local : List Char → List Char → Prop
  | drive {letter : Char} {rest : List Char} (hletter : isDriveLetter letter = true) :
      Local ('/' :: letter :: ':' :: rest) (letter :: ':' :: rest)
  | plain {path : List Char}
      (h : ∀ letter rest, path = '/' :: letter :: ':' :: rest → isDriveLetter letter = false) :
      Local path path

variable {place : List Char}

theorem Local.dropDriveSlash_eq (h : Local path place) : dropDriveSlash path = place := by
  rcases h with hletter | h
  · rw [dropDriveSlash, if_pos hletter]
  · unfold dropDriveSlash
    split
    · rename_i letter rest
      rw [if_neg (by simp [h letter rest rfl])]
    · rfl

/-- The path of a URL that encodes it. -/
theorem Encodes.filePath_eq (h : Encodes path url) (hplace : Local path place)
    (separator : List Char) :
    filePath separator (scheme ++ url) = replaceSlashes separator place := by
  have hscheme : scheme.isPrefixOf (scheme ++ url) = true :=
    List.isPrefixOf_iff_prefix.2 (List.prefix_append ..)
  rw [filePath, if_pos hscheme, List.drop_left, h.unescape_eq, hplace.dropDriveSlash_eq]

/-- An absolute path is not empty, whatever stands for its slashes. -/
theorem Local.replaceSlashes_ne_nil (hplace : Local path place) (habs : Frame.IsAbsolute path)
    {separator : List Char} (hsep : separator ≠ []) : replaceSlashes separator place ≠ [] := by
  obtain ⟨c, tail, rfl⟩ : ∃ c tail, place = c :: tail := by
    rcases hplace with hletter | h
    · exact ⟨_, _, rfl⟩
    · exact List.exists_cons_of_ne_nil habs.ne_nil
  rw [replaceSlashes, List.flatMap_cons]
  split <;> simp [hsep]

/-! ### A character that stays -/

/-- A closing parenthesis is no part of an escape. -/
theorem close_mem_asciiBytes (h : ')' ∈ cs) : 0x29 ∈ asciiBytes cs := by
  fun_induction asciiBytes cs with
  | case1 => cases h
  | case2 high low rest b hb ih =>
    have hhex : ∀ {c : Char} {n : Nat}, hexValue? c = some n → ')' ≠ c := by
      rintro c n hn rfl
      exact absurd hn (by simp [hexValue?])
    rw [escapedByte?] at hb
    split at hb
    case h_1 m n hm hn =>
      have hrest : ')' ∈ rest := by simpa [hhex hm, hhex hn] using h
      exact List.mem_cons_of_mem _ (ih hrest)
    case h_2 => cases hb
  | case3 high low rest hb ih =>
    exact List.mem_cons_of_mem _ (ih (by simpa using h))
  | case4 c rest hc ih =>
    rcases List.mem_cons.1 h with rfl | h
    · exact List.mem_cons_self
    · exact List.mem_cons_of_mem _ (ih h)

theorem close_mem_unescape (h : ')' ∈ cs) : ')' ∈ unescape cs := by
  fun_induction unescape cs with
  | case1 => exact h
  | case2 c rest hc ih =>
    have hsplit := List.takeWhile_append_dropWhile (p := isAscii) (l := c :: rest)
    rw [← hsplit, List.mem_append, List.dropWhile_cons_of_pos hc] at h
    refine List.mem_append.2 (h.imp (fun hrun => ?_) ih)
    exact (Utf8.mem_decodeLossy_iff (by decide) (by decide)).2 (close_mem_asciiBytes hrun)
  | case3 c rest hc ih => exact List.mem_cons.2 ((List.mem_cons.1 h).imp_right ih)

theorem close_mem_dropDriveSlash (h : ')' ∈ path) : ')' ∈ dropDriveSlash path := by
  unfold dropDriveSlash
  split
  · split
    · simpa using h
    · exact h
  · exact h

/-- A closing parenthesis of a text stays in the path that the text names. -/
theorem close_mem_filePath (separator : List Char) (h : ')' ∈ cs) :
    ')' ∈ filePath separator cs := by
  rw [filePath]
  split
  case isTrue hscheme =>
    obtain ⟨url, rfl⟩ := List.isPrefixOf_iff_prefix.1 hscheme
    have hurl : ')' ∈ url := (List.mem_append.1 h).resolve_left (by decide)
    rw [List.drop_left, replaceSlashes, List.mem_flatMap]
    exact ⟨')', close_mem_dropDriveSlash (close_mem_unescape hurl), by simp⟩
  case isFalse => exact h

end FailurePrompt.Url

namespace FailurePrompt.FrameParser

open FailurePrompt.Frame

variable {path url place indent name line column : List Char} {isConstructor : Bool}

/-- A frame whose file is named by a URL. -/
theorem parseLine_namedLine_scheme {parser : FrameParser} (hencodes : Url.Encodes path url)
    (hplace : Url.Local path place) (hindent : ∀ c ∈ indent, Text.isBlank c = true)
    (hname : name ≠ []) (hnfeed : '\n' ∉ name) (hopen : ¬opening <:+: name)
    (hnew : isConstructor = false → ¬newWord true <+: name ++ [' ']) (hparen : '(' ∉ url)
    (hfeed : '\n' ∉ url) (hline : IsNumeral line) (hcolumn : IsNumeral column)
    (hll : line.length ≤ Text.Numeral.maxDigits) (hcl : column.length ≤ Text.Numeral.maxDigits) :
    ∃ shown, Shows name shown ∧
      parser.parseLine
          (String.ofList (namedLine indent isConstructor name (Url.scheme ++ url) line column)) =
        .ok (some {
          rawText := String.ofList
            (namedLine indent isConstructor name (Url.scheme ++ url) line column)
          functionName := some (String.ofList shown)
          filePath :=
            if Url.replaceSlashes parser.pathSeparator.toList place = [] then none
            else some (String.ofList (Url.replaceSlashes parser.pathSeparator.toList place))
          line := some (Text.Numeral.value line)
          column := some (Text.Numeral.value column)
          isNative := false
          isConstructor
          evalOrigin := none }) := by
  obtain ⟨shown, hshows, hreported⟩ := shows_reported hname
  refine ⟨shown, hshows, ?_⟩
  have heval : ¬evalWords <+: Url.scheme ++ url := fun h => by
    simp [evalWords, Url.scheme] at h
  have hfile : Url.scheme ++ url ≠ [] := by simp [Url.scheme]
  have hfile' : '\n' ∉ Url.scheme ++ url := by simp [Url.scheme, hfeed]
  have hshape := ofLine?_namedLine hindent hnfeed hopen hnew hfile hfile' heval hline hcolumn
  have hbalance : balance (some name) (Url.scheme ++ url) = (some name, Url.scheme ++ url) :=
    balance_of_not_mem (by simp [Url.scheme, hparen])
  rw [parseLine_of_shape (by rw [String.toList_ofList]; exact hshape),
    frameOfShape_position rfl hll hcl]
  simp only [balanced, if_true, hbalance, hencodes.filePath_eq hplace, hreported]
  rfl

/-- A URL that encodes a path names it again: its characters, no slash before a drive letter, and
the separator in place of slashes. In a frame it does so too if no opening parenthesis and no line
feed was kept. -/
theorem parseLine_fileUrl {path url place : List Char} (hencodes : Url.Encodes path url)
    (hplace : Url.Local path place) :
    (∀ separator, filePathOfUrl (String.ofList (Url.scheme ++ url)) separator =
      String.ofList (Url.replaceSlashes separator.toList place)) ∧
    filePathOfUrl (String.ofList (Url.scheme ++ url)) = String.ofList place ∧
    ∀ (parser : FrameParser) (indent : List Char) (isConstructor : Bool)
        (name line column : List Char),
      (∀ c ∈ indent, Text.isBlank c = true) → name ≠ [] → '\n' ∉ name → ¬opening <:+: name →
      (isConstructor = false → ¬newWord true <+: name ++ [' ']) → '(' ∉ url → '\n' ∉ url →
      IsNumeral line → IsNumeral column → line.length ≤ Text.Numeral.maxDigits →
      column.length ≤ Text.Numeral.maxDigits →
      (∃ shown, Shows name shown ∧
        parser.parseLine
            (String.ofList (namedLine indent isConstructor name (Url.scheme ++ url) line column)) =
          .ok (some {
            rawText := String.ofList
              (namedLine indent isConstructor name (Url.scheme ++ url) line column)
            functionName := some (String.ofList shown)
            filePath :=
              if Url.replaceSlashes parser.pathSeparator.toList place = [] then none
              else some (String.ofList (Url.replaceSlashes parser.pathSeparator.toList place))
            line := some (Text.Numeral.value line)
            column := some (Text.Numeral.value column)
            isNative := false
            isConstructor
            evalOrigin := none })) ∧
      (IsAbsolute path → parser.pathSeparator ≠ "" →
        Url.replaceSlashes parser.pathSeparator.toList place ≠ []) := by
  have hpath : ∀ separator, filePathOfUrl (String.ofList (Url.scheme ++ url)) separator =
      String.ofList (Url.replaceSlashes separator.toList place) := fun separator => by
    rw [filePathOfUrl, String.toList_ofList, hencodes.filePath_eq hplace]
  refine ⟨hpath, ?_, ?_⟩
  · have hslash := hpath "/"
    rwa [show "/".toList = ['/'] from rfl, Url.replaceSlashes_slash] at hslash
  · intro parser indent isConstructor name line column hindent hname hnfeed hopen hnew hparen hfeed
      hline hcolumn hll hcl
    refine ⟨parseLine_namedLine_scheme hencodes hplace hindent hname hnfeed hopen hnew hparen hfeed
      hline hcolumn hll hcl, fun habs hsep => ?_⟩
    exact hplace.replaceSlashes_ne_nil habs fun he => hsep (String.toList_eq_nil_iff.1 he)

/-- A drive, a directory with a space, parentheses and a letter beyond ASCII, and hexadecimal digits
of both cases. -/
theorem parseLine_fileUrl_drive :
    parseLine { pathSeparator := "\\" } "    at fn (file:///C:/a%20%28%c3%BC)/x.js:12:5)" =
      .ok (some {
        rawText := "    at fn (file:///C:/a%20%28%c3%BC)/x.js:12:5)"
        functionName := some "fn"
        filePath := some "C:\\a (ü)\\x.js"
        line := some 12
        column := some 5 }) := by
  have hend : Url.Encodes [')', '/', 'x', '.', 'j', 's'] [')', '/', 'x', '.', 'j', 's'] :=
    .kept (by decide) <| .kept (by decide) <| .kept (by decide) <| .kept (by decide) <|
      .kept (by decide) <| .kept (by decide) .nil
  have hletter : Url.Escapes (String.utf8EncodeChar 'ü') ['%', 'c', '3', '%', 'B', 'C'] :=
    .cons (by decide) (by decide) <| .cons (by decide) (by decide) .nil
  have hparen : Url.Escapes (String.utf8EncodeChar '(') ['%', '2', '8'] :=
    .cons (by decide) (by decide) .nil
  have hspace : Url.Escapes (String.utf8EncodeChar ' ') ['%', '2', '0'] :=
    .cons (by decide) (by decide) .nil
  have hencodes : Url.Encodes
      ['/', 'C', ':', '/', 'a', ' ', '(', 'ü', ')', '/', 'x', '.', 'j', 's']
      ['/', 'C', ':', '/', 'a', '%', '2', '0', '%', '2', '8', '%', 'c', '3', '%', 'B', 'C', ')',
        '/', 'x', '.', 'j', 's'] :=
    .kept (by decide) <| .kept (by decide) <| .kept (by decide) <| .kept (by decide) <|
      .kept (by decide) <| .escaped hspace <| .escaped hparen <| .escaped hletter hend
  obtain ⟨shown, hshows, h⟩ := ((parseLine_fileUrl hencodes (.drive (by decide))).2.2
    { pathSeparator := "\\" } [' ', ' ', ' ', ' '] false ['f', 'n'] ['1', '2'] ['5']
    (List.all_eq_true.1 (by decide)) (by decide) (by decide) (by decide) (by decide) (by decide)
    (by decide) (by decide) (by decide) (by decide) (by decide)).1
  obtain ⟨base, hbase, -⟩ | ⟨-, rfl⟩ := hshows
  · have hlast := congrArg List.getLast? hbase
    simp at hlast
  · exact h

end FailurePrompt.FrameParser
