import FailurePrompt.Proofs.Encoding.Utf8
import FailurePrompt.Proofs.Frame.Parenthesis

/-!
# Line feeds in file names

A line of a stack holds no line feed, but the file of its frame may: a file URL can write one as a
percent escape. Nothing else brings one in, for no escape but `%0A` stands for the byte of a line
feed, and in UTF-8 a byte of ASCII is never part of another character. The main statement,
`feed_mem_file_iff`, is that the file of a frame holds a line feed exactly if its line names it by a
URL with such an escape; `feed_notMem_functionName` says that the name of a function holds none.
-/

namespace FailurePrompt.Url

/-! ### Escaped line feeds -/

/-- A line feed is written as a percent escape. -/
def EscapesFeed (cs : List Char) : Prop :=
  ['%', '0', 'A'] <:+: cs ∨ ['%', '0', 'a'] <:+: cs

theorem escapesFeed_cons_of_ne {c : Char} (cs : List Char) (hc : c ≠ '%') :
    EscapesFeed (c :: cs) ↔ EscapesFeed cs := by
  simp [EscapesFeed, List.infix_cons_iff, List.cons_prefix_cons, hc.symm]

theorem escapesFeed_percent_cons (high low : Char) (cs : List Char) :
    EscapesFeed ('%' :: high :: low :: cs) ↔
      (high = '0' ∧ (low = 'A' ∨ low = 'a')) ∨ EscapesFeed (high :: low :: cs) := by
  simp only [EscapesFeed, List.infix_cons_iff (a := '%'), List.cons_prefix_cons, List.nil_prefix,
    true_and, and_true, eq_comm (a := '0'), eq_comm (a := 'A'), eq_comm (a := 'a')]
  grind

theorem hexValue?_eq_some_iff {c : Char} {n : Nat} :
    hexValue? c = some n ↔
      (0x30 ≤ c.toNat ∧ c.toNat ≤ 0x39 ∧ n = c.toNat - 0x30) ∨
        (0x61 ≤ c.toNat ∧ c.toNat ≤ 0x66 ∧ n = c.toNat - 0x57) ∨
          (0x41 ≤ c.toNat ∧ c.toNat ≤ 0x46 ∧ n = c.toNat - 0x37) := by
  have hle (a b : Char) : a ≤ b ↔ a.toNat ≤ b.toNat := UInt32.le_iff_toNat_le
  have h0 : '0'.toNat = 0x30 := rfl
  have h9 : '9'.toNat = 0x39 := rfl
  have ha : 'a'.toNat = 0x61 := rfl
  have hf : 'f'.toNat = 0x66 := rfl
  have hA : 'A'.toNat = 0x41 := rfl
  have hF : 'F'.toNat = 0x46 := rfl
  simp only [hexValue?, hle, h0, h9, ha, hf, hA, hF]
  split
  · rw [Option.some.injEq]
    omega
  split
  · rw [Option.some.injEq]
    omega
  split
  · rw [Option.some.injEq]
    omega
  · simp only [reduceCtorEq, false_iff]
    omega

/-- The escape of a line feed is a zero and the digit for ten. -/
theorem escapedByte?_eq_feed_iff {high low : Char} :
    escapedByte? high low = some 0x0A ↔ high = '0' ∧ (low = 'A' ∨ low = 'a') := by
  constructor
  · intro h
    rw [escapedByte?] at h
    split at h
    case h_1 m n hm hn =>
      have hbyte : 16 * m + n = 0x0A := by
        have htoNat : (16 * m + n) % 2 ^ 8 = 0x0A := by
          rw [← UInt8.toNat_ofNat']
          exact congrArg UInt8.toNat (Option.some.inj h)
        rw [hexValue?_eq_some_iff] at hm hn
        omega
      rw [hexValue?_eq_some_iff] at hm hn
      refine ⟨Char.toNat_inj.1 ?_, ?_⟩
      · change high.toNat = 0x30
        omega
      · rw [← Char.toNat_inj, ← Char.toNat_inj]
        change low.toNat = 0x41 ∨ low.toNat = 0x61
        omega
    case h_2 => cases h
  · rintro ⟨rfl, rfl | rfl⟩ <;> rfl

/-- Neither of two hexadecimal digits begins an escape or is a line feed. -/
theorem ne_of_escapedByte? {high low : Char} {b : UInt8} (h : escapedByte? high low = some b) :
    (high ≠ '%' ∧ low ≠ '%') ∧ '\n' ≠ high ∧ '\n' ≠ low := by
  rw [escapedByte?] at h
  split at h
  case h_1 m n hm hn =>
    rw [hexValue?_eq_some_iff] at hm hn
    refine ⟨⟨?_, ?_⟩, ?_, ?_⟩
    all_goals
      rintro rfl
      simp at hm hn
  case h_2 => cases h

private theorem feed_eq_byte_iff {c : Char} (hc : isAscii c = true) :
    (0x0A : UInt8) = UInt8.ofNat c.toNat ↔ '\n' = c := by
  have hlt : c.toNat < 0x80 := by simpa [isAscii] using hc
  rw [← UInt8.toNat_inj, UInt8.toNat_ofNat', ← Char.toNat_inj]
  change 0x0A = c.toNat % 2 ^ 8 ↔ 0x0A = c.toNat
  omega

/-- Only the escape of a line feed gives its byte. -/
theorem feed_mem_asciiBytes_iff {cs : List Char} (hascii : ∀ c ∈ cs, isAscii c = true) :
    0x0A ∈ asciiBytes cs ↔ '\n' ∈ cs ∨ EscapesFeed cs := by
  have hpercent : '\n' ≠ '%' := by decide
  have hbyte : (0x0A : UInt8) ≠ 0x25 := by decide
  fun_induction asciiBytes cs with
  | case1 => simp [EscapesFeed]
  | case2 high low rest b hb ih =>
    obtain ⟨⟨hhigh, hlow⟩, hhigh', hlow'⟩ := ne_of_escapedByte? hb
    have hrest : 0x0A ∈ asciiBytes rest ↔ '\n' ∈ rest ∨ EscapesFeed rest :=
      ih fun c hc => hascii c (by simp [hc])
    have hfeed : 0x0A = b ↔ high = '0' ∧ (low = 'A' ∨ low = 'a') := by
      rw [← escapedByte?_eq_feed_iff, hb, Option.some.injEq, eq_comm]
    have hmem : '\n' ∈ '%' :: high :: low :: rest ↔ '\n' ∈ rest := by
      simp [hpercent, hhigh', hlow']
    rw [List.mem_cons, hrest, hfeed, hmem, escapesFeed_percent_cons,
      escapesFeed_cons_of_ne _ hhigh, escapesFeed_cons_of_ne _ hlow]
    exact or_left_comm
  | case3 high low rest hb ih =>
    have hrest : 0x0A ∈ asciiBytes (high :: low :: rest) ↔
        '\n' ∈ high :: low :: rest ∨ EscapesFeed (high :: low :: rest) :=
      ih fun c hc => hascii c (List.mem_cons_of_mem _ hc)
    have hfeed : ¬(high = '0' ∧ (low = 'A' ∨ low = 'a')) := by
      rw [← escapedByte?_eq_feed_iff, hb]
      simp
    have hmem : '\n' ∈ '%' :: high :: low :: rest ↔ '\n' ∈ high :: low :: rest :=
      List.mem_cons.trans (or_iff_right hpercent)
    rw [List.mem_cons, or_iff_right hbyte, hrest, hmem, escapesFeed_percent_cons,
      or_iff_right hfeed]
  | case4 c rest hc ih =>
    obtain ⟨hhead, htail⟩ := List.forall_mem_cons.1 hascii
    have hrest : 0x0A ∈ asciiBytes rest ↔ '\n' ∈ rest ∨ EscapesFeed rest := ih htail
    have hescape : EscapesFeed (c :: rest) ↔ EscapesFeed rest := by
      by_cases h : c = '%'
      · -- Less than two characters follow, so this is no escape.
        subst h
        rcases rest with _ | ⟨high, _ | ⟨low, rest⟩⟩
        · simp [EscapesFeed, List.infix_cons_iff]
        · simp [EscapesFeed, List.infix_cons_iff]
        · exact (hc high low rest rfl rfl).elim
      · exact escapesFeed_cons_of_ne rest h
    rw [List.mem_cons, hrest, feed_eq_byte_iff hhead, List.mem_cons, hescape, or_assoc]

/-! ### Line feeds in paths -/

/-- A word of such characters stands in the first run of them or after it. -/
theorem infix_iff_takeWhile_or_dropWhile {p : Char → Bool} {word cs : List Char}
    (hword : ∀ c ∈ word, p c = true) :
    word <:+: cs ↔ word <:+: cs.takeWhile p ∨ word <:+: cs.dropWhile p := by
  constructor
  · intro h
    induction cs with
    | nil => exact .inl h
    | cons c cs ih =>
      by_cases hc : p c = true
      · rcases List.infix_cons_iff.1 h with ⟨behind, hpre⟩ | hin
        · rw [← hpre, List.takeWhile_append_of_pos hword]
          exact .inl (List.prefix_append _ _).isInfix
        · rw [List.takeWhile_cons_of_pos hc, List.dropWhile_cons_of_pos hc]
          exact (ih hin).imp_left fun hrun => List.infix_cons_iff.2 (.inr hrun)
      · rw [List.dropWhile_cons_of_neg hc]
        exact .inr h
  · rintro (h | h)
    · exact h.trans (List.takeWhile_prefix p).isInfix
    · exact h.trans (List.dropWhile_suffix p).isInfix

theorem escapesFeed_iff_takeWhile_or_dropWhile (cs : List Char) :
    EscapesFeed cs ↔ EscapesFeed (cs.takeWhile isAscii) ∨ EscapesFeed (cs.dropWhile isAscii) := by
  have hupper := @infix_iff_takeWhile_or_dropWhile isAscii ['%', '0', 'A'] cs
    (List.all_eq_true.1 (by decide))
  have hlower := @infix_iff_takeWhile_or_dropWhile isAscii ['%', '0', 'a'] cs
    (List.all_eq_true.1 (by decide))
  rw [EscapesFeed, hupper, hlower, or_or_or_comm]
  rfl

/-- Undoing escapes brings in the line feeds that are escaped. -/
theorem feed_mem_unescape_iff (cs : List Char) :
    '\n' ∈ unescape cs ↔ '\n' ∈ cs ∨ EscapesFeed cs := by
  fun_induction unescape cs with
  | case1 => simp [EscapesFeed]
  | case2 c rest hc ih =>
    have hrun := @feed_mem_asciiBytes_iff ((c :: rest).takeWhile isAscii)
      fun d hd => List.all_eq_true.1 List.all_takeWhile d hd
    have hdrop : (c :: rest).dropWhile isAscii = rest.dropWhile isAscii :=
      List.dropWhile_cons_of_pos hc
    have hsplit : '\n' ∈ c :: rest ↔
        '\n' ∈ (c :: rest).takeWhile isAscii ∨ '\n' ∈ rest.dropWhile isAscii := by
      rw [← hdrop, ← List.mem_append, List.takeWhile_append_dropWhile]
    have hfeed : '\n' ∈ Utf8.decodeLossy (asciiBytes ((c :: rest).takeWhile isAscii)) ↔
        0x0A ∈ asciiBytes ((c :: rest).takeWhile isAscii) :=
      Utf8.mem_decodeLossy_iff (by decide) (by decide)
    rw [List.mem_append, hfeed, hrun, ih, hsplit,
      escapesFeed_iff_takeWhile_or_dropWhile (c :: rest), hdrop, or_or_or_comm]
  | case3 c rest hc ih =>
    have hfeed : '\n' ≠ c := by
      rintro rfl
      exact hc (by decide)
    have hpercent : c ≠ '%' := by
      rintro rfl
      exact hc (by decide)
    rw [List.mem_cons, List.mem_cons, ih, or_iff_right hfeed, or_iff_right hfeed,
      escapesFeed_cons_of_ne rest hpercent]

theorem feed_mem_dropDriveSlash_iff (path : List Char) :
    '\n' ∈ dropDriveSlash path ↔ '\n' ∈ path := by
  unfold dropDriveSlash
  split
  · split <;> simp
  · rfl

theorem feed_mem_replaceSlashes_iff {separator : List Char} (hsep : '\n' ∉ separator)
    (path : List Char) : '\n' ∈ replaceSlashes separator path ↔ '\n' ∈ path := by
  rw [replaceSlashes, List.mem_flatMap]
  constructor
  · rintro ⟨c, hc, hmem⟩
    split at hmem
    · exact absurd hmem hsep
    · rwa [List.mem_singleton.1 hmem]
  · exact fun hmem => ⟨'\n', hmem, by simp⟩

/-- A path holds a line feed exactly if a file URL with an escaped one names it, or if the text that
names it does. -/
theorem feed_mem_filePath_iff {separator cs : List Char} (hsep : '\n' ∉ separator)
    (hcs : '\n' ∉ cs) :
    '\n' ∈ filePath separator cs ↔ ∃ url, cs = scheme ++ url ∧ EscapesFeed url := by
  rw [filePath]
  split
  case isTrue h =>
    obtain ⟨url, rfl⟩ := List.isPrefixOf_iff_prefix.1 h
    have hurl : '\n' ∉ url := fun hmem => hcs (List.mem_append_right _ hmem)
    rw [List.drop_left, feed_mem_replaceSlashes_iff hsep, feed_mem_dropDriveSlash_iff,
      feed_mem_unescape_iff, or_iff_right hurl]
    simp
  case isFalse h =>
    refine iff_of_false hcs ?_
    rintro ⟨url, rfl, -⟩
    exact h (List.isPrefixOf_iff_prefix.2 (List.prefix_append _ _))

end FailurePrompt.Url

namespace FailurePrompt.Frame

variable {cs name file : List Char}

/-! ### Parts of a line -/

theorem Shape.Divides.subset {shape : Shape} (h : shape.Divides cs) :
    (∀ name, shape.name = some name → name ⊆ cs) ∧
      ∀ file line column closed, shape.site = .position file line column closed → file ⊆ cs := by
  constructor
  · intro name hname
    obtain ⟨hm, hc⟩ := h
    rw [hname] at hc
    cases hc
    intro c hmem
    simp [hmem]
  · intro file line column closed hsite
    obtain ⟨lead, text, hw, rfl⟩ := h.exists_written
    rw [hsite] at hw
    cases hw
    intro c hmem
    simp [hmem]

/-- What the scan splits comes from the text that it is given. -/
theorem splitUnanswered_subset {closes : Nat} {passed before lead after : List Char}
    (h : splitUnanswered closes passed before = some (lead, after)) :
    lead ⊆ before ∧ after ⊆ passed ++ before := by
  have hpass : ∀ (c : Char) (passed before : List Char),
      c :: passed ++ before ⊆ passed ++ c :: before := fun _ _ _ => List.perm_middle.symm.subset
  fun_induction splitUnanswered closes passed before with
  | case1 => cases h
  | case2 closes passed before ih =>
    exact (ih h).imp (List.subset_cons_of_subset _) fun ha =>
      List.Subset.trans ha (hpass ..)
  | case3 passed before =>
    cases h
    exact ⟨fun c hc => by simp_all, List.subset_append_left _ _⟩
  | case4 passed before closes ih =>
    exact (ih h).imp (List.subset_cons_of_subset _) fun ha =>
      List.Subset.trans ha (hpass ..)
  | case5 closes passed c before _ _ _ ih =>
    exact (ih h).imp (List.subset_cons_of_subset _) fun ha =>
      List.Subset.trans ha (hpass ..)

/-- Balancing moves text, and puts a space and a parenthesis in front of it. -/
theorem balanced_subset {name : Option (List Char)} {file : List Char} {closed : Bool} :
    (balanced name file closed).2 ⊆ file ∧
      ∀ shown, (balanced name file closed).1 = some shown →
        shown ⊆ name.getD [] ++ (opening ++ file) := by
  have hsame : ∀ shown, name = some shown → shown ⊆ name.getD [] ++ (opening ++ file) := by
    rintro shown rfl
    exact List.subset_append_left _ _
  rcases closed with _ | _
  · exact ⟨List.Subset.refl _, hsame⟩
  rw [balanced, if_pos rfl, balance.eq_def]
  split
  case h_1 => exact ⟨List.Subset.refl _, hsame⟩
  case h_2 before after hsplit =>
    obtain ⟨hbefore, hafter⟩ := splitUnanswered_subset hsplit
    refine ⟨fun c hc => by simpa using hafter hc, fun shown hshown => ?_⟩
    have hfile : before ⊆ file := fun c hc => by simpa using hbefore hc
    obtain rfl := Option.some.inj hshown
    rcases name with _ | _ | ⟨d, name⟩ <;> intro c hc <;> simp [opening] at hc ⊢ <;> grind

end FailurePrompt.Frame

namespace FailurePrompt

open FailurePrompt.Frame

/-- The file that a shape names, once the parentheses are balanced. -/
def Frame.Shape.file? (shape : Shape) : Option (List Char) :=
  match shape.site with
  | .position file _ _ closed => some (balanced shape.name file closed).2
  | .native => none

/-- The file of the line is named by a URL in which a line feed is escaped. -/
def NamesFeed (line : String) : Prop :=
  ∃ shape url, Shape.ofLine? line.toList = some shape ∧
    shape.file? = some (Url.scheme ++ url) ∧ Url.EscapesFeed url

namespace FrameParser

variable {parser : FrameParser} {line : String} {frame : Frame}

theorem toList_file_of_frameOfShape {shape : Shape}
    (h : parser.frameOfShape line shape = .ok frame) :
    frame.file.toList = (shape.file?.map (Url.filePath parser.pathSeparator.toList)).getD [] := by
  rw [Shape.file?]
  rcases hsite : shape.site with ⟨file, l, c, closed⟩ | _
  · rw [frameOfShape, hsite] at h
    dsimp only at h
    split at h <;> cases h
    dsimp only [Frame.file, Option.map_some, Option.getD_some]
    split
    case isTrue hpath => exact hpath.symm
    case isFalse => exact String.toList_ofList
  · rw [frameOfShape_native hsite] at h
    cases h
    rfl

theorem functionName_of_frameOfShape {shape : Shape}
    (h : parser.frameOfShape line shape = .ok frame) :
    ∃ name, frame.functionName = (reportedName name).map String.ofList ∧
      (name = shape.name ∨ ∃ file l c closed, shape.site = .position file l c closed ∧
        name = (balanced shape.name file closed).1) := by
  rcases hsite : shape.site with ⟨file, l, c, closed⟩ | _
  · rw [frameOfShape, hsite] at h
    dsimp only at h
    split at h <;> cases h
    exact ⟨_, rfl, .inr ⟨_, _, _, _, rfl, rfl⟩⟩
  · rw [frameOfShape_native hsite] at h
    cases h
    exact ⟨_, rfl, .inl rfl⟩

/-- The file of a frame holds a line feed exactly if its line escapes one in a URL. -/
theorem feed_mem_file_iff (hsep : '\n' ∉ parser.pathSeparator.toList) (hfeed : '\n' ∉ line.toList)
    (h : parser.parseLine line = .ok (some frame)) :
    '\n' ∈ frame.file.toList ↔ NamesFeed line := by
  obtain ⟨shape, hs, hframe⟩ := exists_shape_of_parseLine h
  have hnames : NamesFeed line ↔
      ∃ url, shape.file? = some (Url.scheme ++ url) ∧ Url.EscapesFeed url := by
    simp [NamesFeed, hs]
  rw [hnames, toList_file_of_frameOfShape hframe]
  rcases hfile : shape.file? with _ | file
  · simp
  · have hplain : '\n' ∉ file := by
      rw [Shape.file?] at hfile
      split at hfile <;> cases hfile
      rename_i hsite
      exact fun hmem => hfeed (((divides_of_ofLine? hfeed hs).subset.2 _ _ _ _ hsite)
        (balanced_subset.1 hmem))
    rw [Option.map_some, Option.getD_some, Url.feed_mem_filePath_iff hsep hplain]
    simp

/-- The name of a function is text of the line. -/
theorem feed_notMem_functionName (hfeed : '\n' ∉ line.toList)
    (h : parser.parseLine line = .ok (some frame)) {name : String}
    (hname : frame.functionName = some name) : '\n' ∉ name.toList := by
  obtain ⟨shape, hs, hframe⟩ := exists_shape_of_parseLine h
  obtain ⟨hnames, hfiles⟩ := (divides_of_ofLine? hfeed hs).subset
  obtain ⟨written, hwritten, hfrom⟩ := functionName_of_frameOfShape hframe
  -- What is written for the name is feed-free, and what is reported is part of it.
  have hplain : ∀ text, written = some text → '\n' ∉ text := by
    rintro text rfl hmem
    rcases hfrom with hshape | ⟨file, l, c, closed, hsite, hbalanced⟩
    · exact hfeed (hnames _ hshape.symm hmem)
    · have hmoved := balanced_subset.2 _ hbalanced.symm hmem
      simp only [List.mem_append, opening] at hmoved
      rcases hmoved with hmem | hmem | hmem
      · rcases hshown : shape.name with _ | n <;> rw [hshown] at hmem
        · simp at hmem
        · exact hfeed (hnames _ hshown hmem)
      · simp at hmem
      · exact hfeed (hfiles _ _ _ _ hsite hmem)
  rw [hname] at hwritten
  rcases written with _ | _ | ⟨c, text⟩
  · cases hwritten
  · cases hwritten
  · obtain ⟨shown, hshows, hreported⟩ := shows_reported (List.cons_ne_nil c text)
    rw [hreported] at hwritten
    obtain rfl := Option.some.inj hwritten
    rw [String.toList_ofList]
    exact fun hmem => hplain _ rfl (hshows.subset hmem)

end FrameParser

end FailurePrompt
