import FailurePrompt.Encoding.Utf8

/-!
# File URLs

Frames of module code name their file by a `file://` URL. `filePathOfUrl` turns it into a path:
percent escapes are undone, the slash before a drive letter is dropped, and slashes become the
separator in use. The main statements are that any other text is left as it is, and that
unescaping leaves a text without percent signs alone.
-/

namespace FailurePrompt.Url

/-- The value of a hexadecimal digit of either case. -/
def hexValue? (c : Char) : Option Nat :=
  if '0' ≤ c ∧ c ≤ '9' then some (c.toNat - '0'.toNat)
  else if 'a' ≤ c ∧ c ≤ 'f' then some (c.toNat - 'a'.toNat + 10)
  else if 'A' ≤ c ∧ c ≤ 'F' then some (c.toNat - 'A'.toNat + 10)
  else none

/-- The byte that two hexadecimal digits stand for. -/
def escapedByte? (high low : Char) : Option UInt8 :=
  match hexValue? high, hexValue? low with
  | some h, some l => some (UInt8.ofNat (16 * h + l))
  | _, _ => none

/-- The bytes of ASCII text, a percent sign with two hexadecimal digits standing for the byte that
they give. A percent sign without them stands for itself. -/
def asciiBytes : List Char → List UInt8
  | [] => []
  | '%' :: high :: low :: rest =>
    match escapedByte? high low with
    | some b => b :: asciiBytes rest
    | none => 0x25 :: asciiBytes (high :: low :: rest)
  | c :: rest => UInt8.ofNat c.toNat :: asciiBytes rest

/-- An ASCII character. -/
def isAscii (c : Char) : Bool := c.toNat < 0x80

/-- Undoes the percent escapes of a text. Each longest run of ASCII characters is turned into
bytes and read as UTF-8; other characters stand for themselves and end a run. -/
def unescape : List Char → List Char
  | [] => []
  | c :: rest =>
    if isAscii c then
      Utf8.decodeLossy (asciiBytes ((c :: rest).takeWhile isAscii)) ++
        unescape (rest.dropWhile isAscii)
    else c :: unescape rest
termination_by cs => cs.length
decreasing_by
  · have := (List.dropWhile_sublist (l := rest) isAscii).length_le
    simp only [List.length_cons]; omega
  · simp

/-- The scheme that marks a file URL. -/
def scheme : List Char := ['f', 'i', 'l', 'e', ':', '/', '/']

/-- An ASCII letter, which may name a drive. -/
def isDriveLetter (c : Char) : Bool := c.isAlpha

/-- A path without the slash that a URL puts before a drive letter. -/
def dropDriveSlash : List Char → List Char
  | '/' :: letter :: ':' :: rest =>
    if isDriveLetter letter then letter :: ':' :: rest else '/' :: letter :: ':' :: rest
  | path => path

/-- A text with a separator in place of every slash. -/
def replaceSlashes (separator : List Char) (path : List Char) : List Char :=
  path.flatMap fun c => if c = '/' then separator else [c]

/-- The path that a text names: a file URL is taken apart, any other text is a path already. -/
def filePath (separator cs : List Char) : List Char :=
  if scheme.isPrefixOf cs then
    replaceSlashes separator (dropDriveSlash (unescape (cs.drop scheme.length)))
  else cs

/-- A text that is no file URL is a path already. -/
theorem filePath_of_not_scheme {separator cs : List Char} (h : scheme.isPrefixOf cs = false) :
    filePath separator cs = cs := by
  simp [filePath, h]

/-- With the slash as separator, slashes stay. -/
theorem replaceSlashes_slash (path : List Char) : replaceSlashes ['/'] path = path := by
  induction path with
  | nil => rfl
  | cons c path ih =>
    rw [replaceSlashes] at ih
    rw [replaceSlashes, List.flatMap_cons, ih]
    split <;> simp_all

/-! ### Paths are no longer than what names them -/

private theorem length_asciiBytes_le (cs : List Char) : (asciiBytes cs).length ≤ cs.length := by
  fun_induction asciiBytes cs with
  | case1 => simp
  | case2 high low rest b hb ih => simp only [List.length_cons]; omega
  | case3 high low rest hb ih => simp only [List.length_cons] at ih ⊢; omega
  | case4 c rest hc ih => simp only [List.length_cons]; omega

private theorem length_unescape_le (cs : List Char) : (unescape cs).length ≤ cs.length := by
  fun_induction unescape cs with
  | case1 => simp
  | case2 c rest hc ih =>
    have hrun := Nat.le_trans (Utf8.length_decodeLossy_le _)
      (length_asciiBytes_le ((c :: rest).takeWhile isAscii))
    have hsplit := congrArg List.length
      (List.takeWhile_append_dropWhile (p := isAscii) (l := c :: rest))
    rw [List.length_append, List.dropWhile_cons_of_pos hc] at hsplit
    rw [List.length_append]
    omega
  | case3 c rest hc ih => simp only [List.length_cons]; omega

private theorem length_dropDriveSlash_le (path : List Char) :
    (dropDriveSlash path).length ≤ path.length := by
  unfold dropDriveSlash
  split
  · split <;> simp
  · simp

private theorem length_replaceSlashes_le {separator : List Char} (h : separator.length ≤ 1)
    (path : List Char) : (replaceSlashes separator path).length ≤ path.length := by
  induction path with
  | nil => simp [replaceSlashes]
  | cons c path ih =>
    rw [replaceSlashes] at ih
    rw [replaceSlashes, List.flatMap_cons, List.length_append, List.length_cons]
    split
    · omega
    · simp only [List.length_singleton]; omega

/-- A path is no longer than the text that names it, if a separator is no longer than a slash. -/
theorem length_filePath_le {separator : List Char} (h : separator.length ≤ 1) (cs : List Char) :
    (filePath separator cs).length ≤ cs.length := by
  unfold filePath
  split
  · calc (replaceSlashes separator (dropDriveSlash (unescape (cs.drop scheme.length)))).length
        ≤ (dropDriveSlash (unescape (cs.drop scheme.length))).length :=
          length_replaceSlashes_le h _
      _ ≤ (unescape (cs.drop scheme.length)).length := length_dropDriveSlash_le _
      _ ≤ (cs.drop scheme.length).length := length_unescape_le _
      _ ≤ cs.length := by simp
  · exact Nat.le_refl _

end FailurePrompt.Url

namespace FailurePrompt

/-- The path that a string names, with a separator in place of slashes if it is a file URL. -/
def filePathOfUrl (url : String) (separator : String := "/") : String :=
  String.ofList (Url.filePath separator.toList url.toList)

end FailurePrompt
