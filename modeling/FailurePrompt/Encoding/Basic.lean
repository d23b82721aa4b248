import FailurePrompt.Encoding.Utf8
import FailurePrompt.Encoding.Utf16

/-!
# Text encodings

An encoding is chosen by name; spelling differences in case and punctuation do not matter.
`Encoding.ofName?` finds the encoding a name stands for and `Encoding.decode` reads bytes in it.
Every encoding reads every byte sequence, undecodable parts becoming the replacement character,
except that UTF-16 without a stated byte order insists on a byte-order mark. There are many more
encodings than these; whoever reads files does so with the `Codecs` that are there, and those of
this module unless others are given.
-/

namespace FailurePrompt

/-- The encodings in which source files are read. -/
inductive Encoding
  | utf8
  /-- UTF-8 whose byte-order mark, if present, is not part of the text. -/
  | utf8Marked
  /-- UTF-16 whose byte order is given by its mark. -/
  | utf16Marked
  | utf16 (order : Utf16.ByteOrder)
  | latin1
  | ascii
  deriving Repr, DecidableEq

namespace Encoding

/-! ### Names -/

/-- A name in its comparable form: letters and digits in lower case, dots kept, every run of other
characters a single underscore between them and nothing at the ends. -/
def normalizeName (name : List Char) : List Char :=
  go false [] name
where
  /-- Collects the form in reverse; `gap` says that a run of other characters was just passed. -/
  go (gap : Bool) (acc : List Char) : List Char → List Char
    | [] => acc.reverse
    | c :: rest =>
      if c.isAlphanum || c == '.' then
        let acc := if gap && !acc.isEmpty then '_' :: acc else acc
        go false (c.toLower :: acc) rest
      else go true acc rest

/-- The comparable names by which something is known. -/
structure Names where
  own : String
  others : List String

/-- A comparable name is one of these names; a dot may stand for an underscore in all but the own
one. -/
def Names.has (names : Names) (form : List Char) : Bool :=
  let undotted := form.map fun c => if c = '.' then '_' else c
  String.ofList form == names.own || names.others.contains (String.ofList form) ||
    names.others.contains (String.ofList undotted)

/-- The names of each encoding. -/
def names : List (Encoding × Names) :=
  [(.utf8, ⟨"utf_8", ["u8", "utf", "utf8", "utf8_ucs2", "utf8_ucs4", "cp65001"]⟩),
   (.utf8Marked, ⟨"utf_8_sig", []⟩),
   (.utf16Marked, ⟨"utf_16", ["u16", "utf16"]⟩),
   (.utf16 .little, ⟨"utf_16_le", ["utf_16le", "unicodelittleunmarked"]⟩),
   (.utf16 .big, ⟨"utf_16_be", ["utf_16be", "unicodebigunmarked"]⟩),
   (.latin1, ⟨"latin_1", ["8859", "cp819", "csisolatin1", "ibm819", "iso8859", "iso8859_1",
     "iso_8859_1", "iso_8859_1_1987", "iso_ir_100", "l1", "latin", "latin1"]⟩),
   (.ascii, ⟨"ascii", ["646", "ansi_x3.4_1968", "ansi_x3_4_1968", "ansi_x3.4_1986", "cp367",
     "csascii", "ibm367", "iso646_us", "iso_646.irv_1991", "iso_ir_6", "us", "us_ascii"]⟩)]

/-- The names of transformations that exist but do not turn bytes into text. -/
def transformNames : List Names :=
  [⟨"base64_codec", ["base64", "base_64"]⟩, ⟨"bz2_codec", ["bz2"]⟩, ⟨"hex_codec", ["hex"]⟩,
   ⟨"quopri_codec", ["quopri", "quotedprintable", "quoted_printable"]⟩, ⟨"rot_13", ["rot13"]⟩,
   ⟨"uu_codec", ["uu"]⟩, ⟨"zlib_codec", ["zip", "zlib"]⟩]

/-- Why a name stands for no encoding. -/
inductive NameError
  | unknown (name : String)
  | transform (name : String)
  deriving Repr, DecidableEq

/-- The wording of a naming error. -/
def NameError.message : NameError → String
  | .unknown name => s!"unknown encoding: {name}"
  | .transform name =>
    s!"'{name}' is not a text encoding; use codecs.open() to handle arbitrary codecs"

/-- The encoding that a name stands for. -/
def ofName? (name : String) : Except NameError Encoding :=
  let form := normalizeName name.toList
  match names.find? (·.2.has form) with
  | some (encoding, _) => .ok encoding
  | none => .error (if transformNames.any (·.has form) then .transform name else .unknown name)

/-! ### Decoding -/

/-- Why a codec makes no text of bytes. -/
inductive DecodeError
  /-- The mark that UTF-16 of unstated byte order needs is missing. -/
  | missingMark
  /-- What else a codec may refuse, in its own words. -/
  | refused (wording : String)
  deriving Repr, DecidableEq

/-- The wording of a decoding error. -/
def DecodeError.message : DecodeError → String
  | .missingMark => "UTF-16 stream does not start with BOM"
  | .refused wording => wording

/-- Decodes UTF-8 without its byte-order mark; a file that is nothing but the start of a mark is
empty. -/
def decodeUtf8Marked : List UInt8 → List Char
  | [0xEF] => []
  | [0xEF, 0xBB] => []
  | 0xEF :: 0xBB :: 0xBF :: rest => Utf8.decodeLossy rest
  | bytes => Utf8.decodeLossy bytes

/-- Decodes UTF-16 in the order that its mark gives. A file too short for a unit needs no mark. -/
def decodeUtf16Marked (bytes : List UInt8) : Except DecodeError (List Char) :=
  match Utf16.ByteOrder.ofMark? bytes with
  | some order => .ok (Utf16.decode order (bytes.drop 2))
  | none => if bytes.length < 2 then .ok (Utf16.decode .little bytes) else .error .missingMark

/-- Decodes one byte of ASCII. -/
def asciiChar (b : UInt8) : Char :=
  if b < 0x80 then Char.ofNat b.toNat else Utf8.replacement

/-- The text that bytes stand for. -/
def decode : Encoding → List UInt8 → Except DecodeError (List Char)
  | .utf8, bytes => .ok (Utf8.decodeLossy bytes)
  | .utf8Marked, bytes => .ok (decodeUtf8Marked bytes)
  | .utf16Marked, bytes => decodeUtf16Marked bytes
  | .utf16 order, bytes => .ok (Utf16.decode order bytes)
  | .latin1, bytes => .ok (bytes.map fun b => Char.ofNat b.toNat)
  | .ascii, bytes => .ok (bytes.map asciiChar)

/-- Only UTF-16 of unstated byte order refuses a byte sequence. -/
theorem exists_decode_eq_ok {encoding : Encoding} (h : encoding ≠ .utf16Marked)
    (bytes : List UInt8) : ∃ cs, encoding.decode bytes = .ok cs := by
  match encoding with
  | .utf8 | .utf8Marked | .utf16 _ | .latin1 | .ascii => exact ⟨_, rfl⟩
  | .utf16Marked => exact absurd rfl h

end Encoding

/-! ### Codecs -/

/-- Reads bytes as text, or refuses them. -/
abbrev Codec := List UInt8 → Except Encoding.DecodeError (List Char)

/-- The codecs that there are, by all their names. -/
abbrev Codecs := String → Except Encoding.NameError Codec

/-- The codecs of the encodings in this module. -/
def Codecs.standard : Codecs := fun name => (Encoding.ofName? name).map Encoding.decode

end FailurePrompt
