import FailurePrompt.Files.Tree
import FailurePrompt.Proofs.Encoding.Written
import FailurePrompt.Proofs.Window

/-!
# Reading is lossless

A source file is decoded and cut at its line feeds, and nothing else is done to its text. The main
statement, `readLines_lossless`, is that lines which were written to a file are read back as they
were, and that the lines of any other file are, joined, the text that its bytes are read as. So the
numbers of lines count the line feeds before them and nothing else.
-/

namespace FailurePrompt.SnippetReader

variable {reader : SnippetReader} {files : Files} {filePath : String} {encoding : Encoding}
  {bytes : List UInt8} {lines : List String} {cs : List Char}

/-- The reader reads files in the encoding. -/
def ReadsIn (reader : SnippetReader) (encoding : Encoding) : Prop :=
  '\x00' ∉ reader.encoding.toList ∧ reader.codecs reader.encoding = .ok encoding.decode

/-- The names of encodings without a mark. -/
theorem readsIn_of_name (hcodecs : reader.codecs = .standard) {entry : String × Encoding}
    (h : entry ∈ [("utf-8", .utf8), ("utf-16-le", .utf16 .little), ("utf-16-be", .utf16 .big),
      ("latin-1", .latin1)])
    (hname : reader.encoding = entry.1) : reader.ReadsIn entry.2 := by
  simp only [List.mem_cons, List.not_mem_nil, or_false] at h
  rcases h with rfl | rfl | rfl | rfl <;> rw [ReadsIn, hname, hcodecs] <;> exact ⟨by decide, rfl⟩

/-- A file is read as the lines of its decoded text. -/
theorem readLines_of_decode (hreader : reader.ReadsIn encoding)
    (hbytes : files.read (Path.ofString filePath) = .ok bytes)
    (hdecode : encoding.decode bytes = .ok cs) :
    reader.readLines files filePath = .ok ((Text.lines cs).map String.ofList) := by
  obtain ⟨hnul, hname⟩ := hreader
  have hplain : ¬reader.encoding.toList.contains '\x00' = true := mt List.contains_iff_mem.1 hnul
  refine readLines_eq_ok_iff.2 ⟨cs, ?_, rfl⟩
  simp only [readText, if_neg hplain, hbytes, hname, hdecode]

/-- The text of lines is written in an encoding that has their characters. -/
theorem has_of_mem_joinLines (h : ∀ line ∈ lines, ∀ c ∈ line.toList, encoding.Has c) :
    ∀ c ∈ Text.joinLines (lines.map String.toList), encoding.Has c := by
  intro c hc
  rcases Text.eq_or_mem_of_mem_joinLines hc with rfl | ⟨l, hl, hmem⟩
  · exact encoding.has_of_ascii (by decide)
  · obtain ⟨line, hline, rfl⟩ := List.mem_map.1 hl
    exact h line hline c hmem

/-- Lines that were written are read back, whatever they hold, and the lines of any bytes are the
text that the bytes are read as. -/
theorem readLines_lossless (hreader : reader.ReadsIn encoding) (files : Files)
    (filePath : String) :
    (∀ lines : List String, lines ≠ [] → (∀ line ∈ lines, '\n' ∉ line.toList) →
      (∀ line ∈ lines, ∀ c ∈ line.toList, encoding.Has c) →
      files.read (Path.ofString filePath) =
        .ok (encoding.encode (Text.joinLines (lines.map String.toList))) →
      reader.readLines files filePath = .ok lines) ∧
    (encoding.mark = [] → ∀ bytes, files.read (Path.ofString filePath) = .ok bytes →
      ∃ lines cs, reader.readLines files filePath = .ok lines ∧ encoding.decode bytes = .ok cs ∧
        encoding.Reads bytes cs ∧ Text.joinLines (lines.map String.toList) = cs) := by
  constructor
  · intro lines hne hfeed hhas hbytes
    have hlines : Text.lines (Text.joinLines (lines.map String.toList)) =
        lines.map String.toList :=
      Text.lines_joinLines (by simpa using hne) (by simpa using hfeed)
    rw [readLines_of_decode hreader hbytes (Encoding.decode_encode (has_of_mem_joinLines hhas)),
      hlines]
    simp
  · intro hmark bytes hbytes
    obtain ⟨cs, hdecode, hreads⟩ := Encoding.exists_reads hmark bytes
    refine ⟨_, cs, readLines_of_decode hreader hbytes hdecode, hdecode, hreads, ?_⟩
    rw [List.map_map]
    simpa [Function.comp_def] using Text.joinLines_lines cs

/-- Only a line feed ends a line: a mark, a carriage return and other separators are text, and so is
a surrogate without the other one. -/
theorem readLines_lossless_separators :
    let reader : SnippetReader := { encoding := "utf-16-be" }
    let lines := ["\uFEFF\r", "", "\x00\u0085\u2028😀", ""]
    let written := (Encoding.utf16 .big).encode (Text.joinLines (lines.map String.toList))
    let tree := (Tree.empty.write [['a']] (.file written)).write [['b']]
      (.file [0xD8, 0x3D, 0x00, 0x0A, 0xDE, 0x00])
    reader.readLines tree.files "a" = .ok lines ∧
      ∃ lines, reader.readLines tree.files "b" = .ok lines ∧
        Text.joinLines (lines.map String.toList) = ['\uFFFD', '\n', '\uFFFD'] := by
  intro reader lines written tree
  have hreader : reader.ReadsIn (.utf16 .big) :=
    @readsIn_of_name reader rfl ("utf-16-be", .utf16 .big) (by simp) rfl
  constructor
  · exact (readLines_lossless hreader tree.files "a").1 lines (by decide) (by decide)
      (fun _ _ _ _ => trivial) rfl
  · obtain ⟨lines, cs, hlines, hdecode, -, hcs⟩ :=
      (readLines_lossless hreader tree.files "b").2 rfl _ rfl
    have hlossy : (Encoding.utf16 .big).decode [0xD8, 0x3D, 0x00, 0x0A, 0xDE, 0x00] =
        .ok ['\uFFFD', '\n', '\uFFFD'] := rfl
    obtain rfl := Except.ok.inj (hlossy.symm.trans hdecode)
    exact ⟨lines, hlines, hcs⟩

end FailurePrompt.SnippetReader
