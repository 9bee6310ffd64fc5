import ScriptReplay.Proofs.Encoding.RoundTrip
import ScriptReplay.Proofs.Splitter.Feed
import ScriptReplay.Proofs.Text.Lines
import ScriptReplay.Script.Load

/-!
# Line endings of script files

The statements of a script file depend on its lines and not on how they are ended.

* `statements_ofFile_written`: a file that holds lines with any endings has the statements of these
  lines. What is read from it may lack empty lines, and those are skipped.
* `splitText_eq_statements_ofFile`: a script given as text has the statements of a file with that
  text, where only CR and LF can break its lines.
-/

namespace ScriptReplay

/-! ## Lines that hold nothing -/

namespace Splitter

variable (splitter : Splitter)

/-- Empty lines make no difference to what is read. -/
theorem splitFrom_nonEmpty (state : State) (lines : List (List Char)) :
    splitter.splitFrom state (Text.nonEmpty lines) = splitter.splitFrom state lines := by
  induction lines generalizing state with
  | nil => rfl
  | cons line rest ih =>
    cases line with
    | nil =>
      have hskip : splitter.step state [] = ([], state) := step_skip rfl
      rw [Text.nonEmpty_cons_nil, splitFrom_cons, hskip, ih]
      rfl
    | cons c line =>
      have hkept : Text.nonEmpty ((c :: line) :: rest) = (c :: line) :: Text.nonEmpty rest := rfl
      rw [hkept, splitFrom_cons, splitFrom_cons, ih]

theorem splitChars_congr {lines more : List (List Char)}
    (h : Text.nonEmpty lines = Text.nonEmpty more) :
    splitter.splitChars lines = splitter.splitChars more := by
  rw [splitChars_eq_splitFrom, splitChars_eq_splitFrom, ← splitFrom_nonEmpty, h,
    splitFrom_nonEmpty]

theorem split_map_ofList (lines : List (List Char)) :
    splitter.split (lines.map String.ofList) = (splitter.splitChars lines).map String.ofList := by
  simp [split, Function.comp_def]

end Splitter

/-! ## Files with a known content -/

/-- A path leads to a file with the given content. -/
def FileTree.Holds (tree : FileTree) (path : String) (content : List UInt8) : Prop :=
  FileTree.holdsNul (Path.ofString path) = false ∧ tree.read (Path.ofString path) = .ok content

namespace Script

open Encoding (Codecs)

variable {tree : FileTree} {config : Config} {path : String} {text : List Char}

theorem readChars_of_holds [Codecs] {encoding : String} {content : List UInt8}
    (hfile : tree.Holds path content) (htext : Encoding.decodeNamed encoding content = .ok text) :
    readChars tree path encoding = .ok text := by
  unfold readChars
  simp only [hfile.1, hfile.2, htext]
  rfl

theorem statements_ofFile [Codecs] (h : readChars tree path config.encoding = .ok text) :
    (ofFile tree config path).map Script.statements =
      .ok (((config.splitter (some .forScript)).splitChars (Text.fileLines text)).map
        String.ofList) := by
  unfold ofFile load
  rw [h, ← Splitter.split_map_ofList]
  rfl

theorem readChars_eq_ok_iff [Codecs] {encoding text : String} :
    readChars tree path encoding = .ok text.toList ↔ readText tree path encoding = .ok text := by
  unfold readText
  cases readChars tree path encoding with
  | error fault => exact ⟨nofun, nofun⟩
  | ok chars =>
    constructor
    · intro h
      rw [Except.ok.inj h]
      exact congrArg Except.ok String.ofList_toList
    · intro h
      rw [← Except.ok.inj h, String.toList_ofList]

/-! ## Lines written with any endings -/

/-- The text of lines that are written one after another, each with its ending, and of a last line
without one, if there is one. -/
def written (lines : List (String × Text.Terminator)) (last : Option String) : List Char :=
  Text.unlines (lines.map fun line => (line.1.toList, line.2)) ++ last.elim [] String.toList

/-- Lines that are written with any endings and read again are the same lines, up to empty ones. -/
theorem nonEmpty_fileLines_written {lines : List (String × Text.Terminator)} {last : Option String}
    (hlines : ∀ line ∈ lines, Text.Unbroken line.1.toList)
    (hlast : ∀ line ∈ last, Text.Unbroken line.toList) :
    Text.nonEmpty (Text.fileLines (written lines last)) =
      Text.nonEmpty ((lines.map Prod.fst ++ last.toList).map String.toList) := by
  have hchars : ∀ line ∈ lines.map fun line => (line.1.toList, line.2), Text.Unbroken line.1 := by
    intro line hline
    obtain ⟨found, hmem, rfl⟩ := List.mem_map.1 hline
    exact hlines found hmem
  have hend : Text.Unbroken (last.elim [] String.toList) := by
    cases last with
    | none => simp [Text.Unbroken]
    | some line => exact hlast line rfl
  rw [written, Text.nonEmpty_fileLines_unlines hchars hend]
  cases last with
  | none => simp [Text.nonEmpty, Function.comp_def]
  | some line => simp [Function.comp_def]

/-- A file that reads as lines with any endings has the statements of these lines, whether or not
the last has an ending. A file that holds the lines as one of the encodings writes them reads as
them, where the name in the settings stands for that encoding. -/
theorem statements_ofFile_written [Codecs] (tree : FileTree) (config : Config) (path : String)
    (lines : List (String × Text.Terminator)) (last : Option String)
    (hlines : ∀ line ∈ lines, Text.Unbroken line.1.toList)
    (hlast : ∀ line ∈ last, Text.Unbroken line.toList) :
    (readText tree path config.encoding = .ok (String.ofList (written lines last)) →
      (ofFile tree config path).map Script.statements =
        .ok ((config.splitter (some .forScript)).split (lines.map Prod.fst ++ last.toList))) ∧
    ∀ (encoding : Encoding) content, '\x00' ∉ config.encoding.toList →
      Codecs.find config.encoding = .ok encoding.codec →
      encoding.encode? (written lines last) = some content → tree.Holds path content →
      readText tree path config.encoding = .ok (String.ofList (written lines last)) := by
  refine ⟨fun hread => ?_, fun encoding content hnul hname hcontent hfile => ?_⟩
  · have hchars := readChars_eq_ok_iff.2 hread
    rw [String.toList_ofList] at hchars
    rw [statements_ofFile hchars, Splitter.split,
      Splitter.splitChars_congr _ (nonEmpty_fileLines_written hlines hlast)]
  · refine readChars_eq_ok_iff.1 ?_
    rw [String.toList_ofList]
    exact readChars_of_holds hfile (Encoding.decodeNamed_of_encode? hnul hname hcontent)

/-- A file system with one file, in its working directory. -/
def oneFile (content : List UInt8) : FileTree where
  entries := [(["a.sql"], .file content)]
  entry_names := List.forall_mem_singleton.2
    (show ∀ name ∈ ["a.sql"], FileTree.IsEntryName name by decide)
  nodup := List.pairwise_singleton _ _

theorem holds_oneFile (content : List UInt8) : (oneFile content).Holds "a.sql" content :=
  ⟨rfl, rfl⟩

/-- A line ended by CR and an empty one ended by LF, and a line separator that ends nothing. -/
def mixedLines : List (String × Text.Terminator) :=
  [("SELECT 1", .cr), ("", .lf), ("a\u2028b;", .crlf)]

/-- The lines are read from a file in UTF-16, with a last line that has no ending. -/
theorem statements_ofFile_written_mixedLines :
    Encoding.utf16.encode? (written mixedLines (some "c")) =
        some (0xff :: 0xfe :: Encoding.encodeUtf16 .little (written mixedLines (some "c"))) ∧
      (ofFile (oneFile
            (0xff :: 0xfe :: Encoding.encodeUtf16 .little (written mixedLines (some "c"))))
          { encoding := "UTF-16" } "a.sql").map Script.statements =
        .ok ["SELECT 1  a\u2028b", "c "] := by
  have hcontent : Encoding.utf16.encode? (written mixedLines (some "c")) =
      some (0xff :: 0xfe :: Encoding.encodeUtf16 .little (written mixedLines (some "c"))) := rfl
  obtain ⟨hstatements, hreads⟩ := statements_ofFile_written
    (oneFile (0xff :: 0xfe :: Encoding.encodeUtf16 .little (written mixedLines (some "c"))))
    { encoding := "UTF-16" } "a.sql" mixedLines (some "c") (by decide) (by simp; decide)
  refine ⟨hcontent, ?_⟩
  rw [hstatements (hreads .utf16 _ (by decide) rfl hcontent (holds_oneFile _))]
  exact congrArg Except.ok (by decide +kernel)

/-- A codec need not read what it wrote: where a line has the escape of a letter in it, the letter
is what the raw escapes read, and so the statement has it. -/
theorem not_forall_statements_ofFile_written :
    ¬ ∀ (tree : FileTree) (config : Config) (path : String)
        (lines : List (String × Text.Terminator)) (last : Option String) (content : List UInt8),
      (∀ line ∈ lines, Text.Unbroken line.1.toList) →
      (∀ line ∈ last, Text.Unbroken line.toList) →
      Encoding.encodeNamed? config.encoding (written lines last) = some content →
      tree.Holds path content →
      (ofFile tree config path).map Script.statements =
        .ok ((config.splitter (some .forScript)).split (lines.map Prod.fst ++ last.toList)) := by
  intro h
  let lines : List (String × Text.Terminator) := [("SELECT '\\u0041';", .lf)]
  let content : List UInt8 := (written lines none).map fun c => UInt8.ofNat c.toNat
  have hcontent : Encoding.encodeNamed? "raw_unicode_escape" (written lines none) =
      some content := by
    decide +kernel
  have hstatements := h (oneFile content) { encoding := "raw_unicode_escape" } "a.sql" lines none
    content (by decide) (by simp) hcontent (holds_oneFile content)
  have hread : ((ofFile (oneFile content) { encoding := "raw_unicode_escape" } "a.sql").map
      Script.statements).toOption = some [" SELECT 'A'"] := by decide +kernel
  have hsplit : ({ encoding := "raw_unicode_escape" : Config }.splitter (some .forScript)).split
      ["SELECT '\\u0041';"] = [" SELECT '\\u0041'"] := by decide +kernel
  rw [hstatements] at hread
  have hsame : [" SELECT '\\u0041'"] = [" SELECT 'A'"] := hsplit.symm.trans (Option.some.inj hread)
  exact absurd hsame (by decide)

/-! ## Scripts given as text -/

/-- Where only CR and LF can break a line, a script given as text is broken into the lines of a file
with that text, and so has the same statements. -/
theorem splitText_eq_statements_ofFile [Codecs] (splitter : Splitter) (text : String)
    (hbreaks : ∀ c ∈ text.toList, c ∉ Text.otherBreaks) :
    Splitter.linesOfText text = (Text.fileLines text.toList).map String.ofList ∧
    ∀ tree path encoding, readText tree path encoding = .ok text →
      (ofFile tree
          { database := splitter.database, encoding, delimiter := some splitter.delimiter }
          path).map Script.statements = .ok (splitter.splitText text) := by
  have hlines : Splitter.linesOfText text = (Text.fileLines text.toList).map String.ofList := by
    rw [Splitter.linesOfText, Text.textLines_eq_fileLines hbreaks]
  refine ⟨hlines, fun tree path encoding hread => ?_⟩
  have hfile := @statements_ofFile tree
    { database := splitter.database, encoding, delimiter := some splitter.delimiter } path
    text.toList _ (readChars_eq_ok_iff.2 hread)
  rwa [← Splitter.split_map_ofList, ← hlines] at hfile

/-- A PostgreSQL script with all endings, and empty lines at its end. -/
def mixedText : String := "DO\r$$\r\na;\n\r$$;\n\n"

theorem splitText_eq_statements_ofFile_mixedText :
    (∀ c ∈ mixedText.toList, c ∉ Text.otherBreaks) ∧
      Splitter.splitText { database := .postgresql } mixedText = ["DO $$ a; $$; "] ∧
      (ofFile (oneFile (Encoding.encodeUtf8 mixedText.toList))
          { database := .postgresql, delimiter := some .standard } "a.sql").map Script.statements =
        .ok ["DO $$ a; $$; "] := by
  have hbreaks : ∀ c ∈ mixedText.toList, c ∉ Text.otherBreaks := by
    have hall : mixedText.toList.all (fun c => !Text.otherBreaks.contains c) = true := by
      decide +kernel
    simpa using hall
  have hcontent : Encoding.utf8.encode? mixedText.toList =
      some (Encoding.encodeUtf8 mixedText.toList) := rfl
  have hread : readText (oneFile (Encoding.encodeUtf8 mixedText.toList)) "a.sql" "utf-8" =
      .ok mixedText :=
    readChars_eq_ok_iff.1
      (readChars_of_holds (holds_oneFile _)
        (Encoding.decodeNamed_of_encode? (by decide) rfl hcontent))
  have hsplit : Splitter.splitText { database := .postgresql } mixedText = ["DO $$ a; $$; "] := by
    decide +kernel
  refine ⟨hbreaks, hsplit, ?_⟩
  rw [← hsplit]
  exact (splitText_eq_statements_ofFile { database := .postgresql } _ hbreaks).2 _ _ _ hread

end Script

end ScriptReplay
