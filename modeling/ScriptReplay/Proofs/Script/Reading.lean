import ScriptReplay.Proofs.Cli.Loading
import ScriptReplay.Proofs.Path.Lookup
import ScriptReplay.Proofs.Script.Lines

/-!
# Failing to read a script file

Where the system refuses to read a file or its bytes are no text in the encoding, that is reported
(`ReadReport`). A path with a NUL is passed on as a fault of its own, and so is a name that is no
name of an encoding, and a codec that fails without a word on the bytes (`PassedOn`). Which codecs
there are makes no difference.

* `readText_outcome`: these are the only ways in which reading fails, and with which paths and names
  only the first remain. Whatever reads script files fails as reading one of them does.
* `not_forall_readText_reported`: so reading a file may fail without a report.
-/

namespace ScriptReplay

/-! ## Names of encodings -/

namespace Encoding

variable [Codecs] {name : String} {bytes : List UInt8}

/-- Bytes are read with the encoding of a name, or they are themselves to blame. The name need not
be known if there is nothing to read, and else its codec must not fail on them as a whole. -/
def Serves (name : String) (bytes : List UInt8) : Prop :=
  '\x00' ∉ name.toList ∧
    (bytes = [] ∨ ∃ codec, Codecs.find name = .ok codec ∧
      ∀ error, codec.read bytes ≠ .error (.codec error))

theorem exists_codecError_iff :
    (∃ error, decodeNamed name bytes = .error (.codec error)) ↔ ¬ Serves name bytes := by
  unfold Serves
  by_cases hnul : '\x00' ∈ name.toList
  · simp [decodeNamed, hnul]
  cases bytes with
  | nil => simp [decodeNamed_nil hnul, hnul]
  | cons byte bytes =>
    cases hname : Codecs.find name with
    | error error => simp [decodeNamed, hname, hnul]
    | ok codec => simp [decodeNamed_cons hnul hname, hnul]

end Encoding

/-! ## Paths with a NUL -/

/-- A path holds a NUL where its text does. -/
theorem FileTree.holdsNul_ofString {path : String} :
    holdsNul (Path.ofString path) = true ↔ '\x00' ∈ path.toList := by
  unfold holdsNul
  rw [Path.ofString_eq, List.any_eq_true]
  simp only [List.contains_iff_mem, Path.namesIn, Path.splitSlashes_eq_splitOn]
  constructor
  · rintro ⟨name, hname, hmem⟩
    obtain ⟨part, hpart, rfl⟩ := List.mem_map.1 hname
    rw [String.toList_ofList] at hmem
    exact Text.subset_of_mem_splitOn (List.mem_filter.1 hpart).1 hmem
  · intro h
    obtain ⟨part, hpart, hmem⟩ := Text.exists_mem_splitOn h (by decide : '\x00' ≠ '/')
    have hkept : (!(part.isEmpty || part == ['.'])) = true := by
      cases part with
      | nil => cases hmem
      | cons c part =>
        simp only [List.isEmpty_cons, Bool.false_or, Bool.not_eq_true', beq_eq_false_iff_ne]
        rintro ⟨⟩
        simp at hmem
    exact ⟨_, List.mem_map_of_mem (List.mem_filter.2 ⟨hpart, hkept⟩), by simpa using hmem⟩

/-- The system refuses to read the file that a path leads to. -/
def FileTree.Refuses (tree : FileTree) (path : String) (error : SystemError) : Prop :=
  FileTree.holdsNul (Path.ofString path) = false ∧ tree.read (Path.ofString path) = .error error

/-- Reading ends in one of three ways. -/
theorem FileTree.reading_cases (tree : FileTree) (path : String) :
    '\x00' ∈ path.toList ∨ (∃ error, tree.Refuses path error) ∨ ∃ bytes, tree.Holds path bytes := by
  cases hnul : holdsNul (Path.ofString path) with
  | true => exact .inl (holdsNul_ofString.1 hnul)
  | false =>
    cases hread : tree.read (Path.ofString path) with
    | error error => exact .inr (.inl ⟨error, hnul, hread⟩)
    | ok bytes => exact .inr (.inr ⟨bytes, hnul, hread⟩)

namespace Script

variable {tree : FileTree} {path encoding : String} {fault : Fault}

/-! ## Faults of reading -/

section Faults

variable [Encoding.Codecs]

/-- The reports of a file that cannot be read: there is none, the system refuses to read it for
another reason, or its bytes are no text in the encoding. Each keeps what it was made from. -/
inductive ReadReport (tree : FileTree) (path encoding : String) : Fault → Prop
  | missing (error : SystemError) (hread : tree.Refuses path error)
      (hreason : error.reason = .notFound) :
    ReadReport tree path encoding (.report (.missingFile path) (some (.system error)))
  | refused (error : SystemError) (hread : tree.Refuses path error)
      (hreason : error.reason ≠ .notFound) :
    ReadReport tree path encoding
      (.report (.unreadableFile path (some error.message)) (some (.system error)))
  | garbled (bytes : List UInt8) (error : Encoding.Error) (hread : tree.Holds path bytes)
      (hbytes : Encoding.decodeNamed encoding bytes = .error (.content error)) :
    ReadReport tree path encoding
      (.report (.unreadableFile path (some error.message)) (some (.content error)))

/-- The faults of reading that are passed on as they are. -/
inductive PassedOn (tree : FileTree) (path encoding : String) : Fault → Prop
  | path (hpath : '\x00' ∈ path.toList) : PassedOn tree path encoding .nulInPath
  | codec (bytes : List UInt8) (error : Encoding.CodecError) (hread : tree.Holds path bytes)
      (hbytes : Encoding.decodeNamed encoding bytes = .error (.codec error)) :
    PassedOn tree path encoding (.encodingName error)

theorem readChars_of_nul (h : '\x00' ∈ path.toList) :
    readChars tree path encoding = .error .nulInPath := by
  unfold readChars
  simp only [FileTree.holdsNul_ofString.2 h]
  rfl

theorem readChars_of_refuses {error : SystemError} (h : tree.Refuses path error) :
    readChars tree path encoding = .error (refusal path error) := by
  unfold readChars
  simp only [h.1, h.2]
  rfl

theorem readChars_of_garbled {bytes : List UInt8} {error : Encoding.ReadError}
    (hfile : tree.Holds path bytes) (hbytes : Encoding.decodeNamed encoding bytes = .error error) :
    readChars tree path encoding = .error (garble path error) := by
  unfold readChars
  simp only [hfile.1, hfile.2, hbytes]
  rfl

/-- A refusal of the system is reported. -/
theorem readReport_refusal {error : SystemError} (h : tree.Refuses path error) :
    ReadReport tree path encoding (refusal path error) := by
  unfold refusal
  split
  · next hreason => exact .missing error h hreason
  · next hreason => exact .refused error h hreason

theorem readReport_or_passedOn (h : readChars tree path encoding = .error fault) :
    ReadReport tree path encoding fault ∨ PassedOn tree path encoding fault := by
  rcases tree.reading_cases path with hnul | ⟨error, hrefuses⟩ | ⟨bytes, hfile⟩
  · rw [readChars_of_nul hnul, Except.error.injEq] at h
    exact .inr (h ▸ .path hnul)
  · rw [readChars_of_refuses hrefuses, Except.error.injEq] at h
    exact .inl (h ▸ readReport_refusal hrefuses)
  · cases hbytes : Encoding.decodeNamed encoding bytes with
    | ok text =>
      rw [readChars_of_holds hfile hbytes] at h
      cases h
    | error error =>
      rw [readChars_of_garbled hfile hbytes, Except.error.injEq] at h
      subst h
      cases error with
      | codec error => exact .inr (.codec bytes error hfile hbytes)
      | content error => exact .inl (.garbled bytes error hfile hbytes)

theorem readChars_of_readReport (h : ReadReport tree path encoding fault) :
    readChars tree path encoding = .error fault := by
  cases h with
  | missing error hread hreason =>
    rw [readChars_of_refuses hread, refusal, hreason]
  | refused error hread hreason =>
    rw [readChars_of_refuses hread, refusal]
    split
    · next hmissing => exact absurd hmissing hreason
    · rfl
  | garbled bytes error hread hbytes => exact readChars_of_garbled hread hbytes

theorem readChars_of_passedOn (h : PassedOn tree path encoding fault) :
    readChars tree path encoding = .error fault := by
  cases h with
  | path hpath => exact readChars_of_nul hpath
  | codec bytes error hread hbytes => exact readChars_of_garbled hread hbytes

theorem readChars_eq_error_iff :
    readChars tree path encoding = .error fault ↔
      ReadReport tree path encoding fault ∨ PassedOn tree path encoding fault :=
  ⟨readReport_or_passedOn, fun h => h.elim readChars_of_readReport readChars_of_passedOn⟩

theorem exists_holds_of_readChars {text : List Char}
    (h : readChars tree path encoding = .ok text) :
    ∃ bytes, tree.Holds path bytes ∧ Encoding.decodeNamed encoding bytes = .ok text := by
  rcases tree.reading_cases path with hnul | ⟨error, hrefuses⟩ | ⟨bytes, hfile⟩
  · rw [readChars_of_nul hnul] at h
    cases h
  · rw [readChars_of_refuses hrefuses] at h
    cases h
  · cases hbytes : Encoding.decodeNamed encoding bytes with
    | ok found =>
      rw [readChars_of_holds hfile hbytes] at h
      cases h
      exact ⟨bytes, hfile, hbytes⟩
    | error error =>
      rw [readChars_of_garbled hfile hbytes] at h
      cases h

/-- A file is reported missing only where the system does not find it. -/
theorem refuses_of_missing {origin : Option Origin}
    (h : ReadReport tree path encoding fault)
    (hfault : fault = .report (.missingFile path) origin) :
    ∃ error, tree.Refuses path error ∧ error.reason = .notFound ∧
      origin = some (.system error) := by
  cases h with
  | missing error hread hreason =>
    obtain ⟨-, rfl⟩ := Fault.report.inj hfault
    exact ⟨error, hread, hreason, rfl⟩
  | refused | garbled =>
    have hsubject := congrArg Report.subject (Fault.report.inj hfault).1
    cases hsubject

/-! ## What reads script files -/

section Readers

variable {config : Config}

theorem readText_eq_error :
    readText tree path encoding = .error fault ↔ readChars tree path encoding = .error fault :=
  bind_pure_eq_error

theorem readLines_eq_error :
    readLines tree path encoding = .error fault ↔ readText tree path encoding = .error fault :=
  bind_pure_eq_error.trans bind_pure_eq_error.symm

theorem load_eq_error :
    load tree config path = .error fault ↔ readText tree path config.encoding = .error fault :=
  bind_pure_eq_error.trans bind_pure_eq_error.symm

theorem ofFile_eq_error :
    ofFile tree config path = .error fault ↔ readText tree path config.encoding = .error fault :=
  bind_pure_eq_error.trans load_eq_error

theorem statementsOfFile_eq_error {database : Database} :
    statementsOfFile tree database path encoding = .error fault ↔
      readText tree path encoding = .error fault :=
  bind_pure_eq_error.trans ofFile_eq_error

/-- Loading a directory fails because no files can be selected or because of one that was. -/
theorem loadAll_eq_error {directory glob : String}
    (h : loadAll tree config directory glob = .error fault) :
    select tree directory glob = .error fault ∨
      ∃ paths, select tree directory glob = .ok paths ∧
        ∃ found ∈ paths, readText tree found.toString config.encoding = .error fault := by
  rcases bind_eq_error.1 h with h | ⟨paths, hselect, h⟩
  · exact .inl h
  · obtain ⟨found, hmem, hfound⟩ := exists_mem_of_mapM_eq_error h
    exact .inr ⟨paths, hselect, found, hmem, ofFile_eq_error.1 hfound⟩

theorem loadFor_eq_error {request : Cli.Request} (h : Cli.loadFor tree request = .error fault) :
    Config.ofNames request.database request.encoding request.delimiter = .error fault ∨
      readText tree (Path.ofString request.path).toString request.encoding = .error fault := by
  rcases Cli.loadFor_eq_error h with h | ⟨config, hsettings, h⟩
  · exact .inl h
  · rw [load_eq_error, Config.encoding_of_ofNames hsettings] at h
    exact .inr h

end Readers

/-- A file is read as the text of its bytes, or it is reported that this cannot be done, or the
fault is passed on. It is reported missing exactly where the system does not find it. All that can
go wrong is reported exactly if the path holds no NUL and the name of the encoding serves for what
is read. Lines, scripts and the scripts of a directory cannot be read where a file cannot, and a
request has no script where its settings make no sense or the file cannot be read. -/
theorem readText_outcome (tree : FileTree) (path encoding : String) :
    (∀ text, readText tree path encoding = .ok text ↔
        ∃ bytes, tree.Holds path bytes ∧
          Encoding.decodeNamed encoding bytes = .ok text.toList) ∧
      (∀ fault, readText tree path encoding = .error fault ↔
        ReadReport tree path encoding fault ∨ PassedOn tree path encoding fault) ∧
      (∀ origin, readText tree path encoding = .error (.report (.missingFile path) origin) ↔
        ∃ error, tree.Refuses path error ∧ error.reason = .notFound ∧
          origin = some (.system error)) ∧
      ((∀ fault, readText tree path encoding = .error fault →
          ReadReport tree path encoding fault) ↔
        '\x00' ∉ path.toList ∧
          ∀ bytes, tree.Holds path bytes → Encoding.Serves encoding bytes) ∧
      (∀ fault, readLines tree path encoding = .error fault ↔
        readText tree path encoding = .error fault) ∧
      (∀ config fault, config.encoding = encoding →
        (load tree config path = .error fault ↔ readText tree path encoding = .error fault)) ∧
      (∀ database fault, statementsOfFile tree database path encoding = .error fault ↔
        readText tree path encoding = .error fault) ∧
      (∀ config directory glob fault, config.encoding = encoding →
        loadAll tree config directory glob = .error fault →
          select tree directory glob = .error fault ∨
            ∃ paths, select tree directory glob = .ok paths ∧
              ∃ found ∈ paths, readText tree found.toString encoding = .error fault) ∧
      ∀ request fault, request.encoding = encoding → Cli.loadFor tree request = .error fault →
        Config.ofNames request.database request.encoding request.delimiter = .error fault ∨
          readText tree (Path.ofString request.path).toString encoding = .error fault := by
  refine ⟨fun text => ?_, fun fault => ?_, fun origin => ?_, ⟨fun h => ⟨?_, ?_⟩, ?_⟩,
    fun _ => readLines_eq_error, ?_, fun _ _ => statementsOfFile_eq_error, ?_, ?_⟩
  · rw [← readChars_eq_ok_iff]
    exact ⟨exists_holds_of_readChars, fun ⟨_, hfile, hbytes⟩ => readChars_of_holds hfile hbytes⟩
  · rw [readText_eq_error, readChars_eq_error_iff]
  · rw [readText_eq_error]
    constructor
    · intro h
      rcases readReport_or_passedOn h with hreport | hpassed
      · exact refuses_of_missing hreport rfl
      · cases hpassed
    · rintro ⟨error, hrefuses, hreason, rfl⟩
      exact readChars_of_readReport (.missing error hrefuses hreason)
  · intro hnul
    cases h _ (readText_eq_error.2 (readChars_of_nul hnul))
  · intro bytes hfile
    by_contra hserves
    obtain ⟨error, hbytes⟩ := Encoding.exists_codecError_iff.2 hserves
    cases h _ (readText_eq_error.2 (readChars_of_garbled hfile hbytes))
  · rintro ⟨hnul, hserves⟩ fault h
    refine (readReport_or_passedOn (readText_eq_error.1 h)).resolve_right fun hpassed => ?_
    cases hpassed with
    | path hpath => exact hnul hpath
    | codec bytes error hread hbytes =>
      exact Encoding.exists_codecError_iff.1 ⟨error, hbytes⟩ (hserves bytes hread)
  · rintro config fault rfl
    exact load_eq_error
  · rintro config directory glob fault rfl
    exact loadAll_eq_error
  · rintro request fault rfl
    exact loadFor_eq_error

end Faults

/-- The first byte, which begins no text in UTF-8. -/
def strayByte : Encoding.Error := ⟨"utf-8", .invalidStart, 0, [0xff]⟩

/-- A name that names no encoding serves for an empty file. A byte that cannot be read is
reported. -/
theorem readText_outcome_strayByte :
    readText (oneFile []) "a.sql" "klingon" = .ok "" ∧
      readText (oneFile [0xff]) "a.sql" "utf-8" =
        .error (.report (.unreadableFile "a.sql" (some strayByte.message))
          (some (.content strayByte))) := by
  obtain ⟨hempty, -⟩ := readText_outcome (oneFile []) "a.sql" "klingon"
  obtain ⟨-, hfault, -⟩ := readText_outcome (oneFile [0xff]) "a.sql" "utf-8"
  have hbytes : Encoding.decodeNamed "utf-8" [0xff] = .error (.content strayByte) := by
    decide +kernel
  exact ⟨(hempty "").2 ⟨[], holds_oneFile [], by decide +kernel⟩,
    (hfault _).2 (.inl (.garbled [0xff] strayByte (holds_oneFile _) hbytes))⟩

/-- A file may be found whose encoding is not, so reading it may fail without a report. -/
theorem not_forall_readText_reported :
    ¬ ∀ tree path encoding fault, readText tree path encoding = .error fault →
      ∃ report origin, fault = .report report origin := by
  intro h
  let content := Encoding.encodeUtf8 "SELECT 1;".toList
  have hname : Encoding.decodeNamed "klingon" content = .error (.codec (.unknown "klingon")) := by
    decide +kernel
  have hfault : readText (oneFile content) "a.sql" "klingon" =
      .error (.encodingName (.unknown "klingon")) :=
    readText_eq_error.2 (readChars_of_garbled (holds_oneFile content) hname)
  obtain ⟨report, origin, hreport⟩ := h _ _ _ _ hfault
  cases hreport

end Script

end ScriptReplay
