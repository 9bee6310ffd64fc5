import ScriptReplay.Proofs.Script.Lines

/-!
# Scripts in another encoding

A script is what its text makes it, and not the bytes that the text is stored as. A file that holds
a text in one encoding and a file that holds it in another give the same text, the same statements
and the same checksum, which is taken from the text in UTF-8 (`ofFile_recoded`).
-/

namespace ScriptReplay

namespace Encoding

/-- The name by which an encoding is asked for. -/
def label : Encoding → String
  | .utf8 => "utf-8"
  | .utf8Marked => "utf-8-sig"
  | .ascii => "ascii"
  | .latin1 => "latin-1"
  | .windows1252 => "cp1252"
  | .utf16 => "utf-16"
  | .utf16Little => "utf-16-le"
  | .utf16Big => "utf-16-be"

/-- Each encoding is found by its name. -/
theorem find_label (encoding : Encoding) : Codecs.find encoding.label = .ok encoding.codec := by
  cases encoding <;> rfl

theorem nul_not_mem_label (encoding : Encoding) : '\x00' ∉ encoding.label.toList := by
  cases encoding <;> decide

/-! ## The UTF-8 form of a text -/

theorem utf8Bytes_eq (c : Char) : utf8Bytes c = String.utf8EncodeChar c := by
  have hvalid := toNat_valid c
  have hcode : c.val.toNat = c.toNat := rfl
  unfold utf8Bytes String.utf8EncodeChar
  rw [hcode]
  generalize c.toNat = n at hvalid ⊢
  dsimp only
  split
  · next h => rw [if_pos (by omega)]
  split
  · next h =>
    have hfirst : 0xc0 + n / 0x40 = n / 64 % 32 + 192 := by omega
    rw [if_neg (by omega), if_pos (by omega), hfirst, Nat.add_comm 0x80]
  split
  · next h =>
    have hfirst : 0xe0 + n / 0x1000 = n / 4096 % 16 + 224 := by omega
    rw [if_neg (by omega), if_neg (by omega), if_pos (by omega), hfirst, Nat.add_comm 0x80,
      Nat.add_comm 0x80]
  · next h =>
    have hfirst : 0xf0 + n / 0x40000 = n / 262144 % 8 + 240 := by omega
    rw [if_neg (by omega), if_neg (by omega), if_neg (by omega), hfirst, Nat.add_comm 0x80,
      Nat.add_comm 0x80, Nat.add_comm 0x80]

/-- A text is written in UTF-8 as the bytes that a string of it is stored as. -/
theorem encodeUtf8_toList (text : String) : encodeUtf8 text.toList = text.toUTF8.data.toList := by
  have hbytes : encodeUtf8 text.toList = text.toList.flatMap String.utf8EncodeChar := by
    unfold encodeUtf8
    rw [funext utf8Bytes_eq]
  have hstored : text.toUTF8 = (text.toList.flatMap String.utf8EncodeChar).toByteArray := by
    have hlist : (String.ofList text.toList).toByteArray = text.toList.utf8Encode :=
      String.toByteArray_ofList
    rwa [String.ofList_toList] at hlist
  rw [hbytes, hstored, List.toList_data_toByteArray]

end Encoding

namespace Script

variable {tree : FileTree} {path : String}

/-- A file that holds a text in an encoding is the script of that text, where the settings name the
encoding. -/
theorem ofFile_of_holds (config : Config) {encoding : Encoding} {text : List Char}
    {content : List UInt8} (hname : config.encoding = encoding.label)
    (hcontent : encoding.encode? text = some content) (hfile : tree.Holds path content) :
    readChars tree path config.encoding = .ok text ∧
      ofFile tree config path = .ok (ofText config path text) := by
  have hread : readChars tree path config.encoding = .ok text := by
    rw [hname]
    exact readChars_of_holds hfile
      (Encoding.decodeNamed_of_encode? encoding.nul_not_mem_label encoding.find_label hcontent)
  refine ⟨hread, ?_⟩
  unfold ofFile load
  rw [hread]
  rfl

/-- Two files that hold one text, each in an encoding that has all its characters, give the same
text, the same statements and the same checksum: the digest of the text in UTF-8. -/
theorem ofFile_recoded (config : Config) (text : String) (first second : Encoding)
    (tree other : FileTree) (path place : String) (content recoded : List UInt8)
    (hcontent : first.encode? text.toList = some content)
    (hrecoded : second.encode? text.toList = some recoded)
    (hfile : tree.Holds path content) (hother : other.Holds place recoded) :
    readText tree path first.label = .ok text ∧ readText other place second.label = .ok text ∧
      ∃ script copy,
        ofFile tree { config with encoding := first.label } path = .ok script ∧
        ofFile other { config with encoding := second.label } place = .ok copy ∧
        copy.statements = script.statements ∧ copy.checksum = script.checksum ∧
        script.checksum = Digest.hex (Digest.md5 text.toUTF8.data.toList) := by
  obtain ⟨hread, hscript⟩ :=
    ofFile_of_holds { config with encoding := first.label } rfl hcontent hfile
  obtain ⟨hreread, hcopy⟩ :=
    ofFile_of_holds { config with encoding := second.label } rfl hrecoded hother
  refine ⟨readChars_eq_ok_iff.1 hread, readChars_eq_ok_iff.1 hreread, _, _, hscript, hcopy, rfl,
    rfl, ?_⟩
  rw [← Encoding.encodeUtf8_toList]
  rfl

/-- A text with a euro sign, which is one byte in Windows-1252 and two behind a mark in UTF-16. -/
theorem ofFile_recoded_euro :
    Encoding.windows1252.encode? "€;\r\nx".toList = some [0x80, 0x3b, 0x0d, 0x0a, 0x78] ∧
      Encoding.utf16.encode? "€;\r\nx".toList =
        some [0xff, 0xfe, 0xac, 0x20, 0x3b, 0, 0x0d, 0, 0x0a, 0, 0x78, 0] ∧
      ∃ script copy,
        ofFile (oneFile [0x80, 0x3b, 0x0d, 0x0a, 0x78]) { encoding := "cp1252" } "a.sql" =
          .ok script ∧
        ofFile (oneFile [0xff, 0xfe, 0xac, 0x20, 0x3b, 0, 0x0d, 0, 0x0a, 0, 0x78, 0])
          { encoding := "utf-16" } "a.sql" = .ok copy ∧
        copy.statements = script.statements ∧ copy.checksum = script.checksum ∧
        script.checksum = "9c5a1e9f031edb8d630e1a17e2ab4c92" := by
  have hcontent : Encoding.windows1252.encode? "€;\r\nx".toList =
      some [0x80, 0x3b, 0x0d, 0x0a, 0x78] := rfl
  have hrecoded : Encoding.utf16.encode? "€;\r\nx".toList =
      some [0xff, 0xfe, 0xac, 0x20, 0x3b, 0, 0x0d, 0, 0x0a, 0, 0x78, 0] := rfl
  obtain ⟨-, -, script, copy, hscript, hcopy, hstatements, hchecksum, hdigest⟩ :=
    ofFile_recoded {} "€;\r\nx" .windows1252 .utf16 _ _ "a.sql" "a.sql" _ _ hcontent hrecoded
      (holds_oneFile _) (holds_oneFile _)
  have hvalue : Digest.hex (Digest.md5 "€;\r\nx".toUTF8.data.toList) =
      "9c5a1e9f031edb8d630e1a17e2ab4c92" := by decide +kernel
  exact ⟨hcontent, hrecoded, script, copy, hscript, hcopy, hstatements, hchecksum,
    hdigest.trans hvalue⟩

end Script

end ScriptReplay
