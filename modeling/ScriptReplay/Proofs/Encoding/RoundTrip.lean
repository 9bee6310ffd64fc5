import ScriptReplay.Encoding.Codec

/-!
# Texts that were encoded

What an encoding writes it reads again (`decode_encode?`), and so it does when it is asked for by
its name (`decodeNamed_of_encode?`). Each of the three families of encodings reads one character
more in front of whatever follows it: `decodeUtf8From_utf8Bytes`, `decodeUtf16From_utf16Units` and
`decodeBytesFrom_mapM`.
-/

namespace ScriptReplay.Encoding

variable {position : Nat} {a b c d : UInt8} {rest : List UInt8}

theorem toNat_ofNat_of_lt {n : Nat} (h : n < 0x100) : (UInt8.ofNat n).toNat = n :=
  UInt8.toNat_ofNat_of_lt' h

/-- A code point is below the surrogates, or past them and not past the last one. -/
theorem toNat_valid (char : Char) :
    char.toNat < 0xd800 ∨ 0xdfff < char.toNat ∧ char.toNat < 0x110000 :=
  char.valid

/-! ## UTF-8 -/

section Utf8

/-! A sequence by the number of its bytes. -/

theorem decodeUtf8From_one (ha : a.toNat < 0x80) :
    decodeUtf8From position (a :: rest) =
      (decodeUtf8From (position + 1) rest).map (Char.ofNat a.toNat :: ·) := by
  rw [decodeUtf8From.eq_def]
  exact if_pos ha

theorem decodeUtf8From_two (ha : 0xc2 ≤ a.toNat) (ha' : a.toNat < 0xe0)
    (hb : isContinuation b = true) :
    decodeUtf8From position (a :: b :: rest) =
      (decodeUtf8From (position + 2) rest).map
        (Char.ofNat ((a.toNat - 0xc0) * 0x40 + low6 b) :: ·) := by
  have hfirst : ¬ (a.toNat < 0xc2 || 0xf5 ≤ a.toNat) = true := by simp; omega
  rw [decodeUtf8From.eq_def]
  simp only [show ¬ a.toNat < 0x80 by omega, hfirst, ha', hb, if_true, if_false, Bool.not_true,
    Bool.false_eq_true]

theorem decodeUtf8From_three (ha : 0xe0 ≤ a.toNat) (ha' : a.toNat < 0xf0)
    (hb : isSecond a b = true) (hc : isContinuation c = true) :
    decodeUtf8From position (a :: b :: c :: rest) =
      (decodeUtf8From (position + 3) rest).map
        (Char.ofNat ((a.toNat - 0xe0) * 0x1000 + low6 b * 0x40 + low6 c) :: ·) := by
  have hfirst : ¬ (a.toNat < 0xc2 || 0xf5 ≤ a.toNat) = true := by simp; omega
  rw [decodeUtf8From.eq_def]
  simp only [show ¬ a.toNat < 0x80 by omega, show ¬ a.toNat < 0xe0 by omega, hfirst, ha', hb, hc,
    if_true, if_false, Bool.not_true, Bool.false_eq_true]

theorem decodeUtf8From_four (ha : 0xf0 ≤ a.toNat) (ha' : a.toNat < 0xf5)
    (hb : isSecond a b = true) (hc : isContinuation c = true) (hd : isContinuation d = true) :
    decodeUtf8From position (a :: b :: c :: d :: rest) =
      (decodeUtf8From (position + 4) rest).map
        (Char.ofNat ((a.toNat - 0xf0) * 0x40000 + low6 b * 0x1000 + low6 c * 0x40 + low6 d) :: ·)
        := by
  have hfirst : ¬ (a.toNat < 0xc2 || 0xf5 ≤ a.toNat) = true := by simp; omega
  rw [decodeUtf8From.eq_def]
  simp only [show ¬ a.toNat < 0x80 by omega, show ¬ a.toNat < 0xe0 by omega,
    show ¬ a.toNat < 0xf0 by omega, hfirst, hb, hc, hd, if_false, Bool.not_true,
    Bool.false_eq_true]

theorem isContinuation_ofNat {n : Nat} (h : n < 0x40) :
    isContinuation (UInt8.ofNat (0x80 + n)) = true := by
  rw [isContinuation, toNat_ofNat_of_lt (by omega)]
  simp; omega

theorem low6_ofNat {n : Nat} (h : n < 0x40) : low6 (UInt8.ofNat (0x80 + n)) = n := by
  have hbyte : (UInt8.ofNat (0x80 + n)).toNat = 0x80 + n := toNat_ofNat_of_lt (by omega)
  unfold low6
  omega

/-- A first byte excludes some second bytes: those of overlong forms and surrogates, and those past
the last code point. -/
theorem isSecond_ofNat {n : Nat} (h : n < 0x40) (he0 : a.toNat = 0xe0 → 0x20 ≤ n)
    (hed : a.toNat = 0xed → n < 0x20) (hf0 : a.toNat = 0xf0 → 0x10 ≤ n)
    (hf4 : a.toNat = 0xf4 → n < 0x10) : isSecond a (UInt8.ofNat (0x80 + n)) = true := by
  have hbyte : (UInt8.ofNat (0x80 + n)).toNat = 0x80 + n := toNat_ofNat_of_lt (by omega)
  unfold isSecond
  rw [isContinuation_ofNat h, hbyte]
  simp only [Bool.true_and, Bool.and_eq_true, Bool.not_eq_true', Bool.and_eq_false_iff,
    beq_eq_false_iff_ne, decide_eq_false_iff_not]
  omega

/-- A character is read in front of whatever is behind it. -/
theorem decodeUtf8From_utf8Bytes (char : Char) (position : Nat) (rest : List UInt8) :
    decodeUtf8From position (utf8Bytes char ++ rest) =
      (decodeUtf8From (position + (utf8Bytes char).length) rest).map (char :: ·) := by
  have hvalid := toNat_valid char
  have hchar : Char.ofNat char.toNat = char := Char.ofNat_toNat char
  unfold utf8Bytes
  generalize char.toNat = n at hvalid hchar
  dsimp only
  split
  · next h =>
    have ha := toNat_ofNat_of_lt (n := n) (by omega)
    rw [List.singleton_append, decodeUtf8From_one (by omega), ha, hchar]
    rfl
  split
  · next h =>
    have ha := toNat_ofNat_of_lt (n := 0xc0 + n / 0x40) (by omega)
    have hcode : (0xc0 + n / 0x40 - 0xc0) * 0x40 + n % 0x40 = n := by omega
    rw [List.cons_append, List.singleton_append, decodeUtf8From_two (by omega) (by omega)
      (isContinuation_ofNat (by omega)), ha, low6_ofNat (by omega), hcode, hchar]
    rfl
  split
  · next h =>
    have ha := toNat_ofNat_of_lt (n := 0xe0 + n / 0x1000) (by omega)
    have hcode : (0xe0 + n / 0x1000 - 0xe0) * 0x1000 + n / 0x40 % 0x40 * 0x40 + n % 0x40 = n := by
      omega
    rw [List.cons_append, List.cons_append, List.singleton_append,
      decodeUtf8From_three (by omega) (by omega)
        (isSecond_ofNat (by omega) (by omega) (by omega) (by omega) (by omega))
        (isContinuation_ofNat (by omega)),
      ha, low6_ofNat (by omega), low6_ofNat (by omega), hcode, hchar]
    rfl
  · next h =>
    have ha := toNat_ofNat_of_lt (n := 0xf0 + n / 0x40000) (by omega)
    have hcode : (0xf0 + n / 0x40000 - 0xf0) * 0x40000 + n / 0x1000 % 0x40 * 0x1000
        + n / 0x40 % 0x40 * 0x40 + n % 0x40 = n := by omega
    rw [List.cons_append, List.cons_append, List.cons_append, List.singleton_append,
      decodeUtf8From_four (by omega) (by omega)
        (isSecond_ofNat (by omega) (by omega) (by omega) (by omega) (by omega))
        (isContinuation_ofNat (by omega)) (isContinuation_ofNat (by omega)),
      ha, low6_ofNat (by omega), low6_ofNat (by omega), low6_ofNat (by omega), hcode, hchar]
    rfl

theorem decodeUtf8From_encodeUtf8 (text : List Char) (position : Nat) :
    decodeUtf8From position (encodeUtf8 text) = .ok text := by
  induction text generalizing position with
  | nil => rfl
  | cons char text ih =>
    rw [encodeUtf8, List.flatMap_cons, decodeUtf8From_utf8Bytes]
    exact congrArg (Except.map (char :: ·)) (ih _)

end Utf8

/-! ## UTF-16 -/

section Utf16

variable (order : ByteOrder)

theorem exists_bytes_eq {unit : Nat} (h : unit < 0x10000) :
    ∃ a b, order.bytes unit = [a, b] ∧ order.unit a b = unit := by
  have hlow := toNat_ofNat_of_lt (n := unit % 0x100) (by omega)
  have hhigh := toNat_ofNat_of_lt (n := unit / 0x100) (by omega)
  cases order with
  | little =>
    refine ⟨_, _, rfl, ?_⟩
    rw [ByteOrder.unit, hlow, hhigh]
    omega
  | big =>
    refine ⟨_, _, rfl, ?_⟩
    rw [ByteOrder.unit, hlow, hhigh]
    omega

theorem decodeUtf16From_single (h : order.unit a b < 0xd800 ∨ 0xe000 ≤ order.unit a b) :
    decodeUtf16From order position (a :: b :: rest) =
      (decodeUtf16From order (position + 2) rest).map (Char.ofNat (order.unit a b) :: ·) := by
  rw [decodeUtf16From.eq_def]
  exact if_pos (by simpa using h)

theorem decodeUtf16From_pair (hfirst : 0xd800 ≤ order.unit a b) (hfirst' : order.unit a b < 0xdc00)
    (hsecond : 0xdc00 ≤ order.unit c d) (hsecond' : order.unit c d < 0xe000) :
    decodeUtf16From order position (a :: b :: c :: d :: rest) =
      (decodeUtf16From order (position + 4) rest).map
        (Char.ofNat (0x10000 + (order.unit a b - 0xd800) * 0x400 + (order.unit c d - 0xdc00)) :: ·)
        := by
  have hpair : ¬ (order.unit a b < 0xd800 || 0xe000 ≤ order.unit a b) = true := by simp; omega
  have hlow : (0xdc00 ≤ order.unit c d && order.unit c d < 0xe000) = true := by simp; omega
  rw [decodeUtf16From.eq_def]
  simp only [hpair, show ¬ 0xdc00 ≤ order.unit a b by omega, hlow, if_true, if_false,
    Bool.false_eq_true]

/-- A character is read in front of whatever is behind it. -/
theorem decodeUtf16From_utf16Units (char : Char) (position : Nat) (rest : List UInt8) :
    ∃ next, decodeUtf16From order position ((utf16Units char).flatMap order.bytes ++ rest) =
      (decodeUtf16From order next rest).map (char :: ·) := by
  have hvalid := toNat_valid char
  have hchar : Char.ofNat char.toNat = char := Char.ofNat_toNat char
  unfold utf16Units
  generalize char.toNat = n at hvalid hchar
  dsimp only
  split
  · next h =>
    obtain ⟨a, b, hbytes, hunit⟩ := exists_bytes_eq order h
    refine ⟨position + 2, ?_⟩
    rw [List.flatMap_singleton, hbytes, List.cons_append, List.singleton_append,
      decodeUtf16From_single order (by omega), hunit, hchar]
  · next h =>
    have hfirst : 0xd800 + (n - 0x10000) / 0x400 < 0x10000 := by omega
    have hsecond : 0xdc00 + (n - 0x10000) % 0x400 < 0x10000 := by omega
    obtain ⟨a, b, hbytes, hhigh⟩ := exists_bytes_eq order hfirst
    obtain ⟨c, d, hbytes', hlow⟩ := exists_bytes_eq order hsecond
    have hcode : 0x10000 + (order.unit a b - 0xd800) * 0x400 + (order.unit c d - 0xdc00) = n := by
      omega
    refine ⟨position + 4, ?_⟩
    have hunits : [0xd800 + (n - 0x10000) / 0x400, 0xdc00 + (n - 0x10000) % 0x400].flatMap
        order.bytes ++ rest = a :: b :: c :: d :: rest := by simp [hbytes, hbytes']
    rw [hunits, decodeUtf16From_pair order (by omega) (by omega) (by omega) (by omega), hcode,
      hchar]

theorem decodeUtf16From_encodeUtf16 (text : List Char) (position : Nat) :
    decodeUtf16From order position (encodeUtf16 order text) = .ok text := by
  induction text generalizing position with
  | nil => rfl
  | cons char text ih =>
    obtain ⟨next, hnext⟩ := decodeUtf16From_utf16Units order char position (encodeUtf16 order text)
    rw [encodeUtf16, List.flatMap_cons]
    exact hnext.trans (congrArg (Except.map (char :: ·)) (ih next))

end Utf16

/-! ## One byte per character -/

section SingleByte

/-- Where each byte that is written for a character is read as that character, so is a text. -/
theorem decodeBytesFrom_mapM {codec : String} {read : ByteReader} {write : Char → Option UInt8}
    (hread : ∀ char byte, write char = some byte → read byte = .ok char) {text : List Char}
    {bytes : List UInt8} (h : text.mapM write = some bytes) (position : Nat) :
    decodeBytesFrom codec read position bytes = .ok text := by
  induction text generalizing bytes position with
  | nil =>
    cases h
    rfl
  | cons char text ih =>
    rw [List.mapM_cons] at h
    simp only [Option.bind_eq_bind, Option.bind_eq_some_iff, Option.pure_def,
      Option.some.injEq] at h
    obtain ⟨byte, hbyte, bytes, hbytes, rfl⟩ := h
    rw [decodeBytesFrom, hread char byte hbyte]
    exact congrArg (Except.map (char :: ·)) (ih hbytes (position + 1))

theorem asciiChar?_of_asciiByte? (char : Char) (byte : UInt8) (h : asciiByte? char = some byte) :
    asciiChar? byte = .ok char := by
  unfold asciiByte? at h
  split at h
  · next hlow =>
    cases h
    rw [asciiChar?, toNat_ofNat_of_lt (by omega), if_pos hlow, Char.ofNat_toNat]
  · cases h

theorem latin1Char?_of_latin1Byte? (char : Char) (byte : UInt8)
    (h : latin1Byte? char = some byte) : latin1Char? byte = .ok char := by
  unfold latin1Byte? at h
  split at h
  · next hlow =>
    cases h
    rw [latin1Char?, toNat_ofNat_of_lt hlow, Char.ofNat_toNat]
  · cases h

theorem windowsChar?_of_windowsByte? (char : Char) (byte : UInt8)
    (h : windowsByte? char = some byte) : windowsChar? byte = .ok char := by
  unfold windowsByte? at h
  dsimp only at h
  split at h
  · next hplain =>
    simp only [Bool.or_eq_true, Bool.and_eq_true, decide_eq_true_eq] at hplain
    cases h
    rw [windowsChar?, toNat_ofNat_of_lt (by omega), if_pos (by simp; omega), Char.ofNat_toNat]
  · split at h
    · next i hfind =>
      cases h
      obtain ⟨hi, hcode, -⟩ := List.findIdx?_eq_some_iff_getElem.1 hfind
      have hlength : windowsSpecials.length = 0x20 := rfl
      rw [Bool.and_eq_true, beq_iff_eq, bne_iff_ne] at hcode
      obtain ⟨hcode, hdefined⟩ := hcode
      rw [hcode] at hdefined
      rw [windowsChar?, toNat_ofNat_of_lt (by omega), if_neg (by simp; omega),
        Nat.add_sub_cancel_left, List.getElem?_eq_getElem hi, hcode]
      split
      · next hzero => exact absurd (Option.some.inj hzero) hdefined
      · next hnone => cases hnone
      · next hsome => rw [← Option.some.inj hsome, Char.ofNat_toNat]
    · cases h

end SingleByte

/-! ## All encodings -/

/-- What an encoding writes it reads again. -/
theorem decode_encode? {encoding : Encoding} {text : List Char} {bytes : List UInt8}
    (h : encoding.encode? text = some bytes) : encoding.decode bytes = .ok text := by
  cases encoding with
  | utf8 =>
    cases h
    exact decodeUtf8From_encodeUtf8 text 0
  | utf8Marked =>
    cases h
    exact decodeUtf8From_encodeUtf8 text 0
  | ascii => exact decodeBytesFrom_mapM asciiChar?_of_asciiByte? h 0
  | latin1 => exact decodeBytesFrom_mapM latin1Char?_of_latin1Byte? h 0
  | windows1252 => exact decodeBytesFrom_mapM windowsChar?_of_windowsByte? h 0
  | utf16 =>
    cases h
    exact decodeUtf16From_encodeUtf16 .little text 2
  | utf16Little =>
    cases h
    exact decodeUtf16From_encodeUtf16 .little text 0
  | utf16Big =>
    cases h
    exact decodeUtf16From_encodeUtf16 .big text 0

theorem decode_nil (encoding : Encoding) : encoding.decode [] = .ok [] := by
  cases encoding <;> rfl

/-! ## Encodings by name -/

section Named

variable [Codecs] {name : String} {text : List Char} {bytes : List UInt8}

/-- The bytes of a text in the encoding of a given name, if the name names one and the encoding has
all characters of the text. -/
def encodeNamed? (name : String) (text : List Char) : Option (List UInt8) :=
  if name.toList.contains '\x00' then none
  else
    match Codecs.find name with
    | .error _ => none
    | .ok codec => codec.write? text

theorem decodeNamed_nil (hnul : '\x00' ∉ name.toList) : decodeNamed name [] = .ok [] := by
  unfold decodeNamed
  rw [if_neg (by simpa using hnul)]
  rfl

/-- There is something to read, so the codec is looked up and reads it. -/
theorem decodeNamed_cons {codec : Codec} (hnul : '\x00' ∉ name.toList)
    (hname : Codecs.find name = .ok codec) (byte : UInt8) (rest : List UInt8) :
    decodeNamed name (byte :: rest) = codec.read (byte :: rest) := by
  unfold decodeNamed
  rw [if_neg (by simpa using hnul), hname]
  rfl

/-- What an encoding writes is read again where the encoding is what a name stands for. -/
theorem decodeNamed_of_encode? {encoding : Encoding} (hnul : '\x00' ∉ name.toList)
    (hname : Codecs.find name = .ok encoding.codec) (h : encoding.encode? text = some bytes) :
    decodeNamed name bytes = .ok text := by
  have hdecode : encoding.decode bytes = .ok text := decode_encode? h
  cases bytes with
  | nil =>
    -- nothing to read is read as no text in every encoding
    rw [decode_nil] at hdecode
    rw [decodeNamed_nil hnul, ← Except.ok.inj hdecode]
  | cons byte rest =>
    rw [decodeNamed_cons hnul hname]
    unfold Encoding.codec Codec.ofReader
    dsimp only
    rw [hdecode]

end Named

end ScriptReplay.Encoding
