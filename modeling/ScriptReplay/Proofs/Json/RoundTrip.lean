import ScriptReplay.Json.Reader
import ScriptReplay.Json.Writer

/-!
# JSON that was written

What is written of a value is read as that value (`read?_write`), and holds no control character
(`noControl_write`), so it stands on one line.

A string is read character by character in front of whatever follows it. A value is read in front of
anything that does not go on with a digit, since a number ends only where its digits do.
-/

namespace ScriptReplay.Json

variable {rest : List Char}

/-! ## Strings -/

section Strings

theorem hexValue?_digitChar {n : Nat} (h : n < 16) : hexValue? (Nat.digitChar n) = some n := by
  have hall : ∀ n < 16, hexValue? (Nat.digitChar n) = some n := by decide
  exact hall n h

/-- A character below U+0020 is read from its four digits. -/
theorem hex4?_hexPadded {n : Nat} (h : n < 0x10000) :
    hex4? (Nat.digitChar (n / 16 / 16 / 16 % 16)) (Nat.digitChar (n / 16 / 16 % 16))
      (Nat.digitChar (n / 16 % 16)) (Nat.digitChar (n % 16)) = some n := by
  unfold hex4?
  rw [hexValue?_digitChar (by omega), hexValue?_digitChar (by omega),
    hexValue?_digitChar (by omega), hexValue?_digitChar (by omega)]
  refine congrArg some ?_
  omega

theorem readString?_code {n : Nat} (h : n < 0xd800) :
    readString? ('\\' :: 'u' :: Text.hexPadded 4 n ++ rest) =
      (readString? rest).map (withChar (Char.ofNat n)) := by
  have hdigits := hex4?_hexPadded (n := n) (by omega)
  have hlow : ¬ (0xd800 ≤ n ∧ n < 0xdc00) := by omega
  have hhigh : ¬ (0xdc00 ≤ n ∧ n < 0xe000) := by omega
  simp only [Text.hexPadded, List.nil_append, List.cons_append]
  rw [readString?, hdigits]
  simp only [hlow, hhigh, if_false]

theorem readString?_letter {c d : Char} (h : unescape? c = some d) (hu : c ≠ 'u') :
    readString? ('\\' :: c :: rest) = (readString? rest).map (withChar d) := by
  rw [readString?, h]
  intro _ _ _ _ _ hc
  exact absurd hc hu

theorem readString?_raw {c : Char} (hquote : c ≠ '\x22') (hslash : c ≠ '\\')
    (hcontrol : 0x20 ≤ c.toNat) :
    readString? (c :: rest) = (readString? rest).map (withChar c) := by
  have hraw : ¬ (c = '\\' ∨ c.toNat < 0x20) := not_or.2 ⟨hslash, Nat.not_lt.2 hcontrol⟩
  rw [readString?.eq_def]
  split
  · next heq => cases heq
  · next heq => exact absurd (List.cons.inj heq).1 hquote
  · next heq => exact absurd (List.cons.inj heq).1 hslash
  · next heq => exact absurd (List.cons.inj heq).1 hslash
  · next heq =>
    cases heq
    exact if_neg hraw

/-- A character is written by its letter, by its code or as it is. -/
theorem escapedChar_cases (c : Char) :
    (∃ d, escapedChar c = ['\\', d] ∧ unescape? d = some c ∧ d ≠ 'u' ∧ 0x20 ≤ d.toNat) ∨
      (escapedChar c = '\\' :: 'u' :: Text.hexPadded 4 c.toNat ∧ c.toNat < 0x20) ∨
      escapedChar c = [c] ∧ c ≠ '\x22' ∧ c ≠ '\\' ∧ 0x20 ≤ c.toNat := by
  unfold escapedChar
  repeat' split
  iterate 7
    next h =>
      subst h
      exact .inl ⟨_, rfl, by decide, by decide, by decide⟩
  · exact .inr (.inl ⟨rfl, ‹_›⟩)
  · exact .inr (.inr ⟨rfl, ‹_›, ‹_›, by omega⟩)

theorem readString?_escapedChar (c : Char) :
    readString? (escapedChar c ++ rest) = (readString? rest).map (withChar c) := by
  rcases escapedChar_cases c with ⟨d, hc, hletter, hu, -⟩ | ⟨hc, hcode⟩ | ⟨hc, hquote, hslash, hraw⟩
  · rw [hc]
    exact readString?_letter hletter hu
  · rw [hc, readString?_code (by omega), Char.ofNat_toNat]
  · rw [hc]
    exact readString?_raw hquote hslash hraw

/-- A text is read up to the quote behind it. -/
theorem readString?_flatMap_escapedChar (s : List Char) :
    readString? (s.flatMap escapedChar ++ '\x22' :: rest) = some (s, rest) := by
  induction s with
  | nil => rfl
  | cons c s ih =>
    rw [List.flatMap_cons, List.append_assoc, readString?_escapedChar, ih]
    rfl

end Strings

/-! ## Control characters -/

section Control

/-- The text holds no character below U+0020. -/
def NoControl (s : List Char) : Prop :=
  ∀ c ∈ s, 0x20 ≤ c.toNat

instance : DecidablePred NoControl :=
  List.decidableBAll fun c : Char => 0x20 ≤ c.toNat

theorem NoControl.nil : NoControl [] := nofun

theorem NoControl.cons {c : Char} {s : List Char} (hc : 0x20 ≤ c.toNat) (h : NoControl s) :
    NoControl (c :: s) :=
  List.forall_mem_cons.2 ⟨hc, h⟩

theorem NoControl.append {s : List Char} (h : NoControl s) (hrest : NoControl rest) :
    NoControl (s ++ rest) :=
  List.forall_mem_append.2 ⟨h, hrest⟩

theorem noControl_of_isDigit {s : List Char} (h : ∀ c ∈ s, c.isDigit = true) : NoControl s := by
  intro c hc
  have hdigit := h c hc
  simp only [Char.isDigit, Bool.and_eq_true, decide_eq_true_eq] at hdigit
  exact Nat.le_trans (by decide) (UInt32.le_iff_toNat_le.1 hdigit.1)

theorem noControl_hexPadded {n : Nat} : NoControl (Text.hexPadded 4 n) := by
  have hdigit : ∀ k < 16, 0x20 ≤ (Nat.digitChar k).toNat := by decide
  intro c hc
  simp only [Text.hexPadded, List.nil_append, List.cons_append, List.mem_cons, List.not_mem_nil,
    or_false] at hc
  rcases hc with rfl | rfl | rfl | rfl <;> exact hdigit _ (Nat.mod_lt _ (by decide))

theorem noControl_escapedChar (c : Char) : NoControl (escapedChar c) := by
  rcases escapedChar_cases c with ⟨d, hc, -, -, hd⟩ | ⟨hc, -⟩ | ⟨hc, -, -, hraw⟩
  · rw [hc]
    exact .cons (by decide) (.cons hd .nil)
  · rw [hc]
    exact .cons (by decide) (.cons (by decide) noControl_hexPadded)
  · rw [hc]
    exact .cons hraw .nil

theorem noControl_writeString (s : List Char) : NoControl (writeString s) := by
  refine .append (.cons (by decide) ?_) (.cons (by decide) .nil)
  intro d hd
  obtain ⟨c, -, hc⟩ := List.mem_flatMap.1 hd
  exact noControl_escapedChar c d hc

theorem noControl_integer (n : Int) : NoControl (Text.integer n) := by
  have hdigits : NoControl (Text.decimal n.natAbs) :=
    noControl_of_isDigit fun c hc => Nat.isDigit_of_mem_toDigits (by decide) (by decide) hc
  unfold Text.integer
  split
  · exact .cons (by decide) hdigits
  · exact hdigits

mutual

/-- What is written of a value holds no control character. -/
theorem noControl_write : (value : Json) → NoControl value.write
  | .null => by decide
  | .bool true => by decide
  | .bool false => by decide
  | .num n => noControl_integer n
  | .str s => noControl_writeString s.toList
  | .arr [] => by decide
  | .arr (item :: items) => by
    rw [write]
    exact .append (.cons (by decide) (noControl_write item)) (noControl_writeItems items)
  | .obj [] => by decide
  | .obj ((key, value) :: fields) => by
    rw [write]
    exact .append (.append (.cons (by decide) (noControl_writeString _))
      (.cons (by decide) (noControl_write value))) (noControl_writeFields fields)

theorem noControl_writeItems : (items : List Json) → NoControl (writeItems items)
  | [] => by decide
  | item :: items => by
    rw [writeItems]
    exact .append (.cons (by decide) (noControl_write item)) (noControl_writeItems items)

theorem noControl_writeFields : (fields : Fields) → NoControl (writeFields fields)
  | [] => by decide
  | (key, value) :: fields => by
    rw [writeFields]
    exact .append (.append (.cons (by decide) (noControl_writeString _))
      (.cons (by decide) (noControl_write value))) (noControl_writeFields fields)

end

end Control

/-! ## Numbers -/

section Numbers

/-- What follows does not go on with a digit. -/
def NoDigit (rest : List Char) : Prop :=
  ∀ c ∈ rest.head?, c.isDigit = false

theorem noDigit_cons {c : Char} (h : c.isDigit = false) : NoDigit (c :: rest) := by
  intro d hd
  cases hd
  exact h

theorem readDigits_append {digits : List Char} (hdigits : ∀ c ∈ digits, c.isDigit = true)
    (hrest : NoDigit rest) (n : Nat) :
    readDigits n (digits ++ rest) = (Nat.ofDigitChars 10 digits n, rest) := by
  induction digits generalizing n with
  | nil =>
    cases rest with
    | nil => rfl
    | cons c rest =>
      rw [List.nil_append, readDigits, hrest c rfl]
      rfl
  | cons c digits ih =>
    obtain ⟨hc, hmore⟩ := List.forall_mem_cons.1 hdigits
    rw [List.cons_append, readDigits, hc, if_pos rfl, ih hmore, Nat.ofDigitChars_cons]
    rfl

theorem exists_decimal_eq (n : Nat) : ∃ c digits, Text.decimal n = c :: digits ∧
    ∀ c ∈ Text.decimal n, c.isDigit = true := by
  have hdigits : ∀ c ∈ Text.decimal n, c.isDigit = true :=
    fun c hc => Nat.isDigit_of_mem_toDigits (by decide) (by decide) hc
  cases h : Text.decimal n with
  | nil => exact absurd h Nat.toDigits_ne_nil
  | cons c digits => exact ⟨c, digits, rfl, h ▸ hdigits⟩

theorem readNat?_decimal (n : Nat) (hrest : NoDigit rest) :
    readNat? (Text.decimal n ++ rest) = some (n, rest) := by
  obtain ⟨c, digits, hdecimal, hdigits⟩ := exists_decimal_eq n
  have hread := readDigits_append hdigits hrest 0
  have hvalue : Nat.ofDigitChars 10 (Text.decimal n) 0 = n :=
    Nat.ofDigitChars_toDigits (by decide) (by decide)
  rw [hvalue] at hread
  rw [hdecimal] at hdigits hread ⊢
  rw [List.cons_append, readNat?, hdigits c List.mem_cons_self, if_pos rfl, ← List.cons_append,
    hread]

end Numbers

/-! ## Values -/

section Values

/-- A text that begins with a character which is no white space and does not close anything. -/
def Opens (s : List Char) : Prop :=
  ∃ c more, s = c :: more ∧ c ∉ [' ', '\t', '\n', '\r', ']', '\x7d']

theorem Opens.append {s : List Char} (h : Opens s) (rest : List Char) : Opens (s ++ rest) := by
  obtain ⟨c, more, rfl, hc⟩ := h
  exact ⟨c, more ++ rest, rfl, hc⟩

theorem Opens.skipSpace_eq {s : List Char} (h : Opens s) : skipSpace s = s := by
  obtain ⟨c, more, rfl, hc⟩ := h
  rw [skipSpace, if_neg]
  rintro (rfl | rfl | rfl | rfl) <;> exact hc (by decide)

theorem opens_of_isDigit {c : Char} (h : c.isDigit = true) (rest : List Char) :
    Opens (c :: rest) := by
  refine ⟨c, rest, rfl, fun hc => ?_⟩
  simp only [List.mem_cons, List.not_mem_nil, or_false] at hc
  rcases hc with rfl | rfl | rfl | rfl | rfl | rfl <;> exact absurd h (by decide)

theorem opens_write (value : Json) : Opens value.write := by
  cases value with
  | null => exact ⟨_, _, rfl, by decide⟩
  | bool b => cases b <;> exact ⟨_, _, rfl, by decide⟩
  | num n =>
    obtain ⟨c, digits, hdecimal, hdigits⟩ := exists_decimal_eq n.natAbs
    rw [write, Text.integer]
    split
    · exact ⟨_, _, rfl, by decide⟩
    · rw [hdecimal] at hdigits ⊢
      exact opens_of_isDigit (hdigits c List.mem_cons_self) digits
  | str s => exact ⟨_, _, rfl, by decide⟩
  | arr items => cases items <;> exact ⟨_, _, rfl, by decide⟩
  | obj fields => cases fields <;> exact ⟨_, _, rfl, by decide⟩

theorem readValue?_of_isDigit {c : Char} (h : c.isDigit = true) (depth : Nat) :
    readValue? (depth + 1) (c :: rest) =
      (readNat? (c :: rest)).map fun read => (.num read.1, read.2) := by
  rw [readValue?, (opens_of_isDigit h rest).skipSpace_eq]
  split
  case h_8 => rfl
  all_goals
    next heq =>
      cases heq
      exact absurd h (by decide)

theorem readValue?_integer (n : Int) (depth : Nat) (hrest : NoDigit rest) :
    readValue? (depth + 1) (Text.integer n ++ rest) = some (.num n, rest) := by
  have hread := readNat?_decimal n.natAbs hrest
  unfold Text.integer
  split
  · next hn =>
    have hvalue : -(n.natAbs : Int) = n := by omega
    show (readNat? (Text.decimal n.natAbs ++ rest)).map
      (fun read => (Json.num (-(read.1 : Int)), read.2)) = _
    rw [hread, Option.map_some, hvalue]
  · next hn =>
    have hvalue : (n.natAbs : Int) = n := by omega
    obtain ⟨c, digits, hdecimal, hdigits⟩ := exists_decimal_eq n.natAbs
    rw [hdecimal] at hdigits hread ⊢
    rw [List.cons_append] at hread ⊢
    rw [readValue?_of_isDigit (hdigits c List.mem_cons_self), hread, Option.map_some, hvalue]

theorem readValue?_array {s : List Char} (h : Opens s) (depth : Nat) :
    readValue? (depth + 1) ('[' :: s) =
      (readItems? depth s).map fun read => (.arr read.1, read.2) := by
  rw [readValue?, (show Opens ('[' :: s) from ⟨_, _, rfl, by decide⟩).skipSpace_eq]
  simp only [h.skipSpace_eq]
  obtain ⟨c, more, rfl, hc⟩ := h
  split
  · next heq =>
    cases heq
    exact absurd hc (by decide)
  · rfl

theorem readValue?_object {s : List Char} (h : Opens s) (depth : Nat) :
    readValue? (depth + 1) ('\x7b' :: s) =
      (readFields? depth s).map fun read => (.obj read.1, read.2) := by
  rw [readValue?, (show Opens ('\x7b' :: s) from ⟨_, _, rfl, by decide⟩).skipSpace_eq]
  simp only [h.skipSpace_eq]
  obtain ⟨c, more, rfl, hc⟩ := h
  split
  · next heq =>
    cases heq
    exact absurd hc (by decide)
  · rfl

/-- What is written of a value is read as that value, in front of anything but a digit. As many
steps are enough as twice the number of its characters. -/
def ReadsBack (value : Json) : Prop :=
  ∀ depth rest, 2 * value.write.length ≤ depth → NoDigit rest →
    readValue? depth (value.write ++ rest) = some (value, rest)

theorem length_write_pos (value : Json) : 0 < value.write.length := by
  obtain ⟨c, more, hwrite, -⟩ := opens_write value
  rw [hwrite]
  exact Nat.succ_pos _

theorem readItems?_write {item : Json} {items : List Json} (hitem : ReadsBack item)
    (hitems : ∀ item ∈ items, ReadsBack item) {depth : Nat}
    (hdepth : 2 * (item.write ++ writeItems items).length ≤ depth) (rest : List Char) :
    readItems? depth (item.write ++ writeItems items ++ rest) = some (item :: items, rest) := by
  have hlength := length_write_pos item
  rw [List.length_append] at hdepth
  induction items generalizing item depth with
  | nil =>
    obtain ⟨depth, rfl⟩ : ∃ d, depth = d + 1 := ⟨depth - 1, by omega⟩
    have hread := hitem depth (']' :: rest) (by rw [writeItems] at hdepth; simp at hdepth; omega)
      (noDigit_cons (by decide))
    rw [List.append_assoc, writeItems, List.singleton_append, readItems?, hread]
    rfl
  | cons next items ih =>
    obtain ⟨hnext, hmore⟩ := List.forall_mem_cons.1 hitems
    rw [writeItems, List.cons_append, List.length_cons, List.length_append] at hdepth
    obtain ⟨depth, rfl⟩ : ∃ d, depth = d + 1 := ⟨depth - 1, by omega⟩
    have hread := hitem depth (',' :: (next.write ++ writeItems items ++ rest)) (by omega)
      (noDigit_cons (by decide))
    have hrest : readItems? depth (next.write ++ writeItems items ++ rest) =
        some (next :: items, rest) := ih hnext hmore (by omega) (length_write_pos next)
    rw [List.append_assoc, writeItems, List.cons_append, List.cons_append, readItems?, hread]
    exact congrArg (Option.map fun read => (item :: read.1, read.2)) hrest

/-- The text of a field. -/
def fieldText (field : String × Json) : List Char :=
  writeString field.1.toList ++ ':' :: field.2.write

theorem write_obj_cons (field : String × Json) (fields : Fields) :
    (obj (field :: fields)).write = '\x7b' :: (fieldText field ++ writeFields fields) := by
  simp [write, fieldText]

theorem writeFields_cons (field : String × Json) (fields : Fields) :
    writeFields (field :: fields) = ',' :: (fieldText field ++ writeFields fields) := by
  simp [writeFields, fieldText]

theorem length_write_lt_length_fieldText (field : String × Json) :
    field.2.write.length < (fieldText field).length := by
  rw [fieldText, List.length_append, List.length_cons]
  omega

theorem opens_fieldText (field : String × Json) : Opens (fieldText field) :=
  ⟨_, _, rfl, by decide⟩

theorem readString?_writeString (s rest : List Char) :
    ∃ more, writeString s ++ rest = '\x22' :: more ∧ readString? more = some (s, rest) := by
  refine ⟨s.flatMap escapedChar ++ '\x22' :: rest, ?_, readString?_flatMap_escapedChar s⟩
  simp [writeString]

/-- The fields of an object of which one is read, up to its end. -/
def readMore? (depth : Nat) (field : String × Json) (next : List Char) :
    Option (Fields × List Char) :=
  match skipSpace next with
  | '\x7d' :: rest => some ([field], rest)
  | ',' :: rest => (readFields? depth rest).map fun read => (field :: read.1, read.2)
  | _ => none

theorem readFields?_field {field : String × Json} {depth : Nat} {next : List Char}
    (h : readValue? depth (field.2.write ++ next) = some (field.2, next)) :
    readFields? (depth + 1) (fieldText field ++ next) = readMore? depth field next := by
  obtain ⟨more, hkey, hread⟩ :=
    readString?_writeString field.1.toList (':' :: (field.2.write ++ next))
  have hcolon : skipSpace (':' :: (field.2.write ++ next)) = ':' :: (field.2.write ++ next) := rfl
  have hquote : skipSpace ('\x22' :: more) = '\x22' :: more := rfl
  rw [fieldText, List.append_assoc, List.cons_append, hkey, readFields?, hquote]
  simp only [hread, hcolon, h, String.ofList_toList]
  rfl

theorem readFields?_write {field : String × Json} {fields : Fields} (hfield : ReadsBack field.2)
    (hfields : ∀ field ∈ fields, ReadsBack field.2) {depth : Nat}
    (hdepth : 2 * (fieldText field ++ writeFields fields).length ≤ depth) (rest : List Char) :
    readFields? depth (fieldText field ++ writeFields fields ++ rest) =
      some (field :: fields, rest) := by
  have hlength := length_write_lt_length_fieldText field
  rw [List.length_append] at hdepth
  induction fields generalizing field depth with
  | nil =>
    obtain ⟨depth, rfl⟩ : ∃ d, depth = d + 1 := ⟨depth - 1, by omega⟩
    have hread := hfield depth ('\x7d' :: rest) (by omega) (noDigit_cons (by decide))
    rw [List.append_assoc, writeFields, List.singleton_append, readFields?_field hread]
    rfl
  | cons next fields ih =>
    obtain ⟨hnext, hmore⟩ := List.forall_mem_cons.1 hfields
    rw [writeFields_cons, List.length_cons, List.length_append] at hdepth
    obtain ⟨depth, rfl⟩ : ∃ d, depth = d + 1 := ⟨depth - 1, by omega⟩
    have hread := hfield depth (',' :: (fieldText next ++ writeFields fields ++ rest)) (by omega)
      (noDigit_cons (by decide))
    have hrest : readFields? depth (fieldText next ++ writeFields fields ++ rest) =
        some (next :: fields, rest) :=
      ih hnext hmore (by omega) (length_write_lt_length_fieldText next)
    rw [List.append_assoc, writeFields_cons, List.cons_append, readFields?_field hread]
    exact congrArg (Option.map fun read => (field :: read.1, read.2)) hrest

theorem ReadsBack.of_succ {value : Json}
    (h : ∀ depth rest, 2 * value.write.length ≤ depth + 1 → NoDigit rest →
      readValue? (depth + 1) (value.write ++ rest) = some (value, rest)) : ReadsBack value := by
  intro depth rest hdepth hrest
  have hlength := length_write_pos value
  obtain ⟨depth, rfl⟩ : ∃ d, depth = d + 1 := ⟨depth - 1, by omega⟩
  exact h depth rest hdepth hrest

theorem readsBack_str (s : String) : ReadsBack (.str s) := .of_succ fun depth rest _ _ => by
  obtain ⟨more, hwrite, hread⟩ := readString?_writeString s.toList rest
  rw [write, hwrite]
  show (readString? more).map (fun read => (Json.str (String.ofList read.1), read.2)) = _
  rw [hread, Option.map_some, String.ofList_toList]

theorem readsBack_arr {item : Json} {items : List Json} (hitem : ReadsBack item)
    (hitems : ∀ item ∈ items, ReadsBack item) : ReadsBack (.arr (item :: items)) :=
  .of_succ fun depth rest hdepth _ => by
    rw [write, List.cons_append, List.length_cons] at hdepth
    rw [write, List.cons_append, List.cons_append,
      readValue?_array (((opens_write item).append _).append _),
      readItems?_write hitem hitems (by omega)]
    rfl

theorem readsBack_obj {field : String × Json} {fields : Fields} (hfield : ReadsBack field.2)
    (hfields : ∀ field ∈ fields, ReadsBack field.2) : ReadsBack (.obj (field :: fields)) :=
  .of_succ fun depth rest hdepth _ => by
    rw [write_obj_cons, List.length_cons] at hdepth
    rw [write_obj_cons, List.cons_append,
      readValue?_object (((opens_fieldText field).append _).append _),
      readFields?_write hfield hfields (by omega)]
    rfl

theorem sizeOf_snd_lt (field : String × Json) : sizeOf field.2 < sizeOf field := by
  rw [Prod.mk.sizeOf_spec]
  omega

/-- Every value reads back: an array or an object because all values in it do. -/
theorem readsBack : (value : Json) → ReadsBack value
  | .null => .of_succ fun _ _ _ _ => rfl
  | .bool true => .of_succ fun _ _ _ _ => rfl
  | .bool false => .of_succ fun _ _ _ _ => rfl
  | .num n => .of_succ fun depth _ _ hrest => readValue?_integer n depth hrest
  | .str s => readsBack_str s
  | .arr [] => .of_succ fun _ _ _ _ => rfl
  | .arr (item :: items) => readsBack_arr (readsBack item) fun other _ => readsBack other
  | .obj [] => .of_succ fun _ _ _ _ => rfl
  | .obj (field :: fields) => readsBack_obj (readsBack field.2) fun other _ => readsBack other.2
termination_by value => sizeOf value
decreasing_by
  · simp only [arr.sizeOf_spec, List.cons.sizeOf_spec]
    omega
  · next hother =>
    have hsize := List.sizeOf_lt_of_mem hother
    simp only [arr.sizeOf_spec, List.cons.sizeOf_spec]
    omega
  · have hsize := sizeOf_snd_lt field
    simp only [obj.sizeOf_spec, List.cons.sizeOf_spec]
    omega
  · next hother =>
    have hsize := sizeOf_snd_lt other
    have hlist := List.sizeOf_lt_of_mem hother
    simp only [obj.sizeOf_spec, List.cons.sizeOf_spec]
    omega

/-- What is written of a value is read as that value. -/
theorem read?_write (value : Json) : read? value.write = some value := by
  have hread := readsBack value (2 * value.write.length + 1) [] (Nat.le_succ _) nofun
  rw [List.append_nil] at hread
  rw [read?, hread]
  rfl

end Values

end ScriptReplay.Json
