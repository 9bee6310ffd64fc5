import ScriptReplay.Proofs.Pattern.Plain

/-!
# Counts behind plain text

A repetition count in braces is read as soon as its closing brace is. So a count that is too large
is the fault of a text in which it stands behind plain text, whatever follows it
(`parse?_overcounts`).
-/

namespace ScriptReplay.Pattern

/-- The fault of a count that no repetition may have. -/
def Fault.ofCount (digits : List Char) : Fault :=
  if Text.digitLimit < digits.length then .countTooLong digits.length else .repetitionTooLarge

theorem Fault.ofCount_ne_invalid (digits : List Char) (error : Error) :
    Fault.ofCount digits ≠ .invalid error := by
  unfold Fault.ofCount
  split <;> nofun

/-- A count that no repetition may have, or that has too many digits to be read. -/
def IsLargeCount (digits : List Char) : Prop :=
  Text.digitLimit < digits.length ∨ repetitionLimit ≤ numberOf 10 digits

theorem IsLargeCount.ne_nil {digits : List Char} (h : IsLargeCount digits) : digits ≠ [] := by
  rintro rfl
  exact absurd h (by unfold IsLargeCount; decide)

namespace Reader

variable {source : Source} {rest : List Token} {text digits : List Char} {done : List Piece}
  {first : Bool}

/-- Characters of a class are taken up to one of another class. -/
theorem takeChars_apply {class? : Char → Bool} (hdigits : ∀ c ∈ digits, class? c = true)
    {stop : Char} (hstop : class? stop = false)
    (h : source.rest = digits.map Token.char ++ .char stop :: rest) {limit : Nat}
    (hlimit : digits.length < limit) :
    takeChars class? limit source = .ok (digits, { source with
      rest := .char stop :: rest, position := source.position + digits.length }) := by
  obtain ⟨limit, rfl⟩ : ∃ more, limit = more + 1 := ⟨limit - 1, by omega⟩
  induction digits generalizing source limit with
  | nil =>
    obtain ⟨tokens⟩ := source
    obtain rfl : tokens = .char stop :: rest := h
    unfold takeChars
    rw [bind_apply, peek_apply]
    simp only [List.head?_cons, hstop]
    rfl
  | cons c digits ih =>
    obtain ⟨hc, hlater⟩ := List.forall_mem_cons.1 hdigits
    obtain ⟨limit, rfl⟩ : ∃ more, limit = more + 1 := ⟨limit - 1, by simp at hlimit; omega⟩
    unfold takeChars
    rw [bind_apply, peek_apply, h]
    simp only [List.map_cons, List.cons_append, List.head?_cons, hc, if_true]
    rw [bind_apply, advance_apply h (head?_map_char_append digits (by simp))]
    dsimp only
    rw [bind_apply, ih hlater rfl limit (by simpa using hlimit)]
    simp [Source.behind, Token.width, Token.text, pure_apply, Nat.add_assoc, Nat.add_comm 1]

theorem bound?_large (hlarge : IsLargeCount digits) (source : Source) :
    bound? digits source = .error (.ofCount digits) := by
  unfold bound? Fault.ofCount
  rw [if_neg (by simpa using hlarge.ne_nil)]
  by_cases hlong : Text.digitLimit < digits.length
  · rw [if_pos hlong, if_pos hlong]
    rfl
  · rw [if_neg hlong, if_neg hlong, if_pos (hlarge.resolve_left hlong)]
    rfl

theorem braces_large (hdigits : ∀ c ∈ digits, c.isDigit = true)
    (hlarge : IsLargeCount digits)
    (h : source.rest = digits.map Token.char ++ .char '\x7d' :: rest)
    (hrest : rest.head? ≠ some .dangling) : braces source = .error (.ofCount digits) := by
  have hopen : (source.rest.head? == some (.char '\x7d')) = false := by
    obtain ⟨c, later, rfl⟩ := List.exists_cons_of_ne_nil hlarge.ne_nil
    have hc : c ≠ '\x7d' := by
      rintro rfl
      exact absurd (hdigits _ List.mem_cons_self) (by decide)
    simp [h, hc]
  have hlimit : digits.length < source.rest.length := by simp [h]
  unfold braces
  rw [bind_apply, get_apply]
  dsimp only
  rw [if_neg (by simp [hopen]), bind_apply, left_apply]
  dsimp only
  rw [bind_apply, takeChars_apply hdigits (by decide) h hlimit]
  dsimp only
  rw [bind_apply, accept_apply_of_ne (by simp)]
  dsimp only
  rw [if_neg (by simp), bind_apply, pure_apply]
  dsimp only
  rw [bind_apply, accept_apply_of_eq rfl hrest]
  dsimp only
  rw [if_neg (by simp), bind_apply, bound?_large hlarge]

/-- The sequence ends with the fault of the count, whatever stands before it and behind. -/
theorem sequence_largeCount (hdigits : ∀ c ∈ digits, c.isDigit = true)
    (hlarge : IsLargeCount digits)
    (h : source.rest = .char '\x7b' :: (digits.map Token.char ++ .char '\x7d' :: rest))
    (hrest : rest.head? ≠ some .dangling) (depth : Nat) :
    sequence {} first done (depth + 1) source = .error (.ofCount digits) := by
  have hhead : (digits.map Token.char ++ Token.char '\x7d' :: rest).head? ≠ some .dangling :=
    head?_map_char_append digits (by simp)
  have hquantity : quantity '\x7b' = braces := rfl
  rw [sequence, bind_apply, peek_apply, h]
  simp only [List.head?_cons, Token.char.injEq, Char.reduceEq, imp_self]
  rw [bind_apply, advance_apply h hhead]
  dsimp only
  rw [bind_apply, position_apply]
  dsimp only
  rw [if_neg (by simp), if_neg (by simp), if_neg (by simp), if_pos (by simp), hquantity, bind_apply,
    braces_large hdigits hlarge rfl hrest]

end Reader

theorem head?_ofText_ne_dangling {text : List Char} (h : text ≠ ['\\']) :
    (Token.ofText text).head? ≠ some .dangling := by
  fun_cases Token.ofText text with
  | case1 => simp
  | case2 => exact absurd rfl h
  | case3 => simp
  | case4 => simp

/-- A text that is plain up to a count in braces that is too large. More may stand behind, but not a
lone backslash. -/
def Overcounts (text digits : List Char) : Prop :=
  ∃ plain rest, text = plain ++ '\x7b' :: (digits ++ '\x7d' :: rest) ∧
    (∀ c ∈ plain, c ∉ metacharacters ∧ c ≠ '|') ∧ (∀ c ∈ digits, c.isDigit = true) ∧
    IsLargeCount digits ∧ rest ≠ ['\\']

/-- A count that is too large is the fault of the text where it stands behind plain text. -/
theorem parse?_overcounts {text digits : List Char} (h : Overcounts text digits) :
    parse? text = .error (.ofCount digits) := by
  obtain ⟨text, rest, rfl, htext, hdigits, hlarge, hrest⟩ := h
  have hplain : '\\' ∉ text := fun hmem => (htext _ hmem).1 (by decide)
  have hdigit : '\\' ∉ digits := fun hmem => absurd (hdigits _ hmem) (by decide)
  have htokens : Token.ofText (text ++ '\x7b' :: (digits ++ '\x7d' :: rest)) =
      text.map Token.char ++
        .char '\x7b' :: (digits.map Token.char ++ .char '\x7d' :: Token.ofText rest) := by
    rw [Token.ofText_append hplain, Token.ofText_cons (by decide), Token.ofText_append hdigit,
      Token.ofText_cons (by decide)]
  have hwhole (source : Source) (hsource : source.rest = text.map Token.char ++
        .char '\x7b' :: (digits.map Token.char ++ .char '\x7d' :: Token.ofText rest)) :
      Reader.whole source = .error (.ofCount digits) := by
    -- each character of the plain text takes one unit of the depth
    obtain ⟨more, hmore⟩ : ∃ more, 4 * source.rest.length + 4 = more + 1 + text.length + 1 :=
      ⟨4 * source.rest.length + 2 - text.length, by simp [hsource]; omega⟩
    unfold Reader.whole
    rw [Reader.bind_apply, Reader.left_apply]
    dsimp only
    rw [hmore, Reader.bind_apply, Reader.alternatives, Reader.bind_apply,
      Reader.sequence_plain htext hsource (by simp),
      Reader.sequence_largeCount hdigits hlarge rfl (head?_ofText_ne_dangling hrest)]
  unfold parse?
  rw [htokens]
  split
  · next later hdangling =>
    have hhead := congrArg List.head? hdangling
    cases text <;> simp at hhead
  · rw [hwhole _ rfl]
    rfl

end ScriptReplay.Pattern
