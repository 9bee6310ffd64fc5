import Mathlib.Data.List.Infix
import ScriptReplay.Pattern.Parser
import ScriptReplay.Proofs.Pattern.Reading

/-!
# Where the faults of a pattern come from

Besides a fault in its text, a pattern can meet three others, and each is owed to something that the
text holds (`Explained`): a repetition count in braces that is too large or has too many digits, or
two groups of flags for the whole pattern that exclude each other.

A reader never leaves the text: what is left of a source is the end of it, and the settings of the
whole pattern were read in it (`Source.Within`). Each step keeps that or ends with a fault that the
text explains (`Reader.Keeps`). Where the fault is about what was just read, a step also says what
it took (`Reader.Reads`, `Source.Took`).

* `Reader.parses`: all parts of the grammar keep inside the text, by induction on the depth.
* `explained_of_parse?`: so the fault of a text is one that the text explains.
-/

namespace ScriptReplay.Pattern

/-! ## What a text holds -/

/-- A repetition count in braces stands in the text, and `digits` is one of its bounds. -/
def HoldsCount (text digits : List Char) : Prop :=
  ∃ low high : List Char, (∀ c ∈ low ++ high, c.isDigit = true) ∧
    (('\x7b' :: low ++ ['\x7d'] <:+: text ∧ digits = low) ∨
      ('\x7b' :: low ++ ',' :: high ++ ['\x7d'] <:+: text ∧ (digits = low ∨ digits = high)))

/-- A group of flags for the whole pattern stands in the text, and `flag` is one of them. -/
def SetsFlag (text : List Char) (flag : Char) : Prop :=
  ∃ flags : List Char, '(' :: '?' :: flags ++ [')'] <:+: text ∧ flag ∈ flags

/-- What a fault says of the text in which it was met. -/
def Explained (text : List Char) : Fault → Prop
  | .invalid _ => True
  | .repetitionTooLarge =>
    ∃ digits, HoldsCount text digits ∧ digits.length ≤ Text.digitLimit ∧
      repetitionLimit ≤ numberOf 10 digits
  | .countTooLong count =>
    ∃ digits, HoldsCount text digits ∧ digits.length = count ∧ Text.digitLimit < count
  | .asciiAndUnicode => SetsFlag text 'a' ∧ SetsFlag text 'u'

namespace Token

/-- The text of tokens. -/
def written (tokens : List Token) : List Char :=
  tokens.flatMap Token.text

theorem written_cons (token : Token) (tokens : List Token) :
    written (token :: tokens) = token.text ++ written tokens := rfl

theorem written_ofText (text : List Char) : written (ofText text) = text := by
  fun_induction ofText text with
  | case1 => rfl
  | case2 => rfl
  | case3 c rest ih => rw [written_cons, ih]; rfl
  | case4 c rest _ _ ih => rw [written_cons, ih]; rfl

end Token

/-! ## Reading inside a text -/

/-- What is left of a source belongs to the text, and the settings of the whole pattern were read in
it. -/
structure Source.Within (text : List Char) (source : Source) : Prop where
  suffix : Token.written source.rest <:+ text
  ascii : source.mode.ascii = true → SetsFlag text 'a'
  unicode : source.unicode = true → SetsFlag text 'u'

/-- What was taken from a source. -/
structure Source.Took (source : Source) (taken : List Char) (next : Source) : Prop where
  written_eq : Token.written source.rest = taken ++ Token.written next.rest
  mode_eq : next.mode = source.mode
  unicode_eq : next.unicode = source.unicode

namespace Source

variable {text taken more : List Char} {source next last : Source}

theorem Took.refl (source : Source) : source.Took [] source := ⟨rfl, rfl, rfl⟩

theorem Took.trans (h : source.Took taken next) (hmore : next.Took more last) :
    source.Took (taken ++ more) last where
  written_eq := by rw [h.written_eq, hmore.written_eq, List.append_assoc]
  mode_eq := hmore.mode_eq.trans h.mode_eq
  unicode_eq := hmore.unicode_eq.trans h.unicode_eq

theorem Within.of_took (h : source.Within text) (htook : source.Took taken next) :
    next.Within text where
  suffix := by
    refine List.IsSuffix.trans ?_ h.suffix
    rw [htook.written_eq]
    exact List.suffix_append _ _
  ascii := by rw [htook.mode_eq]; exact h.ascii
  unicode := by rw [htook.unicode_eq]; exact h.unicode

end Source

namespace Reader

open Source (Within Took)

variable {α β : Type} {text : List Char} {source : Source}

/-- From a source a reader goes on as told, or it ends with a fault that the text explains. -/
def Reads (text : List Char) (reader : Reader α) (source : Source) (post : α → Source → Prop) :
    Prop :=
  match reader source with
  | .ok (a, next) => post a next
  | .error fault => Explained text fault

/-- A reader stays inside the text. -/
def Keeps (text : List Char) (reader : Reader α) : Prop :=
  ∀ source, source.Within text → Reads text reader source fun _ next => next.Within text

theorem Reads.mono {reader : Reader α} {post post' : α → Source → Prop}
    (h : Reads text reader source post) (hpost : ∀ a next, post a next → post' a next) :
    Reads text reader source post' := by
  unfold Reads at h ⊢
  split
  · next a next hread =>
    rw [hread] at h
    exact hpost a next h
  · next fault hread =>
    rw [hread] at h
    exact h

theorem Reads.bind {reader : Reader α} {f : α → Reader β} {mid : α → Source → Prop}
    {post : β → Source → Prop} (h : Reads text reader source mid)
    (hf : ∀ a next, mid a next → Reads text (f a) next post) :
    Reads text (reader >>= f) source post := by
  unfold Reads at h ⊢
  rw [bind_apply]
  cases hread : reader source with
  | ok found =>
    rw [hread] at h
    exact hf found.1 found.2 h
  | error fault =>
    rw [hread] at h
    exact h

theorem Keeps.pure (a : α) : Keeps text (pure a : Reader α) := fun _ h => h

theorem Keeps.bind {reader : Reader α} {f : α → Reader β} (h : Keeps text reader)
    (hf : ∀ a, Keeps text (f a)) : Keeps text (reader >>= f) := fun source hsource =>
  (h source hsource).bind fun a next hnext => hf a next hnext

/-- A step that takes part of the text stays inside it. -/
theorem Keeps.of_took {reader : Reader α}
    (h : ∀ source, Reads text reader source fun _ next => ∃ taken, source.Took taken next) :
    Keeps text reader := fun source hsource =>
  (h source).mono fun _ _ ⟨_, htook⟩ => hsource.of_took htook

theorem keeps_failAt (cause : Cause) (place : Nat) : Keeps text (failAt cause place : Reader α) :=
  fun _ _ => trivial

theorem keeps_position : Keeps text position := fun _ h => h

theorem keeps_fail (cause : Cause) : Keeps text (fail cause : Reader α) :=
  keeps_position.bind fun _ => keeps_failAt _ _

theorem keeps_left : Keeps text left := fun _ h => h

theorem keeps_peek : Keeps text peek := fun _ h => h

theorem keeps_get : Keeps text (get : Reader Source) := fun _ h => h

/-! ## Single steps -/

theorem reads_get (source : Source) :
    Reads text get source fun found next => source = found ∧ source = next := ⟨rfl, rfl⟩

theorem reads_left (source : Source) :
    Reads text left source fun _ next => source = next := rfl

theorem reads_position (source : Source) :
    Reads text position source fun _ next => source = next := rfl

theorem reads_peek (source : Source) :
    Reads text peek source fun token next => token = source.rest.head? ∧ source = next := ⟨rfl, rfl⟩

theorem reads_advance (source : Source) :
    Reads text advance source fun _ next =>
      source.Took (source.rest.head?.elim [] Token.text) next := by
  obtain ⟨tokens⟩ := source
  match tokens with
  | [] => exact .refl _
  | [_] => exact ⟨rfl, rfl, rfl⟩
  | _ :: .dangling :: _ => trivial
  | _ :: .char _ :: _ => exact ⟨rfl, rfl, rfl⟩
  | _ :: .escape _ :: _ => exact ⟨rfl, rfl, rfl⟩

theorem reads_next? (source : Source) :
    Reads text next? source fun token next => source.Took (token.elim [] Token.text) next := by
  unfold next?
  refine (reads_peek source).bind ?_
  rintro _ _ ⟨rfl, rfl⟩
  exact (reads_advance source).bind fun _ last htook => htook

theorem reads_accept (c : Char) (source : Source) :
    Reads text (accept c) source fun accepted next =>
      source.Took (if accepted then [c] else []) next := by
  unfold accept
  refine (reads_peek source).bind ?_
  rintro _ _ ⟨rfl, rfl⟩
  split
  · next htoken =>
    rw [beq_iff_eq] at htoken
    refine (reads_advance source).bind fun _ last htook => ?_
    rw [htoken] at htook
    exact htook
  · exact .refl _

theorem reads_takeChars (class? : Char → Bool) (limit : Nat) (source : Source) :
    Reads text (takeChars class? limit) source fun taken next =>
      source.Took taken next ∧ ∀ c ∈ taken, class? c = true := by
  induction limit generalizing source with
  | zero => exact ⟨.refl _, by simp⟩
  | succ limit ih =>
    unfold takeChars
    refine (reads_peek source).bind ?_
    rintro token _ ⟨htoken, rfl⟩
    split
    · next c =>
      split
      · next hclass =>
        refine (reads_advance source).bind fun _ behind htook => ?_
        rw [← htoken] at htook
        refine (ih behind).bind ?_
        rintro taken last ⟨hmore, htaken⟩
        exact ⟨htook.trans hmore, List.forall_mem_cons.2 ⟨hclass, htaken⟩⟩
      · exact ⟨.refl _, by simp⟩
    · exact ⟨.refl _, by simp⟩

theorem keeps_next? : Keeps text next? :=
  .of_took fun source => (reads_next? source).mono fun _ _ htook => ⟨_, htook⟩

theorem keeps_accept (c : Char) : Keeps text (accept c) :=
  .of_took fun source => (reads_accept c source).mono fun _ _ htook => ⟨_, htook⟩

theorem keeps_takeChars (class? : Char → Bool) (limit : Nat) :
    Keeps text (takeChars class? limit) :=
  .of_took fun source => (reads_takeChars class? limit source).mono fun _ _ htook => ⟨_, htook.1⟩

/-! ## Names and groups -/

theorem keeps_takeNameFrom (terminator : Char) (what : String) (soFar : List Char) (limit : Nat) :
    Keeps text (takeNameFrom terminator what soFar limit) := by
  have hend (soFar : List Char) : Keeps text (takeNameFrom terminator what soFar 0) := by
    unfold takeNameFrom
    split
    · exact keeps_fail _
    · exact keeps_position.bind fun _ => keeps_failAt _ _
  induction limit generalizing soFar with
  | zero => exact hend soFar
  | succ limit ih =>
    unfold takeNameFrom
    refine keeps_next?.bind fun token => ?_
    split
    · exact hend soFar
    · split
      · split
        · exact keeps_position.bind fun _ => keeps_failAt _ _
        · exact .pure _
      · exact ih _

theorem keeps_takeName (terminator : Char) (what : String) :
    Keeps text (takeName terminator what) :=
  keeps_left.bind fun _ => keeps_takeNameFrom _ _ _ _

theorem keeps_isClosed (index : Nat) : Keeps text (isClosed index) :=
  keeps_get.bind fun _ => .pure _

theorem keeps_groupWidth (index : Nat) : Keeps text (groupWidth index) :=
  keeps_get.bind fun _ => .pure _

theorem keeps_checkLookBehind (index : Nat) : Keeps text (checkLookBehind index) := by
  unfold checkLookBehind
  refine keeps_get.bind fun source => ?_
  split
  · exact .pure _
  · refine (keeps_isClosed index).bind fun closed => ?_
    split
    · exact keeps_fail _
    · split
      · exact keeps_fail _
      · exact .pure _

/-- A step that only learns about groups stays inside the text. -/
theorem keeps_modify {f : Source → Source}
    (h : ∀ source, Took source [] (f source)) : Keeps text (modify f : Reader Unit) :=
  fun source hsource => hsource.of_took (h source)

theorem keeps_openGroup (name : Option String) : Keeps text (openGroup name) := by
  intro source hsource
  unfold openGroup
  refine (reads_get source).bind ?_
  rintro _ _ ⟨rfl, rfl⟩
  extract_lets index jp
  split
  · exact ⟨hsource.suffix, hsource.ascii, hsource.unicode⟩
  · split
    · trivial
    · exact ⟨hsource.suffix, hsource.ascii, hsource.unicode⟩

theorem keeps_closeGroup (index : Nat) (width : Nat × Nat) : Keeps text (closeGroup index width) :=
  keeps_modify fun _ => ⟨rfl, rfl, rfl⟩

theorem keeps_closeParenthesis (start : Nat) : Keeps text (closeParenthesis start) := by
  unfold closeParenthesis
  refine (keeps_accept ')').bind fun accepted => ?_
  split
  · exact .pure _
  · exact keeps_failAt _ _

/-- What is read up to a closing parenthesis. -/
theorem keeps_enclosed {body : Reader Node} (hbody : Keeps text body) (start : Nat) (f : Node → α) :
    Keeps text (do
      let node ← body
      closeParenthesis start
      return f node) :=
  hbody.bind fun _ => (keeps_closeParenthesis start).bind fun _ => .pure _

theorem keeps_checkName (name : List Char) : Keeps text (checkName name) := by
  unfold checkName
  split
  · exact .pure _
  · exact keeps_position.bind fun _ => keeps_failAt _ _

theorem keeps_namedGroup (name : List Char) : Keeps text (namedGroup name) := by
  unfold namedGroup
  refine (keeps_checkName name).bind fun _ => keeps_get.bind fun source => ?_
  split
  · exact .pure _
  · exact keeps_position.bind fun _ => keeps_failAt _ _

theorem keeps_namedReference (mode : Mode) : Keeps text (namedReference mode) := by
  unfold namedReference
  refine (keeps_takeName _ _).bind fun name => (keeps_namedGroup name).bind fun index =>
    (keeps_isClosed index).bind fun closed => ?_
  split
  · exact keeps_position.bind fun _ => keeps_failAt _ _
  · exact (keeps_checkLookBehind index).bind fun _ => (keeps_groupWidth index).bind fun _ => .pure _

theorem keeps_conditionGroup : Keeps text conditionGroup := by
  unfold conditionGroup
  refine (keeps_takeName _ _).bind fun name => keeps_position.bind fun place => ?_
  split
  · exact keeps_namedGroup name
  · split
    · exact keeps_failAt _ _
    · exact keeps_failAt _ _
    · split
      · exact keeps_failAt _ _
      · refine (keeps_modify fun source => ?_).bind fun _ => .pure _
        split <;> exact ⟨rfl, rfl, rfl⟩

theorem keeps_lookAround (behind : Bool) {body : Reader Node} (hbody : Keeps text body) :
    Keeps text (lookAround behind body) := by
  unfold lookAround
  refine keeps_get.bind fun source => ?_
  extract_lets outer jp
  have hjp : Keeps text (jp ()) := by
    refine hbody.bind fun node => ?_
    extract_lets done
    split
    · refine Keeps.bind (keeps_modify fun _ => ?_) fun _ => .pure _
      exact ⟨rfl, rfl, rfl⟩
    · exact .pure _
  split
  · refine Keeps.bind (keeps_modify fun _ => ?_) fun _ => hjp
    exact ⟨rfl, rfl, rfl⟩
  · exact hjp

/-! ## Escapes and sets -/

theorem keeps_hexCode (letter : Char) (count start : Nat) :
    Keeps text (hexCode letter count start) := by
  unfold hexCode
  refine (keeps_takeChars _ _).bind fun digits => ?_
  split
  · exact keeps_failAt _ _
  · split
    · exact keeps_failAt _ _
    · exact .pure _

theorem keeps_namedCode : Keeps text namedCode := by
  unfold namedCode
  refine (keeps_accept _).bind fun accepted => ?_
  split
  · exact keeps_fail _
  · refine (keeps_takeName _ _).bind fun name => ?_
    split
    · exact .pure _
    · exact keeps_position.bind fun _ => keeps_failAt _ _

theorem keeps_codeEscape? (c : Char) (start : Nat) : Keeps text (codeEscape? c start) := by
  unfold codeEscape?
  split
  · exact (keeps_hexCode _ _ _).bind fun _ => .pure _
  split
  · exact (keeps_hexCode _ _ _).bind fun _ => .pure _
  split
  · exact (keeps_hexCode _ _ _).bind fun _ => .pure _
  split
  · exact keeps_namedCode.bind fun _ => .pure _
  split
  · exact .pure _
  split
  · exact keeps_failAt _ _
  · exact .pure _

theorem keeps_setEscape (c : Char) (start : Nat) : Keeps text (setEscape c start) := by
  unfold setEscape
  split
  · exact .pure _
  · exact .pure _
  · refine (keeps_codeEscape? c start).bind fun code => ?_
    split
    · exact .pure _
    · split
      · refine (keeps_takeChars _ _).bind fun digits => ?_
        dsimp only
        split
        · exact keeps_failAt _ _
        · exact .pure _
      · exact keeps_failAt _ _

theorem keeps_groupEscape (mode : Mode) (digits : List Char) (start : Nat) :
    Keeps text (groupEscape mode digits start) := by
  unfold groupEscape
  refine keeps_get.bind fun source => ?_
  split
  · refine (keeps_isClosed _).bind fun closed => ?_
    split
    · exact keeps_failAt _ _
    · exact (keeps_checkLookBehind _).bind fun _ => (keeps_groupWidth _).bind fun _ => .pure _
  · exact keeps_failAt _ _

theorem keeps_numberEscape (mode : Mode) (c : Char) (start : Nat) :
    Keeps text (numberEscape mode c start) := by
  unfold numberEscape
  refine (keeps_takeChars _ _).bind fun second => ?_
  split
  · split
    · refine (keeps_takeChars _ _).bind fun third => ?_
      split
      · split
        · exact keeps_failAt _ _
        · exact .pure _
      · exact keeps_groupEscape _ _ _
    · exact keeps_groupEscape _ _ _
  · exact keeps_groupEscape _ _ _

theorem keeps_escape (mode : Mode) (c : Char) (start : Nat) : Keeps text (escape mode c start) := by
  unfold escape
  split
  · exact .pure _
  · exact .pure _
  · exact .pure _
  · refine (keeps_codeEscape? c start).bind fun code => ?_
    split
    · exact .pure _
    · split
      · exact (keeps_takeChars _ _).bind fun _ => .pure _
      · exact (keeps_numberEscape _ _ _).bind fun _ => .pure _

theorem keeps_setAtom (token : Token) : Keeps text (setAtom token) := by
  unfold setAtom
  split
  · exact .pure _
  · exact keeps_position.bind fun _ => keeps_setEscape _ _
  · exact keeps_fail _

theorem keeps_setItems (start : Nat) (done : List SetItem) (limit : Nat) :
    Keeps text (setItems start done limit) := by
  induction limit generalizing done with
  | zero => exact keeps_failAt _ _
  | succ limit ih =>
    unfold setItems
    refine keeps_next?.bind fun token => ?_
    split
    · exact keeps_failAt _ _
    split
    · exact .pure _
    refine (keeps_setAtom _).bind fun low => (keeps_accept '-').bind fun range => ?_
    split
    · exact ih _
    refine keeps_next?.bind fun last => ?_
    split
    · exact keeps_failAt _ _
    · exact .pure _
    refine (keeps_setAtom _).bind fun high => ?_
    have hbad (cause : Cause) (width : Nat) : Keeps text (do
        failAt cause ((← position) - width) : Reader (List SetItem)) :=
      keeps_position.bind fun _ => keeps_failAt _ _
    dsimp only
    split
    · split
      · exact hbad _ _
      · exact ih _
    · exact hbad _ _

theorem keeps_charSet (mode : Mode) : Keeps text (charSet mode) :=
  keeps_position.bind fun _ => (keeps_accept '^').bind fun _ => keeps_left.bind fun _ =>
    (keeps_setItems _ _ _).bind fun _ => .pure _

/-! ## Repetitions -/

/-- The bounds of a count that stands in the text are too large or too long only if the text says
so. -/
theorem keeps_bound? {digits : List Char} (h : HoldsCount text digits) :
    Keeps text (bound? digits) := by
  intro source hsource
  unfold bound?
  split
  · exact hsource
  split
  · next hlong => exact ⟨digits, h, rfl, hlong⟩
  split
  · next hshort hlarge => exact ⟨digits, h, Nat.not_lt.1 hshort, hlarge⟩
  · exact hsource

theorem reads_braces (hsource : source.Within text)
    (hbrace : '\x7b' :: Token.written source.rest <:+ text) :
    Reads text braces source fun _ next => next.Within text := by
  unfold braces
  refine (reads_get source).bind ?_
  rintro _ _ ⟨rfl, rfl⟩
  split
  · exact hsource
  refine (reads_left source).bind ?_
  rintro limit _ rfl
  refine (reads_takeChars _ limit source).bind ?_
  rintro low behindLow ⟨hlow, hlowDigits⟩
  refine (reads_accept ',' behindLow).bind ?_
  intro several behindComma hcomma
  extract_lets jp
  -- what follows the bounds is the same whether or not there was a comma
  have hend (high : List Char) (behindHigh : Source) (hbehind : behindHigh.Within text)
      (hcounts : ∀ last, behindHigh.Took ['\x7d'] last →
        HoldsCount text low ∧ HoldsCount text high) :
      Reads text (jp high) behindHigh fun _ next => next.Within text := by
    refine (reads_accept '\x7d' behindHigh).bind fun closed last hclosed => ?_
    cases closed with
    | false =>
      -- without a closing brace the opening one stands for itself, and reading goes back to it
      exact ⟨hsource.suffix, hsource.ascii, hsource.unicode⟩
    | true =>
      obtain ⟨hlow, hhigh⟩ := hcounts last hclosed
      refine ((keeps_bound? hlow) last (hbehind.of_took hclosed)).bind fun low last hlast => ?_
      refine ((keeps_bound? hhigh) last hlast).bind fun high last hlast => ?_
      split
      · trivial
      · exact hlast
  cases several with
  | false =>
    refine hend low behindComma (hsource.of_took (hlow.trans hcomma)) fun last hclosed => ?_
    have hholds : HoldsCount text low := by
      refine ⟨low, [], by simpa using hlowDigits, .inl ⟨?_, rfl⟩⟩
      refine List.IsInfix.trans ⟨[], Token.written last.rest, ?_⟩ hbrace.isInfix
      rw [((hlow.trans hcomma).trans hclosed).written_eq]
      simp
    exact ⟨hholds, hholds⟩
  | true =>
    refine (reads_left behindComma).bind ?_
    rintro limit _ rfl
    refine (reads_takeChars _ limit behindComma).bind ?_
    rintro high behindHigh ⟨hhigh, hhighDigits⟩
    have hcommas := hlow.trans hcomma
    refine hend high behindHigh (hsource.of_took (hcommas.trans hhigh)) fun last hclosed => ?_
    have hinside : '\x7b' :: low ++ ',' :: high ++ ['\x7d'] <:+: text := by
      refine List.IsInfix.trans ⟨[], Token.written last.rest, ?_⟩ hbrace.isInfix
      rw [((hcommas.trans hhigh).trans hclosed).written_eq]
      simp
    have hdigits := List.forall_mem_append.2 ⟨hlowDigits, hhighDigits⟩
    exact ⟨⟨low, high, hdigits, .inr ⟨hinside, .inl rfl⟩⟩,
      ⟨low, high, hdigits, .inr ⟨hinside, .inr rfl⟩⟩⟩

theorem keeps_greed : Keeps text greed := by
  unfold greed
  refine (keeps_accept '?').bind fun lazily => ?_
  split
  · exact .pure _
  refine (keeps_accept '+').bind fun possessively => ?_
  split
  · exact .pure _
  · exact .pure _

theorem keeps_repeatLast (done : List Piece) (low : Nat) (high : Option Nat) (sign : Nat) :
    Keeps text (repeatLast done low high sign) := by
  unfold repeatLast
  split
  · exact keeps_failAt _ _
  · exact keeps_failAt _ _
  · exact keeps_failAt _ _
  · exact keeps_greed.bind fun _ => .pure _

theorem reads_quantity {sign : Char} (hsource : source.Within text)
    (hsign : sign :: Token.written source.rest <:+ text)
    (hkind : (sign == '*' || sign == '+' || sign == '?' || sign == '\x7b') = true) :
    Reads text (quantity sign) source fun _ next => next.Within text := by
  unfold quantity
  split
  · exact hsource
  split
  · exact hsource
  split
  · exact hsource
  · next hquestion hstar hplus =>
    obtain rfl : sign = '\x7b' := by simpa [hquestion, hstar, hplus] using hkind
    exact reads_braces hsource hsign

/-! ## Flags and comments -/

theorem keeps_skipLine (limit : Nat) : Keeps text (skipLine limit) := by
  induction limit with
  | zero => exact .pure _
  | succ limit ih =>
    unfold skipLine
    refine keeps_next?.bind fun token => ?_
    split
    · exact .pure _
    split
    · exact .pure _
    · exact ih

theorem keeps_skipComment (start limit : Nat) : Keeps text (skipComment start limit) := by
  induction limit with
  | zero => exact keeps_failAt _ _
  | succ limit ih =>
    unfold skipComment
    refine keeps_next?.bind fun token => ?_
    split
    · exact keeps_failAt _ _
    split
    · exact .pure _
    · exact ih

theorem keeps_flagsOff (c : Char) (off : List Char) (limit : Nat) :
    Keeps text (flagsOff c off limit) := by
  induction limit generalizing c off with
  | zero => exact keeps_fail _
  | succ limit ih =>
    unfold flagsOff
    split
    · exact keeps_fail _
    refine keeps_next?.bind fun token => ?_
    split
    · exact keeps_fail _
    · split
      · exact keeps_position.bind fun _ => keeps_failAt _ _
      · exact .pure _
    · split
      · split
        · exact ih _ _
        split
        · exact keeps_position.bind fun _ => keeps_failAt _ _
        · exact keeps_position.bind fun _ => keeps_failAt _ _
      · exact keeps_position.bind fun _ => keeps_failAt _ _

/-- Behind a minus sign there are no flags for the whole pattern. -/
theorem reads_flagsAfterMinus (on : List Char) (hsource : source.Within text) :
    Reads text (flagsAfterMinus on) source fun found next =>
      next.Within text ∧ ∀ flags, found ≠ .whole flags := by
  unfold flagsAfterMinus
  extract_lets jp
  split
  · trivial
  refine (keeps_next? _ hsource).bind fun token next hnext => ?_
  split
  · trivial
  · split
    · split
      · refine (keeps_left next hnext).bind fun limit next hnext => ?_
        refine (keeps_flagsOff _ _ _ next hnext).bind fun off next hnext => ?_
        split
        · trivial
        · refine ⟨hnext, fun flags hwhole => ?_⟩
          cases hwhole
      split
      · trivial
      · trivial
    · trivial

/-- Flags for the whole pattern are all that stands up to the closing parenthesis. -/
theorem reads_flagsOn (c : Char) (on : List Char) (limit : Nat) (hsource : source.Within text) :
    Reads text (flagsOn c on limit) source fun found next => next.Within text ∧
      ∀ whole, found = .whole whole →
        ∃ flags, source.Took (flags ++ [')']) next ∧ whole = flags.reverse ++ c :: on := by
  induction limit generalizing c on source with
  | zero => trivial
  | succ limit ih =>
    unfold flagsOn
    split
    · trivial
    split
    · trivial
    refine (reads_next? _).bind fun token next htook => ?_
    have hnext := hsource.of_took htook
    split
    · trivial
    · refine ⟨hnext, ?_⟩
      rintro _ ⟨⟩
      exact ⟨[], htook, rfl⟩
    · split
      · trivial
      · exact ⟨hnext, nofun⟩
    · exact (reads_flagsAfterMinus _ hnext).mono fun found last ⟨hlast, hscoped⟩ =>
        ⟨hlast, fun whole hwhole => absurd hwhole (hscoped whole)⟩
    · split
      · next d _ _ _ =>
        split
        · refine (ih d (c :: on) hnext).mono ?_
          rintro found last ⟨hlast, hwhole⟩
          refine ⟨hlast, fun whole hfound => ?_⟩
          obtain ⟨flags, hmore, rfl⟩ := hwhole whole hfound
          exact ⟨d :: flags, htook.trans hmore, by simp⟩
        split
        · trivial
        · trivial
      · trivial

theorem ascii_turnOn {mode : Mode} {c : Char} (h : (mode.turnOn c).ascii = true) :
    mode.ascii = true ∨ c = 'a' := by
  grind [Mode.turnOn]

theorem ascii_foldr_turnOn {mode : Mode} {on : List Char}
    (h : (on.foldr (fun c mode => if c == 'u' then mode else mode.turnOn c) mode).ascii = true) :
    mode.ascii = true ∨ 'a' ∈ on := by
  induction on with
  | nil => exact .inl h
  | cons c on ih =>
    rw [List.foldr_cons] at h
    split at h
    · exact (ih h).imp_right (List.mem_cons_of_mem _)
    · rcases ascii_turnOn h with hlater | rfl
      · exact (ih hlater).imp_right (List.mem_cons_of_mem _)
      · exact .inr List.mem_cons_self

/-- Flags for the whole pattern that were read in the text may be set. -/
theorem reads_setFlags {on flags : List Char} (hsource : source.Within text)
    (hflags : '(' :: '?' :: flags ++ [')'] <:+: text) (hon : on ⊆ flags) :
    Reads text
      (modify fun source =>
        { source with
          mode := on.foldr (fun c mode => if c == 'u' then mode else mode.turnOn c) source.mode
          unicode := source.unicode || on.contains 'u'
          template := source.template || on.any isWholeFlag })
      source fun _ next => next.Within text := by
  refine Source.Within.mk hsource.suffix (fun hascii => ?_) (fun hunicode => ?_)
  · rcases ascii_foldr_turnOn hascii with hmode | hmem
    · exact hsource.ascii hmode
    · exact ⟨flags, hflags, hon hmem⟩
  · rcases Bool.or_eq_true_iff.1 hunicode with hunicode | hmem
    · exact hsource.unicode hunicode
    · exact ⟨flags, hflags, hon (List.contains_iff_mem.1 hmem)⟩

/-! ## The grammar -/

/-- All parts of the grammar stay inside the text, as far down as the depth. -/
structure Parses (text : List Char) (depth : Nat) : Prop where
  alternatives : ∀ mode top first, Keeps text (alternatives mode top first depth)
  sequence : ∀ mode first done, Keeps text (sequence mode first done depth)
  group : ∀ mode first start source, source.Within text →
    '(' :: Token.written source.rest <:+ text →
      Reads text (group mode first start depth) source fun _ next => next.Within text
  capture : ∀ mode name start, Keeps text (capture mode name start depth)

section Grammar

variable {depth : Nat} (h : Parses text depth)
include h

theorem keeps_alternatives (mode : Mode) (top first : Bool) :
    Keeps text (alternatives mode top first (depth + 1)) := by
  unfold alternatives
  refine (h.sequence _ _ _).bind fun node => (keeps_accept '|').bind fun more => ?_
  split
  · exact keeps_get.bind fun _ => (h.alternatives _ _ _).bind fun _ => .pure _
  · exact .pure _

theorem keeps_capture (mode : Mode) (name : Option String) (start : Nat) :
    Keeps text (capture mode name start (depth + 1)) := by
  unfold capture
  exact (keeps_openGroup name).bind fun _ => (h.alternatives _ _ _).bind fun _ =>
    (keeps_closeParenthesis start).bind fun _ => (keeps_closeGroup _ _).bind fun _ => .pure _

theorem keeps_sequence (mode : Mode) (first : Bool) (done : List Piece) :
    Keeps text (sequence mode first done (depth + 1)) := by
  intro source hsource
  unfold sequence
  refine (reads_peek source).bind ?_
  rintro token _ ⟨htoken, rfl⟩
  split
  · exact hsource
  · exact hsource
  · exact hsource
  · next token _ _ =>
    refine (reads_advance source).bind fun _ next htook => ?_
    rw [← htoken] at htook
    have hnext := hsource.of_took htook
    have hsuffix : token.text ++ Token.written next.rest <:+ text := by
      have hwritten : Token.written source.rest = token.text ++ Token.written next.rest :=
        htook.written_eq
      rw [← hwritten]
      exact hsource.suffix
    refine (reads_position next).bind ?_
    rintro place _ rfl
    split
    · trivial
    · exact (keeps_escape _ _ _ next hnext).bind fun _ last hlast => h.sequence _ _ _ last hlast
    · next c _ _ =>
      split
      · exact h.sequence _ _ _ next hnext
      split
      · exact (keeps_left next hnext).bind fun limit last hlast =>
          (keeps_skipLine limit last hlast).bind fun _ last hlast => h.sequence _ _ _ last hlast
      split
      · exact (keeps_charSet mode next hnext).bind fun _ last hlast => h.sequence _ _ _ last hlast
      split
      · next hsign =>
        refine (reads_quantity hnext hsuffix hsign).bind fun counts last hlast => ?_
        split
        · exact h.sequence _ _ _ last hlast
        · exact (keeps_repeatLast _ _ _ _ last hlast).bind fun _ last hlast =>
            h.sequence _ _ _ last hlast
      split
      · exact h.sequence _ _ _ next hnext
      split
      · exact h.sequence _ _ _ next hnext
      split
      · exact h.sequence _ _ _ next hnext
      split
      · next hparenthesis =>
        obtain rfl : c = '(' := by simpa using hparenthesis
        exact (h.group _ _ _ next hnext hsuffix).bind fun _ last hlast =>
          h.sequence _ _ _ last hlast
      · exact h.sequence _ _ _ next hnext

theorem reads_group (mode : Mode) (first : Bool) (start : Nat) (hsource : source.Within text)
    (hstart : '(' :: Token.written source.rest <:+ text) :
    Reads text (group mode first start (depth + 1)) source fun _ next => next.Within text := by
  unfold group
  refine (reads_accept '?' source).bind fun special behind hmark => ?_
  have hbehind := hsource.of_took hmark
  by_cases hspecial : special = false
  · rw [if_pos (by simpa using hspecial)]
    exact (h.capture _ _ _ behind hbehind).bind fun _ last hlast => hlast
  rw [if_neg (by simpa using hspecial)]
  refine (reads_next? behind).bind fun token next htoken => ?_
  have hnext := hbehind.of_took htoken
  split
  · trivial
  split
  · refine (keeps_accept '<' next hnext).bind fun named last hlast => ?_
    split
    · exact (keeps_takeName _ _ last hlast).bind fun name last hlast =>
        (keeps_checkName name last hlast).bind fun _ last hlast =>
          (h.capture _ _ _ last hlast).bind fun _ last hlast => hlast
    · refine (keeps_accept '=' last hlast).bind fun referred last hlast => ?_
      split
      · exact (keeps_namedReference _ last hlast).bind fun _ last hlast => hlast
      · refine (keeps_next? last hlast).bind fun token last hlast => ?_
        split
        · trivial
        · trivial
  · exact keeps_enclosed (h.alternatives _ _ _) start _ next hnext
  · exact keeps_enclosed (h.alternatives _ _ _) start _ next hnext
  · exact (keeps_left next hnext).bind fun limit last hlast =>
      (keeps_skipComment _ _ last hlast).bind fun _ last hlast => hlast
  · exact keeps_enclosed (h.alternatives _ _ _) start _ next hnext
  · exact keeps_enclosed (h.alternatives _ _ _) start _ next hnext
  · refine (keeps_next? next hnext).bind fun kind last hlast => ?_
    split
    · trivial
    · split
      · exact keeps_enclosed (keeps_lookAround true (h.alternatives _ _ _)) start _ last hlast
      · trivial
  · refine (keeps_conditionGroup next hnext).bind fun index last hlast => ?_
    refine (keeps_checkLookBehind index last hlast).bind fun _ last hlast => ?_
    refine (h.sequence _ _ _ last hlast).bind fun yes last hlast => ?_
    refine (keeps_accept '|' last hlast).bind fun several last hlast => ?_
    split
    · refine (h.sequence _ _ _ last hlast).bind fun no last hlast => ?_
      refine (keeps_peek last hlast).bind fun token last hlast => ?_
      split
      · trivial
      · exact (keeps_closeParenthesis start last hlast).bind fun _ last hlast => hlast
    · exact (keeps_closeParenthesis start last hlast).bind fun _ last hlast => hlast
  · extract_lets jp
    -- flags for a group, whether or not some of them are turned off
    have hscoped (on off : List Char) (last : Source) (hlast : last.Within text) :
        Reads text (jp (.scoped on off)) last fun _ next => next.Within text :=
      keeps_enclosed (h.alternatives _ _ _) start _ last hlast
    split
    · next c _ _ _ _ _ _ _ _ =>
      split
      · refine (reads_flagsAfterMinus [] hnext).bind fun found last hfound => ?_
        match found with
        | .whole on => exact absurd rfl (hfound.2 on)
        | .scoped on off => exact hscoped on off last hfound.1
      split
      · refine (reads_left next).bind ?_
        rintro limit _ rfl
        refine (reads_flagsOn c [] _ hnext).bind fun found last hfound => ?_
        match found with
        | .whole on =>
          -- the group of flags stands in the text from its parenthesis to what was taken last
          obtain ⟨flags, htook, hon⟩ := hfound.2 on rfl
          have hinside : '(' :: '?' :: (c :: flags) ++ [')'] <:+: text := by
            refine List.IsInfix.trans ⟨[], Token.written last.rest, ?_⟩ hstart.isInfix
            rw [((hmark.trans htoken).trans htook).written_eq]
            simp [hspecial, Token.text]
          have hsubset : on ⊆ c :: flags := by
            intro flag hflag
            simpa [hon, or_comm] using hflag
          refine (reads_setFlags hfound.1 hinside hsubset).bind fun _ last hlast => ?_
          split
          · trivial
          · exact hlast
        | .scoped on off => exact hscoped on off last hfound.1
      · trivial
    · trivial

end Grammar

theorem parses (text : List Char) (depth : Nat) : Parses text depth := by
  induction depth with
  | zero =>
    exact {
      alternatives := fun _ _ _ => keeps_fail _
      sequence := fun _ _ _ => keeps_fail _
      group := fun _ _ _ _ _ _ => trivial
      capture := fun _ _ _ => keeps_fail _ }
  | succ depth ih =>
    exact {
      alternatives := keeps_alternatives ih
      sequence := keeps_sequence ih
      group := fun mode first start _ => reads_group ih mode first start
      capture := keeps_capture ih }

theorem keeps_whole : Keeps text whole := by
  intro source hsource
  unfold whole
  refine (reads_left source).bind ?_
  rintro depth _ rfl
  refine ((parses text _).alternatives _ _ _ source hsource).bind fun node next hnext => ?_
  refine (reads_get next).bind ?_
  rintro _ _ ⟨rfl, rfl⟩
  split
  · next hkinds =>
    rw [Bool.and_eq_true] at hkinds
    exact ⟨hnext.ascii hkinds.1, hnext.unicode hkinds.2⟩
  split
  · trivial
  split
  · trivial
  split
  · trivial
  · exact hnext

end Reader

/-- The fault of a text is one that the text explains. -/
theorem explained_of_parse? {text : List Char} {fault : Fault} (h : parse? text = .error fault) :
    Explained text fault := by
  have hwithin : Source.Within text { rest := Token.ofText text } :=
    ⟨by rw [Token.written_ofText], nofun, nofun⟩
  unfold parse? at h
  split at h
  · cases h
    trivial
  · have hwhole := Reader.keeps_whole _ hwithin
    unfold Reader.Reads at hwhole
    split at hwhole
    · next hread =>
      rw [hread] at h
      cases h
    · next hread =>
      rw [hread] at h
      cases h
      exact hwhole

/-- Each group of flags is in order by itself. -/
example : parse? "(?a)(?u)".toList = .error .asciiAndUnicode := by decide +kernel

end ScriptReplay.Pattern
