import ScriptReplay.Pattern.CharSet
import ScriptReplay.Text.Blank
import ScriptReplay.Text.Identifier
import ScriptReplay.Text.WholeNumber

/-!
# Patterns from text

`parse? text` is the pattern that a text spells, or the first fault in it. Every step of the grammar
takes a token or goes at most four levels down after one was taken, so a depth of four times the
number of tokens is enough for every text.
-/

namespace ScriptReplay.Pattern

/-- The letters that switch the mode of a pattern or of a group. -/
def isFlag (c : Char) : Bool :=
  c == 'i' || c == 'L' || c == 'm' || c == 's' || c == 'x' || c == 'a' || c == 't' || c == 'u'

/-- The flags that choose what categories and letters are, of which one may hold. -/
def isKindFlag (c : Char) : Bool :=
  c == 'a' || c == 'L' || c == 'u'

/-- The flag that only a whole pattern can have. -/
def isWholeFlag (c : Char) : Bool :=
  c == 't'

/-- The mode with a flag switched on. -/
def Mode.turnOn (mode : Mode) (c : Char) : Mode :=
  if c == 'i' then { mode with ignoreCase := true }
  else if c == 'm' then { mode with multiline := true }
  else if c == 's' then { mode with dotAll := true }
  else if c == 'x' then { mode with verbose := true }
  else if c == 'a' then { mode with ascii := true }
  else if c == 'u' then { mode with ascii := false }
  else mode

/-- The mode with a flag switched off. -/
def Mode.turnOff (mode : Mode) (c : Char) : Mode :=
  if c == 'i' then { mode with ignoreCase := false }
  else if c == 'm' then { mode with multiline := false }
  else if c == 's' then { mode with dotAll := false }
  else if c == 'x' then { mode with verbose := false }
  else mode

/-- A letter of any script. -/
def isLetter (c : Char) : Bool :=
  Text.alphanumerics.contains c.toNat && Text.nameStarts.contains c.toNat

/-- A token that is a letter. -/
def Token.isLetter : Token → Bool
  | .char c => Pattern.isLetter c
  | _ => false

/-- A text that can name a group. -/
def isIdentifier : List Char → Bool
  | [] => false
  | c :: rest =>
    Text.nameStarts.contains c.toNat && rest.all fun c => Text.nameParts.contains c.toNat

/-- The first number that no group can have. -/
def groupLimit : Nat := 1073741823

/-- What the letters at the start of a group ask for. -/
inductive FlagGroup
  /-- Flags for the whole pattern. -/
  | whole (on : List Char)
  /-- Flags for the group that follows. -/
  | scoped (on off : List Char)

/-- How often a repetition goes round, or that its text is no repetition. -/
inductive Quantity
  | rounds (low : Nat) (high : Option Nat)
  | literal

/-- The number of a group as a conditional may write it: in decimal digits of any script, with a sign
before it and white space around it. Only zero may have a minus sign. -/
def groupNumber? (text : List Char) : Option Nat := do
  let (negative, written) := match Text.trim Text.isBlank text with
    | '+' :: rest => (false, rest)
    | '-' :: rest => (true, rest)
    | rest => (false, rest)
  let digits ← Text.decimalValues? written
  let number := Text.ofDigits digits
  if Text.digitLimit < digits.length || (negative && number ≠ 0) then none else some number

/-- What a pattern must not hold, whatever its text: look-behinds whose matches differ in length or
are too long, and repetitions in a template. Of several the first. -/
def Node.flaw? (template : Bool) : Node → Option Cause
  | .empty | .char .. | .any .. | .anchor .. | .backref .. => none
  | .cat a b | .alt a b | .conditional _ a b => (a.flaw? template).or (b.flaw? template)
  | .group _ body | .atomic body => body.flaw? template
  | .repeated _ _ greed body =>
    if template then some (.templateRepetition greed) else body.flaw? template
  | .look behind _ body =>
    if behind && repetitionLimit < body.width.1 then some .farLookBehind
    else if behind && !body.fixedWidth then some .variableLookBehind
    else body.flaw? template

namespace Reader

/-- Flags switched off, after the minus sign: those read so far, the letter in hand being `c`. -/
def flagsOff (c : Char) (off : List Char) : Nat → Reader (List Char)
  | 0 => fail .missingColon
  | limit + 1 => do
    if isKindFlag c then
      fail .flagKindTurnedOff
    else
      match ← next? with
      | none => fail .missingColon
      | some (.char ':') =>
        if (c :: off).any isWholeFlag then failAt .wholeFlagTurnedOff ((← position) - 1)
        else return c :: off
      | some token =>
        match token with
        | .char d =>
          if isFlag d then flagsOff d (c :: off) limit
          else if isLetter d then failAt .unknownFlag ((← position) - 1)
          else failAt .missingColon ((← position) - 1)
        | _ => failAt .missingColon ((← position) - token.width)

/-- The rest of a group's flags after the minus sign. -/
def flagsAfterMinus (on : List Char) : Reader FlagGroup := do
  if on.any isWholeFlag then failAt .wholeFlagTurnedOn ((← position) - 1)
  match ← next? with
  | none => fail .missingFlag
  | some token =>
    match token with
    | .char c =>
      if isFlag c then
        let off ← flagsOff c [] ((← left) + 1)
        if on.any fun flag => off.contains flag then
          failAt .flagOnAndOff ((← position) - 1)
        else
          return .scoped on off
      else if isLetter c then failAt .unknownFlag ((← position) - 1)
      else failAt .missingFlag ((← position) - 1)
    | _ => failAt .missingFlag ((← position) - token.width)

/-- Flags switched on: those read so far, the letter in hand being `c`. -/
def flagsOn (c : Char) (on : List Char) : Nat → Reader FlagGroup
  | 0 => fail .missingFlagEnd
  | limit + 1 => do
    if c == 'L' then
      fail .bytesFlag
    else if isKindFlag c && on.any fun flag => isKindFlag flag && flag != c then
      fail .incompatibleFlags
    else
      match ← next? with
      | none => fail .missingFlagEnd
      | some (.char ')') => return .whole (c :: on)
      | some (.char ':') =>
        if (c :: on).any isWholeFlag then failAt .wholeFlagTurnedOn ((← position) - 1)
        else return .scoped (c :: on) []
      | some (.char '-') => flagsAfterMinus (c :: on)
      | some token =>
        match token with
        | .char d =>
          if isFlag d then flagsOn d (c :: on) limit
          else if isLetter d then failAt .unknownFlag ((← position) - 1)
          else failAt .missingFlagEnd ((← position) - 1)
        | _ => failAt .missingFlagEnd ((← position) - token.width)

/-- Skips a comment in the text of a verbose pattern, up to the end of its line. -/
def skipLine : Nat → Reader Unit
  | 0 => pure ()
  | limit + 1 => do
    match ← next? with
    | none => pure ()
    | some token => if token == .char '\n' then pure () else skipLine limit

/-- Skips a comment in parentheses, whose group began at `start`. -/
def skipComment (start : Nat) : Nat → Reader Unit
  | 0 => failAt .unterminatedComment start
  | limit + 1 => do
    match ← next? with
    | none => failAt .unterminatedComment start
    | some token => if token == .char ')' then pure () else skipComment start limit

/-- A bound of a repetition count. -/
def bound? (digits : List Char) : Reader (Option Nat) := do
  if digits.isEmpty then
    return none
  else if Text.digitLimit < digits.length then
    throw (.countTooLong digits.length)
  else if repetitionLimit ≤ numberOf 10 digits then
    throw .repetitionTooLarge
  else
    return some (numberOf 10 digits)

/-- The counts of a repetition in braces, whose opening brace is taken. Text that is no count is
left to be read again. -/
def braces : Reader Quantity := do
  let before ← get
  if before.rest.head? == some (.char '\x7d') then
    return .literal
  else
    let low ← takeChars (·.isDigit) (← left)
    let several ← accept ','
    let high ← if several then takeChars (·.isDigit) (← left) else pure low
    if !(← accept '\x7d') then
      set before
      return .literal
    else
      let low ← bound? low
      let high ← bound? high
      if high.any (· < low.getD 0) then
        failAt .minAboveMax before.position
      else
        return .rounds (low.getD 0) high

/-- The counts of a repetition, whose sign is taken. -/
def quantity (sign : Char) : Reader Quantity :=
  if sign == '?' then return .rounds 0 (some 1)
  else if sign == '*' then return .rounds 0 none
  else if sign == '+' then return .rounds 1 none
  else braces

/-- How eager a repetition is, by the sign after its counts. -/
def greed : Reader Greed := do
  if ← accept '?' then return .lazy
  else if ← accept '+' then return .possessive
  else return .greedy

/-- Repeats the last item of a sequence, whose items are in reverse order. -/
def repeatLast (done : List Piece) (low : Nat) (high : Option Nat) (sign : Nat) :
    Reader (List Piece) := do
  match done with
  | [] | .anchor _ :: _ => failAt .nothingToRepeat sign
  | .repetition _ :: _ => failAt .multipleRepeat sign
  | .plain node :: rest => return .repetition (.repeated low high (← greed) node) :: rest

/-- Requires the parenthesis that closes the group begun at `start`. -/
def closeParenthesis (start : Nat) : Reader Unit := do
  if ← accept ')' then pure () else failAt .unterminatedGroup start

/-- Requires a name that can name a group; the token after its terminator is in view. -/
def checkName (name : List Char) : Reader Unit := do
  if isIdentifier name then pure ()
  else failAt (.badGroupName (String.ofList name)) ((← position) - (name.length + 1))

/-- The index of a named group; the token after the terminator of the name is in view. -/
def namedGroup (name : List Char) : Reader Nat := do
  checkName name
  match (← get).names.lookup (String.ofList name) with
  | some index => return index
  | none => failAt (.unknownGroupName (String.ofList name)) ((← position) - (name.length + 1))

/-- A reference to a group by name. -/
def namedReference (mode : Mode) : Reader Node := do
  let name ← takeName ')' "group name"
  let index ← namedGroup name
  if !(← isClosed index) then
    failAt .openGroup ((← position) - (name.length + 1))
  else
    checkLookBehind index
    return .backref mode index (← groupWidth index)

/-- The group that a conditional asks for, by name or by number. A number may be that of a later
group, so its place is kept for a check at the end. -/
def conditionGroup : Reader Nat := do
  let name ← takeName ')' "group name"
  let place := (← position) - (name.length + 1)
  if isIdentifier name then
    namedGroup name
  else
    match groupNumber? name with
    | none => failAt (.badGroupName (String.ofList name)) place
    | some 0 => failAt .badGroupNumber place
    | some index =>
      if groupLimit ≤ index then
        failAt (.invalidGroupReference index) place
      else
        modify fun source =>
          if (source.conditions.lookup index).isSome then source
          else { source with conditions := source.conditions ++ [(index, place)] }
        return index

/-- A look-around's body, read by `body`. What is opened inside a look-behind is remembered. -/
def lookAround (behind : Bool) (body : Reader Node) : Reader Node := do
  let outer := (← get).lookBehind
  if behind && outer.isNone then
    modify fun source => { source with lookBehind := some source.groups }
  let node ← body
  if behind && outer.isNone then
    modify fun source => { source with lookBehind := none }
  return node

mutual

/-- Alternatives, up to the parenthesis that closes them or the end. `top` says that they are the
whole pattern, `first` that nothing of it was read before. -/
def alternatives (mode : Mode) (top first : Bool) : Nat → Reader Node
  | 0 => fail .unexpectedEnd
  | depth + 1 => do
    let node ← sequence mode first [] depth
    if ← accept '|' then
      let outer := (← get).mode
      return .alt node (← alternatives (if top then outer else mode) top false depth)
    else
      return node

/-- A sequence, up to a bar, a closing parenthesis or the end; the items read so far are in reverse
order. -/
def sequence (mode : Mode) (first : Bool) (done : List Piece) : Nat → Reader Node
  | 0 => fail .unexpectedEnd
  | depth + 1 => do
    match ← peek with
    | none | some (.char '|') | some (.char ')') =>
      return .ofSequence (done.reverse.map Piece.node)
    | some token =>
      advance
      let place := (← position) - token.width
      match token with
      | .dangling => failAt .danglingEscape place
      | .escape c => sequence mode first ((← escape mode c place) :: done) depth
      | .char c =>
        if mode.verbose && (c == ' ' || ('\t' ≤ c && c ≤ '\r')) then
          sequence mode first done depth
        else if mode.verbose && c == '#' then
          skipLine (← left)
          sequence mode first done depth
        else if c == '[' then
          sequence mode first (.plain (← charSet mode) :: done) depth
        else if c == '*' || c == '+' || c == '?' || c == '\x7b' then
          match ← quantity c with
          | .literal => sequence mode first (.plain (single mode c.toNat) :: done) depth
          | .rounds low high => sequence mode first (← repeatLast done low high place) depth
        else if c == '.' then
          sequence mode first (.plain (.any mode) :: done) depth
        else if c == '^' then
          sequence mode first (.anchor (.anchor mode .lineStart) :: done) depth
        else if c == '$' then
          sequence mode first (.anchor (.anchor mode .lineEnd) :: done) depth
        else if c == '(' then
          let (node, mode) ← group mode (first && done.isEmpty) place depth
          sequence mode first ((node.map Piece.plain).toList ++ done) depth
        else
          sequence mode first (.plain (single mode c.toNat) :: done) depth

/-- A group begun at `start`, whose parenthesis is taken: its pattern, if it is more than a comment
or flags, and the mode that holds after it. `first` says that nothing of the pattern was read
before. -/
def group (mode : Mode) (first : Bool) (start : Nat) : Nat → Reader (Option Node × Mode)
  | 0 => fail .unexpectedEnd
  | depth + 1 => do
    if !(← accept '?') then
      return (some (← capture mode none start depth), mode)
    else
      match ← next? with
      | none => fail .unexpectedEnd
      | some token =>
        match token with
        | .char 'P' =>
          if ← accept '<' then
            let name ← takeName '>' "group name"
            checkName name
            return (some (← capture mode (some (String.ofList name)) start depth), mode)
          else if ← accept '=' then
            return (some (← namedReference mode), mode)
          else
            match ← next? with
            | none => fail .unexpectedEnd
            | some token =>
              failAt (.unknownExtension (String.ofList ('?' :: 'P' :: token.text)))
                ((← position) - (token.width + 2))
        | .char ':' =>
          let node ← alternatives mode false false depth
          closeParenthesis start
          return (some node, mode)
        | .char '>' =>
          let node ← alternatives mode false false depth
          closeParenthesis start
          return (some (.atomic node), mode)
        | .char '#' =>
          skipComment start ((← left) + 1)
          return (none, mode)
        | .char '=' =>
          let node ← alternatives mode false false depth
          closeParenthesis start
          return (some (.look false false node), mode)
        | .char '!' =>
          let node ← alternatives mode false false depth
          closeParenthesis start
          return (some (.look false true node), mode)
        | .char '<' =>
          match ← next? with
          | none => fail .unexpectedEnd
          | some kind =>
            if kind == .char '=' || kind == .char '!' then
              let node ← lookAround true (alternatives mode false false depth)
              closeParenthesis start
              return (some (.look true (kind == .char '!') node), mode)
            else
              failAt (.unknownExtension (String.ofList ('?' :: '<' :: kind.text)))
                ((← position) - (kind.width + 2))
        | .char '(' =>
          let index ← conditionGroup
          checkLookBehind index
          let yes ← sequence mode false [] depth
          if ← accept '|' then
            let no ← sequence mode false [] depth
            if (← peek) == some (.char '|') then
              fail .tooManyBranches
            else
              closeParenthesis start
              return (some (.conditional index yes no), mode)
          else
            closeParenthesis start
            return (some (.conditional index yes .empty), mode)
        | _ =>
          let flags ← match token with
            | .char c =>
              if c == '-' then flagsAfterMinus []
              else if isFlag c then flagsOn c [] ((← left) + 1)
              else failAt (.unknownExtension (String.ofList ['?', c])) ((← position) - 2)
            | _ =>
              failAt (.unknownExtension (String.ofList ('?' :: token.text)))
                ((← position) - (token.width + 1))
          match flags with
          | .whole on =>
            modify fun source =>
              { source with
                mode := on.foldr (fun c mode => if c == 'u' then mode else mode.turnOn c) source.mode
                unicode := source.unicode || on.contains 'u'
                template := source.template || on.any isWholeFlag }
            if !first then
              failAt .misplacedFlags start
            else
              return (none, (← get).mode)
          | .scoped on off =>
            let inner := off.foldr (fun c mode => mode.turnOff c)
              (on.foldr (fun c mode => mode.turnOn c) mode)
            let node ← alternatives inner false false depth
            closeParenthesis start
            return (some node, mode)

/-- The body of a capturing group begun at `start`. -/
def capture (mode : Mode) (name : Option String) (start : Nat) : Nat → Reader Node
  | 0 => fail .unexpectedEnd
  | depth + 1 => do
    let index ← openGroup name
    let node ← alternatives mode false false depth
    closeParenthesis start
    closeGroup index node.width
    return .group index node

end

/-- The whole pattern, with the checks that need all of it. -/
def whole : Reader Node := do
  let node ← alternatives {} true true (4 * (← left) + 4)
  let source ← get
  if source.mode.ascii && source.unicode then
    throw .asciiAndUnicode
  else if !source.rest.isEmpty then
    fail .unbalancedParenthesis
  else
    match source.conditions.find? fun (index, _) => source.groups ≤ index with
    | some (index, place) => failAt (.invalidGroupReference index) place
    | none =>
      match node.flaw? source.template with
      | some cause => throw (.invalid ⟨cause, none⟩)
      | none => return node

end Reader

/-- The pattern that a text spells, or the first fault in the text. -/
def parse? (text : List Char) : Except Fault Node :=
  match Token.ofText text with
  | .dangling :: _ => .error (.invalid ⟨.danglingEscape, some 0⟩)
  | tokens => (Reader.whole { rest := tokens }).map (·.1)

end ScriptReplay.Pattern
