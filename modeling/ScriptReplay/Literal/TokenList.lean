import ScriptReplay.Literal.Numeral
import ScriptReplay.Text.Identifier

/-!
# The tokens of a text

A text is cut into tokens from its start: margins of lines, names, numbers, strings and operators.
Blanks, comments, empty lines, and the ends of lines between brackets are left out. The tokens end with
the text, or before the first place that holds none.
-/

namespace ScriptReplay.Literal

/-- The margin of a line: its width where a tab goes on to a multiple of eight, its width where a tab is as
wide as a blank, and the width at which the line was first continued. -/
structure Margin where
  width : Nat := 0
  narrow : Nat := 0
  continued : Nat := 0
  deriving Repr, DecidableEq

/-- A place between the tokens of a text: what follows, the line it stands on, the brackets that are open,
the innermost first, the margins that are open, the innermost first, the tokens for margins that are
still to come, and whether a line begins here. -/
structure Cursor where
  rest : List Char
  line : Nat
  opened : List Bracket := []
  margins : List Margin := []
  pending : List TokenKind := []
  atLineStart : Bool := true
  deriving Repr, DecidableEq

namespace Cursor

/-- The line of a text that follows a line break. There is no further line behind the last one. -/
def lineOf (line : Nat) (rest : List Char) : Nat :=
  if rest.isEmpty then line else line + 1

/-- Goes on behind a line break. -/
def newLine (cursor : Cursor) (rest : List Char) : Cursor :=
  { cursor with rest := rest, line := lineOf cursor.line rest }

/-- The margin at the start of a text, with the line on which it ends and what follows. -/
def marginOf (margin : Margin) (line : Nat) :
    List Char → Except TokenError (Margin × Nat × List Char)
  | ' ' :: rest => marginOf { margin with width := margin.width + 1, narrow := margin.narrow + 1 } line rest
  | '\t' :: rest =>
    marginOf { margin with width := (margin.width / 8 + 1) * 8, narrow := margin.narrow + 1 } line rest
  | '\x0c' :: rest => marginOf { margin with width := 0, narrow := 0 } line rest
  | '\\' :: '\n' :: c :: rest =>
    let continued := if margin.continued = 0 then margin.width else margin.continued
    marginOf { margin with continued := continued } (line + 1) (c :: rest)
  | '\\' :: '\n' :: [] => .error .atEnd
  | '\\' :: _ => .error .afterBackslash
  | rest => .ok (margin, line, rest)

/-- The margin as it is compared with others. -/
def settled (margin : Margin) : Margin :=
  if margin.continued = 0 then margin else ⟨margin.continued, margin.continued, 0⟩

/-- The greatest number of margins that are open at once, together with the empty one. -/
def marginLimit : Nat := 100

/-- Compares the margin of a line with those that are open, and tells which tokens it gives. -/
def withMargin (cursor : Cursor) (margin : Margin) : Except TokenError Cursor :=
  let last := cursor.margins.headD {}
  if margin.width = last.width then
    if margin.narrow = last.narrow then .ok cursor else .error .mixedTabs
  else if last.width < margin.width then
    if marginLimit ≤ cursor.margins.length + 1 then .error .tooManyMargins
    else if margin.narrow ≤ last.narrow then .error .mixedTabs
    else .ok { cursor with margins := margin :: cursor.margins, pending := [.indent] }
  else
    let left := cursor.margins.dropWhile fun outer => margin.width < outer.width
    let closed := cursor.margins.length - left.length
    let outer := left.headD {}
    if margin.width ≠ outer.width then .error .unknownMargin
    else if margin.narrow ≠ outer.narrow then .error .mixedTabs
    else .ok { cursor with margins := left, pending := List.replicate closed .dedent }

/-- Starts a line. An empty line has no margin and is passed over. -/
def startLine (cursor : Cursor) : Except TokenError Cursor := do
  let (margin, line, rest) ← marginOf {} cursor.line cursor.rest
  let cursor := { cursor with rest := rest, line := line, atLineStart := false }
  match rest with
  | '#' :: _ | '\n' :: _ =>
    match rest.dropWhile (· != '\n') with
    | _ :: next => return { cursor.newLine next with atLineStart := true }
    | [] => return { cursor with rest := [] }
  | _ => if cursor.opened.isEmpty then cursor.withMargin (settled margin) else return cursor

/-- Goes on to the next token, in so many steps. -/
def skip : Nat → Cursor → Except TokenError Cursor
  | 0, cursor => .ok cursor
  | fuel + 1, cursor =>
    if cursor.atLineStart then do skip fuel (← cursor.startLine)
    else if !cursor.pending.isEmpty then .ok cursor
    else
      match cursor.rest with
      | '\\' :: '\n' :: [] => .error .atEnd
      | '\\' :: '\n' :: rest => skip fuel (cursor.newLine rest)
      | '\\' :: _ => .error .afterBackslash
      | '\n' :: rest =>
        if cursor.opened.isEmpty then .ok cursor
        else skip fuel { cursor.newLine rest with atLineStart := true }
      | c :: rest =>
        if c == ' ' || c == '\t' || c == '\x0c' then skip fuel { cursor with rest := rest }
        else if c == '#' then skip fuel { cursor with rest := rest.dropWhile (· != '\n') }
        else .ok cursor
      | [] => .ok cursor

/-- What follows a string whose opening quotes are read and that ends with `size` of them, and the line on
which it ends. So many quotes stand just before the text. -/
def afterQuotes (quote : Char) (size : Nat) : Nat → Nat → List Char → Except Nat (Nat × List Char)
  | _, line, [] => .error line
  | run, line, c :: rest =>
    if c == quote then
      if size ≤ run + 1 then .ok (line, rest) else afterQuotes quote size (run + 1) line rest
    else if c == '\n' then
      if size = 1 then .error line else afterQuotes quote size 0 (lineOf line rest) rest
    else if c == '\\' then
      match rest with
      | d :: rest => afterQuotes quote size 0 (if d == '\n' then lineOf line rest else line) rest
      | [] => .error line
    else afterQuotes quote size 0 line rest

/-- What follows the string at the start of a text, the line on which it ends, and whether that could only
be told by looking behind it. -/
def afterString (quote : Char) (line : Nat) (text : List Char) :
    Except TokenError (Nat × List Char × Bool) :=
  let read (size : Nat) (text : List Char) :=
    match afterQuotes quote size 0 line text with
    | .ok (line, rest) => .ok (line, rest, false)
    | .error line => .error (.openString (size == 3) line)
  match text.drop 1 with
  | c :: d :: rest =>
    if c == quote && d == quote then read 3 rest
    else if c == quote then .ok (line, d :: rest, false)
    else read 1 (c :: d :: rest)
  | [c] => if c == quote then .ok (line, [], true) else read 1 [c]
  | [] => read 1 []

/-- The letters that can stand before the quotes of a string. -/
def stringLetters : List String :=
  ["", "b", "r", "u", "f", "br", "rb", "fr", "rf"]

/-- The character of a name that can be in none. -/
def strangeIn? (name : List Char) : Option Char :=
  match name with
  | [] => none
  | c :: rest =>
    if !(c == '_' || Text.nameStarts.contains c.toNat) then some c
    else rest.find? fun d => !Text.nameParts.contains d.toNat

/-- The greatest number of brackets that are open at once. -/
def bracketLimit : Nat := 200

/-- The brackets that are open behind an operator of one character. -/
def openedBy (cursor : Cursor) (c : Char) : Except TokenError (List Bracket) :=
  if c == '(' || c == '[' || c == '\x7b' then
    if bracketLimit ≤ cursor.opened.length then .error .tooManyBrackets
    else .ok (⟨c, cursor.line⟩ :: cursor.opened)
  else if c == ')' || c == ']' || c == '\x7d' then
    match cursor.opened with
    | [] => .error (.unmatched c)
    | bracket :: outer =>
      if closing bracket.char = c then .ok outer
      else .error (.mismatch c bracket.char
        (if bracket.line = cursor.line then none else some bracket.line))
  else .ok cursor.opened

/-- The token that reaches from a place to the rest of its text. -/
def token (cursor : Cursor) (kind : TokenKind) (rest : List Char) (atEnd : Bool) : Token × Cursor :=
  let text := cursor.rest.take (cursor.rest.length - rest.length)
  (⟨kind, text, cursor.line, cursor.opened.length, atEnd⟩, { cursor with rest := rest })

/-- The operator at the start of a text. -/
def operator (cursor : Cursor) (c : Char) (rest : List Char) : Except TokenError (Token × Cursor) := do
  match longOperators.find? fun long => long.toList.isPrefixOf (c :: rest) with
  | some long =>
    let size := long.toList.length
    let rest := (c :: rest).drop size
    return cursor.token .operator rest (size < 3 && rest.isEmpty)
  | none =>
    let opened ← cursor.openedBy c
    if c != ' ' && !Text.printables.contains c.toNat then throw (.character c)
    let atEnd := rest.isEmpty || c == '.' && rest == ['.']
    return { cursor with opened := opened }.token .operator rest atEnd

/-- The name or the string that begins with the letters at the start of a text. -/
def word (cursor : Cursor) : Except TokenError (Token × Cursor) := do
  let letters := cursor.rest.takeWhile continuesName
  let rest := cursor.rest.dropWhile continuesName
  let quote := rest.headD ' '
  if (quote == '\x27' || quote == '\x22')
      && stringLetters.contains (String.ofList (letters.map Char.toLower)) then
    let (line, rest, atEnd) ← afterString quote cursor.line rest
    let (token, next) := cursor.token .string rest atEnd
    return (token, { next with line := line })
  else
    match if letters.all (·.toNat < 0x80) then none else strangeIn? letters with
    | some c => throw (.character c)
    | none =>
      let kind := if keywords.contains (String.ofList letters) then .keyword else .name
      return cursor.token kind rest rest.isEmpty

/-- The token at a place, behind which the text goes on, if the place is not the end. -/
def tokenHere (cursor : Cursor) : Except TokenError (Token × Cursor) := do
  match cursor.pending, cursor.rest with
  | kind :: pending, rest => return { cursor with pending := pending }.token kind rest rest.isEmpty
  | [], [] => if cursor.opened.isEmpty then return cursor.token .finish [] true else throw .atEnd
  | [], '\n' :: rest =>
    let (token, next) := cursor.token .newline rest false
    return (token, { next.newLine rest with atLineStart := true })
  | [], c :: rest =>
    if beginsName c || c == '\x27' || c == '\x22' then cursor.word
    else if c.isDigit || c == '.' && (rest.headD ' ').isDigit then
      let rest ← Numeral.after cursor.rest
      return cursor.token .number rest rest.isEmpty
    else cursor.operator c rest

/-- The next token. -/
def next (cursor : Cursor) : Except TokenFault (Token × Cursor) :=
  match cursor.skip (2 * cursor.rest.length + 2) with
  | .error error => .error ⟨error, cursor.opened.head?⟩
  | .ok here =>
    match here.tokenHere with
    | .error error => .error ⟨error, here.opened.head?⟩
    | .ok found => .ok found

end Cursor

/-- The tokens of a text, and why there are no more of them. -/
structure TokenList where
  tokens : Array Token
  fault : Option TokenFault
  deriving Repr, DecidableEq

namespace TokenList

/-- The tokens behind a place, in so many steps, after those that are read. -/
def ofCursor (read : Array Token) : Nat → Cursor → TokenList
  | 0, _ => ⟨read, none⟩
  | fuel + 1, cursor =>
    match cursor.next with
    | .error fault => ⟨read, some fault⟩
    | .ok (token, next) =>
      if token.kind = .finish then ⟨read.push token, none⟩ else ofCursor (read.push token) fuel next

/-- The text with all its line breaks written as one character. -/
def unifyBreaks : List Char → List Char
  | '\r' :: '\n' :: rest => '\n' :: unifyBreaks rest
  | '\r' :: rest => '\n' :: unifyBreaks rest
  | c :: rest => c :: unifyBreaks rest
  | [] => []

/-- The tokens of a text that begins on a line. A character gives one token at the most, and each margin
that is opened is closed once. -/
def ofText (line : Nat) (text : List Char) : TokenList :=
  ofCursor #[] (3 * text.length + 3) { rest := unifyBreaks text, line := line }

end TokenList

end ScriptReplay.Literal
