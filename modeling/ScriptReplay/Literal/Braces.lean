import ScriptReplay.Literal.StringText

/-!
# Expressions in the braces of a string

A string that is read with braces holds plain text and fields. A field is an expression in braces, behind
which may stand an equals sign, a letter that tells how its value is written, and after a colon a format
that may hold fields of its own. Two braces in plain text stand for one.
-/

namespace ScriptReplay.Literal.Braces

/-- What stands before a character of plain text: nothing that matters, a backslash, the letter of an escape
by name, or the brace before the name. -/
inductive Before
  | plain
  | backslash
  | nameLetter
  | nameBrace
  deriving Repr, DecidableEq

/-- Plain text up to a brace or to the end, with what follows, and whether that is plain text again. -/
structure Plain where
  text : List Char
  rest : List Char
  again : Bool
  deriving Repr, DecidableEq

/-- The plain text at the start of a text, after what is read of it, which is given in reverse. In a format
a closing brace ends it, and no brace is written twice. -/
def plainFrom (raw inFormat : Bool) : Before → List Char → List Char → Except BraceError Plain
  | _, read, [] => .ok ⟨read.reverse, [], false⟩
  | .nameLetter, read, c :: rest =>
    plainFrom raw inFormat (if c == '\x7b' then .nameBrace else .plain) (c :: read) rest
  | .nameBrace, read, c :: rest =>
    plainFrom raw inFormat (if c == '\x7d' then .plain else .nameBrace) (c :: read) rest
  | before, read, c :: rest =>
    if before = .plain && !raw && c == '\\' && !rest.isEmpty then
      plainFrom raw inFormat .backslash (c :: read) rest
    else if before = .backslash && c == 'N' then plainFrom raw inFormat .nameLetter (c :: read) rest
    else if c == '\x7b' || c == '\x7d' then
      match inFormat, rest with
      | false, d :: more =>
        if d == c then .ok ⟨(c :: read).reverse, more, true⟩
        else if c == '\x7d' then .error .loneBrace
        else .ok ⟨read.reverse, c :: rest, false⟩
      | false, [] => if c == '\x7d' then .error .loneBrace else .ok ⟨read.reverse, [c], false⟩
      | true, _ => .ok ⟨read.reverse, c :: rest, false⟩
    else plainFrom raw inFormat .plain (c :: read) rest

/-- The greatest number of brackets that are open at once. -/
def bracketLimit : Nat := 200

/-- The expression at the start of a text, after what is read of it, which is given in reverse, and what
follows. `string?` is the quote of the string that is open and whether it stands three times; `opened` are
the brackets that are open; and `skip` characters belong to what is read. -/
def expressionFrom (string? : Option (Char × Bool)) (opened read : List Char) :
    Nat → List Char → Except BraceError (List Char × List Char)
  | _, [] =>
    if string?.isSome then .error .openString
    else match opened with
      | bracket :: _ => .error (.unmatched bracket)
      | [] => .error .openBrace
  | skip + 1, c :: rest => expressionFrom string? opened (c :: read) skip rest
  | 0, c :: rest =>
    let triple := rest.take 2 == [c, c]
    if c == '\\' then .error .backslash
    else if let some (quote, three) := string? then
      if c != quote || three && !triple then expressionFrom string? opened (c :: read) 0 rest
      else expressionFrom none opened (c :: read) (if three then 2 else 0) rest
    else if c == '\x27' || c == '\x22' then
      expressionFrom (some (c, triple)) opened (c :: read) (if triple then 2 else 0) rest
    else if c == '(' || c == '[' || c == '\x7b' then
      if bracketLimit ≤ opened.length then .error .tooManyBrackets
      else expressionFrom none (c :: opened) (c :: read) 0 rest
    else if c == '#' then .error .comment
    else if opened.isEmpty && (c == ':' || c == '\x7d') then .ok (read.reverse, c :: rest)
    else if opened.isEmpty && (c == '!' || c == '=' || c == '<' || c == '>') then
      if rest.head? = some '=' then expressionFrom none opened (c :: read) 1 rest
      else if c == '<' || c == '>' then expressionFrom none opened (c :: read) 0 rest
      else .ok (read.reverse, c :: rest)
    else if c == ')' || c == ']' || c == '\x7d' then
      match opened with
      | [] => .error (.unmatched c)
      | bracket :: outer =>
        if closing bracket = c then expressionFrom none outer (c :: read) 0 rest
        else .error (.mismatch c bracket)
    else expressionFrom none opened (c :: read) 0 rest

/-- The blanks that an expression may consist of without being one. -/
def isGap (c : Char) : Bool :=
  c == ' ' || c == '\t' || c == '\n' || c == '\x0c'

/-- What follows the equals sign and the letter behind an expression. -/
def afterConversion (text : List Char) : Except BraceError (List Char) := do
  let text := match text with
    | '=' :: rest => rest.dropWhile fun c => isGap c || c == '\r' || c == '\x0b'
    | _ => text
  match text with
  | '!' :: [] => .error .openBrace
  | '!' :: c :: rest => if c == 's' || c == 'r' || c == 'a' then .ok rest else .error .conversion
  | _ => .ok text

/-- Reads plain text and fields up to the end, in so many steps, or in a format up to a closing brace. The
line is that of the expression that would begin at the end of the text. -/
def read (source : Source) (raw : Bool) (lineOf : List Char → Nat) :
    Nat → Nat → List Char → Except ReadError (List Char)
  | 0, _, text => .ok text
  | fuel + 1, depth, text => do
    let own {α : Type} (result : Except BraceError α) : Except ReadError α :=
      result.mapError fun e => source.own (.brace e)
    let plain ← own (plainFrom raw (depth != 0) .plain [] text)
    if !raw then
      if let some e := StringText.escapeError? plain.text then throw (source.own e)
    match plain.again, plain.rest with
    | true, rest => read source raw lineOf fuel depth rest
    | false, '\x7b' :: inner =>
      if 2 ≤ depth then own (.error .tooDeep)
      let (expression, rest) ← own (expressionFrom none [] [] 0 inner)
      if expression.all isGap then
        let stop := rest.headD ' '
        own (.error (if stop == '\x7d' then .empty else .nothingBefore stop))
      if let some e := source.braceError? (lineOf plain.rest) expression then throw e
      let rest ← own (afterConversion rest)
      let rest ← match rest with
        | ':' :: [] => own (.error .openBrace)
        | ':' :: format => read source raw lineOf fuel (depth + 1) format
        | rest => pure rest
      match rest with
      | '\x7d' :: rest => read source raw lineOf fuel depth rest
      | _ => own (.error .openBrace)
    | false, rest => if depth != 0 && rest.isEmpty then own (.error .openBrace) else return rest

/-- What is wrong with a string that is read with braces and begins on a line. -/
def error? (source : Source) (string : StringText) (line : Nat) : Option ReadError :=
  let content := string.content
  let lineOf (rest : List Char) :=
    line + (content.take (content.length - rest.length)).countP (· == '\n')
  match read source string.raw lineOf (content.length + 1) 0 content with
  | .ok _ => none
  | .error e => some e

end ScriptReplay.Literal.Braces
