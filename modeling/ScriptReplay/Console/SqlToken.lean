import ScriptReplay.Pattern.Matcher

/-!
# Tokens of SQL

How a block of SQL is cut into tokens when it is printed: white space, comments, names, numbers, quoted
texts and single characters. Every character belongs to a token. A comment in slashes and stars may
hold others, and is cut at every slash and star.
-/

namespace ScriptReplay.Console

namespace SqlToken

/-- Whether a character can begin a name: an ASCII letter in either case, or an underscore. -/
def beginsName (c : Char) : Bool :=
  c == '_' || (Pattern.SetItem.range 'a'.toNat 'z'.toNat).holdsIn { ignoreCase := true } c

/-- Whether a character can go on in a name. -/
def inName (c : Char) : Bool :=
  c == '$' || Pattern.Category.word.holds false c

/-- The length of a text in quotes whose first quote has been taken, where a quote in it is written
twice. If the last quote is missing, the text ends at the first of the last two that stand together. -/
def quotedLength (quote : Char) (length : Nat) (known : Option Nat) : List Char → Option Nat
  | [] => known
  | [c] => if c = quote then some (length + 1) else known
  | c :: d :: rest =>
    if c = quote then
      if d = quote then quotedLength quote (length + 2) (some (length + 1)) rest
      else some (length + 1)
    else quotedLength quote (length + 1) known (d :: rest)

/-- The length of the token at the start of a text, outside of comments in slashes and stars. -/
def plainLength (text : List Char) : Nat :=
  match text with
  | [] => 0
  | '-' :: '-' :: rest =>
    let line := rest.takeWhile (· != '\n')
    2 + line.length + (if line.length < rest.length then 1 else 0)
  | c :: rest =>
    if Text.isBlank c then 1 + (rest.takeWhile Text.isBlank).length
    else if c.isDigit then 1 + (rest.takeWhile Char.isDigit).length
    else if beginsName c then 1 + (rest.takeWhile inName).length
    else if c = '\x27' || c = '\x22' then (quotedLength c 1 none rest).getD 1
    else 1

/-- The length of the token at the start of a text inside of a comment. -/
def commentLength (text : List Char) : Nat :=
  let plain := text.takeWhile fun c => c != '/' && c != '*'
  if plain.isEmpty then 1 else plain.length

/-- The tokens of a text, of which `fuel` bounds the number, inside of so many comments. -/
def tokensWithin : Nat → Nat → List Char → List (List Char)
  | _, _, [] => []
  | 0, _, text => [text]
  | fuel + 1, depth, '/' :: '*' :: rest => ['/', '*'] :: tokensWithin fuel (depth + 1) rest
  | fuel + 1, 0, c :: rest =>
    let length := plainLength (c :: rest)
    (c :: rest.take (length - 1)) :: tokensWithin fuel 0 (rest.drop (length - 1))
  | fuel + 1, depth + 1, '*' :: '/' :: rest => ['*', '/'] :: tokensWithin fuel depth rest
  | fuel + 1, depth + 1, c :: rest =>
    let length := commentLength (c :: rest)
    (c :: rest.take (length - 1)) :: tokensWithin fuel (depth + 1) (rest.drop (length - 1))

end SqlToken

/-- The tokens of SQL. -/
def sqlTokens (text : List Char) : List (List Char) :=
  SqlToken.tokensWithin text.length 0 text

end ScriptReplay.Console
