import ScriptReplay.Literal.Braces
import ScriptReplay.Literal.Parser
import ScriptReplay.Text.WholeNumber

/-!
# Names, numbers and strings of an expression

The expressions that a single token spells, or several strings in a row.
-/

namespace ScriptReplay.Literal

/-- The constant that the text of a number spells. A whole number with a base has no limit on its
digits. -/
def Constant.ofNumber (text : List Char) : Except ReadError Constant :=
  let digits := text.filter (· != '_')
  match digits with
  | '0' :: 'x' :: rest | '0' :: 'X' :: rest => .ok (.whole (StringText.hexValue rest))
  | '0' :: 'o' :: rest | '0' :: 'O' :: rest =>
    .ok (.whole (rest.foldl (fun n c => n * 8 + (c.toNat - 48)) 0))
  | '0' :: 'b' :: rest | '0' :: 'B' :: rest =>
    .ok (.whole (rest.foldl (fun n c => n * 2 + (c.toNat - 48)) 0))
  | _ =>
    if digits.getLast? = some 'j' || digits.getLast? = some 'J' then .ok .imaginary
    else if !digits.all Char.isDigit then .ok .real
    else if digits.head? = some '0' then .ok (.whole 0)
    else if Text.digitLimit < digits.length then .error (.tooManyDigits digits.length)
    else .ok (.whole (Text.ofDigits (digits.map fun c => c.toNat - 48)))

/-- The text or the bytes that strings in a row spell. They are read in order, and a string is compared with
the one before it, of which it is told whether it spells bytes. -/
def Expr.ofStrings (source : Source) : Option Bool → Bool → List Token → Except ReadError Expr
  | before, formatted, [] =>
    .ok (if formatted then .computation .formattedText
      else .constant (if before = some true then .bytes else .text))
  | before, formatted, token :: tokens => do
    let string := StringText.ofToken token.text
    if !string.braces then
      if let some e := string.error? then throw (source.own e)
    if before = some !string.bytes then throw (source.own .mixedStrings)
    if string.braces then
      if let some e := Braces.error? source string token.line then throw e
    Expr.ofStrings source (some string.bytes) (formatted || string.braces) tokens

namespace Parser

/-- A step that may meet an error. -/
def ofExcept {α : Type} (result : Except ReadError α) : Parser α :=
  match result with
  | .ok a => return a
  | .error e => throw (.error e)

/-- A name. -/
def name : Parser Expr := return .name (← ofKind .name).text

/-- A number. -/
def number : Parser Expr := do
  let token ← ofKind .number
  match Constant.ofNumber token.text with
  | .ok value => return .constant value
  | .error e => raise e

/-- Strings in a row. -/
def strings : Parser Expr := do
  let tokens ← several (ofKind .string)
  ofExcept (Expr.ofStrings (← read) none false tokens)

/-- A keyword that is a constant. -/
def constantKey : Parser Expr :=
  first [
    (fun _ => .constant (.truth true)) <$> key "True",
    (fun _ => .constant (.truth false)) <$> key "False",
    (fun _ => .constant .absent) <$> key "None"]

end Parser

end ScriptReplay.Literal
