/-!
# Control sequences

A control sequence tells a terminal to move or to change its colors: an escape character, an opening
bracket, parameters, and a letter. A text for a file is written without them.
-/

namespace ScriptReplay.Text

/-- Whether a character can stand among the parameters of a control sequence. -/
def isParameter (c : Char) : Bool :=
  c.isDigit || c == ';' || c == '?'

/-- What follows a control sequence at the start of a text, if there is one. -/
def afterSequence? : List Char → Option (List Char)
  | '\x1b' :: '[' :: rest =>
    match rest.dropWhile isParameter with
    | letter :: after => if letter.isAlpha then some after else none
    | [] => none
  | _ => none

/-- A text without the control sequences in it, of which `fuel` bounds the length. -/
def dropSequences : Nat → List Char → List Char
  | 0, text => text
  | _, [] => []
  | fuel + 1, c :: rest =>
    match afterSequence? (c :: rest) with
    | some after => dropSequences fuel after
    | none => c :: dropSequences fuel rest

/-- A text without the control sequences in it. What is left may spell one again. -/
def withoutSequences (text : String) : String :=
  String.ofList (dropSequences text.length text.toList)

end ScriptReplay.Text
