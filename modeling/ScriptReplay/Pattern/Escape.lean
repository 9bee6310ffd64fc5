import ScriptReplay.Pattern.Source
import ScriptReplay.Text.CharacterName.Basic

/-!
# Escapes in a pattern

What a backslash and the characters after it stand for: a character, a category, a place, or the
text of an earlier group. Inside a set of characters there are no places and no groups, and the
letter `b` stands for a backspace.
-/

namespace ScriptReplay.Pattern

/-- An item of a sequence, with what decides whether it can be repeated. -/
inductive Piece
  | plain (node : Node)
  | anchor (node : Node)
  | repetition (node : Node)

/-- The pattern of an item. -/
def Piece.node : Piece → Node
  | .plain node | .anchor node | .repetition node => node

/-- One character or one category of a set. -/
inductive SetAtom
  | code (code : Nat)
  | category (kind : Category) (negated : Bool)

/-- The atom as an item of a set. -/
def SetAtom.item : SetAtom → SetItem
  | .code n => .single n
  | .category kind negated => .category kind negated

/-- The character a letter stands for after a backslash. -/
def controlEscape? (c : Char) : Option Nat :=
  match c with
  | 'a' => some 7
  | 'b' => some 8
  | 'f' => some 12
  | 'n' => some 10
  | 'r' => some 13
  | 't' => some 9
  | 'v' => some 11
  | '\\' => some 92
  | _ => none

/-- The category a letter stands for after a backslash, and whether it is negated. -/
def categoryEscape? (c : Char) : Option (Category × Bool) :=
  match c with
  | 'd' => some (.digit, false)
  | 'D' => some (.digit, true)
  | 's' => some (.space, false)
  | 'S' => some (.space, true)
  | 'w' => some (.word, false)
  | 'W' => some (.word, true)
  | _ => none

/-- The place a letter stands for after a backslash. -/
def anchorEscape? (c : Char) : Option Anchor :=
  match c with
  | 'A' => some .textStart
  | 'Z' => some .textEnd
  | 'b' => some .boundary
  | 'B' => some .noBoundary
  | _ => none

/-- A hexadecimal digit. -/
def isHexDigit (c : Char) : Bool :=
  c.isDigit || ('a' ≤ c && c ≤ 'f') || ('A' ≤ c && c ≤ 'F')

/-- An octal digit. -/
def isOctalDigit (c : Char) : Bool :=
  '0' ≤ c && c ≤ '7'

/-- The value of a digit of base sixteen or less. -/
def digitValue (c : Char) : Nat :=
  if c.isDigit then c.toNat - 48
  else if 'a' ≤ c && c ≤ 'z' then c.toNat - 87
  else c.toNat - 55

/-- The number that digits spell in a base. -/
def numberOf (base : Nat) (digits : List Char) : Nat :=
  digits.foldl (fun n c => n * base + digitValue c) 0

namespace Reader

/-- The code point given by exactly so many hexadecimal digits after `\` and a letter. The escape
began at `start`. -/
def hexCode (letter : Char) (count start : Nat) : Reader Nat := do
  let digits ← takeChars isHexDigit count
  let written := String.ofList ('\\' :: letter :: digits)
  if digits.length ≠ count then
    failAt (.incompleteEscape written) start
  else if 0x110000 ≤ numberOf 16 digits then
    failAt (.badEscape written) start
  else
    return numberOf 16 digits

/-- The code point given by the name of a character. -/
def namedCode : Reader Nat := do
  if !(← accept '\x7b') then
    fail .missingBrace
  else
    let name ← takeName '\x7d' "character name"
    match Text.characterNamed? name with
    | some code => return code
    | none => failAt (.undefinedCharacter (String.ofList name)) ((← position) - (name.length + 4))

/-- The code point of an escape that means the same inside and outside of sets, if it is one: by
number, by name, or a character that is no ASCII letter or digit standing for itself. -/
def codeEscape? (c : Char) (start : Nat) : Reader (Option Nat) := do
  if c == 'x' then return some (← hexCode c 2 start)
  else if c == 'u' then return some (← hexCode c 4 start)
  else if c == 'U' then return some (← hexCode c 8 start)
  else if c == 'N' then return some (← namedCode)
  else if c.isDigit then return none
  else if c.isAlpha then failAt (.badEscape (String.ofList ['\\', c])) start
  else return some c.toNat

/-- An escape inside a set of characters, which began at `start`. -/
def setEscape (c : Char) (start : Nat) : Reader SetAtom := do
  match controlEscape? c, categoryEscape? c with
  | some code, _ => return .code code
  | none, some (kind, negated) => return .category kind negated
  | none, none =>
    match ← codeEscape? c start with
    | some code => return .code code
    | none =>
      if isOctalDigit c then
        let digits := c :: (← takeChars isOctalDigit 2)
        if 0o377 < numberOf 8 digits then
          failAt (.octalTooLarge (String.ofList ('\\' :: digits))) start
        else
          return .code (numberOf 8 digits)
      else
        failAt (.badEscape (String.ofList ['\\', c])) start

/-- A reference to a group by number, in an escape that began at `start`. -/
def groupEscape (mode : Mode) (digits : List Char) (start : Nat) : Reader Node := do
  let index := numberOf 10 digits
  if index < (← get).groups then
    if !(← isClosed index) then
      failAt .openGroup start
    else
      checkLookBehind index
      return .backref mode index (← groupWidth index)
  else
    failAt (.invalidGroupReference index) (start + 1)

/-- A pattern of one character. -/
def single (mode : Mode) (code : Nat) : Node :=
  .char mode false [.single code]

/-- An escape that begins with a digit other than zero: three octal digits are a character, anything
else is a reference to a group. -/
def numberEscape (mode : Mode) (c : Char) (start : Nat) : Reader Node := do
  let second ← takeChars (·.isDigit) 1
  match second with
  | [d] =>
    if isOctalDigit c && isOctalDigit d then
      match ← takeChars isOctalDigit 1 with
      | [e] =>
        if 0o377 < numberOf 8 [c, d, e] then
          failAt (.octalTooLarge (String.ofList ['\\', c, d, e])) start
        else
          return single mode (numberOf 8 [c, d, e])
      | _ => groupEscape mode [c, d] start
    else
      groupEscape mode [c, d] start
  | _ => groupEscape mode [c] start

/-- An escape outside of sets, which began at `start`. -/
def escape (mode : Mode) (c : Char) (start : Nat) : Reader Piece := do
  match anchorEscape? c, categoryEscape? c, controlEscape? c with
  | some kind, _, _ => return .anchor (.anchor mode kind)
  | none, some (kind, negated), _ => return .plain (.char mode false [.category kind negated])
  | none, none, some code => return .plain (single mode code)
  | none, none, none =>
    match ← codeEscape? c start with
    | some code => return .plain (single mode code)
    | none =>
      if c == '0' then
        let digits := c :: (← takeChars isOctalDigit 2)
        return .plain (single mode (numberOf 8 digits))
      else
        return .plain (← numberEscape mode c start)

end Reader

end ScriptReplay.Pattern
