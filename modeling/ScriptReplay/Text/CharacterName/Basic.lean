import ScriptReplay.Text.CharacterName.Aliases
import ScriptReplay.Text.CharacterName.Alphabets
import ScriptReplay.Text.CharacterName.EastAsia
import ScriptReplay.Text.CharacterName.Historic
import ScriptReplay.Text.CharacterName.Pictographs
import ScriptReplay.Text.CharacterName.Symbols

/-!
# Characters by their names

Which character a name stands for. Most names are kept in tables; those of ideographs and of Korean
syllables follow a rule. Small letters stand for capital ones, save in names that follow the rules for
unified ideographs and syllables.
-/

namespace ScriptReplay.Text.CharacterName

/-- A place in a table: the words of the name that stands before it, and the code point behind that of the
name. -/
structure Entry where
  words : List String := []
  next : Nat := 0
  deriving Repr, DecidableEq

/-- The number that hexadecimal digits spell. Small and capital letters are digits, nothing else is. -/
def hexNumber? (digits : List Char) : Option Nat :=
  digits.foldlM (fun n c =>
    if c.isDigit then some (n * 16 + (c.toNat - 48))
    else if 'a' ≤ c && c ≤ 'f' then some (n * 16 + (c.toNat - 87))
    else if 'A' ≤ c && c ≤ 'F' then some (n * 16 + (c.toNat - 55))
    else none) 0

/-- The code point of a name in the words of a table, from a place on. A word that begins with an equals sign
tells the code point of the next name, which is else the next one. A word that begins with a small letter
begins a name, and the letter tells how many words that name shares with the one before. -/
def findIn? (name : List String) (entry : Entry) : List String → Option Nat
  | [] => if entry.words == name then some (entry.next - 1) else none
  | word :: words =>
    match word.toList with
    | '=' :: digits =>
      if entry.words == name then some (entry.next - 1)
      else findIn? name { entry with next := (hexNumber? digits).getD 0 } words
    | c :: rest =>
      if 'a' ≤ c && c ≤ 'z' then
        if entry.words == name then some (entry.next - 1)
        else
          let shared := entry.words.take (c.toNat - 97)
          findIn? name ⟨shared ++ [String.ofList rest], entry.next + 1⟩ words
      else findIn? name { entry with words := entry.words ++ [word] } words
    | [] => findIn? name entry words

/-- The code point of a name in a table. -/
def inTable? (name : List String) (table : String) : Option Nat :=
  findIn? name {} (table.splitToList fun c => c == ' ' || c == '\n')

/-- A family of characters whose names end in their code points. -/
structure Family where
  name : String
  ranges : List (Nat × Nat)
  deriving Repr, DecidableEq

/-- Whether a family has a code point. -/
def Family.contains (family : Family) (code : Nat) : Bool :=
  family.ranges.any fun (low, high) => low ≤ code && code ≤ high

/-- The families whose names are looked up without regard to small letters. -/
def families : List Family := [
  ⟨"CJK COMPATIBILITY IDEOGRAPH-", [(0xf900, 0xfa6d), (0xfa70, 0xfad9), (0x2f800, 0x2fa1d)]⟩,
  ⟨"KHITAN SMALL SCRIPT CHARACTER-", [(0x18b00, 0x18cd5)]⟩,
  ⟨"NUSHU CHARACTER-", [(0x1b170, 0x1b2fb)]⟩]

/-- The unified ideographs. -/
def unified : Family :=
  ⟨"CJK UNIFIED IDEOGRAPH-", [(0x3400, 0x4dbf), (0x4e00, 0x9fff), (0x20000, 0x2a6df), (0x2a700, 0x2b738),
    (0x2b740, 0x2b81d), (0x2b820, 0x2cea1), (0x2ceb0, 0x2ebe0), (0x30000, 0x3134a)]⟩

/-- The code point of a name in a family. It is written with four digits, or five if it needs them. -/
def Family.code? (family : Family) (name : List Char) : Option Nat := do
  if family.name.toList.isPrefixOf name then
    let digits := name.drop family.name.length
    let code ← hexNumber? digits
    let size := if code < 0x10000 then 4 else 5
    if !digits.any Char.isLower && digits.length = size && family.contains code then some code else none
  else none

/-- The names of the letters that begin a syllable, of its vowels, and of the letters that end it. -/
def syllableLetters : List (List String) := [
  ["G", "GG", "N", "D", "DD", "R", "M", "B", "BB", "S", "SS", "", "J", "JJ", "C", "K", "T", "P", "H"],
  ["A", "AE", "YA", "YAE", "EO", "E", "YEO", "YE", "O", "WA", "WAE", "OE", "YO", "U", "WEO", "WE", "WI",
    "YU", "EU", "YI", "I"],
  ["", "G", "GG", "GS", "N", "NJ", "NH", "D", "L", "LG", "LM", "LB", "LS", "LT", "LP", "LH", "M", "B",
    "BS", "S", "SS", "NG", "J", "C", "K", "T", "P", "H"]]

/-- The number of the longest name of a letter at the start of a text, and what follows it. -/
def letterAt? (names : List String) (text : List Char) : Option (Nat × List Char) :=
  let found := names.zipIdx.filter fun (name, _) => name.toList.isPrefixOf text
  (found.foldl (fun best (name, i) =>
    match best with
    | some (longest, _) => if longest < name.length then some (name.length, i) else best
    | none => some (name.length, i)) none).map fun (size, i) => (i, text.drop size)

/-- The number of a syllable whose letters are named one after another. -/
def syllableFrom? : Nat → List (List String) → List Char → Option Nat
  | number, [], text => if text.isEmpty then some number else none
  | number, names :: others, text => do
    let (i, rest) ← letterAt? names text
    syllableFrom? (number * names.length + i) others rest

/-- The words before the name of a syllable. -/
def syllableStart : List Char := "HANGUL SYLLABLE ".toList

end CharacterName

open CharacterName in
/-- The code point of the character that a name stands for. -/
def characterNamed? (name : List Char) : Option Nat :=
  if syllableStart.isPrefixOf name then
    (syllableFrom? 0 syllableLetters (name.drop syllableStart.length)).map (0xac00 + ·)
  else if unified.name.toList.isPrefixOf name then unified.code? name
  else
    let capitals := name.map Char.toUpper
    match families.findSome? (·.code? capitals) with
    | some code => some code
    | none =>
      let words := (String.ofList capitals).splitOn " "
      [alphabetNames, symbolNames, eastAsianNames, historicNames, pictographNames, aliasNames].findSome?
        (inTable? words)

end ScriptReplay.Text
