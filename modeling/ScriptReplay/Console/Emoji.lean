import ScriptReplay.Console.EmojiName
import ScriptReplay.Text.Blank
import ScriptReplay.Text.Case

/-!
# Emoji in a text

A name between colons stands for its picture. An ending of the name chooses between the picture as
text and as emoji. A name that is not known stays as it is.
-/

namespace ScriptReplay.Console

/-- A name without an ending, and the character that the ending stands for. -/
def withoutEnding (name ending : List Char) (sign : Char) : Option (List Char × List Char) :=
  if ending.isSuffixOf name then some (name.take (name.length - ending.length), [sign]) else none

/-- A name and what follows its picture. -/
def splitEnding (name : List Char) : List Char × List Char :=
  ((withoutEnding name "-emoji".toList '\ufe0f').orElse fun _ =>
    withoutEnding name "-text".toList '\ufe0e').getD (name, [])

/-- What stands for a name and the colons around it. -/
def pictureOf (name : List Char) : List Char :=
  let (key, sign) := splitEnding name
  match emoji? (String.ofList (Text.lower key)) with
  | some picture => picture ++ sign
  | none => ':' :: name ++ [':']

/-- The name at the start of a text, up to a colon without white space before it, and what follows
the colon. -/
def nameAt? (text : List Char) : Option (List Char × List Char) :=
  let stop (c : Char) : Bool := c != ':' && !Text.isBlank c
  match text.dropWhile stop with
  | ':' :: after => some (text.takeWhile stop, after)
  | _ => none

/-- A text with pictures for the names in it, of which `fuel` bounds the length. -/
def pictureWithin : Nat → List Char → List Char
  | 0, text => text
  | _, [] => []
  | fuel + 1, c :: rest =>
    if c = ':' then
      match nameAt? rest with
      | some (name, after) => pictureOf name ++ pictureWithin fuel after
      | none => c :: pictureWithin fuel rest
    else c :: pictureWithin fuel rest

/-- A text with pictures for the names in it. -/
def withPictures (text : List Char) : List Char :=
  pictureWithin text.length text

end ScriptReplay.Console
