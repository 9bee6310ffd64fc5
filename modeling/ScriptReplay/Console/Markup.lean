import ScriptReplay.Console.Emoji
import ScriptReplay.Console.Marked
import ScriptReplay.Console.StyleName
import ScriptReplay.Literal.Basic
import ScriptReplay.Pattern.Matcher
import ScriptReplay.Text.Quoted

/-!
# Markup

A text for the console may hold tags in brackets, which begin and end styles and are not shown. A
closing tag has to name a style that is open, or no style, and then closes the one opened last. A tag
whose name begins with an at sign has parameters behind an equals sign that must be a literal, which is
read when the tag is closed. A backslash before a tag makes it plain text.
-/

namespace ScriptReplay.Console

/-- Why a text with markup cannot be shown: a closing tag closes nothing, where the tag is kept as it is
written with whether it names a style and with its position; parameters are no literal; or a style has
a color that is no number. -/
inductive MarkupError
  | unmatched (tag : String) (named : Bool) (position : Nat)
  | parameters (written evaluated : String) (fault : Literal.Fault)
  | number (error : Text.NumberError)
  deriving Repr, DecidableEq

/-- The words for it. -/
def MarkupError.message : MarkupError → String
  | .unmatched tag named position =>
    "closing tag '" ++ tag ++ "' at position " ++ Text.decimalString position
      ++ (if named then " doesn't match any open tag" else " has nothing to close")
  | .parameters written evaluated (.expression error) =>
    "error parsing " ++ Text.quoted evaluated ++ " in " ++ Text.quoted written ++ "; " ++ error.message
  | .parameters written _ (.value error) =>
    "error parsing " ++ Text.quoted written ++ "; " ++ error.message
  | .number error => error.message

/-- A step in which a style may have a color that is no number. -/
def checked {α : Type} (result : Except Text.NumberError α) : Except MarkupError α :=
  match result with
  | .ok value => .ok value
  | .error error => .error (.number error)

namespace Markup

/-- A piece of a text with markup: plain text, or what stands between the brackets of a tag. -/
inductive Piece
  | plain (text : List Char)
  | tag (position : Nat) (content : List Char)
  deriving Repr, DecidableEq

/-- Whether a character can begin the content of a tag. -/
def beginsTag (c : Char) : Bool :=
  ('a' ≤ c && c ≤ 'z') || c == '#' || c == '/' || c == '@'

/-- The content of a tag whose bracket was opened just before the text, and what follows the tag. -/
def contentAt? : List Char → Option (List Char × List Char)
  | [] => none
  | c :: rest =>
    let inner := rest.takeWhile fun d => d != ']' && d != '['
    match rest.dropWhile fun d => d != ']' && d != '[' with
    | ']' :: after => if beginsTag c then some (c :: inner, after) else none
    | _ => none

/-- A tag at the start of a text: the number of backslashes before it, its content, and what follows
it. -/
def tagAt? (text : List Char) : Option (Nat × List Char × List Char) :=
  match text.dropWhile (· == '\\') with
  | '[' :: rest =>
    (contentAt? rest).map fun (content, after) =>
      ((text.takeWhile (· == '\\')).length, content, after)
  | _ => none

/-- Plain text as a piece, if there is any. -/
def plainPiece (text : List Char) : List Piece :=
  if text.isEmpty then [] else [.plain text]

/-- The pieces of a text, of which `fuel` bounds the length. The plain text before it that is not yet
in a piece is kept in reverse. -/
def piecesWithin : Nat → Nat → List Char → List Char → List Piece
  | 0, _, before, _ => plainPiece before.reverse
  | _, _, before, [] => plainPiece before.reverse
  | fuel + 1, position, before, c :: rest =>
    match tagAt? (c :: rest) with
    | none => piecesWithin fuel (position + 1) (c :: before) rest
    | some (escapes, content, after) =>
      let tag :=
        if escapes % 2 = 1 then .plain ('[' :: content ++ [']'])
        else .tag (position + escapes) content
      plainPiece before.reverse ++ plainPiece (List.replicate (escapes / 2) '\\')
        ++ tag :: piecesWithin fuel (position + escapes + content.length + 2) [] after

/-- The pieces of a text with markup. -/
def piecesOf (text : List Char) : List Piece :=
  piecesWithin text.length 0 [] text

/-- Plain text with the backslashes before opening brackets taken away. -/
def unescape : List Char → List Char
  | '\\' :: '[' :: rest => '[' :: unescape rest
  | c :: rest => c :: unescape rest
  | [] => []

/-- The control characters that a console does not show. -/
def isHidden (c : Char) : Bool :=
  let n := c.toNat
  n == 7 || n == 8 || (11 ≤ n && n ≤ 13)

/-- Plain text as it is shown. -/
def shown (text : List Char) : List Char :=
  (withPictures (unescape text)).filter (!isHidden ·)

/-- A tag that is open: where it stands in the text that is shown, the normal form of its name, and its
parameters, if it has any. -/
structure OpenTag where
  start : Nat
  name : List Char
  parameters : Option (List Char)
  deriving Repr, DecidableEq

namespace OpenTag

/-- The name of the style that a tag asks for. -/
def style (tag : OpenTag) : List Char :=
  match tag.parameters with
  | none => tag.name
  | some parameters => tag.name ++ ' ' :: parameters

/-- The literal that parameters hold: the arguments of a call if they look like one or like its name
alone, or else all of them. -/
def literalOf (parameters : List Char) : List Char :=
  let parameters := Text.trim Text.isBlank parameters
  match parameters.dropWhile fun c => c == '.' || Pattern.Category.word.holds false c with
  | [] => ['(', ')']
  | '(' :: rest =>
    if rest.getLast? = some ')' && !rest.contains '\n' then '(' :: rest else parameters
  | _ => parameters

/-- The mark of a tag that is closed. The parameters behind an at sign are read. -/
def close (tag : OpenTag) (stop : Nat) : Except MarkupError Mark :=
  match tag.name, tag.parameters with
  | '@' :: _, some (c :: rest) =>
    let literal := literalOf (c :: rest)
    match Literal.fault? literal with
    | none => .ok ⟨tag.start, stop, []⟩
    | some fault =>
      .error (.parameters (String.ofList (c :: rest)) (String.ofList literal) fault)
  | '@' :: _, _ => .ok ⟨tag.start, stop, []⟩
  | _, _ => .ok ⟨tag.start, stop, tag.style⟩

end OpenTag

/-- A text that is put together: what is shown so far, the tags that are open, and the marks of those
that are closed; the latest of each come first. -/
structure Draft where
  text : List Char := []
  opened : List OpenTag := []
  closed : List Mark := []
  deriving Repr, DecidableEq

namespace Draft

/-- Closes the tag that is open at a place among the others. -/
def close (draft : Draft) (tag : OpenTag) : Except MarkupError Draft := do
  let mark ← tag.close draft.text.length
  return { draft with opened := draft.opened.erase tag, closed := mark :: draft.closed }

/-- Applies a tag with the given content, which stands at a position. -/
def applyTag (draft : Draft) (position : Nat) (content : List Char) : Except MarkupError Draft := do
  match content.takeWhile (· != '=') with
  | '/' :: closing =>
    let closing := Text.trim Text.isBlank closing
    if closing.isEmpty then
      match draft.opened with
      | [] => throw (.unmatched "[/]" false position)
      | tag :: _ => draft.close tag
    else
      let name ← checked (StyleName.normalize closing)
      match draft.opened.find? (·.name == name) with
      | none => throw (.unmatched (String.ofList ('[' :: content ++ [']'])) true position)
      | some tag => draft.close tag
  | name =>
    let parameters :=
      if content.contains '=' then some ((content.dropWhile (· != '=')).drop 1) else none
    let tag : OpenTag := ⟨draft.text.length, ← checked (StyleName.normalize name), parameters⟩
    return { draft with opened := tag :: draft.opened }

/-- Adds pieces to a text. -/
def add (draft : Draft) : List Piece → Except MarkupError Draft
  | [] => .ok draft
  | .plain text :: rest => ({ draft with text := (shown text).reverse ++ draft.text } : Draft).add rest
  | .tag position content :: rest => do (← draft.applyTag position content).add rest

/-- The text with all its marks, in the order in which they start. Tags that are still open reach to
the end. -/
def finish (draft : Draft) : Marked :=
  let size := draft.text.length
  let unclosed := draft.opened.reverse.map fun tag => ⟨tag.start, size, tag.style⟩
  ⟨draft.text.reverse, (unclosed ++ draft.closed).mergeSort fun a b => a.start ≤ b.start⟩

end Draft

end Markup

/-- The text that a text with markup shows, with the marks of its tags. -/
def markedOf (markup : List Char) : Except MarkupError Marked := do
  return (← ({} : Markup.Draft).add (Markup.piecesOf markup)).finish

end ScriptReplay.Console
