import ScriptReplay.Pattern.Basic
import ScriptReplay.Text.Alphanumeric
import ScriptReplay.Text.Blank
import ScriptReplay.Text.Case

/-!
# Matching a pattern

A pattern is matched from a `Cursor`, a place in a text with the groups captured so far. `Node.run`
hands the place after a match to a continuation and tries the next way of matching when that fails,
so the first success is the one a backtracking search finds. `matchesWhole` asks whether some match
takes the whole text.
-/

namespace ScriptReplay.Pattern

/-- What a group matched, and the number of characters before it. -/
structure Capture where
  start : Nat
  text : List Char
  deriving Repr, DecidableEq

/-- A place in a text, with the captured groups, the latest first. -/
structure Cursor where
  /-- The characters before the place, the nearest first. -/
  before : List Char
  after : List Char
  captures : List (Nat × Capture) := []
  deriving Repr, DecidableEq

namespace Cursor

/-- The place so many characters earlier, if there are as many. -/
def back? (cursor : Cursor) (count : Nat) : Option Cursor :=
  if count ≤ cursor.before.length then
    some { cursor with
      before := cursor.before.drop count
      after := (cursor.before.take count).reverse ++ cursor.after }
  else none

/-- The place so many characters later. -/
def forward (cursor : Cursor) (count : Nat) : Cursor :=
  { cursor with
    before := (cursor.after.take count).reverse ++ cursor.before
    after := cursor.after.drop count }

/-- Notes what a group matched: the text from a place before up to this one. -/
def capture (cursor : Cursor) (index : Nat) (start : Cursor) : Cursor :=
  let text := start.after.take (start.after.length - cursor.after.length)
  { cursor with captures := (index, ⟨start.before.length, text⟩) :: cursor.captures }

end Cursor

/-- A character of a category. -/
def Category.holds (ascii : Bool) (c : Char) : Category → Bool
  | .digit => c.isDigit || (!ascii && Text.decimalDigits.contains c.toNat)
  | .space =>
    if ascii then c == ' ' || ('\t' ≤ c && c ≤ '\r') else Text.isBlank c
  | .word => c.isAlphanum || c == '_' || (!ascii && Text.alphanumerics.contains c.toNat)

/-- A character that a set lists. -/
def SetItem.holds (ascii : Bool) (c : Char) : SetItem → Bool
  | .single code => c.toNat == code
  | .range low high => low ≤ c.toNat && c.toNat ≤ high
  | .category kind negated => kind.holds ascii c != negated

/-- The character in lower case, of ASCII letters alone if asked so. -/
def lowerIn (ascii : Bool) (c : Char) : Char :=
  if ascii then (if 'A' ≤ c && c ≤ 'Z' then Char.ofNat (c.toNat + 32) else c)
  else Text.lowerLetter c

/-- The code points of the character's letter, of ASCII letters alone if asked so. -/
def matesIn (ascii : Bool) (c : Char) : List Nat :=
  if ascii then
    if 'A' ≤ c && c ≤ 'Z' then [c.toNat, c.toNat + 32]
    else if 'a' ≤ c && c ≤ 'z' then [c.toNat, c.toNat - 32]
    else [c.toNat]
  else Text.letterMates c

/-- A character that a set lists, in the mode in which it stands. -/
def SetItem.holdsIn (mode : Mode) (c : Char) (item : SetItem) : Bool :=
  if mode.ignoreCase then
    match item with
    | .single code => (matesIn mode.ascii c).contains code
    | .range low high => (matesIn mode.ascii c).any fun code => low ≤ code && code ≤ high
    | .category .. => item.holds mode.ascii (lowerIn mode.ascii c)
  else item.holds mode.ascii c

/-- Two characters that a reference to a group takes for the same. -/
def sameIn (mode : Mode) (a b : Char) : Bool :=
  if mode.ignoreCase then lowerIn mode.ascii a == lowerIn mode.ascii b else a == b

/-- Whether a captured text stands again at the start of another. -/
def repeats (mode : Mode) : List Char → List Char → Bool
  | [], _ => true
  | _ :: _, [] => false
  | a :: as, b :: bs => sameIn mode a b && repeats mode as bs

/-- Whether the place lies between a word character and another or an end. -/
def atWordEdge (ascii : Bool) (cursor : Cursor) : Bool :=
  let inWord (c? : Option Char) := c?.any fun c => Category.word.holds ascii c
  inWord cursor.before.head? != inWord cursor.after.head?

/-- Whether an anchor holds at a place. No text is so short as the empty one that it has neither
edges nor places off the edge. -/
def Anchor.holds (mode : Mode) (cursor : Cursor) : Anchor → Bool
  | .lineStart => cursor.before.isEmpty || (mode.multiline && cursor.before.head? == some '\n')
  | .lineEnd =>
    cursor.after.isEmpty || cursor.after == ['\n'] ||
      (mode.multiline && cursor.after.head? == some '\n')
  | .textStart => cursor.before.isEmpty
  | .textEnd => cursor.after.isEmpty
  | .boundary => !(cursor.before.isEmpty && cursor.after.isEmpty) && atWordEdge mode.ascii cursor
  | .noBoundary =>
    !(cursor.before.isEmpty && cursor.after.isEmpty) && !atWordEdge mode.ascii cursor

/-- What follows a match: the place it ended at leads on to a success or not. -/
abbrev Continuation := Cursor → Option Cursor

/-- The rounds of a repetition: `need` rounds that must be made, then up to `room` free ones, tried
before or after the continuation. A free round that began where the last one did is not tried, so
the number of characters bounds the free rounds. -/
def rounds (body : Cursor → Continuation → Option Cursor) (lazily : Bool) (k : Continuation) :
    Nat → Nat → Option Nat → Option Nat → Cursor → Option Cursor
  | 0, _, _, _, _ => none
  | depth + 1, need + 1, room, last, cursor =>
    body cursor fun next => rounds body lazily k depth need room last next
  | depth + 1, 0, room, last, cursor =>
    let here := cursor.after.length
    let another : Unit → Option Cursor := fun _ =>
      if room == some 0 || last == some here then none
      else body cursor fun next =>
        rounds body lazily k depth 0 (room.map (· - 1)) (some here) next
    if lazily then (k cursor).orElse another
    else (another ()).orElse fun _ => k cursor

/-- The rounds of a repetition that never goes back: each takes its first match, and there are as
many as can be. -/
def roundsOnce (body : Cursor → Continuation → Option Cursor) :
    Nat → Nat → Option Nat → Option Nat → Cursor → Option Cursor
  | 0, _, _, _, _ => none
  | depth + 1, need + 1, room, last, cursor =>
    match body cursor some with
    | some next => roundsOnce body depth need room last next
    | none => none
  | depth + 1, 0, room, last, cursor =>
    let here := cursor.after.length
    if room == some 0 || last == some here then some cursor
    else
      match body cursor some with
      | some next => roundsOnce body depth 0 (room.map (· - 1)) (some here) next
      | none => some cursor

/-- Matches a pattern at a place and goes on with the continuation. -/
def Node.run : Node → Cursor → Continuation → Option Cursor
  | .empty, cursor, k => k cursor
  | .char mode negated items, cursor, k =>
    match cursor.after with
    | [] => none
    | c :: _ =>
      if items.any (·.holdsIn mode c) != negated then k (cursor.forward 1) else none
  | .any mode, cursor, k =>
    match cursor.after with
    | [] => none
    | c :: _ => if mode.dotAll || c != '\n' then k (cursor.forward 1) else none
  | .anchor mode kind, cursor, k => if kind.holds mode cursor then k cursor else none
  | .cat a b, cursor, k => a.run cursor fun next => b.run next k
  | .alt a b, cursor, k => (a.run cursor k).orElse fun _ => b.run cursor k
  | .group index body, cursor, k => body.run cursor fun next => k (next.capture index cursor)
  | .atomic body, cursor, k => (body.run cursor some).bind k
  | .repeated low high greed body, cursor, k =>
    let room := high.map (· - low)
    let depth := low + cursor.after.length + 2
    match greed with
    | .greedy => rounds (fun c k => body.run c k) false k depth low room none cursor
    | .lazy => rounds (fun c k => body.run c k) true k depth low room none cursor
    | .possessive => (roundsOnce (fun c k => body.run c k) depth low room none cursor).bind k
  | .backref mode index _, cursor, k =>
    match cursor.captures.lookup index with
    | none => none
    | some capture =>
      if repeats mode capture.text cursor.after then k (cursor.forward capture.text.length)
      else none
  | .look behind negated body, cursor, k =>
    let found :=
      (if behind then cursor.back? body.width.1 else some cursor).bind fun c => body.run c some
    match found with
    | some there => if negated then none else k { cursor with captures := there.captures }
    | none => if negated then k cursor else none
  | .conditional index yes no, cursor, k =>
    if (cursor.captures.lookup index).isSome then yes.run cursor k else no.run cursor k

/-- Whether some match of the pattern takes the whole text. -/
def Node.matchesWhole (node : Node) (text : List Char) : Bool :=
  (node.run ⟨[], text, []⟩ fun cursor => if cursor.after.isEmpty then some cursor else none).isSome

end ScriptReplay.Pattern
