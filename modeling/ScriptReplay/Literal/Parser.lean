import Std.Data.HashMap
import ScriptReplay.Literal.Error
import ScriptReplay.Literal.Expr
import ScriptReplay.Literal.Source

/-!
# Parsers of expressions

A parser reads tokens from a place. It may find what it reads for, or not, which is no error: then
another parser is tried at the same place. What some rules find at a place is kept, so that no rule
reads a place twice. While an error is being explained, there are further parsers, which look for
what may have been meant.
-/

namespace ScriptReplay.Literal

/-- The rules whose findings are kept. -/
inductive Rule
  | expression
  | starExpression
  | disjunction
  | conjunction
  | inversion
  | bitOr
  | bitXor
  | bitAnd
  | shift
  | sum
  | term
  | factor
  | awaited
  | primary
  | strings
  | arguments
  | target
  | plainTarget
  | targetBase
  | misnamed
  deriving Repr, DecidableEq, Hashable


/-- How far parsers have got: the place they are at, how many tokens they have looked at, whether an error
is being explained, and what rules have found at a place, with the place behind it. -/
structure Progress where
  place : Nat := 0
  reach : Nat := 0
  explaining : Bool := false
  found : Std.HashMap (Rule × Nat) (Option (Expr × Nat)) := {}

/-- Why a parser does not go on: it does not find what it reads for; there is no next token; or there is an
error. -/
inductive Stop
  | mismatch
  | token (fault : TokenFault)
  | error (error : ReadError)

/-- A parser. -/
abbrev Parser := ReaderT Source (ExceptT Stop (StateM Progress))

namespace Parser

variable {α β : Type}

/-- Finds nothing. -/
def mismatch : Parser α := throw .mismatch

/-- Reports an error. -/
def raise (error : ReadError) : Parser α := do
  throw (.error ((← read).own error))

/-- The place where the parser is. -/
def place : Parser Nat := return (← get).place

/-- Goes to a place. -/
def goTo (place : Nat) : Parser Unit := modify fun p => { p with place := place }

/-- The next token, which stays. -/
def peek : Parser Token := do
  let place ← place
  match (← read).list.tokens[place]? with
  | some token =>
    modify fun p => { p with reach := max p.reach (place + 1) }
    return token
  | none =>
    match (← read).list.fault with
    | some fault => throw (.token fault)
    | none => mismatch

/-- The next token, if it is of a class. -/
def token (accepts : Token → Bool) : Parser Token := do
  let token ← peek
  if accepts token then
    goTo ((← place) + 1)
    return token
  else mismatch

/-- The next token, if it is of a kind. -/
def ofKind (kind : TokenKind) : Parser Token := token (·.kind = kind)

/-- The next token, if it is this operator. -/
def op (text : String) : Parser Token := token fun t => t.kind = .operator && t.text = text.toList

/-- The next token, if it is this keyword. -/
def key (text : String) : Parser Token := token fun t => t.kind = .keyword && t.text = text.toList

/-- What a parser finds, if it finds anything. It leaves no trace if it does not, save what is kept. -/
def optional (parser : Parser α) : Parser (Option α) := fun source => ExceptT.mk do
  let start := (← get).place
  match ← (parser source).run with
  | .ok a => return .ok (some a)
  | .error .mismatch =>
    modify fun p => { p with place := start }
    return .ok none
  | .error stop => return .error stop

/-- What the first of some parsers finds that finds anything. -/
def first : List (Parser α) → Parser α
  | [] => mismatch
  | parser :: others => do
    match ← optional parser with
    | some a => return a
    | none => first others

/-- Goes on if a parser finds something, and stays. -/
def ahead (parser : Parser α) : Parser Unit := do
  let start ← place
  discard parser
  goTo start

/-- Goes on if a parser finds nothing. -/
def absent (parser : Parser α) : Parser Unit := do
  let start ← place
  match ← optional parser with
  | some _ => goTo start; mismatch
  | none => return

/-- What a parser finds again and again, so many times at the most. -/
def manyWithin (parser : Parser α) : Nat → Parser (List α)
  | 0 => return []
  | fuel + 1 => do
    match ← optional parser with
    | some a => return a :: (← manyWithin parser fuel)
    | none => return []

/-- What a parser finds again and again. Each time it takes a token at least. -/
def many (parser : Parser α) : Parser (List α) := do
  manyWithin parser ((← read).list.tokens.size + 1)

/-- What a parser finds once and then again and again. -/
def several (parser : Parser α) : Parser (List α) := do
  return (← parser) :: (← many parser)

/-- What a parser finds again and again with commas between. -/
def listed (parser : Parser α) : Parser (List α) := do
  return (← parser) :: (← many (op "," *> parser))

/-- A parser that is only tried while an error is explained. -/
def explaining (parser : Parser α) : Parser α := do
  if (← get).explaining then parser else mismatch

/-- What a parser finds while no error is explained. -/
def plainly (parser : Parser α) : Parser α := fun source => ExceptT.mk do
  let before := (← get).explaining
  modify fun p => { p with explaining := false }
  let result ← (parser source).run
  modify fun p => { p with explaining := before }
  return result

/-- Keeps what a rule finds at a place. -/
def keep (rule : Rule) (start : Nat) (result : Option (Expr × Nat)) : Parser Unit :=
  modify fun p => { p with found := p.found.insert (rule, start) result }

/-- What a rule finds, which is kept, or else what the given parser finds for it. -/
def kept (rule : Rule) (parser : Nat → Parser (Option (Expr × Nat))) : Parser Expr := do
  discard peek
  let start ← place
  let result ← match (← get).found[(rule, start)]? with
    | some result => pure result
    | none => parser start
  match result with
  | some (e, stop) => goTo stop; return e
  | none => mismatch

/-- A rule that keeps what it finds. -/
def once (rule : Rule) (parser : Parser Expr) : Parser Expr :=
  kept rule fun start => do
    let result ← match ← optional parser with
      | some e => pure (some (e, ← place))
      | none => pure none
    keep rule start result
    return result

/-- What a rule finds that begins with what it finds itself: it is tried again with what was found before
in its place, as long as it gets further. -/
def growWithin (rule : Rule) (parser : Parser Expr) (start : Nat) :
    Nat → Option (Expr × Nat) → Parser (Option (Expr × Nat))
  | 0, best => return best
  | fuel + 1, best => do
    keep rule start best
    goTo start
    match ← optional parser with
    | some e =>
      let stop ← place
      if stop ≤ (best.map (·.2)).getD start then return best
      else growWithin rule parser start fuel (some (e, stop))
    | none => return best

/-- A rule that begins with itself and keeps what it finds. -/
def growing (rule : Rule) (parser : Parser Expr) : Parser Expr :=
  kept rule fun start => do
    growWithin rule parser start ((← read).list.tokens.size + 2) none

end Parser

end ScriptReplay.Literal
