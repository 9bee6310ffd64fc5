import ScriptReplay.Literal.Grammar
import ScriptReplay.Literal.Value

/-!
# Literals

A text is read as a literal: its tokens must spell one expression, and the expression must have a value. If
they spell none, they are read again to find out what was meant. An error in a later token can be what is
told of instead.
-/

namespace ScriptReplay.Literal

/-- Why a text is no literal: it is no expression, or it has no value. -/
inductive Fault
  | expression (error : ReadError)
  | value (error : ValueError)
  deriving Repr, DecidableEq

namespace Source

/-- How many rules can be at work one inside of another. -/
def ruleDepth (source : Source) : Nat :=
  20 * (source.list.tokens.size + 2)

/-- What is read: an expression that fills the text, or in braces expressions at its start. -/
def start (source : Source) : Parser Expr :=
  let call := Grammar.rule source.ruleDepth
  if source.inBraces then Grammar.starExpressions call
  else do
    let e ← Grammar.expressions call
    discard (Parser.many (Parser.ofKind .newline))
    discard (Parser.ofKind .finish)
    return e

/-- The last of the tokens that are looked at. -/
def lastRead? (source : Source) (progress : Progress) : Option Token :=
  source.list.tokens[progress.reach - 1]?

/-- The error to tell of instead of an error that is found while no token but those looked at is known: a
later error that lies in a token, or a bracket on an earlier line that stays open. -/
def laterError? (source : Source) (progress : Progress) : Option ReadError :=
  match source.list.fault with
  | none => none
  | some fault =>
    if fault.error.isOwn then some (.token fault)
    else match fault.opened with
      | none => none
      | some bracket =>
        if bracket.line < ((source.lastRead? progress).map (·.line)).getD 0 then
          some (source.own (.token { fault with error := .atEnd }))
        else none

/-- The error for an error in an expression. -/
def errorFor (source : Source) (progress : Progress) (error : ReadError) : ReadError :=
  if ((source.lastRead? progress).map (·.atEnd)).getD false then error
  else (source.laterError? progress).getD error

/-- The error for a token that is missing. -/
def errorForToken (source : Source) (fault : TokenFault) : ReadError :=
  if fault.error.isOwn then .token fault else source.own (.token fault)

/-- The error for tokens of which nothing is known but that they spell no expression. They are read for the
second time. -/
def errorForTokens (source : Source) (once twice : Progress) : ReadError :=
  match (source.lastRead? once).map Token.kind with
  | some .indent => source.own (.margin true)
  | some .dedent => source.own (.margin false)
  | _ => (source.laterError? twice).getD (source.own .invalid)

/-- The expression that tokens spell. If they spell none, they are read again for an error to tell of. -/
def expression (source : Source) : Except ReadError Expr :=
  let (result, once) := (source.start source).run {}
  match result with
  | .ok e => .ok e
  | .error (.token fault) => .error (source.errorForToken fault)
  | .error (.error error) => .error (source.errorFor once error)
  | .error .mismatch =>
    let (result, twice) := (source.start source).run { reach := once.reach, explaining := true }
    match result with
    | .error (.token fault) => .error (source.errorForToken fault)
    | .error (.error error) => .error (source.errorFor twice error)
    | _ => .error (source.errorForTokens once twice)

end Source

/-- What is wrong with an expression in the braces of a text, which begins on a line. It is read in
brackets. Expressions in the braces of its own strings are shorter, of which `fuel` bounds the length. -/
def braceErrorWithin? : Nat → Nat → List Char → Option ReadError
  | 0, _, _ => none
  | fuel + 1, line, text =>
    let list := TokenList.ofText line ('(' :: text ++ [')', '\n'])
    match (Source.mk list true (braceErrorWithin? fuel)).expression with
    | .ok _ => none
    | .error e => some e

/-- The expression that a text spells. -/
def expressionOf (text : List Char) : Except ReadError Expr :=
  (Source.mk (TokenList.ofText 1 text) false (braceErrorWithin? text.length)).expression

/-- Why a text is no literal, if it is none. -/
def fault? (text : List Char) : Option Fault :=
  if text.contains '\x00' then some (.value .nullCharacter)
  else match expressionOf text with
    | .error error => some (.expression error)
    | .ok e =>
      match e.value with
      | .error error => some (.value error)
      | .ok _ => none

end ScriptReplay.Literal
