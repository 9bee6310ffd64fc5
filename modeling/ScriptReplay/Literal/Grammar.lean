import ScriptReplay.Literal.Atom
import ScriptReplay.Literal.Lambda

/-!
# The grammar of expressions

The rules by which tokens spell an expression. Each rule is an ordered choice. A rule that keeps what it finds
is called by its name through `call`, all others are parsers on their own. No square brackets can stand in
a tag, so there are no rules for lists. While an error is explained, a rule also looks for what is often
meant by tokens that spell nothing, and blames that.
-/

namespace ScriptReplay.Literal.Grammar

open ScriptReplay.Literal.Parser

variable (call : Rule → Parser Expr)

/-- A computation of a kind. -/
def computed (kind : Computation) (parser : Parser Unit) : Parser Expr :=
  parser *> return .computation kind

/-- A name with a value assigned to it inside of an expression. -/
def assignment : Parser Expr := do
  discard name
  discard (op ":=")
  discard (call .expression)
  return .computation .named

/-- An expression that no value is assigned to. -/
def bare : Parser Expr := do
  let e ← call .expression
  absent (op ":=")
  return e

/-- An expression or an assignment. -/
def namedExpression : Parser Expr :=
  first [assignment call, explaining (call .misnamed), bare call]

/-- An expression with a star, where items are listed. -/
def starredItem : Parser Expr := do
  discard (op "*")
  return .starred (← call .bitOr)

/-- An item of a tuple or a set. -/
def item : Parser Expr := first [starredItem call, namedExpression call]

/-- Items with commas between and perhaps one behind. -/
def items : Parser (List Expr) := do
  let items ← listed (item call)
  discard (optional (op ","))
  return items

/-- An argument with a star. -/
def starredArgument : Parser Expr := do
  discard (op "*")
  return .starred (← call .expression)

/-- Several expressions are a tuple. -/
def tupleOf (one : Parser Expr) : Parser Expr :=
  first [
    do
      let e ← one
      let others ← several (op "," *> one)
      discard (optional (op ","))
      return .tuple (e :: others),
    do
      let e ← one
      discard (op ",")
      return .tuple [e],
    one]

/-- One expression or more. -/
def expressions : Parser Expr := tupleOf (call .expression)

/-- One expression or more, some of them with a star. -/
def starExpressions : Parser Expr := tupleOf (call .starExpression)

/-- An expression that hands a value on. -/
def delegation : Parser Expr :=
  computed .delegation (first [
    key "yield" *> key "from" *> discard (call .expression),
    key "yield" *> discard (optional (starExpressions call))])

/-! ## Targets and comprehensions -/

/-- What goes on with a target. -/
def goesOn : Parser Unit := discard (first [op "(", op "[", op "."])

/-- A target between brackets or a name. -/
def targetAtom : Parser Expr :=
  first [
    name,
    op "(" *> call .plainTarget <* op ")",
    do
      discard (op "(")
      discard (optional (first [
        do
          discard (call .target)
          discard (several (op "," *> call .target))
          discard (optional (op ",")),
        do
          discard (call .target)
          discard (op ",")]))
      discard (op ")")
      return .tuple []]

/-- The targets of a loop. -/
def targets : Parser Unit :=
  first [
    do
      discard (call .target)
      absent (op ","),
    do
      discard (call .target)
      discard (many (op "," *> call .target))
      discard (optional (op ","))]

/-- A loop over something that nothing can be assigned to. -/
def mistakenLoop : Parser Unit := do
  discard (optional (key "async"))
  discard (key "for")
  match (← starExpressions call).unassignable? with
  | some e => raise (.notAssignable e.words)
  | none => mismatch

/-- A loop of a comprehension with its conditions. What follows `in` is no part of the choice. -/
def loop : Parser Unit := do
  let head := key "for" *> targets call *> discard (key "in")
  match ← optional (first [key "async" *> head, head]) with
  | some _ =>
    discard (call .disjunction)
    discard (many (key "if" *> call .disjunction))
  | none => explaining (mistakenLoop call)

/-- The loops of a comprehension. -/
def loops : Parser Unit := discard (several (loop call))

/-- The ways to get a comprehension wrong. -/
def mistakenComprehension : Parser Expr :=
  first [
    do
      discard (first [op "[", op "(", op "\x7b"])
      discard (starredArgument call)
      loops call
      raise .starredComprehension,
    do
      discard (first [op "[", op "\x7b"])
      discard (item call)
      discard (op ",")
      discard (items call)
      loops call
      raise .bareTarget,
    do
      discard (first [op "[", op "\x7b"])
      discard (item call)
      discard (op ",")
      loops call
      raise .bareTarget]

/-- A generator in brackets. -/
def generator : Parser Expr :=
  first [
    computed .generator do
      discard (op "(")
      discard (first [assignment call, bare call])
      loops call
      discard (op ")"),
    explaining (mistakenComprehension call)]

/-! ## Brackets and braces -/

/-- A tuple in brackets. -/
def tuple : Parser Expr := do
  discard (op "(")
  let found ← optional do
    let e ← item call
    discard (op ",")
    return e :: ((← optional (items call)).getD [])
  discard (op ")")
  return .tuple (found.getD [])

/-- An expression in brackets. -/
def group : Parser Expr :=
  first [
    op "(" *> first [delegation call, namedExpression call] <* op ")",
    explaining (first [
      do
        discard (op "(")
        discard (starredArgument call)
        discard (op ")")
        raise .starredGroup,
      do
        discard (op "(")
        discard (op "**")
        discard (call .expression)
        discard (op ")")
        raise .doubleStarredGroup])]

/-- A key with its value. -/
def keyValue : Parser (Option Expr × Expr) := do
  let key ← call .expression
  discard (op ":")
  return (some key, ← call .expression)

/-- An entry: a key with its value, or two stars and a value whose entries are meant. -/
def entry : Parser (Option Expr × Expr) :=
  first [
    do
      discard (op "**")
      return (none, ← call .bitOr),
    keyValue call]

/-- The ways to get a value behind its key wrong. -/
def mistakenValue : Parser Expr :=
  first [
    do
      discard (call .expression)
      discard (op ":")
      discard (op "*")
      discard (call .bitOr)
      raise .starredEntry,
    do
      discard (call .expression)
      discard (op ":")
      ahead (first [op "\x7d", op ","])
      raise .missingEntry]

/-- The ways to get an entry wrong. -/
def mistakenEntry : Parser Expr :=
  first [
    do
      discard (call .expression)
      absent (op ":")
      raise .missingColon,
    mistakenValue call]

/-- The ways to get entries wrong. -/
def mistakenEntries : Parser Expr :=
  first [
    do
      discard (listed (entry call))
      discard (op ",")
      mistakenEntry call,
    mistakenValue call]

/-- A dictionary. Whether its entries are wrong is looked for at once. -/
def dict : Parser Expr :=
  first [
    do
      discard (op "\x7b")
      let entries ← optional (listed (entry call) <* optional (op ","))
      discard (op "\x7d")
      return .dict (entries.getD []),
    op "\x7b" *> mistakenEntries call <* op "\x7d"]

/-- A set. -/
def set : Parser Expr := do
  discard (op "\x7b")
  let items ← items call
  discard (op "\x7d")
  return .set items

/-- A comprehension that gives a dictionary. -/
def dictComprehension : Parser Expr :=
  first [
    computed .dictComprehension do
      discard (op "\x7b")
      discard (keyValue call)
      loops call
      discard (op "\x7d"),
    explaining do
      discard (op "\x7b")
      discard (op "**")
      discard (call .bitOr)
      loops call
      discard (op "\x7d")
      raise .unpackedComprehension]

/-- A comprehension that gives a set. -/
def setComprehension : Parser Expr :=
  first [
    computed .setComprehension do
      discard (op "\x7b")
      discard (namedExpression call)
      loops call
      discard (op "\x7d"),
    explaining (mistakenComprehension call)]

/-- The smallest expressions. -/
def atom : Parser Expr :=
  first [
    name,
    constantKey,
    ahead (ofKind .string) *> call .strings,
    number,
    ahead (op "(") *> first [tuple call, group call, generator call],
    ahead (op "\x7b") *> first [dict call, set call, dictComprehension call, setComprehension call],
    op "..." *> return .constant .dots]

/-! ## Arguments -/

/-- Arguments: how many of them have no name, and whether there are some with two stars. -/
structure Arguments where
  positional : Nat := 0
  unpacked : Bool := false
  deriving Repr, DecidableEq

/-- The ways to get an argument with a name wrong. -/
def mistakenArgument : Parser Arguments :=
  first [
    do
      let e ← constantKey
      discard (op "=")
      raise (.notAssignable e.words),
    do
      discard name
      discard (op "=")
      discard (call .expression)
      loops call
      raise .equalsSign,
    do
      absent (name *> op "=")
      discard (call .expression)
      discard (op "=")
      raise .assignedArgument]

/-- An argument with a name. -/
def namedArgument : Parser Arguments :=
  name *> op "=" *> call .expression *> return {}

/-- An argument with a name or with a star. -/
def keywordOrStarred : Parser Arguments :=
  first [
    explaining (mistakenArgument call),
    namedArgument call,
    starredArgument call *> return { positional := 1 }]

/-- An argument with a name or with two stars. -/
def keywordOrDoubleStarred : Parser Arguments :=
  first [
    explaining (mistakenArgument call),
    namedArgument call,
    op "**" *> call .expression *> return { unpacked := true }]

/-- What several arguments are together. -/
def together (parts : List Arguments) : Arguments :=
  { positional := parts.foldl (fun count part => count + part.positional) 0
    unpacked := parts.any (·.unpacked) }

/-- Arguments with names. -/
def keywordArguments : Parser Arguments :=
  first [
    do
      let starred ← listed (keywordOrStarred call)
      discard (op ",")
      return together (starred ++ (← listed (keywordOrDoubleStarred call))),
    together <$> listed (keywordOrStarred call),
    together <$> listed (keywordOrDoubleStarred call)]

/-- An argument without a name. -/
def positionalArgument : Parser Expr := do
  let e ← first [starredArgument call, first [assignment call, bare call]]
  absent (op "=")
  return e

/-- Arguments. -/
def argumentList : Parser Arguments :=
  first [
    do
      let unnamed ← listed (positionalArgument call)
      let others ← optional (op "," *> keywordArguments call)
      return together [{ positional := unnamed.length }, others.getD {}],
    keywordArguments call]

/-- The ways to get arguments wrong. A loop behind a single argument is found, but is none of them. -/
def mistakenArguments : Parser Expr := do
  let beforeLoop ← optional (first [
    do
      discard (argumentList call)
      discard (op ",")
      discard (op "*")
      raise .starAfterKeywords,
    do
      discard (call .expression)
      loops call
      discard (op ",")
      discard (optional (first [
        discard (argumentList call),
        call .expression *> loops call]))
      raise .bareGenerator,
    do
      discard name
      discard (op "=")
      discard (call .expression)
      loops call
      raise .equalsSign,
    argumentList call <* loops call])
  match beforeLoop with
  | some found => if 1 < found.positional then raise .bareGenerator else mismatch
  | none =>
    first [
      do
        discard (argumentList call)
        discard (op ",")
        discard (call .expression)
        loops call
        raise .bareGenerator,
      do
        let found ← argumentList call
        discard (op ",")
        discard (argumentList call)
        raise (.positionalAfterKeyword found.unpacked)]

/-- Arguments up to the bracket that ends them. -/
def arguments : Parser Expr :=
  first [
    do
      discard (argumentList call)
      discard (optional (op ","))
      ahead (op ")")
      return .tuple [],
    explaining (mistakenArguments call)]

/-! ## Operators -/

/-- A right side of a comparison. Tells whether the comparison is with `in`. -/
def comparisonTail : Parser Bool := do
  let membership ← first [
    (fun _ => false) <$> first (["==", "!=", "<=", "<", ">=", ">"].map op),
    (fun _ => false) <$> (key "not" *> key "in"),
    (fun _ => true) <$> key "in",
    (fun _ => false) <$> (key "is" *> key "not"),
    (fun _ => false) <$> key "is"]
  discard (call .bitOr)
  return membership

/-- A comparison. -/
def comparison : Parser Expr :=
  first [
    do
      let left ← call .bitOr
      let tails ← several (comparisonTail call)
      return .comparison left (tails.headD false),
    call .bitOr]

/-- An operation that begins with an operation of its own rank. -/
def operation (rule next : Rule) (operators : List String) : Parser Expr :=
  first (operators.map (fun text => computed .operation do
      discard (call rule)
      discard (op text)
      discard (call next))
    ++ [call next])

/-- Expressions of a rank with a keyword between them. -/
def joined (text : String) (next : Rule) : Parser Expr :=
  first [
    computed .operation do
      discard (call next)
      discard (several (key text *> call next)),
    call next]

/-- A sum or a difference. -/
def sum : Parser Expr :=
  first [
    do
      let left ← call .sum
      discard (op "+")
      return .sum left (← call .term),
    do
      let left ← call .sum
      discard (op "-")
      return .sum left (← call .term),
    call .term]

/-- An operand with a sign. -/
def factor : Parser Expr :=
  first [
    op "+" *> .signed <$> call .factor,
    op "-" *> .signed <$> call .factor,
    computed .operation (op "~" *> discard (call .factor)),
    computed .operation (call .awaited *> op "**" *> discard (call .factor)),
    call .awaited]

/-- A call, or a part of a value. `goesOn` has to hold behind it. -/
def primary (self : Rule) (goesOn : Parser Unit) : Parser Expr :=
  first [
    do
      discard (call self)
      discard (op ".")
      discard name
      goesOn
      return .computation .attribute,
    do
      let function ← call self
      discard (generator call)
      goesOn
      return .call function false,
    do
      let function ← call self
      discard (op "(")
      let found ← optional (call .arguments)
      discard (op ")")
      goesOn
      return .call function found.isNone,
    do
      let e ← atom call
      goesOn
      return e]

/-- A function without a name. -/
def lambda : Parser Expr := do
  discard (key "lambda")
  discard (optional (Lambda.parameters (call .expression)))
  discard (op ":")
  discard (call .expression)
  return .computation .lambda

/-! ## Expressions -/

/-- A choice between two expressions. -/
def conditional : Parser Expr :=
  computed .conditional do
    discard (call .disjunction)
    discard (key "if")
    discard (call .disjunction)
    discard (key "else")
    discard (call .expression)

/-- An expression, as it is found while no error is explained. -/
def plainExpression : Parser Expr :=
  first [conditional call, call .disjunction, lambda call]

/-- A word that is a name only here. -/
def softKeyword : Parser Token :=
  token fun t => t.kind = .name && softKeywords.any fun word => t.text.isPrefixOf word.toList

/-- The ways to get an expression wrong: two of them in a row in brackets, or a choice without the other
expression. -/
def mistakenExpression : Parser Expr := do
  let pair ← optional do
    absent (first [discard (name *> ofKind .string), discard softKeyword])
    let left ← call .disjunction
    discard (plainly (plainExpression call))
    return left
  match pair with
  | some left =>
    let last := (← read).list.tokens[(← place) - 1]?
    if left.isOldStatement || (last.map (·.depth)).getD 0 = 0 then mismatch
    else raise .missingComma
  | none =>
    discard (call .disjunction)
    discard (key "if")
    discard (call .disjunction)
    absent (first [discard (key "else"), discard (op ":")])
    raise .missingElse

/-- A name that once began a statement of its own, with what would be its arguments. -/
def oldStatement : Parser Expr := do
  let token ← ofKind .name
  absent (op "(")
  discard (starExpressions call)
  if (Expr.name token.text).isOldStatement then raise (.oldStatement token.text) else mismatch

/-- The ways to get an assignment wrong. -/
def misnamed : Parser Expr :=
  first [
    do
      let e ← call .expression
      discard (op ":=")
      discard (call .expression)
      raise (.notNamed e.words),
    do
      discard name
      discard (op "=")
      discard (call .bitOr)
      absent (first [op "=", op ":="])
      raise .equalsSign,
    do
      absent (first [tuple call, generator call, constantKey])
      let e ← call .bitOr
      discard (op "=")
      discard (call .bitOr)
      absent (first [op "=", op ":="])
      raise (.notAssignableHere e.words)]

/-- A target, with or without a star. -/
def target : Parser Expr :=
  first [
    do
      discard (op "*")
      absent (op "*")
      return .starred (← call .target),
    call .plainTarget]

/-- A target without a star. -/
def plainTarget : Parser Expr :=
  first [
    do
      discard (call .targetBase)
      discard (op ".")
      discard name
      absent goesOn
      return .computation .attribute,
    targetAtom call]

/-- What a rule finds. -/
def body : Rule → Parser Expr
  | .expression =>
    first [explaining (mistakenExpression call), explaining (oldStatement call), plainExpression call]
  | .starExpression => first [starredItem call, call .expression]
  | .disjunction => joined call "or" .conjunction
  | .conjunction => joined call "and" .inversion
  | .inversion =>
    first [computed .operation (key "not" *> discard (call .inversion)), comparison call]
  | .bitOr => operation call .bitOr .bitXor ["|"]
  | .bitXor => operation call .bitXor .bitAnd ["^"]
  | .bitAnd => operation call .bitAnd .shift ["&"]
  | .shift => operation call .shift .sum ["<<", ">>"]
  | .sum => sum call
  | .term => operation call .term .factor ["*", "/", "//", "%", "@"]
  | .factor => factor call
  | .awaited =>
    first [computed .awaiting (key "await" *> discard (call .primary)), call .primary]
  | .primary => primary call .primary (pure ())
  | .strings => strings
  | .arguments => arguments call
  | .target => target call
  | .plainTarget => plainTarget call
  | .targetBase => primary call .targetBase (ahead goesOn)
  | .misnamed => misnamed call

/-- Whether a rule begins with itself. -/
def beginsWithItself : Rule → Bool
  | .bitOr | .bitXor | .bitAnd | .shift | .sum | .term | .primary | .targetBase => true
  | _ => false

/-- What a rule finds, with so many rules one inside of another. -/
def rule : Nat → Rule → Parser Expr
  | 0, _ => mismatch
  | fuel + 1, r =>
    if beginsWithItself r then growing r (body (rule fuel) r) else once r (body (rule fuel) r)

end ScriptReplay.Literal.Grammar
