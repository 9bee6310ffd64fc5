/-!
# Expressions

What the tokens of a literal spell, as far as it decides whether they are a literal. An expression that
can be no part of one is only known by its kind.
-/

namespace ScriptReplay.Literal

/-- A value that is written by itself. Of numbers only the size of the whole ones matters. -/
inductive Constant
  | whole (n : Nat)
  | real
  | imaginary
  | text
  | bytes
  | truth (value : Bool)
  | absent
  | dots
  deriving Repr, DecidableEq

/-- An expression that is no literal. -/
inductive Computation
  | operation
  | attribute
  | lambda
  | conditional
  | generator
  | setComprehension
  | dictComprehension
  | named
  | delegation
  | awaiting
  | formattedText
  deriving Repr, DecidableEq

/-- An expression. The key of an entry is absent if the entry stands for those of another value. -/
inductive Expr
  | name (text : List Char)
  | constant (value : Constant)
  | tuple (items : List Expr)
  | set (items : List Expr)
  | dict (entries : List (Option Expr × Expr))
  | starred (item : Expr)
  | signed (operand : Expr)
  | sum (left right : Expr)
  | comparison (left : Expr) (membership : Bool)
  | call (function : Expr) (bare : Bool)
  | computation (kind : Computation)
  deriving Repr

/-- The word for a constant. -/
def Constant.word : Constant → String
  | .truth true => "True"
  | .truth false => "False"
  | .absent => "None"
  | .dots => "ellipsis"
  | _ => "literal"

/-- The words for a computation. -/
def Computation.words : Computation → String
  | .operation => "expression"
  | .attribute => "attribute"
  | .lambda => "lambda"
  | .conditional => "conditional expression"
  | .generator => "generator expression"
  | .setComprehension => "set comprehension"
  | .dictComprehension => "dict comprehension"
  | .named => "named expression"
  | .delegation => "yield expression"
  | .awaiting => "await expression"
  | .formattedText => "f-string expression"

namespace Expr

/-- The words for an expression. -/
def words : Expr → String
  | .name _ => "name"
  | .constant value => value.word
  | .tuple _ => "tuple"
  | .set _ => "set display"
  | .dict _ => "dict literal"
  | .starred _ => "starred"
  | .signed _ | .sum _ _ => "expression"
  | .comparison _ _ => "comparison"
  | .call _ _ => "function call"
  | .computation kind => kind.words

/-- Whether an expression is a name that once began a statement of its own. -/
def isOldStatement : Expr → Bool
  | .name text => text == "print".toList || text == "exec".toList
  | _ => false

mutual

/-- The part of an expression that nothing can be assigned to, if it stands where the variable of a loop is
expected. Of a comparison with `in` only the left side is the variable. -/
def unassignable? : Expr → Option Expr
  | .name _ | .computation .attribute => none
  | .tuple items => unassignableIn? items
  | .starred item => unassignable? item
  | .comparison left membership => if membership then unassignable? left else none
  | e => some e

/-- The first such part of some expressions. -/
def unassignableIn? : List Expr → Option Expr
  | [] => none
  | item :: items =>
    match unassignable? item with
    | some e => some e
    | none => unassignableIn? items

end

end Expr

end ScriptReplay.Literal
