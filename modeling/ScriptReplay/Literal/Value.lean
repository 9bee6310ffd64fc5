import ScriptReplay.Literal.Expr

/-!
# Values of literals

Which expressions are literals: constants, numbers with a sign, sums of a number and an imaginary one, and
tuples, sets and dictionaries of literals. Items of a set and keys must not be sets or dictionaries, nor
tuples that hold one.
-/

namespace ScriptReplay.Literal

/-- Why a text has no value as a literal. -/
inductive ValueError
  | nullCharacter
  | computed
  | unpacked
  | unhashable (kind : String)
  | tooLarge
  deriving Repr, DecidableEq

/-- The words for it. -/
def ValueError.message : ValueError → String
  | .nullCharacter => "source code string cannot contain null bytes"
  | .computed => "malformed node or string"
  | .unpacked => "malformed node or string: None"
  | .unhashable kind => "unhashable type: '" ++ kind ++ "'"
  | .tooLarge => "int too large to convert to float"

/-- The least whole number that no floating-point number is near to. -/
def realBound : Nat := Nat.pow 2 1024 - Nat.pow 2 970

namespace Expr

/-- The number that an expression is, perhaps with a sign. -/
def signedNumber? : Expr → Option Constant
  | .constant value | .signed (.constant value) =>
    match value with
    | .whole _ | .real | .imaginary => some value
    | _ => none
  | _ => none

mutual

/-- The value of an expression, of which it is only told why it can be no key, if it cannot. -/
def value : Expr → Except ValueError (Option ValueError)
  | .constant _ => .ok none
  | .tuple items => values false items
  | .set items => do
    discard (values true items)
    return some (.unhashable "set")
  | .dict entries => do
    entryValues entries
    return some (.unhashable "dict")
  | .call (.name text) true =>
    if text = "set".toList then .ok (some (.unhashable "set")) else .error .computed
  | .sum left (.constant .imaginary) =>
    match left.signedNumber? with
    | some (.whole n) => if realBound ≤ n then .error .tooLarge else .ok none
    | some .real => .ok none
    | _ => .error .computed
  | .signed operand => if (signedNumber? operand.signed).isSome then .ok none else .error .computed
  | _ => .error .computed

/-- The values of items in their order. Each may have to be a key; what is told otherwise is the first reason
why one can be none. -/
def values (keys : Bool) : List Expr → Except ValueError (Option ValueError)
  | [] => .ok none
  | item :: items => do
    let found ← item.value
    if keys then
      if let some e := found then throw e
    let others ← values keys items
    return found <|> others

/-- The values of entries in their order. -/
def entryValues : List (Option Expr × Expr) → Except ValueError Unit
  | [] => .ok ()
  | (none, _) :: _ => .error .unpacked
  | (some key, item) :: entries => do
    let found ← key.value
    discard item.value
    if let some e := found then throw e
    entryValues entries

end

end Expr

end ScriptReplay.Literal
