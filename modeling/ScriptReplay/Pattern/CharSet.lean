import ScriptReplay.Pattern.Escape

/-!
# Sets of characters in a pattern

What stands between square brackets: characters, ranges and categories, all negated by a leading
caret. A closing bracket that comes first stands for itself, and so does a hyphen at either end.
-/

namespace ScriptReplay.Pattern.Reader

/-- One character or category of a set, whose token is already taken. -/
def setAtom (token : Token) : Reader SetAtom := do
  match token with
  | .char c => return .code c.toNat
  | .escape c => setEscape c ((← position) - 2)
  | .dangling => fail .danglingEscape

/-- The items of a set up to its closing bracket, in reverse behind those already read. The set
began at `start`. -/
def setItems (start : Nat) (done : List SetItem) : Nat → Reader (List SetItem)
  | 0 => failAt .unterminatedSet start
  | limit + 1 => do
    match ← next? with
    | none => failAt .unterminatedSet start
    | some token =>
      if token == .char ']' && !done.isEmpty then
        return done
      else
        let low ← setAtom token
        if !(← accept '-') then
          setItems start (low.item :: done) limit
        else
          match ← next? with
          | none => failAt .unterminatedSet start
          | some (.char ']') => return .single '-'.toNat :: low.item :: done
          | some last =>
            let high ← setAtom last
            let bad : Reader (List SetItem) := do
              failAt (.badRange (String.ofList token.text) (String.ofList last.text))
                ((← position) - (token.width + 1 + last.width))
            match low, high with
            | .code a, .code b =>
              if b < a then bad else setItems start (.range a b :: done) limit
            | _, _ => bad

/-- A set of characters, whose opening bracket is already taken. -/
def charSet (mode : Mode) : Reader Node := do
  let start := (← position) - 1
  let negated ← accept '^'
  let items ← setItems start [] ((← left) + 1)
  return .char mode negated items.reverse

end ScriptReplay.Pattern.Reader
