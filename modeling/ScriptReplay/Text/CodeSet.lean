/-!
# Sets of characters

A set of code points given by its switch points in increasing order: membership changes at each of
them and holds nowhere before the first. Properties of Unicode are kept in this form.
-/

namespace ScriptReplay.Text

/-- A set of code points by its switch points, in increasing order. -/
structure CodeSet where
  switches : List Nat

namespace CodeSet

/-- Whether membership holds at `code`, if it is `inside` before the first of the switch points. -/
def holdsFrom (code : Nat) : Bool → List Nat → Bool
  | inside, [] => inside
  | inside, s :: rest => if code < s then inside else holdsFrom code (!inside) rest

/-- Whether the code point belongs to the set. -/
def contains (set : CodeSet) (code : Nat) : Bool :=
  holdsFrom code false set.switches

/-- The last switch point up to `code`, or `start` if there is none. -/
def startFrom (code : Nat) (start : Nat) : List Nat → Nat
  | [] => start
  | s :: rest => if code < s then start else startFrom code s rest

/-- Where the run of consecutive code points begins in which the code point lies. -/
def startOfRun (set : CodeSet) (code : Nat) : Nat :=
  startFrom code 0 set.switches

end CodeSet

end ScriptReplay.Text
