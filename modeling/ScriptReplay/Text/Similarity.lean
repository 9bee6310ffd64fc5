/-!
# Similar words

How alike two words are, and the candidates closest to a misspelt one. The likeness of two words is
twice the number of characters in their common blocks over the sum of their lengths: the longest
common block (the earliest in the first word, then in the second) splits both words, and the parts
before and after it are compared in the same way. Likeness is compared as an exact fraction.
-/

namespace ScriptReplay.Text

/-- The length of the longest common beginning. -/
def commonLength : List Char → List Char → Nat
  | a :: as, b :: bs => if a == b then commonLength as bs + 1 else 0
  | _, _ => 0

/-- A common block of two words: where it begins in each, and its length. -/
structure Block where
  inFirst : Nat
  inSecond : Nat
  size : Nat

/-- The longer of two blocks, the first of them if they are of one length. -/
def Block.best (old new : Block) : Block :=
  if old.size < new.size then new else old

/-- The suffixes of a word with their positions. -/
def suffixesFrom : Nat → List Char → List (Nat × List Char)
  | i, [] => [(i, [])]
  | i, c :: rest => (i, c :: rest) :: suffixesFrom (i + 1) rest

/-- The longest common block, the earliest in the first word and then in the second. -/
def longestBlock (a b : List Char) : Block :=
  (suffixesFrom 0 a).foldl
    (fun best (i, as) =>
      (suffixesFrom 0 b).foldl (fun best (j, bs) => best.best ⟨i, j, commonLength as bs⟩) best)
    ⟨0, 0, 0⟩

/-- The number of characters in common blocks. Every block takes a character of the first word, so
its length bounds the depth. -/
def commonWithin : Nat → List Char → List Char → Nat
  | 0, _, _ => 0
  | depth + 1, a, b =>
    let block := longestBlock a b
    if block.size == 0 then 0
    else
      block.size + commonWithin depth (a.take block.inFirst) (b.take block.inSecond)
        + commonWithin depth (a.drop (block.inFirst + block.size))
            (b.drop (block.inSecond + block.size))

/-- How alike a candidate is to the word: `common / total`. -/
structure Likeness where
  common : Nat
  total : Nat

/-- The likeness of a candidate to the word. -/
def likeness (candidate word : List Char) : Likeness :=
  ⟨2 * commonWithin candidate.length candidate word, candidate.length + word.length⟩

/-- A likeness of three fifths or more. -/
def Likeness.close (l : Likeness) : Bool :=
  l.total == 0 || 3 * l.total ≤ 5 * l.common

/-- The order of suggestions: the more alike first, of equals the greater text first. -/
def suggestBefore (x y : Likeness × String) : Bool :=
  let left := x.1.common * y.1.total
  let right := y.1.common * x.1.total
  if left == right then y.2 ≤ x.2 else right < left

/-- At most three candidates close to the word, the closest first. -/
def suggestions (word : String) (candidates : List String) : List String :=
  let scored := candidates.map fun c => (likeness c.toList word.toList, c)
  (((scored.filter (·.1.close)).mergeSort suggestBefore).take 3).map (·.2)

end ScriptReplay.Text
