/-!
# JSON values

The values of JSON with whole numbers of any size. An object keeps its fields in the order in which
they were written; a field is found by its last occurrence.
-/

namespace ScriptReplay

/-- A JSON value. -/
inductive Json
  | null
  | bool (b : Bool)
  | num (n : Int)
  | str (s : String)
  | arr (items : List Json)
  | obj (fields : List (String × Json))
  deriving Repr, Inhabited

namespace Json

/-- A list of texts as a JSON array. -/
def ofStrings (texts : List String) : Json :=
  .arr (texts.map .str)

/-- Whether the value counts as something: neither null, false, zero nor empty. -/
def truthy : Json → Bool
  | .null => false
  | .bool b => b
  | .num n => n != 0
  | .str s => !s.isEmpty
  | .arr items => !items.isEmpty
  | .obj fields => !fields.isEmpty

end Json

/-- The fields of a JSON object. -/
abbrev Fields := List (String × Json)

namespace Fields

/-- The value of a field. -/
def get? (fields : Fields) (key : String) : Option Json :=
  (fields.reverse.find? (·.1 == key)).map (·.2)

/-- Sets a field: in its place if it is there, at the end if it is not. -/
def set (fields : Fields) (key : String) (value : Json) : Fields :=
  match fields with
  | [] => [(key, value)]
  | (k, v) :: rest => if k == key then (k, value) :: rest else (k, v) :: set rest key value

/-- Sets fields one after another. -/
def update (fields changes : Fields) : Fields :=
  changes.foldl (fun acc (key, value) => set acc key value) fields

end Fields

end ScriptReplay
