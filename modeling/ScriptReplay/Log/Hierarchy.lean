import ScriptReplay.Log.Notice

/-!
# Which logger stands below which

A logger has the logger as its parent that has the longest of the names which stand before a dot of
its own name, and the root if no logger has one. The search for that name sees every other one only
of several dots side by side (`namesBefore`), so a name that begins like another one and goes on
with a dot need not be the name of a logger below it.

A logger is there once it was asked for, and for good. One that is added becomes the parent of those
that would have found it.
-/

namespace ScriptReplay.Log

/-- The names that stand before the dots of a name, the longest first, where the name is read from
its end. Behind a dot the next character is passed over. -/
def namesBefore : List Char → List String
  | [] => []
  | '.' :: c :: rest => String.ofList (c :: rest).reverse :: namesBefore rest
  | _ :: rest => namesBefore rest

/-- The names among which the parent of a logger is searched, one after another. -/
def parentNames (logger : String) : List String :=
  namesBefore logger.toList.reverse

/-- The loggers that are there next to the base logger, each with its parent, where there is none if
it is the root; and the names that a search passed because no logger had them, each with the logger
whose parent was searched. -/
structure Hierarchy where
  parents : List (String × Option String) := []
  passed : List (String × String) := []
  deriving Repr, DecidableEq

namespace Hierarchy

/-- Whether a logger is there. The base logger always is. -/
def holds (hierarchy : Hierarchy) (logger : String) : Bool :=
  logger == baseName || (hierarchy.parents.lookup logger).isSome

/-- The parent of a logger, where there is none if it is the root: the one that it has, or the one
that it would have if it were added. -/
def parent? (hierarchy : Hierarchy) (logger : String) : Option String :=
  (hierarchy.parents.lookup logger).getD ((parentNames logger).find? hierarchy.holds)

/-- The parent of a logger once another one was added: that one if the search passed its name,
unless what the search found stands below it by its name. -/
def adopted (hierarchy : Hierarchy) (added logger : String) (parent : Option String) :
    Option String :=
  if hierarchy.passed.contains (added, logger) &&
      !parent.any fun name => added.toList.isPrefixOf name.toList
  then some added else parent

/-- Adds a logger if it is not there. -/
def add (hierarchy : Hierarchy) (logger : String) : Hierarchy :=
  if hierarchy.holds logger then hierarchy
  else
    let names := parentNames logger
    { parents := (logger, names.find? hierarchy.holds) ::
        hierarchy.parents.map fun (child, parent) =>
          (child, hierarchy.adopted logger child parent)
      passed := (names.takeWhile fun name => !hierarchy.holds name).map (·, logger) ++
        hierarchy.passed.filter (·.1 != logger) }

/-- The loggers that are there after some were added, one after another. -/
def of (loggers : List String) : Hierarchy :=
  loggers.foldl add {}

/-- Whether a logger is the base logger or so many steps up from it lead there. -/
def leadsToBase (hierarchy : Hierarchy) : Nat → String → Bool
  | 0, logger => logger == baseName
  | steps + 1, logger =>
    logger == baseName || (hierarchy.parent? logger).any (hierarchy.leadsToBase steps)

/-- Whether a logger is the base logger or stands below it. Each step up leads to a shorter name. -/
def isBelowBase (hierarchy : Hierarchy) (logger : String) : Bool :=
  hierarchy.leadsToBase logger.length logger

end Hierarchy

end ScriptReplay.Log
