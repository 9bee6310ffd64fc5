import ScriptReplay.Literal.Parser

/-!
# Parameters of a function without a name

The parameters behind `lambda`: first those without a default, then those with one, perhaps a slash behind
them; then a star, with a name or alone, and more parameters; at last two stars with a name. While an error
is explained, the ways to get this wrong are looked for first. `expression` reads a default.
-/

namespace ScriptReplay.Literal.Lambda

open ScriptReplay.Literal.Parser

/-- What ends a parameter: a comma, or a colon, which stays. -/
def parameterEnd : Parser Unit :=
  first [discard (op ","), ahead (op ":")]

/-- The name of a parameter. -/
def parameter : Parser Unit := discard (ofKind .name)

/-- A default. -/
def defaultValue (expression : Parser Expr) : Parser Unit :=
  first [
    op "=" *> discard expression,
    explaining do
      discard (op "=")
      ahead (first [op ")", op ","])
      raise (.parameter .emptyDefault)]

/-- A parameter without a default. -/
def plain : Parser Unit := parameter *> parameterEnd

/-- A parameter with a default. -/
def withDefault (expression : Parser Expr) : Parser Unit :=
  parameter *> defaultValue expression *> parameterEnd

/-- A parameter that may have a default. -/
def either (expression : Parser Expr) : Parser Unit := do
  parameter
  discard (optional (defaultValue expression))
  parameterEnd

/-- A slash and what ends it. -/
def slash : Parser Unit := op "/" *> parameterEnd

/-- Parameters without defaults before a slash. -/
def plainSlash : Parser Unit := several plain *> slash

/-- Parameters before a slash, of which the last have defaults. -/
def defaultSlash (expression : Parser Expr) : Parser Unit := do
  discard (many plain)
  discard (several (withDefault expression))
  slash

/-- The ways to get the parameters wrong. -/
def mistaken (expression : Parser Expr) : Parser Unit :=
  first [
    do
      discard (many plain)
      first [defaultSlash expression, discard (several (withDefault expression))]
      plain
      raise (.parameter .missingDefault),
    do
      discard (many plain)
      discard (op "(")
      discard (listed parameter)
      discard (optional (op ","))
      discard (op ")")
      raise (.parameter .bracketed),
    do
      discard (op "/")
      discard (op ",")
      raise (.parameter .slashFirst),
    do
      first [plainSlash, defaultSlash expression]
      discard (many (either expression))
      discard (op "/")
      raise (.parameter .slashTwice),
    do
      discard (optional (first [plainSlash, defaultSlash expression]))
      discard (many (either expression))
      discard (op "*")
      first [discard (op ","), plain]
      discard (many (either expression))
      discard (op "/")
      raise (.parameter .slashAfterStar),
    do
      discard (several (either expression))
      discard (op "/")
      discard (op "*")
      raise (.parameter .slashBeforeStar)]

/-- The ways to get a star wrong. -/
def mistakenStar (expression : Parser Expr) : Parser Unit :=
  first [
    do
      discard (op "*")
      first [
        discard (op ":"),
        op "," *> first [discard (op ":"), discard (op "**")]]
      raise (.parameter .nothingAfterStar),
    do
      discard (op "*")
      parameter
      discard (op "=")
      raise (.parameter .starDefault),
    do
      discard (op "*")
      first [plain, discard (op ",")]
      discard (many (either expression))
      discard (op "*")
      first [plain, discard (op ",")]
      raise (.parameter .starTwice)]

/-- The ways to get two stars wrong. -/
def mistakenStars : Parser Unit :=
  first [
    do
      discard (op "**")
      parameter
      discard (op "=")
      raise (.parameter .starsDefault),
    do
      discard (op "**")
      parameter
      discard (op ",")
      parameter
      raise (.parameter .afterStars),
    do
      discard (op "**")
      parameter
      discard (op ",")
      discard (first [op "*", op "**", op "/"])
      raise (.parameter .afterStars)]

/-- Two stars and a name. -/
def stars : Parser Unit :=
  first [explaining mistakenStars, op "**" *> plain]

/-- A star and what can stand behind it. -/
def star (expression : Parser Expr) : Parser Unit :=
  first [
    explaining (mistakenStar expression),
    do
      discard (op "*")
      plain
      discard (many (either expression))
      discard (optional stars),
    do
      discard (op "*")
      discard (op ",")
      discard (several (either expression))
      discard (optional stars),
    stars]

/-- Parameters. -/
def parameters (expression : Parser Expr) : Parser Unit :=
  first [
    explaining (mistaken expression),
    do
      plainSlash
      discard (many plain)
      discard (many (withDefault expression))
      discard (optional (star expression)),
    do
      defaultSlash expression
      discard (many (withDefault expression))
      discard (optional (star expression)),
    do
      discard (several plain)
      discard (many (withDefault expression))
      discard (optional (star expression)),
    do
      discard (several (withDefault expression))
      discard (optional (star expression)),
    star expression]

end ScriptReplay.Literal.Lambda
