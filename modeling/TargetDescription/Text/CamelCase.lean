/-!
# Camel case

The camel case of a name in snake case, for ASCII letters only: a small letter at the start or
after an underscore becomes a capital, and that underscore goes away. All else stays.

* `camelCase` is the conversion, `CamelCase.chars` the same on lists of characters.
-/

namespace TargetDescription

namespace CamelCase

/-- The characters after the start: an underscore and a small letter become the capital. -/
def tail : List Char → List Char
  | [] => []
  | '_' :: c :: rest =>
    if c.isLower then c.toUpper :: tail rest else '_' :: tail (c :: rest)
  | c :: rest => c :: tail rest

/-- The camel case of a list of characters. -/
def chars : List Char → List Char
  | [] => []
  | c :: rest => if c.isLower then c.toUpper :: tail rest else tail (c :: rest)

end CamelCase

/-- The camel case of a snake case name. -/
def camelCase (name : String) : String :=
  String.ofList (CamelCase.chars name.toList)

end TargetDescription
