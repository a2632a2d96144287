/-!
# Blanks and lines

Blanks are the characters of Unicode's property `White_Space`.

* `Text.isBlank` is the property.
* `Text.lines` cuts a text at its line feeds, `Text.trim` drops the blanks around a line.
* `Text.blurb` is the first line that holds more than blanks.
-/

namespace TargetDescription

namespace Text

/-- The ranges of `White_Space`, ends included. -/
def blankRanges : List (Nat × Nat) :=
  [(0x09, 0x0D), (0x20, 0x20), (0x85, 0x85), (0xA0, 0xA0), (0x1680, 0x1680), (0x2000, 0x200A),
    (0x2028, 0x2029), (0x202F, 0x202F), (0x205F, 0x205F), (0x3000, 0x3000)]

/-- Is the character in `White_Space`? -/
def isBlank (c : Char) : Bool :=
  blankRanges.any fun range => range.1 ≤ c.toNat && c.toNat ≤ range.2

/-- The lines of a text; line feeds belong to none of them. -/
def lines : List Char → List (List Char)
  | [] => [[]]
  | c :: rest =>
    if c = '\n' then [] :: lines rest
    else match lines rest with
      | [] => [[c]]
      | line :: more => (c :: line) :: more

/-- The line without the blanks at its ends. -/
def trim (line : List Char) : List Char :=
  ((line.dropWhile isBlank).reverse.dropWhile isBlank).reverse

/-- The first line that holds more than blanks, trimmed; empty if there is none. -/
def blurb (text : String) : String :=
  match ((lines text.toList).map trim).find? (fun line => !line.isEmpty) with
  | some line => String.ofList line
  | none => ""

end Text

end TargetDescription
