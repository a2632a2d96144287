/-!
# Padded columns and numerals

* `Text.padRight` fills a column with blanks after the text, `Text.padLeft` with a given
  character before it; both count characters and never cut.
* `Text.hexByte` and `Text.binaryPair` write a number to base 16 or 2 with at least two digits.
-/

namespace TargetDescription

namespace Text

/-- The text followed by as many blanks as a column of `width` characters needs. -/
def padRight (width : Nat) (text : String) : String :=
  text ++ String.ofList (List.replicate (width - text.length) ' ')

/-- The text after as many `fill` characters as a column of `width` characters needs. -/
def padLeft (width : Nat) (fill : Char) (text : String) : String :=
  String.ofList (List.replicate (width - text.length) fill) ++ text

/-- Base 16 in small digits, at least two of them. -/
def hexByte (n : Nat) : String :=
  padLeft 2 '0' (String.ofList (Nat.toDigits 16 n))

/-- Base 2, at least two digits. -/
def binaryPair (n : Nat) : String :=
  padLeft 2 '0' (String.ofList (Nat.toDigits 2 n))

end Text

end TargetDescription
