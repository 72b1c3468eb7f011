import TextBoundary.Quoted
import TextBoundary.ScalarRange

/-!
# Errors and their texts

Compiling ranges can fail in three ways, and compiling a table in two: a
property that the table should not have or does not have, and a property with
malformed bounds.  This module holds the text of every error.
-/

namespace TextBoundary

/-- A number in hexadecimal, upper case, with at least four digits. -/
def hexadecimal (n : Nat) : String :=
  let digits := (Nat.toDigits 16 n).map Char.toUpper
  "0x" ++ String.ofList (List.replicate (4 - digits.length) '0' ++ digits)

/-- The bounds as an error shows them. -/
def Bounds.text (b : Bounds) : String :=
  "range " ++ hexadecimal b.min ++ "..=" ++ hexadecimal b.max

/-- The text of a range error. -/
def RangeError.message : RangeError → String
  | .inverted b => b.text ++ " is inverted"
  | .outOfRange b => b.text ++ " exceeds U+10FFFF"
  | .surrogate b => b.text ++ " intersects the surrogate block"

/-- Why a property table cannot be compiled. -/
inductive TableError where
  /-- The table and the properties asked for do not agree on a name. -/
  | unknownProperty (table property : String)
  /-- A property of the table has malformed bounds. -/
  | inProperty (table property : String) (cause : RangeError)
deriving DecidableEq

/-- The text of a table error. -/
def TableError.message : TableError → String
  | .unknownProperty table property =>
      "table " ++ table ++ " has no property named " ++ quoted property
  | .inProperty table property cause =>
      "property " ++ property ++ " of table " ++ table ++ ": " ++ cause.message

end TextBoundary
