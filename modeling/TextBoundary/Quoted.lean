import TextBoundary.Unicode.Unprinted

/-!
# Quoted text

Text inside quotation marks is written so that it shows on one line and can be
told from its surroundings.  The quotation mark and the backslash get a
backslash in front, four control characters have a letter of their own, and a
character that does not stand for itself is written by its number.
-/

namespace TextBoundary
namespace Quoted

/-- A character that is written as itself, marks and backslashes apart. -/
def Plain (c : Char) : Prop :=
  ∀ b ∈ Unicode.unprinted, c.toNat ∉ b

instance (c : Char) : Decidable (Plain c) :=
  inferInstanceAs (Decidable (∀ b ∈ _, _))

/-- The letter that stands for a control character after a backslash. -/
def letter? : Char → Option Char
  | '\x00' => some '0'
  | '\t' => some 't'
  | '\n' => some 'n'
  | '\r' => some 'r'
  | _ => none

/-- A character as it is written inside quotation marks. -/
def escape (c : Char) : List Char :=
  if c = '"' ∨ c = '\\' then ['\\', c]
  else match letter? c with
    | some l => ['\\', l]
    | none =>
        if Plain c then [c]
        else ['\\', 'u', '\x7b'] ++ Nat.toDigits 16 c.toNat ++ ['\x7d']

/-- A text inside quotation marks. -/
def chars (s : List Char) : List Char :=
  '"' :: s.flatMap escape ++ ['"']

end Quoted

/-- A string inside quotation marks, with its characters escaped. -/
def quoted (s : String) : String :=
  String.ofList (Quoted.chars s.toList)

end TextBoundary
