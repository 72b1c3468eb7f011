import TextBoundary.CodeUnit

/-!
# Codepoints

A codepoint is what one step through a text reads: a scalar value, or a
surrogate that stands on its own.  Both are numbers up to U+10FFFF, and a
surrogate number always means a lone surrogate, because a pair reads as the
value it encodes.
-/

namespace TextBoundary

/-- A number up to U+10FFFF; in the surrogate block, a lone surrogate. -/
structure Codepoint where
  value : Nat
  value_le : value ≤ 0x10FFFF
deriving DecidableEq

namespace Codepoint

/-- The codepoint of a unit read on its own. -/
def ofUnit (u : CodeUnit) : Codepoint where
  value := u.toNat
  value_le := by
    have := u.toNat_lt
    omega

/-- The codepoint of a surrogate pair. -/
def ofPair (u v : CodeUnit) (h : CodeUnit.IsPair u v) : Codepoint where
  value := CodeUnit.decode u v
  value_le := CodeUnit.decode_le h

/-- The codepoint of a character. -/
def ofChar (c : Char) : Codepoint where
  value := c.toNat
  value_le := by
    have := c.valid
    simp only [UInt32.isValidChar, Nat.isValidChar] at this
    simp only [Char.toNat]
    omega

/-- A lone surrogate encodes no character. -/
def IsLoneSurrogate (c : Codepoint) : Prop :=
  0xD800 ≤ c.value ∧ c.value ≤ 0xDFFF

instance (c : Codepoint) : Decidable c.IsLoneSurrogate :=
  inferInstanceAs (Decidable (_ ∧ _))

/-- The code units a codepoint is written with. -/
def units (c : Codepoint) : List CodeUnit :=
  if c.value < 0x10000 then [UInt16.ofNat c.value]
  else [CodeUnit.lead c.value, CodeUnit.trail c.value]

/-- The number of code units, one or two. -/
def width (c : Codepoint) : Nat :=
  if c.value < 0x10000 then 1 else 2

/-- The character of a codepoint that is no lone surrogate. -/
def toChar? (c : Codepoint) : Option Char :=
  if c.IsLoneSurrogate then none else some (Char.ofNat c.value)

theorem width_pos (c : Codepoint) : 0 < c.width := by
  unfold width
  split <;> omega

@[simp] theorem length_units (c : Codepoint) : c.units.length = c.width := by
  unfold units width
  split <;> rfl

@[simp] theorem units_ofUnit (u : CodeUnit) : (ofUnit u).units = [u] := by
  have h : u.toNat < 0x10000 := u.toNat_lt
  simp [units, ofUnit, h]

@[simp] theorem units_ofPair {u v : CodeUnit} (h : CodeUnit.IsPair u v) :
    (ofPair u v h).units = [u, v] := by
  have hlt : ¬CodeUnit.decode u v < 0x10000 := by
    have := CodeUnit.lt_decode u v
    omega
  simp [units, ofPair, hlt, CodeUnit.lead_decode h, CodeUnit.trail_decode h]

@[simp] theorem width_ofUnit (u : CodeUnit) : (ofUnit u).width = 1 := by
  rw [← length_units, units_ofUnit, List.length_singleton]

@[simp] theorem width_ofPair {u v : CodeUnit} (h : CodeUnit.IsPair u v) :
    (ofPair u v h).width = 2 := by
  rw [← length_units, units_ofPair]
  rfl

end Codepoint
end TextBoundary
