/-!
# Code units and surrogate pairs

Text is stored as 16-bit code units.  A scalar value up to U+FFFF is one unit;
a larger one is a pair, a lead surrogate followed by a trail surrogate.  The
1024 trails that share a lead form one row of consecutive scalar values, so a
pair is a row number and a column number.

`decode` reads a pair back, and `decode_lead_trail` says that nothing is lost.
-/

namespace TextBoundary

/-- A 16-bit code unit. -/
abbrev CodeUnit := UInt16

namespace CodeUnit

/-- A lead surrogate opens a pair. -/
def IsLead (u : CodeUnit) : Prop :=
  0xD800 ≤ u.toNat ∧ u.toNat ≤ 0xDBFF

/-- A trail surrogate closes a pair. -/
def IsTrail (u : CodeUnit) : Prop :=
  0xDC00 ≤ u.toNat ∧ u.toNat ≤ 0xDFFF

/-- A surrogate is a lead or a trail. -/
def IsSurrogate (u : CodeUnit) : Prop :=
  0xD800 ≤ u.toNat ∧ u.toNat ≤ 0xDFFF

/-- Two adjacent units form a pair when a lead is followed by a trail. -/
def IsPair (u v : CodeUnit) : Prop :=
  IsLead u ∧ IsTrail v

instance (u : CodeUnit) : Decidable (IsLead u) :=
  inferInstanceAs (Decidable (_ ∧ _))

instance (u : CodeUnit) : Decidable (IsTrail u) :=
  inferInstanceAs (Decidable (_ ∧ _))

instance (u : CodeUnit) : Decidable (IsSurrogate u) :=
  inferInstanceAs (Decidable (_ ∧ _))

instance (u v : CodeUnit) : Decidable (IsPair u v) :=
  inferInstanceAs (Decidable (_ ∧ _))

theorem isSurrogate_iff (u : CodeUnit) :
    IsSurrogate u ↔ IsLead u ∨ IsTrail u := by
  simp only [IsSurrogate, IsLead, IsTrail]
  omega

theorem IsLead.not_isTrail {u : CodeUnit} (h : IsLead u) : ¬IsTrail u := by
  simp only [IsLead, IsTrail] at *
  omega

/-- The lead surrogate of a scalar value above U+FFFF: its row. -/
def lead (scalar : Nat) : CodeUnit :=
  UInt16.ofNat (0xD800 + (scalar - 0x10000) / 0x400)

/-- The trail surrogate of a scalar value above U+FFFF: its place in the row. -/
def trail (scalar : Nat) : CodeUnit :=
  UInt16.ofNat (0xDC00 + (scalar - 0x10000) % 0x400)

/-- The scalar value that a pair encodes. -/
def decode (u v : CodeUnit) : Nat :=
  0x10000 + (u - 0xD800).toNat * 0x400 + (v - 0xDC00).toNat

theorem IsLead.toNat_sub {u : CodeUnit} (h : IsLead u) :
    (u - 0xD800).toNat = u.toNat - 0xD800 :=
  UInt16.toNat_sub_of_le u 0xD800 (UInt16.le_iff_toNat_le.mpr h.1)

theorem IsTrail.toNat_sub {u : CodeUnit} (h : IsTrail u) :
    (u - 0xDC00).toNat = u.toNat - 0xDC00 :=
  UInt16.toNat_sub_of_le u 0xDC00 (UInt16.le_iff_toNat_le.mpr h.1)

theorem decode_eq {u v : CodeUnit} (h : IsPair u v) :
    decode u v = 0x10000 + (u.toNat - 0xD800) * 0x400 + (v.toNat - 0xDC00) := by
  rw [decode, h.1.toNat_sub, h.2.toNat_sub]

/-- A pair encodes a value above U+FFFF. -/
theorem lt_decode (u v : CodeUnit) : 0xFFFF < decode u v := by
  simp only [decode]
  omega

theorem decode_le {u v : CodeUnit} (h : IsPair u v) : decode u v ≤ 0x10FFFF := by
  rw [decode_eq h]
  have hlead := h.1.2
  have htrail := h.2.2
  omega

theorem toNat_lead {scalar : Nat} (hmax : scalar ≤ 0x10FFFF) :
    (lead scalar).toNat = 0xD800 + (scalar - 0x10000) / 0x400 := by
  rw [lead, UInt16.toNat_ofNat_of_lt']
  simp only [UInt16.size]
  omega

theorem toNat_trail (scalar : Nat) :
    (trail scalar).toNat = 0xDC00 + (scalar - 0x10000) % 0x400 := by
  rw [trail, UInt16.toNat_ofNat_of_lt']
  simp only [UInt16.size]
  omega

theorem isPair_lead_trail {scalar : Nat} (hmax : scalar ≤ 0x10FFFF) :
    IsPair (lead scalar) (trail scalar) := by
  simp only [IsPair, IsLead, IsTrail, toNat_lead hmax, toNat_trail]
  omega

/-- Encoding a supplementary value and decoding the pair gives it back. -/
theorem decode_lead_trail {scalar : Nat} (hmin : 0xFFFF < scalar)
    (hmax : scalar ≤ 0x10FFFF) : decode (lead scalar) (trail scalar) = scalar := by
  rw [decode_eq (isPair_lead_trail hmax), toNat_lead hmax, toNat_trail]
  omega

/-- Decoding a pair and encoding the value gives the lead back. -/
theorem lead_decode {u v : CodeUnit} (h : IsPair u v) : lead (decode u v) = u := by
  apply UInt16.toNat_inj.mp
  rw [toNat_lead (decode_le h), decode_eq h]
  have hlead := h.1
  have htrail := h.2
  simp only [IsLead, IsTrail] at hlead htrail
  omega

/-- Decoding a pair and encoding the value gives the trail back. -/
theorem trail_decode {u v : CodeUnit} (h : IsPair u v) : trail (decode u v) = v := by
  apply UInt16.toNat_inj.mp
  rw [toNat_trail, decode_eq h]
  have hlead := h.1
  have htrail := h.2
  simp only [IsLead, IsTrail] at hlead htrail
  omega

end CodeUnit
end TextBoundary
