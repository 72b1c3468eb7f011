import TextBoundary.Matcher.Pattern

/-!
# Reading patterns

Patterns are written in a fragment of the regular expressions of ECMAScript, over code units:
alternatives with bars between, each a sequence of items, and an item is an escape of four
hexadecimal digits or a class in brackets.  In brackets stand escapes, alone or two of them
with a hyphen between, the lower unit first.  As in the full language, digits may be written in
either case, and classes and alternatives may be empty.

A relation reads the beginning of a text and leaves the rest.  None of them looks further
ahead than one character, so a text of the fragment can be read in one way only.
-/

namespace TextBoundary

/-- The value of a hexadecimal digit. -/
def hexValue? (c : Char) : Option Nat :=
  if '0' ≤ c ∧ c ≤ '9' then some (c.toNat - '0'.toNat)
  else if 'a' ≤ c ∧ c ≤ 'f' then some (c.toNat - 'a'.toNat + 10)
  else if 'A' ≤ c ∧ c ≤ 'F' then some (c.toNat - 'A'.toNat + 10)
  else none

namespace Pattern

/-- An escape of a code unit: four hexadecimal digits, the most significant first. -/
inductive Escape : List Char → CodeUnit → List Char → Prop
  | mk {a b c d : Char} {i j k l : Nat} {u : CodeUnit} {rest : List Char}
      (ha : hexValue? a = some i) (hb : hexValue? b = some j) (hc : hexValue? c = some k)
      (hd : hexValue? d = some l) (hu : u.toNat = ((i * 0x10 + j) * 0x10 + k) * 0x10 + l) :
      Escape ('\\' :: 'u' :: a :: b :: c :: d :: rest) u rest

/-- The members of a class and the bracket that ends it. -/
inductive Members : List Char → List UnitSpan → List Char → Prop
  | nil {rest : List Char} : Members (']' :: rest) [] rest
  | unit {text after rest : List Char} {u : CodeUnit} {l : List UnitSpan}
      (hunit : Escape text u after) (hmembers : Members after l rest) :
      Members text (⟨u, u⟩ :: l) rest
  | range {text hyphen after rest : List Char} {u v : CodeUnit} {l : List UnitSpan}
      (hmin : Escape text u ('-' :: hyphen)) (hmax : Escape hyphen v after) (hle : u ≤ v)
      (hmembers : Members after l rest) : Members text (⟨u, v⟩ :: l) rest

/-- An item: one unit, or a class in brackets. -/
inductive Item : List Char → UnitClass → List Char → Prop
  | unit {text rest : List Char} {u : CodeUnit} (h : Escape text u rest) :
      Item text (.unit u) rest
  | spans {text rest : List Char} {l : List UnitSpan} (h : Members text l rest) :
      Item ('[' :: text) (.spans l) rest

/-- A sequence of items. -/
inductive Alternative : List Char → List UnitClass → List Char → Prop
  | nil {rest : List Char} : Alternative rest [] rest
  | cons {text after rest : List Char} {c : UnitClass} {a : List UnitClass}
      (hitem : Item text c after) (hrest : Alternative after a rest) :
      Alternative text (c :: a) rest

/-- Reads a whole text: alternatives with bars between. -/
inductive Reads : List Char → Pattern → Prop
  | last {text : List Char} {a : List UnitClass} (h : Alternative text a []) : Reads text [a]
  | bar {text rest : List Char} {a : List UnitClass} {p : Pattern}
      (halternative : Alternative text a ('|' :: rest)) (hrest : Reads rest p) :
      Reads text (a :: p)

variable {text rest rest' : List Char} {u v : CodeUnit} {l l' : List UnitSpan}
  {c c' : UnitClass} {a a' : List UnitClass} {p q : Pattern}

/-! ## A text has one reading -/

theorem Escape.unique (h : Escape text u rest) (h' : Escape text v rest') :
    u = v ∧ rest = rest' := by
  cases h with
  | mk ha hb hc hd hu =>
      cases h' with
      | mk ha' hb' hc' hd' hv =>
          obtain rfl := Option.some.inj (ha.symm.trans ha')
          obtain rfl := Option.some.inj (hb.symm.trans hb')
          obtain rfl := Option.some.inj (hc.symm.trans hc')
          obtain rfl := Option.some.inj (hd.symm.trans hd')
          exact ⟨UInt16.toNat_inj.mp (hu.trans hv.symm), rfl⟩

theorem Members.not_hyphen : ¬Members ('-' :: text) l rest := by
  intro h
  cases h with
  | unit hunit _ => cases hunit
  | range hmin _ _ _ => cases hmin

theorem Members.unique (h : Members text l rest) (h' : Members text l' rest') :
    l = l' ∧ rest = rest' := by
  induction h generalizing l' rest' with
  | nil =>
      cases h' with
      | nil => exact ⟨rfl, rfl⟩
      | unit hunit _ => cases hunit
      | range hmin _ _ _ => cases hmin
  | unit hunit hmembers ih =>
      cases h' with
      | nil => cases hunit
      | unit hunit' hmembers' =>
          obtain ⟨rfl, rfl⟩ := hunit.unique hunit'
          obtain ⟨rfl, rfl⟩ := ih hmembers'
          exact ⟨rfl, rfl⟩
      | range hmin _ _ _ =>
          -- A hyphen would have to begin the next member.
          obtain ⟨-, rfl⟩ := hunit.unique hmin
          exact absurd hmembers Members.not_hyphen
  | range hmin hmax hle hmembers ih =>
      cases h' with
      | nil => cases hmin
      | unit hunit' hmembers' =>
          obtain ⟨-, rfl⟩ := hmin.unique hunit'
          exact absurd hmembers' Members.not_hyphen
      | range hmin' hmax' _ hmembers' =>
          obtain ⟨rfl, hhyphen⟩ := hmin.unique hmin'
          obtain rfl := List.tail_eq_of_cons_eq hhyphen
          obtain ⟨rfl, rfl⟩ := hmax.unique hmax'
          obtain ⟨rfl, rfl⟩ := ih hmembers'
          exact ⟨rfl, rfl⟩

theorem Item.unique (h : Item text c rest) (h' : Item text c' rest') : c = c' ∧ rest = rest' := by
  cases h with
  | unit h =>
      cases h' with
      | unit h' =>
          obtain ⟨rfl, rfl⟩ := h.unique h'
          exact ⟨rfl, rfl⟩
      | spans _ => cases h
  | spans h =>
      cases h' with
      | unit h' => cases h'
      | spans h' =>
          obtain ⟨rfl, rfl⟩ := h.unique h'
          exact ⟨rfl, rfl⟩

/-- An alternative ends at the end of the text or at a bar. -/
def Ends (rest : List Char) : Prop :=
  rest = [] ∨ ∃ tail, rest = '|' :: tail

theorem Item.not_ends (h : Item text c rest) : ¬Ends text := by
  rintro (rfl | ⟨tail, rfl⟩)
  · cases h with
    | unit h => cases h
  · cases h with
    | unit h => cases h

theorem Alternative.unique (h : Alternative text a rest) (h' : Alternative text a' rest')
    (hends : Ends rest) (hends' : Ends rest') : a = a' ∧ rest = rest' := by
  induction h generalizing a' with
  | nil =>
      cases h' with
      | nil => exact ⟨rfl, rfl⟩
      | cons hitem _ => exact absurd hends hitem.not_ends
  | cons hitem hrest ih =>
      cases h' with
      | nil => exact absurd hends' hitem.not_ends
      | cons hitem' hrest' =>
          obtain ⟨rfl, rfl⟩ := hitem.unique hitem'
          obtain ⟨rfl, rfl⟩ := ih hrest' hends
          exact ⟨rfl, rfl⟩

/-- A text of the fragment is read in one way. -/
theorem Reads.unique (h : Reads text p) (h' : Reads text q) : p = q := by
  induction h generalizing q with
  | last h =>
      cases h' with
      | last h' => rw [(h.unique h' (Or.inl rfl) (Or.inl rfl)).1]
      | bar h' _ =>
          have hrest := (h.unique h' (Or.inl rfl) (Or.inr ⟨_, rfl⟩)).2
          contradiction
  | bar h _ ih =>
      cases h' with
      | last h' =>
          have hrest := (h.unique h' (Or.inr ⟨_, rfl⟩) (Or.inl rfl)).2
          contradiction
      | bar h' hreads =>
          obtain ⟨rfl, hrest⟩ := h.unique h' (Or.inr ⟨_, rfl⟩) (Or.inr ⟨_, rfl⟩)
          obtain rfl := List.tail_eq_of_cons_eq hrest
          rw [ih hreads]

end Pattern
end TextBoundary
