import TextBoundary.Classifier

/-!
# Grapheme properties

The values of Grapheme_Cluster_Break together with Extended_Pictographic, and
the values of Indic_Conjunct_Break, with the groups that the rules treat alike.
-/

namespace TextBoundary
namespace Grapheme

/-- A property of a codepoint that a grapheme rule may ask for. -/
inductive Property where
  | cr
  | lf
  | control
  | extend
  | zwj
  | regionalIndicator
  | prepend
  | spacingMark
  | l
  | v
  | t
  | lv
  | lvt
  | extendedPictographic
deriving DecidableEq

namespace Property

/-- The name that tables use. -/
def name : Property → String
  | cr => "CR"
  | lf => "LF"
  | control => "Control"
  | extend => "Extend"
  | zwj => "ZWJ"
  | regionalIndicator => "Regional_Indicator"
  | prepend => "Prepend"
  | spacingMark => "SpacingMark"
  | l => "L"
  | v => "V"
  | t => "T"
  | lv => "LV"
  | lvt => "LVT"
  | extendedPictographic => "Extended_Pictographic"

instance : NamedProperty Property where
  values := [cr, lf, control, extend, zwj, regionalIndicator, prepend, spacingMark,
    l, v, t, lv, lvt, extendedPictographic]
  name := name

/-- Controls and line ends always stand on their own. -/
def isControl : Property → Bool
  | cr | lf | control => true
  | _ => false

/-- Codepoints that always attach to what precedes them. -/
def attaches : Property → Bool
  | extend | zwj | spacingMark => true
  | _ => false

/-- The parts of a Hangul syllable that stay together: GB6, GB7, GB8. -/
def joinsSyllable : Property → Property → Bool
  | l, l | l, v | l, lv | l, lvt => true
  | lv, v | lv, t | v, v | v, t => true
  | lvt, t | t, t => true
  | _, _ => false

end Property

/-- The part of a codepoint in a conjunct. -/
inductive ConjunctProperty where
  | linker
  | consonant
  | extend
deriving DecidableEq

namespace ConjunctProperty

/-- The name that tables use. -/
def name : ConjunctProperty → String
  | linker => "Linker"
  | consonant => "Consonant"
  | extend => "Extend"

instance : NamedProperty ConjunctProperty where
  values := [linker, consonant, extend]
  name := name

/-- What may stand between two consonants of a conjunct. -/
def isInner : ConjunctProperty → Bool
  | linker | extend => true
  | consonant => false

end ConjunctProperty
end Grapheme
end TextBoundary
