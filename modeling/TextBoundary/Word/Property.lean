import TextBoundary.Classifier

/-!
# Word properties

The values of Word_Break together with the emoji properties that word rules
mention, and the groups of values that the rules treat alike.
-/

namespace TextBoundary
namespace Word

/-- A property of a codepoint that a word rule may ask for. -/
inductive Property where
  | cr
  | lf
  | newline
  | extend
  | zwj
  | regionalIndicator
  | format
  | katakana
  | hebrewLetter
  | aLetter
  | singleQuote
  | doubleQuote
  | midNumLet
  | midLetter
  | midNum
  | numeric
  | extendNumLet
  | wSegSpace
  | extendedPictographic
  | emojiModifierBase
  | eBaseGaz
  | emojiModifier
deriving DecidableEq

namespace Property

/-- The name that tables use. -/
def name : Property → String
  | cr => "CR"
  | lf => "LF"
  | newline => "Newline"
  | extend => "Extend"
  | zwj => "ZWJ"
  | regionalIndicator => "Regional_Indicator"
  | format => "Format"
  | katakana => "Katakana"
  | hebrewLetter => "Hebrew_Letter"
  | aLetter => "ALetter"
  | singleQuote => "Single_Quote"
  | doubleQuote => "Double_Quote"
  | midNumLet => "MidNumLet"
  | midLetter => "MidLetter"
  | midNum => "MidNum"
  | numeric => "Numeric"
  | extendNumLet => "ExtendNumLet"
  | wSegSpace => "WSegSpace"
  | extendedPictographic => "Extended_Pictographic"
  | emojiModifierBase => "Emoji_Modifier_Base"
  | eBaseGaz => "E_Base_GAZ"
  | emojiModifier => "Emoji_Modifier"

instance : NamedProperty Property where
  values := [cr, lf, newline, extend, zwj, regionalIndicator, format, katakana,
    hebrewLetter, aLetter, singleQuote, doubleQuote, midNumLet, midLetter, midNum,
    numeric, extendNumLet, wSegSpace, extendedPictographic, emojiModifierBase,
    eBaseGaz, emojiModifier]
  name := name

/-- Line ends always stand on their own. -/
def isLineEnd : Property → Bool
  | cr | lf | newline => true
  | _ => false

/-- Transparent codepoints attach to what precedes them. -/
def isTransparent : Property → Bool
  | extend | format | zwj => true
  | _ => false

/-- The letters that make up words: ALetter and Hebrew_Letter. -/
def isLetter : Property → Bool
  | aLetter | hebrewLetter => true
  | _ => false

/-- Marks that may stand between two letters. -/
def isMidLetter : Property → Bool
  | midLetter | midNumLet | singleQuote => true
  | _ => false

/-- Marks that may stand between two digits. -/
def isMidNumber : Property → Bool
  | midNum | midNumLet | singleQuote => true
  | _ => false

/-- The letters and digits that a caret looks for. -/
def isAlphanumeric : Property → Bool
  | aLetter | hebrewLetter | numeric | katakana => true
  | _ => false

/-- Emoji that a modifier may follow. -/
def isModifierBase : Property → Bool
  | emojiModifierBase | eBaseGaz => true
  | _ => false

end Property
end Word
end TextBoundary
