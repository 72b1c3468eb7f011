import TextBoundary.Word.Property

/-!
# The surroundings of a position between two words

Most word rules read up to four codepoints around a position: the one on either
side and the next one further out, transparent codepoints left aside.  Each of
the rules below keeps the two sides together; a position that none of them
holds together may be a boundary.
-/

namespace TextBoundary
namespace Word

/-- The properties that the rules read around a position. -/
structure Context where
  beforeLeft : Option Property
  left : Option Property
  right : Option Property
  afterRight : Option Property

namespace Context

/-- Letters stay together, also across one mark between them: WB5, WB6, WB7. -/
def joinsLetters (c : Context) : Bool :=
  c.left.any Property.isLetter && c.right.any Property.isLetter
    || c.left.any Property.isLetter && c.right.any Property.isMidLetter
        && c.afterRight.any Property.isLetter
    || c.beforeLeft.any Property.isLetter && c.left.any Property.isMidLetter
        && c.right.any Property.isLetter

/-- Hebrew letters keep a quotation mark: WB7a, WB7b, WB7c. -/
def joinsHebrewQuote (c : Context) : Bool :=
  c.left = some .hebrewLetter && c.right = some .singleQuote
    || c.left = some .hebrewLetter && c.right = some .doubleQuote
        && c.afterRight = some .hebrewLetter
    || c.beforeLeft = some .hebrewLetter && c.left = some .doubleQuote
        && c.right = some .hebrewLetter

/-- Digits stay together and with letters, also across one mark between two
digits: WB8 to WB12. -/
def joinsNumbers (c : Context) : Bool :=
  c.left = some .numeric && c.right = some .numeric
    || c.left.any Property.isLetter && c.right = some .numeric
    || c.left = some .numeric && c.right.any Property.isLetter
    || c.beforeLeft = some .numeric && c.left.any Property.isMidNumber
        && c.right = some .numeric
    || c.left = some .numeric && c.right.any Property.isMidNumber
        && c.afterRight = some .numeric

/-- Katakana stays together, and connectors join words: WB13, WB13a, WB13b. -/
def joinsConnectors (c : Context) : Bool :=
  c.left = some .katakana && c.right = some .katakana
    || (c.left.any Property.isAlphanumeric || c.left = some .extendNumLet)
        && c.right = some .extendNumLet
    || c.left = some .extendNumLet && c.right.any Property.isAlphanumeric

/-- A modifier stays with the emoji that it modifies. -/
def joinsModifier (c : Context) : Bool :=
  c.left.any Property.isModifierBase && c.right = some .emojiModifier

/-- Some rule keeps the two sides of the position together. -/
def joins (c : Context) : Bool :=
  c.joinsLetters || c.joinsHebrewQuote || c.joinsNumbers || c.joinsConnectors
    || c.joinsModifier

end Context
end Word
end TextBoundary
