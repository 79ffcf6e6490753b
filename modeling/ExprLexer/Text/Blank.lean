import ExprLexer.Text.CodeRanges

/-!
Blanks: the characters that separate tokens. These are the space separators (general category
Zs) and the characters of bidirectional class WS, B or S in version 14.0 of the Unicode
character database, which adds tabs, line ends and the four information separators.
-/

namespace ExprLexer.Text

def blankRanges : CodeRanges :=
  [
    (0x0009, 0x000d), (0x001c, 0x0020), (0x0085, 0x0085), (0x00a0, 0x00a0), (0x1680, 0x1680),
    (0x2000, 0x200a), (0x2028, 0x2029), (0x202f, 0x202f), (0x205f, 0x205f), (0x3000, 0x3000) ]

def isBlank (character : Char) : Bool := blankRanges.contains character.toNat

end ExprLexer.Text
