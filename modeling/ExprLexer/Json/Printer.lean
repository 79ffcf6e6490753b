import ExprLexer.Json.Basic
import ExprLexer.Json.StringText

/-!
Writing JSON text, on one line or with each element and member on a line of its own. The text is
printable ASCII, and reading it gives the value back.
-/

namespace ExprLexer

def NumberLayout.json : NumberLayout where
  notNumber := "NaN"
  infinity := "Infinity"
  leastPositional := -4
  leastScientific := 16
  exponentMark := 'e'
  exponentWidth := 2

namespace Json

open Text

/-- How parts are set apart: on one line, or on lines of their own indented by so many spaces
for each level. -/
inductive Spacing where
  | oneLine
  | lines (indent : Nat)
  deriving DecidableEq, Repr

namespace Spacing

/-- The spacing that an optional indent asks for. An indent of zero or less breaks lines and
does not indent them. -/
def ofIndent : Option Int → Spacing
  | none => oneLine
  | some indent => lines indent.toNat

def lineBreak (spacing : Spacing) (level : Nat) : List Char :=
  match spacing with
  | oneLine => []
  | lines indent => '\n' :: List.replicate (indent * level) ' '

def separator (spacing : Spacing) (level : Nat) : List Char :=
  match spacing with
  | oneLine => [',', ' ']
  | lines indent => ',' :: '\n' :: List.replicate (indent * level) ' '

end Spacing

def writeInt (value : Int) : List Char :=
  if value < 0 then '-' :: Nat.toDigits 10 value.natAbs else Nat.toDigits 10 value.natAbs

mutual

def write (spacing : Spacing) (level : Nat) : Json → List Char
  | null => "null".toList
  | bool true => "true".toList
  | bool false => "false".toList
  | int value => writeInt value
  | float value => NumberLayout.json.text value
  | str value => writeString value
  | arr [] => ['[', ']']
  | arr (element :: elements) =>
      '[' :: (spacing.lineBreak (level + 1) ++ write spacing (level + 1) element ++
        writeElements spacing (level + 1) elements ++ spacing.lineBreak level ++ [']'])
  | obj [] => ['\x7b', '\x7d']
  | obj (member :: members) =>
      '\x7b' :: (spacing.lineBreak (level + 1) ++ writeMember spacing (level + 1) member ++
        writeMembers spacing (level + 1) members ++ spacing.lineBreak level ++ ['\x7d'])

def writeElements (spacing : Spacing) (level : Nat) : List Json → List Char
  | [] => []
  | element :: elements =>
      spacing.separator level ++ write spacing level element ++
        writeElements spacing level elements

def writeMember (spacing : Spacing) (level : Nat) : CodeText × Json → List Char
  | (key, value) => writeString key ++ ':' :: ' ' :: write spacing level value

def writeMembers (spacing : Spacing) (level : Nat) : List (CodeText × Json) → List Char
  | [] => []
  | member :: members =>
      spacing.separator level ++ writeMember spacing level member ++
        writeMembers spacing level members

end

def toText (spacing : Spacing) (value : Json) : String := String.ofList (write spacing 0 value)

end Json

end ExprLexer
