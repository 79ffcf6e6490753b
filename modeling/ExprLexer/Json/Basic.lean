import ExprLexer.Decimal.Layout
import ExprLexer.Text.Quoted

/-!
JSON values. Numbers without fraction and exponent are integers of any size and kept apart from
the others. Strings and keys are code points, since an escape can stand for a surrogate alone. The
members of an object stand in the order in which their keys first appear, and no key appears twice.
-/

namespace ExprLexer

open Text

inductive Json where
  | null
  | bool (value : Bool)
  | int (value : Int)
  | float (value : Binary64)
  | str (value : CodeText)
  | arr (elements : List Json)
  | obj (members : List (CodeText × Json))

instance : Coe (List (String × Json)) (List (CodeText × Json)) :=
  ⟨List.map fun member => (member.1, member.2)⟩

namespace Json

/-- A repeated key keeps its first place and takes the last value. -/
def insertMember (key : CodeText) (value : Json) :
    List (CodeText × Json) → List (CodeText × Json)
  | [] => [(key, value)]
  | (other, old) :: members =>
      if other = key then (key, value) :: members
      else (other, old) :: insertMember key value members

def ofMembers (members : List (CodeText × Json)) : Json :=
  .obj (members.foldl (fun object member => insertMember member.1 member.2 object) [])

def kindName : Json → String
  | null => "NoneType"
  | bool _ => "bool"
  | int _ => "int"
  | float _ => "float"
  | str _ => "str"
  | arr _ => "list"
  | obj _ => "dict"

mutual

def display : Json → String
  | null => "None"
  | bool true => "True"
  | bool false => "False"
  | int value => toString value
  | float value => value.toDiagnostic
  | str value => Text.quote value
  | arr elements => "[" ++ String.intercalate ", " (displayElements elements) ++ "]"
  | obj members => "\x7b" ++ String.intercalate ", " (displayMembers members) ++ "\x7d"

def displayElements : List Json → List String
  | [] => []
  | element :: elements => display element :: displayElements elements

def displayMember : CodeText × Json → String
  | (key, value) => Text.quote key ++ ": " ++ display value

def displayMembers : List (CodeText × Json) → List String
  | [] => []
  | member :: members => displayMember member :: displayMembers members

end

end Json

end ExprLexer
