import Mathlib.Data.Char
import Mathlib.Data.List.Lex
import Mathlib.Data.List.Sort

/-!
# JSON values

Values as the parsers of the components give them, and the text that `JSON.stringify` writes.
-/

namespace Json

/-- A JSON value; a number is kept as its rendering. -/
inductive Value
  | null
  | bool (value : Bool)
  | num (rendering : List Char)
  | str (text : List Char)
  | arr (items : List Value)
  | obj (fields : List (List Char × Value))

abbrev Field := List Char × Value

/-- The entry of an object under a key; of repeated keys the last one counts. -/
def get? (fields : List Field) (key : List Char) : Option Value := fields.reverse.lookup key

/-! ### The rendering of a value -/

/-- A character of a string literal: quotes, backslashes and control characters are escaped. -/
def escape (c : Char) : List Char :=
  let code := c.toNat
  if code = 34 then "\\\"".toList
  else if code = 92 then "\\\\".toList
  else if code = 8 then "\\b".toList
  else if code = 9 then "\\t".toList
  else if code = 10 then "\\n".toList
  else if code = 12 then "\\f".toList
  else if code = 13 then "\\r".toList
  else if code < 32 then "\\u00".toList ++ [Nat.digitChar (code / 16), Nat.digitChar (code % 16)]
  else [c]

def quote (text : List Char) : List Char := "\"".toList ++ text.flatMap escape ++ "\"".toList

namespace Value

mutual

/-- `JSON.stringify` without indentation. -/
def stringify : Value → List Char
  | .null => "null".toList
  | .bool true => "true".toList
  | .bool false => "false".toList
  | .num rendering => rendering
  | .str text => quote text
  | .arr items => "[".toList ++ ",".toList.intercalate (stringifyItems items) ++ "]".toList
  | .obj fields => "\x7b".toList ++ ",".toList.intercalate (stringifyFields fields) ++ "\x7d".toList

def stringifyItems : List Value → List (List Char)
  | [] => []
  | item :: items => item.stringify :: stringifyItems items

def stringifyFields : List Field → List (List Char)
  | [] => []
  | (key, value) :: fields => (quote key ++ ":".toList ++ value.stringify) :: stringifyFields fields

end

end Value

end Json
