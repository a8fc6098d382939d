/-!
Cutting a text at a separator and joining pieces. A text always has one piece more than it has
separators, so joining the pieces with the separator gives the text back.
-/

namespace FieldRules.Text

/-- The pieces between the occurrences of a separator. -/
def splitChars (separator : Char) : List Char → List (List Char)
  | [] => [[]]
  | c :: rest =>
    if c = separator then [] :: splitChars separator rest
    else
      match splitChars separator rest with
      | [] => [[c]]
      | piece :: pieces => (c :: piece) :: pieces

def joinChars (separator : List Char) : List (List Char) → List Char
  | [] => []
  | [piece] => piece
  | piece :: next :: pieces => piece ++ separator ++ joinChars separator (next :: pieces)

def split (separator : Char) (text : String) : List String :=
  (splitChars separator text.toList).map String.ofList

def join (separator : String) (pieces : List String) : String :=
  String.ofList (joinChars separator.toList (pieces.map String.toList))

/-- The lines of a text. A line feed ends a line, so a final one starts no further line. -/
def lines (text : String) : List String :=
  let pieces := split '\n' text
  if pieces.getLast? = some "" then pieces.dropLast else pieces

end FieldRules.Text
