/-!
Replacement of a fixed phrase. Occurrences are found from left to right and do not overlap; what
is put in their place is not searched again.
-/

namespace FieldRules.Text

/-- Copies `text` with each occurrence of `phrase` replaced; the first `skip` characters belong to
an occurrence already replaced and are dropped. -/
def replaceFrom (phrase value : List Char) : (skip : Nat) → (text : List Char) → List Char
  | _, [] => []
  | skip + 1, _ :: rest => replaceFrom phrase value skip rest
  | 0, c :: rest =>
    if phrase.isPrefixOf (c :: rest) then value ++ replaceFrom phrase value (phrase.length - 1) rest
    else c :: replaceFrom phrase value 0 rest

/-- Replaces every occurrence of a phrase. The empty phrase occurs nowhere. -/
def replaceChars (phrase value text : List Char) : List Char :=
  if phrase.isEmpty then text else replaceFrom phrase value 0 text

def replace (phrase value text : String) : String :=
  String.ofList (replaceChars phrase.toList value.toList text.toList)

end FieldRules.Text
