import FieldRules.Unicode

/-!
Texts in quotes, as they are shown in descriptions of values: the quote, the backslash and the
usual control characters get a backslash, and any other character that would not show on its own is
written by its number.
-/

namespace FieldRules.Text

/-- The digits of a number in lower-case hexadecimal. -/
def hexText (n : Nat) : String := String.ofList (Nat.toDigits 16 n)

/-- Characters that `quoted` writes by their number. -/
def hiddenChars : CharSet := Unicode.unprintable.union Unicode.graphemeExtending

def quotedChar (hidden : CharSet) (c : Char) : String :=
  if c = '"' then "\\\""
  else if c = '\\' then "\\\\"
  else if c = '\n' then "\\n"
  else if c = '\r' then "\\r"
  else if c = '\t' then "\\t"
  else if c.toNat = 0 then "\\0"
  else if hidden.mem c then "\\u\x7b" ++ hexText c.toNat ++ "\x7d"
  else c.toString

def quoted (text : String) : String :=
  "\"" ++ String.join (text.toList.map (quotedChar hiddenChars)) ++ "\""

end FieldRules.Text
