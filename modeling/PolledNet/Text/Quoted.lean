import PolledNet.Bytes
import PolledNet.Text.Hex
import PolledNet.Text.Visible

/-!
# Values as text

How values of other stations are shown to the operator: text in quotes with everything invisible
spelled out, optional values with a mark, lists in brackets.
-/

namespace PolledNet.Text

/-- A character of quoted text. -/
def quotedChar (c : Char) : String :=
  if c = '"' then "\\\""
  else if c = '\\' then "\\\\"
  else if c = '\n' then "\\n"
  else if c = '\r' then "\\r"
  else if c = '\t' then "\\t"
  else if c = '\x00' then "\\0"
  else if isVisible c then c.toString
  else "\\u\x7b" ++ hex 1 c.toNat ++ "\x7d"

/-- Text in quotes. -/
def quoted (s : String) : String := "\"" ++ String.join (s.toList.map quotedChar) ++ "\""

/-- An optional value. -/
def optional {α : Type} (text : α → String) : Option α → String
  | none => "None"
  | some x => "Some(" ++ text x ++ ")"

/-- A list of numbers. -/
def octetList (b : Bytes) : String :=
  "[" ++ ", ".intercalate (b.map fun o => toString o.toNat) ++ "]"

/-- A record: its name and its fields. -/
def record (name : String) (fields : List (String × String)) : String :=
  name ++ " \x7b " ++ ", ".intercalate (fields.map fun (field, value) => field ++ ": " ++ value) ++
    " \x7d"

end PolledNet.Text
