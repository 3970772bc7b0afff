import RecordShape.Text.Runs
import RecordShape.Text.UnprintedTable

/-!
# Quoted texts in messages

`quoted s` is a text between double quotes. Quotes, backslashes and the common controls get a
backslash; any other character that would not show is spelled by its number.
-/

namespace RecordShape

private def braced (n : Nat) : String :=
  "\\u\x7b" ++ String.ofList (Nat.toDigits 16 n) ++ "\x7d"

/-- A character inside a quoted text. -/
def quotedChar (c : Char) : String :=
  if c = '"' then "\\\""
  else if c = '\\' then "\\\\"
  else if c = '\t' then "\\t"
  else if c = '\r' then "\\r"
  else if c = '\n' then "\\n"
  else if c = '\x00' then "\\0"
  else if Runs.contains unprintedRuns c.toNat then braced c.toNat
  else String.singleton c

def quoted (s : String) : String :=
  (s.toList.foldl (fun text c => text ++ quotedChar c) "\"").push '"'

/-- A list of quoted texts in brackets. -/
def quotedList (texts : List String) : String :=
  "[" ++ ", ".intercalate (texts.map quoted) ++ "]"

end RecordShape
