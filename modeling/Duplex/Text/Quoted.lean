import Duplex.Text.Visible

/-! # Quoted text

  A text as a diagnostic shows it: between quotation marks, with an escape for each
  quotation mark and backslash, and for each character that would not be seen for what it is.
  An apostrophe stands for itself.

  The JSON form of a text is for other programs to read: of the characters that are not seen it
  escapes only the control characters below the space.
-/

namespace Duplex.Quoted

/-- The hexadecimal digits of `n`, lower case. -/
def hex (n : Nat) : String := String.ofList (Nat.toDigits 16 n)

/-- The form of one character. -/
def escape (c : Char) : String :=
  if c = '"' then "\\\""
  else if c = '\\' then "\\\\"
  else if c = '\n' then "\\n"
  else if c = '\t' then "\\t"
  else if c = '\r' then "\\r"
  else if c = '\x00' then "\\0"
  else if Visible.isVisible c then c.toString
  else "\\u\x7b" ++ hex c.toNat ++ "\x7d"

/-- The quoted form of a text. -/
def quote (text : String) : String := "\"" ++ String.join (text.toList.map escape) ++ "\""

/-! ### JSON -/

/-- The JSON form of one character. -/
def jsonEscape (c : Char) : String :=
  if c = '"' then "\\\""
  else if c = '\\' then "\\\\"
  else if c = '\n' then "\\n"
  else if c = '\t' then "\\t"
  else if c = '\r' then "\\r"
  else if c = '\x08' then "\\b"
  else if c = '\x0c' then "\\f"
  else if c.toNat < 0x10 then "\\u000" ++ hex c.toNat
  else if c.toNat < 0x20 then "\\u00" ++ hex c.toNat
  else c.toString

/-- The JSON form of a text. -/
def json (text : String) : String :=
  "\"" ++ String.join (text.toList.map jsonEscape) ++ "\""

end Duplex.Quoted
