import CompiledModule.Text.Numeral
import CompiledModule.Text.Visible

namespace CompiledModule

/-!
# Quoted text

A dumped error and the summary of a module show text between double quotes, so that its ends and
its control characters can be seen.  Five characters have an escape of their own, the quote and
the backslash stand behind a backslash, and every other invisible character is shown by its code
point.
-/

/-- The escape of a character shown by its code point.  The braces are part of it. -/
def codePointEscape (c : Char) : String :=
  "\\u\x7b" ++ hexDigits c.toNat ++ "\x7d"

def quotedChar (c : Char) : String :=
  if c = '\x00' then "\\0"
  else if c = '\t' then "\\t"
  else if c = '\r' then "\\r"
  else if c = '\n' then "\\n"
  else if c = '"' then "\\\""
  else if c = '\\' then "\\\\"
  else if isVisible c then c.toString
  else codePointEscape c

def quoted (text : String) : String :=
  "\"" ++ String.join (text.toList.map quotedChar) ++ "\""

end CompiledModule
