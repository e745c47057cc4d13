namespace CompiledModule

/-!
# Numerals and columns

The texts that this library writes show numbers in decimal or in hexadecimal, and line names up in
columns.  A numeral is filled up with zeros on the left to a least number of digits and is never
cut; a column is filled up with blanks on the right and is never cut either.
-/

/-- The hexadecimal digits of a number, with small letters. -/
def hexDigits (value : Nat) : String :=
  String.ofList (Nat.toDigits 16 value)

/-- A number in hexadecimal with small letters and at least `digits` digits. -/
def lowerHex (digits value : Nat) : String :=
  let shown := hexDigits value
  String.ofList (List.replicate (digits - shown.length) '0') ++ shown

/-- A number in hexadecimal with capital letters and at least `digits` digits. -/
def upperHex (digits value : Nat) : String :=
  (lowerHex digits value).map Char.toUpper

/-- A text followed by blanks up to `width` characters. -/
def leftColumn (width : Nat) (text : String) : String :=
  text ++ String.ofList (List.replicate (width - text.length) ' ')

end CompiledModule
