import CoreCheck.Text.Printable

/-!
# Text/Quoted — quoting a text for a message

A quoted text stands between double quotes. Printable characters are written as they are; the quote
and the backslash get a backslash; the usual control characters have their letter escapes, and the
rest are written as hexadecimal code points. So a quoted text never breaks the line it stands on.
-/

namespace CoreCheck.Text

/-- The low hexadecimal digit of a number. -/
def hexDigit (n : Nat) : Char :=
  if n % 16 < 10 then Char.ofNat (48 + n % 16) else Char.ofNat (87 + n % 16)

/-- The last `places` hexadecimal digits of a number, in lower case. -/
def hexDigits : Nat → Nat → List Char
  | 0, _ => []
  | places + 1, n => hexDigits places (n / 16) ++ [hexDigit n]

/-- One character inside a quoted text. -/
def quoteChar (c : Char) : List Char :=
  if c = '"' ∨ c = '\\' then ['\\', c]
  else if isPrintable c then [c]
  else
    match c.toNat with
    | 0x07 => ['\\', 'a']
    | 0x08 => ['\\', 'b']
    | 0x0C => ['\\', 'f']
    | 0x0A => ['\\', 'n']
    | 0x0D => ['\\', 'r']
    | 0x09 => ['\\', 't']
    | 0x0B => ['\\', 'v']
    | n =>
      if n < 0x20 ∨ n = 0x7F then '\\' :: 'x' :: hexDigits 2 n
      else if n < 0x10000 then '\\' :: 'u' :: hexDigits 4 n
      else '\\' :: 'U' :: hexDigits 8 n

/-- A character in single quotes. Between these a double quote stands as it is, and the single quote
gets the backslash. -/
def quoteLetter (c : Char) : String :=
  let inner := if c = '"' then [c] else if c.toNat = 39 then ['\\', c] else quoteChar c
  "'" ++ String.ofList inner ++ "'"

/-- **A text in double quotes.** -/
def quote (s : String) : String :=
  String.ofList ('"' :: (s.toList.flatMap quoteChar ++ ['"']))

end CoreCheck.Text
