import SqlGateway.Text.Hidden

/-!
# Quoted text

`quote` writes a text between double quotes so that every character of it can be
told apart: a quote, a backslash and the common controls behind a backslash, and any
other character that does not show by its number, as in `\u{200b}`.  Messages and
descriptions quote what they were given.
-/

namespace SqlGateway

/-- A number in lower-case hexadecimal, without leading zeros. -/
def hexDigits (n : Nat) : List Char := Nat.toDigits 16 n

/-- One character as it stands between the quotes. -/
def escapeQuoted (c : Char) : List Char :=
  if c = '\x00' then ['\\', '0']
  else if c = '\t' then ['\\', 't']
  else if c = '\r' then ['\\', 'r']
  else if c = '\n' then ['\\', 'n']
  else if c = '\\' then ['\\', '\\']
  else if c = '"' then ['\\', '"']
  else if c < ' ' || ('\x7e' < c && isHidden c) then
    ['\\', 'u', '{'] ++ hexDigits c.toNat ++ ['}']
  else [c]

/-- A text between quotes. -/
def quote (s : String) : String := .ofList ('"' :: s.toList.flatMap escapeQuoted ++ ['"'])

example : escapeQuoted '"' = ['\\', '"'] := by decide

end SqlGateway
