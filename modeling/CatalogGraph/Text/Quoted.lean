import CatalogGraph.Text.Digits
import CatalogGraph.Text.Printable

/-!
# Texts in diagnostics

A diagnostic shows a text between quotes. Quotes, backslashes and the common controls are shown by
a backslash and a letter, other characters without a mark of their own by their code point.
-/

namespace CatalogGraph.Text

/-- A character as it is shown between quotes. -/
def quoteChar (c : Char) : List Char :=
  if c = '\x00' then ['\\', '0']
  else if c = '\t' then ['\\', 't']
  else if c = '\n' then ['\\', 'n']
  else if c = '\r' then ['\\', 'r']
  else if c = '"' then ['\\', '"']
  else if c = '\\' then ['\\', '\\']
  else if isPrintable c then [c]
  else '\\' :: 'u' :: '\x7b' :: hexDigits hexSmall (hexWidth c.toNat) c.toNat ++ ['\x7d']

/-- The text between quotes. -/
def quoted (s : String) : String := String.ofList ('"' :: s.toList.flatMap quoteChar ++ ['"'])

end CatalogGraph.Text
