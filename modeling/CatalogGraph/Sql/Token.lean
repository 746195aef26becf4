import CatalogGraph.Text.Digits

/-!
# SQL tokens

A statement is a list of tokens, and its text is the texts of the tokens one after the other; a
space is a token of its own. Names are always quoted and values are always placeholders, so no text
that is given from outside stands in a statement unquoted, table aliases apart.
-/

namespace CatalogGraph.Sql

open Text

/-- A name between double quotes, in which a double quote is written twice. -/
def quoteName (name : String) : String :=
  String.ofList ('"' :: name.toList.flatMap (fun c => if c = '"' then ['"', '"'] else [c]) ++ ['"'])

/-- The words of a statement. -/
inductive Keyword where
  | SELECT
  | FROM
  | WHERE
  | AND
  | AS
  | CAST
  | LIKE
  | LIMIT
deriving DecidableEq, Repr

/-- The text of a word. -/
def Keyword.text : Keyword → String
  | .SELECT => "SELECT"
  | .FROM => "FROM"
  | .WHERE => "WHERE"
  | .AND => "AND"
  | .AS => "AS"
  | .CAST => "CAST"
  | .LIKE => "LIKE"
  | .LIMIT => "LIMIT"

/-- The marks of a statement, the space among them. -/
inductive Mark where
  | dot
  | star
  | opening
  | closing
  | equal
  | less
  | greater
  | space
deriving DecidableEq, Repr

/-- The text of a mark. -/
def Mark.text : Mark → String
  | .dot => "."
  | .star => "*"
  | .opening => "("
  | .closing => ")"
  | .equal => "="
  | .less => "<"
  | .greater => ">"
  | .space => " "

/-- A token of a statement. -/
inductive Token where
  | keyword (word : Keyword)
  | mark (m : Mark)
  | name (word : String)
  | path (parts : List String)
  | label (word : String)
  | type (word : String)
  | integer (n : Int)
  | placeholder
deriving DecidableEq, Repr

/-- The text of a token. -/
def Token.text : Token → String
  | .keyword word => word.text
  | .mark m => m.text
  | .name word => quoteName word
  | .path parts => String.intercalate "." (parts.map quoteName)
  | .label word => word
  | .type word => word
  | .integer n => signedDecimal n
  | .placeholder => "?"

/-- A space between tokens. -/
def Token.space : Token := .mark .space

/-- The text of a statement. -/
def render (tokens : List Token) : String := String.join (tokens.map Token.text)

/-- How many values a statement expects. -/
def placeholders (tokens : List Token) : Nat := tokens.countP (· == .placeholder)

end CatalogGraph.Sql
