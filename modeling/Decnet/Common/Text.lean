import Mathlib.Algebra.Order.Ring.Nat
import Mathlib.Data.List.Basic

/-!
# Strings, lines and words

Configuration files are read line by line, and lines word by word.
-/

namespace Decnet

abbrev Text := List Char

namespace Text

def upper (s : Text) : Text := s.map Char.toUpper

def lower (s : Text) : Text := s.map Char.toLower

/-- `std::isspace` in the C locale. -/
def isSpace (c : Char) : Bool := c == ' ' || ('\t' ≤ c && c ≤ '\r')

/-- What `std::getline` gives; after a last newline there is an empty line
more, which no reader of lines sees. -/
def lines (text : Text) : List Text := text.splitOn '\n'

/-- What `>>` takes off a line. -/
def words (line : Text) : List Text :=
  (line.splitOnP isSpace).filter (!·.isEmpty)

end Text

end Decnet
