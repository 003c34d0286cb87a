import Decnet.Common.Text

/-!
# Words of a configuration line

`split_config_line` cuts a line at blanks.  Quotes keep what stands between
them together, and a `#` outside of them begins a comment.
-/

namespace Decnet.Config

open List

def doubleQuote : Char := '\x22'
def singleQuote : Char := '\x27'

def isQuote (c : Char) : Prop := c = doubleQuote ∨ c = singleQuote

instance (c : Char) : Decidable (isQuote c) := inferInstanceAs (Decidable (_ ∨ _))

def isBlank (c : Char) : Prop := c = ' ' ∨ c = '\t' ∨ c = '\r'

instance (c : Char) : Decidable (isBlank c) := inferInstanceAs (Decidable (_ ∨ _))

structure Scanner where
  words : List Text := []
  cur : Text := []
  inWord : Bool := false
  quote : Option Char := none
  deriving DecidableEq

/-- The word that a blank or the end of the line ends. -/
def Scanner.endWord (s : Scanner) : Scanner :=
  if s.inWord then { s with words := s.words ++ [s.cur], cur := [], inWord := false } else s

def scan (s : Scanner) : Text → Scanner
  | [] => s
  | c :: line =>
    match s.quote with
    | some quote =>
      if c = quote then scan { s with quote := none } line
      else scan { s with cur := s.cur ++ [c] } line
    | none =>
      if isQuote c then scan { s with quote := some c, inWord := true } line
      else if c = '#' then s
      else if isBlank c then scan s.endWord line
      else scan { s with cur := s.cur ++ [c], inWord := true } line

def Scanner.result (s : Scanner) : Except String (List Text) :=
  if s.quote.isSome then throw "unterminated quote" else pure s.endWord.words

def splitConfigLine (line : Text) : Except String (List Text) := (scan {} line).result

/-! ## Quoted words -/

/-- Text in quotes that it does not hold itself. -/
structure Piece where
  quote : Char
  text : Text
  isQuote : isQuote quote
  free : quote ∉ text

def Piece.written (p : Piece) : Text := p.quote :: p.text ++ [p.quote]

/-- What may stand right after a word. -/
def Ends : Text → Prop
  | [] => True
  | c :: _ => c = '#' ∨ isBlank c

/-- A line on which the words are written in quoted pieces. -/
inductive Written : List Text → Text → Prop where
  | done : Written [] []
  | comment (text : Text) : Written [] ('#' :: text)
  | blank {words : List Text} {c : Char} {line : Text} :
      isBlank c → Written words line → Written words (c :: line)
  | word {words : List Text} (first : Piece) (pieces : List Piece) {line : Text} :
      Ends line → Written words line →
      Written ((first :: pieces).flatMap Piece.text :: words)
        ((first :: pieces).flatMap Piece.written ++ line)

theorem scan_quoted {quote : Char} {text : Text} (free : quote ∉ text) (words : List Text)
    (cur line : Text) :
    scan ⟨words, cur, true, some quote⟩ (text ++ quote :: line) =
      scan ⟨words, cur ++ text, true, none⟩ line := by
  induction text generalizing cur with
  | nil => simp [scan]
  | cons c text induction =>
    obtain ⟨other, free⟩ := not_or.1 (mt mem_cons.2 free)
    simp [scan, Ne.symm other, induction free]

theorem scan_piece (p : Piece) (words : List Text) (cur line : Text) (inWord : Bool) :
    scan ⟨words, cur, inWord, none⟩ (p.written ++ line) =
      scan ⟨words, cur ++ p.text, true, none⟩ line := by
  simp [Piece.written, scan, p.isQuote, scan_quoted p.free]

theorem scan_pieces (pieces : List Piece) (words : List Text) (cur line : Text) :
    scan ⟨words, cur, true, none⟩ (pieces.flatMap Piece.written ++ line) =
      scan ⟨words, cur ++ pieces.flatMap Piece.text, true, none⟩ line := by
  induction pieces generalizing cur with
  | nil => simp
  | cons p pieces induction =>
    rw [flatMap_cons, append_assoc, scan_piece, induction, flatMap_cons, append_assoc]

theorem scan_blank {c : Char} (blank : isBlank c) (words : List Text) (cur line : Text)
    (inWord : Bool) :
    scan ⟨words, cur, inWord, none⟩ (c :: line) =
      scan (Scanner.endWord ⟨words, cur, inWord, none⟩) line := by
  rcases blank with rfl | rfl | rfl <;> rfl

theorem result_ends {line : Text} (ends : Ends line) (words : List Text) (cur : Text) :
    (scan ⟨words, cur, true, none⟩ line).result =
      (scan ⟨words ++ [cur], [], false, none⟩ line).result := by
  match line, ends with
  | [], _ => rfl
  | _ :: _, .inl rfl => rfl
  | _ :: _, .inr blank =>
    rw [scan_blank blank, scan_blank blank]
    rfl

theorem result_written {words : List Text} {line : Text} (written : Written words line)
    (before : List Text) :
    (scan ⟨before, [], false, none⟩ line).result = .ok (before ++ words) := by
  induction written generalizing before with
  | done | comment =>
    rw [append_nil]
    rfl
  | blank blank _ induction =>
    rw [scan_blank blank]
    exact induction before
  | word first pieces ends _ induction =>
    rw [flatMap_cons, append_assoc, scan_piece, scan_pieces, result_ends ends, induction,
      append_assoc]
    rfl

theorem splitConfigLine_written {words : List Text} {line : Text} (written : Written words line) :
    splitConfigLine line = .ok words :=
  result_written written []

/-- The line `'a'"'" ''#`: a word of two pieces and an empty one. -/
theorem splitConfigLine_pieces :
    splitConfigLine ['\x27', 'a', '\x27', '\x22', '\x27', '\x22', ' ', '\x27', '\x27', '#'] =
      .ok [['a', '\x27'], []] := by
  apply splitConfigLine_written
  have empty : Written [[]] ['\x27', '\x27', '#'] :=
    .word ⟨singleQuote, [], .inr rfl, nofun⟩ [] (.inl rfl) (.comment [])
  exact .word ⟨singleQuote, ['a'], .inr rfl, by decide⟩
    [⟨doubleQuote, ['\x27'], .inl rfl, by decide⟩] (.inr (.inl rfl)) (.blank (.inl rfl) empty)

end Decnet.Config
