import Maskwalk.Text.CodeSet

/-!
# Blanks and lines

Blanks are the characters that separate words: spaces of every width, tabs, line ends and the
information separators. Lines end at more characters than a line feed: at carriage returns,
vertical tabs, form feeds, information separators and the Unicode line and paragraph separators,
where a carriage return and the line feed after it end one line together. A reader of text files
settles the line ends first: `oneLineEnd` turns both forms of the carriage return into a line feed.

## Main definitions

* `Text.isBlank`, `Text.trim`: blanks, and a text without those at its ends.
* `Text.firstWord`: the first word of a text and what follows it.
* `Text.lines`: the lines of a text.
* `Text.oneLineEnd`: a text whose lines all end in a line feed.
-/

namespace Maskwalk

namespace Text

/-- The code points of blanks. -/
def blanks : CodeSet := [
  0x9, 0xe, 0x1c, 0x21, 0x85, 0x86, 0xa0, 0xa1, 0x1680, 0x1681, 0x2000, 0x200b, 0x2028, 0x202a,
  0x202f, 0x2030, 0x205f, 0x2060, 0x3000, 0x3001]

/-- Whether a character separates words. -/
def isBlank (c : Char) : Bool := blanks.mem c

/-- A text without the blanks at its start. -/
def trimLeft (t : Text) : Text := t.dropWhile isBlank

/-- A text without the blanks at its end. -/
def trimRight (t : Text) : Text := (t.reverse.dropWhile isBlank).reverse

/-- A text without the blanks at its ends. -/
def trim (t : Text) : Text := trimRight (trimLeft t)

/-- The first word of a text, and the text from the start of the second word on. -/
def firstWord (t : Text) : Text × Text :=
  let t := trimLeft t
  (t.takeWhile (!isBlank ·), trimLeft (t.dropWhile (!isBlank ·)))

/-- Whether a character ends a line. -/
def isLineEnd (c : Char) : Bool :=
  let n := c.toNat
  (0xa ≤ n && n ≤ 0xd) || (0x1c ≤ n && n ≤ 0x1e) || n = 0x85 || n = 0x2028 || n = 0x2029

/-- The lines of a text, the text so far of the current line being `line`, reversed. A line end
    at the end of the text starts no further line. -/
def linesFrom (line : Text) : Text → List Text
  | [] => if line.isEmpty then [] else [line.reverse]
  | '\r' :: '\n' :: rest => line.reverse :: linesFrom [] rest
  | c :: rest =>
    if isLineEnd c then line.reverse :: linesFrom [] rest else linesFrom (c :: line) rest

/-- The lines of a text, without their ends. -/
def lines (t : Text) : List Text := linesFrom [] t

/-- A text with every carriage return, and the line feed after it if any, as one line feed. -/
def oneLineEnd : Text → Text
  | [] => []
  | '\r' :: '\n' :: rest => '\n' :: oneLineEnd rest
  | c :: rest => (if c = '\r' then '\n' else c) :: oneLineEnd rest

end Text

end Maskwalk
