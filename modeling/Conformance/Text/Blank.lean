/-!
# Blanks, lines and cuts

Text is worked on as a list of characters. A blank is a character with Unicode's `White_Space`
property, which is wider than ASCII (it has U+0085, U+00A0, U+2028 and U+3000) and narrower than it
looks (U+200B, U+FEFF and the separators U+001C to U+001F are not in it).

A line ends at a line feed, and one carriage return directly before that line feed belongs to the
line's end. A carriage return anywhere else, also at the end of an unterminated last line, is text.
-/

namespace Conformance.Text

/-- The characters of Unicode's `White_Space` property. -/
def isBlank (c : Char) : Bool :=
  (0x09 ≤ c.val && c.val ≤ 0x0d) || c.val == 0x20 || c.val == 0x85 || c.val == 0xa0 ||
    c.val == 0x1680 || (0x2000 ≤ c.val && c.val ≤ 0x200a) || c.val == 0x2028 || c.val == 0x2029 ||
    c.val == 0x202f || c.val == 0x205f || c.val == 0x3000

/-- The text without the characters of `p` at its end. -/
def dropEndWhile (p : Char → Bool) (text : List Char) : List Char :=
  (text.reverse.dropWhile p).reverse

def trimStart (text : List Char) : List Char := text.dropWhile isBlank

def trimEnd (text : List Char) : List Char := dropEndWhile isBlank text

def trim (text : List Char) : List Char := trimEnd (trimStart text)

/-- The lines of `text` when `held`, reversed, is the part of the first line already read. -/
def linesFrom (held : List Char) : List Char → List (List Char)
  | [] => if held.isEmpty then [] else [held.reverse]
  | '\r' :: '\n' :: rest => held.reverse :: linesFrom [] rest
  | '\n' :: rest => held.reverse :: linesFrom [] rest
  | c :: rest => linesFrom (c :: held) rest

/-- The lines of a text, without their ends. -/
def lines (text : List Char) : List (List Char) := linesFrom [] text

/-- `breakOn` when `held`, reversed, is the text already passed. -/
def breakFrom (mark held : List Char) : List Char → Option (List Char × List Char)
  | [] => if mark.isEmpty then some (held.reverse, []) else none
  | c :: rest =>
    if mark.isPrefixOf (c :: rest) then some (held.reverse, (c :: rest).drop mark.length)
    else breakFrom mark (c :: held) rest

/-- The text before the first place where `mark` stands, and the text after that place. -/
def breakOn (mark text : List Char) : Option (List Char × List Char) := breakFrom mark [] text

/-- The text after `mark`, when the text starts with it. -/
def after? (mark text : List Char) : Option (List Char) :=
  if mark.isPrefixOf text then some (text.drop mark.length) else none

/-- The string without the blanks at its ends. -/
def trimmed (s : String) : String := String.ofList (trim s.toList)

end Conformance.Text
