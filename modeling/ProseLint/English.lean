/-!
# Text that looks English

A text counts as English if it begins like a sentence: one capital letter, at least one small
letter, then white space. Letters are those of ASCII; white space is that of scripts, which has the
byte order mark and lacks U+0085.
-/

namespace ProseLint.English

/-- White space as scripts know it. -/
def isSpace (c : Char) : Bool :=
  c == '\t' || c == '\n' || c == '\x0b' || c == '\x0c' || c == '\r' || c == ' ' || c == '\u00a0' ||
  c == '\u1680' || ('\u2000' ≤ c && c ≤ '\u200a') || c == '\u2028' || c == '\u2029' ||
  c == '\u202f' || c == '\u205f' || c == '\u3000' || c == '\ufeff'

/-- Does a run of small letters, already begun if `begun`, end in white space? -/
def endsWord (begun : Bool) : List Char → Bool
  | [] => false
  | c :: cs => if c.isLower then endsWord true cs else begun && isSpace c

/-- Do the characters begin with a capitalised word and white space? -/
def looksEnglishChars : List Char → Bool
  | [] => false
  | c :: cs => c.isUpper && endsWord false cs

/-- Does the text begin with a capitalised word and white space? -/
def looksEnglish (text : String) : Bool := looksEnglishChars text.toList

end ProseLint.English
