import ProseLint.Text.Width.Tables

/-!
# Display width

How many columns text takes on a terminal. `charColumns` is the width of a character by itself, in
which control characters take no column. `textColumns` is the width of a whole text: there a control
character takes one column, and some characters join with what follows them, such as the parts of an
emoji or the letters of a ligature. The text is therefore read from its end.
-/

namespace ProseLint.Text.Width

/-- Is this a control character? -/
def isControl (c : Char) : Bool := c.toNat < 0x20 || (0x7F ≤ c.toNat && c.toNat < 0xA0)

/-- The columns of a character that is no control character. -/
def printedColumns (c : Char) : Nat :=
  if isZero c then 0
  else if c == '\u17d8' then 3
  else if isWide c then 2
  else 1

/-- The columns of a character by itself. -/
def charColumns (c : Char) : Nat := if isControl c then 0 else printedColumns c

/-- What the characters behind a place are, as far as the character before may join with them. -/
inductive Following where
  | other
  | lineFeed
  /-- An emoji shown as a picture. -/
  | picture
  /-- A joiner and an emoji shown as a picture. -/
  | joinedPicture
  /-- A picture selector, with a joined picture behind it if `joined`. -/
  | pictureSelector (joined : Bool)
  | textSelector
  /-- A skin tone, already counted with a joined picture or not. -/
  | skinTone
  | regional
  /-- An alef, which a lam before it joins. -/
  | alef
  | lamed
  | joinedLamed
  /-- A letter that a subscript sign before it makes small. -/
  | subscriptLetter
  | ya
  | joinedYa
  | vowelJoinedYa
  | consonant
  | joinedConsonant
  | consonantJoiner
  | toneLetter
  | orkhonI
  | joinedOrkhonI
deriving Repr, DecidableEq

/-- Is this an emoji of either default? -/
def isEmoji (c : Char) : Bool :=
  inRanges c.toNat emojiTextRanges || inRanges c.toNat emojiPictureRanges

/-- Is this an emoji shown as a picture by default? -/
def isPicture (c : Char) : Bool := inRanges c.toNat emojiPictureRanges

/-- Is this a skin tone? -/
def isSkinTone (c : Char) : Bool := inRanges c.toNat [(0x1F3FB, 0x1F3FF)]

/-- Is this half of a flag? -/
def isRegional (c : Char) : Bool := inRanges c.toNat [(0x1F1E6, 0x1F1FF)]

/-- Letters that join as a lam. -/
def isLam (c : Char) : Bool :=
  inRanges c.toNat [(0x644, 0x644), (0x6B5, 0x6B8), (0x76A, 0x76A), (0x8A6, 0x8A6), (0x8C7, 0x8C7)]

/-- Letters that join as an alef. -/
def isAlef (c : Char) : Bool :=
  inRanges c.toNat [(0x622, 0x623), (0x625, 0x625), (0x627, 0x627), (0x671, 0x673), (0x675, 0x675),
    (0x773, 0x774), (0x870, 0x882)]

/-- Letters that a subscript sign may precede. -/
def isSubscriptLetter (c : Char) : Bool :=
  inRanges c.toNat [(0x1780, 0x1782), (0x1784, 0x1787), (0x1789, 0x178C), (0x178E, 0x1793),
    (0x1795, 0x1798), (0x179B, 0x179D), (0x17A0, 0x17A0), (0x17A2, 0x17A2), (0x17A7, 0x17A7),
    (0x17AB, 0x17AC), (0x17AF, 0x17AF)]

/-- Consonants that join in pairs. -/
def isPairConsonant (c : Char) : Bool := inRanges c.toNat [(0x2D31, 0x2D65), (0x2D6F, 0x2D6F)]

/-- What characters are to the one before them, by the first class that holds them. -/
def followingClasses : List ((Char → Bool) × Following) := [
  ((· == '\ufe0f'), .pictureSelector false), ((· == '\ufe0e'), .textSelector),
  (isSkinTone, .skinTone), (isRegional, .regional), (isPicture, .picture), (isAlef, .alef),
  ((· == '\u05dc'), .lamed), (isSubscriptLetter, .subscriptLetter), ((· == '\u1a10'), .ya),
  (isPairConsonant, .consonant), (fun c => inRanges c.toNat [(0xA4FC, 0xA4FD)], .toneLetter),
  (fun c => c.toNat == 0x10C03, .orkhonI)]

/-- What a character is to the one before it, when it joins with nothing itself. -/
def followingOf (c : Char) : Following :=
  match followingClasses.find? (·.1 c) with
  | some (_, following) => following
  | none => .other

/-- The joiner that stands before a joined part. -/
def zeroWidthJoiner : Char := '\u200d'

/-- The columns that a character adds before what follows it, if the two join, and what they are to
the character before. -/
def joined? (c : Char) (following : Following) : Option (Int × Following) :=
  match following with
  | .pictureSelector joined => if isEmoji c then some (if joined then 0 else 2, .picture) else none
  | .textSelector =>
    if inRanges c.toNat textSelectableRanges then some (1, .other) else none
  | .skinTone =>
    if c == zeroWidthJoiner then some (0, .joinedPicture)
    else if inRanges c.toNat modifierBaseRanges then some (0, .picture)
    else none
  | .picture | .regional => if c == zeroWidthJoiner then some (0, .joinedPicture) else none
  | .joinedPicture =>
    if c == '\ufe0f' then some (0, .pictureSelector true)
    else if isSkinTone c then some (0, .skinTone)
    else if isPicture c then some (0, .picture)
    else none
  | .lineFeed => if c == '\r' then some (0, .other) else none
  | .alef =>
    if isLam c then some (0, .other)
    else if isZero c && c != zeroWidthJoiner then some (0, .alef)
    else none
  | .lamed => if c == zeroWidthJoiner then some (0, .joinedLamed) else none
  | .joinedLamed => if c == '\u05d0' then some (0, .other) else none
  | .subscriptLetter => if c == '\u17d2' then some (-1, .other) else none
  | .ya => if c == zeroWidthJoiner then some (0, .joinedYa) else none
  | .joinedYa => if c == '\u1a17' then some (0, .vowelJoinedYa) else none
  | .vowelJoinedYa => if c == '\u1a15' then some (0, .other) else none
  | .consonant =>
    if c == zeroWidthJoiner then some (0, .joinedConsonant)
    else if c == '\u2d7f' then some (1, .consonantJoiner)
    else none
  | .joinedConsonant => if isPairConsonant c then some (0, .other) else none
  | .consonantJoiner => if isPairConsonant c then some (-1, .other) else none
  | .toneLetter => if inRanges c.toNat [(0xA4F8, 0xA4FB)] then some (0, .other) else none
  | .orkhonI => if c == zeroWidthJoiner then some (0, .joinedOrkhonI) else none
  | .joinedOrkhonI => if c.toNat == 0x10C32 then some (0, .other) else none
  | .other => none

/-- Adds a character before text of some columns. -/
def addBefore (c : Char) (after : Int × Following) : Int × Following :=
  match joined? c after.2 with
  | some (columns, following) => (after.1 + columns, following)
  | none =>
    if c == '\n' then (after.1 + 1, .lineFeed)
    else if isControl c then (after.1 + 1, .other)
    else (after.1 + printedColumns c, followingOf c)

/-- The columns of a text. -/
def textColumns (cs : List Char) : Nat := (cs.foldr addBefore (0, .other)).1.toNat

end ProseLint.Text.Width
