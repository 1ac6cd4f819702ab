import LogSieve.Text.Mark
import LogSieve.Text.Pictograph

/-!
# Display width

How many columns a text takes on a character display: none for marks and invisible characters, two
for wide East Asian characters and emoji, one for most others, control characters included. Some
characters that stand next to each other are drawn as one: emoji with a skin tone or joined to
each other, letters with a ligature. What a character adds then depends on what follows it, so a
text is measured from its end.
-/

namespace LogSieve.Text

/-! ### Characters on their own -/

/-- Characters of two columns, emoji apart (East Asian width W or F), code points kept free for
such characters included. -/
def wideRanges : Ranges := [
  (0x1100, 0x115F), (0x17A4, 0x17A4), (0x2329, 0x232A), (0x2630, 0x2637), (0x268A, 0x268F),
  (0x2E80, 0x2E99), (0x2E9B, 0x2EF3), (0x2F00, 0x2FD5), (0x2FF0, 0x3029), (0x3030, 0x303E),
  (0x3041, 0x3096), (0x309B, 0x30FF), (0x3105, 0x312F), (0x3131, 0x3163), (0x3165, 0x318E),
  (0x3190, 0x31E5), (0x31EF, 0x321E), (0x3220, 0x3247), (0x3250, 0xA48C), (0xA490, 0xA4C6),
  (0xA960, 0xA97C), (0xAC00, 0xD7A3), (0xF900, 0xFAFF), (0xFE10, 0xFE19), (0xFE30, 0xFE52),
  (0xFE54, 0xFE66), (0xFE68, 0xFE6B), (0xFF01, 0xFF60), (0xFFE0, 0xFFE6), (0x16FE0, 0x16FE3),
  (0x16FF2, 0x16FF6), (0x17000, 0x18CD5), (0x18CFF, 0x18D1E), (0x18D80, 0x18DF2),
  (0x18E00, 0x191DF), (0x1AFF0, 0x1AFF3), (0x1AFF5, 0x1AFFB), (0x1AFFD, 0x1AFFE),
  (0x1B000, 0x1B12F), (0x1B132, 0x1B132), (0x1B150, 0x1B152), (0x1B155, 0x1B155),
  (0x1B164, 0x1B2FB), (0x1D300, 0x1D356), (0x1D360, 0x1D376), (0x1F1AE, 0x1F1E5),
  (0x1F200, 0x1F200), (0x1F202, 0x1F202), (0x1F210, 0x1F219), (0x1F21B, 0x1F22E),
  (0x1F230, 0x1F231), (0x1F237, 0x1F237), (0x1F23B, 0x1F23B), (0x1F240, 0x1F248),
  (0x1F260, 0x1F265), (0x20000, 0x2FFFD), (0x30000, 0x3FFFD)]

/-- Vowels and final consonants of Hangul, which are drawn into the syllable before them. -/
def jamoTails : Ranges := [
  (0x1160, 0x11FF), (0xD7B0, 0xD7C6), (0xD7CB, 0xD7FB)]

/-- Signs drawn over or under the characters around them that are no marks, and code points kept
free for such signs. -/
def overlaidSigns : Ranges := [
  (0x5C8, 0x5CF), (0x605, 0x605), (0x70F, 0x70F), (0x890, 0x891), (0x8E2, 0x8E2), (0xB53, 0xB54),
  (0xD4E, 0xD4E), (0xA8FA, 0xA8FA), (0x111C2, 0x111C3), (0x113D1, 0x113D1), (0x1193F, 0x1193F),
  (0x11941, 0x11941), (0x11A84, 0x11A89), (0x11D46, 0x11D46), (0x11F02, 0x11F02)]

/-- Is the character drawn without a column of its own? The sign that joins two Tifinagh letters
is the only mark with a column. -/
def isOverlaid (c : Char) : Bool :=
  (nonspacingMarks.has c && c.toNat ≠ 0x2D7F) || enclosingMarks.has c || extenders.has c ||
    ignorables.has c || jamoTails.has c || overlaidSigns.has c

/-- The columns of a character on its own. -/
def charWidth (c : Char) : Nat :=
  if c.toNat < 0x300 then if c.toNat = 0xAD then 0 else 1
  else if c.toNat = 0x17D8 then 3
  else if wideRanges.has c || wideEmoji.has c || isSkinTone c then 2
  else if isOverlaid c then 0
  else 1

/-! ### Letters with ligatures -/

/-- Arabic letters of the form of lam. -/
def lams : Ranges := [
  (0x644, 0x644), (0x6B5, 0x6B8), (0x76A, 0x76A), (0x8A6, 0x8A6), (0x8C7, 0x8C7)]

/-- Arabic letters of the form of alef, which are drawn as one with a lam before them. -/
def alefs : Ranges := [
  (0x622, 0x623), (0x625, 0x625), (0x627, 0x627), (0x671, 0x673), (0x675, 0x675), (0x773, 0x774),
  (0x870, 0x882)]

/-- Invisible format characters that do not keep an Arabic lam and alef apart. -/
def arabicTransparent : Ranges := [
  (0xAD, 0xAD), (0x61C, 0x61C), (0x70F, 0x70F), (0x200B, 0x200B), (0x200E, 0x200F),
  (0x202A, 0x202E), (0x2060, 0x2064), (0x206A, 0x206F), (0xFEFF, 0xFEFF), (0x1BCA0, 0x1BCA3),
  (0x1D173, 0x1D17A), (0xE0001, 0xE0001), (0xE0020, 0xE007F)]

/-- Khmer letters that are drawn under the letter before them if the sign coeng comes between. -/
def coengLetters : Ranges := [
  (0x1780, 0x1782), (0x1784, 0x1787), (0x1789, 0x178C), (0x178E, 0x1793), (0x1795, 0x1798),
  (0x179B, 0x179D), (0x17A0, 0x17A0), (0x17A2, 0x17A2), (0x17A7, 0x17A7), (0x17AB, 0x17AC),
  (0x17AF, 0x17AF)]

/-- Is the character a consonant of the Tifinagh script? -/
def isTifinagh (c : Char) : Bool :=
  (0x2D31 ≤ c.toNat && c.toNat ≤ 0x2D65) || c.toNat = 0x2D6F

/-- May the character stand between an Arabic lam and alef that are drawn as one? -/
def isArabicTransparent (c : Char) : Bool :=
  (nonspacingMarks.has c && c.toNat ≠ 0x2D7F) || enclosingMarks.has c || arabicTransparent.has c

/-- May the character stand between the letters of any other ligature? These are the marks without
a shape. -/
def isShapeless (c : Char) : Bool :=
  c.toNat = 0x34F || c.toNat = 0x17B4 || c.toNat = 0x17B5 ||
    (0x180B ≤ c.toNat && c.toNat ≤ 0x180D) || c.toNat = 0x180F ||
    (0xFE00 ≤ c.toNat && c.toNat ≤ 0xFE0F) || (0xE0100 ≤ c.toNat && c.toNat ≤ 0xE01EF)

/-- The last parts of ligatures. -/
inductive LigatureEnd where
  /-- Hebrew lamed. -/
  | lamed
  /-- Buginese ya. -/
  | ya
  /-- A Buginese vowel sign i joined to ya. -/
  | iYa
  /-- A Tifinagh consonant. -/
  | tifinagh
  /-- A Tifinagh consonant with the joining sign before it. -/
  | joinedTifinagh
  /-- The second letter of a Lisu tone. -/
  | lisuTone
  /-- Old Turkic i. -/
  | turkicI
  /-- A Khmer letter that coeng takes under another one. -/
  | coengLetter
  /-- The Kirat Rai vowel sign e. -/
  | kiratE
  /-- The Kirat Rai vowel sign ai, or what is drawn like it. -/
  | kiratAi
deriving DecidableEq

/-! ### What follows a character -/

/-- What the text behind a character starts with, as far as the character may be drawn as one with
it. -/
inductive Following where
  /-- Nothing that matters. -/
  | plain
  /-- A line feed. -/
  | lineFeed
  /-- An Arabic alef. -/
  | alef
  /-- The end of another ligature; `joined` tells whether a joiner stands before it. -/
  | ligature (part : LigatureEnd) (joined : Bool)
  /-- A picture. -/
  | picture
  /-- A skin tone. -/
  | skinTone
  /-- A single regional indicator. -/
  | flagLetter
  /-- Several regional indicators. -/
  | flagLetters
  /-- A joiner before a picture. -/
  | joinedPicture
  /-- A keycap, then a joiner before a picture. -/
  | joinedKeycap
  /-- A regional indicator, then a joiner before a picture. -/
  | joinedFlagLetter
  /-- Regional indicators, an even number, then a joiner before a picture. -/
  | joinedFlagsEven
  /-- Regional indicators, an odd number above one, then a joiner before a picture. -/
  | joinedFlagsOdd
  /-- The tags that end the name of a region, then a joiner before a picture: so many letters, or
  so many digits before them. -/
  | joinedTags (letters digits : Nat)
deriving DecidableEq

namespace Following

/-- What a character starts, taken on its own. -/
def ofChar (c : Char) : Following :=
  if c = '\n' then lineFeed
  else if c.toNat < 0x300 then plain
  else if c.toNat = 0x5DC then ligature .lamed false
  else if alefs.has c then alef
  else if coengLetters.has c then ligature .coengLetter false
  else if c.toNat = 0x1A10 then ligature .ya false
  else if isTifinagh c then ligature .tifinagh false
  else if c.toNat = 0xA4FC || c.toNat = 0xA4FD then ligature .lisuTone false
  else if c.toNat = 0x10C03 then ligature .turkicI false
  else if c.toNat = 0x16D67 then ligature .kiratE false
  else if c.toNat = 0x16D68 then ligature .kiratAi false
  else if isFlagLetter c then flagLetter
  else if isSkinTone c then skinTone
  else if wideEmoji.has c then picture
  else plain

/-- Is it the end of a ligature? -/
def isLigature : Following → Bool
  | alef => true
  | ligature _ _ => true
  | _ => false

/-- Is it a joiner before a picture, behind which a character may be shown as a picture too? -/
def joinsPicture : Following → Bool
  | joinedPicture => true
  | joinedKeycap => true
  | _ => false

/-- The columns that a character adds before the end of a ligature, and what it starts there. None
if it is not drawn as one with it. -/
def ligate (c : Char) (part : LigatureEnd) (joined : Bool) : Option (Int × Following) :=
  if c.toNat = 0x200D then some (0, ligature part true)
  else if isShapeless c then some (0, ligature part joined)
  else
    match part with
    | .lamed => if joined && c.toNat = 0x5D0 then some (0, plain) else none
    | .ya => if joined && c.toNat = 0x1A17 then some (0, ligature .iYa true) else none
    | .iYa => if c.toNat = 0x1A15 then some (0, plain) else none
    | .tifinagh =>
      if c.toNat = 0x2D7F then some (1, ligature .joinedTifinagh true)
      else if joined && isTifinagh c then some (0, plain)
      else none
    | .joinedTifinagh => if isTifinagh c then some (-1, plain) else none
    | .lisuTone =>
      if 0xA4F8 ≤ c.toNat && c.toNat ≤ 0xA4FB then some (0, plain) else none
    | .turkicI => if joined && c.toNat = 0x10C32 then some (0, plain) else none
    | .coengLetter => if c.toNat = 0x17D2 then some (-1, plain) else none
    | .kiratE =>
      if c.toNat = 0x16D63 then some (0, plain)
      else if c.toNat = 0x16D67 then some (0, ligature .kiratAi false)
      else if c.toNat = 0x16D68 then some (1, ligature .kiratE false)
      else if c.toNat = 0x16D69 then some (0, plain)
      else none
    | .kiratAi => if c.toNat = 0x16D63 then some (0, plain) else none

/-- The columns that a tag, or the flag that it belongs to, adds before other tags, and what it
starts there. A region is named by two letters or three digits, its part by up to four letters
behind them. -/
def tag (c : Char) (letters digits : Nat) : Option (Int × Following) :=
  if 0xE0061 ≤ c.toNat && c.toNat ≤ 0xE007A then
    if digits = 0 && letters < 6 then some (0, joinedTags (letters + 1) 0) else none
  else if 0xE0030 ≤ c.toNat && c.toNat ≤ 0xE0039 then
    if digits = 0 && 4 < letters || digits = 3 then none
    else some (0, joinedTags 0 (digits + 1))
  else if c.toNat = 0x1F3F4 && (3 ≤ letters || digits = 3) then some (0, picture)
  else none

/-- The columns that a character adds before something that it is drawn as one with, and what both
start. None if it is not drawn as one with it. -/
def merge (c : Char) : Following → Option (Int × Following)
  | plain => none
  | lineFeed => none
  | alef =>
    if lams.has c then some (0, plain)
    else if isArabicTransparent c then some (0, alef)
    else none
  | ligature part joined => ligate c part joined
  | picture => if c.toNat = 0x200D then some (0, joinedPicture) else none
  | skinTone =>
    if tonedEmoji.has c then some (0, picture)
    else if c.toNat = 0x200D then some (0, joinedPicture)
    else none
  | flagLetter => if isFlagLetter c then some (1, flagLetters) else none
  | flagLetters =>
    if isFlagLetter c then some (1, flagLetters)
    else if c.toNat = 0x200D then some (0, joinedPicture)
    else none
  | joinedPicture =>
    if c.toNat = 0x20E3 then some (0, joinedKeycap)
    else if isFlagLetter c then some (1, joinedFlagLetter)
    else if isSkinTone c then some (0, skinTone)
    else if c.toNat = 0xE007F then some (0, joinedTags 0 0)
    else if wideEmoji.has c then some (0, picture)
    else none
  | joinedKeycap => none
  | joinedFlagLetter => if isFlagLetter c then some (-1, joinedFlagsEven) else none
  | joinedFlagsEven =>
    if isFlagLetter c then some (3, joinedFlagsOdd)
    else if c.toNat = 0x200D then some (0, joinedPicture)
    else none
  | joinedFlagsOdd =>
    if isFlagLetter c then some (-1, joinedFlagsEven)
    else if c.toNat = 0x200D then some (0, joinedPicture)
    else none
  | joinedTags letters digits => tag c letters digits

end Following

/-! ### Texts -/

/-- What the width of a character depends on: what follows it, and which selectors of a style stand
before that. -/
structure WidthContext where
  /-- What follows. -/
  following : Following := .plain
  /-- Is the character to be shown as a picture? -/
  emojiStyle : Bool := false
  /-- Is the character to be shown as text? -/
  textStyle : Bool := false
  /-- Is the character, if it is a quotation mark, to be shown in two columns? -/
  wideQuote : Bool := false
deriving DecidableEq

namespace WidthContext

/-- The context without the selector of the picture style. What follows counts no longer unless it
is a ligature. -/
def withoutEmojiStyle (context : WidthContext) : WidthContext :=
  if context.following.isLigature then { context with emojiStyle := false } else {}

/-- What follows, where selectors may stand before it: these count only before a ligature. -/
def ligatureAhead (context : WidthContext) : Following :=
  if (context.textStyle || context.wideQuote) && !context.following.isLigature then .plain
  else context.following

/-- The context with the selector of the picture style before it. -/
def withEmojiStyle (context : WidthContext) : WidthContext :=
  if context.following.isLigature || context.following.joinsPicture then
    { context with emojiStyle := true }
  else { emojiStyle := true }

/-- The context with the selector of the text style before it. -/
def withTextStyle (context : WidthContext) : WidthContext :=
  if context.following.isLigature then { context with textStyle := true }
  else { textStyle := true }

/-- The context with the selector of wide quotation marks before it. -/
def withWideQuote (context : WidthContext) : WidthContext :=
  if context.following.isLigature then { context with wideQuote := true }
  else { wideQuote := true }

/-- Is the character a quotation mark that can be shown in two columns? -/
def isQuote (c : Char) : Bool := c = '‘' || c = '’' || c = '“' || c = '”'

/-- The columns that a character adds in its context, and the context of the character before it.
-/
def step (context : WidthContext) (c : Char) : Int × WidthContext :=
  if context.emojiStyle && hasEmojiStyle c then
    (if context.following.joinsPicture then 0 else 2, { following := .picture })
  else
    let context := if context.emojiStyle then context.withoutEmojiStyle else context
    if c.toNat ≤ 0xA0 then
      (if c = '\r' && context.following = .lineFeed then 0 else 1,
        { following := Following.ofChar c })
    else if c.toNat = 0xFE0F then (0, context.withEmojiStyle)
    else if c.toNat = 0xFE0E then (0, context.withTextStyle)
    else if c.toNat = 0xFE01 then (0, context.withWideQuote)
    else if context.textStyle && hasTextStyle c then (1, {})
    else if context.wideQuote && isQuote c then (2, {})
    else
      match context.ligatureAhead.merge c with
      | some (columns, next) => (columns, { following := next })
      | none => (charWidth c, { following := Following.ofChar c })

end WidthContext

/-- The columns of a text. -/
def width (text : List Char) : Nat :=
  (text.foldr (fun c (measured : Int × WidthContext) =>
    let (columns, context) := measured.2.step c
    (measured.1 + columns, context)) (0, {})).1.toNat

end LogSieve.Text
