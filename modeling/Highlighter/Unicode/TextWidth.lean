import Highlighter.Unicode.DisplayWidth
import Highlighter.Unicode.Emoji

/-!
# Display width of a text

Characters that stand next to each other can share columns: letters join into ligatures, emoji
take skin tones and are joined into one picture, and a selector switches a character between
emoji and text. All of this is decided from right to left, by what is known of the characters
that follow.
-/

namespace Highlighter.Unicode

/-- What follows a place of a text, as far as it bears on the width of the character in front.
A letter counts as `joined` if a zero width joiner precedes it. -/
inductive Following where
  | other
  | lineFeed
  | emoji
  /-- A skin tone. -/
  | emojiModifier
  /-- One regional indicator. -/
  | indicator
  /-- Two or more regional indicators. -/
  | indicators
  /-- A zero width joiner before an emoji. -/
  | joinedEmoji
  /-- The enclosing key cap before a joined emoji. -/
  | joinedKeycap
  /-- One regional indicator before a joined emoji. -/
  | joinedIndicator
  /-- An even number of regional indicators before a joined emoji. -/
  | joinedEvenIndicators
  /-- Three or more regional indicators, odd in number, before a joined emoji. -/
  | joinedOddIndicators
  /-- The name of a flag before a joined emoji: its last `letters` letters. -/
  | joinedTagLetters (letters : Nat)
  /-- The name of a flag before a joined emoji, as far as the last `digits` digits of its
  number. -/
  | joinedTagDigits (digits : Nat)
  | kiratRaiE
  | kiratRaiAi
  | arabicAlef
  | hebrewLamed (joined : Bool)
  | bugineseYa (joined : Bool)
  /-- The vowel sign i before a joined ya. -/
  | bugineseJoinedYaI
  | tifinaghConsonant (joined : Bool)
  /-- The consonant joiner before a consonant. -/
  | tifinaghJoinedConsonant
  | lisuTone
  | oldTurkicI (joined : Bool)
  | khmerConsonant
  deriving DecidableEq, Repr

/-- The known part of what follows, with the selectors of emoji and text style in front of it. -/
structure WidthContext where
  following : Following := .other
  emojiStyle : Bool := false
  textStyle : Bool := false
  deriving DecidableEq, Repr

namespace Following

/-- Whether what follows can be the end of a ligature. -/
def isLigature : Following → Bool
  | .arabicAlef | .hebrewLamed _ | .bugineseYa _ | .bugineseJoinedYaI | .tifinaghConsonant _
  | .tifinaghJoinedConsonant | .lisuTone | .oldTurkicI _ | .khmerConsonant => true
  | _ => false

/-- Whether a ligature stays possible across joiners and selectors. -/
def isLigatureAcrossSelectors (following : Following) : Bool :=
  following.isLigature && following != .arabicAlef

/-- What follows once a zero width joiner stands before it. -/
def joined : Following → Following
  | .hebrewLamed _ => .hebrewLamed true
  | .bugineseYa _ => .bugineseYa true
  | .tifinaghConsonant _ => .tifinaghConsonant true
  | .oldTurkicI _ => .oldTurkicI true
  | following => following

/-- Whether a selector of emoji style makes part of an emoji that is joined to the next one. -/
def isJoinedEmoji : Following → Bool
  | .joinedEmoji | .joinedKeycap => true
  | _ => false

end Following

/-- The code points of the letters called alef. -/
def arabicAlefRanges : Ranges := #[
  (0x622, 0x623), (0x625, 0x625), (0x627, 0x627), (0x671, 0x673), (0x675, 0x675), (0x773, 0x774),
  (0x870, 0x882)]

/-- The code points of the letters called lam. -/
def arabicLamRanges : Ranges := #[
  (0x644, 0x644), (0x6B5, 0x6B8), (0x76A, 0x76A), (0x8A6, 0x8A6), (0x8C7, 0x8C7)]

/-- Khmer letters that take a subscript form. -/
def khmerConsonantRanges : Ranges := #[
  (0x1780, 0x1782), (0x1784, 0x1787), (0x1789, 0x178C), (0x178E, 0x1793), (0x1795, 0x1798),
  (0x179B, 0x179D), (0x17A0, 0x17A0), (0x17A2, 0x17A2), (0x17A7, 0x17A7), (0x17AB, 0x17AC),
  (0x17AF, 0x17AF)]

/-- Selectors and other invisible characters that do not break a ligature. -/
def selectorRanges : Ranges := #[
  (0x34F, 0x34F), (0x17B4, 0x17B5), (0x180B, 0x180D), (0x180F, 0x180F), (0xFE00, 0xFE0F),
  (0xE0100, 0xE01EF)]

/-- Whether a character is a Tifinagh consonant. -/
def isTifinaghConsonant (c : Char) : Bool :=
  (0x2D31 ≤ c.toNat && c.toNat ≤ 0x2D65) || c.toNat == 0x2D6F

/-- Whether a character is the zero width joiner. -/
def isJoiner (c : Char) : Bool :=
  c.toNat == 0x200D

namespace WidthContext

/-- What a character means for those in front of it, whatever follows it. -/
def ofChar (c : Char) : WidthContext :=
  let code := c.toNat
  if code = 0xFE0E then { textStyle := true }
  else if code = 0xFE0F then { emojiStyle := true }
  else { following :=
    if code = 0x0A then .lineFeed
    else if code ≤ 0xA0 then .other
    else if arabicAlefRanges.contains code then .arabicAlef
    else if code = 0x5DC then .hebrewLamed false
    else if khmerConsonantRanges.contains code then .khmerConsonant
    else if code = 0x1A10 then .bugineseYa false
    else if isTifinaghConsonant c then .tifinaghConsonant false
    else if code = 0xA4FC || code = 0xA4FD then .lisuTone
    else if code = 0x10C03 then .oldTurkicI false
    else if code = 0x16D67 then .kiratRaiE
    else if code = 0x16D68 then .kiratRaiAi
    else if isRegionalIndicator c then .indicator
    else if isEmojiModifier c then .emojiModifier
    else if isEmojiPresentation c then .emoji
    else .other }

/-- Put a selector of emoji style in front. -/
def withEmojiStyle (context : WidthContext) : WidthContext :=
  if context.following.isLigature || context.following.isJoinedEmoji then
    { context with emojiStyle := true }
  else { emojiStyle := true }

/-- Put a selector of text style in front. -/
def withTextStyle (context : WidthContext) : WidthContext :=
  if context.following.isLigature then { context with textStyle := true }
  else { textStyle := true }

/-- Disregard a selector of emoji style that has nothing to act on. -/
def withoutEmojiStyle (context : WidthContext) : WidthContext :=
  if !context.emojiStyle then context
  else if context.following.isLigature then { context with emojiStyle := false }
  else {}

end WidthContext

/-- The columns that a character adds in front of what follows, and what it makes of that, if the
two combine. -/
def combine? (c : Char) (following : Following) : Option (Int × Following) :=
  let code := c.toNat
  let when (condition : Bool) (width : Int) (next : Following) : Option (Int × Following) :=
    if condition then some (width, next) else none
  match following with
  | .arabicAlef =>
    (when (arabicLamRanges.contains code) 0 .other).or (when (isTransparent c) 0 .arabicAlef)
  | .hebrewLamed true => when (code == 0x5D0) 0 .other
  | .khmerConsonant => when (code == 0x17D2) (-1) .other
  | .bugineseYa true => when (code == 0x1A17) 0 .bugineseJoinedYaI
  | .bugineseJoinedYaI => when (code == 0x1A15) 0 .other
  | .tifinaghConsonant joined =>
    (when (code == 0x2D7F) 1 .tifinaghJoinedConsonant).or
      (when (joined && isTifinaghConsonant c) 0 .other)
  | .tifinaghJoinedConsonant => when (isTifinaghConsonant c) (-1) .other
  | .lisuTone => when (0xA4F8 ≤ code && code ≤ 0xA4FB) 0 .other
  | .oldTurkicI true => when (code == 0x10C32) 0 .other
  | .kiratRaiE =>
    (when (code == 0x16D63 || code == 0x16D69) 0 .other).or
      ((when (code == 0x16D67) 0 .kiratRaiAi).or (when (code == 0x16D68) 1 .kiratRaiE))
  | .kiratRaiAi => when (code == 0x16D63) 0 .other
  | .emojiModifier =>
    (when (isEmojiModifierBase c) 0 .emoji).or (when (isJoiner c) 0 .joinedEmoji)
  | .indicator => when (isRegionalIndicator c) 1 .indicators
  | .indicators =>
    (when (isRegionalIndicator c) 1 .indicators).or (when (isJoiner c) 0 .joinedEmoji)
  | .emoji => when (isJoiner c) 0 .joinedEmoji
  | .joinedEmoji =>
    if code = 0x20E3 then some (0, .joinedKeycap)
    else if code = 0xE007F then some (0, .joinedTagLetters 0)
    else if isRegionalIndicator c then some (1, .joinedIndicator)
    else if isEmojiModifier c then some (0, .emojiModifier)
    else when (isEmojiPresentation c) 0 .emoji
  | .joinedIndicator => when (isRegionalIndicator c) (-1) .joinedEvenIndicators
  | .joinedEvenIndicators =>
    (when (isRegionalIndicator c) 3 .joinedOddIndicators).or (when (isJoiner c) 0 .joinedEmoji)
  | .joinedOddIndicators =>
    (when (isRegionalIndicator c) (-1) .joinedEvenIndicators).or
      (when (isJoiner c) 0 .joinedEmoji)
  | .joinedTagLetters letters =>
    (when (isTagLetter c && letters < 6) 0 (.joinedTagLetters (letters + 1))).or
      ((when (isTagDigit c && letters < 5) 0 (.joinedTagDigits 1)).or
        (when (code == 0x1F3F4 && 3 ≤ letters) 0 .emoji))
  | .joinedTagDigits digits =>
    (when (isTagDigit c && digits < 3) 0 (.joinedTagDigits (digits + 1))).or
      (when (code == 0x1F3F4 && 3 ≤ digits) 0 .emoji)
  | _ => none

/-- The columns that a character adds in front of what follows, and the context of the character
before it. -/
def widthBefore (c : Char) (context : WidthContext) : Int × WidthContext :=
  if context.emojiStyle && takesEmojiStyle c then
    (if context.following.isJoinedEmoji then 0 else 2, { following := .emoji })
  else
    let context := context.withoutEmojiStyle
    if c = '\r' && context.following = .lineFeed then (0, {})
    else if c.toNat ≤ 0xA0 || context = {} then (charWidth c, .ofChar c)
    else if c.toNat = 0xFE0F then (0, context.withEmojiStyle)
    else if c.toNat = 0xFE0E then (0, context.withTextStyle)
    else if context.textStyle && takesTextStyle c then (1, {})
    else
      let following := context.following
      if following.isLigatureAcrossSelectors && isJoiner c then
        (0, { following := following.joined })
      else if following.isLigatureAcrossSelectors && selectorRanges.contains c.toNat then
        (0, { following })
      else
        match combine? c following with
        | some (width, following) => (width, { following })
        | none => (charWidth c, .ofChar c)

/-- The columns that a text takes, with the context of a character in front of it. -/
def measure (text : List Char) : Int × WidthContext :=
  text.foldr (fun c (width, context) =>
    let (added, context) := widthBefore c context
    (width + added, context)) (0, {})

/-- The number of columns a text takes. -/
def textWidth (text : List Char) : Nat :=
  (measure text).1.toNat

end Highlighter.Unicode
