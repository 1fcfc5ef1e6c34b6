import FileQuery.Unicode.Recent

/-!
# The width of texts

How many columns a character takes, and how many a text does.
-/

/-!
## Columns

How many columns a character takes by itself: none, one, two, or three for a sign that stands for
a whole phrase. The characters that take none are drawn with the one before them or after them, or
not at all.
-/

namespace FileQuery.Text

/-- The code points of the characters that are drawn twice as wide as others. -/
def wideRanges : Unicode.Ranges := Unicode.Ranges.read
  "1100-115F 17A4 231A-231B 2329-232A 23E9-23EC 23F0 23F3 25FD-25FE 2614-2615 2630-2637 2648-2653
    267F 268A-268F 2693 26A1 26AA-26AB 26BD-26BE 26C4-26C5 26CE 26D4 26EA 26F2-26F3 26F5 26FA
    26FD 2705 270A-270B 2728 274C 274E 2753-2755 2757 2795-2797 27B0 27BF 2B1B-2B1C 2B50 2B55
    2E80-2E99 2E9B-2EF3 2F00-2FD5 2FF0-303E 3041-3096 3099-30FF 3105-312F 3131-318E 3190-31E5
    31EF-321E 3220-3247 3250-A48C A490-A4C6 A960-A97C AC00-D7A3 F900-FAFF FE10-FE19 FE30-FE52
    FE54-FE66 FE68-FE6B FF01-FF60 FFE0-FFE6 16FE0-16FE3 16FF2-16FF6 17000-18CD5 18CFF-18D1E
    18D80-18DF2 1AFF0-1AFF3 1AFF5-1AFFB 1AFFD-1AFFE 1B000-1B122 1B132 1B150-1B152 1B155
    1B164-1B167 1B170-1B2FB 1D300-1D356 1D360-1D376 1F004 1F0CF 1F18E 1F191-1F19A 1F200-1F202
    1F210-1F23B 1F240-1F248 1F250-1F251 1F260-1F265 1F300-1F320 1F32D-1F335 1F337-1F37C
    1F37E-1F393 1F3A0-1F3CA 1F3CF-1F3D3 1F3E0-1F3F0 1F3F4 1F3F8-1F43E 1F440 1F442-1F4FC
    1F4FF-1F53D 1F54B-1F54E 1F550-1F567 1F57A 1F595-1F596 1F5A4 1F5FB-1F64F 1F680-1F6C5 1F6CC
    1F6D0-1F6D2 1F6D5-1F6D8 1F6DC-1F6DF 1F6EB-1F6EC 1F6F4-1F6FC 1F7E0-1F7EB 1F7F0 1F90C-1F93A
    1F93C-1F945 1F947-1F9FF 1FA70-1FA7C 1FA80-1FA8A 1FA8E-1FAC6 1FAC8 1FACD-1FADC 1FADF-1FAEA
    1FAEF-1FAF8 20000-2FFFD 30000-3FFFD"

/-- The code points of the vowels and final consonants that a Korean syllable is made of. -/
def syllablePartRanges : Unicode.Ranges :=
  [(0x1160, 0x11FF), (0xD7B0, 0xD7C6), (0xD7CB, 0xD7FB)]

/-- The code points of signs that are drawn around or above the characters after them, and of a
    caret that is drawn between two. -/
def surroundingRanges : Unicode.Ranges := Unicode.Ranges.read
  "605 70F 890-891 8E2 D4E A8FA 111C2-111C3 113D1 1193F 11941 11A84-11A89 11D46 11F02"

/-- Whether a character takes no column. The filler for a missing first consonant is not drawn
    and takes the columns of the consonant all the same. A sign that joins two consonants takes a
    column where there are none. -/
def isDrawnWithin (c : Char) : Bool :=
  (Unicode.isExtender c || Unicode.ignorableRanges.contains c.toNat
      || syllablePartRanges.contains c.toNat || surroundingRanges.contains c.toNat)
    && c != '\u115F' && c != '\u2D7F'

/-- The number of columns that a character takes by itself. -/
def columns (c : Char) : Nat :=
  if c.toNat < 0xA0 then 1
  else if isDrawnWithin c then 0
  else if c = '\u17D8' then 3
  else if wideRanges.contains c.toNat then 2
  else 1

end FileQuery.Text

/-!
## The width of a text

Some characters take other columns next to each other than by themselves: pictures that are joined
into one, a character that is drawn as a picture or as a letter because a selector asks for it, and
letters that are drawn as one. A text is read from its end, and of what has been read it is enough
to remember what it means for the character before it.
-/

namespace FileQuery.Text

/-- What follows, as far as it matters to the character before it. -/
inductive Sequel
  | plain
  | lineFeed
  /-- A character that changes how a picture before it is drawn. -/
  | modifier
  /-- A letter that makes a flag together with another one. -/
  | region
  /-- Several such letters. -/
  | regions
  | picture
  /-- A joiner and a picture. -/
  | joinedPicture
  /-- A key's frame before a joiner and a picture. -/
  | joinedKey
  /-- A letter of a flag before a joiner and a picture. -/
  | joinedRegion
  /-- An even number of such letters. -/
  | joinedEven
  /-- An odd number of such letters, more than one. -/
  | joinedOdd
  /-- The tags of a flag before a joiner and a picture: how many letters, and how many digits after
      them. -/
  | joinedTags (letters digits : Nat)
  /-- The letter Alef of Arabic. -/
  | alef
  /-- The letter Lamed of Hebrew. -/
  | lamed
  /-- The letter Ya of Buginese. -/
  | ya
  /-- The vowel sign I of Buginese before a joiner and a Ya. -/
  | signAndYa
  /-- A consonant of Tifinagh. -/
  | consonant
  /-- A sign that joins consonants of Tifinagh, before a consonant. -/
  | joinedConsonant
  /-- One of the latter tone letters of Lisu. -/
  | tone
  /-- The letter I of Old Turkic. -/
  | orkhon
  /-- A consonant of Khmer that is drawn below another one after a sign. -/
  | below
  /-- The vowel sign E of Kirat Rai. -/
  | signE
  /-- The vowel sign Ai of Kirat Rai. -/
  | signAi
  deriving DecidableEq, Repr

/-- How selectors ask the character before them to be drawn, if not as a picture. -/
inductive Request
  | none
  | letter
  /-- As wide as a letter of Chinese. -/
  | wide
  /-- In both ways, which is no way. -/
  | both
  deriving DecidableEq, Repr

/-- What follows a character. -/
structure Following where
  sequel : Sequel
  /-- Whether a joiner comes first. -/
  joined : Bool
  /-- Whether the character before is to be drawn as a picture. -/
  picture : Bool
  request : Request
  deriving DecidableEq, Repr

namespace Following

/-- Nothing that matters follows. -/
def plain : Following := ⟨.plain, false, false, .none⟩

/-- Only this follows. -/
def of (sequel : Sequel) : Following := { plain with sequel := sequel }

end Following

namespace Sequel

/-- Whether characters that are not drawn may come before a letter that is drawn together with
    another one. -/
def isLetter : Sequel → Bool
  | alef | lamed | ya | signAndYa | consonant | joinedConsonant | tone | orkhon | below => true
  | _ => false

/-- Whether a joiner may come before such a letter. -/
def isJoinable (sequel : Sequel) : Bool := sequel.isLetter && sequel != .alef

end Sequel

/-- The code points of the characters that can be drawn as pictures on request. -/
def selectableRanges : Unicode.Ranges := Unicode.Ranges.read
  "23 2A 30-39 A9 AE 203C 2049 2122 2139 2194-2199 21A9-21AA 231A-231B 2328 23CF 23E9-23F3
    23F8-23FA 24C2 25AA-25AB 25B6 25C0 25FB-25FE 2600-2604 260E 2611 2614-2615 2618 261D 2620
    2622-2623 2626 262A 262E-262F 2638-263A 2640 2642 2648-2653 265F-2660 2663 2665-2666 2668
    267B 267E-267F 2692-2697 2699 269B-269C 26A0-26A1 26A7 26AA-26AB 26B0-26B1 26BD-26BE
    26C4-26C5 26C8 26CE-26CF 26D1 26D3-26D4 26E9-26EA 26F0-26F5 26F7-26FA 26FD 2702 2705
    2708-270D 270F 2712 2714 2716 271D 2721 2728 2733-2734 2744 2747 274C 274E 2753-2755 2757
    2763-2764 2795-2797 27A1 27B0 27BF 2934-2935 2B05-2B07 2B1B-2B1C 2B50 2B55 3030 303D 3297
    3299 1F004 1F170-1F171 1F17E-1F17F 1F202 1F21A 1F22F 1F237 1F30D-1F30F 1F315 1F31C 1F321
    1F324-1F32C 1F336 1F378 1F37D 1F393 1F396-1F397 1F399-1F39B 1F39E-1F39F 1F3A7 1F3AC-1F3AE
    1F3C2 1F3C4 1F3C6 1F3CA-1F3CE 1F3D4-1F3E0 1F3ED 1F3F3 1F3F5 1F3F7 1F408 1F415 1F41F 1F426
    1F43F 1F441-1F442 1F446-1F449 1F44D-1F44E 1F453 1F46A 1F47D 1F4A3 1F4B0 1F4B3 1F4BB 1F4BF
    1F4CB 1F4DA 1F4DF 1F4E4-1F4E6 1F4EA-1F4ED 1F4F7 1F4F9-1F4FB 1F4FD 1F508 1F50D 1F512-1F513
    1F549-1F54A 1F550-1F567 1F56F-1F570 1F573-1F579 1F587 1F58A-1F58D 1F590 1F5A5 1F5A8
    1F5B1-1F5B2 1F5BC 1F5C2-1F5C4 1F5D1-1F5D3 1F5DC-1F5DE 1F5E1 1F5E3 1F5E8 1F5EF 1F5F3 1F5FA
    1F610 1F687 1F68D 1F691 1F694 1F698 1F6AD 1F6B2 1F6B9-1F6BA 1F6BC 1F6CB 1F6CD-1F6CF
    1F6E0-1F6E5 1F6E9 1F6F0 1F6F3"

/-- Whether a character can be drawn as a picture on request. -/
def isSelectable (c : Char) : Bool := selectableRanges.contains c.toNat

/-- Whether a character is a letter of which two make a flag. -/
def isRegion (c : Char) : Bool := 0x1F1E6 ≤ c.toNat && c.toNat ≤ 0x1F1FF

/-- Whether a character is drawn as a picture. -/
def isPicture (c : Char) : Bool := Unicode.isAmong Unicode.pictureRanges c && !isRegion c

/-- Whether a picture is drawn as wide as a letter on request. Pictures of Chinese letters stay as
    they are. -/
def isNarrowed (c : Char) : Bool :=
  isSelectable c && isPicture c && !(0x1F200 ≤ c.toNat && c.toNat ≤ 0x1F2FF)

/-- Whether a character changes how a picture before it is drawn. -/
def isModifier (c : Char) : Bool := Unicode.modifierRanges.contains c.toNat

/-- Whether a character is a quote that can be drawn wide. -/
def isQuote (c : Char) : Bool := c = '\u2018' ∨ c = '\u2019' ∨ c = '\u201C' ∨ c = '\u201D'

/-- The joiner of characters. -/
def joiner : Char := '\u200D'

/-- Marks that are not drawn. They do not separate letters that are drawn as one. -/
def unseenMarkRanges : Unicode.Ranges :=
  Unicode.Ranges.read "34F 17B4-17B5 180B-180D 180F FE00-FE0F E0100-E01EF"

/-- The forms of the letter Lam of Arabic. -/
def lamRanges : Unicode.Ranges := Unicode.Ranges.read "644 6B5-6B8 76A 8A6 8C7"

/-- The forms of the letter Alef of Arabic. -/
def alefRanges : Unicode.Ranges :=
  Unicode.Ranges.read "622-623 625 627 671-673 675 773-774 870-882"

/-- Characters that take no column and are marks in the sense of Unicode, but separate letters of
    Arabic. -/
def separatingRanges : Unicode.Ranges :=
  Unicode.Ranges.read "605 890-891 8E2 180E 200C-200D 2066-2069"

/-- Whether a character does not separate letters of Arabic. -/
def isTransparent (c : Char) : Bool :=
  columns c == 0 && Unicode.isAmong Unicode.markRanges c && !separatingRanges.contains c.toNat

/-- The consonants of Tifinagh. -/
def consonantRanges : Unicode.Ranges := Unicode.Ranges.read "2D31-2D65 2D6F"

/-- The consonants of Khmer that are drawn below another one after a sign. -/
def belowRanges : Unicode.Ranges := Unicode.Ranges.read
  "1780-1782 1784-1787 1789-178C 178E-1793 1795-1798 179B-179D 17A0 17A2 17A7 17AB-17AC 17AF"

/-- What a character means for the one before it. -/
def sequelOf (c : Char) : Sequel :=
  if c.toNat < 0xA0 then .plain
  else if isRegion c then .region
  else if isModifier c then .modifier
  else if isPicture c then .picture
  else if alefRanges.contains c.toNat then .alef
  else if c = '\u05DC' then .lamed
  else if c = '\u1A10' then .ya
  else if consonantRanges.contains c.toNat then .consonant
  else if c = '\uA4FC' ∨ c = '\uA4FD' then .tone
  else if c = '𐰃' then .orkhon
  else if belowRanges.contains c.toNat then .below
  else if c = '𖵧' then .signE
  else if c = '𖵨' then .signAi
  else .plain

namespace Following

/-- What follows without the request for a picture. -/
def withoutPicture (next : Following) : Following :=
  if !next.picture then next
  else if next.sequel.isLetter then { next with picture := false }
  else plain

/-- What follows without other requests. -/
def withoutRequest (next : Following) : Following :=
  if next.request = .none then next
  else if next.sequel.isLetter then { next with request := .none }
  else plain

/-- The selectors: for a picture, for a letter, and for a wide letter. -/
inductive Selector
  | picture | letter | wide
  deriving DecidableEq, Repr

/-- The selector that a character is. -/
def selector? (c : Char) : Option Selector :=
  if c = '\uFE0F' then some .picture
  else if c = '\uFE0E' then some .letter
  else if c = '\uFE01' then some .wide
  else none

/-- What follows with the request of a selector before it. It is all that matters, unless letters
    or a joined picture follow. -/
def select (next : Following) : Selector → Following
  | .picture =>
    if next.sequel.isLetter ∨ (next.sequel = .joinedPicture ∨ next.sequel = .joinedKey) then
      { next with picture := true }
    else { plain with picture := true }
  | .letter =>
    if next.sequel.isLetter then { next with request := .letter }
    else { plain with request := .letter }
  | .wide =>
    if next.sequel.isLetter then
      { next with
        request := if next.request = .letter ∨ next.request = .both then .both else .wide }
    else { plain with request := .wide }

/-- What follows the character before one that takes its own columns. -/
def after (c : Char) : Following := of (sequelOf c)

/-- How the number of columns changes by a character before others, and what follows the character
    before it, where the two are drawn in a way of their own. -/
def joinedStep? (c : Char) (next : Following) : Option (Int × Following) :=
  let digit := 0xE0030 ≤ c.toNat ∧ c.toNat ≤ 0xE0039
  let letter := 0xE0061 ≤ c.toNat ∧ c.toNat ≤ 0xE007A
  match next.sequel with
  | .alef =>
    if lamRanges.contains c.toNat then some (0, plain)
    else if isTransparent c then some (0, of .alef)
    else none
  | .lamed => if next.joined ∧ c = '\u05D0' then some (0, plain) else none
  | .below => if c = '\u17D2' then some (-1, plain) else none
  | .ya => if next.joined ∧ c = '\u1A17' then some (0, of .signAndYa) else none
  | .signAndYa => if c = '\u1A15' then some (0, plain) else none
  | .consonant =>
    if c = '\u2D7F' then some (1, of .joinedConsonant)
    else if next.joined ∧ consonantRanges.contains c.toNat then some (0, plain)
    else none
  | .joinedConsonant =>
    if consonantRanges.contains c.toNat then some (-1, plain) else none
  | .tone => if '\uA4F8' ≤ c ∧ c ≤ '\uA4FB' then some (0, plain) else none
  | .orkhon => if next.joined ∧ c = '𐰲' then some (0, plain) else none
  | .signE =>
    if c = '𖵣' then some (0, plain)
    else if c = '𖵧' then some (0, of .signAi)
    else if c = '𖵨' then some (1, of .signE)
    else if c = '𖵩' then some (0, plain)
    else none
  | .signAi => if c = '𖵣' then some (0, plain) else none
  | .modifier =>
    if Unicode.modifiedRanges.contains c.toNat then some (0, of .picture)
    else if c = joiner then some (0, of .joinedPicture)
    else none
  | .region => if isRegion c then some (1, of .regions) else none
  | .regions =>
    if isRegion c then some (1, of .regions)
    else if c = joiner then some (0, of .joinedPicture)
    else none
  | .picture => if c = joiner then some (0, of .joinedPicture) else none
  | .joinedPicture =>
    if c = '\u20E3' then some (0, of .joinedKey)
    else if isRegion c then some (1, of .joinedRegion)
    else if isModifier c then some (0, of .modifier)
    else if c.toNat = 0xE007F then some (0, of (.joinedTags 0 0))
    else if isPicture c then some (0, of .picture)
    else none
  | .joinedRegion | .joinedOdd => if isRegion c then some (-1, of .joinedEven) else
    if next.sequel = .joinedOdd ∧ c = joiner then some (0, of .joinedPicture) else none
  | .joinedEven =>
    if isRegion c then some (3, of .joinedOdd)
    else if c = joiner then some (0, of .joinedPicture)
    else none
  | .joinedTags letters digits =>
    if letter ∧ digits = 0 ∧ letters < 6 then some (0, of (.joinedTags (letters + 1) 0))
    else if digit ∧ digits < 3 ∧ letters < 5 then some (0, of (.joinedTags letters (digits + 1)))
    else if c = '🏴' ∧ (digits = 3 ∨ (digits = 0 ∧ 3 ≤ letters)) then some (0, of .picture)
    else none
  | .plain | .lineFeed | .joinedKey => none

/-- How the number of columns changes by a character before others, and what follows the character
    before it. -/
def step (c : Char) (next : Following) : Int × Following :=
  if next.picture ∧ isSelectable c then
    (if next.sequel = .joinedPicture ∨ next.sequel = .joinedKey then 0 else 2, of .picture)
  else
    let next := next.withoutPicture
    if c.toNat ≤ 0xA0 then
      if c = '\n' then (1, of .lineFeed)
      else if c = '\r' ∧ next = of .lineFeed then (0, plain)
      else (1, plain)
    else
      match selector? c with
      | some selector => (0, next.select selector)
      | none =>
        if next.request = .letter ∧ isNarrowed c then (1, plain)
        else if next.request = .wide ∧ isQuote c then (2, plain)
        else
          let next := next.withoutRequest
          if next.sequel.isJoinable ∧ c = joiner then (0, { next with joined := true })
          else if next.sequel.isJoinable ∧ unseenMarkRanges.contains c.toNat then (0, next)
          else (next.joinedStep? c).getD (columns c, after c)

end Following

/-!
## Width

How many columns a text takes where every character takes a fixed number of them, except for those
that are drawn as one. A text can be filled up with blanks, and those take a column each.
-/

/-- The number of columns that a text takes, and what follows a character before it, when columns
    and what follows the text are given. -/
def measure (start : Int × Following) (text : List Char) : Int × Following :=
  text.foldr (fun c (total, next) => ((next.step c).1 + total, (next.step c).2)) start

/-- The number of columns that a text takes. -/
def width (text : List Char) : Nat := (measure (0, .plain) text).1.toNat

/-- A text with blanks after it, so that it takes a number of columns. -/
def padded (text : List Char) (total : Nat) : List Char :=
  text ++ List.replicate (total - width text) ' '

/-- Blanks take a column each, and do not matter to what is before them. -/
theorem measure_blanks (count : Nat) :
    measure (0, .plain) (List.replicate count ' ') = ((count : Int), .plain) := by
  induction count with
  | zero => rfl
  | succ count inductionHypothesis =>
    have blank : Following.step ' ' .plain = (1, .plain) := rfl
    simp only [measure, List.replicate_succ, List.foldr_cons] at inductionHypothesis ⊢
    rw [inductionHypothesis]
    simp only [blank, Int.natCast_succ, Prod.mk.injEq, and_true]
    omega

end FileQuery.Text
