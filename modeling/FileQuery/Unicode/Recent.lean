import FileQuery.Unicode.Binary
import FileQuery.Unicode.Category

/-!
# Recent characters

The classes of patterns are those of version 16 of the Unicode standard. Names of groups and
quoted texts are judged by version 17, which differs in the characters that it adds.
-/

namespace FileQuery.Unicode

/-- The characters that version 17 adds. -/
def recentRanges : Ranges := Ranges.read
  "88F C5C CDC 1ACF-1ADD 1AE0-1AEB 20C1 2B96 A7CE-A7CF A7D2 A7D4 A7F1 FBC3-FBD2 FD90-FD91
   FDC8-FDCE 10940-10959 10EC5-10EC7 10ED0-10ED8 10EFA-10EFB 11B60-11B67 11DB0-11DDB 11DE0-11DE9
   16EA0-16EB8 16EBB-16ED3 16FF2-16FF6 187F8-187FF 18D09-18D1E 18D80-18DF2 1CCFA-1CCFC
   1CEBA-1CED0 1CEE0-1CEF0 1E6C0-1E6DE 1E6E0-1E6F5 1E6FE-1E6FF 1F6D8 1F777-1F77A 1F8D0-1F8D8
   1FA54-1FA57 1FA8A 1FA8E 1FAC8 1FACD 1FAEA 1FAEF 1FBFA 2B73A-2B73F 2CEA2-2CEAD 323B0-33479"

/-- The letters among them, in the sense of the Alphabetic property. -/
def recentLetters : Ranges := Ranges.read
  "88F C5C CDC A7CE-A7CF A7D2 A7D4 A7F1 10940-10959 10EC5-10EC7 10EFA-10EFB 11B60-11B67
   11DB0-11DDB 16EA0-16EB8 16EBB-16ED3 16FF2-16FF6 187F8-187FF 18D09-18D1E 18D80-18DF2
   1E6C0-1E6DE 1E6E0-1E6F5 1E6FE-1E6FF 2B73A-2B73F 2CEA2-2CEAD 323B0-33479"

/-- The signs for numbers among them. -/
def recentNumbers : Ranges := Ranges.read
  "11DE0-11DE9 16FF4-16FF6"

/-- The characters among them that extend the one before them. -/
def recentExtenders : Ranges := Ranges.read
  "1ACF-1ADD 1AE0-1AEB 10EFA-10EFB 11B60 11B62-11B64 11B66 1E6E3 1E6E6 1E6EE-1E6EF 1E6F5"

/-- The characters among them that are drawn as pictures. -/
def recentPictures : Ranges := Ranges.read "1F6D8 1FA8A 1FA8E 1FAC8 1FACD 1FAEA 1FAEF"

/-- The code points of a class of a table. -/
def classRanges (classes : List NamedClass) (name : String) : Ranges :=
  match findClass? classes name with
  | some found => Ranges.read found.text
  | none => []

/-- The letters, in the sense of the Alphabetic property. -/
def letterRanges : List Ranges := [classRanges binaryProperties "alpha", recentLetters]

/-- The decimal digits and the other signs for numbers. -/
def numberRanges : List Ranges :=
  recentNumbers :: ["nd", "nl", "no"].map (classRanges categories)

/-- The characters that extend the one before them in version 16, but not any more: the marks for
    voiced sounds that take as much room as a letter. -/
def formerExtenders : Ranges := [(0xFF9E, 0xFF9F)]

/-- The characters that extend the one before them. -/
def extenderRanges : List Ranges :=
  [(classRanges binaryProperties "grext").without formerExtenders, recentExtenders]

/-- Whether a character is in one of several classes. -/
def isAmong (classes : List Ranges) (c : Char) : Bool := classes.any (·.contains c.toNat)

/-- Whether a character is a letter. -/
def isLetter (c : Char) : Bool := isAmong letterRanges c

/-- Whether a character is a sign for a number. -/
def isNumber (c : Char) : Bool := isAmong numberRanges c

/-- Whether a character extends the one before it. -/
def isExtender (c : Char) : Bool := isAmong extenderRanges c

/-- The characters that are not drawn unless they have to be. -/
def ignorableRanges : Ranges := classRanges binaryProperties "di"

/-- The characters that are drawn as pictures. -/
def pictureRanges : List Ranges := [classRanges binaryProperties "epres", recentPictures]

/-- The characters that change how a picture before them is drawn. -/
def modifierRanges : Ranges := classRanges binaryProperties "emod"

/-- The characters whose pictures can be drawn in another way. -/
def modifiedRanges : Ranges := classRanges binaryProperties "ebase"

/-- Marks, and characters that only affect others. -/
def markRanges : List Ranges :=
  recentExtenders :: ["mn", "me", "cf"].map (classRanges categories)

/-- Whether the standard has a character at a code point that version 16 leaves unassigned. -/
def isRecent (c : Char) : Bool := recentRanges.contains c.toNat

end FileQuery.Unicode
