import Signpost.Host.Marks

/-!
# Directions

Where some label of a name has characters that are written from right to left, all its labels have to
keep their characters together when the name is shown.

* `directionsFit` states the rule for a name, `Direction.fits` the one for a label.
-/

namespace Signpost.Host

/-- How a character takes part in the direction of a text. -/
inductive Direction where
  | left
  | right
  | arabicNumber
  | europeanNumber
  | neutral
  | nonspacing
deriving DecidableEq

/-- Digits of numbers in Arabic texts, and between them marks. -/
def arabicNumberRuns : Runs :=
  [(0x660, 0x669), (0x66B, 0x66C), (0x10D30, 0x10D39), (0x10E60, 0x10E7E)]

/-- Digits of other numbers. -/
def europeanNumberRuns : Runs :=
  [(0x30, 0x39), (0x6F0, 0x6F9), (0x102E1, 0x102FB)]

/-- Characters without a direction, and between them marks and digits. -/
def neutralRuns : Runs :=
  [(0x21, 0x60), (0x7B, 0xD7), (0xF7, 0xF7), (0x2B9, 0x2BA), (0x2C2, 0x2CF), (0x2D2, 0x2ED),
   (0x2EF, 0x2FF), (0x375, 0x375), (0x3F6, 0x3F6), (0x58A, 0x58F), (0x606, 0x607), (0x609, 0x60A),
   (0x60C, 0x60C), (0x60E, 0x60F), (0x66A, 0x66A), (0x6DE, 0x6DE), (0x6E9, 0x6E9), (0x7F6, 0x7F9),
   (0x9F2, 0x9F3), (0x9FB, 0x9FB), (0xAF1, 0xAF1), (0xBF3, 0xBFA), (0xC78, 0xC7E), (0xE3F, 0xE3F),
   (0xF3A, 0xF3D), (0x1390, 0x1399), (0x1400, 0x1400), (0x169B, 0x169C), (0x17DB, 0x17DB),
   (0x17F0, 0x180A), (0x1940, 0x1945), (0x19DE, 0x19FF), (0x200C, 0x20C0), (0x2104, 0x214D),
   (0x218A, 0x2335), (0x237B, 0x2394), (0x2396, 0x2426), (0x2440, 0x26AB), (0x26AD, 0x27FF),
   (0x2900, 0x2B95), (0x2B97, 0x2BFF), (0x2CE5, 0x2CEA), (0x2CF9, 0x2CFF), (0x2E00, 0x3004),
   (0x3008, 0x3020), (0x3030, 0x3030), (0x3037, 0x3037), (0x303D, 0x303F), (0x30A0, 0x30A0),
   (0x30FB, 0x30FB), (0x31C0, 0x31E3), (0x4DC0, 0x4DFF), (0xA490, 0xA4C6), (0xA60D, 0xA60F),
   (0xA673, 0xA67F), (0xA700, 0xA721), (0xA788, 0xA788), (0xA828, 0xA82B), (0xA838, 0xA839),
   (0xA874, 0xA877), (0xAB6A, 0xAB6B), (0xFD3E, 0xFD4F), (0xFDCF, 0xFE46), (0x10101, 0x10101),
   (0x10140, 0x1018C), (0x10190, 0x101A0), (0x1091F, 0x1091F), (0x10B39, 0x10B3F),
   (0x11052, 0x11065), (0x11660, 0x1166C), (0x11FD5, 0x11FF1), (0x16FE2, 0x16FE2),
   (0x1D1E9, 0x1D245), (0x1D300, 0x1D356), (0x1E2FF, 0x1E2FF), (0x1EEF0, 0x1F12F),
   (0x1F16D, 0x1F16F), (0x1F1AD, 0x1F1AD), (0x1F260, 0x1F6D7), (0x1F6DD, 0x1F773),
   (0x1F780, 0x1F7D8), (0x1F7E0, 0x1F8B1), (0x1F900, 0x1FA53), (0x1FA60, 0x1FA74),
   (0x1FA78, 0x1FA86), (0x1FA90, 0x1FAAC), (0x1FAB0, 0x1FABA), (0x1FAC0, 0x1FAC5),
   (0x1FAD0, 0x1FAD9), (0x1FAE0, 0x1FAE7), (0x1FAF0, 0x1FAF6), (0x1FB00, 0x1FBCA)]

/-- Letters that are written from right to left, and between them all else. -/
def rightRuns : Runs :=
  [(0x5BE, 0x8C9), (0xFBB2, 0xFE73), (0x10800, 0x10FF6), (0x1E800, 0x1ED3D)]

/-- Marks that take up no space and are written from left to right all the same. -/
def leftMarkRuns : Runs :=
  [(0xCBF, 0xCBF), (0xCC6, 0xCC6), (0x11A07, 0x11A08), (0x11C3F, 0x11C3F)]

namespace Direction

/-- The direction of a character. Where runs overlap, the special ones come first. -/
def ofChar (c : Char) : Direction :=
  if leftMarkRuns.has c then left
  else if isNonspacing c then nonspacing
  else if arabicNumberRuns.has c then arabicNumber
  else if europeanNumberRuns.has c then europeanNumber
  else if neutralRuns.has c then neutral
  else if rightRuns.has c then right
  else left

/-- The directions of a label end with one of these, apart from marks. -/
def endIn (directions ends : List Direction) : Bool :=
  (directions.reverse.dropWhile (· = nonspacing)).head?.any ends.contains

/-- The directions of a label keep together: it has one direction, in which it begins and ends, apart
from numbers at the end, of one kind only from right to left. -/
def fits (directions : List Direction) : Bool :=
  match directions with
  | left :: _ =>
    !directions.contains right && !directions.contains arabicNumber &&
      endIn directions [left, europeanNumber]
  | right :: _ =>
    !directions.contains left && endIn directions [right, europeanNumber, arabicNumber] &&
      !(directions.contains europeanNumber && directions.contains arabicNumber)
  | _ => false

end Direction

/-- The labels of a name, none of them empty, can be shown together. -/
def directionsFit (labels : List (List Char)) : Bool :=
  let directions := labels.map (·.map Direction.ofChar)
  let isMixed := directions.any fun d => d.contains .right || d.contains .arabicNumber
  !isMixed || directions.all Direction.fits

end Signpost.Host
