import Passkey.Unicode.PropertyTables

/-!
# Direction of writing

The rule that keeps names with letters from right to left readable: each label is written in one
direction, and starts and ends with a character that fixes it.
-/

namespace Passkey.Unicode

/-- How a character takes part in the direction of a text. -/
inductive Direction where
  | leftToRight
  | rightToLeft
  | arabicLetter
  | arabicNumber
  | europeanNumber
  | europeanSeparator
  | commonSeparator
  | europeanTerminator
  | nonspacing
  | boundaryNeutral
  | otherNeutral
  | directionless
  deriving DecidableEq, Repr

namespace Direction

/-- The tables of all directions but the usual one. -/
def tables : List (Direction × Ranges) :=
  [(.rightToLeft, Unicode.rightToLeft), (.arabicLetter, Unicode.arabicLetter),
    (.arabicNumber, Unicode.arabicNumber), (.europeanNumber, Unicode.europeanNumber),
    (.europeanSeparator, Unicode.europeanSeparator), (.commonSeparator, Unicode.commonSeparator),
    (.europeanTerminator, Unicode.europeanTerminator), (.nonspacing, Unicode.nonspacing),
    (.boundaryNeutral, Unicode.boundaryNeutral), (.otherNeutral, Unicode.otherNeutral),
    (.directionless, Unicode.directionless)]

/-- The direction of a character. -/
def ofChar (c : Char) : Direction :=
  ((tables.find? fun entry => entry.2.contains c.toNat).map (·.1)).getD .leftToRight

/-- Whether a character makes the direction of a name a question. -/
def isRightToLeft (d : Direction) : Bool :=
  d == .rightToLeft || d == .arabicLetter || d == .arabicNumber

/-- The directions that may stand in labels of both kinds. -/
def isNeutral (d : Direction) : Bool :=
  d == .europeanNumber || d == .europeanSeparator || d == .commonSeparator
    || d == .europeanTerminator || d == .otherNeutral || d == .boundaryNeutral || d == .nonspacing

/-- The directions without the nonspacing marks at the end. -/
def trimMarks (ds : List Direction) : List Direction :=
  (ds.reverse.dropWhile (· == .nonspacing)).reverse

/-- Whether a label that starts from left to right keeps to it. -/
def leftToRightHolds (ds : List Direction) : Bool :=
  ds.all (fun d => d == .leftToRight || d.isNeutral)
    && (trimMarks ds).getLast?.any fun d => d == .leftToRight || d == .europeanNumber

/-- Whether a label that starts from right to left keeps to it. It may not mix kinds of digits. -/
def rightToLeftHolds (ds : List Direction) : Bool :=
  ds.all (fun d => d.isRightToLeft || d.isNeutral)
    && ((trimMarks ds).getLast?.any fun d => d.isRightToLeft || d == .europeanNumber)
    && !(ds.contains .europeanNumber && ds.contains .arabicNumber)

/-- Whether a label keeps to one direction. -/
def holds (label : List Char) : Bool :=
  let ds := label.map ofChar
  match ds with
  | [] => true
  | .leftToRight :: _ => leftToRightHolds ds
  | .rightToLeft :: _ | .arabicLetter :: _ => rightToLeftHolds ds
  | _ => false

end Direction

end Passkey.Unicode
