import LayeredConfig.Text.Cut

/-!
# Capturing output

Output is captured line by line, each line with one line feed behind it. A
carriage return in front of a line feed belongs to the line's end. Capturing
stops at the first line that is no text.
-/

namespace LayeredConfig.Capture

/-- The octet of a line feed. -/
def lineFeed : UInt8 := 10

/-- The octet of a carriage return. -/
def carriageReturn : UInt8 := 13

/-- A line without the carriage return at its end. -/
def withoutReturn (line : List UInt8) : List UInt8 :=
  if line.getLast? = some carriageReturn then line.dropLast else line

/-- The lines of octets, without their ends. What follows the last line feed is
a line as it stands, unless it is empty. -/
def lines : List UInt8 → List (List UInt8) :=
  go []
where
  /-- Gather the octets of a line, last one first. -/
  go (gathered : List UInt8) : List UInt8 → List (List UInt8)
    | [] => if gathered.isEmpty then [] else [gathered.reverse]
    | octet :: rest =>
      if octet = lineFeed then withoutReturn gathered.reverse :: go [] rest
      else go (octet :: gathered) rest

/-- The text of octets. -/
def text? (octets : List UInt8) : Option String := String.fromUTF8? ⟨octets.toArray⟩

/-- The texts of lines, up to the first that is no text. -/
def texts : List (List UInt8) → List String
  | [] => []
  | line :: rest =>
    match text? line with
    | some text => text :: texts rest
    | none => []

/-- What is captured of octets. -/
def capture (octets : ByteArray) : String :=
  String.join ((texts (lines octets.toList)).map (· ++ "\n"))

end LayeredConfig.Capture
