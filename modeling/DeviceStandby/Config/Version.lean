import DeviceStandby.Number.Width
import DeviceStandby.Text.Blank

/-!
# Content versions

The content version of a configuration is four numbers with points between them.  Versions are
ordered by their numbers, the first one first; a text that is no version comes before all that are.
-/

namespace DeviceStandby

/-- Four numbers that say how new a configuration is. -/
structure Version where
  first : Nat
  second : Nat
  third : Nat
  fourth : Nat
deriving DecidableEq, Repr

namespace Version

/-- The numbers of a version. -/
def parts (version : Version) : List Nat :=
  [version.first, version.second, version.third, version.fourth]

/-- Reads one number of a version: ASCII digits, of a number that 32 bits hold. -/
def part? (digits : List Char) : Option Nat :=
  (decimal? digits).bind (fun value => if value ≤ 0xFFFFFFFF then some value else none)

/-- Reads a version. -/
def parse? (text : String) : Option Version :=
  match (splitAt '.' text.toList).mapM part? with
  | some [first, second, third, fourth] => some ⟨first, second, third, fourth⟩
  | _ => none

/-- Compares two versions, number by number. -/
def compare (a b : Version) : Ordering :=
  (Ord.compare a.first b.first).then
    ((Ord.compare a.second b.second).then
      ((Ord.compare a.third b.third).then (Ord.compare a.fourth b.fourth)))

/-- Compares the versions that two texts denote; a text that denotes none is the older one. -/
def compareTexts (a b : String) : Ordering :=
  match parse? a, parse? b with
  | none, none => .eq
  | none, some _ => .lt
  | some _, none => .gt
  | some a, some b => a.compare b

/-- The newer of two texts, the first one if neither is newer. -/
def newer (a b : String) : String := if compareTexts a b = .lt then b else a

end Version

end DeviceStandby
