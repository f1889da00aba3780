/-!
# Reading UTF-8

`nextChar` takes one character off a byte sequence, or the longest run of bytes that begins a
character and cannot be completed.  `decode?` reads a whole text and refuses such a run; `decodeLossy`
puts the replacement character U+FFFD in its place.
-/

namespace DeviceStandby.Utf8

/-- Whether a byte lies between two bounds, both included. -/
def within (low high : Nat) (byte : UInt8) : Bool := low ≤ byte.toNat && byte.toNat ≤ high

/-- The ranges of the bytes that may follow a first byte; `none` if no character begins so. -/
def followers (first : UInt8) : Option (List (Nat × Nat)) :=
  let code := first.toNat
  if code ≤ 0x7F then some []
  else if code < 0xC2 then none
  else if code ≤ 0xDF then some [(0x80, 0xBF)]
  else if code = 0xE0 then some [(0xA0, 0xBF), (0x80, 0xBF)]
  else if code = 0xED then some [(0x80, 0x9F), (0x80, 0xBF)]
  else if code ≤ 0xEF then some [(0x80, 0xBF), (0x80, 0xBF)]
  else if code = 0xF0 then some [(0x90, 0xBF), (0x80, 0xBF), (0x80, 0xBF)]
  else if code ≤ 0xF3 then some [(0x80, 0xBF), (0x80, 0xBF), (0x80, 0xBF)]
  else if code = 0xF4 then some [(0x80, 0x8F), (0x80, 0xBF), (0x80, 0xBF)]
  else none

/-- The value bits of a first byte. -/
def leadBits (first : UInt8) : Nat :=
  let code := first.toNat
  if code ≤ 0x7F then code
  else if code ≤ 0xDF then code % 0x20
  else if code ≤ 0xEF then code % 0x10
  else code % 0x08

/-- Takes the following bytes of a character in turn: the code point if all are there, and the
bytes left over. -/
def takeFollowers (code : Nat) : List (Nat × Nat) → List UInt8 → Option Nat × List UInt8
  | [], bytes => (some code, bytes)
  | _ :: _, [] => (none, [])
  | (low, high) :: ranges, byte :: bytes =>
    if within low high byte then takeFollowers (code * 0x40 + byte.toNat % 0x40) ranges bytes
    else (none, byte :: bytes)

/-- No bytes are added. -/
theorem takeFollowers_length (code : Nat) (ranges : List (Nat × Nat)) (bytes : List UInt8) :
    (takeFollowers code ranges bytes).2.length ≤ bytes.length := by
  induction ranges generalizing code bytes with
  | nil => exact Nat.le_refl _
  | cons range ranges ih =>
    cases bytes with
    | nil => exact Nat.le_refl _
    | cons byte bytes =>
      simp only [takeFollowers]
      split
      · exact Nat.le_trans (ih _ _) (Nat.le_succ _)
      · exact Nat.le_refl _

/-- The first character, or `none` for a run that is no character, and the bytes after it. -/
def nextChar (first : UInt8) (bytes : List UInt8) : Option Char × List UInt8 :=
  match followers first with
  | none => (none, bytes)
  | some ranges =>
    let (code, rest) := takeFollowers (leadBits first) ranges bytes
    (code.map Char.ofNat, rest)

/-- What is left over is no longer than what followed the first byte. -/
theorem nextChar_length (first : UInt8) (bytes : List UInt8) :
    (nextChar first bytes).2.length ≤ bytes.length := by
  unfold nextChar
  split
  · exact Nat.le_refl _
  · exact takeFollowers_length _ _ _

/-- The characters in turn, with `none` for each run of bytes that is no character. -/
def pieces : List UInt8 → List (Option Char)
  | [] => []
  | first :: bytes =>
    (nextChar first bytes).1 :: pieces (nextChar first bytes).2
termination_by bytes => bytes.length
decreasing_by
  have := nextChar_length first bytes
  simp only [List.length_cons]
  omega

/-- The text that the bytes spell; `none` if some of them spell no character. -/
def decode? (bytes : List UInt8) : Option (List Char) := (pieces bytes).mapM id

/-- The text that the bytes spell, with U+FFFD where they spell no character. -/
def decodeLossy (bytes : List UInt8) : List Char :=
  (pieces bytes).map (fun piece => piece.getD (Char.ofNat 0xFFFD))

end DeviceStandby.Utf8
