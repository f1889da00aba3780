import DeviceStandby.Json.Reader
import DeviceStandby.Time.Calendar

/-!
# Scalars of a configuration text

Readers for names, quoted texts, dates and times, and numbers, as TOML 1.0 spells them.  Each takes
the characters of the text and returns what it read with the characters after it.  A date or time is
read only to see that it is well formed: no setting holds one, so it becomes a record whose single
member belongs to no setting.
-/

namespace DeviceStandby.Toml

/-! ## Blanks, line ends and comments -/

/-- The blanks inside a line. -/
def isGap (c : Char) : Bool := c == ' ' || c == '\t'

/-- The text without the blanks at its start. -/
def skipGap (text : List Char) : List Char := text.dropWhile isGap

/-- The text after a line end, if it starts with one. -/
def afterNewline? : List Char → Option (List Char)
  | '\n' :: rest => some rest
  | '\r' :: '\n' :: rest => some rest
  | _ => none

/-- Whether a character may stand in a comment, or unescaped in a quoted text, its quote and the
backslash apart. -/
def isPrintable (c : Char) : Bool :=
  c == '\t' || (0x20 ≤ c.toNat && c.toNat != 0x7F)

/-- The text from the line end on, given the text after `#`; `none` if a control character comes
first. -/
def afterComment? : List Char → Option (List Char)
  | [] => some []
  | c :: rest =>
    if (afterNewline? (c :: rest)).isSome then some (c :: rest)
    else if isPrintable c then afterComment? rest
    else none

/-- The text after the line, if nothing but blanks and a comment is left on it. -/
def afterLine? (text : List Char) : Option (List Char) :=
  let text := skipGap text
  let atEnd := match text with
    | '#' :: rest => afterComment? rest
    | text => some text
  match atEnd with
  | none => none
  | some [] => some []
  | some text => afterNewline? text

/-- The text without the blanks, line ends and comments at its start. -/
def skipLines : Nat → List Char → List Char
  | 0, text => text
  | fuel + 1, text =>
    match skipGap text with
    | '#' :: rest =>
      match afterComment? rest with
      | some text => if text.isEmpty then '#' :: rest else skipLines fuel text
      | none => '#' :: rest
    | text =>
      match afterNewline? text with
      | some text => skipLines fuel text
      | none => text

/-! ## Quoted texts -/

/-- The character that some hexadecimal digits denote. -/
def codePoint? (digits : List Char) : Option Char := do
  let code ← digits.foldlM (fun code digit => (Json.hexDigit? digit).map (code * 16 + ·)) 0
  if code < 0xD800 ∨ (0xE000 ≤ code ∧ code < 0x110000) then some (Char.ofNat code) else none

/-- The character that an escape stands for, given the text after the backslash. -/
def escaped? : List Char → Option (Char × List Char)
  | [] => none
  | c :: rest =>
    if c = '"' ∨ c = '\\' then some (c, rest)
    else if c = 'n' then some ('\n', rest)
    else if c = 't' then some ('\t', rest)
    else if c = 'r' then some ('\r', rest)
    else if c = 'b' then some (Char.ofNat 0x08, rest)
    else if c = 'f' then some (Char.ofNat 0x0C, rest)
    else
      let count := if c = 'u' then 4 else if c = 'U' then 8 else 0
      if count = 0 ∨ rest.length < count then none
      else (codePoint? (rest.take count)).map (fun d => (d, rest.drop count))

/-- Reads a text on one line up to `quote`; only between `"` are there escapes. -/
def line? (quote : Char) : Nat → List Char → List Char → Option (String × List Char)
  | 0, _, _ => none
  | _ + 1, _, [] => none
  | fuel + 1, done, c :: rest =>
    if c = quote then some (String.ofList done.reverse, rest)
    else if c = '\\' ∧ quote = '"' then
      match escaped? rest with
      | some (d, rest) => line? quote fuel (d :: done) rest
      | none => none
    else if isPrintable c then line? quote fuel (c :: done) rest
    else none

/-- The text without the blanks and line ends at its start. -/
def skipBreaks : List Char → List Char
  | [] => []
  | '\r' :: '\n' :: rest => skipBreaks rest
  | c :: rest => if isGap c || c == '\n' then skipBreaks rest else c :: rest

/-- The text after a backslash at the end of a line: the line end and all blanks and line ends after
it are skipped. -/
def afterFold? (text : List Char) : Option (List Char) :=
  (afterNewline? (skipGap text)).map skipBreaks

/-- Reads a text over several lines up to three quotes; up to two quotes more belong to it. -/
def block? (quote : Char) : Nat → List Char → List Char → Option (String × List Char)
  | 0, _, _ => none
  | _ + 1, _, [] => none
  | fuel + 1, done, c :: rest =>
    if c = quote then
      let more := (rest.takeWhile (· == quote)).length
      if 2 ≤ more then
        let extra := min (more - 2) 2
        some (String.ofList (List.replicate extra quote ++ done).reverse, rest.drop (2 + extra))
      else block? quote fuel (c :: done) rest
    else if c = '\\' ∧ quote = '"' then
      match afterFold? rest with
      | some rest => block? quote fuel done rest
      | none =>
        match escaped? rest with
        | some (d, rest) => block? quote fuel (d :: done) rest
        | none => none
    else
      match afterNewline? (c :: rest) with
      | some rest => block? quote fuel ('\n' :: done) rest
      | none => if isPrintable c then block? quote fuel (c :: done) rest else none

/-- Reads a quoted text, given `quote` and the text after it. -/
def quoted? (quote : Char) (text : List Char) : Option (String × List Char) :=
  let fuel := text.length + 1
  match text with
  | a :: b :: rest =>
    if a = quote ∧ b = quote then block? quote fuel [] ((afterNewline? rest).getD rest)
    else line? quote fuel [] text
  | _ => line? quote fuel [] text

/-! ## Names -/

/-- Whether a character may stand in a name without quotes. -/
def isBare (c : Char) : Bool := c.isAlphanum || c == '_' || c == '-'

/-- Reads one part of a name. -/
def part? : List Char → Option (String × List Char)
  | [] => none
  | c :: rest =>
    if c = '"' ∨ c = '\'' then line? c (rest.length + 1) [] rest
    else
      let (word, rest) := (c :: rest).span isBare
      if word.isEmpty then none else some (String.ofList word, rest)

/-- Reads a dotted name, of at most `fuel` parts, and the blanks after it. -/
def name? : Nat → List Char → Option (List String × List Char)
  | 0, _ => none
  | fuel + 1, text =>
    match part? (skipGap text) with
    | none => none
    | some (part, rest) =>
      match skipGap rest with
      | '.' :: rest => (name? fuel rest).map (fun (parts, rest) => (part :: parts, rest))
      | rest => some ([part], rest)

/-! ## Dates and times -/

/-- The text after a date. -/
def afterDate? (text : List Char) : Option (List Char) := do
  let (year, text) ← digitField? 4 4 text
  let text ← afterChar? '-' text
  let (month, text) ← pairField? 1 12 text
  let text ← afterChar? '-' text
  let (_, text) ← pairField? 1 (daysInMonth year month) text
  return text

/-- The text after a time of day. -/
def afterTime? (text : List Char) : Option (List Char) := do
  let (_, text) ← pairField? 0 23 text
  let text ← afterChar? ':' text
  let (_, text) ← pairField? 0 59 text
  let text ← afterChar? ':' text
  let (_, text) ← pairField? 0 60 text
  match text with
  | '.' :: c :: rest => return if c.isDigit then rest.dropWhile Char.isDigit else text
  | text => return text

/-- The text after an offset from universal time. -/
def afterOffset? : List Char → Option (List Char)
  | c :: rest =>
    if c = 'Z' ∨ c = 'z' then some rest
    else if c = '+' ∨ c = '-' then do
      let (_, rest) ← pairField? 0 23 rest
      let rest ← afterChar? ':' rest
      let (_, rest) ← pairField? 0 59 rest
      return rest
    else none
  | [] => none

/-- The text after a date, a time of day, or both with or without an offset. -/
def afterMoment? (text : List Char) : Option (List Char) :=
  match afterDate? text with
  | none => afterTime? text
  | some rest =>
    match rest with
    | c :: later =>
      if c = 'T' ∨ c = 't' ∨ c = ' ' then
        match afterTime? later with
        | some rest => some ((afterOffset? rest).getD rest)
        | none => some rest
      else some rest
    | [] => some rest

/-- What a date or time becomes. -/
def moment : Value := .record [("$moment", .null)]

/-! ## Numbers -/

/-- Reads digits with single underscores between them; the underscores are dropped. -/
def digits? (accept : Char → Bool) : List Char → Option (List Char × List Char)
  | [] => none
  | c :: rest =>
    if accept c then
      match rest with
      | '_' :: d :: later =>
        if accept d then
          match digits? accept (d :: later) with
          | some (digits, rest) => some (c :: digits, rest)
          | none => some ([c], rest)
        else some ([c], rest)
      | d :: later =>
        if accept d then
          match digits? accept (d :: later) with
          | some (digits, rest) => some (c :: digits, rest)
          | none => some ([c], rest)
        else some ([c], rest)
      | [] => some ([c], [])
    else none

/-- Reads the digits of a decimal integer, which do not start with a zero before others. -/
def whole? : List Char → Option (List Char × List Char)
  | '0' :: rest => some (['0'], rest)
  | text => digits? Char.isDigit text

/-- The sign of a number, plus if none is written, and the text after it. -/
def sign : List Char → Bool × List Char
  | '-' :: rest => (true, rest)
  | '+' :: rest => (false, rest)
  | rest => (false, rest)

/-- Reads a number with a fraction or an exponent.  What is no finite number stands as zero, since no
setting is a fraction; only a number too great to be one is refused. -/
def fraction? (text : List Char) : Option (Value × List Char) := do
  let (negative, text) := sign text
  match text with
  | 'i' :: 'n' :: 'f' :: rest => return (.number (.real negative 0 0), rest)
  | 'n' :: 'a' :: 'n' :: rest => return (.number (.real negative 0 0), rest)
  | _ => pure ()
  let (whole, text) ← whole? text
  let (fraction, text) ← match text with
    | '.' :: rest => digits? Char.isDigit rest
    | _ => some ([], text)
  let (exponent, text) ← match text with
    | c :: rest =>
      if c = 'e' ∨ c = 'E' then do
        let (down, rest) := sign rest
        let (digits, rest) ← digits? Char.isDigit rest
        let value ← decimal? digits
        pure (some (if down then -(value : Int) else value), rest)
      else pure (none, text)
    | [] => pure (none, text)
  if fraction.isEmpty ∧ exponent.isNone then none
  else
    let mantissa ← decimal? (whole ++ fraction)
    let exponent := exponent.getD 0 - fraction.length
    match Double.ofDecimal? mantissa exponent with
    | some d => return (.number (.ofDouble negative d), text)
    | none => if negative then return (.number (.real negative 0 0), text) else none

/-- Reads a number in another base, given the text after the sign of the base. -/
def based? (base : Nat) (text : List Char) : Option (Value × List Char) := do
  let accept (c : Char) : Bool := (Json.hexDigit? c).any (· < base)
  let (digits, text) ← digits? accept text
  let value := digits.foldl (fun value c => value * base + (Json.hexDigit? c).getD 0) 0
  let value ← Width.int64.check? value
  return (.int value, text)

/-- Reads an integer. -/
def integer? : List Char → Option (Value × List Char)
  | '0' :: 'x' :: rest => based? 16 rest
  | '0' :: 'o' :: rest => based? 8 rest
  | '0' :: 'b' :: rest => based? 2 rest
  | text => do
    let (negative, text) := sign text
    let (digits, text) ← whole? text
    let value ← decimal? digits
    let value ← Width.int64.check? (if negative then -(value : Int) else value)
    return (.int value, text)

/-- Reads a date, a time or a number. -/
def plain? (text : List Char) : Option (Value × List Char) :=
  match afterMoment? text with
  | some rest => some (moment, rest)
  | none =>
    match fraction? text with
    | some found => some found
    | none => integer? text

end DeviceStandby.Toml
