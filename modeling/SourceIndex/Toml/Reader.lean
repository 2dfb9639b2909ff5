import SourceIndex.Decimal.Double
import SourceIndex.Json.Reader
import SourceIndex.Toml.Basic

/-!
# Reading settings files

Reads the text of a settings file as its statements. A statement takes a line of its own, except
that lists and texts of several lines may span more. Blanks are the space and the tab, and a comment
runs from `#` to the end of its line. Control characters may not occur, not even in comments. Lists
and tables in braces may nest 79 deep, and a key may have 79 segments.

The readers of values take an amount of fuel that falls with every call. A call consumes at least
one character before it makes the next but one, so `parse?` gives twice the length of the text.
-/

set_option autoImplicit false

namespace SourceIndex.Toml

open SourceIndex.Json (digitValue naturalOfDigits prepend)
open SourceIndex.Text (hexValue? isDigit)
open SourceIndex.Decimal (Double)

/-! ## Characters -/

/-- A blank within a line. -/
def isBlank (character : Char) : Bool :=
  character == ' ' || character == '\t'

/-- Drops the blanks at the start. -/
def skipBlanks (text : List Char) : List Char :=
  text.dropWhile isBlank

/-- A character that may stand in a comment or a text. -/
def isPlain (character : Char) : Bool :=
  character == '\t' || (32 ≤ character.toNat && character.toNat != 127)

/-- The text after the line end that it starts with. -/
def afterNewline? : List Char → Option (List Char)
  | '\n' :: rest => some rest
  | '\r' :: '\n' :: rest => some rest
  | _ => none

/-- Drops a line end at the start, if there is one. -/
def skipNewline (text : List Char) : List Char :=
  (afterNewline? text).getD text

/-- Drops a comment at the start, if there is one. -/
def skipComment : List Char → List Char
  | '#' :: rest => rest.dropWhile isPlain
  | text => text

/-- The next line, if nothing but blanks and a comment is left of this one. -/
def nextLine? (text : List Char) : Option (List Char) :=
  match skipComment (skipBlanks text) with
  | [] => some []
  | rest => afterNewline? rest

/-- Drops blanks, comments and line ends; `commented` tells that a comment is open. -/
def skipFiller (commented : Bool) : List Char → List Char
  | [] => []
  | '\n' :: rest => skipFiller false rest
  | '\r' :: '\n' :: rest => skipFiller false rest
  | character :: rest =>
    if commented then
      if isPlain character then skipFiller true rest else character :: rest
    else if isBlank character then skipFiller false rest
    else if character = '#' then skipFiller true rest
    else character :: rest

/-! ## Texts -/

/-- The number that hexadecimal digits spell. -/
def naturalOfHex? (digits : List Char) : Option Nat :=
  (digits.mapM hexValue?).map fun values => values.foldl (fun all value => all * 16 + value) 0

/-- The character that hexadecimal digits stand for. -/
def hexCharacter? (digits : List Char) : Option Char :=
  match naturalOfHex? digits with
  | none => none
  | some code => if code.isValidChar then some (Char.ofNat code) else none

/-- The character that a one-letter escape stands for. -/
def letterEscape? (letter : Char) : Option Char :=
  if letter = '"' || letter = '\\' then some letter
  else if letter = 'n' then some '\n'
  else if letter = 't' then some '\t'
  else if letter = 'r' then some '\r'
  else if letter = 'b' then some (Char.ofNat 8)
  else if letter = 'f' then some (Char.ofNat 12)
  else none

/-- Puts a character in front of what was read after it, if both are there. -/
def prepend? (character : Option Char) (read : Option (List Char × List Char)) :
    Option (List Char × List Char) :=
  character.bind fun value => prepend value read

/-- Reads a text with escapes from after its opening quote. -/
def readBasic : List Char → Option (List Char × List Char)
  | [] => none
  | '"' :: rest => some ([], rest)
  | '\\' :: 'u' :: a :: b :: c :: d :: rest =>
    prepend? (hexCharacter? [a, b, c, d]) (readBasic rest)
  | '\\' :: 'U' :: a :: b :: c :: d :: e :: f :: g :: h :: rest =>
    prepend? (hexCharacter? [a, b, c, d, e, f, g, h]) (readBasic rest)
  | '\\' :: letter :: rest => prepend? (letterEscape? letter) (readBasic rest)
  | character :: rest => if isPlain character then prepend character (readBasic rest) else none

/-- Reads a text without escapes from after its opening quote. -/
def readLiteral : List Char → Option (List Char × List Char)
  | [] => none
  | '\'' :: rest => some ([], rest)
  | character :: rest => if isPlain character then prepend character (readLiteral rest) else none

/-- A line ends after the blanks at the start. -/
def endsLine (text : List Char) : Bool :=
  (afterNewline? (skipBlanks text)).isSome

/-- Reads a text of several lines with escapes from after its opening quotes. Up to two quotes may
stand right before the closing three. After a backslash at the end of a line, `joining` tells, the
blanks and line ends that follow do not count. -/
def readLines (joining : Bool) : List Char → Option (List Char × List Char)
  | [] => none
  | '"' :: '"' :: '"' :: '"' :: '"' :: rest => some (['"', '"'], rest)
  | '"' :: '"' :: '"' :: '"' :: rest => some (['"'], rest)
  | '"' :: '"' :: '"' :: rest => some ([], rest)
  | '\\' :: 'u' :: a :: b :: c :: d :: rest =>
    prepend? (hexCharacter? [a, b, c, d]) (readLines false rest)
  | '\\' :: 'U' :: a :: b :: c :: d :: e :: f :: g :: h :: rest =>
    prepend? (hexCharacter? [a, b, c, d, e, f, g, h]) (readLines false rest)
  | '\\' :: letter :: rest =>
    if endsLine (letter :: rest) then readLines true (letter :: rest)
    else prepend? (letterEscape? letter) (readLines false rest)
  | '\r' :: '\n' :: rest =>
    if joining then readLines true rest else prepend '\n' (readLines false rest)
  | '\n' :: rest => if joining then readLines true rest else prepend '\n' (readLines false rest)
  | character :: rest =>
    if joining && isBlank character then readLines true rest
    else if isPlain character then prepend character (readLines false rest)
    else none

/-- Reads a text of several lines without escapes from after its opening quotes. -/
def readLiteralLines : List Char → Option (List Char × List Char)
  | [] => none
  | '\'' :: '\'' :: '\'' :: '\'' :: '\'' :: rest => some (['\'', '\''], rest)
  | '\'' :: '\'' :: '\'' :: '\'' :: rest => some (['\''], rest)
  | '\'' :: '\'' :: '\'' :: rest => some ([], rest)
  | '\r' :: '\n' :: rest => prepend '\n' (readLiteralLines rest)
  | '\n' :: rest => prepend '\n' (readLiteralLines rest)
  | character :: rest =>
    if isPlain character then prepend character (readLiteralLines rest) else none

/-- Reads a text in any of the four forms. -/
def readText (text : List Char) : Option (List Char × List Char) :=
  match text with
  | '"' :: '"' :: '"' :: rest => readLines false (skipNewline rest)
  | '"' :: rest => readBasic rest
  | '\'' :: '\'' :: '\'' :: rest => readLiteralLines (skipNewline rest)
  | '\'' :: rest => readLiteral rest
  | _ => none

/-! ## Numbers -/

/-- Reads digits after the first one. An underscore may stand between two digits. -/
def readDigits (accepts : Char → Bool) : List Char → Option (List Char × List Char)
  | [] => some ([], [])
  | '_' :: digit :: rest =>
    if accepts digit then prepend digit (readDigits accepts rest) else none
  | digit :: rest =>
    if accepts digit then prepend digit (readDigits accepts rest)
    else if digit = '_' then none
    else some ([], digit :: rest)

/-- Reads digits, of which there must be at least one. -/
def readDigits1 (accepts : Char → Bool) : List Char → Option (List Char × List Char)
  | [] => none
  | digit :: rest =>
    if accepts digit then prepend digit (readDigits accepts rest) else none

/-- Reads the digits of a whole number, of which only zero itself may start with zero. -/
def readWhole : List Char → Option (List Char × List Char)
  | '0' :: rest => some (['0'], rest)
  | text => readDigits1 isDigit text

/-- A number of decimal digits and a power of ten is too large for floating point. -/
def overflows (digits : List Char) (exponent : Int) : Bool :=
  let significant := digits.dropWhile (· == '0')
  let size := (significant.length : Int) + exponent
  if significant.isEmpty || size < 300 then false
  else if 400 < size then true
  else
    let value := naturalOfDigits significant
    if 0 ≤ exponent then (Double.ofRatio false (value * Nat.pow 10 exponent.toNat) 1).isNone
    else (Double.ofRatio false value (Nat.pow 10 (-exponent).toNat)).isNone

/-- Reads a sign, if there is one: whether it is a minus. -/
def readSign : List Char → Bool × List Char
  | '+' :: rest => (false, rest)
  | '-' :: rest => (true, rest)
  | text => (false, text)

/-- Reads an exponent from after its mark. -/
def readExponent (text : List Char) : Option (Int × List Char) :=
  let signed := readSign text
  (readDigits1 isDigit signed.2).map fun digits =>
    let power : Int := naturalOfDigits digits.1
    (if signed.1 then -power else power, digits.2)

/-- Reads the exponent of a number that goes on with one, or nothing. -/
def readExponent? (text : List Char) : Option (Int × List Char) :=
  match text with
  | 'e' :: rest => readExponent rest
  | 'E' :: rest => readExponent rest
  | _ => some (0, text)

/-- The characters of a text before what is left of it. -/
def spelling (text rest : List Char) : List Char :=
  text.take (text.length - rest.length)

/-- A number that is not whole, unless it is above all that floating point can hold. -/
def floatOf (text : List Char) (negative : Bool) (whole fraction : List Char)
    (exponent : Int × List Char) : Option (Toml × List Char) :=
  if !negative && overflows (whole ++ fraction) (exponent.1 - fraction.length) then none
  else some (.float (spelling text exponent.2), exponent.2)

/-- A whole number of 64 bits with a sign. -/
def integerOf (value : Int) (rest : List Char) : Option (Toml × List Char) :=
  let bound : Int := Nat.pow 2 63
  if -bound ≤ value && value < bound then some (.integer value, rest) else none

/-- Reads a number in a base from after its mark. -/
def readBase (base : Nat) (text : List Char) : Option (Toml × List Char) :=
  let accepts (digit : Char) : Bool :=
    match hexValue? digit with
    | some value => value < base
    | none => false
  match readDigits1 accepts text with
  | none => none
  | some (digits, rest) =>
    let value := digits.foldl (fun all digit => all * base + (hexValue? digit).getD 0) 0
    integerOf value rest

/-- Reads a number that does not start with the mark of a base. -/
def readDecimal (text : List Char) : Option (Toml × List Char) :=
  let signed := readSign text
  match signed.2 with
  | 'i' :: 'n' :: 'f' :: rest => some (.float (spelling text rest), rest)
  | 'n' :: 'a' :: 'n' :: rest => some (.float (spelling text rest), rest)
  | start =>
    match readWhole start with
    | none => none
    | some (whole, '.' :: rest) =>
      match readDigits1 isDigit rest with
      | none => none
      | some (fraction, more) =>
        (readExponent? more).bind (floatOf text signed.1 whole fraction)
    | some (whole, 'e' :: rest) => (readExponent rest).bind (floatOf text signed.1 whole [])
    | some (whole, 'E' :: rest) => (readExponent rest).bind (floatOf text signed.1 whole [])
    | some (whole, rest) =>
      let value : Int := naturalOfDigits whole
      integerOf (if signed.1 then -value else value) rest

/-- Reads a number. -/
def readNumber (text : List Char) : Option (Toml × List Char) :=
  match text with
  | '0' :: 'x' :: rest => readBase 16 rest
  | '0' :: 'o' :: rest => readBase 8 rest
  | '0' :: 'b' :: rest => readBase 2 rest
  | _ => readDecimal text

/-! ## Dates and times -/

/-- Reads a number of two digits within bounds. -/
def readPair (least greatest : Nat) : List Char → Option (Nat × List Char)
  | first :: second :: rest =>
    let value := digitValue first * 10 + digitValue second
    if isDigit first && isDigit second && least ≤ value && value ≤ greatest then some (value, rest)
    else none
  | _ => none

/-- Reads a fixed character. -/
def readMark (mark : Char) : List Char → Option (List Char)
  | [] => none
  | character :: rest => if character = mark then some rest else none

/-- The text starts with the year of a date. -/
def startsDate : List Char → Bool
  | a :: b :: c :: d :: '-' :: _ => [a, b, c, d].all isDigit
  | _ => false

/-- The text starts with the hour of a time. -/
def startsTime (text : List Char) : Bool :=
  match readPair 0 23 text with
  | some (_, ':' :: _) => true
  | _ => false

/-- The days of a month. -/
def daysIn (year month : Nat) : Nat :=
  if month = 2 then
    if year % 4 = 0 && (year % 100 != 0 || year % 400 = 0) then 29 else 28
  else if month = 4 || month = 6 || month = 9 || month = 11 then 30
  else 31

/-- Reads a date. -/
def readDate (text : List Char) : Option (List Char) := do
  let year := naturalOfDigits (text.take 4)
  let (month, afterMonth) ← readPair 1 12 (text.drop 5)
  let start ← readMark '-' afterMonth
  let (_, rest) ← readPair 1 (daysIn year month) start
  pure rest

/-- Drops the fraction of a second, if there is one. -/
def skipFraction (text : List Char) : List Char :=
  match text with
  | '.' :: rest => if (rest.takeWhile isDigit).isEmpty then text else rest.dropWhile isDigit
  | _ => text

/-- Reads a time of day. -/
def readTime (text : List Char) : Option (List Char) := do
  let (_, afterHour) ← readPair 0 23 text
  let minutes ← readMark ':' afterHour
  let (_, afterMinute) ← readPair 0 59 minutes
  let seconds ← readMark ':' afterMinute
  let (_, rest) ← readPair 0 60 seconds
  pure (skipFraction rest)

/-- Reads the distance of a time from the universal one, if there is one. -/
def readOffset (text : List Char) : Option (List Char) :=
  match text with
  | 'Z' :: rest => some rest
  | 'z' :: rest => some rest
  | sign :: rest =>
    if sign = '+' || sign = '-' then do
      let (_, afterHour) ← readPair 0 23 rest
      let minutes ← readMark ':' afterHour
      let (_, more) ← readPair 0 59 minutes
      pure more
    else some text
  | [] => some []

/-- Reads a date and the time that may follow it. -/
def readDateTime (text : List Char) : Option (List Char) :=
  match readDate text with
  | none => none
  | some (mark :: rest) =>
    if (mark = 'T' || mark = 't' || mark = ' ') && startsTime rest then
      (readTime rest).bind readOffset
    else some (mark :: rest)
  | some [] => some []

/-- Reads a number, a date or a time. -/
def readFigure (text : List Char) : Option (Toml × List Char) :=
  let moment (rest : List Char) : Toml × List Char := (.moment (spelling text rest), rest)
  if startsDate text then (readDateTime text).map moment
  else if startsTime text then (readTime text).map moment
  else readNumber text

/-! ## Keys -/

/-- A character of a key without quotes. -/
def isBare (character : Char) : Bool :=
  let code := character.toNat
  isDigit character || (65 ≤ code && code ≤ 90) || (97 ≤ code && code ≤ 122) ||
    character == '-' || character == '_'

/-- Reads a segment of a key. -/
def readSegment (text : List Char) : Option (String × List Char) :=
  let named (read : List Char × List Char) : String × List Char :=
    (String.ofList read.1, read.2)
  match text with
  | '"' :: rest => (readBasic rest).map named
  | '\'' :: rest => (readLiteral rest).map named
  | _ =>
    let bare := text.takeWhile isBare
    if bare.isEmpty then none else some (String.ofList bare, text.dropWhile isBare)

/-- Reads a key of at most `limit` segments with the blanks around it. -/
def readKey : Nat → List Char → Option (Key × List Char)
  | 0, _ => none
  | limit + 1, text =>
    match readSegment (skipBlanks text) with
    | none => none
    | some (name, rest) =>
      match skipBlanks rest with
      | '.' :: more =>
        (readKey limit more).map fun read => (⟨name :: read.1.place, read.1.name⟩, read.2)
      | after => some (⟨[], name⟩, after)

/-- Levels of nesting that a value may have, and segments that a key may have. -/
def depthLimit : Nat := 79

/-- Reads a key and the equals sign after it. -/
def readAssigned (text : List Char) : Option (Key × List Char) :=
  match readKey depthLimit text with
  | some (key, '=' :: rest) => some (key, skipBlanks rest)
  | _ => none

/-! ## Values -/

mutual

/-- Reads a value that may nest `depth` levels deep: the value and the text after it. -/
def readValue : Nat → Nat → List Char → Option (Toml × List Char)
  | 0, _, _ => none
  | fuel + 1, depth, text =>
    match text with
    | '[' :: rest =>
      match depth with
      | 0 => none
      | inner + 1 => (readItems fuel inner rest).map fun read => (.array read.1, read.2)
    | '\x7b' :: rest =>
      match depth with
      | 0 => none
      | inner + 1 =>
        match skipBlanks rest with
        | '\x7d' :: more => some (.table .braces [], more)
        | start =>
          match readPairs fuel inner start with
          | none => none
          | some (pairs, more) =>
            (pairs.foldlM (fun entries pair => assign pair.1 pair.2 entries) []).map
              fun entries => (.table .braces entries, more)
    | 't' :: 'r' :: 'u' :: 'e' :: rest => some (.boolean true, rest)
    | 'f' :: 'a' :: 'l' :: 's' :: 'e' :: rest => some (.boolean false, rest)
    | '"' :: _ => (readText text).map fun read => (.string (String.ofList read.1), read.2)
    | '\'' :: _ => (readText text).map fun read => (.string (String.ofList read.1), read.2)
    | _ => readFigure text

/-- Reads the items of a list up to its closing bracket. A comma may stand after the last one. -/
def readItems : Nat → Nat → List Char → Option (List Toml × List Char)
  | 0, _, _ => none
  | fuel + 1, depth, text =>
    match skipFiller false text with
    | ']' :: more => some ([], more)
    | start =>
      match readValue fuel depth start with
      | none => none
      | some (item, rest) =>
        match skipFiller false rest with
        | ']' :: more => some ([item], more)
        | ',' :: more => (readItems fuel depth more).map fun read => (item :: read.1, read.2)
        | _ => none

/-- Reads one assignment or more up to the closing brace. -/
def readPairs : Nat → Nat → List Char → Option (List (Key × Toml) × List Char)
  | 0, _, _ => none
  | fuel + 1, depth, text =>
    match readAssigned text with
    | none => none
    | some (key, start) =>
      match readValue fuel depth start with
      | none => none
      | some (value, rest) =>
        match skipBlanks rest with
        | '\x7d' :: more => some ([(key, value)], more)
        | ',' :: more =>
          (readPairs fuel depth more).map fun read => ((key, value) :: read.1, read.2)
        | _ => none

end

/-! ## Files -/

/-- Reads a header from after its opening brackets, `shared` for two brackets. -/
def readHeader (shared : Bool) (text : List Char) : Option (Statement × List Char) :=
  match shared, readKey depthLimit text with
  | true, some (key, ']' :: ']' :: rest) =>
    (nextLine? rest).map fun next => (.item key, next)
  | false, some (key, ']' :: rest) => (nextLine? rest).map fun next => (.header key, next)
  | _, _ => none

/-- Reads an assignment. -/
def readAssignment (text : List Char) : Option (Statement × List Char) :=
  match readAssigned text with
  | none => none
  | some (key, start) =>
    match readValue (2 * start.length + 2) depthLimit start with
    | none => none
    | some (value, rest) => (nextLine? rest).map fun next => (.assignment key value, next)

/-- Reads the statement that a text starts with. -/
def readStatement (text : List Char) : Option (Statement × List Char) :=
  match text with
  | '[' :: '[' :: rest => readHeader true rest
  | '[' :: rest => readHeader false rest
  | _ => readAssignment text

/-- Reads statements; `fuel` is more than the number of characters. -/
def readStatements : Nat → List Char → Option (List Statement)
  | 0, _ => none
  | fuel + 1, text =>
    match skipBlanks text with
    | [] => some []
    | character :: rest =>
      if character = '#' || character = '\n' || character = '\r' then
        (nextLine? (character :: rest)).bind (readStatements fuel)
      else
        match readStatement (character :: rest) with
        | none => none
        | some (statement, next) =>
          (readStatements fuel next).map fun statements => statement :: statements

/-- The mark that may precede a text to tell its encoding. -/
def encodingMark : Char := Char.ofNat 0xFEFF

/-- Drops the mark of the encoding. -/
def skipEncodingMark (text : List Char) : List Char :=
  if text.head? == some encodingMark then text.drop 1 else text

/-- The values that a whole text gives, if it is well formed. -/
def parse? (text : String) : Option Entries :=
  let characters := skipEncodingMark text.toList
  (readStatements (characters.length + 1) characters).bind ofStatements

end SourceIndex.Toml
