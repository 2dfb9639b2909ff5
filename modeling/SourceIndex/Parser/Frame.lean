import SourceIndex.Text.Base64

/-!
# Frames

A message travels as one line: its bytes in base64, which has no line ends, and then a carriage
return and a line feed. In an answer blanks around the base64 text do not count.

Main statement: a line of base64 text with blanks around it reads as the blanks were not there
(`trim_append`).
-/

set_option autoImplicit false

namespace SourceIndex.Frame

/-- The byte that ends a line. -/
def lineFeed : UInt8 := 10

/-- The bytes that end a frame. -/
def ending : Bytes := [13, lineFeed]

/-- The line that carries a message. -/
def write (message : String) : Bytes :=
  Base64.encode (Utf8.ofString message) ++ ending

/-- A blank between the words of an ASCII text. -/
def isBlank (byte : UInt8) : Bool :=
  byte = 32 || byte = 9 || byte = lineFeed || byte = 12 || byte = 13

/-- Drops the blanks at both ends. -/
def trim (line : Bytes) : Bytes :=
  ((line.dropWhile isBlank).reverse.dropWhile isBlank).reverse

/-- Why an answer cannot be read. -/
inductive Fault where
  /-- There is no answer. -/
  | closed
  | encoding (error : Base64.DecodeError)
  | text (error : Utf8.DecodeError)
deriving DecidableEq, Repr

/-- The wording of a fault. -/
def Fault.message : Fault → String
  | .closed => "worker closed its output"
  | .encoding error => error.message
  | .text error => error.message

/-- The message that a line carries. -/
def read (line : Bytes) : Except Fault String :=
  match Base64.decode (trim line) with
  | .error error => .error (.encoding error)
  | .ok bytes =>
    match Utf8.decode bytes with
    | .error error => .error (.text error)
    | .ok text => .ok (String.ofList text)

/-- The first line of an output with its end, and what comes after it. -/
def firstLine? : Bytes → Option (Bytes × Bytes)
  | [] => none
  | byte :: rest =>
    if byte = lineFeed then some ([byte], rest)
    else (firstLine? rest).map fun parts => (byte :: parts.1, parts.2)

/-- Blanks around a text that neither starts nor ends with one do not count. -/
theorem trim_append {before text after : Bytes} (blankBefore : ∀ byte ∈ before, isBlank byte)
    (blankAfter : ∀ byte ∈ after, isBlank byte)
    (clean : ∀ byte ∈ text, isBlank byte = false) :
    trim (before ++ text ++ after) = text := by
  have drop : ∀ bytes : Bytes, (∀ byte ∈ bytes, isBlank byte = false) →
      bytes.dropWhile isBlank = bytes := by
    intro bytes plain
    cases bytes with
    | nil => rfl
    | cons byte rest =>
      rw [List.dropWhile_cons_of_neg]
      simp [plain byte List.mem_cons_self]
  have cleanBack : ∀ byte ∈ text.reverse, isBlank byte = false := fun byte member =>
    clean byte (List.mem_reverse.1 member)
  have blankBack : ∀ byte ∈ after.reverse, isBlank byte := fun byte member =>
    blankAfter byte (List.mem_reverse.1 member)
  unfold trim
  rw [List.append_assoc, List.dropWhile_append_of_pos blankBefore]
  cases text with
  | nil =>
    have gone : (after ++ []).dropWhile isBlank = [] := List.dropWhile_append_of_pos blankAfter
    rw [List.append_nil] at gone
    simp [gone]
  | cons byte rest =>
    rw [List.cons_append, List.dropWhile_cons_of_neg (by simp [clean byte List.mem_cons_self]),
      ← List.cons_append, List.reverse_append, List.dropWhile_append_of_pos blankBack,
      drop _ cleanBack, List.reverse_reverse]

end SourceIndex.Frame
