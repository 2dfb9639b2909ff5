import Mathlib.Data.List.DropRight
import SourceIndex.Parser.Channel
import SourceIndex.Proofs.Text.Base64
import SourceIndex.Proofs.Text.Characters

/-!
# Reading the output of a worker

Who waits for a line of an output gets its first line, and what comes after that stays unread. An
output that ended without a whole line gives what there is of the line, and one that is empty or
goes on gives nothing (`Frame.readLine`).

Main statements: a line reads as a text exactly if, without the blanks at its ends, it is the base64
of the text (`Frame.read_eq_ok_iff_trim`), and the line of a request differs from those of the start
and the end message (`Frame.write_message_ne_start`, `Frame.write_message_ne_end`).
-/

set_option autoImplicit false

namespace SourceIndex

namespace Frame

/-! ## Blank lines -/

/-- Nothing is left of a line exactly if it is made of blanks. -/
theorem trim_eq_nil_iff {line : Bytes} : trim line = [] ↔ ∀ byte ∈ line, isBlank byte := by
  change (line.dropWhile isBlank).rdropWhile isBlank = [] ↔ _
  rw [List.rdropWhile_eq_nil_iff]
  constructor
  · intro blank
    rw [← List.dropWhile_eq_nil_iff]
    cases left : line.dropWhile isBlank with
    | nil => rfl
    | cons first rest =>
      -- What is left would start with a byte that is no blank.
      have plain := List.dropWhile_get_zero_not isBlank line (by simp [left])
      simp [left, blank first (by simp [left])] at plain
  · intro blank byte member
    exact blank byte ((List.dropWhile_sublist isBlank).subset member)

/-- What a line reads as is the text whose bytes it has in base64. -/
theorem read_eq_ok_iff {line : Bytes} {text : String} :
    read line = .ok text ↔
      ∃ bytes, Base64.decode (trim line) = .ok bytes ∧ Utf8.decode bytes = .ok text.toList := by
  unfold read
  cases decoded : Base64.decode (trim line) with
  | error error => simp
  | ok bytes =>
    cases characters : Utf8.decode bytes with
    | error error => simp [characters]
    | ok found =>
      have same : String.ofList found = text ↔ found = text.toList := by
        constructor
        · rintro rfl
          exact String.toList_ofList.symm
        · rintro rfl
          exact String.ofList_toList
      simp [characters, same]

/-- A line reads as a text exactly if the letters of the text are left of it. -/
theorem read_eq_ok_iff_trim {line : Bytes} {text : String} :
    read line = .ok text ↔ trim line = Base64.encode (Utf8.ofString text) := by
  rw [read_eq_ok_iff]
  simp only [Base64.decode_eq_ok_iff, Utf8.decode_eq_ok_iff, exists_eq_right]
  rfl

/-- A line reads as the empty text exactly if it is made of blanks. -/
theorem read_eq_ok_empty_iff {line : Bytes} :
    read line = .ok "" ↔ ∀ byte ∈ line, isBlank byte := by
  rw [← trim_eq_nil_iff, read_eq_ok_iff_trim]
  rfl

/-! ## The first line -/

theorem firstLine?_eq_none_iff {output : Bytes} :
    firstLine? output = none ↔ lineFeed ∉ output := by
  induction output with
  | nil => simp [firstLine?]
  | cons byte rest ih =>
    by_cases ends : byte = lineFeed
    · simp [firstLine?, ends]
    · simp [firstLine?, ends, ih, Ne.symm ends]

/-- The first line ends with the first line feed. -/
theorem firstLine?_eq_some {output line rest : Bytes}
    (found : firstLine? output = some (line, rest)) :
    output = line ++ rest ∧ ∃ start, line = start ++ [lineFeed] ∧ lineFeed ∉ start := by
  induction output generalizing line with
  | nil => cases found
  | cons byte later ih =>
    rw [firstLine?] at found
    split at found
    · next ends =>
      cases found
      exact ⟨rfl, [], by rw [ends]; rfl, List.not_mem_nil⟩
    · next goesOn =>
      obtain ⟨⟨more, left⟩, split, same⟩ := Option.map_eq_some_iff.1 found
      cases same
      obtain ⟨whole, start, isLine, plain⟩ := ih split
      refine ⟨by rw [whole]; rfl, byte :: start, by rw [isLine]; rfl, ?_⟩
      simp [plain, Ne.symm goesOn]

/-- At most one line: a line feed stands nowhere but at the end. -/
def IsSingle (output : Bytes) : Prop :=
  lineFeed ∉ output.dropLast

instance (output : Bytes) : Decidable (IsSingle output) :=
  inferInstanceAs (Decidable (lineFeed ∉ output.dropLast))

/-- Of a single line nothing stays unread. -/
theorem IsSingle.firstLine? {output line rest : Bytes} (single : IsSingle output)
    (found : firstLine? output = some (line, rest)) : line = output ∧ rest = [] := by
  obtain ⟨whole, start, isLine, -⟩ := firstLine?_eq_some found
  have nothing : rest = [] := by
    by_contra more
    apply single
    rw [whole, List.dropLast_append_of_ne_nil more, isLine]
    simp
  subst nothing
  exact ⟨by rw [whole, List.append_nil], rfl⟩

/-- What a reader gets who waits for a line of an output, and what stays unread. -/
def readLine (output : Bytes) (ended : Bool) : Except Fault String × Bytes :=
  match firstLine? output with
  | some (line, rest) => (read line, rest)
  | none => (if !ended || output.isEmpty then .error .closed else read output, [])

/-- A text is read from a whole line or from an output that ended. -/
theorem readLine_eq_ok {output rest : Bytes} {ended : Bool} {text : String}
    (answered : readLine output ended = (.ok text, rest)) :
    (∃ line, firstLine? output = some (line, rest) ∧ read line = .ok text) ∨
      (firstLine? output = none ∧ ended = true ∧ output ≠ [] ∧ read output = .ok text ∧
        rest = []) := by
  unfold readLine at answered
  split at answered
  · next line left found =>
    obtain ⟨reading, rfl⟩ := Prod.mk.inj answered
    exact .inl ⟨line, found, reading⟩
  · next none =>
    split at answered
    · cases answered
    · next last =>
      simp only [Bool.or_eq_true, Bool.not_eq_true', not_or, Bool.not_eq_false,
        List.isEmpty_iff] at last
      obtain ⟨reading, left⟩ := Prod.mk.inj answered
      exact .inr ⟨none, last.1, last.2, reading, left.symm⟩

/-- A single line is read as a whole. -/
theorem IsSingle.readLine {output rest : Bytes} {ended : Bool} {text : String}
    (single : IsSingle output) (answered : readLine output ended = (.ok text, rest)) :
    read output = .ok text ∧ rest = [] := by
  rcases readLine_eq_ok answered with ⟨line, found, reading⟩ | ⟨-, -, -, reading, nothing⟩
  · obtain ⟨rfl, nothing⟩ := single.firstLine? found
    exact ⟨reading, nothing⟩
  · exact ⟨reading, nothing⟩

/-! ## The letters of a line -/

theorem isBlank_letter {value : Nat} (small : value < 64) :
    isBlank (Base64.letter value) = false := by
  revert value
  decide

/-- No byte of a base64 text is a blank. -/
theorem isBlank_of_mem_encode {bytes : Bytes} {byte : UInt8}
    (member : byte ∈ Base64.encode bytes) : isBlank byte = false := by
  rcases Base64.mem_encode member with rfl | ⟨value, small, rfl⟩
  · rfl
  · exact isBlank_letter small

/-! ## The lines of requests -/

/-- The line of a request starts with the letters for `PAR`. -/
theorem take_write_message (kind : RequestKind) (payload : String) :
    (write (kind.message payload)).take 4 = [85, 69, 70, 83] := by
  have bytes : ∃ rest, Utf8.ofString (kind.message payload) = 80 :: 65 :: 82 :: rest := by
    rw [RequestKind.message, Utf8.ofString, String.toList_append, Utf8.encode, List.flatMap_append]
    cases kind <;> exact ⟨_, rfl⟩
  obtain ⟨rest, starts⟩ := bytes
  simp only [write, starts, Base64.encode, List.cons_append, List.take_succ_cons, List.take_zero]
  decide

theorem write_message_ne_start (kind : RequestKind) (payload : String) :
    write (kind.message payload) ≠ write startMessage := by
  intro same
  have starts := take_write_message kind payload
  rw [same] at starts
  exact absurd starts (by decide)

theorem write_message_ne_end (kind : RequestKind) (payload : String) :
    write (kind.message payload) ≠ write endMessage := by
  intro same
  have starts := take_write_message kind payload
  rw [same] at starts
  exact absurd starts (by decide)

end Frame

end SourceIndex
