import SourceIndex.Proofs.Parser.Attribution

/-!
# Lines and what they carry

A message travels as one line, and no other message has the same line. So the lines of two requests
differ as soon as the kinds or the payloads do, whatever is in the payloads, and none is a line of
the start or the end message (`Frame.IsOwnLine`).

On the way back a line carries a text if it has the letters of the text and, around these, nothing
but spaces, tabs, form feeds and carriage returns (`Frame.Carries`).

Main statement: the line of every request is its own, and an exchange reads of the line that it gets
the text that the line carries, and nothing of a line that carries none
(`Channel.exchange_framed`).
-/

set_option autoImplicit false

namespace SourceIndex

variable {ω ψ : Type}

/-! ## The lines of messages -/

/-- The message of a request tells its kind and its payload. -/
theorem RequestKind.message_inj {kind other : RequestKind} {payload text : String}
    (same : kind.message payload = other.message text) : kind = other ∧ payload = text := by
  have letters := congrArg String.toList same
  rw [message, message, String.toList_append, String.toList_append] at letters
  -- The words already differ within their first eight letters.
  have long (kind : RequestKind) : 8 ≤ kind.word.toList.length := by
    cases kind <;> decide
  have words := congrArg (List.take 8) letters
  rw [List.take_append_of_le_length (long kind), List.take_append_of_le_length (long other)]
    at words
  have sameKind : kind = other := by
    revert words
    cases kind <;> cases other <;> decide
  subst sameKind
  exact ⟨rfl, String.toList_inj.1 (List.append_cancel_left letters)⟩

namespace Frame

theorem write_inj {message other : String} (same : write message = write other) :
    message = other := by
  have letters := List.append_cancel_right same
  have bytes := Base64.decode_eq_ok_iff.2 letters
  rw [Base64.decode_encode] at bytes
  exact Utf8.ofString_inj.1 (Except.ok.inj bytes)

theorem lineFeed_notMem_encode (bytes : Bytes) : lineFeed ∉ Base64.encode bytes := by
  intro member
  have plain := isBlank_of_mem_encode member
  exact absurd plain (by decide)

/-- A line that ends with its only line feed. -/
def IsLine (line : Bytes) : Prop :=
  ∃ start, line = start ++ [lineFeed] ∧ lineFeed ∉ start

theorem isLine_write (message : String) : IsLine (write message) := by
  refine ⟨Base64.encode (Utf8.ofString message) ++ [13], ?_, ?_⟩
  · rw [write, ending, List.append_assoc]
    rfl
  · rw [List.mem_append, not_or]
    exact ⟨lineFeed_notMem_encode _, by decide⟩

/-- The line of a request is one line, and it is the line of no other request and of neither the
start nor the end message. -/
structure IsOwnLine (kind : RequestKind) (payload : String) : Prop where
  isLine : IsLine (write (kind.message payload))
  own : ∀ other text, write (kind.message payload) = write (other.message text) →
    kind = other ∧ payload = text
  notStart : write (kind.message payload) ≠ write startMessage
  notEnd : write (kind.message payload) ≠ write endMessage

theorem isOwnLine (kind : RequestKind) (payload : String) : IsOwnLine kind payload where
  isLine := isLine_write _
  own _ _ same := RequestKind.message_inj (write_inj same)
  notStart := write_message_ne_start kind payload
  notEnd := write_message_ne_end kind payload

/-! ## What a line carries -/

/-- Spaces, tabs, form feeds and carriage returns. -/
def padding : Bytes := [32, 9, 12, 13]

/-- A line without its line feed has the base64 letters of a text and only padding around them. -/
def Carries (line : Bytes) (text : String) : Prop :=
  ∃ before after, (∀ byte ∈ before ++ after, byte ∈ padding) ∧
    line = before ++ Base64.encode (Utf8.ofString text) ++ after

theorem isBlank_iff {byte : UInt8} : isBlank byte = true ↔ byte = lineFeed ∨ byte ∈ padding := by
  simp only [isBlank, padding, Bool.or_eq_true, decide_eq_true_eq, List.mem_cons,
    List.not_mem_nil, or_false]
  tauto

/-- There are only blanks around what is left of a line. -/
theorem exists_trim (line : Bytes) :
    ∃ before after, (∀ byte ∈ before ++ after, isBlank byte) ∧
      line = before ++ trim line ++ after := by
  refine ⟨line.takeWhile isBlank, (line.dropWhile isBlank).rtakeWhile isBlank, ?_, ?_⟩
  · intro byte member
    rcases List.mem_append.1 member with early | late
    · exact List.mem_takeWhile_imp early
    · exact List.mem_rtakeWhile_imp late
  · change line = _ ++ (line.dropWhile isBlank).rdropWhile isBlank ++ _
    rw [List.append_assoc, List.rdropWhile_append_rtakeWhile, List.takeWhile_append_dropWhile]

/-- **A line is read as the text that it carries.** -/
theorem read_eq_ok_iff_carries {line : Bytes} {text : String} (single : lineFeed ∉ line) :
    read line = .ok text ↔ Carries line text := by
  rw [read_eq_ok_iff_trim]
  constructor
  · intro letters
    obtain ⟨before, after, blank, parts⟩ := exists_trim line
    refine ⟨before, after, fun byte member => ?_, by rw [← letters, ← parts]⟩
    have inLine : byte ∈ line := by
      rw [parts]
      rcases List.mem_append.1 member with early | late
      · exact List.mem_append_left _ (List.mem_append_left _ early)
      · exact List.mem_append_right _ late
    refine (isBlank_iff.1 (blank byte member)).resolve_left ?_
    rintro rfl
    exact single inLine
  · rintro ⟨before, after, padded, rfl⟩
    have blank : ∀ byte ∈ before ++ after, isBlank byte :=
      fun byte member => isBlank_iff.2 (.inr (padded byte member))
    exact trim_append (fun byte member => blank byte (List.mem_append_left _ member))
      (fun byte member => blank byte (List.mem_append_right _ member))
      (fun byte member => isBlank_of_mem_encode member)

/-! ## The line that a reader gets -/

/-- The line that a reader gets of an output, without its line feed, and what stays unread: what
comes before the first line feed, or all of an output that ended without one. -/
inductive HasLine : Bytes → Bool → Bytes → Bytes → Prop where
  | whole {line rest : Bytes} {ended : Bool} (single : lineFeed ∉ line) :
      HasLine (line ++ lineFeed :: rest) ended line rest
  | last {line : Bytes} (single : lineFeed ∉ line) (nonempty : line ≠ []) :
      HasLine line true line []

theorem HasLine.single {output line rest : Bytes} {ended : Bool}
    (has : HasLine output ended line rest) : lineFeed ∉ line := by
  cases has with
  | whole single => exact single
  | last single nonempty => exact single

theorem firstLine?_append {line : Bytes} (single : lineFeed ∉ line) (rest : Bytes) :
    firstLine? (line ++ lineFeed :: rest) = some (line ++ [lineFeed], rest) := by
  induction line with
  | nil => rfl
  | cons byte more ih =>
    rw [List.mem_cons, not_or] at single
    rw [List.cons_append, firstLine?, if_neg (Ne.symm single.1), ih single.2]
    rfl

/-- The line feed at the end of a line does not count. -/
theorem read_append_lineFeed (line : Bytes) : read (line ++ [lineFeed]) = read line := by
  have same : trim (line ++ [lineFeed]) = trim line := by
    change ((line ++ [lineFeed]).dropWhile isBlank).rdropWhile isBlank =
      (line.dropWhile isBlank).rdropWhile isBlank
    rw [List.dropWhile_append]
    split
    · next nothing =>
      rw [List.isEmpty_iff.1 nothing]
      rfl
    · exact List.rdropWhile_concat_pos _ _ _ rfl
  rw [read, read, same]

/-- A reader reads the line that it gets. -/
theorem HasLine.readLine {output line rest : Bytes} {ended : Bool}
    (has : HasLine output ended line rest) : readLine output ended = (read line, rest) := by
  cases has with
  | whole single =>
    rw [Frame.readLine, firstLine?_append single]
    dsimp only
    rw [read_append_lineFeed]
  | last single nonempty =>
    rw [Frame.readLine, firstLine?_eq_none_iff.2 single, if_neg (by simpa using nonempty)]

end Frame

/-! ## The main statement -/

namespace Channel

/-- **Requests and answers are framed without ambiguity.** The line of every request is its own. An
exchange sends a worker the line of the message. Of the line that it gets back it reads exactly the
text that the line carries; if what is left of the line without the blanks at its ends is not the
base64 of any text, it fails. -/
theorem exchange_framed (workers : Workers ω ψ) :
    (∀ kind payload, Frame.IsOwnLine kind payload) ∧
      ∀ ⦃message : String⦄ ⦃process : ψ⦄ ⦃unread output line rest : Bytes⦄ ⦃next : Option ψ⦄
        ⦃world after : ω⦄,
        workers.receive process (Frame.write message) world = ((output, next), after) →
        Frame.HasLine (unread ++ output) next.isNone line rest →
        ∃ answer, exchange workers message ⟨some process, unread⟩ world =
            (answer, ⟨next, rest⟩, after) ∧
          (∀ text, answer = .ok text ↔ Frame.Carries line text) ∧
          ((∀ text, Frame.trim line ≠ Base64.encode (Utf8.ofString text)) →
            ∃ fault, answer = .error fault) := by
  refine ⟨Frame.isOwnLine, ?_⟩
  intro message process unread output line rest next world after wrote has
  refine ⟨Frame.read line, ?_, fun text => Frame.read_eq_ok_iff_carries has.single, fun strange => ?_⟩
  · rw [exchange_of_process workers _ wrote, has.readLine]
  · cases answer : Frame.read line with
    | error fault => exact ⟨fault, rfl⟩
    | ok text => exact absurd (Frame.read_eq_ok_iff_trim.1 answer) (strange text)

/-- A worker answers one request with the letters of `A` between blanks and any other with letters
whose last bits belong to no byte. -/
theorem exchange_framed_padded :
    let workers := Workers.scripted fun line =>
      if line = Frame.write (RequestKind.file.message "/a.java") then
        ([32, 9, 81, 81, 61, 61, 12, 13, 10], false)
      else ([81, 82, 61, 61, 10], false)
    (exchange workers (RequestKind.file.message "/a.java") ⟨some (), []⟩ ()).1 = .ok "A" ∧
      ∃ fault,
        (exchange workers (RequestKind.file.message "/b.java") ⟨some (), []⟩ ()).1 = .error fault := by
  intro workers
  have framed := (exchange_framed workers).2
  constructor
  · have single : Frame.lineFeed ∉ [32, 9, 81, 81, 61, 61, 12, 13] := by decide
    obtain ⟨answer, same, carried, -⟩ :=
      @framed (RequestKind.file.message "/a.java") () [] _ _ [] (some ()) () () rfl (.whole single)
    rw [same]
    exact (carried "A").2 ⟨[32, 9], [12, 13], by simp [Frame.padding], rfl⟩
  · have single : Frame.lineFeed ∉ [81, 82, 61, 61] := by decide
    obtain ⟨answer, same, -, rejected⟩ :=
      @framed (RequestKind.file.message "/b.java") () [] _ _ [] (some ()) () () rfl (.whole single)
    rw [same]
    refine rejected fun text letters => ?_
    have read := Base64.decode_eq_ok_iff.2 letters
    cases read

end Channel

end SourceIndex
