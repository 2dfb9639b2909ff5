import SourceIndex.Address
import SourceIndex.Proofs.Address
import SourceIndex.Proofs.Text.Trimming

/-!
# Lists of addresses

What a text lists is told line by line. A line shows one address with blanks around it, or nothing,
if it is blank or a comment (`Address.Shows`); a text has lines with line feeds between them, each
of which a carriage return may precede, and lists what its lines show (`Address.Lists`). Every text
is of this form, and what it lists is what is read from it (`Address.listed_eq_iff`).

Main statement: the addresses of a text after another one, with a line end between them, come after
those of the other one; every address is one that can stand on a line by itself; and of a text that
lists some addresses just these are read (`Address.listed_lines`).
-/

set_option autoImplicit false

namespace SourceIndex.Address

open Text

/-! ## What lines show -/

/-- A text that can stand on a line as an address. -/
structure IsEntry (address : List Char) : Prop where
  filled : address ≠ []
  solid : HasSolidEnds address
  /-- It does not start a comment. -/
  plain : address.head? ≠ some '#'
  single : '\n' ∉ address

/-- The addresses that a line shows. -/
inductive Shows : List Char → List String → Prop where
  | address {lead address trail : List Char} (leading : AllBlank lead) (trailing : AllBlank trail)
      (isEntry : IsEntry address) : Shows (lead ++ address ++ trail) [String.ofList address]
  | blank {line : List Char} (blank : AllBlank line) : Shows line []
  | comment {lead : List Char} (leading : AllBlank lead) (text : List Char) :
      Shows (lead ++ '#' :: text) []

/-- The addresses of lines. -/
def entries (lines : List (List Char)) : List String :=
  ((lines.map trim).filter fun line => !isIdle line).map String.ofList

theorem entries_append (lines others : List (List Char)) :
    entries (lines ++ others) = entries lines ++ entries others := by
  simp [entries]

theorem entries_of_idle {line : List Char} (idle : isIdle (trim line) = true) :
    entries [line] = [] := by
  simp [entries, idle]

theorem entries_of_not_idle {line : List Char} (idle : isIdle (trim line) = false) :
    entries [line] = [String.ofList (trim line)] := by
  simp [entries, idle]

theorem IsEntry.isIdle_eq {address : List Char} (isEntry : IsEntry address) :
    isIdle address = false := by
  simp [isIdle, isEntry.filled, isEntry.plain]

theorem Shows.entries_eq {line : List Char} {addresses : List String}
    (shows : Shows line addresses) : entries [line] = addresses := by
  cases shows with
  | @address lead address trail leading trailing isEntry =>
    have trimmed : trim (lead ++ address ++ trail) = address := by
      rw [trim_append leading trailing, trim_eq_self isEntry.solid]
    rw [entries_of_not_idle (trimmed.symm ▸ isEntry.isIdle_eq), trimmed]
  | blank blank =>
    apply entries_of_idle
    rw [trim, trimStart_eq_nil_iff.2 blank]
    rfl
  | @comment lead leading text =>
    apply entries_of_idle
    rw [trim_append_left leading, isIdle, head?_trim_cons (by decide)]
    simp

/-- Every line shows the addresses that are read from it. -/
theorem shows_entries {line : List Char} (single : '\n' ∉ line) : Shows line (entries [line]) := by
  obtain ⟨lead, trail, leading, trailing, cut⟩ := trim_cut line
  cases idle : isIdle (trim line) with
  | false =>
    rw [entries_of_not_idle idle]
    have isEntry : IsEntry (trim line) := by
      refine ⟨?_, hasSolidEnds_trim line, ?_, fun within => single ?_⟩
      · rintro empty
        simp [isIdle, empty] at idle
      · intro first
        simp [isIdle, first] at idle
      · rw [cut]
        exact List.mem_append_left trail (List.mem_append_right lead within)
    have shows := Shows.address leading trailing isEntry
    rwa [← cut] at shows
  | true =>
    rw [entries_of_idle idle]
    rcases Bool.or_eq_true_iff.1 idle with empty | comment
    · rw [List.isEmpty_iff.1 empty, List.append_nil] at cut
      rw [cut]
      exact .blank (leading.append trailing)
    · obtain ⟨text, spelled⟩ := List.head?_eq_some_iff.1 (beq_iff_eq.1 comment)
      rw [spelled, List.append_assoc, List.cons_append] at cut
      rw [cut]
      exact .comment leading (text ++ trail)

theorem Shows.isEntry {line : List Char} {addresses : List String} (shows : Shows line addresses) :
    ∀ address ∈ addresses, IsEntry address.toList := by
  cases shows with
  | address leading trailing isEntry =>
    intro address within
    rw [List.mem_singleton.1 within, String.toList_ofList]
    exact isEntry
  | blank blank => exact List.forall_mem_nil _
  | comment leading text => exact List.forall_mem_nil _

/-! ## What texts list -/

/-- A line feed, or a carriage return and a line feed. -/
def lineEnds : List (List Char) :=
  [['\n'], ['\r', '\n']]

/-- The addresses that a text lists line by line; its last line has no end, and may be empty. -/
inductive Lists : List Char → List String → Prop where
  | last {line : List Char} {addresses : List String} (single : '\n' ∉ line)
      (shows : Shows line addresses) : Lists line addresses
  | line {line ending rest : List Char} {addresses others : List String} (single : '\n' ∉ line)
      (shows : Shows line addresses) (ends : ending ∈ lineEnds) (lists : Lists rest others) :
      Lists (line ++ ending ++ rest) (addresses ++ others)

/-- One text after another, with a line end between them. -/
theorem Lists.append {first second ending : List Char} {addresses others : List String}
    (lists : Lists first addresses) (ends : ending ∈ lineEnds) (lists' : Lists second others) :
    Lists (first ++ ending ++ second) (addresses ++ others) := by
  induction lists with
  | last single shows => exact .line single shows ends lists'
  | line single shows between _ ih =>
    have longer := Lists.line single shows between ih
    simpa only [List.append_assoc] using longer

theorem Lists.isEntry {text : List Char} {addresses : List String} (lists : Lists text addresses) :
    ∀ address ∈ addresses, IsEntry address.toList := by
  induction lists with
  | last _ shows => exact shows.isEntry
  | line _ shows _ _ ih => exact List.forall_mem_append.2 ⟨shows.isEntry, ih⟩

/-- An address alone on its line. -/
theorem IsEntry.shows {address : List Char} (isEntry : IsEntry address) :
    Shows address [String.ofList address] := by
  have none : AllBlank [] := List.forall_mem_nil _
  have shows := Shows.address none none isEntry
  rwa [List.nil_append, List.append_nil] at shows

/-- Addresses that are joined by line ends. -/
theorem lists_joined {addresses : List (List Char)} {ending : List Char} (ends : ending ∈ lineEnds)
    (each : ∀ address ∈ addresses, IsEntry address) :
    Lists (ending.intercalate addresses) (addresses.map String.ofList) := by
  induction addresses with
  | nil => exact .last List.not_mem_nil (.blank (List.forall_mem_nil _))
  | cons address rest ih =>
    obtain ⟨first, others⟩ := List.forall_mem_cons.1 each
    cases rest with
    | nil =>
      rw [List.intercalate_singleton]
      exact .last first.single first.shows
    | cons next more =>
      rw [List.intercalate_cons_cons]
      exact .line first.single first.shows ends (ih others)

/-- A carriage return at the end of a line does not count. -/
theorem trim_dropEnding_return (line : List Char) : trim (dropEnding ['\r'] line) = trim line := by
  by_cases returns : ['\r'] <:+ line
  · obtain ⟨start, rfl⟩ := returns
    rw [dropEnding_append]
    exact (trim_append_right (List.forall_mem_singleton.2 rfl) start).symm
  · rw [dropEnding_of_not_suffix returns]

/-- Whether a line end has a carriage return, and whether a text ends with one, does not matter. -/
theorem listed_eq (text : String) : listed text = entries (text.toList.splitOn '\n') := by
  change entries (lines text.toList) = _
  have returns (ended : List (List Char)) :
      entries (ended.map (dropEnding ['\r'])) = entries ended := by
    rw [entries, List.map_map, entries]
    simp only [Function.comp_def, trim_dropEnding_return]
  rw [lines]
  cases cut : (text.toList.splitOn '\n').reverse with
  | nil => exact absurd (List.reverse_eq_nil_iff.1 cut) (List.splitOn_ne_nil _ _)
  | cons last earlier =>
    have whole : text.toList.splitOn '\n' = earlier.reverse ++ [last] := by
      rw [← List.reverse_cons, ← cut, List.reverse_reverse]
    dsimp only
    rw [whole, entries_append]
    split
    · next empty =>
      rw [List.isEmpty_iff.1 empty, returns]
      exact (List.append_nil _).symm
    · rw [entries_append, returns]

theorem entries_splitOn_line {line ending : List Char} (single : '\n' ∉ line)
    (ends : ending ∈ lineEnds) (rest : List Char) :
    entries ((line ++ ending ++ rest).splitOn '\n') =
      entries [line] ++ entries (rest.splitOn '\n') := by
  have cut {front : List Char} (whole : '\n' ∉ front) :
      entries ((front ++ '\n' :: rest).splitOn '\n') =
        entries [front] ++ entries (rest.splitOn '\n') := by
    rw [List.splitOn_append_cons_self, List.splitOn_eq_singleton whole, entries_append]
  rw [lineEnds, List.mem_pair] at ends
  rcases ends with rfl | rfl
  · rw [List.append_assoc]
    exact cut single
  · have whole : '\n' ∉ line ++ ['\r'] := by simp [single]
    have same : entries [line ++ ['\r']] = entries [line] := by
      rw [entries, List.map_singleton, trim_append_right (List.forall_mem_singleton.2 rfl)]
      rfl
    rw [← same, ← cut whole]
    simp

/-- **What a text lists is read from it.** -/
theorem Lists.entries_eq {text : List Char} {addresses : List String}
    (lists : Lists text addresses) : entries (text.splitOn '\n') = addresses := by
  induction lists with
  | last single shows => rw [List.splitOn_eq_singleton single, shows.entries_eq]
  | line single shows ends _ ih => rw [entries_splitOn_line single ends, shows.entries_eq, ih]

/-- Lines that are put together list what is read from them. -/
theorem lists_intercalate {lines : List (List Char)} (filled : lines ≠ [])
    (single : ∀ line ∈ lines, '\n' ∉ line) :
    Lists (['\n'].intercalate lines) (entries lines) := by
  induction lines with
  | nil => exact absurd rfl filled
  | cons line rest ih =>
    obtain ⟨first, others⟩ := List.forall_mem_cons.1 single
    cases rest with
    | nil =>
      rw [List.intercalate_singleton]
      exact .last first (shows_entries first)
    | cons next more =>
      have lists := ih (List.cons_ne_nil next more) others
      rw [List.intercalate_cons_cons,
        show entries (line :: next :: more) = _ from entries_append [line] (next :: more)]
      exact .line first (shows_entries first) (by decide) lists

/-- **Every text lists just the addresses that are read from it.** -/
theorem listed_eq_iff {text : String} {addresses : List String} :
    listed text = addresses ↔ Lists text.toList addresses := by
  rw [listed_eq]
  constructor
  · rintro rfl
    have lists := lists_intercalate (List.splitOn_ne_nil '\n' text.toList)
      fun _ => separator_notMem_of_mem_splitOn
    rwa [List.intercalate_splitOn] at lists
  · exact Lists.entries_eq

/-- **Lists of addresses are read line by line.** A text after another one, with a line end of
either kind between them, adds its addresses. Every address is filled, has no blanks around it, does
not start a comment and is on one line; all lists of such addresses are read if they are joined by
line ends. And whatever blank lines, comments and blanks around addresses there are, a text is read
as some addresses exactly if it lists these, in order and as often as they are written. -/
theorem listed_lines :
    (∀ first second : String, ∀ ending ∈ lineEnds,
      listed (first ++ String.ofList ending ++ second) = listed first ++ listed second) ∧
    (∀ text, ∀ address ∈ listed text, IsEntry address.toList) ∧
    (∀ addresses : List String, (∀ address ∈ addresses, IsEntry address.toList) →
      ∀ ending ∈ lineEnds, listed ((String.ofList ending).intercalate addresses) = addresses) ∧
    ∀ text addresses, listed text = addresses ↔ Lists text.toList addresses := by
  have lists (text : String) : Lists text.toList (listed text) := listed_eq_iff.1 rfl
  refine ⟨?_, fun text => (lists text).isEntry, ?_, fun _ _ => listed_eq_iff⟩
  · intro first second ending ends
    rw [listed_eq_iff, String.toList_append, String.toList_append, String.toList_ofList]
    exact (lists first).append ends (lists second)
  · intro addresses each ending ends
    have joined := lists_joined ends (List.forall_mem_map.2 each)
    rw [List.map_map] at joined
    rw [listed_eq_iff, String.toList_intercalate, String.toList_ofList]
    simpa [Function.comp_def] using joined

/-- A comment, an address with blanks around it, a blank line, an indented comment and, after
another line end, the same address again. -/
theorem listed_lines_repeated :
    listed "# mirrors\r\n\to/p \r\n\n  #o/q" = ["o/p"] ∧ IsEntry "o/p".toList ∧
      listed ("# mirrors\r\n\to/p \r\n\n  #o/q" ++ String.ofList ['\r', '\n'] ++ "o/p") =
        ["o/p", "o/p"] ∧
      listed ((String.ofList ['\n']).intercalate ["o/p", "o/q", "o/p"]) =
        ["o/p", "o/q", "o/p"] := by
  obtain ⟨before, entry, joined, iff⟩ := listed_lines
  have isEntry (last : Char) (solid : isBlank last = false) (single : last ≠ '\n') :
      IsEntry ['o', '/', last] := by
    refine ⟨by simp, ⟨?_, ?_⟩, by simp, by simp [Ne.symm single]⟩
    · rintro _ ⟨⟩
      rfl
    · rintro _ ⟨⟩
      exact solid
  have first : IsEntry "o/p".toList := isEntry 'p' (by decide) (by decide)
  have other : IsEntry "o/q".toList := isEntry 'q' (by decide) (by decide)
  have header : Shows "# mirrors".toList [] :=
    .comment (by decide : AllBlank []) " mirrors".toList
  have padded : Shows "\to/p ".toList ["o/p"] :=
    .address (by decide : AllBlank ['\t']) (by decide : AllBlank [' ']) first
  have indented : Shows "  #o/q".toList [] :=
    .comment (by decide : AllBlank [' ', ' ']) "o/q".toList
  have lists : Lists "# mirrors\r\n\to/p \r\n\n  #o/q".toList ["o/p"] :=
    .line (by decide) header (by decide : ['\r', '\n'] ∈ lineEnds)
      (.line (by decide) padded (by decide : ['\r', '\n'] ∈ lineEnds)
        (.line (by decide) (.blank (by decide : AllBlank [])) (by decide : ['\n'] ∈ lineEnds)
          (.last (by decide) indented)))
  have read := (iff _ _).2 lists
  have again : listed "o/p" = ["o/p"] := (iff _ _).2 (.last first.single first.shows)
  refine ⟨read, entry "o/p" "o/p" (again ▸ List.mem_singleton_self "o/p"), ?_, ?_⟩
  · rw [before _ _ _ (by decide), read, again]
    rfl
  · refine joined _ ?_ _ (by decide)
    simp only [List.mem_cons, List.not_mem_nil, or_false, forall_eq_or_imp, forall_eq]
    exact ⟨first, other, first⟩

end SourceIndex.Address
