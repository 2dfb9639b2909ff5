import SourceIndex.Proofs.Json.RoundTrip
import SourceIndex.Proofs.Sync.Likeness
import SourceIndex.Proofs.Text.Utf8
import SourceIndex.Rehearsal.Stage

/-!
# Extraction of a directory

The answer for a directory is an object with a member for each file, under the path of the file.
Different keys can spell the same path, since `\` counts as `/`, and then only one of the documents
stays. The members of an object stand in the order of their keys, so it is known which one: the one
whose key has the greatest bytes (`Extraction.IsLast`). For the same reason it is known which of the
values that are no objects is named in the error: the one whose key has the least bytes
(`Extraction.IsFirstOdd`).

Main statement: what the request for a directory gives when the answer is an object
(`Extraction.extractDirectory_answered`).
-/

set_option autoImplicit false

namespace SourceIndex

open Fallible

/-! ## Objects that were read -/

namespace Json

variable {members : Members}

/-- An object that was read has its members in the order of their keys. -/
theorem ascending_of_parseObject? {text : String} (parsed : parseObject? text = some members) :
    Ascending members := by
  unfold parseObject? at parsed
  split at parsed
  · next spelled =>
    cases parsed
    have canonical := canonical_of_parse? spelled
    generalize depthLimit = depth at canonical
    cases canonical with
    | object ascending each => exact ascending
  · cases parsed

theorem Ascending.eq_of_key (ascending : Ascending members) {first second : String × Json}
    (here : first ∈ members) (there : second ∈ members) (same : first.1 = second.1) :
    first = second := by
  have distinct : (members.map Prod.fst).Nodup :=
    List.pairwise_map.2 (ascending.imp fun precedes => precedes.2)
  exact List.inj_on_of_nodup_map distinct here there same

/-- What stands behind a member has a key with greater bytes. -/
theorem Ascending.le_of_append {front rest : Members} {member other : String × Json}
    (ascending : Ascending (front ++ member :: rest)) (later : other ∈ rest) :
    Utf8.ofString member.1 ≤ Utf8.ofString other.1 := by
  obtain ⟨-, behind, -⟩ := List.pairwise_append.1 ascending
  exact Text.ordered_iff.1 ((List.pairwise_cons.1 behind).1 other later).1

end Json

namespace Extraction

variable {ε : Type} {members : Json.Members} {path : String}

/-! ## Which member counts -/

/-- The value of a member is an object. -/
def IsDocument (member : String × Json) : Prop :=
  ∃ inner, member.2 = .object inner

/-- Of the members whose keys spell a path, this one has the key with the greatest bytes. -/
structure IsLast (members : Json.Members) (path : String) (member : String × Json) : Prop where
  there : member ∈ members
  spells : Path.key member.1 = path
  greatest : ∀ other ∈ members, Path.key other.1 = path →
    Utf8.ofString other.1 ≤ Utf8.ofString member.1

/-- Of the members whose values are no objects, this one has the key with the least bytes. -/
structure IsFirstOdd (members : Json.Members) (member : String × Json) : Prop where
  there : member ∈ members
  odd : ¬IsDocument member
  least : ∀ other ∈ members, ¬IsDocument other → Utf8.ofString member.1 ≤ Utf8.ofString other.1

theorem IsLast.unique {first second : String × Json} (ascending : Json.Ascending members)
    (isLast : IsLast members path first) (alsoLast : IsLast members path second) :
    first = second := by
  have less := alsoLast.greatest first isLast.there isLast.spells
  have more := isLast.greatest second alsoLast.there alsoLast.spells
  refine ascending.eq_of_key isLast.there alsoLast.there (String.toList_inj.1 ?_)
  exact Text.eq_of_atMost (Text.ordered_iff.2 less) (Text.ordered_iff.2 more)

/-- Of the members in order with keys that spell a path the last is the one that is found from the
end. -/
theorem isLast_of_find? {member : String × Json} (ascending : Json.Ascending members)
    (found : members.reverse.find? (fun other => Path.key other.1 == path) = some member) :
    IsLast members path member := by
  obtain ⟨spells, back, front, split, others⟩ := List.find?_eq_some_iff_append.1 found
  obtain rfl : members = front.reverse ++ member :: back.reverse := by
    rw [← List.reverse_reverse members, split]
    simp
  refine ⟨by simp, by simpa using spells, fun other there named => ?_⟩
  rcases List.mem_append.1 there with earlier | behind
  · -- What stands before the member has a key with lesser bytes.
    obtain ⟨start, finish, cut⟩ := List.append_of_mem earlier
    rw [cut, List.append_assoc, List.cons_append] at ascending
    exact ascending.le_of_append (List.mem_append_right _ List.mem_cons_self)
  · rcases List.mem_cons.1 behind with rfl | later
    · exact List.le_refl _
    · have unnamed := others other (List.mem_reverse.1 later)
      simp [named] at unnamed

/-! ## Filing the documents of a directory -/

/-- The first value in order that is no object ends the filing, and is named by its path. -/
theorem fileAll_of_odd (odd : ¬∀ member ∈ members, IsDocument member) (filed : Structures) :
    ∃ front member rest, members = front ++ member :: rest ∧
      (∀ other ∈ front, IsDocument other) ∧ ¬IsDocument member ∧
        fileAll filed members = .error (.notAnObject (Path.key member.1)) := by
  induction members generalizing filed with
  | nil => exact absurd (fun _ within => absurd within List.not_mem_nil) odd
  | cons member rest ih =>
    by_cases document : IsDocument member
    · obtain ⟨inner, object⟩ := document
      have later : ¬∀ other ∈ rest, IsDocument other := fun others =>
        odd (List.forall_mem_cons.2 ⟨⟨inner, object⟩, others⟩)
      obtain ⟨front, culprit, behind, rfl, documents, wrong, refused⟩ :=
        ih later (filed.put (Path.key member.1, Document.normalize inner))
      refine ⟨member :: front, culprit, behind, rfl,
        List.forall_mem_cons.2 ⟨⟨inner, object⟩, documents⟩, wrong, ?_⟩
      rw [fileAll, object]
      exact refused
    · refine ⟨[], member, rest, rfl, List.forall_mem_nil _, document, ?_⟩
      rw [fileAll]
      cases value : member.2 with
      | object inner => exact absurd ⟨inner, value⟩ document
      | _ => rfl

/-- What is no object ends the filing of members in order, and the one whose key has the least bytes
is named. -/
theorem fileAll_of_firstOdd (ascending : Json.Ascending members)
    (odd : ¬∀ member ∈ members, IsDocument member) (filed : Structures) :
    ∃ member, IsFirstOdd members member ∧
      fileAll filed members = .error (.notAnObject (Path.key member.1)) := by
  obtain ⟨front, member, rest, rfl, documents, wrong, refused⟩ := fileAll_of_odd odd filed
  refine ⟨member, ⟨by simp, wrong, fun other there alsoWrong => ?_⟩, refused⟩
  rcases List.mem_append.1 there with earlier | behind
  · exact absurd (documents other earlier) alsoWrong
  · rcases List.mem_cons.1 behind with rfl | later
    · exact List.le_refl _
    · exact ascending.le_of_append later

/-- Under every path the last of the documents is filed whose keys spell it. -/
theorem find?_fileAll_iff (ascending : Json.Ascending members)
    (documents : ∀ member ∈ members, IsDocument member) {structures : Structures}
    (taken : fileAll Keyed.empty members = .ok structures) {entry : String × Document} :
    structures.find? path = some entry ↔
      ∃ name inner, IsLast members path (name, .object inner) ∧
        entry = (path, Document.normalize inner) := by
  have filed {other : String × Document} (found : structures.find? path = some other) :
      ∃ name inner, IsLast members path (name, .object inner) ∧
        other = (path, Document.normalize inner) := by
    rcases find?_of_fileAll taken found with ⟨name, inner, last, same⟩ | ⟨-, none⟩
    · have named : other.1 = path := ((structures.find?_eq_some_iff _ _).1 found).2
      exact ⟨name, inner, isLast_of_find? ascending last, Prod.ext named same⟩
    · cases none
  refine ⟨filed, ?_⟩
  rintro ⟨name, inner, isLast, rfl⟩
  cases found : structures.find? path with
  | none =>
    obtain ⟨again, takenAgain, absent⟩ := fileAll_of_objects documents Keyed.empty
    cases taken.symm.trans takenAgain
    exact absurd (List.mem_map.2 ⟨_, isLast.there, isLast.spells⟩) ((absent path).1 found).2
  | some other =>
    obtain ⟨name', inner', alsoLast, rfl⟩ := filed found
    cases isLast.unique ascending alsoLast
    rfl

/-! ## One request for a directory -/

/-- **What the request for a directory gives when the answer is an object.** It is the only request.
If all values are objects, the paths are those that the keys spell, and under each of them is the
document of the last key that spells it. If they are not, the first value that is no object is
named. -/
theorem extractDirectory_answered (team : Collaborators ε) (directory : String)
    (before : Session ε) {answer : String}
    (told : (team.ask .directory (Path.key directory) before.world).1 = .text answer)
    (spelled : Json.parseObject? answer = some members) :
    (extractDirectory team directory before).2 =
        ⟨(team.ask .directory (Path.key directory) before.world).2,
          before.trace ++ [.asked .directory (Path.key directory)]⟩ ∧
      ((∀ member ∈ members, IsDocument member) → ∃ structures : Structures,
        (extractDirectory team directory before).1 = .ok structures ∧
        (∀ path, path ∈ structures.entries.map Prod.fst ↔
          path ∈ members.map fun member => Path.key member.1) ∧
        (∀ path entry, structures.find? path = some entry ↔
          ∃ name inner, IsLast members path (name, .object inner) ∧
            entry = (path, Document.normalize inner)) ∧
        ∀ path, (structures.find? (Path.key path)).isSome = true ↔
          ∃ member ∈ members, Path.Alike member.1 path) ∧
      ((¬∀ member ∈ members, IsDocument member) → ∃ member, IsFirstOdd members member ∧
        (extractDirectory team directory before).1 =
          .error (.failed (.notAnObject (Path.key member.1)))) := by
  have ascending := Json.ascending_of_parseObject? spelled
  have spoken : ¬answer.isEmpty = true := by
    intro empty
    have silent : Json.parseObject? "" = none := by decide
    rw [String.isEmpty_iff.1 empty, silent] at spelled
    cases spelled
  have gives : (extractDirectory team directory before).1 =
      (fileAll Keyed.empty members).mapError .failed := by
    rw [extractDirectory_apply, told, structuresOfReply, ParserReply.result]
    dsimp only
    rw [if_neg spoken, readDirectoryAnswer, spelled]
  refine ⟨by rw [extractDirectory_apply]; rfl, fun documents => ?_, fun odd => ?_⟩
  · obtain ⟨structures, taken, absent⟩ := fileAll_of_objects documents Keyed.empty
    have covers (path : String) : (structures.find? path).isSome = true ↔
        path ∈ members.map fun member => Path.key member.1 := by
      rw [← not_iff_not, Bool.not_eq_true, Option.isSome_eq_false_iff, Option.isNone_iff_eq_none,
        absent]
      exact and_iff_right rfl
    refine ⟨structures, by rw [gives, taken]; rfl, fun path => ?_,
      fun path entry => find?_fileAll_iff ascending documents taken, fun path => ?_⟩
    · rw [← covers, ← not_iff_not, ← structures.find?_eq_none_iff, Bool.not_eq_true,
        Option.isSome_eq_false_iff, Option.isNone_iff_eq_none]
    · rw [covers, List.mem_map]
      exact exists_congr fun member => and_congr_right fun _ => Path.key_eq_iff
  · obtain ⟨member, first, refused⟩ := fileAll_of_firstOdd ascending odd Keyed.empty
    exact ⟨member, first, by rw [gives, refused]; rfl⟩

open Rehearsal

/-- A session in which the parser has an answer for a directory. -/
def answering (answer : String) : Session Stage :=
  Session.start { Stage.bare "/" with script := [⟨.directory, "/w", [.text answer]⟩] }

theorem told_answering (answer : String) :
    (Stage.team.ask .directory (Path.key "/w") (answering answer).world).1 = .text answer := by
  have key : Path.key "/w" = "/w" := by decide +kernel
  rw [key]
  rfl

/-- Two keys that spell one path. -/
def colliding : Json.Members :=
  [("a/b", .object []), ("a\\b", .object [("package", .string "p")])]

/-- Two values that are no objects. -/
def misshapen : Json.Members :=
  [("a", .object []), ("b", .null), ("c", .bool true)]

theorem parseObject?_colliding :
    Json.parseObject? (Json.object colliding).compact = some colliding := by
  have canonical : Json.Canonical Json.depthLimit (.object colliding) := by
    refine .object (by decide +kernel)
      (List.forall_mem_cons.2 ⟨?_, List.forall_mem_singleton.2 ?_⟩)
    · exact .object .nil (List.forall_mem_nil _)
    · exact .object (List.pairwise_singleton _ _) (List.forall_mem_singleton.2 .string)
  rw [Json.parseObject?, Json.parse?_compact canonical (by decide)]

theorem parseObject?_misshapen :
    Json.parseObject? (Json.object misshapen).compact = some misshapen := by
  have canonical : Json.Canonical Json.depthLimit (.object misshapen) := by
    refine .object (by decide +kernel) (List.forall_mem_cons.2 ⟨?_, List.forall_mem_cons.2
      ⟨.null, List.forall_mem_singleton.2 .bool⟩⟩)
    exact .object .nil (List.forall_mem_nil _)
  rw [Json.parseObject?, Json.parse?_compact canonical (by decide)]

/-- Of two documents for one path the one with the greater key stays, and of two values that are no
objects the one with the lesser key is named. -/
theorem extractDirectory_answered_colliding :
    (∃ structures,
        (extractDirectory Stage.team "/w" (answering (Json.object colliding).compact)).1 =
          .ok structures ∧
        structures.find? "a/b" = some ("a/b", [("package", .string "p")])) ∧
      (extractDirectory Stage.team "/w" (answering (Json.object misshapen).compact)).1 =
        .error (.failed (.notAnObject "b")) := by
  constructor
  · obtain ⟨-, filed, -⟩ :=
      extractDirectory_answered Stage.team "/w" _ (told_answering _) parseObject?_colliding
    have documents : ∀ member ∈ colliding, IsDocument member :=
      List.forall_mem_cons.2 ⟨⟨_, rfl⟩, List.forall_mem_singleton.2 ⟨_, rfl⟩⟩
    obtain ⟨structures, taken, -, found, -⟩ := filed documents
    have greatest : IsLast colliding "a/b" ("a\\b", .object [("package", .string "p")]) := by
      refine ⟨List.mem_cons_of_mem _ List.mem_cons_self, by decide +kernel, ?_⟩
      refine List.forall_mem_cons.2 ⟨fun _ => ?_, List.forall_mem_singleton.2 fun _ => ?_⟩
      all_goals decide +kernel
    exact ⟨structures, taken, (found _ _).2 ⟨_, _, greatest, rfl⟩⟩
  · obtain ⟨-, -, refused⟩ :=
      extractDirectory_answered Stage.team "/w" _ (told_answering _) parseObject?_misshapen
    have noDocument : ¬IsDocument ("b", .null) := by
      rintro ⟨inner, same⟩
      cases same
    obtain ⟨member, first, error⟩ := refused fun documents =>
      noDocument (documents _ (List.mem_cons_of_mem _ List.mem_cons_self))
    have named : Path.key member.1 = "b" := by
      have least := first.least ("b", .null) (List.mem_cons_of_mem _ List.mem_cons_self) noDocument
      have there := first.there
      simp only [misshapen, List.mem_cons, List.not_mem_nil, or_false] at there
      rcases there with rfl | rfl | rfl
      · exact absurd ⟨_, rfl⟩ first.odd
      · decide +kernel
      · exact absurd least (by decide +kernel)
    rw [error, named]

end Extraction

end SourceIndex
