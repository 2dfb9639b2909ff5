import Mathlib.Data.List.Forall2
import SourceIndex.Proofs.Extraction.Requests
import SourceIndex.Proofs.Sync.Confinement

/-!
# Files that the parser cannot tell apart

A file is asked for, and looked up in the answer for its directory, under the spelling of its path
that has `/` for `\`. On the disk `\` is a character like any other. So two files have the same
spelling exactly if their paths are the same but for these two characters (`Path.Alike`,
`Path.key_eq_iff`), and then the parser cannot tell them apart.

Main statement: the structure of a record that a sync writes is a document that the parser gave in
this sync, and it counts for the files with paths like that of the record and for no others, while
the text was read at this very path (`Sync.syncProject_likeness`). Of two files with paths alike one
can get the structure of the other (`Sync.syncProject_confuses`).
-/

set_option autoImplicit false

namespace SourceIndex

/-! ## Paths that are alike -/

namespace Path

/-- A character that separates the parts of a path for the parser. -/
def IsSeparator (character : Char) : Prop :=
  character = '/' ∨ character = '\\'

/-- The characters are the same, or both are separators. -/
def SameMark (left right : Char) : Prop :=
  left = right ∨ IsSeparator left ∧ IsSeparator right

/-- The paths are the same but for the separators in them. -/
def Alike (left right : String) : Prop :=
  List.Forall₂ SameMark left.toList right.toList

/-- The character that stands for another one in a key. -/
theorem mark_eq_iff (left right : Char) :
    (if left = '\\' then '/' else left) = (if right = '\\' then '/' else right) ↔
      SameMark left right := by
  unfold SameMark IsSeparator
  grind

/-- **Two paths have the same key exactly if they are alike.** -/
theorem key_eq_iff {left right : String} : key left = key right ↔ Alike left right := by
  rw [← String.toList_inj, toList_key, toList_key, Alike, ← List.forall₂_eq_eq_eq,
    List.forall₂_map_left_iff, List.forall₂_map_right_iff]
  exact iff_of_eq (congrArg (List.Forall₂ · _ _) (funext₂ fun left right =>
    propext (mark_eq_iff left right)))

instance (left right : String) : Decidable (Alike left right) :=
  decidable_of_iff _ key_eq_iff

theorem key_of_notMem {path : String} (plain : '\\' ∉ path.toList) : key path = path := by
  rw [← String.toList_inj, toList_key]
  refine (List.map_congr_left fun character within => ?_).trans (List.map_id _)
  refine if_neg fun same => plain ?_
  rw [← same]
  exact within

theorem key_key (path : String) : key (key path) = key path := by
  refine key_of_notMem fun within => ?_
  rw [toList_key] at within
  obtain ⟨character, -, same⟩ := List.mem_map.1 within
  split at same
  · cases same
  · next other => exact other same

/-- Paths that are alike are the same if neither has a `\`. -/
theorem Alike.eq {left right : String} (alike : Alike left right) (plain : '\\' ∉ left.toList)
    (plain' : '\\' ∉ right.toList) : left = right := by
  rw [← key_of_notMem plain, ← key_of_notMem plain', key_eq_iff]
  exact alike

/-- In one directory two relative paths are alike exactly if they are so by themselves. -/
theorem alike_join_iff {base left right : String} (relative : isAbsolute left = false)
    (relative' : isAbsolute right = false) :
    Alike (join base left) (join base right) ↔ Alike left right := by
  have front (before : String) :
      key (before ++ left) = key (before ++ right) ↔ key left = key right := by
    simp only [← String.toList_inj, toList_key, String.toList_append, List.map_append,
      List.append_cancel_left_eq]
  rw [← key_eq_iff, ← key_eq_iff, join, join, relative, relative', if_neg Bool.false_ne_true,
    if_neg Bool.false_ne_true]
  split
  · exact front base
  · exact front (base ++ "/")

end Path

/-! ## What the parser gives for a path -/

open Fallible

variable {ε ι : Type} {team : Collaborators ε}

/-- In a world that answers of the parties lead to, the parser gives a document for a path: in
answer to a request for the file, or to one for its directory. The answer for a directory has
documents under names, of which the last one with the spelling of the path counts. -/
inductive Collaborators.Parses (team : Collaborators ε) (world : ε) (directory path : String) :
    String → Document → Prop where
  | file {later : ε} {answer : String} {members : Json.Members}
      (led : Relation.ReflTransGen team.Turn world later)
      (replied : (team.ask .file (Path.key path) later).1 = .text answer)
      (spelled : Json.parse? answer = some (.object members)) :
      Parses team world directory path (Path.key path) (Document.normalize members)
  | directory {later : ε} {answer name : String} {members inner : Json.Members}
      (led : Relation.ReflTransGen team.Turn world later)
      (replied : (team.ask .directory (Path.key directory) later).1 = .text answer)
      (spelled : Json.parseObject? answer = some members)
      (last : members.reverse.find? (fun member => Path.key member.1 == Path.key path) =
        some (name, .object inner)) :
      Parses team world directory path name (Document.normalize inner)

variable {directory path name : String} {document : Document}

/-- What is given for a path is given under a name that has its spelling. -/
theorem Collaborators.Parses.key_eq {world : ε}
    (parses : team.Parses world directory path name document) :
    Path.key name = Path.key path := by
  cases parses with
  | file led replied spelled => exact Path.key_key path
  | directory led replied spelled last => simpa using List.find?_some last

namespace Extraction

variable {before after : Session ε} {batch : Option Structures}

/-- What is heard of a file is the reply to a request for it, after as many answers as need be. -/
theorem Heard.led {target : String} {reply : ParserReply}
    (heard : Heard team target before reply after) :
    ∃ world, Relation.ReflTransGen team.Turn before.world world ∧
      (team.ask .file target world).1 = reply := by
  cases heard with
  | first told => exact ⟨_, .refl, rfl⟩
  | second silent => exact ⟨_, .single (.asked .file target), rfl⟩

/-- Of the members with one key the last is filed. -/
theorem find?_of_fileAll {filed structures : Structures} {members : Json.Members}
    {wanted : String} {entry : String × Document} (taken : fileAll filed members = .ok structures)
    (found : structures.find? wanted = some entry) :
    (∃ name inner, members.reverse.find? (fun member => Path.key member.1 == wanted) =
        some (name, .object inner) ∧ entry.2 = Document.normalize inner) ∨
      members.reverse.find? (fun member => Path.key member.1 == wanted) = none ∧
        filed.find? wanted = some entry := by
  induction members generalizing filed with
  | nil =>
    cases taken
    exact .inr ⟨rfl, found⟩
  | cons member rest ih =>
    rw [fileAll] at taken
    rw [List.reverse_cons, List.find?_append]
    split at taken
    · cases taken
    · next document taking =>
      rcases ih taken with ⟨name, inner, last, same⟩ | ⟨none, there⟩
      · exact .inl ⟨name, inner, by rw [last, Option.some_or], same⟩
      · rw [none, Option.none_or, List.find?_singleton]
        -- Nothing later has the key, so the member itself is the last if it has it.
        rw [Keyed.find?_put] at there
        split at there
        · next named =>
          cases there
          rw [if_pos (beq_iff_eq.2 named.symm)]
          cases value : member.2 with
          | object inner =>
            rw [value] at taking
            cases taking
            exact .inl ⟨member.1, inner, by rw [← value], rfl⟩
          | _ =>
            rw [value] at taking
            cases taking
        · next apart =>
          rw [if_neg fun same => apart (beq_iff_eq.1 same).symm]
          exact .inr ⟨rfl, there⟩

/-- The document of a batch is given for a path in the answer for the directory. -/
theorem parses_of_batched {world : ε} {structures : Structures} {entry : String × Document}
    (led : Relation.ReflTransGen team.Turn world before.world)
    (extracted : extractDirectory team directory before = (.ok structures, after))
    (there : structures.find? (Path.key path) = some entry) :
    ∃ name, team.Parses world directory path name entry.2 := by
  obtain ⟨answer, between, asked, extracted⟩ := bind_eq_ok_iff.1 extracted
  split at extracted
  · exact absurd extracted throw_ne_ok
  · have read := ofResult_eq_ok extracted
    unfold readDirectoryAnswer at read
    split at read
    · cases read
    · next members spelled =>
      rcases find?_of_fileAll read there with ⟨name, inner, last, same⟩ | ⟨-, none⟩
      · rw [same]
        exact ⟨name, .directory led (ask_eq_ok asked) spelled last⟩
      · cases none

/-- A document that is found for a path is given for it. -/
theorem Found.parses {first last : Session ε}
    (found : Found team batch path before document after)
    (led : Relation.ReflTransGen team.Turn first.world before.world)
    (batched : ∀ structures, batch = some structures →
      EndedBetween (Session.Reaches team) (extractDirectory team directory) first last
        structures) :
    ∃ name, team.Parses first.world directory path name document := by
  cases found with
  | batched there =>
    obtain ⟨structures, given, within⟩ := Option.bind_eq_some_iff.1 there
    obtain ⟨start, finish, earlier, extracted, -⟩ := batched structures given
    exact parses_of_batched earlier.world extracted within
  | answered unbatched heard told spelled =>
    obtain ⟨world, further, replied⟩ := heard.led
    exact ⟨Path.key path, .file (led.trans further) replied spelled⟩

end Extraction

section

variable {setup : Setup} {projectId : String} {before after : Session ε} {file : FileRecord}

/-- A record that gets structure gets text with it. -/
theorem ExtractedBetween.exists_text
    (extracted : ExtractedBetween team setup projectId before after file)
    (given : file.document = some document) : ∃ text, file.rawContent = some text := by
  obtain ⟨remote, batch, ⟨start, finish, -, done, -⟩, -⟩ := extracted
  cases Extraction.enrich_dressed done with
  | plain => cases given
  | attached document text => exact ⟨text, rfl⟩
  | demoted => cases given

/-- The structure of an extracted record was given for the path of the record. -/
theorem ExtractedBetween.parses
    (extracted : ExtractedBetween team setup projectId before after file)
    (given : file.document = some document) :
    ∃ name, team.Parses before.world (setup.localPath projectId)
      (Path.join (setup.localPath projectId) file.path) name document := by
  obtain ⟨text, texted⟩ := extracted.exists_text given
  obtain ⟨remote, batch, ⟨start, finish, earlier, done, -⟩, batched⟩ := extracted
  have same : file.path = remote.path := (Extraction.enrich_dressed done).path
  rw [same]
  cases Extraction.documented_of_text done rfl texted with
  | intro eligible found content =>
    cases given
    exact found.parses earlier.world batched

end

namespace Sync

/-- **The structure that a sync writes into a record counts for the files with paths like that of
the record, and for no others.** It is a document that the parser gave in this sync under a name
with the spelling of the path, and the text is that of the file at the path. Two listed files have
one spelling exactly if their paths are alike. -/
theorem syncProject_likeness (team : Collaborators ε) (backend : Backend ι) (setup : Setup)
    {address id : String} (spelled : Address.projectId? address = some id) (run : Run ε ι) :
    (∃ acts,
      (syncProject team backend setup address run).2.session.trace = run.session.trace ++ acts ∧
        ∀ act ∈ acts, ∀ file document, act.written? = some file → file.document = some document →
          ∃ name text,
            team.Parses run.session.world (setup.localPath id)
              (Path.join (setup.localPath id) file.path) name document ∧
            (∀ path, Path.key path = Path.key name ↔
              Path.Alike path (Path.join (setup.localPath id) file.path)) ∧
            file.rawContent = some text ∧
            team.Gives run.session.world (Path.join (setup.localPath id) file.path) text) ∧
      ∀ left right, Path.isAbsolute left = false → Path.isAbsolute right = false →
        (Path.key (Path.join (setup.localPath id) left) =
            Path.key (Path.join (setup.localPath id) right) ↔ Path.Alike left right) := by
  refine ⟨?_, fun left right relative relative' =>
    Path.key_eq_iff.trans (Path.alike_join_iff relative relative')⟩
  rcases ended : syncProject team backend setup address run with ⟨result, after⟩
  obtain ⟨-, acts, extended, makes⟩ := syncProject_extracts ended
  refine ⟨acts, extended, fun act member file document wrote given => ?_⟩
  obtain ⟨other, same, extracted⟩ := makes act member file wrote
  obtain rfl : id = other := Option.some.inj (spelled.symm.trans same)
  obtain ⟨name, parses⟩ := extracted.parses given
  obtain ⟨text, texted⟩ := extracted.exists_text given
  refine ⟨name, text, parses, fun path => ?_, texted,
    (Session.Reaches.gives (extracted.reads texted)).1⟩
  rw [parses.key_eq, Path.key_eq_iff]

open Rehearsal

/-- The start of a sync of a scene's project, in which every listed file has its path for a text. -/
def withFiles (paths : List String) (script : Script) (index : MemoryIndex) :
    Run Stage MemoryIndex :=
  let start := Scene.opening (paths.map (Scene.entry · "1")) script [] index
  let disk := paths.foldl
    (fun disk path => disk.write "/" ("/w/o/p/" ++ path) (.file (Utf8.encode path.toList)))
    start.session.world.disk
  { start with session := Session.start { start.session.world with disk := disk } }

/-- The run after the sync. -/
def synced (start : Run Stage MemoryIndex) : Run Stage MemoryIndex :=
  (syncProject Stage.team MemoryIndex.backend Scene.setup "o/p" start).2

/-- The structures and the texts that are stored after the sync, under the paths of the files. -/
def stored (start : Run Stage MemoryIndex) : List (String × Option String × Option String) :=
  (synced start).index.files.entries.map fun file =>
    (file.path, file.document.map fun document => Json.compact (.object document), file.rawContent)

/-- A first import of two files. The answer for the directory has a document for either. -/
def importing : Run Stage MemoryIndex :=
  withFiles ["A.java", "a/b.java"]
    [⟨.directory, "/w/o/p",
      [.text "\x7b\"/w/o/p/A.java\":\x7b\"A\":1\x7d,\"/w/o/p/a/b.java\":\x7b\"B\":1\x7d\x7d"]⟩]
    MemoryIndex.empty

/-- Two files with different paths get a document each, and each document counts for the file with
its path alone. -/
theorem syncProject_likeness_plain :
    stored importing =
        [("A.java", some "\x7b\"A\":1\x7d", some "A.java"),
          ("a/b.java", some "\x7b\"B\":1\x7d", some "a/b.java")] ∧
      (∀ act ∈ (synced importing).session.trace, ∀ file document,
        act.written? = some file → file.document = some document →
          ∃ name, Stage.team.Parses importing.session.world "/w/o/p"
              (Path.join "/w/o/p" file.path) name document ∧
            ∀ path, Path.key path = Path.key name ↔
              Path.Alike path (Path.join "/w/o/p" file.path)) ∧
      Path.key (Path.join "/w/o/p" "A.java") ≠ Path.key (Path.join "/w/o/p" "a/b.java") := by
  have place : Scene.setup.localPath "o/p" = "/w/o/p" := by decide +kernel
  obtain ⟨⟨acts, extended, documents⟩, keys⟩ :=
    syncProject_likeness Stage.team MemoryIndex.backend Scene.setup
      (by decide +kernel : Address.projectId? "o/p" = some "o/p") importing
  rw [place] at documents keys
  refine ⟨by decide +kernel, ?_, ?_⟩
  · intro act member file document wrote given
    have within : act ∈ acts := by
      rw [synced, extended] at member
      exact member
    obtain ⟨name, text, parses, counts, -⟩ := documents act within file document wrote given
    exact ⟨name, parses, counts⟩
  · rw [Ne, keys "A.java" "a/b.java" (by decide) (by decide)]
    exact fun alike => absurd (alike.eq (by decide) (by decide)) (by decide)

/-- **Of two files whose paths are alike one can get the structure of the other**, together with its
own text, although the parser tells them apart. It is asked twice for the one file, and never for
the other. In the answer for a directory it has a document for either, and one of them is lost. -/
theorem syncProject_confuses :
    let paths := ["a/b.java", "a\\b.java"]
    let asked := withFiles paths
      [⟨.file, "/w/o/p/a/b.java", [.text "\x7b\"A\":1\x7d"]⟩,
        ⟨.file, "/w/o/p/a\\b.java", [.text "\x7b\"B\":1\x7d"]⟩] (Scene.indexed [])
    let imported := withFiles paths
      [⟨.directory, "/w/o/p", [.text
        "\x7b\"/w/o/p/a/b.java\":\x7b\"A\":1\x7d,\"/w/o/p/a\\\\b.java\":\x7b\"B\":1\x7d\x7d"]⟩]
      MemoryIndex.empty
    stored asked =
        [("a/b.java", some "\x7b\"A\":1\x7d", some "a/b.java"),
          ("a\\b.java", some "\x7b\"A\":1\x7d", some "a\\b.java")] ∧
      (synced asked).session.trace.filterMap Act.request? =
        [(.file, "/w/o/p/a/b.java"), (.file, "/w/o/p/a/b.java")] ∧
      stored imported =
        [("a/b.java", some "\x7b\"B\":1\x7d", some "a/b.java"),
          ("a\\b.java", some "\x7b\"B\":1\x7d", some "a\\b.java")] := by
  decide +kernel

end Sync

end SourceIndex
