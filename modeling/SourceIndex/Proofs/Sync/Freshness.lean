import SourceIndex.Proofs.Sync.Production

/-!
# Where stored structure comes from

An update with a record that was neither extracted nor demoted leaves the stored structure and text
in place. Extraction makes such a record of a file that is no source file under the policy of the
call (`keepsStoredStructure_iff`), so within one call a file is extracted by every write or by none.
What a call leaves of a record is therefore a record that it wrote, or the structure and text of the
record from before, if all that the call wrote there leaves them in place (`stems_of_replay`).

Main statement: the structure and text of a record were extracted together in one call, which wrote
them, and each call that has written the record since took the file for no source file; if there was
no such call, the record is the one extracted (`runCalls_derived`). So structure is as old as the
last policy that listed the extension, while the hash is always renewed.
-/

set_option autoImplicit false

namespace SourceIndex

open Rehearsal

/-! ## Records that leave structure in place -/

namespace FileRecord

variable {policy : Policy} {fits : Document → Prop} {projectId : String} {remote : RemoteFile}
variable {file : FileRecord}

theorem keepsStoredStructure_of_hasStructure (carries : file.hasStructure = true) :
    file.keepsStoredStructure = false := by
  rw [keepsStoredStructure, carries]
  rfl

/-- What extraction makes of a listed file leaves stored structure in place exactly if the file is
no source file. -/
theorem keepsStoredStructure_iff
    (enriched : Enriched policy fits (ofRemote projectId remote) file) :
    file.keepsStoredStructure = true ↔ extensionOf (nameOf remote.path) ∉ policy.extensions := by
  rw [← extension_ofRemote projectId, ← Policy.isSource_iff, Bool.not_eq_true]
  cases enriched with
  | plain uncounted => exact iff_of_true rfl uncounted
  | attached counted short fit ascii =>
    exact iff_of_false Bool.false_ne_true fun uncounted => by cases uncounted.symm.trans counted
  | demoted counted =>
    exact iff_of_false Bool.false_ne_true fun uncounted => by cases uncounted.symm.trans counted

end FileRecord

/-! ## A record through the writes of a call -/

/-- Where a record with structure stems from, given the record found before and those written. -/
inductive Holdings.Stems (found : Option FileRecord) (written : List FileRecord)
    (file : FileRecord) : Prop where
  /-- The record was written. -/
  | written (member : file ∈ written)
  /-- All that was written in its place left the structure and the text of the old record. -/
  | kept (old : FileRecord) (there : found = some old) (document : file.document = old.document)
      (text : file.rawContent = old.rawContent)
      (quiet : ∀ other ∈ written, other.id = file.id → other.keepsStoredStructure = true)
      (untouched : (∀ other ∈ written, other.id ≠ file.id) → file = old)

namespace Holdings

/-- What is written elsewhere does not matter. -/
theorem Stems.append {found : Option FileRecord} {written others : List FileRecord}
    {file : FileRecord} (stems : Stems found written file)
    (elsewhere : ∀ other ∈ others, other.id ≠ file.id) : Stems found (written ++ others) file := by
  cases stems with
  | written member => exact .written (List.mem_append_left others member)
  | kept old there document text quiet untouched =>
    refine .kept old there document text (fun other member same => ?_) fun apart => ?_
    · rcases List.mem_append.1 member with before | after
      · exact quiet other before same
      · exact absurd same (elsewhere other after)
    · exact untouched fun other member => apart other (List.mem_append_left others member)

/-- An update stores its own structure, or it leaves that of the record before it. -/
theorem Stems.update {found : Option FileRecord} {written : List FileRecord}
    {prior other : FileRecord}
    (stems : prior.hasStructure = true → Stems found written prior)
    (alike : prior ∈ written → prior.hasStructure = true → other.keepsStoredStructure = false)
    (same : prior.id = other.id) (carries : (other.storedOver prior).hasStructure = true) :
    Stems found (written ++ [other]) (other.storedOver prior) := by
  cases keeps : other.keepsStoredStructure with
  | false =>
    have stored : other.storedOver prior = other := by
      rw [FileRecord.storedOver, keeps]
      rfl
    rw [stored]
    exact .written (List.mem_append_right written (List.mem_singleton_self other))
  | true =>
    have stored : other.storedOver prior =
        { other with document := prior.document, rawContent := prior.rawContent } := by
      rw [FileRecord.storedOver, if_pos keeps]
    rw [stored] at carries ⊢
    cases stems carries with
    | written member =>
      rw [alike member carries] at keeps
      cases keeps
    | kept old there document text quiet untouched =>
      refine .kept old there document text (fun another member named => ?_) fun apart => ?_
      · rcases List.mem_append.1 member with before | here
        · exact quiet another before (named.trans same.symm)
        · cases List.mem_singleton.1 here
          exact keeps
      · exact absurd rfl (apart other (List.mem_append_right written (List.mem_singleton_self _)))

/-- If the records written under an id all leave structure in place or all do not, a record with
structure stems from those written or from the one before. -/
theorem stems_of_replay {writes : List Write} {before after : Holdings FileRecord} {id : String}
    {file : FileRecord} (alike : ∀ one ∈ writes.filterMap Write.file?,
      ∀ other ∈ writes.filterMap Write.file?, one.id = other.id → one.hasStructure = true →
        other.keepsStoredStructure = false)
    (replayed : replay writes before = some after) (found : after.files.find? id = some file)
    (carries : file.hasStructure = true) :
    Stems (before.files.find? id) (writes.filterMap Write.file?) file := by
  -- From the right: the last write decides, or it leaves a record that the others account for.
  induction writes using List.reverseRecOn generalizing after file with
  | nil =>
    cases replayed
    exact .kept file found rfl rfl (fun _ none => by cases none) fun _ => rfl
  | append_singleton writes last ih =>
    obtain ⟨between, earlier, ended⟩ := replay_append_eq_some_iff.1 replayed
    obtain ⟨_, written, same⟩ := replay_cons_eq_some_iff.1 ended
    cases same
    rw [List.filterMap_append] at alike ⊢
    have stems : ∀ prior : FileRecord, between.files.find? id = some prior →
        prior.hasStructure = true →
        Stems (before.files.find? id) (writes.filterMap Write.file?) prior :=
      fun prior there structured => ih
        (fun one member other among => alike one (List.mem_append_left _ member) other
          (List.mem_append_left _ among)) earlier there structured
    have name : ∀ {holdings : Holdings FileRecord} {record : FileRecord},
        holdings.files.find? id = some record → record.id = id :=
      fun there => ((Keyed.find?_eq_some_iff _ _ _).1 there).2
    have passed : between.files.find? id = some file →
        (∀ other, last.file? = some other → other.id ≠ id) →
        Stems (before.files.find? id)
          (writes.filterMap Write.file? ++ [last].filterMap Write.file?) file := by
      intro there elsewhere
      refine (stems file there carries).append fun other member => ?_
      obtain ⟨write, here, left⟩ := List.mem_filterMap.1 member
      cases List.mem_singleton.1 here
      rw [name found]
      exact elsewhere other left
    have fate := find?_of_write? written id
    rw [found] at fate
    cases last with
    | createProject project => exact passed fate.symm (fun _ none => by cases none)
    | deleteProject project =>
      exact passed (Option.filter_eq_some_iff.1 fate.symm).1 (fun _ none => by cases none)
    | deleteFile unwanted =>
      rw [rowAfter] at fate
      split at fate
      · cases fate
      · exact passed fate.symm (fun _ none => by cases none)
    | createFile other =>
      rw [rowAfter] at fate
      split at fate
      · cases fate
        exact .written (List.mem_append_right _ (List.mem_singleton_self _))
      · next apart =>
        refine passed fate.symm fun _ same => ?_
        cases same
        exact fun equal => apart equal.symm
    | updateFile other =>
      rw [rowAfter] at fate
      split at fate
      · next here =>
        obtain ⟨prior, there, rfl⟩ := Option.map_eq_some_iff.1 fate.symm
        have same : prior.id = other.id := (name there).trans here
        refine .update (stems prior there) (fun member structured => ?_) same carries
        exact alike prior (List.mem_append_left _ member) other
          (List.mem_append_right _ (List.mem_singleton_self other)) same structured
      · next apart =>
        refine passed fate.symm fun _ same => ?_
        cases same
        exact fun equal => apart equal.symm

end Holdings

/-! ## Records through calls -/

namespace Sync

variable {ε ι ρ : Type} [Row ρ] {team : Collaborators ε} {backend : Backend ι}
variable {start run : Run ε ι}

/-- What a call writes leaves stored structure in place exactly if the call takes the file for no
source file. -/
theorem keepsStoredStructure_of_written {call : Call} {file : FileRecord}
    (written : file ∈ call.written team backend run) :
    ∃ policy, call.policy? = some policy ∧
      (file.keepsStoredStructure = true ↔
        FileRecord.extensionOf file.name ∉ policy.extensions) := by
  obtain ⟨policy, projectId, remote, mine, -, enriched⟩ := (extracts_of_written written).enriched
  refine ⟨policy, mine, ?_⟩
  rw [show file.name = FileRecord.nameOf remote.path from enriched.dressed.name]
  exact FileRecord.keepsStoredStructure_iff enriched

/-- The records that a call writes under one id are all extracted or all not. -/
theorem alike_of_written {call : Call} {one other : FileRecord}
    (here : one ∈ call.written team backend run) (there : other ∈ call.written team backend run)
    (same : one.id = other.id) (carries : one.hasStructure = true) :
    other.keepsStoredStructure = false := by
  obtain ⟨policy, projectId, remote, mine, named, enriched⟩ := (extracts_of_written here).enriched
  obtain ⟨policy', projectId', remote', mine', named', enriched'⟩ :=
    (extracts_of_written there).enriched
  cases Option.some.inj (mine.symm.trans mine')
  have path : remote.path = remote'.path :=
    (named.idOf_inj named' ((enriched.dressed.id.symm.trans same).trans enriched'.dressed.id)).2
  have counted := FileRecord.keepsStoredStructure_of_hasStructure carries
  rw [← Bool.not_eq_true, FileRecord.keepsStoredStructure_iff enriched] at counted
  rwa [← Bool.not_eq_true, FileRecord.keepsStoredStructure_iff enriched', ← path]

/-- In the course of calls the record was written under the policy. -/
def Wrote (team : Collaborators ε) (backend : Backend ι) (start : Run ε ι) (calls : List Call)
    (policy : Policy) (file : FileRecord) : Prop :=
  ∃ earlier call later, calls = earlier ++ call :: later ∧ call.policy? = some policy ∧
    file ∈ call.written team backend (runCalls team backend earlier start)

theorem not_wrote_nil {policy : Policy} {file : FileRecord} :
    ¬Wrote team backend start [] policy file := by
  rintro ⟨earlier, call, later, split, -⟩
  simp at split

theorem wrote_append_singleton_iff {calls : List Call} {last : Call} {policy : Policy}
    {file : FileRecord} :
    Wrote team backend start (calls ++ [last]) policy file ↔
      Wrote team backend start calls policy file ∨ last.policy? = some policy ∧
        file ∈ last.written team backend (runCalls team backend calls start) := by
  constructor
  · rintro ⟨earlier, call, later, split, mine, written⟩
    rcases List.eq_nil_or_concat later with rfl | ⟨later, final, rfl⟩
    · obtain ⟨rfl, same⟩ := List.append_inj' split rfl
      cases same
      exact .inr ⟨mine, written⟩
    · rw [List.concat_eq_append, ← List.cons_append, ← List.append_assoc] at split
      obtain ⟨rfl, -⟩ := List.append_inj' split rfl
      exact .inl ⟨earlier, call, later, rfl, mine, written⟩
  · rintro (⟨earlier, call, later, rfl, mine, written⟩ | ⟨mine, written⟩)
    · exact ⟨earlier, call, later ++ [last], by simp, mine, written⟩
    · exact ⟨calls, last, [], rfl, mine, written⟩

theorem runCalls_split (earlier later : List Call) (call : Call) (start : Run ε ι) :
    runCalls team backend later (runCalls team backend (earlier ++ [call]) start) =
      runCalls team backend (earlier ++ call :: later) start := by
  rw [runCalls, runCalls, ← List.foldl_append, List.append_assoc]
  rfl

/-- The structure and the text of a record come from another one, which a call extracted and wrote:
whatever call has written the record since took its file for no source file. -/
structure Derived (team : Collaborators ε) (backend : Backend ι) (start : Run ε ι)
    (earlier : List Call) (call : Call) (later : List Call) (source stored : FileRecord) :
    Prop where
  written : source ∈ call.written team backend (runCalls team backend earlier start)
  extracted : call.Extracts team (runCalls team backend earlier start).session
    (runCalls team backend (earlier ++ [call]) start).session source
  id : source.id = stored.id
  document : source.document = stored.document
  text : source.rawContent = stored.rawContent
  since : ∀ policy file,
    Wrote team backend (runCalls team backend (earlier ++ [call]) start) later policy file →
      file.id = stored.id → FileRecord.extensionOf file.name ∉ policy.extensions
  fresh : (∀ policy file,
    Wrote team backend (runCalls team backend (earlier ++ [call]) start) later policy file →
      file.id = stored.id → FileRecord.extensionOf file.name ∈ policy.extensions) → source = stored

namespace Derived

variable {earlier later : List Call} {call : Call} {source stored : FileRecord}

/-- A record that was just written is its own source. -/
theorem of_written
    (written : stored ∈ call.written team backend (runCalls team backend earlier start)) :
    Derived team backend start earlier call [] stored stored where
  written := written
  extracted := by
    rw [runCalls_append_singleton]
    exact extracts_of_written written
  id := rfl
  document := rfl
  text := rfl
  since _ _ wrote := absurd wrote not_wrote_nil
  fresh _ := rfl

/-- One more call that leaves structure and text in place leaves the source. -/
theorem append {last : Call} {kept : FileRecord}
    (derived : Derived team backend start earlier call later source stored)
    (same : stored.id = kept.id) (document : kept.document = stored.document)
    (text : kept.rawContent = stored.rawContent)
    (quiet : ∀ file ∈ last.written team backend
        (runCalls team backend (earlier ++ call :: later) start),
      file.id = kept.id → file.keepsStoredStructure = true)
    (untouched : (∀ file ∈ last.written team backend
        (runCalls team backend (earlier ++ call :: later) start), file.id ≠ kept.id) →
      kept = stored) :
    Derived team backend start earlier call (later ++ [last]) source kept := by
  rw [← runCalls_split] at quiet untouched
  refine ⟨derived.written, derived.extracted, derived.id.trans same,
    derived.document.trans document.symm, derived.text.trans text.symm, ?_, ?_⟩
  · intro policy file wrote named
    rcases wrote_append_singleton_iff.1 wrote with before | ⟨mine, written⟩
    · exact derived.since policy file before (named.trans same.symm)
    · obtain ⟨own, owned, keeps⟩ := keepsStoredStructure_of_written written
      cases Option.some.inj (mine.symm.trans owned)
      exact keeps.1 (quiet file written named)
  · intro listed
    -- A write by the last call would have been one under a policy that does not list the file.
    have unwritten : kept = stored := untouched fun file written named => by
      obtain ⟨own, owned, keeps⟩ := keepsStoredStructure_of_written written
      have wrote := wrote_append_singleton_iff.2 (.inr ⟨owned, written⟩)
      exact keeps.1 (quiet file written named) (listed own file wrote named)
    rw [unwritten]
    refine derived.fresh fun policy file wrote named => ?_
    exact listed policy file (wrote_append_singleton_iff.2 (.inl wrote)) (named.trans same)

end Derived

/-- Every record with structure has a source. -/
def Sourced (team : Collaborators ε) (backend : Backend ι) (start : Run ε ι) (calls : List Call)
    (records : Holdings FileRecord) : Prop :=
  ∀ stored ∈ records.files.entries, stored.hasStructure = true →
    ∃ source earlier call later, calls = earlier ++ call :: later ∧
      Derived team backend start earlier call later source stored

/-- With the writes of one more call, every record with structure has a source again. -/
theorem Sourced.append {calls : List Call} {call : Call} {writes : List Write}
    {records after : Holdings FileRecord} (sourced : Sourced team backend start calls records)
    (wrote : writes.filterMap Write.file? =
      call.written team backend (runCalls team backend calls start))
    (replayed : Holdings.replay writes records = some after) :
    Sourced team backend start (calls ++ [call]) after := by
  intro stored member carries
  have found := (after.files.find?_eq_some_iff (Row.id stored) stored).2 ⟨member, rfl⟩
  have alike : ∀ one ∈ writes.filterMap Write.file?, ∀ other ∈ writes.filterMap Write.file?,
      one.id = other.id → one.hasStructure = true → other.keepsStoredStructure = false := by
    rw [wrote]
    exact fun one here other there => alike_of_written here there
  have stems := Holdings.stems_of_replay alike replayed found carries
  rw [wrote] at stems
  cases stems with
  | written here => exact ⟨stored, calls, call, [], rfl, .of_written here⟩
  | kept old there document text quiet untouched =>
    obtain ⟨within, named⟩ := (records.files.find?_eq_some_iff _ _).1 there
    have structured : old.hasStructure = true := by
      rw [FileRecord.hasStructure, ← document]
      exact carries
    obtain ⟨source, earlier, origin, later, rfl, derived⟩ := sourced old within structured
    exact ⟨source, earlier, origin, later ++ [call], by simp,
      derived.append named document text quiet untouched⟩

/-- **Where stored structure comes from.** After any calls from an empty index, each under a policy
of its own, the structure and the text of a row were extracted together in one of the calls, which
wrote them. Whatever call has written the record since did not list the file's extension. So if
every such call listed it, the record is the one that was extracted, hash and all. -/
theorem runCalls_derived [Row.Faithful ρ] (storage : Storage backend ρ) (team : Collaborators ε)
    (start : Run ε ι) (empty : storage.holdings start.index = Holdings.empty)
    (calls : List Call) :
    ∀ row ∈ (storage.holdings (runCalls team backend calls start).index).files.entries,
      Row.hasStructure row = true →
        ∃ stored source earlier call later, row = Row.ofRecord stored ∧
          calls = earlier ++ call :: later ∧
            Derived team backend start earlier call later source stored := by
  have nothing : Sourced team backend start [] Holdings.empty := fun stored member => by
    cases member
  obtain ⟨records, stored, sourced⟩ := records_runCalls storage team empty
    (motive := Sourced team backend start) nothing
    (fun calls call records writes after sourced wrote replayed => sourced.append wrote replayed)
    calls
  intro row member carries
  rw [stored] at member
  obtain ⟨file, within, rfl⟩ := List.mem_map.1 member
  rw [Row.hasStructure_ofRecord] at carries
  obtain ⟨source, earlier, call, later, split, derived⟩ := sourced file within carries
  exact ⟨file, source, earlier, call, later, rfl, split, derived⟩

/-- Parties that count how often the hosting service was asked: a file that the parser knows has a
new hash the second time. -/
def renewing : Collaborators Nat where
  resolve _ asked :=
    (.ok (some ⟨Scene.project, [Scene.entry "A.java" (if asked = 0 then "1" else "2")]⟩), asked + 1)
  mirror _ asked := (.ok (), asked)
  ask _ _ asked := (.text "\x7b\"/w/o/p/A.java\":\x7b\x7d\x7d", asked)
  read _ _ := .ok []
  pathExists _ _ := true
  refuse _ asked := (none, asked)

/-- Nothing was asked and nothing is indexed. -/
def unasked : Run Nat MemoryIndex :=
  ⟨Session.start 0, MemoryIndex.empty⟩

/-- A sync of the project with one extension for source files. -/
def syncWith (extension : String) : Call :=
  .sync ⟨⟨[extension], 125⟩, "/w"⟩ "o/p"

/-- Two syncs, with different extensions for source files. -/
def relisted : List Call :=
  [syncWith "java", syncWith "kt"]

/-- The records that the two syncs leave. -/
def renewed : List FileRecord :=
  (MemoryIndex.storage.holdings
    (runCalls renewing MemoryIndex.backend relisted unasked).index).files.entries

/-- What is looked at of a record: its id, its hash and whether it has structure. -/
def outline (file : FileRecord) : String × String × Bool :=
  (file.id, file.sha, file.hasStructure)

theorem map_outline_renewed : renewed.map outline = [("o/p/A.java", "2", true)] := by
  decide +kernel

/-- The record has structure, and a source, under its second hash. -/
theorem runCalls_derived_renewed :
    renewed.map outline = [("o/p/A.java", "2", true)] ∧
      ∀ stored ∈ renewed, ∃ source earlier call later, relisted = earlier ++ call :: later ∧
        Derived renewing MemoryIndex.backend unasked earlier call later source stored := by
  refine ⟨map_outline_renewed, fun row member => ?_⟩
  have outlined : outline row = ("o/p/A.java", "2", true) := by
    rw [← List.mem_singleton, ← map_outline_renewed]
    exact List.mem_map_of_mem member
  have carries : row.hasStructure = true := congrArg (fun parts => parts.2.2) outlined
  obtain ⟨stored, source, earlier, call, later, same, split, derived⟩ :=
    runCalls_derived MemoryIndex.storage renewing unasked rfl relisted row member carries
  rw [show row = stored from same]
  exact ⟨source, earlier, call, later, split, derived⟩

/-- Whatever sync wrote this hash wrote no structure with it: the record has that of its first
hash. -/
theorem outdated_renewed :
    ∃ stored ∈ renewed, stored.hasStructure = true ∧
      ∀ earlier call later, relisted = earlier ++ call :: later →
        ∀ file ∈ call.written renewing MemoryIndex.backend
            (runCalls renewing MemoryIndex.backend earlier unasked),
          file.id = stored.id → file.sha = stored.sha → file.hasStructure = false := by
  have first : ((syncWith "java").written renewing MemoryIndex.backend
      (runCalls renewing MemoryIndex.backend [] unasked)).map outline =
        [("o/p/A.java", "1", true)] := by
    decide +kernel
  have second : ((syncWith "kt").written renewing MemoryIndex.backend
      (runCalls renewing MemoryIndex.backend [syncWith "java"] unasked)).map outline =
        [("o/p/A.java", "2", false)] := by
    decide +kernel
  obtain ⟨stored, alone, outlined⟩ := List.map_eq_singleton_iff.1 map_outline_renewed
  have hash : stored.sha = "2" := congrArg (fun parts => parts.2.1) outlined
  refine ⟨stored, alone ▸ List.mem_singleton_self stored,
    congrArg (fun parts => parts.2.2) outlined, ?_⟩
  intro earlier call later split file written _ same
  rw [hash] at same
  rcases earlier with _ | ⟨before, _ | ⟨another, rest⟩⟩
  · obtain ⟨rfl, -⟩ := List.cons.inj split
    have wrote : outline file = ("o/p/A.java", "1", true) := by
      rw [← List.mem_singleton, ← first]
      exact List.mem_map_of_mem written
    have older : file.sha = "1" := congrArg (fun parts => parts.2.1) wrote
    rw [older] at same
    exact absurd same (by decide)
  · obtain ⟨rfl, others⟩ := List.cons.inj split
    obtain ⟨rfl, -⟩ := List.cons.inj others
    have wrote : outline file = ("o/p/A.java", "2", false) := by
      rw [← List.mem_singleton, ← second]
      exact List.mem_map_of_mem written
    exact congrArg (fun parts => parts.2.2) wrote
  · have lengths := congrArg List.length split
    simp [relisted] at lengths

end Sync

end SourceIndex
