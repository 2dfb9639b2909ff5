import SourceIndex.Proofs.Index.Parts
import SourceIndex.Proofs.Sync.Rollback

/-!
# Isolation of projects

File ids of all projects are keys of one collection, and a call for one project deletes what is
filed under that project and writes what is listed under its ids. Every write that a call does is
confined to its project (`perform_confined`): the project itself is the one that the address spells,
a record is filed under it with an id of it, and a row that is replaced or dropped was found among
the project's hashes.

Main statements: a call leaves the other projects and the rows filed under them as they are,
whatever it ends with (`outside_perform`), and if every row has an id of its project, this is still
so after the call (`wellNamed_perform`).
-/

set_option autoImplicit false

namespace SourceIndex

open Fallible

variable {ε ι ρ : Type} [Row ρ]

/-- What the hosting service finds at an address is the project with an id. -/
def Collaborators.Identifies (team : Collaborators ε) (address projectId : String) : Prop :=
  ∀ world remote after, team.resolve address world = (.ok (some remote), after) →
    remote.project.id = projectId

/-- The address of the project that a call is for. -/
def Call.address : Call → String
  | .sync _ address | .delete address => address

theorem FileRecord.Listed.isIdOf {projectId : String} {listing : List RemoteFile}
    {file : FileRecord} (listed : file.Listed projectId listing) :
    FileRecord.isIdOf projectId file.id = true := by
  obtain ⟨remote, -, single⟩ := listed
  exact isIdOf_iff.2 ⟨remote.path, single.id⟩

namespace Sync

variable {team : Collaborators ε} {backend : Backend ι} {storage : Storage backend ρ}
variable {projectId : String} {listing : List RemoteFile} {writes : List Write}

/-! ## The writes of a course -/

/-- A planned write replaces or drops what is indexed for the project. -/
theorem Planned.indexed_of_replaced {index : ι}
    (planned : Planned backend index projectId listing writes) {write : Write}
    (member : write ∈ writes) {id : String} (replaces : write.replaced? = some id) :
    ∃ hashes entry, backend.fileHashes index projectId = .ok hashes ∧
      hashes.find? id = some entry := by
  obtain ⟨hashes, plan, answered, extracted, first⟩ := planned (List.ne_nil_of_mem member)
  refine ⟨hashes, ?_⟩
  rcases List.mem_append.1 (first.subset member) with filling | deleting
  · rcases List.mem_append.1 filling with creating | updating
    · obtain ⟨file, -, rfl⟩ := List.mem_map.1 creating
      cases replaces
    · obtain ⟨file, asked, rfl⟩ := List.mem_map.1 updating
      cases replaces
      obtain ⟨source, update, single⟩ := Plan.exists_source extracted.updates asked
      obtain ⟨entry, found, -⟩ := Plan.toUpdate_indexed update
      exact ⟨entry, answered, by rw [single.id, found]⟩
  · obtain ⟨unwanted, asked, rfl⟩ := List.mem_map.1 deleting
    cases replaces
    rw [extracted.deletes, Plan.mem_toDelete_iff] at asked
    obtain ⟨⟨entry, found⟩, -⟩ := asked
    exact ⟨entry, answered, found⟩

theorem Planned.isOf {index : ι} (planned : Planned backend index projectId listing writes) :
    ∀ write ∈ writes, write.IsOf projectId := by
  intro write member
  rcases planned.cases member with ⟨file, rfl | rfl, listed⟩ | ⟨hashes, id, rfl, -⟩
  · exact ⟨listed.projectId, listed.isIdOf⟩
  · exact ⟨listed.projectId, listed.isIdOf⟩
  · trivial

theorem Planned.confined {index : ι} (planned : Planned backend index projectId listing writes) :
    ∀ write ∈ writes, (storage.holdings index).Confined projectId write := by
  intro write member
  constructor
  · exact planned.isOf write member
  · intro id replaces
    obtain ⟨hashes, entry, answered, found⟩ := planned.indexed_of_replaced member replaces
    obtain ⟨-, rfl⟩ := storage.fileHashes_eq_ok_iff.1 answered
    exact Holdings.owned_of_hashesOf found

theorem confined_additions {project : Project} {files : List FileRecord} {before : Holdings ρ}
    (named : project.id = projectId) (listed : ∀ file ∈ files, file.Listed projectId listing) :
    ∀ write ∈ additions project files, before.Confined projectId write := by
  intro write member
  rcases List.mem_cons.1 member with rfl | creating
  · exact ⟨named, nofun⟩
  · obtain ⟨file, asked, rfl⟩ := List.mem_map.1 creating
    exact ⟨⟨(listed file asked).projectId, (listed file asked).isIdOf⟩, nofun⟩

/-- Adding a project replaces nothing, and removing it again is confined to it as well. -/
theorem Addition.confined {project : Project} {failure : Option StoreError}
    {failures : List (Operation × StoreError)} {before : Holdings ρ}
    (addition : Addition projectId project listing failure writes failures)
    (named : project.id = projectId) :
    ∀ write ∈ writes, before.Confined projectId write := by
  cases addition with
  | added listed => exact confined_additions named listed
  | unadded cause => exact fun _ none => nomatch none
  | undone listed culprit cause =>
    intro write member
    rcases List.mem_append.1 member with adding | removing
    · exact confined_additions named listed write adding
    · cases List.mem_singleton.1 removing
      exact ⟨rfl, nofun⟩
  | stuck listed culprit cause reason => exact confined_additions named listed

/-! ## The writes of a call -/

variable {call : Call} (spelled : Address.projectId? call.address = some projectId)
  (identifies : team.Identifies call.address projectId) (run : Run ε ι)
include spelled identifies

/-- **The writes of a call are confined to its project.** -/
theorem perform_confined (storage : Storage backend ρ) :
    ∃ writes, backend.writeAll writes run.index = .ok (call.perform team backend run).2.index ∧
      ∀ write ∈ writes, (storage.holdings run.index).Confined projectId write := by
  rcases ended : call.perform team backend run with ⟨result, after⟩
  cases call with
  | sync setup address =>
    obtain ⟨writes, failures, did, course⟩ := syncProject_course ended
    refine ⟨writes, did.index, ?_⟩
    cases course with
    | idle => exact fun _ none => nomatch none
    | reconciled known found indexed planned =>
      cases spelled.symm.trans known
      exact planned.confined
    | imported known found unindexed addition failing =>
      cases spelled.symm.trans known
      exact addition.confined (identifies _ _ _ found)
  | delete address =>
    obtain ⟨writes, failures, did, course⟩ := deleteProject_did ended
    refine ⟨writes, did.index, ?_⟩
    rcases course with rfl | ⟨id, known, rfl⟩
    · exact fun _ none => nomatch none
    · cases spelled.symm.trans known
      intro write member
      cases List.mem_singleton.1 member
      exact ⟨rfl, nofun⟩

/-- **A call leaves the other projects and their rows alone.** -/
theorem outside_perform (storage : Storage backend ρ) :
    (storage.holdings (call.perform team backend run).2.index).outside projectId =
      (storage.holdings run.index).outside projectId := by
  obtain ⟨writes, written, confined⟩ := perform_confined spelled identifies run storage
  exact Holdings.outside_replay confined (storage.replay_of_writeAll written).1

/-- After a call every row has an id of its project if this was so before. -/
theorem wellNamed_perform (storage : Storage backend ρ)
    (named : (storage.holdings run.index).WellNamed) :
    (storage.holdings (call.perform team backend run).2.index).WellNamed := by
  obtain ⟨writes, written, confined⟩ := perform_confined spelled identifies run storage
  exact named.replay (fun write member => (confined write member).1)
    (storage.replay_of_writeAll written).1

end Sync

end SourceIndex
