import SourceIndex.Proofs.Index.Equivalence
import SourceIndex.Proofs.Index.Tally
import SourceIndex.Summary

/-!
# An index in numbers

What the statistics of an index say agrees with the rows that it holds (`IndexStats.Tells`), and
removing a project counts as many files as the statistics list for it and takes its entry away
(`Backend.Accounts`). This holds of every kind of index whose statistics are those of its holdings
(`Storage.Statistics`), as they are in memory and in a database.

Main statement: both kinds of indexes account for what they hold after any uses, whatever these
create, move, update or remove (`Backend.accounts_afterAll`).
-/

set_option autoImplicit false

namespace SourceIndex

open Fallible

/-! ## Numbers that agree with rows -/

namespace IndexStats

/-- The files that the statistics list for a project; none if it is not listed. -/
def countOf (stats : IndexStats) (projectId : String) : Int :=
  ((stats.perProject.find? fun entry => entry.1 == projectId).map Prod.snd).getD 0

/-- The statistics agree with rows. -/
structure Tells {ρ : Type} [Row ρ] (stats : IndexStats) (rows : List ρ) : Prop where
  files : stats.files = rows.length
  structuredFiles : stats.structuredFiles = rows.countP Row.hasStructure
  percentage : 0 ≤ Summary.percentage stats ∧ Summary.percentage stats ≤ 100
  /-- Exactly the ids that rows are filed under are listed, with the number of these rows. -/
  listed : ∀ projectId count, (projectId, count) ∈ stats.perProject ↔
    (∃ row ∈ rows, Row.projectId row = projectId) ∧
      count = rows.countP fun row => Row.projectId row == projectId
  once : (stats.perProject.map Prod.fst).Nodup
  sorted : stats.perProject.Pairwise Outranks
  sum : (stats.perProject.map Prod.snd).sum = stats.files

/-- A part of the files is between none and all of a hundred in a hundred. -/
theorem percentage_bounds {stats : IndexStats} (positive : 0 ≤ stats.structuredFiles)
    (part : stats.structuredFiles ≤ stats.files) :
    0 ≤ Summary.percentage stats ∧ Summary.percentage stats ≤ 100 := by
  rw [Summary.percentage]
  split
  · rw [Int.tdiv_eq_ediv_of_nonneg (by omega)]
    exact ⟨Int.ediv_nonneg (by omega) (by omega), Int.ediv_le_of_le_mul (by omega) (by omega)⟩
  · exact ⟨Int.le_refl 0, by decide⟩

end IndexStats

/-! ## Numbers of holdings -/

namespace Holdings

variable {ρ : Type} [Row ρ] (holdings : Holdings ρ)

theorem count_projectId (projectId : String) :
    (holdings.files.entries.map Row.projectId).count projectId =
      holdings.files.entries.countP fun row => Row.projectId row == projectId := by
  rw [List.count, List.countP_map]
  rfl

/-- The statistics of holdings agree with the rows. -/
theorem tells_stats : holdings.stats.Tells holdings.files.entries where
  files := rfl
  structuredFiles := rfl
  percentage := by
    refine IndexStats.percentage_bounds (Int.natCast_nonneg _) (Int.ofNat_le.2 ?_)
    exact List.countP_le_length
  listed projectId count := by
    refine IndexStats.mem_tally_iff.trans ?_
    rw [List.mem_map, count_projectId]
  once := IndexStats.nodup_tally _
  sorted := IndexStats.sorted_tally _
  sum := (IndexStats.sum_tally _).trans (congrArg _ (List.length_map _))

/-- What is listed for a project is the number of rows filed under it. -/
theorem countOf_stats (projectId : String) :
    holdings.stats.countOf projectId = (holdings.rowsOf projectId).length := by
  rw [rowsOf, ← List.countP_eq_length_filter, IndexStats.countOf]
  cases found : holdings.stats.perProject.find? fun entry => entry.1 == projectId with
  | some entry =>
    have named : entry.1 = projectId := by simpa using List.find?_some found
    have listed := (holdings.tells_stats.listed entry.1 entry.2).1 (List.mem_of_find?_eq_some found)
    rw [← named]
    exact listed.2
  | none =>
    have nothing : ∀ row ∈ holdings.files.entries, ¬(Row.projectId row == projectId) = true := by
      intro row member filed
      have listed := (holdings.tells_stats.listed projectId _).2
        ⟨⟨row, member, eq_of_beq filed⟩, rfl⟩
      exact absurd (List.find?_eq_none.1 found _ listed) (by simp)
    rw [List.countP_eq_zero.2 nothing]
    rfl

/-- Without the rows of a project its entry is gone and the others are as they were. -/
theorem perProject_outside {after : Holdings ρ} {projectId : String}
    (removed : holdings.write? (.deleteProject projectId) = some after) :
    after.stats.perProject =
      holdings.stats.perProject.filter fun entry => entry.1 != projectId := by
  cases removed
  have filed : (holdings.files.entries.filter fun row => Row.projectId row != projectId).map
      Row.projectId =
        (holdings.files.entries.map Row.projectId).filter fun id => id != projectId := by
    rw [List.filter_map]
    rfl
  exact (congrArg IndexStats.tally filed).trans (IndexStats.tally_filter _ _)

end Holdings

/-! ## Numbers of indexes -/

/-- The statistics of a kind of index are those of its holdings. -/
structure Storage.Statistics {ι ρ : Type} [Row ρ] {backend : Backend ι}
    (storage : Storage backend ρ) : Prop where
  stats_eq : ∀ {index : ι}, storage.IsOpen index →
    backend.stats index = .ok (storage.holdings index).stats

theorem MemoryIndex.statistics : storage.Statistics where
  stats_eq _ := rfl

theorem DatabaseIndex.statistics : storage.Statistics where
  stats_eq opened := withTables_of_created opened .projects none _

theorem Connection.statistics : storage.Statistics where
  stats_eq opened := DatabaseIndex.statistics.stats_eq opened

namespace Backend

variable {ι : Type} {backend : Backend ι}

/-- The statistics of an index agree with the rows that it holds. If a project can be removed, then
with as many files as the statistics list for it; it is not listed afterwards, and the other entries
are as they were. -/
def Accounts {ρ : Type} [Row ρ] (backend : Backend ι) (index : ι) (rows : List ρ) : Prop :=
  ∃ stats, backend.stats index = .ok stats ∧ stats.Tells rows ∧
    ∀ projectId removed next, backend.deleteProject index projectId = .ok (removed, next) →
      (removed : Int) = stats.countOf projectId ∧
        ∃ left, backend.stats next = .ok left ∧
          left.perProject = stats.perProject.filter fun entry => entry.1 != projectId

/-- An index that answers questions accounts for what it holds. -/
theorem accounts_of_open {ρ : Type} [Row ρ] {storage : Storage backend ρ}
    (statistics : storage.Statistics) (refusals : storage.Refusals) {index : ι}
    (opened : storage.IsOpen index) :
    backend.Accounts index (storage.holdings index).files.entries := by
  refine ⟨_, statistics.stats_eq opened, Holdings.tells_stats _, ?_⟩
  intro projectId removed next deleted
  have written : backend.write index (.deleteProject projectId) = .ok next :=
    map_eq_ok_iff.2 ⟨_, deleted, rfl⟩
  refine ⟨?_, _, statistics.stats_eq (storage.isOpen_of_write written),
    Holdings.perProject_outside _ (storage.write?_of_write written)⟩
  rw [refusals.count_of_deleteProject deleted, Holdings.countOf_stats]

/-! ## Uses in order -/

theorem write_of_respond {index next : ι} {write : Write} {reply : Reply}
    (responded : backend.respond index (.write write) = .ok (reply, next)) :
    backend.write index write = .ok next := by
  cases write with
  | deleteProject id =>
    obtain ⟨done, deleted, same⟩ := map_eq_ok_iff.1 responded
    cases same
    exact map_eq_ok_iff.2 ⟨done, deleted, rfl⟩
  | _ =>
    obtain ⟨after, written, same⟩ := map_eq_ok_iff.1 responded
    cases same
    exact written

/-- What every write keeps is kept by all uses. -/
theorem afterAll_keeps {good : ι → Prop}
    (writing : ∀ {index next : ι} {write : Write}, good index →
      backend.write index write = .ok next → good next)
    (uses : List Use) {start : ι} (before : good start) : good (backend.afterAll uses start) := by
  induction uses generalizing start with
  | nil => exact before
  | cons use rest ih =>
    refine ih ?_
    cases responded : backend.respond start use with
    | error error =>
      rw [after_of_outcome_none (outcome_of_error responded)]
      exact before
    | ok done =>
      obtain ⟨reply, next⟩ := done
      rw [after_of_ok responded]
      cases use with
      | ask question =>
        obtain ⟨answer, -, same⟩ := map_eq_ok_iff.1 responded
        cases same
        exact before
      | write write => exact writing before (write_of_respond responded)

/-- A project can be removed through a connection that writes to a database with tables. -/
theorem exists_deleteProject {connection : Connection}
    (created : connection.database.isCreated = true) (writable : connection.isWritable = true)
    (projectId : String) :
    ∃ done, Connection.backend.deleteProject connection projectId = .ok done := by
  have clear : Connection.refusals.obstacle connection
      (Write.deleteProject projectId).operation = none := by
    refine (Connection.obstacle_of_writable writable _).trans ?_
    rw [DatabaseIndex.obstacle, created, if_pos rfl]
  rcases Connection.refusals.write_of_clear clear with ⟨unadmitted, -⟩ | ⟨next, -, written⟩
  · cases unadmitted
  · obtain ⟨done, deleted, -⟩ := map_eq_ok_iff.1 written
    exact ⟨done, deleted⟩

/-- **An index accounts for what it holds.** After any uses of an index in memory, and of a database
with tables, the statistics agree with the files that the index holds then, and removing a project
removes as many files as they list for it and its entry from the list. In memory every project can
be removed, and in a database unless the connection only reads. -/
theorem accounts_afterAll {connection : Connection}
    (created : connection.database.isCreated = true) (memory : MemoryIndex) (uses : List Use) :
    let held := MemoryIndex.backend.afterAll uses memory
    let opened := Connection.backend.afterAll uses connection
    MemoryIndex.backend.Accounts held held.files.entries ∧
      (∀ projectId, ∃ done, MemoryIndex.backend.deleteProject held projectId = .ok done) ∧
      Connection.backend.Accounts opened opened.database.holdings.files.entries ∧
      (connection.isWritable = true → ∀ projectId, ∃ done,
        Connection.backend.deleteProject opened projectId = .ok done) := by
  intro held opened
  have still : opened.database.isCreated = true :=
    afterAll_keeps (fun _ written => Connection.storage.isOpen_of_write written) uses created
  refine ⟨accounts_of_open MemoryIndex.statistics MemoryIndex.refusals trivial,
    fun projectId => ⟨_, rfl⟩,
    accounts_of_open Connection.statistics Connection.refusals still, fun writable => ?_⟩
  have writes : opened.isWritable = true :=
    afterAll_keeps Connection.isWritable_of_write uses writable
  exact exists_deleteProject still writes

/-- Two files of different projects are created, one of them with structure, and the other one is
moved to its project. -/
def moving : List Use :=
  let plain := FileRecord.ofRemote "o/p" ⟨"A.java", "1", "100644", "blob", ""⟩
  let extracted := (FileRecord.ofRemote "o/q" ⟨"B.java", "1", "100644", "blob", ""⟩).attach [] ""
  [.write (.createFile plain), .write (.createFile extracted),
    .write (.updateFile { plain with projectId := "o/q" })]

/-- Both files are listed for the project of the second one, and none for the other project. -/
theorem accounts_afterAll_moving :
    let fresh : Connection := ⟨none, DatabaseIndex.blank.create, true⟩
    let opened := Connection.backend.afterAll moving fresh
    fresh.database.isCreated = true ∧ fresh.isWritable = true ∧
      ∃ stats, Connection.backend.stats opened = .ok stats ∧ stats.files = 2 ∧
        stats.structuredFiles = 1 ∧ stats.countOf "o/q" = 2 ∧ stats.countOf "o/p" = 0 ∧
        (∃ done, Connection.backend.deleteProject opened "o/q" = .ok done) := by
  intro fresh opened
  obtain ⟨-, -, ⟨stats, asked, tells, removing⟩, removable⟩ :=
    @accounts_afterAll fresh rfl .empty moving
  refine ⟨rfl, rfl, stats, asked, tells.files, tells.structuredFiles, ?_, ?_, removable rfl _⟩
  · exact (removing "o/q" 2 _ rfl).1.symm
  · exact (removing "o/p" 0 _ rfl).1.symm

end Backend

end SourceIndex
