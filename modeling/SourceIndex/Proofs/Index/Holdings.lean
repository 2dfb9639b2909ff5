import SourceIndex.Index.Basic

/-!
# What an index holds

Seen from outside an index holds projects and, for each file, a row filed under the id of a project.
A kind of index has its own rows; `Row` says what of a row matters here, and how a row is made from
a record and overwritten by one. `Holdings.write?` is the meaning of each write, and
`Holdings.replay` that of a list of writes.

Main statements: the rows after a list of creates (`entries_replay_creates`), of updates
(`entries_replay_updates`) and of deletes (`entries_replay_deletes`), each as one list made from the
rows before.
-/

set_option autoImplicit false

namespace SourceIndex

/-! ## Rows -/

/-- What a kind of index keeps of a file. -/
class Row (ρ : Type) where
  id : ρ → String
  projectId : ρ → String
  sha : ρ → String
  hasStructure : ρ → Bool
  /-- The row of a file that is new to the index. -/
  ofRecord : FileRecord → ρ
  /-- The row that an update with a record leaves in the place of another one. -/
  updatedBy : ρ → FileRecord → ρ
  id_ofRecord : ∀ file, id (ofRecord file) = file.id
  projectId_ofRecord : ∀ file, projectId (ofRecord file) = file.projectId
  sha_ofRecord : ∀ file, sha (ofRecord file) = file.sha
  hasStructure_ofRecord : ∀ file, hasStructure (ofRecord file) = file.hasStructure
  id_updatedBy : ∀ row file, id (updatedBy row file) = file.id
  projectId_updatedBy : ∀ row file, projectId (updatedBy row file) = file.projectId
  sha_updatedBy : ∀ row file, sha (updatedBy row file) = file.sha

attribute [simp] Row.id_ofRecord Row.projectId_ofRecord Row.sha_ofRecord Row.hasStructure_ofRecord
  Row.id_updatedBy Row.projectId_updatedBy Row.sha_updatedBy

namespace Row

variable {ρ : Type} [Row ρ]

/-- The row that updates with records leave behind, in order; those of other files pass it by. -/
def updatedByAll (files : List FileRecord) (row : ρ) : ρ :=
  files.foldl (fun row file => if file.id = id row then updatedBy row file else row) row

theorem updatedByAll_of_absent {files : List FileRecord} {row : ρ}
    (absent : ∀ file ∈ files, file.id ≠ id row) : updatedByAll files row = row := by
  induction files with
  | nil => rfl
  | cons file rest ih =>
    rw [updatedByAll, List.foldl_cons, if_neg (absent file List.mem_cons_self), ← updatedByAll]
    exact ih fun other member => absent other (List.mem_cons_of_mem file member)

/-- Of updates with different files, the one with the row's own file decides. -/
theorem updatedByAll_of_mem {files : List FileRecord} {file : FileRecord} {row : ρ}
    (distinct : (files.map FileRecord.id).Nodup) (member : file ∈ files)
    (same : file.id = id row) : updatedByAll files row = updatedBy row file := by
  induction files with
  | nil => cases member
  | cons first rest ih =>
    rw [List.map_cons, List.nodup_cons] at distinct
    rw [updatedByAll, List.foldl_cons, ← updatedByAll]
    rcases List.mem_cons.1 member with here | later
    · subst here
      rw [if_pos same]
      refine updatedByAll_of_absent fun other within equal => ?_
      rw [id_updatedBy] at equal
      exact distinct.1 (equal ▸ List.mem_map_of_mem within)
    · have apart : first.id ≠ id row := fun equal =>
        distinct.1 (equal ▸ same ▸ List.mem_map_of_mem later)
      rw [if_neg apart]
      exact ih distinct.2 later

end Row

/-! ## Holdings -/

/-- The projects and rows that an index holds. -/
structure Holdings (ρ : Type) [Row ρ] where
  projects : Keyed Project Project.id
  files : Keyed ρ Row.id

namespace Holdings

variable {ρ : Type} [Row ρ]

/-- Neither projects nor rows. -/
def empty : Holdings ρ :=
  ⟨Keyed.empty, Keyed.empty⟩

/-- The rows filed under a project. -/
def rowsOf (holdings : Holdings ρ) (projectId : String) : List ρ :=
  holdings.files.entries.filter fun row => Row.projectId row == projectId

/-- The hashes of the rows filed under a project. -/
def hashesOf (holdings : Holdings ρ) (projectId : String) : Hashes :=
  let own := holdings.files.filter fun row => Row.projectId row == projectId
  ⟨own.entries.map fun row => (Row.id row, Row.sha row), by
    rw [List.map_map]
    exact own.distinct⟩

/-- The hashes of a project are those of the rows filed under it. -/
theorem mem_hashesOf_iff {holdings : Holdings ρ} {projectId : String} {entry : String × String} :
    entry ∈ (holdings.hashesOf projectId).entries ↔
      ∃ row ∈ holdings.files.entries, Row.projectId row = projectId ∧
        (Row.id row, Row.sha row) = entry := by
  refine List.mem_map.trans ⟨?_, ?_⟩
  · rintro ⟨row, within, same⟩
    obtain ⟨there, filed⟩ := List.mem_filter.1 within
    exact ⟨row, there, by simpa using filed, same⟩
  · rintro ⟨row, there, filed, same⟩
    exact ⟨row, List.mem_filter.2 ⟨there, by simpa using filed⟩, same⟩

theorem find?_hashesOf_eq_some_iff {holdings : Holdings ρ} {projectId id : String}
    {entry : String × String} :
    (holdings.hashesOf projectId).find? id = some entry ↔
      ∃ row ∈ holdings.files.entries, Row.projectId row = projectId ∧ Row.id row = id ∧
        (id, Row.sha row) = entry := by
  rw [Keyed.find?_eq_some_iff, mem_hashesOf_iff]
  constructor
  · rintro ⟨⟨row, there, filed, rfl⟩, rfl⟩
    exact ⟨row, there, filed, rfl, rfl⟩
  · rintro ⟨row, there, filed, rfl, rfl⟩
    exact ⟨⟨row, there, filed, rfl⟩, rfl⟩

/-- The hash under an id is that of the row there, if it is filed under the project. -/
theorem find?_hashesOf (holdings : Holdings ρ) (projectId id : String) :
    (holdings.hashesOf projectId).find? id =
      ((holdings.files.find? id).filter fun row => Row.projectId row == projectId).map
        fun row => (id, Row.sha row) := by
  refine Option.ext fun entry => ?_
  rw [find?_hashesOf_eq_some_iff, Option.map_eq_some_iff]
  constructor
  · rintro ⟨row, there, filed, named, same⟩
    have found := (holdings.files.find?_eq_some_iff _ _).2 ⟨there, named⟩
    exact ⟨row, Option.filter_eq_some_iff.2 ⟨found, by simpa using filed⟩, same⟩
  · rintro ⟨row, kept, same⟩
    obtain ⟨found, filed⟩ := Option.filter_eq_some_iff.1 kept
    obtain ⟨there, named⟩ := (holdings.files.find?_eq_some_iff _ _).1 found
    exact ⟨row, there, by simpa using filed, named, same⟩

theorem map_filter_own {row : ρ} {projectId : String} (own : Row.projectId row = projectId)
    (id : String) :
    ((some row).filter fun row => Row.projectId row == projectId).map
        (fun row => (id, Row.sha row)) = some (id, Row.sha row) := by
  simp [Option.filter, own]

/-- Every row is filed under a project that is there. -/
def Anchored (holdings : Holdings ρ) : Prop :=
  ∀ row ∈ holdings.files.entries, holdings.projects.contains (Row.projectId row) = true

/-- The holdings after a write; nothing if the write has to fail. -/
def write? (holdings : Holdings ρ) : Write → Option (Holdings ρ)
  | .createProject project =>
    if holdings.projects.contains project.id then none
    else some { holdings with projects := holdings.projects.put project }
  | .deleteProject id =>
    some ⟨holdings.projects.erase id,
      holdings.files.filter fun row => Row.projectId row != id⟩
  | .createFile file =>
    if holdings.files.contains file.id then none
    else some { holdings with files := holdings.files.put (Row.ofRecord file) }
  | .updateFile file =>
    (holdings.files.find? file.id).map fun row =>
      { holdings with files := holdings.files.put (Row.updatedBy row file) }
  | .deleteFile id => some { holdings with files := holdings.files.erase id }

/-- The holdings after writes in order; nothing if one of them has to fail. -/
def replay : List Write → Holdings ρ → Option (Holdings ρ)
  | [], holdings => some holdings
  | write :: rest, holdings => (holdings.write? write).bind (replay rest)

theorem replay_cons_eq_some_iff {write : Write} {rest : List Write}
    {before after : Holdings ρ} :
    replay (write :: rest) before = some after ↔
      ∃ between, before.write? write = some between ∧ replay rest between = some after :=
  Option.bind_eq_some_iff

theorem replay_append (earlier later : List Write) (before : Holdings ρ) :
    replay (earlier ++ later) before = (replay earlier before).bind (replay later) := by
  induction earlier generalizing before with
  | nil => rfl
  | cons write rest ih =>
    rw [List.cons_append, replay, replay, Option.bind_assoc]
    exact congrArg (before.write? write).bind (funext ih)

theorem replay_append_eq_some_iff {earlier later : List Write} {before after : Holdings ρ} :
    replay (earlier ++ later) before = some after ↔
      ∃ between, replay earlier before = some between ∧ replay later between = some after := by
  rw [replay_append]
  exact Option.bind_eq_some_iff

/-! ## A write seen at one file -/

/-- What becomes of the row found under an id when a write is done. -/
def rowAfter (write : Write) (id : String) (found : Option ρ) : Option ρ :=
  match write with
  | .createProject _ => found
  | .deleteProject projectId => found.filter fun row => Row.projectId row != projectId
  | .createFile file => if id = file.id then some (Row.ofRecord file) else found
  | .updateFile file => if id = file.id then found.map (Row.updatedBy · file) else found
  | .deleteFile unwanted => if id = unwanted then none else found

/-- A write does to the row under an id what it does to it alone. -/
theorem find?_of_write? {write : Write} {before after : Holdings ρ}
    (written : before.write? write = some after) (id : String) :
    after.files.find? id = rowAfter write id (before.files.find? id) := by
  cases write with
  | createProject project =>
    rw [write?] at written
    split at written
    · cases written
    · cases written
      rfl
  | deleteProject projectId =>
    cases written
    exact Keyed.find?_filter _ _ _
  | createFile file =>
    rw [write?] at written
    split at written
    · cases written
    · cases written
      rw [rowAfter, Keyed.find?_put, Row.id_ofRecord]
  | updateFile file =>
    obtain ⟨row, found, rfl⟩ := Option.map_eq_some_iff.1 written
    rw [rowAfter, Keyed.find?_put, Row.id_updatedBy]
    by_cases same : id = file.id
    · rw [if_pos same, if_pos same, same, found]
      rfl
    · rw [if_neg same, if_neg same]
  | deleteFile unwanted =>
    cases written
    exact Keyed.find?_erase _ _ _

/-! ## Rows that writes leave behind -/

theorem contains_of_write? {write : Write} {id : String} {before after : Holdings ρ}
    (kept : ∀ projectId, write ≠ .deleteProject projectId) (spared : write ≠ .deleteFile id)
    (held : before.files.contains id = true) (written : before.write? write = some after) :
    after.files.contains id = true := by
  rw [Keyed.contains, find?_of_write? written]
  cases write with
  | createProject project => exact held
  | deleteProject projectId => exact absurd rfl (kept projectId)
  | createFile file =>
    rw [rowAfter]
    split
    · rfl
    · exact held
  | updateFile file =>
    rw [rowAfter]
    split
    · rw [Option.isSome_map]
      exact held
    · exact held
  | deleteFile other =>
    have apart : id ≠ other := fun same => spared (congrArg Write.deleteFile same.symm)
    rw [rowAfter, if_neg apart]
    exact held

/-- Writes that delete no project leave every file that none of them deletes. -/
theorem contains_of_replay {writes : List Write} {id : String} {before after : Holdings ρ}
    (kept : ∀ write ∈ writes, ∀ projectId, write ≠ .deleteProject projectId)
    (spared : .deleteFile id ∉ writes) (held : before.files.contains id = true)
    (written : replay writes before = some after) : after.files.contains id = true := by
  induction writes generalizing before with
  | nil =>
    cases written
    exact held
  | cons write rest ih =>
    obtain ⟨between, first, others⟩ := replay_cons_eq_some_iff.1 written
    rw [List.mem_cons, not_or] at spared
    have still := contains_of_write? (kept write List.mem_cons_self) (Ne.symm spared.1) held first
    exact ih (fun other member => kept other (List.mem_cons_of_mem write member)) spared.2 still
      others

/-! ## Files created, updated and deleted in order -/

theorem write?_createFile_eq_some {file : FileRecord} {before after : Holdings ρ}
    (written : before.write? (.createFile file) = some after) :
    after.projects = before.projects ∧
      after.files.entries = before.files.entries ++ [Row.ofRecord file] := by
  rw [write?, Keyed.contains] at written
  split at written
  · cases written
  · next absent =>
    cases written
    refine ⟨rfl, Keyed.entries_put_of_absent ?_⟩
    rw [Row.id_ofRecord]
    exact Option.not_isSome_iff_eq_none.1 absent

theorem write?_updateFile_eq_some {file : FileRecord} {before after : Holdings ρ}
    (written : before.write? (.updateFile file) = some after) :
    after.projects = before.projects ∧
      after.files.entries = before.files.entries.map (Row.updatedByAll [file]) := by
  obtain ⟨row, found, rfl⟩ := Option.map_eq_some_iff.1 written
  refine ⟨rfl, ?_⟩
  have named : Row.id row = file.id := ((before.files.find?_eq_some_iff _ _).1 found).2
  have there : before.files.find? (Row.id (Row.updatedBy row file)) = some row := by
    rw [Row.id_updatedBy]
    exact found
  have replaced := Keyed.entries_put_of_found there
  refine replaced.trans (List.map_congr_left fun old member => ?_)
  rw [Row.id_updatedBy]
  by_cases same : Row.id old = file.id
  · -- A key stands for one row, so the row overwritten is the one found.
    have unique : before.files.find? file.id = some old :=
      (before.files.find?_eq_some_iff _ _).2 ⟨member, same⟩
    rw [found] at unique
    cases unique
    simp [Row.updatedByAll, same]
  · rw [if_neg same]
    exact (Row.updatedByAll_of_absent fun other within =>
      List.mem_singleton.1 within ▸ fun equal => same equal.symm).symm

theorem entries_replay_creates {files : List FileRecord} {before after : Holdings ρ}
    (written : replay (files.map .createFile) before = some after) :
    after.projects = before.projects ∧
      after.files.entries = before.files.entries ++ files.map Row.ofRecord := by
  induction files generalizing before with
  | nil =>
    cases written
    exact ⟨rfl, (List.append_nil _).symm⟩
  | cons file rest ih =>
    obtain ⟨between, first, others⟩ := replay_cons_eq_some_iff.1 written
    obtain ⟨kept, added⟩ := write?_createFile_eq_some first
    obtain ⟨keptAgain, addedAgain⟩ := ih others
    refine ⟨keptAgain.trans kept, ?_⟩
    rw [addedAgain, added, List.map_cons, List.append_assoc, List.singleton_append]

theorem entries_replay_updates {files : List FileRecord} {before after : Holdings ρ}
    (written : replay (files.map .updateFile) before = some after) :
    after.projects = before.projects ∧
      after.files.entries = before.files.entries.map (Row.updatedByAll files) := by
  induction files generalizing before with
  | nil =>
    cases written
    exact ⟨rfl, (List.map_id _).symm⟩
  | cons file rest ih =>
    obtain ⟨between, first, others⟩ := replay_cons_eq_some_iff.1 written
    obtain ⟨kept, overwritten⟩ := write?_updateFile_eq_some first
    obtain ⟨keptAgain, overwrittenAgain⟩ := ih others
    refine ⟨keptAgain.trans kept, ?_⟩
    rw [overwrittenAgain, overwritten, List.map_map]
    rfl

theorem entries_replay_deletes {ids : List String} {before after : Holdings ρ}
    (written : replay (ids.map .deleteFile) before = some after) :
    after.projects = before.projects ∧
      after.files.entries = before.files.entries.filter fun row => !ids.contains (Row.id row) := by
  induction ids generalizing before with
  | nil =>
    cases written
    exact ⟨rfl, (List.filter_eq_self.2 fun _ _ => rfl).symm⟩
  | cons id rest ih =>
    obtain ⟨between, first, others⟩ := replay_cons_eq_some_iff.1 written
    cases first
    obtain ⟨kept, dropped⟩ := ih others
    refine ⟨kept, ?_⟩
    rw [dropped]
    change (before.files.entries.filter fun row => Row.id row != id).filter _ = _
    rw [List.filter_filter]
    refine List.filter_congr fun row _ => ?_
    rw [List.contains_cons, Bool.not_or, Bool.and_comm]
    rfl

end Holdings

end SourceIndex
