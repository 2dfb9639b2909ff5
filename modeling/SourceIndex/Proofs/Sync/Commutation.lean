import SourceIndex.Proofs.Sync.Agreement

/-!
# Calls for different projects

A call leaves alone what is outside its project, and depends on nothing but what is within it. So if
the parties answer a call as if there had been no other call before it, then calls for different
projects do not notice each other: what the first one changes is outside the project of the second.

Main statement: a call is isolated from the other projects, and two calls for different projects end
with the same results and the same index in either order (`perform_isolated`).
-/

set_option autoImplicit false

namespace SourceIndex

open Fallible Rehearsal

variable {ε ι ρ : Type} [Row ρ]

/-- From both runs the call ends with the same result and adds the same acts to the trace. -/
def Call.EndsAlike (team : Collaborators ε) (backend : Backend ι) (call : Call)
    (left right : Run ε ι) : Prop :=
  (call.perform team backend left).1 = (call.perform team backend right).1 ∧
    ∃ acts, (call.perform team backend left).2.session.trace = left.session.trace ++ acts ∧
      (call.perform team backend right).2.session.trace = right.session.trace ++ acts

namespace Sync

variable {team : Collaborators ε} {backend : Backend ι} {storage : Storage backend ρ}
variable {call other : Call} {projectId otherId : String}

/-! ## A call after another one -/

section

variable (refusals : storage.Refusals) {alike : ε → ε → Prop} (consistent : team.Consistent alike)
  (spelled : Address.projectId? call.address = some projectId)
  (identifies : team.Identifies call.address projectId)
  (spelled' : Address.projectId? other.address = some otherId)
  (identifies' : team.Identifies other.address otherId) (apart : projectId ≠ otherId)
  {run : Run ε ι} (named : (storage.holdings run.index).WellNamed)

include spelled spelled' identifies' apart named in
/-- A call for another project changes nothing within a project. -/
theorem within_perform :
    (storage.holdings run.index).within projectId =
      (storage.holdings (other.perform team backend run).2.index).within projectId := by
  have formed := Address.isProjectId_of_projectId? spelled
  have formed' := Address.isProjectId_of_projectId? spelled'
  have kept := wellNamed_perform spelled' identifies' run storage named
  rw [← Holdings.within_outside named formed formed' apart,
    ← Holdings.within_outside kept formed formed' apart,
    outside_perform spelled' identifies' run storage]

include spelled' identifies' in
/-- A call leaves what is in the way of operations as it is. -/
theorem obstacle_perform :
    refusals.obstacle (other.perform team backend run).2.index = refusals.obstacle run.index := by
  obtain ⟨writes, written, -⟩ := perform_confined spelled' identifies' run storage
  exact refusals.obstacle_of_writeAll written

include refusals consistent spelled identifies spelled' identifies' apart named in
/-- After a call for another project a call does what it does without it. -/
theorem alike_perform
    (unnoticed : alike run.session.world (other.perform team backend run).2.session.world) :
    call.EndsAlike team backend run (other.perform team backend run).2 ∧
      (storage.holdings (call.perform team backend run).2.index).within projectId =
        (storage.holdings (call.perform team backend
          (other.perform team backend run).2).2.index).within projectId := by
  obtain ⟨results, ended⟩ := agrees_perform consistent (refusals.congruence projectId) spelled
    identifies run (other.perform team backend run).2
    { session := ⟨unnoticed, [], (List.append_nil _).symm, (List.append_nil _).symm⟩
      index := ⟨(obstacle_perform refusals spelled' identifies').symm,
        within_perform spelled spelled' identifies' apart named⟩ }
  exact ⟨⟨results, ended.session.acts⟩, ended.index.2⟩

include refusals consistent spelled identifies spelled' identifies' apart named in
/-- Calls for different projects end with the same index in either order. -/
theorem same_perform
    (unnoticed : alike run.session.world (call.perform team backend run).2.session.world)
    (unnoticed' : alike run.session.world (other.perform team backend run).2.session.world) :
    Holdings.Same
      (storage.holdings (other.perform team backend (call.perform team backend run).2).2.index)
      (storage.holdings
        (call.perform team backend (other.perform team backend run).2).2.index) := by
  obtain ⟨-, here⟩ := alike_perform refusals consistent spelled identifies spelled' identifies'
    apart named unnoticed'
  obtain ⟨-, there⟩ := alike_perform refusals consistent spelled' identifies' spelled identifies
    apart.symm named unnoticed
  have first := wellNamed_perform spelled identifies run storage named
  have second := wellNamed_perform spelled' identifies' run storage named
  refine Holdings.same_of_parts
    ((within_perform spelled spelled' identifies' apart first).symm.trans here)
    (there.symm.trans (within_perform spelled' spelled identifies apart.symm second)) ?_
  -- Neither call reaches what is outside both projects.
  have later := outside_perform spelled' identifies' (call.perform team backend run).2 storage
  have later' := outside_perform spelled identifies (other.perform team backend run).2 storage
  calc
    _ = ((storage.holdings (call.perform team backend run).2.index).outside otherId).outside
          projectId := by rw [Holdings.outside_comm, later]
    _ = ((storage.holdings run.index).outside projectId).outside otherId := by
      rw [Holdings.outside_comm, outside_perform spelled identifies run storage]
    _ = ((storage.holdings (other.perform team backend run).2.index).outside projectId).outside
          otherId := by
      rw [Holdings.outside_comm, ← outside_perform spelled' identifies' run storage,
        Holdings.outside_comm]
    _ = _ := by rw [later']

end

/-- **Projects are isolated from each other.** The id of a project has one slash, so a file's id
determines its project and its path. If every row has an id of its project, then a call, whatever it
ends with, leaves all other projects and the rows filed under them as they are, and every row still
has an id of its project. If moreover neither of two calls for different projects changes what the
parties answer later, then each of them ends with the same result before and after the other one,
and both orders end with the same index. -/
theorem perform_isolated (storage : Storage backend ρ) (refusals : storage.Refusals)
    (team : Collaborators ε) (call : Call) (projectId : String)
    (spelled : Address.projectId? call.address = some projectId)
    (identifies : team.Identifies call.address projectId) (run : Run ε ι)
    (named : (storage.holdings run.index).WellNamed) :
    (projectId.toList.count '/' = 1 ∧
        ∀ address otherId path otherPath, Address.projectId? address = some otherId →
          FileRecord.idOf projectId path = FileRecord.idOf otherId otherPath →
            projectId = otherId ∧ path = otherPath) ∧
      (storage.holdings (call.perform team backend run).2.index).outside projectId =
        (storage.holdings run.index).outside projectId ∧
      (storage.holdings (call.perform team backend run).2.index).WellNamed ∧
      ∀ (other : Call) (otherId : String) (alike : ε → ε → Prop),
        Address.projectId? other.address = some otherId → team.Identifies other.address otherId →
        projectId ≠ otherId → team.Consistent alike →
        alike run.session.world (call.perform team backend run).2.session.world →
        alike run.session.world (other.perform team backend run).2.session.world →
          call.EndsAlike team backend run (other.perform team backend run).2 ∧
          other.EndsAlike team backend run (call.perform team backend run).2 ∧
          Holdings.Same (storage.holdings (runCalls team backend [call, other] run).index)
            (storage.holdings (runCalls team backend [other, call] run).index) := by
  have formed := Address.isProjectId_of_projectId? spelled
  refine ⟨⟨formed.count_slash, ?_⟩, outside_perform spelled identifies run storage,
    wellNamed_perform spelled identifies run storage named, ?_⟩
  · intro address otherId path otherPath known same
    exact formed.idOf_inj (Address.isProjectId_of_projectId? known) same
  · intro other otherId alike spelled' identifies' apart consistent unnoticed unnoticed'
    exact ⟨(alike_perform refusals consistent spelled identifies spelled' identifies' apart named
        unnoticed').1,
      (alike_perform refusals consistent spelled' identifies' spelled identifies apart.symm named
        unnoticed).1,
      same_perform refusals consistent spelled identifies spelled' identifies' apart named
        unnoticed unnoticed'⟩

/-! ## A sync and a delete -/

theorem consistent_unmoved (stage : Stage) : (Scene.unmoved stage).Consistent fun _ _ => True where
  resolve _ _ := ⟨rfl, trivial⟩
  mirror _ _ := ⟨rfl, trivial⟩
  ask _ _ _ := ⟨rfl, trivial⟩
  read _ _ := rfl
  pathExists _ _ := rfl
  refuse _ _ := ⟨rfl, trivial⟩

/-- Another project of the same owner. -/
def neighbour : Project :=
  { Scene.project with id := "o/q", name := "q" }

/-- Two indexed projects with a file of the same path. -/
def neighbours : Run Unit MemoryIndex :=
  ⟨Session.start (),
    { projects := Keyed.ofList [Scene.project, neighbour]
      files := Keyed.ofList
        [FileRecord.ofRemote "o/p" (Scene.entry "A.txt" "1"),
          FileRecord.ofRemote "o/q" (Scene.entry "A.txt" "1"),
          FileRecord.ofRemote "o/p" (Scene.entry "X.txt" "1")]
      writes := 0 }⟩

/-- One of the projects was changed, and its deleted file cannot be deleted from the index. The
other project is not on the hosting service any more. -/
def changedNeighbour : Collaborators Unit :=
  Scene.unmoved (Scene.opening [Scene.entry "B.txt" "1", Scene.entry "A.txt" "2"] []
    [⟨.deleteFile, some "o/p/X.txt", ["disk full"]⟩] MemoryIndex.empty).session.world

/-- The sync of the changed project. -/
def syncChanged : Call :=
  .sync Scene.setup "o/p"

/-- The deletion of the other project. -/
def deleteOther : Call :=
  .delete "https://host/o/q"

/-- A sync that fails halfway and the deletion of another project do not notice each other. -/
theorem perform_isolated_neighbours :
    (syncChanged.perform changedNeighbour MemoryIndex.backend
        (deleteOther.perform changedNeighbour MemoryIndex.backend neighbours).2).1 =
          .error (.store (.refused ["disk full"])) ∧
      (deleteOther.perform changedNeighbour MemoryIndex.backend
        (syncChanged.perform changedNeighbour MemoryIndex.backend neighbours).2).1 =
          .ok (.deleted 1) ∧
      Holdings.Same
        (MemoryIndex.storage.holdings (runCalls changedNeighbour MemoryIndex.backend
          [syncChanged, deleteOther] neighbours).index)
        (MemoryIndex.storage.holdings (runCalls changedNeighbour MemoryIndex.backend
          [deleteOther, syncChanged] neighbours).index) := by
  have named : (MemoryIndex.storage.holdings neighbours.index).WellNamed := by
    have entries : neighbours.index.files.entries =
        [FileRecord.ofRemote "o/p" (Scene.entry "A.txt" "1"),
          FileRecord.ofRemote "o/q" (Scene.entry "A.txt" "1"),
          FileRecord.ofRemote "o/p" (Scene.entry "X.txt" "1")] := by
      rfl
    intro row member
    change row ∈ neighbours.index.files.entries at member
    rw [entries] at member
    simp only [List.mem_cons, List.not_mem_nil, or_false] at member
    rcases member with rfl | rfl | rfl
    · exact ⟨"A.txt", rfl⟩
    · exact ⟨"A.txt", rfl⟩
    · exact ⟨"X.txt", rfl⟩
  have identifies : changedNeighbour.Identifies syncChanged.address "o/p" := by
    intro world remote after found
    cases found
    rfl
  have absent : changedNeighbour.Identifies deleteOther.address "o/q" := by
    intro world remote after found
    cases found
  have failing : (syncChanged.perform changedNeighbour MemoryIndex.backend neighbours).1 =
      .error (.store (.refused ["disk full"])) := by
    decide +kernel
  have deleting : (deleteOther.perform changedNeighbour MemoryIndex.backend neighbours).1 =
      .ok (.deleted 1) := by
    decide +kernel
  obtain ⟨-, -, -, commute⟩ := perform_isolated MemoryIndex.storage MemoryIndex.refusals
    changedNeighbour syncChanged "o/p" (by decide +kernel) identifies neighbours named
  obtain ⟨synced, deleted, same⟩ := commute deleteOther "o/q" (fun _ _ => True)
    (by decide +kernel) absent (by decide) (consistent_unmoved _) trivial trivial
  exact ⟨synced.1.symm.trans failing, deleted.1.symm.trans deleting, same⟩

end Sync

end SourceIndex
