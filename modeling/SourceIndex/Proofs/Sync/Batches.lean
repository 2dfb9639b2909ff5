import SourceIndex.Proofs.Sync.Commutation
import SourceIndex.Proofs.Sync.Containment
import SourceIndex.Sync.Batch

/-!
# Batches of calls

A batch does its calls one after another, each from where the one before ended, and tells its caller
each result as soon as it is there (`Taken`). It goes through the whole list or ends with the first
fatal failure, which is named apart; every other result is either a success or a failure with its
wording (`Batch.Sorted`). `Processed` puts this together, and both kinds of batches have it.

A call that failed for a reason outside the index left the index as it was. So if the parties answer
as if that call had never been made, everything after it goes as it does without it
(`runAll_without`).

Main statement: what becomes of a batch (`batches_processed`).
-/

set_option autoImplicit false

namespace SourceIndex

open Fallible Rehearsal

variable {ε ι : Type}

/-! ## What a batch says of its results -/

/-- Successes and failures are the entries of a list of results, each in one of the two lists and in
the order of the results. -/
inductive Batch.Sorted : List (String × Except SyncError Outcome) → List (String × Outcome) →
    List (String × String) → Prop where
  | nil : Sorted [] [] []
  | succeeded {results : List (String × Except SyncError Outcome)}
      {succeeded : List (String × Outcome)} {failed : List (String × String)}
      (address : String) (outcome : Outcome) (rest : Sorted results succeeded failed) :
      Sorted ((address, .ok outcome) :: results) ((address, outcome) :: succeeded) failed
  | failed {results : List (String × Except SyncError Outcome)}
      {succeeded : List (String × Outcome)} {failed : List (String × String)}
      (address : String) (error : SyncError) (rest : Sorted results succeeded failed) :
      Sorted ((address, .error error) :: results) succeeded ((address, error.message) :: failed)

namespace Batch

variable {results : List (String × Except SyncError Outcome)}
variable {succeeded : List (String × Outcome)} {failed : List (String × String)}

theorem Sorted.length (sorted : Sorted results succeeded failed) :
    results.length = succeeded.length + failed.length := by
  induction sorted with
  | nil => rfl
  | succeeded address outcome rest ih =>
    rw [List.length_cons, List.length_cons, ih]
    omega
  | failed address error rest ih =>
    rw [List.length_cons, List.length_cons, ih]
    omega

theorem Sorted.map_fst_of_nil (sorted : Sorted results succeeded []) :
    succeeded.map Prod.fst = results.map Prod.fst := by
  generalize none : ([] : List (String × String)) = failed at sorted
  induction sorted with
  | nil => rfl
  | succeeded address outcome rest ih => exact congrArg (address :: ·) (ih none)
  | failed address error rest ih => cases none

/-- Nothing failed exactly if all addresses are among the successes. -/
theorem Sorted.eq_nil_iff (sorted : Sorted results succeeded failed) :
    failed = [] ↔ succeeded.map Prod.fst = results.map Prod.fst := by
  constructor
  · rintro rfl
    exact sorted.map_fst_of_nil
  · intro same
    have lengths := congrArg List.length same
    rw [List.length_map, List.length_map, sorted.length] at lengths
    exact List.eq_nil_of_length_eq_zero (by omega)

/-- As long as no result ends the batch, its results are sorted into its two lists. -/
theorem sorted_of_unended (unended : ∀ entry ∈ results, Sync.endsBatch entry.2 = false) :
    Sorted results (Batch.succeeded ⟨results⟩) (Batch.failed ⟨results⟩) := by
  induction results with
  | nil => exact .nil
  | cons entry rest ih =>
    have others := ih fun other member => unended other (List.mem_cons_of_mem entry member)
    have here := unended entry List.mem_cons_self
    obtain ⟨address, error | outcome⟩ := entry
    · have kept : Batch.failed ⟨(address, .error error) :: rest⟩ =
          (address, error.message) :: Batch.failed ⟨rest⟩ := by
        change error.isFatal = false at here
        simp [Batch.failed, here]
      rw [kept]
      exact .failed address error others
    · exact .succeeded address outcome others

theorem aborted_of_unended (unended : ∀ entry ∈ results, Sync.endsBatch entry.2 = false) :
    Batch.aborted ⟨results⟩ = none := by
  refine List.findSome?_eq_none_iff.2 fun entry member => ?_
  have here := unended entry member
  obtain ⟨address, error | outcome⟩ := entry
  · exact if_neg (by simpa [Sync.endsBatch] using here)
  · rfl

/-- A fatal failure at the end is named apart and is in neither list. -/
theorem ended_by {earlier : List (String × Except SyncError Outcome)} (culprit : String)
    {error : SyncError} (unended : ∀ entry ∈ earlier, Sync.endsBatch entry.2 = false)
    (fatal : error.isFatal = true) :
    let batch : Batch := ⟨earlier ++ [(culprit, .error error)]⟩
    batch.aborted = some (culprit ++ ": " ++ error.message) ∧
      batch.succeeded = Batch.succeeded ⟨earlier⟩ ∧ batch.failed = Batch.failed ⟨earlier⟩ := by
  refine ⟨?_, ?_, ?_⟩
  · have none := aborted_of_unended unended
    rw [aborted] at none
    rw [aborted, List.findSome?_append, none]
    simp [fatal]
  · rw [succeeded, List.filterMap_append]
    exact List.append_nil _
  · rw [failed, List.filterMap_append]
    simp [failed, fatal]

end Batch

namespace Sync

/-! ## The calls of a batch -/

/-- Steps were taken for addresses, each from where the one before ended, with these results. -/
inductive Taken (step : String → Sync ε ι Outcome) :
    Run ε ι → List (String × Except SyncError Outcome) → Run ε ι → Prop where
  | none (run : Run ε ι) : Taken step run [] run
  | next {run between after : Run ε ι} {address : String} {result : Except SyncError Outcome}
      {results : List (String × Except SyncError Outcome)}
      (ended : step address run = (result, between)) (rest : Taken step between results after) :
      Taken step run ((address, result) :: results) after

/-- What becomes of a batch: its calls are done in order, and either all of them are done and none
failed fatally, or the last one done is the first that failed fatally. -/
structure Processed (step : String → Sync ε ι Outcome) (addresses : List String)
    (run : Run ε ι) (batch : Batch) (after : Run ε ι) : Prop where
  taken : Taken step run batch.results after
  ending : (batch.results.map Prod.fst = addresses ∧ batch.aborted = none ∧
      (∀ entry ∈ batch.results, endsBatch entry.2 = false) ∧
        Batch.Sorted batch.results batch.succeeded batch.failed) ∨
    ∃ earlier culprit error rest, batch.results = earlier ++ [(culprit, .error error)] ∧
      addresses = earlier.map Prod.fst ++ culprit :: rest ∧ error.isFatal = true ∧
        batch.aborted = some (culprit ++ ": " ++ error.message) ∧
          (∀ entry ∈ earlier, endsBatch entry.2 = false) ∧
            Batch.Sorted earlier batch.succeeded batch.failed
  isSuccess_iff : batch.isSuccess = true ↔ batch.succeeded.map Prod.fst = addresses

variable {step : String → Sync ε ι Outcome}

theorem runAll_cons_of_ends {address : String} {rest : List String} {run after : Run ε ι}
    {result : Except SyncError Outcome} (ended : step address run = (result, after))
    (ends : endsBatch result = true) :
    runAll step (address :: rest) run = ([(address, result)], after) := by
  rw [runAll, state_bind_apply, ExceptT.run, ended]
  dsimp only
  rw [if_pos ends]
  rfl

theorem runAll_cons_of_goes_on {address : String} {rest : List String} {run between : Run ε ι}
    {result : Except SyncError Outcome} (ended : step address run = (result, between))
    (goesOn : endsBatch result = false) :
    runAll step (address :: rest) run =
      ((address, result) :: (runAll step rest between).1, (runAll step rest between).2) := by
  rw [runAll, state_bind_apply, ExceptT.run, ended]
  dsimp only
  rw [if_neg (by rw [goesOn]; exact Bool.false_ne_true)]
  rfl

theorem taken_runAll (step : String → Sync ε ι Outcome) (addresses : List String)
    (run : Run ε ι) :
    Taken step run (runAll step addresses run).1 (runAll step addresses run).2 := by
  induction addresses generalizing run with
  | nil => exact .none run
  | cons address rest ih =>
    rcases ended : step address run with ⟨result, between⟩
    cases ends : endsBatch result with
    | true =>
      rw [runAll_cons_of_ends ended ends]
      exact .next ended (.none between)
    | false =>
      rw [runAll_cons_of_goes_on ended ends]
      exact .next ended (ih between)

/-- The results are those of all addresses, or they end with the first that ends the batch. -/
theorem runAll_ends (step : String → Sync ε ι Outcome) (addresses : List String)
    (run : Run ε ι) :
    ((runAll step addresses run).1.map Prod.fst = addresses ∧
        ∀ entry ∈ (runAll step addresses run).1, endsBatch entry.2 = false) ∨
      ∃ earlier culprit error rest,
        (runAll step addresses run).1 = earlier ++ [(culprit, .error error)] ∧
          addresses = earlier.map Prod.fst ++ culprit :: rest ∧ error.isFatal = true ∧
            ∀ entry ∈ earlier, endsBatch entry.2 = false := by
  induction addresses generalizing run with
  | nil => exact .inl ⟨rfl, fun _ none => nomatch none⟩
  | cons address rest ih =>
    rcases ended : step address run with ⟨result, between⟩
    cases ends : endsBatch result with
    | true =>
      cases result with
      | ok outcome => cases ends
      | error error =>
        rw [runAll_cons_of_ends ended ends]
        exact .inr ⟨[], address, error, rest, rfl, rfl, ends, fun _ none => nomatch none⟩
    | false =>
      rw [runAll_cons_of_goes_on ended ends]
      rcases ih between with ⟨whole, unended⟩ | ⟨earlier, culprit, error, others, results, split,
        fatal, unended⟩
      · exact .inl ⟨congrArg (address :: ·) whole, List.forall_mem_cons.2 ⟨ends, unended⟩⟩
      · exact .inr ⟨(address, result) :: earlier, culprit, error, others,
          congrArg ((address, result) :: ·) results, congrArg (address :: ·) split, fatal,
          List.forall_mem_cons.2 ⟨ends, unended⟩⟩

theorem runAll_processed (addresses : List String) (run : Run ε ι) :
    Processed step addresses run ⟨(runAll step addresses run).1⟩ (runAll step addresses run).2 := by
  have taken := taken_runAll step addresses run
  rcases runAll_ends step addresses run with
    ⟨whole, unended⟩ | ⟨earlier, culprit, error, rest, results, split, fatal, unended⟩
  · have sorted := Batch.sorted_of_unended unended
    have finished := Batch.aborted_of_unended unended
    refine ⟨taken, .inl ⟨whole, finished, unended, sorted⟩, ?_⟩
    rw [Batch.isSuccess, finished, Option.isNone_none, Bool.and_true, List.isEmpty_iff,
      sorted.eq_nil_iff, whole]
  · obtain ⟨aborted, succeeded, failed⟩ := Batch.ended_by culprit unended fatal
    have sorted := Batch.sorted_of_unended unended
    rw [← succeeded, ← failed] at sorted
    rw [results] at taken ⊢
    refine ⟨taken, .inr ⟨earlier, culprit, error, rest, rfl, split, fatal, aborted, unended,
      sorted⟩, ?_⟩
    rw [Batch.isSuccess, aborted]
    constructor
    · simp
    · intro all
      -- The culprit is one address more than there are results in the two lists.
      have lengths := congrArg List.length (all.trans split)
      rw [List.length_map, List.length_append, List.length_map, List.length_cons,
        sorted.length] at lengths
      omega

/-! ## A batch without one of its calls -/

/-- A batch for a list is one for its first part and, unless that was ended, one for the rest. -/
theorem runAll_append (earlier later : List String) (run : Run ε ι) :
    runAll step (earlier ++ later) run =
      if (runAll step earlier run).1.any fun entry => endsBatch entry.2 then runAll step earlier run
      else
        ((runAll step earlier run).1 ++ (runAll step later (runAll step earlier run).2).1,
          (runAll step later (runAll step earlier run).2).2) := by
  induction earlier generalizing run with
  | nil => rfl
  | cons address rest ih =>
    rcases ended : step address run with ⟨result, between⟩
    cases ends : endsBatch result with
    | true =>
      rw [List.cons_append, runAll_cons_of_ends ended ends, runAll_cons_of_ends ended ends]
      simp [ends]
    | false =>
      rw [List.cons_append, runAll_cons_of_goes_on ended ends, runAll_cons_of_goes_on ended ends,
        ih between, List.any_cons, ends, Bool.false_or]
      split <;> rfl

theorem length_runAll_le (step : String → Sync ε ι Outcome) (addresses : List String)
    (run : Run ε ι) :
    (runAll step addresses run).1.length ≤ addresses.length := by
  rcases runAll_ends step addresses run with
    ⟨whole, -⟩ | ⟨earlier, culprit, error, rest, results, split, -⟩
  · exact Nat.le_of_eq ((List.length_map Prod.fst).symm.trans (congrArg List.length whole))
  · rw [results, split]
    simp

theorem length_runAll_of_unended {addresses : List String} {run : Run ε ι}
    (unended : ¬(runAll step addresses run).1.any (fun entry => endsBatch entry.2) = true) :
    (runAll step addresses run).1.length = addresses.length := by
  rcases runAll_ends step addresses run with
    ⟨whole, -⟩ | ⟨earlier, culprit, error, rest, results, -, fatal, -⟩
  · exact (List.length_map Prod.fst).symm.trans (congrArg List.length whole)
  · refine absurd ?_ unended
    rw [results]
    simp [endsBatch, fatal]

/-- From related runs steps that agree give the same results and lead to related runs. -/
theorem runAll_agrees {related : Run ε ι → Run ε ι → Prop}
    (agrees : ∀ address, Agrees related (step address)) (addresses : List String)
    {left right : Run ε ι} (same : related left right) :
    (runAll step addresses left).1 = (runAll step addresses right).1 ∧
      related (runAll step addresses left).2 (runAll step addresses right).2 := by
  induction addresses generalizing left right with
  | nil => exact ⟨rfl, same⟩
  | cons address rest ih =>
    obtain ⟨results, ended⟩ := agrees address left right same
    rcases here : step address left with ⟨result, between⟩
    rcases there : step address right with ⟨result', between'⟩
    rw [here, there] at results ended
    cases results
    cases ends : endsBatch result with
    | true =>
      rw [runAll_cons_of_ends here ends, runAll_cons_of_ends there ends]
      exact ⟨rfl, ended⟩
    | false =>
      rw [runAll_cons_of_goes_on here ends, runAll_cons_of_goes_on there ends]
      obtain ⟨others, after⟩ := ih ended
      exact ⟨congrArg ((address, result) :: ·) others, after⟩

/-- Without a call that did not end the batch and led to a related run, a batch has the other
results and leads to a related run. -/
theorem runAll_without {related : Run ε ι → Run ε ι → Prop}
    (agrees : ∀ address, Agrees related (step address)) {earlier later : List String}
    {culprit : String} {error : SyncError} {run : Run ε ι}
    (there : (runAll step (earlier ++ culprit :: later) run).1[earlier.length]? =
      some (culprit, .error error)) (goesOn : error.isFatal = false)
    (unnoticed : ∀ reached after, step culprit reached = (.error error, after) →
      related reached after) :
    (runAll step (earlier ++ later) run).1 =
        (runAll step (earlier ++ culprit :: later) run).1.eraseIdx earlier.length ∧
      related (runAll step (earlier ++ later) run).2
        (runAll step (earlier ++ culprit :: later) run).2 := by
  rw [runAll_append] at there ⊢
  rw [runAll_append]
  generalize done : runAll step earlier run = first at there ⊢
  split at there
  · -- A batch that was ended before has no result for the call.
    have short := length_runAll_le step earlier run
    rw [done] at short
    rw [List.getElem?_eq_none short] at there
    cases there
  · next unended =>
    have length : first.1.length = earlier.length := by
      rw [← done] at unended ⊢
      exact length_runAll_of_unended unended
    rw [if_neg unended, if_neg unended]
    rcases ended : step culprit first.2 with ⟨result, between⟩
    have result_eq : result = .error error := by
      dsimp only at there
      rw [List.getElem?_append_right (by omega), length, Nat.sub_self] at there
      cases ends : endsBatch result with
      | true =>
        rw [runAll_cons_of_ends ended ends] at there
        exact congrArg Prod.snd (Option.some.inj there)
      | false =>
        rw [runAll_cons_of_goes_on ended ends] at there
        exact congrArg Prod.snd (Option.some.inj there)
    subst result_eq
    rw [runAll_cons_of_goes_on ended goesOn]
    obtain ⟨results, after⟩ := runAll_agrees agrees later (unnoticed _ _ ended)
    refine ⟨?_, after⟩
    dsimp only
    rw [List.eraseIdx_append_of_length_le (by omega), length, Nat.sub_self, results]
    rfl

/-! ## Adding projects -/

/-- The index is the same, and the worlds are alike. -/
def SameIndex (alike : ε → ε → Prop) (left right : Run ε ι) : Prop :=
  left.index = right.index ∧ alike left.session.world right.session.world

theorem agrees_syncProject_sameIndex {team : Collaborators ε} {alike : ε → ε → Prop}
    (consistent : team.Consistent alike) (backend : Backend ι) (setup : Setup) (address : String) :
    Agrees (SameIndex alike) (syncProject team backend setup address : Sync ε ι Outcome) := by
  intro left right same
  have start : Run.Alike Eq alike left.session.trace right.session.trace left right :=
    ⟨⟨same.2, [], (List.append_nil _).symm, (List.append_nil _).symm⟩, same.1⟩
  cases spelled : Address.projectId? address with
  | some projectId =>
    obtain ⟨results, ended⟩ := agrees_syncProject consistent (backend.congruence_eq projectId)
      setup spelled (fun _ _ _ _ => trivial) left right start
    exact ⟨results, ended.index, ended.session.world⟩
  | none =>
    have unspelled : (syncProject team backend setup address : Sync ε ι Outcome) =
        throw (.notFound address) := by
      rw [syncProject, survey, projectIdOf, spelled]
      rfl
    rw [unspelled]
    exact ⟨rfl, same⟩

/-- A sync that failed for a reason outside the index led to the same index. -/
theorem sameIndex_of_contained {team : Collaborators ε} {alike : ε → ε → Prop}
    {backend : Backend ι} {setup : Setup} {address : String} {reached after : Run ε ι}
    {error : SyncError} (outside : ∀ cause, error ≠ .store cause)
    (unnoticed : alike reached.session.world
      (syncProject team backend setup address reached).2.session.world)
    (failed : syncProject team backend setup address reached = (.error error, after)) :
    SameIndex alike reached after := by
  rw [failed] at unnoticed
  exact ⟨(contained_syncProject setup address _ _ _ failed outside).index.symm, unnoticed⟩

/-- **What becomes of a batch.** Adding or deleting projects does the calls in order, each address
once, and has their results. All addresses are processed, or the last one processed is the first
that failed fatally; it is named apart, and every other one is a success or a failure with its
wording, in order. The batch is a success exactly if every address of the list succeeded.

If the parties answer as if a failed addition had not been made, and it failed neither fatally nor
for a reason in the index, then without its address the batch has the same other results and ends
with the same index. -/
theorem batches_processed (team : Collaborators ε) (backend : Backend ι) (setup : Setup)
    (addresses : List String) (run : Run ε ι) :
    let added := addProjects team backend setup addresses run
    let deleted := deleteProjects team backend addresses run
    Processed (syncProject team backend setup) addresses run added.1 added.2 ∧
      Processed (deleteProject team backend) addresses run deleted.1 deleted.2 ∧
      ∀ (alike : ε → ε → Prop) (earlier later : List String) (culprit : String)
        (error : SyncError), addresses = earlier ++ culprit :: later →
        added.1.results[earlier.length]? = some (culprit, .error error) →
        error.isFatal = false → (∀ cause, error ≠ .store cause) → team.Consistent alike →
        (∀ reached : Run ε ι, alike reached.session.world
          (syncProject team backend setup culprit reached).2.session.world) →
          let without := addProjects team backend setup (earlier ++ later) run
          without.1.results = added.1.results.eraseIdx earlier.length ∧
            without.2.index = added.2.index := by
  refine ⟨runAll_processed addresses run, runAll_processed addresses run, ?_⟩
  rintro alike earlier later culprit error rfl there goesOn outside consistent unnoticed
  obtain ⟨results, same, -⟩ := runAll_without
    (agrees_syncProject_sameIndex consistent backend setup) there goesOn
    fun reached after failed => sameIndex_of_contained outside (unnoticed reached) failed
  exact ⟨results, same⟩

/-- The parties of a project that was given a new file and lost its old one, and of no other
project. -/
def replacedFile : Collaborators Unit :=
  Scene.unmoved
    (Scene.opening [Scene.entry "B.txt" "1"] [] [] MemoryIndex.empty).session.world

/-- The project is indexed with its old file. -/
def oldFile : Run Unit MemoryIndex :=
  ⟨Session.start (), Scene.indexed [Scene.entry "A.txt" "1"]⟩

/-- An address without a project does not matter to the address after it. -/
theorem batches_processed_missing :
    let batch := addProjects replacedFile MemoryIndex.backend Scene.setup
    (batch ["o/q", "o/p"] oldFile).1.results =
        [("o/q", .error (.notFound "o/q")), ("o/p", .ok (.reconciled ⟨1, 0, 1, 0⟩))] ∧
      (batch ["o/p"] oldFile).1.results = [("o/p", .ok (.reconciled ⟨1, 0, 1, 0⟩))] ∧
        (batch ["o/p"] oldFile).2.index = (batch ["o/q", "o/p"] oldFile).2.index := by
  intro batch
  have results : (batch ["o/q", "o/p"] oldFile).1.results =
      [("o/q", .error (.notFound "o/q")), ("o/p", .ok (.reconciled ⟨1, 0, 1, 0⟩))] := by
    decide +kernel
  have missing : (batch ["o/q", "o/p"] oldFile).1.results[0]? =
      some ("o/q", .error (.notFound "o/q")) := by
    rw [results]
    rfl
  have outside : ∀ cause, SyncError.notFound "o/q" ≠ .store cause := by
    rintro cause ⟨⟩
  obtain ⟨-, -, removal⟩ := batches_processed replacedFile MemoryIndex.backend Scene.setup
    ["o/q", "o/p"] oldFile
  obtain ⟨others, same⟩ := removal (fun _ _ => True) [] ["o/p"] "o/q" (.notFound "o/q") rfl
    missing rfl outside (consistent_unmoved _) fun _ => trivial
  refine ⟨results, others.trans ?_, same⟩
  change (batch ["o/q", "o/p"] oldFile).1.results.eraseIdx 0 = _
  rw [results]
  rfl

end Sync

end SourceIndex
