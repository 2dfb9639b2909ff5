import SourceIndex.Plan
import SourceIndex.Proofs.Fallible

/-!
# Preparing the records of a plan

The records of a plan are prepared one after another, those to be created first, until one fails.
Seen as one step that may fail, this is the preparation of each record in turn (`prepare_eq`), so
that whatever composition keeps, the preparation of a plan keeps.

When no preparation fails, the prepared plan has the records of the plan in the same order, each
prepared in between (`prepared_between`) and so related to the record it was made from as a single
preparation relates them (`prepare_prepared`), and the same deletes.
-/

set_option autoImplicit false

namespace SourceIndex.Plan

open Fallible

variable {σ κ : Type} {step : FileRecord → ExceptT κ (StateM σ) FileRecord}

theorem prepareFiles_cons_of_ok {file prepared : FileRecord} {state between : σ}
    (done : step file state = (.ok prepared, between)) (rest : List FileRecord) :
    prepareFiles step (file :: rest) state =
      ((prepared :: (prepareFiles step rest between).1.1, (prepareFiles step rest between).1.2),
        (prepareFiles step rest between).2) := by
  rw [prepareFiles, state_bind_apply, ExceptT.run, done]
  rfl

theorem prepareFiles_cons_of_error {file : FileRecord} {state between : σ} {failure : κ}
    (failed : step file state = (.error failure, between)) (rest : List FileRecord) :
    prepareFiles step (file :: rest) state = ((file :: rest, some failure), between) := by
  rw [prepareFiles, state_bind_apply, ExceptT.run, failed]
  rfl

/-- What preparing came to, seen as the end of a step that may fail. -/
def settled {α : Type} : (α × Option κ) × σ → Except κ α × σ
  | ((prepared, none), after) => (.ok prepared, after)
  | ((_, some failure), after) => (.error failure, after)

theorem mapM_eq (files : List FileRecord) (state : σ) :
    files.mapM step state = settled (prepareFiles step files state) := by
  induction files generalizing state with
  | nil => rfl
  | cons file rest ih =>
    rw [List.mapM_cons]
    rcases ended : step file state with ⟨failure | prepared, between⟩
    · rw [bind_apply_of_error ended, prepareFiles_cons_of_error ended]
      rfl
    · rw [bind_apply_of_ok ended, prepareFiles_cons_of_ok ended]
      have others := ih between
      rcases came : prepareFiles step rest between with ⟨⟨found, _ | failure⟩, last⟩
      · rw [came] at others
        rw [bind_apply_of_ok others]
        rfl
      · rw [came] at others
        rw [bind_apply_of_error others]
        rfl

/-- Preparing a plan is preparing each of its records in turn. -/
theorem prepare_eq (plan : Plan) (state : σ) :
    settled (plan.prepare step state) =
      (do
        let created ← plan.toCreate.mapM step
        let updated ← plan.toUpdate.mapM step
        pure { plan with toCreate := created, toUpdate := updated } :
          ExceptT κ (StateM σ) Plan) state := by
  have creates : plan.toCreate.mapM step state = _ := mapM_eq plan.toCreate state
  rw [prepare, state_bind_apply]
  rcases first : prepareFiles step plan.toCreate state with ⟨⟨created, _ | failure⟩, between⟩
  · rw [first] at creates
    rw [bind_apply_of_ok creates]
    dsimp only
    rw [state_bind_apply]
    have updates : plan.toUpdate.mapM step between = _ := mapM_eq plan.toUpdate between
    rcases second : prepareFiles step plan.toUpdate between with ⟨⟨updated, _ | failure⟩, last⟩
    · rw [second] at updates
      rw [bind_apply_of_ok updates]
      rfl
    · rw [second] at updates
      rw [bind_apply_of_error updates]
      rfl
  · rw [first] at creates
    rw [bind_apply_of_error creates]
    rfl

/-! ## Records and what they became -/

section

variable {α β : Type} {kept : α → β → Prop} {files : List α} {results : List β}
  (become : List.Forall₂ kept files results)
include become

/-- What is the same for a record and what it became is the same for them all. -/
theorem map_eq {γ : Type} {view : α → γ} {viewed : β → γ}
    (same : ∀ {file result}, kept file result → viewed result = view file) :
    results.map viewed = files.map view := by
  induction become with
  | nil => rfl
  | cons single _ ih => rw [List.map_cons, List.map_cons, same single, ih]

theorem exists_source {result : β} (member : result ∈ results) :
    ∃ file ∈ files, kept file result := by
  induction become with
  | nil => cases member
  | cons first _ ih =>
    rcases List.mem_cons.1 member with rfl | later
    · exact ⟨_, List.mem_cons_self, first⟩
    · obtain ⟨file, there, single⟩ := ih later
      exact ⟨file, List.mem_cons_of_mem _ there, single⟩

theorem exists_result {file : α} (member : file ∈ files) :
    ∃ result ∈ results, kept file result := by
  induction become with
  | nil => cases member
  | cons first _ ih =>
    rcases List.mem_cons.1 member with rfl | later
    · exact ⟨_, List.mem_cons_self, first⟩
    · obtain ⟨result, there, single⟩ := ih later
      exact ⟨result, List.mem_cons_of_mem _ there, single⟩

end

/-- A plan whose records were all prepared: each of its creates and updates was prepared in between
from that of the plan, and nothing else has changed. -/
theorem prepared_between {related : σ → σ → Prop} [IsPreorder σ related]
    (keeps : ∀ file, Keeps related (step file)) {plan prepared : Plan} {state after : σ}
    (done : settled (plan.prepare step state) = (.ok prepared, after)) :
    List.Forall₂ (fun file => EndedBetween related (step file) state after)
        plan.toCreate prepared.toCreate ∧
      List.Forall₂ (fun file => EndedBetween related (step file) state after)
        plan.toUpdate prepared.toUpdate ∧
      prepared.toDelete = plan.toDelete ∧ prepared.unchanged = plan.unchanged := by
  rw [prepare_eq] at done
  obtain ⟨created, between, creates, done⟩ := bind_eq_ok_iff.1 done
  obtain ⟨updated, last, updates, done⟩ := bind_eq_ok_iff.1 done
  obtain ⟨rfl, rfl⟩ := pure_eq_ok_iff.1 done
  have before := (Keeps.composable.mapM plan.toCreate fun file _ => keeps file).ok creates
  have after := (Keeps.composable.mapM plan.toUpdate fun file _ => keeps file).ok updates
  refine ⟨?_, ?_, rfl, rfl⟩
  · exact (forall₂_of_mapM keeps creates).imp fun _ _ made =>
      made.widen (refl_of related state) after
  · exact (forall₂_of_mapM keeps updates).imp fun _ _ made =>
      made.widen before (refl_of related last)

/-- A plan whose records were all prepared: its creates and updates are related to those of the plan
one by one, and nothing else has changed. -/
theorem prepare_prepared {kept : FileRecord → FileRecord → Prop}
    (steps : ∀ file prepared state after,
      step file state = (.ok prepared, after) → kept file prepared)
    {plan prepared : Plan} {state after : σ}
    (done : settled (plan.prepare step state) = (.ok prepared, after)) :
    List.Forall₂ kept plan.toCreate prepared.toCreate ∧
      List.Forall₂ kept plan.toUpdate prepared.toUpdate ∧
        prepared.toDelete = plan.toDelete ∧ prepared.unchanged = plan.unchanged := by
  -- Nothing needs to be known of the states in between.
  have : IsPreorder σ fun _ _ => True := { refl _ := trivial, trans _ _ _ _ _ := trivial }
  have single : ∀ file result,
      EndedBetween (fun _ _ => True) (step file) state after result → kept file result := by
    rintro file result ⟨first, last, -, made, -⟩
    exact steps _ _ _ _ made
  have keeps : ∀ file, Keeps (fun _ _ => True) (step file) := fun _ _ => trivial
  obtain ⟨creates, updates, deletes, unchanged⟩ := prepared_between keeps done
  exact ⟨creates.imp single, updates.imp single, deletes, unchanged⟩

end SourceIndex.Plan
