import SourceIndex.Proofs.Sync.Production

/-!
# What a sync visits

A sync asks the parser about the working copy of its project and about listed files in it, and it
reads listed files in it. It asks and reads nothing else, whether it reconciles the project or
imports it, and however it ends (`Sync.syncProject_visits`). Where these requests and readings lead
depends on the paths in the listing alone.
-/

set_option autoImplicit false

namespace SourceIndex

open Fallible

variable {ε ι : Type}

/-- The files that the hosting service lists for an address; none if there is no project. -/
def Collaborators.listing (team : Collaborators ε) (address : String) (world : ε) :
    List RemoteFile :=
  match (team.resolve address world).1 with
  | .ok (some remote) => remote.files
  | _ => []

/-- If the act asks the parser or reads a file, it does so about a directory or about listed files
below it. -/
inductive Act.Visits (directory : String) (listing : List RemoteFile) : Act → Prop where
  | asksDirectory : Visits directory listing (.asked .directory (Path.key directory))
  | asksFile {remote : RemoteFile} (listed : remote ∈ listing) :
    Visits directory listing (.asked .file (Path.key (Path.join directory remote.path)))
  | reads {remote : RemoteFile} (listed : remote ∈ listing) :
    Visits directory listing (.read (Path.join directory remote.path))
  | elsewhere {act : Act} (unasked : act.request? = none) (unread : act.readPath? = none) :
    Visits directory listing act

namespace Sync

variable {team : Collaborators ε} {backend : Backend ι} {setup : Setup}

theorem allowsAround_visits (directory : String) (listing : List RemoteFile) :
    AllowsAround (Act.Visits directory listing) where
  reported _ := .elsewhere rfl rfl
  mirrored _ := .elsewhere rfl rfl
  failed _ _ := .elsewhere rfl rfl

theorem visiting_visits (directory : String) (listing : List RemoteFile) :
    Extraction.Visiting team directory listing fun (α : Type) (work : Work ε α) =>
      Keeps (Session.Leads team (Act.Visits directory listing)) work where
  toComposable := Keeps.composable
  attempting := Extraction.keeps_attempt
  asksDirectory := Extraction.leads_ask .asksDirectory
  asksFile _ listed := Extraction.leads_ask (.asksFile listed)
  reads _ listed := Extraction.leads_readSource (.reads listed)

section

variable {projectId : String}

theorem reconcile_visits (listing : List RemoteFile) :
    Keeps (Run.Leads team (Act.Visits (setup.localPath projectId) listing))
      (reconcile team backend setup projectId listing : Sync ε ι Report) := by
  have around := allowsAround_visits (setup.localPath projectId) listing
  refine Keeps.composable.bind ((inquiring_leads around projectId).preparedPlan
    (visiting_visits _ _) leads_work) fun planned _ => ?_
  exact Keeps.composable.bind (leads_performAll around fun _ _ => .elsewhere rfl rfl) fun _ _ =>
    Keeps.composable.pure _

theorem firstImport_visits (remote : RemoteProject) :
    Keeps (Run.Leads team (Act.Visits (setup.localPath projectId) remote.files))
      (firstImport team backend setup projectId remote : Sync ε ι Outcome) := by
  have around := allowsAround_visits (setup.localPath projectId) remote.files
  refine Keeps.composable.bind (composable_importedRecords (visiting_visits _ _) leads_work
    Keeps.composable fun event => leads_report (around.reported event)) fun files _ => ?_
  exact Keeps.composable.bind (leads_addProject around (.elsewhere rfl rfl)
    (fun _ _ => .elsewhere rfl rfl) (.elsewhere rfl rfl)) fun _ _ => Keeps.composable.pure _

theorem settle_visits (remote : RemoteProject) (indexed : Bool) :
    Keeps (Run.Leads team (Act.Visits (setup.localPath projectId) remote.files))
      (settle team backend setup projectId remote indexed : Sync ε ι Outcome) := by
  cases indexed with
  | true =>
    exact Keeps.composable.bind (reconcile_visits remote.files) fun _ _ => Keeps.composable.pure _
  | false => exact firstImport_visits remote

end

/-- An address that spells no project ends the sync and leaves everything as it is. -/
theorem syncProject_unnamed {address : String} (unnamed : Address.projectId? address = none)
    (run : Run ε ι) :
    syncProject team backend setup address run = (.error (.notFound address), run) := by
  have named : (projectIdOf address : Sync ε ι String) run = (.error (.notFound address), run) := by
    rw [projectIdOf, unnamed]
    rfl
  have surveyed : survey team backend setup address run = (.error (.notFound address), run) :=
    bind_apply_of_error named _
  exact bind_apply_of_error surveyed _

/-- **A sync asks about the working copy and listed files in it, and reads listed files in it.** -/
theorem syncProject_visits {address id : String} (spelled : Address.projectId? address = some id)
    (run : Run ε ι) :
    Run.Leads team (Act.Visits (setup.localPath id) (team.listing address run.session.world)) run
      (syncProject team backend setup address run).2 := by
  have surveys : ∀ listing, Keeps (Run.Leads team (Act.Visits (setup.localPath id) listing))
      (survey team backend setup address : Sync ε ι (String × RemoteProject × Bool)) :=
    fun listing => composable_survey Keeps.composable
      (fun other _ => inquiring_leads (allowsAround_visits _ _) other) setup
  rcases ended : syncProject team backend setup address run with ⟨result, after⟩
  rcases bind_cases ended with
    ⟨error, unsurveyed, -⟩ | ⟨⟨named, remote, indexed⟩, between, surveying, ended⟩
  · exact (surveys _).error unsurveyed
  · obtain ⟨same, ⟨world, resolved⟩, -⟩ := survey_eq_ok surveying
    obtain rfl : id = named := Option.some.inj (spelled.symm.trans same)
    have listed : team.listing address run.session.world = remote.files := by
      rw [Collaborators.listing, resolved]
    rw [listed]
    have goesOn : Keeps (Run.Leads team (Act.Visits (setup.localPath id) remote.files))
        (do let outcome ← settle team backend setup id remote indexed
            report (.finished id)
            pure outcome : Sync ε ι Outcome) :=
      Keeps.composable.bind (settle_visits remote indexed) fun _ _ =>
        Keeps.composable.bind (leads_report (.elsewhere rfl rfl)) fun _ _ => Keeps.composable.pure _
    exact trans_of (Run.Leads team _) ((surveys _).ok surveying) (goesOn.of_eq ended)

end Sync

end SourceIndex
