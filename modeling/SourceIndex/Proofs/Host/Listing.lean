import SourceIndex.Host.Client

/-!
# What a lookup lists

A project is looked up with three requests in turn, and the last of them is for the file tree of the
head of its default branch (`Client.reported?`). A client that stops finds no project.

Main statement: the files of a project that was found are those of the file tree that the service
reported in this lookup (`Client.resolve_eq_ok`), whether or not the tree says that entries were left
out.
-/

set_option autoImplicit false

namespace SourceIndex.Host

/-- Parties answer something exactly if the client returned it. -/
theorem Ending.answer_eq_ok_iff {α : Type} {ending : Ending (Except Chain α)} {value : α} :
    ending.answer = .ok value ↔ ending = .returned (.ok value) := by
  cases ending with
  | returned result => exact ⟨congrArg Ending.returned, Ending.returned.inj⟩
  | stopped => exact iff_of_false nofun nofun

namespace Client

variable {ν : Type} {network : Network ν} {client : Client} {state after : ν}

/-- The file tree that the service reports when an address is looked up from a state of the network:
the one for the head of the default branch of the repository. -/
def reported? (network : Network ν) (client : Client) (address : String) (state : ν) :
    Option Tree :=
  match repositoryUrl? client.settings address with
  | none => none
  | some url =>
    match get network client Repository.of? url state with
    | (.returned (.ok (some repository)), described) =>
      match get network client headOf? (url ++ "/branches/" ++ repository.defaultBranch)
          described with
      | (.returned (.ok (some head)), headed) =>
        match get network client Tree.of? (url ++ "/git/trees/" ++ head ++ "?recursive=1")
            headed with
        | (.returned (.ok (some tree)), _) => some tree
        | _ => none
      | _ => none
    | _ => none

theorem resolveTree_eq_ok {projectId repositoryUrl head : String} {repository : Repository}
    {remote : RemoteProject}
    (resolved : resolveTree network client projectId repositoryUrl head repository state =
      (.returned (.ok (some remote)), after)) :
    ∃ tree, get network client Tree.of?
        (repositoryUrl ++ "/git/trees/" ++ head ++ "?recursive=1") state =
          (.returned (.ok (some tree)), after) ∧
      remote = ⟨projectOf projectId repository, tree.files⟩ := by
  unfold resolveTree at resolved
  dsimp only at resolved
  split at resolved
  · cases resolved
  · cases resolved
  · cases resolved
  · next tree last got =>
    cases resolved
    exact ⟨tree, got, rfl⟩

theorem resolveBranch_eq_ok {projectId repositoryUrl : String} {repository : Repository}
    {remote : RemoteProject}
    (resolved : resolveBranch network client projectId repositoryUrl repository state =
      (.returned (.ok (some remote)), after)) :
    ∃ head headed, get network client headOf?
        (repositoryUrl ++ "/branches/" ++ repository.defaultBranch) state =
          (.returned (.ok (some head)), headed) ∧
      resolveTree network client projectId repositoryUrl head repository headed =
        (.returned (.ok (some remote)), after) := by
  unfold resolveBranch at resolved
  dsimp only at resolved
  split at resolved
  · cases resolved
  · cases resolved
  · cases resolved
  · next head headed got => exact ⟨head, headed, got, resolved⟩

/-- **The files of a project that was found are those of the reported file tree**, and the project
has the id that the address spells. -/
theorem resolve_eq_ok {address : String} {remote : RemoteProject}
    (resolved : resolve network client address state = (.returned (.ok (some remote)), after)) :
    Address.projectId? address = some remote.project.id ∧
      ∃ tree, reported? network client address state = some tree ∧
        remote.files = tree.files := by
  unfold resolve at resolved
  split at resolved
  · next projectId url spelled located =>
    split at resolved
    · cases resolved
    · cases resolved
    · cases resolved
    · next repository described describing =>
      obtain ⟨head, headed, heading, resolved⟩ := resolveBranch_eq_ok resolved
      obtain ⟨tree, listing, rfl⟩ := resolveTree_eq_ok resolved
      refine ⟨spelled, tree, ?_, rfl⟩
      simp only [reported?, located, describing, heading, listing]
  · cases resolved

end Client

end SourceIndex.Host
