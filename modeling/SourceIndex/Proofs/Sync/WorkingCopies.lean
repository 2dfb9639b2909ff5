import SourceIndex.Proofs.Path
import SourceIndex.Sync.Basic

/-!
# Where working copies lie

The working copy of a project lies two levels below the directory of the working copies, under the
owner and the name, exactly if neither of them is `.` or `..` (`Setup.resolved_localPath_eq_iff`).
Two such working copies are apart: neither contains the other (`Setup.localPath_apart`).

Nothing keeps an address from naming `.` or `..` as owner or name. The working copy then lies
elsewhere, even above the directory of the working copies (`Setup.localPath_escapes`).
-/

set_option autoImplicit false

namespace SourceIndex

open SourceIndex.Path

namespace Setup

/-- The directory of the working copies is in absolute form, unless it was given as the empty
path. -/
theorem isNormal_make (policy : Policy) (current : String) {sourceDir : String}
    (named : sourceDir ≠ "") : IsNormal (make policy current sourceDir).sourceDir := by
  have formed := absolute?_of_named named current
  rw [make, formed, Option.getD_some]
  exact isNormal_of_absolute? formed

variable (setup : Setup) {id : String} {owner name : List Char}

/-- The working copy is reached by the owner and the name. -/
theorem localPath_eq (ofOwner : '/' ∉ owner) (ofName : '/' ∉ name)
    (parts : id.toList = owner ++ '/' :: name) :
    setup.localPath id =
      join (join setup.sourceDir (String.ofList owner)) (String.ofList name) := by
  rw [localPath, parts, List.splitOn_append_cons_self, List.splitOn_eq_singleton ofOwner,
    List.splitOn_eq_singleton ofName]
  rfl

theorem resolved_localPath (ofOwner : '/' ∉ owner ∧ owner ≠ []) (ofName : '/' ∉ name ∧ name ≠ [])
    (parts : id.toList = owner ++ '/' :: name) (current : String) :
    resolved current (setup.localPath id) =
      resolve (resolved current setup.sourceDir) [owner, name] := by
  have relative : ∀ {part : List Char}, '/' ∉ part → isAbsolute (String.ofList part) = false :=
    fun whole => isAbsolute_of_notMem (by rwa [String.toList_ofList])
  rw [setup.localPath_eq ofOwner.1 ofName.1 parts, resolved_join (relative ofName.1),
    resolved_join (relative ofOwner.1), String.toList_ofList, String.toList_ofList,
    segments_of_notMem ofName.1 ofName.2, segments_of_notMem ofOwner.1 ofOwner.2, ← resolve_append,
    List.singleton_append]

/-- The working copy lies under the owner and the name exactly if neither stands for a place
relative to another one. -/
theorem resolved_localPath_eq_iff (normal : IsNormal setup.sourceDir)
    (ofOwner : '/' ∉ owner ∧ owner ≠ []) (ofName : '/' ∉ name ∧ name ≠ [])
    (parts : id.toList = owner ++ '/' :: name) (current : String) :
    resolved current (setup.localPath id) =
        segments setup.sourceDir.toList ++ [owner, name] ↔ Clean [owner, name] := by
  rw [setup.resolved_localPath ofOwner ofName parts, normal.resolved_eq]
  constructor
  · intro here segment within
    refine resolve_clean normal.2 [owner, name] segment ?_
    rw [here]
    exact List.mem_append_right _ within
  · exact fun clean => resolve_of_clean clean _

/-- **Working copies are two levels below their directory and apart.** The working copy of an
address lies under the owner and the name exactly if neither is `.` or `..`. If this is so of two
addresses with different ids, then neither working copy contains the other. -/
theorem localPath_apart (normal : IsNormal setup.sourceDir) (current : String)
    {address other otherId : String} (spelled : Address.projectId? address = some id)
    (spelled' : Address.projectId? other = some otherId) :
    (∃ owner name, id.toList = owner ++ '/' :: name ∧
        (resolved current (setup.localPath id) =
          segments setup.sourceDir.toList ++ [owner, name] ↔ Clean [owner, name])) ∧
      (Clean (segments id.toList) → Clean (segments otherId.toList) → id ≠ otherId →
        ¬resolved current (setup.localPath id) <+: resolved current (setup.localPath otherId)) := by
  obtain ⟨owner, name, ofOwner, ofName, parts⟩ := Address.parts_of_projectId? spelled
  obtain ⟨owner', name', ofOwner', ofName', parts'⟩ := Address.parts_of_projectId? spelled'
  have place := setup.resolved_localPath_eq_iff normal ofOwner ofName parts current
  have place' := setup.resolved_localPath_eq_iff normal ofOwner' ofName' parts' current
  refine ⟨⟨owner, name, parts, place⟩, fun clean clean' different within => different ?_⟩
  rw [parts, segments_pair ofOwner ofName] at clean
  rw [parts', segments_pair ofOwner' ofName'] at clean'
  rw [place.2 clean, place'.2 clean', List.prefix_append_right_inj] at within
  have same : [owner, name] = [owner', name'] := within.eq_of_length rfl
  cases same
  exact String.toList_inj.1 (parts.trans parts'.symm)

/-- The setup with working copies in `/w/src`. -/
def sample : Setup :=
  ⟨.standard, "/w/src"⟩

/-- The working copies of two ordinary addresses, one of them a URL. -/
theorem localPath_apart_ordinary :
    resolved "/" (sample.localPath "o/p") = segments sample.sourceDir.toList ++ [['o'], ['p']] ∧
      ¬resolved "/" (sample.localPath "o/p") <+: resolved "/" (sample.localPath "o/q") := by
  have apart := (sample.localPath_apart (by decide +kernel) "/"
    (by decide +kernel : Address.projectId? "https://example.test/o/p.git" = some "o/p")
    (by decide +kernel : Address.projectId? "o/q" = some "o/q")).2
  exact ⟨by decide +kernel, apart (by decide +kernel) (by decide +kernel) (by decide)⟩

/-- **A working copy can lie outside its directory, or contain all others.** The owner `..` leads
above the directory of the working copies, and the name `..` leads to that directory itself. -/
theorem localPath_escapes :
    IsNormal sample.sourceDir ∧
      (Address.projectId? "../p" = some "../p" ∧
        ¬segments sample.sourceDir.toList <+: resolved "/" (sample.localPath "../p")) ∧
      (Address.projectId? "o/.." = some "o/.." ∧ Address.projectId? "o/p" = some "o/p" ∧
        resolved "/" (sample.localPath "o/..") <+: resolved "/" (sample.localPath "o/p")) := by
  decide +kernel

end Setup

end SourceIndex
