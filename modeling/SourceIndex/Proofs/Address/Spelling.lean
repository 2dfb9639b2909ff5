import SourceIndex.Host.Client
import SourceIndex.Proofs.Path
import SourceIndex.Proofs.Text.Trimming

/-!
# Spellings of an address

What an address names is read from its core: the address without the blanks around it, the slashes
at its end and one ending `.git` (`Address.core`), whose last two segments are the owner and the
name (`Address.ownerAndName?_eq_some`).

Main statement: a documented spelling of an owner and a name, whatever stands around them, has the
id of just these two, and its repository is looked up below the base of the service
(`Address.Spelling.projectId?_text`).
-/

set_option autoImplicit false

namespace SourceIndex

namespace Address

open Text

/-! ## The core of an address -/

/-- The part of an address that its segments are read from. -/
def core (address : List Char) : List Char :=
  dropEnding ['.', 'g', 'i', 't'] (dropEndWhile (· == '/') (trim address))

/-- **The owner and the name are the last two segments of the core.** -/
theorem ownerAndName?_eq_some {address owner name : List Char} :
    ownerAndName? address = some (owner, name) ↔
      ':' ∉ owner ∧ ∃ earlier, Path.segments (core address) = earlier ++ [owner, name] := by
  rw [ownerAndName?, ← core]
  constructor
  · intro found
    split at found
    · next last before earlier cut =>
      split at found
      · cases found
      · next colonless =>
        cases found
        rw [List.contains_iff_mem] at colonless
        refine ⟨colonless, earlier.reverse, ?_⟩
        rw [← List.reverse_reverse (Path.segments (core address)), cut, List.reverse_cons,
          List.reverse_cons, List.append_assoc]
        rfl
    · cases found
  · rintro ⟨colonless, earlier, cut⟩
    rw [cut, List.reverse_append]
    exact if_neg fun within => colonless (List.contains_iff_mem.1 within)

/-- Blanks around a text and slashes at its end do not count for its core. -/
theorem core_append {body : List Char} (lead trail : List Char) (slashes : Nat)
    (filled : body ≠ []) (leading : ∀ character ∈ lead, isBlank character = true)
    (trailing : ∀ character ∈ trail, isBlank character = true)
    (first : ∀ character ∈ body.head?, isBlank character = false)
    (last : ∀ character ∈ body.getLast?, character ≠ '/')
    (solid : ∀ character ∈ (body ++ List.replicate slashes '/').getLast?,
      isBlank character = false) :
    core (lead ++ (body ++ List.replicate slashes '/') ++ trail) =
      dropEnding ['.', 'g', 'i', 't'] body := by
  have ends : HasSolidEnds (body ++ List.replicate slashes '/') := by
    refine ⟨?_, solid⟩
    rw [List.head?_append_of_ne_nil _ filled]
    exact first
  have ended : dropEndWhile (· == '/') (body ++ List.replicate slashes '/') = body := by
    rw [dropEndWhile_append fun character within => by simp [List.eq_of_mem_replicate within]]
    exact dropEndWhile_eq_self.2 fun character isLast => by simp [last character isLast]
  rw [core, trim_append leading trailing, trim_eq_self ends, ended]

/-- A path has an ending without a slash exactly if its last segment has it. -/
theorem suffix_path {ending : List Char} (whole : '/' ∉ ending) (before name : List Char) :
    ending <:+ before ++ '/' :: name ↔ ending <:+ name := by
  constructor
  · intro suffix
    rcases List.suffix_or_suffix_of_suffix suffix (List.suffix_append before ('/' :: name)) with
      inner | outer
    · rcases List.suffix_cons_iff.1 inner with same | within
      · exact absurd (same ▸ List.mem_cons_self) whole
      · exact within
    · exact absurd (outer.subset List.mem_cons_self) whole
  · intro suffix
    exact suffix.trans ((List.suffix_cons '/' name).trans (List.suffix_append before _))

/-- An ending without a slash is dropped from the last segment of a path. -/
theorem dropEnding_path {ending : List Char} (whole : '/' ∉ ending) (before name : List Char) :
    dropEnding ending (before ++ '/' :: name) = before ++ '/' :: dropEnding ending name := by
  by_cases has : ending <:+ name
  · obtain ⟨stem, rfl⟩ := has
    rw [dropEnding_append, ← List.cons_append, ← List.append_assoc, dropEnding_append]
  · rw [dropEnding_of_not_suffix has,
      dropEnding_of_not_suffix fun suffix => has ((suffix_path whole before name).1 suffix)]

/-- The segments of an owner and a name come last, whatever closed text stands before them. -/
theorem segments_site {site owner name : List Char} (closed : ∀ last ∈ site.getLast?, last = '/')
    (ofOwner : '/' ∉ owner ∧ owner ≠ []) (ofName : '/' ∉ name ∧ name ≠ []) :
    ∃ earlier, Path.segments (site ++ (owner ++ '/' :: name)) = earlier ++ [owner, name] := by
  cases site using List.reverseRecOn with
  | nil => exact ⟨[], Path.segments_pair ofOwner ofName⟩
  | append_singleton before slash =>
    rw [closed slash (by simp), List.append_assoc, List.singleton_append, Path.segments_append,
      Path.segments_pair ofOwner ofName]
    exact ⟨Path.segments before, rfl⟩

/-- An address that ends with an owner and a name, and with what does not count, has this owner and
this name without its ending. -/
theorem ownerAndName?_append {lead site owner name trail : List Char} {slashes : Nat}
    (leading : ∀ character ∈ lead, isBlank character = true)
    (trailing : ∀ character ∈ trail, isBlank character = true)
    (closed : ∀ last ∈ site.getLast?, last = '/')
    (first : ∀ character ∈ (site ++ owner).head?, isBlank character = false)
    (ofOwner : '/' ∉ owner ∧ owner ≠ []) (colonless : ':' ∉ owner) (whole : '/' ∉ name)
    (stem : dropEnding ['.', 'g', 'i', 't'] name ≠ [])
    (solid : ∀ character ∈ (name ++ List.replicate slashes '/').getLast?,
      isBlank character = false) :
    ownerAndName?
        (lead ++ (site ++ (owner ++ '/' :: name) ++ List.replicate slashes '/') ++ trail) =
      some (owner, dropEnding ['.', 'g', 'i', 't'] name) := by
  have filled : name ≠ [] := fun empty => stem (by rw [empty]; rfl)
  have cored : core (lead ++ (site ++ (owner ++ '/' :: name) ++ List.replicate slashes '/') ++
      trail) = site ++ (owner ++ '/' :: dropEnding ['.', 'g', 'i', 't'] name) := by
    rw [core_append lead trail slashes (by simp) leading trailing, ← List.append_assoc,
      dropEnding_path (by decide), List.append_assoc]
    · intro character isFirst
      rw [← List.append_assoc, List.head?_append_of_ne_nil _ (by simp [ofOwner.2])] at isFirst
      exact first character isFirst
    · intro character isLast
      rw [← List.append_assoc, List.getLast?_append_cons, List.getLast?_cons,
        List.getLast?_eq_some_getLast filled] at isLast
      rintro rfl
      exact whole (Option.some.inj isLast ▸ List.getLast_mem filled)
    · intro character isLast
      rw [← List.append_assoc, List.append_assoc, List.cons_append, List.getLast?_append_cons,
        List.getLast?_cons_of_ne_nil (by simp [filled])] at isLast
      exact solid character isLast
  have pure : '/' ∉ dropEnding ['.', 'g', 'i', 't'] name :=
    fun within => whole (dropEnding_isPrefix.subset within)
  refine ownerAndName?_eq_some.2 ⟨colonless, ?_⟩
  rw [cored]
  exact segments_site closed ofOwner ⟨pure, stem⟩

/-! ## Documented spellings -/

/-- An owner and a name, and a way to write them as an address: below a site or on their own, with
the ending of a clone URL or without it, with slashes at the end, and with blanks around it. -/
structure Spelling where
  owner : List Char
  name : List Char
  /-- What stands before the owner, such as `https://github.com/`. -/
  site : List Char
  /-- The name is followed by `.git`. -/
  cloned : Bool
  /-- How many slashes there are at the end. -/
  slashes : Nat
  /-- The blanks at the start. -/
  lead : List Char
  /-- The blanks at the end. -/
  trail : List Char
  owner_filled : owner ≠ []
  owner_plain : ∀ character ∈ owner, character ≠ '/' ∧ character ≠ ':' ∧ isBlank character = false
  name_filled : name ≠ []
  name_plain : ∀ character ∈ name, character ≠ '/' ∧ isBlank character = false
  /-- Of two endings `.git` only the second would be dropped. -/
  name_bare : ¬['.', 'g', 'i', 't'] <:+ name
  site_closed : ∀ last ∈ site.getLast?, last = '/'
  site_solid : ∀ first ∈ site.head?, isBlank first = false
  lead_blank : ∀ character ∈ lead, isBlank character = true
  trail_blank : ∀ character ∈ trail, isBlank character = true

namespace Spelling

/-- The name with the ending that it is written with. -/
def label (spelling : Spelling) : List Char :=
  spelling.name ++ if spelling.cloned then ['.', 'g', 'i', 't'] else []

/-- The address as it is written. -/
def text (spelling : Spelling) : List Char :=
  spelling.lead ++ (spelling.site ++ (spelling.owner ++ '/' :: spelling.label) ++
    List.replicate spelling.slashes '/') ++ spelling.trail

/-- The id of the project that is meant. -/
def id (spelling : Spelling) : List Char :=
  spelling.owner ++ '/' :: spelling.name

variable (spelling : Spelling)

theorem dropEnding_label : dropEnding ['.', 'g', 'i', 't'] spelling.label = spelling.name := by
  rw [label]
  split
  · exact dropEnding_append
  · rw [List.append_nil]
    exact dropEnding_of_not_suffix spelling.name_bare

theorem label_plain : ∀ character ∈ spelling.label,
    character ≠ '/' ∧ isBlank character = false := by
  intro character within
  rcases List.mem_append.1 within with ofName | ofEnding
  · exact spelling.name_plain character ofName
  · have ending : ∀ other ∈ ['.', 'g', 'i', 't'], other ≠ '/' ∧ isBlank other = false := by
      simp only [List.mem_cons, List.not_mem_nil, or_false, forall_eq_or_imp, forall_eq]
      decide
    split at ofEnding
    · exact ending character ofEnding
    · cases ofEnding

theorem ownerAndName?_text :
    ownerAndName? spelling.text = some (spelling.owner, spelling.name) := by
  rw [text, ← dropEnding_label]
  apply ownerAndName?_append spelling.lead_blank spelling.trail_blank spelling.site_closed
  case first =>
    intro character isFirst
    rw [List.head?_append] at isFirst
    rcases Option.or_eq_some_iff.1 isFirst with ofSite | ⟨-, ofOwner⟩
    · exact spelling.site_solid character ofSite
    · exact (spelling.owner_plain character (List.mem_of_mem_head? ofOwner)).2.2
  case solid =>
    intro character isLast
    rcases List.mem_append.1 (List.mem_of_getLast? isLast) with ofLabel | ofSlashes
    · exact (spelling.label_plain character ofLabel).2
    · rw [List.eq_of_mem_replicate ofSlashes]
      decide
  case ofOwner =>
    exact ⟨fun within => (spelling.owner_plain '/' within).1 rfl, spelling.owner_filled⟩
  case colonless => exact fun within => (spelling.owner_plain ':' within).2.1 rfl
  case whole => exact fun within => (spelling.label_plain '/' within).1 rfl
  case stem =>
    rw [dropEnding_label]
    exact spelling.name_filled

/-- **Every documented spelling of an owner and a name is an address of the project with the id
`owner/name`**, and the project's repository is looked up under this id, below the base of the
service without the slashes at its end. -/
theorem projectId?_text :
    projectId? (String.ofList spelling.text) = some (String.ofList spelling.id) ∧
    ∀ settings : HostSettings, ∃ (base : List Char) (slashes : Nat),
      settings.apiUrl.toList = base ++ List.replicate slashes '/' ∧ base.getLast? ≠ some '/' ∧
      Host.Client.repositoryUrl? settings (String.ofList spelling.text) =
        some (String.ofList (base ++ "/repos/".toList ++ spelling.id)) := by
  have found : projectId? (String.ofList spelling.text) = some (String.ofList spelling.id) := by
    rw [projectId?, String.toList_ofList, ownerAndName?_text]
    rfl
  refine ⟨found, fun settings => ?_⟩
  obtain ⟨slashes, cut, all⟩ := dropEndWhile_cut (· == '/') settings.apiUrl.toList
  refine ⟨dropEndWhile (· == '/') settings.apiUrl.toList, slashes.length, ?_, ?_, ?_⟩
  · rw [← List.eq_replicate_of_mem fun character within => by simpa using all character within]
    exact cut
  · intro ends
    have kept := dropEndWhile_eq_self.1
      (List.rdropWhile_idempotent (· == '/') settings.apiUrl.toList) '/' ends
    cases kept
  · rw [Host.Client.repositoryUrl?, found, Option.map_some, onString, String.ofList_append,
      String.ofList_append, String.ofList_toList]

/-- The address of a clone below a site, with a slash and blanks around it. -/
theorem projectId?_text_clone : ∃ spelling : Spelling,
    String.ofList spelling.text = " https://github.com/octo/demo.git/ " ∧
    projectId? " https://github.com/octo/demo.git/ " = some "octo/demo" := by
  let spelling : Spelling :=
    { owner := "octo".toList
      name := "demo".toList
      site := "https://github.com/".toList
      cloned := true
      slashes := 1
      lead := [' ']
      trail := [' ']
      owner_filled := by decide
      owner_plain := by
        simp only [String.reduceToList, List.mem_cons, List.not_mem_nil, or_false,
          forall_eq_or_imp, forall_eq]
        decide
      name_filled := by decide
      name_plain := by
        simp only [String.reduceToList, List.mem_cons, List.not_mem_nil, or_false,
          forall_eq_or_imp, forall_eq]
        decide
      name_bare := by decide
      site_closed := by rintro _ ⟨⟩; rfl
      site_solid := by rintro _ ⟨⟩; rfl
      lead_blank := List.forall_mem_singleton.2 rfl
      trail_blank := List.forall_mem_singleton.2 rfl }
  exact ⟨spelling, rfl, spelling.projectId?_text.1⟩

end Spelling

end Address

end SourceIndex
