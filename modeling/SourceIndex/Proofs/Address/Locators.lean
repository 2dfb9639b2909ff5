import SourceIndex.Proofs.Address.Canonical

/-!
# URLs as addresses

The last two segments of an address are its owner and its name, whatever they are segments of. In a
URL the segments of the path come after the host, and the host after the scheme with its colon
(`Address.Locator.ownerAndName?_text`). So the host is the last segment but one of a URL whose path
has one segment only, and it is taken for an owner unless it has a port.

Main statement: a URL names what the segments of its path say, except in two cases: its path has one
segment and its host has no port, or the owner has a colon. Then the host is the owner, or the URL
names nothing (`Address.Locator.names_path_iff`, `Address.Locator.names_path_host`).
-/

set_option autoImplicit false

namespace SourceIndex.Address

open Text

/-! ## The last two segments -/

/-- The last two of some segments, if there are two. -/
def lastTwo? (segments : List (List Char)) : Option (List Char × List Char) :=
  match segments.reverse with
  | name :: owner :: _ => some (owner, name)
  | _ => none

theorem lastTwo?_concat (earlier : List (List Char)) (owner name : List Char) :
    lastTwo? (earlier ++ [owner, name]) = some (owner, name) := by
  rw [lastTwo?, List.reverse_append]
  rfl

/-- There are no two last segments, or there are. -/
theorem lastTwo_cases (segments : List (List Char)) :
    segments = [] ∨ (∃ name, segments = [name]) ∨
      ∃ earlier owner name, segments = earlier ++ [owner, name] := by
  rcases List.eq_nil_or_concat segments with rfl | ⟨front, name, rfl⟩
  · exact .inl rfl
  · rcases List.eq_nil_or_concat front with rfl | ⟨earlier, owner, rfl⟩
    · exact .inr (.inl ⟨name, rfl⟩)
    · exact .inr (.inr ⟨earlier, owner, name, by simp⟩)

/-- What stands before two segments does not matter. -/
theorem lastTwo?_cons (first second : List Char) {segments : List (List Char)}
    (filled : segments ≠ []) :
    lastTwo? (first :: second :: segments) = lastTwo? (second :: segments) := by
  rcases lastTwo_cases (second :: segments) with none | ⟨name, one⟩ | ⟨earlier, owner, name, cut⟩
  · cases none
  · cases one
    exact absurd rfl filled
  · rw [cut, ← List.cons_append, lastTwo?_concat, lastTwo?_concat]

/-- The owner and the name are the last two segments of the core, if the owner has no colon. -/
theorem ownerAndName?_eq (address : List Char) :
    ownerAndName? address =
      (lastTwo? (Path.segments (core address))).filter fun pair => !pair.1.contains ':' := by
  rw [ownerAndName?, ← core, lastTwo?]
  rcases (Path.segments (core address)).reverse with _ | ⟨name, _ | ⟨owner, earlier⟩⟩
  · rfl
  · rfl
  · dsimp only
    rw [Option.filter_some]
    cases owner.contains ':' <;> rfl

/-! ## URLs -/

/-- A URL with blanks around it: a scheme, a host with or without a port, and a path, which is empty
or starts with a slash. -/
structure Locator where
  scheme : List Char
  host : List Char
  path : List Char
  /-- The blanks at the start. -/
  lead : List Char
  /-- The blanks at the end. -/
  trail : List Char
  scheme_whole : '/' ∉ scheme
  scheme_solid : StartsSolid scheme
  host_filled : host ≠ []
  host_whole : '/' ∉ host
  path_rooted : ∀ first ∈ path.head?, first = '/'
  solid : ∀ last ∈ (host ++ path).getLast?, isBlank last = false
  lead_blank : ∀ character ∈ lead, isBlank character = true
  trail_blank : ∀ character ∈ trail, isBlank character = true

namespace Locator

variable (locator : Locator)

/-- The URL as it is written. -/
def text : List Char :=
  locator.lead ++ (locator.scheme ++ ':' :: '/' :: '/' :: (locator.host ++ locator.path)) ++
    locator.trail

/-- The path without the slashes at its end. -/
def stem : List Char :=
  dropEndWhile (· == '/') locator.path

/-- The segments of the path; slashes at its end and one ending `.git` do not count. -/
def places : List (List Char) :=
  Path.segments (dropEnding ['.', 'g', 'i', 't'] locator.stem)

/-- The id that the segments of the path spell: their last two are the owner and the name. -/
def named? : Option String :=
  (lastTwo? locator.places).map fun pair => idOfPair pair.1 pair.2

/-- The path has one segment, and nothing tells the host before it from an owner. -/
def ShowsHost : Prop :=
  locator.places.length = 1 ∧ ':' ∉ locator.host

/-- The path has two segments or more, and the last but one has a colon. -/
def OwnerHasColon : Prop :=
  ∃ pair ∈ lastTwo? locator.places, ':' ∈ pair.1

instance : Decidable locator.ShowsHost :=
  inferInstanceAs (Decidable (_ ∧ _))

instance : Decidable locator.OwnerHasColon :=
  inferInstanceAs (Decidable (∃ pair ∈ lastTwo? locator.places, ':' ∈ pair.1))

/-! ## The core of a URL -/

theorem path_eq :
    ∃ slashes, locator.path = locator.stem ++ List.replicate slashes '/' := by
  obtain ⟨dropped, cut, all⟩ := dropEndWhile_cut (· == '/') locator.path
  refine ⟨dropped.length, ?_⟩
  rw [← List.eq_replicate_of_mem fun character within => by simpa using all character within]
  exact cut

theorem stem_unslashed : ∀ last ∈ locator.stem.getLast?, last ≠ '/' := by
  intro last isLast
  have kept := dropEndWhile_eq_self.1 (List.rdropWhile_idempotent (· == '/') locator.path)
  simpa using kept last isLast

/-- Without the slashes at its end the path is empty, or it starts with a slash still. -/
theorem stem_cases : locator.stem = [] ∨ ∃ rest, locator.stem = '/' :: rest := by
  obtain ⟨slashes, cut⟩ := locator.path_eq
  cases spelled : locator.stem with
  | nil => exact .inl rfl
  | cons first rest =>
    have isFirst : first ∈ locator.path.head? := by
      rw [cut, spelled]
      rfl
    exact .inr ⟨rest, by rw [locator.path_rooted first isFirst]⟩

theorem getLast?_host_stem : ∀ last ∈ (locator.host ++ locator.stem).getLast?, last ≠ '/' := by
  intro last isLast
  rw [List.getLast?_append] at isLast
  rcases Option.or_eq_some_iff.1 isLast with ofStem | ⟨-, ofHost⟩
  · exact locator.stem_unslashed last ofStem
  · rintro rfl
    exact locator.host_whole (List.mem_of_getLast? ofHost)

theorem core_text :
    core locator.text = locator.scheme ++ [':'] ++
      '/' :: '/' :: dropEnding ['.', 'g', 'i', 't'] (locator.host ++ locator.stem) := by
  obtain ⟨slashes, cut⟩ := locator.path_eq
  have filled : locator.host ++ locator.stem ≠ [] := by simp [locator.host_filled]
  have spelled : locator.text = locator.lead ++
      (locator.scheme ++ ':' :: '/' :: '/' :: (locator.host ++ locator.stem) ++
        List.replicate slashes '/') ++ locator.trail := by
    rw [text, cut]
    simp
  rw [spelled, core_append _ _ _ (by simp) locator.lead_blank locator.trail_blank]
  · have slashed : locator.scheme ++ ':' :: '/' :: '/' :: (locator.host ++ locator.stem) =
        locator.scheme ++ [':', '/'] ++ '/' :: (locator.host ++ locator.stem) := by simp
    rw [slashed, dropEnding_path (by decide)]
    simp
  · intro first isFirst
    rw [List.head?_append] at isFirst
    rcases Option.or_eq_some_iff.1 isFirst with ofScheme | ⟨-, isColon⟩
    · exact locator.scheme_solid first ofScheme
    · cases isColon
      decide
  · intro last isLast
    rw [List.getLast?_append_cons, List.getLast?_cons_of_ne_nil (by simp),
      List.getLast?_cons_of_ne_nil (by simp), List.getLast?_cons_of_ne_nil filled] at isLast
    exact locator.getLast?_host_stem last isLast
  · intro last isLast
    rw [List.append_assoc, List.cons_append, List.cons_append, List.cons_append, List.append_assoc,
      ← cut, List.getLast?_append_cons, List.getLast?_cons_of_ne_nil (by simp),
      List.getLast?_cons_of_ne_nil (by simp),
      List.getLast?_cons_of_ne_nil (by simp [locator.host_filled])] at isLast
    exact locator.solid last isLast

/-- The segments of a URL are its scheme with the colon, its host, and those of its path. A host at
the end may lose an ending `.git`, and with it all that it is. -/
theorem segments_core_text :
    ∃ hosts : List (List Char), hosts.length ≤ 1 ∧ (locator.places ≠ [] → hosts = [locator.host]) ∧
      Path.segments (core locator.text) =
        (locator.scheme ++ [':']) :: (hosts ++ locator.places) := by
  have schemed : Path.segments (locator.scheme ++ [':']) = [locator.scheme ++ [':']] :=
    Path.segments_of_notMem (by simp [locator.scheme_whole]) (by simp)
  rw [core_text, Path.segments_append, schemed, List.singleton_append,
    ← List.nil_append ('/' :: dropEnding _ _), Path.segments_append,
    show Path.segments [] = [] from rfl, List.nil_append]
  rcases locator.stem_cases with empty | ⟨rest, spelled⟩
  · have whole : '/' ∉ dropEnding ['.', 'g', 'i', 't'] locator.host :=
      fun within => locator.host_whole (dropEnding_isPrefix.subset within)
    have placeless : locator.places = [] := by
      rw [places, empty]
      rfl
    rw [placeless, empty, List.append_nil]
    refine ⟨Path.segments (dropEnding ['.', 'g', 'i', 't'] locator.host), ?_, by simp, by simp⟩
    by_cases gone : dropEnding ['.', 'g', 'i', 't'] locator.host = []
    · rw [gone]
      exact Nat.zero_le 1
    · rw [Path.segments_of_notMem whole gone]
      exact Nat.le_refl 1
  · have placed : locator.places = Path.segments (dropEnding ['.', 'g', 'i', 't'] rest) := by
      rw [places, spelled, ← List.nil_append ('/' :: rest), dropEnding_path (by decide),
        Path.segments_append]
      rfl
    refine ⟨[locator.host], Nat.le_refl 1, fun _ => rfl, ?_⟩
    rw [spelled, dropEnding_path (by decide), Path.segments_append,
      Path.segments_of_notMem locator.host_whole locator.host_filled, placed]

/-- **A URL is read from its host and the segments of its path.** -/
theorem ownerAndName?_text :
    ownerAndName? locator.text =
      (lastTwo? (locator.host :: locator.places)).filter fun pair => !pair.1.contains ':' := by
  obtain ⟨hosts, single, hosted, cut⟩ := locator.segments_core_text
  rw [ownerAndName?_eq, cut]
  by_cases placeless : locator.places = []
  · -- The scheme is the last segment but one at most, and it has a colon.
    rw [placeless, List.append_nil, show lastTwo? [locator.host] = none from rfl,
      Option.filter_none]
    rcases hosts with _ | ⟨host, _ | ⟨other, more⟩⟩
    · rfl
    · rw [show lastTwo? [locator.scheme ++ [':'], host] = some (locator.scheme ++ [':'], host)
        from rfl, Option.filter_some]
      simp
    · simp at single
  · rw [hosted placeless, List.singleton_append, lastTwo?_cons _ _ placeless]

/-! ## What a URL names -/

theorem projectId?_eq :
    projectId? (String.ofList locator.text) =
      ((lastTwo? (locator.host :: locator.places)).filter fun pair => !pair.1.contains ':').map
        fun pair => idOfPair pair.1 pair.2 := by
  rw [projectId?, String.toList_ofList, ownerAndName?_text]
  rfl

theorem projectId?_of_placeless (placeless : locator.places = []) :
    projectId? (String.ofList locator.text) = none := by
  rw [projectId?_eq, placeless]
  rfl

/-- With one segment the host is the last segment but one. -/
theorem projectId?_of_place {name : List Char} (placed : locator.places = [name]) :
    projectId? (String.ofList locator.text) =
      if ':' ∈ locator.host then none else some (idOfPair locator.host name) := by
  rw [projectId?_eq, placed,
    show lastTwo? [locator.host, name] = some (locator.host, name) from rfl, Option.filter_some]
  by_cases port : ':' ∈ locator.host
  · simp [port]
  · simp [port]

/-- With two segments or more the host does not matter. -/
theorem projectId?_of_places {earlier : List (List Char)} {owner name : List Char}
    (placed : locator.places = earlier ++ [owner, name]) :
    projectId? (String.ofList locator.text) =
      if ':' ∈ owner then none else some (idOfPair owner name) := by
  rw [projectId?_eq, placed, ← List.cons_append, lastTwo?_concat, Option.filter_some]
  by_cases colon : ':' ∈ owner
  · simp [colon]
  · simp [colon]

/-- **A URL names what the segments of its path spell, unless its path has one segment and its host
no port, or the owner has a colon.** In the one case the host is the owner, and in the other the URL
names nothing. -/
theorem names_path_iff :
    (projectId? (String.ofList locator.text) = locator.named? ↔
        ¬locator.ShowsHost ∧ ¬locator.OwnerHasColon) ∧
      (locator.ShowsHost → ∃ name, locator.places = [name] ∧
        projectId? (String.ofList locator.text) = some (idOfPair locator.host name)) ∧
      (locator.OwnerHasColon → projectId? (String.ofList locator.text) = none) := by
  rcases lastTwo_cases locator.places with
    placed | ⟨name, placed⟩ | ⟨earlier, owner, name, placed⟩
  · have hidden : ¬locator.ShowsHost := by simp [ShowsHost, placed]
    have plain : ¬locator.OwnerHasColon := by simp [OwnerHasColon, placed, lastTwo?]
    have pathless : locator.named? = none := by rw [named?, placed]; rfl
    rw [locator.projectId?_of_placeless placed, pathless]
    exact ⟨iff_of_true rfl ⟨hidden, plain⟩, fun shown => absurd shown hidden, fun _ => rfl⟩
  · have shows : locator.ShowsHost ↔ ':' ∉ locator.host := by simp [ShowsHost, placed]
    have plain : ¬locator.OwnerHasColon := by simp [OwnerHasColon, placed, lastTwo?]
    have pathless : locator.named? = none := by rw [named?, placed]; rfl
    rw [locator.projectId?_of_place placed, pathless, shows]
    by_cases port : ':' ∈ locator.host
    · rw [if_pos port]
      exact ⟨iff_of_true rfl ⟨not_not_intro port, plain⟩, fun bare => absurd port bare,
        fun _ => rfl⟩
    · rw [if_neg port]
      exact ⟨iff_of_false nofun fun hidden => hidden.1 port, fun _ => ⟨name, placed, rfl⟩,
        fun colon => absurd colon plain⟩
  · have hidden : ¬locator.ShowsHost := by simp [ShowsHost, placed]
    have colon : locator.OwnerHasColon ↔ ':' ∈ owner := by
      simp [OwnerHasColon, placed, lastTwo?_concat]
    have spelled : locator.named? = some (idOfPair owner name) := by
      rw [named?, placed, lastTwo?_concat]
      rfl
    rw [locator.projectId?_of_places placed, spelled, colon]
    by_cases has : ':' ∈ owner
    · rw [if_pos has]
      exact ⟨iff_of_false nofun fun plain => plain.2 has, fun shown => absurd shown hidden,
        fun _ => rfl⟩
    · rw [if_neg has]
      exact ⟨iff_of_true rfl ⟨hidden, has⟩, fun shown => absurd shown hidden,
        fun other => absurd other has⟩

/-! ## URLs of one service -/

/-- The URL of what is at a path of the service. -/
def hosted (path : List Char) (rooted : ∀ first ∈ path.head?, first = '/')
    (solid : ∀ last ∈ ("github.com".toList ++ path).getLast?, isBlank last = false) : Locator where
  scheme := "https".toList
  host := "github.com".toList
  path := path
  lead := []
  trail := []
  scheme_whole := by decide
  scheme_solid := by rintro _ ⟨⟩; rfl
  host_filled := by decide
  host_whole := by decide
  path_rooted := rooted
  solid := solid
  lead_blank := by simp
  trail_blank := by simp

/-- A clone URL with a slash at its end names what its path says, one whose path has one segment
names the host, and one whose owner has a colon names nothing. -/
theorem names_path_clone :
    projectId? "https://github.com/octo/demo.git/" = some "octo/demo" ∧
      projectId? "https://github.com/demo" = some "github.com/demo" ∧
      projectId? "https://github.com/octo:x/demo" = none := by
  refine ⟨?_, ?_, ?_⟩
  · let clone := hosted "/octo/demo.git/".toList (by rintro _ ⟨⟩; rfl) (by rintro _ ⟨⟩; rfl)
    have named : projectId? (String.ofList clone.text) = clone.named? :=
      clone.names_path_iff.1.2 ⟨by decide, by decide⟩
    exact named.trans (by decide)
  · let lone := hosted "/demo".toList (by rintro _ ⟨⟩; rfl) (by rintro _ ⟨⟩; rfl)
    obtain ⟨name, placed, named⟩ := lone.names_path_iff.2.1 (by decide)
    have same : ["demo".toList] = [name] := placed
    cases same
    exact named
  · let odd := hosted "/octo:x/demo".toList (by rintro _ ⟨⟩; rfl) (by rintro _ ⟨⟩; rfl)
    exact odd.names_path_iff.2.2 (by decide)

/-- **The host of a URL whose path has one segment is taken for an owner**, although the path names
none. -/
theorem names_path_host :
    ∃ locator : Locator, String.ofList locator.text = "https://github.com/demo" ∧
      locator.named? = none ∧
      projectId? "https://github.com/demo" = some "github.com/demo" :=
  ⟨hosted "/demo".toList (by rintro _ ⟨⟩; rfl) (by rintro _ ⟨⟩; rfl), rfl, by decide, by decide⟩

end Locator

end SourceIndex.Address
