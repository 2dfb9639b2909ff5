import Mathlib.Algebra.Order.BigOperators.Group.List
import Mathlib.Algebra.Order.Ring.Nat
import SourceIndex.Proofs.Address.Spelling
import SourceIndex.Settings

/-!
# Ids as addresses

The id of a project is itself an address, and so is the URL of its repository, but not always of
the same project: what does not count at the ends of an address is dropped once, so the name that is
left may end with a blank or with `.git` again, and the owner may start with a blank. An id that is
read again loses these too.

Main statement: an id names its project exactly if its owner does not start with a blank and its
name ends neither with a blank nor with `.git`; for the URL of the repository only the name matters,
since the URL starts with the base of the service (`Address.reread_iff`).
-/

set_option autoImplicit false

namespace SourceIndex

/-! ## Lengths of segments -/

theorem sum_length_splitOn (separator : Char) (items : List Char) :
    ((items.splitOn separator).map fun piece => piece.length + 1).sum = items.length + 1 := by
  rw [List.splitOn_eq_splitOnP]
  induction items with
  | nil => rfl
  | cons item rest ih =>
    rw [List.splitOnP_cons_eq_if_modifyHead]
    split
    · rw [List.map_cons, List.sum_cons, ih, List.length_nil, List.length_cons]
      omega
    · obtain ⟨first, others, cut⟩ := List.exists_cons_of_ne_nil
        (List.splitOnP_ne_nil (· == separator) rest)
      rw [cut, List.map_cons, List.sum_cons] at ih
      rw [cut, List.modifyHead_cons, List.map_cons, List.sum_cons, List.length_cons,
        List.length_cons]
      omega

/-- A path is at least as long as two segments of it with a separator between them. -/
theorem Path.length_le_of_segments {path owner name : List Char} {earlier : List (List Char)}
    (cut : segments path = earlier ++ [owner, name]) :
    (owner ++ '/' :: name).length ≤ path.length := by
  have kept : (segments path).Sublist (path.splitOn '/') := List.filter_sublist
  have bound := (kept.map fun piece => piece.length + 1).sum_le_sum fun _ _ => Nat.zero_le _
  rw [sum_length_splitOn, cut, List.map_append, List.sum_append] at bound
  simp only [List.map_cons, List.map_nil, List.sum_cons, List.sum_nil] at bound
  rw [List.length_append, List.length_cons]
  omega

namespace Address

open Text

/-! ## Owners and names -/

/-- An owner and a name as an address can have them. -/
structure IsPair (owner name : List Char) : Prop where
  ofOwner : '/' ∉ owner ∧ owner ≠ []
  colonless : ':' ∉ owner
  ofName : '/' ∉ name ∧ name ≠ []

theorem isPair_of_ownerAndName? {address owner name : List Char}
    (found : ownerAndName? address = some (owner, name)) : IsPair owner name := by
  obtain ⟨colonless, earlier, cut⟩ := ownerAndName?_eq_some.1 found
  have segment : ∀ piece ∈ [owner, name], '/' ∉ piece ∧ piece ≠ [] := fun piece within =>
    Path.of_mem_segments (by rw [cut]; exact List.mem_append_right earlier within)
  exact ⟨segment owner (by simp), colonless, segment name (by simp)⟩

/-- The id of an owner and a name. -/
def idOfPair (owner name : List Char) : String :=
  String.ofList (owner ++ '/' :: name)

/-- An address has the id of an owner and a name exactly if these are its owner and its name. -/
theorem projectId?_eq_some {owner name : List Char} (pair : IsPair owner name) (address : String) :
    projectId? address = some (idOfPair owner name) ↔
      ownerAndName? address.toList = some (owner, name) := by
  constructor
  · intro found
    obtain ⟨⟨other, label⟩, parts, same⟩ := Option.map_eq_some_iff.1 found
    obtain ⟨rfl, rfl⟩ := append_separator_inj (isPair_of_ownerAndName? parts).ofOwner.1
      pair.ofOwner.1 (String.ofList_inj.1 same)
    exact parts
  · intro found
    rw [projectId?, found]
    rfl

/-! ## What is dropped -/

/-- Nothing is dropped from the start of a text. -/
def StartsSolid (text : List Char) : Prop :=
  ∀ first ∈ text.head?, isBlank first = false

/-- Nothing is dropped from the end of a name. -/
def EndsSolid (name : List Char) : Prop :=
  (∀ last ∈ name.getLast?, isBlank last = false) ∧ ¬['.', 'g', 'i', 't'] <:+ name

theorem startsSolid_append {owner : List Char} (filled : owner ≠ []) (rest : List Char) :
    StartsSolid (owner ++ rest) ↔ StartsSolid owner := by
  rw [StartsSolid, List.head?_append_of_ne_nil _ filled, StartsSolid]

theorem endsSolid_path {name : List Char} (filled : name ≠ []) (before : List Char) :
    EndsSolid (before ++ '/' :: name) ↔ EndsSolid name := by
  rw [EndsSolid, suffix_path (by decide), List.getLast?_append_cons,
    List.getLast?_cons_of_ne_nil filled, EndsSolid]

theorem trimStart_eq_self {text : List Char} (kept : trimStart text = text) : StartsSolid text := by
  cases text with
  | nil => simp [StartsSolid]
  | cons first rest =>
    have solid := List.dropWhile_eq_self_iff.1 kept (by simp)
    simpa [StartsSolid] using solid

/-- A text that does not end with a slash is its own core exactly if nothing is dropped from either
end of it. -/
theorem core_eq_self {text : List Char} (filled : text ≠ [])
    (unslashed : ∀ last ∈ text.getLast?, last ≠ '/') :
    core text = text ↔ StartsSolid text ∧ EndsSolid text := by
  have closing : core text <+: dropEndWhile isBlank (trimStart text) :=
    dropEnding_isPrefix.trans dropEndWhile_isPrefix
  constructor
  · -- Every step drops something or nothing, and all of them together drop nothing.
    intro kept
    rw [kept] at closing
    have started : trimStart text = text :=
      (List.dropWhile_sublist isBlank).antisymm
        (closing.sublist.trans dropEndWhile_isPrefix.sublist)
    rw [started] at closing
    have ended : dropEndWhile isBlank text = text :=
      dropEndWhile_isPrefix.sublist.antisymm closing.sublist
    have slashed : dropEndWhile (· == '/') text = text := by
      refine dropEndWhile_eq_self.2 ?_
      intro last isLast
      simpa using unslashed last isLast
    rw [core, trim, started, ended, slashed] at kept
    exact ⟨trimStart_eq_self started, dropEndWhile_eq_self.1 ended,
      (dropEnding_eq_self (by simp)).1 kept⟩
  · rintro ⟨starts, solid, other⟩
    have cored := core_append [] [] 0 filled (by simp) (by simp) starts
      unslashed (by simpa using solid)
    rw [List.replicate_zero, List.append_nil, List.append_nil, List.nil_append] at cored
    rw [cored, dropEnding_of_not_suffix other]

/-! ## An id read again -/

variable {owner name : List Char}

theorem getLast?_of_isPair (pair : IsPair owner name) (before : List Char) :
    ∀ last ∈ (before ++ '/' :: name).getLast?, last ≠ '/' := by
  intro last isLast
  rw [List.getLast?_append_cons, List.getLast?_cons_of_ne_nil pair.ofName.2] at isLast
  rintro rfl
  exact pair.ofName.1 (List.mem_of_getLast? isLast)

/-- An id has itself as its id exactly if nothing is dropped from its ends: whatever is dropped, the
owner and the name that are left are too short together. -/
theorem ownerAndName?_self (pair : IsPair owner name) :
    ownerAndName? (owner ++ '/' :: name) = some (owner, name) ↔
      StartsSolid owner ∧ EndsSolid name := by
  have whole : core (owner ++ '/' :: name) = owner ++ '/' :: name ↔
      StartsSolid owner ∧ EndsSolid name := by
    rw [core_eq_self (by simp) (getLast?_of_isPair pair owner),
      startsSolid_append pair.ofOwner.2, endsSolid_path pair.ofName.2]
  rw [← whole]
  constructor
  · intro found
    obtain ⟨-, earlier, cut⟩ := ownerAndName?_eq_some.1 found
    have shorter : (core (owner ++ '/' :: name)).Sublist (owner ++ '/' :: name) :=
      (dropEnding_isPrefix.trans (dropEndWhile_isPrefix.trans dropEndWhile_isPrefix)).sublist.trans
        (List.dropWhile_sublist isBlank)
    exact shorter.eq_of_length_le (Path.length_le_of_segments cut)
  · intro kept
    refine ownerAndName?_eq_some.2 ⟨pair.colonless, [], ?_⟩
    rw [kept]
    exact Path.segments_pair pair.ofOwner pair.ofName

/-! ## The URL of a repository read again -/

/-- The segments of a text below the repositories of a service. -/
theorem segments_repos (base rest : List Char) :
    Path.segments (base ++ '/' :: ("repos".toList ++ '/' :: rest)) =
      Path.segments base ++ "repos".toList :: Path.segments rest := by
  have repos : Path.segments "repos".toList = ["repos".toList] :=
    Path.segments_of_notMem (by decide) (by decide)
  rw [Path.segments_append, Path.segments_append, repos, List.singleton_append]

/-- What ends an address below the repositories of a service does not count for its segments. -/
theorem segments_core_repos {base piece trail : List Char} (slashes : Nat)
    (starts : StartsSolid base) (filled : piece ≠ [])
    (trailing : ∀ character ∈ trail, isBlank character = true)
    (unslashed : ∀ last ∈ piece.getLast?, last ≠ '/')
    (solid : ∀ character ∈ (piece ++ List.replicate slashes '/').getLast?,
      isBlank character = false) :
    Path.segments (core (base ++ '/' :: ("repos".toList ++ '/' :: piece) ++
        List.replicate slashes '/' ++ trail)) =
      Path.segments base ++
        "repos".toList :: Path.segments (dropEnding ['.', 'g', 'i', 't'] piece) := by
  have cored : core ([] ++ (base ++ '/' :: ("repos".toList ++ '/' :: piece) ++
      List.replicate slashes '/') ++ trail) = _ :=
    core_append [] trail slashes (by simp) (by simp) trailing ?first ?last ?solid
  · rw [List.nil_append] at cored
    rw [cored, dropEnding_path (by decide), dropEnding_path (by decide), segments_repos]
  case first =>
    intro character isFirst
    rw [List.head?_append] at isFirst
    rcases Option.or_eq_some_iff.1 isFirst with ofBase | ⟨-, isSlash⟩
    · exact starts character ofBase
    · cases isSlash
      decide
  case last =>
    intro character isLast
    rw [List.getLast?_append_cons, List.getLast?_cons_of_ne_nil (by simp),
      List.getLast?_append_cons, List.getLast?_cons_of_ne_nil filled] at isLast
    exact unslashed character isLast
  case solid =>
    intro character isLast
    rw [List.append_assoc, List.cons_append, List.getLast?_append_cons,
      List.getLast?_cons_of_ne_nil (by simp), List.append_assoc, List.cons_append,
      List.getLast?_append_cons, List.getLast?_cons_of_ne_nil (by simp [filled])] at isLast
    exact solid character isLast

/-- The segments of an owner and a name below the repositories of a service, with blanks at the
end. -/
theorem segments_core_named {base : List Char} (dropped : List Char) (starts : StartsSolid base)
    (pair : IsPair owner name) (solid : ∀ last ∈ name.getLast?, isBlank last = false)
    (blank : ∀ character ∈ dropped, isBlank character = true) :
    Path.segments (core (base ++ '/' :: ("repos".toList ++ '/' :: (owner ++ '/' :: name)) ++
        dropped)) =
      Path.segments base ++ "repos".toList ::
        Path.segments (owner ++ '/' :: dropEnding ['.', 'g', 'i', 't'] name) := by
  have cored := segments_core_repos 0 starts (by simp) blank (getLast?_of_isPair pair owner) ?solid
  · rw [List.replicate_zero, List.append_nil, dropEnding_path (by decide)] at cored
    exact cored
  case solid =>
    intro last isLast
    rw [List.replicate_zero, List.append_nil, List.getLast?_append_cons,
      List.getLast?_cons_of_ne_nil pair.ofName.2] at isLast
    exact solid last isLast

/-- With at most one segment below the repositories, the last two segments have `repos` among
them. -/
theorem repos_of_short {base rest : List Char} {earlier : List (List Char)} (whole : '/' ∉ rest)
    (cut : Path.segments base ++ "repos".toList :: Path.segments rest = earlier ++ [owner, name]) :
    name = "repos".toList ∨ owner = "repos".toList ∧ name = rest := by
  by_cases empty : rest = []
  · rw [empty, show Path.segments [] = [] from rfl] at cut
    have last := congrArg List.getLast? cut
    left
    simpa using last.symm
  · rw [Path.segments_of_notMem whole empty] at cut
    obtain ⟨-, same⟩ := List.append_inj' cut rfl
    cases same
    exact .inr ⟨rfl, rfl⟩

theorem endsSolid_repos : EndsSolid "repos".toList :=
  ⟨by rintro _ ⟨⟩; rfl, by decide⟩

/-- A name that is dropped altogether leaves `repos` among the last two segments, so it is not the
name that is read. -/
theorem endsSolid_of_blank {base : List Char} {earlier : List (List Char)}
    (starts : StartsSolid base) (pair : IsPair owner name)
    (blank : ∀ character ∈ name, isBlank character = true)
    (cut : Path.segments (core (base ++ '/' :: ("repos".toList ++ '/' :: (owner ++ '/' :: name)))) =
      earlier ++ [owner, name]) : EndsSolid name := by
  have cored := segments_core_repos 1 starts pair.ofOwner.2 blank ?unslashed ?solid
  · have spelled : base ++ '/' :: ("repos".toList ++ '/' :: owner) ++ List.replicate 1 '/' ++ name =
        base ++ '/' :: ("repos".toList ++ '/' :: (owner ++ '/' :: name)) := by simp
    rw [spelled, cut] at cored
    have whole : '/' ∉ dropEnding ['.', 'g', 'i', 't'] owner :=
      fun within => pair.ofOwner.1 (dropEnding_isPrefix.subset within)
    rcases repos_of_short whole cored.symm with rfl | ⟨rfl, rfl⟩
    · exact endsSolid_repos
    · exact endsSolid_repos
  case unslashed =>
    rintro last isLast rfl
    exact pair.ofOwner.1 (List.mem_of_getLast? isLast)
  case solid =>
    intro last isLast
    rw [List.replicate_one, List.getLast?_concat] at isLast
    cases isLast
    decide

/-- If a name with blanks at its end is read as it is, there are no blanks and no ending. -/
theorem endsSolid_of_read {base dropped : List Char} {earlier : List (List Char)}
    (starts : StartsSolid base) (pair : IsPair owner name)
    (solid : ∀ last ∈ name.getLast?, isBlank last = false)
    (blank : ∀ character ∈ dropped, isBlank character = true)
    (cut : Path.segments (core (base ++ '/' :: ("repos".toList ++ '/' :: (owner ++ '/' :: name)) ++
      dropped)) = earlier ++ [owner, name ++ dropped]) : EndsSolid (name ++ dropped) := by
  have read := segments_core_named dropped starts pair solid blank
  rw [cut] at read
  by_cases gone : dropEnding ['.', 'g', 'i', 't'] name = []
  · rw [gone, Path.segments_append, show Path.segments [] = [] from rfl, List.append_nil] at read
    rcases repos_of_short pair.ofOwner.1 read.symm with same | ⟨same, ofOwner⟩
    · exact same ▸ endsSolid_repos
    · rw [ofOwner, same]
      exact endsSolid_repos
  · have whole : '/' ∉ dropEnding ['.', 'g', 'i', 't'] name :=
      fun within => pair.ofName.1 (dropEnding_isPrefix.subset within)
    rw [Path.segments_pair pair.ofOwner ⟨whole, gone⟩,
      List.append_cons (Path.segments base)] at read
    obtain ⟨-, same⟩ := List.append_inj' read rfl
    have kept : name ++ dropped = dropEnding ['.', 'g', 'i', 't'] name := by simpa using same
    have shorter : dropEnding ['.', 'g', 'i', 't'] name <+: name := dropEnding_isPrefix
    have nothing : dropped = [] := by
      have lengths := congrArg List.length kept
      rw [List.length_append] at lengths
      exact List.eq_nil_of_length_eq_zero (by have := shorter.length_le; omega)
    rw [nothing, List.append_nil] at kept ⊢
    exact ⟨solid, (dropEnding_eq_self (by simp)).1 kept.symm⟩

/-- **The URL of a repository names the project exactly if nothing is dropped from the end of the
name.** -/
theorem ownerAndName?_below {base : List Char} (starts : StartsSolid base)
    (pair : IsPair owner name) :
    ownerAndName? (base ++ '/' :: ("repos".toList ++ '/' :: (owner ++ '/' :: name))) =
      some (owner, name) ↔ EndsSolid name := by
  rw [ownerAndName?_eq_some]
  constructor
  · rintro ⟨-, earlier, cut⟩
    obtain ⟨dropped, split, blank⟩ := dropEndWhile_cut isBlank name
    have solid := dropEndWhile_eq_self.1 (List.rdropWhile_idempotent isBlank name)
    rw [show List.rdropWhile isBlank name = dropEndWhile isBlank name from rfl] at solid
    generalize dropEndWhile isBlank name = label at split solid
    by_cases empty : label = []
    · rw [empty, List.nil_append] at split
      exact endsSolid_of_blank starts pair (split ▸ blank) cut
    · subst split
      have labelled : IsPair owner label :=
        ⟨pair.ofOwner, pair.colonless,
          fun within => pair.ofName.1 (List.mem_append_left dropped within), empty⟩
      exact endsSolid_of_read starts labelled solid blank (by simpa using cut)
  · rintro ⟨solid, other⟩
    have read := segments_core_named [] starts pair solid (by simp)
    rw [List.append_nil, dropEnding_of_not_suffix other,
      Path.segments_pair pair.ofOwner pair.ofName] at read
    refine ⟨pair.colonless, Path.segments base ++ ["repos".toList], ?_⟩
    rw [read, List.append_assoc, List.singleton_append]

/-! ## Ids and URLs of projects -/

/-- The base of a service that settings may name does not start with a blank. -/
theorem startsSolid_base {url : String} (web : Settings.isWebUrl url = true) :
    StartsSolid (dropEndWhile (· == '/') url.toList) := by
  have http : ∀ first ∈ url.toList.head?, first = 'h' := by
    rw [Settings.isWebUrl, Bool.or_eq_true, List.isPrefixOf_iff_prefix,
      List.isPrefixOf_iff_prefix] at web
    rcases web with ⟨rest, spelled⟩ | ⟨rest, spelled⟩
    · rw [← spelled]
      simp
    · rw [← spelled]
      simp
  obtain ⟨dropped, split, -⟩ := dropEndWhile_cut (· == '/') url.toList
  intro first isFirst
  have ofUrl : first ∈ url.toList.head? := by
    rw [split, List.head?_append, Option.mem_def.1 isFirst]
    rfl
  rw [http first ofUrl]
  decide

/-- **An id that is read again is the same id exactly if its owner does not start with a blank and
its name ends neither with a blank nor with `.git`.** For the URL of the project's repository only
the name matters, whatever base the settings name. -/
theorem reread_iff {address id : String} (named : projectId? address = some id) :
    ∃ owner name, IsPair owner name ∧ id = idOfPair owner name ∧
      (projectId? id = some id ↔ StartsSolid owner ∧ EndsSolid name) ∧
      ∀ settings : Settings, Settings.check settings = .ok settings →
        ∃ url, Host.Client.repositoryUrl? settings.host address = some url ∧
          (projectId? url = some id ↔ EndsSolid name) := by
  obtain ⟨⟨owner, name⟩, parts, rfl⟩ := Option.map_eq_some_iff.1 named
  have pair := isPair_of_ownerAndName? parts
  refine ⟨owner, name, pair, rfl, ?_, ?_⟩
  · rw [← ownerAndName?_self pair]
    have self := projectId?_eq_some pair (idOfPair owner name)
    rwa [idOfPair, String.toList_ofList] at self
  · intro settings accepted
    obtain ⟨-, -, -, -, web⟩ := (Settings.check_eq_ok_iff settings).1 accepted
    let base := dropEndWhile (· == '/') settings.host.apiUrl.toList
    have spelled : (String.ofList base ++ "/repos/" ++ idOfPair owner name).toList =
        base ++ '/' :: ("repos".toList ++ '/' :: (owner ++ '/' :: name)) := by
      simp [idOfPair]
    refine ⟨String.ofList base ++ "/repos/" ++ idOfPair owner name, ?_, ?_⟩
    · rw [Host.Client.repositoryUrl?, named]
      rfl
    · rw [← ownerAndName?_below (startsSolid_base web) pair, ← spelled]
      exact projectId?_eq_some pair _

/-- A clone URL has an id that names the same project. -/
theorem reread_iff_clone :
    projectId? "https://github.com/octo/demo.git" = some "octo/demo" ∧
    projectId? "octo/demo" = some "octo/demo" := by
  have named : projectId? "https://github.com/octo/demo.git" = some "octo/demo" := by decide
  obtain ⟨owner, name, pair, spelled, self, -⟩ := reread_iff named
  have parts : "octo".toList ++ '/' :: "demo".toList = owner ++ '/' :: name :=
    String.ofList_inj.1 spelled
  obtain ⟨rfl, rfl⟩ := append_separator_inj (by decide) pair.ofOwner.1 parts
  exact ⟨named, self.2 ⟨by rintro _ ⟨⟩; rfl, by rintro _ ⟨⟩; rfl, by decide⟩⟩

/-- An address that ends with `.git` twice names a project whose id, and the URL of whose
repository, are addresses of another one. -/
theorem reread_doubled :
    projectId? "o/p.git.git" = some "o/p.git" ∧ projectId? "o/p.git" = some "o/p" ∧
    Host.Client.repositoryUrl? HostSettings.standard "o/p.git.git" =
      some "https://api.github.com/repos/o/p.git" ∧
    projectId? "https://api.github.com/repos/o/p.git" = some "o/p" := by
  decide

end Address

end SourceIndex
