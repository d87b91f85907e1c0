import LayerLint.Proofs.NormalPath
import LayerLint.Proofs.SourceFiles

/-!
# The names of collected files

On a disk all of whose entries have names that files can have, following links keeps to such names, and
so do the files that are collected. Therefore the path of a collected file can be read back from its text,
and a path that meets no link is left as it is when its links are followed.
-/

namespace LayerLint

/-- A name that an entry of a directory can have. -/
structure IsFileName (name : String) : Prop where
  nonempty : name ≠ ""
  notDot : name ≠ "."
  notParent : name ≠ ".."
  noSlash : '/' ∉ name.toList

instance (name : String) : Decidable (IsFileName name) :=
  decidable_of_iff (name ≠ "" ∧ name ≠ "." ∧ name ≠ ".." ∧ '/' ∉ name.toList)
    ⟨fun ⟨nonempty, notDot, notParent, noSlash⟩ => ⟨nonempty, notDot, notParent, noSlash⟩,
      fun ⟨nonempty, notDot, notParent, noSlash⟩ => ⟨nonempty, notDot, notParent, noSlash⟩⟩

theorem mem_of_lookup {α β : Type} [BEq α] [LawfulBEq α] {entries : List (α × β)} {key : α}
    {value : β} (listed : entries.lookup key = some value) : (key, value) ∈ entries := by
  obtain ⟨before, after, rfl, -⟩ := List.lookup_eq_some_iff.mp listed
  exact List.mem_append_right before List.mem_cons_self

namespace DiskPath

open Segments

theorem absolute_names {path : DiskPath} (isAbsolute : path.root = .single) :
    absolute path.names = path := by
  obtain ⟨root, names⟩ := path
  cases isAbsolute
  rfl

theorem toList_render_absolute (names : List String) :
    (absolute names).render.toList = '/' :: ['/'].intercalate (names.map String.toList) := by
  have text : (String.ofList NormalPath.Root.single.slashes ++
      String.intercalate "/" names).toList = '/' :: ['/'].intercalate (names.map String.toList) := by
    rw [String.toList_append, String.toList_intercalate]
    rfl
  unfold render absolute
  split
  next empty =>
    rw [empty] at text
    exact nomatch text
  next => exact text

theorem isFileName_of_mem_namesOf {text name : String} (member : name ∈ namesOf text) :
    name = ".." ∨ IsFileName name := by
  rw [namesOf, List.mem_filter] at member
  obtain ⟨found, kept⟩ := member
  obtain ⟨segment, isSegment, rfl⟩ := List.mem_map.mp found
  have noSlash : '/' ∉ (String.ofList segment).toList := by
    rw [String.toList_ofList]
    exact (of_mem_splitOn isSegment).1
  by_cases isParent : String.ofList segment = ".."
  · exact .inl isParent
  · simp only [Bool.and_eq_true, bne_iff_ne] at kept
    exact .inr ⟨kept.1, kept.2, isParent, noSlash⟩

/-- A path from the root that is made up of file names is read back from its text. -/
theorem ofString_render_absolute {names : List String} (proper : ∀ name ∈ names, IsFileName name) :
    ofString (absolute names).render = absolute names := by
  have segments : (absolute names).render.toList.splitOn '/' =
      [] :: (['/'].intercalate (names.map String.toList)).splitOn '/' := by
    rw [toList_render_absolute, splitOn_slash_cons]
  have noSlash : ∀ segment ∈ names.map String.toList, '/' ∉ segment := by
    intro segment member
    obtain ⟨name, isName, rfl⟩ := List.mem_map.mp member
    exact (proper name isName).noSlash
  have nonempty : ∀ segment ∈ names.map String.toList, segment ≠ [] := by
    intro segment member empty
    obtain ⟨name, isName, rfl⟩ := List.mem_map.mp member
    exact (proper name isName).nonempty (String.toList_eq_nil_iff.mp empty)
  have kept : names.filter (fun name => name != "" && name != ".") = names := by
    rw [List.filter_eq_self]
    intro name member
    simp [(proper name member).nonempty, (proper name member).notDot]
  have root : NormalPath.rootOf (absolute names).render.toList = .single := by
    have front := head?_intercalate_ne_slash nonempty noSlash
    rw [toList_render_absolute]
    cases shape : ['/'].intercalate (names.map String.toList) with
    | nil => rfl
    | cons c rest =>
        have notSlash : c ≠ '/' := fun slash => front (by rw [shape, slash, List.head?_cons])
        simp [NormalPath.rootOf, notSlash]
  have read : namesOf (absolute names).render = names := by
    rw [namesOf, segments]
    cases names with
    | nil => rfl
    | cons name names =>
        rw [List.splitOn_intercalate '/' noSlash (by simp)]
        simp only [List.map_cons, List.filter_cons, String.ofList_nil, bne_self_eq_false,
          Bool.false_and, Bool.false_eq_true, if_false, List.map_map, Function.comp_def,
          String.ofList_toList, List.map_id'] at kept ⊢
        exact kept
  rw [ofString, root, read]
  rfl

end DiskPath

namespace DiskNode

mutual

/-- Whether the entries below a node all have names that entries can have. -/
def hasFileNames : DiskNode → Bool
  | .file _ _ => true
  | .link _ => true
  | .directory entries => haveFileNames entries

/-- Whether some entries, and all entries below them, have names that entries can have. -/
def haveFileNames : List (String × DiskNode) → Bool
  | [] => true
  | (name, node) :: entries => decide (IsFileName name) && node.hasFileNames && haveFileNames entries

end

theorem haveFileNames_cons_iff {name : String} {node : DiskNode} {entries : List (String × DiskNode)} :
    haveFileNames ((name, node) :: entries) = true ↔
      IsFileName name ∧ node.hasFileNames = true ∧ haveFileNames entries = true := by
  simp [haveFileNames, and_assoc]

theorem hasFileNames_of_mem {entries : List (String × DiskNode)} {entry : String × DiskNode}
    (proper : haveFileNames entries = true) (member : entry ∈ entries) :
    entry.2.hasFileNames = true := by
  induction entries with
  | nil => exact absurd member List.not_mem_nil
  | cons first entries ih =>
      obtain ⟨-, here, others⟩ := haveFileNames_cons_iff.mp proper
      rcases List.mem_cons.mp member with rfl | later
      · exact here
      · exact ih others later

theorem isFileName_of_mem {entries : List (String × DiskNode)} {entry : String × DiskNode}
    (proper : haveFileNames entries = true) (member : entry ∈ entries) : IsFileName entry.1 := by
  induction entries with
  | nil => exact absurd member List.not_mem_nil
  | cons first entries ih =>
      obtain ⟨isName, -, others⟩ := haveFileNames_cons_iff.mp proper
      rcases List.mem_cons.mp member with rfl | later
      · exact isName
      · exact ih others later

theorem hasFileNames_of_find? {node found : DiskNode} {names : List String}
    (proper : node.hasFileNames = true) (reached : node.find? names = some found) :
    found.hasFileNames = true := by
  induction names generalizing node with
  | nil =>
      rw [find?] at reached
      cases reached
      exact proper
  | cons name names ih =>
      cases node with
      | file content readable => exact nomatch reached
      | link target => exact nomatch reached
      | directory entries =>
          obtain ⟨inner, listed, below⟩ := Option.bind_eq_some_iff.mp reached
          exact ih (hasFileNames_of_mem proper (mem_of_lookup listed)) below

end DiskNode

namespace Project

/-- On a way down all directories are names of entries, and so are those in the last one. -/
theorem Enters.fileNames {disk : Disk} {here directories : List String}
    {entries last : List (String × DiskNode)} (way : Enters disk here entries directories last)
    (proper : DiskNode.haveFileNames entries = true) :
    (∀ directory ∈ directories, IsFileName directory) ∧ DiskNode.haveFileNames last = true := by
  induction way with
  | here => exact ⟨by simp, proper⟩
  | down listable listed onward ih =>
      obtain ⟨names, below⟩ := ih (DiskNode.hasFileNames_of_mem proper listed)
      exact ⟨List.forall_mem_cons.mpr ⟨DiskNode.isFileName_of_mem proper listed, names⟩, below⟩

end Project

namespace Disk

/-- A disk on which all names are names that entries of a directory can have. -/
structure IsProper (disk : Disk) : Prop where
  entries : disk.top.hasFileNames = true
  workingDir : ∀ name ∈ disk.workingDir, IsFileName name

/-- The links that were met so far end at places with file names. -/
def Ends.HaveFileNames (ends : Ends) : Prop :=
  ∀ link place, (link, some place) ∈ ends → ∀ name ∈ place.names, IsFileName name

/-- What holds on the way to a path: the place that is reached, and the ends of the links that were
followed, are given by file names, and the names to go to are file names or double dots. -/
structure IsOnWay (ends : Ends) (here : Place) (names : List String) : Prop where
  ends : ends.HaveFileNames
  here : ∀ name ∈ here.names, IsFileName name
  names : ∀ name ∈ names, name = ".." ∨ IsFileName name

/-- A way ends with file names, or with file names and double dots in front of a link. -/
def Arrival.HasFileNames : Arrival → Prop
  | .arrived place ends => (∀ name ∈ place.names, IsFileName name) ∧ ends.HaveFileNames
  | .looping names => ∀ name ∈ names, name = ".." ∨ IsFileName name
  | .tooDeep => True

/-- A way to go on that keeps to file names. -/
def KeepsFileNames (way : Ends → Place → List String → Arrival) : Prop :=
  ∀ ends here names, IsOnWay ends here names → (way ends here names).HasFileNames

theorem isFileName_of_mem_collapse {names : List String}
    (steps : ∀ name ∈ names, name = ".." ∨ IsFileName name) :
    ∀ name ∈ collapse names, IsFileName name := by
  have kept (stack : List String) (proper : ∀ name ∈ stack, IsFileName name) :
      ∀ name ∈ names.foldl (fun here name => if name = ".." then here.tail else name :: here) stack,
        IsFileName name := by
    induction names generalizing stack with
    | nil => exact proper
    | cons name names ih =>
        rw [List.foldl_cons]
        apply ih fun other member => steps other (List.mem_cons_of_mem name member)
        rcases steps name List.mem_cons_self with rfl | isName
        · rw [if_pos rfl]
          exact fun other member => proper other (List.mem_of_mem_tail member)
        · rw [if_neg isName.notParent]
          exact List.forall_mem_cons.mpr ⟨isName, proper⟩
  intro name member
  exact kept [] (by simp) name (List.mem_reverse.mp member)

theorem isFileName_of_mem_namesTo {disk : Disk} (proper : disk.IsProper) {place : Place}
    (names : ∀ name ∈ place.names, IsFileName name) : ∀ name ∈ disk.namesTo place, IsFileName name := by
  have inPlace : ∀ name ∈ place.names.reverse, IsFileName name :=
    fun name member => names name (List.mem_reverse.mp member)
  unfold namesTo
  split
  · exact inPlace
  · intro name member
    rcases List.mem_append.mp member with above | inside
    · exact proper.workingDir name (List.mem_of_mem_take above)
    · exact inPlace name inside

theorem IsOnWay.up {ends : Ends} {here : Place} {name : String} {names : List String}
    (onWay : IsOnWay ends here (name :: names)) : IsOnWay ends here.up names where
  ends := onWay.ends
  here := by
    unfold Place.up
    split
    · exact onWay.here
    next first rest whole =>
      exact fun other member => onWay.here other (by rw [whole]; exact List.mem_cons_of_mem first member)
  names other member := onWay.names other (List.mem_cons_of_mem name member)

/-- Going on with the end of a link keeps to file names. -/
theorem IsOnWay.jump {ends others : Ends} {here next place : Place} {name : String} {names : List String}
    (onWay : IsOnWay ends here (name :: names)) (followed : others.HaveFileNames)
    (arrived : ∀ name ∈ place.names, IsFileName name) :
    IsOnWay ((next, some place) :: others) place names where
  ends link other listed := by
    rcases List.mem_cons.mp listed with same | listed
    · cases same
      exact arrived
    · exact followed link other listed
  here := arrived
  names other member := onWay.names other (List.mem_cons_of_mem name member)

/-- A link is entered from where it stands, or from the root. -/
theorem IsOnWay.enter {ends : Ends} {here : Place} {names : List String}
    (onWay : IsOnWay ends here names) (next : Place) (target : String) :
    IsOnWay ((next, none) :: ends)
      (if (DiskPath.ofString target).isAbsolute then .top else here) (DiskPath.ofString target).names where
  ends link place listed := by
    rcases List.mem_cons.mp listed with same | listed
    · exact nomatch same
    · exact onWay.ends link place listed
  here := by
    split
    · simp [Place.top]
    · exact onWay.here
  names _ inside := DiskPath.isFileName_of_mem_namesOf inside

theorem keepsFileNames_followWith {disk : Disk} (proper : disk.IsProper)
    {enter : Ends → Place → List String → Arrival} (onward : KeepsFileNames enter) :
    KeepsFileNames (disk.followWith enter) := by
  intro ends here names onWay
  induction names generalizing ends here with
  | nil => exact ⟨onWay.here, onWay.ends⟩
  | cons name names ih =>
      rw [followWith]
      by_cases isParent : name = ".."
      · rw [if_pos isParent]
        exact ih _ _ onWay.up
      · rw [if_neg isParent]
        have isName : IsFileName name := (onWay.names name List.mem_cons_self).resolve_left isParent
        have behind : ∀ other ∈ names, other = ".." ∨ IsFileName other :=
          fun other member => onWay.names other (List.mem_cons_of_mem name member)
        have next : ∀ other ∈ (here.down name).names, IsFileName other :=
          List.forall_mem_cons.mpr ⟨isName, onWay.here⟩
        dsimp only
        split
        next target isLink =>
          split
          next place listed =>
            exact ih _ _ ⟨onWay.ends, onWay.ends _ _ (mem_of_lookup listed), behind⟩
          next =>
            intro other member
            rcases List.mem_append.mp member with front | member
            · exact .inr (isFileName_of_mem_namesTo proper next other front)
            · exact behind other member
          next =>
            have entered := onward _ _ _ (onWay.enter (here.down name) target)
            split
            next place others arrived =>
              rw [arrived] at entered
              exact ih _ _ (onWay.jump entered.2 entered.1)
            next front looping =>
              rw [looping] at entered
              intro other member
              rcases List.mem_append.mp member with front | member
              · exact entered other front
              · exact behind other member
            next => trivial
        next => exact ih _ _ ⟨onWay.ends, next, behind⟩

theorem keepsFileNames_follow {disk : Disk} (proper : disk.IsProper) (levels : Nat) :
    KeepsFileNames (disk.follow levels) := by
  induction levels with
  | zero => exact keepsFileNames_followWith proper fun _ _ _ _ => trivial
  | succ levels ih => exact keepsFileNames_followWith proper ih

theorem isFileName_of_settle {disk : Disk} (proper : disk.IsProper) {path settled : DiskPath}
    (names : ∀ name ∈ path.names, name = ".." ∨ IsFileName name)
    (done : disk.settle path = .ok settled) : ∀ name ∈ settled.names, IsFileName name := by
  have onWay : IsOnWay [] (startPlace path) path.names := by
    refine ⟨fun _ _ listed => absurd listed List.not_mem_nil, ?_, names⟩
    unfold startPlace
    split <;> exact fun _ member => absurd member List.not_mem_nil
  have kept := keepsFileNames_follow proper (disk.limits.levels .link) _ _ _ onWay
  unfold settle at done
  split at done
  next place ends arrived =>
    rw [arrived] at kept
    cases done
    exact isFileName_of_mem_namesTo proper kept.1
  next front looping =>
    rw [looping] at kept
    cases done
    exact isFileName_of_mem_collapse kept
  next => exact nomatch done

theorem isFileName_of_resolve_names {disk : Disk} (proper : disk.IsProper) {path resolved : DiskPath}
    (names : ∀ name ∈ path.names, name = ".." ∨ IsFileName name)
    (done : disk.resolve path = .ok resolved) : ∀ name ∈ resolved.names, IsFileName name :=
  isFileName_of_settle proper names (resolve_eq_ok_iff.mp done).2.1

/-- The absolute form of a path that is given as a text is made up of file names. -/
theorem isFileName_of_resolve {disk : Disk} (proper : disk.IsProper) {text : String}
    {resolved : DiskPath} (done : disk.resolve (.ofString text) = .ok resolved) :
    ∀ name ∈ resolved.names, IsFileName name :=
  isFileName_of_resolve_names proper (fun _ inside => DiskPath.isFileName_of_mem_namesOf inside) done

theorem find?_append (node : DiskNode) (first second : List String) :
    node.find? (first ++ second) = (node.find? first).bind fun inner => inner.find? second := by
  induction first generalizing node with
  | nil => simp [DiskNode.find?]
  | cons name names ih =>
      cases node with
      | file content readable => rfl
      | link target => rfl
      | directory entries =>
          rw [List.cons_append, DiskNode.find?, DiskNode.find?, Option.bind_assoc]
          simp only [ih]

theorem hasFileNames_of_lookup {disk : Disk} (proper : disk.IsProper) {path : DiskPath}
    {node : DiskNode} (reached : disk.lookup path = .ok node) : node.hasFileNames = true := by
  obtain ⟨names, -, found⟩ := lookup_eq_ok_iff.mp reached
  exact DiskNode.hasFileNames_of_find? proper.entries found

theorem hasFileNames_of_target? {disk : Disk} (proper : disk.IsProper) {path : DiskPath}
    {node : DiskNode} (reached : disk.target? path = some node) : node.hasFileNames = true := by
  unfold target? at reached
  split at reached
  · exact nomatch reached
  · exact hasFileNames_of_lookup proper (eq_ok_of_toOption reached)

end Disk

namespace Project

section

variable {disk : Disk} (proper : disk.IsProper) {texts : List String} {files : List DiskPath}
  {place path : DiskPath}

include proper

theorem StandsFor.fileNames (standsFor : StandsFor disk place path)
    (names : ∀ name ∈ place.names, IsFileName name) : ∀ name ∈ path.names, IsFileName name := by
  cases standsFor with
  | file => exact names
  | below isDirectory way _ listed =>
      obtain ⟨directories, inner⟩ := way.fileNames (Disk.hasFileNames_of_target? proper isDirectory)
      intro name inside
      rcases List.mem_append.mp inside with above | last
      · exact (List.mem_append.mp above).elim (names name) (directories name)
      · obtain rfl := List.mem_singleton.mp last
        exact DiskNode.isFileName_of_mem inner listed

/-- The path of a collected file is made up of file names. -/
theorem isFileName_of_mem_collect
    (done : (collect disk (texts.map DiskPath.ofString)).value = .ok files) (member : path ∈ files) :
    ∀ name ∈ path.names, IsFileName name := by
  obtain ⟨root, given, found, sources, member⟩ := (mem_collect_iff done).mp member
  obtain ⟨text, -, rfl⟩ := List.mem_map.mp given
  obtain ⟨place, resolved, sources⟩ := value_sourcesOf_eq_ok_iff.mp sources
  exact StandsFor.fileNames proper ((mem_sourcesAt_iff sources).mp member)
    (Disk.isFileName_of_resolve proper resolved)

/-- The path of a collected file is read back from its text. -/
theorem ofString_render_of_mem_collect
    (done : (collect disk (texts.map DiskPath.ofString)).value = .ok files) (member : path ∈ files) :
    DiskPath.ofString path.render = path := by
  have names := isFileName_of_mem_collect proper done member
  have isAbsolute := (isSourceFile_of_mem_collect done member).isAbsolute
  obtain ⟨root, inner⟩ := path
  cases isAbsolute
  exact DiskPath.ofString_render_absolute names

end

end Project

end LayerLint
