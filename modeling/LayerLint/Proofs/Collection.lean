import Mathlib
import LayerLint.Project.Lint
import LayerLint.Proofs.Outcomes

/-!
# The files that are collected

A search meets what lies on the ways down from a directory, as far as the directories can be listed. The
source files below some roots come in strictly ascending order of their names, segment by segment. Each of
them is an absolute path to a file, so that an attempt to read and parse it hands back a syntax tree or
nothing, and does not break off.
-/

namespace LayerLint

/-- The policy of a run is computed field by field, since a breakdown cannot be compared. -/
theorem Project.setUp_eq_ok {disk : Disk} {root : DiskPath} {config : Option DiskPath}
    {debug : Option Int} {policy : Policy} {warnings : List String}
    (read : ((setUp disk root config debug).value.toOption.map fun checked? =>
      checked?.map fun checked => (checked.policy, checked.warnings)) = some (some (policy, warnings))) :
    (setUp disk root config debug).value = .ok (some ⟨policy, warnings⟩) := by
  obtain ⟨checked?, reached, present⟩ := Option.map_eq_some_iff.mp read
  obtain ⟨checked, rfl, same⟩ := Option.map_eq_some_iff.mp present
  obtain ⟨samePolicy, sameWarnings⟩ := Prod.mk.inj same
  rw [eq_ok_of_toOption reached, ← samePolicy, ← sameWarnings]

namespace Disk

variable {disk : Disk} {path place : DiskPath} {fault : ReadFault} {cause : Breakdown}

theorem settle_eq_absolute (done : disk.settle path = .ok place) : ∃ names, place = .absolute names := by
  unfold settle at done
  split at done
  all_goals cases done
  all_goals exact ⟨_, rfl⟩

/-- A path can be made absolute unless it holds the character that ends paths, leads too deep into links,
or leads into links that cannot be followed to their end. -/
theorem resolve_eq_ok_iff :
    disk.resolve path = .ok place ↔
      path.hasNull = false ∧ disk.settle path = .ok place ∧
        disk.lookup place ≠ .error .tooManyLinks := by
  unfold resolve
  cases null : path.hasNull with
  | true => simp [bind, Except.bind, throw, throwThe, MonadExceptOf.throw]
  | false =>
      cases disk.settle path with
      | error cause => simp [bind, Except.bind]
      | ok settled =>
          simp only [Bool.false_eq_true, if_false, bind, Except.bind, pure, Except.pure, true_and,
            Except.ok.injEq]
          split
          next looping =>
            refine iff_of_false (fun done => nomatch done) ?_
            rintro ⟨rfl, reached⟩
            exact reached looping
          next reached =>
            rw [Except.ok.injEq]
            constructor
            · rintro rfl
              exact ⟨rfl, reached⟩
            · exact And.left

theorem root_of_resolve (done : disk.resolve path = .ok place) : place.root = .single := by
  obtain ⟨-, settled, -⟩ := resolve_eq_ok_iff.mp done
  obtain ⟨names, rfl⟩ := settle_eq_absolute settled
  rfl

/-- The system does not say what a path leads to: a directory on the way is closed to the user, or a name
or the path as a whole is too long. -/
structure Refuses (disk : Disk) (path : DiskPath) (fault : ReadFault) : Prop where
  noNull : path.hasNull = false
  found : disk.lookup path = .error fault
  isRefusal : fault = .denied ∨ fault = .nameTooLong

theorem refusal?_eq_some_iff : disk.refusal? path = some fault ↔ disk.Refuses path fault := by
  unfold refusal?
  constructor
  · intro refused
    split_ifs at refused with null
    have noNull := Bool.eq_false_iff.mpr null
    split at refused
    next found =>
      cases refused
      exact ⟨noNull, found, .inl rfl⟩
    next found =>
      cases refused
      exact ⟨noNull, found, .inr rfl⟩
    next => exact nomatch refused
  · rintro ⟨noNull, found, isRefusal⟩
    rw [noNull, if_neg Bool.false_ne_true, found]
    obtain rfl | rfl := isRefusal <;> rfl

theorem answer_eq_ok_iff {is answer : Bool} :
    disk.answer path is = .ok answer ↔ (∀ fault, ¬ disk.Refuses path fault) ∧ is = answer := by
  simp only [← refusal?_eq_some_iff]
  unfold Disk.answer
  cases disk.refusal? path <;> simp

theorem answer_eq_error_iff {is : Bool} :
    disk.answer path is = .error cause ↔
      ∃ fault, disk.Refuses path fault ∧ cause = .refused fault path.render := by
  simp only [← refusal?_eq_some_iff]
  unfold answer
  cases disk.refusal? path <;> simp [eq_comm]

theorem target?_eq_some_iff {node : DiskNode} :
    disk.target? path = some node ↔ path.hasNull = false ∧ disk.lookup path = .ok node := by
  unfold target?
  cases path.hasNull <;> cases disk.lookup path <;> simp [Except.toOption]

theorem not_refuses_of_target? {node : DiskNode} (found : disk.target? path = some node) :
    ∀ fault, ¬ disk.Refuses path fault := by
  intro fault refuses
  obtain ⟨-, reached⟩ := target?_eq_some_iff.mp found
  exact nomatch reached.symm.trans refuses.found

theorem isFile_eq_true_iff :
    disk.isFile path = true ↔ ∃ content readable, disk.target? path = some (.file content readable) := by
  unfold Disk.isFile
  split <;> simp_all

theorem isDirectory_eq_true_iff :
    disk.isDirectory path = true ↔ ∃ entries, disk.target? path = some (.directory entries) := by
  unfold Disk.isDirectory
  split <;> simp_all

theorem askFile_eq_ok_true_iff : disk.askFile path = .ok true ↔ disk.isFile path = true := by
  refine answer_eq_ok_iff.trans ⟨And.right, fun isFile => ⟨?_, isFile⟩⟩
  obtain ⟨content, readable, found⟩ := isFile_eq_true_iff.mp isFile
  exact not_refuses_of_target? found

theorem lookup_of_isFile (isFile : disk.isFile path = true) :
    path.hasNull = false ∧ ∃ content readable, disk.lookup path = .ok (.file content readable) := by
  obtain ⟨content, readable, found⟩ := isFile_eq_true_iff.mp isFile
  obtain ⟨noNull, reached⟩ := target?_eq_some_iff.mp found
  exact ⟨noNull, content, readable, reached⟩

theorem lookup_eq_ok_iff {node : DiskNode} :
    disk.lookup path = .ok node ↔
      ∃ names, disk.reach path.render path = .ok names ∧ disk.find? names = some node := by
  unfold lookup
  rw [bind_eq_ok_iff]
  refine exists_congr fun names => and_congr_right fun _ => ?_
  cases disk.find? names <;> simp [pure, Except.pure, throw, throwThe, MonadExceptOf.throw]

/-- A path to a file can be opened, unless the file is not readable. -/
theorem read_of_isFile (isFile : disk.isFile path = true) :
    (∃ content, disk.read path = .ok content) ∨ disk.read path = .error .denied := by
  obtain ⟨noNull, content, readable, found⟩ := lookup_of_isFile isFile
  obtain ⟨names, reached, found⟩ := lookup_eq_ok_iff.mp found
  unfold read
  rw [noNull, reached]
  simp only [bind, Except.bind, Bool.false_eq_true, if_false, pure, Except.pure, found]
  split_ifs
  · exact .inl ⟨content, rfl⟩
  · exact .inr rfl

end Disk

namespace Project

/-- A source file under its absolute path. -/
structure IsSourceFile (disk : Disk) (path : DiskPath) : Prop where
  isAbsolute : path.root = .single
  isFile : disk.isFile path = true
  isSource : isSource path.name = true

theorem IsSourceFile.parseFile {disk : Disk} {path : DiskPath} (file : IsSourceFile disk path) :
    ∃ tree?, parseFile disk path = .ok tree? := by
  have supported : Grammar.isSupported path.extension = true := file.isSource
  rw [Project.parseFile, if_pos supported]
  obtain ⟨content, read⟩ | denied := Disk.read_of_isFile file.isFile
  · exact ⟨_, by rw [read]⟩
  · exact ⟨none, by rw [denied]⟩

theorem IsSourceFile.eq_of_names {disk : Disk} {path other : DiskPath} (file : IsSourceFile disk path)
    (otherFile : IsSourceFile disk other) (same : path.names = other.names) : path = other := by
  obtain ⟨root, names⟩ := path
  obtain ⟨otherRoot, otherNames⟩ := other
  cases file.isAbsolute
  cases otherFile.isAbsolute
  cases same
  rfl

section Gather

variable {ε α β : Type} {find : α → Except ε (List β)} {items : List α} {found : List β}

theorem gather_cons_eq_ok_iff {item : α} :
    gather find (item :: items) = .ok found ↔
      ∃ first others, find item = .ok first ∧ gather find items = .ok others ∧
        first ++ others = found := by
  rw [gather, bind_eq_ok_iff]
  refine exists_congr fun first => ?_
  rw [bind_eq_ok_iff, exists_and_left]
  simp only [pure, Except.pure, Except.ok.injEq]

/-- Everything is gathered unless there is a failure for some item. -/
theorem exists_gather_iff :
    (∃ found, gather find items = .ok found) ↔ ∀ item ∈ items, ∃ part, find item = .ok part := by
  induction items with
  | nil => simp [gather]
  | cons item items ih =>
      rw [List.forall_mem_cons, ← ih]
      simp only [gather_cons_eq_ok_iff]
      constructor
      · rintro ⟨_, first, others, isFirst, done, -⟩
        exact ⟨⟨first, isFirst⟩, others, done⟩
      · rintro ⟨⟨first, isFirst⟩, others, done⟩
        exact ⟨_, first, others, isFirst, done, rfl⟩

theorem mem_gather_iff (done : gather find items = .ok found) {one : β} :
    one ∈ found ↔ ∃ item ∈ items, ∃ part, find item = .ok part ∧ one ∈ part := by
  induction items generalizing found with
  | nil =>
      cases done
      simp
  | cons item items ih =>
      obtain ⟨first, others, isFirst, rest, rfl⟩ := gather_cons_eq_ok_iff.mp done
      simp only [List.mem_append, ih rest, List.mem_cons, exists_eq_or_imp, isFirst, Except.ok.injEq,
        exists_eq_left']

end Gather

section Encounters

variable {disk : Disk} {hidden : Bool} {levels : Nat} {here directories : List String}
  {entries inner last : List (String × DiskNode)} {directory : String} {met : Met}

/-- The names in the directory behind some names can be listed. -/
def Lists (disk : Disk) (names : List String) : Prop :=
  ∃ target, disk.reach (DiskPath.absolute names).render (.absolute names) = .ok target ∧
    (disk.rights target).reads = true

/-- A way down from a directory with some entries, which is given by names from the root: the directories
that are entered, all of them listed by the one above, and the entries of the last one. -/
inductive Enters (disk : Disk) :
    List String → List (String × DiskNode) → List String → List (String × DiskNode) → Prop
  | here {here : List String} {entries : List (String × DiskNode)} : Enters disk here entries [] entries
  | down {here directories : List String} {entries inner last : List (String × DiskNode)}
      {directory : String} (listable : Lists disk here) (listed : (directory, .directory inner) ∈ entries)
      (onward : Enters disk (here ++ [directory]) inner directories last) :
      Enters disk here entries (directory :: directories) last

/-- What a search through so many levels of directories meets in a directory with some entries. -/
inductive Encounter (disk : Disk) (hidden : Bool) (levels : Nat) (here : List String)
    (entries : List (String × DiskNode)) : Met → Prop
  | tooDeep {directories : List String} {inner : List (String × DiskNode)}
      (way : Enters disk here entries directories inner) (deep : directories.length = levels) :
      Encounter disk hidden levels here entries (.obstacle (.tooDeep .directory))
  | tooLong {directories : List String} {inner : List (String × DiskNode)}
      (way : Enters disk here entries directories inner) (inReach : directories.length < levels)
      (long : disk.reach (DiskPath.absolute (here ++ directories)).render
        (.absolute (here ++ directories)) = .error .nameTooLong) :
      Encounter disk hidden levels here entries
        (.obstacle (.refused .nameTooLong (DiskPath.absolute (here ++ directories)).render))
  | entry {directories : List String} {inner : List (String × DiskNode)} {name : String}
      {node : DiskNode} (way : Enters disk here entries directories inner)
      (inReach : directories.length < levels) (listable : Lists disk (here ++ directories))
      (listed : (name, node) ∈ inner) :
      Encounter disk hidden levels here entries
        (.entry (.absolute (here ++ directories ++ [name])) (hidden || directories.any isSkipped))

theorem canList_eq_ok_true_iff {names : List String} :
    canList disk (.absolute names) = .ok true ↔ Lists disk names := by
  unfold canList Lists
  split <;> simp_all

theorem canList_eq_error_iff {path : DiskPath} {cause : Breakdown} :
    canList disk path = .error cause ↔
      disk.reach path.render path = .error .nameTooLong ∧ cause = .refused .nameTooLong path.render := by
  unfold canList
  split
  next names reached => simp [reached]
  next long => simp [long, eq_comm]
  next fault other failed =>
    refine iff_of_false (fun refused => nomatch refused) ?_
    rintro ⟨long, -⟩
    exact other (Except.error.inj (failed.symm.trans long))

theorem Encounter.down (listable : Lists disk here) (listed : (directory, .directory inner) ∈ entries)
    (inside : Encounter disk (hidden || isSkipped directory) levels (here ++ [directory]) inner met) :
    Encounter disk hidden (levels + 1) here entries met := by
  cases inside with
  | tooDeep way deep => exact .tooDeep (.down listable listed way) (by simp [deep])
  | @tooLong directories _ way inReach long =>
      have whole : here ++ [directory] ++ directories = here ++ directory :: directories := by simp
      rw [whole] at long ⊢
      exact .tooLong (.down listable listed way) (by simpa using inReach) long
  | @entry directories _ name node way inReach listableThere listedThere =>
      have whole : here ++ [directory] ++ directories = here ++ directory :: directories := by simp
      rw [whole] at listableThere ⊢
      rw [Bool.or_assoc, ← List.any_cons]
      exact .entry (.down listable listed way) (by simpa using inReach) listableThere listedThere

mutual

/-- Only what lies on a way down is met. -/
theorem encounter_of_mem_metAt {disk : Disk} {hidden : Bool} {levels : Nat} {here : List String}
    {met : Met} : (node : DiskNode) → met ∈ metAt disk hidden levels here.reverse node →
      ∃ entries, node = .directory entries ∧ Encounter disk hidden levels here entries met
  | .file _ _, member => absurd member (by simp [metAt])
  | .link _, member => absurd member (by simp [metAt])
  | .directory entries, member => by
      refine ⟨entries, rfl, ?_⟩
      cases levels with
      | zero =>
          rw [metAt, List.mem_singleton] at member
          subst member
          exact .tooDeep .here rfl
      | succ levels =>
          rw [metAt, metIn, List.reverse_reverse] at member
          split at member
          next cause refused =>
            rw [List.mem_singleton] at member
            subst member
            obtain ⟨long, rfl⟩ := canList_eq_error_iff.mp refused
            have met : Encounter disk hidden (levels + 1) here entries
                (.obstacle (.refused .nameTooLong (DiskPath.absolute (here ++ [])).render)) :=
              .tooLong .here (Nat.zero_lt_succ levels) (by simpa using long)
            simpa using met
          next => exact absurd member List.not_mem_nil
          next listable =>
            have listable := canList_eq_ok_true_iff.mp listable
            rcases List.mem_append.mp member with named | inside
            · simp only [List.map_map, List.mem_map] at named
              obtain ⟨⟨name, node⟩, listed, rfl⟩ := named
              have met : Encounter disk hidden (levels + 1) here entries
                  (.entry (.absolute (here ++ [] ++ [name])) (hidden || [].any isSkipped)) :=
                .entry .here (Nat.zero_lt_succ levels) (by simpa using listable) listed
              simpa using met
            · obtain ⟨directory, inner, listed, inside⟩ := encounter_of_mem_metAmong entries inside
              exact inside.down listable listed

/-- Only what lies on a way down through one of the entries is met among them. -/
theorem encounter_of_mem_metAmong {disk : Disk} {hidden : Bool} {levels : Nat} {here : List String}
    {met : Met} : (entries : List (String × DiskNode)) →
      met ∈ metAmong disk hidden levels here.reverse entries →
      ∃ directory inner, (directory, .directory inner) ∈ entries ∧
        Encounter disk (hidden || isSkipped directory) levels (here ++ [directory]) inner met
  | [], member => absurd member (by simp [metAmong])
  | (name, node) :: rest, member => by
      rw [metAmong] at member
      rcases List.mem_append.mp member with first | others
      · have first : met ∈ metAt disk (hidden || isSkipped name) levels (here ++ [name]).reverse node := by
          simpa using first
        obtain ⟨inner, rfl, inside⟩ := encounter_of_mem_metAt node first
        exact ⟨name, inner, List.mem_cons_self, inside⟩
      · obtain ⟨directory, inner, listed, inside⟩ := encounter_of_mem_metAmong rest others
        exact ⟨directory, inner, List.mem_cons_of_mem _ listed, inside⟩

end

theorem mem_metAmong_of_mem (listed : (directory, .directory inner) ∈ entries)
    (inside : met ∈ metAt disk (hidden || isSkipped directory) levels (here ++ [directory]).reverse
      (.directory inner)) : met ∈ metAmong disk hidden levels here.reverse entries := by
  induction entries with
  | nil => exact absurd listed List.not_mem_nil
  | cons entry rest ih =>
      rw [metAmong, List.mem_append]
      rcases List.mem_cons.mp listed with rfl | listed
      · exact .inl (by simpa using inside)
      · exact .inr (ih listed)

theorem metAt_of_lists (listable : Lists disk here) :
    metAt disk hidden (levels + 1) here.reverse (.directory entries) =
      entries.map (fun entry => .entry (.absolute (here ++ [entry.1])) hidden) ++
        metAmong disk hidden levels here.reverse entries := by
  rw [metAt, metIn, List.reverse_reverse, canList_eq_ok_true_iff.mpr listable, List.map_map]
  simp only [List.reverse_cons, List.reverse_reverse, Function.comp_def]

/-- What is met at the end of a way down is met at its beginning. -/
theorem mem_metAt_of_enters (way : Enters disk here entries directories last)
    (inside : met ∈ metAt disk (hidden || directories.any isSkipped) levels (here ++ directories).reverse
      (.directory last)) :
    met ∈ metAt disk hidden (levels + directories.length) here.reverse (.directory entries) := by
  induction way generalizing hidden with
  | here => simpa using inside
  | @down here directories entries inner last directory listable listed onward ih =>
      rw [List.length_cons, ← Nat.add_assoc, metAt_of_lists listable]
      refine List.mem_append_right _ (mem_metAmong_of_mem listed (ih ?_))
      simpa [Bool.or_assoc] using inside

theorem Encounter.mem_metAt (encounter : Encounter disk hidden levels here entries met) :
    met ∈ metAt disk hidden levels here.reverse (.directory entries) := by
  have split {count : Nat} (inReach : count < levels) : levels = (levels - count - 1) + 1 + count := by
    omega
  cases encounter with
  | @tooDeep directories inner way deep =>
      rw [← deep, ← Nat.zero_add directories.length]
      exact mem_metAt_of_enters way (by simp [metAt])
  | tooLong way inReach long =>
      rw [split inReach]
      refine mem_metAt_of_enters way ?_
      rw [metAt, metIn, List.reverse_reverse, canList_eq_error_iff.mpr ⟨long, rfl⟩]
      exact List.mem_singleton_self _
  | entry way inReach listable listed =>
      rw [split inReach]
      refine mem_metAt_of_enters way ?_
      rw [metAt_of_lists listable]
      exact List.mem_append_left _ (List.mem_map.mpr ⟨_, listed, rfl⟩)

/-- A search meets what lies on its ways down. -/
theorem mem_metAt_iff :
    met ∈ metAt disk hidden levels here.reverse (.directory entries) ↔
      Encounter disk hidden levels here entries met := by
  constructor
  · intro member
    obtain ⟨others, same, encounter⟩ := encounter_of_mem_metAt _ member
    cases same
    exact encounter
  · exact Encounter.mem_metAt

end Encounters

section Sources

variable {disk : Disk} {root place path : DiskPath} {roots found : List DiskPath}

theorem exists_sources_entry_iff {hidden : Bool} :
    (∃ part, (Met.entry path hidden).sources disk = .ok part) ↔
      (isSource path.name = true → ∀ fault, ¬ disk.Refuses path fault) := by
  rw [Met.sources]
  cases isSource path.name with
  | false => simp
  | true =>
      simp only [if_true, true_imp_iff]
      constructor
      · rintro ⟨part, sources⟩ fault refuses
        rw [Disk.askFile, Disk.answer_eq_error_iff.mpr ⟨fault, refuses, rfl⟩] at sources
        exact nomatch sources
      · intro answered
        rw [Disk.askFile, Disk.answer_eq_ok_iff.mpr ⟨answered, rfl⟩]
        exact ⟨_, rfl⟩

theorem mem_sources_entry_iff {other : DiskPath} {hidden : Bool}
    (sources : (Met.entry other hidden).sources disk = .ok found) :
    path ∈ found ↔
      path = other ∧ isSource other.name = true ∧ disk.isFile other = true ∧ hidden = false := by
  have answered := exists_sources_entry_iff.mp ⟨found, sources⟩
  rw [Met.sources] at sources
  cases isSource : isSource other.name with
  | false =>
      rw [isSource, if_neg Bool.false_ne_true] at sources
      cases sources
      simp
  | true =>
      rw [isSource, if_pos rfl, Disk.askFile, Disk.answer_eq_ok_iff.mpr ⟨answered isSource, rfl⟩] at sources
      cases sources
      cases disk.isFile other <;> cases hidden <;> simp

theorem sourcesBelow_eq_gather {entries : List (String × DiskNode)}
    (isDirectory : disk.target? place = some (.directory entries)) :
    sourcesBelow disk place =
      gather (Met.sources disk)
        (metAt disk false (disk.limits.levels .directory) place.names.reverse (.directory entries)) := by
  rw [sourcesBelow, isDirectory]

theorem value_sourcesAt_of_isFile (isFile : disk.isFile place = true) :
    (sourcesAt disk place).value = .ok (if isSource place.name then [place] else []) := by
  rw [sourcesAt, Disk.askFile_eq_ok_true_iff.mpr isFile]
  rfl

theorem value_sourcesAt_of_isDirectory {entries : List (String × DiskNode)}
    (isDirectory : disk.target? place = some (.directory entries)) :
    (sourcesAt disk place).value = sourcesBelow disk place := by
  have answered := Disk.not_refuses_of_target? isDirectory
  have isFile : disk.isFile place = false := by rw [Disk.isFile, isDirectory]
  have isThere : disk.isDirectory place = true := by rw [Disk.isDirectory, isDirectory]
  rw [sourcesAt, Disk.askFile, Disk.answer_eq_ok_iff.mpr ⟨answered, isFile⟩]
  dsimp only
  rw [Disk.askDirectory, Disk.answer_eq_ok_iff.mpr ⟨answered, isThere⟩]
  rfl

theorem value_sourcesAt_of_neither (answered : ∀ fault, ¬ disk.Refuses place fault)
    (isFile : disk.isFile place = false) (isDirectory : disk.isDirectory place = false) :
    (sourcesAt disk place).value = .ok [] := by
  rw [sourcesAt, Disk.askFile, Disk.answer_eq_ok_iff.mpr ⟨answered, isFile⟩]
  dsimp only
  rw [Disk.askDirectory, Disk.answer_eq_ok_iff.mpr ⟨answered, isDirectory⟩]
  rfl

theorem value_sourcesAt_of_refuses {fault : ReadFault} (refuses : disk.Refuses place fault) :
    (sourcesAt disk place).value = .error (.refused fault place.render) := by
  rw [sourcesAt, Disk.askFile, Disk.answer_eq_error_iff.mpr ⟨fault, refuses, rfl⟩]
  rfl

/-- An absolute path is a file, or a directory, or leads nowhere, unless the system does not say. -/
theorem exists_kind (disk : Disk) (place : DiskPath) :
    (∃ fault, disk.Refuses place fault) ∨ disk.isFile place = true ∨
      (∃ entries, disk.target? place = some (.directory entries)) ∨
      (∀ fault, ¬ disk.Refuses place fault) ∧ disk.isFile place = false ∧
        disk.isDirectory place = false := by
  by_cases refused : ∃ fault, disk.Refuses place fault
  · exact .inl refused
  · cases isFile : disk.isFile place with
    | true => exact .inr (.inl rfl)
    | false =>
        cases isDirectory : disk.isDirectory place with
        | true => exact .inr (.inr (.inl (Disk.isDirectory_eq_true_iff.mp isDirectory)))
        | false => exact .inr (.inr (.inr ⟨not_exists.mp refused, rfl, rfl⟩))

theorem isSourceFile_of_mem_sourcesAt (isAbsolute : place.root = .single)
    (done : (sourcesAt disk place).value = .ok found) (member : path ∈ found) :
    IsSourceFile disk path := by
  obtain ⟨fault, refuses⟩ | isFile | ⟨entries, isDirectory⟩ | ⟨answered, isFile, isDirectory⟩ :=
    exists_kind disk place
  · exact nomatch done.symm.trans (value_sourcesAt_of_refuses refuses)
  · rw [value_sourcesAt_of_isFile isFile] at done
    cases done
    split_ifs at member with isSource
    · obtain rfl := List.mem_singleton.mp member
      exact ⟨isAbsolute, isFile, isSource⟩
    · exact absurd member List.not_mem_nil
  · rw [value_sourcesAt_of_isDirectory isDirectory, sourcesBelow_eq_gather isDirectory] at done
    obtain ⟨met, isMet, part, sources, member⟩ := (mem_gather_iff done).mp member
    cases mem_metAt_iff.mp isMet with
    | tooDeep way deep => exact nomatch sources
    | tooLong way inReach long => exact nomatch sources
    | entry way inReach listable listed =>
        obtain ⟨rfl, isSource, isFile, -⟩ := (mem_sources_entry_iff sources).mp member
        exact ⟨rfl, isFile, isSource⟩
  · rw [value_sourcesAt_of_neither answered isFile isDirectory] at done
    cases done
    exact absurd member List.not_mem_nil

theorem value_sourcesOf_eq_ok_iff :
    (sourcesOf disk root).value = .ok found ↔
      ∃ place, disk.resolve root = .ok place ∧ (sourcesAt disk place).value = .ok found := by
  unfold sourcesOf
  cases disk.resolve root with
  | error cause => simp
  | ok place => simp

theorem value_sourcesOfAll (disk : Disk) (roots : List DiskPath) :
    (sourcesOfAll disk roots).value = gather (fun root => (sourcesOf disk root).value) roots := by
  induction roots with
  | nil => rfl
  | cons root roots ih =>
      rw [sourcesOfAll, gather, Traced.value_bind]
      cases (sourcesOf disk root).value with
      | error cause => rfl
      | ok first =>
          dsimp only
          rw [Traced.value_bind, Traced.value_pure, ih]
          rfl

end Sources

theorem inOrder_iff (first second : List String) :
    inOrder first second = true ↔ first ≤ second := by
  rw [← not_lt]
  induction first generalizing second with
  | nil => simp [inOrder]
  | cons name rest ih =>
      cases second with
      | nil => simp [inOrder]
      | cons other others =>
          rw [List.cons_lt_cons_iff, inOrder]
          by_cases same : name = other
          · simp [same, ih]
          · have differs : ¬ (other = name ∧ others < rest) := fun both => same both.1.symm
            rw [if_neg (by simpa using same), decide_eq_true_iff, or_iff_left differs, not_lt]
            exact ⟨le_of_lt, fun before => lt_of_le_of_ne before same⟩

theorem inOrder_trans {first second third : List String} (before : inOrder first second = true)
    (after : inOrder second third = true) : inOrder first third = true := by
  rw [inOrder_iff] at before after ⊢
  exact le_trans before after

theorem inOrder_total (first second : List String) :
    (inOrder first second || inOrder second first) = true := by
  rw [Bool.or_eq_true, inOrder_iff, inOrder_iff]
  exact le_total first second

theorem nodup_eraseDups {α : Type} [BEq α] [LawfulBEq α] (items : List α) :
    items.eraseDups.Nodup := by
  cases items with
  | nil => simp
  | cons item rest =>
      rw [List.eraseDups_cons, List.nodup_cons]
      exact ⟨by simp, nodup_eraseDups (rest.filter fun other => !other == item)⟩
termination_by items.length
decreasing_by exact Nat.lt_succ_of_le (List.length_filter_le _ _)

theorem mem_arranged {files : List DiskPath} {path : DiskPath} :
    path ∈ arranged files ↔ path ∈ files := by
  rw [arranged, List.mem_mergeSort, List.mem_eraseDups]

/-- Files with different names come in strictly ascending order. -/
theorem pairwise_arranged {files : List DiskPath}
    (named : ∀ first ∈ files, ∀ second ∈ files, first.names = second.names → first = second) :
    (arranged files).Pairwise fun first second => first.names < second.names := by
  have ascending : (arranged files).Pairwise fun first second =>
      inOrder first.names second.names = true := by
    apply List.pairwise_mergeSort
    · exact fun _ _ _ => inOrder_trans
    · exact fun first second => inOrder_total first.names second.names
  have distinct : (arranged files).Nodup :=
    (List.mergeSort_perm _ _).nodup_iff.mpr (nodup_eraseDups files)
  refine (ascending.and distinct).imp_of_mem fun {first second} firstMember secondMember both => ?_
  refine lt_of_le_of_ne ((inOrder_iff _ _).mp both.1) fun same => both.2 ?_
  exact named first (mem_arranged.mp firstMember) second (mem_arranged.mp secondMember) same

section Collect

variable {disk : Disk} {roots files : List DiskPath} {path : DiskPath}

theorem value_collect (disk : Disk) (roots : List DiskPath) :
    (collect disk roots).value =
      (gather (fun root => (sourcesOf disk root).value) roots).map arranged := by
  rw [collect, Traced.value_bind, Traced.value_pure, value_sourcesOfAll]

theorem exists_of_collect (done : (collect disk roots).value = .ok files) :
    ∃ found, gather (fun root => (sourcesOf disk root).value) roots = .ok found ∧
      files = arranged found := by
  rw [value_collect] at done
  cases all : gather (fun root => (sourcesOf disk root).value) roots with
  | error cause => simp [all, Except.map] at done
  | ok found =>
      rw [all] at done
      cases done
      exact ⟨found, rfl, rfl⟩

/-- Files are collected unless the search below some root breaks off. -/
theorem exists_collect_iff :
    (∃ files, (collect disk roots).value = .ok files) ↔
      ∀ root ∈ roots, ∃ found, (sourcesOf disk root).value = .ok found := by
  rw [← exists_gather_iff]
  constructor
  · rintro ⟨files, done⟩
    obtain ⟨found, all, -⟩ := exists_of_collect done
    exact ⟨found, all⟩
  · rintro ⟨found, all⟩
    exact ⟨arranged found, by rw [value_collect, all]; rfl⟩

/-- The collected files are those that some root stands for. -/
theorem mem_collect_iff (done : (collect disk roots).value = .ok files) :
    path ∈ files ↔ ∃ root ∈ roots, ∃ found, (sourcesOf disk root).value = .ok found ∧ path ∈ found := by
  obtain ⟨found, all, rfl⟩ := exists_of_collect done
  rw [mem_arranged, mem_gather_iff all]

theorem isSourceFile_of_mem_collect (done : (collect disk roots).value = .ok files)
    (member : path ∈ files) : IsSourceFile disk path := by
  obtain ⟨root, -, found, sources, member⟩ := (mem_collect_iff done).mp member
  obtain ⟨place, resolved, sources⟩ := value_sourcesOf_eq_ok_iff.mp sources
  exact isSourceFile_of_mem_sourcesAt (Disk.root_of_resolve resolved) sources member

theorem pairwise_collect (done : (collect disk roots).value = .ok files) :
    files.Pairwise fun first second => first.names < second.names := by
  obtain ⟨found, -, rfl⟩ := exists_of_collect done
  apply pairwise_arranged
  intro first member second otherMember same
  -- All files that are found hang from the root of the disk, so only their names can differ.
  have isFile := isSourceFile_of_mem_collect done (mem_arranged.mpr member)
  exact isFile.eq_of_names (isSourceFile_of_mem_collect done (mem_arranged.mpr otherMember)) same

/-- Files in ascending order are the collected ones if they are those that are found, in whatever order. -/
theorem collect_eq_ok
    (found : (sourcesOfAll disk roots).value.toOption.any
      (fun found => found.eraseDups.isPerm files) = true)
    (ascending : files.Pairwise fun first second => first.names < second.names) :
    (collect disk roots).value = .ok files := by
  obtain ⟨found, reached, isPerm⟩ := (Option.any_eq_true _ _).mp found
  have done : (collect disk roots).value = .ok (arranged found) := by
    rw [collect, Traced.value_bind, Traced.value_pure, eq_ok_of_toOption reached]
    rfl
  have same : (arranged found).Perm files := (List.mergeSort_perm _ _).trans (List.isPerm_iff.mp isPerm)
  rw [done, same.eq_of_pairwise (fun _ _ _ _ before after => absurd after (lt_asymm before))
    (pairwise_collect done) ascending]

end Collect

end Project
end LayerLint
