import LayerLint.Proofs.Collection
import LayerLint.Proofs.JsonNesting
import LayerLint.Proofs.ShownValues

/-!
# Faults of a configuration

A policy file is read, decoded, parsed, brought into shape, given a base directory and validated. This
file says for each of these stages when it succeeds and when it breaks off, and puts the stages together:
the set-up of a run ends with a policy exactly when all of them succeed, and it breaks off, instead of
reporting a fault of the configuration, exactly in a few listed cases.
-/

namespace LayerLint

namespace Disk

/-- The text in a file with its line ends unified, if the file can be read and its bytes are text. -/
def text? (disk : Disk) (path : DiskPath) : Option (List Char) :=
  (disk.read path).toOption.bind fun content =>
    (Text.Utf8.decode? content).map Text.unifyNewlines

theorem isFile_of_read {disk : Disk} {path : DiskPath} {content : List UInt8}
    (read : disk.read path = .ok content) : disk.isFile path = true := by
  unfold Disk.read at read
  split_ifs at read with null
  · exact nomatch read
  · obtain ⟨names, reached, read⟩ := bind_eq_ok_iff.mp read
    split at read
    next other readable found =>
      refine isFile_eq_true_iff.mpr ⟨other, readable, target?_eq_some_iff.mpr ⟨?_, ?_⟩⟩
      · exact Bool.eq_false_iff.mpr null
      · exact lookup_eq_ok_iff.mpr ⟨names, reached, found⟩
    next => exact nomatch read
    next => exact nomatch read

end Disk

namespace Text

end Text

namespace Policy

section Stages

variable {disk : Disk} {path directory : DiskPath} {value : Value} {document : Document}
  {draft : Draft} {cause : Breakdown}

/-- The document in a policy file, if the file holds text that can be parsed. -/
def document? (disk : Disk) (path : DiskPath) : Option Value :=
  (disk.text? path).bind fun text => (Yaml.parse (disk.limits.levels .yamlNode) text).toOption

/-- Reading a policy file, stage by stage. -/
theorem readFile_of_read {content : List UInt8} (read : disk.read path = .ok content) :
    readFile disk path = (do
      let value ← parseFile (disk.limits.levels .yamlNode) path.name content
      let directory ← (disk.resolve path.parent).mapError Fault.breakdown
      pure (value, directory)) := by
  unfold readFile
  rw [read]

theorem readFile_eq_ok_iff :
    readFile disk path = .ok (value, directory) ↔
      document? disk path = some value ∧ disk.resolve path.parent = .ok directory := by
  unfold document? Disk.text?
  cases read : disk.read path with
  | error fault =>
      unfold readFile
      rw [read]
      cases fault <;> simp [Except.toOption]
  | ok content =>
      rw [readFile_of_read read]
      unfold parseFile
      cases decoded : Text.Utf8.decode? content with
      | none => simp [Except.toOption, decoded, bind, Except.bind]
      | some chars =>
          cases parsed : Yaml.parse (disk.limits.levels .yamlNode) (Text.unifyNewlines chars) with
          | error fault => cases fault <;> simp [Except.toOption, decoded, parsed, bind, Except.bind]
          | ok other =>
              cases resolved : disk.resolve path.parent <;>
                simp [Except.toOption, decoded, parsed, bind, Except.bind, Except.mapError, pure,
                  Except.pure]

/-- The path of the compiler options in a directory. -/
def optionsPath (directory : DiskPath) : DiskPath :=
  directory.join (.ofString BaseUrl.fileName)

/-- The text of the compiler options in a directory. -/
def optionsText? (disk : Disk) (directory : DiskPath) : Option (List Char) :=
  disk.text? (optionsPath directory)

/-- What reading the compiler options in a directory comes to, if there is a text. -/
def options? (disk : Disk) (directory : DiskPath) : Option (Except Json.Fault Value) :=
  (optionsText? disk directory).map fun text =>
    Json.parseWithin (disk.limits.levels .jsonList) (Json.plainChars text)

/-- The code points that name the base directory: those in the document, or else those in the compiler
options beside it. -/
def baseDirCodes? (disk : Disk) (directory : DiskPath) (document : Document) : Option (List Nat) :=
  document.baseDir.or ((options? disk directory).bind fun read => read.toOption.bind BaseUrl.ofOptions?)

/-- Why the compiler options in a directory cannot be asked: the system does not say whether they are there,
they are nested too deep, or they hold a number with too many digits. -/
inductive OptionsFault (disk : Disk) (directory : DiskPath) : Breakdown → Prop
  | refused {fault : ReadFault} (refuses : disk.Refuses (optionsPath directory) fault) :
      OptionsFault disk directory (.refused fault (optionsPath directory).render)
  | tooDeep {text : List Char} {nesting : Nesting} (present : optionsText? disk directory = some text)
      (beyond : Json.NestsBeyond (disk.limits.levels .jsonList) (Json.plainChars text) nesting) :
      OptionsFault disk directory (.tooDeep nesting)
  | tooManyDigits {text : List Char} {count : Nat} (present : optionsText? disk directory = some text)
      (inReach : ∀ nesting,
        ¬ Json.NestsBeyond (disk.limits.levels .jsonList) (Json.plainChars text) nesting)
      (long : Json.parse (Json.plainChars text) = .error (.breakdown (.tooManyDigits count))) :
      OptionsFault disk directory (.tooManyDigits count)

theorem optionsFault_iff :
    OptionsFault disk directory cause ↔
      (∃ fault, disk.Refuses (optionsPath directory) fault ∧
        cause = .refused fault (optionsPath directory).render) ∨
      options? disk directory = some (.error (.breakdown cause)) := by
  unfold options?
  simp only [Option.map_eq_some_iff, Json.parseWithin_eq_breakdown_iff]
  constructor
  · rintro (refuses | ⟨present, beyond⟩ | ⟨present, inReach, long⟩)
    · exact .inl ⟨_, refuses, rfl⟩
    · exact .inr ⟨_, present, .inl ⟨_, beyond, rfl⟩⟩
    · exact .inr ⟨_, present, .inr ⟨_, long, inReach, rfl⟩⟩
  · rintro (⟨fault, refuses, rfl⟩ | ⟨text, present, ⟨nesting, beyond, rfl⟩ | ⟨count, long, inReach, rfl⟩⟩)
    · exact .refused refuses
    · exact .tooDeep present beyond
    · exact .tooManyDigits present inReach long

theorem optionsText?_of_isFile_false (absent : disk.isFile (optionsPath directory) = false) :
    optionsText? disk directory = none := by
  unfold optionsText? Disk.text?
  cases read : disk.read (optionsPath directory) with
  | error fault => rfl
  | ok content => exact absurd (Disk.isFile_of_read read) (by simp [absent])

theorem value_find_of_refuses {fault : ReadFault} (refuses : disk.Refuses (optionsPath directory) fault) :
    (BaseUrl.find disk directory).value = .error (.refused fault (optionsPath directory).render) := by
  have asked : disk.askFile (optionsPath directory) =
      .error (.refused fault (optionsPath directory).render) :=
    Disk.answer_eq_error_iff.mpr ⟨fault, refuses, rfl⟩
  unfold optionsPath at asked
  rw [BaseUrl.find, asked]
  rfl

theorem value_find (answered : ∀ fault, ¬ disk.Refuses (optionsPath directory) fault) :
    (BaseUrl.find disk directory).value =
      match options? disk directory with
      | some (.ok options) => BaseUrl.resolve disk directory options
      | some (.error (.breakdown cause)) => .error cause
      | _ => .ok none := by
  have asked : disk.askFile (optionsPath directory) = .ok (disk.isFile (optionsPath directory)) :=
    Disk.answer_eq_ok_iff.mpr ⟨answered, rfl⟩
  unfold BaseUrl.find
  dsimp only
  rw [← optionsPath, asked]
  cases isFile : disk.isFile (optionsPath directory) with
  | false =>
      unfold options?
      rw [optionsText?_of_isFile_false isFile]
      rfl
  | true =>
      unfold options? optionsText? Disk.text? BaseUrl.optionsIn
      cases disk.read (optionsPath directory) with
      | error fault => rfl
      | ok content =>
          unfold BaseUrl.parse
          dsimp only [Except.toOption, Option.bind_some]
          cases Text.Utf8.decode? content with
          | none => rfl
          | some chars =>
              dsimp only [Option.map_some]
              cases Json.parseWithin (disk.limits.levels .jsonList)
                (Json.plainChars (Text.unifyNewlines chars)) with
              | error fault => cases fault <;> rfl
              | ok options => rfl

/-- Compiler options that name a base directory are a file. -/
theorem answered_of_options? {read : Except Json.Fault Value}
    (present : options? disk directory = some read) :
    ∀ fault, ¬ disk.Refuses (optionsPath directory) fault := by
  obtain ⟨text, present, -⟩ := Option.map_eq_some_iff.mp present
  cases isFile : disk.isFile (optionsPath directory) with
  | false => exact nomatch present.symm.trans (optionsText?_of_isFile_false isFile)
  | true =>
      obtain ⟨content, readable, found⟩ := Disk.isFile_eq_true_iff.mp isFile
      exact Disk.not_refuses_of_target? found

theorem value_findBaseDir_of_codes {codes : List Nat}
    (named : baseDirCodes? disk directory document = some codes) :
    (findBaseDir disk (some directory) document).value =
      (DirectoryName.resolve disk directory codes).map some := by
  unfold findBaseDir
  unfold baseDirCodes? at named
  cases stated : document.baseDir with
  | some own =>
      rw [stated] at named
      cases named
      rfl
  | none =>
      rw [stated, Option.none_or, Option.bind_eq_some_iff] at named
      obtain ⟨read, present, named⟩ := named
      obtain ⟨options, parsed, named⟩ := Option.bind_eq_some_iff.mp named
      dsimp only
      rw [value_find (answered_of_options? present), present, eq_ok_of_toOption parsed]
      dsimp only
      unfold BaseUrl.resolve
      rw [named]

theorem value_find_of_optionsFault (broken : OptionsFault disk directory cause) :
    (BaseUrl.find disk directory).value = .error cause := by
  obtain ⟨fault, refuses, rfl⟩ | broken := optionsFault_iff.mp broken
  · exact value_find_of_refuses refuses
  · rw [value_find (answered_of_options? broken), broken]

/-- Without a name for the base directory there is none, unless the compiler options are asked for one and
cannot tell. -/
theorem value_findBaseDir_of_no_codes (unnamed : baseDirCodes? disk directory document = none)
    (sound : ∀ cause, ¬ OptionsFault disk directory cause) :
    (findBaseDir disk (some directory) document).value = .ok none := by
  unfold findBaseDir
  unfold baseDirCodes? at unnamed
  obtain ⟨stated, unnamed⟩ := Option.or_eq_none_iff.mp unnamed
  rw [stated]
  dsimp only
  rw [value_find fun fault refuses => sound _ (.refused refuses)]
  cases present : options? disk directory with
  | none => rfl
  | some read =>
      cases read with
      | error fault =>
          cases fault with
          | malformed => rfl
          | breakdown cause => exact absurd (optionsFault_iff.mpr (.inr present)) (sound cause)
      | ok options =>
          rw [present, Option.bind_some] at unnamed
          have absent : BaseUrl.ofOptions? options = none := unnamed
          dsimp only
          unfold BaseUrl.resolve
          rw [absent]

theorem value_findBaseDir_of_optionsFault (unstated : document.baseDir = none)
    (broken : OptionsFault disk directory cause) :
    (findBaseDir disk (some directory) document).value = .error cause := by
  unfold findBaseDir
  rw [unstated]
  exact value_find_of_optionsFault broken

theorem value_findBaseDir_eq_ok_some_iff {base : DiskPath} :
    (findBaseDir disk (some directory) document).value = .ok (some base) ↔
      ∃ codes, baseDirCodes? disk directory document = some codes ∧
        DirectoryName.resolve disk directory codes = .ok base := by
  cases named : baseDirCodes? disk directory document with
  | some codes =>
      rw [value_findBaseDir_of_codes named]
      cases resolved : DirectoryName.resolve disk directory codes <;> simp [Except.map, resolved]
  | none =>
      refine iff_of_false ?_ fun ⟨codes, absurdly, _⟩ => nomatch absurdly
      intro found
      by_cases broken : ∃ cause, OptionsFault disk directory cause
      · obtain ⟨cause, broken⟩ := broken
        have unstated := (Option.or_eq_none_iff.mp named).1
        exact nomatch found.symm.trans (value_findBaseDir_of_optionsFault unstated broken)
      · exact nomatch found.symm.trans (value_findBaseDir_of_no_codes named (not_exists.mp broken))

theorem value_ofValue_eq_ok_iff :
    (ofValue disk (some directory) value).value = .ok draft ↔
      ∃ document base, Document.ofValue value = .ok document ∧
        (findBaseDir disk (some directory) document).value = .ok (some base) ∧
        .ofDocument document base.render = draft := by
  unfold ofValue
  cases Document.ofValue value with
  | error fault => simp
  | ok document =>
      simp only [Traced.value_bind]
      cases found : (findBaseDir disk (some directory) document).value with
      | error other => simp [found]
      | ok base? => cases base? <;> simp [found]

/-- The message for a fault cannot be written because of the first part of a value that it cannot show. -/
def Unshown (disk : Disk) (fault : ShapeFault) (cause : Breakdown) : Prop :=
  Value.FirstBlocks (disk.limits.levels .shownValue) fault.parts cause

theorem value_loadDraft_of_read (read : readFile disk path = .ok (value, directory)) :
    (loadDraft disk path).value = (ofValue disk (some directory) value).value := by
  unfold loadDraft
  rw [read]

theorem value_loadDraft_of_fault {fault : Fault} (read : readFile disk path = .error fault) :
    (loadDraft disk path).value = .error fault := by
  unfold loadDraft
  rw [read]
  rfl

theorem value_load (disk : Disk) (path : DiskPath) :
    (load disk path).value = (loadDraft disk path).value.map Draft.toPolicy :=
  rfl

theorem value_validate (policy : Policy) :
    policy.validate.value =
      if policy.undeclared = [] then .ok (policy.warnings.map Warning.message)
      else .error (.undeclaredLayers policy.undeclared) := by
  unfold validate
  split <;> rfl

namespace Draft

/-- The texts of a draft, apart from its base directory. -/
def texts (draft : Draft) : List (List Nat) :=
  (draft.layers ++ draft.rules).flatMap (fun entry => entry.1 :: entry.2) ++ draft.excluded

/-- All texts of a draft consist of characters. -/
def IsPlain (draft : Draft) : Prop :=
  ∀ text ∈ draft.texts, ∀ code ∈ text, code.isValidChar

end Draft

end Stages

end Policy

namespace Project

/-- The system says that a path leads to no file. -/
structure Absent (disk : Disk) (path : DiskPath) : Prop where
  answered : ∀ fault, ¬ disk.Refuses path fault
  noFile : disk.isFile path = false

/-- The usual policy file of a directory. -/
def usualFile (root : DiskPath) : DiskPath :=
  root.join (.ofString "fences.yml")

/-- The policy file of a directory that counts if there is no usual one. -/
def hiddenFile (root : DiskPath) : DiskPath :=
  root.join (.ofString ".fences.yml")

/-- The policy file of a run: the one that is named, or else the first one of the usual names. -/
def Selects (disk : Disk) (root : DiskPath) (config : Option DiskPath) (path : DiskPath) : Prop :=
  match config with
  | some named => named = path ∧ disk.isFile path = true
  | none =>
      usualFile root = path ∧ disk.isFile path = true ∨
        Absent disk (usualFile root) ∧ hiddenFile root = path ∧ disk.isFile path = true

/-- The system does not say whether there is a policy file. -/
inductive Unanswered (disk : Disk) (root : DiskPath) : Option DiskPath → Breakdown → Prop
  | named {path : DiskPath} {fault : ReadFault} (refuses : disk.Refuses path fault) :
      Unanswered disk root (some path) (.refused fault path.render)
  | usual {fault : ReadFault} (refuses : disk.Refuses (usualFile root) fault) :
      Unanswered disk root none (.refused fault (usualFile root).render)
  | hidden {fault : ReadFault} (absent : Absent disk (usualFile root))
      (refuses : disk.Refuses (hiddenFile root) fault) :
      Unanswered disk root none (.refused fault (hiddenFile root).render)

/-- What a policy file in a directory states, if its document has the shape of a policy. -/
structure States (disk : Disk) (path directory : DiskPath) (document : Policy.Document) : Prop where
  place : disk.resolve path.parent = .ok directory
  shape : ∃ value, Policy.document? disk path = some value ∧ Policy.Document.ofValue value = .ok document

/-- The texts of the policy of a run consist of characters. -/
def IsPlain (disk : Disk) (root : DiskPath) (config : Option DiskPath) : Prop :=
  ∀ path draft, Selects disk root config path → (Policy.loadDraft disk path).value = .ok draft →
    draft.IsPlain

section Check

variable {disk : Disk} {root path : DiskPath} {config : Option DiskPath} {debug : Option Int}
  {cause : Breakdown}

theorem States.readFile {directory : DiskPath} {document : Policy.Document}
    (states : States disk path directory document) :
    ∃ value, Policy.readFile disk path = .ok (value, directory) ∧
      Policy.Document.ofValue value = .ok document := by
  obtain ⟨value, parsed, shaped⟩ := states.shape
  exact ⟨value, Policy.readFile_eq_ok_iff.mpr ⟨parsed, states.place⟩, shaped⟩

theorem value_loadDraft_eq_ok_iff {draft : Policy.Draft} :
    (Policy.loadDraft disk path).value = .ok draft ↔
      ∃ directory document codes base, States disk path directory document ∧
        Policy.baseDirCodes? disk directory document = some codes ∧
        DirectoryName.resolve disk directory codes = .ok base ∧
        .ofDocument document base.render = draft := by
  constructor
  · intro loaded
    cases read : Policy.readFile disk path with
    | error fault =>
        rw [Policy.value_loadDraft_of_fault read] at loaded
        exact nomatch loaded
    | ok pair =>
        obtain ⟨value, directory⟩ := pair
        rw [Policy.value_loadDraft_of_read read, Policy.value_ofValue_eq_ok_iff] at loaded
        obtain ⟨document, base, shaped, found, same⟩ := loaded
        obtain ⟨parsed, place⟩ := Policy.readFile_eq_ok_iff.mp read
        obtain ⟨codes, named, resolved⟩ := Policy.value_findBaseDir_eq_ok_some_iff.mp found
        exact ⟨directory, document, codes, base, ⟨place, value, parsed, shaped⟩, named, resolved, same⟩
  · rintro ⟨directory, document, codes, base, states, named, resolved, rfl⟩
    obtain ⟨value, read, shaped⟩ := states.readFile
    rw [Policy.value_loadDraft_of_read read, Policy.value_ofValue_eq_ok_iff]
    exact ⟨document, base, shaped,
      Policy.value_findBaseDir_eq_ok_some_iff.mpr ⟨codes, named, resolved⟩, rfl⟩

theorem value_load_eq_ok {draft : Policy.Draft} (loaded : (Policy.loadDraft disk path).value = .ok draft) :
    (Policy.load disk path).value = .ok draft.toPolicy := by
  rw [Policy.value_load, loaded]
  rfl

theorem value_check_of_load {policy : Policy} (loaded : (Policy.load disk path).value = .ok policy) :
    (check disk path debug).value =
      let policy := { policy with debug := debug.getD policy.debug }
      if policy.undeclared = [] then .ok ⟨policy, policy.warnings.map Policy.Warning.message⟩
      else .error (.invalidPolicy (.undeclaredLayers policy.undeclared)) := by
  simp only [check, Traced.value_bind, loaded, Policy.value_validate]
  by_cases declared : ({ policy with debug := debug.getD policy.debug } : Policy).undeclared = []
  · simp [declared]
  · simp [declared]

theorem Selects.isFile (selects : Selects disk root config path) : disk.isFile path = true := by
  cases config with
  | none =>
      obtain ⟨-, isFile⟩ | ⟨-, -, isFile⟩ := selects
      · exact isFile
      · exact isFile
  | some named => exact selects.2

theorem not_absent_of_isFile (isFile : disk.isFile path = true) : ¬ Absent disk path :=
  fun absent => nomatch absent.noFile.symm.trans isFile

theorem Selects.unique {other : DiskPath} (selects : Selects disk root config path)
    (also : Selects disk root config other) : other = path := by
  cases config with
  | some named => exact also.1.symm.trans selects.1
  | none =>
      obtain ⟨rfl, isFile⟩ | ⟨absent, rfl, isFile⟩ := selects
      · obtain ⟨rfl, -⟩ | ⟨absent, -, -⟩ := also
        · rfl
        · exact absurd absent (not_absent_of_isFile isFile)
      · obtain ⟨rfl, isFile⟩ | ⟨-, rfl, -⟩ := also
        · exact absurd absent (not_absent_of_isFile isFile)
        · rfl

theorem askFile_of_absent (absent : Absent disk path) : disk.askFile path = .ok false :=
  Disk.answer_eq_ok_iff.mpr ⟨absent.answered, absent.noFile⟩

theorem askFile_of_refuses {fault : ReadFault} (refuses : disk.Refuses path fault) :
    disk.askFile path = .error (.refused fault path.render) :=
  Disk.answer_eq_error_iff.mpr ⟨fault, refuses, rfl⟩

theorem policyPath_some (disk : Disk) (root path : DiskPath) :
    policyPath disk root (some path) = (do
      if ← (disk.askFile path).mapError .breakdown then pure (some path)
      else throw (.policyNotFound path.render)) :=
  rfl

theorem policyPath_none (disk : Disk) (root : DiskPath) :
    policyPath disk root none = Except.mapError .breakdown (do
      if ← disk.askFile (usualFile root) then pure (some (usualFile root))
      else if ← disk.askFile (hiddenFile root) then pure (some (hiddenFile root)) else pure none) :=
  rfl

theorem Selects.policyPath_eq (selects : Selects disk root config path) :
    policyPath disk root config = .ok (some path) := by
  have asked := Disk.askFile_eq_ok_true_iff.mpr selects.isFile
  cases config with
  | some named =>
      obtain ⟨rfl, -⟩ := selects
      rw [policyPath_some, asked]
      rfl
  | none =>
      obtain ⟨rfl, -⟩ | ⟨absent, rfl, -⟩ := selects
      · rw [policyPath_none, asked]
        rfl
      · rw [policyPath_none, askFile_of_absent absent, asked]
        rfl

theorem Unanswered.policyPath_eq (unanswered : Unanswered disk root config cause) :
    policyPath disk root config = .error (.breakdown cause) := by
  cases unanswered with
  | named refuses =>
      rw [policyPath_some, askFile_of_refuses refuses]
      rfl
  | usual refuses =>
      rw [policyPath_none, askFile_of_refuses refuses]
      rfl
  | hidden absent refuses =>
      rw [policyPath_none, askFile_of_absent absent, askFile_of_refuses refuses]
      rfl

theorem value_setUp_of_selects (selects : Selects disk root config path) :
    (setUp disk root config debug).value = ((check disk path debug).value).map some := by
  unfold setUp
  rw [selects.policyPath_eq]
  rfl

end Check

end Project

end LayerLint
