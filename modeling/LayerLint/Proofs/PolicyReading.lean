import LayerLint.Proofs.Configuration
import LayerLint.Proofs.DocumentShape
import LayerLint.Proofs.FileNames
import LayerLint.Proofs.PackageIdentity

/-!
# Policies from documents

A value becomes a policy exactly if it has the shape of a policy document and names a base directory,
itself or through the compiler options beside it. The policy then carries all that the document states.
Otherwise the fault of the first check that fails is reported, and a missing base directory only if the
shape is right. A report can fail to come: the message for a fault may have to show a value that is nested
too deep or a number with too many digits, and compiler options may be out of reach or hold such things.
-/

namespace LayerLint

namespace Table

variable {κ α : Type} {same : κ → κ → Bool} {key : κ} {value : α} {table : List (κ × α)}

theorem key_of_mem_put {entry : κ × α} (member : entry ∈ put same key value table) :
    entry.1 = key ∨ ∃ old ∈ table, old.1 = entry.1 := by
  induction table with
  | nil =>
      rw [put, List.mem_singleton] at member
      exact .inl (congrArg Prod.fst member)
  | cons first table ih =>
      rw [put] at member
      split_ifs at member with present
      · obtain rfl | member := List.mem_cons.mp member
        · exact .inr ⟨first, List.mem_cons_self, rfl⟩
        · exact .inr ⟨entry, List.mem_cons_of_mem first member, rfl⟩
      · obtain rfl | member := List.mem_cons.mp member
        · exact .inr ⟨first, List.mem_cons_self, rfl⟩
        · obtain isKey | ⟨old, isOld, sameKey⟩ := ih member
          · exact .inl isKey
          · exact .inr ⟨old, List.mem_cons_of_mem first isOld, sameKey⟩

theorem pairwise_put (apart : table.Pairwise fun first second => same first.1 second.1 = false) :
    (put same key value table).Pairwise fun first second => same first.1 second.1 = false := by
  induction table with
  | nil => exact List.pairwise_singleton _ _
  | cons first table ih =>
      obtain ⟨fromFirst, apart⟩ := List.pairwise_cons.mp apart
      rw [put]
      split_ifs with present
      · exact List.pairwise_cons.mpr ⟨fromFirst, apart⟩
      · refine List.pairwise_cons.mpr ⟨?_, ih apart⟩
        intro entry member
        obtain isKey | ⟨old, isOld, sameKey⟩ := key_of_mem_put member
        · rw [isKey]
          exact Bool.eq_false_of_not_eq_true present
        · rw [← sameKey]
          exact fromFirst old isOld

theorem pairwise_ofEntries (same : κ → κ → Bool) (entries : List (κ × α)) :
    (ofEntries same entries).Pairwise fun first second => same first.1 second.1 = false := by
  unfold ofEntries
  refine List.foldlRecOn entries _ .nil ?_
  intro table apart entry _
  exact pairwise_put apart

end Table

namespace Policy

open Document

section BaseDirectory

variable {disk : Disk} {directory : Option DiskPath} {value : Value} {document : Document}
  {codes : List Nat}

/-- The compiler options in a directory state a base directory: a text that is not empty. -/
inductive OptionsName (disk : Disk) (place : DiskPath) : List Nat → Prop
  | intro {text : List Char} {options compiler : Value} {scalar : Scalar} {codes : List Nat}
      (read : optionsText? disk place = some text)
      (parsed : Json.parse (Json.plainChars text) = .ok options)
      (inReach : ∀ nesting,
        ¬ Json.NestsBeyond (disk.limits.levels .jsonList) (Json.plainChars text) nesting)
      (inOptions : BaseUrl.member? options "compilerOptions" = some compiler)
      (inCompiler : BaseUrl.member? compiler "baseUrl" = some (.scalar scalar))
      (isText : scalar.toCodes? = some codes) (nonempty : codes ≠ []) : OptionsName disk place codes

/-- The code points that name the base directory of a document: its own, or else those in the compiler
options, if the directory of the document is known. -/
inductive NamesBaseDir (disk : Disk) (directory : Option DiskPath) (value : Value) : List Nat → Prop
  | own {codes : List Nat} (stated : StatesBaseDir (partOf value "base_dir") (some codes)) :
      NamesBaseDir disk directory value codes
  | options {place : DiskPath} {codes : List Nat}
      (unstated : StatesBaseDir (partOf value "base_dir") none) (known : directory = some place)
      (named : OptionsName disk place codes) : NamesBaseDir disk directory value codes

/-- The compiler options are asked for a base directory and cannot tell. -/
structure OptionsFail (disk : Disk) (directory : Option DiskPath) (value : Value) (cause : Breakdown) :
    Prop where
  unstated : StatesBaseDir (partOf value "base_dir") none
  broken : ∃ place, directory = some place ∧ OptionsFault disk place cause

/-- The directory from which a base directory is seen: the working directory if none is known. -/
def viewpoint (directory : Option DiskPath) : DiskPath :=
  directory.getD (.ofString ".")

theorem ofOptions?_eq_some_iff {options : Value} :
    BaseUrl.ofOptions? options = some codes ↔
      ∃ compiler scalar, BaseUrl.member? options "compilerOptions" = some compiler ∧
        BaseUrl.member? compiler "baseUrl" = some (.scalar scalar) ∧
        scalar.toCodes? = some codes ∧ codes ≠ [] := by
  unfold BaseUrl.ofOptions?
  constructor
  · intro stated
    split at stated
    next scalar found =>
      obtain ⟨compiler, inOptions, inCompiler⟩ := Option.bind_eq_some_iff.mp found
      obtain ⟨isText, nonempty⟩ := Option.filter_eq_some_iff.mp stated
      exact ⟨compiler, scalar, inOptions, inCompiler, isText, by simpa using nonempty⟩
    next => exact nomatch stated
  · rintro ⟨compiler, scalar, inOptions, inCompiler, isText, nonempty⟩
    rw [inOptions, Option.bind_some, inCompiler]
    exact Option.filter_eq_some_iff.mpr ⟨isText, by simpa using nonempty⟩

theorem optionsName_iff {place : DiskPath} :
    OptionsName disk place codes ↔
      ((options? disk place).bind fun read => read.toOption.bind BaseUrl.ofOptions?) = some codes := by
  unfold options?
  constructor
  · rintro ⟨read, parsed, inReach, inOptions, inCompiler, isText, nonempty⟩
    have stated := ofOptions?_eq_some_iff.mpr ⟨_, _, inOptions, inCompiler, isText, nonempty⟩
    rw [read, Option.map_some, Option.bind_some, Json.parseWithin_eq_ok_iff.mpr ⟨parsed, inReach⟩]
    exact stated
  · intro named
    obtain ⟨read, found, named⟩ := Option.bind_eq_some_iff.mp named
    obtain ⟨text, present, rfl⟩ := Option.map_eq_some_iff.mp found
    obtain ⟨options, parsed, named⟩ := Option.bind_eq_some_iff.mp named
    obtain ⟨parsed, inReach⟩ := Json.parseWithin_eq_ok_iff.mp (eq_ok_of_toOption parsed)
    obtain ⟨compiler, scalar, inOptions, inCompiler, isText, nonempty⟩ :=
      ofOptions?_eq_some_iff.mp named
    exact .intro present parsed inReach inOptions inCompiler isText nonempty

theorem namesBaseDir_some_iff (stated : States value document) {place : DiskPath} :
    NamesBaseDir disk (some place) value codes ↔ baseDirCodes? disk place document = some codes := by
  unfold baseDirCodes?
  rw [Option.or_eq_some_iff, ← optionsName_iff, ← stated.statesBaseDir_iff, ← stated.statesBaseDir_iff]
  constructor
  · rintro (own | ⟨unstated, known, named⟩)
    · exact .inl own
    · cases known
      exact .inr ⟨unstated, named⟩
  · rintro (own | ⟨unstated, named⟩)
    · exact .own own
    · exact .options unstated rfl named

theorem namesBaseDir_none_iff (stated : States value document) :
    NamesBaseDir disk none value codes ↔ document.baseDir = some codes := by
  rw [← stated.statesBaseDir_iff]
  constructor
  · rintro (own | ⟨_, known, _⟩)
    · exact own
    · exact nomatch known
  · exact .own

theorem value_findBaseDir_none :
    (findBaseDir disk none document).value =
      match document.baseDir with
      | some codes => (DirectoryName.resolve disk (.ofString ".") codes).map some
      | none => .ok none := by
  unfold findBaseDir
  cases document.baseDir <;> rfl

/-- The base directory is found where it is named. -/
theorem value_findBaseDir_of_names (stated : States value document)
    (named : NamesBaseDir disk directory value codes) :
    (findBaseDir disk directory document).value =
      (DirectoryName.resolve disk (viewpoint directory) codes).map some := by
  cases directory with
  | none =>
      rw [value_findBaseDir_none, (namesBaseDir_none_iff stated).mp named]
      rfl
  | some place => exact value_findBaseDir_of_codes ((namesBaseDir_some_iff stated).mp named)

theorem value_findBaseDir_of_optionsFail (stated : States value document) {cause : Breakdown}
    (fail : OptionsFail disk directory value cause) :
    (findBaseDir disk directory document).value = .error cause := by
  obtain ⟨place, rfl, broken⟩ := fail.broken
  exact value_findBaseDir_of_optionsFault (stated.statesBaseDir_iff.mp fail.unstated) broken

theorem value_findBaseDir_of_unnamed (stated : States value document)
    (unnamed : ∀ codes, ¬ NamesBaseDir disk directory value codes)
    (sound : ∀ cause, ¬ OptionsFail disk directory value cause) :
    (findBaseDir disk directory document).value = .ok none := by
  have unstated : document.baseDir = none := by
    cases own : document.baseDir with
    | none => rfl
    | some codes => exact absurd (.own (stated.statesBaseDir_iff.mpr own)) (unnamed codes)
  cases directory with
  | none => rw [value_findBaseDir_none, unstated]
  | some place =>
      refine value_findBaseDir_of_no_codes ?_ ?_
      · rw [Option.eq_none_iff_forall_ne_some]
        intro codes named
        exact unnamed codes ((namesBaseDir_some_iff stated).mpr named)
      · intro cause broken
        exact sound cause ⟨stated.statesBaseDir_iff.mpr unstated, place, rfl, broken⟩

end BaseDirectory

section RulesKey

variable {value other : Value} {document : Document} {key otherKey : String}
  {before after : List (Scalar × Value)} {rules : Value}

theorem find?_of_other_key {item : Value} (different : otherKey ≠ key) :
    Value.find? (before ++ (.text otherKey, item) :: after) key = Value.find? (before ++ after) key := by
  simp [Value.find?, List.find?_append, different]

theorem find?_of_own_key {item : Value} (free : ∀ entry ∈ before, entry.1 ≠ .text key) :
    Value.find? (before ++ (.text key, item) :: after) key = some item := by
  have absent : before.find? (fun entry => entry.1 == .text key) = none := by simpa using free
  simp [Value.find?, List.find?_append, absent]

/-- A document has its rules under one of the two keys, and no other entry for rules. -/
structure HasRulesUnder (key : String) (before : List (Scalar × Value)) (rules : Value)
    (after : List (Scalar × Value)) (value : Value) : Prop where
  isRulesKey : key = "rules" ∨ key = "allowlist"
  view : value.view = .table (before ++ (.text key, rules) :: after)
  only : ∀ entry ∈ before ++ after, entry.1 ≠ .text "rules" ∧ entry.1 ≠ .text "allowlist"

namespace HasRulesUnder

theorem entriesOf_eq (under : HasRulesUnder key before rules after value) :
    entriesOf value = before ++ (.text key, rules) :: after := by
  unfold entriesOf
  rw [under.view]

theorem partOf_eq (under : HasRulesUnder key before rules after value) {name : String}
    (apart : name ≠ "rules" ∧ name ≠ "allowlist") : partOf value name = part (before ++ after) name := by
  have different : key ≠ name := by
    rintro rfl
    exact under.isRulesKey.elim apart.1 apart.2
  unfold partOf part
  rw [under.entriesOf_eq, find?_of_other_key different]

theorem partOf_eq_partOf (under : HasRulesUnder key before rules after value)
    (underOther : HasRulesUnder otherKey before rules after other) {name : String}
    (apart : name ≠ "rules" ∧ name ≠ "allowlist") : partOf value name = partOf other name := by
  rw [under.partOf_eq apart, underOther.partOf_eq apart]

theorem foreignKeys_eq (under : HasRulesUnder key before rules after value) :
    foreignKeys value =
      ((before ++ after).map Prod.fst).filter fun key => key ∉ knownKeys.map Scalar.text := by
  have known : Scalar.text key ∈ knownKeys.map Scalar.text := by
    obtain rfl | rfl := under.isRulesKey <;> decide
  unfold foreignKeys
  rw [under.entriesOf_eq]
  simp only [List.map_append, List.map_cons, List.filter_append]
  rw [List.filter_cons_of_neg (by simpa using known)]

theorem eq_of_hasKey (under : HasRulesUnder key before rules after value)
    (isRulesKey : otherKey = "rules" ∨ otherKey = "allowlist") (present : HasKey value otherKey) :
    otherKey = key := by
  obtain ⟨item, member⟩ := present
  rw [under.entriesOf_eq, List.mem_append, List.mem_cons, or_left_comm, ← List.mem_append] at member
  obtain same | member := member
  · cases same
    rfl
  · have apart := under.only _ member
    obtain rfl | rfl := isRulesKey
    · exact absurd rfl apart.1
    · exact absurd rfl apart.2

theorem oneRulesKey (under : HasRulesUnder key before rules after value) :
    ¬ (HasKey value "rules" ∧ HasKey value "allowlist") := by
  rintro ⟨isRules, isAllowlist⟩
  have same := (under.eq_of_hasKey (.inl rfl) isRules).trans
    (under.eq_of_hasKey (.inr rfl) isAllowlist).symm
  exact absurd same (by decide)

theorem partOf_rulesKeyOf (under : HasRulesUnder key before rules after value) :
    partOf value (rulesKeyOf value) = rules := by
  have free : ∀ entry ∈ before, entry.1 ≠ .text key := by
    intro entry member
    have apart := under.only entry (List.mem_append_left after member)
    obtain rfl | rfl := under.isRulesKey
    · exact apart.1
    · exact apart.2
  have found : Value.find? (entriesOf value) key = some rules := by
    rw [under.entriesOf_eq, find?_of_own_key free]
  have isKey : rulesKeyOf value = key := by
    unfold rulesKeyOf rulesKey
    obtain rfl | rfl := under.isRulesKey
    · refine if_neg ?_
      rw [isSome_find?_iff]
      intro present
      exact absurd (under.eq_of_hasKey (.inr rfl) present) (by decide)
    · rw [found]
      rfl
  unfold partOf part
  rw [isKey, found, Option.getD_some]

/-- What a document states does not depend on the key of its rules. -/
theorem states (under : HasRulesUnder key before rules after value)
    (underOther : HasRulesUnder otherKey before rules after other) (stated : States value document) :
    States other document where
  isTable := .inr ⟨_, underOther.view⟩
  known := by
    rw [underOther.foreignKeys_eq, ← under.foreignKeys_eq]
    exact stated.known
  oneRulesKey := underOther.oneRulesKey
  layers := by
    rw [← under.partOf_eq_partOf underOther (by decide)]
    exact stated.layers
  rules := by
    rw [underOther.partOf_rulesKeyOf, ← under.partOf_rulesKeyOf]
    exact stated.rules
  excluded := by
    rw [← under.partOf_eq_partOf underOther (by decide)]
    exact stated.excluded
  debug := by
    rw [← under.partOf_eq_partOf underOther (by decide)]
    exact stated.debug
  baseDir := by
    rw [← under.partOf_eq_partOf underOther (by decide)]
    exact stated.baseDir

end HasRulesUnder

end RulesKey

section Outcomes

variable {disk : Disk} {directory : Option DiskPath} {value other : Value} {document : Document}
  {draft : Draft} {result : Except Fault Draft}

/-- What reading a value as the policy document of a directory comes to. -/
inductive Reads (disk : Disk) (directory : Option DiskPath) (value : Value) : Except Fault Draft → Prop
  | policy {document : Document} {codes : List Nat} {path : DiskPath} (stated : States value document)
      (named : NamesBaseDir disk directory value codes)
      (resolved : DirectoryName.resolve disk (viewpoint directory) codes = .ok path) :
      Reads disk directory value (.ok (.ofDocument document path.render))
  | missing {document : Document} (stated : States value document)
      (unnamed : ∀ codes, ¬ NamesBaseDir disk directory value codes)
      (sound : ∀ cause, ¬ OptionsFail disk directory value cause) :
      Reads disk directory value (.error (.config .missingBaseDir))
  | options {document : Document} {cause : Breakdown} (stated : States value document)
      (fail : OptionsFail disk directory value cause) :
      Reads disk directory value (.error (.breakdown cause))
  | misshapen {fault : ShapeFault} (fails : FirstFails value Check.order fault)
      (shown : ∀ cause, ¬ Unshown disk fault cause) :
      Reads disk directory value (.error (.config (.shape fault)))
  | unshown {fault : ShapeFault} {cause : Breakdown} (fails : FirstFails value Check.order fault)
      (unshown : Unshown disk fault cause) :
      Reads disk directory value (.error (.breakdown cause))

theorem value_ofValue_of_states (stated : States value document) :
    (ofValue disk directory value).value =
      match (findBaseDir disk directory document).value with
      | .ok (some path) => .ok (.ofDocument document path.render)
      | .ok none => .error (.config .missingBaseDir)
      | .error cause => .error (.breakdown cause) := by
  unfold ofValue
  rw [Document.ofValue_eq_ok_iff.mpr stated]
  dsimp only [Traced.value_bind]
  cases (findBaseDir disk directory document).value with
  | error cause => rfl
  | ok base? => cases base? <;> rfl

theorem value_ofValue_of_firstFails {fault : ShapeFault} (fails : FirstFails value Check.order fault) :
    (ofValue disk directory value).value =
      .error (.ofShape (disk.limits.levels .shownValue) fault) := by
  unfold ofValue
  rw [Document.ofValue_eq_error_iff.mpr fails]
  rfl

theorem Reads.value_ofValue (reads : Reads disk directory value result) :
    (ofValue disk directory value).value = result := by
  cases reads with
  | policy stated named resolved =>
      rw [value_ofValue_of_states stated, value_findBaseDir_of_names stated named, resolved]
      rfl
  | missing stated unnamed sound =>
      rw [value_ofValue_of_states stated, value_findBaseDir_of_unnamed stated unnamed sound]
  | options stated fail =>
      rw [value_ofValue_of_states stated, value_findBaseDir_of_optionsFail stated fail]
  | misshapen fails shown =>
      rw [value_ofValue_of_firstFails fails, Fault.ofShape, ShapeFault.obstacle?_eq_none_iff.mpr shown]
  | unshown fails unshown =>
      rw [value_ofValue_of_firstFails fails, Fault.ofShape, ShapeFault.obstacle?_eq_some_iff.mpr unshown]

/-- The base directory that a document names is given by characters and can be made absolute. -/
def Resolves (disk : Disk) (directory : Option DiskPath) (value : Value) : Prop :=
  ∀ document codes, States value document → NamesBaseDir disk directory value codes →
    (∀ code ∈ codes, code.isValidChar) ∧
      ∃ path, DirectoryName.resolve disk (viewpoint directory) codes = .ok path

theorem exists_reads (resolves : Resolves disk directory value) :
    ∃ result, Reads disk directory value result := by
  cases read : Document.ofValue value with
  | error fault =>
      have fails := Document.ofValue_eq_error_iff.mp read
      by_cases unshown : ∃ cause, Unshown disk fault cause
      · obtain ⟨cause, unshown⟩ := unshown
        exact ⟨_, .unshown fails unshown⟩
      · exact ⟨_, .misshapen fails (not_exists.mp unshown)⟩
  | ok document =>
      have stated := Document.ofValue_eq_ok_iff.mp read
      by_cases named : ∃ codes, NamesBaseDir disk directory value codes
      · obtain ⟨codes, named⟩ := named
        obtain ⟨-, path, resolved⟩ := resolves document codes stated named
        exact ⟨_, .policy stated named resolved⟩
      · by_cases fail : ∃ cause, OptionsFail disk directory value cause
        · obtain ⟨cause, fail⟩ := fail
          exact ⟨_, .options stated fail⟩
        · exact ⟨_, .missing stated (not_exists.mp named) (not_exists.mp fail)⟩

theorem value_ofValue_eq_iff_reads (resolves : Resolves disk directory value) :
    (ofValue disk directory value).value = result ↔ Reads disk directory value result := by
  constructor
  · rintro rfl
    obtain ⟨result, reads⟩ := exists_reads resolves
    rw [reads.value_ofValue]
    exact reads
  · exact Reads.value_ofValue

section RenamedRules

variable {key otherKey : String} {before after : List (Scalar × Value)} {rules : Value}

theorem NamesBaseDir.of_hasRulesUnder {codes : List Nat}
    (under : HasRulesUnder key before rules after value)
    (underOther : HasRulesUnder otherKey before rules after other)
    (named : NamesBaseDir disk directory value codes) : NamesBaseDir disk directory other codes := by
  have same : partOf value "base_dir" = partOf other "base_dir" :=
    under.partOf_eq_partOf underOther (by decide)
  cases named with
  | own stated => exact .own (same ▸ stated)
  | options unstated known named => exact .options (same ▸ unstated) known named

theorem Resolves.of_hasRulesUnder (under : HasRulesUnder key before rules after value)
    (underOther : HasRulesUnder otherKey before rules after other)
    (resolves : Resolves disk directory value) : Resolves disk directory other := by
  intro document codes stated named
  exact resolves document codes (underOther.states under stated) (named.of_hasRulesUnder underOther under)

theorem Reads.of_hasRulesUnder (under : HasRulesUnder key before rules after value)
    (underOther : HasRulesUnder otherKey before rules after other)
    (reads : Reads disk directory value (.ok draft)) : Reads disk directory other (.ok draft) := by
  cases reads with
  | policy stated named resolved =>
      exact .policy (under.states underOther stated) (named.of_hasRulesUnder under underOther) resolved

end RenamedRules

end Outcomes

section Content

variable {disk : Disk} {directory : Option DiskPath} {value : Value} {draft : Draft}

/-- No two keys of a table are the same. -/
def HasDistinctKeys (value : Value) : Prop :=
  ∀ entries, value.view = .table entries →
    entries.Pairwise fun first second => first.1.sameKey second.1 = false

/-- Writing entries one after the other keeps the keys apart. -/
theorem hasDistinctKeys_ofEntries (entries : List (Scalar × Value)) :
    HasDistinctKeys (Value.ofEntries entries) := by
  intro table isTable
  cases isTable
  exact Table.pairwise_ofEntries _ _

/-- A policy has all that a document states, in the order of the document. -/
structure Carries (disk : Disk) (directory : Option DiskPath) (value : Value) (draft : Draft) :
    Prop where
  layers : StatesTable (partOf value "layers") draft.layers
  distinct : HasDistinctKeys (partOf value "layers") → (draft.layers.map Prod.fst).Nodup
  rules : StatesTable (partOf value (rulesKeyOf value)) draft.rules
  excluded : StatesTexts (partOf value "excluded") draft.excluded
  debug : StatesDebug (partOf value "debug") draft.debug
  baseDir : ∃ codes path, NamesBaseDir disk directory value codes ∧
    DirectoryName.resolve disk (viewpoint directory) codes = .ok path ∧
    draft.baseDir = NormalPath.normalize path.render
  isNormal : NormalPath.normalize draft.baseDir = draft.baseDir
  isAbsolute : draft.baseDir.toList.head? = some '/'

/-- Two keys with the same code points are the same. -/
theorem sameKey_of_toCodes? {first second : Scalar} {codes : List Nat}
    (isText : first.toCodes? = some codes) (otherText : second.toCodes? = some codes) :
    first.sameKey second = true := by
  have same {left right : String} (agree : left.toList.map Char.toNat = right.toList.map Char.toNat) :
      left = right :=
    String.toList_inj.mp (List.map_injective_iff.mpr (fun _ _ => Char.toNat_inj.mp) agree)
  cases first <;> cases second
  case text.text left right =>
    rw [same (Option.some.inj (isText.trans otherText.symm))]
    simp [Scalar.sameKey]
  all_goals simp_all [Scalar.toCodes?, Scalar.sameKey]

theorem map_toCodes?_of_statesEntry {entries : List (Scalar × Value)}
    {named : List (List Nat × List (List Nat))} (agree : List.Forall₂ StatesEntry entries named) :
    (entries.map fun entry => entry.1.toCodes?) = (named.map Prod.fst).map some := by
  induction agree with
  | nil => rfl
  | cons stated agree ih => rw [List.map_cons, List.map_cons, List.map_cons, stated.name, ih]

theorem nodup_of_statesEntry {entries : List (Scalar × Value)} {named : List (List Nat × List (List Nat))}
    (agree : List.Forall₂ StatesEntry entries named)
    (apart : entries.Pairwise fun first second => first.1.sameKey second.1 = false) :
    (named.map Prod.fst).Nodup := by
  have apart : (entries.map fun entry => entry.1.toCodes?).Pairwise fun first second =>
      ∀ codes, first = some codes → second ≠ some codes := by
    rw [List.pairwise_map]
    refine apart.imp ?_
    intro first second different codes isText otherText
    exact nomatch (sameKey_of_toCodes? isText otherText).symm.trans different
  rw [map_toCodes?_of_statesEntry agree, List.pairwise_map] at apart
  refine apart.imp ?_
  rintro first second different rfl
  exact different first rfl rfl

theorem nodup_of_statesTable {named : List (List Nat × List (List Nat))}
    (stated : StatesTable value named) (distinct : HasDistinctKeys value) :
    (named.map Prod.fst).Nodup := by
  cases stated with
  | nothing => exact List.nodup_nil
  | entries isTable agree => exact nodup_of_statesEntry agree (distinct _ isTable)

theorem resolve_of_directoryName_resolve {place path : DiskPath} {codes : List Nat}
    (resolved : DirectoryName.resolve disk place codes = .ok path) :
    disk.resolve (DirectoryName.path place codes) = .ok path := by
  unfold DirectoryName.resolve at resolved
  split at resolved
  · exact resolved
  · dsimp only at resolved
    split_ifs at resolved
    obtain ⟨before, -, resolved⟩ := bind_eq_ok_iff.mp resolved
    exact nomatch resolved

theorem head?_normalize_render {path : DiskPath} (single : path.root = .single) :
    (NormalPath.normalize path.render).toList.head? = some '/' := by
  obtain ⟨root, names⟩ := path
  cases single
  rw [NormalPath.toList_normalize, ← NormalPath.isAbsolute_rootOfPath_iff]
  unfold NormalPath.rootOfPath
  rw [NormalPath.isAbsolute_rootOf_iff]
  have text := DiskPath.toList_render_absolute names
  unfold DiskPath.absolute at text
  rw [text]
  rfl

theorem Reads.carries (reads : Reads disk directory value (.ok draft)) :
    Carries disk directory value draft := by
  cases reads with
  | @policy document codes path stated named resolved =>
      exact
        { layers := stated.layers
          distinct := nodup_of_statesTable stated.layers
          rules := stated.rules
          excluded := stated.excluded
          debug := stated.debug
          baseDir := ⟨codes, path, named, resolved, rfl⟩
          isNormal := NormalPath.normalize_normalize _
          isAbsolute := head?_normalize_render
            (Disk.root_of_resolve (resolve_of_directoryName_resolve resolved)) }

/-- If the base directory that is named can be made absolute, reading a value gives a policy exactly if
the value has the shape of a policy document and names a base directory. The policy carries what the
document states, whichever key the rules have. The fault that is reported otherwise is the missing base
directory if the shape is right, and else that of the first check that fails. Only a value that the message
of a fault cannot show, or compiler options that cannot tell, end the reading without a report. -/
theorem ofValue_accepts_stated_shape (disk : Disk) (directory : Option DiskPath) (value : Value)
    (resolves : Resolves disk directory value) :
    let read := (ofValue disk directory value).value
    ((∃ draft, read = .ok draft) ↔
        (∃ document, States value document) ∧ ∃ codes, NamesBaseDir disk directory value codes) ∧
      (∀ draft, read = .ok draft → Carries disk directory value draft) ∧
      (∀ other before rules after draft, HasRulesUnder "rules" before rules after value →
        HasRulesUnder "allowlist" before rules after other →
        (read = .ok draft ↔ (ofValue disk directory other).value = .ok draft)) ∧
      (∀ fault, read = .error (.config fault) ↔
        (fault = .missingBaseDir ∧ (∃ document, States value document) ∧
          (∀ codes, ¬ NamesBaseDir disk directory value codes) ∧
          ∀ cause, ¬ OptionsFail disk directory value cause) ∨
        ∃ shape, fault = .shape shape ∧ FirstFails value Check.order shape ∧
          ∀ cause, ¬ Unshown disk shape cause) ∧
      ∀ cause, read = .error (.breakdown cause) ↔
        ((∃ document, States value document) ∧ OptionsFail disk directory value cause) ∨
        ∃ shape, FirstFails value Check.order shape ∧ Unshown disk shape cause := by
  intro read
  have reads_iff : ∀ {result}, read = result ↔ Reads disk directory value result :=
    value_ofValue_eq_iff_reads resolves
  refine ⟨?_, ?_, ?_, ?_, ?_⟩
  · constructor
    · rintro ⟨draft, done⟩
      obtain ⟨stated, named, resolved⟩ := reads_iff.mp done
      exact ⟨⟨_, stated⟩, _, named⟩
    · rintro ⟨⟨document, stated⟩, codes, named⟩
      obtain ⟨-, path, resolved⟩ := resolves document codes stated named
      exact ⟨_, Reads.value_ofValue (.policy stated named resolved)⟩
  · intro draft done
    exact (reads_iff.mp done).carries
  · intro other before rules after draft under underOther
    rw [reads_iff, value_ofValue_eq_iff_reads (resolves.of_hasRulesUnder under underOther)]
    exact ⟨fun reads => reads.of_hasRulesUnder under underOther,
      fun reads => reads.of_hasRulesUnder underOther under⟩
  · intro fault
    constructor
    · intro done
      cases reads_iff.mp done with
      | missing stated unnamed sound => exact .inl ⟨rfl, ⟨_, stated⟩, unnamed, sound⟩
      | misshapen fails shown => exact .inr ⟨_, rfl, fails, shown⟩
    · rintro (⟨rfl, ⟨document, stated⟩, unnamed, sound⟩ | ⟨shape, rfl, fails, shown⟩)
      · exact Reads.value_ofValue (.missing stated unnamed sound)
      · exact Reads.value_ofValue (.misshapen fails shown)
  · intro cause
    constructor
    · intro done
      cases reads_iff.mp done with
      | options stated fail => exact .inl ⟨⟨_, stated⟩, fail⟩
      | unshown fails unshown => exact .inr ⟨_, fails, unshown⟩
    · rintro (⟨⟨document, stated⟩, fail⟩ | ⟨shape, fails, unshown⟩)
      · exact Reads.value_ofValue (.options stated fail)
      · exact Reads.value_ofValue (.unshown fails unshown)

/-- A document with two layers, one of them written twice and one with half of a surrogate pair for a
name, whose base directory is named in the compiler options beside it. -/
theorem ofValue_accepts_stated_shape_with_base_url :
    let options := Text.Utf8.encode "\x7b\"compilerOptions\": \x7b\"baseUrl\": \"src\"\x7d\x7d"
    let disk : Disk :=
      { top := .directory [("p", .directory [("tsconfig.json", .file options true)])]
        workingDir := ["p"] }
    let layers : Value := .ofEntries
      [(.text "ui", .list []), (.codes [0xd800], .null), (.text "ui", .list [.text "ui/**", .text "app"])]
    let rules : Value := .table [(.text "ui", .list [.scalar (.codes [0xd800])])]
    let value : Value := .table [(.text "layers", layers), (.text "rules", rules)]
    let other : Value := .table [(.text "layers", layers), (.text "allowlist", rules)]
    let draft : Draft :=
      { baseDir := "/p/src"
        layers := [("ui".toList.map Char.toNat, ["ui/**", "app"].map fun text => text.toList.map Char.toNat),
          ([0xd800], [])]
        rules := [("ui".toList.map Char.toNat, [[0xd800]])] }
    Resolves disk (some (.ofString "/p")) value ∧
      (ofValue disk (some (.ofString "/p")) value).value = .ok draft ∧
      Carries disk (some (.ofString "/p")) value draft ∧ (draft.layers.map Prod.fst).Nodup ∧
      (ofValue disk (some (.ofString "/p")) other).value = .ok draft := by
  intro options disk layers rules value other draft
  let document : Document := ⟨draft.layers, draft.rules, [], 0, none⟩
  have stated : States value document := Document.ofValue_eq_ok_iff.mp rfl
  have codes : baseDirCodes? disk (.ofString "/p") document = some [115, 114, 99] := by decide +kernel
  have resolves : Resolves disk (some (.ofString "/p")) value := by
    intro _ found _ named
    have same := (namesBaseDir_some_iff stated).mp named
    cases codes.symm.trans same
    exact ⟨by decide, .ofString "/p/src", eq_ok_of_toOption (by decide +kernel)⟩
  have done : (ofValue disk (some (.ofString "/p")) value).value = .ok draft :=
    eq_ok_of_toOption (by decide +kernel)
  obtain ⟨-, carries, renames, -, -⟩ :=
    ofValue_accepts_stated_shape disk (some (.ofString "/p")) value resolves
  have under : HasRulesUnder "rules" [(.text "layers", layers)] rules [] value :=
    ⟨.inl rfl, rfl, by simp⟩
  have underOther : HasRulesUnder "allowlist" [(.text "layers", layers)] rules [] other :=
    ⟨.inr rfl, rfl, by simp⟩
  have carried := carries draft done
  have distinct : HasDistinctKeys (partOf value "layers") := hasDistinctKeys_ofEntries _
  exact ⟨resolves, done, carried, carried.distinct distinct,
    (renames other _ _ _ draft under underOther).mp done⟩

/-- A pattern that is a number with too many digits is a fault of the layers, but there is no message
for it. -/
theorem ofValue_breaks_off_at_long_pattern :
    let long : Value := .scalar (.int (Int.ofNat (Nat.pow 10 4300)))
    let value : Value := .table [(.text "layers", .table [(.text "ui", .list [long])])]
    FirstFails value Check.order (.itemNotText ⟨"layers", "ui".toList.map Char.toNat⟩ 0 long) ∧
      ∀ disk : Disk, 0 < disk.limits.levels .shownValue → ∀ directory,
        (ofValue disk directory value).value = .error (.breakdown .tooLongToWrite) := by
  intro long value
  have fails : FirstFails value Check.order (.itemNotText ⟨"layers", "ui".toList.map Char.toNat⟩ 0 long) :=
    Document.ofValue_eq_error_iff.mp rfl
  have tooLong : Nat.pow 10 Number.maxDigits ≤ (Int.ofNat (Nat.pow 10 4300)).natAbs := by decide +kernel
  refine ⟨fails, fun disk enough directory => Reads.value_ofValue (.unshown fails ?_)⟩
  exact ⟨[], _, [], rfl, .tooLong enough tooLong, by simp⟩

end Content

end Policy
end LayerLint
