import LayerLint.Policy.Document
import LayerLint.Proofs.Outcomes

/-!
# The shape of a policy document

What a value has to look like to be a policy document, said key by key and apart from the reading of it,
and the faults of a value that does not look like it. Reading a value succeeds exactly if it has the
shape, with the texts of the value in their order. Otherwise it ends with the fault of the first check
that fails.
-/

namespace LayerLint

namespace Policy
namespace Document

section Parts

variable {place : ListPlace} {part : String} {value : Value} {fault : ShapeFault}

/-- The texts that a value lists. -/
inductive StatesTexts (value : Value) : List (List Nat) → Prop
  | nothing (isNull : value.view = .null) : StatesTexts value []
  | items {items : List Value} {texts : List (List Nat)} (isList : value.view = .list items)
      (agree : List.Forall₂ (fun item text => item.toCodes? = some text) items texts) :
      StatesTexts value texts

/-- A value lists no texts: it is of another kind, or it has a first item that is no text. -/
inductive TextsFault (place : ListPlace) (value : Value) : ShapeFault → Prop
  | kind (notNull : value.view ≠ .null) (notList : ∀ items, value.view ≠ .list items) :
      TextsFault place value (.notTextList place)
  | item {before after : List Value} {item : Value}
      (isList : value.view = .list (before ++ item :: after))
      (sound : ∀ earlier ∈ before, ∃ text, earlier.toCodes? = some text)
      (notText : item.toCodes? = none) : TextsFault place value (.itemNotText place before.length item)

/-- The text of one item. -/
def readItem (place : ListPlace) (index : Nat) (item : Value) : Except ShapeFault (List Nat) :=
  match item.toCodes? with
  | some text => .ok text
  | none => .error (.itemNotText place index item)

theorem readItem_eq_ok_iff {index : Nat} {item : Value} {text : List Nat} :
    readItem place index item = .ok text ↔ item.toCodes? = some text := by
  unfold readItem
  cases item.toCodes? <;> simp

theorem readItem_eq_error_iff {index : Nat} {item : Value} :
    readItem place index item = .error fault ↔
      item.toCodes? = none ∧ fault = .itemNotText place index item := by
  unfold readItem
  cases item.toCodes? <;> simp [eq_comm]

theorem isWalk_texts (place : ListPlace) : IsWalk (readItem place) (texts place) where
  nil _ := by rw [texts]
  cons index item items := by
    rw [texts, readItem]
    cases item.toCodes? <;> rfl

theorem texts_eq_ok_iff {items : List Value} {found : List (List Nat)} :
    texts place 0 items = .ok found ↔
      List.Forall₂ (fun item text => item.toCodes? = some text) items found :=
  (isWalk_texts place).eq_ok_iff readItem_eq_ok_iff 0

theorem texts_eq_error_iff {items : List Value} :
    texts place 0 items = .error fault ↔
      ∃ before item after, items = before ++ item :: after ∧
        (∀ earlier ∈ before, ∃ text, earlier.toCodes? = some text) ∧ item.toCodes? = none ∧
        fault = .itemNotText place before.length item := by
  rw [(isWalk_texts place).eq_error_iff readItem_eq_ok_iff 0]
  simp only [readItem_eq_error_iff, Nat.zero_add]

theorem textList_eq_ok_iff {found : List (List Nat)} :
    textList place value = .ok found ↔ StatesTexts value found := by
  unfold textList
  constructor
  · intro read
    split at read
    next isNull =>
      cases read
      exact .nothing isNull
    next items isList => exact .items isList (texts_eq_ok_iff.mp read)
    next => exact nomatch read
  · rintro (isNull | ⟨isList, agree⟩)
    · rw [isNull]
      rfl
    · rw [isList]
      exact texts_eq_ok_iff.mpr agree

theorem textList_eq_error_iff :
    textList place value = .error fault ↔ TextsFault place value fault := by
  unfold textList
  constructor
  · intro failed
    split at failed
    next => exact nomatch failed
    next items isList =>
      obtain ⟨before, item, after, rfl, sound, notText, rfl⟩ := texts_eq_error_iff.mp failed
      exact .item isList sound notText
    next notNull notList =>
      cases failed
      exact .kind notNull notList
  · rintro (⟨notNull, notList⟩ | ⟨isList, sound, notText⟩)
    · split
      next isNull => exact absurd isNull notNull
      next items isList => exact absurd isList (notList items)
      next => rfl
    · rw [isList]
      exact texts_eq_error_iff.mpr ⟨_, _, _, rfl, sound, notText, rfl⟩

/-- An entry of a table states a named list. -/
structure StatesEntry (entry : Scalar × Value) (named : List Nat × List (List Nat)) : Prop where
  name : entry.1.toCodes? = some named.1
  texts : StatesTexts entry.2 named.2

/-- The named lists of a value, in the order of its entries. -/
inductive StatesTable (value : Value) : List (List Nat × List (List Nat)) → Prop
  | nothing (isNull : value.view = .null) : StatesTable value []
  | entries {entries : List (Scalar × Value)} {named : List (List Nat × List (List Nat))}
      (isTable : value.view = .table entries) (agree : List.Forall₂ StatesEntry entries named) :
      StatesTable value named

/-- The fault of an entry that states no named list. -/
inductive EntryFault (part : String) : Scalar × Value → ShapeFault → Prop
  | key {key : Scalar} {value : Value} (notText : key.toCodes? = none) :
      EntryFault part (key, value) (.keyNotText part key)
  | texts {key : Scalar} {value : Value} {name : List Nat} {fault : ShapeFault}
      (named : key.toCodes? = some name) (bad : TextsFault ⟨part, name⟩ value fault) :
      EntryFault part (key, value) fault

/-- A value has no named lists: it is of another kind, or it has a first entry with a fault. -/
inductive TableFault (part : String) (value : Value) : ShapeFault → Prop
  | kind (notNull : value.view ≠ .null) (notTable : ∀ entries, value.view ≠ .table entries) :
      TableFault part value (.notNamedLists part)
  | entry {before after : List (Scalar × Value)} {entry : Scalar × Value} {fault : ShapeFault}
      (isTable : value.view = .table (before ++ entry :: after))
      (sound : ∀ earlier ∈ before, ∃ named, StatesEntry earlier named)
      (bad : EntryFault part entry fault) : TableFault part value fault

/-- The named list of one entry. -/
def readEntry (part : String) (entry : Scalar × Value) :
    Except ShapeFault (List Nat × List (List Nat)) :=
  match entry.1.toCodes? with
  | some name => do
      let items ← textList ⟨part, name⟩ entry.2
      pure (name, items)
  | none => .error (.keyNotText part entry.1)

theorem readEntry_eq_ok_iff {entry : Scalar × Value} {named : List Nat × List (List Nat)} :
    readEntry part entry = .ok named ↔ StatesEntry entry named := by
  unfold readEntry
  constructor
  · intro read
    split at read
    next name isText =>
      obtain ⟨items, listed, read⟩ := bind_eq_ok_iff.mp read
      cases read
      exact ⟨isText, textList_eq_ok_iff.mp listed⟩
    next => exact nomatch read
  · intro stated
    rw [stated.name]
    dsimp only
    rw [textList_eq_ok_iff.mpr stated.texts]
    rfl

theorem readEntry_eq_error_iff {entry : Scalar × Value} :
    readEntry part entry = .error fault ↔ EntryFault part entry fault := by
  unfold readEntry
  constructor
  · intro failed
    split at failed
    next name isText =>
      obtain failed | ⟨items, -, failed⟩ := bind_eq_error_iff.mp failed
      · exact .texts isText (textList_eq_error_iff.mp failed)
      · exact nomatch failed
    next notText =>
      cases failed
      exact .key notText
  · intro bad
    cases bad with
    | key notText => rw [notText]
    | texts named bad =>
        rw [named]
        exact bind_eq_error_iff.mpr (.inl (textList_eq_error_iff.mpr bad))

theorem isWalk_namedLists (part : String) :
    IsWalk (fun _ => readEntry part) fun _ => namedLists part where
  nil _ := by rw [namedLists]
  cons _ entry entries := by
    rw [namedLists, readEntry]
    cases entry.1.toCodes? with
    | none => rfl
    | some name =>
        dsimp only
        cases textList ⟨part, name⟩ entry.2 <;> rfl

theorem namedLists_eq_ok_iff {entries : List (Scalar × Value)} {found : List (List Nat × List (List Nat))} :
    namedLists part entries = .ok found ↔ List.Forall₂ StatesEntry entries found :=
  (isWalk_namedLists part).eq_ok_iff readEntry_eq_ok_iff 0

theorem namedLists_eq_error_iff {entries : List (Scalar × Value)} :
    namedLists part entries = .error fault ↔
      ∃ before entry after, entries = before ++ entry :: after ∧
        (∀ earlier ∈ before, ∃ named, StatesEntry earlier named) ∧ EntryFault part entry fault := by
  rw [(isWalk_namedLists part).eq_error_iff readEntry_eq_ok_iff 0]
  simp only [readEntry_eq_error_iff]

theorem namedListTable_eq_ok_iff {found : List (List Nat × List (List Nat))} :
    namedListTable part value = .ok found ↔ StatesTable value found := by
  unfold namedListTable
  constructor
  · intro read
    split at read
    next isNull =>
      cases read
      exact .nothing isNull
    next entries isTable => exact .entries isTable (namedLists_eq_ok_iff.mp read)
    next => exact nomatch read
  · rintro (isNull | ⟨isTable, agree⟩)
    · rw [isNull]
      rfl
    · rw [isTable]
      exact namedLists_eq_ok_iff.mpr agree

theorem namedListTable_eq_error_iff :
    namedListTable part value = .error fault ↔ TableFault part value fault := by
  unfold namedListTable
  constructor
  · intro failed
    split at failed
    next => exact nomatch failed
    next entries isTable =>
      obtain ⟨before, entry, after, rfl, sound, bad⟩ := namedLists_eq_error_iff.mp failed
      exact .entry isTable sound bad
    next notNull notTable =>
      cases failed
      exact .kind notNull notTable
  · rintro (⟨notNull, notTable⟩ | ⟨isTable, sound, bad⟩)
    · split
      next isNull => exact absurd isNull notNull
      next entries isTable => exact absurd isTable (notTable entries)
      next => rfl
    · rw [isTable]
      exact namedLists_eq_error_iff.mpr ⟨_, _, _, rfl, sound, bad⟩

/-- A value states a debug number. -/
inductive StatesDebug (value : Value) : Int → Prop
  | nothing (isNull : value = .null) : StatesDebug value 0
  | number {number : Int} (isInt : value = .scalar (.int number)) (nonneg : 0 ≤ number) :
      StatesDebug value number

theorem debugNumber_eq_ok_iff {number : Int} :
    debugNumber value = .ok number ↔ StatesDebug value number := by
  constructor
  · intro read
    unfold debugNumber at read
    split at read
    next =>
      cases read
      exact .nothing rfl
    next number =>
      cases read
      exact .number rfl (Int.natCast_nonneg number)
    next => exact nomatch read
  · rintro (rfl | ⟨rfl, nonneg⟩)
    · rfl
    · obtain ⟨natural, rfl⟩ := Int.eq_ofNat_of_zero_le nonneg
      rfl

theorem debugNumber_eq_error_iff :
    debugNumber value = .error fault ↔
      (∀ number, ¬ StatesDebug value number) ∧ fault = .badDebug value := by
  have isOnly : ∀ {fault}, debugNumber value = .error fault → fault = .badDebug value := by
    intro fault failed
    unfold debugNumber at failed
    split at failed
    · exact nomatch failed
    · exact nomatch failed
    · exact (Except.error.inj failed).symm
  rw [eq_error_iff_of_only isOnly]
  simp only [ne_eq, debugNumber_eq_ok_iff]

/-- A value states how the base directory is named, if it is: by a text that is not blank. -/
inductive StatesBaseDir (value : Value) : Option (List Nat) → Prop
  | nothing (isNull : value = .null) : StatesBaseDir value none
  | text {scalar : Scalar} {codes : List Nat} (isScalar : value = .scalar scalar)
      (isText : scalar.toCodes? = some codes)
      (notBlank : ∃ code ∈ codes, Text.isBlank (Char.ofNat code) = false) :
      StatesBaseDir value (some codes)

theorem baseDirectory_eq_ok_iff {codes? : Option (List Nat)} :
    baseDirectory value = .ok codes? ↔ StatesBaseDir value codes? := by
  constructor
  · intro read
    unfold baseDirectory at read
    split at read
    next =>
      cases read
      exact .nothing rfl
    next scalar notNull =>
      split at read
      next codes isText =>
        split_ifs at read with blank
        cases read
        refine .text rfl isText ?_
        simpa using blank
      next => exact nomatch read
    next => exact nomatch read
  · rintro (rfl | ⟨rfl, isText, notBlank⟩)
    · rfl
    · rename_i scalar codes
      have kept : ¬ (codes.all fun code => Text.isBlank (Char.ofNat code)) = true := by
        simpa using notBlank
      unfold baseDirectory
      split
      next same =>
        cases same
        exact nomatch isText
      next other notNull same =>
        cases same
        rw [isText]
        exact if_neg kept
      next other notScalar => exact absurd rfl (notScalar scalar)

theorem baseDirectory_eq_error_iff :
    baseDirectory value = .error fault ↔
      (∀ codes?, ¬ StatesBaseDir value codes?) ∧ fault = .badBaseDir value := by
  have isOnly : ∀ {fault}, baseDirectory value = .error fault → fault = .badBaseDir value := by
    intro fault failed
    unfold baseDirectory at failed
    split at failed
    next => exact nomatch failed
    next scalar notNull =>
      split at failed
      · split_ifs at failed
        exact (Except.error.inj failed).symm
      · exact (Except.error.inj failed).symm
    next => exact (Except.error.inj failed).symm
  rw [eq_error_iff_of_only isOnly]
  simp only [ne_eq, baseDirectory_eq_ok_iff]

end Parts

section Whole

variable {value : Value} {document : Document} {fault : ShapeFault}

/-- A value is a table, or nothing at all. -/
def IsTable (value : Value) : Prop :=
  value.view = .null ∨ ∃ entries, value.view = .table entries

/-- The entries of a document; nothing at all has none. -/
def entriesOf (value : Value) : List (Scalar × Value) :=
  match value.view with
  | .table entries => entries
  | _ => []

/-- The keys of a document that are none of the known ones, in their order. -/
def foreignKeys (value : Value) : List Scalar :=
  ((entriesOf value).map Prod.fst).filter fun key => key ∉ knownKeys.map Scalar.text

/-- A document has a key. -/
def HasKey (value : Value) (key : String) : Prop :=
  ∃ item, (Scalar.text key, item) ∈ entriesOf value

/-- The value of a key of a document, with nothing at all for an absent one. -/
def partOf (value : Value) (key : String) : Value :=
  part (entriesOf value) key

/-- The key of the rules of a document. -/
def rulesKeyOf (value : Value) : String :=
  rulesKey (entriesOf value)

/-- A value has the shape of a policy document, and these are the parts that it states. -/
structure States (value : Value) (document : Document) : Prop where
  isTable : IsTable value
  known : foreignKeys value = []
  oneRulesKey : ¬ (HasKey value "rules" ∧ HasKey value "allowlist")
  layers : StatesTable (partOf value "layers") document.layers
  rules : StatesTable (partOf value (rulesKeyOf value)) document.rules
  excluded : StatesTexts (partOf value "excluded") document.excluded
  debug : StatesDebug (partOf value "debug") document.debug
  baseDir : StatesBaseDir (partOf value "base_dir") document.baseDir

/-- The checks of the shape of a policy document. -/
inductive Check
  | topLevel
  | keys
  | ruleKeys
  | layers
  | rules
  | excluded
  | debug
  | baseDir

/-- The checks in the order in which they are made. -/
def Check.order : List Check :=
  [.topLevel, .keys, .ruleKeys, .layers, .rules, .excluded, .debug, .baseDir]

/-- A check of a value fails with a fault, whatever the other checks say. -/
inductive Fails (value : Value) : Check → ShapeFault → Prop
  | topLevel (notTable : ¬ IsTable value) : Fails value .topLevel .notTable
  | keys (foreign : foreignKeys value ≠ []) :
      Fails value .keys (.unknownKeys (foreignKeys value))
  | ruleKeys (both : HasKey value "rules" ∧ HasKey value "allowlist") :
      Fails value .ruleKeys .bothRuleKeys
  | layers {fault : ShapeFault} (bad : TableFault "layers" (partOf value "layers") fault) :
      Fails value .layers fault
  | rules {fault : ShapeFault}
      (bad : TableFault (rulesKeyOf value) (partOf value (rulesKeyOf value)) fault) :
      Fails value .rules fault
  | excluded {fault : ShapeFault} (bad : TextsFault ⟨"excluded", none⟩ (partOf value "excluded") fault) :
      Fails value .excluded fault
  | debug (bad : ∀ number, ¬ StatesDebug (partOf value "debug") number) :
      Fails value .debug (.badDebug (partOf value "debug"))
  | baseDir (bad : ∀ codes?, ¬ StatesBaseDir (partOf value "base_dir") codes?) :
      Fails value .baseDir (.badBaseDir (partOf value "base_dir"))

/-- The first of several checks that fails does so with a fault. -/
inductive FirstFails (value : Value) : List Check → ShapeFault → Prop
  | here {check : Check} {checks : List Check} {fault : ShapeFault} (fails : Fails value check fault) :
      FirstFails value (check :: checks) fault
  | later {check : Check} {checks : List Check} {fault : ShapeFault}
      (passes : ∀ other, ¬ Fails value check other) (rest : FirstFails value checks fault) :
      FirstFails value (check :: checks) fault

/-- Reading goes on behind a check exactly if the check passes. -/
theorem bind_eq_error_iff_firstFails {α β : Type} {first : Except ShapeFault α}
    {next : α → Except ShapeFault β} {check : Check} {checks : List Check}
    (fails : ∀ {fault}, first = .error fault ↔ Fails value check fault)
    (later : ∀ found, next found = .error fault ↔ FirstFails value checks fault) :
    first >>= next = .error fault ↔ FirstFails value (check :: checks) fault := by
  rw [bind_eq_error_iff]
  constructor
  · rintro (failed | ⟨found, read, failed⟩)
    · exact .here (fails.mp failed)
    · have passes : ∀ other, ¬ Fails value check other := fun other bad =>
        nomatch read.symm.trans (fails.mpr bad)
      exact .later passes ((later found).mp failed)
  · rintro (bad | ⟨passes, rest⟩)
    · exact .inl (fails.mpr bad)
    · cases read : first with
      | error other => exact absurd (fails.mp read) (passes other)
      | ok found => exact .inr ⟨found, rfl, (later found).mpr rest⟩

/-- A condition on a value, with the fault if it does not hold. -/
def require (condition : Prop) [Decidable condition] (fault : ShapeFault) : Except ShapeFault Unit :=
  if condition then .ok () else .error fault

theorem require_eq_ok_iff {condition : Prop} [Decidable condition] {found : Unit} :
    require condition fault = .ok found ↔ condition := by
  unfold require
  split_ifs with holds <;> simp [holds]

theorem require_eq_error_iff {condition : Prop} [Decidable condition] {other : ShapeFault} :
    require condition fault = .error other ↔ ¬ condition ∧ other = fault := by
  unfold require
  split_ifs with holds <;> simp [holds, eq_comm]

theorem isSome_find?_iff (key : String) :
    (Value.find? (entriesOf value) key).isSome = true ↔ HasKey value key := by
  simp [Value.find?, HasKey, List.find?_isSome]

theorem isKnown_iff {key : Scalar} : isKnown key = true ↔ key ∈ knownKeys.map Scalar.text := by
  unfold isKnown
  simp only [List.any_eq_true, List.mem_map, beq_iff_eq, eq_comm (a := key)]

theorem unknownKeys_entriesOf (value : Value) : unknownKeys (entriesOf value) = foreignKeys value := by
  unfold unknownKeys foreignKeys
  congr 1
  ext key
  rw [decide_not, ← Bool.eq_iff_iff.mpr (isKnown_iff.trans decide_eq_true_iff.symm)]

/-- Reading the entries of a document is a row of checks. -/
theorem ofEntries_eq (value : Value) [Decidable (HasKey value "rules" ∧ HasKey value "allowlist")] :
    ofEntries (entriesOf value) = (do
      require (foreignKeys value = []) (.unknownKeys (foreignKeys value))
      require (¬ (HasKey value "rules" ∧ HasKey value "allowlist")) .bothRuleKeys
      let layers ← namedListTable "layers" (partOf value "layers")
      let rules ← namedListTable (rulesKeyOf value) (partOf value (rulesKeyOf value))
      let excluded ← textList ⟨"excluded", none⟩ (partOf value "excluded")
      let debug ← debugNumber (partOf value "debug")
      let baseDir ← baseDirectory (partOf value "base_dir")
      pure { layers, rules, excluded, debug, baseDir }) := by
  unfold ofEntries require
  simp only [unknownKeys_entriesOf, Bool.and_eq_true, isSome_find?_iff, ne_eq, ite_not]
  split_ifs <;> rfl

theorem ofValue_of_isTable (isTable : IsTable value) : ofValue value = ofEntries (entriesOf value) := by
  unfold ofValue entriesOf
  obtain isNull | ⟨entries, isEntries⟩ := isTable
  · rw [isNull]
    rfl
  · rw [isEntries]

theorem ofValue_of_not_isTable (notTable : ¬ IsTable value) : ofValue value = .error .notTable := by
  unfold ofValue
  split
  next isNull => exact absurd (.inl isNull) notTable
  next entries isEntries => exact absurd (.inr ⟨entries, isEntries⟩) notTable
  next => rfl

/-- Reading a value succeeds exactly if it has the shape of a policy document. -/
theorem ofValue_eq_ok_iff : ofValue value = .ok document ↔ States value document := by
  classical
  by_cases isTable : IsTable value
  · rw [ofValue_of_isTable isTable, ofEntries_eq]
    simp only [bind_eq_ok_iff, require_eq_ok_iff, namedListTable_eq_ok_iff, textList_eq_ok_iff,
      debugNumber_eq_ok_iff, baseDirectory_eq_ok_iff]
    constructor
    · rintro ⟨_, known, _, oneKey, layers, isLayers, rules, isRules, excluded, isExcluded, debug,
        isDebug, baseDir, isBaseDir, read⟩
      cases read
      exact ⟨isTable, known, oneKey, isLayers, isRules, isExcluded, isDebug, isBaseDir⟩
    · intro stated
      exact ⟨(), stated.known, (), stated.oneRulesKey, _, stated.layers, _, stated.rules, _,
        stated.excluded, _, stated.debug, _, stated.baseDir, rfl⟩
  · rw [ofValue_of_not_isTable isTable]
    constructor
    · intro read
      exact nomatch read
    · intro stated
      exact absurd stated.isTable isTable

theorem States.statesBaseDir_iff (stated : States value document) {codes? : Option (List Nat)} :
    StatesBaseDir (partOf value "base_dir") codes? ↔ document.baseDir = codes? := by
  rw [← baseDirectory_eq_ok_iff, baseDirectory_eq_ok_iff.mpr stated.baseDir, Except.ok.injEq]

theorem ofEntries_eq_error_iff :
    ofEntries (entriesOf value) = .error fault ↔ FirstFails value Check.order.tail fault := by
  classical
  rw [ofEntries_eq]
  refine bind_eq_error_iff_firstFails ?keys fun _ => bind_eq_error_iff_firstFails ?ruleKeys fun _ =>
    bind_eq_error_iff_firstFails ?layers fun _ => bind_eq_error_iff_firstFails ?rules fun _ =>
    bind_eq_error_iff_firstFails ?excluded fun _ => bind_eq_error_iff_firstFails ?debug fun _ =>
    bind_eq_error_iff_firstFails ?baseDir fun _ => ⟨nofun, nofun⟩
  case keys =>
    intro fault
    rw [require_eq_error_iff]
    exact ⟨fun ⟨foreign, same⟩ => same ▸ .keys foreign, fun | .keys foreign => ⟨foreign, rfl⟩⟩
  case ruleKeys =>
    intro fault
    rw [require_eq_error_iff, not_not]
    exact ⟨fun ⟨both, same⟩ => same ▸ .ruleKeys both, fun | .ruleKeys both => ⟨both, rfl⟩⟩
  case layers =>
    intro fault
    rw [namedListTable_eq_error_iff]
    exact ⟨.layers, fun | .layers bad => bad⟩
  case rules =>
    intro fault
    rw [namedListTable_eq_error_iff]
    exact ⟨.rules, fun | .rules bad => bad⟩
  case excluded =>
    intro fault
    rw [textList_eq_error_iff]
    exact ⟨.excluded, fun | .excluded bad => bad⟩
  case debug =>
    intro fault
    rw [debugNumber_eq_error_iff]
    exact ⟨fun ⟨bad, same⟩ => same ▸ .debug bad, fun | .debug bad => ⟨bad, rfl⟩⟩
  case baseDir =>
    intro fault
    rw [baseDirectory_eq_error_iff]
    exact ⟨fun ⟨bad, same⟩ => same ▸ .baseDir bad, fun | .baseDir bad => ⟨bad, rfl⟩⟩

/-- Reading a value ends with the fault of the first check that fails. -/
theorem ofValue_eq_error_iff : ofValue value = .error fault ↔ FirstFails value Check.order fault := by
  by_cases isTable : IsTable value
  · rw [ofValue_of_isTable isTable, ofEntries_eq_error_iff]
    constructor
    · intro rest
      refine .later ?_ rest
      rintro other ⟨notTable⟩
      exact notTable isTable
    · rintro (fails | ⟨_, rest⟩)
      · obtain ⟨notTable⟩ := fails
        exact absurd isTable notTable
      · exact rest
  · rw [ofValue_of_not_isTable isTable]
    constructor
    · intro failed
      cases failed
      exact .here (.topLevel isTable)
    · rintro (fails | ⟨passes, _⟩)
      · cases fails
        rfl
      · exact absurd (.topLevel isTable) (passes .notTable)

end Whole

end Document
end Policy
end LayerLint
