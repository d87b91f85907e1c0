import LayerLint.Proofs.DocumentShape
import LayerLint.Proofs.NumberText
import LayerLint.Proofs.SourceFiles
import LayerLint.Report.Written

/-!
# Reports line by line

A report line by line has the lines of one record for each violation, in order. A record is one line
as long as the path, the rule and the message of its violation have no line break; a line break in one
of them goes into the report as it is, and the record falls apart.
-/

namespace LayerLint
namespace Report

open Number (IsShort)

section Lines

variable {text : String}

/-- The lines of a text, of which there is at least one. -/
def linesOf (text : String) : List String :=
  (text.toList.splitOn '\n').map String.ofList

theorem linesOf_ne_nil (text : String) : linesOf text ≠ [] := by
  simp [linesOf, List.splitOn_ne_nil]

theorem length_linesOf_pos (text : String) : 0 < (linesOf text).length :=
  List.length_pos_iff.mpr (linesOf_ne_nil text)

theorem linesOf_append_newline (first second : String) :
    linesOf (first ++ "\n" ++ second) = linesOf first ++ linesOf second := by
  simp [linesOf, List.splitOn_append_cons_self]

theorem linesOf_of_no_newline (single : '\n' ∉ text.toList) : linesOf text = [text] := by
  rw [linesOf, List.splitOn_eq_singleton single, List.map_singleton, String.ofList_toList]

theorem one_lt_length_linesOf (newline : '\n' ∈ text.toList) : 1 < (linesOf text).length := by
  obtain ⟨front, behind, shape⟩ := List.append_of_mem newline
  have whole : text = String.ofList front ++ "\n" ++ String.ofList behind := by
    apply String.toList_injective
    simp [shape]
  rw [whole, linesOf_append_newline, List.length_append]
  have before := length_linesOf_pos (String.ofList front)
  have after := length_linesOf_pos (String.ofList behind)
  omega

theorem joinLines_cons_cons (first second : String) (others : List String) :
    Text.joinLines (first :: second :: others) =
      first ++ "\n" ++ Text.joinLines (second :: others) := by
  apply String.toList_injective
  simp [Text.joinLines]

theorem linesOf_joinLines {records : List String} (some : records ≠ []) :
    linesOf (Text.joinLines records) = records.flatMap linesOf := by
  induction records with
  | nil => exact absurd rfl some
  | cons record records ih =>
      cases records with
      | nil => simp [Text.joinLines]
      | cons next records =>
          rw [joinLines_cons_cons, linesOf_append_newline, ih (by simp)]
          exact List.flatMap_cons.symm

theorem length_le_length_flatMap_linesOf (records : List String) :
    records.length ≤ (records.flatMap linesOf).length := by
  induction records with
  | nil => exact le_rfl
  | cons record records ih =>
      have some := length_linesOf_pos record
      rw [List.flatMap_cons, List.length_append, List.length_cons]
      omega

/-- Texts are lines of their own exactly if they have no line breaks. -/
theorem flatMap_linesOf_eq_self_iff (records : List String) :
    records.flatMap linesOf = records ↔ ∀ record ∈ records, '\n' ∉ record.toList := by
  induction records with
  | nil => simp
  | cons record records ih =>
      rw [List.flatMap_cons, List.forall_mem_cons, ← ih]
      constructor
      · intro same
        have counted := congrArg List.length same
        have others := length_le_length_flatMap_linesOf records
        rw [List.length_append, List.length_cons] at counted
        have single : '\n' ∉ record.toList := by
          intro newline
          have several := one_lt_length_linesOf newline
          omega
        rw [linesOf_of_no_newline single, List.singleton_append] at same
        exact ⟨single, (List.cons.inj same).2⟩
      · rintro ⟨single, same⟩
        rw [linesOf_of_no_newline single, same, List.singleton_append]

end Lines

section Records

/-- The record of a violation, whose path is seen from a directory. -/
def recordText (project : Option DiskPath) (violation : Violation) : String :=
  String.intercalate ":"
    [displayPath project violation.file, toString violation.line, toString (violation.column + 1),
      violation.rule, violation.message]

theorem porcelainLine_eq_recordText (project : Option DiskPath) (violation : Violation) :
    porcelainLine project violation = recordText project violation := by
  apply String.toList_injective
  simp [porcelainLine, recordText]

theorem newline_not_mem_repr (number : Int) : '\n' ∉ number.repr.toList := by
  rw [← Int.toString_eq_repr, Number.toList_toString_int, List.mem_append, not_or]
  constructor
  · cases decide (number < 0) <;> decide
  · intro member
    exact absurd (Number.areDigits_toDigits _ _ member) (by decide)

theorem newline_not_mem_recordText_iff (project : Option DiskPath) (violation : Violation) :
    '\n' ∉ (recordText project violation).toList ↔
      '\n' ∉ (displayPath project violation.file).toList ∧ '\n' ∉ violation.rule.toList ∧
        '\n' ∉ violation.message.toList := by
  simp [recordText, newline_not_mem_repr]

theorem joinLines_records_ne_empty {violations : List Violation} (some : violations ≠ [])
    (project : Option DiskPath) : Text.joinLines (violations.map (recordText project)) ≠ "" := by
  obtain ⟨violation, violations, rfl⟩ := List.exists_cons_of_ne_nil some
  have written : (recordText project violation).toList ≠ [] := by simp [recordText]
  intro empty
  have none := congrArg String.toList empty
  cases violations with
  | nil => simp [Text.joinLines, written] at none
  | cons next violations =>
      rw [List.map_cons, List.map_cons, joinLines_cons_cons] at none
      simp at none

end Records

section Directory

variable {disk : Disk} {root project : Option DiskPath} {result : LintResult}

/-- The directory that reports on violations show paths from: none without a root or with a root that
holds the character that ends paths, otherwise the absolute root. -/
inductive ShowsFrom (disk : Disk) : Option DiskPath → Option DiskPath → Prop
  | nowhere : ShowsFrom disk none none
  | null {root : DiskPath} (hasNull : root.hasNull = true) : ShowsFrom disk (some root) none
  | settled {root place : DiskPath} (noNull : root.hasNull = false)
      (settles : disk.settle root = .ok place) (isReached : disk.lookup place ≠ .error .tooManyLinks) :
      ShowsFrom disk (some root) (some place)

theorem hasNull_of_resolve {path : DiskPath} (null : disk.resolve path = .error .nullInPath) :
    path.hasNull = true := by
  unfold Disk.resolve at null
  split_ifs at null with hasNull
  · exact hasNull
  · obtain failed | ⟨place, -, failed⟩ := bind_eq_error_iff.mp null
    · unfold Disk.settle at failed
      split at failed <;> exact nomatch failed
    · split at failed <;> exact nomatch failed

theorem directoryFor_eq_ok_iff (some : result.violations ≠ []) :
    directoryFor disk root result = .ok project ↔ ShowsFrom disk root project := by
  have shown : result.violations.isEmpty = false := by simpa using some
  constructor
  · intro done
    cases root with
    | none =>
        obtain rfl := Except.ok.inj done
        exact .nowhere
    | some root =>
        rw [directoryFor, Project.reportRoot, shown, if_neg Bool.false_ne_true] at done
        split at done
        next place resolved =>
          obtain ⟨noNull, settles, isReached⟩ := Disk.resolve_eq_ok_iff.mp resolved
          obtain rfl := Except.ok.inj done
          exact .settled noNull settles isReached
        next null =>
          obtain rfl := Except.ok.inj done
          exact .null (hasNull_of_resolve null)
        next => exact nomatch done
  · intro shows
    cases shows with
    | nowhere => rfl
    | @null root hasNull =>
        have refused : disk.resolve root = .error .nullInPath := by
          rw [Disk.resolve, if_pos hasNull]
          rfl
        simp [directoryFor, Project.reportRoot, shown, refused]
    | settled noNull settles isReached =>
        have resolved := Disk.resolve_eq_ok_iff.mpr ⟨noNull, settles, isReached⟩
        simp [directoryFor, Project.reportRoot, shown, resolved]

theorem allow_eq_ok_iff {numbers : List Int} :
    allow numbers = .ok () ↔ ∀ number ∈ numbers, IsShort number := by
  simp [allow, Number.isWritable_int_iff]

theorem writePorcelain_eq_ok_iff {text : String} (some : result.violations ≠ []) :
    writePorcelain disk root result = .ok text ↔
      ∃ project, ShowsFrom disk root project ∧
        (∀ violation ∈ result.violations, IsShort violation.line ∧ IsShort (violation.column + 1)) ∧
        Text.joinLines (result.violations.map (recordText project)) = text := by
  have places : (∀ number ∈ result.violations.flatMap placeNumbers, IsShort number) ↔
      ∀ violation ∈ result.violations, IsShort violation.line ∧ IsShort (violation.column + 1) := by
    rw [List.forall_mem_flatMap]
    simp [placeNumbers]
  have records (project : Option DiskPath) :
      porcelain project result = Text.joinLines (result.violations.map (recordText project)) :=
    congrArg Text.joinLines (List.map_congr_left fun violation _ =>
      porcelainLine_eq_recordText project violation)
  simp only [writePorcelain, bind_eq_ok_iff, directoryFor_eq_ok_iff some, records]
  constructor
  · rintro ⟨project, shows, ⟨⟩, allowed, done⟩
    exact ⟨project, shows, places.mp (allow_eq_ok_iff.mp allowed), Except.ok.inj done⟩
  · rintro ⟨project, shows, areShort, done⟩
    exact ⟨project, shows, (), allow_eq_ok_iff.mpr (places.mpr areShort), congrArg Except.ok done⟩

theorem writePorcelain_of_no_violations (clean : result.violations = []) :
    writePorcelain disk root result = .ok "" := by
  have shown : directoryFor disk root result = .ok none := by
    cases root with
    | none => rfl
    | some root => rw [directoryFor, Project.reportRoot, clean]; rfl
  have allowed : allow (result.violations.flatMap placeNumbers) = .ok () := by rw [clean]; rfl
  have empty : porcelain none result = "" := by rw [porcelain, clean]; rfl
  refine bind_eq_ok_iff.mpr ⟨none, shown, ?_⟩
  exact bind_eq_ok_iff.mpr ⟨(), allowed, congrArg Except.ok empty⟩

theorem ShowsFrom.unique {other : Option DiskPath} (shows : ShowsFrom disk root project)
    (also : ShowsFrom disk root other) : project = other := by
  cases shows <;> cases also <;> simp_all

end Directory

/-- Without violations a report line by line is empty. Otherwise there is one unless the directory that
paths are seen from cannot be found or a line or a column has too many digits. It has the lines of one
record for each violation, and a record is a line of its own exactly if no path, rule or message has a
line break. -/
theorem writePorcelain_lists_records (disk : Disk) (root : Option DiskPath) (result : LintResult) :
    (result.violations = [] → writePorcelain disk root result = .ok "") ∧
    (result.violations ≠ [] →
      ((∃ text, writePorcelain disk root result = .ok text) ↔
        (∃ project, ShowsFrom disk root project) ∧
          ∀ violation ∈ result.violations,
            IsShort violation.line ∧ IsShort (violation.column + 1)) ∧
      ∀ project text, ShowsFrom disk root project → writePorcelain disk root result = .ok text →
        text ≠ "" ∧
        linesOf text = (result.violations.map (recordText project)).flatMap linesOf ∧
        (linesOf text = result.violations.map (recordText project) ↔
          ∀ violation ∈ result.violations,
            '\n' ∉ (displayPath project violation.file).toList ∧ '\n' ∉ violation.rule.toList ∧
              '\n' ∉ violation.message.toList)) := by
  refine ⟨fun clean => ?_, fun some => ⟨?_, ?_⟩⟩
  · exact writePorcelain_of_no_violations clean
  · simp only [writePorcelain_eq_ok_iff some]
    constructor
    · rintro ⟨text, project, shows, areShort, -⟩
      exact ⟨⟨project, shows⟩, areShort⟩
    · rintro ⟨⟨project, shows⟩, areShort⟩
      exact ⟨_, project, shows, areShort, rfl⟩
  · intro project text shows written
    obtain ⟨found, also, -, rfl⟩ := (writePorcelain_eq_ok_iff some).mp written
    obtain rfl := shows.unique also
    have several : result.violations.map (recordText project) ≠ [] := by simpa using some
    refine ⟨joinLines_records_ne_empty some project, linesOf_joinLines several, ?_⟩
    rw [linesOf_joinLines several, flatMap_linesOf_eq_self_iff, List.forall_mem_map]
    exact forall₂_congr fun violation _ => newline_not_mem_recordText_iff project violation

/-- Two violations, one of them inside the project and with colons in its path and its message. -/
theorem writePorcelain_lists_two_records :
    let disk : Disk :=
      { top := .directory [("p", .directory [("here", .link "/p")])], workingDir := [] }
    let result : LintResult :=
      { violations := [⟨"/p/a:b.ts", 0, 1, 3, 0, "layer", "x: y", none⟩,
          ⟨"/q/c.ts", 0, 1, -1, 4, "", "", some "c"⟩] }
    ∃ text, writePorcelain disk (some (.ofString "/p/here")) result = .ok text ∧
      linesOf text = ["a:b.ts:3:1:layer:x: y", "/q/c.ts:-1:5::"] := by
  intro disk result
  have resolved : disk.resolve (.ofString "/p/here") = .ok (.ofString "/p") :=
    eq_ok_of_toOption (by decide +kernel)
  obtain ⟨noNull, settles, isReached⟩ := Disk.resolve_eq_ok_iff.mp resolved
  have shows : ShowsFrom disk (some (.ofString "/p/here")) (some (.ofString "/p")) :=
    .settled noNull settles isReached
  obtain ⟨isWritten, hasLines⟩ :=
    (writePorcelain_lists_records disk (some (.ofString "/p/here")) result).2 (by decide)
  have areShort : ∀ violation ∈ result.violations,
      IsShort violation.line ∧ IsShort (violation.column + 1) := by
    simp only [IsShort]
    decide +kernel
  obtain ⟨text, written⟩ := isWritten.mpr ⟨⟨_, shows⟩, areShort⟩
  obtain ⟨-, -, single⟩ := hasLines _ text shows written
  refine ⟨text, written, (single.mpr ?_).trans ?_⟩
  · decide +kernel
  · decide +kernel

/-- A message with a line break makes two lines of the record of one violation. -/
theorem writePorcelain_breaks_record_at_newline :
    let violation : Violation := ⟨"/p/x.ts", 0, 0, 1, 0, Violation.unmatchedImport,
      "a\nb not matched to any layer", some "a\nb"⟩
    ∀ disk, ∃ text, writePorcelain disk none { violations := [violation] } = .ok text ∧
      linesOf text = ["/p/x.ts:1:1:unmatched_import:a", "b not matched to any layer"] ∧
      linesOf text ≠ [recordText none violation] := by
  intro violation disk
  have areShort : IsShort violation.line ∧ IsShort (violation.column + 1) := by
    simp only [IsShort]
    decide +kernel
  refine ⟨_, (writePorcelain_eq_ok_iff (by simp)).mpr
    ⟨none, .nowhere, by simpa using areShort, rfl⟩, ?_, ?_⟩
  · decide +kernel
  · decide +kernel

end Report
end LayerLint
