import Mathlib.Tactic.SplitIfs
import LayerLint.Policy.Error

/-!
# Values in messages

A message shows the parts of a value one after the other, each at some depth. It cannot be written if a part
lies too deep or is a whole number with too many digits, and the first such part tells how the attempt ends.
-/

namespace LayerLint

namespace Value

/-- A part of a value that a message shows: the depth at which it lies, and the scalar there, if there is
one. -/
structure Part where
  depth : Nat
  scalar : Option Scalar := none

/-- A part that cannot be shown when there are so many levels. -/
inductive Part.Blocks (levels : Nat) : Part → Breakdown → Prop
  | tooDeep {part : Part} (deep : levels ≤ part.depth) : Blocks levels part (.tooDeep .shownValue)
  | tooLong {depth : Nat} {number : Int} (inReach : depth < levels)
      (long : Nat.pow 10 Number.maxDigits ≤ number.natAbs) :
      Blocks levels ⟨depth, some (.int number)⟩ .tooLongToWrite

/-- The first of some parts that cannot be shown tells why. -/
def FirstBlocks (levels : Nat) (parts : List Part) (cause : Breakdown) : Prop :=
  ∃ before part after, parts = before ++ part :: after ∧ part.Blocks levels cause ∧
    ∀ earlier ∈ before, ∀ other, ¬ earlier.Blocks levels other

mutual

/-- The parts of a value at a depth inside the lists and tables with the given marks, in the order in which
a message shows them. A list or a table inside itself is not shown again. -/
def partsIn (around : List Nat) (depth : Nat) : Value → List Part
  | .scalar value => [⟨depth, some value⟩]
  | .list items => ⟨depth, none⟩ :: itemParts around (depth + 1) items
  | .table entries => ⟨depth, none⟩ :: entryParts around (depth + 1) entries
  | .marked mark value =>
      if mark ∈ around then [⟨depth, none⟩] else partsIn (mark :: around) depth value
  | .again _ _ => [⟨depth, none⟩]

/-- The parts of the items of a list. -/
def itemParts (around : List Nat) (depth : Nat) : List Value → List Part
  | [] => []
  | item :: items => partsIn around depth item ++ itemParts around depth items

/-- The parts of the entries of a table. -/
def entryParts (around : List Nat) (depth : Nat) : List (Scalar × Value) → List Part
  | [] => []
  | (key, value) :: entries =>
      ⟨depth, some key⟩ :: (partsIn around depth value ++ entryParts around depth entries)

end

/-- What keeps a part from being shown. -/
def Part.obstacle? (levels : Nat) (part : Part) : Option Breakdown :=
  if levels ≤ part.depth then some (.tooDeep .shownValue)
  else
    match part.scalar with
    | some value => if value.isWritable then none else some .tooLongToWrite
    | none => none

variable {levels depth : Nat} {around : List Nat} {part : Part} {cause : Breakdown}

theorem isWritable_eq_false_iff {value : Scalar} :
    value.isWritable = false ↔
      ∃ number, value = .int number ∧ Nat.pow 10 Number.maxDigits ≤ number.natAbs := by
  cases value with
  | int number =>
      rw [Scalar.isWritable, decide_eq_false_iff_not, Nat.not_lt]
      constructor
      · exact fun long => ⟨number, rfl, long⟩
      · rintro ⟨other, same, long⟩
        cases same
        exact long
  | _ =>
      refine iff_of_false (by simp [Scalar.isWritable]) ?_
      rintro ⟨number, same, -⟩
      exact nomatch same

theorem Part.obstacle?_eq_some_iff : part.obstacle? levels = some cause ↔ part.Blocks levels cause := by
  unfold Part.obstacle?
  constructor
  · intro blocked
    split_ifs at blocked with deep
    · cases blocked
      exact .tooDeep deep
    · obtain ⟨depth, scalar⟩ := part
      cases scalar with
      | none => exact nomatch blocked
      | some value =>
          dsimp only at blocked
          split_ifs at blocked with writable
          cases blocked
          obtain ⟨number, rfl, long⟩ := isWritable_eq_false_iff.mp (Bool.eq_false_iff.mpr writable)
          exact .tooLong (Nat.lt_of_not_le deep) long
  · intro blocks
    cases blocks with
    | tooDeep deep => rw [if_pos deep]
    | @tooLong depth number inReach long =>
        have unwritable : (Scalar.int number).isWritable = false :=
          isWritable_eq_false_iff.mpr ⟨number, rfl, long⟩
        rw [if_neg (Nat.not_le_of_lt inReach)]
        dsimp only
        rw [unwritable, if_neg Bool.false_ne_true]

theorem findSome?_obstacle?_eq_some_iff {parts : List Part} :
    parts.findSome? (Part.obstacle? levels) = some cause ↔ FirstBlocks levels parts cause := by
  rw [List.findSome?_eq_some_iff]
  unfold FirstBlocks
  simp only [← Part.obstacle?_eq_some_iff, Option.eq_none_iff_forall_ne_some, ne_eq]

theorem obstacleAt?_eq_findSome? (parts : List Part) :
    obstacleAt? (levels - depth) (parts.findSome? (Part.obstacle? levels)) =
      (⟨depth, none⟩ :: parts : List Part).findSome? (Part.obstacle? levels) := by
  simp only [List.findSome?_cons, obstacleAt?, Part.obstacle?, Nat.sub_eq_zero_iff_le]
  split_ifs <;> rfl

theorem scalarObstacle?_eq_obstacle? (levels depth : Nat) (value : Scalar) :
    scalarObstacle? (levels - depth) value = Part.obstacle? levels ⟨depth, some value⟩ := by
  simp only [scalarObstacle?, obstacleAt?, Part.obstacle?, Nat.sub_eq_zero_iff_le]

mutual

/-- What keeps a value from being shown is found part by part. -/
theorem obstacleIn?_eq_findSome? (levels : Nat) (around : List Nat) (depth : Nat) : (value : Value) →
    obstacleIn? around (levels - depth) value =
      (partsIn around depth value).findSome? (Part.obstacle? levels)
  | .scalar value => by
      rw [obstacleIn?, partsIn, scalarObstacle?_eq_obstacle?, List.findSome?_singleton]
  | .list items => by
      rw [obstacleIn?, partsIn, Nat.sub_sub, itemObstacle?_eq_findSome? levels around (depth + 1) items,
        obstacleAt?_eq_findSome?]
  | .table entries => by
      rw [obstacleIn?, partsIn, Nat.sub_sub,
        entryObstacle?_eq_findSome? levels around (depth + 1) entries, obstacleAt?_eq_findSome?]
  | .marked mark value => by
      simp only [obstacleIn?, partsIn, List.contains_iff_mem]
      split_ifs
      · exact obstacleAt?_eq_findSome? []
      · exact obstacleIn?_eq_findSome? levels (mark :: around) depth value
  | .again mark isList => by
      rw [obstacleIn?, partsIn]
      exact obstacleAt?_eq_findSome? []

theorem itemObstacle?_eq_findSome? (levels : Nat) (around : List Nat) (depth : Nat) :
    (items : List Value) →
      itemObstacle? around (levels - depth) items =
        (itemParts around depth items).findSome? (Part.obstacle? levels)
  | [] => rfl
  | item :: items => by
      rw [itemObstacle?, itemParts, List.findSome?_append,
        obstacleIn?_eq_findSome? levels around depth item,
        itemObstacle?_eq_findSome? levels around depth items]

theorem entryObstacle?_eq_findSome? (levels : Nat) (around : List Nat) (depth : Nat) :
    (entries : List (Scalar × Value)) →
      entryObstacle? around (levels - depth) entries =
        (entryParts around depth entries).findSome? (Part.obstacle? levels)
  | [] => rfl
  | (key, value) :: entries => by
      rw [entryObstacle?, entryParts, ← List.singleton_append, List.findSome?_append,
        List.findSome?_append, List.findSome?_singleton, scalarObstacle?_eq_obstacle?,
        obstacleIn?_eq_findSome? levels around depth value,
        entryObstacle?_eq_findSome? levels around depth entries, Option.or_assoc]

end

theorem obstacle?_eq_findSome? (value : Value) :
    value.obstacle? levels = (value.partsIn [] 0).findSome? (Part.obstacle? levels) :=
  obstacleIn?_eq_findSome? levels [] 0 value

end Value

namespace ShapeFault

/-- The parts of values that the message for a fault shows. -/
def parts : ShapeFault → List Value.Part
  | .unknownKeys keys => keys.map fun key => ⟨0, some key⟩
  | .keyNotText _ key => [⟨0, some key⟩]
  | .itemNotText _ _ item => item.partsIn [] 0
  | .badDebug value => value.partsIn [] 0
  | .badBaseDir value => value.partsIn [] 0
  | _ => []

variable {levels : Nat} {fault : ShapeFault} {cause : Breakdown}

/-- A fault is put into words unless a part of a value in its message cannot be shown. -/
theorem obstacle?_eq_some_iff :
    fault.obstacle? levels = some cause ↔ Value.FirstBlocks levels fault.parts cause := by
  have scalar (key : Scalar) : Value.scalarObstacle? levels key =
      Value.Part.obstacle? levels ⟨0, some key⟩ := Value.scalarObstacle?_eq_obstacle? levels 0 key
  rw [← Value.findSome?_obstacle?_eq_some_iff]
  cases fault with
  | unknownKeys keys => rw [obstacle?, parts, List.findSome?_map, funext scalar]; rfl
  | keyNotText part key => rw [obstacle?, parts, List.findSome?_singleton, scalar]
  | itemNotText place index item => rw [obstacle?, parts, Value.obstacle?_eq_findSome?]
  | badDebug value => rw [obstacle?, parts, Value.obstacle?_eq_findSome?]
  | badBaseDir value => rw [obstacle?, parts, Value.obstacle?_eq_findSome?]
  | _ => simp [obstacle?, parts]

theorem obstacle?_eq_none_iff :
    fault.obstacle? levels = none ↔ ∀ cause, ¬ Value.FirstBlocks levels fault.parts cause := by
  simp only [Option.eq_none_iff_forall_ne_some, ne_eq, obstacle?_eq_some_iff]

end ShapeFault
end LayerLint
