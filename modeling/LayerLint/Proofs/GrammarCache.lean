import Mathlib.Data.List.Basic
import Mathlib.Data.List.Induction
import Mathlib.Data.List.TakeWhile
import LayerLint.Grammar

/-!
# Remembered grammars

A cache of grammars is asked for extensions, is cleared, and meanwhile grammars can become impossible to
load and possible again. What it answers for an extension is settled by the first query for that extension,
in whatever case, since it was last cleared: this file relates what a cache holds to all that happened to
it.
-/

namespace LayerLint
namespace Grammar

namespace Source

open Text.Utf8 (isCharacter)

/-- The content of a source: bytes stand for themselves, and a text of characters for its encoding. -/
inductive HasContent : Source → List UInt8 → Prop
  | bytes (content : List UInt8) : HasContent (.bytes content) content
  | text (text : String) : HasContent (.text (text.toList.map Char.toNat)) text.toUTF8.toList

/-- A text has code points that are no characters. The first of them stand at a place, behind some
characters. -/
inductive BreaksAt : Source → Nat → List Nat → Prop
  | text (front : String) {broken behind : List Nat} (nonempty : broken ≠ [])
      (noCharacters : ∀ code ∈ broken, ¬ code.isValidChar)
      (ends : ∀ code ∈ behind.head?, code.isValidChar) :
      BreaksAt (.text (front.toList.map Char.toNat ++ (broken ++ behind))) front.length broken

theorem isCharacter_eq_false_iff {code : Nat} : isCharacter code = false ↔ ¬ code.isValidChar :=
  decide_eq_false_iff_not

theorem exists_characters (codes : List Nat) :
    ∃ (front : String) (rest : List Nat), codes = front.toList.map Char.toNat ++ rest ∧
      ∀ code ∈ rest.head?, isCharacter code = false := by
  refine ⟨String.ofList ((codes.takeWhile isCharacter).map Char.ofNat), codes.dropWhile isCharacter,
    ?_, ?_⟩
  · have read : ∀ code ∈ codes.takeWhile isCharacter, (Char.toNat ∘ Char.ofNat) code = code := by
      intro code member
      have character : isCharacter code = true := List.mem_takeWhile_imp member
      rw [Function.comp_apply, Char.ofNat, dif_pos (of_decide_eq_true character)]
      rfl
    rw [String.toList_ofList, List.map_map, List.map_congr_left read, List.map_id',
      List.takeWhile_append_dropWhile]
  · intro code first
    have stops := List.head?_dropWhile_not isCharacter codes
    rwa [Option.mem_def.mp first] at stops

/-- The characters in front of a text are kept, and what is left begins with something else. -/
theorem encode_text (front : String) {rest : List Nat}
    (starts : ∀ code ∈ rest.head?, isCharacter code = false) :
    (text (front.toList.map Char.toNat ++ rest)).encode =
      if rest = [] then .ok front.toUTF8.toList
      else .error (.unwritable front.length (rest.takeWhile fun code => !isCharacter code)) := by
  have characters : ∀ code ∈ front.toList.map Char.toNat, isCharacter code = true := by
    intro code member
    obtain ⟨c, -, rfl⟩ := List.mem_map.mp member
    exact decide_eq_true c.valid
  have read : (front.toList.map Char.toNat).map Char.ofNat = front.toList := by
    rw [List.map_map]
    exact List.map_id'' Char.ofNat_toNat front.toList
  unfold encode
  dsimp only
  rw [List.takeWhile_append_of_pos characters, List.dropWhile_append_of_pos characters]
  cases rest with
  | nil => simp [Text.Utf8.encode, read]
  | cons code rest =>
      rw [List.takeWhile_cons, List.dropWhile_cons, starts code rfl, if_neg (List.cons_ne_nil code rest)]
      simp [String.length_toList]

theorem encode_eq_ok_iff {source : Source} {content : List UInt8} :
    source.encode = .ok content ↔ source.HasContent content := by
  constructor
  · intro encoded
    cases source with
    | bytes other =>
        cases encoded
        exact .bytes content
    | text codes =>
        obtain ⟨front, rest, rfl, starts⟩ := exists_characters codes
        rw [encode_text front starts] at encoded
        split at encoded
        next whole =>
          cases encoded
          rw [whole, List.append_nil]
          exact .text front
        next => exact nomatch encoded
  · intro hasContent
    cases hasContent with
    | bytes => rfl
    | text front =>
        have whole := encode_text front (fun code (first : code ∈ [].head?) => nomatch first)
        rwa [List.append_nil, if_pos rfl] at whole

theorem encode_eq_error_iff {source : Source} {fault : Fault} :
    source.encode = .error fault ↔
      ∃ place broken, source.BreaksAt place broken ∧ fault = .unwritable place broken := by
  constructor
  · intro failed
    cases source with
    | bytes content => exact nomatch failed
    | text codes =>
        obtain ⟨front, rest, rfl, starts⟩ := exists_characters codes
        rw [encode_text front starts] at failed
        split at failed
        next => exact nomatch failed
        next nonempty =>
          cases failed
          refine ⟨_, _, ?_, rfl⟩
          -- The run of what is no character ends at the next character.
          have parts : rest.takeWhile (fun code => !isCharacter code) ++
              rest.dropWhile (fun code => !isCharacter code) = rest := List.takeWhile_append_dropWhile
          nth_rewrite 1 [← parts]
          refine .text front ?_ ?_ ?_
          · obtain ⟨code, others, rfl⟩ := List.exists_cons_of_ne_nil nonempty
            simp [starts code rfl]
          · intro code member
            have broken := List.mem_takeWhile_imp member
            rwa [Bool.not_eq_true', isCharacter_eq_false_iff] at broken
          · intro code first
            have stops := List.head?_dropWhile_not (fun code => !isCharacter code) rest
            rw [Option.mem_def.mp first] at stops
            exact of_decide_eq_true ((Bool.not_eq_false' _).mp stops)
  · rintro ⟨place, broken, breaks, rfl⟩
    cases breaks with
    | @text front _ behind nonempty noCharacters ends =>
        have starts : ∀ code ∈ (broken ++ behind).head?, isCharacter code = false := by
          obtain ⟨code, others, rfl⟩ := List.exists_cons_of_ne_nil nonempty
          rintro _ ⟨⟩
          exact isCharacter_eq_false_iff.mpr (noCharacters code List.mem_cons_self)
        have run : (broken ++ behind).takeWhile (fun code => !isCharacter code) = broken := by
          rw [List.takeWhile_append_of_pos fun code member => by
            rw [isCharacter_eq_false_iff.mpr (noCharacters code member), Bool.not_false]]
          cases behind with
          | nil => rw [List.takeWhile_nil, List.append_nil]
          | cons code behind =>
              have character : isCharacter code = true := decide_eq_true (ends code rfl)
              rw [List.takeWhile_cons, character]
              exact List.append_nil broken
        rw [encode_text front starts, if_neg (List.append_ne_nil_of_left_ne_nil nonempty behind), run]

end Source

/-- What can happen to a cache: queries, the loss of all outcomes, and changes of what can be loaded. -/
inductive Call
  | get (extension : String)
  | parse (extension : String) (source : Source)
  | clear
  | lose
  | restore
  deriving DecidableEq

/-- The extension in lower case that a call asks for. -/
def Call.key? : Call → Option String
  | .get extension => some (Text.lower extension)
  | .parse extension _ => some (Text.lower extension)
  | _ => none

/-- Whether grammars can be loaded from a call on, if it changes that. -/
def Call.loadable? : Call → Option Bool
  | .lose => some false
  | .restore => some true
  | _ => none

/-- Whether grammars can be loaded after some calls: the last change counts. -/
def isLoadableAfter (atFirst : Bool) (calls : List Call) : Bool :=
  (calls.filterMap Call.loadable?).getLastD atFirst

/-- A call that is not a query for another key. -/
def Call.concerns (key : String) (call : Call) : Bool :=
  call.key?.all (· == key)

/-- The grammar for a key, if grammars can be loaded. -/
def load (isLoadable : Bool) (key : String) : Option Script.Dialect :=
  if isLoadable then dialectOf? key else none

/-- Every query for a key was followed by a call to clear the cache. -/
def IsForgotten (calls : List Call) (key : String) : Prop :=
  ∀ before asked behind, calls = before ++ asked :: behind → asked.key? = some key → .clear ∈ behind

/-- A call, with the calls before it, that was the first query for a key since the cache was cleared. -/
structure IsFirstQuery (calls : List Call) (key : String) (before : List Call) (asked : Call) : Prop where
  asks : asked.key? = some key
  forgotten : IsForgotten before key
  kept : ∃ behind, calls = before ++ asked :: behind ∧ .clear ∉ behind

section History

variable {calls before : List Call} {call asked : Call} {key : String}

theorem isLoadableAfter_concat (atFirst : Bool) (calls : List Call) (call : Call) :
    isLoadableAfter atFirst (calls ++ [call]) =
      call.loadable?.getD (isLoadableAfter atFirst calls) := by
  unfold isLoadableAfter
  rw [List.filterMap_append]
  cases change : call.loadable? <;> simp [change]

theorem isLoadableAfter_of_no_loss (kept : .lose ∉ calls) : isLoadableAfter true calls = true := by
  induction calls using List.reverseRecOn with
  | nil => rfl
  | append_singleton calls call ih =>
      rw [List.mem_append, not_or] at kept
      rw [isLoadableAfter_concat, ih kept.1]
      cases call with
      | lose => exact absurd (List.mem_singleton_self _) kept.2
      | _ => rfl

theorem concat_eq_append_cons_iff {behind : List Call} :
    calls ++ [call] = before ++ asked :: behind ↔
      (behind = [] ∧ calls = before ∧ call = asked) ∨
        ∃ inner, behind = inner ++ [call] ∧ calls = before ++ asked :: inner := by
  rcases List.eq_nil_or_concat' behind with rfl | ⟨inner, last, rfl⟩
  · simp
  · have regrouped : before ++ asked :: (inner ++ [last]) = (before ++ asked :: inner) ++ [last] := by simp
    rw [regrouped, List.append_singleton_inj]
    constructor
    · rintro ⟨rfl, rfl⟩
      exact .inr ⟨inner, rfl, rfl⟩
    · rintro (⟨empty, -, -⟩ | ⟨other, same, rfl⟩)
      · exact absurd empty (List.concat_ne_nil _ _)
      · obtain ⟨rfl, rfl⟩ := List.append_singleton_inj.mp same
        exact ⟨rfl, rfl⟩

theorem isForgotten_nil (key : String) : IsForgotten [] key := by
  intro before asked behind empty
  exact absurd empty.symm (by simp)

/-- A key stays forgotten until it is asked for, and clearing makes every key forgotten. -/
theorem isForgotten_concat_iff :
    IsForgotten (calls ++ [call]) key ↔
      call = .clear ∨ call.key? ≠ some key ∧ IsForgotten calls key := by
  constructor
  · intro forgotten
    by_cases cleared : call = .clear
    · exact .inl cleared
    · refine .inr ⟨?_, ?_⟩
      · intro asks
        exact absurd (forgotten calls call [] rfl asks) List.not_mem_nil
      · rintro before asked behind rfl asks
        have member := forgotten before asked (behind ++ [call]) (by simp) asks
        rcases List.mem_append.mp member with inside | last
        · exact inside
        · exact absurd (List.mem_singleton.mp last).symm cleared
  · rintro changes before asked behind same asks
    rcases concat_eq_append_cons_iff.mp same with ⟨-, -, rfl⟩ | ⟨inner, rfl, rfl⟩
    · rcases changes with rfl | ⟨other, -⟩
      · exact nomatch asks
      · exact absurd asks other
    · rcases changes with rfl | ⟨-, forgotten⟩
      · simp
      · exact List.mem_append_left _ (forgotten before asked inner rfl asks)

theorem isFirstQuery_concat_iff :
    IsFirstQuery (calls ++ [call]) key before asked ↔
      (call ≠ .clear ∧ IsFirstQuery calls key before asked) ∨
        (before = calls ∧ asked = call ∧ call.key? = some key ∧ IsForgotten calls key) := by
  constructor
  · rintro ⟨asks, forgotten, behind, same, kept⟩
    rcases concat_eq_append_cons_iff.mp same with ⟨rfl, rfl, rfl⟩ | ⟨inner, rfl, rfl⟩
    · exact .inr ⟨rfl, rfl, asks, forgotten⟩
    · rw [List.mem_append, not_or, List.mem_singleton] at kept
      exact .inl ⟨Ne.symm kept.2, asks, forgotten, inner, rfl, kept.1⟩
  · rintro (⟨unlike, asks, forgotten, behind, rfl, kept⟩ | ⟨rfl, rfl, asks, forgotten⟩)
    · refine ⟨asks, forgotten, behind ++ [call], by simp, ?_⟩
      rw [List.mem_append, not_or, List.mem_singleton]
      exact ⟨kept, Ne.symm unlike⟩
    · exact ⟨asks, forgotten, [], rfl, List.not_mem_nil⟩

/-- A key that is not forgotten has a first query. -/
theorem exists_isFirstQuery (remembered : ¬ IsForgotten calls key) :
    ∃ before asked, IsFirstQuery calls key before asked := by
  induction calls using List.reverseRecOn with
  | nil => exact absurd (isForgotten_nil key) remembered
  | append_singleton calls call ih =>
      rw [isForgotten_concat_iff, not_or, not_and_or, not_not] at remembered
      obtain ⟨unlike, asks | remembered⟩ := remembered
      · by_cases forgotten : IsForgotten calls key
        · exact ⟨calls, call, isFirstQuery_concat_iff.mpr (.inr ⟨rfl, rfl, asks, forgotten⟩)⟩
        · obtain ⟨before, asked, first⟩ := ih forgotten
          exact ⟨before, asked, isFirstQuery_concat_iff.mpr (.inl ⟨unlike, first⟩)⟩
      · obtain ⟨before, asked, first⟩ := ih remembered
        exact ⟨before, asked, isFirstQuery_concat_iff.mpr (.inl ⟨unlike, first⟩)⟩

end History

namespace Cache

/-- The cache after a call. -/
def after (cache : Cache) : Call → Cache
  | .get extension => (cache.get extension).2
  | .parse extension source => (cache.parse extension source).2
  | .clear => cache.clear
  | .lose => { cache with loadable := false }
  | .restore => { cache with loadable := true }

def afterAll (cache : Cache) (calls : List Call) : Cache :=
  calls.foldl after cache

/-- What a cache answers for a key: the outcome that it remembers, or else that of loading the grammar. -/
def answer (cache : Cache) (key : String) : Option Script.Dialect :=
  (cache.outcomes.lookup key).getD (load cache.loadable key)

section Steps

variable {cache : Cache} {calls : List Call} {call : Call} {key : String}

theorem afterAll_concat (cache : Cache) (calls : List Call) (call : Call) :
    cache.afterAll (calls ++ [call]) = (cache.afterAll calls).after call := by
  rw [afterAll, List.foldl_append]
  rfl

theorem get_eq (cache : Cache) (extension : String) :
    cache.get extension = (cache.answer (Text.lower extension),
      if (cache.outcomes.lookup (Text.lower extension)).isSome then cache
      else { cache with
        outcomes := (Text.lower extension, cache.answer (Text.lower extension)) :: cache.outcomes }) := by
  unfold get answer
  dsimp only
  cases cache.outcomes.lookup (Text.lower extension) <;> rfl

theorem parse_eq (cache : Cache) (extension : String) (source : Source) :
    cache.parse extension source =
      ((cache.answer (Text.lower extension)).elim (.error (.missing extension)) fun dialect =>
        source.encode.map (Script.tree dialect), (cache.get extension).2) := by
  rw [parse, get_eq]
  cases cache.answer (Text.lower extension) <;> rfl

theorem loadable_after (cache : Cache) (call : Call) :
    (cache.after call).loadable = call.loadable?.getD cache.loadable := by
  have unchanged (extension : String) : (cache.get extension).2.loadable = cache.loadable := by
    rw [get_eq]
    dsimp only
    split <;> rfl
  cases call with
  | get extension => exact unchanged extension
  | parse extension source =>
      rw [after, parse_eq]
      exact unchanged extension
  | clear => rfl
  | lose => rfl
  | restore => rfl

theorem lookup_get (cache : Cache) (extension key : String) :
    (cache.get extension).2.outcomes.lookup key =
      if Text.lower extension = key then some (cache.answer key) else cache.outcomes.lookup key := by
  rw [get_eq]
  by_cases same : Text.lower extension = key
  · subst same
    rw [if_pos rfl]
    cases known : cache.outcomes.lookup (Text.lower extension) with
    | none => simp
    | some outcome => simp [answer, known]
  · rw [if_neg same]
    cases cache.outcomes.lookup (Text.lower extension) with
    | none => simp [List.lookup_cons, beq_false_of_ne (Ne.symm same)]
    | some outcome => rfl

/-- What one call does to what a cache remembers for a key. -/
theorem lookup_after (cache : Cache) (call : Call) (key : String) :
    (cache.after call).outcomes.lookup key =
      if call.key? = some key then some (cache.answer key)
      else if call = .clear then none else cache.outcomes.lookup key := by
  cases call with
  | get extension =>
      rw [after, lookup_get]
      simp [Call.key?]
  | parse extension source =>
      rw [after, parse_eq, lookup_get]
      simp [Call.key?]
  | clear => rfl
  | lose => rfl
  | restore => rfl

end Steps

/-- What a cache holds, told from the calls that it has had. -/
structure Reflects (cache : Cache) (atFirst : Bool) (calls : List Call) : Prop where
  loadable : cache.loadable = isLoadableAfter atFirst calls
  unknown : ∀ key, IsForgotten calls key → cache.outcomes.lookup key = none
  known : ∀ key before asked, IsFirstQuery calls key before asked →
    cache.outcomes.lookup key = some (load (isLoadableAfter atFirst before) key)

section Runs

variable {cache other : Cache} {atFirst : Bool} {calls before : List Call} {call asked : Call}
  {key : String}

theorem Reflects.answer_eq (reflects : cache.Reflects atFirst calls)
    (first : IsFirstQuery (calls ++ [call]) key before asked) :
    cache.answer key = load (isLoadableAfter atFirst before) key := by
  rcases isFirstQuery_concat_iff.mp first with ⟨-, first⟩ | ⟨rfl, -, -, forgotten⟩
  · rw [answer, reflects.known key before asked first, Option.getD_some]
  · rw [answer, reflects.unknown key forgotten, Option.getD_none, reflects.loadable]

theorem Reflects.after (reflects : cache.Reflects atFirst calls) (call : Call) :
    (cache.after call).Reflects atFirst (calls ++ [call]) where
  loadable := by rw [loadable_after, isLoadableAfter_concat, reflects.loadable]
  unknown := by
    intro key forgotten
    rw [lookup_after]
    rcases isForgotten_concat_iff.mp forgotten with rfl | ⟨unlike, forgotten⟩
    · rfl
    · rw [if_neg unlike, reflects.unknown key forgotten, ite_self]
  known := by
    intro key before asked first
    rw [lookup_after]
    by_cases asks : call.key? = some key
    -- After a query the cache remembers its answer, which is the one that was given at first.
    · rw [if_pos asks, reflects.answer_eq first]
    · rcases isFirstQuery_concat_iff.mp first with ⟨unlike, first⟩ | ⟨-, -, alsoAsks, -⟩
      · rw [if_neg asks, if_neg unlike, reflects.known key before asked first]
      · exact absurd alsoAsks asks

/-- A cache that was empty at first reflects the calls that it has had. -/
theorem reflects_afterAll (atFirst : Bool) (calls : List Call) :
    (({ loadable := atFirst } : Cache).afterAll calls).Reflects atFirst calls := by
  -- The last call is taken off, since both the cache and its history grow at the end.
  induction calls using List.reverseRecOn with
  | nil =>
      refine ⟨rfl, fun _ _ => rfl, ?_⟩
      rintro key before asked ⟨-, -, behind, empty, -⟩
      exact absurd empty.symm (by simp)
  | append_singleton calls call ih =>
      rw [afterAll_concat]
      exact ih.after call

/-- Two caches that cannot be told apart by queries for a key. -/
structure AgreeAt (key : String) (cache other : Cache) : Prop where
  loadable : cache.loadable = other.loadable
  outcome : cache.outcomes.lookup key = other.outcomes.lookup key

theorem AgreeAt.answer_eq (agree : AgreeAt key cache other) : cache.answer key = other.answer key := by
  rw [answer, answer, agree.loadable, agree.outcome]

theorem AgreeAt.after (agree : AgreeAt key cache other) (call : Call) :
    AgreeAt key (cache.after call) (other.after call) where
  loadable := by rw [loadable_after, loadable_after, agree.loadable]
  outcome := by rw [lookup_after, lookup_after, agree.answer_eq, agree.outcome]

theorem AgreeAt.after_other (agree : AgreeAt key cache other) {otherKey : String}
    (asks : call.key? = some otherKey) (unlike : otherKey ≠ key) :
    AgreeAt key cache (other.after call) where
  loadable := by
    rw [loadable_after, agree.loadable]
    cases call with
    | get extension => rfl
    | parse extension source => rfl
    | clear => rfl
    | lose => exact nomatch asks
    | restore => exact nomatch asks
  outcome := by
    have isQuery : call ≠ .clear := by
      rintro rfl
      exact nomatch asks
    rw [lookup_after, asks, if_neg (by simpa using unlike), if_neg isQuery, agree.outcome]

/-- Queries for other keys might as well not have been made. -/
theorem agreeAt_afterAll_filter (key : String) (cache : Cache) (calls : List Call) :
    AgreeAt key (cache.afterAll (calls.filter (Call.concerns key))) (cache.afterAll calls) := by
  induction calls using List.reverseRecOn with
  | nil => exact ⟨rfl, rfl⟩
  | append_singleton calls call ih =>
      rw [afterAll_concat, List.filter_append]
      by_cases concerns : call.concerns key = true
      · rw [List.filter_cons_of_pos concerns, List.filter_nil, afterAll_concat]
        exact ih.after call
      · rw [List.filter_cons_of_neg concerns, List.filter_nil, List.append_nil]
        cases asks : call.key? with
        | none => exact absurd (by rw [Call.concerns, asks, Option.all_none]) concerns
        | some otherKey =>
            rw [Call.concerns, asks, Option.all_some, beq_iff_eq] at concerns
            exact ih.after_other asks concerns

end Runs

/-- Whatever happened to a cache that was empty at first, a query is answered by the outcome of the first
query for the same extension, in whatever case, since the cache was last cleared: the grammar for the
extension if grammars could be loaded at that moment, and nothing otherwise. A source is refused exactly if
the answer is nothing, or if it is a text with code points that are no characters. It is read in the grammar
that is answered otherwise. Queries for other extensions might as well not have been made. As long as
grammars can be loaded, the answer is what loading gives. -/
theorem afterAll_answers_as_first_query (atFirst : Bool) (calls : List Call) (extension : String) :
    let key := Text.lower extension
    let empty : Cache := { loadable := atFirst }
    let cache := empty.afterAll calls
    (∃ before asked, IsFirstQuery (calls ++ [.get extension]) key before asked) ∧
    (∀ before asked, IsFirstQuery (calls ++ [.get extension]) key before asked →
      (cache.get extension).1 =
        if isLoadableAfter atFirst before then dialectOf? key else none) ∧
    (∀ source fault, (cache.parse extension source).1 = .error fault ↔
      ((cache.get extension).1 = none ∧ fault = .missing extension) ∨
        ((cache.get extension).1 ≠ none ∧
          ∃ place broken, source.BreaksAt place broken ∧ fault = .unwritable place broken)) ∧
    (∀ source tree, (cache.parse extension source).1 = .ok tree ↔
      ∃ dialect content, (cache.get extension).1 = some dialect ∧ source.HasContent content ∧
        tree = Script.tree dialect content) ∧
    ((empty.afterAll (calls.filter (Call.concerns key))).get extension).1 = (cache.get extension).1 ∧
    (atFirst = true → .lose ∉ calls → (cache.get extension).1 = dialectOf? key) := by
  intro key empty cache
  have answers (cache : Cache) : (cache.get extension).1 = cache.answer key := by rw [get_eq]
  have reflects : cache.Reflects atFirst calls := reflects_afterAll atFirst calls
  have remembered : ¬ IsForgotten (calls ++ [.get extension]) key := by
    rw [isForgotten_concat_iff]
    rintro (isClear | ⟨unlike, -⟩)
    · exact nomatch isClear
    · exact unlike rfl
  have exists_first := exists_isFirstQuery remembered
  rw [answers, answers]
  refine ⟨exists_first, ?_, ?_, ?_, ?_, ?_⟩
  · intro before asked first
    exact reflects.answer_eq first
  · intro source fault
    rw [parse_eq]
    cases cache.answer key with
    | none => simp [eq_comm]
    | some dialect =>
        rw [Option.elim_some, ← Source.encode_eq_error_iff]
        cases source.encode <;> simp [Except.map]
  · intro source tree
    rw [parse_eq]
    cases cache.answer key with
    | none => simp
    | some dialect =>
        simp only [Option.elim_some, Option.some.injEq, ← Source.encode_eq_ok_iff]
        cases source.encode <;> simp [Except.map, eq_comm]
  · exact (agreeAt_afterAll_filter key empty calls).answer_eq
  · rintro rfl kept
    obtain ⟨before, asked, first⟩ := exists_first
    obtain ⟨behind, whole, -⟩ := first.kept
    have keptBefore : .lose ∉ before := by
      intro lost
      have member : Call.lose ∈ calls ++ [.get extension] := by
        rw [whole]
        exact List.mem_append_left _ lost
      simp [kept] at member
    rw [reflects.answer_eq first, isLoadableAfter_of_no_loss keptBefore]
    rfl

/-- A failure to load stays after grammars can be loaded again, in whatever case the extension is asked for,
until the cache is cleared. -/
theorem afterAll_remembers_failure_until_cleared :
    let calls : List Call :=
      [.get ".tsx", .lose, .get ".TS", .restore, .parse ".tsx" (.text [0xD800]), .parse ".ts" (.bytes [])]
    let cache := ({} : Cache).afterAll calls
    let cleared := ({} : Cache).afterAll (calls ++ [.clear])
    IsFirstQuery (calls ++ [.get ".Ts"]) ".ts" [.get ".tsx", .lose] (.get ".TS") ∧
      (cache.get ".Ts").1 = none ∧ (cache.parse ".Ts" (.bytes [])).1 = .error (.missing ".Ts") ∧
      IsFirstQuery (calls ++ [.clear] ++ [.get ".Ts"]) ".ts" (calls ++ [.clear]) (.get ".Ts") ∧
      (cleared.get ".Ts").1 = some .plain := by
  intro calls cache cleared
  have key : Text.lower ".Ts" = ".ts" := by decide +kernel
  have first : IsFirstQuery (calls ++ [.get ".Ts"]) ".ts" [.get ".tsx", .lose] (.get ".TS") := by
    refine ⟨by decide +kernel, ?_, _, rfl, by decide +kernel⟩
    have unasked : IsForgotten (([] ++ [.get ".tsx"]) ++ [.lose]) ".ts" := by
      rw [isForgotten_concat_iff, isForgotten_concat_iff]
      exact .inr ⟨by decide, .inr ⟨by decide +kernel, isForgotten_nil _⟩⟩
    exact unasked
  have again : IsFirstQuery (calls ++ [.clear] ++ [.get ".Ts"]) ".ts" (calls ++ [.clear]) (.get ".Ts") :=
    isFirstQuery_concat_iff.mpr
      (.inr ⟨rfl, rfl, by decide +kernel, isForgotten_concat_iff.mpr (.inl rfl)⟩)
  obtain ⟨-, answer, refused, -⟩ := afterAll_answers_as_first_query true calls ".Ts"
  obtain ⟨-, answerAgain, -⟩ := afterAll_answers_as_first_query true (calls ++ [.clear]) ".Ts"
  rw [key] at answer answerAgain
  have failed : (cache.get ".Ts").1 = none := answer _ _ first
  refine ⟨first, failed, (refused _ _).mpr (.inl ⟨failed, rfl⟩), again, ?_⟩
  exact (answerAgain _ _ again).trans (by decide +kernel)

/-- Half of a surrogate pair in a text is refused although there is a grammar. -/
theorem parse_refuses_half_of_pair :
    (({} : Cache).get ".ts").1 = some .plain ∧
      (({} : Cache).parse ".ts" (.text [0xD800])).1 = .error (.unwritable 0 [0xD800]) ∧
      Fault.message (.unwritable 0 [0xD800]) =
        "\x27utf-8\x27 codec can\x27t encode character \x27\\ud800\x27 in position 0: surrogates not allowed" := by
  refine ⟨by decide +kernel, ?_, by decide +kernel⟩
  rw [parse_eq]
  rfl

end Cache

end Grammar
end LayerLint
