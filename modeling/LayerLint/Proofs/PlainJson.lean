import LayerLint.Json.Reader
import LayerLint.Proofs.Comments

/-!
# JSON without comments

A text that can be read as JSON has no comments and no trailing commas: its words are literals and runs of
ordinary characters, and a comma is followed by a value or a key, however much white space there is in
between. So clearing it of comments and trailing commas changes nothing.
-/

namespace LayerLint
namespace Json

section Literals

variable {text behind : List Char}

theorem exists_digits_of_cutCode? {code : Nat} (cut : cutCode? text = some (code, behind)) :
    ∃ digits, text = digits ++ behind ∧ ∀ c ∈ digits, Number.isDigitOf 16 c = true := by
  unfold cutCode? at cut
  split at cut
  next a b c d rest =>
    obtain ⟨value, found, shape⟩ := Option.map_eq_some_iff.mp cut
    obtain ⟨-, rfl⟩ := Prod.mk.inj shape
    refine ⟨[a, b, c, d], rfl, ?_⟩
    unfold Number.whole? at found
    split at found
    next => exact absurd found (by simp)
    next hex =>
      rw [Bool.or_eq_true, not_or, Bool.not_eq_true', Bool.not_eq_false] at hex
      exact List.all_eq_true.mp hex.2
  next => exact absurd cut (by simp)

theorem isBody_append_digits {digits body : List Char}
    (hex : ∀ c ∈ digits, Number.isDigitOf 16 c = true) (isBody : IsBody body) :
    IsBody (digits ++ body) := by
  induction digits with
  | nil => exact isBody
  | cons c digits ih =>
      have digit := hex c List.mem_cons_self
      refine .plain ?_ ?_ (ih fun d member => hex d (List.mem_cons_of_mem c member))
      · rintro rfl
        exact absurd digit (by decide)
      · rintro rfl
        exact absurd digit (by decide)

theorem exists_digits_of_cutLow? {code : Nat} (cut : cutLow? text = some (code, behind)) :
    ∃ digits, text = '\\' :: 'u' :: (digits ++ behind) ∧
      ∀ c ∈ digits, Number.isDigitOf 16 c = true := by
  unfold cutLow? at cut
  split at cut
  next rest =>
    simp only [Option.bind_eq_bind, Option.bind_eq_some_iff, Option.ite_none_right_eq_some] at cut
    obtain ⟨⟨low, tail⟩, found, -, same⟩ := cut
    obtain ⟨-, rfl⟩ := Prod.mk.inj (Option.some.inj same)
    obtain ⟨digits, rfl, hex⟩ := exists_digits_of_cutCode? found
    exact ⟨digits, rfl, hex⟩
  next => exact absurd cut (by simp)

theorem exists_front_of_cutNumeric? {code : Nat} (cut : cutNumeric? text = some (code, behind)) :
    ∃ front, text = front ++ behind ∧ ∀ body, IsBody body → IsBody (front ++ body) := by
  simp only [cutNumeric?, Option.bind_eq_bind, Option.bind_eq_some_iff] at cut
  obtain ⟨⟨first, rest⟩, found, cut⟩ := cut
  obtain ⟨digits, rfl, hex⟩ := exists_digits_of_cutCode? found
  have alone : some (first, rest) = some (code, behind) →
      ∃ front, digits ++ rest = front ++ behind ∧ ∀ body, IsBody body → IsBody (front ++ body) := by
    intro same
    obtain ⟨-, rfl⟩ := Prod.mk.inj (Option.some.inj same)
    exact ⟨digits, rfl, fun body => isBody_append_digits hex⟩
  dsimp only at cut
  split at cut
  · split at cut
    next low tail paired =>
      obtain ⟨-, rfl⟩ := Prod.mk.inj (Option.some.inj cut)
      obtain ⟨lowDigits, rfl, lowHex⟩ := exists_digits_of_cutLow? paired
      refine ⟨digits ++ '\\' :: 'u' :: lowDigits, by simp, fun body isBody => ?_⟩
      rw [List.append_assoc]
      exact isBody_append_digits hex (.escape (by decide) (isBody_append_digits lowHex isBody))
    next => exact alone cut
  · exact alone cut

/-- A text that is read between quotes is the body of a literal. -/
theorem exists_body_of_cutText? {codes : List Nat} (cut : cutText? text = some (codes, behind)) :
    ∃ body, IsBody body ∧ text = body ++ quote :: behind := by
  fun_induction cutText? text generalizing codes behind with
  | case1 => exact absurd cut (by simp)
  | case2 => exact absurd cut (by simp)
  | case3 rest code tail found shorter ih =>
      obtain ⟨parts, inner, shape⟩ := Option.map_eq_some_iff.mp cut
      obtain ⟨-, rfl⟩ := Prod.mk.inj shape
      obtain ⟨body, isBody, rfl⟩ := ih inner
      obtain ⟨front, rfl, isFront⟩ := exists_front_of_cutNumeric? found
      exact ⟨'\\' :: 'u' :: (front ++ body), .escape (by decide) (isFront body isBody), by simp⟩
  | case4 => exact absurd cut (by simp)
  | case5 c rest _ plain found ih =>
      obtain ⟨parts, inner, shape⟩ := Option.map_eq_some_iff.mp cut
      obtain ⟨-, rfl⟩ := Prod.mk.inj shape
      obtain ⟨body, isBody, rfl⟩ := ih inner
      refine ⟨'\\' :: c :: body, .escape ?_ isBody, rfl⟩
      rintro rfl
      have unescaped : escaped? '\n' = none := by decide
      rw [unescaped] at found
      exact absurd found (by simp)
  | case6 rest _ =>
      obtain ⟨-, rfl⟩ := Prod.mk.inj (Option.some.inj cut)
      exact ⟨[], .nil, rfl⟩
  | case7 => exact absurd cut (by simp)
  | case8 c rest _ _ notQuote allowed ih =>
      obtain ⟨parts, inner, shape⟩ := Option.map_eq_some_iff.mp cut
      obtain ⟨-, rfl⟩ := Prod.mk.inj shape
      obtain ⟨body, isBody, rfl⟩ := ih inner
      exact ⟨c :: body, .plain notQuote (not_or.mp allowed).1 isBody, rfl⟩

end Literals

/-- Whether a character is neither a quote nor a slash nor a comma. -/
def isOrdinary (c : Char) : Bool :=
  c != quote && c != '/' && c != ','

/-- A text is cut behind ordinary characters. -/
structure CutsWord (text : List Char) (parts : List Char × List Char) : Prop where
  whole : text = parts.1 ++ parts.2
  ordinary : ∀ c ∈ parts.1, isOrdinary c = true

section Words

variable {text : List Char} {parts : List Char × List Char}

theorem cutsWord_nil (text : List Char) : CutsWord text ([], text) :=
  ⟨rfl, by simp⟩

theorem CutsWord.cons {c : Char} (ordinary : isOrdinary c = true) (cuts : CutsWord text parts) :
    CutsWord (c :: text) (c :: parts.1, parts.2) :=
  ⟨congrArg (c :: ·) cuts.whole, List.forall_mem_cons.mpr ⟨ordinary, cuts.ordinary⟩⟩

theorem CutsWord.append {more : List Char × List Char} (cuts : CutsWord text parts)
    (also : CutsWord parts.2 more) : CutsWord text (parts.1 ++ more.1, more.2) := by
  refine ⟨by rw [cuts.whole, also.whole, List.append_assoc], fun c member => ?_⟩
  exact (List.mem_append.mp member).elim (cuts.ordinary c) (also.ordinary c)

theorem cutsWord_cutDigits (text : List Char) : CutsWord text (cutDigits text) := by
  refine ⟨List.takeWhile_append_dropWhile.symm, fun c member => ?_⟩
  have digit : Number.isDigitOf 10 c = true := List.mem_takeWhile_imp member
  simp only [isOrdinary, Bool.and_eq_true, bne_iff_ne]
  refine ⟨⟨?_, ?_⟩, ?_⟩
  all_goals
    rintro rfl
    exact absurd digit (by decide)

theorem cutsWord_cutWhole (text : List Char) : CutsWord text (cutWhole text) := by
  unfold cutWhole
  split
  next rest => exact (cutsWord_nil rest).cons (by decide)
  next => exact cutsWord_cutDigits text

theorem cutsWord_cutFraction (text : List Char) : CutsWord text (cutFraction text) := by
  unfold cutFraction
  split
  next rest =>
    have cuts := cutsWord_cutDigits rest
    split
    next => exact cutsWord_nil _
    next digits behind _ found =>
      rw [found] at cuts
      exact cuts.cons (by decide)
  next => exact cutsWord_nil _

theorem cutsWord_cutExponent (text : List Char) : CutsWord text (cutExponent text) := by
  unfold cutExponent
  split
  next mark rest =>
    split_ifs with letter
    · have ordinary : isOrdinary mark = true := by
        rcases letter with rfl | rfl <;> decide
      split
      next sign more found =>
        have signed : CutsWord rest (sign, more) := by
          rw [← found]
          split
          next => exact (cutsWord_nil _).cons (by decide)
          next => exact (cutsWord_nil _).cons (by decide)
          next => exact cutsWord_nil _
        have cuts := signed.append (cutsWord_cutDigits more)
        split
        next => exact cutsWord_nil _
        next digits behind _ found =>
          rw [found] at cuts
          exact cuts.cons ordinary
    · exact cutsWord_nil _
  next => exact cutsWord_nil _

theorem exists_cutsWord_of_cutNumber? {negative : Bool} {token : Token} {behind : List Char}
    (cut : cutNumber? negative text = some (token, behind)) : ∃ word, CutsWord text (word, behind) := by
  unfold cutNumber? at cut
  split at cut
  next => exact absurd cut (by simp)
  next digits rest _ found =>
    have cuts := ((found ▸ cutsWord_cutWhole text).append (cutsWord_cutFraction rest)).append
      (cutsWord_cutExponent _)
    dsimp only at cut cuts
    have same : (cutExponent (cutFraction rest).2).2 = behind := by
      split_ifs at cut
      · exact (Prod.mk.inj (Option.some.inj cut)).2
      · exact (Prod.mk.inj (Option.some.inj cut)).2
      · obtain ⟨value, -, shape⟩ := Option.map_eq_some_iff.mp cut
        exact (Prod.mk.inj shape).2
    rw [same] at cuts
    exact ⟨_, cuts⟩

theorem exists_cutsWord_of_cutName? {token : Token} {behind : List Char}
    (cut : cutName? text = some (token, behind)) : ∃ word, CutsWord text (word, behind) := by
  obtain ⟨entry, found, shape⟩ := Option.map_eq_some_iff.mp cut
  obtain ⟨-, rfl⟩ := Prod.mk.inj shape
  have starts : entry.1.isPrefixOf text = true := by simpa using List.find?_some found
  have ordinary : names.all (fun entry => entry.1.all isOrdinary) = true := by decide
  refine ⟨entry.1, (List.prefix_iff_eq_append.mp (List.isPrefixOf_iff_prefix.mp starts)).symm, ?_⟩
  exact List.all_eq_true.mp (List.all_eq_true.mp ordinary entry (List.mem_of_find?_eq_some found))

theorem exists_cutsWord_of_cutScalar? {c : Char} {rest behind : List Char} {token : Token}
    (notQuote : c ≠ quote) (cut : cutScalar? (c :: rest) = some (token, behind)) :
    ∃ word, CutsWord (c :: rest) (word, behind) := by
  rw [cutScalar?, if_neg notQuote] at cut
  split at cut
  next found named =>
    rw [cut] at named
    exact exists_cutsWord_of_cutName? named
  next =>
    split_ifs at cut with minus
    · obtain ⟨word, cuts⟩ := exists_cutsWord_of_cutNumber? cut
      exact ⟨c :: word, cuts.cons (by rw [minus]; decide)⟩
    · exact exists_cutsWord_of_cutNumber? cut

theorem CutsWord.isPlain {word behind : List Char} (cuts : CutsWord text (word, behind))
    (isPlain : IsPlain behind) : IsPlain text := by
  obtain ⟨rfl, ordinary⟩ := cuts
  dsimp only at ordinary ⊢
  induction word with
  | nil => exact isPlain
  | cons c word ih =>
      obtain ⟨first, rest⟩ := List.forall_mem_cons.mp ordinary
      simp only [isOrdinary, Bool.and_eq_true, bne_iff_ne] at first
      exact (ih rest).other first.1.1 first.1.2 fun comma => absurd comma first.2

end Words

/-- Words without a gap in which no comma is followed by a closing bracket. -/
inductive IsFluent : List Token → Prop
  | nil : IsFluent []
  | cons {token : Token} {tokens : List Token} (valid : token ≠ .invalid)
      (goesOn : token = .comma →
        tokens.head? ≠ some .closeList ∧ tokens.head? ≠ some .closeTable)
      (rest : IsFluent tokens) : IsFluent (token :: tokens)

section Scanning

theorem not_isFluent_invalid : ¬ IsFluent [.invalid] := by
  intro fluent
  cases fluent with
  | cons valid _ _ => exact valid rfl

theorem isDigitOf_of_isBlank {c : Char} (blank : Text.isBlank c = true) :
    Number.isDigitOf 10 c = false := by
  unfold Number.isDigitOf Number.digitValue?
  split_ifs with decimal small large
  · have low : 48 ≤ c.toNat := UInt32.le_iff_toNat_le.mp decimal.1
    have high : c.toNat ≤ 57 := UInt32.le_iff_toNat_le.mp decimal.2
    -- The digits lie between the second and the third range of blanks.
    rw [Text.isBlank, Text.blankRanges, Text.CharRanges.has, if_neg (by omega), if_neg (by omega),
      Text.CharRanges.has, if_neg (by omega), if_neg (by omega), Text.CharRanges.has,
      if_pos (by omega)] at blank
    exact absurd blank (by decide)
  · simp
  · simp
  · rfl

theorem ne_of_isBlank {c d : Char} (blank : Text.isBlank c = true) (solid : Text.isBlank d = false) :
    c ≠ d := by
  rintro rfl
  exact absurd (blank.symm.trans solid) (by decide)

theorem mark?_of_isBlank {c : Char} (blank : Text.isBlank c = true) : mark? c = none := by
  have different {d : Char} := ne_of_isBlank (d := d) blank
  rw [mark?, if_neg (different (by decide)), if_neg (different (by decide)),
    if_neg (different (by decide)), if_neg (different (by decide)), if_neg (different (by decide)),
    if_neg (different (by decide))]

/-- No scalar begins with white space. -/
theorem cutScalar?_of_isBlank {c : Char} (blank : Text.isBlank c = true) (rest : List Char) :
    cutScalar? (c :: rest) = none := by
  have different {d : Char} := ne_of_isBlank (d := d) blank
  have unnamed : cutName? (c :: rest) = none := by
    have solid : names.all (fun entry => entry.1.head?.any fun d => !Text.isBlank d) = true := by decide
    rw [cutName?, Option.map_eq_none_iff, List.find?_eq_none]
    intro entry member starts
    have first := List.all_eq_true.mp solid entry member
    obtain ⟨word, value⟩ := entry
    cases word with
    | nil => simp at first
    | cons d word =>
        simp only [List.head?_cons, Option.any_some, Bool.not_eq_true'] at first
        exact different first (by simpa using (List.cons_prefix_cons.mp
          (List.isPrefixOf_iff_prefix.mp starts)).1.symm)
  have uncounted : cutNumber? false (c :: rest) = none := by
    have whole : cutWhole (c :: rest) = ([], c :: rest) := by
      unfold cutWhole
      split
      next zero => exact absurd (List.cons.inj zero).1 (different (by decide))
      next => simp [cutDigits, isDigitOf_of_isBlank blank]
    simp [cutNumber?, whole]
  rw [cutScalar?, if_neg (different (by decide)), unnamed]
  exact (if_neg (different (by decide))).trans uncounted

/-- If the next character behind white space closes a list or a table, so does the next word. -/
theorem head?_scan_of_closesNext {limit : Nat} {text : List Char} (closes : ClosesNext text)
    (fluent : IsFluent (scan limit text)) :
    (scan limit text).head? = some .closeList ∨ (scan limit text).head? = some .closeTable := by
  obtain ⟨blanks, bracket, rest, rfl, blank, isBracket⟩ := closes
  induction blanks generalizing limit with
  | nil =>
      cases limit with
      | zero => exact absurd fluent not_isFluent_invalid
      | succ limit => rcases isBracket with rfl | rfl <;> simp [scan, mark?]
  | cons c blanks ih =>
      cases limit with
      | zero => exact absurd fluent not_isFluent_invalid
      | succ limit =>
          obtain ⟨first, others⟩ := List.forall_mem_cons.mp blank
          rw [List.cons_append, scan] at fluent ⊢
          split_ifs at fluent ⊢ with skipped
          · exact ih fluent others
          · simp only [mark?_of_isBlank first, cutScalar?_of_isBlank first] at fluent
            exact absurd fluent not_isFluent_invalid

theorem ne_of_mark? {c : Char} {token : Token} (marks : mark? c = some token) :
    c ≠ quote ∧ c ≠ '/' ∧ (c = ',' → token = .comma) := by
  have different {d : Char} (unmarked : mark? d = none) : c ≠ d := by
    rintro rfl
    rw [unmarked] at marks
    exact nomatch marks
  refine ⟨different (by decide), different (by decide), ?_⟩
  · rintro rfl
    exact (Option.some.inj marks).symm

theorem isPlain_of_cutScalar? {c : Char} {rest behind : List Char} {token : Token}
    (cut : cutScalar? (c :: rest) = some (token, behind)) (plain : IsPlain behind) :
    IsPlain (c :: rest) := by
  by_cases isQuote : c = quote
  · rw [cutScalar?, if_pos isQuote] at cut
    obtain ⟨parts, read, shape⟩ := Option.map_eq_some_iff.mp cut
    obtain ⟨-, rfl⟩ := Prod.mk.inj shape
    obtain ⟨body, isBody, rfl⟩ := exists_body_of_cutText? read
    rw [isQuote]
    exact plain.literal isBody
  · obtain ⟨word, cuts⟩ := exists_cutsWord_of_cutScalar? isQuote cut
    exact cuts.isPlain plain

/-- A text with fluent words has no comments and no trailing commas. -/
theorem isPlain_of_scan {limit : Nat} {text : List Char} (fluent : IsFluent (scan limit text)) :
    IsPlain text := by
  induction limit generalizing text with
  | zero =>
      cases text with
      | nil => exact isPlain_nil
      | cons c rest => exact absurd fluent not_isFluent_invalid
  | succ limit ih =>
      cases text with
      | nil => exact isPlain_nil
      | cons c rest =>
          rw [scan] at fluent
          split_ifs at fluent with skipped
          · have ordinary : c ≠ quote ∧ c ≠ '/' ∧ c ≠ ',' := by
              rcases skipped with rfl | rfl | rfl | rfl <;> decide
            exact (ih fluent).other ordinary.1 ordinary.2.1 fun comma => absurd comma ordinary.2.2
          · split at fluent
            next token marks =>
              cases fluent with
              | cons valid goesOn others =>
                  obtain ⟨notQuote, notSlash, isComma⟩ := ne_of_mark? marks
                  refine (ih others).other notQuote notSlash fun comma closes => ?_
                  obtain ⟨noList, noTable⟩ := goesOn (isComma comma)
                  exact (head?_scan_of_closesNext closes others).elim noList noTable
            next =>
              split at fluent
              next token behind cut =>
                cases fluent with
                | cons valid goesOn others => exact isPlain_of_cutScalar? cut (ih others)
              next => exact absurd fluent not_isFluent_invalid

end Scanning

section Reading

variable {state next final : State}

theorem step_invalid_ne_ok (state : State) : state.step .invalid ≠ .ok next := by
  cases state with
  | wantNext frame stack => cases frame <;> simp [State.step]
  | _ => simp [State.step, State.begin, State.key]

/-- Behind a comma a list or a table cannot be closed. -/
theorem step_close_ne_ok_of_comma (comma : state.step .comma = .ok next) {token : Token}
    (closes : token = .closeList ∨ token = .closeTable) : next.step token ≠ .ok final := by
  cases state with
  | wantNext frame stack =>
      cases frame with
      | list items =>
          obtain rfl := Except.ok.inj comma
          rcases closes with rfl | rfl <;> simp [State.step, State.begin]
      | table entries key =>
          obtain rfl := Except.ok.inj comma
          rcases closes with rfl | rfl <;> simp [State.step, State.key]
  | _ => simp [State.step, State.begin, State.key] at comma

theorem isFluent_of_run {tokens : List Token} (done : state.run tokens = .ok final) :
    IsFluent tokens := by
  induction tokens generalizing state with
  | nil => exact .nil
  | cons token tokens ih =>
      rw [State.run] at done
      cases stepped : state.step token with
      | error fault =>
          rw [stepped] at done
          exact nomatch done
      | ok next =>
          rw [stepped] at done
          have ahead : next.run tokens = .ok final := done
          have stuck : token = .comma → ∀ close, close = .closeList ∨ close = .closeTable →
              tokens.head? ≠ some close := by
            rintro rfl close closes head
            obtain ⟨rest, rfl⟩ := List.head?_eq_some_iff.mp head
            rw [State.run] at ahead
            cases closed : next.step close with
            | error fault =>
                rw [closed] at ahead
                exact nomatch ahead
            | ok after => exact step_close_ne_ok_of_comma stepped closes closed
          refine .cons ?_ (fun comma => ?_) (ih ahead)
          · rintro rfl
            exact step_invalid_ne_ok state stepped
          · exact ⟨stuck comma _ (.inl rfl), stuck comma _ (.inr rfl)⟩

theorem isPlain_of_parse {text : List Char} {value : Value} (parsed : parse text = .ok value) :
    IsPlain text := by
  unfold parse at parsed
  cases done : (State.wantValue []).run (tokens text) with
  | error fault =>
      rw [done] at parsed
      exact nomatch parsed
  | ok final => exact isPlain_of_scan (isFluent_of_run done)

end Reading

/-- Of a text that is cut into pieces all comments go, all literals stay, and of the other characters just
the commas go that a closing bracket follows. A text without comments and trailing commas stays as it is,
and so does every text that can be read as JSON. -/
theorem plain_drops_comments_and_trailing_commas (text : String) :
    (∀ pieces, Cuts text.toList pieces →
      plain text = String.ofList (withoutTrailingCommas (pieces.filter Piece.isKept))) ∧
    (IsPlain text.toList → plain text = text) ∧
    ∀ value, parse text.toList = .ok value → plain text = text := by
  have unchanged (isPlain : IsPlain text.toList) : plain text = text := by
    rw [plain, plainChars_of_isPlain isPlain, String.ofList_toList]
  refine ⟨?_, unchanged, ?_⟩
  · intro pieces cuts
    rw [plain, plainChars_of_cuts cuts]
  · intro value parsed
    exact unchanged (isPlain_of_parse parsed)

/-- Marks of comments, an escaped quote and a comma in a literal, and a quote and a comma in comments. -/
theorem plain_keeps_marks_in_literal :
    let body := ['/', '/', '\\', quote, ',', ']']
    let pieces : List Piece := [.other '[', .literal body, .other ',', .blockComment [quote],
      .other ' ', .other ']', .lineComment ['x', ',', ']']]
    let text := "[\"//\\\",]\",/*\"*/ ]//x,]"
    Cuts text.toList pieces ∧
      plain text = String.ofList (withoutTrailingCommas (pieces.filter Piece.isKept)) ∧
      plain text = "[\"//\\\",]\" ]" := by
  intro body pieces text
  have isBody : IsBody body :=
    .plain (by decide) (by decide) (.plain (by decide) (by decide) (.escape (by decide)
      (.plain (by decide) (by decide) (.plain (by decide) (by decide) .nil))))
  have unclosed : ¬ ['*', '/'] <:+: [quote] := by decide
  have ends : ([] : List Char) = [] ∨ ([] : List Char).head? = some '\n' := .inl rfl
  have cuts : Cuts (textOf pieces) pieces :=
    .other (by decide) (by decide) (.literal isBody (.other (by decide) (by decide)
      (.blockComment unclosed (.other (by decide) (by decide) (.other (by decide) (by decide)
        (.lineComment (by decide) ends .nil))))))
  have chars : text.toList = textOf pieces := by decide +kernel
  rw [← chars] at cuts
  have cleared := (plain_drops_comments_and_trailing_commas text).1 pieces cuts
  have left : withoutTrailingCommas (pieces.filter Piece.isKept) =
      "[\"//\\\",]\" ]".toList := by decide +kernel
  refine ⟨cuts, cleared, ?_⟩
  rw [cleared, left, String.ofList_toList]

end Json
end LayerLint
