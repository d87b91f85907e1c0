import LayerLint.Text.Blank

/-!
# Comments and trailing commas in JSON

Configuration files may hold line comments, block comments and a comma before a closing bracket. All
of these are removed, and string literals are kept as they are. Comments go first. A quote that opens
no complete literal, and a comment mark that opens no complete comment, are ordinary characters.
-/

namespace LayerLint
namespace Json

/-- The double quote. -/
abbrev quote : Char := '\x22'

/-- Cut a string literal behind its opening quote: the literal with its closing quote, and the rest.
A backslash takes the next character with it; whether that may be a line feed is up to the caller. -/
def cutLiteral? (acrossLines : Bool) : List Char → Option (List Char × List Char)
  | [] => none
  | '\\' :: text =>
      match text with
      | [] => none
      | c :: rest =>
          if c = '\n' && !acrossLines then none
          else (cutLiteral? acrossLines rest).map fun parts => ('\\' :: c :: parts.1, parts.2)
  | c :: rest =>
      if c = quote then some ([quote], rest)
      else (cutLiteral? acrossLines rest).map fun parts => (c :: parts.1, parts.2)

/-- The rest behind the end of a block comment. -/
def cutBlock? : List Char → Option (List Char)
  | [] => none
  | '*' :: '/' :: rest => some rest
  | _ :: rest => cutBlock? rest

theorem cutLiteral?_length {acrossLines : Bool} {text literal rest : List Char}
    (cut : cutLiteral? acrossLines text = some (literal, rest)) : rest.length < text.length := by
  fun_induction cutLiteral? acrossLines text generalizing literal rest with
  | case1 => simp at cut
  | case2 => simp at cut
  | case3 => simp at cut
  | case4 c tail _ ih =>
      obtain ⟨parts, found, shape⟩ := Option.map_eq_some_iff.mp cut
      have bound := ih found
      simp only [Prod.mk.injEq] at shape
      simp only [← shape.2, List.length_cons]
      omega
  | case5 tail _ =>
      simp only [Option.some.injEq, Prod.mk.injEq] at cut
      simp [← cut.2]
  | case6 c tail _ _ ih =>
      obtain ⟨parts, found, shape⟩ := Option.map_eq_some_iff.mp cut
      have bound := ih found
      simp only [Prod.mk.injEq] at shape
      simp only [← shape.2, List.length_cons]
      omega

theorem cutBlock?_length {text rest : List Char} (cut : cutBlock? text = some rest) :
    rest.length < text.length := by
  fun_induction cutBlock? text with
  | case1 => simp at cut
  | case2 tail =>
      simp only [Option.some.injEq] at cut
      simp only [← cut, List.length_cons]
      omega
  | case3 c tail _ ih =>
      have := ih cut
      simp only [List.length_cons]
      omega

theorem length_dropLine_le (text : List Char) :
    (text.dropWhile (· != '\n')).length ≤ text.length :=
  (List.dropWhile_sublist _).length_le

/-- Remove the comments of a text. -/
def dropComments : List Char → List Char
  | [] => []
  | '/' :: '/' :: rest =>
      have := length_dropLine_le rest
      dropComments (rest.dropWhile (· != '\n'))
  | '/' :: '*' :: rest =>
      match closed : cutBlock? rest with
      | some behind =>
          have := cutBlock?_length closed
          dropComments behind
      | none => '/' :: dropComments ('*' :: rest)
  | c :: rest =>
      if c = quote then
        match closed : cutLiteral? true rest with
        | some (literal, behind) =>
            have := cutLiteral?_length closed
            quote :: (literal ++ dropComments behind)
        | none => quote :: dropComments rest
      else c :: dropComments rest
termination_by text => text.length
decreasing_by
  all_goals simp only [List.length_cons]
  all_goals omega

/-- Whether the next character behind white space closes a list or a table. -/
def closesNext (text : List Char) : Bool :=
  match text.dropWhile Text.isBlank with
  | c :: _ => c == '\x7d' || c == ']'
  | [] => false

/-- Remove the commas before a closing bracket. -/
def dropTrailingCommas : List Char → List Char
  | [] => []
  | c :: rest =>
      if c = quote then
        match closed : cutLiteral? false rest with
        | some (literal, behind) =>
            have := cutLiteral?_length closed
            quote :: (literal ++ dropTrailingCommas behind)
        | none => quote :: dropTrailingCommas rest
      else if c = ',' && closesNext rest then dropTrailingCommas rest
      else c :: dropTrailingCommas rest
termination_by text => text.length
decreasing_by
  all_goals simp only [List.length_cons]
  all_goals omega

/-- Turn JSON with comments and trailing commas into plain JSON. -/
def plainChars (text : List Char) : List Char :=
  dropTrailingCommas (dropComments text)

/-- Turn JSON with comments and trailing commas into plain JSON. -/
def plain (text : String) : String :=
  String.ofList (plainChars text.toList)

end Json
end LayerLint
