/-!
# Tables in insertion order

A table is a list of entries. Writing to a key that is present keeps the key and its place and
replaces the value, so the first spelling of a key and its last value stay.
-/

namespace LayerLint
namespace Table

variable {κ α : Type}

/-- Write a value under a key, where `same` tells which keys count as equal. -/
def put (same : κ → κ → Bool) (key : κ) (value : α) : List (κ × α) → List (κ × α)
  | [] => [(key, value)]
  | (present, old) :: rest =>
      if same present key then (present, value) :: rest
      else (present, old) :: put same key value rest

/-- The table that results from writing entries one after the other. -/
def ofEntries (same : κ → κ → Bool) (entries : List (κ × α)) : List (κ × α) :=
  entries.foldl (fun table entry => put same entry.1 entry.2 table) []

end Table
end LayerLint
