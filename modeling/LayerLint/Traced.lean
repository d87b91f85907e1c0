import LayerLint.Trace

/-!
# Values with a record

A computation hands back its value together with a record of how it went: the entries that it wrote,
and the patterns that it tested, both in order. Records of consecutive computations are appended.
-/

namespace LayerLint

/-- A value and the record of the computation that gave it. -/
structure Traced (α : Type) where
  value : α
  log : List Entry := []
  tests : List String := []

namespace Traced

variable {α β : Type}

/-- The value alone, with an empty record. -/
protected def pure (value : α) : Traced α :=
  { value }

/-- Go on with the value and append the records. -/
protected def bind (first : Traced α) (next : α → Traced β) : Traced β :=
  let second := next first.value
  { value := second.value
    log := first.log ++ second.log
    tests := first.tests ++ second.tests }

instance : Monad Traced where
  pure := Traced.pure
  bind := Traced.bind

@[simp] theorem value_pure (value : α) : (pure value : Traced α).value = value := rfl

@[simp] theorem log_pure (value : α) : (pure value : Traced α).log = [] := rfl

@[simp] theorem tests_pure (value : α) : (pure value : Traced α).tests = [] := rfl

@[simp] theorem value_bind (first : Traced α) (next : α → Traced β) :
    (first >>= next).value = (next first.value).value := rfl

@[simp] theorem log_bind (first : Traced α) (next : α → Traced β) :
    (first >>= next).log = first.log ++ (next first.value).log := rfl

@[simp] theorem tests_bind (first : Traced α) (next : α → Traced β) :
    (first >>= next).tests = first.tests ++ (next first.value).tests := rfl

/-- Write a trace entry if the debug number reaches its level. -/
def trace (debug : Int) (detail : Detail) (channel : Channel) (text : String) : Traced Unit :=
  { value := ()
    log := if detail.level ≤ debug then [⟨.trace detail, channel, text⟩] else [] }

/-- Write a warning. -/
def warn (channel : Channel) (text : String) : Traced Unit :=
  { value := (), log := [⟨.warning, channel, text⟩] }

/-- Record that a pattern is tested. -/
def test (pattern : String) : Traced Unit :=
  { value := (), tests := [pattern] }

end Traced
end LayerLint
