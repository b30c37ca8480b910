import RecordSql.Value.Basic

/-!
# Statements

The text of a statement and, in order, the values for the placeholders that the text names. A name
can be bound more than once.
-/

namespace RecordSql

/-- A value for a placeholder, whose name includes its marker. -/
structure Binding where
  name : String
  value : Value
  deriving DecidableEq

/-- A statement and its bindings. -/
structure Statement where
  sql : String := ""
  bindings : List Binding := []
  deriving DecidableEq

namespace Statement

/-- Adds a binding at the end. Model of `Statement::bind`. -/
def bind (s : Statement) (name : String) (value : Value) : Statement :=
  { s with bindings := s.bindings ++ [⟨name, value⟩] }

/-- Adds bindings at the end. -/
def bindAll (s : Statement) (bindings : List Binding) : Statement :=
  { s with bindings := s.bindings ++ bindings }

/-- Puts the text and the bindings of another statement behind those of this one. Model of
    `Statement::append`. -/
def append (s t : Statement) : Statement :=
  ⟨s.sql ++ t.sql, s.bindings ++ t.bindings⟩

instance : Append Statement := ⟨append⟩

end Statement

end RecordSql
