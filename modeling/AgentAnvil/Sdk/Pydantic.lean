/-
How pydantic validates the fields of a model.

A field is read under its alias or its name, with a default or none. What
pydantic takes for an `int` is a parameter, as it takes more than integers.
-/
import AgentAnvil.Lib.Json
import AgentAnvil.Lib.Py

namespace AgentAnvil.Sdk

/-- The message names a field at fault; pydantic's own says more. -/
def validationError (field : String) : Exc := ⟨"ValidationError", field⟩

/-- An integer is taken as it is. -/
def KeepsInts (int : Json → Except Exc Int) : Prop :=
  ∀ n, int (.int n) = .ok n

-- ================================================================== values

def stringField (field : String) : Json → Except Exc String
  | .str s => .ok s
  | _ => .error (validationError field)

def dictField (field : String) : Json → Except Exc (List (String × Json))
  | .obj entries => .ok entries
  | _ => .error (validationError field)

section

variable {α : Type}

/-- `T | None` -/
def optionField (read : Json → Except Exc α) : Json → Except Exc (Option α)
  | .null => .ok none
  | value => (read value).map some

/-- `list[T]` -/
def listField (field : String) (read : Json → Except Exc α) :
    Json → Except Exc (List α)
  | .arr items => items.mapM read
  | _ => .error (validationError field)

/-- `dict[str, str]` -/
def textsField (field : String) : Json → Except Exc (List (String × String))
  | .obj entries => entries.mapM fun kv => do
      let text ← stringField field kv.2
      return (kv.1, text)
  | _ => .error (validationError field)

-- ================================================================== fields

variable (entries : List (String × Json))

def required (field : String) (read : Json → Except Exc α) : Except Exc α :=
  match entries.lookup field with
  | some value => read value
  | none => .error (validationError field)

/-- A field with a default, under its alias or its name. -/
def defaulted (fields : List String) (default : α)
    (read : Json → Except Exc α) : Except Exc α :=
  match fields.findSome? fun field => entries.lookup field with
  | some value => read value
  | none => .ok default

end

end AgentAnvil.Sdk
