import Metrology.Text.Printable
import Metrology.Text.Spec

namespace Metrology

/-- A result, and the lines that were logged on the way to it. -/
@[ext]
structure Logged (ε α : Type) where
  result : Except ε α
  log : List String := []

namespace Logged

variable {ε α β : Type}

def bind (r : Logged ε α) (f : α → Logged ε β) : Logged ε β :=
  match r.result with
  | .ok x => ⟨(f x).result, r.log ++ (f x).log⟩
  | .error e => ⟨.error e, r.log⟩

instance : Monad (Logged ε) where
  pure x := ⟨.ok x, []⟩
  bind := bind

/-- A result by itself logs nothing. -/
instance : MonadLift (Except ε) (Logged ε) where
  monadLift r := ⟨r, []⟩

def map (f : α → β) (r : Logged ε α) : Logged ε β :=
  ⟨r.result.map f, r.log⟩

/-- Log a line. -/
def debug (line : String) : Logged ε Unit :=
  ⟨.ok (), [line]⟩

def fail (e : ε) : Logged ε α :=
  ⟨.error e, []⟩

section

variable (x : α) (r : Except ε α) (e : ε) (log : List String) (f : α → Logged ε β)

@[simp]
theorem pure_eq : (pure x : Logged ε α) = ⟨.ok x, []⟩ :=
  rfl

@[simp]
theorem liftM_eq : (liftM r : Logged ε α) = ⟨r, []⟩ :=
  rfl

@[simp]
theorem ok_bind :
    (⟨.ok x, log⟩ : Logged ε α) >>= f = ⟨(f x).result, log ++ (f x).log⟩ :=
  rfl

@[simp]
theorem error_bind :
    (⟨.error e, log⟩ : Logged ε α) >>= f = ⟨.error e, log⟩ :=
  rfl

theorem bind_ok (r : Logged ε α) (f : α → β) : (r >>= fun x => ⟨.ok (f x), []⟩) = r.map f := by
  obtain ⟨_ | _, _⟩ := r <;> simp [map, Except.map]

end

end Logged

inductive UnitError where
  /-- The text is no symbol of a scale. -/
  | unknownScale (symbol : String)
  /-- The unit of a stored quantity does not fit its dimension. -/
  | mismatch (expected found : String)
  deriving DecidableEq, Repr

namespace UnitError

def message : UnitError → String
  | .unknownScale symbol => "quantity: unrecognized prefix '" ++ symbol ++ "'"
  | .mismatch expected found =>
      "unit mismatch: expected '" ++ expected ++ "', found '" ++ found ++ "'"

/-- The line that is logged where the error comes up. -/
def event : UnitError → String
  | .unknownScale symbol => "unrecognized SI prefix '" ++ symbol ++ "'"
  | .mismatch expected found =>
      "rejecting quantity with unit '" ++ found ++ "', expected '" ++ expected ++ "'"

def debug (spec : Spec) : UnitError → String
  | .unknownScale symbol =>
      Record.fields spec.alternate "UnrecognizedPrefix" [("prefix", quoted symbol)]
  | .mismatch expected found =>
      Record.fields spec.alternate "UnitMismatch"
        [("expected", quoted expected), ("found", quoted found)]

/-- The error, with its line in the log. -/
def raise {ε α : Type} (wrap : UnitError → ε) (error : UnitError) : Logged ε α := do
  Logged.debug error.event
  .fail (wrap error)

end UnitError

end Metrology
