import Metrology.Integer

namespace Metrology

inductive BaseDimension where
  | length
  | mass
  | time
  | current
  | temperature
  | substance
  | luminousIntensity
  deriving DecidableEq, Repr

namespace BaseDimension

def all : List BaseDimension :=
  [.length, .mass, .time, .current, .temperature, .substance, .luminousIntensity]

theorem mem_all (d : BaseDimension) : d ∈ all := by
  cases d <;> decide

def index : BaseDimension → Nat
  | .length => 0
  | .mass => 1
  | .time => 2
  | .current => 3
  | .temperature => 4
  | .substance => 5
  | .luminousIntensity => 6

def name : BaseDimension → String
  | .length => "Length"
  | .mass => "Mass"
  | .time => "Time"
  | .current => "Current"
  | .temperature => "Temperature"
  | .substance => "Substance"
  | .luminousIntensity => "LuminousIntensity"

/-- The symbol of the base unit. -/
def symbol : BaseDimension → String
  | .length => "m"
  | .mass => "kg"
  | .time => "s"
  | .current => "A"
  | .temperature => "K"
  | .substance => "mol"
  | .luminousIntensity => "cd"

def unitName : BaseDimension → String
  | .length => "meter"
  | .mass => "kilogram"
  | .time => "second"
  | .current => "ampere"
  | .temperature => "kelvin"
  | .substance => "mole"
  | .luminousIntensity => "candela"

end BaseDimension

/-- One value for each base dimension. -/
structure Exponents (α : Type) where
  length : α
  mass : α
  time : α
  current : α
  temperature : α
  substance : α
  luminousIntensity : α
  deriving DecidableEq

namespace Exponents

variable {α β : Type}

def get (e : Exponents α) : BaseDimension → α
  | .length => e.length
  | .mass => e.mass
  | .time => e.time
  | .current => e.current
  | .temperature => e.temperature
  | .substance => e.substance
  | .luminousIntensity => e.luminousIntensity

def ofFn (f : BaseDimension → α) : Exponents α :=
  ⟨f .length, f .mass, f .time, f .current, f .temperature, f .substance, f .luminousIntensity⟩

@[simp]
theorem get_ofFn (f : BaseDimension → α) (d : BaseDimension) : (ofFn f).get d = f d := by
  cases d <;> rfl

theorem ext_get {a b : Exponents α} (h : ∀ d, a.get d = b.get d) : a = b := by
  cases a
  cases b
  exact (mk.injEq ..).mpr ⟨h .length, h .mass, h .time, h .current, h .temperature, h .substance,
    h .luminousIntensity⟩

/-- The family of the results where all seven exist. -/
def ofFn? (f : BaseDimension → Option α) : Option (Exponents α) := do
  return ⟨← f .length, ← f .mass, ← f .time, ← f .current, ← f .temperature, ← f .substance,
    ← f .luminousIntensity⟩

theorem ofFn?_eq_some_iff {f : BaseDimension → Option α} {e : Exponents α} :
    ofFn? f = some e ↔ ∀ d, f d = some (e.get d) := by
  constructor
  · intro h
    simp only [ofFn?, Option.bind_eq_bind, Option.bind_eq_some_iff, Option.pure_def,
      Option.some.injEq] at h
    obtain ⟨x₀, h₀, x₁, h₁, x₂, h₂, x₃, h₃, x₄, h₄, x₅, h₅, x₆, h₆, rfl⟩ := h
    intro d
    cases d <;> assumption
  · intro h
    simp [ofFn?, h, get]

def map (f : α → β) (e : Exponents α) : Exponents β :=
  ofFn fun d => f (e.get d)

@[simp]
theorem get_map (f : α → β) (e : Exponents α) (d : BaseDimension) :
    (e.map f).get d = f (e.get d) :=
  get_ofFn _ d

def toList (e : Exponents α) : List α :=
  BaseDimension.all.map e.get

def ofList? : List α → Option (Exponents α)
  | [m, kg, s, a, k, mol, cd] => some ⟨m, kg, s, a, k, mol, cd⟩
  | _ => none

@[simp]
theorem ofList?_toList (e : Exponents α) : ofList? e.toList = some e :=
  rfl

end Exponents

end Metrology
