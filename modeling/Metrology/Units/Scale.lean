import Metrology.Binary.Basic
import Metrology.Units.Error

namespace Metrology

/-- The decimal that a numeral denotes. -/
instance : OfScientific Decimal :=
  ⟨fun significand negative exponent => ⟨significand, if negative then -exponent else exponent⟩⟩

inductive Scale where
  | yotta
  | zetta
  | exa
  | peta
  | tera
  | giga
  | mega
  | kilo
  | hecto
  | deka
  | deci
  | centi
  | milli
  | micro
  | nano
  | pico
  | femto
  | atto
  | zepto
  | yocto
  deriving DecidableEq, Repr

namespace Scale

def factor : Scale → Decimal
  | .yotta => 1e24
  | .zetta => 1e21
  | .exa => 1e18
  | .peta => 1e15
  | .tera => 1e12
  | .giga => 1e9
  | .mega => 1e6
  | .kilo => 1e3
  | .hecto => 1e2
  | .deka => 1e1
  | .deci => 1e-1
  | .centi => 1e-2
  | .milli => 1e-3
  | .micro => 1e-6
  | .nano => 1e-9
  | .pico => 1e-12
  | .femto => 1e-15
  | .atto => 1e-18
  | .zepto => 1e-21
  | .yocto => 1e-24

def value (p : Precision) (s : Scale) : Binary p :=
  Binary.ofDecimal false s.factor

def constantName : Scale → String
  | .yotta => "YOTTA"
  | .zetta => "ZETTA"
  | .exa => "EXA"
  | .peta => "PETA"
  | .tera => "TERA"
  | .giga => "GIGA"
  | .mega => "MEGA"
  | .kilo => "KILO"
  | .hecto => "HECTO"
  | .deka => "DEKA"
  | .deci => "DECI"
  | .centi => "CENTI"
  | .milli => "MILLI"
  | .micro => "MICRO"
  | .nano => "NANO"
  | .pico => "PICO"
  | .femto => "FEMTO"
  | .atto => "ATTO"
  | .zepto => "ZEPTO"
  | .yocto => "YOCTO"

def ofSymbol? (symbol : String) : Option Scale :=
  match symbol with
  | "Y" => some .yotta
  | "Z" => some .zetta
  | "E" => some .exa
  | "P" => some .peta
  | "T" => some .tera
  | "G" => some .giga
  | "M" => some .mega
  | "k" => some .kilo
  | "h" => some .hecto
  | "da" => some .deka
  | "d" => some .deci
  | "c" => some .centi
  | "m" => some .milli
  | "u" => some .micro
  | "n" => some .nano
  | "p" => some .pico
  | "f" => some .femto
  | "a" => some .atto
  | "z" => some .zepto
  | "y" => some .yocto
  | _ => none

def lookup (symbol : String) : Logged UnitError Scale :=
  match ofSymbol? symbol with
  | some s => pure s
  | none => UnitError.raise id (.unknownScale symbol)

end Scale

/-- How a constructor of a unit scales: the symbol and the name before those of the unit, and the
scale, if any. -/
structure Scaling where
  symbol : String
  name : String
  scale : Option Scale
  deriving DecidableEq, Repr

namespace Scaling

/-- The scalings in falling order; the plain unit stands between deka and deci. -/
def all : List Scaling :=
  [⟨"Y", "yotta", some .yotta⟩,
   ⟨"Z", "zetta", some .zetta⟩,
   ⟨"E", "exa", some .exa⟩,
   ⟨"P", "peta", some .peta⟩,
   ⟨"T", "tera", some .tera⟩,
   ⟨"G", "giga", some .giga⟩,
   ⟨"M", "mega", some .mega⟩,
   ⟨"k", "kilo", some .kilo⟩,
   ⟨"h", "hecto", some .hecto⟩,
   ⟨"da", "deka", some .deka⟩,
   ⟨"", "", none⟩,
   ⟨"d", "deci", some .deci⟩,
   ⟨"c", "centi", some .centi⟩,
   ⟨"m", "milli", some .milli⟩,
   ⟨"u", "micro", some .micro⟩,
   ⟨"n", "nano", some .nano⟩,
   ⟨"p", "pico", some .pico⟩,
   ⟨"f", "femto", some .femto⟩,
   ⟨"a", "atto", some .atto⟩,
   ⟨"z", "zepto", some .zepto⟩,
   ⟨"y", "yocto", some .yocto⟩]

def factor (s : Scaling) : Decimal :=
  match s.scale with
  | some scale => scale.factor
  | none => 1.0

end Scaling

end Metrology
