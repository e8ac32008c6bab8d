import Metrology.Declaration.Grammar

namespace Metrology

namespace Declaration

inductive NameError where
  | number
  | invalid (text : String)
  | reserved (word : String)
  deriving DecidableEq, Repr

inductive DeclarationError where
  /-- The text is not the declaration of a type. -/
  | notItem
  | grammar (error : SyntaxError)
  | unknownKey (key : String)
  | missingKey (key : String)
  | emptySymbol
  | noAttribute
  | noArguments
  | noParentheses
  | name (error : NameError)
  deriving DecidableEq, Repr

structure UnitAttribute where
  name : String
  symbol : String
  dimension : Expression
  factor : Option Expression

/-- The entries that have been read. The last entry of a key counts. -/
structure Settings where
  name : Option String := none
  symbol : Option String := none
  dimension : Option Expression := none
  factor : Option Expression := none

/-- What reads a phrase, as far as it is a declaration. -/
def Scan.read {α : Type} (scan : Scan α) (source : Source) :
    Except DeclarationError (α × Source) :=
  match scan.run source with
  | .ok found => .ok found
  | .error e => .error (.grammar e)

def textValue : Scan String := do
  match ← Scan.rest with
  | .literal (.text value) _ :: after =>
      Scan.advance after
      return value
  | _ => Scan.expected ["string literal"]

def entryKey : Scan String := do
  let key ← Scan.name
  discard (Scan.mark "=")
  return Token.textAll key

namespace Settings

/-- Take the value of a key. An unknown key is an error before its value is read. -/
def take (g : Phrases) (settings : Settings) (key : String) (source : Source) :
    Except DeclarationError (Settings × Source) :=
  match key with
  | "name" => do
      let (value, source) ← textValue.read source
      return ({ settings with name := some value }, source)
  | "symbol" => do
      let (value, source) ← textValue.read source
      return ({ settings with symbol := some value }, source)
  | "dimension" => do
      let (value, source) ← (g.expression true).read source
      return ({ settings with dimension := some value }, source)
  | "factor" => do
      let (value, source) ← (g.expression true).read source
      return ({ settings with factor := some value }, source)
  | key => .error (.unknownKey key)

/-- Take all entries; every one takes a token, so `fuel` can be their number. -/
def takeAll (g : Phrases) :
    (fuel : Nat) → Settings → Source → Except DeclarationError (Settings × Source)
  | _, settings, ⟨[], stray⟩ => .ok (settings, ⟨[], stray⟩)
  | 0, _, ⟨_ :: _, _⟩ => .error (.grammar .tooDeep)
  | fuel + 1, settings, source => do
      let (key, source) ← entryKey.read source
      let (settings, source) ← settings.take g key source
      let (_, source) ← (Scan.optionalMark ",").read source
      takeAll g fuel settings source

/-- The first missing entry is reported, then an empty symbol. -/
def complete (settings : Settings) : Except DeclarationError UnitAttribute :=
  match settings.name, settings.symbol, settings.dimension with
  | none, _, _ => .error (.missingKey "name")
  | _, none, _ => .error (.missingKey "symbol")
  | _, _, none => .error (.missingKey "dimension")
  | some name, some symbol, some dimension =>
      if symbol = "" then .error .emptySymbol else .ok ⟨name, symbol, dimension, settings.factor⟩

end Settings

/-- Tokens that are left over in a group are reported when all else is right. -/
def UnitAttribute.parse (ts : List Token) : Except DeclarationError UnitAttribute := do
  let (settings, source) ← Settings.takeAll (Phrases.covering ts) ts.length {} ⟨ts, none⟩
  let unit ← settings.complete
  match source.stray with
  | none => return unit
  | some d => throw (.grammar (.stray (some d)))

end Declaration

end Metrology
