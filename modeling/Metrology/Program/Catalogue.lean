import Metrology.Dimension.Named

namespace Metrology

namespace Program

/-- Dimensions of constants and of powers that have no name of their own. -/
def composites : List (String × Dimension) :=
  [("ChargeLength", ⟨1, 0, 1, 1, 0, 0, 0⟩),
   ("MassPerLength", ⟨-1, 1, 0, 0, 0, 0, 0⟩),
   ("Fluidity", ⟨1, -1, 1, 0, 0, 0, 0⟩),
   ("PerMole", ⟨0, 0, 0, 0, 0, -1, 0⟩),
   ("Action", ⟨2, 1, -1, 0, 0, 0, 0⟩),
   ("Length4", ⟨4, 0, 0, 0, 0, 0, 0⟩),
   ("Length6", ⟨6, 0, 0, 0, 0, 0, 0⟩),
   ("PerArea", ⟨-2, 0, 0, 0, 0, 0, 0⟩),
   ("Time2", ⟨0, 0, 2, 0, 0, 0, 0⟩),
   ("Length100", ⟨100, 0, 0, 0, 0, 0, 0⟩),
   ("All", ⟨1, -1, 2, -2, 3, -3, 4⟩),
   ("Even", ⟨2, -2, 4, -4, 6, -6, 12⟩)]

def composite? (name : String) : Option Dimension :=
  (composites.find? fun entry => entry.1 = name).map Prod.snd

def commonNames : List String :=
  ["Length", "Mass", "TimeInterval", "Acceleration", "Area", "Energy", "Force", "Frequency",
   "Speed", "Volume", "WaveNumber"]

def common : List Dimension :=
  commonNames.filterMap Dimension.ofName?

def catalogue : List Dimension :=
  Dimension.named.map Prod.snd ++ composites.map Prod.snd

end Program

end Metrology
