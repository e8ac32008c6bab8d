import Metrology.Dimension.Basic

namespace Metrology

namespace Dimension

def named : List (String × Dimension) :=
  [("Dimensionless", dimensionless),
   ("Length", ⟨1, 0, 0, 0, 0, 0, 0⟩),
   ("Mass", ⟨0, 1, 0, 0, 0, 0, 0⟩),
   ("TimeInterval", ⟨0, 0, 1, 0, 0, 0, 0⟩),
   ("ElectricCurrent", ⟨0, 0, 0, 1, 0, 0, 0⟩),
   ("ThermodynamicTemperature", ⟨0, 0, 0, 0, 1, 0, 0⟩),
   ("AmountOfSubstance", ⟨0, 0, 0, 0, 0, 1, 0⟩),
   ("LuminousIntensity", ⟨0, 0, 0, 0, 0, 0, 1⟩),
   ("AbsorbedDose", ⟨2, 0, -2, 0, 0, 0, 0⟩),
   ("AbsorbedDoseRate", ⟨2, 0, -3, 0, 0, 0, 0⟩),
   ("Acceleration", ⟨1, 0, -2, 0, 0, 0, 0⟩),
   ("ActivityOfANuclide", ⟨0, 0, -1, 0, 0, 0, 0⟩),
   ("AngularVelocity", ⟨0, 0, -1, 0, 0, 0, 0⟩),
   ("AngularAcceleration", ⟨0, 0, -2, 0, 0, 0, 0⟩),
   ("Area", ⟨2, 0, 0, 0, 0, 0, 0⟩),
   ("Capacitance", ⟨-2, -1, 4, 2, 0, 0, 0⟩),
   ("Concentration", ⟨-3, 0, 0, 0, 0, 1, 0⟩),
   ("CurrentDensity", ⟨-2, 0, 0, 1, 0, 0, 0⟩),
   ("DoseEquivalent", ⟨2, 0, -2, 0, 0, 0, 0⟩),
   ("DynamicViscosity", ⟨-1, 1, -1, 0, 0, 0, 0⟩),
   ("ElectricCharge", ⟨0, 0, 1, 1, 0, 0, 0⟩),
   ("ElectricChargeDensity", ⟨-3, 0, 1, 1, 0, 0, 0⟩),
   ("ElectricConductance", ⟨-2, -1, 3, 2, 0, 0, 0⟩),
   ("ElectricFieldStrength", ⟨1, 1, -3, -1, 0, 0, 0⟩),
   ("ElectricFluxDensity", ⟨-2, 0, 1, 1, 0, 0, 0⟩),
   ("ElectricPotential", ⟨2, 1, -3, -1, 0, 0, 0⟩),
   ("ElectricResistance", ⟨2, 1, -3, -2, 0, 0, 0⟩),
   ("Energy", ⟨2, 1, -2, 0, 0, 0, 0⟩),
   ("EnergyDensity", ⟨-1, 1, -2, 0, 0, 0, 0⟩),
   ("Exposure", ⟨0, -1, 1, 1, 0, 0, 0⟩),
   ("Force", ⟨1, 1, -2, 0, 0, 0, 0⟩),
   ("Frequency", ⟨0, 0, -1, 0, 0, 0, 0⟩),
   ("HeatCapacity", ⟨2, 1, -2, 0, -1, 0, 0⟩),
   ("HeatDensity", ⟨0, 1, -2, 0, 0, 0, 0⟩),
   ("HeatDensityFlowRate", ⟨0, 1, -3, 0, 0, 0, 0⟩),
   ("HeatFlowRate", ⟨2, 1, -3, 0, 0, 0, 0⟩),
   ("HeatFluxDensity", ⟨0, 1, -3, 0, 0, 0, 0⟩),
   ("HeatTransferCoefficient", ⟨0, 1, -3, 0, -1, 0, 0⟩),
   ("Illuminance", ⟨-2, 0, 0, 0, 0, 0, 1⟩),
   ("Inductance", ⟨2, 1, -2, -2, 0, 0, 0⟩),
   ("Irradiance", ⟨0, 1, -3, 0, 0, 0, 0⟩),
   ("KinematicViscosity", ⟨2, 0, -1, 0, 0, 0, 0⟩),
   ("Luminance", ⟨-2, 0, 0, 0, 0, 0, 1⟩),
   ("LuminousFlux", ⟨0, 0, 0, 0, 0, 0, 1⟩),
   ("MagneticFieldStrength", ⟨-1, 0, 0, 1, 0, 0, 0⟩),
   ("MagneticFlux", ⟨2, 1, -2, -1, 0, 0, 0⟩),
   ("MagneticFluxDensity", ⟨0, 1, -2, -1, 0, 0, 0⟩),
   ("MagneticPermeability", ⟨1, 1, -2, -2, 0, 0, 0⟩),
   ("MassDensity", ⟨-3, 1, 0, 0, 0, 0, 0⟩),
   ("MassFlowRate", ⟨0, 1, -1, 0, 0, 0, 0⟩),
   ("MolarEnergy", ⟨2, 1, -2, 0, 0, -1, 0⟩),
   ("MolarEntropy", ⟨2, 1, -2, -1, 0, -1, 0⟩),
   ("MomentOfForce", ⟨2, 1, -2, 0, 0, 0, 0⟩),
   ("Permittivity", ⟨-3, -1, 4, 2, 0, 0, 0⟩),
   ("Power", ⟨2, 1, -3, 0, 0, 0, 0⟩),
   ("Pressure", ⟨-1, 1, -2, 0, 0, 0, 0⟩),
   ("Radiance", ⟨0, 1, -3, 0, 0, 0, 0⟩),
   ("RadiantIntensity", ⟨2, 1, -3, 0, 0, 0, 0⟩),
   ("Speed", ⟨1, 0, -1, 0, 0, 0, 0⟩),
   ("SpecificEnergy", ⟨2, 0, -2, 0, 0, 0, 0⟩),
   ("SpecificHeatCapacity", ⟨2, 0, -2, 0, -1, 0, 0⟩),
   ("SpecificVolume", ⟨3, -1, 0, 0, 0, 0, 0⟩),
   ("SubstancePermeability", ⟨-1, 0, 1, 0, 0, 0, 0⟩),
   ("SurfaceTension", ⟨0, 1, -2, 0, 0, 0, 0⟩),
   ("ThermalConductivity", ⟨1, 1, -3, 0, -1, 0, 0⟩),
   ("ThermalDiffusivity", ⟨2, 0, -1, 0, 0, 0, 0⟩),
   ("ThermalInsulance", ⟨0, -1, 3, 0, 1, 0, 0⟩),
   ("ThermalResistance", ⟨-2, -1, 3, 0, 1, 0, 0⟩),
   ("ThermalResistivity", ⟨-1, -1, 3, 0, 1, 0, 0⟩),
   ("Torque", ⟨2, 1, -2, 0, 0, 0, 0⟩),
   ("Volume", ⟨3, 0, 0, 0, 0, 0, 0⟩),
   ("VolumeFlowRate", ⟨3, 0, -1, 0, 0, 0, 0⟩),
   ("WaveNumber", ⟨-1, 0, 0, 0, 0, 0, 0⟩),
   ("Velocity", ⟨1, 0, -1, 0, 0, 0, 0⟩)]

def ofName? (name : String) : Option Dimension :=
  named.lookup name

end Dimension

end Metrology
