import Metrology.Units.International

namespace Metrology

namespace Customary

open International

def btuIt : Formula :=
  joule.scaled 1.055056e3

def table : FormulaTable :=
  [("ABAMPERE", ampere.scaled 1e1),
   ("ABCOULOMB", coulomb.scaled 1e1),
   ("ABFARAD", farad.scaled 1e9),
   ("ABHENRY", henry.scaled 1e-9),
   ("ABMHO", siemens.scaled 1e9),
   ("ABOHM", ohm.scaled 1e-9),
   ("ABVOLT", volt.scaled 1e-8),
   ("ACRE", meter.squared.scaled 4.046873e3),
   ("ACRE_FOOT", meter.cubed.scaled 1.233489e3),
   ("ASTRONOMICAL_UNIT", meter.scaled 1.495979e11),
   ("ATMOSPHERE_STD", pascal.scaled 1.01325e5),
   ("ATMOSPHERE_TECH", pascal.scaled 9.80665e4),
   ("BARREL", meter.cubed.scaled 1.589873e-1),
   ("BIOT", ampere.scaled 1e1),
   ("BTU", joule.scaled 1.05587e3),
   ("BTU_IT", btuIt),
   ("BTU_TH", joule.scaled 1.054350e3),
   ("BTU_39F", joule.scaled 1.05967e3),
   ("BTU_59F", joule.scaled 1.05480e3),
   ("BTU_60F", joule.scaled 1.05468e3),
   ("BUSHEL", meter.cubed.scaled 3.523907e-2),
   ("CALORIE", joule.scaled 4.19002),
   ("CALORIE_IT", joule.scaled 4.1868),
   ("CALORIE_TH", joule.scaled 4.184),
   ("CALORIE_15C", joule.scaled 4.18580),
   ("CALORIE_20C", joule.scaled 4.18190),
   ("CARAT_METRIC", kilogram.scaled 2e-4),
   ("CHAIN", meter.scaled 2.011684e1),
   ("CLO", ((meter.squared.times kelvin).per watt).scaled 1.55e-1),
   ("CM_MERCURY", pascal.scaled 1.333224e3),
   ("CORD", meter.cubed.scaled 3.624556),
   ("CUP", meter.cubed.scaled 2.365882e-4),
   ("DARCY", meter.squared.scaled 9.869233e-13),
   ("DAY_SIDEREAL", second.scaled 8.616409e4),
   ("DEBYE", (coulomb.times meter).scaled 3.335641e-30),
   ("DEGREE_FAHRENHEIT", kelvin.scaled 5.555556e-1),
   ("DEGREE_RANKINE", kelvin.scaled 5.555556e-1),
   ("DENIER", (kilogram.per meter).scaled 1.111111e-7),
   ("DYNE", newton.scaled 1e-5),
   ("ERG", joule.scaled 1e-7),
   ("FARADAY", coulomb.scaled 9.648531e4),
   ("FATHOM", meter.scaled 1.828804),
   ("FERMI", meter.scaled 1e-15),
   ("FOOT", meter.scaled 3.048e-1),
   ("FOOT_POUND_FORCE", joule.scaled 1.355818),
   ("FOOT_POUNDAL", joule.scaled 4.214011e-2),
   ("FOOT_US_SURVEY", meter.scaled 3.048006e-1),
   ("FOOTCANDLE", lux.scaled 1.076391e1),
   ("FOOTLAMBERT", (candela.per meter.squared).scaled 3.426259),
   ("FORTNIGHT", day.scaled 14.0),
   ("FRANKLIN", coulomb.scaled 3.335641e-10),
   ("FURLONG", meter.scaled 2.01168e2),
   ("GALLON_IMPERIAL", meter.cubed.scaled 4.54609e-3),
   ("GALLON_US", meter.cubed.scaled 3.785412e-3),
   ("GAMMA", tesla.scaled 1e-9),
   ("GAMMA_MASS", kilogram.scaled 1e-9),
   ("GAUSS", tesla.scaled 1e-4),
   ("GILBERT", ampere.scaled 7.957747e-1),
   ("GILL_IMPERIAL", meter.cubed.scaled 1.420653e-4),
   ("GILL_US", meter.cubed.scaled 1.182941e-4),
   ("GON", .times (.number 9e-1) degreeAngle),
   ("GRAIN", kilogram.scaled 6.479891e-5),
   ("HORSEPOWER", watt.scaled 7.456999e2),
   ("HORSEPOWER_BOILER", watt.scaled 9.80950e3),
   ("HORSEPOWER_ELECTRIC", watt.scaled 7.46e2),
   ("HORSEPOWER_METRIC", watt.scaled 7.354988e2),
   ("HORSEPOWER_UK", watt.scaled 7.4570e2),
   ("HORSEPOWER_WATER", watt.scaled 7.46043e2),
   ("HOUR_SIDEREAL", second.scaled 3.590170e3),
   ("HUNDREDWEIGHT_LONG", kilogram.scaled 5.080235e1),
   ("HUNDREDWEIGHT_SHORT", kilogram.scaled 4.535924e1),
   ("INCH", meter.scaled 2.54e-2),
   ("INCHES_MERCURY", pascal.scaled 3.386389e3),
   ("KAYSER", meter.reciprocal.scaled 1e2),
   ("KILOGRAM_FORCE", newton.scaled 9.80665),
   ("KILOPOND", newton.scaled 9.80665),
   ("KIP", newton.scaled 4.448222e3),
   ("LAMBDA_VOLUME", meter.cubed.scaled 1e-9),
   ("LAMBERT", (candela.per meter.squared).scaled 3.183099e3),
   ("LANGLEY", (joule.per meter.squared).scaled 4.184e4),
   ("LIGHT_YEAR", meter.scaled 9.46073e15),
   ("MAXWELL", weber.scaled 1e-8),
   ("MHO", siemens),
   ("MICRON", meter.times micro),
   ("MIL", meter.scaled 2.54e-5),
   ("MIL_ANGLE", .times (.number 5.625e-2) degreeAngle),
   ("MIL_CIRCULAR", meter.squared.scaled 5.067075e-10),
   ("MILE", meter.scaled 1.609344e3),
   ("MILE_US_SURVEY", meter.scaled 1.609347e3),
   ("MINUTE_SIDEREAL", second.scaled 5.983617e1),
   ("OERSTED", (ampere.per meter).scaled 7.957747e1),
   ("OUNCE_AVDP", kilogram.scaled 2.834952e-2),
   ("OUNCE_FLUID_IMPERIAL", meter.cubed.scaled 2.841306e-5),
   ("OUNCE_FLUID_US", meter.cubed.scaled 2.957353e-5),
   ("OUNCE_FORCE", newton.scaled 2.780139e-1),
   ("OUNCE_TROY", kilogram.scaled 3.110348e-2),
   ("PARSEC", meter.scaled 3.085678e16),
   ("PECK", meter.cubed.scaled 8.809768e-3),
   ("PENNYWEIGHT", kilogram.scaled 1.555174e-3),
   ("PERM_0C", (((kilogram.per pascal).per second).per meter.squared).scaled 5.72135e-11),
   ("PERM_23C", (((kilogram.per pascal).per second).per meter.squared).scaled 5.74525e-11),
   ("PHOT", lux.scaled 1e4),
   ("PICA_COMPUTER", meter.scaled 4.233333e-3),
   ("PICA_PRINTERS", meter.scaled 4.217518e-3),
   ("PINT_DRY", meter.cubed.scaled 5.506105e-4),
   ("PINT_LIQUID", meter.cubed.scaled 4.731765e-4),
   ("POINT_COMPUTER", meter.scaled 3.527778e-4),
   ("POINT_PRINTERS", meter.scaled 3.514598e-4),
   ("POISE", (pascal.times second).scaled 1e-1),
   ("POUND_AVDP", kilogram.scaled 4.5359237e-1),
   ("POUND_FORCE", newton.scaled 4.448222),
   ("POUND_TROY", kilogram.scaled 3.732417e-1),
   ("POUNDAL", newton.scaled 1.382550e-1),
   ("PSI", pascal.scaled 6.894757e3),
   ("QUAD", btuIt.scaled 1e15),
   ("QUART_DRY", meter.cubed.scaled 1.101221e-3),
   ("QUART_LIQUID", meter.cubed.scaled 9.463529e-4),
   ("REVOLUTION", .times (.number 2.0) pi),
   ("RHE", (pascal.times second).reciprocal.scaled 1e1),
   ("ROD", meter.scaled 5.029210),
   ("RPM", second.reciprocal.scaled 1.047198e-1),
   ("SECOND_SIDEREAL", second.scaled 9.972696e-1),
   ("SHAKE", second.scaled 1e-8),
   ("SLUG", kilogram.scaled 1.459390e1),
   ("STATAMPERE", ampere.scaled 3.335641e-10),
   ("STATCOULOMB", coulomb.scaled 3.335641e-10),
   ("STATFARAD", farad.scaled 1.112650e-12),
   ("STATHENRY", henry.scaled 8.987552e11),
   ("STATMHO", siemens.scaled 1.112650e-12),
   ("STATOHM", ohm.scaled 8.987552e11),
   ("STATVOLT", volt.scaled 2.997925e2),
   ("STERE", meter.cubed),
   ("STILB", (candela.per meter.squared).scaled 1e4),
   ("STOKES", (meter.squared.per second).scaled 1e-4),
   ("TABLESPOON", meter.cubed.scaled 1.478676e-5),
   ("TEASPOON", meter.cubed.scaled 4.928922e-6),
   ("TEX", (kilogram.per meter).scaled 1e-6),
   ("THERM_EC", joule.scaled 1.05506e8),
   ("THERM_US", joule.scaled 1.054804e8),
   ("TON_ASSAY", kilogram.scaled 2.916667e-2),
   ("TON_FORCE", newton.scaled 8.896443e3),
   ("TON_LONG", kilogram.scaled 1.016047e3),
   ("TON_REFRIGERATION", watt.scaled 3.516853e3),
   ("TON_REGISTER", meter.cubed.scaled 2.831685),
   ("TON_SHORT", kilogram.scaled 9.071847e2),
   ("TON_TNT", joule.scaled 4.184e9),
   ("TORR", pascal.scaled 1.333224e2),
   ("UNIT_POLE", weber.scaled 1.256637e-7),
   ("WEEK", second.scaled 604800.0),
   ("X_UNIT", meter.scaled 1.002e-13),
   ("YARD", meter.scaled 9.144e-1),
   ("YEAR_SIDEREAL", second.scaled 3.155815e7),
   ("YEAR_STD", second.scaled 3.1536e7),
   ("YEAR_TROPICAL", second.scaled 3.155693e7)]

end Customary

namespace Constants

open International

def table : FormulaTable :=
  [("G_N", (meter.per second.squared).scaled 9.80665),
   ("N_A", mole.reciprocal.scaled 6.02214199e23),
   ("EV", joule.scaled 1.60217733e-19),
   ("E", coulomb.scaled 1.602176462e-19),
   ("H", (joule.times second).scaled 6.62606876e-34),
   ("C", (meter.per second).scaled 299792458.0),
   ("U", kilogram.scaled 1.6605402e-27)]

end Constants

end Metrology
