import Metrology.Units.Formula

namespace Metrology

namespace International

def meter : Formula :=
  .unit .length

def kilogram : Formula :=
  .unit .mass

def second : Formula :=
  .unit .time

def ampere : Formula :=
  .unit .current

def kelvin : Formula :=
  .unit .temperature

def mole : Formula :=
  .unit .substance

def candela : Formula :=
  .unit .luminousIntensity

def yotta : Formula :=
  .number Scale.yotta.factor

def zetta : Formula :=
  .number Scale.zetta.factor

def exa : Formula :=
  .number Scale.exa.factor

def peta : Formula :=
  .number Scale.peta.factor

def tera : Formula :=
  .number Scale.tera.factor

def giga : Formula :=
  .number Scale.giga.factor

def mega : Formula :=
  .number Scale.mega.factor

def kilo : Formula :=
  .number Scale.kilo.factor

def hecto : Formula :=
  .number Scale.hecto.factor

def deka : Formula :=
  .number Scale.deka.factor

def deci : Formula :=
  .number Scale.deci.factor

def centi : Formula :=
  .number Scale.centi.factor

def milli : Formula :=
  .number Scale.milli.factor

def micro : Formula :=
  .number Scale.micro.factor

def nano : Formula :=
  .number Scale.nano.factor

def pico : Formula :=
  .number Scale.pico.factor

def femto : Formula :=
  .number Scale.femto.factor

def atto : Formula :=
  .number Scale.atto.factor

def zepto : Formula :=
  .number Scale.zepto.factor

def yocto : Formula :=
  .number Scale.yocto.factor

def kibi : Formula :=
  .number 1024.0

def mebi : Formula :=
  .times (.number 1024.0) kibi

def gibi : Formula :=
  .times (.number 1024.0) mebi

def tebi : Formula :=
  .times (.number 1024.0) gibi

def pebi : Formula :=
  .times (.number 1024.0) tebi

def exbi : Formula :=
  .times (.number 1024.0) pebi

def zebi : Formula :=
  .times (.number 1024.0) exbi

def pi : Formula :=
  .pi

def steradian : Formula :=
  .number 1.0

def newton : Formula :=
  (meter.times kilogram).per second.squared

def pascal : Formula :=
  newton.per meter.squared

def joule : Formula :=
  newton.times meter

def watt : Formula :=
  joule.per second

def coulomb : Formula :=
  second.times ampere

def volt : Formula :=
  watt.per ampere

def farad : Formula :=
  coulomb.per volt

def ohm : Formula :=
  volt.per ampere

def siemens : Formula :=
  ampere.per volt

def weber : Formula :=
  volt.times second

def tesla : Formula :=
  weber.per meter.squared

def henry : Formula :=
  weber.per ampere

def lumen : Formula :=
  candela.times steradian

def lux : Formula :=
  (lumen.per meter).per meter

def becquerel : Formula :=
  second.reciprocal

def gray : Formula :=
  joule.per kilogram

def sievert : Formula :=
  joule.per kilogram

def day : Formula :=
  second.scaled 86400.0

def degreeAngle : Formula :=
  pi.per (.number 180.0)

def liter : Formula :=
  meter.cubed.scaled 1e-3

def tonMetric : Formula :=
  kilogram.scaled 1e3

def table : FormulaTable :=
  [("METER", meter),
   ("KILOGRAM", kilogram),
   ("SECOND", second),
   ("AMPERE", ampere),
   ("KELVIN", kelvin),
   ("MOLE", mole),
   ("CANDELA", candela),
   ("YOTTA", yotta),
   ("ZETTA", zetta),
   ("EXA", exa),
   ("PETA", peta),
   ("TERA", tera),
   ("GIGA", giga),
   ("MEGA", mega),
   ("KILO", kilo),
   ("HECTO", hecto),
   ("DEKA", deka),
   ("DECI", deci),
   ("CENTI", centi),
   ("MILLI", milli),
   ("MICRO", micro),
   ("NANO", nano),
   ("PICO", pico),
   ("FEMTO", femto),
   ("ATTO", atto),
   ("ZEPTO", zepto),
   ("YOCTO", yocto),
   ("KIBI", kibi),
   ("MEBI", mebi),
   ("GIBI", gibi),
   ("TEBI", tebi),
   ("PEBI", pebi),
   ("EXBI", exbi),
   ("ZEBI", zebi),
   ("YOBI", .times (.number 1024.0) zebi),
   ("PI", pi),
   ("PERCENT", .per (.number 1.0) (.number 100.0)),
   ("GRAM", kilogram.scaled 1e-3),
   ("RADIAN", .number 1.0),
   ("STERADIAN", steradian),
   ("NEWTON", newton),
   ("PASCAL", pascal),
   ("JOULE", joule),
   ("WATT", watt),
   ("COULOMB", coulomb),
   ("VOLT", volt),
   ("FARAD", farad),
   ("OHM", ohm),
   ("SIEMENS", siemens),
   ("WEBER", weber),
   ("TESLA", tesla),
   ("HENRY", henry),
   ("DEGREE_CELSIUS", kelvin),
   ("LUMEN", lumen),
   ("LUX", lux),
   ("BECQUEREL", becquerel),
   ("GRAY", gray),
   ("SIEVERT", sievert),
   ("HERTZ", second.reciprocal),
   ("ANGSTROM", meter.scaled 1e-10),
   ("ARE", meter.squared.scaled 1e2),
   ("BAR", pascal.scaled 1e5),
   ("BARN", meter.squared.scaled 1e-28),
   ("CURIE", becquerel.scaled 3.7e10),
   ("DAY", day),
   ("DEGREE_ANGLE", degreeAngle),
   ("GAL", (meter.per second.squared).scaled 1e-2),
   ("HECTARE", meter.squared.scaled 1e4),
   ("HOUR", second.scaled 3600.0),
   ("KNOT", (meter.per second).times (.per (.number 1852.0) (.number 3600.0))),
   ("LITER", liter),
   ("MINUTE", second.scaled 60.0),
   ("MINUTE_ANGLE", pi.per (.number 10800.0)),
   ("MILE_NAUTICAL", meter.scaled 1852.0),
   ("RAD", gray.scaled 1e-2),
   ("REM", sievert.scaled 1e-2),
   ("ROENTGEN", (coulomb.per kilogram).scaled 2.58e-4),
   ("SECOND_ANGLE", pi.per (.number 648000.0)),
   ("TON_METRIC", tonMetric),
   ("METRE", meter),
   ("LITRE", liter),
   ("DECA", deka),
   ("TONNE", tonMetric)]

end International

end Metrology
