import Equate.Unit.Table

/-!
# The bundled catalog

The units that are known without any configuration. Factors are numbers as a document
writes them and are read the way document numbers are read.
-/
namespace Equate.Unit

/-- A number as a document writes it. -/
def written (numeral : String) : Json.Value :=
  (((Json.parse? numeral.toList).bind (Json.evaluate? Json.depthLimit))).getD .null

/-- A category of the catalog. -/
def entry (name : String) (units : List (String × String)) : Text × Json.Value :=
  (name, .object (units.map fun (symbol, numeral) => (symbol.toList, written numeral)))

/-- The bundled configuration. -/
def catalog : Json.Value := .object [
  entry "LENGTH" [
    ("m", "1.0"), ("cm", "100.0"), ("mm", "1000.0"), ("km", "0.001"),
    ("in", "39.37007874015748"), ("ft", "3.280839895013123"), ("yd", "1.0936132983377078"),
    ("mi", "0.0006213711922373339")],
  entry "MASS" [
    ("kg", "1.0"), ("g", "1000.0"), ("tonne", "0.001"), ("lbm", "2.2046226218487757"),
    ("slug", "0.06852176585679176")],
  entry "MOLES" [
    ("mol", "1.0"), ("kmol", "0.001"), ("lbmol", "0.0022046226218487757")],
  entry "TIME" [
    ("s", "1.0"), ("ms", "1000.0"), ("min", "0.016666666666666666"),
    ("hr", "0.0002777777777777778"), ("day", "1.1574074074074073e-05")],
  entry "FREQUENCY" [
    ("Hz", "1.0"), ("kHz", "0.001"), ("MHz", "1e-06"), ("rpm", "60.0")],
  entry "TEMP. DIFFERENCE" [
    ("dK", "1.0"), ("dC", "1.0"), ("dR", "1.8"), ("dF", "1.8")],
  entry "VELOCITY" [
    ("m/s", "1.0"), ("km/hr", "3.6"), ("ft/s", "3.280839895013123"),
    ("mph", "2.2369362920544025"), ("knot", "1.9438444924406046")],
  entry "AREA" [
    ("m^2", "1.0"), ("cm^2", "10000.0"), ("mm^2", "1000000.0"), ("in^2", "1550.0031000062"),
    ("ft^2", "10.763910416709722"), ("acre", "0.0002471053814671653")],
  entry "VOLUME" [
    ("m^3", "1.0"), ("L", "1000.0"), ("mL", "1000000.0"), ("in^3", "61023.74409473229"),
    ("ft^3", "35.31466672148859"), ("gal", "264.1720523581484")],
  entry "VOLUMETRIC FLOW" [
    ("m^3/s", "1.0"), ("L/s", "1000.0"), ("L/min", "60000.0"), ("ft^3/s", "35.31466672148859"),
    ("gpm", "15850.323141488903")],
  entry "FORCE" [
    ("N", "1.0"), ("kN", "0.001"), ("dyn", "100000.0"), ("lbf", "0.22480894309971047"),
    ("kip", "0.00022480894309971047")],
  entry "PRESSURE" [
    ("Pa", "1.0"), ("kPa", "0.001"), ("MPa", "1e-06"), ("bar", "1e-05"),
    ("atm", "9.869232667160128e-06"), ("psi", "0.0001450377377302092"),
    ("ksi", "1.450377377302092e-07"), ("psf", "0.020885434233150126"),
    ("mmHg", "0.007500615758456564")],
  entry "ENERGY" [
    ("J", "1.0"), ("kJ", "0.001"), ("MJ", "1e-06"), ("cal", "0.2390057361376673"),
    ("kcal", "0.0002390057361376673"), ("BTU", "0.0009478171203133172"),
    ("kWh", "2.777777777777778e-07")],
  entry "POWER" [
    ("W", "1.0"), ("kW", "0.001"), ("MW", "1e-06"), ("hp", "0.0013410220895950279"),
    ("BTU/hr", "3.412141633127942")],
  entry "VISCOSITY-DYNAMIC" [
    ("Pa-s", "1.0"), ("cP", "1000.0"), ("P", "10.0")],
  entry "VISCOSITY-KINEMATIC" [
    ("m^2/s", "1.0"), ("cSt", "1000000.0"), ("St", "10000.0")],
  entry "ANGLES" [
    ("rad", "1.0"), ("deg", "57.29577951308232"), ("rev", "0.15915494309189535")],
  entry "CHARGE" [
    ("C", "1.0"), ("mAh", "0.2777777777777778")],
  entry "CURRENT" [
    ("A", "1.0"), ("mA", "1000.0")],
  entry "ELECTRICAL RESISTANCE" [
    ("ohm", "1.0"), ("kohm", "0.001"), ("Mohm", "1e-06")],
  entry "ELECTROMOTIVE FORCE" [
    ("V", "1.0"), ("mV", "1000.0"), ("kV", "0.001")],
  entry "NON DIMENSIONAL" [
    ("-", "1.0"), ("%", "100.0"), ("ppm", "1000000.0")]]

/-- The table of the bundled configuration. -/
def bundled : Except Failure Table := Table.load catalog

end Equate.Unit
