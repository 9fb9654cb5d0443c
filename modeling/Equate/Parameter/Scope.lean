import Equate.Expr.Parser
import Equate.Fault
import Equate.Name.Basic

/-!
# Parameters and their scope

A parameter is a constant with the expression that defines it. A scope collects
parameters in the order of their definition; each is evaluated with those in front of it
and none is ever redefined, so a scope can be rebuilt from its own parameters. The index
gives the place of each name.
-/
namespace Equate

/-- A named constant. -/
structure Parameter where
  name : Text
  value : Float
  expression : Text
  line : Nat
  deriving DecidableEq, Repr

/-- A line that defines a parameter: the whole line, the name and the expression, all
without the blanks around them. -/
structure Definition where
  line : Nat
  text : Text
  name : Text
  expression : Text
  deriving DecidableEq, Repr

/-- The parameters defined so far. -/
structure Scope where
  parameters : List Parameter
  index : NameMap Nat

namespace Scope

/-- The scope without parameters. -/
def empty : Scope := ⟨[], ∅⟩

/-- The parameter of a name. -/
def parameter? (s : Scope) (name : Text) : Option Parameter := do
  s.parameters[← s.index[name]?]?

/-- The value of a name. -/
def value? (s : Scope) (name : Text) : Option Float := (s.parameter? name).map Parameter.value

/-- The name is that of a parameter. -/
def contains (s : Scope) (name : Text) : Bool := s.index.contains name

/-- The scope with one more parameter. -/
def push (s : Scope) (p : Parameter) : Scope :=
  ⟨s.parameters ++ [p], s.index.insert p.name s.parameters.length⟩

/-- The scope with a definition carried out: the name must be an identifier, neither
reserved nor taken, and the expression must have a value in the scope. -/
def define (s : Scope) (d : Definition) : Except Fault Scope :=
  if !Name.isIdentifier d.name then
    .error (.parameter d.line d.text ("parameter name '" ++ d.name ++ "' is not an identifier"))
  else if Name.isReserved d.name then
    .error (.nameConflict d.name
      ("line " ++ Text.decimal d.line ++ " defines a parameter with a reserved name"))
  else
    match s.parameter? d.name with
    | some existing =>
      .error (.nameConflict d.name
        ("line " ++ Text.decimal d.line ++ " redefines the parameter from line " ++
          Text.decimal existing.line))
    | none =>
      match Expr.evaluate s.value? d.expression with
      | .error e => .error (.parameter d.line d.text e.message)
      | .ok value => .ok (s.push ⟨d.name, value, d.expression, d.line⟩)

/-- The scope of definitions in their order. -/
def ofDefinitions (ds : List Definition) : Except Fault Scope := ds.foldlM define empty

/-- The definition that a parameter goes back to. -/
def definitionOf (p : Parameter) : Definition :=
  ⟨p.line, p.name ++ ": " ++ p.expression, p.name, p.expression⟩

/-- A scope built anew from parameters; their values are computed again. -/
def replay (ps : List Parameter) : Except Fault Scope := ofDefinitions (ps.map definitionOf)

end Scope
end Equate
