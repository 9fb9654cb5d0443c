import Equate.Text.Basic

/-!
# Scripts of a dynamic language

A script is a list of statements, each with its line. Expressions are worked out to values
that have their types with them.
-/
namespace Equate.Shell.Dynamic

/-- An operator between two values. -/
inductive Operator where
  | add
  | subtract
  | multiply
  | divide
  | floorDivide
  | modulo
  | power
  | shiftLeft
  | shiftRight
  | bitAnd
  | bitOr
  | bitXor
  | matrix
  deriving DecidableEq

/-- A comparison of two values. -/
inductive Comparison where
  | equal
  | different
  | less
  | lessOrEqual
  | greater
  | greaterOrEqual
  | isSame
  | isNotSame
  | within
  | notWithin
  deriving DecidableEq

/-- A value that is written as such. -/
inductive Constant where
  | none
  | bool (b : Bool)
  | int (n : Int)
  | float (x : Float)
  | text (t : Text)
  | bytes (t : Text)
  | ellipsis

mutual

/-- An expression. -/
inductive Expr where
  | constant (c : Constant)
  | name (n : String)
  | member (e : Expr) (n : String)
  | subscript (e index : Expr)
  | slice (first last step : Option Expr)
  | call (f : Expr) (arguments : List Argument)
  | negative (e : Expr)
  | positive (e : Expr)
  | inverted (e : Expr)
  | negation (e : Expr)
  | operation (operator : Operator) (a b : Expr)
  | comparison (first : Expr) (rest : List (Comparison × Expr))
  | both (a b : Expr)
  | either (a b : Expr)
  | choose (condition a b : Expr)
  | function (parameters : List Parameter) (body : Expr)
  | tuple (items : List Expr)
  | list (items : List Expr)
  | set (items : List Expr)
  /-- Entries without a key are taken from another table. -/
  | dict (entries : List (Option Expr × Expr))
  | starred (e : Expr)
  | listFor (e : Expr) (clauses : List Clause)
  | setFor (e : Expr) (clauses : List Clause)
  | dictFor (key value : Expr) (clauses : List Clause)
  | generator (e : Expr) (clauses : List Clause)
  | joined (pieces : List Piece)
  | assigned (n : String) (e : Expr)
  | yield (e : Option Expr)
  | yieldFrom (e : Expr)

/-- An argument of a call. -/
inductive Argument where
  | plain (e : Expr)
  | named (n : String) (e : Expr)
  | all (e : Expr)
  | allNamed (e : Expr)

/-- A parameter of a function. -/
inductive Parameter where
  | plain (n : String) (usual : Option Expr)
  | namedOnly (n : String) (usual : Option Expr)
  | rest (n : String)
  | namedRest (n : String)
  /-- The parameters in front cannot be named. -/
  | unnamed

/-- A part of a comprehension: where values come from and which of them count. -/
inductive Clause where
  | mk (target source : Expr) (conditions : List Expr)

/-- A part of a text that is put together. -/
inductive Piece where
  | text (t : Text)
  | value (e : Expr) (conversion : Option Char) (format : List Piece)

end

mutual

/-- A pattern of a selection. -/
inductive Pattern where
  | value (e : Expr)
  | capture (n : String)
  | anything
  | either (ps : List Pattern)
  | bound (p : Pattern) (n : String)
  | sequence (ps : List Pattern)
  | star (n : Option String)
  | mapping (entries : List (Expr × Pattern)) (rest : Option String)
  | instanceOf (e : Expr) (ps : List Pattern) (named : List (String × Pattern))

end

mutual

/-- A statement. -/
inductive Statement where
  | line (n : Nat) (s : Statement)
  | value (e : Expr)
  | assign (targets : List Expr) (e : Expr)
  | change (operator : Operator) (target e : Expr)
  | annotate (target : Expr) (type : Expr) (e : Option Expr)
  | return (e : Option Expr)
  | delete (targets : List Expr)
  | pass
  | leave
  | continue
  | global (names : List String)
  | outer (names : List String)
  | importModule (path : List String) (name : Option String)
  | importNames (path : List String) (names : List (String × String)) (everything : Bool)
  | raise (e : Option Expr) (cause : Option Expr)
  | assert (e : Expr) (message : Option Expr)
  | choose (condition : Expr) (body otherwise : List Statement)
  | loop (condition : Expr) (body otherwise : List Statement)
  | each (target source : Expr) (body otherwise : List Statement)
  | attempt (body : List Statement) (handlers : List Handler) (otherwise always : List Statement)
  | with (items : List (Expr × Option Expr)) (body : List Statement)
  | define (name : String) (parameters : List Parameter) (body : List Statement)
    (decorators : List Expr)
  | defineClass (name : String) (arguments : List Argument) (body : List Statement)
    (decorators : List Expr)
  | select (subject : Expr) (cases : List (Pattern × Option Expr × List Statement))

/-- What is done about an exception. -/
inductive Handler where
  | mk (type : Option Expr) (name : Option String) (body : List Statement)

end

mutual

/-- The names that an expression as a target sets. -/
def targetNames : Expr → List String
  | .name n => [n]
  | .tuple items => allTargetNames items
  | .list items => allTargetNames items
  | .starred e => targetNames e
  | _ => []

/-- The names that targets set. -/
def allTargetNames : List Expr → List String
  | [] => []
  | e :: rest => targetNames e ++ allTargetNames rest

end

mutual

/-- The names that a pattern sets. -/
def patternNames : Pattern → List String
  | .capture n => [n]
  | .either ps => allPatternNames ps
  | .bound p n => n :: patternNames p
  | .sequence ps => allPatternNames ps
  | .star n => n.toList
  | .mapping entries rest => rest.toList ++ entryPatternNames entries
  | .instanceOf _ ps named => allPatternNames ps ++ namedPatternNames named
  | _ => []

/-- The names that patterns set. -/
def allPatternNames : List Pattern → List String
  | [] => []
  | p :: rest => patternNames p ++ allPatternNames rest

/-- The names that the patterns of entries set. -/
def entryPatternNames : List (Expr × Pattern) → List String
  | [] => []
  | (_, p) :: rest => patternNames p ++ entryPatternNames rest

/-- The names that the patterns of attributes set. -/
def namedPatternNames : List (String × Pattern) → List String
  | [] => []
  | (_, p) :: rest => patternNames p ++ namedPatternNames rest

end

mutual

/-- The names that a statement sets where it stands. -/
def setNames : Statement → List String
  | .line _ s => setNames s
  | .assign targets _ => allTargetNames targets
  | .change _ target _ => targetNames target
  | .annotate target _ _ => targetNames target
  | .delete targets => allTargetNames targets
  | .importModule path name => [name.getD (path.headD "")]
  | .importNames _ names _ => names.map Prod.snd
  | .choose _ body otherwise => allSetNames body ++ allSetNames otherwise
  | .loop _ body otherwise => allSetNames body ++ allSetNames otherwise
  | .each target _ body otherwise => targetNames target ++ allSetNames body ++ allSetNames otherwise
  | .attempt body handlers otherwise always =>
    allSetNames body ++ handlerNames handlers ++ allSetNames otherwise ++ allSetNames always
  | .with items body => items.flatMap (fun i => (i.2.map targetNames).getD []) ++ allSetNames body
  | .define name _ _ _ => [name]
  | .defineClass name _ _ _ => [name]
  | .select _ cases => caseNames cases
  | _ => []

/-- The names that statements set. -/
def allSetNames : List Statement → List String
  | [] => []
  | s :: rest => setNames s ++ allSetNames rest

/-- The names that handlers set. -/
def handlerNames : List Handler → List String
  | [] => []
  | .mk _ name body :: rest => name.toList ++ allSetNames body ++ handlerNames rest

/-- The names that cases set. -/
def caseNames : List (Pattern × Option Expr × List Statement) → List String
  | [] => []
  | (p, _, body) :: rest => patternNames p ++ allSetNames body ++ caseNames rest

end

mutual

/-- The names that a statement takes from elsewhere: from outside all functions if the flag
is set, otherwise from the functions around. -/
def takenNames (global : Bool) : Statement → List String
  | .line _ s => takenNames global s
  | .global names => if global then names else []
  | .outer names => if global then [] else names
  | .choose _ body otherwise => allTakenNames global body ++ allTakenNames global otherwise
  | .loop _ body otherwise => allTakenNames global body ++ allTakenNames global otherwise
  | .each _ _ body otherwise => allTakenNames global body ++ allTakenNames global otherwise
  | .attempt body handlers otherwise always =>
    allTakenNames global body ++ takenInHandlers global handlers ++ allTakenNames global otherwise ++
      allTakenNames global always
  | .with _ body => allTakenNames global body
  | .select _ cases => takenInCases global cases
  | _ => []

/-- The names that statements take from elsewhere. -/
def allTakenNames (global : Bool) : List Statement → List String
  | [] => []
  | s :: rest => takenNames global s ++ allTakenNames global rest

/-- The names that handlers take from elsewhere. -/
def takenInHandlers (global : Bool) : List Handler → List String
  | [] => []
  | .mk _ _ body :: rest => allTakenNames global body ++ takenInHandlers global rest

/-- The names that cases take from elsewhere. -/
def takenInCases (global : Bool) : List (Pattern × Option Expr × List Statement) → List String
  | [] => []
  | (_, _, body) :: rest => allTakenNames global body ++ takenInCases global rest

end

mutual

/-- An expression yields. -/
def exprYields : Expr → Bool
  | .yield _ => true
  | .yieldFrom _ => true
  | .member e _ => exprYields e
  | .subscript e i => exprYields e || exprYields i
  | .call f arguments => exprYields f || argumentsYield arguments
  | .operation _ a b => exprYields a || exprYields b
  | .assigned _ e => exprYields e
  | .tuple items => anyYields items
  | .list items => anyYields items
  | .starred e => exprYields e
  | _ => false

/-- One of some expressions yields. -/
def anyYields : List Expr → Bool
  | [] => false
  | e :: rest => exprYields e || anyYields rest

/-- One of some arguments yields. -/
def argumentsYield : List Argument → Bool
  | [] => false
  | .plain e :: rest => exprYields e || argumentsYield rest
  | .named _ e :: rest => exprYields e || argumentsYield rest
  | .all e :: rest => exprYields e || argumentsYield rest
  | .allNamed e :: rest => exprYields e || argumentsYield rest

end

mutual

/-- A statement yields. -/
def yields : Statement → Bool
  | .line _ s => yields s
  | .value e => exprYields e
  | .assign _ e => exprYields e
  | .change _ _ e => exprYields e
  | .return (some e) => exprYields e
  | .choose _ body otherwise => anyYield body || anyYield otherwise
  | .loop _ body otherwise => anyYield body || anyYield otherwise
  | .each _ _ body otherwise => anyYield body || anyYield otherwise
  | .attempt body handlers otherwise always =>
    anyYield body || handlersYield handlers || anyYield otherwise || anyYield always
  | .with _ body => anyYield body
  | .select _ cases => casesYield cases
  | _ => false

/-- One of some statements yields. -/
def anyYield : List Statement → Bool
  | [] => false
  | s :: rest => yields s || anyYield rest

/-- One of some handlers yields. -/
def handlersYield : List Handler → Bool
  | [] => false
  | .mk _ _ body :: rest => anyYield body || handlersYield rest

/-- One of some cases yields. -/
def casesYield : List (Pattern × Option Expr × List Statement) → Bool
  | [] => false
  | (_, _, body) :: rest => anyYield body || casesYield rest

end

end Equate.Shell.Dynamic
