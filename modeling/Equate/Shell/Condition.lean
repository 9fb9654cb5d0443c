import Equate.Shell.State

/-!
# Conditions

A condition is given by arguments: tests of texts, numbers and files, joined by `-a`,
`-o`, `!` and brackets. An argument that looks like an operator is an operand where
nothing else makes sense.
-/
namespace Equate.Shell.Condition

/-- What an argument is at its place. -/
inductive Lexeme where
  | ending
  | operand
  | unary (name : Octets)
  | binary (name : Octets)
  | conjunction
  | disjunction
  | negation
  | opening
  | closing
  deriving DecidableEq

/-- The tests of one operand. -/
def unaryNames : List Octets :=
  ["-b", "-c", "-d", "-e", "-f", "-g", "-h", "-k", "-n", "-p", "-r", "-s", "-t", "-u", "-w", "-x",
    "-z", "-G", "-L", "-O", "-S"].map lit

/-- The tests of two operands. -/
def binaryNames : List Octets :=
  ["=", "!=", "<", ">", "-eq", "-ne", "-lt", "-le", "-gt", "-ge", "-nt", "-ot", "-ef"].map lit

/-- What the first of some arguments is. -/
def lexeme : List Octets → Lexeme
  | [] => .ending
  | a :: rest =>
    if unaryNames.contains a then
      let isOperand := match rest with
        | [] => true
        | [_] => false
        | b :: _ => binaryNames.contains b
      if isOperand then .operand else .unary a
    else if binaryNames.contains a then .binary a
    else if a = lit "-a" then .conjunction
    else if a = lit "-o" then .disjunction
    else if a = lit "!" then .negation
    else if a = lit "(" then if rest.isEmpty then .operand else .opening
    else if a = lit ")" then .closing
    else .operand

/-- The entry that a path leads to. -/
def entry? (path : Octets) : Act (Option Entry) := do
  return ((← files).find (decode path)).toOption

/-- A test of one operand. -/
def testOne (name argument : Octets) : Act Bool := do
  let e ← entry? argument
  match String.ofList name with
  | "-n" => return !argument.isEmpty
  | "-z" => return argument.isEmpty
  | "-e" => return e.isSome
  | "-r" => return e.isSome
  | "-w" => return e.isSome
  | "-f" => return (e matches some (.file ..))
  | "-d" => return (e matches some .directory)
  | "-c" => return (e matches some (.device _))
  | "-s" =>
    match e with
    | some (.file content _) => return !content.isEmpty
    | some .directory => return true
    | _ => return false
  | "-x" =>
    match e with
    | some (.file _ runs) => return runs
    | some .directory => return true
    | _ => return false
  | "-h" => isLink argument
  | "-L" => isLink argument
  | "-O" => return e.isSome
  | "-G" => return e.isSome
  | _ => return false
where
  /-- The path leads to a link. -/
  isLink (path : Octets) : Act Bool := do
    match (← files).entryItself (decode path) with
    | .ok (_, .link _) => return true
    | _ => return false

/-- The integer that an operand is. -/
def operandNumber (t : Octets) : Act Int := do
  let body := ((t.dropWhile isSpace).reverse.dropWhile isSpace).reverse
  match integer? body with
  | some n => return n
  | none => refuse (lit "Illegal number: " ++ t)

/-- A test of two operands. Files of a tree have no age, and the same file is one at the
same place. -/
def testTwo (name a b : Octets) : Act Bool := do
  match String.ofList name with
  | "=" => return a == b
  | "!=" => return a != b
  | "<" => return isBefore a b
  | ">" => return isBefore b a
  | "-eq" => return (← operandNumber a) == (← operandNumber b)
  | "-ne" => return (← operandNumber a) != (← operandNumber b)
  | "-lt" => return (← operandNumber a) < (← operandNumber b)
  | "-le" => return (← operandNumber a) ≤ (← operandNumber b)
  | "-gt" => return (← operandNumber b) < (← operandNumber a)
  | "-ge" => return (← operandNumber b) ≤ (← operandNumber a)
  | "-nt" => return (← entry? a).isSome && (← entry? b).isNone
  | "-ot" => return (← entry? a).isNone && (← entry? b).isSome
  | _ =>
    let files ← files
    match files.place (decode a), files.place (decode b) with
    | .ok p, .ok q => return p == q
    | _, _ => return false

mutual

/-- Alternatives. The arguments that are left begin with the last one used. -/
def disjunctions : Nat → List Octets → Act (Bool × List Octets)
  | 0, arguments => return (false, arguments)
  | fuel + 1, arguments => do
    let (a, left) ← conjunctions fuel arguments
    if lexeme left.tail = .disjunction then
      let (b, left) ← disjunctions fuel (left.drop 2)
      return (a || b, left)
    else return (a, left)

/-- Conditions that all hold. -/
def conjunctions : Nat → List Octets → Act (Bool × List Octets)
  | 0, arguments => return (false, arguments)
  | fuel + 1, arguments => do
    let (a, left) ← negations fuel arguments
    if lexeme left.tail = .conjunction then
      let (b, left) ← conjunctions fuel (left.drop 2)
      return (a && b, left)
    else return (a, left)

/-- A condition, or its opposite. -/
def negations : Nat → List Octets → Act (Bool × List Octets)
  | 0, arguments => return (false, arguments)
  | fuel + 1, arguments => do
    if lexeme arguments = .negation then
      let (a, left) ← negations fuel arguments.tail
      return (!a, left)
    else primary fuel arguments

/-- One test, or a condition in brackets. -/
def primary : Nat → List Octets → Act (Bool × List Octets)
  | 0, arguments => return (false, arguments)
  | fuel + 1, arguments => do
    match lexeme arguments, arguments with
    | .ending, _ => return (false, arguments)
    | .opening, _ =>
      if lexeme arguments.tail = .closing then return (false, arguments.tail)
      else
        let (a, left) ← disjunctions fuel arguments.tail
        if lexeme left.tail = .closing then return (a, left.tail)
        else refuse (lit "closing paren expected")
    | .unary name, _ :: argument :: rest => return (← testOne name argument, argument :: rest)
    | _, a :: rest =>
      match lexeme rest, rest with
      | .binary name, [_] => refuse (name ++ lit ": argument expected")
      | .binary name, _ :: b :: rest => return (← testTwo name a b, b :: rest)
      | _, _ => return (!a.isEmpty, arguments)
    | _, [] => return (false, [])

end

/-- A condition of at least one argument. Two and three arguments have rules of their
own. -/
def whole (fuel : Nat) (arguments : List Octets) : Act Bool := do
  let (a, left) ← match arguments with
    | [a, name, b] =>
      if binaryNames.contains name then pure (← testTwo name a b, [b])
      else disjunctions fuel arguments
    | _ => disjunctions fuel arguments
  match left with
  | last :: _ :: _ =>
    refuse ((if last = [] then [] else last ++ lit ": ") ++ lit "unexpected operator")
  | _ => return a

/-- A condition with outer brackets or signs of negation, if there are three or four
arguments. -/
def reduced : Nat → List Octets → Act Bool
  | 0, _ => return false
  | fuel + 1, arguments => do
    match arguments with
    | [] => return false
    | first :: rest =>
      let n := arguments.length
      let isTest := n = 3 ∧ (rest.head?.any fun name => binaryNames.contains name)
      if (n = 3 ∨ n = 4) ∧ !isTest then
        if first = lit "(" ∧ rest.getLast? = some (lit ")") then
          whole (16 * n + 16) rest.dropLast
        else if first = lit "!" then return !(← reduced fuel rest)
        else whole (16 * n + 16) arguments
      else whole (16 * n + 16) arguments

/-- The condition holds. -/
def holds (arguments : List Octets) : Act Bool := reduced (arguments.length + 1) arguments

end Equate.Shell.Condition
