import Equate.Shell.Records.Machine

/-!
# Reading programs for records

Each reader takes the readers for what stands inside it, and gets by with fewer steps the
deeper that is. In front of an outlet the sign for more is no comparison.
-/
namespace Equate.Shell.Records

/-- What a program is refused for, and the line. -/
structure Mistake where
  words : Octets
  line : Nat
  /-- The line ends behind it. -/
  atEnd : Bool

/-- The state of reading. -/
structure Source where
  tokens : List (Token × Nat)
  /-- The line behind the last one. -/
  lastLine : Nat
  /-- The parameters of the function that is read. -/
  parameters : List Octets
  inFunction : Bool
  /-- The action is one for records. -/
  inRule : Bool
  loops : Nat
  ranges : Nat
  /-- The functions that are called, with the numbers of arguments and the lines. -/
  calls : List (Octets × Nat × Nat)
  /-- How many parentheses are open. -/
  unclosed : Nat

/-- Reading. -/
abbrev Parsing := StateT Source (Except Mistake)

namespace Parsing

/-- The next token, if there is one. -/
def peek? : Parsing (Option Token) := return (← get).tokens.head?.map (·.1)

/-- The line of the next token. -/
def line : Parsing Nat := do
  let s ← get
  return match s.tokens with
    | (_, n) :: _ => n
    | [] => s.lastLine

/-- The next token is taken. -/
def skip : Parsing Unit := modify fun s =>
  let change : Nat → Nat := match s.tokens.head?.map Prod.fst with
    | some (.sign "(") => fun n => n + 1
    | some (.sign ")") => fun n => n - 1
    | _ => fun n => n
  { s with tokens := s.tokens.drop 1, unclosed := change s.unclosed }

/-- A mistake here. -/
def wrong {α : Type} (words : Octets) : Parsing α := do
  let s ← get
  let atEnd := match s.tokens with
    | _ :: (.newline, _) :: _ => true
    | _ => false
  throw ⟨words, ← line, atEnd⟩

/-- The next token cannot stand here. -/
def unexpected {α : Type} : Parsing α := do
  match ← peek? with
  | none => wrong (lit "missing \x7d near end of file")
  | some (.broken words) => wrong words
  | some (.sign "\x7d") =>
    wrong (lit (if (← get).unclosed = 0 then "syntax error at or near \x7d" else "missing ) near \x7d"))
  | some t => wrong (lit "syntax error at or near " ++ t.shown)

/-- The next token is this sign. -/
def isSign (t : String) : Parsing Bool := do
  match ← peek? with
  | some (.sign s) => return s == t
  | _ => return false

/-- The next token is one of these signs. -/
def anySign (ts : List String) : Parsing (Option String) := do
  match ← peek? with
  | some (.sign s) => return if ts.contains s then some s else none
  | _ => return none

/-- The next token is this word. -/
def isWord (t : String) : Parsing Bool := do
  match ← peek? with
  | some (.word s) => return s == t
  | _ => return false

/-- A sign that must stand here. -/
def sign (t : String) : Parsing Unit := do
  if ← isSign t then skip else unexpected

/-- A sign that may stand here; whether it does. -/
def sign? (t : String) : Parsing Bool := do
  if ← isSign t then
    skip
    return true
  else return false

/-- Line ends do not count here. -/
def newlines : Parsing Unit :=
  modify fun s => { s with tokens := s.tokens.dropWhile fun t => t.1 matches .newline }

/-- Neither line ends nor semicolons count here. -/
def separators : Parsing Unit :=
  modify fun s => { s with tokens := s.tokens.dropWhile fun t =>
    match t.1 with
    | .newline => true
    | .sign s => s == ";"
    | _ => false }

/-- A name is that of a parameter or of a variable. -/
def nameOf (name : Octets) : Parsing Name := do
  return match (← get).parameters.idxOf? name with
    | some n => .own n
    | none => .whole name

/-- How many tokens are left. -/
def size : Parsing Nat := return (← get).tokens.length

/-- An expression of an operator level: operands with operators between them, from the left. -/
def chain (operand : Parsing Expr) (operator : Parsing (Option (Expr → Expr → Expr))) :
    Nat → Expr → Parsing Expr
  | 0, e => return e
  | n + 1, e => do
    match ← operator with
    | none => return e
    | some make => chain operand operator n (make e (← operand))

/-- A level of operators. -/
def level (operand : Parsing Expr) (operator : Parsing (Option (Expr → Expr → Expr))) :
    Parsing Expr := do
  let e ← operand
  chain operand operator (← size) e

/-- Expressions with commas between them, so many at most. -/
def listed (inner : Parsing Expr) : Nat → Parsing (List Expr)
  | 0 => return []
  | n + 1 => do
    let e ← inner
    if ← sign? "," then
      newlines
      return e :: (← listed inner n)
    else return [e]

/-- Arguments up to the parenthesis that closes. -/
def arguments (inner : Parsing Expr) : Parsing (List Expr) := do
  sign "("
  newlines
  if ← sign? ")" then return []
  else
    let all ← listed (do
      let e ← inner
      newlines
      return e) (← size)
    sign ")"
    return all

/-- A regular expression as it is written. -/
def compile (t : Octets) : Parsing Match :=
  match Match.ofText ⟨true, true, false, true⟩ t with
  | .ok e => return e
  | .error words =>
    wrong (lit "regular expression compile failed (" ++ patternWords words ++ lit ")\n" ++ t)

/-- A place that a value can be put in. -/
def isPlace : Expr → Bool
  | .name _ => true
  | .element .. => true
  | .field _ => true
  | _ => false

/-- The place that stands here. -/
def place (inner : Bool → Parsing Expr) (fieldOf : Parsing Expr) : Parsing Expr := do
  match ← peek? with
  | some (.name n) =>
    skip
    let v ← nameOf n
    if ← sign? "[" then
      let subscripts ← listed (inner false) (← size)
      sign "]"
      return .element v subscripts
    else return .name v
  | some (.sign "$") =>
    skip
    return .field (← fieldOf)
  | _ => unexpected

/-- What may stand in front of a comparison with a line that is read. -/
def placeFollows : Parsing Bool := do
  match ← peek? with
  | some (.name _) => return true
  | some (.sign "$") => return true
  | _ => return false

/-- An operand without operators around it. -/
def primary (inner : Bool → Parsing Expr) : Nat → Parsing Expr
  | 0 => unexpected
  | n + 1 => do
    match ← peek? with
    | some (.number x _) => skip; return .number x
    | some (.text t) => skip; return .text t
    | some (.pattern t) =>
      let e ← compile t
      skip
      return .pattern e
    | some (.sign "(") =>
      skip
      newlines
      let all ← listed (inner false) (← size)
      newlines
      sign ")"
      match all with
      | [e] => return .group e
      | several =>
        if ← isWord "in" then
          skip
          match ← peek? with
          | some (.name t) =>
            skip
            return .inside several (← nameOf t)
          | _ => unexpected
        else unexpected
    | some (.sign "$") =>
      skip
      return .field (← primary inner n)
    | some (.sign "++") =>
      skip
      return .step (← place inner (primary inner n)) true false
    | some (.sign "--") =>
      skip
      return .step (← place inner (primary inner n)) false false
    | some (.sign "-") =>
      skip
      return .negative (← primary inner n)
    | some (.sign "+") =>
      skip
      return .positive (← primary inner n)
    | some (.sign "!") =>
      skip
      return .negation (← primary inner n)
    | some (.name _) => place inner (primary inner n)
    | some (.calling f) =>
      let called ← line
      skip
      let all ← arguments (inner false)
      modify fun s => { s with calls := (f, all.length, called) :: s.calls }
      return .call f all
    | some (.builtin f) =>
      skip
      if f = "length" then
        if !(← sign? "(") then return .builtin f []
        else if ← sign? ")" then return .builtin f []
        else
          let e ← inner false
          sign ")"
          return .builtin f [e]
      let all ← arguments (inner false)
      let (least, most) := (Token.builtins.lookup f).getD (0, 255)
      if all.length < least ∨ most < all.length then
        wrong (lit "wrong number of arguments in call to " ++ lit f)
      return .builtin f all
    | some (.word "getline") =>
      skip
      let target ← if ← placeFollows then pure (some (← place inner (primary inner n))) else pure none
      if ← sign? "<" then return .line (.file (← primary inner n)) target
      else return .line .records target
    | _ => unexpected

/-- An operand, which may be stepped up or down afterwards. -/
def stepped (inner : Bool → Parsing Expr) : Parsing Expr := do
  let e ← primary inner (← size)
  if isPlace e then
    match ← anySign ["++", "--"] with
    | some t =>
      skip
      return .step e (t == "++") true
    | none => return e
  else return e

/-- A command in front of a line that is read from it. -/
def fromCommand (inner : Bool → Parsing Expr) : Nat → Expr → Parsing Expr
  | 0, e => return e
  | n + 1, e => do
    match (← get).tokens with
    | (.sign "|", _) :: (.word "getline", _) :: _ =>
      skip
      skip
      let target ← if ← placeFollows then pure (some (← place inner (primary inner (← size))))
        else pure none
      fromCommand inner n (.line (.command e) target)
    | _ => return e

/-- An operand with signs in front of it and powers. -/
def signed (inner : Bool → Parsing Expr) : Nat → Parsing Expr
  | 0 => unexpected
  | n + 1 => do
    match ← anySign ["-", "+", "!"] with
    | some "-" => skip; return .negative (← signed inner n)
    | some "+" => skip; return .positive (← signed inner n)
    | some _ => skip; return .negation (← signed inner n)
    | none =>
      let e ← stepped inner
      let e ← if ← sign? "^" then pure (.operation .power e (← signed inner n)) else pure e
      fromCommand inner (← size) e

/-- A sign for an operator. -/
def operatorOf (table : List (String × Operator)) : Parsing (Option (Expr → Expr → Expr)) := do
  match ← anySign (table.map (·.1)) with
  | some t =>
    skip
    return (table.lookup t).map Expr.operation
  | none => return none

/-- An operand stands here that no sign is in front of. -/
def operandFollows : Parsing Bool := do
  match ← peek? with
  | some (.number ..) => return true
  | some (.text _) => return true
  | some (.pattern _) => return true
  | some (.name _) => return true
  | some (.calling _) => return true
  | some (.builtin _) => return true
  | some (.sign t) => return ["$", "(", "!", "++", "--"].contains t
  | _ => return false

/-- Texts that are put together. -/
def joined (inner : Bool → Parsing Expr) : Parsing Expr := do
  let product : Parsing Expr := do
    level (signed inner (← size))
      (operatorOf [("*", .multiply), ("/", .divide), ("%", .remainder)])
  let sum : Parsing Expr := level product (operatorOf [("+", .add), ("-", .subtract)])
  level sum do
    if ← operandFollows then return some (Expr.operation .join) else return none

/-- The operators that come with an assignment. -/
def assignments : List (String × Option Operator) :=
  [("=", none), ("+=", some .add), ("-=", some .subtract), ("*=", some .multiply),
    ("/=", some .divide), ("%=", some .remainder), ("^=", some .power)]

/-- Texts that are put together, or an assignment. -/
def assigned (inner : Bool → Parsing Expr) (bare : Bool) : Parsing Expr := do
  let e ← joined inner
  if isPlace e then
    match ← anySign (assignments.map (·.1)) with
    | some t =>
      skip
      newlines
      return .assign ((assignments.lookup t).getD none) e (← inner bare)
    | none => return e
  else return e

/-- The signs that compare. -/
def comparisons : List (String × Operator) :=
  [("<", .less), ("<=", .lessOrEqual), ("==", .equal), ("!=", .different), (">", .greater),
    (">=", .greaterOrEqual)]

/-- Comparisons, tests of texts and of keys, in the order of their strength. -/
def tested (inner : Bool → Parsing Expr) (bare : Bool) : Parsing Expr := do
  let signs := if bare then comparisons.filter fun c => c.1 != ">" else comparisons
  let comparison : Parsing Expr := level (assigned inner bare) (operatorOf signs)
  let fitting : Parsing Expr := level comparison do
    match ← anySign ["~", "!~"] with
    | some t =>
      skip
      let negated := t == "!~"
      match ← peek? with
      | some (.text t) => let _ ← compile t
      | _ => pure ()
      return some (Expr.fits negated)
    | none => return none
  let e ← fitting
  within (← size) e
where
  /-- Keys that are looked up in tables. -/
  within : Nat → Expr → Parsing Expr
    | 0, e => return e
    | n + 1, e => do
      if ← isWord "in" then
        skip
        match ← peek? with
        | some (.name t) =>
          skip
          within n (.inside [e] (← nameOf t))
        | _ => unexpected
      else return e

/-- An expression, so deep at most. Bare ones stand in front of an outlet. -/
def expr : Nat → Bool → Parsing Expr
  | 0, _ => unexpected
  | n + 1, bare => do
    let inner := expr n
    let both : Parsing Expr := level (tested inner bare) do
      if ← sign? "&&" then
        newlines
        return some Expr.both
      else return none
    let either : Parsing Expr := level both do
      if ← sign? "||" then
        newlines
        return some Expr.either
      else return none
    let condition ← either
    if ← sign? "?" then
      newlines
      let a ← inner bare
      newlines
      sign ":"
      newlines
      let b ← inner bare
      return .choose condition a b
    else return condition

/-- How deep expressions can stand in each other here. -/
def whole (bare : Bool) : Parsing Expr := do expr (4 * (← size) + 16) bare

/-- The end of a simple statement. A brace that closes stays where it is. -/
def finish : Parsing Unit := do
  match ← peek? with
  | some .newline => skip; newlines
  | some (.sign ";") => skip; newlines
  | some (.sign "\x7d") => return
  | none => return
  | some (.sign ")") => wrong (lit "extra ')'")
  | some (.sign "|") =>
    skip
    unexpected
  | _ => unexpected

/-- Where a statement prints to. -/
def outlet? : Parsing (Option Outlet) := do
  match ← anySign [">", ">>", "|"] with
  | some ">" => skip; return some (.file (← whole true))
  | some ">>" => skip; return some (.append (← whole true))
  | some _ => skip; return some (.command (← whole true))
  | none => return none

/-- What a statement prints. Parentheses around all of it do not count. -/
def printed : Parsing (List Expr) := do
  let s ← get
  let ends : Parsing Bool := do
    match ← peek? with
    | none => return true
    | some .newline => return true
    | some (.sign t) => return [";", "\x7d", ">", ">>", "|"].contains t
    | _ => return false
  if ← ends then return []
  let attempt : Except Mistake (List Expr × Source) := (do
    sign "("
    newlines
    let all ← listed (do
      let e ← whole false
      newlines
      return e) (← size)
    sign ")"
    if ← ends then return all else unexpected : Parsing (List Expr)).run s
  match attempt with
  | .ok (all, behind) =>
    set behind
    return all
  | .error _ => listed (whole true) (← size)

/-- Something in one more loop. -/
def inLoop {α : Type} (x : Parsing α) : Parsing α := do
  modify fun s => { s with loops := s.loops + 1 }
  let a ← x
  modify fun s => { s with loops := s.loops - 1 }
  return a

/-- An expression, if none of these signs and no line end stands here. -/
def optional (stops : List String) : Parsing (Option Expr) := do
  match ← peek? with
  | none => return none
  | some .newline => return none
  | some (.sign t) => if stops.contains t then return none else return some (← whole false)
  | _ => return some (← whole false)

/-- A statement without others inside it. -/
def simple : Parsing Statement := do
  match ← peek? with
  | some (.word "print") =>
    skip
    let all ← printed
    return .print all (← outlet?)
  | some (.word "printf") =>
    skip
    let all ← printed
    if all.isEmpty then wrong (lit "no arguments in call to printf")
    return .format all (← outlet?)
  | some (.word "delete") =>
    skip
    let parenthesized ← sign? "("
    match ← peek? with
    | some (.name t) =>
      skip
      let v ← nameOf t
      if ← sign? "[" then
        let subscripts ← listed (whole false) (← size)
        sign "]"
        if parenthesized then sign ")"
        return .delete v subscripts
      else
        if parenthesized then sign ")"
        return .clear v
    | _ => unexpected
  | _ => return .value (← whole false)

/-- A statement, so deep at most. -/
def statement : Nat → Parsing Statement
  | 0 => unexpected
  | n + 1 => do
    let finished (s : Statement) : Parsing Statement := do
      finish
      return s
    match ← peek? with
    | some (.sign "\x7b") =>
      skip
      let body ← statements n (← size)
      return .block body
    | some (.sign ";") =>
      skip
      newlines
      return .nothing
    | some (.word "if") =>
      skip
      sign "("
      newlines
      let condition ← whole false
      newlines
      sign ")"
      newlines
      let a ← statement n
      let before ← get
      separators
      if ← isWord "else" then
        skip
        newlines
        return .choose condition a (some (← statement n))
      else
        set before
        return .choose condition a none
    | some (.word "while") =>
      skip
      sign "("
      newlines
      let condition ← whole false
      newlines
      sign ")"
      if ← sign? ";" then
        newlines
        return .loop condition .nothing
      else
        newlines
        return .loop condition (← inLoop (statement n))
    | some (.word "do") =>
      skip
      newlines
      let body ← inLoop (statement n)
      separators
      if ← isWord "while" then skip else unexpected
      sign "("
      newlines
      let condition ← whole false
      newlines
      sign ")"
      finished (.loopOnce body condition)
    | some (.word "for") =>
      skip
      sign "("
      match (← get).tokens with
      | (.name v, _) :: (.word "in", _) :: (.name t, _) :: (.sign ")", _) :: _ =>
        skip; skip; skip; skip
        newlines
        let v ← nameOf v
        let table ← nameOf t
        return .each v table (← inLoop (statement n))
      | _ =>
        let first ← if ← isSign ";" then pure .nothing else simple
        sign ";"
        newlines
        let condition ← optional [";"]
        sign ";"
        newlines
        let behind ← if ← isSign ")" then pure .nothing else simple
        sign ")"
        if ← sign? ";" then
          newlines
          return .count first condition behind .nothing
        else
          newlines
          return .count first condition behind (← inLoop (statement n))
    | some (.word "break") =>
      if (← get).loops = 0 then wrong (lit "break statement outside of loop")
      skip
      finished .leave
    | some (.word "continue") =>
      if (← get).loops = 0 then wrong (lit "continue statement outside of loop")
      skip
      finished .continue
    | some (.word "next") =>
      if !(← get).inRule then wrong (lit "improper use of next")
      skip
      finished .next
    | some (.word "nextfile") =>
      if !(← get).inRule then wrong (lit "improper use of nextfile")
      skip
      finished .nextFile
    | some (.word "exit") =>
      skip
      finished (.exit (← optional [";", "\x7d"]))
    | some (.word "return") =>
      if !(← get).inFunction then wrong (lit "return outside function body")
      skip
      finished (.return (← optional [";", "\x7d"]))
    | _ => finished (← simple)
where
  /-- Statements up to the brace that closes, by a way to read each of them. -/
  statements (n : Nat) : Nat → Parsing (List Statement)
    | 0 => unexpected
    | count + 1 => do
      newlines
      if ← sign? "\x7d" then return []
      if (← peek?).isNone then
        wrong (lit "missing \x7d near end of file")
      let s ← statement n
      return s :: (← statements n count)

/-- An action in braces. -/
def action : Parsing Statement := do
  if ← isSign "\x7b" then statement (4 * (← size) + 16) else unexpected

/-- The parts of a program in their order. -/
def items : Nat → Program → Parsing Program
  | 0, p => return p
  | n + 1, p => do
    separators
    match ← peek? with
    | none => return p
    | some (.word "BEGIN") =>
      skip
      let body ← action
      items n { p with starts := p.starts ++ [body] }
    | some (.word "END") =>
      skip
      let body ← action
      items n { p with ends := p.ends ++ [body] }
    | some (.word "function") =>
      skip
      let name ← match ← peek? with
        | some (.calling t) => pure t
        | some (.name t) => pure t
        | _ => unexpected
      if p.functions.any fun f => f.name == name then
        wrong (lit "redefinition of " ++ name)
      skip
      sign "("
      newlines
      let parameters ← if ← isSign ")" then pure [] else parameterList [] (← size)
      sign ")"
      newlines
      modify fun s => { s with parameters, inFunction := true }
      let body ← action
      modify fun s => { s with parameters := [], inFunction := false }
      items n { p with functions := p.functions ++ [⟨name, parameters.length, body⟩] }
    | some (.sign "\x7d") => wrong (lit "extra '\x7d'")
    | _ =>
      modify fun s => { s with inRule := true }
      let choice ← if ← isSign "\x7b" then pure Choice.always
        else
          let first ← whole false
          if ← sign? "," then
            newlines
            let last ← whole false
            let number := (← get).ranges
            modify fun s => { s with ranges := number + 1 }
            pure (Choice.range number first last)
          else pure (Choice.condition first)
      let body ← if ← isSign "\x7b" then action
        else
          finish
          pure (Statement.print [] none)
      modify fun s => { s with inRule := false }
      items n { p with rules := p.rules ++ [(choice, body)] }
where
  /-- The names of parameters. -/
  parameterList (before : List Octets) : Nat → Parsing (List Octets)
    | 0 => unexpected
    | n + 1 => do
      match ← peek? with
      | some (.name t) =>
        if before.contains t then wrong (t ++ lit " is duplicated in argument list")
        skip
        if ← sign? "," then
          newlines
          return t :: (← parameterList (t :: before) n)
        else return [t]
      | _ => unexpected

/-- The functions that are called are there. -/
def checkCalls (p : Program) : Parsing Program := do
  let s ← get
  s.calls.reverse.forM fun (f, count, called) => do
    match p.functions.find? fun d => d.name == f with
    | none => throw ⟨lit "function " ++ f ++ lit " never defined", s.lastLine, false⟩
    | some d =>
      if d.count < count then throw ⟨lit "too many arguments in call to " ++ f, called, false⟩
  return p

end Parsing

/-- A program as it is written. -/
def Program.ofText (t : Octets) : Except Mistake Program :=
  let tokens := Token.read (t.length + 2) 1 .newline (t ++ ['\n'])
  let source : Source := ⟨tokens, t.count '\n' + 2, [], false, false, 0, 0, [], 0⟩
  ((do Parsing.checkCalls (← Parsing.items (tokens.length + 1) ⟨[], [], [], []⟩)).run source).map Prod.fst

end Equate.Shell.Records
