import Equate.Shell.Dynamic.Token
import Equate.Shell.Dynamic.Tree

/-!
# Reading scripts

Each reader takes the readers for what stands inside it, and gets by with fewer steps the
deeper that is. What looks like an expression becomes a target if a sign for an assignment
follows.
-/
namespace Equate.Shell.Dynamic

/-- What a script is refused for. -/
structure Mistake where
  words : String
  line : Nat
  /-- The indentation is what is wrong. -/
  indentation : Bool

/-- The tokens that are left, and the last line. -/
structure Source where
  tokens : List (Token × Nat)
  line : Nat

/-- Reading. -/
abbrev Parsing := StateT Source (Except Mistake)

namespace Parsing

/-- The next token. -/
def peek : Parsing Token := return ((← get).tokens.head?.map Prod.fst).getD .newline

/-- The line of the next token. -/
def line : Parsing Nat := do
  let s ← get
  return match s.tokens with
    | (_, n) :: _ => n
    | [] => s.line

/-- The next token is taken. -/
def skip : Parsing Unit :=
  modify fun s =>
    match s.tokens with
    | (_, n) :: rest => ⟨rest, n⟩
    | [] => s

/-- How many tokens are left. -/
def size : Parsing Nat := return (← get).tokens.length

/-- The script is refused here. -/
def refuse {α : Type} (words : String) : Parsing α := do throw ⟨words, ← line, false⟩

/-- The next token cannot stand here. -/
def unexpected {α : Type} : Parsing α := do
  match ← peek with
  | .broken words => throw ⟨words, ← line, (words.startsWith "unindent")⟩
  | .indent => throw ⟨"unexpected indent", ← line, true⟩
  | _ => refuse "invalid syntax"

/-- The next token is this sign. -/
def isSign (s : String) : Parsing Bool := do
  match ← peek with
  | .sign t => return s == t
  | _ => return false

/-- The next token is this word. -/
def isWord (w : String) : Parsing Bool := do
  match ← peek with
  | .word t => return w == t
  | _ => return false

/-- This sign may stand here; whether it does. -/
def sign? (s : String) : Parsing Bool := do
  if ← isSign s then
    skip
    return true
  else return false

/-- This word may stand here; whether it does. -/
def word? (w : String) : Parsing Bool := do
  if ← isWord w then
    skip
    return true
  else return false

/-- This sign must stand here. -/
def sign (s : String) : Parsing Unit := do
  if !(← sign? s) then unexpected

/-- This word must stand here. -/
def word (w : String) : Parsing Unit := do
  if !(← word? w) then unexpected

/-- A name. -/
def name : Parsing String := do
  match ← peek with
  | .name n => skip; return n
  | _ => unexpected

/-- A sign that closes must stand here. -/
def close (s : String) : Parsing Unit := do
  if !(← sign? s) then
    let isValue ← match ← peek with
      | .name _ => pure true
      | .int _ => pure true
      | .float _ => pure true
      | .text _ => pure true
      | .pieces _ => pure true
      | _ => pure false
    if isValue then refuse "invalid syntax. Perhaps you forgot a comma?" else unexpected

/-- Items with commas between them, up to where none can begin; whether a comma ends them. -/
def items {α : Type} (item : Parsing α) (ends : Parsing Bool) : Nat → Parsing (List α × Bool)
  | 0 => return ([], false)
  | n + 1 => do
    let a ← item
    if ← sign? "," then
      if ← ends then return ([a], true)
      else
        let (rest, comma) ← items item ends n
        return (a :: rest, comma)
    else return ([a], false)

/-- No expression begins here. -/
def endsItems : Parsing Bool := do
  match ← peek with
  | .newline => return true
  | .sign s => return [")", "]", "\x7d", "=", ":", ";", "+=", "-=", "*=", "/=", "//=", "%=", "**=", ">>=",
      "<<=", "&=", "|=", "^=", "@="].contains s
  | .word w => return ["in", "for", "if", "else"].contains w
  | _ => return false

/-- Operands with operators between them, from the left. -/
def chain (operand : Parsing Expr) (operators : List (String × Operator)) : Nat → Expr → Parsing Expr
  | 0, e => return e
  | n + 1, e => do
    match ← peek with
    | .sign s =>
      match operators.lookup s with
      | some operator =>
        skip
        chain operand operators n (.operation operator e (← operand))
      | none => return e
    | _ => return e

/-- A level of operators. -/
def level (operand : Parsing Expr) (operators : List (String × Operator)) : Parsing Expr := do
  let e ← operand
  chain operand operators (← size) e

/-- The ways to read what stands inside something. -/
structure Ways where
  /-- An expression without commas. -/
  test : Parsing Expr
  /-- Operators on bits, and all that is stronger. -/
  bits : Parsing Expr
  /-- Alternatives, and all that is stronger. -/
  either : Parsing Expr

/-- An expression, or another one for several values. -/
def item (w : Ways) : Parsing Expr := do
  if ← sign? "*" then return .starred (← w.bits)
  else
    let e ← w.test
    match e with
    | .name n => if ← sign? ":=" then return .assigned n (← w.test) else return e
    | e => return e

/-- Expressions with commas between them. -/
def listed (w : Ways) : Parsing Expr := do
  let (all, comma) ← items (item w) endsItems (← size)
  match all, comma with
  | [.starred e], false => return .tuple [.starred e]
  | [e], false => return e
  | all, _ => return .tuple all

/-- A target, or several with commas between them. -/
def target (w : Ways) : Parsing Expr := do
  let one : Parsing Expr := do
    if ← sign? "*" then return .starred (← w.bits) else w.bits
  let (all, comma) ← items one endsItems (← size)
  match all, comma with
  | [e], false => return e
  | all, _ => return .tuple all

/-- Conditions of a comprehension. -/
def conditions (w : Ways) : Nat → Parsing (List Expr)
  | 0 => return []
  | n + 1 => do
    if ← word? "if" then
      let e ← w.either
      let e ← match e with
        | .name m => if ← sign? ":=" then pure (.assigned m (← w.test)) else pure e
        | e => pure e
      return e :: (← conditions w n)
    else return []

/-- The clauses of a comprehension. -/
def clauses (w : Ways) : Nat → Parsing (List Clause)
  | 0 => return []
  | n + 1 => do
    if ← word? "for" then
      let t ← target w
      word "in"
      let source ← w.either
      let found ← conditions w (← size)
      return .mk t source found :: (← clauses w n)
    else return []

/-- The arguments of a call. -/
def arguments (w : Ways) : Parsing (List Argument) := do
  if ← sign? ")" then return []
  let one : Parsing Argument := do
    if ← sign? "*" then return .all (← w.test)
    else if ← sign? "**" then return .allNamed (← w.test)
    else
      match (← get).tokens with
      | (.name n, _) :: (.sign "=", _) :: _ =>
        skip
        skip
        return .named n (← w.test)
      | _ =>
        let e ← item w
        if ← isWord "for" then return .plain (.generator e (← clauses w (← size)))
        else return .plain e
  let (all, _) ← items one (isSign ")") (← size)
  close ")"
  return all

/-- An index, or a range of them. -/
def index (w : Ways) : Parsing Expr := do
  let optional (stops : List String) : Parsing (Option Expr) := do
    match ← peek with
    | .sign s => if stops.contains s then return none else return some (← item w)
    | _ => return some (← item w)
  let first ← optional [":"]
  if ← sign? ":" then
    let last ← optional [":", "]", ","]
    let step ← if ← sign? ":" then optional ["]", ","] else pure none
    return .slice first last step
  else
    match first with
    | some e => return e
    | none => unexpected

/-- What may stand between brackets: one index or several. -/
def indexes (w : Ways) : Parsing Expr := do
  let (all, comma) ← items (index w) (isSign "]") (← size)
  close "]"
  match all, comma with
  | [e], false => return e
  | all, _ => return .tuple all

/-- What follows a value: calls, indexes and attributes. -/
def trailers (w : Ways) : Nat → Expr → Parsing Expr
  | 0, e => return e
  | n + 1, e => do
    if ← sign? "(" then trailers w n (.call e (← arguments w))
    else if ← sign? "[" then trailers w n (.subscript e (← indexes w))
    else if ← sign? "." then trailers w n (.member e (← name))
    else return e

/-- Another reader on a source of its own. -/
def within {α : Type} (t : Text) (x : Parsing α) : Parsing α := do
  let before ← get
  let n ← line
  set (⟨(Token.read (t.length + 2) n [("(", n)] [0] false t).filter (fun
    | (.broken _, _) => false
    | _ => true), n⟩ : Source)
  let a ← x
  if (← get).tokens.isEmpty then
    set before
    return a
  else
    set before
    refuse "f-string: invalid syntax"

/-- The pieces of a text that is put together. -/
def pieces (w : Ways) : Nat → List RawPiece → Parsing (List Piece)
  | 0, _ => return []
  | _, [] => return []
  | n + 1, p :: rest => do
    let made ← match p with
      | .text t => pure (Piece.text t)
      | .value source conversion format =>
        if source.all isSpace then refuse "f-string: valid expression required before '\x7d'"
        let e ← within source (do
          if ← word? "yield" then return .yield none else listed w)
        pure (Piece.value e conversion (← pieces w n format))
    return made :: (← pieces w n rest)

/-- Texts that follow each other. -/
def texts (w : Ways) : Nat → Parsing (List Piece)
  | 0 => return []
  | n + 1 => do
    match ← peek with
    | .text t => skip; return .text t :: (← texts w n)
    | .pieces ps =>
      let all ← pieces w 10000 ps
      skip
      return all ++ (← texts w n)
    | _ => return []

/-- Bytes that follow each other. -/
def byteTexts : Nat → Parsing Text
  | 0 => return []
  | n + 1 => do
    match ← peek with
    | .bytes t => skip; return t ++ (← byteTexts n)
    | _ => return []

/-- What stands between braces. -/
def braces (w : Ways) : Parsing Expr := do
  if ← sign? "\x7d" then return .dict []
  let entry : Parsing (Option Expr × Expr) := do
    if ← sign? "**" then return (none, ← w.bits)
    else
      let k ← w.test
      sign ":"
      return (some k, ← w.test)
  if ← isSign "**" then
    let (all, _) ← items entry (isSign "\x7d") (← size)
    close "\x7d"
    return .dict all
  let first ← item w
  if ← sign? ":" then
    let v ← w.test
    if ← isWord "for" then
      let found ← clauses w (← size)
      close "\x7d"
      return .dictFor first v found
    else if ← sign? "," then
      if ← sign? "\x7d" then return .dict [(some first, v)]
      else
        let (all, _) ← items entry (isSign "\x7d") (← size)
        close "\x7d"
        return .dict ((some first, v) :: all)
    else
      close "\x7d"
      return .dict [(some first, v)]
  else if ← isWord "for" then
    let found ← clauses w (← size)
    close "\x7d"
    return .setFor first found
  else if ← sign? "," then
    if ← sign? "\x7d" then return .set [first]
    else
      let (all, _) ← items (item w) (isSign "\x7d") (← size)
      close "\x7d"
      return .set (first :: all)
  else
    close "\x7d"
    return .set [first]

/-- A value without operators. -/
def atom (w : Ways) : Parsing Expr := do
  match ← peek with
  | .name n => skip; return .name n
  | .int n => skip; return .constant (.int n)
  | .float x => skip; return .constant (.float x)
  | .text _ => collected
  | .pieces _ => collected
  | .bytes _ => return .constant (.bytes (← byteTexts (← size)))
  | .word "None" => skip; return .constant .none
  | .word "True" => skip; return .constant (.bool true)
  | .word "False" => skip; return .constant (.bool false)
  | .sign "..." => skip; return .constant .ellipsis
  | .sign "(" =>
    skip
    if ← sign? ")" then return .tuple []
    if ← word? "yield" then
      let e ← yielded
      close ")"
      return e
    let first ← item w
    if ← isWord "for" then
      let found ← clauses w (← size)
      close ")"
      return .generator first found
    else if ← sign? "," then
      if ← sign? ")" then return .tuple [first]
      else
        let (all, _) ← items (item w) (isSign ")") (← size)
        close ")"
        return .tuple (first :: all)
    else
      close ")"
      return first
  | .sign "[" =>
    skip
    if ← sign? "]" then return .list []
    let first ← item w
    if ← isWord "for" then
      let found ← clauses w (← size)
      close "]"
      return .listFor first found
    else if ← sign? "," then
      if ← sign? "]" then return .list [first]
      else
        let (all, _) ← items (item w) (isSign "]") (← size)
        close "]"
        return .list (first :: all)
    else
      close "]"
      return .list [first]
  | .sign "\x7b" =>
    skip
    braces w
  | _ => unexpected
where
  /-- Texts in a row are one text. -/
  collected : Parsing Expr := do
    let all ← texts w (← size)
    let plain := all.filterMap fun
      | .text t => some t
      | .value .. => none
    if plain.length = all.length then return .constant (.text plain.flatten)
    else return .joined all
  /-- What is yielded. -/
  yielded : Parsing Expr := do
    if ← word? "from" then return .yieldFrom (← w.test)
    else if ← endsItems then return .yield none
    else return .yield (some (← listed w))

/-- Signs in front of a value, and powers. -/
def factor (w : Ways) : Nat → Parsing Expr
  | 0 => unexpected
  | n + 1 => do
    if ← sign? "-" then
      match ← factor w n with
      | .constant (.int k) => return .constant (.int (-k))
      | .constant (.float x) => return .constant (.float (-x))
      | e => return .negative e
    else if ← sign? "+" then return .positive (← factor w n)
    else if ← sign? "~" then return .inverted (← factor w n)
    else
      let e ← trailers w (← size) (← atom w)
      if ← sign? "**" then return .operation .power e (← factor w n) else return e

/-- Operators on bits, and all that is stronger. -/
def bits (w : Ways) : Parsing Expr := do
  let product : Parsing Expr := do
    level (factor w ((← size) + 1)) [("*", .multiply), ("/", .divide), ("//", .floorDivide),
      ("%", .modulo), ("@", .matrix)]
  let sum : Parsing Expr := level product [("+", .add), ("-", .subtract)]
  let shifted : Parsing Expr := level sum [("<<", .shiftLeft), (">>", .shiftRight)]
  let conjunction : Parsing Expr := level shifted [("&", .bitAnd)]
  let exclusive : Parsing Expr := level conjunction [("^", .bitXor)]
  level exclusive [("|", .bitOr)]

/-- A comparison that stands here. -/
def comparison? : Parsing (Option Comparison) := do
  let table : List (String × Comparison) := [("==", .equal), ("!=", .different), ("<", .less),
    ("<=", .lessOrEqual), (">", .greater), (">=", .greaterOrEqual)]
  match (← get).tokens with
  | (.sign s, _) :: _ =>
    match table.lookup s with
    | some c => skip; return some c
    | none => return none
  | (.word "in", _) :: _ => skip; return some .within
  | (.word "not", _) :: (.word "in", _) :: _ => skip; skip; return some .notWithin
  | (.word "is", _) :: (.word "not", _) :: _ => skip; skip; return some .isNotSame
  | (.word "is", _) :: _ => skip; return some .isSame
  | _ => return none

/-- The comparisons that follow a value. -/
def comparisons (operand : Parsing Expr) : Nat → Parsing (List (Comparison × Expr))
  | 0 => return []
  | n + 1 => do
    match ← comparison? with
    | some c =>
      let e ← operand
      return (c, e) :: (← comparisons operand n)
    | none => return []

/-- Negations of comparisons. -/
def negated (w : Ways) : Nat → Parsing Expr
  | 0 => unexpected
  | n + 1 => do
    if ← word? "not" then return .negation (← negated w n)
    else
      let first ← bits w
      match ← comparisons (bits w) (← size) with
      | [] => return first
      | rest => return .comparison first rest

/-- Values with one word between them, from the left. -/
def connected (operand : Parsing Expr) (w : String) (make : Expr → Expr → Expr) : Nat → Expr → Parsing Expr
  | 0, e => return e
  | n + 1, e => do
    if ← word? w then connected operand w make n (make e (← operand)) else return e

/-- Alternatives, and all that is stronger. -/
def either (w : Ways) : Parsing Expr := do
  let both : Parsing Expr := do
    let e ← negated w ((← size) + 1)
    connected (do negated w ((← size) + 1)) "and" .both (← size) e
  let e ← both
  connected both "or" .either (← size) e

/-- The parameters of a function, up to a sign. -/
def parameters (w : Ways) (stop : String) (types : Bool) : (named : Bool) → Nat → Parsing (List Parameter)
  | _, 0 => return []
  | onlyNamed, n + 1 => do
    if ← isSign stop then return []
    let type : Parsing Unit := do
      if types then
        if ← sign? ":" then let _ ← w.test
    let more (p : Parameter) (onlyNamed : Bool) : Parsing (List Parameter) := do
      if ← sign? "," then return p :: (← parameters w stop types onlyNamed n) else return [p]
    if ← sign? "*" then
      if ← sign? "," then parameters w stop types true n
      else
        let p ← name
        type
        more (.rest p) true
    else if ← sign? "**" then
      let p ← name
      type
      more (.namedRest p) onlyNamed
    else if ← sign? "/" then more .unnamed onlyNamed
    else
      let p ← name
      type
      let usual ← if ← sign? "=" then pure (some (← w.test)) else pure none
      more (if onlyNamed then .namedOnly p usual else .plain p usual) onlyNamed

/-- An expression without commas, so deep at most. -/
def test : Nat → Parsing Expr
  | 0 => unexpected
  | n + 1 => do
    let inner := test n
    let w : Ways := ⟨inner, bits ⟨inner, inner, inner⟩, either ⟨inner, inner, inner⟩⟩
    let w : Ways := ⟨inner, bits w, either w⟩
    if ← word? "lambda" then
      let ps ← parameters w ":" false false (← size)
      sign ":"
      return .function ps (← inner)
    else
      let e ← either w
      if ← word? "if" then
        let condition ← either w
        if !(← isWord "else") && !(← isSign ":") then
          match ← peek with
          | .broken _ => unexpected
          | _ => refuse "expected 'else' after 'if' expression"
        word "else"
        return .choose condition e (← inner)
      else return e

/-- How deep expressions can stand in each other. -/
def depth : Nat := 400

/-- The ways to read expressions. -/
def ways : Ways :=
  let inner := test depth
  let w : Ways := ⟨inner, inner, inner⟩
  let w : Ways := ⟨inner, bits w, either w⟩
  ⟨inner, bits w, either w⟩

/-- Expressions with commas between them, or what is yielded. -/
def value : Parsing Expr := do
  if ← word? "yield" then atom.yielded ways else listed ways

/-! ## Statements -/

/-- The operators that come with an assignment. -/
def changes : List (String × Operator) :=
  [("+=", .add), ("-=", .subtract), ("*=", .multiply), ("/=", .divide), ("//=", .floorDivide),
    ("%=", .modulo), ("**=", .power), (">>=", .shiftRight), ("<<=", .shiftLeft), ("&=", .bitAnd),
    ("|=", .bitOr), ("^=", .bitXor), ("@=", .matrix)]

/-- Something can be put where the expression stands for. -/
def canBeSet : Expr → Bool
  | .name _ => true
  | .member .. => true
  | .subscript .. => true
  | .starred _ => true
  | .tuple _ => true
  | .list _ => true
  | _ => false

/-- What an expression is called where nothing can be put. -/
def kindOf : Expr → String
  | .call .. => "function call"
  | .constant (.bool true) => "True"
  | .constant (.bool false) => "False"
  | .constant .none => "None"
  | .constant _ => "literal"
  | .comparison .. => "comparison"
  | .operation .. => "expression"
  | .function .. => "lambda"
  | .choose .. => "conditional expression"
  | .dict _ => "dict literal"
  | .joined _ => "f-string expression"
  | _ => "expression"

/-- Why an expression cannot be set. -/
def unsettable (e : Expr) : String :=
  let isWord := match e with
    | .constant .none => true
    | .constant (.bool _) => true
    | _ => false
  "cannot assign to " ++ kindOf e ++ (if isWord then "" else " here. Maybe you meant '==' instead of '='?")

/-- The values that are assigned, with the targets in front of them. -/
def assignments (before : List Expr) : Nat → Parsing Statement
  | 0 => unexpected
  | n + 1 => do
    let e ← value
    if ← isSign "=" then
      if canBeSet e then
        skip
        assignments (before ++ [e]) n
      else refuse (unsettable e)
    else return .assign before e

/-- A name with dots. -/
def dotted : Nat → Parsing (List String)
  | 0 => return []
  | n + 1 => do
    let first ← name
    if ← sign? "." then return first :: (← dotted n) else return [first]

/-- A new name for something that is imported. -/
def renamed : Parsing (Option String) := do
  if ← word? "as" then return some (← name) else return none

/-- What follows the first name of an import. -/
def imported : Nat → Parsing (List Statement)
  | 0 => return []
  | n + 1 => do
    let path ← dotted (← size)
    let s := Statement.importModule path (← renamed)
    if ← sign? "," then return s :: (← imported n) else return [s]

/-- A statement on one line, which may be several. -/
def simple : Parsing (List Statement) := do
  match ← peek with
  | .word "pass" => skip; return [.pass]
  | .word "break" => skip; return [.leave]
  | .word "continue" => skip; return [.continue]
  | .word "return" =>
    skip
    if ← endsItems then return [.return none] else return [.return (some (← listed ways))]
  | .word "raise" =>
    skip
    if ← endsItems then return [.raise none none]
    else
      let e ← ways.test
      let cause ← if ← word? "from" then pure (some (← ways.test)) else pure none
      return [.raise (some e) cause]
  | .word "global" =>
    skip
    let (all, _) ← items name endsItems (← size)
    return [.global all]
  | .word "nonlocal" =>
    skip
    let (all, _) ← items name endsItems (← size)
    return [.outer all]
  | .word "del" =>
    skip
    let (all, _) ← items ways.bits endsItems (← size)
    return [.delete all]
  | .word "assert" =>
    skip
    let e ← ways.test
    let message ← if ← sign? "," then pure (some (← ways.test)) else pure none
    return [.assert e message]
  | .word "import" =>
    skip
    imported (← size)
  | .word "from" =>
    skip
    let path ← do
      let _ ← sign? "."
      if ← isWord "import" then pure [] else dotted (← size)
    word "import"
    if ← sign? "*" then return [.importNames path [] true]
    let one : Parsing (String × String) := do
      let n ← name
      return (n, (← renamed).getD n)
    if ← sign? "(" then
      let (all, _) ← items one (isSign ")") (← size)
      sign ")"
      return [.importNames path all false]
    else
      let (all, _) ← items one endsItems (← size)
      return [.importNames path all false]
  | _ =>
    let e ← value
    match ← peek with
    | .sign "=" =>
      if canBeSet e then
        skip
        return [← assignments [e] (← size)]
      else refuse (unsettable e)
    | .sign ":" =>
      match e with
      | .name _ => annotated e
      | .member .. => annotated e
      | .subscript .. => annotated e
      | _ => return [.value e]
    | .sign s =>
      match changes.lookup s with
      | some operator =>
        if canBeSet e then
          skip
          return [.change operator e (← value)]
        else refuse ("'" ++ kindOf e ++ "' is an illegal expression for augmented assignment")
      | none => return [.value e]
    | _ => return [.value e]
where
  /-- A target with a type, and a value if there is one. -/
  annotated (e : Expr) : Parsing (List Statement) := do
    skip
    let type ← ways.test
    if ← sign? "=" then return [.annotate e type (some (← value))]
    else return [.annotate e type none]

/-- Statements on one line. -/
def row : Nat → Parsing (List Statement)
  | 0 => unexpected
  | n + 1 => do
    let start ← line
    let first := (← simple).map (Statement.line start)
    if ← sign? ";" then
      match ← peek with
      | .newline => skip; return first
      | _ => return first ++ (← row n)
    else
      match ← peek, first with
      | .newline, _ => skip; return first
      | .broken _, _ => unexpected
      | _, [.line _ (.value (.name "print"))] =>
        refuse "Missing parentheses in call to 'print'. Did you mean print(...)?"
      | _, _ => unexpected

/-- A block behind a colon, by a way to read statements. -/
def block (statements : Parsing (List Statement)) (after : String) (start : Nat) :
    Parsing (List Statement) := do
  if !(← sign? ":") then
    match ← peek with
    | .newline => refuse "expected ':'"
    | .sign "=" => refuse "invalid syntax. Maybe you meant '==' or ':=' instead of '='?"
    | _ => unexpected
  match ← peek with
  | .newline =>
    skip
    match ← peek with
    | .indent => skip; statements
    | _ => throw ⟨"expected an indented block after " ++ after ++ " on line " ++ toString start, ← line, true⟩
  | _ => row (← size)

/-- A pattern of a selection. -/
def pattern : Nat → Parsing Pattern
  | 0 => unexpected
  | n + 1 => do
    let closed : Parsing Pattern := do
      match ← peek with
      | .name "_" => skip; return .anything
      | .name m =>
        skip
        if ← isSign "." then
          let e ← trailing (.name m) (← size)
          if ← sign? "(" then classPattern e else return .value e
        else if ← sign? "(" then classPattern (.name m)
        else return .capture m
      | .sign "*" =>
        skip
        let m ← name
        return .star (if m = "_" then none else some m)
      | .sign "(" =>
        skip
        if ← sign? ")" then return .sequence []
        let (all, comma) ← items (pattern n) (isSign ")") (← size)
        sign ")"
        match all, comma with
        | [p], false => return p
        | all, _ => return .sequence all
      | .sign "[" =>
        skip
        if ← sign? "]" then return .sequence []
        let (all, _) ← items (pattern n) (isSign "]") (← size)
        sign "]"
        return .sequence all
      | .sign "\x7b" =>
        skip
        if ← sign? "\x7d" then return .mapping [] none
        let entry : Parsing (Option (Expr × Pattern) × Option String) := do
          if ← sign? "**" then return (none, some (← name))
          else
            let k ← ways.bits
            sign ":"
            return (some (k, ← pattern n), none)
        let (all, _) ← items entry (isSign "\x7d") (← size)
        sign "\x7d"
        return .mapping (all.filterMap Prod.fst) (all.findSome? Prod.snd)
      | _ => return .value (← bits ways)
    let first ← closed
    let rec more : Nat → Parsing (List Pattern)
      | 0 => return []
      | k + 1 => do
        if ← sign? "|" then
          let p ← closed
          return p :: (← more k)
        else return []
    let others ← more (← size)
    let p := if others.isEmpty then first else .either (first :: others)
    if ← word? "as" then return .bound p (← name) else return p
where
  /-- Attributes behind a name. -/
  trailing (e : Expr) : Nat → Parsing Expr
    | 0 => return e
    | k + 1 => do
      if ← sign? "." then trailing (.member e (← name)) k else return e
  /-- The arguments of a pattern for instances. -/
  classPattern (e : Expr) : Parsing Pattern := do
    if ← sign? ")" then return .instanceOf e [] []
    let one : Parsing (Pattern ⊕ (String × Pattern)) := do
      match (← get).tokens with
      | (.name m, _) :: (.sign "=", _) :: _ =>
        skip
        skip
        return .inr (m, .value (← ways.bits))
      | _ =>
        match ← peek with
        | .name "_" => skip; return .inl .anything
        | .name m => skip; return .inl (.capture m)
        | _ => return .inl (.value (← ways.bits))
    let (all, _) ← items one (isSign ")") (← size)
    sign ")"
    return .instanceOf e
      (all.filterMap fun
        | .inl p => some p
        | .inr _ => none)
      (all.filterMap fun
        | .inl _ => none
        | .inr p => some p)

/-- A selection begins here. -/
def selects : Parsing Bool := do
  match (← get).tokens with
  | (.name "match", n) :: rest =>
    let row := rest.takeWhile fun t => t.2 == n
    let colon := match (row.filter fun t => !(t.1 matches .newline)).getLast? with
      | some (.sign ":", _) => true
      | _ => false
    let behind := rest.drop row.length
    match row.head?, colon, behind with
    | some (.sign "=", _), _, _ => return false
    | some (.sign ".", _), _, _ => return false
    | _, true, (.indent, _) :: (.name "case", _) :: _ => return true
    | _, _, _ => return false
  | _ => return false

/-- The block for the other case. -/
def otherwise (inner : Parsing (List Statement)) : Parsing (List Statement) := do
  let start ← line
  if ← word? "else" then block inner "'else' statement" start else return []

/-- Choices one after the other. -/
def choices (inner : Parsing (List Statement)) (kind : String) : Nat → Parsing Statement
  | 0 => unexpected
  | count + 1 => do
    let start ← line
    let e ← item ways
    let body ← block inner kind start
    let next ← line
    if ← word? "elif" then
      return .choose e body [.line next (← choices inner "'elif' statement" count)]
    else return .choose e body (← otherwise inner)

/-- What is done about exceptions. -/
def handlers (inner : Parsing (List Statement)) : Nat → Parsing (List Handler)
  | 0 => return []
  | count + 1 => do
    let start ← line
    if ← word? "except" then
      let type ← if ← isSign ":" then pure none else pure (some (← listed ways))
      let m ← if ← word? "as" then pure (some (← name)) else pure none
      let body ← block inner "'except' statement" start
      return .mk type m body :: (← handlers inner count)
    else return []

/-- The cases of a selection. -/
def cases (inner : Parsing (List Statement)) :
    Nat → Parsing (List (Pattern × Option Expr × List Statement))
  | 0 => return []
  | count + 1 => do
    match (← get).tokens with
    | (.name "case", start) :: _ =>
      skip
      let (all, comma) ← items (pattern 50) endsItems (← size)
      let p := match all, comma with
        | [p], false => p
        | all, _ => .sequence all
      let condition ← if ← word? "if" then pure (some (← item ways)) else pure none
      let body ← block inner "'case' statement" start
      return (p, condition, body) :: (← cases inner count)
    | (.dedent, _) :: _ => skip; return []
    | _ => return []

/-- What a definition is handed over to. -/
def decorators : Nat → Parsing (List Expr)
  | 0 => return []
  | count + 1 => do
    if ← sign? "@" then
      let e ← item ways
      match ← peek with
      | .newline => skip
      | _ => unexpected
      return e :: (← decorators count)
    else return []

/-- A definition of a function or a class. -/
def define (inner : Parsing (List Statement)) (found : List Expr) : Parsing (List Statement) := do
  let start ← line
  let _ ← word? "async"
  if ← word? "def" then
    let m ← name
    sign "("
    let ps ← parameters ways ")" true false (← size)
    sign ")"
    if ← sign? "->" then let _ ← ways.test
    let body ← block inner "function definition" start
    return [.line start (.define m ps body found)]
  else if ← word? "class" then
    let m ← name
    let all ← if ← sign? "(" then arguments ways else pure []
    let body ← block inner "class definition" start
    return [.line start (.defineClass m all body found)]
  else unexpected

/-- What is entered and left around a block, with brackets around all of it or without. -/
def entered : Parsing (List (Expr × Option Expr)) := do
  let entry : Parsing (Expr × Option Expr) := do
    let e ← ways.test
    let t ← if ← word? "as" then pure (some (← ways.bits)) else pure none
    return (e, t)
  let bracketed : Parsing (List (Expr × Option Expr)) := do
    sign "("
    let (all, _) ← items entry (isSign ")") (← size)
    sign ")"
    if ← isSign ":" then return all else unexpected
  match bracketed.run (← get) with
  | .ok (all, behind) =>
    set behind
    return all
  | .error _ => return (← items entry (isSign ":") (← size)).1

/-- A statement, which may be several, by a way to read the blocks in it. -/
def statement (inner : Parsing (List Statement)) : Parsing (List Statement) := do
  let start ← line
  let marked (s : Statement) : List Statement := [.line start s]
  match ← peek with
  | .word "if" =>
    skip
    return marked (← choices inner "'if' statement" (← size))
  | .word "while" =>
    skip
    let e ← item ways
    let body ← block inner "'while' statement" start
    return marked (.loop e body (← otherwise inner))
  | .word "for" =>
    skip
    let t ← target ways
    word "in"
    let e ← listed ways
    let body ← block inner "'for' statement" start
    return marked (.each t e body (← otherwise inner))
  | .word "try" =>
    skip
    let body ← block inner "'try' statement" start
    let found ← handlers inner (← size)
    let other ← if found.isEmpty then pure [] else otherwise inner
    let always ← if ← word? "finally" then block inner "'finally' statement" start else pure []
    if found.isEmpty && always.isEmpty then refuse "expected 'except' or 'finally' block"
    return marked (.attempt body found other always)
  | .word "with" =>
    skip
    let all ← entered
    let body ← block inner "'with' statement" start
    return marked (.with all body)
  | .word "def" => define inner []
  | .word "class" => define inner []
  | .word "async" => define inner []
  | .sign "@" => define inner (← decorators (← size))
  | .indent => unexpected
  | .broken _ => unexpected
  | _ =>
    if ← selects then
      skip
      let e ← listed ways
      sign ":"
      skip
      skip
      let all ← cases inner (← size)
      return marked (.select e all)
    else row (← size)

/-- Statements up to the end of their block, so many at most. -/
def several (inner : Parsing (List Statement)) : Nat → Parsing (List Statement)
  | 0 => return []
  | count + 1 => do
    match (← get).tokens with
    | [] => return []
    | (.dedent, _) :: _ => skip; return []
    | _ =>
      let all ← statement inner
      return all ++ (← several inner count)

/-- Statements up to the end of their block, so deep at most. -/
def statements : Nat → Parsing (List Statement)
  | 0 => unexpected
  | n + 1 => do several (statements n) ((← size) + 1)

end Parsing

/-- The statements of a script. -/
def statementsOf (t : Text) : Except Mistake (List Statement) :=
  let tokens := Token.read (2 * t.length + 8) 1 [] [0] true t
  let read : Parsing (List Statement) := do
    let all ← Parsing.statements 100
    if (← get).tokens.isEmpty then return all else Parsing.unexpected
  (read.run ⟨tokens, 1⟩).map Prod.fst

end Equate.Shell.Dynamic
