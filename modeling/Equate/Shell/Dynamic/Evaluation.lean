import Equate.Shell.Dynamic.Calling
import Equate.Shell.Dynamic.Parser

/-!
# Working out expressions

Names are looked for in the scope where they stand, then in the scopes of the functions
around it, then in the module, and last among what is always there. Classes have scopes of
their own, in which functions do not look.
-/
namespace Equate.Shell.Dynamic

/-!
## What stands where it must not

Some statements make sense in a function or in a loop only. A script in which one of them
stands elsewhere is refused before it runs.
-/

/-- What is around a statement. -/
structure Surrounding where
  line : Nat
  isFunction : Bool
  isLoop : Bool

/-- The first of two mistakes. -/
def firstOf (a : Option Mistake) (b : Unit → Option Mistake) : Option Mistake :=
  match a with
  | some m => some m
  | none => b ()

/-- A name that is there twice. -/
def twice? : List String → Option String
  | [] => none
  | n :: rest => if rest.contains n then some n else twice? rest

/-- What is wrong with the names of parameters. -/
def parameterMistake? (line : Nat) (ps : List Parameter) : Option Mistake :=
  let names := ps.filterMap fun
    | .plain n _ => some n
    | .namedOnly n _ => some n
    | .rest n => some n
    | .namedRest n => some n
    | .unnamed => none
  (twice? names).map fun n => ⟨"duplicate argument '" ++ n ++ "' in function definition", line, false⟩

/-- What cannot be deleted. -/
def deletionMistake? (line : Nat) : Expr → Option Mistake
  | .name _ => none
  | .member .. => none
  | .subscript .. => none
  | .tuple _ => none
  | .list _ => none
  | .call .. => some ⟨"cannot delete function call", line, false⟩
  | .constant _ => some ⟨"cannot delete literal", line, false⟩
  | _ => some ⟨"cannot delete expression", line, false⟩

mutual

/-- What is wrong with a statement where it stands. -/
def mistakeIn (s : Surrounding) : Statement → Option Mistake
  | .line n inner => mistakeIn { s with line := n } inner
  | .value e => if exprYields e && !s.isFunction then outside s "'yield' outside function" else none
  | .assign _ e => if exprYields e && !s.isFunction then outside s "'yield' outside function" else none
  | .return _ => if s.isFunction then none else outside s "'return' outside function"
  | .leave => if s.isLoop then none else outside s "'break' outside loop"
  | .continue => if s.isLoop then none else outside s "'continue' not properly in loop"
  | .outer _ => if s.isFunction then none else outside s "nonlocal declaration not allowed at module level"
  | .delete targets => targets.findSome? (deletionMistake? s.line)
  | .choose _ body otherwise => firstOf (mistakeInAll s body) fun _ => mistakeInAll s otherwise
  | .loop _ body otherwise => firstOf (mistakeInAll { s with isLoop := true } body) fun _ => mistakeInAll s otherwise
  | .each _ _ body otherwise => firstOf (mistakeInAll { s with isLoop := true } body) fun _ => mistakeInAll s otherwise
  | .attempt body handlers otherwise always =>
    firstOf (mistakeInAll s body) fun _ => firstOf (mistakeInHandlers s handlers) fun _ =>
      firstOf (mistakeInAll s otherwise) fun _ => mistakeInAll s always
  | .with _ body => mistakeInAll s body
  | .define _ ps body _ =>
    firstOf (parameterMistake? s.line ps) fun _ => mistakeInAll { s with isFunction := true, isLoop := false } body
  | .defineClass _ _ body _ => mistakeInAll { s with isFunction := false, isLoop := false } body
  | .select _ cases => mistakeInCases s cases
  | _ => none
where
  /-- The statement does not belong here. -/
  outside (s : Surrounding) (words : String) : Option Mistake := some ⟨words, s.line, false⟩

/-- What is wrong with statements where they stand. -/
def mistakeInAll (s : Surrounding) : List Statement → Option Mistake
  | [] => none
  | first :: rest => firstOf (mistakeIn s first) fun _ => mistakeInAll s rest

/-- What is wrong with handlers where they stand. -/
def mistakeInHandlers (s : Surrounding) : List Handler → Option Mistake
  | [] => none
  | .mk _ _ body :: rest => firstOf (mistakeInAll s body) fun _ => mistakeInHandlers s rest

/-- What is wrong with cases where they stand. -/
def mistakeInCases (s : Surrounding) : List (Pattern × Option Expr × List Statement) → Option Mistake
  | [] => none
  | (_, _, body) :: rest => firstOf (mistakeInAll s body) fun _ => mistakeInCases s rest

end

/-- The statements of a script that can run. -/
def checkedStatements (t : Text) : Except Mistake (List Statement) := do
  let statements ← statementsOf t
  match mistakeInAll ⟨1, false, false⟩ statements with
  | some m => .error m
  | none => .ok statements

/-! ## Names -/

/-- How many scopes can be around each other. -/
def scopeDepth : Nat := 200

/-- The scope of a number. -/
def scopeAt? (n : Nat) : Running (Option Scope) := do
  match ← objectAt? n with
  | some (.scope s) => return some s
  | _ => return none

/-- The scope of the module around a scope. -/
def moduleScope : Nat → Nat → Running Nat
  | 0, n => return n
  | fuel + 1, n => do
    match (← scopeAt? n).bind Scope.parent with
    | some p => moduleScope fuel p
    | none => return n

/-- The value of a name in the scopes around. -/
def outerValue? (name : String) : Nat → Nat → Running (Option Value)
  | 0, _ => return none
  | fuel + 1, n => do
    match ← scopeAt? n with
    | none => return none
    | some s =>
      if s.isClass then
        match s.parent with
        | some p => outerValue? name fuel p
        | none => return none
      else
        match s.named[name]? with
        | some v => return some v
        | none =>
          match s.parent with
          | some p => outerValue? name fuel p
          | none => return none

/-- The value of a name. -/
def nameValue (scope : Nat) (name : String) : Running Value := do
  let undefined {α : Type} : Running α := do
    raise (← exception "NameError" [.text ("name '" ++ name.toList ++ "' is not defined")] [("name", .text name.toList)])
  match ← scopeAt? scope with
  | none => undefined
  | some s =>
    let found ← if s.globals.contains name then do
        pure ((← scopeAt? (← moduleScope scopeDepth scope)).bind fun m => m.named[name]?)
      else
        match s.named[name]? with
        | some v => pure (some v)
        | none =>
          if s.isFunction && s.locals.contains name then
            fail "UnboundLocalError" ("cannot access local variable '" ++ name.toList ++
              "' where it is not associated with a value")
          else
            match s.parent with
            | some p => outerValue? name scopeDepth p
            | none => pure none
    match found with
    | some v => return v
    | none =>
      match builtinValue? name with
      | some v => return v
      | none => undefined

/-- A name gets a value in a scope. -/
def putName (scope : Nat) (name : String) (v : Value) : Running Unit :=
  modify fun m => { m with store := m.store.modify scope fun
    | .scope s =>
      let order := if s.isFunction || s.named.contains name then s.order else name :: s.order
      .scope { s with named := s.named.insert name v, order }
    | x => x }

/-- The scope around in which a name is. -/
def outerScope (name : String) : Nat → Nat → Running Nat
  | 0, n => return n
  | fuel + 1, n => do
    match ← scopeAt? n with
    | none => return n
    | some s =>
      if !s.isClass && (s.named.contains name || s.locals.contains name) then return n
      else
        match s.parent with
        | some p => outerScope name fuel p
        | none => return n

/-- A name gets a value. -/
def setName (scope : Nat) (name : String) (v : Value) : Running Unit := do
  match ← scopeAt? scope with
  | none => return
  | some s =>
    let special := s.globals.contains name || s.outers.contains name
    if special then
      if s.globals.contains name then putName (← moduleScope scopeDepth scope) name v
      else
        match s.parent with
        | some p => putName (← outerScope name scopeDepth p) name v
        | none => putName scope name v
    else putName scope name v

/-- The scope around a comprehension. -/
def properScope : Nat → Nat → Running Nat
  | 0, n => return n
  | fuel + 1, n => do
    match ← scopeAt? n with
    | some s =>
      match s.parent with
      | some p => if s.isFunction || s.isClass then return n else properScope fuel p
      | none => return n
    | none => return n

/-- A name is taken away. -/
def dropName (scope : Nat) (name : String) : Running Unit := do
  let scope ← match ← scopeAt? scope with
    | some s => if s.globals.contains name then moduleScope scopeDepth scope else pure scope
    | none => pure scope
  match ← scopeAt? scope with
  | some s =>
    if s.named.contains name then
      setObject scope (.scope { s with named := s.named.erase name, order := s.order.filter (· ≠ name) })
    else fail "NameError" ("name '" ++ name.toList ++ "' is not defined")
  | none => return

/-- A new scope inside another one. -/
def innerScope (parent : Nat) : Running Nat := do
  match ← make (.scope ⟨Std.ExtTreeMap.empty, [], some parent, false, false, [], [], []⟩) with
  | .object n => return n
  | _ => return parent

/-- The names of a scope with their values. -/
def scopeNames (n : Nat) : Running (List (String × Value)) := do
  match ← scopeAt? n with
  | some s =>
    if s.isFunction then
      return s.locals.eraseDups.filterMap fun k => s.named[k]?.map fun v => (k, v)
    else return s.order.reverse.filterMap fun k => s.named[k]?.map fun v => (k, v)
  | none => return []

/-! ## Targets -/

/-- What stands in a target is assigned, by a way to work out what stands inside it. -/
def assignTo (w : Ways) (scope : Nat) : Nat → Expr → Value → Running Unit
  | 0, _, _ => return
  | fuel + 1, target, v => do
    match target with
    | .name n => setName scope n v
    | .member e n => setMember w (← w.evaluate scope e) n v
    | .subscript e i =>
      let container ← w.evaluate scope e
      setItem w container (← w.evaluate scope i) v
    | .starred e => assignTo w scope fuel e (← makeList (← itemsOf w v))
    | .tuple ts => unpack fuel ts v
    | .list ts => unpack fuel ts v
    | _ => fail "SyntaxError" "cannot assign to expression"
where
  /-- Several targets get the items of a value. -/
  unpack (fuel : Nat) (ts : List Expr) (v : Value) : Running Unit := do
    let items ← catching ["TypeError"] (itemsOf w v) fun e => do
      let isIterable ← match v with
        | .object n =>
          match ← objectAt? n with
          | some (.made ..) => do pure (← special? v "__iter__").isSome
          | _ => pure true
        | .none => pure false
        | .int _ => pure false
        | .float _ => pure false
        | .bool _ => pure false
        | .builtin _ => pure false
        | .type _ => pure false
        | _ => pure true
      if isIterable then raise e
      else typeError ("cannot unpack non-iterable " ++ (← typeName v).toList ++ " object")
    let star := ts.findIdx? fun t => match t with
      | .starred _ => true
      | _ => false
    match star with
    | none =>
      if items.length < ts.length then
        valueError ("not enough values to unpack (expected " ++ Text.decimal ts.length ++ ", got " ++
          Text.decimal items.length ++ [')'])
      else if ts.length < items.length then
        valueError ("too many values to unpack (expected " ++ Text.decimal ts.length ++ [')'])
      else (ts.zip items).forM fun (t, x) => assignTo w scope fuel t x
    | some i =>
      let behind := ts.length - i - 1
      if items.length < ts.length - 1 then
        valueError ("not enough values to unpack (expected at least " ++ Text.decimal (ts.length - 1) ++ ", got " ++
          Text.decimal items.length ++ [')'])
      else
        ((ts.take i).zip items).forM fun (t, x) => assignTo w scope fuel t x
        let middle := (items.drop i).take (items.length - i - behind)
        match ts[i]? with
        | some (.starred t) => assignTo w scope fuel t (← makeList middle)
        | _ => return
        ((ts.drop (i + 1)).zip (items.drop (items.length - behind))).forM fun (t, x) => assignTo w scope fuel t x

/-- How deep targets can stand in each other. -/
def targetDepth : Nat := 100

/-! ## Functions -/

/-- The names of parameters. -/
def parameterNames (ps : List Parameter) : List String :=
  ps.filterMap fun
    | .plain n _ => some n
    | .namedOnly n _ => some n
    | .rest n => some n
    | .namedRest n => some n
    | .unnamed => none

/-- A function with the values of its parameters that have one. -/
def defineFunction (w : Ways) (scope : Nat) (name : String) (ps : List Parameter) (body : List Statement)
    (yields : Bool) : Running Value := do
  let defaults ← ps.filterMapM fun p => do
    match p with
    | .plain n (some e) => return some (n, ← w.evaluate scope e)
    | .namedOnly n (some e) => return some (n, ← w.evaluate scope e)
    | _ => return none
  let globals := allTakenNames true body
  let outers := allTakenNames false body
  let locals := (parameterNames ps ++ allSetNames body).filter fun n => !globals.contains n && !outers.contains n
  make (.function ⟨name, ps, defaults, body, scope, yields, locals, globals, outers, none⟩)

/-- Names with a word in front of the last one. -/
def listedNames (names : List String) : Text :=
  let quoted := names.map fun n => '\'' :: n.toList ++ ['\'']
  match quoted.reverse with
  | [] => []
  | [n] => n
  | [b, a] => a ++ " and " ++ b
  | last :: before => commas before.reverse ++ ", and " ++ last

/-- What the parameters of a function stand for in a call. -/
def bindArguments (w : Ways) (d : Definition) (given : List Value) (named : List (String × Value)) :
    Running (List (String × Value)) := do
  let _ := w
  let shown : Running Text := do
    match d.owner with
    | some c => return (← nameOfType c).toList ++ '.' :: d.name.toList ++ ['(', ')']
    | none => return d.name.toList ++ ['(', ')']
  let plain := d.parameters.filterMap fun
    | .plain n _ => some n
    | _ => none
  let onlyNamed := d.parameters.filterMap fun
    | .namedOnly n _ => some n
    | _ => none
  let rest := d.parameters.findSome? fun
    | .rest n => some n
    | _ => none
  let namedRest := d.parameters.findSome? fun
    | .namedRest n => some n
    | _ => none
  let bound := plain.zip given
  if rest.isNone && plain.length < given.length then
    let required := (plain.filter fun n => (d.defaults.lookup n).isNone).length
    let count := plain.length
    let takes : Text := if required < count then "from " ++ Text.decimal required ++ " to " ++ Text.decimal count
      else Text.decimal count
    typeError ((← shown) ++ " takes " ++ takes ++ " positional argument" ++ (if count = 1 ∧ required = count then [] else ['s']) ++
      " but " ++ Text.decimal given.length ++ (if given.length = 1 then " was given" else " were given"))
  let mut found := bound
  let mut extra : List (String × Value) := []
  for (k, v) in named do
    if plain.contains k || onlyNamed.contains k then
      if (found.lookup k).isSome then
        typeError ((← shown) ++ " got multiple values for argument '" ++ k.toList ++ ['\''])
      found := found ++ [(k, v)]
    else if namedRest.isSome then extra := extra ++ [(k, v)]
    else typeError ((← shown) ++ " got an unexpected keyword argument '" ++ k.toList ++ ['\''])
  let missing := plain.filter fun n => (found.lookup n).isNone && (d.defaults.lookup n).isNone
  if !missing.isEmpty then
    typeError ((← shown) ++ " missing " ++ Text.decimal missing.length ++ " required positional argument" ++
      (if missing.length = 1 then [] else ['s']) ++ ": " ++ listedNames missing)
  let missing := onlyNamed.filter fun n => (found.lookup n).isNone && (d.defaults.lookup n).isNone
  if !missing.isEmpty then
    typeError ((← shown) ++ " missing " ++ Text.decimal missing.length ++ " required keyword-only argument" ++
      (if missing.length = 1 then [] else ['s']) ++ ": " ++ listedNames missing)
  let usual := d.defaults.filter fun (n, _) => (found.lookup n).isNone
  let restPart := match rest with
    | some n => [(n, Value.tuple (given.drop plain.length))]
    | none => []
  let namedPart ← match namedRest with
    | some n => do
      let t := extra.foldl (fun (t : Table) (k, v) => t.put ('t' :: k.toList) (.text k.toList) v) .empty
      pure [(n, ← makeDict t)]
    | none => pure []
  return found ++ usual ++ restPart ++ namedPart

/-! ## Comprehensions -/

/-- Something is done with each value of an iterator. -/
def eachValue (w : Ways) (it : Value) (body : Value → Running Unit) : Nat → Running Unit
  | 0 => return
  | n + 1 => do
    match ← w.next it with
    | none => return
    | some v =>
      body v
      eachValue w it body n

/-- Something is done with what the clauses of a comprehension let through. -/
def comprehend (w : Ways) (scope : Nat) (body : Running Unit) : List Clause → Option Value → Running Unit
  | [], _ => body
  | .mk target source conditions :: rest, first => do
    let it ← match first with
      | some it => pure it
      | none => do iterator w (← w.evaluate scope source)
    eachValue w it (fun v => do
      assignTo w scope targetDepth target v
      if ← conditions.allM fun c => do isTrue w (← w.evaluate scope c) then
        comprehend w scope body rest none) turnLimit

/-- A comprehension: where the first values come from is worked out outside. -/
def comprehension (w : Ways) (scope : Nat) (clauses : List Clause) (body : Nat → Running Unit) : Running Unit := do
  match clauses with
  | [] => return
  | .mk _ source _ :: _ =>
    let it ← iterator w (← w.evaluate scope source)
    let inner ← innerScope scope
    comprehend w inner (body inner) clauses (some it)

/-- The statements that a generator of values runs. -/
def generatorBody (e : Expr) : List Clause → List Statement
  | [] => [.value (.yield (some e))]
  | .mk target source conditions :: rest =>
    [.each target source (guarded conditions (generatorBody e rest)) []]
where
  /-- Statements behind conditions. -/
  guarded (conditions : List Expr) (body : List Statement) : List Statement :=
    conditions.foldr (fun c body => [.choose c body []]) body

/-! ## Expressions -/

/-- The arguments of a call. -/
def argumentsGiven (w : Ways) (scope : Nat) (arguments : List Argument) : Running Given := do
  let (plain, named) ← arguments.foldlM (fun (plain, named) a => do
    match a with
    | .plain e =>
      match e with
      | .starred s => return ((← itemsOf w (← w.evaluate scope s)).reverse ++ plain, named)
      | e => return ((← w.evaluate scope e) :: plain, named)
    | .named n e => return (plain, (n, ← w.evaluate scope e) :: named)
    | .all e =>
      let v ← w.evaluate scope e
      return ((← itemsOf w v).reverse ++ plain, named)
    | .allNamed e =>
      let v ← w.evaluate scope e
      let entries ← entriesOf w ⟨[v], []⟩
      let more := entries.filterMap fun (_, k, x) =>
        match k with
        | .text t => some (String.ofList t, x)
        | _ => none
      return (plain, more.reverse ++ named)) (([] : List Value), ([] : List (String × Value)))
  return ⟨plain.reverse, named.reverse⟩

/-- A mistake in a text that is read as a script. -/
def syntaxError {α : Type} (m : Mistake) (path : Text) : Running α := do
  fail (if m.indentation then "IndentationError" else "SyntaxError")
    (m.words.toList ++ " (" ++ path ++ ", line " ++ Text.decimal m.line ++ [')'])

/-- The text of a script that a value is. -/
def sourceOf (v : Value) : Running Text := do
  match v with
  | .text t => return t
  | .bytes t => return decode t
  | v =>
    match ← fieldsOf? v with
    | some (.type "code", fields, _) =>
      match fields.lookup "source" with
      | some (.text t) => return t
      | _ => return []
    | _ => typeError "eval() arg 1 must be a string, bytes or code object"

/-- The scope that tables of names make. -/
def scopeOfTables (scope : Nat) (g : Given) : Running (Nat × List (Value × Nat)) := do
  let namesIn (v : Option Value) : Running (List (String × Value)) := do
    match v with
    | some v =>
      match ← objectOf? v with
      | some (.dict t _ _) => return t.toList.filterMap fun (k, x) =>
          match k with
          | .text k => some (String.ofList k, x)
          | _ => none
      | _ => return []
    | none => return []
  match g.some? 1 "globals" with
  | none => return (scope, [])
  | some globals =>
    let outer ← namesIn (some globals)
    let inner ← namesIn (g.some? 2 "locals")
    match ← make (.scope ⟨Std.ExtTreeMap.empty, [], none, false, false, [], [], []⟩) with
    | .object n =>
      (outer ++ inner).forM fun (k, v) => putName n k v
      return (n, [((g.some? 2 "locals").getD globals, n)])
    | _ => return (scope, [])

/-- A function that depends on where it is called. -/
def localCall (w : Ways) (scope : Nat) (name : String) (g : Given) : Running (Option Value) := do
  match name with
  | "locals" => return some (← namesTable (← scopeNames (← properScope scopeDepth scope)))
  | "globals" => return some (← namesTable (← scopeNames (← moduleScope scopeDepth scope)))
  | "vars" =>
    if g.plain.isEmpty then return some (← namesTable (← scopeNames (← properScope scopeDepth scope))) else return none
  | "dir" =>
    let names ← match g.plain with
      | [] => do pure ((← scopeNames (← properScope scopeDepth scope)).map Prod.fst)
      | v :: _ => do
        let own ← match ← objectOf? v with
          | some (.made type fields _) => do
            let classes ← (← lineage type).mapM fun t => do return ((← kindOf? t).map fun k => k.fields.map Prod.fst).getD []
            pure (fields.map Prod.fst ++ classes.flatten)
          | some (.kind k) => pure (k.fields.map Prod.fst)
          | some (.scope s) => pure s.order
          | _ => pure []
        let m := match v with
          | .module "math" => mathFunctions ++ ["pi", "e", "tau", "inf", "nan"]
          | .module "json" => ["loads", "load", "dumps", "dump"]
          | _ => []
        pure (own ++ m ++ methodsOf (← typeName v))
    return some (← makeList ((inOrder ((names.filter fun n => !".".isPrefixOf n).map String.toList).eraseDups).map Value.text))
  | "eval" =>
    let source ← sourceOf ((g.plain[0]?).getD .none)
    match checkedStatements ((source.dropWhile isGap) ++ ['\n']) with
    | .error m => syntaxError m "<string>"
    | .ok statements =>
      let (inner, _) ← scopeOfTables scope g
      match statements with
      | [.line _ (.value e)] => return some (← w.evaluate inner e)
      | _ => syntaxError ⟨"invalid syntax", 1, false⟩ "<string>"
  | "exec" =>
    let source ← sourceOf ((g.plain[0]?).getD .none)
    match checkedStatements source with
    | .error m => syntaxError m "<string>"
    | .ok statements =>
      let (inner, tables) ← scopeOfTables scope g
      let line := (← get).line
      w.execute inner statements
      modify fun m => { m with line }
      for (table, n) in tables do
        for (k, v) in ← scopeNames n do
          setItem w table (.text k.toList) v
      return some .none
  | "compile" =>
    let source ← sourceOf ((g.plain[0]?).getD .none)
    match checkedStatements source with
    | .error m => syntaxError m "<string>"
    | .ok _ => return some (← make (.made (.type "code") [("source", .text source)] none))
  | "super" =>
    if g.plain.isEmpty then
      let own ← properScope scopeDepth scope
      let first := ((← scopeAt? own).bind fun s => s.locals.head?).getD ""
      return some (.above (← nameValue own "__class__") (← nameValue own first))
    else return none
  | _ => return none

/-- An entry of a table that is written out. -/
def putEntry (w : Ways) (t : Table) (scope : Nat) (k : Option Expr) (e : Expr) : Running Table := do
  match k with
  | some k =>
    let key ← w.evaluate scope k
    let v ← w.evaluate scope e
    return t.put (← keyOf w key) key v
  | none =>
    let entries ← entriesOf w ⟨[← w.evaluate scope e], []⟩
    return entries.foldl (fun t (m, k, v) => t.put m k v) t

/-- Values of which some are items of others. -/
def spread (w : Ways) (scope : Nat) (items : List Expr) : Running (List Value) := do
  let all ← items.mapM fun e => do
    match e with
    | .starred s => itemsOf w (← w.evaluate scope s)
    | e => return [← w.evaluate scope e]
  return all.flatten

/-- Comparisons one after the other, as far as they hold. -/
def comparisonChain (w : Ways) (scope : Nat) : Value → List (Comparison × Expr) → Running Value
  | v, [] => return v
  | v, [(c, e)] => do compared w c v (← w.evaluate scope e)
  | v, (c, e) :: rest => do
    let u ← w.evaluate scope e
    let r ← compared w c v u
    if ← isTrue w r then comparisonChain w scope u rest else return r

/-- A text from its pieces. -/
def joinedText (w : Ways) (scope : Nat) : Nat → List Piece → Running Text
  | 0, _ => return []
  | _, [] => return []
  | fuel + 1, p :: rest => do
    let t ← match p with
      | .text t => pure t
      | .value e conversion format => do
        let v ← w.evaluate scope e
        let f ← joinedText w scope fuel format
        match conversion with
        | some 'r' => do formatted w (.text (← reprOf w v)) f
        | some 'a' => do formatted w (.text (← reprOf w v)) f
        | some 's' => do formatted w (.text (← strOf w v)) f
        | _ => formatted w v f
    return t ++ (← joinedText w scope fuel rest)

/-- A call, with what depends on where it stands. -/
def evaluateCall (w : Ways) (scope : Nat) (f : Expr) (arguments : List Argument) : Running Value := do
  let general : Running Value := do
    let v ← w.evaluate scope f
    let g ← argumentsGiven w scope arguments
    match v with
    | .builtin name =>
      match ← localCall w scope name g with
      | some r => return r
      | none => w.call v g.plain g.named
    | .type "super" =>
      match ← localCall w scope "super" g with
      | some r => return r
      | none => w.call v g.plain g.named
    | v => w.call v g.plain g.named
  match f with
  | .member e name =>
    let self ← w.evaluate scope e
    let isPlain := match self with
      | .text _ => textMethods.contains name
      | _ => false
    if isPlain then
      let g ← argumentsGiven w scope arguments
      methodCall w name self g
    else
      let v ← w.member self name
      let g ← argumentsGiven w scope arguments
      w.call v g.plain g.named
  | _ => general

/-- One step of working out an expression. -/
def evaluateStep (w : Ways) (scope : Nat) (e : Expr) : Running Value := do
  match e with
  | .constant c =>
    match c with
    | .none => return .none
    | .bool b => return .bool b
    | .int n => return .int n
    | .float x => return .float x
    | .text t => return .text t
    | .bytes t => return .bytes t
    | .ellipsis => return .ellipsis
  | .name n => nameValue scope n
  | .member e n => w.member (← w.evaluate scope e) n
  | .subscript e i =>
    let v ← w.evaluate scope e
    itemAt w v (← w.evaluate scope i)
  | .slice a b c =>
    let part (e : Option Expr) : Running Value := do
      match e with
      | some e => w.evaluate scope e
      | none => return .none
    return .slice (← part a) (← part b) (← part c)
  | .call f arguments => evaluateCall w scope f arguments
  | .negative e => negative w (← w.evaluate scope e)
  | .positive e => positive w (← w.evaluate scope e)
  | .inverted e => inverted w (← w.evaluate scope e)
  | .negation e => return .bool (!(← isTrue w (← w.evaluate scope e)))
  | .operation operator a b =>
    let x ← w.evaluate scope a
    let y ← w.evaluate scope b
    match operator, x, y with
    | .bitOr, .type _, _ => union x y
    | .bitOr, _, .type _ => union x y
    | .divide, .object _, y =>
      if ← isOfType x "pathlib.PosixPath" then w.call (← w.member x "joinpath") [y] [] else operate w .divide "/" x y
    | .divide, .text _, .object _ =>
      if ← isOfType y "pathlib.PosixPath" then
        w.call (← w.member (← w.call (.type "pathlib.PosixPath") [x] []) "joinpath") [y] []
      else operate w .divide "/" x y
    | operator, x, y => operate w operator operator.sign x y
  | .comparison first rest => comparisonChain w scope (← w.evaluate scope first) rest
  | .both a b =>
    let x ← w.evaluate scope a
    if ← isTrue w x then w.evaluate scope b else return x
  | .either a b =>
    let x ← w.evaluate scope a
    if ← isTrue w x then return x else w.evaluate scope b
  | .choose condition a b =>
    if ← isTrue w (← w.evaluate scope condition) then w.evaluate scope a else w.evaluate scope b
  | .function ps body => defineFunction w scope "<lambda>" ps [.return (some body)] false
  | .tuple items => return .tuple (← spread w scope items)
  | .list items => makeList (← spread w scope items)
  | .set items => make (.set (← tableOfItems w (← spread w scope items)) false)
  | .dict entries => makeDict (← entries.foldlM (fun t (k, e) => putEntry w t scope k e) .empty)
  | .starred _ => fail "SyntaxError" "can't use starred expression here"
  | .listFor e clauses =>
    let r ← makeList []
    let n := match r with
      | .object n => n
      | _ => 0
    comprehension w scope clauses fun inner => do
      let v ← w.evaluate inner e
      modify fun m => { m with store := m.store.modify n fun
        | .list all => .list (all.push v)
        | x => x }
    return r
  | .setFor e clauses =>
    let r ← make (.set .empty false)
    let n := match r with
      | .object n => n
      | _ => 0
    comprehension w scope clauses fun inner => do
      let v ← w.evaluate inner e
      let mark ← keyOf w v
      modify fun m => { m with store := m.store.modify n fun
        | .set t frozen => .set (if t.has mark then t else t.put mark v .none) frozen
        | x => x }
    return r
  | .dictFor k e clauses =>
    let r ← makeDict .empty
    comprehension w scope clauses fun inner => do
      let key ← w.evaluate inner k
      setItem w r key (← w.evaluate inner e)
    return r
  | .generator e clauses =>
    match clauses with
    | .mk target source conditions :: rest =>
      let it ← iterator w (← w.evaluate scope source)
      let inner ← innerScope scope
      let body := generatorBody.guarded conditions (generatorBody e rest)
      make (.generator "<genexpr>" [.each (← get).line it target body []] inner false)
    | [] => return .none
  | .joined pieces => return .text (← joinedText w scope 10000 pieces)
  | .assigned n e =>
    let v ← w.evaluate scope e
    setName (← properScope scopeDepth scope) n v
    return v
  | .yield _ => fail "SyntaxError" "'yield' in an expression"
  | .yieldFrom _ => fail "SyntaxError" "'yield from' in an expression"
where
  /-- One of two types. -/
  union (x y : Value) : Running Value := do
    let members (v : Value) : Running (List Value) := do
      match ← fieldsOf? v with
      | some (.type "types.UnionType", fields, _) =>
        match fields.lookup "types" with
        | some (.tuple ts) => return ts
        | _ => return []
      | _ => return [v]
    make (.made (.type "types.UnionType") [("types", .tuple ((← members x) ++ (← members y)))] none)

end Equate.Shell.Dynamic
