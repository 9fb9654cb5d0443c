import Equate.Shell.Dynamic.Class
import Equate.Shell.Dynamic.Evaluation
import Equate.Shell.Dynamic.Selecting

/-!
# Running statements

What is left to be done stands in a list of tasks. A step takes the first one and puts others
in its place. A list is left for a reason: then each task says what has to be done before the
ones behind it are left as well, or that it ends there. A function that yields keeps its list
until it goes on.
-/
namespace Equate.Shell.Dynamic

/-!
## Entering and leaving

What is entered is left in any case, and may then swallow the exception for which it is
left.
-/

/-- The name of a type, and that it cannot be entered. -/
def notEntered {α : Type} (v : Value) (words : String) : Running α := do
  typeError ('\'' :: (← typeName v).toList ++ "' object does not support the context manager protocol" ++ words.toList)

/-- Something is entered; what stands for it. -/
def enter (w : Ways) (v : Value) : Running Value := do
  match ← special? v "__enter__" with
  | some f =>
    if (← special? v "__exit__").isNone then notEntered v " (missed __exit__ method)"
    w.call f [v] []
  | none =>
    match ← objectOf? v with
    | some (.file _) => return v
    | some (.buffer ..) => return v
    | some (.made type fields _) =>
      match type with
      | .type "contextlib.manager" => methodCall w "__enter__" v ⟨[], []⟩
      | .type "contextlib.suppress" => return v
      | .type "contextlib.nullcontext" => return (fields.lookup "value").getD .none
      | .type "contextlib.closing" => return (fields.lookup "value").getD .none
      | .type "contextlib.redirect" =>
        let name := match fields.lookup "name" with
          | some (.text t) => String.ofList t
          | _ => "sys.stdout"
        let before := (← changed? name).getD .none
        setMember w v "before" before
        modify fun s => { s with settings := setField name ((fields.lookup "value").getD .none) s.settings }
        return (fields.lookup "value").getD .none
      | .type "subprocess.Popen" => return v
      | .type "pathlib.PosixPath" => return v
      | _ => notEntered v ""
    | _ => notEntered v ""

/-- Something is left, with an exception or without one. It may swallow the exception. -/
def leave (w : Ways) (v : Value) (e : Option Value) : Running Bool := do
  match ← special? v "__exit__" with
  | some f =>
    let told ← match e with
      | some e => do pure [← typeOf e, e, Value.none]
      | none => pure [.none, .none, .none]
    isTrue w (← w.call f (v :: told) [])
  | none =>
    match v, ← objectOf? v with
    | .object n, some (.file f) =>
      let _ ← fileMethod w n "close" f ⟨[], []⟩
      return false
    | _, some (.made type fields _) =>
      match type with
      | .type "contextlib.manager" =>
        let told ← match e with
          | some e => do pure [← typeOf e, e, Value.none]
          | none => pure [.none, .none, .none]
        isTrue w (← methodCall w "__exit__" v ⟨told, []⟩)
      | .type "contextlib.suppress" =>
        match e, fields.lookup "types" with
        | some e, some types => isInstanceOf w 20 e types
        | _, _ => return false
      | .type "contextlib.closing" =>
        let _ ← w.call (← w.member ((fields.lookup "value").getD .none) "close") [] []
        return false
      | .type "contextlib.redirect" =>
        let name := match fields.lookup "name" with
          | some (.text t) => String.ofList t
          | _ => "sys.stdout"
        let before := (fields.lookup "before").getD .none
        modify fun s => { s with settings :=
          if before matches .none then s.settings.filter fun f => f.1 != name else setField name before s.settings }
        return false
      | .type "subprocess.Popen" =>
        let _ ← w.call (← w.member v "wait") [] []
        return false
      | _ => return false
    | _, _ => return false

/-! ## Steps -/

/-- How it goes on after a step. -/
inductive Progress where
  | go (tasks : List Task)
  | leave (l : Leaving) (rest : List Task)
  | yield (v : Value) (tasks : List Task)

/-- How running tasks has come to an end. -/
inductive Ending where
  | finished (l : Leaving)
  | yielded (v : Value) (tasks : List Task)

/-- How many functions can run at once. -/
def callLimit : Nat := 999

/-- Something runs as a function. -/
def inFunction {α : Type} (name : String) (x : Running α) : Running α := do
  let before ← position
  if callLimit ≤ before.depth then fail "RecursionError" "maximum recursion depth exceeded"
  modify fun m => { m with
    function := name
    callers := (m.function, m.line) :: m.callers
    depth := m.depth + 1 }
  let a ← x
  comeBack before
  return a

/-! ## Yielding inside of expressions -/

/-- The name for what is sent. -/
def sentName : String := ".sent"

mutual

/-- The first part of an expression that yields, and the expression with what is sent in its
place. -/
def hoist : Expr → Option (Expr × Expr)
  | .yield e => some (.yield e, .name sentName)
  | .yieldFrom e => some (.yieldFrom e, .name sentName)
  | .member e n => (hoist e).map fun (y, r) => (y, .member r n)
  | .subscript e i =>
    match hoist e with
    | some (y, r) => some (y, .subscript r i)
    | none => (hoist i).map fun (y, r) => (y, .subscript e r)
  | .call f arguments =>
    match hoist f with
    | some (y, r) => some (y, .call r arguments)
    | none => (hoistArguments arguments).map fun (y, r) => (y, .call f r)
  | .operation operator a b =>
    match hoist a with
    | some (y, r) => some (y, .operation operator r b)
    | none => (hoist b).map fun (y, r) => (y, .operation operator a r)
  | .assigned n e => (hoist e).map fun (y, r) => (y, .assigned n r)
  | .tuple items => (hoistAll items).map fun (y, r) => (y, .tuple r)
  | .list items => (hoistAll items).map fun (y, r) => (y, .list r)
  | .starred e => (hoist e).map fun (y, r) => (y, .starred r)
  | _ => none

/-- The first of some expressions that yields. -/
def hoistAll : List Expr → Option (Expr × List Expr)
  | [] => none
  | e :: rest =>
    match hoist e with
    | some (y, r) => some (y, r :: rest)
    | none => (hoistAll rest).map fun (y, r) => (y, e :: r)

/-- The first of some arguments that yields. -/
def hoistArguments : List Argument → Option (Expr × List Argument)
  | [] => none
  | a :: rest =>
    let here := match a with
      | .plain e => (hoist e).map fun (y, r) => (y, Argument.plain r)
      | .named n e => (hoist e).map fun (y, r) => (y, Argument.named n r)
      | .all e => (hoist e).map fun (y, r) => (y, Argument.all r)
      | .allNamed e => (hoist e).map fun (y, r) => (y, Argument.allNamed r)
    match here with
    | some (y, r) => some (y, r :: rest)
    | none => (hoistArguments rest).map fun (y, r) => (y, a :: r)

end

/-! ## Modules -/

/-- The directories in which modules are looked for. -/
def modulePath : Running (List Text) := do
  match ← changed? "sys.path" with
  | some v =>
    match ← objectOf? v with
    | some (.list items) => return items.toList.filterMap fun v => match v with
        | .text t => some t
        | _ => none
    | _ => return []
  | none => return []

/-- A module of a script, by its whole name. -/
def loadOne (w : Ways) (name : String) : Running Value := do
  if moduleNames.contains name then return .module name
  else
    match (← get).modules.lookup name with
    | some v => return v
    | none =>
      let all ← (files : Act Files)
      let place := name.toList.map fun c => if c = '.' then '/' else c
      let found := (← modulePath).findSome? fun directory =>
        let base := if directory = [] then place else directory ++ '/' :: place
        [base ++ ".py", base ++ "/__init__.py"].findSome? fun path =>
          match all.read path with
          | .ok content => some (path, content)
          | .error _ => none
      match found with
      | none =>
        raise (← exception "ModuleNotFoundError" [.text ("No module named '" ++ name.toList ++ ['\''])]
          [("name", .text name.toList), ("path", .none)])
      | some (path, content) =>
        match checkedStatements (decode (ofBytes content)) with
        | .error m => syntaxError m path
        | .ok statements =>
          let n := (← get).store.size
          let v ← make (.scope ⟨Std.ExtTreeMap.empty, [], none, false, false, [], [], []⟩)
          putName n "__name__" (.text name.toList)
          putName n "__file__" (.text path)
          modify fun m => { m with modules := (name, v) :: m.modules }
          inFunction "<module>" (w.execute n statements)
          return v

/-- A module of a script, with the ones that it stands in; the first and the last of them. -/
def loadModules (w : Ways) (before : Option (String × Value)) : List String → Running (Option (Value × Value))
  | [] => return none
  | n :: rest => do
    let full := match before with
      | some (name, _) => name ++ "." ++ n
      | none => n
    let m ← loadOne w full
    match before with
    | some (_, .object outer) =>
      match ← objectAt? outer with
      | some (.scope _) => putName outer n m
      | _ => pure ()
    | _ => pure ()
    match ← loadModules w (some (full, m)) rest with
    | some (_, last) => return some (m, last)
    | none => return some (m, m)

/-- A module of a script. -/
def loadModule (w : Ways) (name : String) : Running Value := do
  return ((← loadModules w none (name.splitOn ".")).map Prod.snd).getD .none

/-- What a module gives away under a name. -/
def importedName (w : Ways) (m : Value) (path name : String) : Running Value := do
  match ← member? w m name with
  | some v => return v
  | none =>
    let inner := path ++ "." ++ name
    let found ← match m with
      | .module _ => pure (if moduleNames.contains inner then some (Value.module inner) else none)
      | _ => catching ["ModuleNotFoundError"] (some <$> loadModule w inner) fun _ => return none
    match found with
    | some v => return v
    | none =>
      let place : Text := match m with
        | .module _ => "unknown location".toList
        | _ => path.toList
      raise (← exception "ImportError" [.text ("cannot import name '" ++ name.toList ++ "' from '" ++ path.toList ++
        "' (" ++ place ++ [')'])] [("name", .text path.toList)])

/-- All that a module gives away. -/
def importedNames (w : Ways) (m : Value) (path : String) : Running (List (String × Value)) := do
  match m with
  | .module _ =>
    let names := match path with
      | "math" => mathFunctions ++ ["pi", "e", "tau", "inf", "nan"]
      | "os.path" => pathFunctions
      | "itertools" => iteratorFunctions
      | "functools" => functionFunctions
      | "random" => randomFunctions
      | "time" => clockFunctions
      | "operator" => operatorNames
      | "statistics" => statisticsFunctions
      | "json" => ["loads", "load", "dumps", "dump"]
      | "collections" => ["defaultdict", "OrderedDict", "Counter", "deque", "namedtuple", "ChainMap"]
      | "dataclasses" => ["dataclass", "field", "asdict", "astuple", "replace", "fields", "is_dataclass"]
      | "typing" => ["Any", "Callable", "Dict", "Iterable", "Iterator", "List", "NamedTuple", "Optional", "Set", "Tuple", "Union"]
      | _ => []
    names.mapM fun n => do return (n, ← importedName w m path n)
  | .object n =>
    let all ← scopeNames n
    match all.lookup "__all__" with
    | some v =>
      let names := (← itemsOf w v).filterMap fun v => match v with
        | .text t => some (String.ofList t)
        | _ => none
      names.mapM fun n => do return (n, ← importedName w m path n)
    | none => return all.filter fun f => !"_".isPrefixOf f.1
  | _ => return []

/-! ## Parts of statements -/

/-- What a target stands for is taken away. -/
def deleteTarget (w : Ways) (scope : Nat) : Nat → Expr → Running Unit
  | 0, _ => return
  | fuel + 1, e => do
    match e with
    | .name n => dropName scope n
    | .member e n => deleteMember (← w.evaluate scope e) n
    | .subscript e i =>
      let v ← w.evaluate scope e
      deleteItem w v (← w.evaluate scope i)
    | .tuple items => items.forM (deleteTarget w scope fuel)
    | .list items => items.forM (deleteTarget w scope fuel)
    | _ => return

/-- What a target stands for is changed. -/
def changeTarget (w : Ways) (scope : Nat) (operator : Operator) (target e : Expr) : Running Unit := do
  match target with
  | .name n =>
    let v ← nameValue scope n
    setName scope n (← change w operator v (← w.evaluate scope e))
  | .member o n =>
    let self ← w.evaluate scope o
    let v ← w.member self n
    setMember w self n (← change w operator v (← w.evaluate scope e))
  | .subscript c i =>
    let container ← w.evaluate scope c
    let index ← w.evaluate scope i
    let v ← itemAt w container index
    setItem w container index (← change w operator v (← w.evaluate scope e))
  | _ => fail "SyntaxError" "illegal expression for augmented assignment"

/-- The exception that a value stands for in a statement that raises it. -/
def exceptionFrom (w : Ways) (v : Value) : Running Value := do
  let isType ← match v with
    | .type _ => pure true
    | v => do pure (← kindOf? v).isSome
  let e ← if isType && (← isBelow v (.type "BaseException")) then w.call v [] [] else pure v
  if ← isOfType e "BaseException" then return e
  else typeError "exceptions must derive from BaseException"

/-- Where an exception came through before it was caught. -/
def traceOf (e : Value) : Running (List (String × Nat)) := do
  match ← fieldsOf? e with
  | some (_, fields, _) => return notedTrace fields
  | none => return []

/-- Raises an exception again, from where it came. -/
def raiseAgain {α : Type} (e : Value) : Running α := do
  noteContext e
  throw (.raised e ((← traceOf e) ++ (← trace)))

/-- A statement that raises. -/
def raiseStatement (w : Ways) (scope : Nat) (e cause : Option Expr) : Running Progress := do
  match e with
  | none =>
    match (← get).handled with
    | (e, t) :: _ => throw (.raised e (t ++ (← get).callers))
    | [] => fail "RuntimeError" "No active exception to reraise"
  | some e =>
    let e ← exceptionFrom w (← w.evaluate scope e)
    match cause, e with
    | some c, .object n =>
      let c ← match ← w.evaluate scope c with
        | .none => pure Value.none
        | v => exceptionFrom w v
      modify fun m => { m with store := m.store.modify n fun
        | .made type fields core => .made type (setField "__cause__" c fields) core
        | x => x }
    | _, _ => pure ()
    raiseAgain e

/-- The annotation of a name is kept in a class. -/
def annotate (w : Ways) (scope : Nat) (target type : Expr) : Running Unit := do
  match target, ← scopeAt? scope with
  | .name n, some s =>
    if s.isClass then
      let v ← match ← attempt (w.evaluate scope type) with
        | .ok v => pure v
        | .error _ => pure .none
      let table ← match s.named["__annotations__"]? with
        | some t => pure t
        | none => do
          let t ← makeDict .empty
          putName scope "__annotations__" t
          pure t
      setItem w table (.text n.toList) v
  | _, _ => return

/-- A class from its statement. -/
def defineClass (w : Ways) (scope : Nat) (name : String) (arguments : List Argument) (body : List Statement) :
    Running Value := do
  let g ← argumentsGiven w scope arguments
  let around ← innerScope scope
  let own := (← get).store.size
  let globals := allTakenNames true body
  let _ ← make (.scope ⟨Std.ExtTreeMap.empty, [], some around, true, false, [], globals, allTakenNames false body⟩)
  inFunction name (w.execute own body)
  let fields ← scopeNames own
  let fields := match documentation body with
    | .none => fields
    | t => ("__doc__", t) :: fields
  makeClass w name g.plain fields g.named (some own) (some around)

/-- What is defined, behind its decorators. -/
def decorated (w : Ways) (scope : Nat) (decorators : List Expr) (make : Running Value) : Running Value := do
  let fs ← decorators.mapM (w.evaluate scope)
  fs.foldrM (fun f v => w.call f [v] []) (← make)

/-- The case of a selection that fits. -/
def selected (w : Ways) (scope : Nat) (v : Value) :
    List (Pattern × Option Expr × List Statement) → Running (List Statement)
  | [] => return []
  | (p, condition, body) :: rest => do
    match ← patternMatch w scope patternDepth p v with
    | none => selected w scope v rest
    | some found =>
      found.forM fun (n, x) => setName scope n x
      let holds ← match condition with
        | some c => do isTrue w (← w.evaluate scope c)
        | none => pure true
      if holds then return body else selected w scope v rest

/-! ## Statements -/

/-- What comes after statements, unless there are none. -/
def andThen (statements : List Statement) (rest : List Task) : List Task :=
  if statements.isEmpty then rest else .block statements :: rest

/-- An expression that yields, and what is done with what is sent. -/
def yielding (w : Ways) (scope : Nat) (e : Expr) (targets : List Expr) (rest : List Task) : Running Progress := do
  match e with
  | .yield none => return .yield .none (.receive targets :: rest)
  | .yield (some e) => return .yield (← w.evaluate scope e) (.receive targets :: rest)
  | .yieldFrom e => return .go (.forward (← iterator w (← w.evaluate scope e)) targets :: rest)
  | e =>
    targets.forM fun t => do assignTo w scope targetDepth t (← w.evaluate scope e)
    return .go rest

/-- A function that yields is closed behind the loop that it has been called for. -/
def closingBehind (before : Nat) (it : Value) : Running (List Task) := do
  match it, ← objectOf? it with
  | .object n, some (.generator ..) =>
    if before ≤ n then return [.leave (← make (.made (.type "contextlib.closing") [("value", it)] none))] else return []
  | _, _ => return []

/-- A statement in which something yields, with the rest of it behind. -/
def hoisted (w : Ways) (scope : Nat) (e : Expr) (make : Expr → Statement) (rest : List Task) : Running Progress := do
  match hoist e with
  | some (y, r) => yielding w scope y [.name sentName] (.block [make r] :: rest)
  | none => fail "SyntaxError" "'yield' in an expression"

/-- One statement, which has no line of its own. -/
def statementStep (w : Ways) (scope : Nat) (rest : List Task) (s : Statement) : Running Progress := do
  match s with
  | .line _ s => return .go (.block [s] :: rest)
  | .value e =>
    match e with
    | .yield _ => yielding w scope e [] rest
    | .yieldFrom _ => yielding w scope e [] rest
    | e =>
      if exprYields e then hoisted w scope e .value rest
      else
        let _ ← w.evaluate scope e
        return .go rest
  | .assign targets e =>
    match e with
    | .yield _ => yielding w scope e targets rest
    | .yieldFrom _ => yielding w scope e targets rest
    | e =>
      if exprYields e then hoisted w scope e (.assign targets) rest
      else
        let v ← w.evaluate scope e
        targets.forM fun t => assignTo w scope targetDepth t v
        return .go rest
  | .change operator target e =>
    if exprYields e then hoisted w scope e (.change operator target) rest
    else
      changeTarget w scope operator target e
      return .go rest
  | .annotate target type e =>
    match e with
    | some e => assignTo w scope targetDepth target (← w.evaluate scope e)
    | none => pure ()
    annotate w scope target type
    return .go rest
  | .return e =>
    match e with
    | none => return .leave (.returned .none) rest
    | some e =>
      if exprYields e then hoisted w scope e (fun r => .return (some r)) rest
      else return .leave (.returned (← w.evaluate scope e)) rest
  | .delete targets =>
    targets.forM (deleteTarget w scope targetDepth)
    return .go rest
  | .pass => return .go rest
  | .leave => return .leave .broken rest
  | .continue => return .leave .continued rest
  | .global _ => return .go rest
  | .outer _ => return .go rest
  | .importModule path name =>
    match ← loadModules w none path, name with
    | some (_, last), some n => setName scope n last
    | some (first, _), none => setName scope (path.headD "") first
    | none, _ => pure ()
    return .go rest
  | .importNames path names everything =>
    let full := ".".intercalate path
    if full != "__future__" then
      let m ← loadModule w full
      if everything then (← importedNames w m full).forM fun (n, v) => setName scope n v
      else names.forM fun (n, own) => do setName scope own (← importedName w m full n)
    return .go rest
  | .raise e cause => raiseStatement w scope e cause
  | .assert e message =>
    if ← isTrue w (← w.evaluate scope e) then return .go rest
    else
      let words ← match message with
        | some m => do pure [← w.evaluate scope m]
        | none => pure []
      raise (← exception "AssertionError" words [])
  | .choose condition body otherwise =>
    if ← isTrue w (← w.evaluate scope condition) then return .go (.block body :: rest)
    else return .go (andThen otherwise rest)
  | .loop condition body otherwise => return .go (.loop (← get).line condition body otherwise :: rest)
  | .each target source body otherwise =>
    let before := (← get).store.size
    let it ← iterator w (← w.evaluate scope source)
    return .go (.each (← get).line it target body otherwise :: (← closingBehind before it) ++ rest)
  | .attempt body handlers otherwise always =>
    return .go (.block body :: .guarded handlers otherwise always :: rest)
  | .with items body =>
    match items with
    | [] => return .go (.block body :: rest)
    | (e, target) :: more =>
      let manager ← w.evaluate scope e
      let v ← enter w manager
      match target with
      | some t => assignTo w scope targetDepth t v
      | none => pure ()
      return .go (.block (if more.isEmpty then body else [.with more body]) :: .leave manager :: rest)
  | .define name ps body decorators =>
    setName scope name (← decorated w scope decorators (defineFunction w scope name ps body (anyYield body)))
    return .go rest
  | .defineClass name arguments body decorators =>
    setName scope name (← decorated w scope decorators (defineClass w scope name arguments body))
    return .go rest
  | .select subject cases =>
    return .go (andThen (← selected w scope (← w.evaluate scope subject) cases) rest)

/-! ## Tasks -/

/-- The line in which the script is. -/
def setLine (n : Nat) : Running Unit := modify fun m => { m with line := n }

/-- The exception that was handled last is done with. -/
def endHandling (scope : Nat) (name : Option String) : Running Unit := do
  modify fun m => { m with handled := m.handled.tail }
  match name with
  | some n =>
    let _ ← attempt (dropName scope n)
  | none => return

/-- One step in front of the other tasks. -/
def taskStep (w : Ways) (scope : Nat) (t : Task) (rest : List Task) : Running Progress := do
  match t with
  | .block [] => return .go rest
  | .block (s :: more) =>
    let rest := andThen more rest
    match s with
    | .line n s =>
      setLine n
      statementStep w scope rest s
    | s => statementStep w scope rest s
  | .each line it target body otherwise =>
    setLine line
    match ← w.next it with
    | none => return .go (andThen otherwise rest)
    | some v =>
      assignTo w scope targetDepth target v
      return .go (.block body :: .each line it target body otherwise :: rest)
  | .loop line condition body otherwise =>
    setLine line
    if ← isTrue w (← w.evaluate scope condition) then
      return .go (.block body :: .loop line condition body otherwise :: rest)
    else return .go (andThen otherwise rest)
  | .guarded _ otherwise always =>
    return .go (andThen otherwise (if always.isEmpty then rest else .always always :: rest))
  | .always statements => return .go (.block statements :: rest)
  | .handling name =>
    endHandling scope name
    return .go rest
  | .resumed l => return .leave l rest
  | .leave manager =>
    let _ ← leave w manager none
    return .go rest
  | .receive targets =>
    targets.forM fun t => assignTo w scope targetDepth t .none
    return .go rest
  | .forward it targets =>
    match ← w.next it with
    | some v => return .yield v (.forward it targets :: rest)
    | none =>
      let m ← get
      let answer := match ← objectOf? it with
        | some (.generator ..) => m.answer
        | _ => .none
      targets.forM fun t => assignTo w scope targetDepth t answer
      return .go rest

/-- An exception is being handled from here on. -/
def beginHandling (e : Value) (t : List (String × Nat)) : Running Unit := do
  let m ← get
  let own := t.take (t.length - m.callers.length)
  let noted := Value.tuple (own.map fun (f, n) => .tuple [.text f.toList, .int n])
  match e with
  | .object n =>
    modify fun m => { m with store := m.store.modify n fun
      | .made type fields core => .made type (setField ".trace" noted fields) core
      | x => x }
  | _ => pure ()
  modify fun m => { m with handled := (e, own) :: m.handled }

/-- The handler for an exception. -/
def handlerFor (w : Ways) (scope : Nat) (e : Value) : List Handler → Running (Option (Option String × List Statement))
  | [] => return none
  | .mk type name body :: rest => do
    let fits ← match type with
      | none => pure true
      | some t => do
        let wanted ← w.evaluate scope t
        let own ← typeOf e
        match wanted with
        | .tuple types => types.anyM (isBelow own)
        | wanted => isBelow own wanted
    if fits then return some (name, body) else handlerFor w scope e rest

/-- Statements that always run, before something is left. -/
def beforeLeaving (statements : List Statement) (l : Leaving) (rest : List Task) : Running Progress := do
  match l with
  | .raised e t =>
    beginHandling e t
    return .go (.block statements :: .handling none :: .resumed l :: rest)
  | l => return .go (.block statements :: .resumed l :: rest)

/-- What a task does when it is left. -/
def leaveStep (w : Ways) (scope : Nat) (l : Leaving) (t : Task) (rest : List Task) : Running Progress := do
  let further : Running Progress := return .leave l rest
  match t with
  | .each .. =>
    match l with
    | .broken => return .go rest
    | .continued => return .go (t :: rest)
    | _ => further
  | .loop .. =>
    match l with
    | .broken => return .go rest
    | .continued => return .go (t :: rest)
    | _ => further
  | .guarded handlers _ always =>
    let behind := if always.isEmpty then rest else .always always :: rest
    match l with
    | .raised e t =>
      match ← handlerFor w scope e handlers with
      | some (name, body) =>
        beginHandling e t
        match name with
        | some n => setName scope n e
        | none => pure ()
        return .go (.block body :: .handling name :: behind)
      | none => if always.isEmpty then further else beforeLeaving always l rest
    | _ => if always.isEmpty then further else beforeLeaving always l rest
  | .always statements => beforeLeaving statements l rest
  | .handling name =>
    endHandling scope name
    further
  | .leave manager =>
    match l with
    | .raised e t =>
      beginHandling e t
      let swallowed ← leave w manager (some e)
      modify fun m => { m with handled := m.handled.tail }
      if swallowed then return .go rest else further
    | _ =>
      let _ ← leave w manager none
      further
  | _ => further

/-- A step is done. A script that takes too many of them is stopped. -/
def countStep : Running Unit := do
  let m ← get
  if m.steps = 0 then
    let p ← (process : Act Process)
    (throw (if p.deadline.isSome then .expired else .killed 9) : Act Unit)
  else set { m with steps := m.steps - 1 }

/-- Tasks run, after the first ones have been left if there is a reason. -/
def runTasks (w : Ways) (scope : Nat) : Nat → Option Leaving → List Task → Running Ending
  | 0, _, _ => return .finished (.returned .none)
  | _, none, [] => return .finished (.returned .none)
  | _, some l, [] => return .finished l
  | fuel + 1, l, t :: rest => do
    countStep
    let before ← position
    let step : Running Progress := match l with
      | none => taskStep w scope t rest
      | some l => leaveStep w scope l t rest
    match ← attempt step with
    | .ok (.go tasks) => runTasks w scope fuel none tasks
    | .ok (.leave l tasks) => runTasks w scope fuel (some l) tasks
    | .ok (.yield v tasks) => return .yielded v tasks
    | .error (.raised e t) =>
      comeBack before
      runTasks w scope fuel (some (.raised e t)) rest
    | .error s => throw s

/-! ## Calls -/

/-- Statements run with the names of a scope. -/
def executeIn (w : Ways) (scope : Nat) (statements : List Statement) : Running Unit := do
  match ← runTasks w scope turnLimit none [.block statements] with
  | .finished (.raised e t) => throw (.raised e t)
  | _ => return

/-- A scope that nothing can know any more is given back. -/
def giveBack (scope : Nat) : Running Unit :=
  modify fun m => if m.store.size = scope + 1 then { m with store := m.store.pop } else m

/-- A function of a script is called. -/
def invoke (w : Ways) (d : Definition) (g : Given) : Running Value := do
  let bound ← bindArguments w d g.plain g.named
  let named := bound.foldl (fun (vs : Std.ExtTreeMap String Value compare) (n, v) => vs.insert n v) Std.ExtTreeMap.empty
  let scope := (← get).store.size
  let _ ← make (.scope ⟨named, [], some d.scope, false, true, d.locals, d.globals, d.outers⟩)
  if d.yields then make (.generator d.name [.block d.body] scope false)
  else
    let outcome ← inFunction d.name (do
      match ← runTasks w scope turnLimit none [.block d.body] with
      | .finished (.raised e t) => throw (.raised e t)
      | .finished (.returned v) => return v
      | _ => return .none)
    giveBack scope
    return outcome

/-- A function that yields goes on. -/
def resumeStep (w : Ways) (n : Nat) (raised : Bool) (v : Value) : Running (Option Value) := do
  match ← objectAt? n with
  | some (.generator name tasks scope running) =>
    if running then valueError "generator already executing"
    let set (tasks : List Task) (running : Bool) : Running Unit := setObject n (.generator name tasks scope running)
    if tasks.isEmpty then
      if raised then raiseAgain v
      else
        modify fun m => { m with answer := .none }
        return none
    else
      set [] true
      let run : Running Ending := do
        match tasks, raised with
        | .receive targets :: rest, false =>
          targets.forM fun t => assignTo w scope targetDepth t v
          runTasks w scope turnLimit none rest
        | .forward (.object k) targets :: rest, _ =>
          match ← objectAt? k with
          | some (.generator ..) =>
            match ← attempt (w.resume k raised v) with
            | .ok (some x) => return .yielded x tasks
            | .ok none =>
              let answer := (← get).answer
              targets.forM fun t => assignTo w scope targetDepth t answer
              runTasks w scope turnLimit none rest
            | .error (.raised e t) => runTasks w scope turnLimit (some (.raised e t)) rest
            | .error s => throw s
          | _ =>
            if raised then runTasks w scope turnLimit (some (.raised v (← trace))) rest
            else runTasks w scope turnLimit none tasks
        | tasks, false => runTasks w scope turnLimit none tasks
        | tasks, true => runTasks w scope turnLimit (some (.raised v ((← traceOf v) ++ (← trace)))) tasks
      match ← attempt (inFunction name run) with
      | .ok (.yielded v tasks) =>
        set tasks false
        return some v
      | .ok (.finished (.raised e t)) =>
        set [] false
        if ← isOfType e "StopIteration" then
          let outer ← exception "RuntimeError" [.text "generator raised StopIteration"] [("__cause__", e)]
          throw (.raised outer t)
        else throw (.raised e t)
      | .ok (.finished l) =>
        set [] false
        modify fun m => { m with answer := match l with
          | .returned v => v
          | _ => .none }
        return none
      | .error s =>
        set [] false
        throw s
  | _ => return none

/-- The next value of an iterator. -/
def nextStep (w : Ways) (it : Value) : Running (Option Value) := do
  let refused : Running (Option Value) := do
    typeError ('\'' :: (← typeName it).toList ++ "' object is not an iterator")
  match it with
  | .object n =>
    match ← objectAt? n with
    | some (.iterator s) => nextOf w n s
    | some (.generator ..) => w.resume n false .none
    | some (.file f) => nextLine n f
    | some (.buffer content position binary) =>
      match ← bufferMethod w n "readline" content position binary ⟨[], []⟩ with
      | .text [] => return none
      | .bytes [] => return none
      | v => return some v
    | some (.made ..) =>
      match ← special? it "__next__" with
      | some f => catching ["StopIteration"] (some <$> w.call f [it] []) fun _ => return none
      | none => refused
    | _ => refused
  | _ => refused

/-- A function that remembers what it has returned is called. -/
def rememberedCall (w : Ways) (n : Nat) (fields : List (String × Value)) (g : Given) : Running Value := do
  let named := g.named.map fun (k, v) => Value.tuple [.text k.toList, v]
  let key := Value.tuple [.tuple g.plain, .tuple named]
  let count (name : String) : Running Unit :=
    modify fun m => { m with store := m.store.modify n fun
      | .made type fields core =>
        let before := match fields.lookup name with
          | some (.int k) => k
          | _ => 0
        .made type (setField name (.int (before + 1)) fields) core
      | x => x }
  match fields.lookup ".cache" with
  | some (.object k) =>
    let mark ← keyOf w key
    let known := match ← objectAt? k with
      | some (.dict t _ _) => t.value? mark
      | _ => none
    match known with
    | some v =>
      count ".hits"
      return v
    | none =>
      count ".misses"
      let v ← w.call ((fields.lookup "__wrapped__").getD .none) g.plain g.named
      let most := match fields.lookup "maxsize" with
        | some (.int m) => some m.toNat
        | _ => none
      modify fun m => { m with store := m.store.modify k fun
        | .dict t kind f =>
          let t := match most, t.marks with
            | some m, oldest :: _ => if m ≤ t.size then t.drop oldest else t
            | _, _ => t
          .dict (t.put mark key v) kind f
        | x => x }
      return v
  | _ => return .none

/-- Something is called. -/
def callStep (w : Ways) (f : Value) (plain : List Value) (named : List (String × Value)) : Running Value := do
  let g : Given := ⟨plain, named⟩
  let refused : Running Value := do typeError ('\'' :: (← typeName f).toList ++ "' object is not callable")
  let nameOf (v : Value) : Running String := do
    match v with
    | .text t => return String.ofList t
    | _ => typeError "attribute name must be string"
  match f with
  | .builtin name =>
    match name, plain with
    | "setattr", [self, n, x] =>
      setMember w self (← nameOf n) x
      return .none
    | "delattr", [self, n] =>
      deleteMember self (← nameOf n)
      return .none
    | "__import__", n :: _ => loadModule w (← nameOf n)
    | "importlib.import_module", n :: _ => loadModule w (← nameOf n)
    | name, _ => functionCallOf w name g
  | .bound name self => methodCall w name self g
  | .method f self => w.call f (self :: plain) named
  | .type name =>
    match name, plain with
    | "type", [.text t, .tuple bases, fields] =>
      let entries ← entriesOf w ⟨[fields], []⟩
      makeClass w (String.ofList t) bases (entries.filterMap fun (_, k, v) => match k with
        | .text k => some (String.ofList k, v)
        | _ => none) named none none
    | name, _ => makeOfType w name g
  | .object n =>
    match ← objectAt? n with
    | some (.function d) => invoke w d g
    | some (.kind _) => instantiate w f g
    | some (.prepared inner before known) =>
      w.call inner (before ++ plain) (known.filter (fun k => (named.lookup k.1).isNone) ++ named)
    | some (.wrapped _ inner) => w.call inner plain named
    | some (.made (.type "functools._lru_cache_wrapper") fields _) => rememberedCall w n fields g
    | some (.made ..) =>
      match ← special? f "__call__" with
      | some inner => w.call inner (f :: plain) named
      | none => refused
    | _ => refused
  | _ => refused

/-! ## The ways -/

/-- How deep calls and expressions can stand in each other. -/
def wayLimit : Nat := 1000000

/-- The ways to do things, so deep. -/
def ways (run : Command → Act Unit) (path : Text) (lines : Array Text) : Nat → Ways
  | 0 =>
    let deep {α : Type} : Running α := fail "RecursionError" "maximum recursion depth exceeded"
    { run, path, lines
      call := fun _ _ _ => deep
      next := fun _ => deep
      evaluate := fun _ _ => deep
      member := fun _ _ => deep
      execute := fun _ _ => deep
      resume := fun _ _ _ => deep }
  | n + 1 =>
    { run, path, lines
      call := fun f plain named => callStep (ways run path lines n) f plain named
      next := fun it => nextStep (ways run path lines n) it
      evaluate := fun scope e => evaluateStep (ways run path lines n) scope e
      member := fun v name => memberOf (ways run path lines n) v name
      execute := fun scope statements => executeIn (ways run path lines n) scope statements
      resume := fun k raised v => resumeStep (ways run path lines n) k raised v }

end Equate.Shell.Dynamic
