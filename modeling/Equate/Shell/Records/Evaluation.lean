import Equate.Shell.Records.Machine
import Equate.Shell.Utility.Calendar

/-!
# Running programs for records

One step works out an expression or runs a statement by the ways to do so with what stands
inside it; how deep that goes is bounded. Tables are handed over as they are, other values
by what they are.
-/
namespace Equate.Shell.Records

/-- How often a loop can run. -/
def turnLimit : Nat := 20000000

/-! ## Numbers -/

/-- The exact value of a number that is finite, as a quotient. -/
def quotientOf (x : Float) : Nat × Nat :=
  let (m, q) := Number.magnitude (Number.magnitudeCode x)
  if 0 ≤ q then (m * Nat.pow 2 q.toNat, 1) else (m, Nat.pow 2 (-q).toNat)

/-- What is left of a division. It has the sign of the first number. -/
def remainder (x y : Float) : Float :=
  let infinite (z : Float) : Bool := Number.infinityCode ≤ Number.magnitudeCode z
  if infinite x || y == 0 || y != y then (x - x) / 0
  else if infinite y then x
  else
    let (a, b) := quotientOf x
    let (c, d) := quotientOf y
    Number.withSign (Number.isNegative x) (Number.nearest ((a * d) % (c * b)) (b * d))

/-- A number without what stands behind its point. -/
def whole (x : Float) : Float := if x < 0 then x.ceil else x.floor

/-- Two numbers by an operator that makes a number of them. -/
def arithmetic (operator : Operator) (x y : Float) : Float :=
  match operator with
  | .add => x + y
  | .subtract => x - y
  | .multiply => x * y
  | .divide => x / y
  | .remainder => remainder x y
  | _ => Float.pow x y

/-- Two values by an operator. -/
def operate (format : Octets) (operator : Operator) (a b : Datum) : Datum :=
  let compare (numbers : Float → Float → Bool) (texts : Ordering → Bool) : Datum :=
    .ofBool (Datum.compared format a b numbers texts)
  match operator with
  | .join => .text (a.toText format ++ b.toText format)
  | .less => compare (fun x y => x < y) fun o => o == .lt
  | .lessOrEqual => compare (fun x y => x ≤ y) fun o => o != .gt
  | .equal => compare (fun x y => x == y) fun o => o == .eq
  | .different => compare (fun x y => x != y) fun o => o != .eq
  | .greater => compare (fun x y => y < x) fun o => o == .gt
  | .greaterOrEqual => compare (fun x y => y ≤ x) fun o => o != .lt
  | operator => .number (arithmetic operator a.toNumber b.toNumber)

/-! ## Fields -/

/-- A field by its number. -/
def getField (o : Setting) (x : Float) : Working Datum := do
  match printedInteger x with
  | .ofNat 0 => return .input (← get).record
  | .ofNat n => return ((← fields o)[n - 1]?).getD .unset
  | .negSucc n => fatalHere o (lit "negative field index $-" ++ Text.decimal (n + 1))

/-- A field is set. -/
def setField (o : Setting) (x : Float) (d : Datum) : Working Unit := do
  match printedInteger x with
  | .ofNat 0 => setRecord (d.toText (← converting))
  | .ofNat n =>
    let all ← fields o
    let all := if all.size < n then resized n all else all
    setFields (all.setIfInBounds (n - 1) d)
  | .negSucc n => fatalHere o (lit "negative field index $-" ++ Text.decimal (n + 1))

/-! ## Variables -/

/-- The number of the fields is known by this name. -/
def isFieldCount : Name → Bool
  | .whole ['N', 'F'] => true
  | _ => false

/-- The value of a variable. -/
def valueOf (o : Setting) (v : Name) : Working Datum := do
  if isFieldCount v then return .number (Float.ofNat (← fields o).size)
  else
    match ← slot v with
    | .value d => return d
    | .unused _ => return .unset
    | .table _ => fatal o (lit "line 1: illegal reference to array")

/-- A variable gets a value. -/
def setValue (o : Setting) (v : Name) (d : Datum) : Working Unit := do
  if isFieldCount v then setFields (resized (printedInteger d.toNumber).toNat (← fields o))
  else setSlot v (.value d)

/-- The key for subscripts. -/
def keyOf (ds : List Datum) : Working Table.Key := do
  match ds with
  | [.number x] =>
    if isWhole x && -9223372036854775808.0 ≤ x && x < 9223372036854775808.0 then
      return .number (printedInteger x)
    else return .text (numberText (← converting) x)
  | ds =>
    let format ← converting
    let separator ← textOf "SUBSEP"
    return .text (Text.joinWith separator (ds.map fun d => d.toText format))

/-! ## Functions -/

/-- A part of a text by the number of its first character and its length. -/
def part (t : Octets) (first : Float) (length : Option Float) : Octets :=
  let first := printedInteger (whole first)
  match length with
  | none => t.drop (first - 1).toNat
  | some n =>
    let count := printedInteger (whole n)
    let count := if first ≤ 0 then count - first else count
    (t.drop (first - 1).toNat).take count.toNat

/-- The place of a text in another one, from one on. -/
def placeIn (t wanted : Octets) : Nat :=
  if wanted = [] then (if t = [] then 0 else 1)
  else
    let rec go (n : Nat) : Octets → Nat
      | [] => 0
      | c :: rest => if wanted.isPrefixOf (c :: rest) then n else go (n + 1) rest
    go 1 t

/-- What stands in the place of a match: an ampersand is the match itself. -/
def filled (found : Octets) : Octets → Octets
  | [] => []
  | '\\' :: '\\' :: '&' :: rest => '\\' :: found ++ filled found rest
  | '\\' :: '&' :: rest => '&' :: filled found rest
  | '&' :: rest => found ++ filled found rest
  | c :: rest => c :: filled found rest

/-- A text with something else in the place of matches, and how many there were. -/
def replaced (e : Match) (all : Bool) (replacement t : Octets) : Octets × Nat :=
  let s := searched t
  let found := e.findAll s true
  let found := if all then found else found.take 1
  let (pieces, last) := found.foldl (fun ((pieces, i) : List Octets × Nat) f =>
    (filled (s.slice f.first f.last) replacement :: s.slice i f.first :: pieces, f.last)) ([], 0)
  ((s.slice last s.text.size :: pieces).reverse.flatten, found.length)

/-- The next random number. -/
def drawn : Working Float := do
  let n := ((← get).random * 6364136223846793005 + 1442695040888963407) % 18446744073709551616
  modify fun m => { m with random := n }
  return Float.ofNat (n / 2048) / 9007199254740992.0

/-- What a function that needs no definition makes of values. -/
def applied (o : Setting) (f : String) (ds : List Datum) : Working Datum := do
  let format ← converting
  let texts := ds.map fun d => d.toText format
  let number (g : Float → Float) : Working Datum :=
    return .number (g ((ds.headD .unset).toNumber))
  match f, texts with
  | "index", [t, wanted] => return .number (Float.ofNat (placeIn t wanted))
  | "substr", t :: _ =>
    return .text (part t ((ds[1]?).getD Datum.unset).toNumber (ds[2]?.map Datum.toNumber))
  | "sprintf", t :: _ =>
    match formatted format t ds.tail with
    | .ok made => return .text made
    | .error (.tooFew, _) =>
      fatalHere o (lit "not enough arguments passed to sprintf(\"" ++ t ++ lit "\")")
    | .error (.improper n, _) =>
      fatalHere o (lit "improper conversion(number " ++ Text.decimal n ++ lit ") in sprintf(\"" ++ t ++
        lit "\")")
  | "tolower", t :: _ => return .text (t.map Char.toLower)
  | "toupper", t :: _ => return .text (t.map Char.toUpper)
  | "sin", _ => number Float.sin
  | "cos", _ => number Float.cos
  | "exp", _ => number Float.exp
  | "log", _ => number Float.log
  | "sqrt", _ => number Float.sqrt
  | "int", _ => number whole
  | "atan2", _ =>
    return .number (Float.atan2 (ds.headD .unset).toNumber ((ds[1]?).getD Datum.unset).toNumber)
  | "rand", _ => return .number (← drawn)
  | "srand", _ =>
    let m ← get
    let seed := match ds with
      | d :: _ => d.toNumber
      | [] => 0
    modify fun m => { m with seed, random := seed.toBits.toNat }
    return .number m.seed
  | "system", t :: _ => return .number (Float.ofNat (← runCommand o t none))
  | "close", t :: _ => return .number (← closeStream o t)
  | "fflush", _ =>
    flush
    return .number 0
  | "systime", _ => return .number 0
  | "strftime", _ =>
    let pattern := texts.headD (lit "%c")
    let seconds := printedInteger ((ds[1]?).getD Datum.unset).toNumber
    return .text (Calendar.shown ⟨seconds, 0⟩ (4 * pattern.length + 64) pattern)
  | _, _ => return .number (-1)

/-! ## Expressions -/

/-- Where a value is put. -/
inductive Destination where
  | name (v : Name)
  | cell (table : Nat) (key : Table.Key)
  | field (x : Float)
  | nowhere

/-- Where an expression stands for. -/
def destination (o : Setting) (eval : Expr → Working Datum) : Expr → Working Destination
  | .name v => return .name v
  | .element v subscripts => do
    let key ← keyOf (← subscripts.mapM eval)
    return .cell (← tableOf o v) key
  | .field e => return .field (← eval e).toNumber
  | .group e => do
    match e with
    | .name v => return .name v
    | .field e => return .field (← eval e).toNumber
    | _ => return .nowhere
  | _ => return .nowhere

/-- The value there. -/
def valueAt (o : Setting) : Destination → Working Datum
  | .name v => valueOf o v
  | .cell n key => do
    let t := (← table n).touch key true
    setTable n t
    return t.get key
  | .field x => getField o x
  | .nowhere => return .unset

/-- A value is put there. -/
def setAt (o : Setting) (d : Datum) : Destination → Working Unit
  | .name v => setValue o v d
  | .cell n key => do
    let t ← table n
    setTable n (t.set key d)
  | .field x => setField o x d
  | .nowhere => return

/-- The expression that a value is as a pattern. -/
def patternIn (o : Setting) (eval : Expr → Working Datum) : Expr → Working Match
  | .pattern e => return e
  | .group (.pattern e) => return e
  | e => do
    let d ← eval e
    patternOf o (d.toText (← converting))

/-- A function that needs no definition and works on tables, places or patterns. -/
def builtin (o : Setting) (eval : Expr → Working Datum) (f : String) (arguments : List Expr) :
    Working Datum := do
  match f, arguments with
  | "length", [] => return .number (Float.ofNat (← get).record.length)
  | "length", [e] =>
    let size ← match e with
      | .name v =>
        match ← slot v with
        | .table n => pure (some (← table n).cells.size)
        | .unused (some n) => pure (some (← table n).cells.size)
        | _ => pure none
      | _ => pure none
    match size with
    | some n => return .number (Float.ofNat n)
    | none =>
      let d ← eval e
      return .number (Float.ofNat (d.toText (← converting)).length)
  | "split", e :: .name v :: rest =>
    let d ← eval e
    let t := d.toText (← converting)
    let found ← match rest with
      | [] => parts o (← textOf "FS") t
      | [.pattern e] => pure (if t = [] then [] else between e t)
      | e :: _ =>
        let separator ← eval e
        parts o (separator.toText (← converting)) t
    let n ← tableOf o v
    setTable n (Table.ofParts (found.map Datum.input))
    return .number (Float.ofNat found.length)
  | "match", [subject, pattern] =>
    let d ← eval subject
    let t := d.toText (← converting)
    let e ← patternIn o eval pattern
    match e.search? (searched t) true 0 with
    | some f =>
      setNumber "RSTART" (Float.ofNat (f.first + 1))
      setNumber "RLENGTH" (Float.ofNat (f.last - f.first))
      return .number (Float.ofNat (f.first + 1))
    | none =>
      setNumber "RSTART" 0
      setNumber "RLENGTH" (-1)
      return .number 0
  | f, arguments =>
    if f = "sub" ∨ f = "gsub" then
      match arguments with
      | pattern :: replacement :: rest =>
        let e ← patternIn o eval pattern
        let format ← converting
        let replacement := (← eval replacement).toText format
        let place ← destination o eval (rest.headD (.field (.number 0)))
        let t ← match place, rest with
          | .nowhere, e :: _ => pure ((← eval e).toText format)
          | place, _ => pure ((← valueAt o place).toText format)
        let (made, count) := replaced e (f = "gsub") replacement t
        if count ≠ 0 then setAt o (.text made) place
        return .number (Float.ofNat count)
      | _ => return .unset
    else applied o f (← arguments.mapM eval)

/-- How many functions can have been called. -/
def callDepth : Nat := 100000

/-- A function is called. -/
def callFunction (o : Setting) (eval : Expr → Working Datum) (exec : Statement → Working Unit)
    (f : Octets) (arguments : List Expr) : Working Datum := do
  match o.functions.find? fun d => d.name == f with
  | none => fatal o (lit "function " ++ f ++ lit " never defined")
  | some d =>
    let slots ← arguments.mapM fun e => do
      match e with
      | .name v =>
        if isFieldCount v then return Slot.value (← valueOf o v)
        else
          match ← slot v with
          | .unused none =>
            let n := (← get).made
            modify fun m => { m with made := n + 1 }
            setSlot v (.unused (some n))
            return Slot.unused (some n)
          | s => return s
      | e => return Slot.value (← eval e)
    let before := (← get).owns
    let owns := slots ++ List.replicate (d.count - slots.length) (Slot.unused none)
    modify fun m => { m with owns := owns.toArray }
    let made ← try
        exec d.body
        pure Datum.unset
      catch
        | .function d => pure d
        | leaving => throw leaving
    modify fun m => { m with owns := before }
    return made

/-- The next line, put where it is wanted. The value tells whether there was one. -/
def readLine (o : Setting) (eval : Expr → Working Datum) (supply : Supply Expr)
    (target : Option Expr) : Working Datum := do
  let accept (line : Octets) : Working Unit := do
    match target with
    | some e => setAt o (.input line) (← destination o eval e)
    | none => setRecord line
  match supply with
  | .records =>
    match ← nextRecord o 100000 with
    | some line =>
      countRecord
      accept line
      return .number 1
    | none => return .number 0
  | .file path =>
    let name := (← eval path).toText (← converting)
    match ← lineFrom o false name with
    | none => return .number (-1)
    | some none => return .number 0
    | some (some line) =>
      accept line
      return .number 1
  | .command words =>
    let name := (← eval words).toText (← converting)
    match ← lineFrom o true name with
    | some (some line) =>
      accept line
      return .number 1
    | _ => return .number 0

/-- One step of working out an expression. -/
def evaluateStep (o : Setting) (eval : Expr → Working Datum) (exec : Statement → Working Unit) :
    Expr → Working Datum
  | .number x => return .number x
  | .text t => return .text t
  | .pattern e => return .ofBool (e.search? (searched (← get).record) true 0).isSome
  | .name v => valueOf o v
  | .element v subscripts => do
    valueAt o (← destination o eval (.element v subscripts))
  | .field e => do getField o (← eval e).toNumber
  | .assign none target value => do
    let place ← destination o eval target
    let d ← eval value
    let d := match d with
      | .unset => Datum.unset
      | d => d
    setAt o d place
    return d
  | .assign (some operator) target value => do
    let place ← destination o eval target
    let y ← eval value
    let x ← valueAt o place
    let d := operate (← converting) operator x y
    setAt o d place
    return d
  | .step target up before => do
    let place ← destination o eval target
    let x := (← valueAt o place).toNumber
    let y := if up then x + 1 else x - 1
    setAt o (.number y) place
    return .number (if before then x else y)
  | .negative e => do return .number (-(← eval e).toNumber)
  | .positive e => do return .number (← eval e).toNumber
  | .negation e => do return .ofBool (!(← eval e).isTrue)
  | .operation operator a b => do
    let x ← eval a
    let y ← eval b
    return operate (← converting) operator x y
  | .both a b => do
    if (← eval a).isTrue then return .ofBool (← eval b).isTrue else return .ofBool false
  | .either a b => do
    if (← eval a).isTrue then return .ofBool true else return .ofBool (← eval b).isTrue
  | .choose condition a b => do if (← eval condition).isTrue then eval a else eval b
  | .fits negated subject pattern => do
    let d ← eval subject
    let e ← patternIn o eval pattern
    let t := d.toText (← converting)
    return .ofBool ((e.search? (searched t) true 0).isSome != negated)
  | .inside subscripts v => do
    let key ← keyOf (← subscripts.mapM eval)
    let n ← tableOf o v
    let t := (← table n).touch key false
    setTable n t
    return .ofBool (t.has key)
  | .call f arguments => callFunction o eval exec f arguments
  | .builtin f arguments => builtin o eval f arguments
  | .line supply target => readLine o eval supply target
  | .group e => eval e

/-! ## Statements -/

/-- A way out of a loop. -/
def turn (x : Working Bool) : Working (Option Bool) := do
  try return some (← x)
  catch
    | .loop => return none
    | .round => return some true
    | leaving => throw leaving

/-- Turns of a loop, so many at most. -/
def turns (x : Working Bool) : Nat → Working Unit
  | 0 => (throw (.killed 9) : Act Unit)
  | n + 1 => do
    match ← turn x with
    | some true => turns x n
    | _ => return

/-- How long a loop can run here. -/
def turnsLeft : Working Nat := do
  let p ← (process : Act Process)
  return if p.deadline.isSome then turnLimit / 20 else turnLimit

/-- Prints a text where an outlet leads. -/
def printAt (o : Setting) (eval : Expr → Working Datum) (outlet : Option Outlet) (t : Octets) :
    Working Unit := do
  let name (e : Expr) : Working Octets := do
    let d ← eval e
    return d.toText (← converting)
  match outlet with
  | none => hold t
  | some (.file e) => printTo o .write false (← name e) t
  | some (.append e) => printTo o .append false (← name e) t
  | some (.command e) => printTo o .write true (← name e) t

/-- One step of running a statement. -/
def executeStep (o : Setting) (eval : Expr → Working Datum) (exec : Statement → Working Unit) :
    Statement → Working Unit
  | .nothing => return
  | .block body => body.forM exec
  | .value e => do let _ ← eval e
  | .print arguments outlet => do
    let t ← match arguments with
      | [] => pure (← get).record
      | arguments =>
        let ds ← arguments.mapM eval
        let format ← textOf "OFMT"
        pure (Text.joinWith (← textOf "OFS") (ds.map fun d => d.toText format))
    printAt o eval outlet (t ++ (← textOf "ORS"))
  | .format arguments outlet => do
    let ds ← arguments.mapM eval
    let convert ← converting
    let format := (ds.headD .unset).toText convert
    match formatted convert format ds.tail with
    | .ok t => printAt o eval outlet t
    | .error (misprint, t) =>
      printAt o eval outlet t
      match misprint with
      | .tooFew => fatalHere o (lit "not enough arguments passed to printf(\"" ++ format ++ lit "\")")
      | .improper n =>
        fatalHere o (lit "improper conversion(number " ++ Text.decimal n ++ lit ") in printf(\"" ++
          format ++ lit "\")")
  | .choose condition a b => do
    if (← eval condition).isTrue then exec a
    else
      match b with
      | some b => exec b
      | none => return
  | .loop condition body => do
    turns (do
      if (← eval condition).isTrue then
        exec body
        return true
      else return false) (← turnsLeft)
  | .loopOnce body condition => do
    turns (do
      try exec body
      catch
        | .round => pure ()
        | leaving => throw leaving
      return (← eval condition).isTrue) (← turnsLeft)
  | .count first condition behind body => do
    exec first
    turns (do
      let goesOn ← match condition with
        | some e => pure (← eval e).isTrue
        | none => pure true
      if goesOn then
        try exec body
        catch
          | .round => pure ()
          | leaving => throw leaving
        exec behind
        return true
      else return false) (← turnsLeft)
  | .each v name body => do
    let n ← tableOf o name
    let (keys, t) := (← table n).keys
    setTable n t
    let rec go : List Octets → Working Unit
      | [] => return
      | key :: rest => do
        setValue o v (.input key)
        match ← turn (do exec body; return true) with
        | some true => go rest
        | _ => return
    go keys
  | .leave => throw .loop
  | .continue => throw .round
  | .next => throw .record
  | .nextFile => throw .file
  | .exit status => do
    match status with
    | some e =>
      let x := (← eval e).toNumber
      modify fun m => { m with status := (printedInteger x % 256).toNat }
    | none => pure ()
    throw .program
  | .return value => do
    match value with
    | some e => throw (.function (← eval e))
    | none => throw (.function .unset)
  | .delete v subscripts => do
    let key ← keyOf (← subscripts.mapM eval)
    let n ← tableOf o v
    setTable n ((← table n).remove key)
  | .clear v => do setTable (← tableOf o v) .empty

mutual

/-- Works out an expression, so deep at most. -/
def evaluate (o : Setting) : Nat → Expr → Working Datum
  | 0, _ => (throw (.killed 11) : Act Datum)
  | n + 1, e => evaluateStep o (evaluate o n) (execute o n) e

/-- Runs a statement, so deep at most. -/
def execute (o : Setting) : Nat → Statement → Working Unit
  | 0, _ => (throw (.killed 11) : Act Unit)
  | n + 1, s => executeStep o (evaluate o n) (execute o n) s

end

/-- How deep expressions, statements and functions can stand in each other. -/
def depth : Nat := 60000

/-! ## Programs -/

/-- The record is chosen. -/
def chosen (o : Setting) : Choice → Working Bool
  | .always => return true
  | .condition e => return (← evaluate o depth e).isTrue
  | .range n first last => do
    let isOpen := (← get).ranges.contains n
    if isOpen || (← evaluate o depth first).isTrue then
      let ends := (← evaluate o depth last).isTrue
      modify fun m => { m with
        ranges := (m.ranges.filter (· ≠ n)) ++ (if ends then [] else [n]) }
      return true
    else return false

/-- The rules for one record. -/
def applyRules (o : Setting) (rules : List (Choice × Statement)) : Working Unit :=
  rules.forM fun (choice, body) => do
    if ← chosen o choice then execute o depth body

/-- The records one after the other, so many at most. -/
def throughRecords (o : Setting) (rules : List (Choice × Statement)) : Nat → Working Unit
  | 0 => return
  | n + 1 => do
    match ← nextRecord o 100000 with
    | none => return
    | some record =>
      countRecord
      setRecord record
      try applyRules o rules
      catch
        | .record => pure ()
        | .file => modify fun m => { m with current := none }
        | leaving => throw leaving
      throughRecords o rules n

/-- A part of a program; whether it has ended the program because of a mistake, or was to
end it. -/
def stage (x : Working Unit) : Working (Option Leaving) := do
  try
    x
    return none
  catch leaving => return some leaving

/-- A program runs. -/
def runProgram (o : Setting) (p : Program) : Working Unit := do
  let first ← stage (p.starts.forM (execute o depth))
  let second ← match first with
    | some leaving => pure (some leaving)
    | none =>
      if p.rules.isEmpty && p.ends.isEmpty then pure none
      else stage (throughRecords o p.rules 100000000)
  match second with
  | some .fatal => pure ()
  | _ =>
    let _ ← stage (p.ends.forM (execute o depth))
  let streams := (← get).outgoing
  streams.forM fun s => do
    if s.isCommand then
      let content ← (unread s.index : Act Octets)
      let body : Act Unit := do
        restoring (fun before p => { p with descriptors := before.descriptors }) do
          let index ← addOpened ⟨.buffer (.holding content), 0, false⟩
          setDescriptor 0 (some index)
          let _ ← launch o.run (commandWords s.name)
      body
  flush

end Equate.Shell.Records
