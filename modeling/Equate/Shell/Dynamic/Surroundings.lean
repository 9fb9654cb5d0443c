import Equate.Shell.Dynamic.Mathematics
import Equate.Shell.Dynamic.Streams
import Equate.Shell.Launching
import Equate.Shell.Utility.Calendar
import Equate.Shell.Utility.Tree

/-!
# What surrounds a script

Paths, directories, other programs, signals and the clock. A program that is started gets
the streams that are meant for it, and comes to its end before the script goes on.
-/
namespace Equate.Shell.Dynamic

/-! ## Paths -/

/-- A path behind another one. -/
def joinPaths : Text → List Text → Text
  | front, [] => front
  | front, p :: rest =>
    if p.head? = some '/' then joinPaths p rest
    else if front = [] ∨ front.getLast? = some '/' then joinPaths (front ++ p) rest
    else joinPaths (front ++ '/' :: p) rest

/-- A path in front of its last name, and the last name. -/
def splitPath (t : Text) : Text × Text :=
  let name := (t.reverse.takeWhile (· ≠ '/')).reverse
  let front := t.take (t.length - name.length)
  let trimmed := (front.reverse.dropWhile (· = '/')).reverse
  (if trimmed = [] then front else trimmed, name)

/-- A path without what its last name ends in, and that ending. -/
def splitEnding (t : Text) : Text × Text :=
  let name := (splitPath t).2
  let body := name.dropWhile (· = '.')
  match findLast ['.'] body with
  | some i =>
    let ending := body.drop i
    (t.take (t.length - ending.length), ending)
  | none => (t, [])

/-- A path without steps that lead nowhere. -/
def plainPath (t : Text) : Text :=
  let start : Text := if ("//".toList.isPrefixOf t && !"///".toList.isPrefixOf t) then "//"
    else if t.head? = some '/' then "/" else []
  let steps := (Text.splitOn '/' t).foldl (fun (done : List Text) s =>
    if s = [] ∨ s = ['.'] then done
    else if s = ['.', '.'] then
      match done with
      | last :: more => if last = ['.', '.'] then s :: done else more
      | [] => if start = [] then [s] else []
    else s :: done) []
  let all := start ++ Text.joinWith ['/'] steps.reverse
  if all = [] then ['.'] else all

/-- The working directory. -/
def workingDirectory : Running Text := do
  let p ← (process : Act Process)
  return if p.here = [] then ['/'] else p.here.flatMap fun n => '/' :: n

/-- A path from the root. -/
def fullPath (t : Text) : Running Text := do return plainPath (joinPaths (← workingDirectory) [t])

/-- What a path leads to. -/
def entryAt (t : Text) : Running (Except Obstacle Entry) := do return (← (files : Act Files)).find t

/-- A path from one directory to another place. -/
def relativePath (start t : Text) : Text :=
  let a := (Text.splitOn '/' start).filter (· ≠ [])
  let b := (Text.splitOn '/' t).filter (· ≠ [])
  let common := ((a.zip b).takeWhile fun (x, y) => x == y).length
  let all := List.replicate (a.length - common) ['.', '.'] ++ b.drop common
  if all = [] then ['.'] else Text.joinWith ['/'] all

/-- The functions on paths. -/
def pathFunctions : List String :=
  ["join", "exists", "isfile", "isdir", "islink", "basename", "dirname", "split", "splitext", "abspath", "normpath",
    "realpath", "relpath", "expanduser", "getsize", "isabs", "lexists", "commonprefix", "getmtime"]

/-- A function on paths. -/
def pathCall (w : Ways) (name : String) (g : Given) : Running Value := do
  let v := (g.plain[0]?).getD .none
  let kind (test : Entry → Bool) : Running Value := do
    match ← entryAt (← pathOf v) with
    | .ok e => return .bool (test e)
    | .error _ => return .bool false
  match name with
  | "join" =>
    let all ← g.plain.mapM pathOf
    return .text (joinPaths (all.headD []) all.tail)
  | "exists" => kind fun _ => true
  | "isfile" => kind fun e => (e matches .file ..)
  | "isdir" => kind fun e => (e matches .directory)
  | "lexists" =>
    let all ← (files : Act Files)
    return .bool (all.entryItself (← pathOf v)).isOk
  | "islink" =>
    let all ← (files : Act Files)
    return .bool (match all.entryItself (← pathOf v) with
      | .ok (_, .link _) => true
      | _ => false)
  | "basename" => return .text (splitPath (← pathOf v)).2
  | "dirname" => return .text (splitPath (← pathOf v)).1
  | "split" =>
    let (a, b) := splitPath (← pathOf v)
    return .tuple [.text a, .text b]
  | "splitext" =>
    let (a, b) := splitEnding (← pathOf v)
    return .tuple [.text a, .text b]
  | "abspath" => return .text (← fullPath (← pathOf v))
  | "normpath" => return .text (plainPath (← pathOf v))
  | "realpath" =>
    let t ← pathOf v
    let all ← (files : Act Files)
    match all.place t with
    | .ok place => return .text (if place = [] then ['/'] else place.flatMap fun n => '/' :: n)
    | .error _ => return .text (← fullPath t)
  | "relpath" =>
    let start ← match g.at? 1 "start" with
      | some s => do fullPath (← pathOf s)
      | none => workingDirectory
    return .text (relativePath start (← fullPath (← pathOf v)))
  | "expanduser" =>
    let t ← pathOf v
    match t with
    | ['~'] => return .text "/root"
    | '~' :: '/' :: rest => return .text ("/root/" ++ rest)
    | t => return .text t
  | "getsize" =>
    match ← entryAt (← pathOf v) with
    | .ok (.file content _) => return .int content.length
    | .ok _ => return .int 4096
    | .error obstacle => failAt obstacle (some v)
  | "getmtime" =>
    match ← entryAt (← pathOf v) with
    | .ok _ => return .float 0
    | .error obstacle => failAt obstacle (some v)
  | "isabs" => return .bool ((← pathOf v).head? == some '/')
  | "commonprefix" =>
    let all ← (← itemsOf w v).mapM pathOf
    return .text (all.tail.foldl (fun (a : Text) b =>
      ((a.zip b).takeWhile fun (x, y) => x == y).map Prod.fst) (all.headD []))
  | _ => return .none

/-! ## Programs -/

/-- The streams of a program that is started. -/
inductive Stream where
  | same
  | nowhere
  | kept
  | merged
  | opened (index : Nat)

/-- What an argument says about a stream. -/
def streamOf (v : Option Value) : Running Stream := do
  match v with
  | some (.int (-1)) => return .kept
  | some (.int (-2)) => return .merged
  | some (.int (-3)) => return .nowhere
  | some v =>
    match v, ← objectOf? v with
    | .object n, some (.file f) =>
      match streamAt? n with
      | some d =>
        match ← (descriptor? d : Act (Option Nat)) with
        | some index => return .opened index
        | none => return .nowhere
      | none => return .opened f.index
    | _, _ => return .same
  | none => return .same

/-- The environment that programs get. -/
def environment : Running Value := do
  match ← changed? "os.environ" with
  | some v => return v
  | none =>
    let p ← (process : Act Process)
    let t := p.parameters.toList.foldl (fun (t : Table) (n, v) =>
      match v.value with
      | some value => if v.exported then t.put ('t' :: decode n) (.text (decode n)) (.text (decode value)) else t
      | none => t) .empty
    let v ← makeDict t
    modify fun m => { m with settings := ("os.environ", v) :: m.settings }
    return v

/-- The environment in a value. -/
def variablesIn (v : Value) : Running (List (Octets × Octets)) := do
  match ← objectOf? v with
  | some (.dict t _ _) =>
    return t.toList.filterMap fun (k, v) =>
      match k, v with
      | .text k, .text v => some (encode k, encode v)
      | _, _ => none
  | _ => return []

/-- The words of a command line. -/
def commandWords (w : Ways) (v : Value) (shell : Bool) : Running (List Octets) := do
  match ← pathOf? v with
  | some t => return if shell then [lit "/bin/sh", lit "-c", encode t] else [encode t]
  | none =>
    let words ← (← itemsOf w v).mapM fun v => do
      match ← pathOf? v with
      | some t => return encode t
      | none => typeError ("expected str, bytes or os.PathLike object, not " ++ (← typeName v).toList)
    return if shell then lit "/bin/sh" :: lit "-c" :: words else words

/-- What came of a program. -/
structure Outcome where
  status : Int
  output : Option Octets
  complaints : Option Octets

/-- The number for how a program has ended. -/
def returnCode : Finish → Int
  | .exited n => n
  | .killed n => -n

/-- A program is run. -/
def runProgram (w : Ways) (words : List Octets) (given : Option Octets) (input output complaints : Stream)
    (directory : Option Text) (environment : Option (List (Octets × Octets))) : Running Outcome := do
  let program := words.headD []
  let environment ← match environment with
    | some vs => pure (some vs)
    | none =>
      match ← changed? "os.environ" with
      | some v => do pure (some (← variablesIn v))
      | none => pure none
  match ← (pathOfProgram program : Act (Except Obstacle Octets)) with
  | .error obstacle => failAt obstacle (some (.text (decode program)))
  | .ok _ =>
    let all ← (files : Act Files)
    let here ← match directory with
      | none => pure none
      | some d =>
        match all.place d, all.find d with
        | .ok place, .ok .directory => pure (some place)
        | .ok _, .ok _ => failAt .notDirectory (some (.text d))
        | .error obstacle, _ => failAt obstacle (some (.text d))
        | _, .error obstacle => failAt obstacle (some (.text d))
    let buffer (b : Buffer) : Running Nat := (addOpened ⟨.buffer b, 0, true⟩ : Act Nat)
    let void : Running Nat := (addOpened ⟨.void, 0, false⟩ : Act Nat)
    let inIndex : Option Nat ← match given, input with
      | some t, _ => do pure (some (← buffer (.holding t)))
      | none, .nowhere => do pure (some (← void))
      | none, .kept => do pure (some (← buffer (.holding [])))
      | none, .opened i => pure (some i)
      | none, _ => pure none
    let target (s : Stream) : Running (Option Nat) := do
      match s with
      | .nowhere => return some (← void)
      | .kept => return some (← buffer (.empty false))
      | .opened i => return some i
      | _ => return none
    let outIndex ← target output
    let errorIndex ← match complaints with
      | .merged => match outIndex with
        | some i => pure (some i)
        | none => (descriptor? 1 : Act (Option Nat))
      | s => target s
    let finish ← (subshell w.run do
      match inIndex with
      | some i => setDescriptor 0 (some i)
      | none => pure ()
      match outIndex with
      | some i => setDescriptor 1 (some i)
      | none => pure ()
      match errorIndex with
      | some i => setDescriptor 2 (some i)
      | none => pure ()
      match here with
      | some place => setProcess fun p => { p with here := place }
      | none => pure ()
      match environment with
      | some vs => setProcess fun p => { p with
          parameters := vs.foldl (fun ps (n, v) => ps.insert n ⟨some v, true, false⟩)
            (p.parameters.filter fun _ v => !v.exported) }
      | none => pure ()
      setStatus (← statusOf (← launch w.run words)) : Act Finish)
    let kept (s : Stream) (i : Option Nat) : Running (Option Octets) := do
      match s, i with
      | .kept, some i => return some (← (unread i : Act Octets))
      | _, _ => return none
    return ⟨returnCode finish, ← kept output outIndex, ← kept complaints errorIndex⟩

/-- The functions that run programs. -/
def programFunctions : List String :=
  ["run", "call", "check_call", "check_output", "Popen", "getoutput", "getstatusoutput"]

/-- Octets as a call wants them. -/
def wantedOctets (asText : Bool) (t : Option Octets) : Running Value := do
  match t with
  | none => return .none
  | some t => if asText then return .text (← readableText t) else return .bytes t

/-- A command that has failed. -/
def commandFailed {α : Type} (w : Ways) (command : Value) (status : Int) (output complaints : Value) : Running α := do
  let shown ← reprOf w command
  let shown := match command with
    | .text _ => shown
    | _ => '\'' :: shown ++ ['\'']
  let words : Text := "Command " ++ shown ++
    (if status < 0 then
      let name : Text := match Solver.signalName? status.natAbs with
        | some n => "SIG" ++ n
        | none => Text.decimal status.natAbs
      " died with <Signals." ++ name ++ ": " ++ Text.decimal status.natAbs ++ ">."
    else " returned non-zero exit status " ++ integerText status ++ ".")
  raise (← exception "subprocess.CalledProcessError" [.text words]
    [("returncode", .int status), ("cmd", command), ("output", output), ("stdout", output), ("stderr", complaints)])

/-- A program as the arguments of a call say. -/
def runAsGiven (w : Ways) (g : Given) (output : Option Value) : Running (Outcome × Bool) := do
  let flag (name : String) : Running Bool := do
    match g.named.lookup name with
    | some v => isTrue w v
    | none => return false
  let some? (name : String) : Option Value := (g.named.lookup name).filter fun v => !(v matches .none)
  let asText := (← flag "text") || (← flag "universal_newlines") || (some? "encoding").isSome
  let captured ← flag "capture_output"
  let given ← match some? "input" with
    | some (.text t) => pure (some (encode t))
    | some (.bytes t) => pure (some t)
    | _ => pure none
  let words ← commandWords w ((g.at? 0 "args").getD .none) (← flag "shell")
  let directory ← match some? "cwd" with
    | some v => do pure (some (← pathOf v))
    | none => pure none
  let environment ← match some? "env" with
    | some v => do pure (some (← variablesIn v))
    | none => pure none
  let outStream ← if captured then pure Stream.kept else streamOf (output.or (some? "stdout"))
  let errorStream ← if captured then pure Stream.kept else streamOf (some? "stderr")
  let outcome ← runProgram w words given (← streamOf (some? "stdin")) outStream errorStream directory environment
  return (outcome, asText)

/-- A function that runs programs. -/
def programCall (w : Ways) (name : String) (g : Given) : Running Value := do
  let command := (g.at? 0 "args").getD .none
  let made (o : Outcome) (asText : Bool) : Running (Value × Value) := do
    return (← wantedOctets asText o.output, ← wantedOctets asText o.complaints)
  match name with
  | "run" =>
    let (o, asText) ← runAsGiven w g none
    let (output, complaints) ← made o asText
    if (g.named.lookup "check").any (fun v => v matches .bool true) && o.status != 0 then
      commandFailed w command o.status output complaints
    make (.made (.type "subprocess.CompletedProcess")
      [("args", command), ("returncode", .int o.status), ("stdout", output), ("stderr", complaints)] none)
  | "check_output" =>
    let (o, asText) ← runAsGiven w g (some (.int (-1)))
    let (output, complaints) ← made o asText
    if o.status != 0 then commandFailed w command o.status output complaints
    return output
  | "call" => return .int (← runAsGiven w g none).1.status
  | "check_call" =>
    let (o, _) ← runAsGiven w g none
    if o.status != 0 then commandFailed w command o.status .none .none
    return .int 0
  | "getoutput" =>
    let (o, _) ← runAsGiven w { g with named := [("shell", .bool true), ("stderr", .int (-2))] } (some (.int (-1)))
    let t := (o.output.getD [])
    return .text (decode (chomp t))
  | "getstatusoutput" =>
    let (o, _) ← runAsGiven w { g with named := [("shell", .bool true), ("stderr", .int (-2))] } (some (.int (-1)))
    return .tuple [.int o.status, .text (decode (chomp (o.output.getD [])))]
  | "Popen" =>
    let arguments ← makeDict (g.named.foldl (fun (t : Table) (n, v) => t.put ('t' :: n.toList) (.text n.toList) v) .empty)
    make (.made (.type "subprocess.Popen")
      [("args", command), ("returncode", .none), (".given", arguments), ("pid", .int 2)] none)
  | _ => return .none

/-- The methods of programs that have been started. -/
def startedMethods : List String := ["communicate", "wait", "poll", "kill", "terminate", "__enter__", "__exit__"]

/-- A method of a program that has been started. It runs when somebody waits for it. -/
def startedMethod (w : Ways) (n : Nat) (name : String) (fields : List (String × Value)) (g : Given) : Running Value := do
  let named : List (String × Value) ← match ← objectOf? ((fields.lookup ".given").getD .none) with
    | some (.dict t _ _) => pure (t.toList.filterMap fun (k, v) =>
        match k with
        | .text k => some (String.ofList k, v)
        | _ => none)
    | _ => pure []
  let go (input : Option Value) : Running (Int × Value × Value) := do
    match fields.lookup "returncode" with
    | some (.int status) => return (status, (fields.lookup ".output").getD .none, (fields.lookup ".complaints").getD .none)
    | _ =>
      let named := match input with
        | some v => ("input", v) :: named
        | none => named
      let (o, asText) ← runAsGiven w ⟨[(fields.lookup "args").getD .none], named⟩ none
      let output ← wantedOctets asText o.output
      let complaints ← wantedOctets asText o.complaints
      setObject n (.made (.type "subprocess.Popen") (setField ".complaints" complaints (setField ".output" output
        (setField "returncode" (.int o.status) fields))) none)
      return (o.status, output, complaints)
  match name with
  | "communicate" =>
    let (_, output, complaints) ← go (g.some? 0 "input")
    return .tuple [output, complaints]
  | "__enter__" => return .object n
  | "__exit__" =>
    let _ ← go none
    return .none
  | "kill" => return .none
  | "terminate" => return .none
  | _ => return .int (← go none).1

/-! ## The system -/

/-- The signals by their names. -/
def signalConstant? (name : String) : Option Value :=
  if name = "SIG_DFL" then some (.int 0)
  else if name = "SIG_IGN" then some (.int 1)
  else if "SIG".isPrefixOf name then
    (Solver.signalNames.idxOf? (name.toList.drop 3)).map fun n => .int (n + 1 : Nat)
  else none

/-- A signal arrives at the script. -/
def receiveSignal (w : Ways) (signal : Nat) : Running Unit := do
  match ← changed? ("signal." ++ toString signal) with
  | some (.int 1) => return
  | some (.int 0) => die
  | some .none => fall
  | some f =>
    let _ ← w.call f [.int signal, .none] []
  | none => fall
where
  /-- What happens if nothing is said about the signal. -/
  fall : Running Unit := do
    if signal = 2 then raise (← exception "KeyboardInterrupt" [] [])
    else if signal == 13 || signal == 25 then return
    else die
  /-- The signal does what it does to all processes. -/
  die : Running Unit := do
    if isIgnored signal then return else (throw (.killed signal) : Act Unit)

/-- A signal is sent. -/
def sendSignal (w : Ways) (number signal : Int) : Running Unit := do
  let own := (← (process : Act Process)).number
  if signal < 0 ∨ 64 < signal then failAt .invalid none
  else if number = own ∨ number = 0 then
    if signal = 9 then (throw (.killed 9) : Act Unit) else if signal = 0 then return else receiveSignal w signal.toNat
  else (Shell.signal w.run number.toNat signal.toNat : Act Unit)

/-- The functions of the system. -/
def systemFunctions : List String :=
  ["getcwd", "listdir", "remove", "unlink", "mkdir", "makedirs", "rename", "replace", "rmdir", "removedirs", "getenv",
    "putenv", "getpid", "getppid", "kill", "_exit", "abort", "system", "popen", "write", "read", "close", "open",
    "chdir", "chmod", "access", "stat", "cpu_count", "getuid", "geteuid", "getgid", "fspath", "fsencode", "fsdecode",
    "urandom", "symlink", "readlink", "walk", "scandir", "umask", "execvp", "execv", "execlp", "execl", "fsync",
    "getlogin", "isatty", "nice", "utime", "link", "uname", "strerror", "unsetenv", "fork"]

/-- The program takes the place of the script. -/
def replaceBy (w : Ways) (words : List Octets) : Running Value := do
  let o ← runProgram w words none .same .same .same none none
  if o.status < 0 then (throw (.killed o.status.natAbs) : Act Unit)
  throw (.ended o.status.toNat)

/-- A function of the system. -/
def systemCall (w : Ways) (name : String) (g : Given) : Running Value := do
  let v := (g.plain[0]?).getD .none
  let whole (i : Nat) : Running Int := wholeNumber w ((g.plain[i]?).getD .none)
  let act (result : Except Obstacle Files) : Running Value := do
    match result with
    | .ok files =>
      (setFiles files : Act Unit)
      return .none
    | .error obstacle => failAt obstacle (some v)
  let all ← (files : Act Files)
  match name with
  | "getcwd" => return .text (← workingDirectory)
  | "getpid" => return .int (← (process : Act Process)).number
  | "getppid" => return .int 1
  | "kill" => sendSignal w (← whole 0) (← whole 1); return .none
  | "abort" => (throw (.killed 6) : Act Unit); return .none
  | "_exit" => throw (.ended (((← whole 0).fmod 256).toNat))
  | "system" =>
    let o ← runProgram w (← commandWords w v true) none .same .same .same none none
    return .int (if o.status < 0 then -o.status else o.status * 256)
  | "popen" =>
    let o ← runProgram w (← commandWords w v true) none .same .kept .same none none
    make (.buffer (← readableText (o.output.getD [])) 0 false)
  | "getenv" =>
    match ← objectOf? (← environment), v with
    | some (.dict t _ _), .text name => return (t.value? ('t' :: name)).getD ((g.at? 1 "default").getD .none)
    | _, _ => return .none
  | "putenv" => return .none
  | "unsetenv" => return .none
  | "listdir" =>
    let path := if g.plain.isEmpty then Value.text ['.'] else v
    let t ← pathOf path
    match all.place t, all.find t with
    | .ok place, .ok .directory => makeList ((all.names place).map Value.text)
    | .ok _, .ok _ => failAt .notDirectory (some path)
    | .error obstacle, _ => failAt obstacle (some path)
    | _, .error obstacle => failAt obstacle (some path)
  | "remove" => remove all v
  | "unlink" => remove all v
  | "mkdir" =>
    match ← (Utility.makeDirectory (encode (← pathOf v)) : Act (Except Obstacle Unit)) with
    | .ok () => return .none
    | .error obstacle => failAt obstacle (some v)
  | "makedirs" =>
    let t ← pathOf v
    let there := match all.find t with
      | .ok _ => true
      | .error _ => false
    if there then
      let fine ← match g.at? 2 "exist_ok" with
        | some v => isTrue w v
        | none => pure false
      if fine && (match all.find t with
          | .ok .directory => true
          | _ => false) then return .none
      else failAt .exists (some v)
    else
      match ← (Utility.makeDirectories [] (Text.splitOn '/' (encode t)) : Act (Option (Octets × Obstacle))) with
      | none => return .none
      | some (path, obstacle) => failAt obstacle (some (.text (decode path)))
  | "rmdir" =>
    let t ← pathOf v
    match all.entryItself t with
    | .ok (place, .directory) =>
      if (all.names place).isEmpty then act (.ok (all.remove place)) else failAt .notEmpty (some v)
    | .ok _ => failAt .notDirectory (some v)
    | .error obstacle => failAt obstacle (some v)
  | "rename" => rename all v
  | "replace" => rename all v
  | "write" =>
    let (t, count) ← writtenOctets true ((g.plain[1]?).getD .none)
    if !(← (write (← whole 0).toNat t : Act Bool)) then failAt .closed none
    return .int count
  | "read" =>
    let n := (← whole 0).toNat
    let count := (← whole 1).toNat
    if n = 0 then
      let t ← input
      setInput (t.drop count)
      return .bytes (t.take count)
    else
      match ← (descriptor? n : Act (Option Nat)) with
      | some index =>
        let t ← (unread index : Act Octets)
        (consume index count : Act Unit)
        return .bytes (t.take count)
      | none => failAt .closed none
  | "close" =>
    (setDescriptor (← whole 0).toNat none : Act Unit)
    return .none
  | "chdir" =>
    let t ← pathOf v
    match all.place t, all.find t with
    | .ok place, .ok .directory =>
      (setProcess fun p => { p with here := place } : Act Unit)
      return .none
    | .ok _, .ok _ => failAt .notDirectory (some v)
    | .error obstacle, _ => failAt obstacle (some v)
    | _, .error obstacle => failAt obstacle (some v)
  | "chmod" =>
    let t ← pathOf v
    match all.place t, all.find t with
    | .ok place, .ok (.file content _) => act (.ok (all.put place (.file content ((← whole 1) % 2 = 1))))
    | .ok _, .ok _ => return .none
    | .error obstacle, _ => failAt obstacle (some v)
    | _, .error obstacle => failAt obstacle (some v)
  | "access" =>
    match all.find (← pathOf v) with
    | .ok (.file _ runs) => return .bool ((← whole 1) % 2 = 0 || runs)
    | .ok _ => return .bool true
    | .error _ => return .bool false
  | "stat" =>
    match all.find (← pathOf v) with
    | .ok e =>
      let (size, mode) : Nat × Nat := match e with
        | .file content runs => (content.length, if runs then 33261 else 33188)
        | .directory => (4096, 16877)
        | _ => (0, 8630)
      let number (n : Nat) : Value := .int n
      make (.made (.type "os.stat_result") [("st_size", number size), ("st_mode", number mode), ("st_mtime", .float 0),
        ("st_uid", number 0), ("st_gid", number 0), ("st_nlink", number 1)] none)
    | .error obstacle => failAt obstacle (some v)
  | "symlink" =>
    let destination := (g.plain[1]?).getD .none
    match all.target (← pathOf destination) with
    | .ok t =>
      if (all.entry? t.place).isSome then failAt .exists (some v)
      else act (.ok (all.put t.place (.link (← pathOf v))))
    | .error obstacle => failAt obstacle (some v)
  | "readlink" =>
    match all.entryItself (← pathOf v) with
    | .ok (_, .link t) => return .text t
    | .ok _ => failAt .invalid (some v)
    | .error obstacle => failAt obstacle (some v)
  | "walk" =>
    let t ← pathOf v
    let rec visit : Nat → Text → Running (List Value)
      | 0, _ => return []
      | n + 1, t => do
        match all.place t, all.find t with
        | .ok place, .ok .directory =>
          let names := all.names place
          let isDirectory (name : Text) : Bool := match all.find (joinPaths t [name]) with
            | .ok .directory => true
            | _ => false
          let inner := names.filter isDirectory
          let first := Value.tuple [.text t, ← makeList (inner.map Value.text),
            ← makeList ((names.filter fun n => !isDirectory n).map Value.text)]
          return first :: (← inner.mapM fun name => visit n (joinPaths t [name])).flatten
        | _, _ => return []
    makeIterator (.values (← visit 40 t))
  | "scandir" =>
    let t ← match v with
      | .none => pure ['.']
      | v => pathOf v
    match all.place t, all.find t with
    | .ok place, .ok .directory =>
      let found ← (all.names place).mapM fun name => do
        let path := joinPaths t [name]
        make (.made (.type "os.DirEntry") [("name", .text name), ("path", .text path)] (some (.text path)))
      makeIterator (.values found)
    | .error obstacle, _ => failAt obstacle (some v)
    | _, _ => failAt .notDirectory (some v)
  | "fspath" => return .text (← pathOf v)
  | "fsencode" => return .bytes (encode (← pathOf v))
  | "fsdecode" => return .text (← pathOf v)
  | "execvp" => replaceBy w (← commandWords w ((g.plain[1]?).getD .none) false)
  | "execv" => replaceBy w (← commandWords w ((g.plain[1]?).getD .none) false)
  | "execlp" => replaceBy w (← (g.plain.drop 1).mapM fun v => do return encode (← pathOf v))
  | "execl" => replaceBy w (← (g.plain.drop 1).mapM fun v => do return encode (← pathOf v))
  | "cpu_count" => return .int 1
  | "urandom" => return .bytes (List.replicate (← whole 0).toNat '\x00')
  | "isatty" => return .bool false
  | "umask" => return .int 18
  | "strerror" => return .text "Unknown error"
  | "getlogin" => return .text "root"
  | _ => return .int 0
where
  /-- A file is taken away. -/
  remove (all : Files) (v : Value) : Running Value := do
    match all.entryItself (← pathOf v) with
    | .ok (_, .directory) => failAt .isDirectory (some v)
    | .ok (place, _) =>
      (setFiles (all.remove place) : Act Unit)
      return .none
    | .error obstacle => failAt obstacle (some v)
  /-- A file gets another name. -/
  rename (all : Files) (v : Value) : Running Value := do
    let destination := (g.plain[1]?).getD .none
    let failing {α : Type} (obstacle : Obstacle) : Running α := do
      let number : Value := .int ((obstacle.number?.getD 0 : Nat) : Int)
      raise (← exception (obstacleType obstacle) [number, .text (obstacle.words ++ ": " ++ quotedText false false (← pathOf v) ++
        " -> " ++ quotedText false false (← pathOf destination))] [])
    match all.entryItself (← pathOf v), all.target (← pathOf destination) with
    | .ok (place, e), .ok t =>
      match all.entry? t.place with
      | some .directory =>
        if e = .directory && (all.names t.place).isEmpty then
          (setFiles ((all.remove t.place).carry place t.place) : Act Unit)
          return .none
        else failing (if e = .directory then .notEmpty else .isDirectory)
      | _ =>
        if place != t.place then
          (setFiles ((all.removeAll t.place).carry place t.place) : Act Unit)
        return .none
    | .error obstacle, _ => failing obstacle
    | _, .error obstacle => failing obstacle

/-! ## The clock -/

/-- The functions of the clock. -/
def clockFunctions : List String :=
  ["time", "sleep", "perf_counter", "monotonic", "process_time", "time_ns", "perf_counter_ns", "monotonic_ns", "ctime",
    "strftime", "gmtime", "localtime", "asctime", "mktime"]

/-- A function of the clock. -/
def clockCall (w : Ways) (name : String) (g : Given) : Running Value := do
  let clock := (← (get : Act State)).clock
  let now := startSeconds * 1000000000 + clock
  let momentOf (v : Option Value) : Running Moment := do
    match v with
    | none => return ⟨now / 1000000000, now % 1000000000⟩
    | some v =>
      match ← coreOf v with
      | .tuple (.int year :: .int month :: .int day :: .int hour :: .int minute :: .int second :: _) =>
        let days := (⟨year, month.toNat, day.toNat⟩ : Day).number
        return ⟨days * 86400 + hour * 3600 + minute * 60 + second, 0⟩
      | .none => return ⟨now / 1000000000, now % 1000000000⟩
      | v => return ⟨(Numeral.floorInt (← toFloat w v)), 0⟩
  let parts (m : Moment) : Running Value := do
    let d := m.day
    let s := m.second
    let values : List (String × Int) := [("tm_year", d.year), ("tm_mon", d.month), ("tm_mday", d.day),
      ("tm_hour", (s / 3600 : Nat)), ("tm_min", (s / 60 % 60 : Nat)), ("tm_sec", (s % 60 : Nat)),
      ("tm_wday", ((m.weekday + 6) % 7 : Nat)), ("tm_yday", (m.yearDay : Int)), ("tm_isdst", 0)]
    let own := (← get).store.size
    let names := Value.tuple (values.map fun p => .text p.1.toList)
    let kind ← make (.kind ⟨"time.struct_time", [.type "tuple"], [.object own, .type "tuple", .type "object"], [("_fields", names)]⟩)
    make (.made kind [] (some (.tuple (values.map fun p => .int p.2))))
  let written (format : String) (m : Moment) : Running Value := do
    return .text (decode (Calendar.shown m (4 * format.length + 64) (encode format.toList)))
  match name with
  | "sleep" =>
    let x ← toFloat w ((g.plain[0]?).getD .none)
    if x < 0 then valueError "sleep length must be non-negative"
    let (a, b) := Records.quotientOf x
    (runJobs w.run jobLimit : Act Unit)
    (pass (a * 1000000000 / b) : Act Unit)
    return .none
  | "time_ns" => return .int now
  | "perf_counter_ns" => return .int clock
  | "monotonic_ns" => return .int clock
  | "ctime" => written "%a %b %e %H:%M:%S %Y" (← momentOf (g.plain[0]?))
  | "asctime" => written "%a %b %e %H:%M:%S %Y" (← momentOf (g.plain[0]?))
  | "strftime" =>
    match (g.plain[0]?).getD .none with
    | .text format => written (String.ofList format) (← momentOf (g.plain[1]?))
    | _ => typeError "strftime() argument 1 must be str"
  | "gmtime" => parts (← momentOf (g.plain[0]?))
  | "localtime" => parts (← momentOf (g.plain[0]?))
  | "mktime" => return .float (Float.ofInt (← momentOf (g.plain[0]?)).seconds)
  | "perf_counter" => return .float (Number.nearest clock 1000000000)
  | "monotonic" => return .float (Number.nearest clock 1000000000)
  | "process_time" => return .float (Number.nearest clock 1000000000)
  | _ => return .float (Number.nearest now 1000000000)

/-- The functions for signals. -/
def signalFunctions : List String := ["signal", "getsignal", "raise_signal", "alarm", "pause", "strsignal", "siginterrupt"]

/-- A function for signals. -/
def signalCall (w : Ways) (name : String) (g : Given) : Running Value := do
  let n ← wholeNumber w ((g.plain[0]?).getD (.int 0))
  match name with
  | "signal" =>
    let key := "signal." ++ toString n.toNat
    let before := (← changed? key).getD (.int 0)
    modify fun m => { m with settings := (key, (g.plain[1]?).getD .none) :: m.settings }
    return before
  | "getsignal" => return (← changed? ("signal." ++ toString n.toNat)).getD (.int 0)
  | "raise_signal" =>
    sendSignal w (← (process : Act Process)).number n
    return .none
  | _ => return .int 0

/-! ## Paths as values -/

/-- A path as a value. -/
def makePath (t : Text) : Running Value := make (.made (.type "pathlib.PosixPath") [] (some (.text t)))

/-- A path as it is kept: without empty steps. -/
def keptPath (t : Text) : Text :=
  let start : Text := if t.head? = some '/' then "/" else []
  let steps := (Text.splitOn '/' t).filter fun s => s != [] && s != ['.']
  let all := start ++ Text.joinWith ['/'] steps
  if all = [] then ['.'] else all

/-- The methods of paths. -/
def pathMethods : List String :=
  ["exists", "is_file", "is_dir", "read_text", "write_text", "read_bytes", "write_bytes", "open", "mkdir", "unlink",
    "resolve", "absolute", "iterdir", "joinpath", "with_suffix", "with_name", "as_posix", "touch", "rmdir", "rename",
    "is_absolute", "relative_to", "expanduser", "__fspath__"]

/-- What a path says about itself. -/
def pathPart? (t : Text) (name : String) : Running (Option Value) := do
  let last := (splitPath t).2
  match name with
  | "name" => return some (.text last)
  | "stem" => return some (.text (splitEnding last).1)
  | "suffix" => return some (.text (splitEnding last).2)
  | "parent" => return some (← makePath (let p := (splitPath t).1; if p = [] then ['.'] else p))
  | "parts" =>
    let steps := (Text.splitOn '/' t).filter (· ≠ [])
    return some (.tuple ((if t.head? = some '/' then [['/']] else []) ++ steps |>.map Value.text))
  | _ => return none

/-- A method of a path. -/
def pathMethod (w : Ways) (name : String) (t : Text) (g : Given) : Running Value := do
  let self := Value.text t
  match name with
  | "exists" => pathCall w "exists" ⟨[self], []⟩
  | "is_file" => pathCall w "isfile" ⟨[self], []⟩
  | "is_dir" => pathCall w "isdir" ⟨[self], []⟩
  | "is_absolute" => return .bool (t.head? == some '/')
  | "as_posix" => return self
  | "__fspath__" => return self
  | "expanduser" => makePath (match t with
      | '~' :: rest => "/root" ++ rest
      | t => t)
  | "read_text" => do readWhole "r"
  | "read_bytes" => do readWhole "rb"
  | "write_text" => writeWhole "w" (← g.required name 0 "data")
  | "write_bytes" => writeWhole "wb" (← g.required name 0 "data")
  | "open" =>
    let mode := match g.at? 0 "mode" with
      | some (.text m) => m
      | _ => ['r']
    openFile self mode
  | "mkdir" =>
    let parents ← match g.named.lookup "parents" with
      | some v => isTrue w v
      | none => pure false
    let fine ← match g.named.lookup "exist_ok" with
      | some v => isTrue w v
      | none => pure false
    if parents then systemCall w "makedirs" ⟨[self], [("exist_ok", .bool fine)]⟩
    else
      match ← entryAt t with
      | .ok .directory => if fine then return .none else failAt .exists (some self)
      | _ => systemCall w "mkdir" ⟨[self], []⟩
  | "unlink" =>
    match ← entryAt t, g.named.lookup "missing_ok" with
    | .error _, some (.bool true) => return .none
    | _, _ => systemCall w "remove" ⟨[self], []⟩
  | "rmdir" => systemCall w "rmdir" ⟨[self], []⟩
  | "rename" => systemCall w "rename" ⟨[self, (g.plain[0]?).getD .none], []⟩
  | "resolve" => makePath (← fullPath t)
  | "absolute" => makePath (joinPaths (← workingDirectory) [t])
  | "iterdir" =>
    let names ← itemsOf w (← systemCall w "listdir" ⟨[self], []⟩)
    let paths ← names.mapM fun n => do makePath (joinPaths t [← pathOf n])
    makeIterator (.values paths)
  | "joinpath" => makePath (keptPath (joinPaths t (← g.plain.mapM pathOf)))
  | "with_suffix" => makePath ((splitEnding t).1 ++ (← pathOf ((g.plain[0]?).getD .none)))
  | "with_name" => makePath (joinPaths (splitPath t).1 [← pathOf ((g.plain[0]?).getD .none)])
  | "relative_to" => makePath (relativePath (← pathOf ((g.plain[0]?).getD .none)) t)
  | "touch" =>
    let _ ← openFile self ['a']
    return .none
  | _ => return .none
where
  /-- All that can be read along the path. -/
  readWhole (mode : Text) : Running Value := do
    let f ← openFile (.text t) mode
    w.call (← w.member f "read") [] []
  /-- A new content. -/
  writeWhole (mode : Text) (v : Value) : Running Value := do
    let f ← openFile (.text t) mode
    w.call (← w.member f "write") [v] []

end Equate.Shell.Dynamic
