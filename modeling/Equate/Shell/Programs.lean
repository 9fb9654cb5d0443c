import Equate.Shell.Condition
import Equate.Shell.Dynamic.CommandLine
import Equate.Shell.Flags
import Equate.Shell.Launching
import Equate.Shell.Records.CommandLine
import Equate.Shell.Utility.Calendar
import Equate.Shell.Utility.Characters
import Equate.Shell.Utility.Difference
import Equate.Shell.Utility.Digest
import Equate.Shell.Utility.Dump
import Equate.Shell.Utility.Editing
import Equate.Shell.Utility.Find
import Equate.Shell.Utility.Ordering
import Equate.Shell.Utility.Value

/-!
# Programs

What each program does, the shell included. A program runs in a process of its own, to
which only the exported parameters are known.
-/
namespace Equate.Shell

/-- The process of a program that is started. -/
def ownProcess (p : Process) (number : Nat) (name : Octets) (arguments : List Octets) : Process :=
  let exported := p.parameters.filter fun _ v => v.exported && v.value.isSome
  let exported := exported.map fun _ v => { v with fixed := false }
  let withOwn := [(lit "IFS", lit " \t\n"), (lit "OPTIND", lit "1"), (lit "PS1", lit "# "),
    (lit "PS2", lit "> "), (lit "PS4", lit "+ "), (lit "PPID", Text.decimal p.number)].foldl
      (fun vs (name, value) => vs.insert name ⟨some value, false, false⟩) exported
  { number, name, arguments
    parameters := withOwn
    functions := Std.ExtTreeMap.empty
    flags := []
    status := 0
    descriptors := p.descriptors
    actions := p.actions.filter fun a => a.2.isEmpty
    here := p.here
    line := 0
    caller := none
    loops := 0
    calls := 0
    locals := []
    tested := false
    isMain := true
    lastJob := none
    exiting := none
    aliases := []
    tracked := []
    scanned := 0
    deadline := p.deadline }

/-- A shell by its arguments. -/
def runShell (run : Command → Act Unit) (name : Octets) (arguments : List Octets) : Act Finish := do
  let outer ← process
  let p := ownProcess outer (← newNumber) name []
  let refusing (words : Octets) : Act Finish := do
    let _ ← write 2 (name ++ lit ": 0: " ++ words ++ ['\n'])
    return .exited 2
  let go (name : Octets) (arguments : List Octets) (flags : List Char) (text : Octets) :
      Act Finish := do
    setProcess fun _ => { p with name, arguments, flags := flags.filter (· ≠ 'm') }
    if flags.contains 'm' then
      let _ ← write 2 (name ++ lit ": 0: " ++ withoutTerminal ++ ['\n'])
    let finish ← toEnd run do
      let _ ← runText run text
    setProcess fun _ => outer
    return finish
  match Start.read arguments with
  | .error words => refusing words
  | .ok s =>
    print s.shown
    if s.command then
      match s.rest with
      | [] => refusing (lit "-c requires an argument")
      | text :: names => go (names.headD name) names.tail s.flags text
    else
      match s.rest with
      | [] => go name [] (switch true 's' s.flags) ((← readAll 0).getD [])
      | path :: rest =>
        if s.flags.contains 's' then go name s.rest s.flags ((← readAll 0).getD [])
        else
          let files ← files
          match files.find (decode path) with
          | .error obstacle =>
            let words := match obstacle with
              | .missing => lit "No such file"
              | .notDirectory => lit "No such file"
              | obstacle => obstacle.words
            refusing (lit "cannot open " ++ path ++ lit ": " ++ words)
          | .ok (.device (.stream n)) => go path rest s.flags ((← readAll n).getD [])
          | .ok (.device (.pipe n)) =>
            openPipe n false
            let text ← unread n
            consume n text.length
            go path rest s.flags text
          | .ok _ =>
            match files.read (decode path) with
            | .ok content => go path rest s.flags (ofBytes content)
            | .error _ => return .exited 0

/-- A condition given by the arguments. -/
def condition (bracketed : Bool) (arguments : List Octets) : Act Nat := do
  if bracketed then
    if arguments.getLast? = some [']'] then
      return if ← Condition.holds arguments.dropLast then 0 else 1
    else refuse (lit "missing ]")
  else return if ← Condition.holds arguments then 0 else 1

/-- A program that says always the same. -/
def saying (t : String) (status : Nat) : Utility := fun _ _ => do
  Utility.say (lit t)
  return status

/-- A new file or directory with a name of its own. -/
def mktemp : Utility := fun name arguments =>
  Utility.withOptions "dp::qtuσ:" [("directory", 'd'), ("tmpdir", 'p'), ("quiet", 'q'), ("dry-run", 'u'),
      ("suffix", 'σ')] name arguments 1 fun g => do
    let template := g.operands.headD (lit "tmp.XXXXXXXXXX")
    let tail := (g.value? 'σ').getD []
    let marks := (template.reverse.takeWhile (· = 'X')).length
    let usual := (← valueOf? (lit "TMPDIR")).getD []
    let usual := if usual = [] then lit "/tmp" else usual
    if 1 < g.operands.length then Utility.misuse name (lit "too many templates") 1
    else if marks < 3 then
      Utility.blame name (lit "too few X's in template " ++ Utility.quote template)
      return 1
    else
      let number := Text.decimal (1000000000 + (← newNumber))
      let letters := (List.replicate (marks - number.length) 'a' ++ number).reverse.take marks
      let own := template.take (template.length - marks) ++ letters ++ tail
      let path := match g.value? 'p' with
        | some [] => usual ++ '/' :: own
        | some directory => directory ++ '/' :: own
        | none => if g.operands.isEmpty || g.has 't' then usual ++ '/' :: own else own
      let files ← files
      match files.target (decode path) with
      | .ok t =>
        if !g.has 'u' then
          setFiles (files.put t.place (if g.has 'd' then .directory else .file [] false))
        Utility.say (path ++ ['\n'])
        return 0
      | .error obstacle =>
        let kind := if g.has 'd' then "directory" else "file"
        if !g.has 'q' then
          Utility.blame name (lit "failed to create " ++ lit kind ++ lit " via template " ++
            Utility.quote (path.take (path.length - letters.length - tail.length) ++
              List.replicate marks 'X' ++ tail) ++ lit ": " ++ obstacle.words)
        return 1

/-- The paths of programs. -/
def which : Utility := fun _ arguments => do
  let all := arguments.head? == some (lit "-a")
  let missing ← (if all then arguments.tail else arguments).foldlM (fun missing n => do
    match ← pathOfProgram n with
    | .ok path => Utility.say (path ++ ['\n']); return missing
    | .error _ => return true) false
  return if missing || arguments.isEmpty then 1 else 0

/-- A line again and again, for as long as anybody reads. -/
def yes : Utility := fun _ arguments => do
  let arguments := if arguments.head? = some (lit "--") then arguments.tail else arguments
  let line := (if arguments.isEmpty then ['y'] else Text.joinWith [' '] arguments) ++ ['\n']
  Utility.say (List.replicate 2000 line).flatten
  if (← process).deadline.isSome then throw .expired
  return 0

/-- The user in numbers or in words. -/
def id : Utility := fun name arguments =>
  Utility.withOptions "agGnruz" [("group", 'g'), ("groups", 'G'), ("name", 'n'), ("real", 'r'), ("user", 'u'),
      ("zero", 'z')] name arguments 1 fun g => do
    Utility.say (if g.has 'u' || g.has 'g' || g.has 'G' then
        lit (if g.has 'n' then "root\n" else "0\n")
      else lit "uid=0(root) gid=0(root) groups=0(root)\n")
    return 0

/-- The name of the system and its parts. -/
def uname : Utility := fun name arguments =>
  Utility.withOptions "asnrvmpio" [("all", 'a'), ("kernel-name", 's'), ("nodename", 'n'),
      ("kernel-release", 'r'), ("kernel-version", 'v'), ("machine", 'm'), ("processor", 'p'),
      ("hardware-platform", 'i'), ("operating-system", 'o')] name arguments 1 fun g => do
    let parts := [('s', "Linux"), ('n', "localhost"), ('r', "6.1.0"), ('v', "#1 SMP"), ('m', "x86_64"),
      ('p', "unknown"), ('i', "unknown"), ('o', "GNU/Linux")]
    let chosen := parts.filter fun (c, words) =>
      g.has c || (c = 's' && g.options.isEmpty) || (g.has 'a' && words != "unknown")
    Utility.say (Text.joinWith [' '] (chosen.map fun p => lit p.2) ++ ['\n'])
    return 0

/-- The programs that start others. -/
def starter? (run : Command → Act Unit) (program : Octets) : Option Utility :=
  match String.ofList program with
  | "awk" => some (Records.program run)
  | "env" => some (env run)
  | "find" => some (Utility.find fun words => do statusOf (← launch run words))
  | "mawk" => some (Records.program run)
  | "nawk" => some (Records.program run)
  | "nice" => some (nice run)
  | "nohup" => some (passing "+" [] run)
  | "printenv" => some (printenv run)
  | "python3" => some (Dynamic.program run)
  | "setsid" => some (passing "+cfw" [("ctty", 'c'), ("fork", 'f'), ("wait", 'w')] run)
  | "sleep" => some (sleep run)
  | "stdbuf" => some (passing "+i:o:e:" [("input", 'i'), ("output", 'o'), ("error", 'e')] run)
  | "timeout" => some (timeout run)
  | "xargs" => some (xargs run)
  | _ => none

/-- The programs that read and write texts. -/
def textUtility? (program : Octets) : Option Utility :=
  match String.ofList program with
  | "base32" => some (Utility.baseDigits Utility.alphabet32)
  | "base64" => some (Utility.baseDigits Utility.alphabet64)
  | "cat" => some Utility.cat
  | "cksum" => some Utility.cksum
  | "cmp" => some Utility.cmp
  | "comm" => some Utility.comm
  | "cut" => some Utility.cut
  | "diff" => some Utility.diff
  | "egrep" => some fun _ arguments => Utility.grep (lit "grep") (lit "-E" :: arguments)
  | "expand" => some Utility.expand
  | "fgrep" => some fun _ arguments => Utility.grep (lit "grep") (lit "-F" :: arguments)
  | "fold" => some Utility.fold
  | "grep" => some Utility.grep
  | "head" => some Utility.head
  | "join" => some Utility.join
  | "md5sum" => some (Utility.digests "md5sum")
  | "nl" => some Utility.nl
  | "od" => some Utility.od
  | "paste" => some Utility.paste
  | "rev" => some Utility.rev
  | "sed" => some Utility.sed
  | "sha1sum" => some (Utility.digests "sha1sum")
  | "sha224sum" => some (Utility.digests "sha224sum")
  | "sha256sum" => some (Utility.digests "sha256sum")
  | "sha384sum" => some (Utility.digests "sha384sum")
  | "sha512sum" => some (Utility.digests "sha512sum")
  | "sort" => some Utility.sort
  | "split" => some Utility.split
  | "sum" => some Utility.sum
  | "tac" => some Utility.tac
  | "tail" => some Utility.tail
  | "tee" => some Utility.tee
  | "tr" => some Utility.tr
  | "unexpand" => some Utility.unexpand
  | "uniq" => some Utility.uniq
  | "wc" => some Utility.wc
  | _ => none

/-- The programs that work on the tree of files. -/
def treeUtility? (program : Octets) : Option Utility :=
  match String.ofList program with
  | "basename" => some Utility.basename
  | "chmod" => some Utility.chmod
  | "cp" => some Utility.cp
  | "dd" => some Utility.dd
  | "dirname" => some Utility.dirname
  | "install" => some Utility.install
  | "link" => some Utility.link
  | "ln" => some Utility.ln
  | "ls" => some Utility.ls
  | "mkdir" => some Utility.mkdir
  | "mkfifo" => some Utility.mkfifo
  | "mktemp" => some mktemp
  | "mv" => some Utility.mv
  | "pwd" => some Utility.pwd
  | "readlink" => some Utility.readlink
  | "realpath" => some Utility.realpath
  | "rm" => some Utility.rm
  | "rmdir" => some Utility.rmdir
  | "stat" => some Utility.stat
  | "sync" => some fun _ _ => return 0
  | "touch" => some Utility.touch
  | "truncate" => some Utility.truncate
  | "unlink" => some Utility.unlink
  | "which" => some which
  | _ => none

/-- What a program does, by its name. -/
def utility? (run : Command → Act Unit) (program : Octets) : Option Utility :=
  ((starter? run program).orElse fun _ => textUtility? program).orElse fun _ =>
  (treeUtility? program).orElse fun _ =>
    match String.ofList program with
    | "arch" => some (saying "x86_64\n" 0)
    | "date" => some Utility.date
    | "echo" => some Utility.echo
    | "expr" => some Utility.expr
    | "factor" => some Utility.factor
    | "false" => some fun _ _ => return 1
    | "groups" => some (saying "root\n" 0)
    | "hostname" => some (saying "localhost\n" 0)
    | "id" => some id
    | "nproc" => some (saying "1\n" 0)
    | "printf" => some Utility.printf
    | "seq" => some Utility.seq
    | "true" => some fun _ _ => return 0
    | "tty" => some (saying "not a tty\n" 1)
    | "uname" => some uname
    | "whoami" => some (saying "root\n" 0)
    | "yes" => some yes
    | _ => none

/-- What a program does whose output is closed: the complaints, behind its name if they
are its own, and its status. -/
def closedOutput (program name : Octets) : List Octets × Nat :=
  let own (words : String) : Octets := name ++ lit ": " ++ lit words
  let words := ": Bad file descriptor"
  match String.ofList program with
  | "cat" => ([own ("standard output" ++ words)], 1)
  | "diff" => ([own ("standard output" ++ words)], 2)
  | "env" => ([own ("write error" ++ words)], 125)
  | "expr" => ([own ("write error" ++ words)], 3)
  | "grep" => ([own ("write error" ++ words)], 2)
  | "hostname" => ([], 0)
  | "ls" => ([own ("write error" ++ words)], 2)
  | "printenv" => ([own ("write error" ++ words)], 2)
  | "rev" => ([], 0)
  | "sed" => ([own ("couldn't close stdout" ++ words)], 4)
  | "sort" => ([own ("fflush failed: 'standard output'" ++ words), own ("write error" ++ words)], 2)
  | "tee" => ([own ("'standard output'" ++ words)], 1)
  | "tty" => ([own ("write error" ++ words)], 3)
  | "yes" => ([own ("standard output" ++ words)], 1)
  | _ => ([own ("write error" ++ words)], 1)

/-- What is run in the name of a program, and not as a shell. A mistake is the status
two. -/
def runUtility (run : Command → Act Unit) (program name : Octets) (arguments : List Octets) :
    Act Nat := do
  let isTest := program = lit "test" ∨ program = lit "["
  if isTest then
    let p ← process
    let put : Act Unit := setProcess fun q => { q with name := p.name, line := p.line, caller := p.caller }
    try
      let status ← condition (program = lit "[") arguments
      put
      return status
    catch
      | .failed => put; return 2
      | stop => put; throw stop
  else
    match utility? run program with
    | some u =>
      modify fun s => { s with lost := false }
      let status ← u name arguments
      if (← get).lost then
        modify fun s => { s with lost := false }
        let (complaints, status) := closedOutput program name
        complaints.forM fun line => do
          let _ ← write 2 (line ++ ['\n'])
        return status
      else return status
    | none => return 0

/-- What a path leads to is run. -/
def runAt (run : Command → Act Unit) (name path : Octets) (arguments : List Octets) :
    Act (Except Obstacle Finish) := do
  match runnableAt (← files) path with
  | .error obstacle => return .error obstacle
  | .ok .script => return .ok (← runShell run (lit "sh") (path :: arguments))
  | .ok (.program program) => return .ok (← start program name arguments)
  | .ok (.interpreted interpreter word) =>
    match runnableAt (← files) interpreter with
    | .ok (.program program) =>
      return .ok (← start program interpreter (word.toList ++ path :: arguments))
    | .ok _ => return .ok (← runShell run (lit "sh") (path :: arguments))
    | .error obstacle => return .error obstacle
where
  /-- A program by its own name. -/
  start (program name : Octets) (arguments : List Octets) : Act Finish := do
    if program = lit "dash" ∨ program = lit "bash" then runShell run name arguments
    else
      let before ← process
      try return .exited (← runUtility run program name arguments)
      catch
        | .killed signal =>
          setProcess fun _ => before
          return .killed signal
        | stop => throw stop

end Equate.Shell
