import Equate.Shell.Dynamic.Textual

/-!
# Files of scripts

The streams that a script starts with are kept in the first places of the store, once for
texts and once for bytes. What is written to a file is there at once; what is printed is
kept for a while.
-/
namespace Equate.Shell.Dynamic

/-- The places of the streams in the store. -/
def streamPlace (descriptor : Nat) (binary : Bool) : Nat := descriptor + 1 + (if binary then 3 else 0)

/-- The descriptor of a place in the store, if a stream is kept there. -/
def streamAt? (n : Nat) : Option Nat := if 1 ≤ n ∧ n ≤ 6 then some ((n - 1) % 3) else none

/-- The objects that a script starts with: its names, and the streams. -/
def firstObjects : List Object :=
  let stream (path : Text) (index : Nat) (binary : Bool) : Object :=
    .file ⟨path, if index = 0 then (if binary then "rb" else "r") else (if binary then "wb" else "w"), index,
      binary, false⟩
  let streams (binary : Bool) : List Object :=
    [stream "<stdin>" 0 binary, stream "<stdout>" 1 binary, stream "<stderr>" 2 binary]
  .scope ⟨Std.ExtTreeMap.empty, [], none, false, false, [], [], []⟩ :: streams false ++ streams true

/-- A path that a value is. -/
def pathOf? (v : Value) : Running (Option Text) := do
  match ← coreOf v with
  | .text t => return some t
  | .bytes t => return some (decode t)
  | _ => return none

/-- A path that a value has to be. -/
def pathOf (v : Value) : Running Text := do
  match ← pathOf? v with
  | some t => return t
  | none => typeError ("expected str, bytes or os.PathLike object, not " ++ (← typeName v).toList)

/-- What may stand in a mode. -/
def isMode (mode : Text) : Bool :=
  let kinds := mode.filter fun c => ['r', 'w', 'a', 'x'].contains c
  mode.all (fun c => ['r', 'w', 'a', 'x', 'b', 't', '+'].contains c) && kinds.length == 1 &&
    !(mode.contains 'b' && mode.contains 't') && mode.eraseDups.length == mode.length

/-- A file is opened. -/
def openFile (path : Value) (mode : Text) : Running Value := do
  if !isMode mode then valueError ("invalid mode: '" ++ mode ++ ['\''])
  let binary := mode.contains 'b'
  let name := String.ofList mode
  match path with
  | .int n =>
    match ← (descriptor? n.toNat : Act (Option Nat)) with
    | some index =>
      if n < 3 then return .object (streamPlace n.toNat binary)
      else make (.file ⟨integerText n, name, index, binary, false⟩)
    | none => failAt .closed none
  | path =>
    match ← pathOf? path with
    | none => typeError ("expected str, bytes or os.PathLike object, not " ++ (← typeName path).toList)
    | some t =>
      if t.contains '\x00' then valueError "embedded null byte"
      let all ← (files : Act Files)
      let found := all.find t
      let kind := mode.find? fun c => ['r', 'w', 'a', 'x'].contains c
      match found, kind with
      | .ok .directory, some 'x' => failAt .exists (some path)
      | .ok .directory, _ => failAt .isDirectory (some path)
      | .error obstacle, some 'r' => failAt obstacle (some path)
      | .ok _, some 'x' => failAt .exists (some path)
      | _, kind =>
        let way : Mode := match kind with
          | some 'w' => .write
          | some 'a' => .append
          | some 'x' => .write
          | _ => .read
        let opened ← if mode.contains '+' && kind == some 'r' then do
            match all.place t with
            | .ok place => pure (Except.ok (← (addOpened ⟨.file place, 0, false⟩ : Act Nat)))
            | .error obstacle => pure (.error obstacle)
          else (openAt way true (encode t) : Act (Except Obstacle Nat))
        match opened with
        | .ok index => make (.file ⟨t, name, index, binary, false⟩)
        | .error obstacle => failAt obstacle (some path)

/-- A value that can be written to a stream, as octets, and how long it is. -/
def writtenOctets (binary : Bool) (v : Value) : Running (Octets × Nat) := do
  match ← coreOf v, binary with
  | .text t, false => return (encode t, t.length)
  | .bytes t, true => return (t, t.length)
  | _, false => typeError ("write() argument must be str, not " ++ (← typeName v).toList)
  | _, true => typeError ("a bytes-like object is required, not '" ++ (← typeName v).toList ++ ['\''])

/-- Octets are written to a file. -/
def writeOctets (n : Nat) (f : File) (t : Octets) : Running Unit := do
  match streamAt? n with
  | some 1 => emit t
  | some 2 =>
    let _ ← (write 2 t : Act Bool)
  | _ => (writeTo f.index t : Act Unit)

/-- What can still be read from a file. -/
def remaining (n : Nat) (f : File) : Running Octets := do
  match streamAt? n with
  | some 0 => input
  | some _ => return []
  | none => (unread f.index : Act Octets)

/-- So much is taken from a file. -/
def takeOctets (n : Nat) (f : File) (count : Nat) : Running Unit := do
  match streamAt? n with
  | some 0 => setInput ((← input).drop count)
  | some _ => return
  | none => (consume f.index count : Act Unit)

/-- Octets as a text, with all ends of lines alike. -/
def readableText (t : Octets) : Running Text := do
  let text ← if t.all fun c => c.toNat < 128 then pure t else decoded t "utf-8" "strict"
  if text.contains '\r' then
    let rec go : Text → Text
      | [] => []
      | '\r' :: '\n' :: rest => '\n' :: go rest
      | '\r' :: rest => '\n' :: go rest
      | c :: rest => c :: go rest
    return go text
  else return text

/-- The octets of so many characters. -/
def octetsOfChars : Nat → Octets → Nat
  | 0, _ => 0
  | _, [] => 0
  | n + 1, _ :: rest =>
    let more := (rest.takeWhile fun c => 0x80 ≤ c.toNat && c.toNat < 0xc0).length
    1 + more + octetsOfChars n (rest.drop more)

/-- Some octets of a file as a value. -/
def readOctets (n : Nat) (f : File) (count : Nat) (t : Octets) : Running Value := do
  takeOctets n f count
  let part := t.take count
  if f.binary then return .bytes part else return .text (← readableText part)

/-- The line at the front of what can be read. -/
def frontLine (t : Octets) : Nat :=
  let line := (t.takeWhile (· ≠ '\n')).length
  if line < t.length then line + 1 else line

/-- The next line of a file, if there is one. -/
def nextLine (n : Nat) (f : File) : Running (Option Value) := do
  if f.closed then valueError "I/O operation on closed file."
  let t ← remaining n f
  if t = [] then return none else return some (← readOctets n f (frontLine t) t)

/-- The methods of files. -/
def fileMethods : List String :=
  ["read", "readline", "readlines", "write", "writelines", "close", "flush", "seek", "tell", "fileno", "isatty",
    "readable", "writable", "seekable", "truncate", "__enter__", "__exit__", "__iter__", "reconfigure", "getvalue",
    "getbuffer", "detach"]

/-- A file does not let something be done. -/
def unsupported {α : Type} (words : Text) : Running α := do
  raise (← exception "OSError" [.text words] [])

/-- A method of a file. -/
def fileMethod (w : Ways) (n : Nat) (name : String) (f : File) (g : Given) : Running Value := do
  let mode := f.mode.toList
  let canRead := mode.contains 'r' || mode.contains '+'
  let canWrite := mode.contains 'w' || mode.contains 'a' || mode.contains 'x' || mode.contains '+'
  if f.closed && !(["close", "__exit__", "isatty"].contains name) then valueError "I/O operation on closed file."
  let reading : Running Unit := do
    if !canRead then unsupported "not readable"
  let writing : Running Unit := do
    if !canWrite then unsupported "not writable"
  let limit : Running (Option Nat) := do
    match g.some? 0 "size" with
    | some v =>
      let k ← wholeNumber w v
      return if k < 0 then none else some k.toNat
    | none => return none
  match name with
  | "read" =>
    reading
    let t ← remaining n f
    match ← limit with
    | none => readOctets n f t.length t
    | some k => readOctets n f (if f.binary then min k t.length else octetsOfChars k t) t
  | "readline" =>
    reading
    match ← nextLine n f with
    | some v => return v
    | none => return if f.binary then .bytes [] else .text []
  | "readlines" =>
    reading
    let t ← remaining n f
    takeOctets n f t.length
    if f.binary then makeList ((fullLines t).map Value.bytes)
    else makeList ((fullLines (← readableText t)).map Value.text)
  | "write" =>
    writing
    let (t, count) ← writtenOctets f.binary (← g.required name 0 "text")
    writeOctets n f t
    return .int count
  | "writelines" =>
    writing
    for v in ← itemsOf w (← g.required name 0 "lines") do
      let (t, _) ← writtenOctets f.binary v
      writeOctets n f t
    return .none
  | "flush" =>
    if streamAt? n = some 1 then flush
    return .none
  | "close" => close
  | "__exit__" => close
  | "__enter__" => return .object n
  | "__iter__" => return .object n
  | "seek" =>
    let offset ← wholeNumber w (← g.required name 0 "cookie")
    let whence ← match g.at? 1 "whence" with
      | some v => wholeNumber w v
      | none => pure 0
    match (← (get : Act State)).opened[f.index]? with
    | some o =>
      let size ← match o.channel with
        | .file place => do pure (← (contentAt place : Act Octets)).length
        | _ => pure 0
      let start : Int := if whence = 1 then o.offset else if whence = 2 then size else 0
      let target := (max 0 (start + offset)).toNat
      (modify fun (s : State) => { s with
        opened := s.opened.setIfInBounds f.index { o with offset := target } } : Act Unit)
      return .int target
    | none => return .int 0
  | "tell" =>
    match (← (get : Act State)).opened[f.index]? with
    | some o => return .int o.offset
    | none => return .int 0
  | "truncate" =>
    match (← (get : Act State)).opened[f.index]? with
    | some ⟨.file place, offset, _⟩ =>
      let size ← match g.some? 0 "size" with
        | some v => do pure (← wholeNumber w v).toNat
        | none => pure offset
      let content ← (contentAt place : Act Octets)
      let all ← (files : Act Files)
      (setFiles (all.setContent place (Shell.toBytes ((content ++ List.replicate (size - content.length) '\x00').take size))) :
        Act Unit)
      return .int size
    | _ => return .int 0
  | "fileno" => return .int ((streamAt? n).getD (f.index + 3))
  | "isatty" => return .bool false
  | "readable" => return .bool canRead
  | "writable" => return .bool canWrite
  | "seekable" => return .bool true
  | _ => return .none
where
  /-- The file is closed. -/
  close : Running Value := do
    if streamAt? n = some 1 then flush
    setObject n (.file { f with closed := true })
    return .none

/-- A method of a text that is used like a file. -/
def bufferMethod (w : Ways) (n : Nat) (name : String) (content : Text) (position : Nat) (binary : Bool) (g : Given) :
    Running Value := do
  let wrap (t : Text) : Value := if binary then .bytes t else .text t
  let put (content : Text) (position : Nat) : Running Unit := setObject n (.buffer content position binary)
  let rest := content.drop position
  let add (v : Value) (content : Text) (position : Nat) : Running (Text × Nat) := do
    match ← coreOf v, binary with
    | .text t, false => return (overlay content position t, position + t.length)
    | .bytes t, true => return (overlay content position t, position + t.length)
    | _, false => typeError ("string argument expected, got '" ++ (← typeName v).toList ++ ['\''])
    | _, true => typeError ("a bytes-like object is required, not '" ++ (← typeName v).toList ++ ['\''])
  match name with
  | "read" =>
    let count ← match g.some? 0 "size" with
      | some v => do
        let k ← wholeNumber w v
        pure (if k < 0 then rest.length else k.toNat)
      | none => pure rest.length
    put content (position + min count rest.length)
    return wrap (rest.take count)
  | "readline" =>
    put content (position + frontLine rest)
    return wrap (rest.take (frontLine rest))
  | "readlines" =>
    put content content.length
    makeList ((fullLines rest).map wrap)
  | "write" =>
    let v ← g.required name 0 "s"
    let (content, after) ← add v content position
    put content after
    return .int (after - position : Nat)
  | "writelines" =>
    let (content, after) ← (← itemsOf w (← g.required name 0 "lines")).foldlM (fun (content, position) v =>
      add v content position) (content, position)
    put content after
    return .none
  | "getvalue" => return wrap content
  | "getbuffer" => return wrap content
  | "seek" =>
    let offset ← wholeNumber w (← g.required name 0 "cookie")
    let target := match g.at? 1 "whence" with
      | some (.int 2) => content.length
      | _ => offset.toNat
    put content target
    return .int target
  | "tell" => return .int position
  | "truncate" =>
    let size ← match g.some? 0 "size" with
      | some v => do pure (← wholeNumber w v).toNat
      | none => pure position
    put (content.take size) position
    return .int size
  | "__enter__" => return .object n
  | "__iter__" => return .object n
  | "readable" => return .bool true
  | "writable" => return .bool true
  | "seekable" => return .bool true
  | "isatty" => return .bool false
  | _ => return .none

/-- What is printed goes to a value like a file. -/
def printTo (w : Ways) (target : Value) (t : Text) : Running Unit := do
  match target with
  | .object n =>
    match ← objectAt? n with
    | some (.file f) =>
      if streamAt? n = some 1 ∧ !f.closed then emit (encode t)
      else
        let _ ← fileMethod w n "write" f ⟨[.text t], []⟩
    | some (.buffer content position binary) =>
      let _ ← bufferMethod w n "write" content position binary ⟨[.text t], []⟩
    | _ =>
      let _ ← w.call (← w.member target "write") [.text t] []
  | .none => return
  | target =>
    let _ ← w.call (← w.member target "write") [.text t] []

/-- What a module says about one of its names, if a script has changed it. -/
def changed? (name : String) : Running (Option Value) := return (← get).settings.lookup name

/-- The values of a call of `print`. -/
def printValues (w : Ways) (g : Given) : Running Value := do
  let text (name : String) (usual : Text) : Running Text := do
    match (g.named.lookup name).filter fun v => !(v matches .none) with
    | some (.text t) => return t
    | some v => typeError (name.toList ++ " must be None or a string, not " ++ (← typeName v).toList)
    | none => return usual
  let separator ← text "sep" [' ']
  let ending ← text "end" ['\n']
  let target ← match (g.named.lookup "file").filter fun v => !(v matches .none) with
    | some v => pure v
    | none => do pure ((← changed? "sys.stdout").getD (.object (streamPlace 1 false)))
  let parts ← g.plain.mapM (strOf w)
  printTo w target (Text.joinWith separator parts ++ ending)
  if ← (match g.named.lookup "flush" with
      | some v => isTrue w v
      | none => pure false) then
    if target matches .object 2 then flush
  return .none

end Equate.Shell.Dynamic
