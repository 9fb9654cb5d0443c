import Equate.Shell.Dynamic.Evaluation

/-!
# Classes of scripts

A class has what its body has set, and all that the classes above it have. Some classes
above say more about it: an enumeration makes members of what is set, a record has the
annotated names for its fields.
-/
namespace Equate.Shell.Dynamic

/-- The classes above one with these bases, each behind all that are below it. -/
def lineageOver (bases : List Value) : Running (List Value) := do
  let all := (← bases.mapM lineage).flatten
  return all.foldr (fun t kept => if kept.any (isSame t) then kept else t :: kept) []

/-- The functions among what a class has belong to it. -/
def ownFunctions (c : Value) (scope : Nat) : Nat → Value → Running Unit
  | 0, _ => return
  | fuel + 1, v => do
    match v with
    | .object n =>
      match ← objectAt? n with
      | some (.function d) => if d.scope = scope then setObject n (.function { d with owner := some c })
      | some (.property get set) =>
        ownFunctions c scope fuel get
        ownFunctions c scope fuel set
      | some (.wrapped _ f) => ownFunctions c scope fuel f
      | _ => return
    | _ => return

/-- What a class has is no member of an enumeration. -/
def isDescriptor (v : Value) : Running Bool := do
  match v with
  | .builtin _ => return true
  | .bound .. => return true
  | .method .. => return true
  | v =>
    match ← objectOf? v with
    | some (.function _) => return true
    | some (.property ..) => return true
    | some (.wrapped ..) => return true
    | some (.kind _) => return true
    | _ => return false

/-- What an enumeration has, with members for the values. -/
def enumerated (w : Ways) (c : Value) (fields : List (String × Value)) : Running (List (String × Value)) := do
  let numeric ← isBelow c (.type "int")
  let textual ← isBelow c (.type "str")
  let mut done : List (String × Value) := []
  let mut members : List (Value × Value) := []
  let mut last : Int := 0
  for (name, v) in fields do
    if "_".isPrefixOf name || (← isDescriptor v) then done := (name, v) :: done
    else
      let isAuto := match ← objectOf? v with
        | some (.made (.type "enum.auto") ..) => true
        | _ => false
      let value : Value := if isAuto then (if textual then .text (lower name.toList) else .int (last + 1)) else v
      match value with
      | .int n => last := n
      | _ => pure ()
      match ← members.findM? fun (u, _) => areEqual w u value with
      | some (_, m) => done := (name, m) :: done
      | none =>
        let core := if numeric || textual then some value else none
        let m ← make (.made c [("_value_", value), ("_name_", .text name.toList)] core)
        members := members ++ [(value, m)]
        done := (name, m) :: done
        match fields.lookup "__init__" with
        | some f =>
          let arguments := match value with
            | .tuple items => items
            | v => [v]
          let _ ← w.call f (m :: arguments) []
        | none => pure ()
  return done.reverse

/-- What a class of records has. -/
def recordOf (fields : List (String × Value)) : Running (List (String × Value)) := do
  let names ← match fields.lookup "__annotations__" with
    | some d =>
      match ← objectOf? d with
      | some (.dict t _ _) => pure (t.keys.filterMap fun k => match k with
          | .text t => some (String.ofList t)
          | _ => none)
      | _ => pure []
    | none => pure []
  let defaults := names.filterMap fun n => fields.lookup n
  return ("_fields", .tuple (names.map fun n => .text n.toList)) :: (".defaults", .tuple defaults) ::
    fields.filter fun f => !names.contains f.1

/-- A function has to be there in the classes below. -/
def isAbstract : Nat → Value → Running Bool
  | 0, _ => return false
  | fuel + 1, v => do
    match v, ← objectOf? v with
    | .object n, some (.function _) => return (← noted? n "__isabstractmethod__").isSome
    | _, some (.property get _) => isAbstract fuel get
    | _, some (.wrapped _ f) => isAbstract fuel f
    | _, _ => return false

/-- The functions that a class still has to get. -/
def abstractNames (c : Value) (bases : List Value) (fields : List (String × Value)) : Running (List Text) := do
  let inherited ← bases.mapM fun b => do
    match ← classAttribute? b ".abstract" with
    | some (.tuple names) => return names.filterMap fun v => match v with
        | .text t => some t
        | _ => none
    | _ => return []
  let own := fields.map fun f => f.1.toList
  (inherited.flatten ++ own).eraseDups.filterM fun name => do
    match ← classAttribute? c (String.ofList name) with
    | some v => isAbstract 5 v
    | none => return false

/-- A class. Functions of its body know it from a scope around it. -/
def makeClass (w : Ways) (name : String) (bases : List Value) (fields options : List (String × Value))
    (scope around : Option Nat) : Running Value := do
  let isRecord := bases.any fun b => b matches .type "NamedTuple"
  let bases := if isRecord then [Value.type "tuple"] else if bases.isEmpty then [.type "object"] else bases
  for b in bases do
    let isType ← match b with
      | .type _ => pure true
      | b => do pure (← kindOf? b).isSome
    if !isType then
      typeError ((← typeName b).toList ++ "() takes at most 2 arguments (3 given)")
  let above ← lineageOver bases
  let n := (← get).store.size
  let c := Value.object n
  let fields ← if isRecord then recordOf fields else pure fields
  let _ ← make (.kind ⟨name, bases, c :: above, fields⟩)
  match around with
  | some s => putName s "__class__" c
  | none => pure ()
  match scope with
  | some s => fields.forM fun (_, v) => ownFunctions c s 5 v
  | none => pure ()
  if above.any fun t => t matches .type "Enum" then
    setObject n (.kind ⟨name, bases, c :: above, ← enumerated w c fields⟩)
  let abstract ← abstractNames c bases fields
  let inherits ← bases.anyM fun b => do return (← classAttribute? b ".abstract").isSome
  if !abstract.isEmpty || inherits then
    setMember w c ".abstract" (.tuple (abstract.map Value.text))
  match ← bases.findSomeM? fun b => classAttribute? b "__init_subclass__" with
  | some f =>
    let _ ← w.call f [c] (options.filter fun o => o.1 != "metaclass")
  | none => pure ()
  return c

/-- The member of an enumeration for a value. -/
def memberOfValue (w : Ways) (type : Value) (g : Given) : Running Value := do
  let wanted := (g.plain[0]?).getD .none
  let found ← (← itemsOf w type).findM? fun m => do
    if isSame m wanted then return true
    else
      match ← fieldsOf? m with
      | some (_, fields, _) =>
        match fields.lookup "_value_" with
        | some v => areEqual w v wanted
        | none => return false
      | none => return false
  match found with
  | some m => return m
  | none =>
    match ← classAttribute? type "_missing_" with
    | some f =>
      match ← w.call f [type, wanted] [] with
      | .none => refused wanted
      | v => return v
    | none => refused wanted
where
  /-- No member has the value. -/
  refused (v : Value) : Running Value := do
    valueError ((← reprOf w v) ++ " is not a valid " ++ (← nameOfType type).toList)

/-- A new instance of a class. -/
def instantiate (w : Ways) (type : Value) (g : Given) : Running Value := do
  if ← isBelow type (.type "Enum") then memberOfValue w type g
  else
    match ← classAttribute? type ".abstract" with
    | some (.tuple (n :: more)) =>
      let names ← (n :: more).mapM (strOf w)
      typeError ("Can't instantiate abstract class " ++ (← nameOfType type).toList ++ " with abstract method" ++
        (if more.isEmpty then [' '] else "s ".toList) ++ commas (inOrder names))
    | _ =>
      let maker ← classAttribute? type "__new__"
      let self ← match maker with
        | some f => w.call f (type :: g.plain) g.named
        | none => plainInstance w type g
      if !(← isBelow (← typeOf self) type) then return self
      else
        match ← classAttribute? type "__init__" with
        | some f =>
          match ← w.call f (self :: g.plain) g.named with
          | .none => return self
          | r => typeError ("__init__() should return None, not '" ++ (← typeName r).toList ++ ['\''])
        | none =>
          let isEmpty := g.plain.isEmpty && g.named.isEmpty
          if !isEmpty && maker.isNone && (← baseOf type) == "object" && (← classAttribute? type "_fields").isNone then
            typeError ((← nameOfType type).toList ++ "() takes no arguments")
          return self

end Equate.Shell.Dynamic
