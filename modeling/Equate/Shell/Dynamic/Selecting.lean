import Equate.Shell.Dynamic.Evaluation

/-!
# Patterns of a selection

A pattern matches a value or not, and sets names if it does. What stands inside a pattern is
matched with the parts of the value.
-/
namespace Equate.Shell.Dynamic

/-- The names that a pattern sets, with their values. -/
abbrev Bindings := List (String × Value)

/-- The items of a value that counts as a sequence. -/
def sequenceItems? (w : Ways) (v : Value) : Running (Option (List Value)) := do
  match ← coreOf v with
  | .tuple items => return some items
  | .range a b c => return some (rangeItems (rangeLength a b c) a b c)
  | .object n =>
    match ← objectAt? n with
    | some (.list items) => return some items.toList
    | some (.deque items _) => return some items.toList
    | _ =>
      let _ := w
      return none
  | _ => return none

/-- The types whose values a pattern with one part matches as a whole. -/
def wholeTypes : List String :=
  ["bool", "bytes", "dict", "float", "frozenset", "int", "list", "set", "str", "tuple"]

/-- The names of the parts of a class that stand in a pattern without names. -/
def partNames (w : Ways) (type : Value) : Running (List String) := do
  let names ← match ← classAttribute? type "__match_args__" with
    | some v => do sequenceItems? w v
    | none =>
      match ← classAttribute? type "_fields" with
      | some v => do sequenceItems? w v
      | none => pure none
  return (names.getD []).filterMap fun v => match v with
    | .text t => some (String.ofList t)
    | _ => none

/-- All of some parts have to match. -/
def allMatch {α : Type} (one : α → Value → Running (Option Bindings)) : List (α × Value) → Running (Option Bindings)
  | [] => return some []
  | (p, v) :: rest => do
    match ← one p v with
    | none => return none
    | some found => return (← allMatch one rest).map (found ++ ·)

/-- The first that matches. -/
def firstMatch (one : Pattern → Running (Option Bindings)) : List Pattern → Running (Option Bindings)
  | [] => return none
  | p :: rest => do
    match ← one p with
    | some found => return some found
    | none => firstMatch one rest

/-- What a pattern sets if it matches a value. -/
def patternMatch (w : Ways) (scope : Nat) : Nat → Pattern → Value → Running (Option Bindings)
  | 0, _, _ => return none
  | fuel + 1, p, v => do
    let inner := patternMatch w scope fuel
    match p with
    | .value e =>
      let u ← w.evaluate scope e
      let holds ← match u with
        | .none => pure (isSame u v)
        | .bool _ => pure (isSame u v)
        | u => areEqual w v u
      return if holds then some [] else none
    | .capture n => return some [(n, v)]
    | .anything => return some []
    | .either ps => firstMatch (inner · v) ps
    | .bound p n => return (← inner p v).map fun found => found ++ [(n, v)]
    | .star _ => return none
    | .sequence ps =>
      match ← sequenceItems? w v with
      | none => return none
      | some items =>
        let star := ps.findIdx? fun p => p matches .star _
        match star with
        | none => if ps.length = items.length then allMatch inner (ps.zip items) else return none
        | some i =>
          let behind := ps.length - i - 1
          if items.length < ps.length - 1 then return none
          else
            let middle := (items.drop i).take (items.length - i - behind)
            let named ← match (ps[i]?).getD .anything with
              | .star (some n) => do pure [(n, ← makeList middle)]
              | _ => pure []
            let front ← allMatch inner ((ps.take i).zip items)
            let back ← allMatch inner ((ps.drop (i + 1)).zip (items.drop (items.length - behind)))
            return front.bind fun a => back.map fun b => a ++ named ++ b
    | .mapping entries rest =>
      match ← objectOf? (← coreOf v) with
      | some (.dict t _ _) =>
        let keys ← entries.mapM fun (k, p) => do return (← keyOf w (← w.evaluate scope k), p)
        if keys.all fun (m, _) => t.has m then
          let found ← allMatch inner (keys.filterMap fun (m, p) => (t.value? m).map fun x => (p, x))
          let others ← match rest with
            | some n => do pure [(n, ← makeDict (keys.foldl (fun (t : Table) (k : Text × Pattern) => t.drop k.1) t))]
            | none => pure []
          return found.map fun b => b ++ others
        else return none
      | _ => return none
    | .instanceOf e ps named =>
      let type ← w.evaluate scope e
      if !(← isInstanceOf w 20 v type) then return none
      else
        let isWhole := match type with
          | .type t => wholeTypes.contains t
          | _ => false
        if isWhole && ps.length == 1 then allMatch inner (ps.map fun p => (p, v))
        else
          let names ← partNames w type
          if names.length < ps.length then
            typeError ((← nameOfType type).toList ++ "() accepts " ++ Text.decimal names.length ++
              " positional sub-pattern" ++ (if names.length = 1 then [] else ['s']) ++ " (" ++
              Text.decimal ps.length ++ " given)")
          let wanted := (names.zip ps) ++ named
          let parts ← wanted.mapM fun (n, p) => do
            return (← catching ["AttributeError"] (some <$> w.member v n) fun _ => return none).map fun x => (p, x)
          if parts.any Option.isNone then return none
          else allMatch inner (parts.filterMap id)

/-- How deep patterns can stand in each other. -/
def patternDepth : Nat := 100

end Equate.Shell.Dynamic
