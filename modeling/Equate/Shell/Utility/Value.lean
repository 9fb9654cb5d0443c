import Equate.Shell.Utility.Basic
import Equate.Shell.Utility.EditScript
import Equate.Shell.Utility.Search

/-!
# The value of an expression given by arguments
-/
namespace Equate.Shell.Utility

/-- The operators of expressions by how closely they bind, the closest last. -/
def exprLevels : List (List Octets) :=
  [["|"], ["&"], ["<", "<=", "=", "==", "!=", ">=", ">"], ["+", "-"], ["*", "/", "%"], [":"]].map
    fun level => level.map lit

/-- A value counts as none. -/
def isNull (t : Octets) : Bool := t.isEmpty || integer? t == some 0

/-- The text that an expression matches at the front of a text: its first group, or how
long the match is. -/
def matchFront (t pattern : Octets) : Except Octets Octets := do
  let e ← Match.ofText (strictDialect false) pattern
  let s := subject false t
  let grouped := 0 < EditScript.groups e
  match e.matchAt? s true 0 with
  | some spot =>
    if grouped then
      return match spot.groups.lookup 1 with
        | some (first, last) => s.slice first last
        | none => []
    else return Text.decimal spot.position
  | none => return if grouped then [] else ['0']

/-- An operator on two values, or what is wrong with them. -/
def operateExpr (operator a b : Octets) : Except Octets Octets :=
  let truth (x : Bool) : Except Octets Octets := .ok (if x then ['1'] else ['0'])
  let numbers (f : Int → Int → Except Octets Octets) : Except Octets Octets :=
    match integer? a, integer? b with
    | some x, some y => f x y
    | _, _ => .error (lit "non-integer argument")
  let ordered (onNumbers : Int → Int → Bool) (onTexts : Octets → Octets → Bool) :
      Except Octets Octets :=
    match integer? a, integer? b with
    | some x, some y => truth (onNumbers x y)
    | _, _ => truth (onTexts a b)
  match String.ofList operator with
  | "|" => .ok (if isNull a then (if isNull b then ['0'] else b) else a)
  | "&" => .ok (if isNull a || isNull b then ['0'] else a)
  | "<" => ordered (fun x y => x < y) isBefore
  | "<=" => ordered (fun x y => x ≤ y) fun x y => !isBefore y x
  | "=" => ordered (fun x y => x == y) (fun x y => x == y)
  | "==" => ordered (fun x y => x == y) (fun x y => x == y)
  | "!=" => ordered (fun x y => x != y) (fun x y => x != y)
  | ">=" => ordered (fun x y => y ≤ x) fun x y => !isBefore x y
  | ">" => ordered (fun x y => y < x) fun x y => isBefore y x
  | "+" => numbers fun x y => .ok (integerText (x + y))
  | "-" => numbers fun x y => .ok (integerText (x - y))
  | "*" => numbers fun x y => .ok (integerText (x * y))
  | "/" => numbers fun x y =>
    if y = 0 then .error (lit "division by zero") else .ok (integerText (Int.tdiv x y))
  | "%" => numbers fun x y =>
    if y = 0 then .error (lit "division by zero") else .ok (integerText (Int.tmod x y))
  | _ => matchFront a b

mutual

/-- A value of operators of these levels, and the arguments behind it. -/
def exprValue : Nat → List (List Octets) → List Octets → Except Octets (Octets × List Octets)
  | 0, _, _ => .error (lit "syntax error")
  | fuel + 1, [], arguments =>
    match arguments with
    | [] => .error (lit "syntax error: missing argument")
    | ['('] :: rest => do
      let (value, rest) ← exprValue fuel exprLevels rest
      match rest with
      | [')'] :: rest => return (value, rest)
      | [] => .error (lit "syntax error: expecting ')'")
      | other :: _ =>
        .error (lit "syntax error: expecting ')' instead of '" ++ other ++ lit "'")
    | word :: rest =>
      match String.ofList word, rest with
      | "length", t :: rest => .ok (Text.decimal t.length, rest)
      | "match", t :: pattern :: rest => return (← matchFront t pattern, rest)
      | "index", t :: set :: rest =>
        .ok (Text.decimal ((t.findIdx? fun c => set.contains c).elim 0 (· + 1)), rest)
      | "substr", t :: first :: count :: rest =>
        let start := ((integer? first).getD 0).toNat
        let n := ((integer? count).getD 0).toNat
        .ok (if start = 0 then [] else (t.drop (start - 1)).take n, rest)
      | _, _ => .ok (word, rest)
  | fuel + 1, level :: closer, arguments => do
    let (a, rest) ← exprValue fuel closer arguments
    exprMore fuel level closer a rest

/-- The operators of a level behind a value. -/
def exprMore : Nat → List Octets → List (List Octets) → Octets → List Octets →
    Except Octets (Octets × List Octets)
  | 0, _, _, _, _ => .error (lit "syntax error")
  | fuel + 1, level, closer, a, arguments =>
    match arguments with
    | [] => .ok (a, [])
    | operator :: rest =>
      if level.contains operator then
        if rest.isEmpty then
          .error (lit "syntax error: missing argument after '" ++ operator ++ lit "'")
        else do
          let (b, rest) ← exprValue fuel closer rest
          exprMore fuel level closer (← operateExpr operator a b) rest
      else .ok (a, operator :: rest)

end

/-- The value of an expression given by arguments. -/
def expr : Utility := fun name arguments => do
  if arguments.isEmpty then misuse name (lit "missing operand") 2
  else
    match exprValue (16 * arguments.length + 32) exprLevels arguments with
    | .error words => blame name words; return 2
    | .ok (value, []) => say (value ++ ['\n']); return if isNull value then 1 else 0
    | .ok (_, extra :: _) =>
      blame name (lit "syntax error: unexpected argument '" ++ extra ++ lit "'")
      return 2

end Equate.Shell.Utility
