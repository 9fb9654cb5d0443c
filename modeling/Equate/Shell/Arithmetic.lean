import Equate.Shell.Octets

/-!
# Sums in scripts

Sums are of integers of 64 bits, which wrap round; a numeral that is too large stands for
the largest integer. Names stand for the values of parameters, and assigning to them is
part of a sum.
-/
namespace Equate.Shell

/-- What a sum is made of. -/
inductive Calculation where
  | number (n : Int)
  | parameter (name : Octets)
  | negative (a : Calculation)
  | complement (a : Calculation)
  | isZero (a : Calculation)
  | apply (operator : Octets) (a b : Calculation)
  | conjunction (a b : Calculation)
  | disjunction (a b : Calculation)
  | choose (condition a b : Calculation)
  | assign (name : Octets) (operator : Option Octets) (a : Calculation)
  /-- What has been read up to the point where something else was expected. -/
  | broken (a : Calculation) (words : Octets)

namespace Calculation

/-- The largest integer. -/
def largest : Int := 9223372036854775807

/-- An integer as 64 bits hold it. -/
def wrap (n : Int) : Int := Int.bmod n 18446744073709551616

/-- The value of a digit in bases up to sixteen. -/
def digit? (base : Nat) (c : Char) : Option Nat :=
  let n :=
    if c.isDigit then c.toNat - 48
    else if 'a' ≤ c ∧ c ≤ 'f' then c.toNat - 87
    else if 'A' ≤ c ∧ c ≤ 'F' then c.toNat - 55
    else base
  if n < base then some n else none

/-- The number in front of a text, and what follows it. A zero says that it is octal, and
`0x` that it is hexadecimal. -/
def numeral (t : Octets) : Int × Octets :=
  let (base, digits) := match t with
    | '0' :: x :: d :: rest =>
      if (x = 'x' ∨ x = 'X') ∧ (digit? 16 d).isSome then (16, d :: rest)
      else (8, '0' :: x :: d :: rest)
    | '0' :: rest => (8, '0' :: rest)
    | t => (10, t)
  let used := digits.takeWhile fun c => (digit? base c).isSome
  let n := used.foldl (fun n c => n * base + (digit? base c).getD 0) 0
  (min (n : Int) largest, digits.drop used.length)

/-- A token of a sum. -/
inductive Token where
  | number (n : Int)
  | name (t : Octets)
  | sign (t : Octets)
  deriving DecidableEq

/-- The signs; of those that fit, the longest counts. -/
def signs : List Octets :=
  ["<<=", ">>=", "<<", ">>", "<=", ">=", "==", "!=", "&&", "||", "+=", "-=", "*=", "/=", "%=",
    "&=", "^=", "|=", "+", "-", "*", "/", "%", "<", ">", "=", "!", "&", "|", "^", "~", "?", ":",
    "(", ")"].map lit

/-- The tokens of a sum. A character that begins none is a token by itself. -/
def tokens : Nat → Octets → List Token
  | 0, _ => []
  | _, [] => []
  | fuel + 1, c :: rest =>
    if isSpace c then tokens fuel rest
    else if c.isDigit then
      let (n, behind) := numeral (c :: rest)
      .number n :: tokens fuel behind
    else if isNameStart c then
      let name := (c :: rest).takeWhile isNameChar
      .name name :: tokens fuel ((c :: rest).drop name.length)
    else
      match signs.find? fun s => s.isPrefixOf (c :: rest) with
      | some s => .sign s :: tokens fuel ((c :: rest).drop s.length)
      | none => .sign [c] :: tokens fuel rest

/-- The operators by how closely they bind, the closest first. -/
def levels : List (List Octets) :=
  [["*", "/", "%"], ["+", "-"], ["<<", ">>"], ["<", "<=", ">", ">="], ["==", "!="], ["&"], ["^"],
    ["|"]].map fun level => level.map lit

/-- The operator that an assignment applies first; none for the plain one. -/
def assigning? (sign : Octets) : Option (Option Octets) :=
  match sign with
  | ['='] => some none
  | _ =>
    if sign.getLast? = some '=' ∧ sign.length > 1 ∧
        !(["<=", ">=", "==", "!="].map lit).contains sign then
      some (some sign.dropLast)
    else none

/-- What is read, with the tokens behind it. Nothing is read behind a mistake. -/
abbrev Found := Calculation × List Token

/-- Something else was expected behind a sum. -/
def expecting (a : Calculation) (words : String) : Found := (.broken a (lit words), [])

/-- A number or a name was expected. -/
def noPrimary : Found := expecting (.number 0) "expecting primary"

mutual

/-- A sum that may assign. -/
def assignment : Nat → List Token → Found
  | 0, _ => noPrimary
  | fuel + 1, tokens =>
    match tokens with
    | .name name :: .sign s :: behind =>
      match assigning? s with
      | some operator =>
        let (a, rest) := assignment fuel behind
        (.assign name operator a, rest)
      | none => conditional fuel tokens
    | _ => conditional fuel tokens

/-- A choice, or less. -/
def conditional : Nat → List Token → Found
  | 0, _ => noPrimary
  | fuel + 1, tokens =>
    let (a, rest) := disjunctions fuel tokens
    match rest with
    | .sign ['?'] :: rest =>
      let (b, rest) := assignment fuel rest
      match rest with
      | .sign [':'] :: rest =>
        let (c, rest) := conditional fuel rest
        (.choose a b c, rest)
      | _ =>
        let (c, rest) := expecting (.number 0) "expecting ':'"
        (.choose a b c, rest)
    | _ => (a, rest)

/-- Alternatives. -/
def disjunctions : Nat → List Token → Found
  | 0, _ => noPrimary
  | fuel + 1, tokens =>
    let (a, rest) := conjunctions fuel tokens
    match rest with
    | .sign ['|', '|'] :: rest =>
      let (b, rest) := disjunctions fuel rest
      (.disjunction a b, rest)
    | _ => (a, rest)

/-- Conditions that all hold. -/
def conjunctions : Nat → List Token → Found
  | 0, _ => noPrimary
  | fuel + 1, tokens =>
    let (a, rest) := operations fuel levels.reverse tokens
    match rest with
    | .sign ['&', '&'] :: rest =>
      let (b, rest) := conjunctions fuel rest
      (.conjunction a b, rest)
    | _ => (a, rest)

/-- Operations of these levels, of which the first binds least. -/
def operations : Nat → List (List Octets) → List Token → Found
  | 0, _, _ => noPrimary
  | fuel + 1, [], tokens => primary fuel tokens
  | fuel + 1, level :: closer, tokens =>
    let (a, rest) := operations fuel closer tokens
    more fuel level closer a rest

/-- The operations of a level behind what has been read of it. -/
def more : Nat → List Octets → List (List Octets) → Calculation → List Token → Found
  | 0, _, _, _, _ => noPrimary
  | fuel + 1, level, closer, a, tokens =>
    match tokens with
    | .sign s :: rest =>
      if level.contains s then
        let (b, rest) := operations fuel closer rest
        more fuel level closer (.apply s a b) rest
      else (a, tokens)
    | _ => (a, tokens)

/-- A number, a name, a sum in brackets, or one of them behind signs. -/
def primary : Nat → List Token → Found
  | 0, _ => noPrimary
  | fuel + 1, tokens =>
    match tokens with
    | .number n :: rest => (.number n, rest)
    | .name name :: rest => (.parameter name, rest)
    | .sign ['('] :: rest =>
      let (a, rest) := assignment fuel rest
      match rest with
      | .sign [')'] :: rest => (a, rest)
      | _ => expecting a "expecting ')'"
    | .sign ['+'] :: rest => primary fuel rest
    | .sign ['-'] :: rest =>
      let (a, rest) := primary fuel rest
      (.negative a, rest)
    | .sign ['~'] :: rest =>
      let (a, rest) := primary fuel rest
      (.complement a, rest)
    | .sign ['!'] :: rest =>
      let (a, rest) := primary fuel rest
      (.isZero a, rest)
    | _ => noPrimary

end

/-- The sum that a text is. -/
def read (t : Octets) : Calculation :=
  let tokens := tokens (t.length + 1) t
  let (a, rest) := assignment (16 * tokens.length + 32) tokens
  if rest = [] then a else (expecting a "expecting EOF").1

/-- What was expected at the first mistake. -/
def mistake? : Calculation → Option Octets
  | number _ => none
  | parameter _ => none
  | negative a => a.mistake?
  | complement a => a.mistake?
  | isZero a => a.mistake?
  | apply _ a b => a.mistake?.or b.mistake?
  | conjunction a b => a.mistake?.or b.mistake?
  | disjunction a b => a.mistake?.or b.mistake?
  | choose condition a b => condition.mistake?.or (a.mistake?.or b.mistake?)
  | assign _ _ a => a.mistake?
  | broken a words => a.mistake?.or (some words)

/-- A number for a truth. -/
def ofBool (b : Bool) : Int := if b then 1 else 0

/-- An operator on two integers; `none` for a division by zero. -/
def operate? (operator : Octets) (a b : Int) : Option Int :=
  match String.ofList operator with
  | "*" => some (wrap (a * b))
  | "/" => if b = 0 then none else some (wrap (Int.tdiv a b))
  | "%" => if b = 0 then none else some (Int.tmod a b)
  | "+" => some (wrap (a + b))
  | "-" => some (wrap (a - b))
  | "<<" => some ((Int64.ofInt a) <<< (Int64.ofInt b)).toInt
  | ">>" => some ((Int64.ofInt a) >>> (Int64.ofInt b)).toInt
  | "<" => some (ofBool (a < b))
  | "<=" => some (ofBool (a ≤ b))
  | ">" => some (ofBool (b < a))
  | ">=" => some (ofBool (b ≤ a))
  | "==" => some (ofBool (a = b))
  | "!=" => some (ofBool (a ≠ b))
  | "&" => some ((Int64.ofInt a) &&& (Int64.ofInt b)).toInt
  | "^" => some ((Int64.ofInt a) ^^^ (Int64.ofInt b)).toInt
  | _ => some ((Int64.ofInt a) ||| (Int64.ofInt b)).toInt

/-- What a sum is worked out with. -/
structure Means (m : Type → Type) where
  /-- The value of a parameter. -/
  lookUp : Octets → m Int
  /-- Gives a parameter a value. -/
  set : Octets → Int → m Unit
  /-- A sum has a mistake. -/
  refuse : Octets → m Unit

/-- What a division by zero is called. -/
def byZero : Octets := lit "division by zero"

/-- The result of an operator. -/
def operated {m : Type → Type} [Monad m] (means : Means m) (operator : Octets) (a b : Int) :
    m Int := do
  match operate? operator a b with
  | some n => return n
  | none => means.refuse byZero; return 0

/-- A part that does not count. Its mistakes do. -/
def skipped {m : Type → Type} [Monad m] (means : Means m) (a : Calculation) : m Unit :=
  match a.mistake? with
  | some words => means.refuse words
  | none => pure ()

/-- The value of a sum. All comes to pass in the order in which it stands, mistakes
included. -/
def value {m : Type → Type} [Monad m] (means : Means m) : Calculation → m Int
  | number n => return n
  | parameter name => means.lookUp name
  | negative a => return wrap (-(← value means a))
  | complement a => return -(← value means a) - 1
  | isZero a => return ofBool ((← value means a) = 0)
  | apply operator a b => do
    let x ← value means a
    let y ← value means b
    operated means operator x y
  | conjunction a b => do
    if (← value means a) = 0 then
      skipped means b
      return 0
    else return ofBool ((← value means b) ≠ 0)
  | disjunction a b => do
    if (← value means a) ≠ 0 then
      skipped means b
      return 1
    else return ofBool ((← value means b) ≠ 0)
  | choose condition a b => do
    if (← value means condition) ≠ 0 then
      let n ← value means a
      skipped means b
      return n
    else
      skipped means a
      value means b
  | assign name operator a => do
    let y ← value means a
    match operator with
    | none => means.set name y; return y
    | some operator =>
      let n ← operated means operator (← means.lookUp name) y
      means.set name n
      return n
  | broken a words => do
    let n ← value means a
    means.refuse words
    return n

end Calculation
end Equate.Shell
