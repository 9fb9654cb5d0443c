import Equate.Number.Decimal
import Equate.Shell.Printed
import Equate.Shell.Utility.Lines

/-!
# Programs that count
-/
namespace Equate.Shell.Utility

/-- A number as an argument: its value in units of a place, how many places there are
behind the point, and how wide it is as it is written. -/
structure Written where
  digits : Int
  places : Nat
  width : Nat

/-- A number as an argument. -/
def written? (t : Octets) : Option Written := do
  let (negative, unsigned) := Number.readSign t
  let d ← Decimal.read? unsigned
  let mantissa := unsigned.takeWhile fun c => c != 'e' && c != 'E'
  let exponent := t.length - (t.length - unsigned.length) - mantissa.length
  let places := (-d.exponent).toNat
  let scaled := d.digits * Nat.pow 10 (d.exponent + places).toNat
  let value : Int := if negative then -scaled else scaled
  let width := t.length - exponent
  let width := if mantissa.getLast? = some '.' then width - 1
    else if mantissa.head? = some '.' then width + 1 else width
  return ⟨value, places, width⟩

/-- The value in units of so many places. -/
def Written.scaled (w : Written) (places : Nat) : Int := w.digits * (Nat.pow 10 (places - w.places) : Nat)

/-- A number with so many places behind the point. -/
def fixedText (places : Nat) (n : Int) : Octets :=
  let digits := Text.decimal n.natAbs
  let digits := List.replicate (places + 1 - digits.length) '0' ++ digits
  let whole := digits.take (digits.length - places)
  (if n < 0 then ['-'] else []) ++ whole ++
    if places = 0 then [] else '.' :: digits.drop (digits.length - places)

/-- A format with one directive: what is in front of it, its shape and letter, and what
follows it. -/
def seqFormat? (t : Octets) : Option (Octets × Shape × Char × Octets) := do
  let rec front : Octets → Octets × Octets
    | '%' :: '%' :: rest =>
      let (a, b) := front rest
      ('%' :: a, b)
    | '%' :: rest => ([], rest)
    | c :: rest =>
      let (a, b) := front rest
      (c :: a, b)
    | [] => ([], [])
  let (before, rest) := front t
  let flags := rest.takeWhile fun c => ['#', '-', '+', ' ', '0', '\''].contains c
  let rest := rest.drop flags.length
  let width := rest.takeWhile Char.isDigit
  let rest := rest.drop width.length
  let (precision, rest) := match rest with
    | '.' :: rest =>
      let digits := rest.takeWhile Char.isDigit
      (some (Text.digitsValue digits), rest.drop digits.length)
    | rest => (none, rest)
  match rest with
  | c :: behind =>
    if (lit "eEfFgG").contains c then
      let (after, more) := front behind
      if more ≠ [] then none
      else some (before, ⟨flags, Text.digitsValue width, precision⟩, c, after)
    else none
  | [] => none

/-- An option whose value is the next argument. -/
def wantsValue (a : Octets) : Bool :=
  if a.take 2 == ['-', '-'] then
    2 < a.length && [lit "--format", lit "--separator"].any a.isPrefixOf
  else
    let flags := a.drop 1
    flags.findIdx (fun c => c == 'f' || c == 's') + 1 == flags.length

/-- The arguments with a mark in front of the first number, so that a negative number is
not taken for an option. -/
def markNumbers (isValue : Bool) : List Octets → List Octets
  | [] => []
  | a :: rest =>
    let isOption := a.head? == some '-' && (a.drop 1).head?.any fun c => !(c.isDigit || c == '.')
    if isValue then a :: markNumbers false rest
    else if !isOption then ['-', '-'] :: a :: rest
    else if a == ['-', '-'] then a :: rest
    else a :: markNumbers (wantsValue a) rest

/-- Numbers from one to another. -/
def seq : Utility := fun name arguments => do
  withOptions "+wf:s:" [("equal-width", 'w'), ("format", 'f'), ("separator", 's')] name (markNumbers false arguments) 1 fun g => do
    let operands := g.operands
    match operands with
    | [] => misuse name (lit "missing operand") 1
    | _ :: _ :: _ :: extra :: _ => misuse name (lit "extra operand '" ++ extra ++ ['\'']) 1
    | _ =>
    match operands.find? fun a => (written? a).isNone with
    | some a => misuse name (lit "invalid floating point argument: '" ++ a ++ ['\'']) 1
    | none =>
      let one : Written := ⟨1, 0, 1⟩
      let (first, step, last) := match operands.filterMap written? with
        | [c] => (one, one, c)
        | [a, c] => (a, one, c)
        | a :: b :: c :: _ => (a, b, c)
        | [] => (one, one, one)
      if step.digits = 0 then
        misuse name (lit "invalid Zero increment value: '" ++ (operands.drop 1).headD [] ++ ['\'']) 1
      else
        let places := max first.places step.places
        let fine := max places last.places
        let (a, b, c) := (first.scaled fine, step.scaled fine, last.scaled fine)
        let count := if (0 < b ∧ c < a) ∨ (b < 0 ∧ a < c) then 0 else (Int.tdiv (c - a) b).toNat + 1
        let values := (List.range count).map fun (n : Nat) => first.scaled places + step.scaled places * (n : Int)
        let wide (w : Written) : Nat :=
          if w.places = 0 ∧ 0 < places then w.width + 1 + places
          else if 0 < w.places ∧ places = 0 then w.width - 1 - w.places
          else w.width + places - w.places
        let width := if g.has 'w' then max (wide first) (wide last) else 0
        let plain (n : Int) : Octets :=
          let t := fixedText places n
          let missing := width - t.length
          if n < 0 then '-' :: List.replicate missing '0' ++ t.drop 1 else List.replicate missing '0' ++ t
        let separator := (g.value? 's').getD ['\n']
        match g.value? 'f' with
        | none =>
          if 0 < count then say (Text.joinWith separator (values.map plain) ++ ['\n'])
          return 0
        | some format =>
          match seqFormat? format with
          | none => misuse name (lit "format '" ++ format ++ lit "' has no % directive") 1
          | some (before, shape, letter, behind) =>
            let shown (n : Int) : Octets :=
              let x := (Decimal.mk n.natAbs (-(places : Int))).toFloat
              before ++ shape.float letter (Number.withSign (n < 0) x) ++ behind
            if 0 < count then say (Text.joinWith separator (values.map shown) ++ ['\n'])
            return 0

/-- The prime factors of a number. -/
def factors : Nat → (divisor n : Nat) → List Nat
  | 0, _, n => [n]
  | fuel + 1, d, n =>
    if n < 2 then []
    else if n < d * d then [n]
    else if n % d = 0 then d :: factors fuel d (n / d)
    else factors fuel (if d = 2 then 3 else d + 2) n

/-- The prime factors of numbers. -/
def factor : Utility := fun name arguments =>
  withOptions "h" [("exponents", 'h')] name arguments 1 fun g => do
    let words ← if g.operands.isEmpty then
        pure ((Text.splitOn ' ' (((← readAll 0).getD []).map fun c => if isSpace c then ' ' else c)).filter
          (· ≠ []))
      else pure g.operands
    words.foldlM (fun status w => do
      match natural? w with
      | none =>
        blame name (Octets.quoted w ++ lit " is not a valid positive integer")
        return 1
      | some n =>
        say (Text.decimal n ++ [':'] ++ (factors 10000000 2 n).flatMap (fun p => ' ' :: Text.decimal p) ++ ['\n'])
        return status) 0
where
  /-- A word in quotes. -/
  Octets.quoted (w : Octets) : Octets := ['\''] ++ w ++ ['\'']

end Equate.Shell.Utility
