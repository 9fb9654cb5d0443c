import Equate.Number.Decimal
import Equate.Number.Plain
import Equate.Shell.Arithmetic

/-!
# What shells print

Both ways of printing read backslashes. In echoed text an octal number may have a zero
in front of its three digits, and `\c` ends the output; in a format it may not, and the
directives of the format take one argument each. A format with directives is used again
until there are no arguments left.
-/
namespace Equate.Shell

/-- An octal digit. -/
def isOctal (c : Char) : Bool := '0' ≤ c && c ≤ '7'

/-- The byte of up to three octal digits at the front of a text, and the rest. -/
def octal? (t : Octets) : Option (Char × Octets) :=
  let digits := (t.take 3).takeWhile isOctal
  if digits = [] then none
  else some (Char.ofNat (digits.foldl (fun n c => n * 8 + (c.toNat - 48)) 0 % 256),
    t.drop digits.length)

theorem octal?_shorter {t rest : Octets} {c : Char} (h : octal? t = some (c, rest)) :
    rest.length ≤ t.length := by
  simp only [octal?] at h
  split at h
  · simp at h
  · simp only [Option.some.injEq, Prod.mk.injEq] at h
    rw [← h.2, List.length_drop]
    omega

/-- The character that a letter stands for behind a backslash. -/
def letter? : Char → Option Char
  | 'a' => some '\x07'
  | 'b' => some '\x08'
  | 'e' => some '\x1b'
  | 'f' => some '\x0c'
  | 'n' => some '\n'
  | 'r' => some '\r'
  | 't' => some '\t'
  | 'v' => some '\x0b'
  | '\\' => some '\\'
  | _ => none

/-- What a backslash and the text behind it stand for, and the rest. A backslash in
front of anything else stands for itself. -/
def escape (t : Octets) : Octets × Octets :=
  match octal? t with
  | some (c, rest) => ([c], rest)
  | none =>
    match t with
    | [] => (['\\'], [])
    | c :: rest =>
      match letter? c with
      | some d => ([d], rest)
      | none => (['\\'], c :: rest)

theorem escape_shorter (t : Octets) : (escape t).2.length ≤ t.length := by
  unfold escape
  split
  · rename_i c rest h
    exact octal?_shorter h
  · split
    · simp
    · split <;> simp

/-- A text without the zero that leads an octal number. -/
def dropZero : Octets → Octets
  | '0' :: d :: rest => if isOctal d then d :: rest else '0' :: d :: rest
  | t => t

theorem dropZero_shorter (t : Octets) : (dropZero t).length ≤ t.length := by
  unfold dropZero
  split
  · split <;> simp
  · simp

/-- An echoed text, and whether the output goes on behind it. -/
def echoed (t : Octets) : Octets × Bool :=
  match t with
  | [] => ([], true)
  | '\\' :: 'c' :: _ => ([], false)
  | '\\' :: rest =>
    let (more, goesOn) := echoed (escape (dropZero rest)).2
    ((escape (dropZero rest)).1 ++ more, goesOn)
  | c :: rest =>
    let (more, goesOn) := echoed rest
    (c :: more, goesOn)
termination_by t.length
decreasing_by
  · have := escape_shorter (dropZero rest)
    have := dropZero_shorter rest
    simp only [List.length_cons]
    omega
  · simp

/-- The arguments, printed with blanks between them and a line feed behind them. -/
def echo (arguments : List Octets) : Octets :=
  let (texts, behind) := match arguments with
    | ['-', 'n'] :: rest => (rest, ([] : Octets))
    | all => (all, ['\n'])
  let (t, goesOn) := echoed (Text.joinWith [' '] texts)
  if goesOn then t ++ behind else t

/-- How a directive shapes what it prints. -/
structure Shape where
  flags : List Char
  width : Nat
  precision : Option Nat

namespace Shape

/-- A flag is given. -/
def has (s : Shape) (flag : Char) : Bool := s.flags.contains flag

/-- A text in the width of the shape. -/
def pad (s : Shape) (t : Octets) : Octets :=
  let blanks := List.replicate (s.width - t.length) ' '
  if s.has '-' then t ++ blanks else blanks ++ t

/-- A number in the width of the shape, which zeros behind the sign may fill. -/
def padNumber (s : Shape) (zeros : Bool) (sign digits : Octets) : Octets :=
  if zeros ∧ s.has '0' ∧ !s.has '-' then
    sign ++ List.replicate (s.width - sign.length - digits.length) '0' ++ digits
  else s.pad (sign ++ digits)

/-- The sign of a number. -/
def sign (s : Shape) (negative : Bool) : Octets :=
  if negative then ['-'] else if s.has '+' then ['+'] else if s.has ' ' then [' '] else []

/-- The digits of an integer, at least so many as the precision says. -/
def digits (s : Shape) (base n : Nat) : Octets :=
  let t := if n = 0 ∧ s.precision = some 0 then [] else Nat.toDigits base n
  List.replicate (s.precision.getD 1 - t.length) '0' ++ t

/-- An integer with a sign. -/
def integer (s : Shape) (n : Int) : Octets :=
  s.padNumber s.precision.isNone (s.sign (n < 0)) (s.digits 10 n.natAbs)

/-- An integer without a sign, in a base. -/
def unsigned (s : Shape) (conversion : Char) (n : Nat) : Octets :=
  match conversion with
  | 'o' =>
    let t := s.digits 8 n
    s.padNumber s.precision.isNone [] (if s.has '#' && t.head? != some '0' then '0' :: t else t)
  | 'x' => s.padNumber s.precision.isNone (if s.has '#' ∧ n ≠ 0 then ['0', 'x'] else [])
    (s.digits 16 n)
  | 'X' => s.padNumber s.precision.isNone (if s.has '#' ∧ n ≠ 0 then ['0', 'X'] else [])
    ((s.digits 16 n).map Char.toUpper)
  | _ => s.padNumber s.precision.isNone [] (s.digits 10 n)

/-- A quotient with so many places behind the point. -/
def fixed (s : Shape) (places num den : Nat) : Octets :=
  let t := Text.decimal (Number.roundHalfEven (num * Nat.pow 10 places) den)
  let t := List.replicate (places + 1 - t.length) '0' ++ t
  let fraction := t.drop (t.length - places)
  t.take (t.length - places) ++ if places = 0 ∧ !s.has '#' then [] else '.' :: fraction

/-- The digits of a quotient, so many behind the first one, and the exponent of the first
one. -/
def leading (places num den : Nat) : Nat × Int :=
  if num = 0 then (0, 0)
  else
    let e := Number.decade num den
    let rounded (e : Int) : Nat :=
      let shift := (places : Int) - e
      if 0 ≤ shift then Number.roundHalfEven (num * Nat.pow 10 shift.toNat) den
      else Number.roundHalfEven num (den * Nat.pow 10 (-shift).toNat)
    if rounded e < Nat.pow 10 (places + 1) then (rounded e, e) else (rounded (e + 1), e + 1)

/-- A quotient with one digit in front of the point and an exponent. -/
def scientific (s : Shape) (places num den : Nat) : Octets :=
  let (n, e) := leading places num den
  let t := Text.decimal n
  let t := List.replicate (places + 1 - t.length) '0' ++ t
  let exponent := Text.decimal e.natAbs
  t.take 1 ++ (if places = 0 ∧ !s.has '#' then [] else '.' :: t.drop 1) ++
    ['e', if e < 0 then '-' else '+'] ++ List.replicate (2 - exponent.length) '0' ++ exponent

/-- A numeral without the zeros that end its fraction. -/
def trimFraction (t : Octets) : Octets :=
  if t.contains '.' then
    let rest := t.reverse.dropWhile (· = '0')
    (if rest.head? = some '.' then rest.tail else rest).reverse
  else t

/-- A quotient in the shorter of both forms. -/
def general (s : Shape) (places num den : Nat) : Octets :=
  let places := max places 1
  let e := (leading (places - 1) num den).2
  if -4 ≤ e ∧ e < places then
    let t := s.fixed ((places : Int) - 1 - e).toNat num den
    if s.has '#' then t else trimFraction t
  else
    let t := s.scientific (places - 1) num den
    if s.has '#' then t
    else trimFraction (t.takeWhile (· ≠ 'e')) ++ t.dropWhile (· ≠ 'e')

/-- A number of binary64. -/
def float (s : Shape) (conversion : Char) (x : Float) : Octets :=
  let sign := s.sign (Number.isNegative x)
  let code := Number.magnitudeCode x
  let lower := conversion.toLower
  let t : Octets :=
    if Number.infinityCode < code then lit "nan"
    else if code = Number.infinityCode then lit "inf"
    else
      let (m, q) := Number.magnitude code
      let num := if 0 ≤ q then m * Nat.pow 2 q.toNat else m
      let den := if 0 ≤ q then 1 else Nat.pow 2 (-q).toNat
      let places := s.precision.getD 6
      if lower = 'f' then s.fixed places num den
      else if lower = 'e' then s.scientific places num den
      else s.general places num den
  s.padNumber (code < Number.infinityCode) sign
    (if conversion.isUpper then t.map Char.toUpper else t)

end Shape

/-- What is left of a numeral that has been read to some point, in words. -/
def numeralRemark (t behind : Octets) : List Octets :=
  if behind.length = t.length then [t ++ lit ": expected numeric value"]
  else if behind ≠ [] then [t ++ lit ": not completely converted"]
  else []

/-- The integer that an argument is, and what is to be said about it. A character behind
a quotation mark stands for its code. -/
def integerArgument (t : Octets) : Int × List Octets :=
  match t with
  | [] => (0, [])
  | '"' :: rest => ((rest.headD '\x00').toNat, [])
  | '\'' :: rest => ((rest.headD '\x00').toNat, [])
  | t =>
    let body := t.dropWhile isSpace
    let (negative, digits) := Number.readSign body
    let (n, behind) := Calculation.numeral digits
    let remark := numeralRemark t (if behind.length = digits.length then t else behind)
    let exact := (digits.takeWhile Char.isDigit)
    let large := Calculation.largest < (Text.digitsValue exact : Int) &&
      !(negative && Text.digitsValue exact == Nat.pow 2 63)
    let value := if negative then -n else n
    if large && behind = [] && exact.head? != some '0' then
      (if negative then -Calculation.largest - 1 else Calculation.largest,
        [t ++ lit ": Numerical result out of range"])
    else (value, remark)

/-- The number in front of a text, and what follows it. -/
def floatAtFront (t : Octets) : Float × Octets :=
  let (_, unsigned) := Number.readSign t
  let signed := t.length - unsigned.length
  let word := (unsigned.takeWhile Char.isAlpha).map Char.toLower
  let length :=
    if (["inf", "infinity", "nan"].map lit).contains word then word.length
    else
      let whole := unsigned.takeWhile Char.isDigit
      let rest := unsigned.drop whole.length
      let fraction := if rest.head? = some '.' then 1 + (rest.tail.takeWhile Char.isDigit).length
        else 0
      if whole.length = 0 ∧ fraction ≤ 1 then 0
      else
        let mantissa := whole.length + fraction
        let behind := unsigned.drop mantissa
        let exponent := match behind with
          | c :: rest =>
            let (_, digits) := Number.readSign rest
            let count := (digits.takeWhile Char.isDigit).length
            if (c = 'e' ∨ c = 'E') ∧ 0 < count then 1 + (rest.length - digits.length) + count
            else 0
          | [] => 0
        mantissa + exponent
  if length = 0 then (0, t)
  else ((Number.readNumber? (t.take (signed + length))).getD 0, t.drop (signed + length))

/-- The number that an argument is, and what is to be said about it. -/
def floatArgument (t : Octets) : Float × List Octets :=
  match t with
  | [] => (0, [])
  | '"' :: rest => (Float.ofNat (rest.headD '\x00').toNat, [])
  | '\'' :: rest => (Float.ofNat (rest.headD '\x00').toNat, [])
  | t =>
    let body := t.dropWhile isSpace
    let (x, behind) := floatAtFront body
    (x, numeralRemark t (if behind.length = body.length then t else behind))

/-- What has been printed so far, what there is to say about the arguments, and the
arguments that are left. -/
structure Printout where
  output : Octets
  remarks : List Octets
  left : List Octets
  /-- Nothing more is printed. -/
  finished : Bool
  /-- The format is refused. -/
  refusal : Option Octets

namespace Printout

/-- More output. -/
def add (p : Printout) (t : Octets) : Printout := { p with output := p.output ++ t }

/-- The next argument is used. -/
def use (p : Printout) : Octets × Printout := (p.left.headD [], { p with left := p.left.tail })

/-- A number at this place of a directive: of the format, or an argument for a star. -/
def count (p : Printout) (format : Octets) : Option Int × Octets × Printout :=
  match format with
  | '*' :: rest =>
    let (argument, p) := p.use
    let (n, remarks) := integerArgument argument
    (some n, rest, { p with remarks := p.remarks ++ remarks })
  | format =>
    let digits := format.takeWhile Char.isDigit
    (if digits = [] then none else some (Text.digitsValue digits), format.drop digits.length, p)

/-- One directive with its argument. -/
def convert (p : Printout) (s : Shape) (conversion : Char) (text : Octets) : Printout :=
  let (argument, q) := p.use
  match conversion with
  | 's' => q.add (s.pad (argument.take (s.precision.getD argument.length)))
  | 'c' => q.add (s.pad [argument.headD '\x00'])
  | 'b' =>
    let (t, goesOn) := echoed argument
    { q.add (s.pad (t.take (s.precision.getD t.length))) with finished := !goesOn }
  | c =>
    if c = 'd' ∨ c = 'i' then
      let (n, remarks) := integerArgument argument
      { q.add (s.integer n) with remarks := q.remarks ++ remarks }
    else if c = 'o' ∨ c = 'u' ∨ c = 'x' ∨ c = 'X' then
      let (n, remarks) := integerArgument argument
      { q.add (s.unsigned c (n % 18446744073709551616).toNat) with
        remarks := q.remarks ++ remarks }
    else if ['e', 'E', 'f', 'F', 'g', 'G'].contains c then
      let (x, remarks) := floatArgument argument
      { q.add (s.float c x) with remarks := q.remarks ++ remarks }
    else { p with finished := true, refusal := some (text ++ lit ": invalid directive") }

/-- A directive, at the text behind its percent sign, and what follows it. -/
def directive (p : Printout) (format : Octets) : Printout × Octets :=
  let flags := format.takeWhile fun c => ['#', '-', '+', ' ', '0'].contains c
  let (width, rest, p) := p.count (format.drop flags.length)
  let (precision, rest, p) := match rest with
    | '.' :: rest =>
      let (precision, rest, p) := p.count rest
      (some (precision.getD 0), rest, p)
    | rest => (none, rest, p)
  let shape : Shape :=
    { flags := if width.any (· < 0) then '-' :: flags else flags
      width := (width.getD 0).natAbs
      precision := precision.bind fun n => if n < 0 then none else some n.toNat }
  match rest with
  | [] => ({ p with finished := true, refusal := some (lit "missing format character") }, [])
  | c :: behind =>
    (p.convert shape c ('%' :: format.take (format.length - behind.length)), behind)

/-- One pass through a format. -/
def pass : Nat → Printout → Octets → Printout
  | 0, p, _ => p
  | fuel + 1, p, format =>
    if p.finished then p
    else
      match format with
      | [] => p
      | '\\' :: rest => pass fuel (p.add (escape rest).1) (escape rest).2
      | '%' :: '%' :: rest => pass fuel (p.add ['%']) rest
      | '%' :: rest =>
        let (p, rest) := p.directive rest
        pass fuel p rest
      | c :: rest => pass fuel (p.add [c]) rest

/-- As many passes as the arguments need. -/
def passes (format : Octets) : Nat → Printout → Printout
  | 0, p => p
  | n + 1, p =>
    let q := pass (format.length + 1) p format
    if q.finished || q.left.isEmpty || q.left.length == p.left.length then q else passes format n q

/-- A format with its arguments. -/
def of (format : Octets) (arguments : List Octets) : Printout :=
  passes format (arguments.length + 1) ⟨[], [], arguments, false, none⟩

end Printout
end Equate.Shell
