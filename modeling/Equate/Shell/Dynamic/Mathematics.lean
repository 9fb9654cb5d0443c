import Equate.Shell.Dynamic.Textual

/-!
# Functions on numbers

A function that has no value for a number refuses it; one whose value is too large says so.
Sums and lengths are worked out exactly before they are rounded.
-/
namespace Equate.Shell.Dynamic

/-- The functions on numbers. -/
def mathFunctions : List String :=
  ["sqrt", "exp", "log", "log2", "log10", "log1p", "expm1", "sin", "cos", "tan", "asin", "acos", "atan", "atan2",
    "sinh", "cosh", "tanh", "asinh", "acosh", "atanh", "hypot", "pow", "floor", "ceil", "trunc", "fabs",
    "factorial", "gcd", "lcm", "comb", "perm", "isclose", "isfinite", "isinf", "isnan", "copysign", "fmod", "modf",
    "frexp", "ldexp", "degrees", "radians", "fsum", "prod", "dist", "isqrt", "erf", "erfc", "gamma", "lgamma",
    "cbrt", "exp2", "remainder", "nextafter", "ulp", "sumprod"]

/-- The ratio of the circumference of a circle to its diameter. -/
def pi : Float := 3.141592653589793

/-- A value as a number. -/
def toFloat (w : Ways) (v : Value) : Running Float := do
  match ← coreOf v with
  | .float x => return x
  | .int n => floatOfInt n
  | .bool b => return if b then 1 else 0
  | _ =>
    match ← ask? w v "__float__" [] with
    | some (.float x) => return x
    | some (.int n) => floatOfInt n
    | _ => typeError ("must be real number, not " ++ (← typeName v).toList)

/-- The quotient of whole numbers that a finite number is. -/
def exactQuotient (x : Float) : Int × Nat :=
  let (a, b) := Records.quotientOf x
  (if Number.isNegative x then -(a : Int) else a, b)

/-- The sum of quotients. -/
def addQuotients (p q : Int × Nat) : Int × Nat :=
  if p.2 = q.2 then (p.1 + q.1, p.2) else
  let d := Nat.gcd p.2 q.2
  (p.1 * (q.2 / d : Nat) + q.1 * (p.2 / d : Nat), p.2 / d * q.2)

/-- The number nearest to a quotient. -/
def nearestTo (q : Int × Nat) : Float := Number.withSign (q.1 < 0) (Number.nearest q.1.natAbs q.2)

/-- The largest whole number whose square is not larger, by steps from above. -/
def rootOf (n : Nat) : Nat :=
  if n = 0 then 0
  else
    let rec go : Nat → Nat → Nat
      | 0, x => x
      | fuel + 1, x =>
        let y := (x + n / x) / 2
        if y < x then go fuel y else x
    go (n.log2 + 8) (Nat.pow 2 (n.log2 / 2 + 1))

/-- The number nearest to the root of a quotient. -/
def nearestRoot (n d : Nat) : Float :=
  if n = 0 then 0
  else
    let shift := 2200 - (n.log2 : Int) + d.log2
    let k := (shift / 2).toNat
    let scaled := n * Nat.pow 4 k / d
    let r := rootOf scaled
    let sticky := if r * r = scaled ∧ n * Nat.pow 4 k % d = 0 then 0 else 1
    Number.nearest (4 * r + sticky) (4 * Nat.pow 2 k)

/-- The length of a vector. -/
def norm (xs : List Float) : Float :=
  if xs.any Numeral.isInfinite then Numeral.infinity
  else if xs.any Numeral.isNaN then Numeral.nan
  else
    let (n, d) := xs.foldl (fun q x =>
      let (a, b) := exactQuotient x
      addQuotients q (a * a, b * b)) ((0 : Int), 1)
    nearestRoot n.natAbs d

/-- The logarithm of one more. -/
def logOnePlus (x : Float) : Float :=
  let u := 1 + x
  if u == 1 then x else if Numeral.isInfinite u then u else Float.log u * x / (u - 1)

/-- One less than the exponential. -/
def expLessOne (x : Float) : Float :=
  let u := Float.exp x
  if u == 1 then x
  else if u - 1 == -1 then -1
  else if Numeral.isInfinite u then u
  else (u - 1) * x / Float.log u

/-- The integral of the bell curve, by its series or its continued fraction. -/
def errorFunction (x : Float) : Float :=
  let y := x.abs
  let r :=
    if y < 2.5 then
      let (sum, _) := (List.range 80).foldl (fun ((sum, term) : Float × Float) n =>
        let k := Float.ofNat (n + 1)
        let term := term * (-(y * y)) / k
        (sum + term / (2 * k + 1), term)) (y, y)
      sum * 2 / Float.sqrt pi
    else if 6 < y then 1
    else
      let f := (List.range 60).foldl (fun f n => y + (Float.ofNat (60 - n) / 2) / f) y
      1 - Float.exp (-(y * y)) / (f * Float.sqrt pi)
  Number.withSign (Number.isNegative x) r

/-- What the integral of the bell curve misses. -/
def errorRest (x : Float) : Float :=
  if x < 2.5 then 1 - errorFunction x
  else if 27 < x then 0
  else
    let f := (List.range 60).foldl (fun f n => x + (Float.ofNat (60 - n) / 2) / f) x
    Float.exp (-(x * x)) / (f * Float.sqrt pi)

/-- The logarithm of the gamma function for positive numbers. -/
def logGamma (x : Float) : Float :=
  let c : List Float := [0.99999999999980993, 676.5203681218851, -1259.1392167224028, 771.32342877765313,
    -176.61502916214059, 12.507343278686905, -0.13857109526572012, 9.9843695780195716e-6,
    1.5056327351493116e-7]
  let y := x - 1
  let a := (c.drop 1).zipIdx.foldl (fun a (k, i) => a + k / (y + Float.ofNat (i + 1))) (c.headD 0)
  let t := y + 7.5
  0.5 * Float.log (2 * pi) + (y + 0.5) * Float.log t - t + Float.log a

/-- The product of whole numbers. -/
def productOf (first count : Nat) : Nat :=
  (List.range count).foldl (fun n i => n * (first + i)) 1

/-- The number next to another one in a direction. -/
def nextAfter (x y : Float) : Float :=
  if Numeral.isNaN x || Numeral.isNaN y then x + y
  else if x == y then y
  else if x == 0 then Number.withSign (y < 0) (Float.ofBits 1)
  else
    let up := (x < y) == (0 < x)
    Float.ofBits (if up then x.toBits + 1 else x.toBits - 1)

/-- A function on numbers. -/
def mathCall (w : Ways) (name : String) (g : Given) : Running Value := do
  let refused {α : Type} : Running α := valueError "math domain error"
  let range {α : Type} : Running α := fail "OverflowError" "math range error"
  let number (i : Nat) : Running Float := do
    match g.plain[i]? with
    | some v => toFloat w v
    | none => typeError ("math." ++ name.toList ++ "() takes exactly one argument (" ++ Text.decimal g.plain.length ++
        " given)")
  let whole (i : Nat) : Running Int := do
    match g.plain[i]? with
    | some v => wholeNumber w v
    | none => typeError ("math." ++ name.toList ++ "() takes exactly one argument (" ++ Text.decimal g.plain.length ++
        " given)")
  let give (x : Float) : Running Value := return .float x
  let checked (x y : Float) : Running Value := do
    if Numeral.isNaN y && !Numeral.isNaN x then refused
    else if Numeral.isInfinite y && Numeral.isFinite x then range
    else give y
  let simple (f : Float → Float) : Running Value := do
    let x ← number 0
    checked x (f x)
  let logarithm (f : Float → Float) (v : Value) : Running Float := do
    match ← coreOf v with
    | .int n =>
      if n ≤ 0 then refused
      else
        match Numeral.ofInt? n with
        | some x => return f x
        | none =>
          let k := n.natAbs.log2 - 60
          return f (Number.nearest (n.natAbs / Nat.pow 2 k) 1) + Float.ofNat k * f 2
    | _ =>
      let x ← toFloat w v
      if x ≤ 0 then refused else return f x
  let toWhole (f : Float → Float) (method : String) : Running Value := do
    let v := (g.plain[0]?).getD .none
    match ← coreOf v with
    | .int n => return .int n
    | .bool b => return .int (if b then 1 else 0)
    | _ =>
      match ← ask? w v method [] with
      | some r => return r
      | none =>
        let x ← toFloat w v
        if Numeral.isNaN x then valueError "cannot convert float NaN to integer"
        else if Numeral.isInfinite x then fail "OverflowError" "cannot convert float infinity to integer"
        else return .int (Numeral.toInt (f x))
  let naturals : Running (Nat × Nat) := do
    let n ← whole 0
    let k ← match g.plain[1]? with
      | some v => if v matches .none then pure n else wholeNumber w v
      | none => pure n
    if n < 0 then valueError "n must be a non-negative integer"
    else if k < 0 then valueError "k must be a non-negative integer"
    else return (n.toNat, k.toNat)
  match name with
  | "sqrt" => let x ← number 0; if x < 0 then refused else give (Float.sqrt x)
  | "cbrt" => simple Float.cbrt
  | "exp" => simple Float.exp
  | "exp2" => simple Float.exp2
  | "expm1" => simple expLessOne
  | "log" =>
    let x ← logarithm Float.log ((g.plain[0]?).getD .none)
    match g.plain[1]? with
    | none => give x
    | some b =>
      let y ← logarithm Float.log b
      if y == 0 then fail "ZeroDivisionError" "float division by zero" else give (x / y)
  | "log2" => give (← logarithm Float.log2 ((g.plain[0]?).getD .none))
  | "log10" => give (← logarithm Float.log10 ((g.plain[0]?).getD .none))
  | "log1p" => let x ← number 0; if x ≤ -1 then refused else give (logOnePlus x)
  | "sin" => simple Float.sin
  | "cos" => simple Float.cos
  | "tan" => simple Float.tan
  | "asin" => simple Float.asin
  | "acos" => simple Float.acos
  | "atan" => simple Float.atan
  | "atan2" => give (Float.atan2 (← number 0) (← number 1))
  | "sinh" => simple Float.sinh
  | "cosh" => simple Float.cosh
  | "tanh" => simple Float.tanh
  | "asinh" => simple Float.asinh
  | "acosh" => simple Float.acosh
  | "atanh" => let x ← number 0; if x.abs == 1 then refused else checked x (Float.atanh x)
  | "hypot" => give (norm (← g.plain.mapM (toFloat w)))
  | "dist" =>
    let a ← (← itemsOf w ((g.plain[0]?).getD .none)).mapM (toFloat w)
    let b ← (← itemsOf w ((g.plain[1]?).getD .none)).mapM (toFloat w)
    if a.length != b.length then valueError "both points must have the same number of dimensions"
    give (norm ((a.zip b).map fun (x, y) => x - y))
  | "pow" =>
    let x ← number 0
    let y ← number 1
    let z := Float.pow x y
    if (Numeral.isNaN z && !Numeral.isNaN x && !Numeral.isNaN y) || (x == 0 && y < 0 && !Numeral.isInfinite y) then refused
    else if Numeral.isInfinite z && Numeral.isFinite x && Numeral.isFinite y then range
    else give z
  | "floor" => toWhole Float.floor "__floor__"
  | "ceil" => toWhole Float.ceil "__ceil__"
  | "trunc" => toWhole id "__trunc__"
  | "fabs" => give (← number 0).abs
  | "factorial" =>
    match g.plain[0]? with
    | some (.float _) => typeError "'float' object cannot be interpreted as an integer"
    | _ =>
    let n ← whole 0
    if n < 0 then valueError "factorial() not defined for negative values" else return .int (productOf 1 n.toNat)
  | "gcd" => return .int ((← g.plain.mapM (wholeNumber w)).foldl (fun a b => Int.gcd a b) (0 : Nat))
  | "lcm" => return .int ((← g.plain.mapM (wholeNumber w)).foldl (fun a b => Int.lcm a b) (1 : Nat))
  | "comb" =>
    let (n, k) ← naturals
    return .int (if n < k then 0 else productOf (n - min k (n - k) + 1) (min k (n - k)) / productOf 1 (min k (n - k)) : Nat)
  | "perm" =>
    let (n, k) ← naturals
    return .int (if n < k then 0 else productOf (n - k + 1) k : Nat)
  | "isclose" =>
    let a ← number 0
    let b ← number 1
    let option (name : String) (usual : Float) : Running Float := do
      match g.named.lookup name with
      | some v => toFloat w v
      | none => return usual
    let relative ← option "rel_tol" 1e-9
    let total ← option "abs_tol" 0
    if relative < 0 || total < 0 then valueError "tolerances must be non-negative"
    return .bool (a == b || (Numeral.isFinite a && Numeral.isFinite b &&
      ((a - b).abs ≤ relative * (if a.abs < b.abs then b.abs else a.abs) || (a - b).abs ≤ total)))
  | "isfinite" => return .bool (Numeral.isFinite (← number 0))
  | "isinf" => return .bool (Numeral.isInfinite (← number 0))
  | "isnan" => return .bool (Numeral.isNaN (← number 0))
  | "copysign" => give (Number.withSign (Number.isNegative (← number 1)) (← number 0).abs)
  | "fmod" =>
    let x ← number 0
    let y ← number 1
    if Numeral.isInfinite x && !Numeral.isNaN y || y == 0 && !Numeral.isNaN x then refused
    else give (Records.remainder x y)
  | "remainder" =>
    let x ← number 0
    let y ← number 1
    if Numeral.isInfinite x || y == 0 then refused
    else if Numeral.isInfinite y then give x
    else
      let (a, b) := exactQuotient x
      let (c, d) := exactQuotient y
      let num := a * d * (if c < 0 then -1 else 1)
      let n := Numeral.roundQuotient num (b * c.natAbs)
      let rest := addQuotients (a, b) (-(n * c.natAbs), d)
      give (if rest.1 = 0 then Number.withSign (Number.isNegative x) 0 else nearestTo rest)
  | "modf" =>
    let x ← number 0
    let i := if Numeral.isInfinite x then x else Records.whole x
    let i := Number.withSign (Number.isNegative x) i.abs
    let f := if Numeral.isInfinite x then 0 else x - i
    return .tuple [.float (Number.withSign (Number.isNegative x) f.abs), .float i]
  | "frexp" =>
    let x ← number 0
    if x == 0 || !Numeral.isFinite x then return .tuple [.float x, .int 0]
    else
      let (m, e) := Float.frExp x
      return .tuple [.float m, .int e]
  | "ldexp" =>
    let x ← number 0
    let e ← whole 1
    let y := Float.scaleB x (max (-5000) (min 5000 e))
    if Numeral.isInfinite y && Numeral.isFinite x then range else give y
  | "degrees" => give ((← number 0) * (180 / pi))
  | "radians" => give ((← number 0) * (pi / 180))
  | "fsum" =>
    let xs ← (← itemsOf w ((g.plain[0]?).getD .none)).mapM (toFloat w)
    if xs.all Numeral.isFinite then
      let y := nearestTo ((xs.map exactQuotient).foldl addQuotients (0, 1))
      if Numeral.isInfinite y then fail "OverflowError" "intermediate overflow in fsum" else give y
    else give (xs.foldl (· + ·) 0)
  | "prod" =>
    let start := (g.named.lookup "start").getD (.int 1)
    (← itemsOf w ((g.plain[0]?).getD .none)).foldlM (operate w .multiply "*") start
  | "sumprod" =>
    let a ← itemsOf w ((g.plain[0]?).getD .none)
    let b ← itemsOf w ((g.plain[1]?).getD .none)
    (a.zip b).foldlM (fun s (x, y) => do operate w .add "+" s (← operate w .multiply "*" x y)) (.int 0)
  | "isqrt" =>
    let n ← whole 0
    if n < 0 then valueError "isqrt() argument must be nonnegative" else return .int (rootOf n.toNat)
  | "erf" => give (errorFunction (← number 0))
  | "erfc" => give (errorRest (← number 0))
  | "gamma" =>
    let x ← number 0
    if x == 0 || (x < 0 && Numeral.isWhole x) then refused
    else if Numeral.isWhole x && x ≤ 24 then
      give (Number.nearest (productOf 1 (Numeral.toInt x - 1).toNat) 1)
    else if x < 0.5 then give (pi / (Float.sin (pi * x) * Float.exp (logGamma (1 - x))))
    else checked x (Float.exp (logGamma x))
  | "lgamma" =>
    let x ← number 0
    if x ≤ 0 && Numeral.isWhole x then refused
    else if x < 0.5 then give (Float.log (pi / (Float.sin (pi * x)).abs) - logGamma (1 - x))
    else if x == 1 || x == 2 then give 0
    else give (logGamma x)
  | "nextafter" => give (nextAfter (← number 0) (← number 1))
  | "ulp" =>
    let x := (← number 0).abs
    if Numeral.isFinite x then give (Float.ofBits (x.toBits + 1) - x) else give x
  | _ => return .none

/-- The constants beside the functions. -/
def mathConstant? (name : String) : Option Value :=
  match name with
  | "pi" => some (.float pi)
  | "e" => some (.float 2.718281828459045)
  | "tau" => some (.float 6.283185307179586)
  | "inf" => some (.float Numeral.infinity)
  | "nan" => some (.float Numeral.nan)
  | _ => none

/-! ## Random numbers -/

/-- How many words the state of random numbers has. -/
def twisterSize : Nat := 624

/-- The state of random numbers that begins with a word. -/
def twisterFrom (seed : UInt32) : Array UInt32 :=
  (List.range (twisterSize - 1)).foldl (fun (mt : Array UInt32) (i : Nat) =>
    let last : UInt32 := (mt[i]?).getD 0
    let next : UInt32 := (1812433253 : UInt32) * (last ^^^ (last >>> 30)) + (i + 1).toUInt32
    mt.push next) #[seed]

/-- The words of a number. -/
def wordsOfNat : Nat → Nat → List UInt32
  | 0, _ => []
  | fuel + 1, n => if n < 4294967296 then [n.toUInt32] else n.toUInt32 :: wordsOfNat fuel (n / 4294967296)

/-- The state of random numbers that a number gives. -/
def twisterOf (seed : Nat) : Array UInt32 :=
  let key := (wordsOfNat (seed.log2 + 2) seed).toArray
  let at_ (mt : Array UInt32) (i : Nat) : UInt32 := (mt[i]?).getD 0
  let turn (mt : Array UInt32) (i : Nat) : Array UInt32 × Nat :=
    if twisterSize ≤ i then (mt.setIfInBounds 0 (at_ mt (twisterSize - 1)), 1) else (mt, i)
  let (mt, i, _) := (List.range (max twisterSize key.size)).foldl (fun ((mt, i, j) : Array UInt32 × Nat × Nat) _ =>
    let x := (at_ mt i ^^^ ((at_ mt (i - 1) ^^^ (at_ mt (i - 1) >>> 30)) * 1664525)) + at_ key j + j.toUInt32
    let (mt, i) := turn (mt.setIfInBounds i x) (i + 1)
    (mt, i, if key.size ≤ j + 1 then 0 else j + 1)) (twisterFrom 19650218, 1, 0)
  let (mt, _) := (List.range (twisterSize - 1)).foldl (fun ((mt, i) : Array UInt32 × Nat) _ =>
    let x := (at_ mt i ^^^ ((at_ mt (i - 1) ^^^ (at_ mt (i - 1) >>> 30)) * 1566083941)) - i.toUInt32
    turn (mt.setIfInBounds i x) (i + 1)) (mt, i)
  mt.setIfInBounds 0 0x80000000

/-- The next state of random numbers. -/
def twist (mt : Array UInt32) : Array UInt32 :=
  (List.range twisterSize).foldl (fun (mt : Array UInt32) i =>
    let at_ (i : Nat) : UInt32 := (mt[i % twisterSize]?).getD 0
    let y := (at_ i &&& 0x80000000) ||| (at_ (i + 1) &&& 0x7fffffff)
    mt.setIfInBounds i (at_ (i + 397) ^^^ (y >>> 1) ^^^ (if y &&& 1 == 1 then 0x9908b0df else 0))) mt

/-- The next random word. -/
def drawWord : Running UInt32 := do
  let m ← get
  let (mt, i) : Array UInt32 × Nat := if m.random.isEmpty then (twist (twisterOf 0), 0)
    else if twisterSize ≤ m.drawn then (twist m.random, 0) else (m.random, m.drawn)
  modify fun m => { m with random := mt, drawn := i + 1 }
  let y := (mt[i]?).getD 0
  let y := y ^^^ (y >>> 11)
  let y := y ^^^ ((y <<< 7) &&& 0x9d2c5680)
  let y := y ^^^ ((y <<< 15) &&& 0xefc60000)
  return y ^^^ (y >>> 18)

/-- A random number below one. -/
def drawFloat : Running Float := do
  let a := (← drawWord) >>> 5
  let b := (← drawWord) >>> 6
  return (Float.ofNat a.toNat * 67108864 + Float.ofNat b.toNat) / 9007199254740992

/-- A random number of so many bits. -/
def drawBits (k : Nat) : Running Nat := do
  if k ≤ 32 then return ((← drawWord) >>> (32 - k).toUInt32).toNat * (if k = 0 then 0 else 1)
  else
    let rec go : Nat → Nat → Running (List Nat)
      | 0, _ => return []
      | n + 1, left => do
        let r ← drawWord
        let r := if left < 32 then (r >>> (32 - left).toUInt32).toNat else r.toNat
        return r :: (← go n (left - 32))
    let parts ← go ((k - 1) / 32 + 1) k
    return parts.foldr (fun r n => n * 4294967296 + r) 0

/-- A random number below another one. -/
def drawBelow (n : Nat) : Running Nat := do
  let k := n.log2 + 1
  let rec go : Nat → Running Nat
    | 0 => return 0
    | fuel + 1 => do
      let r ← drawBits k
      if r < n then return r else go fuel
  if n = 0 then return 0 else go 1000

/-- The functions for random numbers. -/
def randomFunctions : List String :=
  ["seed", "random", "randint", "randrange", "choice", "shuffle", "uniform", "sample", "choices", "getrandbits",
    "gauss", "normalvariate", "expovariate"]

/-- A function for random numbers. -/
def randomCall (w : Ways) (name : String) (g : Given) : Running Value := do
  let number (i : Nat) : Running Float := toFloat w ((g.plain[i]?).getD .none)
  let whole (i : Nat) : Running Int := wholeNumber w ((g.plain[i]?).getD .none)
  match name with
  | "seed" =>
    match g.at? 0 "a" with
    | some (.int n) => modify fun m => { m with random := twisterOf n.natAbs, drawn := twisterSize }
    | _ => modify fun m => { m with random := twisterOf 0, drawn := twisterSize }
    return .none
  | "random" => return .float (← drawFloat)
  | "getrandbits" => return .int (← drawBits (← whole 0).toNat)
  | "randint" =>
    let a ← whole 0
    let b ← whole 1
    if b < a then valueError ("empty range for randrange() (" ++ integerText a ++ ", " ++ integerText (b + 1) ++ ", " ++
      integerText (b + 1 - a) ++ [')'])
    return .int (a + (← drawBelow (b - a + 1).toNat))
  | "randrange" =>
    let (a, b) ← if g.plain.length = 1 then do pure ((0 : Int), ← whole 0) else do pure (← whole 0, ← whole 1)
    let step ← if 2 < g.plain.length then whole 2 else pure 1
    let n := rangeLength a b step
    if n = 0 then valueError "empty range for randrange()"
    return .int (a + step * (← drawBelow n))
  | "uniform" =>
    let a ← number 0
    let b ← number 1
    return .float (a + (b - a) * (← drawFloat))
  | "choice" =>
    let items ← itemsOf w ((g.plain[0]?).getD .none)
    if items.isEmpty then fail "IndexError" "Cannot choose from an empty sequence"
    return (items[← drawBelow items.length]?).getD .none
  | "choices" =>
    let items ← itemsOf w ((g.plain[0]?).getD .none)
    let k ← match g.named.lookup "k" with
      | some v => wholeNumber w v
      | none => pure 1
    makeList (← (List.range k.toNat).mapM fun _ => do
      let i := Numeral.floorInt ((← drawFloat) * Float.ofNat items.length)
      return (items[i.toNat]?).getD .none)
  | "shuffle" =>
    let target := (g.plain[0]?).getD .none
    match target, ← objectOf? target with
    | .object n, some (.list items) =>
      let all ← (List.range (items.size - 1)).foldlM (fun (items : Array Value) k => do
        let i := items.size - 1 - k
        let j ← drawBelow (i + 1)
        return items.swapIfInBounds i j) items
      setObject n (.list all)
      return .none
    | _, _ => typeError "object does not support item assignment"
  | "sample" =>
    let items ← itemsOf w ((g.plain[0]?).getD .none)
    let k ← whole 1
    let n := items.length
    if k < 0 ∨ (n : Int) < k then valueError "Sample larger than population or is negative"
    let k := k.toNat
    let setSize := if k ≤ 5 then 21 else
      21 + Nat.pow 4 (Numeral.toInt (Float.ceil (Float.log (Float.ofNat (k * 3)) / Float.log 4))).toNat
    if n ≤ setSize then
      let (found, _) ← (List.range k).foldlM (fun (found, pool) i => do
        let j ← drawBelow (n - i)
        let v := (pool[j]?).getD Value.none
        let last := (pool[n - i - 1]?).getD Value.none
        return (found ++ [v], pool.setIfInBounds j last)) (([] : List Value), items.toArray)
      makeList found
    else
      let rec fresh (taken : List Nat) : Nat → Running Nat
        | 0 => return 0
        | fuel + 1 => do
          let j ← drawBelow n
          if taken.contains j then fresh taken fuel else return j
      let taken ← (List.range k).foldlM (fun taken _ => do return taken ++ [← fresh taken 10000]) []
      makeList (taken.map fun j => (items[j]?).getD .none)
  | "gauss" => normal number
  | "normalvariate" => normal number
  | "expovariate" => return .float (-(Float.log (1 - (← drawFloat))) / (← number 0))
  | _ => return .none
where
  /-- A number on the bell curve. -/
  normal (number : Nat → Running Float) : Running Value := do
    let x := (← drawFloat) * 2 * pi
    let r := Float.sqrt (-2 * Float.log (1 - (← drawFloat)))
    return .float ((← number 0) + Float.cos x * r * (← number 1))

end Equate.Shell.Dynamic
