import Equate.Json.Basic

/-!
# Quoted strings

`quote` writes the quote, the backslash and the control characters as escapes and all
other characters as themselves. `unquote?` undoes every escape, those that `quote` never
writes too. An escape of four hexadecimal digits is a 16-bit unit: a leading surrogate
must be followed by the escape of a trailing one, and none may stand alone. A string
keeps its escapes until somebody asks for its characters, so `readQuoted?` only checks
their shape.
-/
namespace Equate.Json

/-- A digit in base sixteen, in either case. -/
def hexValue? (c : Char) : Option Nat :=
  if c.isDigit then some (c.toNat - '0'.toNat)
  else if 'a' ≤ c ∧ c ≤ 'f' then some (c.toNat - 'a'.toNat + 10)
  else if 'A' ≤ c ∧ c ≤ 'F' then some (c.toNat - 'A'.toNat + 10)
  else none

/-- The unit that four hexadecimal digits denote. -/
def unit? (a b c d : Char) : Option Nat := do
  let a ← hexValue? a
  let b ← hexValue? b
  let c ← hexValue? c
  let d ← hexValue? d
  return ((a * 16 + b) * 16 + c) * 16 + d

/-- The character that a one-letter escape stands for. -/
def escaped? : Char → Option Char
  | '"' => some '"'
  | '\\' => some '\\'
  | '/' => some '/'
  | 'b' => some '\x08'
  | 'f' => some '\x0c'
  | 'n' => some '\n'
  | 'r' => some '\r'
  | 't' => some '\t'
  | _ => none

/-- A digit below sixteen, in small letters. -/
def hexDigit (n : Nat) : Char := Nat.digitChar n

/-- One character inside quotes. -/
def quoteChar (c : Char) : Text :=
  match c with
  | '"' => "\\\""
  | '\\' => "\\\\"
  | '\x08' => "\\b"
  | '\x0c' => "\\f"
  | '\n' => "\\n"
  | '\r' => "\\r"
  | '\t' => "\\t"
  | c =>
    if c.toNat < 0x20 then "\\u00" ++ [hexDigit (c.toNat / 16), hexDigit (c.toNat % 16)]
    else [c]

/-- A text as it stands between quotes. -/
def quote (t : Text) : Text := t.flatMap quoteChar

/-- A unit that must be followed by its partner. -/
def isLeading (unit : Nat) : Bool := 0xD800 ≤ unit && unit < 0xDC00

/-- A unit that may only follow its partner. -/
def isTrailing (unit : Nat) : Bool := 0xDC00 ≤ unit && unit < 0xE000

/-- The character of a pair of units. -/
def pairChar (leading trailing : Nat) : Char :=
  Char.ofNat (0x10000 + (leading - 0xD800) * 0x400 + (trailing - 0xDC00))

/-- The text that stands between quotes, escapes undone. -/
def unquote? : Text → Option Text
  | [] => some []
  | '\\' :: 'u' :: a :: b :: c :: d :: rest => do
    let unit ← unit? a b c d
    if isTrailing unit then none
    else if isLeading unit then
      match rest with
      | '\\' :: 'u' :: a :: b :: c :: d :: rest => do
        let partner ← unit? a b c d
        if isTrailing partner then (unquote? rest).map (pairChar unit partner :: ·) else none
      | _ => none
    else (unquote? rest).map (Char.ofNat unit :: ·)
  | '\\' :: e :: rest => do
    let c ← escaped? e
    (unquote? rest).map (c :: ·)
  | c :: rest => if c = '\\' then none else (unquote? rest).map (c :: ·)

/-- What stands in front of the closing quote, and what behind it. Control characters
and unknown escapes are refused. -/
def readQuoted? : Text → Option (Text × Text)
  | [] => none
  | '"' :: rest => some ([], rest)
  | '\\' :: 'u' :: a :: b :: c :: d :: rest =>
    if (unit? a b c d).isSome then
      (readQuoted? rest).map fun (inner, rest) =>
        ('\\' :: 'u' :: a :: b :: c :: d :: inner, rest)
    else none
  | '\\' :: e :: rest =>
    if (escaped? e).isSome then
      (readQuoted? rest).map fun (inner, rest) => ('\\' :: e :: inner, rest)
    else none
  | c :: rest =>
    if c = '\\' ∨ c.toNat < 0x20 then none
    else (readQuoted? rest).map fun (inner, rest) => (c :: inner, rest)

theorem readQuoted?_shorter {t inner rest : Text} (h : readQuoted? t = some (inner, rest)) :
    rest.length < t.length := by
  fun_induction readQuoted? t generalizing inner rest with
  | case1 => simp at h
  | case2 rest => simp_all
  | case3 a b c d tail hu ih =>
    simp only [Option.map_eq_some_iff, Prod.exists, Prod.mk.injEq] at h
    obtain ⟨i, r, hr, -, rfl⟩ := h
    have := ih hr
    simp only [List.length_cons]
    omega
  | case4 => simp at h
  | case5 e tail _ _ ih =>
    simp only [Option.map_eq_some_iff, Prod.exists, Prod.mk.injEq] at h
    obtain ⟨i, r, hr, -, rfl⟩ := h
    have := ih hr
    simp only [List.length_cons]
    omega
  | case6 => simp at h
  | case7 => simp at h
  | case8 c tail _ _ _ _ ih =>
    simp only [Option.map_eq_some_iff, Prod.exists, Prod.mk.injEq] at h
    obtain ⟨i, r, hr, -, rfl⟩ := h
    have := ih hr
    simp only [List.length_cons]
    omega

end Equate.Json
