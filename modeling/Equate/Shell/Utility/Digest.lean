import Equate.Shell.Utility.Lines

/-!
# Digests and encodings of bytes

A digest works on blocks of words. The bytes are followed by a bit, zeros, and their
number, so that they fill whole blocks.
-/
namespace Equate.Shell.Utility

/-- A number in hexadecimal digits. -/
def hexadecimal (digits n : Nat) : Octets :=
  let t := Nat.toDigits 16 n
  List.replicate (digits - t.length) '0' ++ t

/-- The primes, so many of them. -/
def primes (count : Nat) : List Nat :=
  (go 400 2 []).reverse.take count
where
  /-- The primes among so many numbers, the last first. -/
  go : Nat → Nat → List Nat → List Nat
    | 0, _, found => found
    | fuel + 1, n, found =>
      go fuel (n + 1) (if found.any fun p => n % p = 0 then found else n :: found)

/-- The largest number whose power is at most another one. -/
def root (power n : Nat) : Nat :=
  go 600 0 (Nat.pow 2 100)
where
  /-- Closer and closer bounds. -/
  go : Nat → Nat → Nat → Nat
    | 0, low, _ => low
    | fuel + 1, low, high =>
      if high ≤ low + 1 then low
      else
        let middle := (low + high) / 2
        if Nat.pow middle power ≤ n then go fuel middle high else go fuel low middle

/-- The first bits of the fraction of a root. -/
def rootBits (power bits n : Nat) : Nat :=
  root power (n * Nat.pow 2 (power * bits)) % Nat.pow 2 bits

/-- Bytes as words, the largest byte first. -/
def wordsOf (size : Nat) : Nat → List Nat → List Nat
  | 0, _ => []
  | fuel + 1, bytes =>
    match bytes with
    | [] => []
    | bytes => (bytes.take size).foldl (fun n b => n * 256 + b) 0 :: wordsOf size fuel (bytes.drop size)

/-- The bytes with what fills their blocks. `little` says that the smallest byte of a
number comes first. -/
def filledBlocks (block : Nat) (little : Bool) (bytes : List Nat) : List Nat :=
  let count := bytes.length
  let tail := block / 8
  let zeros := (2 * block - 1 - tail - count % block) % block
  let length := (List.range tail).map fun i => 8 * count / Nat.pow 256 (tail - 1 - i) % 256
  bytes ++ 128 :: List.replicate zeros 0 ++ if little then length.reverse else length

/-- A list in parts of one length. -/
def inParts {α : Type} (n : Nat) : Nat → List α → List (List α)
  | 0, _ => []
  | fuel + 1, items => if items.isEmpty then [] else items.take n :: inParts n fuel (items.drop n)

/-! ## Words of 32 bits -/

/-- A rotation to the right. -/
def turn32 (x : UInt32) (n : UInt32) : UInt32 := (x >>> n) ||| (x <<< (32 - n))

/-- The constants of the rounds. -/
def constants32 : Array UInt32 := ((primes 64).map fun p => (rootBits 3 32 p).toUInt32).toArray

/-- One block. -/
def block32 (state : Array UInt32) (block : Array UInt32) : Array UInt32 :=
  let at32 (a : Array UInt32) (i : Nat) : UInt32 := a[i]?.getD 0
  let words := (List.range 48).foldl (fun w i =>
    let x := at32 w (i + 1)
    let y := at32 w (i + 14)
    let s0 := turn32 x 7 ^^^ turn32 x 18 ^^^ (x >>> 3)
    let s1 := turn32 y 17 ^^^ turn32 y 19 ^^^ (y >>> 10)
    w.push (at32 w i + s0 + at32 w (i + 9) + s1)) block
  let constants := constants32
  let final := (List.range 64).foldl (fun s i =>
    let (a, e) := (at32 s 0, at32 s 4)
    let s1 := turn32 e 6 ^^^ turn32 e 11 ^^^ turn32 e 25
    let choice := (e &&& at32 s 5) ^^^ ((~~~ e) &&& at32 s 6)
    let t1 := at32 s 7 + s1 + choice + at32 constants i + at32 words i
    let s0 := turn32 a 2 ^^^ turn32 a 13 ^^^ turn32 a 22
    let majority := (a &&& at32 s 1) ^^^ (a &&& at32 s 2) ^^^ (at32 s 1 &&& at32 s 2)
    #[t1 + s0 + majority, a, at32 s 1, at32 s 2, at32 s 3 + t1, e, at32 s 5, at32 s 6]) state
  Array.zipWith (· + ·) state final

/-- A digest of words of 32 bits, from a state at the start, of so many words. -/
def digest32 (start : List Nat) (count : Nat) (bytes : List Nat) : Octets :=
  let all := wordsOf 4 (bytes.length + 80) (filledBlocks 64 false bytes)
  let state := (inParts 16 all.length all).foldl
    (fun s block => block32 s (block.map Nat.toUInt32).toArray) (start.map Nat.toUInt32).toArray
  (state.toList.take count).flatMap fun x => hexadecimal 8 x.toNat

/-! ## Words of 64 bits -/

/-- A rotation to the right. -/
def turn64 (x : UInt64) (n : UInt64) : UInt64 := (x >>> n) ||| (x <<< (64 - n))

/-- The constants of the rounds. -/
def constants64 : Array UInt64 := ((primes 80).map fun p => (rootBits 3 64 p).toUInt64).toArray

/-- One block. -/
def block64 (state : Array UInt64) (block : Array UInt64) : Array UInt64 :=
  let at64 (a : Array UInt64) (i : Nat) : UInt64 := a[i]?.getD 0
  let words := (List.range 64).foldl (fun w i =>
    let x := at64 w (i + 1)
    let y := at64 w (i + 14)
    let s0 := turn64 x 1 ^^^ turn64 x 8 ^^^ (x >>> 7)
    let s1 := turn64 y 19 ^^^ turn64 y 61 ^^^ (y >>> 6)
    w.push (at64 w i + s0 + at64 w (i + 9) + s1)) block
  let constants := constants64
  let final := (List.range 80).foldl (fun s i =>
    let (a, e) := (at64 s 0, at64 s 4)
    let s1 := turn64 e 14 ^^^ turn64 e 18 ^^^ turn64 e 41
    let choice := (e &&& at64 s 5) ^^^ ((~~~ e) &&& at64 s 6)
    let t1 := at64 s 7 + s1 + choice + at64 constants i + at64 words i
    let s0 := turn64 a 28 ^^^ turn64 a 34 ^^^ turn64 a 39
    let majority := (a &&& at64 s 1) ^^^ (a &&& at64 s 2) ^^^ (at64 s 1 &&& at64 s 2)
    #[t1 + s0 + majority, a, at64 s 1, at64 s 2, at64 s 3 + t1, e, at64 s 5, at64 s 6]) state
  Array.zipWith (· + ·) state final

/-- A digest of words of 64 bits, from a state at the start, of so many words. -/
def digest64 (start : List Nat) (count : Nat) (bytes : List Nat) : Octets :=
  let all := wordsOf 8 (bytes.length + 160) (filledBlocks 128 false bytes)
  let state := (inParts 16 all.length all).foldl
    (fun s block => block64 s (block.map Nat.toUInt64).toArray) (start.map Nat.toUInt64).toArray
  (state.toList.take count).flatMap fun x => hexadecimal 16 x.toNat

/-! ## The older digests -/

/-- One block of the digest of 160 bits. -/
def block160 (state : Array UInt32) (block : Array UInt32) : Array UInt32 :=
  let at32 (a : Array UInt32) (i : Nat) : UInt32 := a[i]?.getD 0
  let words := (List.range 64).foldl (fun w i =>
    w.push (turn32 (at32 w (i + 13) ^^^ at32 w (i + 8) ^^^ at32 w (i + 2) ^^^ at32 w i) 31)) block
  let final := (List.range 80).foldl (fun s i =>
    let (a, b, c, d, e) := (at32 s 0, at32 s 1, at32 s 2, at32 s 3, at32 s 4)
    let (f, k) :=
      if i < 20 then ((b &&& c) ||| ((~~~ b) &&& d), (0x5A827999 : UInt32))
      else if i < 40 then (b ^^^ c ^^^ d, 0x6ED9EBA1)
      else if i < 60 then ((b &&& c) ||| (b &&& d) ||| (c &&& d), 0x8F1BBCDC)
      else (b ^^^ c ^^^ d, 0xCA62C1D6)
    #[turn32 a 27 + f + e + k + at32 words i, a, turn32 b 2, c, d]) state
  Array.zipWith (· + ·) state final

/-- The digest of 160 bits. -/
def digest160 (bytes : List Nat) : Octets :=
  let all := wordsOf 4 (bytes.length + 80) (filledBlocks 64 false bytes)
  let state := (inParts 16 all.length all).foldl
    (fun s block => block160 s (block.map Nat.toUInt32).toArray)
    #[0x67452301, 0xEFCDAB89, 0x98BADCFE, 0x10325476, 0xC3D2E1F0]
  state.toList.flatMap fun x => hexadecimal 8 x.toNat

/-- How far words are turned in the rounds of the digest of 128 bits. -/
def turns128 : Array UInt32 :=
  ([[7, 12, 17, 22], [5, 9, 14, 20], [4, 11, 16, 23], [6, 10, 15, 21]].flatMap fun row =>
    (List.replicate 4 row).flatten).toArray

/-- The constants of the digest of 128 bits: the parts of sines. -/
def constants128 : Array UInt32 :=
  ((List.range 64).map fun i =>
    (Float.floor ((Float.sin (Float.ofNat (i + 1))).abs * 4294967296.0)).toUInt32).toArray

/-- One block of the digest of 128 bits. -/
def block128 (state : Array UInt32) (block : Array UInt32) : Array UInt32 :=
  let at32 (a : Array UInt32) (i : Nat) : UInt32 := a[i]?.getD 0
  let (turns, constants) := (turns128, constants128)
  let final := (List.range 64).foldl (fun s i =>
    let (a, b, c, d) := (at32 s 0, at32 s 1, at32 s 2, at32 s 3)
    let (f, g) :=
      if i < 16 then ((b &&& c) ||| ((~~~ b) &&& d), i)
      else if i < 32 then ((d &&& b) ||| ((~~~ d) &&& c), (5 * i + 1) % 16)
      else if i < 48 then (b ^^^ c ^^^ d, (3 * i + 5) % 16)
      else (c ^^^ (b ||| (~~~ d)), (7 * i) % 16)
    let x := f + a + at32 constants i + at32 block g
    #[d, b + turn32 x (32 - at32 turns i), b, c]) state
  Array.zipWith (· + ·) state final

/-- A word with its bytes the other way round. -/
def swapped (x : Nat) : Nat :=
  (List.range 4).foldl (fun n i => n * 256 + x / Nat.pow 256 i % 256) 0

/-- The digest of 128 bits. -/
def digest128 (bytes : List Nat) : Octets :=
  let all := (wordsOf 4 (bytes.length + 80) (filledBlocks 64 true bytes)).map swapped
  let state := (inParts 16 all.length all).foldl
    (fun s block => block128 s (block.map Nat.toUInt32).toArray)
    #[0x67452301, 0xEFCDAB89, 0x98BADCFE, 0x10325476]
  state.toList.flatMap fun x => hexadecimal 8 (swapped x.toNat)

/-- The digest by the name of its program. -/
def digestOf (program : String) (t : Octets) : Octets :=
  let bytes := t.map Char.toNat
  let roots (bits : Nat) (skipped : Nat) : List Nat :=
    ((primes (8 + skipped)).drop skipped).map (rootBits 2 bits)
  match program with
  | "md5sum" => digest128 bytes
  | "sha1sum" => digest160 bytes
  | "sha224sum" => digest32 ((roots 64 8).map fun n => n % Nat.pow 2 32) 7 bytes
  | "sha256sum" => digest32 (roots 32 0) 8 bytes
  | "sha384sum" => digest64 (roots 64 8) 6 bytes
  | _ => digest64 (roots 64 0) 8 bytes

/-- How a digest is called where its program is named in the output. -/
def digestTag (program : String) : Octets := (program.toList.take (program.length - 3)).map Char.toUpper

/-- A line of a list of digests: the digest and the path. -/
def digestLine? (line : Octets) : Option (Octets × Octets) := do
  let digest := line.takeWhile fun c => c.isDigit || ('a' ≤ c && c ≤ 'f') || ('A' ≤ c && c ≤ 'F')
  match line.drop digest.length with
  | ' ' :: ' ' :: path => if digest.length < 32 then none else some (digest.map Char.toLower, path)
  | ' ' :: '*' :: path => if digest.length < 32 then none else some (digest.map Char.toLower, path)
  | _ => none

/-- The digests of files, or whether files have the digests that are listed. -/
def digests (program : String) : Utility := fun name arguments =>
  withOptions "btczqsTwiS" [("binary", 'b'), ("text", 't'), ("check", 'c'), ("tag", 'T'), ("zero", 'z'),
      ("quiet", 'q'), ("status", 's'), ("warn", 'w'), ("ignore-missing", 'i'), ("strict", 'S')]
      name arguments 1 fun g => do
    if g.has 'c' then
      let (bad, unread) ← (if g.operands.isEmpty then [['-']] else g.operands).foldlM
        (fun ((bad, unread) : Nat × Nat) path => do
          match ← contentOf path with
          | .error obstacle => blame name (atFile path obstacle); return (bad, unread + 1)
          | .ok list =>
            ((plainLines list).filterMap digestLine?).foldlM (fun (bad, unread) (digest, file) => do
              match ← contentOf file with
              | .error obstacle =>
                if g.has 'i' && obstacle = .missing then return (bad, unread)
                else
                  blame name (atFile file obstacle)
                  if !g.has 's' then say (file ++ lit ": FAILED open or read\n")
                  return (bad, unread + 1)
              | .ok content =>
                if digestOf program content = digest then
                  if !g.has 'q' && !g.has 's' then say (file ++ lit ": OK\n")
                  return (bad, unread)
                else
                  if !g.has 's' then say (file ++ lit ": FAILED\n")
                  return (bad + 1, unread)) (bad, unread)) (0, 0)
      if !g.has 's' then
        if unread = 1 then blame name (lit "WARNING: 1 listed file could not be read")
        else if 0 < unread then
          blame name (lit "WARNING: " ++ Text.decimal unread ++ lit " listed files could not be read")
        if bad = 1 then blame name (lit "WARNING: 1 computed checksum did NOT match")
        else if 0 < bad then
          blame name (lit "WARNING: " ++ Text.decimal bad ++ lit " computed checksums did NOT match")
      return if bad + unread = 0 then 0 else 1
    else
      let ending := markOf g
      throughFiles name g.operands 1 atFile fun path content =>
        let digest := digestOf program content
        if g.has 'T' then say (digestTag program ++ lit " (" ++ path ++ lit ") = " ++ digest ++ [ending])
        else say (digest ++ [' ', if g.has 'b' then '*' else ' '] ++ path ++ [ending])

/-! ## Checksums -/

/-- One byte more in a checksum of 32 bits. -/
def checksumStep (crc : UInt32) (byte : Nat) : UInt32 :=
  (List.range 8).foldl (fun crc _ =>
    if crc &&& 0x80000000 != 0 then (crc <<< 1) ^^^ 0x04C11DB7 else crc <<< 1)
    (crc ^^^ (byte.toUInt32 <<< 24))

/-- The bytes of a number, the smallest first, without the zeros at its end. -/
def lengthBytes : Nat → Nat → List Nat
  | 0, _ => []
  | fuel + 1, n => if n = 0 then [] else n % 256 :: lengthBytes fuel (n / 256)

/-- Checksums and sizes of files. -/
def cksum : Utility := fun name arguments =>
  withOptions "a:" [("algorithm", 'a'), ("untagged", 'u')] name arguments 1 fun g => do
    let shown (path : Octets) : Octets := if g.operands.isEmpty then [] else ' ' :: path
    match (g.value? 'a').map String.ofList with
    | none | some "crc" =>
      throughFiles name g.operands 1 atFile fun path content =>
        let bytes := content.map Char.toNat
        let crc := ~~~ ((bytes ++ lengthBytes 16 bytes.length).foldl checksumStep 0)
        say (Text.decimal crc.toNat ++ [' '] ++ Text.decimal bytes.length ++ shown path ++ ['\n'])
    | some a =>
      let program := a ++ "sum"
      throughFiles name g.operands 1 atFile fun path content =>
        say (digestTag program ++ lit " (" ++ path ++ lit ") = " ++ digestOf program content ++ ['\n'])

/-- Short checksums and numbers of blocks. -/
def sum : Utility := fun name arguments =>
  withOptions "rs" [("sysv", 's')] name arguments 1 fun g =>
    throughFiles name g.operands 1 atFile fun path content =>
      let bytes := content.map Char.toNat
      let shown := if g.operands.isEmpty then [] else ' ' :: path
      if g.has 's' then
        let n := bytes.foldl (· + ·) 0 % 4294967296
        let n := n % 65536 + n / 65536
        let n := n % 65536 + n / 65536
        say (Text.decimal n ++ [' '] ++ Text.decimal ((bytes.length + 511) / 512) ++ shown ++ ['\n'])
      else
        let n := bytes.foldl (fun n b => (n / 2 + n % 2 * 32768 + b) % 65536) 0
        let digits := Text.decimal n
        say (List.replicate (5 - digits.length) '0' ++ digits ++ [' '] ++
          column 5 ((bytes.length + 1023) / 1024) ++ shown ++ ['\n'])

/-! ## Encodings -/

/-- An alphabet of digits, and how many bits and digits there are in a group. -/
structure Alphabet where
  digits : Array Char
  bits : Nat
  group : Nat

/-- Digits of six bits. -/
def alphabet64 : Alphabet :=
  ⟨(lit "ABCDEFGHIJKLMNOPQRSTUVWXYZabcdefghijklmnopqrstuvwxyz0123456789+/").toArray, 6, 4⟩

/-- Digits of five bits. -/
def alphabet32 : Alphabet := ⟨(lit "ABCDEFGHIJKLMNOPQRSTUVWXYZ234567").toArray, 5, 8⟩

/-- Bytes in digits. -/
def Alphabet.encode (a : Alphabet) (t : Octets) : Octets :=
  let size := a.group * a.bits / 8
  (inParts size t.length t).flatMap fun part =>
    let n := (part ++ List.replicate (size - part.length) '\x00').foldl (fun n c => n * 256 + c.toNat) 0
    let used := (part.length * 8 + a.bits - 1) / a.bits
    ((List.range used).map fun i =>
      (a.digits[n / Nat.pow 2 (a.bits * (a.group - 1 - i)) % Nat.pow 2 a.bits]?).getD '=') ++
      List.replicate (a.group - used) '='

/-- The bytes that digits stand for, and whether there is nothing else. -/
def Alphabet.decode (a : Alphabet) (t : Octets) : Octets × Bool :=
  let size := a.group * a.bits / 8
  (inParts a.group t.length t).foldl (fun (front, ok) part =>
    let used := part.takeWhile (· ≠ '=')
    let values := used.filterMap fun c => a.digits.findIdx? (· = c)
    let padded := part.length = a.group
    let fine := values.length = used.length ∧ padded ∧ (part.drop used.length).all (· = '=')
    if !ok then (front, false)
    else
      let n := (values ++ List.replicate (a.group - values.length) 0).foldl
        (fun n v => n * Nat.pow 2 a.bits + v) 0
      let count := values.length * a.bits / 8
      (front ++ ((List.range count).map fun i => Char.ofNat (n / Nat.pow 256 (size - 1 - i) % 256)),
        fine)) (([] : Octets), true)

/-- Bytes in digits, in lines, or back. -/
def baseDigits (a : Alphabet) : Utility := fun name arguments =>
  withOptions "dDiw:" [("decode", 'd'), ("ignore-garbage", 'i'), ("wrap", 'w')] name
      (arguments.map fun x => if x = lit "-D" then lit "-d" else x) 1 fun g => do
    match g.operands.drop 1 with
    | extra :: _ => misuse name (lit "extra operand '" ++ extra ++ ['\'']) 1
    | [] =>
    let path := g.operands.headD ['-']
    match ← contentOf path with
    | .error obstacle => blame name (atFile path obstacle); return 1
    | .ok content =>
      if g.has 'd' then
        let digits := content.filter fun c =>
          c != '\n' && (!g.has 'i' || a.digits.contains c || c == '=')
        let (t, ok) := a.decode digits
        say t
        if ok then return 0
        else blame name (lit "invalid input"); return 1
      else
        match natural? ((g.value? 'w').getD (lit "76")) with
        | none =>
          blame name (lit "invalid wrap size: '" ++ (g.value? 'w').getD [] ++ ['\''])
          return 1
        | some 0 => say (a.encode content); return 0
        | some width =>
          let t := a.encode content
          say ((inParts width t.length t).flatMap fun line => line ++ ['\n'])
          return 0

end Equate.Shell.Utility
