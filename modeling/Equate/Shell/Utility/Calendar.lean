import Equate.Number.Decimal
import Equate.Shell.Octets
import Equate.Shell.Utility.Basic

/-!
# Days and times

A moment is a number of seconds since the start of 1970. Years have leap days by the usual
rules for all times. The program for dates writes and reads moments.
-/
namespace Equate.Shell

/-- A moment in coordinated time. -/
structure Moment where
  seconds : Int
  nanoseconds : Nat

/-- A day of a calendar. -/
structure Day where
  year : Int
  month : Nat
  day : Nat

namespace Day

/-- The number of a day, counted from the start of 1970. Months beyond a year count on. -/
def number (d : Day) : Int :=
  let months := d.year * 12 + ((d.month : Int) - 1)
  let y := months.fdiv 12
  let m := (months.fmod 12).toNat + 1
  let y := if m ≤ 2 then y - 1 else y
  let era := y.fdiv 400
  let yoe := y - era * 400
  let doy : Int := (153 * ((m : Int) + (if 2 < m then -3 else 9)) + 2) / 5 + (d.day : Int) - 1
  let doe := yoe * 365 + yoe / 4 - yoe / 100 + doy
  era * 146097 + doe - 719468

/-- The day of a number. -/
def ofNumber (n : Int) : Day :=
  let z := n + 719468
  let era := z.fdiv 146097
  let doe := z - era * 146097
  let yoe := (doe - doe / 1460 + doe / 36524 - doe / 146096) / 365
  let doy := doe - (365 * yoe + yoe / 4 - yoe / 100)
  let mp := (5 * doy + 2) / 153
  let m := if mp < 10 then mp + 3 else mp - 9
  ⟨yoe + era * 400 + (if m ≤ 2 then 1 else 0), m.toNat, (doy - (153 * mp + 2) / 5 + 1).toNat⟩

end Day

namespace Moment

/-- The day of a moment. -/
def day (m : Moment) : Day := Day.ofNumber (m.seconds.fdiv 86400)

/-- The second of the day. -/
def second (m : Moment) : Nat := (m.seconds.fmod 86400).toNat

/-- The day of the week; Sunday is zero. -/
def weekday (m : Moment) : Nat := ((m.seconds.fdiv 86400 + 4).fmod 7).toNat

/-- The day of the year, counted from zero. -/
def yearDay (m : Moment) : Nat :=
  (m.seconds.fdiv 86400 - (Day.mk m.day.year 1 1).number).toNat

/-- The year and week by which weeks belong to the year of their Thursday. -/
def week (m : Moment) : Int × Nat :=
  let monday := (m.weekday + 6) % 7
  let thursday := m.seconds.fdiv 86400 - monday + 3
  let year := (Day.ofNumber thursday).year
  (year, ((thursday - (Day.mk year 1 1).number) / 7).toNat + 1)

end Moment

namespace Calendar

/-- The names of the days. -/
def dayNames : List String :=
  ["Sunday", "Monday", "Tuesday", "Wednesday", "Thursday", "Friday", "Saturday"]

/-- The names of the months. -/
def monthNames : List String :=
  ["January", "February", "March", "April", "May", "June", "July", "August", "September", "October",
    "November", "December"]

/-- A number in so many places. -/
def padded (fill : Char) (width : Nat) (n : Int) : Octets :=
  let t := Text.decimal n.natAbs
  let missing := width - t.length - (if n < 0 then 1 else 0)
  if n < 0 then
    if fill = '0' then '-' :: List.replicate missing '0' ++ t else List.replicate missing fill ++ '-' :: t
  else List.replicate missing fill ++ t

/-- What a letter of a format stands for, with how it is filled up and how wide it is. -/
structure Field where
  text : Octets
  fill : Char
  width : Nat

/-- A number field. -/
def numberField (fill : Char) (width : Nat) (n : Int) : Field :=
  ⟨padded ' ' 0 n, fill, width⟩

/-- A field that is text. -/
def textField (t : Octets) : Field := ⟨t, ' ', 0⟩

/-- What a letter of a format stands for. -/
def field? (m : Moment) (c : Char) : Option Field :=
  let d := m.day
  let hour := m.second / 3600
  let minute := m.second / 60 % 60
  let twelve := if hour % 12 = 0 then 12 else hour % 12
  let dayName := ((dayNames[m.weekday]?).getD "").toList
  let monthName := ((monthNames[d.month - 1]?).getD "").toList
  let two (n : Nat) : Field := numberField '0' 2 n
  match c with
  | 'a' => some (textField (dayName.take 3))
  | 'A' => some (textField dayName)
  | 'b' => some (textField (monthName.take 3))
  | 'h' => some (textField (monthName.take 3))
  | 'B' => some (textField monthName)
  | 'C' => some (numberField '0' 2 (d.year.fdiv 100))
  | 'd' => some (two d.day)
  | 'e' => some (numberField ' ' 2 d.day)
  | 'g' => some (numberField '0' 2 (m.week.1.fmod 100))
  | 'G' => some (numberField '0' 0 m.week.1)
  | 'H' => some (two hour)
  | 'I' => some (two twelve)
  | 'j' => some (numberField '0' 3 (m.yearDay + 1))
  | 'k' => some (numberField ' ' 2 hour)
  | 'l' => some (numberField ' ' 2 twelve)
  | 'm' => some (two d.month)
  | 'M' => some (two minute)
  | 'n' => some (textField ['\n'])
  | 'N' => some (numberField '0' 9 m.nanoseconds)
  | 'p' => some (textField (if hour < 12 then lit "AM" else lit "PM"))
  | 'P' => some (textField (if hour < 12 then lit "am" else lit "pm"))
  | 'q' => some (numberField '0' 0 (((d.month - 1) / 3 + 1 : Nat) : Int))
  | 's' => some (numberField '0' 0 m.seconds)
  | 'S' => some (two (m.second % 60))
  | 't' => some (textField ['\t'])
  | 'u' => some (numberField '0' 0 (if m.weekday = 0 then 7 else (m.weekday : Int)))
  | 'U' => some (two ((m.yearDay + 7 - m.weekday) / 7))
  | 'V' => some (two m.week.2)
  | 'w' => some (numberField '0' 0 m.weekday)
  | 'W' => some (two ((m.yearDay + 7 - (m.weekday + 6) % 7) / 7))
  | 'y' => some (numberField '0' 2 (d.year.fmod 100))
  | 'Y' => some (numberField '0' 4 d.year)
  | 'z' => some (textField (lit "+0000"))
  | 'Z' => some (textField (lit "UTC"))
  | '%' => some (textField ['%'])
  | _ => none

/-- What a letter of a format abbreviates. -/
def abbreviated? : Char → Option String
  | 'c' => some "%a %b %e %H:%M:%S %Y"
  | 'D' => some "%m/%d/%y"
  | 'F' => some "%Y-%m-%d"
  | 'r' => some "%I:%M:%S %p"
  | 'R' => some "%H:%M"
  | 'T' => some "%H:%M:%S"
  | 'x' => some "%m/%d/%y"
  | 'X' => some "%H:%M:%S"
  | _ => none

/-- A moment in a format. -/
def shown (m : Moment) : Nat → Octets → Octets
  | 0, _ => []
  | fuel + 1, t =>
    match t with
    | [] => []
    | '%' :: rest =>
      let flags := rest.takeWhile fun c => (lit "-_0^#+").contains c
      let behind := rest.drop flags.length
      let digits := behind.takeWhile Char.isDigit
      let behind := behind.drop digits.length
      let colons := behind.takeWhile (· = ':')
      let behind := behind.drop colons.length
      match behind with
      | [] => '%' :: rest
      | c :: more =>
        let fill (usual : Char) : Char :=
          match flags.reverse.find? fun c => c = '-' || c = '_' || c = '0' with
          | some '_' => ' '
          | some '0' => '0'
          | _ => usual
        let wide (t : Octets) (usual : Char) (least : Nat) : Octets :=
          let width := if digits ≠ [] then Text.digitsValue digits
            else if flags.contains '-' then 0 else least
          let missing := width - t.length
          let t := match t with
            | '-' :: rest =>
              if fill usual = '0' then '-' :: List.replicate missing '0' ++ rest
              else List.replicate missing ' ' ++ t
            | t => List.replicate missing (fill usual) ++ t
          if flags.contains '^' then t.map Char.toUpper
          else if flags.contains '#' then
            t.map fun c => if c.isUpper && t.all (fun c => !c.isLower) then c.toLower else c.toUpper
          else t
        if colons ≠ [] then
          if c = 'z' then
            (if colons.length = 1 then lit "+00:00" else if colons.length = 2 then lit "+00:00:00"
              else lit "+00") ++ shown m fuel more
          else '%' :: rest.take (rest.length - more.length) ++ shown m fuel more
        else if c = 'N' ∧ digits ≠ [] then
          ((padded '0' 9 m.nanoseconds).take (Text.digitsValue digits)) ++ shown m fuel more
        else
          match abbreviated? c with
          | some f => wide (shown m fuel f.toList) ' ' 0 ++ shown m fuel more
          | none =>
            match field? m c with
            | some f => wide f.text f.fill f.width ++ shown m fuel more
            | none => '%' :: rest.take (rest.length - more.length) ++ shown m fuel more
    | c :: rest => c :: shown m fuel rest
termination_by fuel => fuel

/-! ## Reading -/

/-- A word of a description of a moment. -/
inductive Word where
  | number (sign : Option Char) (digits : Octets)
  | name (t : Octets)
  | sign (c : Char)

/-- The words of a description, in small letters. -/
def words : Nat → Octets → List Word
  | 0, _ => []
  | fuel + 1, t =>
    match t with
    | [] => []
    | c :: rest =>
      if isSpace c ∨ c = ',' then words fuel rest
      else if c.isDigit then
        let digits := t.takeWhile Char.isDigit
        .number none digits :: words fuel (t.drop digits.length)
      else if c.isAlpha then
        let name := t.takeWhile Char.isAlpha
        .name (name.map Char.toLower) :: words fuel (t.drop name.length)
      else .sign c :: words fuel rest

/-- What has been read of a description. -/
structure Reading where
  day : Option Day
  /-- The second of the day. -/
  time : Option Nat
  nanoseconds : Nat
  /-- The offset of the zone in seconds. -/
  zone : Int
  months : Int
  days : Int
  seconds : Int

/-- How many of what a unit is: months, days or seconds. -/
def unit? (name : Octets) : Option (Int × Int × Int) :=
  let name := if name.length > 3 ∧ name.getLast? = some 's' then name.dropLast else name
  match String.ofList name with
  | "year" => some (12, 0, 0)
  | "month" => some (1, 0, 0)
  | "fortnight" => some (0, 14, 0)
  | "week" => some (0, 7, 0)
  | "day" => some (0, 1, 0)
  | "hour" => some (0, 0, 3600)
  | "minute" => some (0, 0, 60)
  | "min" => some (0, 0, 60)
  | "second" => some (0, 0, 1)
  | "sec" => some (0, 0, 1)
  | _ => none

/-- The month of a name. -/
def month? (name : Octets) : Option Nat :=
  if name.length < 3 then none
  else (monthNames.findIdx? fun m => name.isPrefixOf (m.toList.map Char.toLower)).map (· + 1)

/-- The day of the week of a name. -/
def weekday? (name : Octets) : Option Nat :=
  if name.length < 3 then none
  else dayNames.findIdx? fun d => name.isPrefixOf (d.toList.map Char.toLower)

/-- So many units more. -/
def Reading.plus (r : Reading) (n : Int) (u : Int × Int × Int) : Reading :=
  { r with months := r.months + n * u.1, days := r.days + n * u.2.1, seconds := r.seconds + n * u.2.2 }

/-- The number of digits. -/
def value (digits : Octets) : Nat := Text.digitsValue digits

/-- A description as it is read word by word; `none` if it has no meaning. -/
def reading? (now : Moment) : Nat → Reading → List Word → Option Reading
  | 0, r, _ => some r
  | fuel + 1, r, all =>
    let next := reading? now fuel
    match all with
    | [] => some r
    | .number _ y :: .sign '-' :: .number _ m :: .sign '-' :: .number _ d :: rest =>
      if y.length < 4 ∨ value m < 1 ∨ 12 < value m ∨ value d < 1 ∨ 31 < value d then none
      else next { r with day := some ⟨value y, value m, value d⟩ } rest
    | .number _ m :: .sign '/' :: .number _ d :: .sign '/' :: .number _ y :: rest =>
      if value m < 1 ∨ 12 < value m ∨ value d < 1 ∨ 31 < value d then none
      else next { r with day := some ⟨value y, value m, value d⟩ } rest
    | .number _ h :: .sign ':' :: .number _ m :: rest =>
      let (s, nanoseconds, rest) := match rest with
        | .sign ':' :: .number _ s :: .sign '.' :: .number _ f :: rest =>
          (value s, value ((f ++ lit "000000000").take 9), rest)
        | .sign ':' :: .number _ s :: rest => (value s, 0, rest)
        | rest => (0, 0, rest)
      let (h, rest) := match rest with
        | .name ['a', 'm'] :: rest => (value h % 12, rest)
        | .name ['p', 'm'] :: rest => (value h % 12 + 12, rest)
        | rest => (value h, rest)
      if 24 ≤ h ∨ 60 ≤ value m ∨ 60 < s then none
      else
        let r := { r with time := some (h * 3600 + value m * 60 + s), nanoseconds }
        match rest with
        | .sign sign :: .number _ z :: rest =>
          if (sign = '+' ∨ sign = '-') ∧ (z.length = 4 ∨ z.length = 2) then
            let (hours, minutes, rest) := match z.length, rest with
              | 2, .sign ':' :: .number _ m :: rest => (value z, value m, rest)
              | 2, rest => (value z, 0, rest)
              | _, rest => (value (z.take 2), value (z.drop 2), rest)
            let offset : Int := hours * 3600 + minutes * 60
            next { r with zone := if sign = '-' then -offset else offset } rest
          else next r (.sign sign :: .number none z :: rest)
        | rest => next r rest
    | .name ['t'] :: rest => next r rest
    | .name ['z'] :: rest => next r rest
    | .sign s :: .number _ n :: .name u :: rest =>
      if s = '+' ∨ s = '-' then
        match unit? u with
        | none => none
        | some u =>
          let n : Int := if s = '-' then -(value n : Int) else value n
          match rest with
          | .name ['a', 'g', 'o'] :: rest => next (r.plus (-n) u) rest
          | rest => next (r.plus n u) rest
      else none
    | .number _ n :: .name u :: rest =>
      match unit? u, month? u with
      | some u, _ =>
        match rest with
        | .name ['a', 'g', 'o'] :: rest => next (r.plus (-(value n : Int)) u) rest
        | rest => next (r.plus (value n) u) rest
      | none, some m =>
        match rest with
        | .number _ y :: rest => next { r with day := some ⟨value y, m, value n⟩ } rest
        | rest => next { r with day := some ⟨now.day.year, m, value n⟩ } rest
      | none, none => none
    | .name n :: rest =>
      match String.ofList n with
      | "now" => next r rest
      | "today" => next r rest
      | "yesterday" => next (r.plus (-1) (0, 1, 0)) rest
      | "tomorrow" => next (r.plus 1 (0, 1, 0)) rest
      | "midnight" => next { r with time := some 0 } rest
      | "noon" => next { r with time := some 43200 } rest
      | "utc" => next r rest
      | "gmt" => next r rest
      | "next" =>
        match rest with
        | .name u :: rest => (unit? u).bind fun u => next (r.plus 1 u) rest
        | _ => none
      | "last" =>
        match rest with
        | .name u :: rest => (unit? u).bind fun u => next (r.plus (-1) u) rest
        | _ => none
      | _ =>
        match month? n, weekday? n, rest with
        | some m, _, .number _ d :: .number _ y :: rest =>
          if y.length = 4 then next { r with day := some ⟨value y, m, value d⟩ } rest
          else next { r with day := some ⟨now.day.year, m, value d⟩ } (.number none y :: rest)
        | some m, _, .number _ d :: rest => next { r with day := some ⟨now.day.year, m, value d⟩ } rest
        | _, some w, rest =>
          if r.day.isSome then next r rest
          else
            let ahead := (w + 7 - now.weekday) % 7
            next ({ r with time := r.time.or (some 0) }.plus ahead (0, 1, 0)) rest
        | _, _, _ =>
          match unit? n with
          | some u =>
            match rest with
            | .name ['a', 'g', 'o'] :: rest => next (r.plus (-1) u) rest
            | rest => next (r.plus 1 u) rest
          | none => none
    | .number _ n :: rest =>
      if n.length = 8 then
        next { r with day := some ⟨value (n.take 4), value ((n.drop 4).take 2), value (n.drop 6)⟩ } rest
      else if n.length = 4 ∧ r.day.isSome ∧ r.time.isNone then
        next { r with time := some (value (n.take 2) * 3600 + value (n.drop 2) * 60) } rest
      else if n.length ≤ 2 ∧ r.time.isNone then next { r with time := some (value n * 3600) } rest
      else none
    | _ => none

/-- How many days a month has. -/
def monthLength (year : Int) (month : Nat) : Nat :=
  ((Day.mk year (month + 1) 1).number - (Day.mk year month 1).number).toNat

/-- The moment that a text describes. -/
def moment? (now : Moment) (t : Octets) : Option Moment :=
  match t.dropWhile isSpace with
  | '@' :: rest => do
    let (negative, digits) := Number.readSign rest
    let whole := digits.takeWhile Char.isDigit
    if whole = [] then none
    else
      let fraction ← match digits.drop whole.length with
        | [] => some []
        | '.' :: f => if f ≠ [] ∧ f.all Char.isDigit then some f else none
        | _ => none
      let nanoseconds := value ((fraction ++ lit "000000000").take 9)
      let n : Int := value whole
      if negative then
        if nanoseconds = 0 then some ⟨-n, 0⟩ else some ⟨-n - 1, 1000000000 - nanoseconds⟩
      else some ⟨n, nanoseconds⟩
  | t => do
    let all := words (t.length + 1) t
    let r ← reading? now (all.length + 1) ⟨none, none, 0, 0, 0, 0, 0⟩ all
    let fits := match r.day with
      | some d => 1 ≤ d.month && d.month ≤ 12 && d.day ≤ monthLength d.year d.month
      | none => true
    if !fits then none
    else
      let plain := r.day.isNone && r.time.isNone
      let d := r.day.getD now.day
      let months : Int := d.year * 12 + ((d.month : Int) - 1) + r.months
      let number := (Day.mk (months.fdiv 12) ((months.fmod 12).toNat + 1) d.day).number + r.days
      let second : Int := match r.time with
        | some s => s
        | none => if r.day.isSome then 0 else now.second
      if t.all isSpace then some ⟨now.seconds - now.second, 0⟩
      else some ⟨number * 86400 + second - r.zone + r.seconds,
        if plain then now.nanoseconds else r.nanoseconds⟩

end Calendar

/-! ## The program for dates -/

namespace Utility

/-- A moment in words. What no moment is given for is the start of 1970. -/
def date : Utility := fun name arguments =>
  withOptions "d:f:I::Rr:s:uρ:" [("date", 'd'), ("file", 'f'), ("iso-8601", 'I'), ("rfc-email", 'R'),
      ("rfc-2822", 'R'), ("rfc-3339", 'ρ'), ("reference", 'r'), ("set", 's'), ("utc", 'u'),
      ("universal", 'u')] name arguments 1 fun g => do
    let clock := (← get).clock
    let now : Moment := ⟨startSeconds + clock / 1000000000, clock % 1000000000⟩
    let described := g.value? 'd'
    match (match described with
      | none => some now
      | some t => Calendar.moment? now t) with
    | none =>
      blame name (lit "invalid date '" ++ described.getD [] ++ ['\''])
      return 1
    | some m =>
      let display (format : Octets) : Act Nat := do
        say (Calendar.shown m (4 * format.length + 64) format ++ ['\n'])
        return 0
      match g.operands with
      | ('+' :: format) :: [] => display format
      | [] =>
        match g.value? 'I', g.value? 'ρ', g.has 'R' with
        | some unit, _, _ =>
          match String.ofList unit with
          | "" => display (lit "%Y-%m-%d")
          | "date" => display (lit "%Y-%m-%d")
          | "hours" => display (lit "%Y-%m-%dT%H%:z")
          | "minutes" => display (lit "%Y-%m-%dT%H:%M%:z")
          | "seconds" => display (lit "%Y-%m-%dT%H:%M:%S%:z")
          | "ns" => display (lit "%Y-%m-%dT%H:%M:%S,%N%:z")
          | _ => misuse name (lit "invalid argument '" ++ unit ++ lit "' for '--iso-8601'") 1
        | none, some unit, _ =>
          match String.ofList unit with
          | "date" => display (lit "%Y-%m-%d")
          | "seconds" => display (lit "%Y-%m-%d %H:%M:%S%:z")
          | "ns" => display (lit "%Y-%m-%d %H:%M:%S.%N%:z")
          | _ => misuse name (lit "invalid argument '" ++ unit ++ lit "' for '--rfc-3339'") 1
        | none, none, true => display (lit "%a, %d %b %Y %H:%M:%S %z")
        | none, none, false => display (lit "%a %b %e %H:%M:%S %Z %Y")
      | ('+' :: _) :: extra :: _ => misuse name (lit "extra operand '" ++ extra ++ ['\'']) 1
      | word :: _ =>
        if described.isSome then
          blame name (lit "the argument '" ++ word ++ lit "' lacks a leading '+';")
          let _ ← write 2 (lit "when using an option to specify date(s), any non-option\nargument must be a format string beginning with '+'\n")
          misuse name [] 1
        else
          blame name (lit "invalid date '" ++ word ++ ['\''])
          return 1

end Utility
end Equate.Shell
