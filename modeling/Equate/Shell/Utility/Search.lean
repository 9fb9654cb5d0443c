import Equate.Match.Notation
import Equate.Shell.Pattern
import Equate.Shell.Utility.Basic

/-!
# Programs that search texts
-/
namespace Equate.Shell

/-- A text of bytes as one in which an expression is searched. -/
def subject (folded : Bool) (t : Octets) : Match.Subject := ⟨t.toArray, folded, isNameChar⟩

/-- The plain and the extended notation of programs that are strict. -/
def strictDialect (extended : Bool) : Match.Dialect := ⟨extended, false, false, false⟩

namespace Utility

/-- The dialect of searches. -/
def searchDialect (extended : Bool) : Match.Dialect := ⟨extended, extended, extended, false⟩

/-- The words for the options of searches. -/
def grepWords : List (String × Char) :=
  [("after-context", 'A'), ("basic-regexp", 'G'), ("before-context", 'B'), ("byte-offset", 'b'),
    ("binary-files", 'β'), ("color", 'κ'), ("colour", 'κ'), ("context", 'C'), ("count", 'c'),
    ("exclude", 'ξ'), ("exclude-dir", 'δ'), ("extended-regexp", 'E'), ("file", 'f'),
    ("files-with-matches", 'l'), ("files-without-match", 'L'), ("fixed-strings", 'F'),
    ("ignore-case", 'i'), ("include", 'ι'), ("initial-tab", 'T'), ("invert-match", 'v'),
    ("label", 'λ'), ("line-buffered", 'u'), ("line-number", 'n'), ("line-regexp", 'x'),
    ("max-count", 'm'), ("no-filename", 'h'), ("no-ignore-case", 'ν'), ("no-messages", 's'),
    ("null", 'Z'), ("null-data", 'z'), ("only-matching", 'o'), ("quiet", 'q'),
    ("recursive", 'r'), ("dereference-recursive", 'R'), ("regexp", 'e'), ("silent", 'q'),
    ("text", 'a'), ("with-filename", 'H'), ("word-regexp", 'w')]

/-- The words of an argument that says how many lines around a hit are shown. -/
def contextOf (g : Given) (side : Char) : Except Octets Nat :=
  let wanted := (g.options.reverse.find? fun o => o.1 = side || o.1 = 'C').map (·.2)
  match wanted with
  | none => .ok 0
  | some t =>
    match natural? t with
    | some n => .ok n
    | none => .error (t ++ lit ": invalid context length argument")

/-- Options of which a number is one, as in `-5`. -/
def withContext (arguments : List Octets) : List Octets :=
  arguments.map fun a =>
    match a with
    | '-' :: rest => if rest ≠ [] ∧ rest.all Char.isDigit then '-' :: 'C' :: rest else a
    | a => a

/-- A name fits a pattern for files. -/
def nameFits (pattern name : Octets) : Bool :=
  (Pattern.of (pattern.map fun c => ⟨c, false⟩)).fits name

/-- A line that is shown, and whether it is a hit. -/
structure Row where
  number : Nat
  offset : Nat
  line : Octets
  hit : Bool

/-- The lines with their numbers and offsets. -/
def rowsOf (mark : Char) (t : Octets) : List Row :=
  let pieces := Text.splitOn mark t
  let pieces := if pieces.getLast? = some [] then pieces.dropLast else pieces
  let (rows, _, _) := pieces.foldl (fun (rows, number, offset) line =>
    (⟨number, offset, line, false⟩ :: rows, number + 1, offset + line.length + 1))
    (([] : List Row), 1, 0)
  rows.reverse

/-- The rows that are shown: hits, so many at most, and those around them. `left` says for
how many rows a hit in front still counts. -/
def aroundHits (before after : Nat) : Nat → List Row → (left : Nat) → List Row → List Row
  | limit, held, left, row :: rest =>
    if row.hit ∧ 0 < limit then
      (held.take before).reverse ++ row :: aroundHits before after (limit - 1) [] after rest
    else if 0 < left ∧ ¬ row.hit then row :: aroundHits before after limit [] (left - 1) rest
    else if limit = 0 then []
    else aroundHits before after limit (row :: held) 0 rest
  | _, _, _, [] => []

/-- The lines in which an expression matches. -/
def grep : Utility := fun name arguments => do
  let usage : Act Nat := do
    let _ ← write 2 (lit "Usage: grep [OPTION]... PATTERNS [FILE]...\n")
    misuse (lit "grep") [] 2
  match (⟨"EFGPe:f:iywxzsvm:bnHhoqaId:D:rRLlcTZA:B:C:Uuβ:κ::ξ:δ:ι:λ:ν".toList, grepWords⟩ : Spelling).read
      (withContext arguments) with
  | .error words =>
    blame name words
    usage
  | .ok g =>
  let fromFiles : List (Except Octets (List Octets)) ← (g.values 'f').mapM fun path => do
    match ← contentOf path with
    | .ok content => return .ok (plainLines content)
    | .error obstacle => return .error (atFile path obstacle)
  match fromFiles.find? fun r => !r.isOk with
  | some (.error words) => blame name words; return 2
  | _ =>
  let given := g.has 'e' || g.has 'f'
  let patterns := (g.values 'e').flatMap (Text.splitOn '\n') ++
    fromFiles.flatMap fun r => r.toOption.getD []
  let (patterns, paths) := match given, g.operands with
    | false, first :: rest => (Text.splitOn '\n' first, rest)
    | _, operands => (patterns, operands)
  if !given && g.operands.isEmpty then return ← usage
  let kind := (g.options.reverse.find? fun o => (lit "EFGP").contains o.1).map (·.1)
  let extended := kind = some 'E' ∨ kind = some 'P' ∨ (kind = none ∧ name = lit "egrep")
  let isFixed := kind = some 'F' ∨ (kind = none ∧ name = lit "fgrep")
  let compiled := patterns.mapM fun p =>
    if isFixed then Except.ok (Match.literal p) else Match.ofText (searchDialect extended) p
  match compiled, contextOf g 'A', contextOf g 'B' with
  | .error words, _, _ => blame name words; return 2
  | _, .error words, _ => blame name words; return 2
  | _, _, .error words => blame name words; return 2
  | .ok expressions, .ok after, .ok before =>
  let limit? := (g.value? 'm').map integer?
  if limit? = some none then blame name (lit "invalid max count"); return 2
  let limit := match limit? with
    | some (some n) => if n < 0 then 1000000000 else n.toNat
    | _ => 1000000000
  let folded := (g.options.reverse.find? fun o => (lit "iyν").contains o.1).any (·.1 != 'ν')
  let whole (e : Match) : Match :=
    if g.has 'x' then .sequence (.edge .start) (.sequence e (.edge .finish))
    else if g.has 'w' then
      .sequence (.before true (.among false isNameChar)) (.sequence e (.ahead true (.among false isNameChar)))
    else e
  let all := expressions.map whole
  let e := all.tail.foldl Match.either (all.headD (.edge .word))
  let e := if all.isEmpty then .ahead true .empty else e
  let mark := if g.has 'z' then '\x00' else '\n'
  let deep := g.has 'r' || g.has 'R'
  let wanted (path : Octets) : Bool :=
    let name := ((Text.splitOn '/' path).getLast?).getD []
    ((g.values 'ι').isEmpty || (g.values 'ι').any fun p => nameFits p name) &&
      !(g.values 'ξ').any fun p => nameFits p name
  let below (front : Octets) (place : Place) : Act (List Octets) := do
    let files ← files
    return (files.below place).filterMap fun (p, entry) =>
      match entry with
      | .file .. =>
        let names := (p.drop place.length).map encode
        let inner := Text.joinWith ['/'] names
        if p != place && wanted inner &&
            !(names.dropLast.any fun n => (g.values 'δ').any fun d => nameFits d n) then
          some (if front = [] then inner
            else if front.getLast? = some '/' then front ++ inner else front ++ ['/'] ++ inner)
        else none
      | _ => none
  let operands ← if paths.isEmpty then
      if deep then below [] (← process).here else pure [['-']]
    else
      paths.flatMapM fun path => do
        let files ← files
        match files.place (decode path) with
        | .ok place =>
          if deep && path != ['-'] && files.entry? place == some .directory then below path place
          else return [path]
        | .error _ => return [path]
  let several := ((operands.length > 1 || deep) && !g.has 'h') || g.has 'H'
  let several := if g.has 'H' && g.has 'h' then
      ((g.options.reverse.find? fun o => o.1 = 'H' || o.1 = 'h').map (·.1)) == some 'H'
    else several
  let shownName (path : Octets) : Octets :=
    if path = ['-'] then (g.value? 'λ').getD (lit "(standard input)") else path
  let nameEnd (c : Char) : Char := if g.has 'Z' then '\x00' else c
  let (found, failed, _) ← operands.foldlM
    (fun (found, failed, shownAny) path => do
      match ← contentOf path with
      | .error obstacle =>
        if !g.has 's' then blame name (atFile path obstacle)
        return (found, true, shownAny)
      | .ok content =>
        let isHit (line : Octets) : Bool :=
          (e.search? (subject folded line) false 0).isSome != g.has 'v'
        let rows := (rowsOf mark content).map fun r => { r with hit := isHit r.line }
        let hits := (rows.filter Row.hit).length
        let hits := min hits limit
        let label (c : Char) : Octets := if several then shownName path ++ [nameEnd c] else []
        if g.has 'q' then return (found || 0 < hits, failed, shownAny)
        else if g.has 'l' || g.has 'L' then
          let wantHit := g.has 'l'
          if (0 < hits) == wantHit then say (shownName path ++ [nameEnd '\n'])
          return (found || (0 < hits) == wantHit, failed, shownAny)
        else if g.has 'c' then
          say (label ':' ++ Text.decimal hits ++ ['\n'])
          return (found || 0 < hits, failed, shownAny)
        else if content.contains '\x00' && !g.has 'a' && !g.has 'z' then
          if 0 < hits then say (name ++ lit ": " ++ shownName path ++ lit ": binary file matches\n")
          return (found || 0 < hits, failed, shownAny)
        else
          let shown := aroundHits before after limit [] 0 rows
          let front (r : Row) (offset : Nat) (c : Char) : Octets :=
            label c ++ (if g.has 'n' then Text.decimal r.number ++ [c] else []) ++
              (if g.has 'b' then Text.decimal offset ++ [c] else []) ++
              (if g.has 'T' then ['\t'] else [])
          let separated := 0 < before || 0 < after
          let (text, _, shownAny) := shown.foldl (fun (t, last, any) r =>
            let gap : Octets := if separated && any && last + 1 != r.number then lit "--\n" else []
            let line : Octets :=
              if g.has 'o' then
                if r.hit && !g.has 'v' then
                  ((e.findAll (subject folded r.line) true).filter fun f => f.first < f.last).flatMap
                    fun f => front r (r.offset + f.first) ':' ++
                      (r.line.drop f.first).take (f.last - f.first) ++ [mark]
                else []
              else front r r.offset (if r.hit then ':' else '-') ++ r.line ++ [mark]
            (t ++ [gap ++ line], r.number, true)) (([] : List Octets), 0, shownAny)
          say text.flatten
          return (found || 0 < hits, failed, shownAny)) (false, false, false)
  return if failed && !(found && g.has 'q') then 2 else if found then 0 else 1

end Utility
end Equate.Shell
