import Equate.Text.Basic

/-!
# Regular expressions

An expression is matched from a position of a text by a way to go on behind the match.
Alternatives and repetitions are tried in their order, so that the first way that leads
through counts. Where the longest match counts instead, the positions at which a match
can end are collected first.
-/
namespace Equate

/-- A place in a text that an expression can ask for. -/
inductive Match.Edge where
  /-- The start of the text. -/
  | start
  /-- The end of the text. -/
  | finish
  /-- The start of a line. -/
  | lineStart
  /-- The end of a line. -/
  | lineFinish
  /-- The end of the text, or the line feed that ends it. -/
  | lastLine
  | word
  | noWord
  | wordStart
  | wordFinish
  deriving DecidableEq

/-- A regular expression. -/
inductive Match where
  | empty
  | this (c : Char)
  | among (others : Bool) (choice : Char → Bool)
  | edge (e : Match.Edge)
  | sequence (a b : Match)
  | either (a b : Match)
  /-- A repetition, which takes as much or as little as it can. -/
  | repeated (a : Match) (least : Nat) (most : Option Nat) (greedy : Bool)
  | group (n : Nat) (a : Match)
  | again (n : Nat)
  /-- What follows matches, or does not. -/
  | ahead (negated : Bool) (a : Match)
  /-- What is in front matches, or does not. -/
  | before (negated : Bool) (a : Match)

namespace Match

/-- A text that is searched, and how letters are compared. -/
structure Subject where
  text : Array Char
  folded : Bool
  isWord : Char → Bool

/-- A position with the groups that have been matched, the last first, each with its first
position and the one behind it. -/
structure Spot where
  position : Nat
  groups : List (Nat × Nat × Nat)

namespace Subject

/-- Two characters are equal, as letters are compared. -/
def same (s : Subject) (c d : Char) : Bool :=
  c == d || (s.folded && (c.toLower == d.toLower || c.toUpper == d.toUpper))

/-- A character belongs to a choice, as letters are compared. -/
def belongs (s : Subject) (choice : Char → Bool) (c : Char) : Bool :=
  choice c || (s.folded && (choice c.toLower || choice c.toUpper))

/-- The character at a position is part of a word. -/
def wordAt (s : Subject) (i : Nat) : Bool := s.text[i]?.any s.isWord

/-- The character in front of a position is part of a word. -/
def wordBefore (s : Subject) (i : Nat) : Bool := i != 0 && s.wordAt (i - 1)

/-- The place that an expression asks for is here. -/
def isEdge (s : Subject) (e : Edge) (i : Nat) : Bool :=
  match e with
  | .start => i == 0
  | .finish => i == s.text.size
  | .lineStart => i == 0 || s.text[i - 1]? == some '\n'
  | .lineFinish => i == s.text.size || s.text[i]? == some '\n'
  | .lastLine => i == s.text.size || (i + 1 == s.text.size && s.text[i]? == some '\n')
  | .word => s.wordBefore i != s.wordAt i
  | .noWord => s.wordBefore i == s.wordAt i
  | .wordStart => !s.wordBefore i && s.wordAt i
  | .wordFinish => s.wordBefore i && !s.wordAt i

/-- A part of the text. -/
def slice (s : Subject) (first last : Nat) : Text := (s.text.extract first last).toList

/-- The text at a position begins with this. -/
def hasAt (s : Subject) (t : Text) (i : Nat) : Bool :=
  match t with
  | [] => true
  | c :: rest => s.text[i]?.any (s.same c) && s.hasAt rest (i + 1)

/-- How far characters of a choice reach from a position, over so many at most. -/
def reach (s : Subject) (accepts : Char → Bool) : Nat → Nat → Nat
  | 0, i => i
  | n + 1, i => if s.text[i]?.any accepts then s.reach accepts n (i + 1) else i

end Subject

/-- The characters that an expression for one character takes. -/
def single? (s : Subject) : Match → Option (Char → Bool)
  | .this c => some (s.same c)
  | .among others choice => some fun c => s.belongs choice c != others
  | _ => none

/-- A repetition, by one step of it. Steps beyond those that there must be have to lead on.
-/
def loop (step : Spot → (Spot → Option Spot) → Option Spot) (greedy : Bool)
    (goOn : Spot → Option Spot) : (fuel least : Nat) → Option Nat → Spot → Option Spot
  | 0, _, _, _ => none
  | fuel + 1, least, most, spot =>
    let further : Unit → Option Spot := fun _ =>
      if most = some 0 then none
      else step spot fun next =>
        if least = 0 ∧ next.position = spot.position then none
        else loop step greedy goOn fuel (least - 1) (most.map (· - 1)) next
    if 0 < least then further ()
    else if greedy then (further ()).or (goOn spot)
    else (goOn spot).or (further ())

/-- The same for single characters: all positions are known at once. -/
def shrink (goOn : Nat → Option Spot) (least : Nat) : (count : Nat) → Option Spot
  | 0 => if least = 0 then goOn 0 else none
  | n + 1 => if n + 1 < least then none else (goOn (n + 1)).or (shrink goOn least n)

/-- Matches at a spot and goes on from there. -/
def run (s : Subject) : Match → Spot → (Spot → Option Spot) → Option Spot
  | .empty, spot, goOn => goOn spot
  | .this c, spot, goOn =>
    if s.text[spot.position]?.any (s.same c) then
      goOn { spot with position := spot.position + 1 }
    else none
  | .among others choice, spot, goOn =>
    if s.text[spot.position]?.any fun d => s.belongs choice d != others then
      goOn { spot with position := spot.position + 1 }
    else none
  | .edge e, spot, goOn => if s.isEdge e spot.position then goOn spot else none
  | .sequence a b, spot, goOn => run s a spot fun spot => run s b spot goOn
  | .either a b, spot, goOn => (run s a spot goOn).or (run s b spot goOn)
  | .group n a, spot, goOn =>
    run s a spot fun t => goOn { t with groups := (n, spot.position, t.position) :: t.groups }
  | .again n, spot, goOn =>
    match spot.groups.lookup n with
    | none => none
    | some (first, last) =>
      let t := s.slice first last
      if s.hasAt t spot.position then goOn { spot with position := spot.position + t.length }
      else none
  | .repeated a least most greedy, spot, goOn =>
    match single? s a, greedy with
    | some accepts, true =>
      let limit := most.getD (s.text.size + 1)
      let last := s.reach accepts limit spot.position
      shrink (fun n => goOn { spot with position := spot.position + n }) least
        (last - spot.position)
    | _, _ =>
      loop (fun spot goOn => run s a spot goOn) greedy goOn (s.text.size + least + 2) least most
        spot
  | .ahead negated a, spot, goOn =>
    match run s a spot some with
    | some found => if negated then none else goOn { found with position := spot.position }
    | none => if negated then goOn spot else none
  | .before negated a, spot, goOn =>
    let found := (List.range (spot.position + 1)).findSome? fun n =>
      run s a { spot with position := spot.position - n } fun t =>
        if t.position = spot.position then some t else none
    match found with
    | some found => if negated then none else goOn { found with position := spot.position }
    | none => if negated then goOn spot else none

/-- The expression asks for what a group has matched, or for what surrounds it. -/
def isPlain : Match → Bool
  | .again _ => false
  | .ahead .. => false
  | .before .. => false
  | .sequence a b => a.isPlain && b.isPlain
  | .either a b => a.isPlain && b.isPlain
  | .repeated a _ _ _ => a.isPlain
  | .group _ a => a.isPlain
  | _ => true

/-- Positions in their order, without those that stand twice. -/
def union : List Nat → List Nat → List Nat
  | [], b => b
  | a, [] => a
  | i :: a, j :: b =>
    if i < j then i :: union a (j :: b)
    else if j < i then j :: union (i :: a) b
    else i :: union a b

/-- All positions that steps lead to. -/
def closure (step : List Nat → List Nat) : (fuel : Nat) → (fresh all : List Nat) → List Nat
  | 0, _, all => all
  | fuel + 1, fresh, all =>
    let next := (step fresh).filter fun i => !all.contains i
    if next.isEmpty then all else closure step fuel next (union all next)

/-- The positions behind matches from these positions. -/
def ends (s : Subject) : Match → List Nat → List Nat
  | .empty, all => all
  | .this c, all => (all.filter fun i => s.text[i]?.any (s.same c)).map (· + 1)
  | .among others choice, all =>
    (all.filter fun i => s.text[i]?.any fun d => s.belongs choice d != others).map (· + 1)
  | .edge e, all => all.filter (s.isEdge e)
  | .sequence a b, all => ends s b (ends s a all)
  | .either a b, all => union (ends s a all) (ends s b all)
  | .group _ a, all => ends s a all
  | .repeated a least most _, all =>
    match single? s a, all with
    | some accepts, [i] =>
      let limit := most.getD (s.text.size + 1)
      let last := s.reach accepts limit i
      List.range' (i + least) (last + 1 - (i + least))
    | _, _ =>
      let first := (List.range least).foldl (fun all _ => ends s a all) all
      closure (ends s a) (match most with
        | some n => n - least
        | none => s.text.size + 1) first first
  | _, _ => []

/-- The match at a position. The longest one if that is wanted. -/
def matchAt? (e : Match) (s : Subject) (longest : Bool) (i : Nat) : Option Spot :=
  match run s e ⟨i, []⟩ some with
  | none => none
  | some first =>
    if longest then
      if e.isPlain then
        match (ends s e [i]).getLast? with
        | some last =>
          if last = first.position then some first
          else (run s e ⟨i, []⟩ fun t => if t.position = last then some t else none).or (some first)
        | none => some first
      else some first
    else some first

/-- A match in a text: its first position, the one behind it, and its groups. -/
structure Found where
  first : Nat
  last : Nat
  groups : List (Nat × Nat × Nat)

/-- The first match from a position on, over so many positions at most. -/
def searchFrom (e : Match) (s : Subject) (longest : Bool) : Nat → Nat → Option Found
  | 0, _ => none
  | n + 1, i =>
    match e.matchAt? s longest i with
    | some spot => some ⟨i, spot.position, spot.groups⟩
    | none => searchFrom e s longest n (i + 1)

/-- The first match at a position or behind it. -/
def search? (e : Match) (s : Subject) (longest : Bool) (i : Nat) : Option Found :=
  e.searchFrom s longest (s.text.size + 1 - i) i

/-- The matches one after the other. An empty one does not stand right behind another. -/
def searchAll (e : Match) (s : Subject) (longest : Bool) : Nat → (i : Nat) → Option Nat → List Found
  | 0, _, _ => []
  | n + 1, i, last =>
    match e.search? s longest i with
    | none => []
    | some found =>
      if found.last = found.first then
        if last = some found.first then searchAll e s longest n (found.first + 1) none
        else found :: searchAll e s longest n (found.first + 1) none
      else found :: searchAll e s longest n found.last (some found.last)

/-- All matches in a text. -/
def findAll (e : Match) (s : Subject) (longest : Bool) : List Found :=
  e.searchAll s longest (s.text.size + 2) 0 none

/-- An expression for a text itself. -/
def literal (t : Text) : Match := t.foldr (fun c e => .sequence (.this c) e) .empty

end Match
end Equate
