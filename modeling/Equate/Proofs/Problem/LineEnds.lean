import Equate.Proofs.Problem.LineByLine

/-!
# Line ends of two characters

Some passes take the carriage return off with the line feed, others leave it in the text and
read over it. What they have in common is that they read the lines of the text only, and a
line the same with a carriage return at its end. So a source whose lines end with both
characters has the same system, or the same fault with the same line, text and reason.
-/
namespace Equate.Problem
open Text Success

/-! ## Readers of lines that are rewritten -/

section
variable {β : Type} {f : Text → β}

theorem ignoresReturn_emptied (hf : IgnoresReturn f) :
    IgnoresReturn fun line => f (emptied defines line) := fun line => by
  show f (emptied defines (line ++ ['\r'])) = f (emptied defines line)
  unfold emptied
  rw [ignoresReturn_defines line]
  split
  · rfl
  · exact hf line

/-- Values are written in front of the carriage return. -/
theorem ignoresReturn_rewritten (s : Scope) (hf : IgnoresReturn f) :
    IgnoresReturn fun line => f (rewritten s line) :=
  ignoresReturn_emptied (f := fun line => f (s.substitute line)) fun line =>
    (congrArg f (s.substitute_append_return line)).trans (hf (s.substitute line))

end

/-! ## Whole sources -/

section
variable {ls ls' : List Text}

theorem readings_of_rejoined (h : Rejoined ls ls') (s : Scope) :
    readings (rewritten s) (ls'.zipIdx 1) = readings (rewritten s) (ls.zipIdx 1) := by
  have hnil : rewritten s [] = [] := s.substitute_nil
  have hkind : ∀ kind, IgnoresReturn fun line => Directive.kind? line == some kind :=
    fun kind line => congrArg (· == some kind) (Directive.kind?_append_return line)
  have hguesses := h.mapM_filter (f := fun line n => Directive.readGuess n (rewritten s line))
    (by rw [hnil]; rfl) (ignoresReturn_rewritten s (hkind .guess))
    (fun n => ignoresReturn_rewritten s (ignoresReturn_readGuess n)) 1
  have hkeeps := h.mapM_filter (f := fun line n => Directive.readKeep n (rewritten s line))
    (by rw [hnil]; rfl) (ignoresReturn_rewritten s (hkind .keep))
    (fun n => ignoresReturn_rewritten s (ignoresReturn_readKeep n)) 1
  have hequations := h.mapM_filter (f := fun line n => Equation.read (rewritten s line) n)
    (by rw [hnil]; rfl) (ignoresReturn_rewritten s ignoresReturn_equates)
    (fun n => ignoresReturn_rewritten s (ignoresReturn_readEquation n)) 1
  rw [readings, readings, hguesses, hkeeps, hequations]

/-- Definitions, checks and readings see no difference between lines joined and taken again. -/
theorem readLines_of_rejoined (h : Rejoined ls ls') : readLines ls' = readLines ls := by
  have hdefinitions := h.filterMap_zipIdx (f := definition?) (fun _ => rfl) ignoresReturn_definition? 1
  rw [readLines, readLines, hdefinitions]
  refine bind_congr fun s => ?_
  have hchecks := h.forM (f := fun line n => s.checkLine n (emptied defines line)) (fun _ => rfl)
    (fun n => ignoresReturn_emptied (ignoresReturn_checkLine s n)) 1
  rw [hchecks, readings_of_rejoined h s]

end

/-- Sources with the same lines up to the carriage returns at their ends have the same system
or the same failure. -/
theorem ofSource_of_rejoined {units : Unit.Table} {source source' : Text}
    (h : Rejoined (lines source) (lines source')) : ofSource units source' = ofSource units source := by
  have hresolve := h.bind_mapM (Conversion.linewise_resolve units.conversion)
    (fun _ hline => newline_not_mem_of_mem_lines hline) readLines readLines
    fun _ _ => readLines_of_rejoined
  rw [ofSource, ofSource, resolve_eq, resolve_eq, hresolve]

/-- A carriage return in front of every line feed changes nothing: not the system, not the
warnings, and not the line, text and reason of a failure. -/
theorem ofSource_withReturns (units : Unit.Table) (source : Text) :
    ofSource units (withReturns source) = ofSource units source :=
  (ofSource_of_rejoined (rejoined_withReturns source)).symm

end Equate.Problem
