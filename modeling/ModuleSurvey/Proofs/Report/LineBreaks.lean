import ModuleSurvey.Proofs.BlockIndex.Lookups
import ModuleSurvey.Proofs.Json.Lexeme
import ModuleSurvey.Report.Problems

/-! # Line breaks in a report

A report gives each problem a line and closes with a verdict. The texts of a problem are written as
they are, so a line feed in one of them breaks the line of the problem, and nothing else does. The
verdict is made of words and numbers, so it is never broken, and it always stands last.

* `Unbroken`, `lineFeeds` — texts without line feeds, and the number of line feeds.
* `Diagnostic.lineFeeds`, `Diagnostic.Unbroken` — those in the texts of a problem.
* `count_diagnosticLine`, `Diagnostic.lineFeeds_text` — a problem is broken where its texts are.
* `splitOn_checkLines`, `Diagnostics.splitOn_text` — the lines of a report.
-/

namespace ModuleSurvey

/-! ## Characters that a text lacks -/

def Lacks (c : Char) (s : String) : Prop := c ∉ s.toList

instance (c : Char) (s : String) : Decidable (Lacks c s) := inferInstanceAs (Decidable (_ ∉ _))

variable {c : Char} {joint : String} {words : List String}

theorem Lacks.append {s t : String} (first : Lacks c s) (more : Lacks c t) : Lacks c (s ++ t) := by
  rw [Lacks, String.toList_append, List.mem_append, not_or]
  exact ⟨first, more⟩

theorem lacks_toString (other : c.isDigit = false) (n : Nat) : Lacks c (toString n) := by
  intro member
  have digits : (toString n).toList = Nat.toDigits 10 n := String.toList_ofList
  rw [digits] at member
  exact Bool.false_ne_true (other.symm.trans (Json.isDigit_of_mem_decimal member))

theorem lacks_intercalate (between : Lacks c joint) (parts : ∀ word ∈ words, Lacks c word) :
    Lacks c (joint.intercalate words) := by
  induction words with
  | nil => exact List.not_mem_nil
  | cons word words inductionHypothesis =>
    obtain ⟨first, more⟩ := List.forall_mem_cons.1 parts
    cases words with
    | nil => simpa using first
    | cons next words =>
      rw [String.intercalate_cons_cons]
      exact (first.append between).append (inductionHypothesis more)

/-! ## Line feeds -/

def lineFeeds (s : String) : Nat := s.toList.count '\n'

def Unbroken (s : String) : Prop := '\n' ∉ s.toList

instance (s : String) : Decidable (Unbroken s) := inferInstanceAs (Decidable (_ ∉ _))

theorem lineFeeds_eq_zero_iff {s : String} : lineFeeds s = 0 ↔ Unbroken s := List.count_eq_zero

theorem lineFeeds_append (s t : String) : lineFeeds (s ++ t) = lineFeeds s + lineFeeds t := by
  rw [lineFeeds, String.toList_append, List.count_append]
  rfl

theorem Unbroken.append {s t : String} (first : Unbroken s) (more : Unbroken t) :
    Unbroken (s ++ t) :=
  Lacks.append first more

theorem unbroken_toString (n : Nat) : Unbroken (toString n) := lacks_toString (by decide) n

theorem lineFeeds_toString (n : Nat) : lineFeeds (toString n) = 0 :=
  lineFeeds_eq_zero_iff.2 (unbroken_toString n)

/-! ## The texts of a problem -/

namespace Diagnostic

def lineFeeds (d : Diagnostic) : Nat :=
  ModuleSurvey.lineFeeds d.summary + ModuleSurvey.lineFeeds d.detail +
    (d.pos.elim 0 fun pos => ModuleSurvey.lineFeeds pos.filename)

structure Unbroken (d : Diagnostic) : Prop where
  summary : ModuleSurvey.Unbroken d.summary
  detail : ModuleSurvey.Unbroken d.detail
  filename : ∀ pos, d.pos = some pos → ModuleSurvey.Unbroken pos.filename

theorem lineFeeds_eq_zero_iff {d : Diagnostic} : d.lineFeeds = 0 ↔ d.Unbroken := by
  rw [lineFeeds, Nat.add_eq_zero_iff, Nat.add_eq_zero_iff, ModuleSurvey.lineFeeds_eq_zero_iff,
    ModuleSurvey.lineFeeds_eq_zero_iff]
  constructor
  · rintro ⟨⟨summary, detail⟩, file⟩
    refine ⟨summary, detail, fun pos placed => ?_⟩
    rw [placed] at file
    exact ModuleSurvey.lineFeeds_eq_zero_iff.1 file
  · rintro ⟨summary, detail, filename⟩
    refine ⟨⟨summary, detail⟩, ?_⟩
    cases placed : d.pos with
    | none => rfl
    | some pos => exact ModuleSurvey.lineFeeds_eq_zero_iff.2 (filename pos placed)

theorem lineFeeds_text (d : Diagnostic) : ModuleSurvey.lineFeeds d.text = d.lineFeeds := by
  have title : ModuleSurvey.lineFeeds d.severity.title = 0 := by cases d.severity <;> decide
  have detail : ModuleSurvey.lineFeeds (if d.detail = "" then "" else "; " ++ d.detail) =
      ModuleSurvey.lineFeeds d.detail := by
    have joint : ModuleSurvey.lineFeeds "; " = 0 := by decide
    split
    case isTrue none => rw [none]
    case isFalse => rw [lineFeeds_append, joint, Nat.zero_add]
  have place (pos : SourcePos) : ModuleSurvey.lineFeeds (" (" ++ pos.text ++ ")") =
      ModuleSurvey.lineFeeds pos.filename := by
    have joints : ModuleSurvey.lineFeeds " (" = 0 ∧ ModuleSurvey.lineFeeds ":" = 0 ∧
        ModuleSurvey.lineFeeds ")" = 0 := by decide
    simp only [SourcePos.text, lineFeeds_append, joints, lineFeeds_toString, Nat.zero_add,
      Nat.add_zero]
  have colon : ModuleSurvey.lineFeeds ": " = 0 := by decide
  rw [text, lineFeeds_append, lineFeeds_append, lineFeeds_append, lineFeeds_append, title, colon,
    detail, lineFeeds, Nat.zero_add]
  cases d.pos with
  | none => rfl
  | some pos => rw [place]; rfl

end Diagnostic

namespace Diagnostics

def lineFeeds : Diagnostics → Nat
  | [] => 0
  | d :: ds => d.lineFeeds + lineFeeds ds

theorem lineFeeds_eq_zero_iff {ds : Diagnostics} : ds.lineFeeds = 0 ↔ ∀ d ∈ ds, d.Unbroken := by
  induction ds with
  | nil => exact ⟨fun _ => List.forall_mem_nil _, fun _ => rfl⟩
  | cons d ds inductionHypothesis =>
    rw [lineFeeds, Nat.add_eq_zero_iff, Diagnostic.lineFeeds_eq_zero_iff, inductionHypothesis,
      List.forall_mem_cons]

end Diagnostics

/-! ## Lines -/

namespace Report

theorem count_opening (style : Style) : style.opening.count '\n' = 0 := by cases style <;> decide

theorem count_closing : closing.count '\n' = 0 := by decide

theorem count_reopened {opening : List Char} (unbroken : opening.count '\n' = 0) (cs : List Char) :
    (reopened opening cs).count '\n' = cs.count '\n' := by
  fun_induction reopened opening cs with
  | case1 cs inductionHypothesis =>
    have ended : ('\x1b' :: '[' :: '0' :: 'm' :: cs).count '\n' = cs.count '\n' := by simp
    rw [List.count_append, List.count_append, count_closing, unbroken, inductionHypothesis, ended,
      Nat.zero_add]
  | case2 c cs notEnded inductionHypothesis =>
    rw [List.count_cons, List.count_cons, inductionHypothesis]
  | case3 => rfl

theorem count_chars (color : Bool) (span : Span) :
    (span.chars color).count '\n' = (span.chars false).count '\n' := by
  cases span with
  | plain s => rfl
  | styled style s =>
    cases color with
    | false => rfl
    | true =>
      have styled : (Span.styled style s).chars true =
          style.opening ++ reopened style.opening s.toList ++ closing := rfl
      rw [styled, List.count_append, List.count_append, count_opening, count_closing,
        count_reopened (count_opening style), Nat.zero_add, Nat.add_zero]
      rfl

theorem count_line (color : Bool) (line : Line) :
    (line.chars color).count '\n' = (line.chars false).count '\n' := by
  induction line with
  | nil => rfl
  | cons span line inductionHypothesis =>
    have split (color : Bool) : Line.chars color (span :: line) =
        span.chars color ++ Line.chars color line := List.flatMap_cons
    rw [split, split, List.count_append, List.count_append, count_chars, inductionHypothesis]

theorem chars_diagnosticLine (d : Diagnostic) : (diagnosticLine d).chars false = d.text.toList := by
  obtain ⟨severity, summary, detail, pos⟩ := d
  cases severity <;> cases pos <;> by_cases empty : detail = "" <;>
    simp [diagnosticLine, Line.chars, Span.chars, severitySpan, Diagnostic.text, Severity.title, empty]

theorem count_diagnosticLine (color : Bool) (d : Diagnostic) :
    ((diagnosticLine d).chars color).count '\n' = d.lineFeeds := by
  rw [count_line, chars_diagnosticLine, ← d.lineFeeds_text]
  rfl

theorem newline_not_mem_verdictLine (color : Bool) (ds : Diagnostics) (r : CheckReport) :
    '\n' ∉ (verdictLine ds r).chars color := by
  have joints : Unbroken " error(s), " ∧ Unbroken " warning(s)" ∧ Unbroken "✗ " ∧ Unbroken "✓ " ∧
      Unbroken "✓ No problems found" := by decide
  obtain ⟨errors, warnings, failed, passed, clean⟩ := joints
  have totals : Unbroken (toString r.errors ++ " error(s), " ++ toString r.warnings ++ " warning(s)") :=
    (((unbroken_toString _).append errors).append (unbroken_toString _)).append warnings
  have single (style : Style) (s : String) : Line.chars false [.styled style s] = s.toList := by
    simp [Line.chars, Span.chars]
  rw [← List.count_eq_zero, count_line, List.count_eq_zero]
  simp only [verdictLine]
  split
  · exact single .green _ ▸ clean
  · split
    · exact single .red _ ▸ failed.append totals
    · exact single .yellow _ ▸ passed.append totals

/-! ## Reports -/

theorem length_splitOn {a : Char} (cs : List Char) : (cs.splitOn a).length = cs.count a + 1 := by
  induction cs with
  | nil => rfl
  | cons c cs inductionHypothesis =>
    rw [List.splitOn_cons_eq_if_modifyHead, List.count_cons]
    split
    case isTrue same => rw [List.length_cons, inductionHypothesis]
    case isFalse different => rw [List.length_modifyHead, inductionHypothesis, Nat.add_zero]

theorem splitOn_linesChars (color : Bool) (lines : List Line) :
    (linesChars color lines).splitOn '\n' =
      (lines.flatMap fun line => (line.chars color).splitOn '\n') ++ [[]] := by
  induction lines with
  | nil => rfl
  | cons line lines inductionHypothesis =>
    have split : linesChars color (line :: lines) =
        line.chars color ++ '\n' :: linesChars color lines := by
      simp [linesChars]
    rw [split, List.splitOn_append_cons_self, inductionHypothesis, List.flatMap_cons,
      List.append_assoc]

/-- The lines of a report: those that the problems are broken into, and the verdict. -/
theorem splitOn_checkLines (color : Bool) (ds : Diagnostics) (r : CheckReport) :
    (linesText color (checkLines ds r)).toList.splitOn '\n' =
      (ds.flatMap fun d => ((diagnosticLine d).chars color).splitOn '\n') ++
        [(verdictLine ds r).chars color, []] := by
  have verdict : ((verdictLine ds r).chars color).splitOn '\n' = [(verdictLine ds r).chars color] :=
    List.splitOn_eq_singleton (newline_not_mem_verdictLine color ds r)
  rw [linesText, String.toList_ofList, splitOn_linesChars, checkLines, List.flatMap_append,
    List.flatMap_map, List.flatMap_singleton, verdict, List.append_assoc]
  rfl

theorem length_flatMap_splitOn (ds : Diagnostics) {chars : Diagnostic → List Char}
    (feeds : ∀ d, (chars d).count '\n' = d.lineFeeds) :
    (ds.flatMap fun d => (chars d).splitOn '\n').length = ds.length + ds.lineFeeds := by
  induction ds with
  | nil => rfl
  | cons d ds inductionHypothesis =>
    rw [List.flatMap_cons, List.length_append, inductionHypothesis, length_splitOn, feeds,
      List.length_cons, Diagnostics.lineFeeds]
    omega

theorem count_checkLines (color : Bool) (ds : Diagnostics) (r : CheckReport) :
    (linesText color (checkLines ds r)).toList.count '\n' = ds.length + 1 + ds.lineFeeds := by
  have pieces := congrArg List.length (splitOn_checkLines color ds r)
  rw [length_splitOn, List.length_append, length_flatMap_splitOn ds (count_diagnosticLine color),
    List.length_cons, List.length_singleton] at pieces
  omega

theorem flatMap_splitOn_of_unbroken {ds : Diagnostics} {chars : Diagnostic → List Char}
    (feeds : ∀ d, (chars d).count '\n' = d.lineFeeds) (unbroken : ∀ d ∈ ds, d.Unbroken) :
    (ds.flatMap fun d => (chars d).splitOn '\n') = ds.map chars := by
  have whole : ∀ d ∈ ds, (chars d).splitOn '\n' = [chars d] := by
    intro d member
    have none : (chars d).count '\n' = 0 :=
      (feeds d).trans (Diagnostic.lineFeeds_eq_zero_iff.2 (unbroken d member))
    exact List.splitOn_eq_singleton (List.count_eq_zero.1 none)
  rw [List.flatMap_def, List.map_congr_left whole, ← List.flatMap_def, List.map_eq_flatMap]

end Report

theorem Diagnostics.splitOn_text {ds : Diagnostics} (some_problem : ds ≠ []) :
    ds.text.toList.splitOn '\n' = ds.flatMap fun d => d.text.toList.splitOn '\n' := by
  obtain ⟨d, more, rfl⟩ := List.exists_cons_of_ne_nil some_problem
  have single : "\n".toList = ['\n'] := rfl
  have joined := Text.splitOn_joined single d.text (more.map Diagnostic.text)
  rw [Text.piecesAt, List.flatMap_cons, List.flatMap_map] at joined
  exact joined

end ModuleSurvey
