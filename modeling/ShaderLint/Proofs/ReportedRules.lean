/-
Rules and what is reported under them.

A rule may be asked about any text, but the text of a statement is trimmed, and that settles more. A
lone brace is then the brace alone and ends a block, so the rule for lone braces, which is asked after
the one for blocks, decides no statement (`deciding_ne_loneBrace`). And a call then ends with its
parenthesis, so no semicolon ends it. Whether a statement is reported can therefore be told from its
rule and its last character (`Reads.flagged_iff_rule`).

What is reported does not have the shape of anything exempt, because the rules that exempt are asked
before the three that ask for a semicolon. And since no two statements of a source stand on one line, a
report at the line of a statement is one of that statement, and there are as many reports as calls and
open-ended statements (`length_semicolonErrors`).
-/
import Mathlib.Data.List.Nodup
import ShaderLint.Proofs.OpenStatements

set_option autoImplicit false

namespace ShaderLint

open Text

/-! ## Rules -/

namespace Rule

/-- No two rules are reported by one name. -/
theorem name_injective : Function.Injective name := by
  have htable : ∀ r ∈ table, ∀ q ∈ table, r.name = q.name → r = q := by decide
  intro r q h
  exact htable r (mem_table r) q (mem_table q) h

/-- The rules that ask for a semicolon. -/
theorem requiresSemicolon_iff {r : Rule} :
    r.requiresSemicolon = true ↔ r = .assignment ∨ r = .returnStatement ∨ r = .callStatement := by
  cases r <;> decide

/-- What needs a semicolon has the shape of nothing that is exempt. -/
theorem not_language_of_requires {r : Rule} (hr : r ∈ earlier .assignment) {t : List Char}
    (h : (deciding t).requiresSemicolon = true) : ¬ r.Language t :=
  fun hlanguage => (requiresSemicolon_deciding_iff.mp h).1 ⟨r, hr, hlanguage⟩

section Trimmed

variable {t : List Char} (htrim : trim t = t)

include htrim

/-- **The rule for blocks is the first to take a lone brace.** -/
theorem deciding_of_isLoneBrace (h : Shape.IsLoneBrace t) : deciding t = .blockDelimiter := by
  have hbrace := h.trim_eq
  rw [htrim] at hbrace
  rcases hbrace with rfl | rfl
  · decide
  · decide

theorem deciding_ne_loneBrace : deciding t ≠ .loneBrace := by
  intro hlone
  have hbrace : Shape.IsLoneBrace t := (deciding_eq_iff.mp hlone).1
  rw [deciding_of_isLoneBrace htrim hbrace] at hlone
  contradiction

/-- **What is decided as a call ends with a parenthesis.** -/
theorem suffix_of_deciding_call (h : deciding t = .callStatement) : [')'] <:+ t := by
  have hcall : Shape.IsCall t := (deciding_eq_iff.mp h).1
  have hlast := hcall.suffix_trim
  rw [htrim] at hlast
  exact hlast

end Trimmed

end Rule

/-- The end of a block that has a semicolon has a brace before it. -/
theorem Shape.IsBlockDelimiter.semicolon_iff {t : List Char} (h : Shape.IsBlockDelimiter t) :
    [';'] <:+ t ↔ ['}', ';'] <:+ t := by
  constructor
  · intro hsemicolon
    rcases h with hends | hends | hends | hends
    · exact absurd (eq_of_suffix hends hsemicolon) (by decide)
    · exact absurd (eq_of_suffix hends hsemicolon) (by decide)
    · exact hends
    · exact absurd (eq_of_suffix hends hsemicolon) (by decide)
  · intro hends
    have hlast : [';'] <:+ ['}', ';'] := List.suffix_append ['}'] [';']
    exact hlast.trans hends

/-! ## Statements -/

namespace Statement

/-- An assignment or a `return` that does not end with a semicolon. -/
def OpenEnded (s : Statement) : Prop :=
  (s.rule = "assignment" ∨ s.rule = "return_statement") ∧ ¬ [';'] <:+ s.text.toList

instance : DecidablePred OpenEnded := fun s =>
  inferInstanceAs (Decidable
    ((s.rule = "assignment" ∨ s.rule = "return_statement") ∧ ¬ [';'] <:+ s.text.toList))

/-- There is a diagnostic at the line of the statement. -/
def Reported (errors : List Diagnostic) (s : Statement) : Prop := ∃ e ∈ errors, e.line = s.line

/-- What the rule of a statement, its text and what is reported have to do with each other. -/
structure Settled (errors : List Diagnostic) (s : Statement) : Prop where
  /-- A lone brace ends a block, and the rule of its own never decides. -/
  brace : s.rule ≠ "lone_brace"
    ∧ (Shape.IsLoneBrace s.text.toList → s.rule = "block_delimiter")
  /-- A call ends with a parenthesis and is reported. -/
  call : s.rule = "call_statement" → [')'] <:+ s.text.toList ∧ s.Reported errors
  /-- Besides calls, what is reported are assignments and returns without their semicolon. -/
  reported : s.Reported errors ↔ s.rule = "call_statement" ∨ s.OpenEnded
  /-- What is reported ends in no brace, no comma and no semicolon. -/
  ending : s.Reported errors → ∀ c ∈ ['{', '}', ',', ';'], ¬ [c] <:+ s.text.toList
  /-- What is reported opens no control structure. -/
  control : s.Reported errors → ¬ ∃ lead pad rest, Shape.OpensControl lead ∧ Blanks pad
    ∧ s.text.toList = lead ++ (pad ++ '(' :: rest)
  /-- What is reported begins with no number sign. -/
  sign : s.Reported errors → s.text.toList.head? ≠ some '#'
  /-- The end of a block has a semicolon only after a brace. -/
  block : s.rule = "block_delimiter" →
    (s.endsWithSemicolon = true ↔ ['}', ';'] <:+ s.text.toList)

namespace Reads

variable {n : Nat} {code : List Char} {s : Statement} (h : Reads n code s)

include h

/-- The name under which a statement was decided tells the rule. -/
theorem rule_eq_iff (r : Rule) : s.rule = r.name ↔ Rule.deciding (trim code) = r := by
  rw [h.rule, Rule.name_injective.eq_iff]

/-- **Flagged or not, told by the rule.** A call ends with a parenthesis and so with no semicolon. -/
theorem flagged_iff_rule : Document.Flagged s ↔ s.rule = "call_statement" ∨ s.OpenEnded := by
  have hassignment : s.rule = "assignment" ↔ _ := h.rule_eq_iff .assignment
  have hreturn : s.rule = "return_statement" ↔ _ := h.rule_eq_iff .returnStatement
  have hcall : s.rule = "call_statement" ↔ _ := h.rule_eq_iff .callStatement
  have hends : Rule.deciding (trim code) = .callStatement → ¬ [';'] <:+ trim code := by
    intro hdeciding hsemicolon
    have hparen := Rule.suffix_of_deciding_call (trim_trim code) hdeciding
    exact absurd (eq_of_suffix hparen hsemicolon) (by decide)
  rw [h.flagged_iff, Rule.requiresSemicolon_iff, OpenEnded, h.text, hassignment, hreturn, hcall]
  constructor
  · rintro ⟨hrule | hrule | hrule, hopen⟩
    · exact .inr ⟨.inl hrule, hopen⟩
    · exact .inr ⟨.inr hrule, hopen⟩
    · exact .inl hrule
  · rintro (hrule | ⟨hrule | hrule, hopen⟩)
    · exact ⟨.inr (.inr hrule), hends hrule⟩
    · exact ⟨.inl hrule, hopen⟩
    · exact ⟨.inr (.inl hrule), hopen⟩

/-- **A statement that reads a line is settled** by any list that reports it exactly if it is
flagged. -/
theorem settled {errors : List Diagnostic}
    (hreported : s.Reported errors ↔ Document.Flagged s) : s.Settled errors := by
  have hexempt : ∀ {r : Rule}, r ∈ Rule.earlier .assignment → s.Reported errors →
      ¬ r.Language s.text.toList := by
    intro r hr hs
    rw [h.text]
    exact Rule.not_language_of_requires hr (h.flagged_iff.mp (hreported.mp hs)).1
  constructor
  case brace =>
    have hlone := (h.rule_eq_iff .loneBrace).not.mpr (Rule.deciding_ne_loneBrace (trim_trim code))
    refine ⟨hlone, fun hbrace => (h.rule_eq_iff .blockDelimiter).mpr ?_⟩
    rw [h.text] at hbrace
    exact Rule.deciding_of_isLoneBrace (trim_trim code) hbrace
  case call =>
    intro hrule
    refine ⟨?_, hreported.mpr (h.flagged_iff_rule.mpr (.inl hrule))⟩
    rw [h.text]
    exact Rule.suffix_of_deciding_call (trim_trim code) ((h.rule_eq_iff .callStatement).mp hrule)
  case reported => exact hreported.trans h.flagged_iff_rule
  case ending =>
    intro hs
    have hblock : ¬ Shape.IsBlockDelimiter s.text.toList := hexempt (r := .blockDelimiter) (by decide) hs
    have hsemicolon : ¬ [';'] <:+ s.text.toList := by
      rw [h.text]
      exact (h.flagged_iff.mp (hreported.mp hs)).2
    rw [List.forall_mem_cons, List.forall_mem_cons, List.forall_mem_cons, List.forall_mem_singleton]
    exact ⟨fun hends => hblock (.inl hends), fun hends => hblock (.inr (.inl hends)),
      fun hends => hblock (.inr (.inr (.inr hends))), hsemicolon⟩
  case control =>
    intro hs hopens
    have hcontrol : ¬ Shape.IsControlFlow s.text.toList := hexempt (r := .controlFlow) (by decide) hs
    exact hcontrol (.inl hopens)
  case sign =>
    intro hs hhead
    have hdirective : ¬ Shape.IsDirective s.text.toList := hexempt (r := .directive) (by decide) hs
    exact hdirective (.inl hhead)
  case block =>
    intro hrule
    have hblock : Shape.IsBlockDelimiter (trim code) :=
      (Rule.deciding_eq_iff.mp ((h.rule_eq_iff .blockDelimiter).mp hrule)).1
    rw [h.semicolon, h.text]
    exact hblock.semicolon_iff

end Reads

/-- Each statement of a source reads a line. -/
theorem exists_reads_of_mem_classify {source : String} {s : Statement}
    (hs : s ∈ (classify source).statements) : ∃ n code, Reads n code s := by
  rw [classify_statements] at hs
  exact exists_reads_of_mem hs

/-- **No statement is reported for another**, since no other stands on its line. -/
theorem reported_iff_flagged {source : String} {s : Statement}
    (hs : s ∈ (classify source).statements) :
    s.Reported (classify source).semicolonErrors ↔ Document.Flagged s := by
  have hlines : ((classify source).statements.map (·.line)).Nodup := by
    rw [List.Nodup, List.pairwise_map]
    refine (Scan.classify_increasing source).imp fun hlt heq => ?_
    rw [heq] at hlt
    exact Nat.lt_irrefl _ hlt
  constructor
  · rintro ⟨e, he, hline⟩
    obtain ⟨t, ht, rfl⟩ := List.mem_map.mp he
    rw [List.mem_filter, decide_eq_true_eq] at ht
    rw [← List.inj_on_of_nodup_map hlines ht.1 hs hline]
    exact ht.2
  · intro hflagged
    refine ⟨_, List.mem_map.mpr ⟨s, ?_, rfl⟩, rfl⟩
    rw [List.mem_filter, decide_eq_true_eq]
    exact ⟨hs, hflagged⟩

end Statement

/-! ## Reports -/

/-- **As many diagnostics as calls and open-ended statements.** What is flagged is counted in two
parts, and under each part it is the other condition that is left. -/
theorem length_semicolonErrors (source : String) :
    (classify source).semicolonErrors.length
      = (classify source).statements.countP (fun s => s.rule = "call_statement")
        + (classify source).statements.countP fun s => s.OpenEnded := by
  have hrule : ∀ s ∈ (classify source).statements,
      (Document.Flagged s ↔ s.rule = "call_statement" ∨ s.OpenEnded) := by
    intro s hs
    obtain ⟨n, code, hreads⟩ := Statement.exists_reads_of_mem_classify hs
    exact hreads.flagged_iff_rule
  rw [Document.semicolonErrors, List.length_map, ← List.countP_eq_length_filter,
    List.countP_eq_countP_filter_add _ _ fun s => s.rule = "call_statement", List.countP_filter,
    List.countP_filter]
  congr 1
  · refine List.countP_congr fun s hs => ?_
    simp only [Bool.and_eq_true, decide_eq_true_eq, hrule s hs]
    tauto
  · refine List.countP_congr fun s hs => ?_
    have hnot : s.OpenEnded → s.rule ≠ "call_statement" := by
      rintro ⟨hassignment | hreturn, -⟩ hcall
      · exact absurd (hassignment.symm.trans hcall) (by decide)
      · exact absurd (hreturn.symm.trans hcall) (by decide)
    simp only [Bool.and_eq_true, Bool.not_eq_true', decide_eq_true_eq, decide_eq_false_iff_not,
      hrule s hs]
    tauto

/-- **Rules and reports.** The check for semicolons gives a list on every source, which is what the
report of the default chain says about semicolons, and the rule of each statement, its text and whether
the list reports it are coupled as `Settled` says. So the list has one diagnostic for each call and one
for each assignment or `return` without its semicolon. -/
theorem rule_settles_report (source : String) :
    ∃ report errors, (Chain.default.checkSource source).1 = .ok report
      ∧ Validator.terminator.run (classify source) = .ok errors
      ∧ report.missingTerminators = errors
      ∧ (∀ s ∈ (classify source).statements, s.Settled errors)
      ∧ errors.length
        = (classify source).statements.countP (fun s => s.rule = "call_statement")
          + (classify source).statements.countP fun s => s.OpenEnded := by
  refine ⟨_, (classify source).semicolonErrors, Chain.default_checkSource source, ?_,
    Document.missingTerminators_eq _, ?_, length_semicolonErrors source⟩
  · rw [← Document.terminatorErrors_eq]
    rfl
  · intro s hs
    obtain ⟨n, code, hreads⟩ := Statement.exists_reads_of_mem_classify hs
    exact hreads.settled (Statement.reported_iff_flagged hs)

/-- An assignment and a call are reported; a line that goes on, the rest of it and what ends with its
semicolon are not. -/
example : (classify "a = f(1,\n2)\nb = g(a)\nh (b)\nc = b;").semicolonErrors.map
    (·.line.val) = [3, 4] := by decide

end ShaderLint
