/-
A source reduced to its code.

Taking the comments out leaves nothing to take out. A comment that is removed from the middle of a line
brings two characters together that were apart, and they could be a slash and a second half; but a
slash is written out only with the character after it, when that is no second half, or else it is the
last of its line (`Mode.tokenFree_codeOf`). So the invariant is on what is still to be written, and
what has been written is never looked at again. And where no token begins, a line in code is its own
code (`Mode.codeOf_of_tokenFree`).

A source may then be replaced by the code of its lines, trimmed, with line feeds between (`reduced`).
That these are its lines is the splitting of joined lines: there is no line feed in them, since a line
has none and its code has no character that the line has not (`Mode.mem_of_mem_codeOf`), and no return
at their ends, since a return is blank.
-/
import ShaderLint.Proofs.CommentBodies
import ShaderLint.Proofs.JoinedLines

set_option autoImplicit false

namespace ShaderLint

open Text

namespace Comment

/-! ## Text in which no comment begins -/

/-- Neither token that begins a comment is in the text. -/
def TokenFree (cs : List Char) : Prop := ¬ ['/', '/'] <:+: cs ∧ ¬ ['/', '*'] <:+: cs

/-- No token begins at the first character, and none is in the rest. -/
theorem tokenFree_cons_iff {c : Char} {cs : List Char} :
    TokenFree (c :: cs)
      ↔ (c = '/' → cs.head? ≠ some '/' ∧ cs.head? ≠ some '*') ∧ TokenFree cs := by
  have hbegins : ∀ b : Char, ['/', b] <+: c :: cs ↔ c = '/' ∧ cs.head? = some b := by
    intro b
    rw [List.cons_prefix_cons, eq_comm]
    rcases cs with _ | ⟨d, cs⟩
    · simp
    · simp [List.cons_prefix_cons, eq_comm]
  simp only [TokenFree, List.infix_cons_iff, hbegins]
  tauto

theorem TokenFree.part {xs ys : List Char} (h : TokenFree ys) (hpart : xs <:+: ys) :
    TokenFree xs :=
  ⟨fun htoken => h.1 (htoken.trans hpart), fun htoken => h.2 (htoken.trans hpart)⟩

/-- **No comment begins in the code of a line**, wherever the reader stands before it. -/
theorem Mode.tokenFree_codeOf (mode : Mode) (line : List Char) : TokenFree (mode.codeOf line) := by
  have hnone : TokenFree [] := ⟨by simp, by simp⟩
  have hself : ∀ (c : Char) {cs : List Char}, c ≠ '/' → TokenFree cs → TokenFree (c :: cs) :=
    fun c cs hc h => tokenFree_cons_iff.mpr ⟨fun hslash => absurd hslash hc, h⟩
  induction line generalizing mode with
  | nil =>
    cases mode with
    | slash => exact tokenFree_cons_iff.mpr ⟨fun _ => ⟨by simp, by simp⟩, hnone⟩
    | code | line | block | star => exact hnone
  | cons c line ih =>
    have hrest := ih (mode.next c)
    rw [codeOf_cons]
    cases mode with
    | line | block | star => exact hrest
    | code =>
      by_cases hslash : c = '/'
      · rw [adds, if_pos hslash]
        exact hrest
      · rw [adds, if_neg hslash]
        exact hself c hslash hrest
    | slash =>
      by_cases htoken : c = '/' ∨ c = '*'
      · rw [adds, if_pos htoken]
        exact hrest
      · rw [adds, if_neg htoken]
        rw [not_or] at htoken
        -- the slash comes out together with the character that decided it
        refine tokenFree_cons_iff.mpr ⟨fun _ => ⟨?_, ?_⟩, hself c htoken.1 hrest⟩
        · exact fun h => htoken.1 (Option.some.inj h)
        · exact fun h => htoken.2 (Option.some.inj h)

/-- **Text in which no comment begins is its own code.** The reader is in code and stays there, at most
with a slash held back. -/
theorem Mode.codeOf_of_tokenFree {mode : Mode} (hcode : mode.scan = .code) {cs : List Char}
    (h : TokenFree (mode.pending ++ cs)) :
    mode.codeOf cs = mode.pending ++ cs ∧ (mode.after cs).scan = .code := by
  induction cs generalizing mode with
  | nil => cases mode <;> first | contradiction | exact ⟨rfl, rfl⟩
  | cons c cs ih =>
    rw [codeOf_cons, after]
    cases mode with
    | line | block | star => contradiction
    | code =>
      by_cases hslash : c = '/'
      · subst hslash
        exact @ih .slash rfl h
      · simp only [adds, next, if_neg hslash]
        obtain ⟨htext, hafter⟩ := @ih .code rfl (tokenFree_cons_iff.mp h).2
        exact ⟨congrArg (c :: ·) htext, hafter⟩
    | slash =>
      obtain ⟨htoken, hrest⟩ := tokenFree_cons_iff.mp h
      have hslash : c ≠ '/' := fun hc => (htoken rfl).1 (congrArg some hc)
      have hstar : c ≠ '*' := fun hc => (htoken rfl).2 (congrArg some hc)
      simp only [adds, next, hslash, hstar, or_self, if_false]
      obtain ⟨htext, hafter⟩ := @ih .code rfl (tokenFree_cons_iff.mp hrest).2
      exact ⟨congrArg ('/' :: c :: ·) htext, hafter⟩

/-- The stripper leaves such a line as it is, and no block comment open. -/
theorem strip_of_tokenFree {line : List Char} (h : TokenFree line) : strip false line = ⟨line, false⟩ := by
  obtain ⟨htext, hafter⟩ := @Mode.codeOf_of_tokenFree .code rfl line h
  have hblock : (Mode.code.after line).inBlock = false := by
    cases hmode : Mode.code.after line with
    | code | slash => rfl
    | line => rfl
    | block | star =>
      rw [hmode] at hafter
      contradiction
  rw [strip_eq]
  exact congrArg₂ Stripped.mk htext hblock

theorem stripAll_of_tokenFree {lines : List (List Char)} (h : ∀ line ∈ lines, TokenFree line) :
    (stripAll false lines).map (·.text) = lines := by
  induction lines with
  | nil => rfl
  | cons line lines ih =>
    obtain ⟨hline, hrest⟩ := List.forall_mem_cons.mp h
    rw [stripAll_cons, strip_of_tokenFree hline, List.map_cons, ih hrest]

/-! ## What the code of a line is made of -/

theorem Mode.eq_of_mem_adds {mode : Mode} {c d : Char} (h : c ∈ mode.adds d) : c = '/' ∨ c = d := by
  by_cases hslash : d = '/' <;> by_cases hstar : d = '*' <;> cases mode <;> simp_all [adds]

/-- A character of the code is one of the line, or the slash that was held back before it. -/
theorem Mode.mem_of_mem_codeOf {mode : Mode} {line : List Char} {c : Char} (h : c ∈ mode.codeOf line) :
    c = '/' ∨ c ∈ line := by
  induction line generalizing mode with
  | nil =>
    left
    cases mode <;> simp_all [codeOf, written, after, rest]
  | cons d line ih =>
    rw [codeOf_cons, List.mem_append] at h
    rw [List.mem_cons]
    rcases h with h | h
    · exact (eq_of_mem_adds h).imp_right .inl
    · exact (ih h).imp_right .inr

/-- Each stripped line comes from a line. -/
theorem exists_of_mem_stripAll {inBlock : Bool} {lines : List (List Char)} {stripped : Stripped}
    (h : stripped ∈ stripAll inBlock lines) :
    ∃ inBlock', ∃ line ∈ lines, stripped = strip inBlock' line := by
  induction lines generalizing inBlock with
  | nil => contradiction
  | cons line lines ih =>
    rw [stripAll_cons, List.mem_cons] at h
    rcases h with rfl | h
    · exact ⟨inBlock, line, List.mem_cons_self, rfl⟩
    · obtain ⟨inBlock', line', hline', heq⟩ := ih h
      exact ⟨inBlock', line', List.mem_cons_of_mem line hline', heq⟩

end Comment

open Comment

/-! ## The reduced source -/

/-- The lines of a source without their comments and without blanks at their ends. -/
def reducedLines (source : String) : List (List Char) :=
  (stripAll false (lines source.toList)).map fun stripped => trim stripped.text

/-- The source of just these lines. -/
def reduced (source : String) : String := "\n".intercalate ((reducedLines source).map String.ofList)

section Reduced

variable (source : String)

theorem toList_reduced : (reduced source).toList = ['\n'].intercalate (reducedLines source) := by
  have hchars : ((reducedLines source).map String.ofList).map String.toList = reducedLines source := by
    rw [List.map_map]
    exact List.map_id'' (fun _ => String.toList_ofList) _
  rw [reduced, String.toList_intercalate, hchars]
  rfl

/-- A line that is nothing but code: no comment begins in it, it does not break, and it has no blanks
at its ends. -/
structure IsReduced (line : List Char) : Prop where
  tokenFree : TokenFree line
  unbroken : '\n' ∉ line
  not_return : line.getLast? ≠ some '\r'
  trimmed : trim line = line

theorem isReduced_of_mem {line : List Char} (h : line ∈ reducedLines source) : IsReduced line := by
  obtain ⟨stripped, hstripped, rfl⟩ := List.mem_map.mp h
  obtain ⟨inBlock, raw, hraw, rfl⟩ := exists_of_mem_stripAll hstripped
  rw [strip_eq]
  refine ⟨(Mode.tokenFree_codeOf _ raw).part (trim_infix_self _), ?_, ?_, trim_trim _⟩
  · intro hmem
    rcases Mode.mem_of_mem_codeOf ((trim_infix_self _).subset hmem) with heq | hmem
    · exact absurd heq (by decide)
    · exact not_mem_of_mem_lines hraw hmem
  · intro hlast
    exact absurd (isBlank_getLast?_trim _ '\r' hlast) (by decide)

/-- **The reduced source has the reduced lines for its lines.** -/
theorem lines_reduced : lines (reduced source).toList = reducedLines source := by
  have hne : reducedLines source ≠ [] := by
    apply List.ne_nil_of_length_pos
    rw [reducedLines, List.length_map, length_stripAll, length_lines]
    omega
  rw [toList_reduced]
  apply lines_intercalate hne
  · intro line hline
    exact (isReduced_of_mem source hline).unbroken
  · intro line hline
    exact (isReduced_of_mem source hline).not_return

/-- Its lines are stripped to themselves. -/
theorem stripAll_reduced :
    (stripAll false (lines (reduced source).toList)).map (·.text) = reducedLines source := by
  rw [lines_reduced]
  exact stripAll_of_tokenFree fun line hline => (isReduced_of_mem source hline).tokenFree

theorem map_trim_reducedLines : (reducedLines source).map trim = reducedLines source := by
  have htrim : (reducedLines source).map trim = (reducedLines source).map id :=
    List.map_congr_left fun line hline => (isReduced_of_mem source hline).trimmed
  rw [htrim, List.map_id]

/-- **The statements of a source are those of its reduced lines.** -/
theorem classify_reduced :
    (classify (reduced source)).statements = (classify source).statements := by
  have hcode : (reducedLines source).map trim
      = ((stripAll false (lines source.toList)).map (·.text)).map trim := by
    rw [map_trim_reducedLines, reducedLines, List.map_map]
    rfl
  rw [Statement.classify_statements, Statement.classify_statements, stripAll_reduced]
  exact Statement.ofLinesFrom_congr 0 hcode

/-- A reduced source cannot be reduced any further. -/
theorem reduced_reduced : reduced (reduced source) = reduced source := by
  have hlines : reducedLines (reduced source) = reducedLines source := by
    have h := congrArg (List.map trim) (stripAll_reduced source)
    rw [map_trim_reducedLines, List.map_map] at h
    exact h
  rw [reduced, hlines, reduced]

end Reduced

/-- **There is nothing left to strip.** The code of a line, whether or not it is entered in a block
comment, has neither token that begins a comment, and stripping it again gives it back with no block
comment open. So a source may be replaced by the trimmed code of its lines: these are the lines of the
reduced source, which makes the same statements and gets the same diagnostics for semicolons, and
which is reduced to itself. -/
theorem nothing_left_to_strip :
    (∀ (inBlock : Bool) (line : List Char), TokenFree (strip inBlock line).text
      ∧ strip false (strip inBlock line).text = ⟨(strip inBlock line).text, false⟩)
    ∧ ∀ source : String, lines (reduced source).toList = reducedLines source
        ∧ SameCode (reduced source) source ∧ reduced (reduced source) = reduced source := by
  constructor
  · intro inBlock line
    have hfree : TokenFree (strip inBlock line).text := by
      rw [strip_eq]
      exact Mode.tokenFree_codeOf _ line
    exact ⟨hfree, strip_of_tokenFree hfree⟩
  · intro source
    exact ⟨lines_reduced source, .of_statements (classify_reduced source), reduced_reduced source⟩

/-- Slashes and stars around comments, and a comment from one line into the next. -/
example : reducedLines "a/ /* b */ /* c */* d\r\n/ /**// e /*\n */ f /*/ */ ; // g"
    = ["a/  * d".toList, "/ / e".toList, "f  ;".toList] := by decide

end ShaderLint
