/-
Stripping, without the accumulators.

The stripper gathers the code of a line backwards and the stripped lines too. Here the two things
that a line does to the reader are functions of their own: `Mode.after` is where the reader stands
after the line, and `Mode.written` is what it has written out by then. Both are cut at any point of
the line (`after_append`, `written_append`), so a law about a line is read off the characters one
by one, and `strip_eq` says that the stripper computes just these two.

A slash that is not decided yet is in neither: it is `Mode.rest`, and stands at the end of the line
only. `Mode.codeOf` puts it there, and is the code of the whole line.

The last section is on blanks at the ends of a line. The trimmed code of the line and what the next
line is told are the same with them and without, and a carriage return is such a blank.
-/
import Mathlib.Data.List.Basic
import ShaderLint.Comment
import ShaderLint.Proofs.PhysicalLines
import ShaderLint.Proofs.Trimming

set_option autoImplicit false

namespace ShaderLint.Comment

open Text

/-! ## What a line does to the reader -/

/-- Where the reader stands after some characters of a line. -/
def Mode.after (mode : Mode) : List Char → Mode
  | [] => mode
  | c :: cs => (mode.next c).after cs

/-- What the reader has written out after some characters of a line. -/
def Mode.written (mode : Mode) : List Char → List Char
  | [] => []
  | c :: cs => mode.adds c ++ (mode.next c).written cs

theorem Mode.after_append (mode : Mode) (u v : List Char) :
    mode.after (u ++ v) = (mode.after u).after v := by
  induction u generalizing mode with
  | nil => rfl
  | cons c u ih => rw [List.cons_append, Mode.after, ih, Mode.after]

theorem Mode.written_append (mode : Mode) (u v : List Char) :
    mode.written (u ++ v) = mode.written u ++ (mode.after u).written v := by
  induction u generalizing mode with
  | nil => rfl
  | cons c u ih =>
    rw [List.cons_append, Mode.written, ih, Mode.written, Mode.after, List.append_assoc]

/-- The code of a line: what is written out, and the slash that its end decides. -/
def Mode.codeOf (mode : Mode) (line : List Char) : List Char :=
  mode.written line ++ (mode.after line).rest

theorem Mode.codeOf_cons (mode : Mode) (c : Char) (cs : List Char) :
    mode.codeOf (c :: cs) = mode.adds c ++ (mode.next c).codeOf cs := by
  rw [codeOf, written, after, List.append_assoc, codeOf]

/-- The code of a line, cut where the reader stands between two characters. -/
theorem Mode.codeOf_append (mode : Mode) (u v : List Char) :
    mode.codeOf (u ++ v) = mode.written u ++ (mode.after u).codeOf v := by
  rw [Mode.codeOf, Mode.codeOf, Mode.written_append, Mode.after_append, List.append_assoc]

/-! ## The stripper -/

/-- The reader's accumulator holds what is written out, backwards. -/
theorem foldl_feed (mode : Mode) (kept line : List Char) :
    line.foldl Reader.feed ⟨mode, kept⟩
      = ⟨mode.after line, (mode.written line).reverse ++ kept⟩ := by
  induction line generalizing mode kept with
  | nil => rfl
  | cons c line ih =>
    rw [List.foldl_cons, Reader.feed, ih, Mode.after, Mode.written, List.reverse_append,
      List.append_assoc]

/-- **The stripper computes the code of the line and where the reader stands after it.** -/
theorem strip_eq (inBlock : Bool) (line : List Char) :
    strip inBlock line
      = ⟨(Mode.entering inBlock).codeOf line, ((Mode.entering inBlock).after line).inBlock⟩ := by
  unfold strip Mode.codeOf
  -- what is written out and the slash both stand backwards, so one reversal joins them
  rw [foldl_feed, Reader.close, List.append_nil, ← List.reverse_append, List.reverse_reverse]

/-- The stripped lines come out in front of those still to come. -/
theorem stripFrom_done (done : List Stripped) (inBlock : Bool) (lines : List (List Char)) :
    stripFrom done inBlock lines = done.reverse ++ stripFrom [] inBlock lines := by
  induction lines generalizing done inBlock with
  | nil => rw [stripFrom, stripFrom, List.reverse_nil, List.append_nil]
  | cons line lines ih =>
    rw [stripFrom, stripFrom, ih, ih [strip inBlock line], List.reverse_cons, List.append_assoc]
    rfl

/-- Each line hands the next one whether a block comment is open, and nothing else. -/
theorem stripAll_cons (inBlock : Bool) (line : List Char) (lines : List (List Char)) :
    stripAll inBlock (line :: lines)
      = strip inBlock line :: stripAll (strip inBlock line).inBlock lines := by
  rw [stripAll, stripFrom, stripFrom_done]
  rfl

/-- Whether a block comment is open after consecutive lines. -/
def openAfter (inBlock : Bool) (lines : List (List Char)) : Bool :=
  lines.foldl (fun inBlock line => (strip inBlock line).inBlock) inBlock

theorem openAfter_cons (inBlock : Bool) (line : List Char) (lines : List (List Char)) :
    openAfter inBlock (line :: lines) = openAfter (strip inBlock line).inBlock lines := rfl

/-- Lines after other lines are stripped from where those leave off. -/
theorem stripAll_append (inBlock : Bool) (xs ys : List (List Char)) :
    stripAll inBlock (xs ++ ys) = stripAll inBlock xs ++ stripAll (openAfter inBlock xs) ys := by
  induction xs generalizing inBlock with
  | nil => rfl
  | cons line xs ih =>
    rw [List.cons_append, stripAll_cons, ih, stripAll_cons, openAfter_cons, List.cons_append]

theorem length_stripAll (inBlock : Bool) (lines : List (List Char)) :
    (stripAll inBlock lines).length = lines.length := by
  induction lines generalizing inBlock with
  | nil => rfl
  | cons line lines ih => rw [stripAll_cons, List.length_cons, ih, List.length_cons]

/-! ## Blanks at the ends of a line

A blank is no part of a token. At the front of a line it leaves the reader where it is; at the end
it decides a slash as the end of the line does and leaves a block comment as it is; and in code it
is one more character of the line, at one of its ends. So blanks at the ends of a line show neither
in the trimmed code nor in what the next line is told. -/

theorem ne_slash_of_isBlank {c : Char} (hc : isBlank c = true) : c ≠ '/' := by
  rintro rfl
  exact absurd hc (by decide)

theorem ne_star_of_isBlank {c : Char} (hc : isBlank c = true) : c ≠ '*' := by
  rintro rfl
  exact absurd hc (by decide)

/-- The reader enters a line past the blanks at its front, and writes out none but those. -/
theorem Mode.entering_blanks (inBlock : Bool) {gap : List Char}
    (hgap : ∀ c ∈ gap, isBlank c = true) :
    (Mode.entering inBlock).after gap = .entering inBlock
      ∧ ∀ c ∈ (Mode.entering inBlock).written gap, isBlank c = true := by
  induction gap with
  | nil => exact ⟨rfl, List.forall_mem_nil _⟩
  | cons c gap ih =>
    obtain ⟨hc, hrest⟩ := List.forall_mem_cons.mp hgap
    have hnext : (Mode.entering inBlock).next c = .entering inBlock := by
      cases inBlock with
      | false => exact if_neg (ne_slash_of_isBlank hc)
      | true => exact if_neg (ne_star_of_isBlank hc)
    have hadds : ∀ b ∈ (Mode.entering inBlock).adds c, isBlank b = true := by
      cases inBlock with
      | false =>
        have hcode : (Mode.entering false).adds c = [c] := if_neg (ne_slash_of_isBlank hc)
        rw [hcode]
        exact List.forall_mem_singleton.mpr hc
      | true => exact List.forall_mem_nil _
    obtain ⟨hafter, hwritten⟩ := ih hrest
    rw [Mode.after, Mode.written, hnext]
    refine ⟨hafter, fun b hb => ?_⟩
    rcases List.mem_append.mp hb with hb | hb
    · exact hadds b hb
    · exact hwritten b hb

/-- A blank decides a slash as the end of the line does, and adds at most itself. -/
theorem Mode.adds_blank (mode : Mode) {c : Char} (hc : isBlank c = true) :
    ∃ kept, (∀ b ∈ kept, isBlank b = true) ∧
      mode.adds c ++ (mode.next c).rest = mode.rest ++ kept := by
  have hself : ∀ b ∈ [c], isBlank b = true := List.forall_mem_singleton.mpr hc
  have hnone : ∀ b ∈ ([] : List Char), isBlank b = true := List.forall_mem_nil _
  have hslash := ne_slash_of_isBlank hc
  have hstar := ne_star_of_isBlank hc
  -- code keeps the blank, after the slash held back if there is one; a comment drops it
  cases mode with
  | code =>
    refine ⟨[c], hself, ?_⟩
    simp only [adds, next, if_neg hslash, rest, List.append_nil, List.nil_append]
  | slash =>
    refine ⟨[c], hself, ?_⟩
    simp [adds, next, hslash, hstar, rest]
  | line => exact ⟨[], hnone, rfl⟩
  | block =>
    refine ⟨[], hnone, ?_⟩
    simp only [adds, next, if_neg hstar, rest, List.append_nil]
  | star =>
    refine ⟨[], hnone, ?_⟩
    simp only [adds, next, if_neg hslash, if_neg hstar, rest, List.append_nil]

theorem Mode.inBlock_next_blank (mode : Mode) {c : Char} (hc : isBlank c = true) :
    (mode.next c).inBlock = mode.inBlock := by
  have hslash := ne_slash_of_isBlank hc
  have hstar := ne_star_of_isBlank hc
  cases mode <;> simp [next, hslash, hstar, inBlock]

/-- The same of a run of blanks. -/
theorem Mode.codeOf_blanks (mode : Mode) {gap : List Char} (hgap : ∀ c ∈ gap, isBlank c = true) :
    (mode.after gap).inBlock = mode.inBlock
      ∧ ∃ kept, (∀ b ∈ kept, isBlank b = true) ∧ mode.codeOf gap = mode.rest ++ kept := by
  induction gap generalizing mode with
  | nil => exact ⟨rfl, [], List.forall_mem_nil _, (List.append_nil _).symm⟩
  | cons c gap ih =>
    obtain ⟨hc, hrest⟩ := List.forall_mem_cons.mp hgap
    obtain ⟨hblock, kept, hkept, hcode⟩ := ih (mode.next c) hrest
    obtain ⟨first, hfirst, hadds⟩ := mode.adds_blank hc
    refine ⟨hblock.trans (mode.inBlock_next_blank hc), first ++ kept, ?_, ?_⟩
    · intro b hb
      exact (List.mem_append.mp hb).elim (hfirst b) (hkept b)
    · calc mode.codeOf (c :: gap)
          = mode.adds c ++ (mode.next c).codeOf gap := mode.codeOf_cons c gap
        _ = (mode.adds c ++ (mode.next c).rest) ++ kept := by rw [hcode, List.append_assoc]
        _ = mode.rest ++ (first ++ kept) := by rw [hadds, List.append_assoc]

section Line

variable {gap : List Char} (hgap : ∀ c ∈ gap, isBlank c = true) (line : List Char)

include hgap

/-- **Blanks before a line: the reader enters the line as it would without them.** -/
theorem Mode.after_blanks_append (inBlock : Bool) :
    (Mode.entering inBlock).after (gap ++ line) = (Mode.entering inBlock).after line := by
  rw [Mode.after_append, (Mode.entering_blanks inBlock hgap).1]

/-- **Blanks before a line: they are at most blanks before its code.** -/
theorem Mode.trim_codeOf_blanks_append (inBlock : Bool) :
    trim ((Mode.entering inBlock).codeOf (gap ++ line))
      = trim ((Mode.entering inBlock).codeOf line) := by
  obtain ⟨hafter, hwritten⟩ := Mode.entering_blanks inBlock hgap
  rw [Mode.codeOf_append, hafter, trim_blanks_append hwritten]

/-- **Blanks after a line: a block comment stays open or closed.** -/
theorem Mode.inBlock_after_append_blanks (mode : Mode) :
    (mode.after (line ++ gap)).inBlock = (mode.after line).inBlock := by
  rw [Mode.after_append, ((mode.after line).codeOf_blanks hgap).1]

/-- **Blanks after a line: they are at most blanks after its code.** -/
theorem Mode.trim_codeOf_append_blanks (mode : Mode) :
    trim (mode.codeOf (line ++ gap)) = trim (mode.codeOf line) := by
  obtain ⟨-, kept, hkept, hcode⟩ := (mode.after line).codeOf_blanks hgap
  rw [Mode.codeOf_append, hcode, ← List.append_assoc, trim_append_blanks hkept, Mode.codeOf]

end Line

/-! A carriage return that the break takes along, or does not, is such a blank. -/

theorem Mode.inBlock_after_withoutReturn (mode : Mode) (line : List Char) :
    (mode.after (withoutReturn line)).inBlock = (mode.after line).inBlock := by
  rcases withoutReturn_cases line with h | h
  · rw [h]
  · conv_rhs => rw [h, mode.inBlock_after_append_blanks (List.forall_mem_singleton.mpr rfl)]

theorem Mode.trim_codeOf_withoutReturn (mode : Mode) (line : List Char) :
    trim (mode.codeOf (withoutReturn line)) = trim (mode.codeOf line) := by
  rcases withoutReturn_cases line with h | h
  · rw [h]
  · conv_rhs => rw [h, mode.trim_codeOf_append_blanks (List.forall_mem_singleton.mpr rfl)]

end ShaderLint.Comment
