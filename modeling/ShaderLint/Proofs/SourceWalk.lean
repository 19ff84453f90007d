/-
The reader of comments on its way through a whole source.

The stripper reads one line at a time, and each line is entered afresh. Here its reader is sent
through a text with line breaks in it: at a line feed it stands where it enters the next line, and
at any other character where that character takes it (`Mode.through`). So "after this much of the
source" has a meaning at any point of a line, not only where a line ends.

Two facts are all that is needed to change a source behind such a point. The reader stands where
the scan of the whole source stands, but for a token that is half read (`scan_through`). And what
the scan makes of a text is settled by where the reader stands after its first part: two second
parts that are scanned alike from there are scanned alike after the first (`codeLines_congr`).
-/
import ShaderLint.Proofs.WholeSourceScan

set_option autoImplicit false

namespace ShaderLint

namespace Comment

/-! ## The reader across line breaks -/

/-- Where the reader stands after a character of a source. A line feed takes it to the next line. -/
def Mode.pass (mode : Mode) (c : Char) : Mode :=
  if c = '\n' then .entering mode.inBlock else mode.next c

/-- Where the reader stands after a text. -/
def Mode.through (mode : Mode) (cs : List Char) : Mode := cs.foldl Mode.pass mode

theorem Mode.through_cons (mode : Mode) (c : Char) (cs : List Char) :
    mode.through (c :: cs) = (mode.pass c).through cs := rfl

theorem Mode.pass_lineFeed (mode : Mode) : mode.pass '\n' = .entering mode.inBlock := if_pos rfl

theorem Mode.pass_of_ne (mode : Mode) {c : Char} (hc : c ≠ '\n') : mode.pass c = mode.next c :=
  if_neg hc

/-- A slash that begins no token was a character like any other. -/
theorem Mode.pass_slash {c : Char} (hslash : c ≠ '/') (hstar : c ≠ '*') :
    Mode.slash.pass c = Mode.code.pass c := by
  by_cases hc : c = '\n'
  · rw [hc]
    rfl
  · rw [pass_of_ne _ hc, pass_of_ne _ hc, next, next, if_neg hslash, if_neg hstar, if_neg hslash]

/-- A star that ends no comment was a character like any other, and the next may be one again. -/
theorem Mode.pass_star {c : Char} (hslash : c ≠ '/') : Mode.star.pass c = Mode.block.pass c := by
  by_cases hc : c = '\n'
  · rw [hc]
    rfl
  · rw [pass_of_ne _ hc, pass_of_ne _ hc, next, next, if_neg hslash]

/-- A slash is held back directly after it only. -/
theorem Mode.eq_slash_of_pass {mode : Mode} {c : Char} (h : mode.pass c = .slash) : c = '/' := by
  by_cases hc : c = '\n'
  · rw [hc, pass_lineFeed] at h
    cases mode <;> contradiction
  · rw [pass_of_ne mode hc] at h
    by_contra hslash
    -- no other character takes any mode to this one
    by_cases hstar : c = '*' <;> cases mode <;> simp [next, hslash, hstar] at h

theorem Mode.getLast?_of_through_eq_slash {cs : List Char} (h : Mode.code.through cs = .slash) :
    cs.getLast? = some '/' := by
  rcases List.eq_nil_or_concat' cs with rfl | ⟨front, c, rfl⟩
  · contradiction
  · rw [through, List.foldl_append] at h
    rw [List.getLast?_concat, eq_slash_of_pass h]

end Comment

namespace Scan

open Comment

/-! ## Where the scan stands after a text -/

/-- The reader's mode for a mode of the scan, with no token half read. -/
def Mode.reader : Mode → Comment.Mode
  | .code => .code
  | .line => .line
  | .block => .block

/-- **The reader stands where the scan stands.** The cases are those of the scan: three tokens, and
the characters of which none begins. -/
theorem scan_through (mode : Mode) (cs : List Char) :
    (mode.reader.through cs).scan = finalMode mode cs := by
  fun_induction finalMode mode cs with
  | case1 mode => cases mode <;> rfl
  | case2 cs ih => exact ih
  | case3 cs ih => exact ih
  | case4 cs ih => exact ih
  | case5 mode c cs hopen hline hclose ih =>
    rw [Comment.Mode.through_cons]
    by_cases hc : c = '\n'
    · rw [if_pos hc] at ih ⊢
      rw [hc, Comment.Mode.pass_lineFeed, ← ih]
      cases mode <;> rfl
    · rw [if_neg hc] at ih ⊢
      rw [Comment.Mode.pass_of_ne _ hc, ← ih]
      cases mode with
      | line => rfl
      | code =>
        by_cases hslash : c = '/'
        · rw [hslash, Mode.reader]
          -- the reader holds the slash back, and what follows makes no token of it
          rcases cs with _ | ⟨b, cs⟩
          · rfl
          · have hb : b ≠ '/' := fun hb => hline cs rfl hslash (by rw [hb])
            have hb' : b ≠ '*' := fun hb => hopen cs rfl hslash (by rw [hb])
            rw [Comment.Mode.through_cons, Comment.Mode.through_cons]
            exact congrArg (fun m => (Comment.Mode.through m cs).scan)
              (Comment.Mode.pass_slash hb hb')
        · rw [Mode.reader, Comment.Mode.next, if_neg hslash]
      | block =>
        by_cases hstar : c = '*'
        · rw [hstar, Mode.reader]
          rcases cs with _ | ⟨b, cs⟩
          · rfl
          · have hb : b ≠ '/' := fun hb => hclose cs rfl hstar (by rw [hb])
            rw [Comment.Mode.through_cons, Comment.Mode.through_cons]
            exact congrArg (fun m => (Comment.Mode.through m cs).scan) (Comment.Mode.pass_star hb)
        · rw [Mode.reader, Comment.Mode.next, if_neg hstar]

/-- **Where the scan ends in code.** The reader is in code as well, or else it holds back a slash
that the text ends with. -/
theorem through_of_finalMode_eq_code {cs : List Char} (h : finalMode .code cs = .code) :
    Comment.Mode.code.through cs = .code
      ∨ Comment.Mode.code.through cs = .slash ∧ cs.getLast? = some '/' := by
  have hscan : (Comment.Mode.code.through cs).scan = .code := (scan_through .code cs).trans h
  cases hmode : Comment.Mode.code.through cs with
  | code => exact Or.inl rfl
  | slash => exact Or.inr ⟨rfl, Comment.Mode.getLast?_of_through_eq_slash hmode⟩
  | line | block | star =>
    rw [hmode] at hscan
    contradiction

/-! ## What the scan makes of the rest -/

theorem pending_entering (inBlock : Bool) : (Comment.Mode.entering inBlock).pending = [] := by
  cases inBlock <;> rfl

/-- **Only where the reader stands is handed on.** Two texts that are scanned alike from there are
scanned alike after `pre`. -/
theorem codeLines_congr (m : Comment.Mode) (pre : List Char) {x y : List Char}
    (h : codeLines (m.through pre).scan ((m.through pre).pending ++ x)
      = codeLines (m.through pre).scan ((m.through pre).pending ++ y)) :
    codeLines m.scan (m.pending ++ (pre ++ x)) = codeLines m.scan (m.pending ++ (pre ++ y)) := by
  induction pre generalizing m with
  | nil => exact h
  | cons c pre ih =>
    rw [Comment.Mode.through_cons] at h
    have hrest := ih (m.pass c) h
    rw [List.cons_append, List.cons_append]
    by_cases hc : c = '\n'
    · rw [hc, Comment.Mode.pass_lineFeed, pending_entering] at hrest
      rw [hc, codeLines_pending_lineFeed, codeLines_pending_lineFeed, nextLine_scan]
      exact congrArg (m.rest :: ·) hrest
    · rw [Comment.Mode.pass_of_ne m hc] at hrest
      rw [codeLines_step m hc, codeLines_step m hc, hrest]

end Scan

end ShaderLint
