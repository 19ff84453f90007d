/-
Cutting a source in two at a line break.

A line hands on to the next whether a block comment is open, and nothing else. So a source that is
cut before one of its lines can be classified in two parts, with that one thing carried across: if
a block comment is open at the cut, the second part is classified as if it began with the token
that opens one. The numbers of its statements then grow by the lines of the first part
(`classify_append_lineFeed`).

The cut is made on the scan of the whole source (`codeLines_append`), where the line break is a
character like any other. What the first part ends with, be it a carriage return, half a token or a
line comment, belongs to its last line and is settled there.
-/
import ShaderLint.Proofs.WholeSourceScan

set_option autoImplicit false

namespace ShaderLint

open Text

namespace Scan

/-- **The scan, cut before a line.** The second part is scanned from where the lines of the first
leave off. -/
theorem codeLines_append (inBlock : Bool) (as bs : List Char) :
    codeLines (Comment.Mode.entering inBlock).scan (as ++ '\n' :: bs)
      = codeLines (Comment.Mode.entering inBlock).scan as
        ++ codeLines (Comment.Mode.entering (Comment.openAfter inBlock (lines as))).scan bs := by
  induction as using lineInduction generalizing inBlock with
  | last l hl =>
    -- the cut is the line feed that ends this line
    rw [codeLines_append_lineFeed inBlock hl, codeLines_of_not_mem inBlock hl,
      lines_of_not_mem hl, Comment.openAfter, List.foldl_cons, List.foldl_nil, Comment.strip_eq]
    rfl
  | more l as hl ih =>
    rw [List.append_assoc, List.cons_append, codeLines_append_lineFeed inBlock hl, ih,
      codeLines_append_lineFeed inBlock hl, lines_append_lineFeed hl, Comment.openAfter,
      Comment.openAfter, List.foldl_cons, Comment.strip_eq,
      Comment.Mode.inBlock_after_withoutReturn]
    rfl

/-- A text that is scanned with a block comment open is one that begins with the token that opens
it. -/
theorem ofLinesFrom_entering (inBlock : Bool) (b : String) :
    Statement.ofLinesFrom 0 (codeLines (Comment.Mode.entering inBlock).scan b.toList)
      = if inBlock then (classify ("/*" ++ b)).statements else (classify b).statements := by
  rw [classify_statements_from, classify_statements_from]
  cases inBlock with
  | false => rfl
  | true =>
    have hopened : ("/*" ++ b).toList = '/' :: '*' :: b.toList := String.toList_append
    rw [hopened, if_pos rfl]
    rfl

end Scan

/-- **Two texts with a line feed between them.** The statements are those of the first text, and
then those of the second under higher numbers. If the lines of the first leave a block comment
open, the second is classified inside it. -/
theorem classify_append_lineFeed (a b : String) :
    (classify (a ++ "\n" ++ b)).statements
      = (classify a).statements
        ++ (if Comment.openAfter false (lines a.toList) then (classify ("/*" ++ b)).statements
            else (classify b).statements).map (Statement.shift (1 + a.toList.count '\n')) := by
  have hjoin : (a ++ "\n" ++ b).toList = a.toList ++ '\n' :: b.toList := by
    rw [String.toList_append, String.toList_append, List.append_assoc]
    rfl
  have hlength : (Scan.codeLines .code a.toList).length = 1 + a.toList.count '\n' :=
    Scan.length_codeLines false a.toList
  -- a source is entered in code, which is the mode with no block comment open
  have hcut : Scan.codeLines .code (a.toList ++ '\n' :: b.toList)
      = Scan.codeLines .code a.toList
        ++ Scan.codeLines (Comment.Mode.entering (Comment.openAfter false (lines a.toList))).scan
          b.toList := Scan.codeLines_append false a.toList b.toList
  rw [Scan.classify_statements_from, hjoin, hcut, Statement.ofLinesFrom_append,
    Statement.ofLinesFrom_shift, Scan.ofLinesFrom_entering, hlength,
    ← Scan.classify_statements_from]

end ShaderLint
