/-
A semicolon taken off the end of a line.

A source is given by its lines here, and one of them ends in code with a semicolon. Without it the
statements of the other lines are what they were, and the line itself is reported if it needed its
semicolon and is left open.

For the other lines it is enough that a semicolon is no part of a token: where the reader is in code
before it, no block comment is open after it, and none is open if the line ends without it
(`strip_semicolon`). So the lines after it are read as before.

For the line itself two texts are compared, one with blanks and a semicolon after it and one without.
The rules that ask for a semicolon look for marks that neither a blank nor a semicolon is, so what they
find in the longer text is in the shorter one (`isAssignment_of_append`, `isReturn_of_append`), and a
call, which ends with a parenthesis, they do not find in the longer one at all. The rules that exempt
look at the beginning, where the longer text goes on as the shorter one does. There is one exception:
`else` has to stand alone. But then nothing in the line asks for a semicolon.
-/
import ShaderLint.Proofs.OpenStatements
import ShaderLint.Proofs.SourceWalk

set_option autoImplicit false

namespace ShaderLint

open Text

/-! ## Lines that are joined -/

namespace Comment

/-- In a line the reader goes from character to character. -/
theorem Mode.through_of_not_mem (mode : Mode) {l : List Char} (hl : '\n' ∉ l) :
    mode.through l = mode.after l := by
  induction l generalizing mode with
  | nil => rfl
  | cons c l ih =>
    have hc : c ≠ '\n' := (List.ne_of_not_mem_cons hl).symm
    rw [Mode.through_cons, Mode.pass_of_ne mode hc, ih _ (List.not_mem_of_not_mem_cons hl), Mode.after]

theorem Mode.through_append (mode : Mode) (xs ys : List Char) :
    mode.through (xs ++ ys) = (mode.through xs).through ys := List.foldl_append

/-- **Within the last of some lines.** The reader stands where it does after that line alone, if it
enters the line as those before leave it. -/
theorem Mode.through_intercalate (inBlock : Bool) {before : List (List Char)} {l : List Char}
    (hlines : ∀ line ∈ before ++ [l], '\n' ∉ line) :
    (Mode.entering inBlock).through (['\n'].intercalate (before ++ [l]))
      = (Mode.entering (openAfter inBlock before)).after l := by
  induction before generalizing inBlock with
  | nil =>
    rw [List.nil_append] at hlines ⊢
    rw [List.intercalate_singleton, through_of_not_mem _ (hlines l List.mem_cons_self)]
    rfl
  | cons first before ih =>
    obtain ⟨hfirst, hrest⟩ := List.forall_mem_cons.mp hlines
    obtain ⟨second, rest, hcons⟩ := List.exists_cons_of_ne_nil
      (List.append_ne_nil_of_right_ne_nil before (List.cons_ne_nil l []))
    have hjoined : ['\n'].intercalate (first :: (before ++ [l]))
        = first ++ '\n' :: ['\n'].intercalate (before ++ [l]) := by
      rw [hcons, List.intercalate_cons_cons, List.append_assoc]
      rfl
    rw [List.cons_append, hjoined, through_append, through_of_not_mem _ hfirst, through_cons,
      pass_lineFeed, ih _ hrest, openAfter_cons, strip_eq]

/-- A semicolon decides a slash as the end of the line does. -/
theorem Mode.codeOf_semicolon {mode : Mode} (h : mode.scan = .code) :
    mode.codeOf [';'] = mode.rest ++ [';'] ∧ (mode.after [';']).inBlock = mode.inBlock := by
  cases mode with
  | code | slash => exact ⟨rfl, rfl⟩
  | line | block | star => contradiction

/-- **A semicolon in code.** It is one more character of the code, and no block comment is open after
the line, be it there or not. -/
theorem strip_semicolon {inBlock : Bool} {l : List Char}
    (h : ((Mode.entering inBlock).after l).scan = .code) :
    (strip inBlock (l ++ [';'])).text = (strip inBlock l).text ++ [';']
      ∧ (strip inBlock (l ++ [';'])).inBlock = (strip inBlock l).inBlock := by
  obtain ⟨hcode, hblock⟩ := Mode.codeOf_semicolon h
  rw [strip_eq, strip_eq, Mode.codeOf_append, Mode.after_append, hcode, hblock, ← List.append_assoc]
  exact ⟨rfl, rfl⟩

end Comment

/-- **Joined lines.** The scan makes of them what the stripper makes of them one by one. -/
theorem Scan.codeLines_intercalate (inBlock : Bool) {lines : List (List Char)} (hne : lines ≠ [])
    (hlines : ∀ line ∈ lines, '\n' ∉ line) :
    codeLines (Comment.Mode.entering inBlock).scan (['\n'].intercalate lines)
      = (Comment.stripAll inBlock lines).map (·.text) := by
  induction lines generalizing inBlock with
  | nil => contradiction
  | cons first lines ih =>
    obtain ⟨hfirst, hrest⟩ := List.forall_mem_cons.mp hlines
    rw [Comment.stripAll_cons, List.map_cons, Comment.strip_eq]
    rcases lines with _ | ⟨second, lines⟩
    · rw [List.intercalate_singleton, codeLines_of_not_mem inBlock hfirst]
      rfl
    · rw [List.intercalate_cons_cons, List.append_assoc, List.singleton_append,
        codeLines_append_lineFeed inBlock hfirst, ih _ (List.cons_ne_nil _ _) hrest]

/-! ## One line among others -/

section Line

variable (before after : List String) (line : String)

/-- A source given by its lines, with one of them told apart. -/
def withLine : String := "\n".intercalate (before ++ line :: after)

/-- A line without its comments, between those before it. -/
def strippedAfter : Comment.Stripped :=
  Comment.strip (Comment.openAfter false (before.map String.toList)) line.toList

/-- The statement of a line, if it has one, and those before and after. -/
theorem classify_withLine (hlines : ∀ l ∈ before ++ line :: after, '\n' ∉ l.toList) :
    (classify (withLine before after line)).statements
      = Statement.ofLinesFrom 0 ((Comment.stripAll false (before.map String.toList)).map (·.text))
        ++ ((Statement.ofCode? before.length (strippedAfter before line).text).toList
          ++ Statement.ofLinesFrom (before.length + 1)
            ((Comment.stripAll (strippedAfter before line).inBlock
              (after.map String.toList)).map (·.text))) := by
  have hjoined : (withLine before after line).toList
      = ['\n'].intercalate (before.map String.toList ++ line.toList :: after.map String.toList) := by
    rw [withLine, String.toList_intercalate, List.map_append, List.map_cons]
    rfl
  have hne : before.map String.toList ++ line.toList :: after.map String.toList ≠ [] :=
    List.append_ne_nil_of_right_ne_nil _ (List.cons_ne_nil _ _)
  have hunbroken : ∀ l ∈ before.map String.toList ++ line.toList :: after.map String.toList,
      '\n' ∉ l := by
    rw [← List.map_cons, ← List.map_append]
    exact List.forall_mem_map.mpr hlines
  have hcodes := Scan.codeLines_intercalate false hne hunbroken
  rw [Comment.stripAll_append, Comment.stripAll_cons, List.map_append, List.map_cons] at hcodes
  have hscan : Scan.codeLines .code (withLine before after line).toList = _ :=
    (congrArg (Scan.codeLines .code) hjoined).trans hcodes
  rw [Scan.classify_statements_from, hscan, Statement.ofLinesFrom_append, Statement.ofLinesFrom,
    Nat.zero_add, List.length_map, Comment.length_stripAll, List.length_map]
  rfl

end Line

/-- **A semicolon that the scan reaches in code** is one more character of the code of its line, and
the next line is entered as it would be without it. -/
theorem strippedAfter_semicolon {before : List String} {line : String}
    (hlines : ∀ l ∈ before ++ [line], '\n' ∉ l.toList)
    (hcode : Scan.finalMode .code ("\n".intercalate (before ++ [line])).toList = .code) :
    (strippedAfter before (line ++ ";")).text = (strippedAfter before line).text ++ [';']
      ∧ (strippedAfter before (line ++ ";")).inBlock = (strippedAfter before line).inBlock := by
  have hunbroken : ∀ l ∈ before.map String.toList ++ [line.toList], '\n' ∉ l := by
    rw [← List.map_singleton, ← List.map_append]
    exact List.forall_mem_map.mpr hlines
  have hthrough :
      (Comment.Mode.code.through ("\n".intercalate (before ++ [line])).toList).scan = .code :=
    (Scan.scan_through .code _).trans hcode
  rw [String.toList_intercalate, List.map_append, List.map_singleton] at hthrough
  have hscan : ((Comment.Mode.entering (Comment.openAfter false (before.map String.toList))).after
      line.toList).scan = .code := by
    rw [← Comment.Mode.through_intercalate false hunbroken]
    exact hthrough
  rw [strippedAfter, strippedAfter, String.toList_append]
  exact Comment.strip_semicolon hscan

/-! ## A mark that the end of a text does not have -/

namespace Text

/-- Where the end of a text does not have a mark, the mark and what stands before it are in the text
without that end. -/
theorem exists_of_append_eq {t tail front back : List Char} {mark : Char} (hmark : mark ∉ tail)
    (h : t ++ tail = front ++ mark :: back) :
    ∃ rest, t = front ++ mark :: rest ∧ back = rest ++ tail := by
  rcases List.append_eq_append_iff.mp h with ⟨more, -, htail⟩ | ⟨more, ht, hback⟩
  · rw [htail] at hmark
    exact absurd (List.mem_append_right more List.mem_cons_self) hmark
  · rcases more with _ | ⟨c, more⟩
    · rw [List.nil_append] at hback
      rw [← hback] at hmark
      exact absurd List.mem_cons_self hmark
    · rw [List.cons_append, List.cons.injEq] at hback
      exact ⟨more, by rw [ht, hback.1], hback.2⟩

/-- What a text begins with it begins with when more stands after it. -/
theorem mem_head?_append {xs : List Char} {c : Char} (h : c ∈ xs.head?) (ys : List Char) :
    c ∈ (xs ++ ys).head? := by
  rw [List.head?_append, Option.mem_def.mp h]
  rfl

/-- Blanks and a semicolon have no other mark in them. -/
theorem not_mem_terminator {gap : List Char} (hgap : Blanks gap) {c : Char} (hc : isBlank c = false)
    (hne : c ≠ ';') : c ∉ gap ++ [';'] := by
  intro hmem
  rcases List.mem_append.mp hmem with hmem | hmem
  · rw [hgap c hmem] at hc
    contradiction
  · exact hne (List.mem_singleton.mp hmem)

theorem NamedAfter.append {lead : List Char} {mark : Char} {t : List Char}
    (h : NamedAfter lead mark t) (more : List Char) : NamedAfter lead mark (t ++ more) := by
  obtain ⟨gap, name, pad, rest, hgap, hname, hpad, rfl⟩ := h
  refine ⟨gap, name, pad, rest ++ more, hgap, hname, hpad, ?_⟩
  simp only [List.append_assoc, List.cons_append]

end Text

/-! ## Shapes of a longer text -/

namespace Shape

/-- A directive may go on. -/
theorem IsDirective.append {t : List Char} (h : IsDirective t) (more : List Char) :
    IsDirective (t ++ more) := by
  rcases h with hsign | ⟨keyword, hmem, b, rest, hb, rfl⟩
  · exact .inl (mem_head?_append hsign more)
  · refine .inr ⟨keyword, hmem, b, rest ++ more, hb, ?_⟩
    rw [List.append_assoc, List.cons_append]

/-- An opening may go on, but for `else`. -/
theorem IsOpening.append {t : List Char} (h : IsOpening t) (more : List Char) :
    IsOpening (t ++ more) ∨ t = "else".toList ∨ t = "else\n".toList := by
  rcases h with (⟨lead, pad, rest, hlead, hpad, rfl⟩ | helse) | h | ⟨type, htype, h⟩
  · refine .inl (.inl (.inl ⟨lead, pad, rest ++ more, hlead, hpad, ?_⟩))
    simp only [List.append_assoc, List.cons_append]
  · exact .inr helse
  · exact .inl (.inr (.inl (h.append more)))
  · exact .inl (.inr (.inr ⟨type, htype, h.append more⟩))

section Terminator

variable {t gap : List Char} (hgap : Blanks gap)

include hgap

/-- The equals sign that assigns stands before the blanks and the semicolon. -/
theorem isAssignment_of_append (h : IsAssignment (t ++ (gap ++ [';']))) : IsAssignment t := by
  obtain ⟨front, back, hcut, hassigns⟩ := h
  obtain ⟨rest, ht, rfl⟩ := exists_of_append_eq (not_mem_terminator hgap (by decide) (by decide)) hcut
  refine ⟨front, rest, ht, ?_⟩
  rcases hassigns with hshift | hshift | ⟨hfront, hback⟩
  · exact .inl hshift
  · exact .inr (.inl hshift)
  · exact .inr (.inr ⟨hfront, fun hrest => hback (mem_head?_append hrest _)⟩)

/-- And so does the word `return`. -/
theorem isReturn_of_append (h : IsReturn (t ++ (gap ++ [';']))) : IsReturn t := by
  obtain ⟨front, back, hcut, hfront, hback⟩ := h
  -- the last character of the word is cut off, since one character is looked for
  have hword : t ++ (gap ++ [';']) = (front ++ "retur".toList) ++ 'n' :: back := by
    rw [hcut, List.append_assoc]
    rfl
  obtain ⟨rest, ht, rfl⟩ := exists_of_append_eq (not_mem_terminator hgap (by decide) (by decide)) hword
  refine ⟨front, rest, ?_, hfront, fun c hc => hback c (mem_head?_append hc _)⟩
  rw [ht, List.append_assoc]
  rfl

omit hgap in
/-- What ends with a semicolon does not end as a call does. -/
theorem not_isCall_of_append : ¬ IsCall (t ++ (gap ++ [';'])) := by
  intro h
  have hparen := h.suffix_trim
  have hsemicolon : [';'] <:+ trim (t ++ gap ++ [';']) := suffix_trim_concat (by decide) _
  rw [← List.append_assoc] at hparen
  exact absurd (eq_of_suffix hparen hsemicolon) (by decide)

end Terminator

end Shape

open Shape

/-- **A text that needs its semicolon needs it without it.** -/
theorem Rule.requiresSemicolon_of_append {t gap : List Char} (h : LeftOpen t) (hgap : Blanks gap)
    (hrequires : (deciding (t ++ (gap ++ [';']))).requiresSemicolon = true) :
    (deciding t).requiresSemicolon = true := by
  obtain ⟨hexempt, hshape⟩ := requiresSemicolon_deciding_iff.mp hrequires
  have hshape : IsAssignment t ∨ IsReturn t := by
    rcases hshape with hassigns | hreturns | hcalls
    · exact .inl (isAssignment_of_append hgap hassigns)
    · exact .inr (isReturn_of_append hgap hreturns)
    · exact absurd hcalls not_isCall_of_append
  -- a word that stands alone holds nothing that asks for a semicolon
  have helse : t ≠ "else".toList ∧ t ≠ "else\n".toList := by
    rw [← assignment_iff, ← returnStatement_iff] at hshape
    constructor <;> rintro rfl <;> exact absurd hshape (by decide)
  refine requiresSemicolon_deciding_iff.mpr ⟨h.not_exempt ?_ ?_, hshape.imp_right .inl⟩
  · intro hdirective
    exact hexempt ⟨.directive, by decide, hdirective.append _⟩
  · intro hopening
    rcases hopening.append (gap ++ [';']) with hopening | halone | halone
    · rcases hopening with hcontrol | hstruct | hheader
      · exact hexempt ⟨.controlFlow, by decide, hcontrol⟩
      · exact hexempt ⟨.structOpener, by decide, hstruct⟩
      · exact hexempt ⟨.functionHeader, by decide, hheader⟩
    · exact helse.1 halone
    · exact helse.2 halone

/-! ## The line itself -/

/-- What is to be said of some statements, in three parts. -/
theorem Document.semicolonErrors_of_parts {d : Document} {xs ys zs : List Statement}
    (h : d.statements = xs ++ (ys ++ zs)) :
    d.semicolonErrors = semicolonErrors { statements := xs }
      ++ (semicolonErrors { statements := ys } ++ semicolonErrors { statements := zs }) := by
  simp only [semicolonErrors, h, List.filter_append, List.map_append]

/-- Where a part is filtered out, it may as well be another one. -/
theorem filter_parts_congr {α : Type} {p : α → Bool} {ys ys' : List α} (xs zs : List α)
    (hys : ∀ y ∈ ys, p y = false) (hys' : ∀ y ∈ ys', p y = false) :
    (xs ++ (ys ++ zs)).filter p = (xs ++ (ys' ++ zs)).filter p := by
  have hnone : ys.filter p = [] := List.filter_eq_nil_iff.mpr fun y hy => by simp [hys y hy]
  have hnone' : ys'.filter p = [] := List.filter_eq_nil_iff.mpr fun y hy => by simp [hys' y hy]
  rw [List.filter_append, List.filter_append, List.filter_append, List.filter_append, hnone, hnone']

/-- What is said of one line is said at its number. -/
theorem line_of_mem_semicolonErrors {n : Nat} {code : List Char} {e : Diagnostic}
    (he : e ∈ Document.semicolonErrors { statements := (Statement.ofCode? n code).toList }) :
    e.line.val = n + 1 := by
  obtain ⟨-, s, hs, hline⟩ := Document.of_mem_semicolonErrors he
  rw [hline]
  exact Statement.line_of_mem_ofCode? hs

/-- Nothing is said of a line that ends with its semicolon. -/
theorem semicolonErrors_terminated (n : Nat) (code : List Char) :
    Document.semicolonErrors { statements := (Statement.ofCode? n (code ++ [';'])).toList } = [] := by
  rw [Document.semicolonErrors_eq_nil_iff]
  intro s hs hflagged
  have hreads := Statement.reads_of_mem_ofCode? hs
  exact (hreads.flagged_iff.mp hflagged).2 (suffix_trim_concat (by decide) code)

/-- A line that is left open is reported if it needed the semicolon that it had. -/
theorem semicolonErrors_dropped {n : Nat} {code : List Char}
    (hlast : ∃ c, (trim code).getLast? = some c ∧ c ≠ '{' ∧ c ≠ '}' ∧ c ≠ ',' ∧ c ≠ ';')
    (hrequires : ∃ s ∈ (Statement.ofCode? n (code ++ [';'])).toList, s.requiresSemicolon = true) :
    Document.semicolonErrors { statements := (Statement.ofCode? n code).toList }
      = [{ line := .preceded n
           message := "Expected ';' at end of statement."
           code := .missingStatementTerminator }] := by
  have hopen : LeftOpen (trim code) := ⟨trim_trim code, hlast⟩
  obtain ⟨gap, hgap, htrim⟩ := exists_trim_concat (show isBlank ';' = false by decide) code
  have hrequires : (Rule.deciding (trim code)).requiresSemicolon = true := by
    obtain ⟨s, hs, hrequires⟩ := hrequires
    rw [(Statement.reads_of_mem_ofCode? hs).requires, htrim] at hrequires
    exact Rule.requiresSemicolon_of_append hopen hgap hrequires
  rcases Statement.ofCode?_cases n code with ⟨hblank, -⟩ | ⟨-, s, hs, hreads⟩
  · exact absurd (trim_eq_nil_iff.mpr (List.all_eq_true.mp hblank)) hopen.ne_nil
  · have hflagged : Document.Flagged s :=
      hreads.flagged_iff.mpr ⟨hrequires, hopen.not_suffix (by simp)⟩
    have hfilter : [s].filter (fun s => Document.Flagged s) = [s] :=
      List.filter_cons_of_pos (decide_eq_true hflagged)
    rw [hs, Option.toList_some, Document.semicolonErrors, hfilter, List.map_singleton, hreads.line_eq]

/-! ## The source with the semicolon and without -/

/-- **The two sources differ in one line.** It makes its statement with the semicolon in the one and
without it in the other, and all others make the same statements in both. -/
theorem exists_classify_parts {before after : List String} {line : String}
    (hlines : ∀ l ∈ before ++ line :: after, '\n' ∉ l.toList)
    (hcode : Scan.finalMode .code ("\n".intercalate (before ++ [line])).toList = .code) :
    ∃ xs zs,
      (classify (withLine before after (line ++ ";"))).statements
        = xs ++ ((Statement.ofCode? before.length
          ((strippedAfter before line).text ++ [';'])).toList ++ zs)
      ∧ (classify (withLine before after line)).statements
        = xs ++ ((Statement.ofCode? before.length (strippedAfter before line).text).toList ++ zs)
      ∧ (∀ s ∈ xs, s.line.val < before.length + 1) ∧ ∀ s ∈ zs, before.length + 1 < s.line.val := by
  obtain ⟨hbefore, hline, hafter⟩ : (∀ l ∈ before, '\n' ∉ l.toList) ∧ '\n' ∉ line.toList
      ∧ ∀ l ∈ after, '\n' ∉ l.toList := by
    rw [List.forall_mem_append, List.forall_mem_cons] at hlines
    exact hlines
  have hended : ∀ l ∈ before ++ (line ++ ";") :: after, '\n' ∉ l.toList := by
    rw [List.forall_mem_append, List.forall_mem_cons, String.toList_append, List.mem_append, not_or]
    exact ⟨hbefore, ⟨hline, by decide⟩, hafter⟩
  have hupto : ∀ l ∈ before ++ [line], '\n' ∉ l.toList :=
    List.forall_mem_append.mpr ⟨hbefore, List.forall_mem_singleton.mpr hline⟩
  obtain ⟨htext, hblock⟩ := strippedAfter_semicolon hupto hcode
  have hwith := classify_withLine before after (line ++ ";") hended
  rw [htext, hblock] at hwith
  refine ⟨_, _, hwith, classify_withLine before after line hlines, fun s hs => ?_, fun s hs => ?_⟩
  · have hnumber := (Statement.line_of_mem_ofLinesFrom hs).2
    rw [List.length_map, Comment.length_stripAll, List.length_map] at hnumber
    omega
  · exact (Statement.line_of_mem_ofLinesFrom hs).1

/-- **Only the line that loses its semicolon is told of.** One of the lines of a source ends in code
with a semicolon, and the source without it has the same statements on all other lines, and the same
diagnostics for semicolons there. If the line needed the semicolon and is left open, there is one more
diagnostic for it, in its place. -/
theorem semicolon_dropped (before after : List String) (line : String)
    (hlines : ∀ l ∈ before ++ line :: after, '\n' ∉ l.toList)
    (hcode : Scan.finalMode .code ("\n".intercalate (before ++ [line])).toList = .code) :
    ((classify (withLine before after line)).statements.filter fun s => s.line.val ≠ before.length + 1)
        = ((classify (withLine before after (line ++ ";"))).statements.filter
            fun s => s.line.val ≠ before.length + 1)
    ∧ ∃ report report',
        (Chain.default.checkSource (withLine before after (line ++ ";"))).1 = .ok report
        ∧ (Chain.default.checkSource (withLine before after line)).1 = .ok report'
        ∧ (report'.missingTerminators.filter fun e => e.line.val ≠ before.length + 1)
          = (report.missingTerminators.filter fun e => e.line.val ≠ before.length + 1)
        ∧ ((∃ s ∈ (classify (withLine before after (line ++ ";"))).statements,
              s.line.val = before.length + 1 ∧ s.requiresSemicolon = true) →
            (∃ c, (trim (strippedAfter before line).text).getLast? = some c
              ∧ c ≠ '{' ∧ c ≠ '}' ∧ c ≠ ',' ∧ c ≠ ';') →
            ∃ above below, report.missingTerminators = above ++ below
              ∧ report'.missingTerminators = above
                ++ { line := .preceded before.length
                     message := "Expected ';' at end of statement."
                     code := .missingStatementTerminator } :: below
              ∧ (∀ e ∈ above, e.line.val < before.length + 1)
              ∧ ∀ e ∈ below, before.length + 1 < e.line.val) := by
  obtain ⟨xs, zs, hwith, hwithout, hxs, hzs⟩ := exists_classify_parts hlines hcode
  refine ⟨?_, _, _, (Chain.checkSource_fst _ _).trans (Chain.default_check _),
    (Chain.checkSource_fst _ _).trans (Chain.default_check _), ?_, ?_⟩
  · rw [hwith, hwithout]
    refine filter_parts_congr _ _ (fun s hs => ?_) fun s hs => ?_
    · exact decide_eq_false (not_not.mpr (Statement.line_of_mem_ofCode? hs))
    · exact decide_eq_false (not_not.mpr (Statement.line_of_mem_ofCode? hs))
  · rw [Document.missingTerminators_eq, Document.missingTerminators_eq,
      Document.semicolonErrors_of_parts hwith, Document.semicolonErrors_of_parts hwithout]
    refine filter_parts_congr _ _ (fun e he => ?_) fun e he => ?_
    · exact decide_eq_false (not_not.mpr (line_of_mem_semicolonErrors he))
    · exact decide_eq_false (not_not.mpr (line_of_mem_semicolonErrors he))
  · rintro ⟨s, hs, hline, hrequires⟩ hlast
    -- the statement at this number is that of the line
    have hown : s ∈ (Statement.ofCode? before.length
        ((strippedAfter before line).text ++ [';'])).toList := by
      rw [hwith] at hs
      rcases List.mem_append.mp hs with hs | hs
      · exact absurd hline (Nat.ne_of_lt (hxs s hs))
      · rcases List.mem_append.mp hs with hs | hs
        · exact hs
        · exact absurd hline (Nat.ne_of_gt (hzs s hs))
    refine ⟨Document.semicolonErrors { statements := xs },
      Document.semicolonErrors { statements := zs }, ?_, ?_, fun e he => ?_, fun e he => ?_⟩
    · rw [Document.missingTerminators_eq, Document.semicolonErrors_of_parts hwith,
        semicolonErrors_terminated, List.nil_append]
    · rw [Document.missingTerminators_eq, Document.semicolonErrors_of_parts hwithout,
        semicolonErrors_dropped hlast ⟨s, hown, hrequires⟩, List.singleton_append]
    · obtain ⟨-, s, hs, hline⟩ := Document.of_mem_semicolonErrors he
      rw [hline]
      exact hxs s hs
    · obtain ⟨-, s, hs, hline⟩ := Document.of_mem_semicolonErrors he
      rw [hline]
      exact hzs s hs

/-- The second line is entered in a block comment and ends in code. It returns with its semicolon and
without, and the first line and the last are reported in either case. -/
theorem semicolon_dropped_return :
    ("\n".intercalate ["y = 0 /* b;", "c */ return( x ) ;", "f()"]
        = withLine ["y = 0 /* b;"] ["f()"] ("c */ return( x ) " ++ ";"))
    ∧ trim (strippedAfter ["y = 0 /* b;"] "c */ return( x ) ").text = "return( x )".toList
    ∧ ∃ report report',
        (Chain.default.checkSource "y = 0 /* b;\nc */ return( x ) ;\nf()").1 = .ok report
        ∧ (Chain.default.checkSource "y = 0 /* b;\nc */ return( x ) \nf()").1 = .ok report'
        ∧ ∃ above below, report.missingTerminators = above ++ below
          ∧ report'.missingTerminators = above
            ++ { line := .preceded 1
                 message := "Expected ';' at end of statement."
                 code := .missingStatementTerminator } :: below := by
  refine ⟨rfl, by decide, ?_⟩
  have h := semicolon_dropped ["y = 0 /* b;"] ["f()"] "c */ return( x ) " (by decide) (by decide)
  obtain ⟨-, report, report', hreport, hreport', -, hdropped⟩ := h
  obtain ⟨above, below, habove, hbelow, -⟩ := hdropped (by decide) ⟨')', by decide⟩
  exact ⟨report, report', hreport, hreport', above, below, habove, hbelow⟩

end ShaderLint
