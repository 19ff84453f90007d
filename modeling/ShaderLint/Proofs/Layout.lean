/-
The layout of a source.

How far a line is indented, what blanks it ends with and which of the two breaks ends it are matters
of layout, and none of them shows in the document. A source is taken apart into its lines here, and
each line into the line proper and the blanks that are laid around it (`Row`); the document is that
of the lines alone (`classify_layout`).

The two halves of a document ask for two arguments. The statements are made line by line: the blanks
around a line are at most blanks around its code, and a block comment stays open or closed across
them. The declarations are read across the lines: the blanks at the end of a line, its break and the
blanks of the next line are one gap, which the break alone would be as well, so the texts are
`Respaced`.

That a break may be of either kind comes out as a case: the carriage return is one more blank at the
end of its line.
-/
import ShaderLint.Proofs.Respacing

set_option autoImplicit false

namespace ShaderLint

open Text

/-! ## Lines with blanks around them -/

/-- A line of a source with the blanks that are laid around it. -/
structure Row where
  indent : String
  line : String
  trail : String
  indent_blank : ∀ c ∈ indent.toList, isBlank c = true ∧ c ≠ '\n'
  trail_blank : ∀ c ∈ trail.toList, isBlank c = true ∧ c ≠ '\n'
  line_unbroken : '\n' ∉ line.toList

namespace Row

/-- The condition on blanks, as a test. -/
theorem blank_of_all {s : String} (h : s.toList.all (fun c => isBlank c && c != '\n') = true) :
    ∀ c ∈ s.toList, isBlank c = true ∧ c ≠ '\n' := by
  intro c hc
  have hboth := List.all_eq_true.mp h c hc
  rw [Bool.and_eq_true, bne_iff_ne] at hboth
  exact hboth

/-- The line as it stands in the source. -/
def laidOut (r : Row) : String := r.indent ++ r.line ++ r.trail

theorem toList_laidOut (r : Row) :
    r.laidOut.toList = r.indent.toList ++ (r.line.toList ++ r.trail.toList) := by
  rw [laidOut, String.toList_append, String.toList_append, List.append_assoc]

/-- Rows as the text that they stand for. -/
def laid (rows : List Row) : List Char := ['\n'].intercalate (rows.map (·.laidOut.toList))

/-- The text of their lines alone. -/
def bare (rows : List Row) : List Char := ['\n'].intercalate (rows.map (·.line.toList))

theorem laidOut_unbroken (r : Row) : '\n' ∉ r.laidOut.toList := by
  rw [toList_laidOut, List.mem_append, List.mem_append]
  rintro (h | h | h)
  · exact (r.indent_blank '\n' h).2 rfl
  · exact r.line_unbroken h
  · exact (r.trail_blank '\n' h).2 rfl

/-- One row, or a row and others after it. -/
theorem laid_cons (r r' : Row) (rows : List Row) :
    laid (r :: r' :: rows) = r.laidOut.toList ++ '\n' :: laid (r' :: rows) := by
  rw [laid, List.map_cons, List.map_cons, List.intercalate_cons_cons, List.append_assoc]
  rfl

theorem bare_cons (r r' : Row) (rows : List Row) :
    bare (r :: r' :: rows) = r.line.toList ++ '\n' :: bare (r' :: rows) := by
  rw [bare, List.map_cons, List.map_cons, List.intercalate_cons_cons, List.append_assoc]
  rfl

theorem laid_singleton (r : Row) : laid [r] = r.laidOut.toList := List.intercalate_singleton

theorem bare_singleton (r : Row) : bare [r] = r.line.toList := List.intercalate_singleton

/-! ## The statements -/

section Line

variable (r : Row) (inBlock : Bool)

theorem trim_codeOf_laidOut :
    trim ((Comment.Mode.entering inBlock).codeOf r.laidOut.toList)
      = trim ((Comment.Mode.entering inBlock).codeOf r.line.toList) := by
  rw [toList_laidOut, Comment.Mode.trim_codeOf_blanks_append fun c hc => (r.indent_blank c hc).1,
    Comment.Mode.trim_codeOf_append_blanks fun c hc => (r.trail_blank c hc).1]

theorem inBlock_after_laidOut :
    ((Comment.Mode.entering inBlock).after r.laidOut.toList).inBlock
      = ((Comment.Mode.entering inBlock).after r.line.toList).inBlock := by
  rw [toList_laidOut, Comment.Mode.after_blanks_append fun c hc => (r.indent_blank c hc).1,
    Comment.Mode.inBlock_after_append_blanks fun c hc => (r.trail_blank c hc).1]

end Line

/-- **Line by line the same code, once it is trimmed.** -/
theorem map_trim_codeLines (inBlock : Bool) (rows : List Row) :
    (Scan.codeLines (Comment.Mode.entering inBlock).scan (laid rows)).map trim
      = (Scan.codeLines (Comment.Mode.entering inBlock).scan (bare rows)).map trim := by
  induction rows generalizing inBlock with
  | nil => rfl
  | cons r rows ih =>
    cases rows with
    | nil =>
      rw [laid_singleton, bare_singleton, Scan.codeLines_of_not_mem inBlock r.laidOut_unbroken,
        Scan.codeLines_of_not_mem inBlock r.line_unbroken, List.map_singleton, List.map_singleton,
        trim_codeOf_laidOut]
    | cons r' rows =>
      rw [laid_cons, bare_cons, Scan.codeLines_append_lineFeed inBlock r.laidOut_unbroken,
        Scan.codeLines_append_lineFeed inBlock r.line_unbroken, List.map_cons, List.map_cons,
        trim_codeOf_laidOut, inBlock_after_laidOut, ih]

/-! ## The declarations -/

/-- **Between two lines there is a gap, with the blanks and without.** What is left apart is the
indent of the first line, before which there is no break. -/
theorem exists_respaced (rows : List Row) :
    ∃ first rest, laid rows = first ++ rest ∧ (∀ c ∈ first, isBlank c = true)
      ∧ Respaced rest (bare rows) := by
  induction rows with
  | nil =>
    have hnil : ∀ c ∈ ([] : List Char), isBlank c = true := List.forall_mem_nil _
    exact ⟨[], [], rfl, hnil, .ends hnil hnil⟩
  | cons r rows ih =>
    have hindent : ∀ c ∈ r.indent.toList, isBlank c = true := fun c hc => (r.indent_blank c hc).1
    have htrail : ∀ c ∈ r.trail.toList, isBlank c = true := fun c hc => (r.trail_blank c hc).1
    cases rows with
    | nil =>
      refine ⟨r.indent.toList, r.line.toList ++ r.trail.toList, ?_, hindent, ?_⟩
      · rw [laid_singleton, toList_laidOut]
      · have hends := (Respaced.ends htrail (List.forall_mem_nil _)).append_left r.line.toList
        rw [List.append_nil] at hends
        rw [bare_singleton]
        exact hends
    | cons r' rows =>
      obtain ⟨first, rest, hlaid, hfirst, hrest⟩ := ih
      refine ⟨r.indent.toList,
        r.line.toList ++ ((r.trail.toList ++ '\n' :: first) ++ rest), ?_, hindent, ?_⟩
      · rw [laid_cons, toList_laidOut, hlaid]
        simp only [List.append_assoc, List.cons_append]
      · have hgap : ∀ c ∈ r.trail.toList ++ '\n' :: first, isBlank c = true := by
          intro c hc
          rcases List.mem_append.mp hc with hc | hc
          · exact htrail c hc
          · rcases List.mem_cons.mp hc with rfl | hc
            · decide
            · exact hfirst c hc
        have hbreak : ∀ c ∈ ['\n'], isBlank c = true := List.forall_mem_singleton.mpr rfl
        rw [bare_cons]
        refine Respaced.append_left r.line.toList (.gap ?_ (List.cons_ne_nil _ _) hgap hbreak hrest)
        exact List.append_ne_nil_of_right_ne_nil _ (List.cons_ne_nil _ _)

theorem find?_laid {d : Declaration} {Name : String → Prop} (hd : d.Fits Name)
    (hk : Declaration.IsWordName d.keyword) (rows : List Row) :
    d.find? (laid rows) = d.find? (bare rows) := by
  obtain ⟨first, rest, hlaid, hfirst, hrest⟩ := exists_respaced rows
  rw [hlaid, Declaration.find?_blanks_append hk hfirst, Declaration.find?_respaced hd hk hrest]

/-! ## The document -/

end Row

/-- Documents with the same declarations and the same statements are one. -/
theorem Document.eq_of_fields {d d' : Document} (htype : d.shaderType = d'.shaderType)
    (hentry : d.entryPoint = d'.entryPoint) (hstatements : d.statements = d'.statements) :
    d = d' := by
  cases d; cases d'; cases htype; cases hentry; cases hstatements; rfl

/-- Two sources that make one document, and so have one outcome under every chain. -/
structure Alike (source source' : String) : Prop where
  document : classify source = classify source'
  outcome : ∀ chain : Chain, chain.checkSource source = chain.checkSource source'

namespace Alike

theorem of_document {source source' : String} (h : classify source = classify source') :
    Alike source source' where
  document := h
  outcome chain := by rw [Chain.checkSource, h, Chain.checkSource]

theorem symm {source source' : String} (h : Alike source source') : Alike source' source :=
  of_document h.document.symm

theorem trans {source source' source'' : String} (h : Alike source source')
    (h' : Alike source' source'') : Alike source source'' :=
  of_document (h.document.trans h'.document)

/-- **The document is that of the lines alone.** -/
theorem of_rows (rows : List Row) {source source' : String} (h : source.toList = Row.laid rows)
    (h' : source'.toList = Row.bare rows) : Alike source source' := by
  apply of_document
  have hfind : ∀ {d : Declaration} {Name : String → Prop}, d.Fits Name →
      Declaration.IsWordName d.keyword → d.find? source.toList = d.find? source'.toList := by
    intro d Name hd hk
    rw [h, h', Row.find?_laid hd hk]
  apply Document.eq_of_fields
  · exact hfind Declaration.shaderType_fits Declaration.shaderType_keyword
  · exact hfind Declaration.entryPoint_fits Declaration.entryPoint_keyword
  · rw [Scan.classify_statements_from, Scan.classify_statements_from, h, h']
    exact Statement.ofLinesFrom_congr 0 (Row.map_trim_codeLines false rows)

end Alike

/-! ## The two breaks -/

/-- What a break has in front of its line feed. -/
def Text.Break.blanks : Break → String
  | .lineFeed => ""
  | .returnLineFeed => "\r"

theorem Text.Break.chars_eq (b : Break) : b.chars = b.blanks.toList ++ ['\n'] := by
  cases b <;> rfl

namespace Row

/-- A line as it stands before a break. -/
def before (b : Break) (line : List Char) (h : '\n' ∉ line) : Row where
  indent := ""
  line := String.ofList line
  trail := b.blanks
  indent_blank := blank_of_all rfl
  trail_blank := by cases b <;> exact blank_of_all rfl
  line_unbroken := by rwa [String.toList_ofList]

theorem toList_line_before (b : Break) {line : List Char} (h : '\n' ∉ line) :
    (before b line h).line.toList = line := String.toList_ofList

theorem toList_laidOut_before (b : Break) {line : List Char} (h : '\n' ∉ line) :
    (before b line h).laidOut.toList = line ++ b.blanks.toList := by
  rw [toList_laidOut, toList_line_before]
  rfl

/-- Joined lines are rows that end in what their breaks have in front of the line feed. -/
theorem exists_rows (first : List Char) (rest : List (Break × List Char)) (hfirst : '\n' ∉ first)
    (hrest : ∀ line ∈ rest, '\n' ∉ line.2) :
    ∃ r rows, laid (r :: rows) = joinLines first rest
      ∧ bare (r :: rows) = joinLines first (rest.map fun line => (.lineFeed, line.2)) := by
  induction rest generalizing first with
  | nil =>
    refine ⟨before .lineFeed first hfirst, [], ?_, ?_⟩
    · rw [laid_singleton, toList_laidOut_before]
      rfl
    · rw [bare_singleton, toList_line_before, List.map_nil, joinLines, List.flatMap_nil,
        List.append_nil]
  | cons next rest ih =>
    obtain ⟨b, line⟩ := next
    obtain ⟨hline, hrest⟩ := List.forall_mem_cons.mp hrest
    obtain ⟨r, rows, hlaid, hbare⟩ := ih line hline hrest
    refine ⟨before b first hfirst, r :: rows, ?_, ?_⟩
    · rw [laid_cons, toList_laidOut_before, hlaid, joinLines_cons, Break.chars_eq]
      simp only [List.append_assoc, List.cons_append, List.nil_append]
    · rw [bare_cons, toList_line_before, hbare, List.map_cons, joinLines_cons]
      rfl

end Row

/-- The breaks of a source do not show. -/
theorem Alike.of_breaks {first : List Char} {rest : List (Break × List Char)}
    (hfirst : '\n' ∉ first) (hrest : ∀ line ∈ rest, '\n' ∉ line.2) :
    Alike (String.ofList (joinLines first rest))
      (String.ofList (joinLines first (rest.map fun line => (.lineFeed, line.2)))) := by
  obtain ⟨r, rows, hlaid, hbare⟩ := Row.exists_rows first rest hfirst hrest
  apply Alike.of_rows (r :: rows)
  · rw [String.toList_ofList, hlaid]
  · rw [String.toList_ofList, hbare]

/-- **The layout of a source does not show.** Blanks before and after its lines, whatever they are
but line feeds, leave the document as it is, in every field, and so does the choice between the two
breaks for each break on its own. No chain can tell such sources apart. -/
theorem classify_layout :
    (∀ rows : List Row,
      Alike ("\n".intercalate (rows.map Row.laidOut)) ("\n".intercalate (rows.map Row.line)))
    ∧ ∀ (first : List Char) (rest rest' : List (Break × List Char)),
        rest.map Prod.snd = rest'.map Prod.snd →
        '\n' ∉ first → (∀ line ∈ rest, '\n' ∉ line.2) →
        Alike (String.ofList (joinLines first rest)) (String.ofList (joinLines first rest')) := by
  constructor
  · intro rows
    apply Alike.of_rows rows
    · rw [String.toList_intercalate, List.map_map]
      rfl
    · rw [String.toList_intercalate, List.map_map]
      rfl
  · intro first rest rest' hlines hfirst hrest
    have hrest' : ∀ line ∈ rest', '\n' ∉ line.2 := by
      intro line hline hmem
      have hsnd : line.2 ∈ rest.map Prod.snd := by
        rw [hlines]
        exact List.mem_map_of_mem hline
      obtain ⟨line', hline', heq⟩ := List.mem_map.mp hsnd
      rw [← heq] at hmem
      exact hrest line' hline' hmem
    have hfed : rest.map (fun line => (Break.lineFeed, line.2))
        = rest'.map fun line => (Break.lineFeed, line.2) := by
      have hmap := congrArg (List.map fun line => (Break.lineFeed, line)) hlines
      rw [List.map_map, List.map_map] at hmap
      exact hmap
    have halike := Alike.of_breaks hfirst hrest
    rw [hfed] at halike
    exact halike.trans (Alike.of_breaks hfirst hrest').symm

/-- A declaration over three lines, with a comment that is open across a break, laid out with a line
separator, tabs, returns and a hard space; and three lines with three choices of breaks. -/
theorem classify_layout_declaration :
    Alike ("\n".intercalate ["\u2028\t" ++ "shader_type" ++ "\r",
        "\t" ++ "sky; x = 1 /*" ++ "\u00a0", "" ++ "*/ + 2" ++ "\r\r"])
      ("\n".intercalate ["shader_type", "sky; x = 1 /*", "*/ + 2"])
    ∧ Alike
        (String.ofList (joinLines ['a'] [(.returnLineFeed, ['b']), (.lineFeed, ['\r', 'c'])]))
        (String.ofList (joinLines ['a'] [(.lineFeed, ['b']), (.returnLineFeed, ['\r', 'c'])])) := by
  constructor
  · exact classify_layout.1
      [⟨"\u2028\t", "shader_type", "\r", Row.blank_of_all rfl, Row.blank_of_all rfl, by decide⟩,
        ⟨"\t", "sky; x = 1 /*", "\u00a0", Row.blank_of_all rfl, Row.blank_of_all rfl, by decide⟩,
        ⟨"", "*/ + 2", "\r\r", Row.blank_of_all rfl, Row.blank_of_all rfl, by decide⟩]
  · exact classify_layout.2 ['a'] [(.returnLineFeed, ['b']), (.lineFeed, ['\r', 'c'])]
      [(.lineFeed, ['b']), (.returnLineFeed, ['\r', 'c'])] rfl (by decide) (by decide)

end ShaderLint
