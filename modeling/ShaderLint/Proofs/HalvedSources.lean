/-
What becomes of the halves in a source.

Each step from a source to its document takes some points, leaves others out, and puts in none but
plain characters; and what it takes does not depend on the set of stand-ins, since no step tells one
stand-in from another. So every step is given by what it does to points, with one proof for each:
lines, comments, blanks, statements (`exists_lines`, `exists_codeOf`, `exists_trim`,
`exists_ofCode?`).

Of a document the texts of the statements are all that a half can get into (`classify_fill`), and
the two documents of a source are one exactly if none has (`withTexts_eq_iff`).
-/
import ShaderLint.Proofs.Blurring
import ShaderLint.Proofs.Statements
import ShaderLint.Proofs.Stripping

set_option autoImplicit false

namespace ShaderLint

namespace Text

/-! ## Points and their characters -/

/-- The characters at some points. -/
def StandIns.chars (set : StandIns) (points : List Point) : List Char := points.map set.forPoint

@[simp] theorem StandIns.chars_nil (set : StandIns) : set.chars [] = [] := rfl

@[simp] theorem StandIns.chars_cons (set : StandIns) (p : Point) (points : List Point) :
    set.chars (p :: points) = set.forPoint p :: set.chars points := rfl

@[simp] theorem StandIns.chars_append (set : StandIns) (u v : List Point) :
    set.chars (u ++ v) = set.chars u ++ set.chars v :=
  List.map_append

@[simp] theorem StandIns.chars_reverse (set : StandIns) (points : List Point) :
    set.chars points.reverse = (set.chars points).reverse :=
  List.map_reverse

/-- Plain characters are what they are. -/
@[simp] theorem StandIns.chars_plain (set : StandIns) (cs : List Char) :
    set.chars (cs.map .char) = cs := by
  have hchars : set.forPoint ∘ Point.char = id := rfl
  rw [chars, List.map_map, hchars, List.map_id]

theorem StandIns.toList_fill (set : StandIns) (points : List Point) :
    (set.fill points).toList = set.chars points :=
  String.toList_ofList

/-- A mark is never a stand-in. -/
theorem StandIns.forPoint_eq_iff (set : StandIns) {a : Char} (ha : a.toNat < 0xE000) (p : Point) :
    set.forPoint p = a ↔ p = .char a := by
  cases p with
  | char c => rw [forPoint, Point.char.injEq]
  | half h =>
    have hrange := isStandIn_forHalf set h
    constructor
    · intro heq
      rw [forPoint] at heq
      rw [heq] at hrange
      omega
    · intro heq
      cases heq

/-- Blurred, the characters are the same with either set. -/
theorem map_blur_chars (set set' : StandIns) (points : List Point) :
    (set.chars points).map blur = (set'.chars points).map blur := by
  rw [StandIns.chars, StandIns.chars, List.map_map, List.map_map]
  exact List.map_congr_left fun p _ => blur_forPoint set set' p

/-- Points have a half among them. -/
def Halved (points : List Point) : Prop := ∃ h, Point.half h ∈ points

/-- **The fillings of a text are one exactly if there is no half in it.** -/
theorem fill_eq_fill_iff (points : List Point) :
    StandIns.first.fill points = StandIns.second.fill points ↔ ¬ Halved points := by
  constructor
  · rintro heq ⟨h, hmem⟩
    -- the points are told from the fillings, and a text filled alike has no half in it
    have hpoints := pointsOf_fill points
    rw [← heq, pointsOf, List.zipWith_self] at hpoints
    rw [← hpoints] at hmem
    obtain ⟨c, -, hc⟩ := List.mem_map.mp hmem
    simp [Point.ofPair] at hc
  · intro hwhole
    refine congrArg String.ofList (List.map_congr_left fun p hp => ?_)
    cases p with
    | char c => rfl
    | half h => exact absurd ⟨h, hp⟩ hwhole

/-! ## Lines -/

theorem exists_dropReturn (points : List Point) :
    ∃ line, ∀ set : StandIns, dropReturn (set.chars points) = set.chars line := by
  cases points with
  | nil => exact ⟨[], fun set => rfl⟩
  | cons p points =>
    by_cases hp : p = .char '\r'
    · refine ⟨points, fun set => ?_⟩
      rw [StandIns.chars_cons, dropReturn, if_pos ((set.forPoint_eq_iff (by decide) p).mpr hp)]
    · refine ⟨p :: points, fun set => ?_⟩
      rw [StandIns.chars_cons, dropReturn,
        if_neg (mt (set.forPoint_eq_iff (by decide) p).mp hp)]

theorem exists_splitLines (done : List (List Point)) (current points : List Point) :
    ∃ rows : List (List Point), ∀ set : StandIns,
      splitLines (done.map set.chars) (set.chars current) (set.chars points)
        = rows.map set.chars := by
  induction points generalizing done current with
  | nil =>
    refine ⟨(current.reverse :: done).reverse, fun set => ?_⟩
    rw [StandIns.chars_nil, splitLines, List.map_reverse, List.map_cons, StandIns.chars_reverse]
  | cons p points ih =>
    by_cases hp : p = .char '\n'
    · obtain ⟨line, hline⟩ := exists_dropReturn current
      obtain ⟨rows, hrows⟩ := ih (line.reverse :: done) []
      refine ⟨rows, fun set => ?_⟩
      have hnext := hrows set
      rw [List.map_cons, StandIns.chars_reverse, ← hline] at hnext
      rw [StandIns.chars_cons, splitLines, if_pos ((set.forPoint_eq_iff (by decide) p).mpr hp)]
      exact hnext
    · obtain ⟨rows, hrows⟩ := ih done (p :: current)
      refine ⟨rows, fun set => ?_⟩
      rw [StandIns.chars_cons, splitLines,
        if_neg (mt (set.forPoint_eq_iff (by decide) p).mp hp)]
      exact hrows set

/-- **Lines.** The points of a source are cut at the same places with either set. -/
theorem exists_lines (points : List Point) :
    ∃ rows : List (List Point), ∀ set : StandIns,
      lines (set.chars points) = rows.map set.chars :=
  exists_splitLines [] [] points

/-- There are as many line feeds with either set. -/
theorem count_lineFeed_fill (set : StandIns) (points : List Point) :
    (set.fill points).toList.count '\n' = points.count (.char '\n') := by
  have hfeed : ∀ p ∈ points, ((· == '\n') ∘ set.forPoint) p = true ↔ (p == .char '\n') = true := by
    intro p _
    rw [Function.comp, beq_iff_eq, beq_iff_eq, set.forPoint_eq_iff (by decide)]
  rw [StandIns.toList_fill, StandIns.chars, List.count, List.countP_map, List.countP_congr hfeed]
  rfl

/-! ## Blanks -/

/-- **Blanks.** The same points are taken off the ends with either set. -/
theorem exists_trim (points : List Point) :
    ∃ text, ∀ set : StandIns, trim (set.chars points) = set.chars text := by
  have hblank : ∀ set : StandIns,
      isBlank ∘ set.forPoint = isBlank ∘ StandIns.first.forPoint := by
    intro set
    funext p
    rw [Function.comp, Function.comp, ← isBlank_blur, blur_forPoint set .first, isBlank_blur]
  have hstart : ∀ (set : StandIns) (points : List Point), (set.chars points).dropWhile isBlank
      = set.chars (points.dropWhile (isBlank ∘ StandIns.first.forPoint)) := by
    intro set points
    rw [StandIns.chars, List.dropWhile_map, hblank]
    rfl
  refine ⟨(((points.dropWhile (isBlank ∘ StandIns.first.forPoint)).reverse).dropWhile
    (isBlank ∘ StandIns.first.forPoint)).reverse, fun set => ?_⟩
  rw [trim, trimEnd, trimStart, hstart, ← StandIns.chars_reverse, hstart, StandIns.chars_reverse]

end Text

open Text

/-! ## Comments -/

namespace Comment

/-- One point. -/
theorem exists_step (mode : Mode) (p : Point) :
    ∃ (adds : List Point) (next : Mode), ∀ set : StandIns,
      mode.adds (set.forPoint p) = set.chars adds ∧ mode.next (set.forPoint p) = next := by
  cases p with
  | char c =>
    exact ⟨(mode.adds c).map .char, mode.next c, fun set => ⟨(set.chars_plain _).symm, rfl⟩⟩
  | half h =>
    have hslash : ∀ set : StandIns, set.forHalf h ≠ '/' := fun set =>
      mt (set.forPoint_eq_iff (by decide) (.half h)).mp nofun
    have hstar : ∀ set : StandIns, set.forHalf h ≠ '*' := fun set =>
      mt (set.forPoint_eq_iff (by decide) (.half h)).mp nofun
    simp only [StandIns.forPoint]
    cases mode with
    | code => exact ⟨[.half h], .code, fun set => ⟨if_neg (hslash set), if_neg (hslash set)⟩⟩
    | slash =>
      refine ⟨[.char '/', .half h], .code, fun set => ⟨?_, ?_⟩⟩
      · rw [Mode.adds, if_neg (not_or.mpr ⟨hslash set, hstar set⟩)]
        rfl
      · rw [Mode.next, if_neg (hslash set), if_neg (hstar set)]
    | line => exact ⟨[], .line, fun set => ⟨rfl, rfl⟩⟩
    | block => exact ⟨[], .block, fun set => ⟨rfl, if_neg (hstar set)⟩⟩
    | star =>
      refine ⟨[], .block, fun set => ⟨rfl, ?_⟩⟩
      rw [Mode.next, if_neg (hslash set), if_neg (hstar set)]

/-- **Comments.** Of a line the same points are code with either set, and the reader stands at the
same place after it. -/
theorem exists_codeOf (mode : Mode) (points : List Point) :
    ∃ (code : List Point) (last : Mode), ∀ set : StandIns,
      mode.codeOf (set.chars points) = set.chars code ∧ mode.after (set.chars points) = last := by
  induction points generalizing mode with
  | nil => exact ⟨mode.rest.map .char, mode, fun set => ⟨(set.chars_plain _).symm, rfl⟩⟩
  | cons p points ih =>
    obtain ⟨adds, next, hstep⟩ := exists_step mode p
    obtain ⟨code, last, hrest⟩ := ih next
    refine ⟨adds ++ code, last, fun set => ?_⟩
    obtain ⟨hadds, hnext⟩ := hstep set
    obtain ⟨hcode, hlast⟩ := hrest set
    rw [StandIns.chars_cons, Mode.codeOf_cons, hadds, hnext, hcode, StandIns.chars_append,
      Mode.after, hnext]
    exact ⟨rfl, hlast⟩

theorem exists_stripAll (inBlock : Bool) (rows : List (List Point)) :
    ∃ codes : List (List Point), ∀ set : StandIns,
      (stripAll inBlock (rows.map set.chars)).map (·.text) = codes.map set.chars := by
  induction rows generalizing inBlock with
  | nil => exact ⟨[], fun set => rfl⟩
  | cons row rows ih =>
    obtain ⟨code, last, hrow⟩ := exists_codeOf (.entering inBlock) row
    obtain ⟨codes, hrest⟩ := ih last.inBlock
    refine ⟨code :: codes, fun set => ?_⟩
    obtain ⟨hcode, hlast⟩ := hrow set
    rw [List.map_cons, stripAll_cons, strip_eq, hcode, hlast, List.map_cons, hrest, List.map_cons]

end Comment

/-! ## Statements -/

/-- A statement with another text. -/
def Statement.withText (s : Statement) (text : String) : Statement := { s with text }

namespace Statement

/-- **A line.** It makes a statement with either set or with neither, and the same one but for its
text. -/
theorem exists_ofCode? (n : Nat) (code : List Point) :
    (∀ set : StandIns, ofCode? n (set.chars code) = none)
    ∨ ∃ (s : Statement) (text : List Point), ∀ set : StandIns,
        ofCode? n (set.chars code) = some (s.withText (set.fill text)) := by
  obtain ⟨text, htext⟩ := exists_trim code
  by_cases hempty : text = []
  · left
    intro set
    simp only [ofCode?, htext, hempty, StandIns.chars_nil, List.isEmpty_nil, if_true]
  · right
    have hne : ∀ set : StandIns, (set.chars text).isEmpty = false := by
      intro set
      rw [List.isEmpty_eq_false_iff]
      exact fun h => hempty (List.map_eq_nil_iff.mp h)
    have hrule : ∀ set : StandIns,
        Rule.deciding (set.chars text) = Rule.deciding (StandIns.first.chars text) := by
      intro set
      rw [← Rule.deciding_blur, map_blur_chars set .first, Rule.deciding_blur]
    have hends : ∀ set : StandIns,
        Shape.endsWith [';'] (set.chars text) = Shape.endsWith [';'] (StandIns.first.chars text) := by
      intro set
      have hclear : Clear [';'] := by decide
      rw [← Shape.endsWith_blur _ hclear, map_blur_chars set .first, Shape.endsWith_blur _ hclear]
    refine ⟨{ line := .preceded n
              text := StandIns.first.fill text
              requiresSemicolon := (Rule.deciding (StandIns.first.chars text)).requiresSemicolon
              endsWithSemicolon := Shape.endsWith [';'] (StandIns.first.chars text)
              rule := (Rule.deciding (StandIns.first.chars text)).name }, text, fun set => ?_⟩
    simp only [ofCode?, htext, hne, Bool.false_eq_true, if_false, hrule set, hends set]
    rfl

theorem exists_ofLinesFrom (n : Nat) (codes : List (List Point)) :
    ∃ (statements : List Statement) (texts : List (List Point)),
      texts.length = statements.length ∧ ∀ set : StandIns,
        ofLinesFrom n (codes.map set.chars)
          = List.zipWith withText statements (texts.map set.fill) := by
  induction codes generalizing n with
  | nil => exact ⟨[], [], rfl, fun set => rfl⟩
  | cons code codes ih =>
    obtain ⟨statements, texts, hlength, hrest⟩ := ih (n + 1)
    rcases exists_ofCode? n code with hnone | ⟨s, text, hsome⟩
    · refine ⟨statements, texts, hlength, fun set => ?_⟩
      rw [List.map_cons, ofLinesFrom, hnone, hrest]
      rfl
    · refine ⟨s :: statements, text :: texts, congrArg (· + 1) hlength, fun set => ?_⟩
      rw [List.map_cons, ofLinesFrom, hsome, hrest]
      rfl

theorem zipWith_withText_eq_iff {statements : List Statement} {texts : List (List Point)}
    (hlength : texts.length = statements.length) :
    List.zipWith withText statements (texts.map StandIns.first.fill)
        = List.zipWith withText statements (texts.map StandIns.second.fill)
      ↔ ∀ text ∈ texts, ¬ Halved text := by
  induction texts generalizing statements with
  | nil => simp
  | cons text texts ih =>
    cases statements with
    | nil => contradiction
    | cons s statements =>
      have hfirst : s.withText (StandIns.first.fill text) = s.withText (StandIns.second.fill text)
          ↔ ¬ Halved text := by
        rw [← fill_eq_fill_iff]
        exact ⟨fun h => congrArg Statement.text h, fun h => congrArg s.withText h⟩
      rw [List.map_cons, List.map_cons, List.zipWith_cons_cons, List.zipWith_cons_cons,
        List.cons.injEq, hfirst, ih (Nat.succ.inj hlength), List.forall_mem_cons]

end Statement

/-! ## Documents -/

/-- A document with other texts in its statements. -/
def Document.withTexts (d : Document) (texts : List String) : Document :=
  { d with statements := List.zipWith Statement.withText d.statements texts }

theorem Declaration.find?_chars {d : Declaration} (hkeyword : Clear d.keyword.toList)
    (hmark : d.mark.toNat < 0xE000) (set set' : StandIns) (points : List Point) :
    d.find? (set.chars points) = d.find? (set'.chars points) := by
  rw [← find?_blur hkeyword hmark, map_blur_chars set set', find?_blur hkeyword hmark]

/-- **A source with halves.** The documents of its two fillings are the same but for the halves in
the texts of the statements. -/
theorem classify_fill (source : List Point) :
    ∃ (d : Document) (texts : List (List Point)), texts.length = d.statements.length
      ∧ ∀ set : StandIns, classify (set.fill source) = d.withTexts (texts.map set.fill) := by
  obtain ⟨rows, hrows⟩ := exists_lines source
  obtain ⟨codes, hcodes⟩ := Comment.exists_stripAll false rows
  obtain ⟨statements, texts, hlength, hstatements⟩ := Statement.exists_ofLinesFrom 0 codes
  refine ⟨{ shaderType := Declaration.shaderType.find? (StandIns.first.chars source)
            entryPoint := Declaration.entryPoint.find? (StandIns.first.chars source)
            statements }, texts, hlength, fun set => ?_⟩
  rw [classify, Statement.ofLines_eq, StandIns.toList_fill, hrows, hcodes, hstatements,
    Declaration.find?_chars (by decide) (by decide) set .first,
    Declaration.find?_chars (by decide) (by decide) set .first]
  rfl

/-- **The two documents are one exactly if no half has got into a text.** -/
theorem withTexts_eq_iff {d : Document} {texts : List (List Point)}
    (hlength : texts.length = d.statements.length) :
    d.withTexts (texts.map StandIns.first.fill) = d.withTexts (texts.map StandIns.second.fill)
      ↔ ∀ text ∈ texts, ¬ Halved text := by
  rw [Document.withTexts, Document.withTexts, Document.mk.injEq]
  simp only [true_and]
  exact Statement.zipWith_withText_eq_iff hlength

end ShaderLint
