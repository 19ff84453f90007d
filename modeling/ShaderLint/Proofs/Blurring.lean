/-
Readers that do not tell stand-ins apart.

Every stand-in is blurred into one and the same character, and no reader notices: what is asked of a
character is whether it is blank, whether it belongs to a word, or whether it is a certain mark, and
no stand-in is any of these. So every reader commutes with the blurring, each by the recursion that
it reads by, and the rule that decides a line and the declarations of a source are the same for the
blurred text (`Rule.deciding_blur`, `Declaration.find?_blur`).

The two fillings of a text are blurred into one text. This is why it makes no difference to a
reader which set of stand-ins a source is filled with.
-/
import ShaderLint.Proofs.Halves
import ShaderLint.Proofs.Reading
import ShaderLint.Classify

set_option autoImplicit false

namespace ShaderLint

namespace Text

/-! ## Characters -/

/-- Makes one of all stand-ins. -/
def blur (c : Char) : Char :=
  if IsStandIn c then '\ue000' else c

/-- No other character is blurred into a mark, nor is a mark into another. -/
theorem blur_eq_iff {a : Char} (ha : a.toNat < 0xE000) (c : Char) : blur c = a ↔ c = a := by
  by_cases hc : IsStandIn c
  · have hstart : ('\ue000' : Char).toNat = 0xE000 := by decide
    rw [blur, if_pos hc]
    constructor
    · intro h
      rw [← h, hstart] at ha
      omega
    · intro h
      rw [h] at hc
      omega
  · rw [blur, if_neg hc]

theorem eq_blur_iff {a : Char} (ha : a.toNat < 0xE000) (c : Char) : a = blur c ↔ a = c := by
  rw [eq_comm, blur_eq_iff ha, eq_comm]

theorem blur_beq {a : Char} (ha : a.toNat < 0xE000) (c : Char) : (blur c == a) = (c == a) := by
  rw [Bool.eq_iff_iff, beq_iff_eq, beq_iff_eq, blur_eq_iff ha]

theorem isWord_blur (c : Char) : isWord (blur c) = isWord c := by
  by_cases hc : IsStandIn c
  · have hstart : isWord '\ue000' = false := (IsStandIn.inert (by decide)).1
    rw [blur, if_pos hc, hstart, hc.inert.1]
  · rw [blur, if_neg hc]

theorem isBlank_blur (c : Char) : isBlank (blur c) = isBlank c := by
  by_cases hc : IsStandIn c
  · have hstart : isBlank '\ue000' = false := (IsStandIn.inert (by decide)).2
    rw [blur, if_pos hc, hstart, hc.inert.2]
  · rw [blur, if_neg hc]

theorem isBlank_comp_blur : isBlank ∘ blur = isBlank := funext isBlank_blur

/-- Whether there is a word character, if there is a character at all. -/
theorem any_isWord_blur (next : Option Char) : (next.map blur).any isWord = next.any isWord := by
  cases next with
  | none => rfl
  | some c => exact isWord_blur c

/-- Whether there is a certain mark. -/
theorem map_blur_beq {mark : Char} (h : mark.toNat < 0xE000) (next : Option Char) :
    (next.map blur == some mark) = (next == some mark) := by
  cases next with
  | none => rfl
  | some c => exact blur_beq h c

/-- A word is as clear as before. -/
theorem blur_of_isWord {c : Char} (h : isWord c = true) : blur c = c := by
  refine if_neg fun hc => ?_
  rw [hc.inert.1] at h
  contradiction

/-- With either set a point is blurred into the same character. -/
theorem blur_forPoint (set set' : StandIns) (p : Point) :
    blur (set.forPoint p) = blur (set'.forPoint p) := by
  cases p with
  | char c => rfl
  | half h =>
    rw [StandIns.forPoint, StandIns.forPoint, blur, blur, if_pos (isStandIn_forHalf set h),
      if_pos (isStandIn_forHalf set' h)]

/-! ## Steps -/

/-- A text that has no stand-ins in it. -/
def Clear (text : List Char) : Prop := text.all (·.toNat < 0xE000) = true

instance (text : List Char) : Decidable (Clear text) :=
  inferInstanceAs (Decidable (text.all (·.toNat < 0xE000) = true))

theorem clear_cons_iff {c : Char} {text : List Char} :
    Clear (c :: text) ↔ c.toNat < 0xE000 ∧ Clear text := by
  rw [Clear, Clear, List.all_cons, Bool.and_eq_true, decide_eq_true_eq]

theorem Clear.reverse {text : List Char} (h : Clear text) : Clear text.reverse := by
  rw [Clear, List.all_reverse]
  exact h

section Steps

variable (cs : List Char)

/-- Whether a mark stands at the front. -/
theorem head?_blur {mark : Char} (h : mark.toNat < 0xE000) :
    ((cs.map blur).head? == some mark) = (cs.head? == some mark) := by
  rw [List.head?_map, map_blur_beq h]

theorem after?_blur {lead : List Char} (h : Clear lead) :
    after? lead (cs.map blur) = (after? lead cs).map (List.map blur) := by
  induction lead generalizing cs with
  | nil => rfl
  | cons l ls ih =>
    obtain ⟨hl, hls⟩ := clear_cons_iff.mp h
    cases cs with
    | nil => rfl
    | cons c cs =>
      rw [List.map_cons, after?, after?]
      by_cases hc : l = c
      · rw [if_pos hc, if_pos ((eq_blur_iff hl c).mpr hc), ih cs hls]
      · rw [if_neg hc, if_neg (mt (eq_blur_iff hl c).mp hc)]
        rfl

theorem trimStart_blur : trimStart (cs.map blur) = (trimStart cs).map blur := by
  rw [trimStart, trimStart, List.dropWhile_map, isBlank_comp_blur]

theorem afterBlanks?_blur :
    afterBlanks? (cs.map blur) = (afterBlanks? cs).map (List.map blur) := by
  cases cs with
  | nil => rfl
  | cons c cs =>
    rw [List.map_cons, afterBlanks?, afterBlanks?, isBlank_blur, trimStart_blur]
    split <;> rfl

theorem map_blur_of_isWord {w : List Char} (h : ∀ c ∈ w, isWord c = true) : w.map blur = w := by
  rw [List.map_congr_left fun c hc => blur_of_isWord (h c hc), List.map_id']

theorem word?_blur :
    word? (cs.map blur) = (word? cs).map fun (w, rest) => (w, rest.map blur) := by
  have hword : isWord ∘ blur = isWord := funext isWord_blur
  have hclear : (cs.takeWhile isWord).map blur = cs.takeWhile isWord :=
    map_blur_of_isWord fun c hc => List.mem_takeWhile_imp hc
  rw [word?, word?, List.takeWhile_map, List.dropWhile_map, hword, hclear]
  split <;> rfl

theorem opensWith_blur {mark : Char} (h : mark.toNat < 0xE000) :
    opensWith mark (cs.map blur) = opensWith mark cs := by
  rw [opensWith, opensWith, trimStart_blur, head?_blur _ h]

theorem named?_blur {mark : Char} (h : mark.toNat < 0xE000) :
    named? mark (cs.map blur) = named? mark cs := by
  unfold named?
  rw [afterBlanks?_blur]
  cases afterBlanks? cs with
  | none => rfl
  | some rest =>
    simp only [Option.map_some, Option.bind_eq_bind, Option.bind_some, word?_blur]
    cases word? rest with
    | none => rfl
    | some found => simp only [Option.map_some, Option.bind_some, opensWith_blur _ h]

end Steps

end Text

open Text

/-! ## Declarations -/

namespace Declaration

variable {d : Declaration}

theorem boundary_blur (before : Option Char) : boundary (before.map blur) = boundary before := by
  rw [boundary, boundary, any_isWord_blur]

theorem read?_blur (hkeyword : Clear d.keyword.toList) (hmark : d.mark.toNat < 0xE000)
    (cs : List Char) : d.read? (cs.map blur) = d.read? cs := by
  unfold read?
  rw [after?_blur cs hkeyword]
  cases after? d.keyword.toList cs with
  | none => rfl
  | some rest =>
    simp only [Option.map_some, Option.bind_eq_bind, Option.bind_some, named?_blur rest hmark]

theorem search_blur (hkeyword : Clear d.keyword.toList) (hmark : d.mark.toNat < 0xE000)
    (before : Option Char) (cs : List Char) :
    d.search (before.map blur) (cs.map blur) = d.search before cs := by
  induction cs generalizing before with
  | nil => rfl
  | cons c cs ih =>
    have hread := read?_blur hkeyword hmark (c :: cs)
    have hnext := ih (some c)
    rw [List.map_cons] at hread ⊢
    rw [Option.map_some] at hnext
    rw [search, search, hread, boundary_blur, hnext]

/-- **The declarations of a source are read from what is clear in it.** -/
theorem find?_blur (hkeyword : Clear d.keyword.toList) (hmark : d.mark.toNat < 0xE000)
    (cs : List Char) : d.find? (cs.map blur) = d.find? cs :=
  search_blur hkeyword hmark none cs

end Declaration

/-! ## The shapes of lines -/

namespace Shape

/-- What is asked of every word of a table is asked of any. -/
theorem any_congr {table : List String} {p q : String → Bool} (h : ∀ word ∈ table, p word = q word) :
    table.any p = table.any q := by
  rw [Bool.eq_iff_iff, List.any_eq_true, List.any_eq_true]
  exact exists_congr fun word => and_congr_right fun hmem => by rw [h word hmem]

section Shapes

variable (cs : List Char)

theorem directive_blur : directive (cs.map blur) = directive cs := by
  have hclear : ∀ keyword ∈ Dialect.directiveKeywords, Clear keyword.toList := by decide
  have hkeyword : ∀ keyword ∈ Dialect.directiveKeywords,
      ((after? keyword.toList (cs.map blur)).bind afterBlanks?).isSome
        = ((after? keyword.toList cs).bind afterBlanks?).isSome := by
    intro keyword hmem
    rw [after?_blur cs (hclear keyword hmem)]
    cases after? keyword.toList cs with
    | none => rfl
    | some rest =>
      rw [Option.map_some, Option.bind_some, Option.bind_some, afterBlanks?_blur,
        Option.isSome_map]
  rw [directive, directive, head?_blur cs (by decide), any_congr hkeyword]

theorem afterPhrase?_blur {phrase : List Char} (h : Clear phrase) :
    afterPhrase? phrase (cs.map blur) = (afterPhrase? phrase cs).map (List.map blur) := by
  induction phrase generalizing cs with
  | nil => rfl
  | cons p ps ih =>
    obtain ⟨hp, hps⟩ := clear_cons_iff.mp h
    unfold afterPhrase?
    by_cases hspace : p = ' '
    · rw [if_pos hspace, if_pos hspace, afterBlanks?_blur]
      cases afterBlanks? cs with
      | none => rfl
      | some rest => exact ih rest hps
    · rw [if_neg hspace, if_neg hspace]
      cases cs with
      | nil => rfl
      | cons c cs =>
        rw [List.map_cons]
        dsimp only
        by_cases hc : p = c
        · rw [if_pos hc, if_pos ((eq_blur_iff hp c).mpr hc), ih cs hps]
        · rw [if_neg hc, if_neg (mt (eq_blur_iff hp c).mp hc)]
          rfl

/-- A clear text is as clear as before, and no other is blurred into it. -/
theorem beq_blur {text : List Char} (h : Clear text) : (cs.map blur == text) = (cs == text) := by
  have hiff : cs.map blur = text ↔ cs = text := by
    induction text generalizing cs with
    | nil => exact List.map_eq_nil_iff
    | cons t ts ih =>
      obtain ⟨ht, hts⟩ := clear_cons_iff.mp h
      cases cs with
      | nil => simp
      | cons c cs =>
        rw [List.map_cons, List.cons.injEq, List.cons.injEq, blur_eq_iff ht, ih cs hts]
  rw [Bool.eq_iff_iff, beq_iff_eq, beq_iff_eq, hiff]

theorem controlFlow_blur : controlFlow (cs.map blur) = controlFlow cs := by
  have hclear : ∀ keyword ∈ Dialect.controlFlowKeywords, Clear keyword.toList := by decide
  have hkeyword : ∀ keyword ∈ Dialect.controlFlowKeywords,
      (afterPhrase? keyword.toList (cs.map blur)).any (opensWith '(')
        = (afterPhrase? keyword.toList cs).any (opensWith '(') := by
    intro keyword hmem
    rw [afterPhrase?_blur cs (hclear keyword hmem)]
    cases afterPhrase? keyword.toList cs with
    | none => rfl
    | some rest => exact opensWith_blur rest (by decide)
  rw [controlFlow, controlFlow, any_congr hkeyword, beq_blur cs (by decide),
    beq_blur cs (by decide)]

theorem structOpener_blur : structOpener (cs.map blur) = structOpener cs := by
  rw [structOpener, structOpener, after?_blur cs (by decide)]
  cases after? "struct".toList cs with
  | none => rfl
  | some rest =>
    rw [Option.map_some, Option.bind_some, Option.bind_some, named?_blur rest (by decide)]

theorem functionHeader_blur : functionHeader (cs.map blur) = functionHeader cs := by
  rw [functionHeader, functionHeader, word?_blur]
  cases word? cs with
  | none => rfl
  | some found =>
    dsimp only [Option.map_some]
    rw [named?_blur found.2 (by decide)]

theorem endsWith_blur {ending : List Char} (h : Clear ending) :
    endsWith ending (cs.map blur) = endsWith ending cs := by
  rw [endsWith, endsWith, ← List.map_reverse, after?_blur _ h.reverse, Option.isSome_map]

theorem blockDelimiter_blur : blockDelimiter (cs.map blur) = blockDelimiter cs := by
  have hclear : ∀ ending ∈ blockEndings, Clear ending.toList := by decide
  exact any_congr fun ending hmem => endsWith_blur cs (hclear ending hmem)

theorem loneBrace_blur : loneBrace (cs.map blur) = loneBrace cs := by
  rw [loneBrace, loneBrace, trimStart_blur]
  cases trimStart cs with
  | nil => rfl
  | cons c rest =>
    rw [List.map_cons]
    dsimp only
    rw [blur_beq (by decide), blur_beq (by decide), List.all_map, isBlank_comp_blur]

theorem assignmentFrom_blur (before₂ before₁ : Option Char) :
    assignmentFrom (before₂.map blur) (before₁.map blur) (cs.map blur)
      = assignmentFrom before₂ before₁ cs := by
  induction cs generalizing before₂ before₁ with
  | nil => rfl
  | cons c cs ih =>
    have hequals : '='.toNat < 0xE000 := by decide
    have hassigns : assigns (before₂.map blur) (before₁.map blur) (cs.map blur).head?
        = assigns before₂ before₁ cs.head? := by
      have hless : '<'.toNat < 0xE000 := by decide
      have hgreater : '>'.toNat < 0xE000 := by decide
      have hnot : '!'.toNat < 0xE000 := by decide
      simp only [assigns, bne, List.head?_map, map_blur_beq hequals, map_blur_beq hless,
        map_blur_beq hgreater, map_blur_beq hnot]
    have hnext := ih before₁ (some c)
    rw [Option.map_some] at hnext
    have hmark : decide (blur c = '=') = decide (c = '=') :=
      decide_eq_decide.mpr (blur_eq_iff hequals c)
    rw [List.map_cons, assignmentFrom, assignmentFrom, hassigns, hmark, hnext]

theorem wordFrom_blur {word : List Char} (h : Clear word) (before : Option Char) :
    wordFrom word (before.map blur) (cs.map blur) = wordFrom word before cs := by
  induction cs generalizing before with
  | nil => rfl
  | cons c cs ih =>
    have hafter := after?_blur (c :: cs) h
    have hnext := ih (some c)
    rw [Option.map_some] at hnext
    rw [List.map_cons] at hafter ⊢
    rw [wordFrom, wordFrom, hafter, hnext]
    cases after? word (c :: cs) with
    | none => rfl
    | some rest =>
      dsimp only [Option.map_some]
      rw [List.head?_map, any_isWord_blur, any_isWord_blur]

/-- A search for a call goes the same way, and has blurred what it keeps. -/
theorem foldl_feed_blur (s : CallSearch) :
    ((cs.map blur).foldl CallSearch.feed { s with last := s.last.map blur }).opened
      = (cs.foldl CallSearch.feed s).opened := by
  induction cs generalizing s with
  | nil => rfl
  | cons c cs ih =>
    have hfeed : CallSearch.feed { s with last := s.last.map blur } (blur c)
        = { s.feed c with last := (s.feed c).last.map blur } := by
      have hopens : '('.toNat < 0xE000 := by decide
      have hline : '\n'.toNat < 0xE000 := by decide
      simp only [CallSearch.feed, isBlank_blur, any_isWord_blur, bne, blur_beq hopens,
        blur_beq hline]
      split <;> rfl
    rw [List.map_cons, List.foldl_cons, List.foldl_cons, hfeed, ih]

theorem callStatement_blur : callStatement (cs.map blur) = callStatement cs := by
  rw [callStatement, callStatement, ← List.map_reverse, List.dropWhile_map, isBlank_comp_blur]
  cases cs.reverse.dropWhile isBlank with
  | nil => rfl
  | cons c rest =>
    have hfeed := foldl_feed_blur rest.reverse ⟨none, false⟩
    rw [List.map_cons]
    dsimp only
    rw [blur_beq (by decide), ← List.map_reverse]
    exact congrArg (c == ')' && ·) hfeed

end Shapes

end Shape

namespace Rule

/-- **Every rule accepts a text with its stand-ins blurred if it accepts the text.** -/
theorem accepts_blur (r : Rule) (cs : List Char) : r.accepts (cs.map blur) = r.accepts cs := by
  cases r with
  | directive => exact Shape.directive_blur cs
  | blockDelimiter => exact Shape.blockDelimiter_blur cs
  | loneBrace => exact Shape.loneBrace_blur cs
  | controlFlow => exact Shape.controlFlow_blur cs
  | structOpener => exact Shape.structOpener_blur cs
  | functionHeader => exact Shape.functionHeader_blur cs
  | assignment => exact Shape.assignmentFrom_blur cs none none
  | returnStatement => exact Shape.wordFrom_blur cs (by decide) none
  | callStatement => exact Shape.callStatement_blur cs
  | unclassified => rfl

/-- **The rule that decides a line.** -/
theorem deciding_blur (cs : List Char) : deciding (cs.map blur) = deciding cs := by
  have haccepts : (fun r => accepts r (cs.map blur)) = fun r => accepts r cs :=
    funext fun r => accepts_blur r cs
  rw [deciding, deciding, haccepts]

end Rule

end ShaderLint
