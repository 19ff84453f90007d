/-
The language of each rule.

A rule accepts a text by reading it, from the front, from the back or from end to end. Here the texts
that each rule is for are written down as what they are put together from: a keyword, a gap, a name,
blanks or none, a mark (`Rule.Language`). Nothing in that account goes through the text from one place
to the next, and nothing in it chooses how far a run goes, so it takes texts with line breaks in them
and blanks at their ends like any other. A rule accepts its language and nothing else
(`Rule.accepts_iff`), and the rule that decides a text is the first in the table whose language the text
is in (`deciding_first_language`).

Three of the readers ask for an induction. The search for an assignment knows of what lies behind it
the last two characters, and the search for the word `return` the last one; both are stated for a text
that is cut anywhere, as the search for a declaration is. The search for a call gathers two facts while
it goes on, and the induction is on the text from its end, since the next character is the one that
changes them.
-/
import Mathlib.Data.List.Infix
import ShaderLint.Proofs.Reading
import ShaderLint.Rule

set_option autoImplicit false

namespace ShaderLint

namespace Text

/-! ## Parts of a text -/

/-- Blanks, or nothing. -/
def Blanks (cs : List Char) : Prop := ∀ c ∈ cs, isBlank c = true

/-- A gap: blanks, and at least one. -/
def Gap (cs : List Char) : Prop := cs ≠ [] ∧ Blanks cs

/-- A name: word characters, and at least one. -/
def Name (cs : List Char) : Prop := cs ≠ [] ∧ ∀ c ∈ cs, isWord c = true

/-- A name between a gap and a mark after a text, as in `struct NAME {`. -/
def NamedAfter (lead : List Char) (mark : Char) (cs : List Char) : Prop :=
  ∃ gap name pad rest, Gap gap ∧ Name name ∧ Blanks pad
    ∧ cs = lead ++ (gap ++ (name ++ (pad ++ mark :: rest)))

end Text

open Text

namespace Shape

/-! ## The languages

One for each shape, in the order of the table. -/

/-- Begins with a number sign, or with a word for a directive and a blank. -/
def IsDirective (cs : List Char) : Prop :=
  cs.head? = some '#'
    ∨ ∃ keyword ∈ ["shader_type", "render_mode"], ∃ b rest, isBlank b = true
        ∧ cs = keyword.toList ++ b :: rest

/-- Ends with a brace, with a closed brace and a semicolon, or with a comma. -/
def IsBlockDelimiter (cs : List Char) : Prop :=
  ['{'] <:+ cs ∨ ['}'] <:+ cs ∨ ['}', ';'] <:+ cs ∨ [','] <:+ cs

/-- One brace with blanks around it. -/
def IsLoneBrace (cs : List Char) : Prop :=
  ∃ before brace after, Blanks before ∧ (brace = '{' ∨ brace = '}') ∧ Blanks after
    ∧ cs = before ++ brace :: after

/-- What opens a control structure: one word, or `else` and `if` with a gap between them. -/
def OpensControl (lead : List Char) : Prop :=
  (∃ keyword ∈ ["if", "for", "while", "do", "switch"], lead = keyword.toList)
    ∨ ∃ gap, Gap gap ∧ lead = "else".toList ++ (gap ++ "if".toList)

/-- Begins with what opens a control structure, blanks or none, and a parenthesis; or is `else`
alone, which a line feed may follow. -/
def IsControlFlow (cs : List Char) : Prop :=
  (∃ lead pad rest, OpensControl lead ∧ Blanks pad ∧ cs = lead ++ (pad ++ '(' :: rest))
    ∨ cs = "else".toList ∨ cs = "else\n".toList

/-- Begins with `struct`, a name, and a brace. -/
def IsStructOpener (cs : List Char) : Prop := NamedAfter "struct".toList '{' cs

/-- A type that a function may return: one of the dialect's, or a word that begins as the names of
samplers do. -/
def IsType (type : List Char) : Prop :=
  (∃ name ∈ Dialect.returnTypes, type = name.toList)
    ∨ ∃ stem ∈ Dialect.samplerStems, ∃ more, (∀ c ∈ more, isWord c = true)
        ∧ type = stem.toList ++ more

/-- Begins with a type, a name, and a parenthesis. -/
def IsFunctionHeader (cs : List Char) : Prop := ∃ type, IsType type ∧ NamedAfter type '(' cs

/-- Whether an equals sign between two texts assigns: it completes a shift, or it is no part of a
comparison. -/
def Assigns (before after : List Char) : Prop :=
  ['<', '<'] <:+ before ∨ ['>', '>'] <:+ before
    ∨ (∀ c ∈ before.getLast?, c ≠ '=' ∧ c ≠ '!' ∧ c ≠ '<' ∧ c ≠ '>') ∧ after.head? ≠ some '='

/-- Holds an equals sign that assigns. -/
def IsAssignment (cs : List Char) : Prop :=
  ∃ before after, cs = before ++ '=' :: after ∧ Assigns before after

/-- No word character stands directly before or after. -/
def Apart (before after : List Char) : Prop :=
  (∀ c ∈ before.getLast?, isWord c = false) ∧ ∀ c ∈ after.head?, isWord c = false

/-- Holds `return` as a word of its own. -/
def IsReturn (cs : List Char) : Prop :=
  ∃ before after, cs = before ++ ("return".toList ++ after) ∧ Apart before after

/-- Ends with a word character, blanks after it aside. -/
def EndsInWord (cs : List Char) : Prop :=
  ∃ before w gap, isWord w = true ∧ Blanks gap ∧ cs = before ++ w :: gap

/-- Has a parenthesis in it that opens after a word character, blanks between them aside, and no line
feed after that. -/
def OpensCall (cs : List Char) : Prop :=
  ∃ front inside, EndsInWord front ∧ '\n' ∉ inside ∧ cs = front ++ '(' :: inside

/-- Ends with a closing parenthesis, blanks aside, and a call opens before it. -/
def IsCall (cs : List Char) : Prop :=
  ∃ call pad, OpensCall call ∧ Blanks pad ∧ cs = call ++ ')' :: pad

end Shape

/-- The texts that a rule is for. -/
def Rule.Language : Rule → List Char → Prop
  | .directive => Shape.IsDirective
  | .blockDelimiter => Shape.IsBlockDelimiter
  | .loneBrace => Shape.IsLoneBrace
  | .controlFlow => Shape.IsControlFlow
  | .structOpener => Shape.IsStructOpener
  | .functionHeader => Shape.IsFunctionHeader
  | .assignment => Shape.IsAssignment
  | .returnStatement => Shape.IsReturn
  | .callStatement => Shape.IsCall
  | .unclassified => fun _ => True

namespace Shape

/-! ## Shapes told by the beginning -/

theorem isSome_after?_iff {lead cs : List Char} :
    (after? lead cs).isSome = true ↔ ∃ rest, cs = lead ++ rest := by
  simp only [Option.isSome_iff_exists, after?_eq_some_iff]

/-- A gap can be read wherever a blank stands. -/
theorem isSome_afterBlanks?_iff {cs : List Char} :
    (afterBlanks? cs).isSome = true ↔ ∃ b rest, isBlank b = true ∧ cs = b :: rest := by
  rcases cs with _ | ⟨c, cs⟩
  · simp [afterBlanks?]
  · by_cases hc : isBlank c = true <;> simp [afterBlanks?, hc]

theorem directive_iff (cs : List Char) : directive cs = true ↔ IsDirective cs := by
  have hkeyword : ∀ keyword : String,
      ((after? keyword.toList cs).bind afterBlanks?).isSome = true ↔
        ∃ b rest, isBlank b = true ∧ cs = keyword.toList ++ b :: rest := by
    intro keyword
    rw [Option.isSome_bind, Option.any_eq_true]
    simp only [after?_eq_some_iff, isSome_afterBlanks?_iff]
    constructor
    · rintro ⟨rest, hcs, b, rest', hb, rfl⟩
      exact ⟨b, rest', hb, hcs⟩
    · rintro ⟨b, rest, hb, hcs⟩
      exact ⟨_, hcs, b, rest, hb, rfl⟩
  rw [directive, IsDirective, Bool.or_eq_true, beq_iff_eq, List.any_eq_true]
  simp only [hkeyword]
  exact Iff.rfl

theorem named_after_iff {lead : List Char} {mark : Char} (hblank : isBlank mark = false)
    (hword : isWord mark = false) {cs : List Char} :
    NamedAfter lead mark cs ↔ ∃ rest name, cs = lead ++ rest ∧ named? mark rest = some name := by
  simp only [NamedAfter, Gap, Name, Blanks, named?_eq_some_iff hblank hword]
  constructor
  · rintro ⟨gap, name, pad, rest, ⟨hne, hgap⟩, ⟨hname, hw⟩, hpad, hcs⟩
    exact ⟨_, name, hcs, gap, pad, rest, hne, hgap, hname, hw, hpad, rfl⟩
  · rintro ⟨_, name, hcs, gap, pad, rest, hne, hgap, hname, hw, hpad, rfl⟩
    exact ⟨gap, name, pad, rest, ⟨hne, hgap⟩, ⟨hname, hw⟩, hpad, hcs⟩

theorem structOpener_iff (cs : List Char) : structOpener cs = true ↔ IsStructOpener cs := by
  rw [structOpener, IsStructOpener, named_after_iff (by decide) (by decide),
    Option.isSome_iff_exists]
  simp only [Option.bind_eq_some_iff, after?_eq_some_iff]
  constructor
  · rintro ⟨name, rest, hcs, hname⟩
    exact ⟨rest, name, hcs, hname⟩
  · rintro ⟨rest, name, hcs, hname⟩
    exact ⟨name, rest, hcs, hname⟩

/-- A phrase is read up to its first space as a text is. -/
theorem afterPhrase?_append {word : List Char} (hword : ' ' ∉ word) (more cs : List Char) :
    afterPhrase? (word ++ more) cs = (after? word cs).bind (afterPhrase? more) := by
  induction word generalizing cs with
  | nil => rfl
  | cons p word ih =>
    have hp : p ≠ ' ' := (List.ne_of_not_mem_cons hword).symm
    have hrest : ' ' ∉ word := List.not_mem_of_not_mem_cons hword
    rw [List.cons_append]
    rcases cs with _ | ⟨c, cs⟩
    · simp only [afterPhrase?, if_neg hp, after?, Option.bind_none]
    · by_cases hc : p = c
      · simp only [afterPhrase?, if_neg hp, if_pos hc, after?, ih hrest]
      · simp only [afterPhrase?, if_neg hp, if_neg hc, after?, Option.bind_none]

/-- A phrase of one word. -/
theorem afterPhrase?_word {word : List Char} (hword : ' ' ∉ word) (cs : List Char) :
    afterPhrase? word cs = after? word cs := by
  have h := afterPhrase?_append hword [] cs
  rw [List.append_nil] at h
  rw [h]
  cases after? word cs <;> rfl

/-- A phrase of two words. There is one way to read the gap, since a word follows it. -/
theorem afterPhrase?_words {first second : List Char} (hfirst : ' ' ∉ first)
    (hsecond : ' ' ∉ second) (hne : second ≠ []) (hhead : ∀ c ∈ second.head?, isBlank c = false)
    {cs rest : List Char} :
    afterPhrase? (first ++ ' ' :: second) cs = some rest ↔
      ∃ gap, Gap gap ∧ cs = first ++ (gap ++ second) ++ rest := by
  have hspace : ∀ cs, afterPhrase? (' ' :: second) cs
      = (afterBlanks? cs).bind (afterPhrase? second) := fun cs => if_pos rfl
  have hend : ∀ more : List Char, (second ++ more).head? = second.head? := by
    intro more
    rcases second with _ | ⟨c, second⟩
    · contradiction
    · rfl
  rw [afterPhrase?_append hfirst]
  simp only [Option.bind_eq_some_iff, after?_eq_some_iff, hspace, afterBlanks?_eq_some_iff,
    afterPhrase?_word hsecond]
  constructor
  · rintro ⟨_, hcs, _, ⟨gap, hgap, hblanks, rfl, -⟩, rfl⟩
    refine ⟨gap, ⟨hgap, hblanks⟩, ?_⟩
    rw [hcs, List.append_assoc, List.append_assoc]
  · rintro ⟨gap, ⟨hgap, hblanks⟩, rfl⟩
    refine ⟨gap ++ (second ++ rest), ?_, second ++ rest, ⟨gap, hgap, hblanks, rfl, ?_⟩, rfl⟩
    · rw [List.append_assoc, List.append_assoc]
    · rw [hend]
      exact hhead

/-- What the words for control structures open. -/
theorem exists_afterPhrase?_iff {cs rest : List Char} :
    (∃ keyword ∈ Dialect.controlFlowKeywords, afterPhrase? keyword.toList cs = some rest) ↔
      ∃ lead, OpensControl lead ∧ cs = lead ++ rest := by
  have hword : ∀ keyword ∈ ["if", "for", "while", "do", "switch"],
      (afterPhrase? keyword.toList cs = some rest ↔ cs = keyword.toList ++ rest) := by
    intro keyword hmem
    have hspace : ' ' ∉ keyword.toList := by
      revert keyword
      decide
    rw [afterPhrase?_word hspace, after?_eq_some_iff]
  have hhead : ∀ c ∈ "if".toList.head?, isBlank c = false := by
    rintro c ⟨⟩
    rfl
  have helse : afterPhrase? "else if".toList cs = some rest ↔
      ∃ gap, Gap gap ∧ cs = "else".toList ++ (gap ++ "if".toList) ++ rest :=
    @afterPhrase?_words "else".toList "if".toList (by decide) (by decide) (by decide) hhead cs rest
  have hwords : ∀ keyword ∈ Dialect.controlFlowKeywords,
      keyword = "else if" ∨ keyword ∈ ["if", "for", "while", "do", "switch"] := by decide
  have hkeywords : ∀ keyword ∈ ["if", "for", "while", "do", "switch"],
      keyword ∈ Dialect.controlFlowKeywords := by decide
  constructor
  · rintro ⟨keyword, hmem, hread⟩
    rcases hwords keyword hmem with rfl | hmem
    · obtain ⟨gap, hgap, hcs⟩ := helse.mp hread
      exact ⟨_, .inr ⟨gap, hgap, rfl⟩, hcs⟩
    · exact ⟨_, .inl ⟨keyword, hmem, rfl⟩, (hword keyword hmem).mp hread⟩
  · rintro ⟨lead, hlead | ⟨gap, hgap, rfl⟩, hcs⟩
    · obtain ⟨keyword, hmem, rfl⟩ := hlead
      exact ⟨keyword, hkeywords keyword hmem, (hword keyword hmem).mpr hcs⟩
    · exact ⟨"else if", by decide, helse.mpr ⟨gap, hgap, hcs⟩⟩

theorem controlFlow_iff (cs : List Char) : controlFlow cs = true ↔ IsControlFlow cs := by
  have hopens : (Dialect.controlFlowKeywords.any fun keyword =>
        (afterPhrase? keyword.toList cs).any (opensWith '(')) = true ↔
      ∃ lead pad rest, OpensControl lead ∧ Blanks pad ∧ cs = lead ++ (pad ++ '(' :: rest) := by
    have hparen : isBlank '(' = false := by decide
    simp only [List.any_eq_true, Option.any_eq_true, opensWith_iff hparen]
    constructor
    · rintro ⟨keyword, hmem, _, hread, pad, rest, hpad, rfl⟩
      obtain ⟨lead, hlead, hcs⟩ := exists_afterPhrase?_iff.mp ⟨keyword, hmem, hread⟩
      exact ⟨lead, pad, rest, hlead, hpad, hcs⟩
    · rintro ⟨lead, pad, rest, hlead, hpad, hcs⟩
      obtain ⟨keyword, hmem, hread⟩ := exists_afterPhrase?_iff.mpr ⟨lead, hlead, hcs⟩
      exact ⟨keyword, hmem, _, hread, pad, rest, hpad, rfl⟩
  rw [controlFlow, IsControlFlow, Bool.or_eq_true, Bool.or_eq_true, hopens, beq_iff_eq, beq_iff_eq,
    or_assoc]

/-- The types are words. -/
theorem name_of_isType {type : List Char} (h : IsType type) : Name type := by
  rcases h with ⟨name, hmem, rfl⟩ | ⟨stem, hmem, more, hmore, rfl⟩
  · have hall : Dialect.returnTypes.all
        (fun name => !name.toList.isEmpty && name.toList.all isWord) = true := by decide
    have hname := List.all_eq_true.mp hall name hmem
    rw [Bool.and_eq_true, Bool.not_eq_true', List.isEmpty_eq_false_iff, List.all_eq_true] at hname
    exact hname
  · have hall : Dialect.samplerStems.all
        (fun stem => !stem.toList.isEmpty && stem.toList.all isWord) = true := by decide
    have hstem := List.all_eq_true.mp hall stem hmem
    rw [Bool.and_eq_true, Bool.not_eq_true', List.isEmpty_eq_false_iff, List.all_eq_true] at hstem
    refine ⟨List.append_ne_nil_of_left_ne_nil hstem.1 more, fun c hc => ?_⟩
    exact (List.mem_append.mp hc).elim (hstem.2 c) (hmore c)

theorem isReturnType_iff {type : List Char} (hword : ∀ c ∈ type, isWord c = true) :
    isReturnType type = true ↔ IsType type := by
  rw [isReturnType, IsType, Bool.or_eq_true, List.any_eq_true, List.any_eq_true]
  simp only [beq_iff_eq, isSome_after?_iff]
  refine or_congr ⟨?_, ?_⟩ ⟨?_, ?_⟩
  · rintro ⟨name, hmem, h⟩
    exact ⟨name, hmem, h.symm⟩
  · rintro ⟨name, hmem, h⟩
    exact ⟨name, hmem, h.symm⟩
  · rintro ⟨stem, hmem, more, rfl⟩
    exact ⟨stem, hmem, more, fun c hc => hword c (List.mem_append_right _ hc), rfl⟩
  · rintro ⟨stem, hmem, more, -, h⟩
    exact ⟨stem, hmem, more, h⟩

theorem functionHeader_iff (cs : List Char) : functionHeader cs = true ↔ IsFunctionHeader cs := by
  have hread : functionHeader cs = true ↔ ∃ type rest name, word? cs = some (type, rest)
      ∧ isReturnType type = true ∧ named? '(' rest = some name := by
    unfold functionHeader
    cases word? cs with
    | none => simp
    | some found =>
      obtain ⟨type, rest⟩ := found
      simp [Option.isSome_iff_exists]
  rw [hread, IsFunctionHeader]
  constructor
  · rintro ⟨type, rest, name, hword, htype, hname⟩
    obtain ⟨-, hw, hcs, -⟩ := word?_eq_some_iff.mp hword
    refine ⟨type, (isReturnType_iff hw).mp htype, ?_⟩
    exact (named_after_iff (by decide) (by decide)).mpr ⟨rest, name, hcs, hname⟩
  · rintro ⟨type, htype, hnamed⟩
    obtain ⟨rest, name, hcs, hname⟩ := (named_after_iff (by decide) (by decide)).mp hnamed
    obtain ⟨hne, hw⟩ := name_of_isType htype
    -- the type ends where the gap before the name begins
    have hend : ∀ c ∈ rest.head?, isWord c = false := by
      obtain ⟨gap, _, _, hgap, hblanks, _, _, _, rfl⟩ :=
        (named?_eq_some_iff (by decide) (by decide)).mp hname
      rcases gap with _ | ⟨b, gap⟩
      · contradiction
      · intro c hc
        rw [List.cons_append, List.head?_cons, Option.mem_some_iff] at hc
        rw [← hc]
        exact isWord_of_isBlank (hblanks b List.mem_cons_self)
    exact ⟨type, rest, name, word?_eq_some_iff.mpr ⟨hne, hw, hcs, hend⟩,
      (isReturnType_iff hw).mpr htype, hname⟩

/-! ## Shapes told by the end, or by the whole line -/

theorem blockDelimiter_iff (cs : List Char) : blockDelimiter cs = true ↔ IsBlockDelimiter cs := by
  have hends : blockDelimiter cs = true ↔ ∃ e ∈ blockEndings, e.toList <:+ cs := by
    rw [blockDelimiter, List.any_eq_true]
    simp only [endsWith_iff]
  rw [hends, blockEndings, IsBlockDelimiter]
  simp only [List.exists_mem_cons_iff, List.not_mem_nil, false_and, exists_false, or_false]
  exact Iff.rfl

theorem loneBrace_iff (cs : List Char) : loneBrace cs = true ↔ IsLoneBrace cs := by
  constructor
  · intro h
    rw [loneBrace] at h
    split at h
    · contradiction
    · next brace after htrim =>
      rw [Bool.and_eq_true, Bool.or_eq_true, beq_iff_eq, beq_iff_eq, List.all_eq_true] at h
      refine ⟨cs.takeWhile isBlank, brace, after, fun c hc => List.mem_takeWhile_imp hc, h.1, h.2, ?_⟩
      rw [← htrim, trimStart, List.takeWhile_append_dropWhile]
  · rintro ⟨before, brace, after, hbefore, hbrace, hafter, rfl⟩
    have hblank : isBlank brace = false := by
      rcases hbrace with rfl | rfl <;> decide
    have htrim : trimStart (before ++ brace :: after) = brace :: after := by
      rw [trimStart_blanks_append hbefore, trimStart, List.dropWhile_cons_of_neg (by simp [hblank])]
    rw [loneBrace, htrim]
    simp only [Bool.and_eq_true, Bool.or_eq_true, beq_iff_eq, List.all_eq_true]
    exact ⟨hbrace, hafter⟩

/-! ## Shapes told by something inside -/

/-- The last two characters of a text. -/
theorem pair_suffix_iff {a b : Char} {cs : List Char} :
    [a, b] <:+ cs ↔ cs.dropLast.getLast? = some a ∧ cs.getLast? = some b := by
  rcases List.eq_nil_or_concat' cs with rfl | ⟨front, d, rfl⟩
  · simp
  · rw [List.dropLast_concat, List.getLast?_concat, Option.some.injEq]
    constructor
    · rintro ⟨more, h⟩
      have hcut : (more ++ [a]) ++ [b] = front ++ [d] := by
        rw [← h, List.append_assoc]
        rfl
      obtain ⟨hfront, hlast⟩ := List.append_inj' hcut rfl
      rw [← hfront, List.getLast?_concat]
      exact ⟨rfl, (List.cons.inj hlast).1.symm⟩
    · rintro ⟨hfront, rfl⟩
      obtain ⟨more, rfl⟩ := List.getLast?_eq_some_iff.mp hfront
      exact ⟨more, by rw [List.append_assoc]; rfl⟩

/-- The test asks for the two characters before and for the one after. -/
theorem assigns_iff (before after : List Char) :
    assigns before.dropLast.getLast? before.getLast? after.head? = true ↔ Assigns before after := by
  rw [Assigns, pair_suffix_iff, pair_suffix_iff]
  simp only [assigns, Bool.or_eq_true, Bool.and_eq_true, beq_iff_eq, Bool.not_eq_true',
    Bool.or_eq_false_iff, beq_eq_false_iff_ne, bne_iff_ne, or_assoc, and_assoc]
  refine or_congr Iff.rfl (or_congr Iff.rfl ?_)
  cases before.getLast? with
  | none => simp
  | some c => simp [and_assoc]

/-- **The search for an assignment.** The text is cut in two, and the search goes through the second
part with the last two characters of the first. -/
theorem assignmentFrom_iff (front cs : List Char) :
    assignmentFrom front.dropLast.getLast? front.getLast? cs = true ↔
      ∃ before after, cs = before ++ '=' :: after ∧ Assigns (front ++ before) after := by
  induction cs generalizing front with
  | nil => simp [assignmentFrom]
  | cons c cs ih =>
    have hstep := ih (front ++ [c])
    rw [List.dropLast_concat, List.getLast?_concat] at hstep
    rw [assignmentFrom]
    by_cases hhere : c = '=' ∧ Assigns front cs
    · have htest : (c = '=' && assigns front.dropLast.getLast? front.getLast? cs.head?) = true := by
        rw [Bool.and_eq_true, decide_eq_true_eq, assigns_iff]
        exact hhere
      rw [if_pos htest]
      refine ⟨fun _ => ⟨[], cs, by rw [hhere.1]; rfl, ?_⟩, fun _ => rfl⟩
      rw [List.append_nil]
      exact hhere.2
    · have htest : ¬ (c = '=' && assigns front.dropLast.getLast? front.getLast? cs.head?) = true := by
        rw [Bool.and_eq_true, decide_eq_true_eq, assigns_iff]
        exact hhere
      rw [if_neg htest, hstep]
      constructor
      · rintro ⟨before, after, rfl, h⟩
        rw [← List.append_cons] at h
        exact ⟨c :: before, after, rfl, h⟩
      · rintro ⟨before, after, hcs, h⟩
        rcases before with _ | ⟨b, before⟩
        · -- nothing is passed over, and this place was found to be none
          rw [List.append_nil] at h
          rw [List.nil_append, List.cons.injEq] at hcs
          rw [← hcs.2] at h
          exact absurd ⟨hcs.1, h⟩ hhere
        · rw [List.cons_append, List.cons.injEq] at hcs
          rw [← hcs.1, List.append_cons] at h
          exact ⟨before, after, hcs.2, h⟩

theorem assignment_iff (cs : List Char) : assignment cs = true ↔ IsAssignment cs :=
  assignmentFrom_iff [] cs

/-- The search for a word, with the text cut in the same way. -/
theorem wordFrom_iff {word : List Char} (hne : word ≠ []) (front cs : List Char) :
    wordFrom word front.getLast? cs = true ↔
      ∃ before after, cs = before ++ (word ++ after) ∧ Apart (front ++ before) after := by
  have happart : ∀ front after : List Char,
      (!front.getLast?.any isWord && !after.head?.any isWord) = true ↔ Apart front after := by
    intro front after
    rw [Apart]
    cases front.getLast? <;> cases after.head? <;> simp
  induction cs generalizing front with
  | nil =>
    constructor
    · intro h
      contradiction
    · rintro ⟨before, after, h, -⟩
      exact absurd (List.append_eq_nil_iff.mp (List.append_eq_nil_iff.mp h.symm).2).1 hne
  | cons c cs ih =>
    have hstep := ih (front ++ [c])
    rw [List.getLast?_concat] at hstep
    by_cases hhere : ∃ after, c :: cs = word ++ after ∧ Apart front after
    · obtain ⟨after, hcs, hapart⟩ := hhere
      have hfound : wordFrom word front.getLast? (c :: cs) = true := by
        rw [wordFrom, after?_eq_some_iff.mpr hcs]
        exact if_pos ((happart front after).mpr hapart)
      rw [hfound]
      refine ⟨fun _ => ⟨[], after, hcs, ?_⟩, fun _ => rfl⟩
      rw [List.append_nil]
      exact hapart
    · have hnext : wordFrom word front.getLast? (c :: cs) = wordFrom word (some c) cs := by
        rw [wordFrom]
        cases hread : after? word (c :: cs) with
        | none => rfl
        | some after =>
          refine if_neg fun h => hhere ⟨after, after?_eq_some_iff.mp hread, ?_⟩
          exact (happart front after).mp h
      rw [hnext]
      refine hstep.trans ⟨?_, ?_⟩
      · rintro ⟨before, after, rfl, h⟩
        rw [← List.append_cons] at h
        exact ⟨c :: before, after, rfl, h⟩
      · rintro ⟨before, after, hcs, h⟩
        rcases before with _ | ⟨b, before⟩
        · rw [List.append_nil] at h
          exact absurd ⟨after, hcs, h⟩ hhere
        · rw [List.cons_append, List.cons.injEq] at hcs
          rw [← hcs.1, List.append_cons] at h
          exact ⟨before, after, hcs.2, h⟩

theorem returnStatement_iff (cs : List Char) : returnStatement cs = true ↔ IsReturn cs :=
  wordFrom_iff (by decide) [] cs

/-! ## Calls

What the search for a call keeps of the text that it has gone through is whether the text ends in a
word, blanks aside, and whether a call is open at its end. -/

theorem endsInWord_concat {cs : List Char} {c : Char} :
    EndsInWord (cs ++ [c]) ↔ isWord c = true ∨ isBlank c = true ∧ EndsInWord cs := by
  constructor
  · rintro ⟨before, w, gap, hw, hgap, h⟩
    rcases List.eq_nil_or_concat' gap with rfl | ⟨gap, b, rfl⟩
    · left
      have hlast := (List.append_inj' h rfl).2
      rw [List.cons.inj hlast |>.1]
      exact hw
    · right
      rw [← List.cons_append, ← List.append_assoc] at h
      obtain ⟨hcs, hlast⟩ := List.append_inj' h rfl
      rw [(List.cons.inj hlast).1]
      refine ⟨hgap b (by simp), before, w, gap, hw, fun a ha => hgap a (by simp [ha]), hcs⟩
  · rintro (hc | ⟨hc, before, w, gap, hw, hgap, rfl⟩)
    · exact ⟨cs, c, [], hc, List.forall_mem_nil _, rfl⟩
    · refine ⟨before, w, gap ++ [c], hw, ?_, by simp⟩
      intro a ha
      rcases List.mem_append.mp ha with ha | ha
      · exact hgap a ha
      · rw [List.mem_singleton.mp ha]
        exact hc

theorem opensCall_concat {cs : List Char} {c : Char} :
    OpensCall (cs ++ [c]) ↔ c ≠ '\n' ∧ (OpensCall cs ∨ c = '(' ∧ EndsInWord cs) := by
  constructor
  · rintro ⟨front, inside, hfront, hinside, h⟩
    rcases List.eq_nil_or_concat' inside with rfl | ⟨inside, b, rfl⟩
    · obtain ⟨hcs, hlast⟩ := List.append_inj' h rfl
      rw [(List.cons.inj hlast).1, hcs]
      exact ⟨by decide, .inr ⟨rfl, hfront⟩⟩
    · rw [← List.cons_append, ← List.append_assoc] at h
      obtain ⟨hcs, hlast⟩ := List.append_inj' h rfl
      rw [(List.cons.inj hlast).1]
      refine ⟨fun hb => hinside (by simp [hb]), .inl ⟨front, inside, hfront, ?_, hcs⟩⟩
      exact fun hmem => hinside (List.mem_append_left _ hmem)
  · rintro ⟨hc, ⟨front, inside, hfront, hinside, rfl⟩ | ⟨rfl, hword⟩⟩
    · refine ⟨front, inside ++ [c], hfront, ?_, by simp⟩
      intro hmem
      rcases List.mem_append.mp hmem with hmem | hmem
      · exact hinside hmem
      · exact hc (List.mem_singleton.mp hmem).symm
    · exact ⟨cs, [], hword, List.not_mem_nil, rfl⟩

/-- **The search for a call.** The induction is on the text from its end, where the next character
comes to stand. -/
theorem foldl_feed_iff (cs : List Char) :
    ((cs.foldl CallSearch.feed ⟨none, false⟩).last.any isWord = true ↔ EndsInWord cs)
      ∧ ((cs.foldl CallSearch.feed ⟨none, false⟩).opened = true ↔ OpensCall cs) := by
  induction cs using List.reverseRecOn with
  | nil =>
    constructor
    · simp [EndsInWord]
    · simp [OpensCall]
  | append_singleton cs c ih =>
    obtain ⟨hlast, hopened⟩ := ih
    rw [List.foldl_append, List.foldl_cons, List.foldl_nil, endsInWord_concat, opensCall_concat,
      ← hlast, ← hopened]
    simp only [CallSearch.feed]
    constructor
    · by_cases hc : isBlank c = true
      · -- a blank is no word character, so what counts is what stands before it
        rw [if_pos hc, isWord_of_isBlank hc]
        simp [hc]
      · rw [if_neg hc, Option.any_some]
        simp [hc]
    · simp only [Bool.and_eq_true, Bool.or_eq_true, bne_iff_ne, beq_iff_eq]

theorem callStatement_iff (cs : List Char) : callStatement cs = true ↔ IsCall cs := by
  constructor
  · intro h
    rw [callStatement] at h
    split at h
    · contradiction
    · next c rest hdrop =>
      rw [Bool.and_eq_true, beq_iff_eq, (foldl_feed_iff _).2] at h
      refine ⟨rest.reverse, (cs.reverse.takeWhile isBlank).reverse, h.2, ?_, ?_⟩
      · intro b hb
        exact List.mem_takeWhile_imp (List.mem_reverse.mp hb)
      · -- the text is what is dropped from its end and what is left of it
        have hcut := @List.takeWhile_append_dropWhile _ isBlank cs.reverse
        rw [hdrop, h.1] at hcut
        calc cs = (cs.reverse.takeWhile isBlank ++ ')' :: rest).reverse := by
              rw [hcut, List.reverse_reverse]
          _ = rest.reverse ++ ')' :: (cs.reverse.takeWhile isBlank).reverse := by
              rw [List.reverse_append, List.reverse_cons, List.append_assoc]
              rfl
  · rintro ⟨call, pad, hcall, hpad, rfl⟩
    have hblanks : ∀ b ∈ pad.reverse, isBlank b = true := by
      intro b hb
      exact hpad b (List.mem_reverse.mp hb)
    have hdrop : (call ++ ')' :: pad).reverse.dropWhile isBlank = ')' :: call.reverse := by
      rw [List.reverse_append, List.reverse_cons, List.append_assoc,
        List.dropWhile_append_of_pos hblanks]
      rfl
    rw [callStatement, hdrop]
    simp only [Bool.and_eq_true, beq_self_eq_true, true_and, List.reverse_reverse,
      (foldl_feed_iff call).2]
    exact hcall

/-! ## Trimmed texts

The blanks that a language allows at the end of a text, or around it, are gone from a trimmed one. -/

/-- Trimmed, a lone brace is the brace alone. -/
theorem IsLoneBrace.trim_eq {cs : List Char} (h : IsLoneBrace cs) :
    trim cs = ['{'] ∨ trim cs = ['}'] := by
  obtain ⟨before, brace, after, hbefore, hbrace, hafter, rfl⟩ := h
  rw [trim_blanks_append hbefore, ← List.singleton_append, trim_append_blanks hafter]
  rcases hbrace with rfl | rfl
  · exact .inl (by decide)
  · exact .inr (by decide)

/-- Trimmed, a call ends with its closing parenthesis. -/
theorem IsCall.suffix_trim {cs : List Char} (h : IsCall cs) : [')'] <:+ trim cs := by
  obtain ⟨call, pad, -, hpad, rfl⟩ := h
  rw [List.append_cons, trim_append_blanks hpad]
  exact suffix_trim_concat (by decide) call

end Shape

namespace Rule

/-! ## The rule that decides -/

/-- **A rule accepts its language.** -/
theorem accepts_iff (r : Rule) (cs : List Char) : r.accepts cs = true ↔ r.Language cs := by
  cases r with
  | directive => exact Shape.directive_iff cs
  | blockDelimiter => exact Shape.blockDelimiter_iff cs
  | loneBrace => exact Shape.loneBrace_iff cs
  | controlFlow => exact Shape.controlFlow_iff cs
  | structOpener => exact Shape.structOpener_iff cs
  | functionHeader => exact Shape.functionHeader_iff cs
  | assignment => exact Shape.assignment_iff cs
  | returnStatement => exact Shape.returnStatement_iff cs
  | callStatement => exact Shape.callStatement_iff cs
  | unclassified => exact ⟨fun _ => trivial, fun _ => rfl⟩

/-- The rules that stand before one in the table. -/
def earlier (r : Rule) : List Rule := table.takeWhile (· != r)

theorem exists_table_eq (r : Rule) : ∃ later, table = r.earlier ++ r :: later := by
  cases r <;> exact ⟨_, rfl⟩

/-- **The first rule.** The rule that decides a text is the one whose language the text is in, while
it is in that of none before. -/
theorem deciding_eq_iff {cs : List Char} {r : Rule} :
    deciding cs = r ↔ r.Language cs ∧ ∀ q ∈ r.earlier, ¬ q.Language cs := by
  have hsome : table.find? (·.accepts cs) = some (deciding cs) := by
    cases h : table.find? (·.accepts cs) with
    | none => exact absurd rfl (List.find?_eq_none.mp h .unclassified (mem_table _))
    | some r => rw [deciding, h, Option.getD_some]
  have hfirst : deciding cs = r ↔ table.find? (·.accepts cs) = some r := by
    rw [hsome, Option.some.injEq]
  rw [hfirst, List.find?_eq_some_iff_append]
  simp only [accepts_iff, Bool.not_eq_true', ← Bool.not_eq_true]
  constructor
  · rintro ⟨hr, before, after, htable, hbefore⟩
    have hne : ∀ q ∈ before, (q != r) = true := by
      intro q hq
      rw [bne_iff_ne]
      rintro rfl
      exact hbefore q hq hr
    have hearlier : r.earlier = before := by
      rw [earlier, htable, List.takeWhile_append_of_pos hne, List.takeWhile_cons_of_neg (by simp),
        List.append_nil]
    rw [hearlier]
    exact ⟨hr, hbefore⟩
  · rintro ⟨hr, hearlier⟩
    obtain ⟨later, htable⟩ := exists_table_eq r
    exact ⟨hr, r.earlier, later, htable, hearlier⟩

/-- Gaps may hold line feeds, and one may follow `else`. -/
example : deciding "else\n".toList = .controlFlow
    ∧ deciding "isampler2D\n f\r(".toList = .functionHeader := by decide

/-- **Which rule decides a text.** The table has these rows, a row accepts the texts of its language
and no others, and the row that decides a text is the first whose language the text is in. -/
theorem deciding_first_language :
    table.map (fun r : Rule => (r.name, r.requiresSemicolon))
      = [("directive", false), ("block_delimiter", false), ("lone_brace", false),
         ("control_flow", false), ("struct_opener", false), ("function_header", false),
         ("assignment", true), ("return_statement", true), ("call_statement", true),
         ("unclassified", false)]
    ∧ ∀ text : List Char, (∀ r : Rule, r.accepts text = true ↔ r.Language text)
      ∧ ∃ before after, table = before ++ deciding text :: after
          ∧ (deciding text).Language text ∧ ∀ r ∈ before, ¬ r.Language text := by
  refine ⟨rfl, fun text => ⟨fun r => accepts_iff r text, ?_⟩⟩
  obtain ⟨hlanguage, hearlier⟩ := deciding_eq_iff.mp (rfl : deciding text = deciding text)
  obtain ⟨later, htable⟩ := exists_table_eq (deciding text)
  exact ⟨_, later, htable, hlanguage, hearlier⟩

/-! ## Which texts need a semicolon -/

/-- A text in the language of one of the rules before the three that ask for a semicolon. -/
def Exempt (cs : List Char) : Prop := ∃ r ∈ earlier .assignment, r.Language cs

theorem deciding_eq_assignment_iff {cs : List Char} :
    deciding cs = .assignment ↔ ¬ Exempt cs ∧ Shape.IsAssignment cs := by
  rw [deciding_eq_iff, Exempt, and_comm]
  refine and_congr ?_ Iff.rfl
  push Not
  exact Iff.rfl

/-- **Needing a semicolon.** No rule exempts the text, and it holds an assignment, the word `return`
or a call. -/
theorem requiresSemicolon_deciding_iff {cs : List Char} :
    (deciding cs).requiresSemicolon = true ↔
      ¬ Exempt cs ∧ (Shape.IsAssignment cs ∨ Shape.IsReturn cs ∨ Shape.IsCall cs) := by
  obtain ⟨hlanguage, hearlier⟩ := deciding_eq_iff.mp (rfl : deciding cs = deciding cs)
  generalize deciding cs = r at hlanguage hearlier
  constructor
  · intro h
    -- the rows that ask for a semicolon stand after all that exempt from it
    have hafter : ∀ q ∈ earlier .assignment, q ∈ r.earlier := by
      cases r with
      | assignment | returnStatement | callStatement => decide
      | _ => contradiction
    refine ⟨fun ⟨q, hq, hlanguage⟩ => hearlier q (hafter q hq) hlanguage, ?_⟩
    cases r with
    | assignment => exact .inl hlanguage
    | returnStatement => exact .inr (.inl hlanguage)
    | callStatement => exact .inr (.inr hlanguage)
    | _ => contradiction
  · rintro ⟨hexempt, hshape⟩
    cases r with
    | assignment | returnStatement | callStatement => rfl
    | unclassified =>
      rcases hshape with h | h | h
      · exact absurd h (hearlier .assignment (by decide))
      · exact absurd h (hearlier .returnStatement (by decide))
      · exact absurd h (hearlier .callStatement (by decide))
    | _ => exact absurd ⟨_, by decide, hlanguage⟩ hexempt

end Rule

end ShaderLint
