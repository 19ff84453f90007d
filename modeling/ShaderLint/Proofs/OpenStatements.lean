/-
Statements that are never missed.

Three shapes of code need a semicolon: a value assigned to a target, a `return`, and a call. Six rules
exempt from needing one and are asked first, so what has to be shown is that none of them takes a
statement for something else. The text is one that a line of code can have, whose last character
leaves it open (`LeftOpen`). That alone keeps it from the rules for the end of a block and for a lone
brace, and a directive it is taken not to be.

The other three look at the beginning, and there each statement is told from what they look for by a
different thing. Up to the mark that they look for, an opening is made of words and blanks, so no
operator stands before its parenthesis or brace (`exists_plain_opening`). And an opening has a first
word, which is either a word for a control structure or not followed by a parenthesis
(`exists_first_word`): `return` is no such word, and the name of a call is followed by one.
-/
import ShaderLint.Proofs.DefaultChain
import ShaderLint.Proofs.Languages

set_option autoImplicit false

namespace ShaderLint

open Text

/-! ## Cutting a text where a run ends -/

namespace Text

/-- A text is cut after its first run in one way only. -/
theorem run_unique {p : Char → Bool} {run run' rest rest' : List Char}
    (hrun : ∀ c ∈ run, p c = true) (hrest : ∀ c ∈ rest.head?, p c = false)
    (hrun' : ∀ c ∈ run', p c = true) (hrest' : ∀ c ∈ rest'.head?, p c = false)
    (h : run ++ rest = run' ++ rest') : run = run' ∧ rest = rest' := by
  constructor
  · rw [← takeWhile_run hrun hrest, h, takeWhile_run hrun' hrest']
  · rw [← dropWhile_run hrun hrest, h, dropWhile_run hrun' hrest']

/-- What stands before a mark, if it does not hold the mark, is no longer than what stands before the
first one. -/
theorem prefix_of_not_mem {front back opening rest : List Char} {mark : Char} (hmark : mark ∉ front)
    (h : front ++ back = opening ++ mark :: rest) : front <+: opening := by
  rcases List.append_eq_append_iff.mp h with ⟨more, hopening, -⟩ | ⟨more, hfront, hrest⟩
  · exact ⟨more, hopening.symm⟩
  · rcases more with _ | ⟨c, more⟩
    · rw [hfront, List.append_nil]
    · rw [List.cons_append, List.cons.injEq] at hrest
      rw [hfront, hrest.1] at hmark
      exact absurd (List.mem_append_right _ List.mem_cons_self) hmark

/-- A text has one last character. -/
theorem eq_of_suffix {a b : Char} {cs : List Char} (ha : [a] <:+ cs) (hb : [b] <:+ cs) : a = b := by
  rw [List.singleton_suffix_iff_getLast?_eq_some] at ha hb
  rw [ha, Option.some.injEq] at hb
  exact hb

/-- Words and blanks. -/
def Plain (cs : List Char) : Prop := ∀ c ∈ cs, isWord c = true ∨ isBlank c = true

theorem Blanks.plain {cs : List Char} (h : Blanks cs) : Plain cs := fun c hc => .inr (h c hc)

theorem Name.plain {cs : List Char} (h : Name cs) : Plain cs := fun c hc => .inl (h.2 c hc)

theorem Plain.append {xs ys : List Char} (hx : Plain xs) (hy : Plain ys) : Plain (xs ++ ys) := by
  intro c hc
  exact (List.mem_append.mp hc).elim (hx c) (hy c)

theorem Plain.not_mem_equals {cs : List Char} (h : Plain cs) : '=' ∉ cs := by
  intro hmem
  rcases h '=' hmem with h | h <;> exact absurd h (by decide)

end Text

namespace Shape

/-! ## Openings -/

/-- The texts that are exempt for how they begin, directives aside. -/
def IsOpening (cs : List Char) : Prop := IsControlFlow cs ∨ IsStructOpener cs ∨ IsFunctionHeader cs

/-- The words of the dialect are words. -/
theorem name_of_mem {cs : List Char}
    (h : cs ∈ ["if", "for", "while", "do", "switch", "else", "struct"].map String.toList) :
    Name cs := by
  have hall : (["if", "for", "while", "do", "switch", "else", "struct"].map String.toList).all
      (fun word => !word.isEmpty && word.all isWord) = true := by decide
  have hword := List.all_eq_true.mp hall cs h
  rw [Bool.and_eq_true, Bool.not_eq_true', List.isEmpty_eq_false_iff, List.all_eq_true] at hword
  exact hword

theorem plain_of_namedAfter {lead cs : List Char} {mark : Char} (hlead : Name lead)
    (h : NamedAfter lead mark cs) : ∃ opening rest, Plain opening ∧ cs = opening ++ mark :: rest := by
  obtain ⟨gap, name, pad, rest, hgap, hname, hpad, rfl⟩ := h
  refine ⟨lead ++ (gap ++ (name ++ pad)), rest, ?_, by simp only [List.append_assoc]⟩
  exact hlead.plain.append (hgap.2.plain.append (hname.plain.append hpad.plain))

/-- **Up to its mark an opening is made of words and blanks.** -/
theorem exists_plain_opening {cs : List Char} (h : IsOpening cs) :
    Plain cs ∨ ∃ opening mark rest, Plain opening ∧ (mark = '(' ∨ mark = '{')
      ∧ cs = opening ++ mark :: rest := by
  have helse : Name "else".toList := name_of_mem (by decide)
  rcases h with (⟨lead, pad, rest, hlead, hpad, rfl⟩ | rfl | rfl) | h | ⟨type, htype, h⟩
  · right
    have hplain : Plain lead := by
      rcases hlead with ⟨keyword, hmem, rfl⟩ | ⟨gap, hgap, rfl⟩
      · refine (name_of_mem ?_).plain
        exact List.mem_map_of_mem (List.mem_append_left ["else", "struct"] hmem)
      · exact helse.plain.append (hgap.2.plain.append (name_of_mem (by decide)).plain)
    exact ⟨lead ++ pad, '(', rest, hplain.append hpad.plain, .inl rfl, (List.append_assoc ..).symm⟩
  · exact .inl helse.plain
  · have hfeed : Blanks ['\n'] := List.forall_mem_singleton.mpr rfl
    exact .inl (helse.plain.append hfeed.plain)
  · obtain ⟨opening, rest, hplain, hcs⟩ := plain_of_namedAfter (name_of_mem (by decide)) h
    exact .inr ⟨opening, '{', rest, hplain, .inr rfl, hcs⟩
  · obtain ⟨opening, rest, hplain, hcs⟩ := plain_of_namedAfter (name_of_isType htype) h
    exact .inr ⟨opening, '(', rest, hplain, .inl rfl, hcs⟩

/-- After a gap comes what is no blank, and if that is not the mark, the mark is not what opens. -/
theorem not_opensWith {mark c : Char} {gap : List Char} (hgap : Blanks gap) (hc : isBlank c = false)
    (hne : c ≠ mark) (rest : List Char) : opensWith mark (gap ++ c :: rest) = false := by
  rw [opensWith, trimStart_blanks_append hgap, trimStart, List.dropWhile_cons_of_neg (by simp [hc])]
  simp [hne]

/-- The words with which an opening may begin, and which no parenthesis may follow. -/
def IsOpener (word : List Char) : Prop :=
  word = "else".toList ∨ word = "struct".toList ∨ IsType word

/-- The first word of a text is cut off where a blank or the mark follows it. -/
theorem isWord_head?_append {gap : List Char} (hgap : Blanks gap) {c : Char} {rest : List Char}
    (hc : gap = [] → isWord c = false) : ∀ b ∈ (gap ++ c :: rest).head?, isWord b = false := by
  intro b hb
  rcases gap with _ | ⟨a, gap⟩
  · rw [List.nil_append, List.head?_cons, Option.mem_some_iff] at hb
    rw [← hb]
    exact hc rfl
  · rw [List.cons_append, List.head?_cons, Option.mem_some_iff] at hb
    rw [← hb]
    exact isWord_of_isBlank (hgap a List.mem_cons_self)

/-- **The first word of an opening.** It is a word for a control structure, or no parenthesis follows
it, blanks aside. -/
theorem exists_first_word {cs : List Char} (h : IsOpening cs) :
    ∃ word rest, cs = word ++ rest ∧ Name word ∧ (∀ c ∈ rest.head?, isWord c = false)
      ∧ ((∃ keyword ∈ ["if", "for", "while", "do", "switch"], word = keyword.toList)
        ∨ IsOpener word ∧ opensWith '(' rest = false) := by
  have helse : Name "else".toList := name_of_mem (by decide)
  -- the name after a struct or a type is what comes next, and it begins with a word character
  have hnamed : ∀ {lead : List Char} {mark : Char}, Name lead → IsOpener lead →
      NamedAfter lead mark cs →
      ∃ word rest, cs = word ++ rest ∧ Name word ∧ (∀ c ∈ rest.head?, isWord c = false)
        ∧ IsOpener word ∧ opensWith '(' rest = false := by
    rintro lead mark hlead hopener ⟨gap, name, pad, rest, ⟨hne, hgap⟩, ⟨hnne, hname⟩, -, rfl⟩
    obtain ⟨c, name, rfl⟩ := List.exists_cons_of_ne_nil hnne
    have hc : isWord c = true := hname c List.mem_cons_self
    refine ⟨lead, _, rfl, hlead, isWord_head?_append hgap fun h => absurd h hne, hopener, ?_⟩
    refine not_opensWith hgap (isBlank_of_isWord hc) ?_ _
    rintro rfl
    exact absurd hc (by decide)
  rcases h with (⟨lead, pad, rest, hlead, hpad, rfl⟩ | rfl | rfl) | h | ⟨type, htype, h⟩
  · rcases hlead with ⟨keyword, hmem, rfl⟩ | ⟨gap, ⟨hne, hgap⟩, rfl⟩
    · have hname : Name keyword.toList :=
        name_of_mem (List.mem_map_of_mem (List.mem_append_left ["else", "struct"] hmem))
      exact ⟨_, _, rfl, hname, isWord_head?_append hpad fun _ => by decide, .inl ⟨keyword, hmem, rfl⟩⟩
    · have hcs : "else".toList ++ (gap ++ "if".toList) ++ (pad ++ '(' :: rest)
          = "else".toList ++ (gap ++ 'i' :: ('f' :: (pad ++ '(' :: rest))) := by
        simp only [List.append_assoc]
        rfl
      refine ⟨_, _, hcs, helse, isWord_head?_append hgap fun h => absurd h hne, .inr ⟨.inl rfl, ?_⟩⟩
      exact not_opensWith hgap (by decide) (by decide) _
  · exact ⟨_, [], (List.append_nil _).symm, helse, by simp, .inr ⟨.inl rfl, rfl⟩⟩
  · have hfeed : ∀ c ∈ ['\n'].head?, isWord c = false :=
      isWord_head?_append (List.forall_mem_nil _) fun _ => by decide
    exact ⟨"else".toList, ['\n'], rfl, helse, hfeed, .inr ⟨.inl rfl, rfl⟩⟩
  · obtain ⟨word, rest, hcs, hname, hrest, hword⟩ :=
      hnamed (name_of_mem (by decide)) (.inr (.inl rfl)) h
    exact ⟨word, rest, hcs, hname, hrest, .inr hword⟩
  · obtain ⟨word, rest, hcs, hname, hrest, hword⟩ :=
      hnamed (name_of_isType htype) (.inr (.inr htype)) h
    exact ⟨word, rest, hcs, hname, hrest, .inr hword⟩

/-! ## Texts that are left open -/

/-- A text that a line of code can have, whose last character neither ends a statement nor opens, closes
or continues a block or a list. -/
structure LeftOpen (t : List Char) : Prop where
  trimmed : trim t = t
  last : ∃ c, t.getLast? = some c ∧ c ≠ '{' ∧ c ≠ '}' ∧ c ≠ ',' ∧ c ≠ ';'

namespace LeftOpen

variable {t : List Char} (h : LeftOpen t)

include h

theorem ne_nil : t ≠ [] := by
  obtain ⟨c, hc, -⟩ := h.last
  rintro rfl
  contradiction

/-- The text ends in none of the four characters. -/
theorem not_suffix {c : Char} (hc : c = '{' ∨ c = '}' ∨ c = ',' ∨ c = ';') : ¬ [c] <:+ t := by
  intro hends
  obtain ⟨d, hd, hopen, hclose, hcomma, hsemicolon⟩ := h.last
  have hdc : d = c := eq_of_suffix (List.singleton_suffix_iff_getLast?_eq_some.mpr hd) hends
  rcases hc with rfl | rfl | rfl | rfl
  · exact hopen hdc
  · exact hclose hdc
  · exact hcomma hdc
  · exact hsemicolon hdc

theorem not_blockDelimiter : ¬ IsBlockDelimiter t := by
  rintro (hends | hends | hends | hends)
  · exact h.not_suffix (by simp) hends
  · exact h.not_suffix (by simp) hends
  · have hlast : [';'] <:+ ['}', ';'] := List.suffix_append ['}'] [';']
    exact h.not_suffix (by simp) (hlast.trans hends)
  · exact h.not_suffix (by simp) hends

theorem not_loneBrace : ¬ IsLoneBrace t := by
  intro hbrace
  have hends := hbrace.trim_eq
  rw [h.trimmed] at hends
  rcases hends with ht | ht
  · exact h.not_suffix (.inl rfl) (by rw [ht])
  · exact h.not_suffix (.inr (.inl rfl)) (by rw [ht])

/-- **Only how it begins could exempt it.** -/
theorem not_exempt (hdirective : ¬ IsDirective t) (hopening : ¬ IsOpening t) : ¬ Rule.Exempt t := by
  rintro ⟨r, hr, hlanguage⟩
  cases r with
  | directive => exact hdirective hlanguage
  | blockDelimiter => exact h.not_blockDelimiter hlanguage
  | loneBrace => exact h.not_loneBrace hlanguage
  | controlFlow => exact hopening (.inl hlanguage)
  | structOpener => exact hopening (.inr (.inl hlanguage))
  | functionHeader => exact hopening (.inr (.inr hlanguage))
  | assignment | returnStatement | callStatement | unclassified => exact absurd hr (by decide)

end LeftOpen

/-! ## The three shapes -/

/-- The operators that assign. -/
def operators : List String :=
  ["=", "+=", "-=", "*=", "/=", "%=", "&=", "|=", "^=", "<<=", ">>="]

/-- A target, an operator that assigns, and a value: the target opens no parenthesis and no brace, and
the operator is not part of a comparison. -/
def AssignsTo (t : List Char) : Prop :=
  ∃ target, ∃ op ∈ operators, ∃ value, t = target ++ (op.toList ++ value)
    ∧ '(' ∉ target ∧ '{' ∉ target ∧ value.head? ≠ some '='
    ∧ (op = "=" → ∀ c ∈ target.getLast?, c ≠ '=' ∧ c ≠ '!' ∧ c ≠ '<' ∧ c ≠ '>')

/-- The word `return`, and anything after it. -/
def Returns (t : List Char) : Prop :=
  ∃ rest, t = "return".toList ++ rest ∧ ∀ c ∈ rest.head?, isWord c = false

/-- The name of a function, which is no word for a control structure, and anything in parentheses. -/
def Calls (t : List Char) : Prop :=
  ∃ name gap args, Name name
    ∧ (∀ keyword ∈ ["if", "for", "while", "do", "switch"], name ≠ keyword.toList)
    ∧ Blanks gap ∧ t = name ++ (gap ++ '(' :: (args ++ [')']))

/-- Besides the plain one and the two shifts an operator is an equals sign after a character that
compares nothing. -/
theorem operator_cases {op : String} (h : op ∈ operators) :
    op = "=" ∨ op = "<<=" ∨ op = ">>="
      ∨ ∃ c, op.toList = [c, '='] ∧ c ≠ '=' ∧ c ≠ '!' ∧ c ≠ '<' ∧ c ≠ '>' := by
  simp only [operators, List.mem_cons, List.not_mem_nil, or_false] at h
  rcases h with rfl | rfl | rfl | rfl | rfl | rfl | rfl | rfl | rfl | rfl | rfl
  · exact .inl rfl
  · exact .inr (.inr (.inr ⟨'+', rfl, by decide⟩))
  · exact .inr (.inr (.inr ⟨'-', rfl, by decide⟩))
  · exact .inr (.inr (.inr ⟨'*', rfl, by decide⟩))
  · exact .inr (.inr (.inr ⟨'/', rfl, by decide⟩))
  · exact .inr (.inr (.inr ⟨'%', rfl, by decide⟩))
  · exact .inr (.inr (.inr ⟨'&', rfl, by decide⟩))
  · exact .inr (.inr (.inr ⟨'|', rfl, by decide⟩))
  · exact .inr (.inr (.inr ⟨'^', rfl, by decide⟩))
  · exact .inr (.inl rfl)
  · exact .inr (.inr (.inl rfl))

theorem isAssignment_of_assignsTo {t : List Char} (h : AssignsTo t) : IsAssignment t := by
  obtain ⟨target, op, hop, value, rfl, -, -, hvalue, hplain⟩ := h
  rcases operator_cases hop with rfl | rfl | rfl | ⟨c, hc, hcompares⟩
  · exact ⟨target, value, rfl, .inr (.inr ⟨hplain rfl, hvalue⟩)⟩
  · refine ⟨target ++ ['<', '<'], value, ?_, .inl (List.suffix_append _ _)⟩
    rw [List.append_assoc]
    rfl
  · refine ⟨target ++ ['>', '>'], value, ?_, .inr (.inl (List.suffix_append _ _))⟩
    rw [List.append_assoc]
    rfl
  · refine ⟨target ++ [c], value, ?_, .inr (.inr ⟨?_, hvalue⟩)⟩
    · rw [hc, List.append_assoc]
      rfl
    · rw [List.getLast?_concat]
      intro d hd
      rw [← Option.mem_some_iff.mp hd]
      exact hcompares

/-- An opening has no equals sign before its parenthesis or brace. -/
theorem not_isOpening_of_assignsTo {t : List Char} (h : AssignsTo t) : ¬ IsOpening t := by
  obtain ⟨target, op, hop, value, ht, hparen, hbrace, -⟩ := h
  intro hopening
  have hcut : t = (target ++ op.toList) ++ value := by rw [ht, List.append_assoc]
  have hoperators : operators.all (fun op =>
      op.toList.contains '=' && !op.toList.contains '(' && !op.toList.contains '{') = true := by
    decide
  have hchars := List.all_eq_true.mp hoperators op hop
  simp only [Bool.and_eq_true, Bool.not_eq_true', List.contains_iff_mem, ← Bool.not_eq_true] at hchars
  obtain ⟨⟨hequals, hparen'⟩, hbrace'⟩ := hchars
  have hequals : '=' ∈ target ++ op.toList := List.mem_append_right _ hequals
  -- what stands up to the equals sign holds neither mark
  have hmark : ∀ mark, mark = '(' ∨ mark = '{' → mark ∉ target ++ op.toList := by
    intro mark hmark hmem
    rcases List.mem_append.mp hmem with hmem | hmem
    · rcases hmark with rfl | rfl
      · exact hparen hmem
      · exact hbrace hmem
    · rcases hmark with rfl | rfl
      · exact hparen' hmem
      · exact hbrace' hmem
  rcases exists_plain_opening hopening with hplain | ⟨opening, mark, rest, hplain, hmem, hcs⟩
  · rw [hcut] at hplain
    exact hplain.not_mem_equals (List.mem_append_left _ hequals)
  · have hfront := prefix_of_not_mem (hmark mark hmem) (hcut.symm.trans hcs)
    exact hplain.not_mem_equals (hfront.subset hequals)

/-- No opening begins with the word `return`. -/
theorem not_isOpening_of_returns {t : List Char} (h : Returns t) : ¬ IsOpening t := by
  obtain ⟨rest, ht, hrest⟩ := h
  intro hopening
  obtain ⟨word, rest', ht', hword, hrest', hfirst⟩ := exists_first_word hopening
  have hreturn : ∀ c ∈ "return".toList, isWord c = true := List.all_eq_true.mp (by decide)
  obtain ⟨rfl, -⟩ := run_unique hword.2 hrest' hreturn hrest (ht'.symm.trans ht)
  have hnot : ¬ IsType "return".toList := by
    rw [← isReturnType_iff hreturn]
    decide
  rcases hfirst with ⟨keyword, hmem, heq⟩ | ⟨(heq | heq | htype), -⟩
  · revert keyword
    decide
  · exact absurd heq (by decide)
  · exact absurd heq (by decide)
  · exact hnot htype

/-- An opening that begins with the name of a call has no parenthesis after it. -/
theorem not_isOpening_of_calls {t : List Char} (h : Calls t) : ¬ IsOpening t := by
  obtain ⟨name, gap, args, hname, hkeyword, hgap, ht⟩ := h
  intro hopening
  obtain ⟨word, rest, ht', hword, hrest, hfirst⟩ := exists_first_word hopening
  have hparen : ∀ c ∈ (gap ++ '(' :: (args ++ [')'])).head?, isWord c = false :=
    isWord_head?_append hgap fun _ => by decide
  obtain ⟨rfl, rfl⟩ := run_unique hword.2 hrest hname.2 hparen (ht'.symm.trans ht)
  rcases hfirst with ⟨keyword, hmem, heq⟩ | ⟨-, hnone⟩
  · exact hkeyword keyword hmem heq
  · have hopens : opensWith '(' (gap ++ '(' :: (args ++ [')'])) = true :=
      (opensWith_iff (by decide)).mpr ⟨gap, _, hgap, rfl⟩
    rw [hopens] at hnone
    contradiction

theorem isReturn_of_returns {t : List Char} (h : Returns t) : IsReturn t := by
  obtain ⟨rest, rfl, hrest⟩ := h
  exact ⟨[], rest, rfl, by simp, hrest⟩

theorem isCall_of_calls {t : List Char} (hline : '\n' ∉ t) (h : Calls t) : IsCall t := by
  obtain ⟨name, gap, args, ⟨hne, hname⟩, -, hgap, rfl⟩ := h
  have hargs : '\n' ∉ args := by
    intro hmem
    refine hline (List.mem_append_right _ (List.mem_append_right _ ?_))
    exact List.mem_cons_of_mem _ (List.mem_append_left _ hmem)
  have hword : EndsInWord (name ++ gap) := by
    obtain ⟨front, w, rfl⟩ := (List.eq_nil_or_concat' name).resolve_left hne
    exact ⟨front, w, gap, hname w (by simp), hgap, by simp⟩
  refine ⟨name ++ gap ++ '(' :: args, [], ⟨name ++ gap, args, hword, hargs, rfl⟩,
    List.forall_mem_nil _, ?_⟩
  simp only [List.append_assoc, List.cons_append]

end Shape

open Shape

/-! ## Statements at their lines -/

/-- What makes a line flagged. -/
theorem Statement.Reads.flagged_iff {n : Nat} {code : List Char} {s : Statement}
    (h : Statement.Reads n code s) :
    Document.Flagged s ↔
      (Rule.deciding (trim code)).requiresSemicolon = true ∧ ¬ [';'] <:+ trim code := by
  rw [Document.Flagged, h.requires, ← h.semicolon, Bool.not_eq_true]

theorem Statement.Reads.line_eq {n : Nat} {code : List Char} {s : Statement}
    (h : Statement.Reads n code s) : s.line = .preceded n :=
  LineNumber.eq_of_val_eq (by rw [h.line]; exact Nat.add_comm 1 n)

/-- **A line of code that needs a semicolon and has none is reported.** -/
theorem mem_errors_of_line {source : String} {n : Nat} {stripped : Comment.Stripped}
    (hline : (Comment.stripAll false (lines source.toList))[n]? = some stripped)
    (hne : trim stripped.text ≠ [])
    (hrequires : (Rule.deciding (trim stripped.text)).requiresSemicolon = true)
    (hends : ¬ [';'] <:+ trim stripped.text) :
    ∃ report, (Chain.default.checkSource source).1 = .ok report
      ∧ { line := .preceded n
          message := "Expected ';' at end of statement."
          code := .missingStatementTerminator } ∈ report.errors := by
  refine ⟨_, Chain.default_checkSource source, ?_⟩
  have hcode : ((Comment.stripAll false (lines source.toList)).map (·.text))[n]?
      = some stripped.text := by
    rw [List.getElem?_map, hline, Option.map_some]
  obtain ⟨s, hs, hreads⟩ := Statement.exists_reads 0 hcode hne
  have hmem : s ∈ (classify source).statements := by
    rw [Statement.classify_statements]
    exact hs
  rw [Nat.zero_add] at hreads
  refine List.mem_append_right _ (List.mem_map.mpr ⟨s, ?_, by rw [hreads.line_eq]⟩)
  rw [List.mem_filter, decide_eq_true_eq]
  exact ⟨hmem, hreads.flagged_iff.mpr ⟨hrequires, hends⟩⟩

/-- **No statement of the three shapes is missed.** Of the texts that are left open and are no
directives, one that assigns is decided as an assignment whatever its value looks like, and one that
assigns, returns or calls needs a semicolon. So a line of a source with that code is reported at its
number. -/
theorem open_statement_reported (t : List Char) (hunbroken : '\n' ∉ t) (h : LeftOpen t)
    (hdirective : ¬ IsDirective t) :
    (AssignsTo t → Rule.deciding t = .assignment)
    ∧ (AssignsTo t ∨ Returns t ∨ Calls t →
        (Rule.deciding t).requiresSemicolon = true
        ∧ ∀ source n stripped, (Comment.stripAll false (lines source.toList))[n]? = some stripped →
            trim stripped.text = t →
            ∃ report, (Chain.default.checkSource source).1 = .ok report
              ∧ { line := .preceded n
                  message := "Expected ';' at end of statement."
                  code := .missingStatementTerminator } ∈ report.errors) := by
  constructor
  · intro hassigns
    rw [Rule.deciding_eq_assignment_iff]
    exact ⟨h.not_exempt hdirective (not_isOpening_of_assignsTo hassigns),
      isAssignment_of_assignsTo hassigns⟩
  · intro hshape
    have hrequires : (Rule.deciding t).requiresSemicolon = true := by
      rw [Rule.requiresSemicolon_deciding_iff]
      rcases hshape with hassigns | hreturns | hcalls
      · exact ⟨h.not_exempt hdirective (not_isOpening_of_assignsTo hassigns),
          .inl (isAssignment_of_assignsTo hassigns)⟩
      · exact ⟨h.not_exempt hdirective (not_isOpening_of_returns hreturns),
          .inr (.inl (isReturn_of_returns hreturns))⟩
      · exact ⟨h.not_exempt hdirective (not_isOpening_of_calls hcalls),
          .inr (.inr (isCall_of_calls hunbroken hcalls))⟩
    refine ⟨hrequires, ?_⟩
    rintro source n stripped hline rfl
    exact mem_errors_of_line hline h.ne_nil hrequires (h.not_suffix (by simp))

/-- A shift with a comparison in its value, a `return` with a call in it, and a call with blanks before
its parenthesis; and the call as the code of the second line of a source. -/
theorem open_statement_reported_call :
    (AssignsTo "mask <<= f(1 == 2)".toList
      ∧ Rule.deciding "mask <<= f(1 == 2)".toList = .assignment)
    ∧ (Returns "return(if (x))".toList
      ∧ (Rule.deciding "return(if (x))".toList).requiresSemicolon = true)
    ∧ Calls "do_it (a[1], b)".toList
    ∧ ∃ report, (Chain.default.checkSource "x = 1; /* y\n*/ do_it (a[1], b) // z").1 = .ok report
        ∧ { line := .preceded 1
            message := "Expected ';' at end of statement."
            code := .missingStatementTerminator } ∈ report.errors := by
  have hassign : LeftOpen "mask <<= f(1 == 2)".toList := ⟨by decide, ')', rfl, by decide⟩
  have hreturn : LeftOpen "return(if (x))".toList := ⟨by decide, ')', rfl, by decide⟩
  have hcall : LeftOpen "do_it (a[1], b)".toList := ⟨by decide, ')', rfl, by decide⟩
  have hassigns : AssignsTo "mask <<= f(1 == 2)".toList :=
    ⟨"mask ".toList, "<<=", by decide, " f(1 == 2)".toList, rfl, by decide, by decide, by decide,
      fun h => absurd h (by decide)⟩
  have hreturns : Returns "return(if (x))".toList :=
    ⟨"(if (x))".toList, rfl, isWord_head?_append (List.forall_mem_nil _) fun _ => by decide⟩
  have hcalls : Calls "do_it (a[1], b)".toList :=
    ⟨"do_it".toList, [' '], "a[1], b".toList, ⟨by decide, List.all_eq_true.mp (by decide)⟩, by decide,
      List.forall_mem_singleton.mpr rfl, rfl⟩
  refine ⟨⟨hassigns, ?_⟩, ⟨hreturns, ?_⟩, hcalls, ?_⟩
  · exact (open_statement_reported _ (by decide) hassign ((directive_iff _).not.mp (by decide))).1
      hassigns
  · exact ((open_statement_reported _ (by decide) hreturn ((directive_iff _).not.mp (by decide))).2
      (.inr (.inl hreturns))).1
  · exact ((open_statement_reported _ (by decide) hcall ((directive_iff _).not.mp (by decide))).2
      (.inr (.inr hcalls))).2 _ 1 ⟨" do_it (a[1], b) ".toList, false⟩ rfl (by decide)

end ShaderLint
