/-
The bodies of comments.

What stands in a comment is no code, so it may be anything: other tokens, quotes, half a token at
either end. The scan gives from the body of a block comment one empty line for each line feed in
it, and from that of a line comment nothing (`codeLines_block_body`, `codeLines_line_body`). Two
sources that differ in such a body are therefore scanned alike from the comment on, and from the
beginning as well, since nothing but where the reader stands comes through from before it.

A block comment is opened by both characters of its token, so the text before it must not end in a
slash that would make another token of the first. A line comment needs no such care: a slash before
it is one of three, and the comment begins there.
-/
import Mathlib.Data.List.Infix
import ShaderLint.Proofs.DefaultChain
import ShaderLint.Proofs.SourceWalk

set_option autoImplicit false

namespace ShaderLint

namespace Scan

/-! ## The scan of a body -/

/-- **The body of a block comment.** The first token that closes it is the one after the body, also
where the body ends in a star. -/
theorem codeLines_block_body {body : List Char} (hbody : ¬ ['*', '/'] <:+: body)
    (post : List Char) :
    codeLines .block (body ++ '*' :: '/' :: post)
      = List.replicate (body.count '\n') [] ++ codeLines .code post := by
  induction body with
  | nil => rfl
  | cons c body ih =>
    have hrest : ¬ ['*', '/'] <:+: body := fun h => hbody (List.infix_cons h)
    rw [List.cons_append]
    by_cases hc : c = '\n'
    · have hbreak : codeLines .block ('\n' :: (body ++ '*' :: '/' :: post))
          = [] :: codeLines .block (body ++ '*' :: '/' :: post) := rfl
      rw [hc, hbreak, ih hrest, List.count_cons_self, List.replicate_succ, List.cons_append]
    · have htoken : c = '*' → (body ++ '*' :: '/' :: post).head? ≠ some '/' := by
        rintro rfl
        rcases body with _ | ⟨b, body⟩
        · exact fun h => absurd (Option.some.inj h) (by decide)
        · rintro ⟨rfl⟩
          exact hbody ⟨[], body, rfl⟩
      rw [codeLines_block hc htoken, ih hrest, List.count_cons_of_ne hc]

/-- **The body of a line comment.** The line feed after it ends the line and the comment. -/
theorem codeLines_line_body {body : List Char} (hbody : '\n' ∉ body) (post : List Char) :
    codeLines .line (body ++ '\n' :: post) = [] :: codeLines .code post := by
  induction body with
  | nil => rfl
  | cons c body ih =>
    have hc : c ≠ '\n' := (List.ne_of_not_mem_cons hbody).symm
    rw [List.cons_append, codeLines_lineComment hc, ih (List.not_mem_of_not_mem_cons hbody)]

/-! ## Sources that differ in a body -/

section Source

variable {pre c₁ c₂ : List Char} (hpre : finalMode .code pre = .code) (post : List Char)

include hpre

/-- Another block comment with as many line feeds. -/
theorem codeLines_block_comment (hslash : pre.getLast? ≠ some '/')
    (h₁ : ¬ ['*', '/'] <:+: c₁) (h₂ : ¬ ['*', '/'] <:+: c₂)
    (hcount : c₁.count '\n' = c₂.count '\n') :
    codeLines .code (pre ++ '/' :: '*' :: (c₁ ++ '*' :: '/' :: post))
      = codeLines .code (pre ++ '/' :: '*' :: (c₂ ++ '*' :: '/' :: post)) := by
  rcases through_of_finalMode_eq_code hpre with hcode | ⟨-, hlast⟩
  · refine codeLines_congr .code pre ?_
    rw [hcode]
    -- from the opening token on, only the line feeds of the body are told
    have hbodies : codeLines .block (c₁ ++ '*' :: '/' :: post)
        = codeLines .block (c₂ ++ '*' :: '/' :: post) := by
      rw [codeLines_block_body h₁, codeLines_block_body h₂, hcount]
    exact hbodies
  · exact absurd hlast hslash

/-- Another line comment. -/
theorem codeLines_line_comment (h₁ : '\n' ∉ c₁) (h₂ : '\n' ∉ c₂) :
    codeLines .code (pre ++ '/' :: '/' :: (c₁ ++ '\n' :: post))
      = codeLines .code (pre ++ '/' :: '/' :: (c₂ ++ '\n' :: post)) := by
  have hbodies : ∀ first : List Char, '\n' ∉ first →
      codeLines .line (first ++ (c₁ ++ '\n' :: post))
        = codeLines .line (first ++ (c₂ ++ '\n' :: post)) := by
    intro first hfirst
    have hnot : ∀ c : List Char, '\n' ∉ c → '\n' ∉ first ++ c := by
      intro c hc hmem
      exact (List.mem_append.mp hmem).elim hfirst hc
    rw [← List.append_assoc, ← List.append_assoc, codeLines_line_body (hnot c₁ h₁),
      codeLines_line_body (hnot c₂ h₂)]
  refine codeLines_congr .code pre ?_
  rcases through_of_finalMode_eq_code hpre with hcode | ⟨hheld, -⟩
  · rw [hcode]
    exact hbodies [] List.not_mem_nil
  · -- the slash held back and the first of the two make the token; the second is body
    rw [hheld]
    exact hbodies ['/'] (by decide)

end Source

end Scan

/-! ## Statements and diagnostics -/

/-- Two sources with the same statements and the same diagnostics for missing semicolons. What they
declare may differ. -/
structure SameCode (source source' : String) : Prop where
  statements : (classify source).statements = (classify source').statements
  missingTerminators : ∃ report report',
    (Chain.default.checkSource source).1 = .ok report
    ∧ (Chain.default.checkSource source').1 = .ok report'
    ∧ report.missingTerminators = report'.missingTerminators

/-- The diagnostics for missing semicolons follow from the statements. -/
theorem SameCode.of_statements {source source' : String}
    (h : (classify source).statements = (classify source').statements) :
    SameCode source source' where
  statements := h
  missingTerminators := by
    refine ⟨_, _, Chain.default_checkSource source, Chain.default_checkSource source', ?_⟩
    rw [Document.missingTerminators_eq, Document.missingTerminators_eq,
      Document.semicolonErrors_congr h]

theorem SameCode.of_codeLines {source source' : String}
    (h : Scan.codeLines .code source.toList = Scan.codeLines .code source'.toList) :
    SameCode source source' := by
  apply of_statements
  rw [Scan.classify_statements_from, Scan.classify_statements_from, h]

/-- **Comment bodies do not interfere with the code.** Where the scan of `pre` ends in code, a
comment may follow, and its body may be exchanged: that of a block comment for any other with as
many line feeds and no closing token, that of a line comment for any other without a line feed. -/
theorem sameCode_of_comment_bodies (pre post c₁ c₂ : String)
    (hpre : Scan.finalMode .code pre.toList = .code) :
    (pre.toList.getLast? ≠ some '/' →
      ¬ ['*', '/'] <:+: c₁.toList → ¬ ['*', '/'] <:+: c₂.toList →
      c₁.toList.count '\n' = c₂.toList.count '\n' →
      SameCode (pre ++ "/*" ++ c₁ ++ "*/" ++ post) (pre ++ "/*" ++ c₂ ++ "*/" ++ post))
    ∧ ('\n' ∉ c₁.toList → '\n' ∉ c₂.toList →
      SameCode (pre ++ "//" ++ c₁ ++ "\n" ++ post) (pre ++ "//" ++ c₂ ++ "\n" ++ post)) := by
  have htoList : ∀ c opening closing : String,
      (pre ++ opening ++ c ++ closing ++ post).toList
        = pre.toList ++ (opening.toList ++ (c.toList ++ (closing.toList ++ post.toList))) := by
    intro c opening closing
    simp only [String.toList_append, List.append_assoc]
  constructor
  · intro hslash h₁ h₂ hcount
    apply SameCode.of_codeLines
    rw [htoList, htoList]
    exact Scan.codeLines_block_comment hpre post.toList hslash h₁ h₂ hcount
  · intro h₁ h₂
    apply SameCode.of_codeLines
    rw [htoList, htoList]
    exact Scan.codeLines_line_comment hpre post.toList h₁ h₂

/-- Half tokens at both ends of a block comment with a line feed in it, and a line comment directly
after a slash. -/
theorem sameCode_of_half_tokens :
    Scan.finalMode .code "x = f(".toList = .code
    ∧ SameCode ("x = f(" ++ "/*" ++ "/ //\n*" ++ "*/" ++ ")\ng()")
        ("x = f(" ++ "/*" ++ "*\n\"/" ++ "*/" ++ ")\ng()")
    ∧ Scan.finalMode .code "x = a /".toList = .code
    ∧ SameCode ("x = a /" ++ "//" ++ "* b" ++ "\n" ++ "g()")
        ("x = a /" ++ "//" ++ "*/ /*" ++ "\n" ++ "g()") := by
  have hcall : Scan.finalMode .code "x = f(".toList = .code := by decide
  have hslash : Scan.finalMode .code "x = a /".toList = .code := by decide
  refine ⟨hcall, ?_, hslash, ?_⟩
  · exact (sameCode_of_comment_bodies "x = f(" ")\ng()" "/ //\n*" "*\n\"/" hcall).1
      (by decide) (by decide) (by decide) (by decide)
  · exact (sameCode_of_comment_bodies "x = a /" "g()" "* b" "*/ /*" hslash).2
      (by decide) (by decide)

end ShaderLint
