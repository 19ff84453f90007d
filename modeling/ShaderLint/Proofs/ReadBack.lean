/-
Documents and reports that are read back.

A reader is more lenient than the writer: it takes scalars in other clothes, members in any order, and
does without some of them. What has to be shown is that none of this ever applies to what was written.
Each field is written under its own name and no name is written twice, each scalar is written as what the
reader asks for first, and a number of a line is never less than one. So a document is read back from
its JSON as it was, and a report too, whatever they hold (`Document.read_toJson`, `Report.read_toJson`).

What the service says of a source is therefore all that the checks need of it: a chain gives the same on
the document that was sent out and read back as on the source.

As a text the JSON is read back by the laws of written values. The one thing that there may be no room
for is the number of a line, which the reader takes up to so many digits.

The texts of a document have no halves of surrogate pairs in them. A source may, and then what is sent
out is not the document if a half has got into it.
-/
import ShaderLint.Proofs.DefaultChain
import ShaderLint.Proofs.HalvedSources
import ShaderLint.Proofs.Submissions

set_option autoImplicit false

namespace ShaderLint

/-! ## Readings of what was written -/

/-- If no reading of a part is refused, the whole is read. -/
theorem Reading.all_good {α : Type} (values : List α) :
    Reading.all (values.map Reading.good) = .good values := by
  have hissues : (values.map Reading.good).flatMap Reading.issues = [] := by
    rw [List.flatMap_map, List.flatMap_eq_nil_iff]
    exact fun a _ => rfl
  have hvalues : (values.map Reading.good).filterMap Reading.value? = values := by
    rw [List.filterMap_map]
    exact List.filterMap_some
  rw [Reading.all, hissues]
  exact congrArg Reading.good hvalues

/-- **A list is read back if its items are.** -/
theorem readList_map {α : Type} {read : Json → Reading α} {write : α → Json}
    (h : ∀ a, read (write a) = .good a) (values : List α) :
    readList read (.arr (values.map write)) = .good values := by
  have hitems : ∀ n, (((values.map write).zipIdx n).map fun item =>
      (read item.1).under (.index item.2)) = values.map Reading.good := by
    induction values with
    | nil =>
      intro n
      rfl
    | cons a values ih =>
      intro n
      rw [List.map_cons, List.zipIdx_cons, List.map_cons, ih (n + 1), List.map_cons]
      simp only [h a, Reading.under]
  exact (congrArg Reading.all (hitems 0)).trans (Reading.all_good values)

section Field

variable {α : Type} {name : String} {read : Json → Reading α} {members : Json.Members} {value : Json}
  {a : α} (hvalue : Json.member? name members = some value) (hread : read value = .good a)

include hvalue hread

/-- A field is read back if there is a value under its name and that is read back. -/
theorem required_of_member : required name read members = .good a := by
  rw [required, hvalue]
  simp only [hread, Reading.under]

theorem withDefault_of_member (default : α) : withDefault name default read members = .good a := by
  rw [withDefault, hvalue]
  simp only [hread, Reading.under]

end Field

/-! ## Scalars -/

/-- The number of a line is an integer and not less than one. -/
theorem readLineNumber_val (line : LineNumber) : readLineNumber (.int line.val) = .good line := by
  have hnumber : LineNumber.ofNat? (line.val : Int).toNat = some line := by
    rw [Int.toNat_natCast, LineNumber.ofNat?, dif_pos line.pos]
  simp only [readLineNumber, readInteger, Reading.andThen, hnumber]

theorem readTextOrNull_ofOption (text : Option String) :
    readTextOrNull (.ofOption text) = .good text := by
  cases text <;> rfl

theorem Diagnostic.readCode_name (code : ErrorCode) : readCode (.str code.name) = .good code := by
  cases code <;> rfl

/-! ## Models -/

/-- A statement is read back from its JSON. -/
theorem Statement.read_toJson (s : Statement) : read s.toJson = .good s := by
  rw [toJson, read, readMembers, Reading.andThen, required_of_member rfl (readLineNumber_val s.line)]
  rfl

/-- **A document is read back from its JSON.** -/
theorem Document.read_toJson (d : Document) : read d.toJson = .good d := by
  rw [toJson, read, readMembers, Reading.andThen,
    withDefault_of_member rfl (readTextOrNull_ofOption d.shaderType),
    withDefault_of_member rfl (readTextOrNull_ofOption d.entryPoint),
    withDefault_of_member rfl (readList_map Statement.read_toJson d.statements)]
  rfl

/-- A diagnostic is read back from its JSON. -/
theorem Diagnostic.read_toJson (e : Diagnostic) : read e.toJson = .good e := by
  rw [toJson, read, readMembers, Reading.andThen, required_of_member rfl (readLineNumber_val e.line),
    required_of_member rfl (readCode_name e.code)]
  rfl

/-- **A report is read back from its JSON,** whatever it claims. -/
theorem Report.read_toJson (report : Report) : read report.toJson = .good report := by
  rw [toJson, read, readMembers, Reading.andThen,
    withDefault_of_member rfl (readList_map Diagnostic.read_toJson report.errors)]
  rfl

/-! ## Texts

Nesting goes three levels deep, so it is only the numbers of lines for which there may be no room. -/

/-- The reader takes a number with so many digits. -/
def LineNumber.Short (line : LineNumber) : Prop :=
  (Nat.toDigits 10 line.val).length ≤ Json.digitLimit

instance (line : LineNumber) : Decidable line.Short :=
  inferInstanceAs (Decidable ((Nat.toDigits 10 line.val).length ≤ Json.digitLimit))

theorem LineNumber.Short.of_le {m n : LineNumber} (h : n.Short) (hle : m.val ≤ n.val) : m.Short := by
  have hbase : 1 < 10 := by decide
  have hlimit : 0 < Json.digitLimit := by decide
  rw [Short, Nat.length_toDigits_le_iff hbase hlimit] at h ⊢
  exact Nat.lt_of_le_of_lt hle h

theorem Statement.readable {s : Statement} (h : s.line.Short) (depth : Nat)
    (hdepth : depth < Json.nestingLimit) : Json.Readable depth s.toJson := by
  refine .obj hdepth ?_
  simp only [List.forall_mem_cons]
  exact ⟨.int _ h, .str _ _, .bool _ _, .bool _ _, .str _ _, List.forall_mem_nil _⟩

theorem Document.readable {d : Document} (h : ∀ s ∈ d.statements, s.line.Short) :
    Json.Readable 0 d.toJson := by
  have htext : ∀ text : Option String, Json.Readable 1 (.ofOption text) := by
    intro text
    cases text with
    | none => exact .null 1
    | some text => exact .str 1 text
  have hstatements : ∀ item ∈ d.statements.map Statement.toJson, Json.Readable 2 item :=
    List.forall_mem_map.mpr fun s hs => Statement.readable (h s hs) 2 (by decide)
  refine .obj (by decide) ?_
  simp only [List.forall_mem_cons]
  exact ⟨htext _, htext _, .arr (by decide) hstatements, List.forall_mem_nil _⟩

theorem Diagnostic.readable {e : Diagnostic} (h : e.line.Short) (depth : Nat)
    (hdepth : depth < Json.nestingLimit) : Json.Readable depth e.toJson := by
  refine .obj hdepth ?_
  simp only [List.forall_mem_cons]
  exact ⟨.int _ h, .str _ _, .str _ _, List.forall_mem_nil _⟩

theorem Report.readable {report : Report} (h : ∀ e ∈ report.errors, e.line.Short) :
    Json.Readable 0 report.toJson := by
  have herrors : ∀ item ∈ report.errors.map Diagnostic.toJson, Json.Readable 2 item :=
    List.forall_mem_map.mpr fun e he => Diagnostic.readable (h e he) 2 (by decide)
  refine .obj (by decide) ?_
  simp only [List.forall_mem_cons]
  exact ⟨.bool _ _, .arr (by decide) herrors, List.forall_mem_nil _⟩

/-- If the number of the last line of a source is short, so are all those in its document. -/
theorem short_of_mem_classify {source : String}
    (h : (LineNumber.preceded (source.toList.count '\n')).Short) :
    ∀ s ∈ (classify source).statements, s.line.Short := by
  intro s hs
  have hle := Scan.line_le_of_mem_classify hs
  rw [Nat.add_comm] at hle
  exact h.of_le hle

/-- Documents that are written alike are one. -/
theorem Document.eq_of_write_eq {d d' : Document} (h : ∀ s ∈ d.statements, s.line.Short)
    (h' : ∀ s ∈ d'.statements, s.line.Short) (hwritten : d.toJson.write = d'.toJson.write) :
    d = d' := by
  have hread : Json.read d.toJson.write.toList = .ok d.toJson := Json.read_write (readable h)
  have hread' : Json.read d'.toJson.write.toList = .ok d'.toJson := Json.read_write (readable h')
  have hgood := d.read_toJson
  rw [hwritten, hread', Except.ok.injEq] at hread
  rw [← hread, d'.read_toJson, Reading.good.injEq] at hgood
  exact hgood.symm

/-! ## The service -/

/-- **What is sent out can be taken back in.** Every document and every report is read back from its
JSON, and from the text of it if the numbers of its lines are not too long. So a chain gives the same on
a source as on the document that is read back from the JSON of that source, and the body in which the
service sends out a document or a report is such JSON. All this is about texts without halves of
surrogate pairs, which are no characters. A half of a source gets into nothing but the texts of its
statements. If it gets into none, the document is sent out and read back as any other; one with a half in
it is not sent out at all, and the client is told why. -/
theorem documents_and_reports_read_back :
    (∀ d : Document, Document.read d.toJson = .good d
      ∧ ((∀ s ∈ d.statements, s.line.Short) →
        ∀ set, Json.read d.toJson.write.toList set = .ok d.toJson))
    ∧ (∀ report : Report, Report.read report.toJson = .good report
      ∧ ((∀ e ∈ report.errors, e.line.Short) →
        ∀ set, Json.read report.toJson.write.toList set = .ok report.toJson))
    ∧ (∀ source : String,
      (∃ d, Document.read (classify source).toJson = .good d
        ∧ ∀ chain : Chain, chain.check d = (chain.checkSource source).1)
      ∧ ((LineNumber.preceded (source.toList.count '\n')).Short →
        ∀ set, Json.read (classify source).toJson.write.toList set = .ok (classify source).toJson))
    ∧ ∀ (s : Session) (settings : Settings) (r : Request), s.currentSettings = .ok settings →
      (∀ text : String, text.length ≤ settings.maxSourceLength →
        (Session.Posts r .classify (Text.whole text) →
          ∃ body d, Session.Replies (s.handle r).2 200 body [] ∧ Document.read body = .good d
            ∧ ∀ chain : Chain, chain.check d = (chain.checkSource text).1)
        ∧ ∀ report, Session.Posts r .validate (Text.whole text) →
          (s.chain.checkSource text).1 = .ok report →
          ∃ body log, Session.Replies (s.handle r).2 200 body log
            ∧ Report.read body = .good report)
      ∧ ∀ source : List Text.Point, source.length ≤ settings.maxSourceLength →
        Session.Posts r .classify source →
        ∃ (d : Document) (texts : List (List Text.Point)), texts.length = d.statements.length
          ∧ (∀ set : Text.StandIns,
            classify (set.fill source) = d.withTexts (texts.map set.fill))
          ∧ ((∀ text ∈ texts, ¬ Text.Halved text) →
            ∃ body, Session.Replies (s.handle r).2 200 body []
              ∧ Document.read body = .good (d.withTexts (texts.map Text.StandIns.first.fill)))
          ∧ ((∃ text ∈ texts, Text.Halved text) →
            (LineNumber.preceded (source.count (.char '\n'))).Short →
            ∃ message, Session.Replies (s.handle r).2 422 (Session.inputErrorJson message) []) := by
  have hcheck : ∀ source, ∀ chain : Chain,
      chain.check (classify source) = (chain.checkSource source).1 :=
    fun source chain => (Chain.checkSource_fst chain source).symm
  refine ⟨fun d => ⟨d.read_toJson, fun h _ => Json.read_write (Document.readable h)⟩,
    fun report => ⟨report.read_toJson, fun h _ => Json.read_write (Report.readable h)⟩,
    fun source => ⟨⟨classify source, Document.read_toJson _, hcheck source⟩,
      fun h _ => Json.read_write (Document.readable (short_of_mem_classify h))⟩, ?_⟩
  intro s settings r hsettings
  constructor
  · intro text hlength
    constructor
    · intro hr
      refine ⟨_, classify text, ?_, Document.read_toJson _, hcheck text⟩
      rw [Session.handle_whole_of_le hr hsettings hlength]
      exact Session.perform_classify s.library r
    · intro report hr hreport
      rw [Chain.checkSource_fst] at hreport
      refine ⟨_, [Chain.completion (classify text) report], ?_, report.read_toJson⟩
      rw [Session.handle_whole_of_le hr hsettings hlength]
      exact Session.perform_validate_of_ok s.library r hreport
  · intro source hlength hr
    obtain ⟨d, texts, hcount, hfill⟩ := classify_fill source
    have hone := withTexts_eq_iff hcount
    have hsends := Session.sends_work s.library s.chain r .classify source
    have hbody : ∀ set : Text.StandIns,
        (Session.perform s.library s.chain r .classify (set.fill source)).1.body.written
          = (d.withTexts (texts.map set.fill)).toJson.write := by
      intro set
      rw [(Session.perform_classify s.library r).body, ← hfill set]
      rfl
    refine ⟨d, texts, hcount, hfill, ?_⟩
    rw [Session.handle_of_le hr hsettings hlength]
    constructor
    · intro hwhole
      refine ⟨_, ?_, Document.read_toJson _⟩
      rw [hsends.same (by rw [hbody, hbody, hone.mpr hwhole]), ← hfill]
      exact Session.perform_classify s.library r
    · rintro ⟨text, hmem, hhalved⟩ hshort
      have hlines : ∀ set : Text.StandIns,
          ∀ s ∈ (d.withTexts (texts.map set.fill)).statements, s.line.Short := by
        intro set
        rw [← hfill]
        refine short_of_mem_classify ?_
        rw [Text.count_lineFeed_fill]
        exact hshort
      refine ⟨_, hsends.different fun hsame => ?_⟩
      rw [hbody, hbody] at hsame
      exact hone.mp (Document.eq_of_write_eq (hlines _) (hlines _) hsame) text hmem hhalved

/-- Texts that look like other values stay texts, and a report may claim to be valid against its list.
A source is sent in and comes back as a document on which the checks give what they give on the
source, and its report comes back too. A half in a comment does not get into the document, and one in a
statement does. -/
theorem documents_and_reports_read_back_number_texts :
    let d : Document :=
      { shaderType := some "null"
        statements := [{ line := .preceded 6, text := "1", requiresSemicolon := true,
                         endsWithSemicolon := false, rule := "off" }] }
    let claimed : Report := { valid := true, errors := [Validator.shaderTypeError] }
    let s : Session := { settings := some { maxSourceLength := 3 } }
    let posted (task : Session.Task) := Session.posting task (Text.whole "x=1")
    let halved (source : List Text.Point) := Session.posting .classify source
    (Document.read d.toJson = .good d ∧ Json.read d.toJson.write.toList = .ok d.toJson)
    ∧ (Report.read claimed.toJson = .good claimed
      ∧ Json.read claimed.toJson.write.toList = .ok claimed.toJson)
    ∧ Json.read (classify "x=1").toJson.write.toList = .ok (classify "x=1").toJson
    ∧ (∃ body d, Session.Replies (s.handle (posted .classify)).2 200 body []
      ∧ Document.read body = .good d
      ∧ ∀ chain : Chain, chain.check d = (chain.checkSource "x=1").1)
    ∧ (∃ report body log, (Chain.default.checkSource "x=1").1 = .ok report
      ∧ Session.Replies (s.handle (posted .validate)).2 200 body log
      ∧ Report.read body = .good report)
    ∧ (∃ body d, Session.Replies (s.handle (halved [.char '/', .char '/', .half 0])).2 200 body []
      ∧ Document.read body = .good d)
    ∧ ∃ message, Session.Replies (s.handle (halved [.half 0, .char ';'])).2 422
        (Session.inputErrorJson message) [] := by
  intro d claimed s posted halved
  obtain ⟨hdocuments, hreports, hsources, hservice⟩ := documents_and_reports_read_back
  obtain ⟨report, hreport⟩ : ∃ report, (Chain.default.checkSource "x=1").1 = .ok report :=
    ⟨_, (Chain.checkSource_fst _ _).trans (Chain.default_check _)⟩
  have hanswered (r : Request) := hservice s { maxSourceLength := 3 } r rfl
  have hclassify := ((hanswered (posted .classify)).1 "x=1" (by decide)).1
    (Session.posts_posting_whole .classify "x=1")
  obtain ⟨body, log, hbody, hread⟩ := ((hanswered (posted .validate)).1 "x=1" (by decide)).2
    report (Session.posts_posting_whole .validate "x=1") hreport
  obtain ⟨commented, texts, hcount, hfill, hsent, -⟩ :=
    (hanswered (halved [.char '/', .char '/', .half 0])).2 _ (by decide)
      (Session.posts_posting .classify (by simp [Json.Apart, Json.Pairs]))
  have hwhole : ∀ text ∈ texts, ¬ Text.Halved text := by
    rw [← withTexts_eq_iff hcount, ← hfill, ← hfill]
    decide +kernel
  obtain ⟨commentBody, hcommentBody, hcommentRead⟩ := hsent hwhole
  obtain ⟨stated, texts, hcount, hfill, -, hrefused⟩ :=
    (hanswered (halved [.half 0, .char ';'])).2 _ (by decide)
      (Session.posts_posting .classify (by simp [Json.Apart, Json.Pairs]))
  have hhalved : ¬ ∀ text ∈ texts, ¬ Text.Halved text := by
    rw [← withTexts_eq_iff hcount, ← hfill, ← hfill]
    decide +kernel
  simp only [not_forall, not_not, exists_prop] at hhalved
  refine ⟨⟨(hdocuments d).1, (hdocuments d).2 ?_ .first⟩,
    ⟨(hreports claimed).1, (hreports claimed).2 ?_ .first⟩, (hsources "x=1").2 (by decide) .first,
    hclassify, ⟨report, body, log, hreport, hbody, hread⟩,
    ⟨commentBody, _, hcommentBody, hcommentRead⟩, hrefused hhalved (by decide)⟩
  · exact List.forall_mem_singleton.mpr (by decide)
  · exact List.forall_mem_singleton.mpr (by decide)

end ShaderLint
