/-
The answer to a source that is sent in.

A source is measured before any work is done on it. The work is a parameter of the measuring, so
that no work is done on a source that is too long can be said outright: its answer is the same
whatever the work would have been (`measured_of_tooLong`). Of a source that passes, the answer is
that of the work alone.

What the work gives for a text is told by the validators one by one, as in the theory of chains
(`Answered`). A check that comes to its end is answered with its report. One that fails is answered
for the first validator that fails, and how depends on the failure. A source with halves of
surrogate pairs is two texts, and the answer is that for the one of them, unless what would be sent
is not the same for the other (`Sends`).

Every text can be sent in, and so can every source with halves in which no two of them make a pair:
written as JSON it makes a body that gives it back (`posts_posting`).
-/
import ShaderLint.Proofs.ChainOutcome
import ShaderLint.Proofs.SessionSteps
import ShaderLint.Proofs.WrittenValue

set_option autoImplicit false

namespace ShaderLint.Session

/-! ## Every source can be sent in -/

theorem Task.place_place (task : Task) : Path.place task.place = task.place := by
  cases task <;> decide

/-- The text of an object whose one member is a source. -/
def sourceText (source : List Text.Point) : List Char :=
  Json.memberText "source" ('"' :: Json.writtenRest source)

theorem read_sourceText {source : List Text.Point} (h : Json.Apart source) (set : Text.StandIns) :
    Json.read (sourceText source) set = .ok (.obj [("source", .str (set.fill source))]) :=
  (Json.reads_memberText (by decide) "source" (Json.reads_text 1 h)).read

/-- The request that sends in a source. -/
def posting (task : Task) (source : List Text.Point) : Request where
  method := "POST"
  path := task.place
  headers := [("content-type", "application/json")]
  body := String.ofList (sourceText source)

/-- With either set of stand-ins the body holds the source as it is with that set. -/
theorem submission_posting {source : List Text.Point} (h : Json.Apart source)
    (set : Text.StandIns) (task : Task) :
    Intake.submission set (posting task source) = .ok ⟨set.fill source⟩ := by
  have hbody : (posting task source).body.toList = sourceText source := by
    rw [posting, String.toList_ofList]
  have hnonempty : (posting task source).body.isEmpty = false := by
    rw [String.isEmpty_eq_false_iff]
    intro hempty
    rw [hempty] at hbody
    contradiction
  have htyped : ((posting task source).header? "content-type").any Intake.isJsonType = true := by
    have hjson : Intake.isJsonType "application/json" = true := by decide
    exact hjson
  have hdecoded : Text.decoded? set (sourceText source) = some (sourceText source) := rfl
  have hmark : Text.withoutMark (sourceText source) = sourceText source := rfl
  have hread := read_sourceText h set
  simp only [Intake.submission, Intake.content, hnonempty, htyped, hbody, hdecoded, hmark, hread,
    Bool.false_eq_true, if_false, if_true]
  rfl

theorem posts_posting (task : Task) {source : List Text.Point} (h : Json.Apart source) :
    Posts (posting task source) task source := by
  refine ⟨rfl, Task.place_place task, ?_⟩
  rw [Intake.source, submission_posting h .first, submission_posting h .second]
  exact congrArg Except.ok (Text.pointsOf_fill source)

/-- A text can be sent in. -/
theorem posts_posting_whole (task : Task) (text : String) :
    Posts (posting task (Text.whole text)) task (Text.whole text) :=
  posts_posting task (Json.apart_whole text)

/-! ## Replies -/

/-- What is told of a reply: its status, its body and its log. The headers for pages of other
origins are left open. -/
structure Replies (reply : Response × List Event) (status : Nat) (body : Json)
    (log : List Event) : Prop where
  status : reply.1.status = status
  body : reply.1.body = .json body
  log : reply.2 = log

theorem body_share (r : Request) (response : Response) :
    (Sharing.share r response).body = response.body := by
  unfold Sharing.share
  split <;> rfl

theorem status_share (r : Request) (response : Response) :
    (Sharing.share r response).status = response.status := by
  unfold Sharing.share
  split <;> rfl

theorem replies_share (r : Request) (status : Nat) (body : Json) (log : List Event) :
    Replies (Sharing.share r (.json status body), log) status body log :=
  ⟨status_share r _, body_share r _, rfl⟩

/-- The body that tells a client what was wrong with the input. -/
def inputErrorJson (message : String) : Json :=
  .obj [("error", .str "validation_error"), ("message", .str message)]

/-- The body that tells a client only that something broke. -/
def breakdownJson : Json :=
  .obj
    [("error", .str "internal_server_error"),
     ("message", .str "An unexpected error occurred. Please try again.")]

/-- A refusal of a validator's own: not logged, with the status it has, and with its detail if that
can be sent and a response of that status has a body. -/
structure Refuses (reply : Response × List Event) (status : Nat) (detail : Json) : Prop where
  log : reply.2 = []
  detailed : Response.hasBody status = true → detail.allFinite = true →
    reply.1.status = status ∧ reply.1.body = .json (.obj [("detail", detail)])
  bare : Response.hasBody status = false → reply.1.status = status ∧ reply.1.body = .text ""
  unsendable : Response.hasBody status = true → detail.allFinite = false →
    reply.1.status = 422
      ∧ reply.1.body = .json (inputErrorJson "Out of range float values are not JSON compliant")

section FailureResponse

variable (library : Library) (r : Request)

theorem failureResponse_rejected (rejection : Rejection) :
    Replies (failureResponse library r (.rejected rejection)) 422
      (inputErrorJson (rejection.message library.help)) [] :=
  replies_share r 422 _ []

theorem failureResponse_badValue (message : String) :
    Replies (failureResponse library r (.badValue message)) 422 (inputErrorJson message) [] :=
  replies_share r 422 _ []

theorem failureResponse_refusal (kind message : String) (status : Nat) (detail : Json) :
    Refuses (failureResponse library r (.refusal kind message status detail)) status detail where
  log := rfl
  detailed hbody hfinite := by
    have hdetailed : Response.detailed status detail
        = .json status (.obj [("detail", detail)]) := by
      simp [Response.detailed, hbody, hfinite]
    rw [failureResponse, hdetailed, status_share, body_share]
    exact ⟨rfl, rfl⟩
  bare hbody := by
    have hbare : Response.detailed status detail = ⟨status, .text "", []⟩ := by
      simp [Response.detailed, hbody]
    rw [failureResponse, hbare, status_share, body_share]
    exact ⟨rfl, rfl⟩
  unsendable hbody hinfinite := by
    have hinvalid : Response.detailed status detail
        = .invalidInput "Out of range float values are not JSON compliant" := by
      simp [Response.detailed, hbody, hinfinite]
    rw [failureResponse, hinvalid, status_share, body_share]
    exact ⟨rfl, rfl⟩

theorem failureResponse_fault (kind message : String) :
    Replies (failureResponse library r (.fault kind message)) 500 breakdownJson
      [.unhandledFailure r.place r.method message kind] :=
  ⟨rfl, rfl, rfl⟩

end FailureResponse

/-! ## Measuring -/

section Measured

variable (library : Library) (r : Request) {settings : Settings} {source : List Text.Point}
  (work : List Text.Point → Response × List Event)

/-- **A source that is too long.** No work is done on it. -/
theorem measured_of_tooLong (h : settings.maxSourceLength < source.length) :
    measured library r (.ok settings) source work
      = (Sharing.share r (tooLong source.length settings.maxSourceLength),
        [.sourceRejected source.length settings.maxSourceLength]) := by
  rw [measured, if_pos h]

/-- **A source that is not too long.** The answer is that of the work. -/
theorem measured_of_le (h : source.length ≤ settings.maxSourceLength) :
    measured library r (.ok settings) source work = work source := by
  rw [measured, if_neg (Int.not_lt.mpr h)]

/-- Where there are no settings in force, no work is done either. -/
theorem measured_of_error {rejection : Rejection} :
    measured library r (.error rejection) source work
      = failureResponse library r (.rejected rejection) :=
  rfl

end Measured

/-! ## The work -/

section Work

variable {chain : Chain} (library : Library) (r : Request) {text : String}

theorem perform_classify :
    Replies (perform library chain r .classify text) 200 (classify text).toJson [] :=
  replies_share r 200 _ []

theorem perform_validate_of_ok {report : Report} (h : chain.check (classify text) = .ok report) :
    Replies (perform library chain r .validate text) 200 report.toJson
      [Chain.completion (classify text) report] := by
  simp only [perform, Chain.checkSource, h]
  exact replies_share r 200 _ _

theorem perform_validate_of_error {failure : Failure}
    (h : chain.check (classify text) = .error failure) :
    perform library chain r .validate text = failureResponse library r failure := by
  simp only [perform, Chain.checkSource, h, List.nil_append]

end Work

/-- A check that breaks is logged under the place and the method of those who sent the source in. -/
theorem failureResponse_fault_of_posts {r : Request} {source : List Text.Point}
    (h : Posts r .validate source) (library : Library) (kind message : String) :
    Replies (failureResponse library r (.fault kind message)) 500 breakdownJson
      [.unhandledFailure "/api/v1/validate" "POST" message kind] := by
  have hbroken := failureResponse_fault library r kind message
  rw [h.place, h.method] at hbroken
  exact hbroken

/-- What is answered to a text that is checked: its report, told in the log, if no validator fails;
and otherwise what becomes of the first failure. -/
structure Checked (s : Session) (text : String) (reply : Response × List Event) : Prop where
  passes : (∀ v ∈ s.chain, ∃ own, v.run (classify text) = .ok own) →
    ∃ report, s.chain.check (classify text) = .ok report
      ∧ Replies reply 200 report.toJson
        [.validationComplete report.valid report.errors.length (classify text).statements.length
          (classify text).shaderType (classify text).entryPoint]
  rejects : ∀ rejection, s.chain.FailsFirst (classify text) (.rejected rejection) →
    Replies reply 422 (inputErrorJson (rejection.message s.library.help)) []
  objects : ∀ message, s.chain.FailsFirst (classify text) (.badValue message) →
    Replies reply 422 (inputErrorJson message) []
  refuses : ∀ kind message status detail,
    s.chain.FailsFirst (classify text) (.refusal kind message status detail) →
    Refuses reply status detail
  breaks : ∀ kind message, s.chain.FailsFirst (classify text) (.fault kind message) →
    Replies reply 500 breakdownJson [.unhandledFailure "/api/v1/validate" "POST" message kind]

/-- What is answered to a text that is not too long. -/
def Answered (s : Session) (text : String) (reply : Response × List Event) : Task → Prop
  | .classify => Replies reply 200 (classify text).toJson []
  | .validate => Checked s text reply

theorem checked_perform {r : Request} {source : List Text.Point} (h : Posts r .validate source)
    (s : Session) (text : String) :
    Checked s text (perform s.library s.chain r .validate text) := by
  have hfails : ∀ failure, s.chain.FailsFirst (classify text) failure →
      perform s.library s.chain r .validate text = failureResponse s.library r failure :=
    fun failure hfailure =>
      perform_validate_of_error s.library r (Chain.check_eq_error_iff.mpr hfailure)
  constructor
  · intro hnone
    obtain ⟨lists, hlists⟩ := (Chain.exists_finds_iff s.chain (classify text)).mpr hnone
    have hcheck := Chain.check_eq_ok_iff.mpr ⟨lists, hlists, rfl⟩
    exact ⟨_, hcheck, perform_validate_of_ok s.library r hcheck⟩
  · intro rejection hfailure
    rw [hfails _ hfailure]
    exact failureResponse_rejected s.library r rejection
  · intro message hfailure
    rw [hfails _ hfailure]
    exact failureResponse_badValue s.library r message
  · intro kind message status detail hfailure
    rw [hfails _ hfailure]
    exact failureResponse_refusal s.library r kind message status detail
  · intro kind message hfailure
    rw [hfails _ hfailure]
    exact failureResponse_fault_of_posts h s.library kind message

/-- **The work on a text.** -/
theorem answered_perform {r : Request} {task : Task} {source : List Text.Point}
    (h : Posts r task source) (s : Session) (text : String) :
    Answered s text (perform s.library s.chain r task text) task := by
  cases task with
  | classify => exact perform_classify s.library r
  | validate => exact checked_perform h s text

/-! ## What is sent -/

/-- What is sent of the two replies to a source: the one to its first text, unless the bodies differ,
since then there is a half in what would be sent, and that cannot be encoded. -/
structure Sends (library : Library) (made : Text.StandIns → Response × List Event)
    (reply : Response × List Event) : Prop where
  same : (made .first).1.body.written = (made .second).1.body.written → reply = made .first
  different : (made .first).1.body.written ≠ (made .second).1.body.written →
    Replies reply 422 (inputErrorJson (library.encodingFault fun set => (made set).1.body))
      (made .first).2

section Sent

variable (library : Library) (chain : Chain) (r : Request) (task : Task)

/-- **The work on a source.** -/
theorem sends_work (source : List Text.Point) :
    Sends library (fun set => perform library chain r task (set.fill source))
      (work library chain r task source) where
  same h := by
    dsimp only [work]
    rw [sent, if_pos h]
  different h := by
    dsimp only [work]
    rw [sent, if_neg h]
    exact replies_share r 422 _ _

theorem work_whole (text : String) :
    work library chain r task (Text.whole text) = perform library chain r task text := by
  have hsends := (sends_work library chain r task (Text.whole text)).same
  simp only [Text.StandIns.fill_whole] at hsends
  exact hsends trivial

end Sent

/-! ## The answer -/

theorem handle_health {r : Request} (hmethod : r.method = "GET")
    (hplace : r.place = "/api/v1/health") (s : Session) :
    s.handle r = (s, Sharing.share r (.json 200 (s.health r.uptime)), []) := by
  have hpreflight : Sharing.preflight? r = none :=
    preflight?_of_method (by rw [hmethod]; decide)
  have hroute : Route.ofPlace? r.place = some .health := by
    rw [hplace]
    rfl
  have hget : ¬ r.method ∉ Route.health.methods := by
    simp [Route.methods, hmethod]
  simp only [handle, hpreflight, hroute, if_neg hget]

/-- A source that fits is answered by the work on it. -/
theorem handle_of_le {r : Request} {task : Task} {source : List Text.Point}
    (h : Posts r task source) {s : Session} {settings : Settings}
    (hsettings : s.currentSettings = .ok settings)
    (hle : source.length ≤ settings.maxSourceLength) :
    (s.handle r).2 = work s.library s.chain r task source := by
  rw [handle_of_posts h, hsettings, measured_of_le s.library r _ hle]

/-- A text that fits is answered as it is answered on its own. -/
theorem handle_whole_of_le {r : Request} {task : Task} {text : String}
    (h : Posts r task (Text.whole text)) {s : Session} {settings : Settings}
    (hsettings : s.currentSettings = .ok settings)
    (hle : text.length ≤ settings.maxSourceLength) :
    (s.handle r).2 = perform s.library s.chain r task text := by
  have hlength : (Text.whole text).length = text.length := Text.length_whole text
  rw [handle_of_le h hsettings (by rw [hlength]; exact hle), work_whole]

end ShaderLint.Session
