/-
Requests that leave no trace.

All that a request can change is whether the settings have been read (`handle_changes`). Once they
have been, the session after a request is the very session before it, so that the request might as
well not have been made, and the requests of a block, none of which makes a difference to the
others, are each answered as if it had been the first of them (`answers_requests`).

Nothing here looks at what a request is answered with, or whether the work on it came to its end.
-/
import Mathlib.Data.Fin.VecNotation
import Mathlib.Logic.Equiv.Basic
import ShaderLint.Proofs.Submissions

set_option autoImplicit false

namespace ShaderLint.Session

/-- **What a request changes.** The chain, the environment, the settings file and the libraries are
as before, and so are the settings, unless there were none and there are some to be read. -/
theorem handle_changes (s : Session) (r : Request) :
    (s.handle r).1.chain = s.chain ∧ (s.handle r).1.environment = s.environment
    ∧ (s.handle r).1.file = s.file ∧ (s.handle r).1.library = s.library
    ∧ ((s.handle r).1.settings = s.settings
      ∨ ∃ settings, s.settings = none ∧ s.readSettings = .ok settings
        ∧ (s.handle r).1.settings = some settings) := by
  rcases handle_fst s r with h | h
  · rw [h]
    exact ⟨rfl, rfl, rfl, rfl, .inl rfl⟩
  · rw [h]
    refine ⟨rfl, rfl, rfl, rfl, ?_⟩
    cases hcurrent : s.currentSettings with
    | error rejection =>
      rw [(read_of_currentSettings_error hcurrent).1]
      exact .inl (settings_afterReading_of_error hcurrent)
    | ok settings =>
      cases hsettings : s.settings with
      | some kept =>
        rw [afterReading_of_some hsettings]
        exact .inl hsettings
      | none =>
        have hread := currentSettings_of_none hsettings
        rw [hcurrent] at hread
        exact .inr ⟨settings, rfl, hread.symm, settings_afterReading_of_ok hcurrent⟩

section Read

variable {s : Session} {settings : Settings}

/-- Once the settings have been read, a request leaves the session as it is. -/
theorem handle_of_some (h : s.settings = some settings) (r : Request) : (s.handle r).1 = s := by
  rcases handle_fst s r with hr | hr
  · exact hr
  · rw [hr, afterReading_of_some h]

theorem step_request_of_some (h : s.settings = some settings) (r : Request) :
    (s.step (.request r)).1 = s :=
  handle_of_some h r

/-! ## Blocks of requests -/

theorem after_requests (h : s.settings = some settings) (rs : List Request) :
    s.after (rs.map .request) = s := by
  induction rs with
  | nil => rfl
  | cons r rs ih => rw [List.map_cons, after_cons, step_request_of_some h, ih]

/-- **A block of requests.** Each is answered as if it were the only one. -/
theorem answers_requests (h : s.settings = some settings) (rs : List Request) :
    s.answers (rs.map .request) = rs.map fun r => (s.step (.request r)).2 := by
  induction rs with
  | nil => rfl
  | cons r rs ih => rw [List.map_cons, answers_cons, step_request_of_some h, ih, List.map_cons]

end Read

/-- **Requests leave no trace.** At any point of a run a request changes nothing, but that the
settings may have been read afterwards. If they had been before, then the session is left exactly as
it is, and the run without the request has the same other answers and comes to the same end. Of
requests that follow each other there, another order gives the same answers in that order, and the
same answers to all that comes before and after. -/
theorem requests_leave_no_trace (s : Session) (before later : List Action) :
    let here := s.after before
    (∀ r, (here.handle r).1.chain = here.chain ∧ (here.handle r).1.environment = here.environment
      ∧ (here.handle r).1.file = here.file ∧ (here.handle r).1.library = here.library
      ∧ ((here.handle r).1.settings = here.settings
        ∨ ∃ settings, here.settings = none ∧ here.readSettings = .ok settings
          ∧ (here.handle r).1.settings = some settings))
    ∧ ∀ settings, here.settings = some settings →
      (∀ r, (here.handle r).1 = here
        ∧ s.answers (before ++ later)
          = (s.answers (before ++ .request r :: later)).eraseIdx before.length
        ∧ s.after (before ++ later) = s.after (before ++ .request r :: later))
      ∧ ∀ (n : Nat) (block : Fin n → Request),
        ∃ (replies : Fin n → Answer × List Event) (rest : List (Answer × List Event)),
          ∀ σ : Equiv.Perm (Fin n),
            s.answers (before ++ (List.ofFn fun i => .request (block (σ i))) ++ later)
              = s.answers before ++ (List.ofFn fun i => replies (σ i)) ++ rest
            ∧ s.after (before ++ (List.ofFn fun i => .request (block (σ i))) ++ later)
              = s.after (before ++ later) := by
  intro here
  refine ⟨handle_changes here, fun settings hsettings => ⟨?_, ?_⟩⟩
  · intro r
    have hstep := step_request_of_some hsettings r
    refine ⟨handle_of_some hsettings r, ?_, ?_⟩
    · have hlength : (s.answers before).length ≤ before.length :=
        Nat.le_of_eq (length_answers s before)
      rw [answers_append, answers_append, answers_cons, hstep,
        List.eraseIdx_append_of_length_le hlength, length_answers, Nat.sub_self,
        List.eraseIdx_cons_zero]
    · rw [after_append, after_append, after_cons, hstep]
  · intro n block
    refine ⟨fun i => (here.step (.request (block i))).2, here.answers later, fun σ => ?_⟩
    have hblock : (List.ofFn fun i => Action.request (block (σ i)))
        = (List.ofFn fun i => block (σ i)).map .request := by
      rw [List.map_ofFn]
      rfl
    have hafter : here.after (List.ofFn fun i => .request (block (σ i))) = here := by
      rw [hblock, after_requests hsettings]
    have hanswers : here.answers (List.ofFn fun i => .request (block (σ i)))
        = List.ofFn fun i => (here.step (.request (block (σ i)))).2 := by
      rw [hblock, answers_requests hsettings, List.map_ofFn]
      rfl
    constructor
    · rw [List.append_assoc, answers_append, answers_append, hafter, hanswers, List.append_assoc]
    · rw [List.append_assoc, after_append, after_append, hafter, after_append]

/-- The service has started and its second check breaks. A source is sent in and answered with the
breakdown, and the session is what it was: the run without that request has the answers of the
others. Sent in after the list of validators has been asked for instead of before, it is answered
the same. -/
theorem requests_leave_no_trace_breaking :
    let s : Session :=
      { chain := [Validator.shaderType, Validator.breaking "first" "RuntimeError" "one"] }
    let broken := posting .validate (Text.whole "x=1")
    let health : Request := { method := "GET", path := "/api/v1/health" }
    let here := s.after [.start]
    here.settings = some {}
    ∧ Replies (here.handle broken).2 500 breakdownJson
        [.unhandledFailure "/api/v1/validate" "POST" "one" "RuntimeError"]
    ∧ (here.handle broken).1 = here
    ∧ s.answers [.start, .removeValidator "first"]
      = (s.answers [.start, .request broken, .removeValidator "first"]).eraseIdx 1
    ∧ ∃ first second rest,
        s.answers [.start, .request broken, .request health, .stop]
          = s.answers [.start] ++ [first, second] ++ rest
        ∧ s.answers [.start, .request health, .request broken, .stop]
          = s.answers [.start] ++ [second, first] ++ rest := by
  intro s broken health here
  have hread : here.settings = some {} := rfl
  have hposts : Posts broken .validate (Text.whole "x=1") := posts_posting_whole .validate "x=1"
  have hfails : here.chain.FailsFirst (classify "x=1") (.fault "RuntimeError" "one") :=
    ⟨[Validator.shaderType], _, [], rfl, List.forall_mem_singleton.mpr ⟨_, rfl⟩, rfl⟩
  have hreply : (here.handle broken).2
      = failureResponse here.library broken (.fault "RuntimeError" "one") := by
    rw [handle_whole_of_le hposts (currentSettings_of_some hread) (by decide),
      perform_validate_of_error here.library broken (Chain.check_eq_error_iff.mpr hfails)]
  obtain ⟨hsame, hanswers, -⟩ :=
    ((requests_leave_no_trace s [.start] [.removeValidator "first"]).2 {} hread).1 broken
  obtain ⟨replies, rest, hblock⟩ :=
    ((requests_leave_no_trace s [.start] [.stop]).2 {} hread).2 2 ![broken, health]
  refine ⟨hread, ?_, hsame, hanswers, replies 0, replies 1, rest, ?_, ?_⟩
  · rw [hreply]
    exact failureResponse_fault_of_posts hposts here.library "RuntimeError" "one"
  · simpa [List.ofFn_succ] using (hblock (Equiv.refl _)).1
  · simpa [List.ofFn_succ] using (hblock (Equiv.swap 0 1)).1

end ShaderLint.Session
