/-
What an action does to a session.

Of all actions only two kinds ever look at the settings: a request that brings a source
(`Posts`), and the start of the service. For these the session after the action is the session
after reading, whatever is answered (`step_of_reads`). Any other request leaves the session as it
is and is answered from the chain and the libraries alone (`handle_of_not_posts`), so that two
sessions that agree in these cannot be told apart by it.

The chain of a session is changed by the actions on the chain and by nothing else; that a request
may come to a failing check in the middle of the chain makes no difference (`chain_after`).
-/
import ShaderLint.Service.Session

set_option autoImplicit false

namespace ShaderLint.Session

/-! ## A run, cut at a point -/

/-- The session after a sequence of actions. -/
def after (s : Session) (actions : List Action) : Session := (s.run actions).1

/-- What is answered to a sequence of actions, each answer with its log. -/
def answers (s : Session) (actions : List Action) : List (Answer × List Event) :=
  (s.run actions).2

section Run

variable (s : Session) (a : Action) (first second : List Action)

@[simp] theorem after_nil : s.after [] = s := rfl

theorem after_cons : s.after (a :: second) = (s.step a).1.after second := rfl

theorem answers_cons : s.answers (a :: second) = (s.step a).2 :: (s.step a).1.answers second := rfl

theorem after_append : s.after (first ++ second) = (s.after first).after second := by
  induction first generalizing s with
  | nil => rfl
  | cons a first ih => rw [List.cons_append, after_cons, after_cons, ih]

theorem answers_append :
    s.answers (first ++ second) = s.answers first ++ (s.after first).answers second := by
  induction first generalizing s with
  | nil => rfl
  | cons a first ih => rw [List.cons_append, answers_cons, answers_cons, ih, after_cons]; rfl

theorem length_answers : (s.answers first).length = first.length := by
  induction first generalizing s with
  | nil => rfl
  | cons a first ih => rw [answers_cons, List.length_cons, List.length_cons, ih]

end Run

/-! ## The settings in force -/

section Reading

variable {s : Session} {settings : Settings}

theorem currentSettings_of_some (h : s.settings = some settings) :
    s.currentSettings = .ok settings := by
  rw [currentSettings, h]

theorem currentSettings_of_none (h : s.settings = none) :
    s.currentSettings = s.readSettings := by
  rw [currentSettings, h]

/-- Only what is read now can be rejected. -/
theorem read_of_currentSettings_error {rejection : Rejection}
    (h : s.currentSettings = .error rejection) :
    s.settings = none ∧ s.readSettings = .error rejection := by
  cases hsettings : s.settings with
  | none =>
    rw [currentSettings_of_none hsettings] at h
    exact ⟨rfl, h⟩
  | some settings =>
    rw [currentSettings_of_some hsettings] at h
    contradiction

theorem settings_afterReading_of_ok (h : s.currentSettings = .ok settings) :
    s.afterReading.settings = some settings := by
  rw [afterReading, h]
  rfl

theorem settings_afterReading_of_error {rejection : Rejection}
    (h : s.currentSettings = .error rejection) : s.afterReading.settings = none := by
  rw [afterReading, h]
  rfl

/-- Settings that have been read are not read again. -/
theorem afterReading_of_some (h : s.settings = some settings) : s.afterReading = s := by
  rw [afterReading, currentSettings_of_some h]
  cases s
  cases h
  rfl

end Reading

/-! ## Requests -/

/-- The place where a task is asked for. -/
def Task.place : Task → String
  | .validate => "/api/v1/validate"
  | .classify => "/api/v1/classify"

/-- A request that asks for a task and brings a source, in a body that can be taken in. -/
structure Posts (r : Request) (task : Task) (source : List Text.Point) : Prop where
  method : r.method = "POST"
  place : r.place = task.place
  body : Intake.source r = .ok source

theorem Route.ofPlace?_place (task : Task) : Route.ofPlace? task.place = some (.task task) := by
  cases task <;> rfl

theorem Route.place_of_ofPlace? {place : String} {task : Task}
    (h : Route.ofPlace? place = some (.task task)) : place = task.place := by
  unfold Route.ofPlace? at h
  split at h <;> cases h <;> rfl

/-- No question beforehand is asked by this method. -/
theorem preflight?_of_method {r : Request} (h : r.method ≠ "OPTIONS") :
    Sharing.preflight? r = none := by
  have hother : (r.method == "OPTIONS") = false := beq_false_of_ne h
  rw [Sharing.preflight?, hother]
  rfl

section Posts

variable {r : Request} {task : Task} {source : List Text.Point}

/-- **A source that is posted.** It is measured against the settings in force, which are then kept,
and only what passes is worked on. -/
theorem handle_of_posts (h : Posts r task source) (s : Session) :
    s.handle r
      = (s.afterReading,
        measured s.library r s.currentSettings source (work s.library s.chain r task)) := by
  have hpreflight : Sharing.preflight? r = none :=
    preflight?_of_method (by rw [h.method]; decide)
  have hroute : Route.ofPlace? r.place = some (.task task) := by
    rw [h.place, Route.ofPlace?_place]
  have hmethod : ¬ r.method ∉ (Route.task task).methods := by
    simp [Route.methods, h.method]
  simp only [handle, hpreflight, hroute, if_neg hmethod, submit, h.body]

end Posts

/-- **Any other request.** The session stays as it is, nothing is logged, and the reply is made from
the chain and the libraries alone. -/
theorem handle_of_not_posts {r : Request} (h : ∀ task source, ¬ Posts r task source) :
    ∃ reply : Chain → Library → Response,
      ∀ s : Session, s.handle r = (s, reply s.chain s.library, []) := by
  cases hpreflight : Sharing.preflight? r with
  | some response => exact ⟨fun _ _ => response, fun s => by simp only [handle, hpreflight]⟩
  | none =>
    cases hroute : Route.ofPlace? r.place with
    | none =>
      exact ⟨fun _ _ => withoutBody r (Sharing.share r (.refusal 404 "Not Found")),
        fun s => by simp only [handle, hpreflight, hroute]⟩
    | some route =>
      by_cases hmethod : r.method ∉ route.methods
      · exact ⟨fun _ _ => withoutBody r (Sharing.share r (.refusal 405 "Method Not Allowed")),
          fun s => by simp only [handle, hpreflight, hroute, if_pos hmethod]⟩
      · cases route with
        | root =>
          exact ⟨fun _ _ => Sharing.share r (.json 200 about),
            fun s => by simp only [handle, hpreflight, hroute, if_neg hmethod]⟩
        | health =>
          exact ⟨fun chain _ => Sharing.share r (.json 200 (health { chain } r.uptime)),
            fun s => by simp only [handle, hpreflight, hroute, if_neg hmethod]; rfl⟩
        | page page =>
          exact ⟨fun _ library => withoutBody r (Sharing.share r ⟨200, library.page page, []⟩),
            fun s => by simp only [handle, hpreflight, hroute, if_neg hmethod]⟩
        | task task =>
          cases hbody : Intake.source r with
          | error refusal =>
            exact ⟨fun _ library => sent library r fun set => Sharing.share r (refusal set),
              fun s => by simp only [handle, hpreflight, hroute, if_neg hmethod, submit, hbody]⟩
          | ok source =>
            have hpost : r.method = "POST" := by
              simpa [Route.methods] using hmethod
            exact absurd ⟨hpost, Route.place_of_ofPlace? hroute, hbody⟩ (h task source)

/-- After any request the session is as it was, or as it is once the settings have been asked
for. -/
theorem handle_fst (s : Session) (r : Request) :
    (s.handle r).1 = s ∨ (s.handle r).1 = s.afterReading := by
  by_cases h : ∃ task source, Posts r task source
  · obtain ⟨task, source, h⟩ := h
    exact .inr (by rw [handle_of_posts h])
  · obtain ⟨reply, hreply⟩ := handle_of_not_posts fun task source hr => h ⟨task, source, hr⟩
    exact .inl (by rw [hreply])

/-! ## One action -/

theorem snd_step_request (s : Session) (r : Request) :
    (s.step (.request r)).2 = (.response (s.handle r).2.1, (s.handle r).2.2) :=
  rfl

/-- The actions that need the settings. -/
inductive Reads : Action → Prop where
  | posted {r : Request} {task : Task} {source : List Text.Point} (h : Posts r task source) :
    Reads (.request r)
  | started : Reads .start

/-- After an action that needs the settings they have been read, if they could be. -/
theorem step_of_reads {a : Action} (h : Reads a) (s : Session) : (s.step a).1 = s.afterReading := by
  cases h with
  | posted h =>
    rw [step, handle_of_posts h]
  | started =>
    rw [step]
    cases s.currentSettings <;> rfl

/-- **Actions that do not need the settings.** They leave the settings as they are, unless they
clear them, and the answer is given from the chain and the libraries alone. -/
theorem step_of_not_reads {a : Action} (h : ¬ Reads a) :
    (a ≠ .clearSettings → ∀ s : Session, (s.step a).1.settings = s.settings)
    ∧ ∀ s t : Session, s.chain = t.chain → s.library = t.library → (s.step a).2 = (t.step a).2 := by
  cases a with
  | request r =>
    have hposts : ∀ task source, ¬ Posts r task source := fun task source hr => h (.posted hr)
    obtain ⟨reply, hreply⟩ := handle_of_not_posts hposts
    constructor
    · intro _ s
      rw [step, hreply]
    · intro s t hchain hlibrary
      rw [step, step, hreply, hreply, hchain, hlibrary]
  | start => exact absurd .started h
  | clearSettings =>
    refine ⟨fun hclear => absurd rfl hclear, fun s t hchain _ => ?_⟩
    simp only [step, hchain]
  | _ =>
    refine ⟨fun _ s => rfl, fun s t hchain _ => ?_⟩
    simp only [step, hchain]

/-! ## The libraries and the chain -/

theorem library_step (s : Session) (a : Action) : (s.step a).1.library = s.library := by
  cases a with
  | request r =>
    rcases handle_fst s r with h | h
    · rw [step, h]
    · rw [step, h]
      rfl
  | start =>
    rw [step_of_reads .started]
    rfl
  | _ => rfl

theorem library_after (s : Session) (actions : List Action) :
    (s.after actions).library = s.library := by
  induction actions generalizing s with
  | nil => rfl
  | cons a actions ih => rw [after_cons, ih, library_step]

/-- What an action does to the chain, if it does anything. -/
def Action.onChain? : Action → Option Chain.Action
  | .addValidator v => some (.add v)
  | .removeValidator name => some (.remove name)
  | .request _ | .setVariables _ | .writeFile _ | .clearSettings | .start | .stop => none

theorem chain_handle (s : Session) (r : Request) : (s.handle r).1.chain = s.chain := by
  rcases handle_fst s r with h | h
  · rw [h]
  · rw [h]
    rfl

theorem chain_step (s : Session) (a : Action) :
    (s.step a).1.chain = s.chain.afterAll a.onChain?.toList := by
  cases a with
  | request r => exact chain_handle s r
  | start =>
    rw [step_of_reads .started]
    rfl
  | _ => rfl

/-- **The chain of a session.** It is what the actions on the chain have made of it, whatever else
happened between them. -/
theorem chain_after (s : Session) (actions : List Action) :
    (s.after actions).chain = s.chain.afterAll (actions.filterMap Action.onChain?) := by
  induction actions generalizing s with
  | nil => rfl
  | cons a actions ih =>
    rw [after_cons, ih, chain_step]
    cases a <;> rfl

end ShaderLint.Session
