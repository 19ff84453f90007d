/-
Which settings an answer was given under.

A session keeps the settings that it has read, and keeps nothing of a failed attempt. So what it
keeps tells only half of a history, and the other half has to be told from outside: since the
settings were last cleared, either no action that needs them has found an environment that gives
any (`NoneFinds`), or one has, and what is kept is what the first such action found (`FirstFinds`).
One action hands the one state of affairs or the other on to the next (`record_step`), and the whole
history is an induction from its last action backwards, since the actions before the last are those
that the last may have to be the first among.

Actions that need no settings do not come into this. They neither change what is kept nor can they
tell it apart from anything else that might be.
-/
import Mathlib.Data.List.Induction
import ShaderLint.Proofs.Submissions

set_option autoImplicit false

namespace ShaderLint.Session

/-! ## Histories -/

/-- A history cut behind the last time that the settings were cleared, or at its very beginning. -/
structure SinceClearing (earlier recent : List Action) : Prop where
  cut : earlier = [] ∨ ∃ older, earlier = older ++ [.clearSettings]
  uncleared : .clearSettings ∉ recent

theorem exists_sinceClearing (history : List Action) :
    ∃ earlier recent, history = earlier ++ recent ∧ SinceClearing earlier recent := by
  induction history using List.reverseRecOn with
  | nil => exact ⟨[], [], rfl, .inl rfl, List.not_mem_nil⟩
  | append_singleton history a ih =>
    by_cases hclear : a = .clearSettings
    · exact ⟨history ++ [a], [], (List.append_nil _).symm, .inr ⟨history, by rw [hclear]⟩,
        List.not_mem_nil⟩
    · obtain ⟨earlier, recent, rfl, hcut, hrecent⟩ := ih
      refine ⟨earlier, recent ++ [a], List.append_assoc .., hcut, ?_⟩
      rw [List.mem_append, List.mem_singleton]
      rintro (hmem | heq)
      · exact hrecent hmem
      · exact hclear heq.symm

section Record

variable (start : Session)

/-- An action, done after some others, needs settings and finds them in the environment, and in the
settings file, as they then are. -/
def Finds (before : List Action) (a : Action) (settings : Settings) : Prop :=
  Reads a ∧ (start.after before).readSettings = .ok settings

/-- Of the recent actions none finds settings. -/
def NoneFinds (earlier recent : List Action) : Prop :=
  ∀ waiting a later settings, recent = waiting ++ a :: later →
    ¬ start.Finds (earlier ++ waiting) a settings

/-- The first of the recent actions to find any finds these. -/
def FirstFinds (earlier recent : List Action) (settings : Settings) : Prop :=
  ∃ waiting a later, recent = waiting ++ a :: later ∧ start.NoneFinds earlier waiting
    ∧ start.Finds (earlier ++ waiting) a settings

/-- What the recent actions leave to be kept. -/
def Record (earlier recent : List Action) : Option Settings → Prop
  | none => start.NoneFinds earlier recent
  | some settings => start.FirstFinds earlier recent settings

end Record

section Extend

variable {start : Session} {earlier recent : List Action} {a : Action}

theorem noneFinds_nil : start.NoneFinds earlier [] := by
  intro waiting a later settings h
  exact absurd h.symm (List.append_ne_nil_of_right_ne_nil _ (List.cons_ne_nil a later))

theorem NoneFinds.concat (h : start.NoneFinds earlier recent)
    (ha : ∀ settings, ¬ start.Finds (earlier ++ recent) a settings) :
    start.NoneFinds earlier (recent ++ [a]) := by
  intro waiting b later settings hsplit
  rcases List.eq_nil_or_concat later with rfl | ⟨later, c, rfl⟩
  · obtain ⟨rfl, hab⟩ := List.append_inj' hsplit rfl
    rw [List.singleton_inj] at hab
    rw [← hab]
    exact ha settings
  · rw [List.concat_eq_append, ← List.cons_append, ← List.append_assoc] at hsplit
    exact h waiting b later settings (List.append_inj' hsplit rfl).1

theorem NoneFinds.firstFinds {settings : Settings} (h : start.NoneFinds earlier recent)
    (ha : start.Finds (earlier ++ recent) a settings) :
    start.FirstFinds earlier (recent ++ [a]) settings :=
  ⟨recent, a, [], rfl, h, ha⟩

/-- What was found first stays so, whatever comes after it. -/
theorem FirstFinds.concat {settings : Settings} (h : start.FirstFinds earlier recent settings) :
    start.FirstFinds earlier (recent ++ [a]) settings := by
  obtain ⟨waiting, b, later, rfl, hwaiting, hb⟩ := h
  exact ⟨waiting, b, later ++ [a], by rw [List.append_assoc, List.cons_append], hwaiting, hb⟩

/-- An action that finds no settings leaves the record as it is. -/
theorem Record.concat {kept : Option Settings} (h : start.Record earlier recent kept)
    (ha : ∀ settings, ¬ start.Finds (earlier ++ recent) a settings) :
    start.Record earlier (recent ++ [a]) kept := by
  cases kept with
  | none => exact NoneFinds.concat h ha
  | some settings => exact FirstFinds.concat h

/-! ## The record is what is kept -/

/-- **One action.** Unless it clears the settings, what is kept after it is on record if what was
kept before it was. -/
theorem record_step (hclear : a ≠ .clearSettings)
    (h : start.Record earlier recent (start.after (earlier ++ recent)).settings) :
    start.Record earlier (recent ++ [a])
      ((start.after (earlier ++ recent)).step a).1.settings := by
  by_cases hreads : Reads a
  · rw [step_of_reads hreads]
    cases hkept : (start.after (earlier ++ recent)).settings with
    | some settings =>
      rw [hkept] at h
      rw [afterReading_of_some hkept, hkept]
      exact FirstFinds.concat h
    | none =>
      rw [hkept] at h
      have hcurrent := currentSettings_of_none hkept
      cases hread : (start.after (earlier ++ recent)).readSettings with
      | ok settings =>
        rw [hread] at hcurrent
        rw [settings_afterReading_of_ok hcurrent]
        exact NoneFinds.firstFinds h ⟨hreads, hread⟩
      | error rejection =>
        rw [hread] at hcurrent
        rw [settings_afterReading_of_error hcurrent]
        refine NoneFinds.concat h fun settings hfinds => ?_
        have hfound := hfinds.2
        rw [hread] at hfound
        contradiction
  · rw [(step_of_not_reads hreads).1 hclear]
    exact h.concat fun settings hfinds => hreads hfinds.1

/-- **A history.** What is kept after it is on record. -/
theorem record_after (hstart : start.settings = none) (h : SinceClearing earlier recent) :
    start.Record earlier recent (start.after (earlier ++ recent)).settings := by
  obtain ⟨hcut, hrecent⟩ := h
  induction recent using List.reverseRecOn with
  | nil =>
    have hnone : (start.after earlier).settings = none := by
      rcases hcut with rfl | ⟨older, rfl⟩
      · exact hstart
      · rw [after_append]
        rfl
    rw [List.append_nil, hnone]
    exact noneFinds_nil
  | append_singleton recent a ih =>
    rw [List.mem_append, List.mem_singleton, not_or] at hrecent
    rw [← List.append_assoc, after_append, after_cons, after_nil]
    exact record_step (Ne.symm hrecent.2) (ih hrecent.1)

end Extend

/-! ## What is answered under some settings -/

/-- The answer to an action that needs the settings, when these are in force. A source that is longer
than they allow is refused, with their limit; any other is worked on; and if there are none, the
client is told why. -/
inductive AnsweredUnder (library : Library) (chain : Chain) (inForce : Except Rejection Settings) :
    Action → Answer × List Event → Prop where
  | refused {r : Request} {task : Task} {source : List Text.Point} {settings : Settings}
      {response : Response} {log : List Event} (hposts : Posts r task source)
      (hsettings : inForce = .ok settings) (hlong : settings.maxSourceLength < source.length)
      (hreplies : Replies (response, log) 413
        (.obj [("detail", .str ("Shader source is " ++ toString source.length
          ++ " characters; the limit is " ++ toString settings.maxSourceLength ++ "."))])
        [.sourceRejected source.length settings.maxSourceLength]) :
      AnsweredUnder library chain inForce (.request r) (.response response, log)
  | worked {r : Request} {task : Task} {source : List Text.Point} {settings : Settings}
      {response : Response} {log : List Event} (hposts : Posts r task source)
      (hsettings : inForce = .ok settings) (hle : source.length ≤ settings.maxSourceLength)
      (hwork : (response, log) = work library chain r task source) :
      AnsweredUnder library chain inForce (.request r) (.response response, log)
  | rejected {r : Request} {task : Task} {source : List Text.Point} {rejection : Rejection}
      {response : Response} {log : List Event} (hposts : Posts r task source)
      (hrejection : inForce = .error rejection)
      (hreplies : Replies (response, log) 422
        (inputErrorJson (rejection.message library.help)) []) :
      AnsweredUnder library chain inForce (.request r) (.response response, log)
  | started {settings : Settings} (h : inForce = .ok settings) :
      AnsweredUnder library chain inForce .start
        (.validators chain.names, [.starting settings.debug settings.maxSourceLength])
  | failed {rejection : Rejection} (h : inForce = .error rejection) :
      AnsweredUnder library chain inForce .start (.failed rejection, [])

theorem answeredUnder_of_posts {r : Request} {task : Task} {source : List Text.Point}
    (h : Posts r task source) (s : Session) :
    AnsweredUnder s.library s.chain s.currentSettings (.request r)
      (.response (s.handle r).2.1, (s.handle r).2.2) := by
  rw [handle_of_posts h]
  cases hcurrent : s.currentSettings with
  | error rejection =>
    exact .rejected h rfl (failureResponse_rejected s.library r rejection)
  | ok settings =>
    by_cases hlong : settings.maxSourceLength < source.length
    · refine .refused h rfl hlong ?_
      rw [measured_of_tooLong s.library r _ hlong]
      exact replies_share r 413 _ _
    · have hle := Int.not_lt.mp hlong
      refine .worked h rfl hle ?_
      rw [measured_of_le s.library r _ hle]

theorem answeredUnder_step {a : Action} (h : Reads a) (s : Session) :
    AnsweredUnder s.library s.chain s.currentSettings a (s.step a).2 := by
  cases h with
  | posted h => exact answeredUnder_of_posts h s
  | started =>
    rw [step]
    cases hcurrent : s.currentSettings with
    | ok settings => exact .started rfl
    | error rejection => exact .failed rfl

/-- **The settings that were found first.** An action that needs settings is answered under those that
the first action to find any found, or, where none has, under what there is to be said against the
environment. -/
theorem answered_first_found {start : Session} (hstart : start.settings = none)
    (history : List Action) {a : Action} (hreads : Reads a) :
    let s := start.after history
    ∃ earlier recent, history = earlier ++ recent ∧ SinceClearing earlier recent
      ∧ ((∃ settings, start.FirstFinds earlier (recent ++ [a]) settings
          ∧ AnsweredUnder s.library s.chain (.ok settings) a (s.step a).2
          ∧ (s.step a).1.settings = some settings)
        ∨ ∃ rejection, start.NoneFinds earlier (recent ++ [a])
          ∧ (s.settings = none ∧ s.readSettings = .error rejection)
          ∧ AnsweredUnder s.library s.chain (.error rejection) a (s.step a).2
          ∧ (s.step a).1.settings = none) := by
  intro s
  obtain ⟨earlier, recent, rfl, hsince⟩ := exists_sinceClearing history
  have hclear : a ≠ .clearSettings := by
    rintro rfl
    cases hreads
  have hrecord := record_step hclear (record_after hstart hsince)
  have hanswer := answeredUnder_step hreads s
  refine ⟨earlier, recent, rfl, hsince, ?_⟩
  cases hcurrent : s.currentSettings with
  | ok settings =>
    have hkept : (s.step a).1.settings = some settings := by
      rw [step_of_reads hreads, settings_afterReading_of_ok hcurrent]
    rw [hkept] at hrecord
    rw [hcurrent] at hanswer
    exact .inl ⟨settings, hrecord, hanswer, hkept⟩
  | error rejection =>
    have hkept : (s.step a).1.settings = none := by
      rw [step_of_reads hreads, settings_afterReading_of_error hcurrent]
    rw [hkept] at hrecord
    rw [hcurrent] at hanswer
    exact .inr ⟨rejection, hrecord, read_of_currentSettings_error hcurrent, hanswer, hkept⟩

/-- A request brings one source for one task. -/
theorem Posts.unique {r : Request} {task task' : Task} {source source' : List Text.Point}
    (h : Posts r task source) (h' : Posts r task' source') : task' = task ∧ source' = source := by
  have hplace := h.place
  have hbody := h.body
  rw [h'.place] at hplace
  rw [h'.body, Except.ok.injEq] at hbody
  refine ⟨?_, hbody⟩
  cases task <;> cases task' <;> first | rfl | exact absurd hplace (by decide)

section Inversion

variable {library : Library} {chain : Chain} {settings : Settings} {r : Request} {task : Task}
  {source : List Text.Point} {reply : Response × List Event} (hposts : Posts r task source)
  (h : AnsweredUnder library chain (.ok settings) (.request r) (.response reply.1, reply.2))

include hposts h

theorem AnsweredUnder.replies_of_tooLong (hlong : settings.maxSourceLength < source.length) :
    Replies reply 413
      (.obj [("detail", .str ("Shader source is " ++ toString source.length
        ++ " characters; the limit is " ++ toString settings.maxSourceLength ++ "."))])
      [.sourceRejected source.length settings.maxSourceLength] := by
  obtain ⟨response, log⟩ := reply
  cases h with
  | refused hposts' hsettings _ hreplies =>
    obtain ⟨-, rfl⟩ := hposts.unique hposts'
    cases hsettings
    exact hreplies
  | worked hposts' hsettings hle _ =>
    obtain ⟨-, rfl⟩ := hposts.unique hposts'
    cases hsettings
    exact absurd hlong (Int.not_lt.mpr hle)
  | rejected _ hrejection _ => cases hrejection

theorem AnsweredUnder.eq_work_of_le (hle : source.length ≤ settings.maxSourceLength) :
    reply = work library chain r task source := by
  obtain ⟨response, log⟩ := reply
  cases h with
  | refused hposts' hsettings hlong _ =>
    obtain ⟨-, rfl⟩ := hposts.unique hposts'
    cases hsettings
    exact absurd hlong (Int.not_lt.mpr hle)
  | worked hposts' _ _ hwork =>
    obtain ⟨rfl, rfl⟩ := hposts.unique hposts'
    exact hwork
  | rejected _ hrejection _ => cases hrejection

end Inversion

/-- Under the same settings a chain answers the same. -/
theorem snd_step_congr {s t : Session} (hchain : s.chain = t.chain) (hlibrary : s.library = t.library)
    (hcurrent : s.currentSettings = t.currentSettings) (a : Action) :
    (s.step a).2 = (t.step a).2 := by
  by_cases h : Reads a
  · cases h with
    | posted h =>
      rw [step, step, handle_of_posts h, handle_of_posts h, hchain, hlibrary, hcurrent]
    | started =>
      rw [step, step, hchain, hcurrent]
      cases t.currentSettings <;> rfl
  · exact (step_of_not_reads h).2 s t hchain hlibrary

/-- Settings that are kept stay so under every action but one. -/
theorem settings_step_of_some {s : Session} {settings : Settings} {a : Action}
    (h : s.settings = some settings) (hclear : a ≠ .clearSettings) :
    (s.step a).1.settings = some settings := by
  by_cases hreads : Reads a
  · rw [step_of_reads hreads, afterReading_of_some h, h]
  · rw [(step_of_not_reads hreads).1 hclear, h]

/-- **Two environments.** As long as the same settings are kept and not cleared, the answers are
the same. -/
theorem answers_congr {s t : Session} {settings : Settings} (hchain : s.chain = t.chain)
    (hlibrary : s.library = t.library) (hs : s.settings = some settings)
    (ht : t.settings = some settings) {later : List Action} (hclear : .clearSettings ∉ later) :
    s.answers later = t.answers later := by
  induction later generalizing s t with
  | nil => rfl
  | cons a later ih =>
    rw [List.mem_cons, not_or] at hclear
    have hcurrent : s.currentSettings = t.currentSettings := by
      rw [currentSettings_of_some hs, currentSettings_of_some ht]
    have hnextChain : (s.step a).1.chain = (t.step a).1.chain := by
      rw [chain_step, chain_step, hchain]
    have hnextLibrary : (s.step a).1.library = (t.step a).1.library := by
      rw [library_step, library_step, hlibrary]
    rw [answers_cons, answers_cons, snd_step_congr hchain hlibrary hcurrent,
      ih hnextChain hnextLibrary (settings_step_of_some hs (Ne.symm hclear.1))
        (settings_step_of_some ht (Ne.symm hclear.1)) hclear.2]

/-! ## Actions that need no settings -/

theorem not_reads_of_get {r : Request} (h : r.method = "GET") : ¬ Reads (.request r) := by
  rintro ⟨hposts⟩
  have hmethod := hposts.method
  rw [h] at hmethod
  exact absurd hmethod (by decide)

theorem not_reads_of_refused {r : Request} {refusal : Text.StandIns → Response}
    (h : Intake.source r = .error refusal) : ¬ Reads (.request r) := by
  rintro ⟨hposts⟩
  have hbody := hposts.body
  rw [h] at hbody
  contradiction

/-- A place that there is not, or a method that the place does not take. -/
theorem not_reads_of_unrouted {r : Request}
    (h : ∀ route, Route.ofPlace? r.place = some route → r.method ∉ route.methods) :
    ¬ Reads (.request r) := by
  rintro @⟨_, task, _, hposts⟩
  have hroute := Route.ofPlace?_place task
  rw [← hposts.place] at hroute
  refine h _ hroute ?_
  rw [hposts.method]
  exact List.mem_singleton_self "POST"

theorem status_detailed (status : Nat) (detail : Json) :
    (Response.detailed status detail).status = status
      ∨ (Response.detailed status detail).status = 422 := by
  unfold Response.detailed
  split
  · exact .inl rfl
  · split
    · exact .inl rfl
    · exact .inr rfl

theorem status_withoutBody (r : Request) (response : Response) :
    (withoutBody r response).status = response.status := by
  unfold withoutBody
  split <;> rfl

/-- A validator that is asked about some document answers for itself, with this status. -/
def RefusesWith (chain : Chain) (status : Nat) : Prop :=
  ∃ v ∈ chain, ∃ d kind message detail, v.run d = .error (.refusal kind message status detail)

theorem status_perform (library : Library) (chain : Chain) (r : Request) (task : Task)
    (text : String) :
    (perform library chain r task text).1.status ∈ [200, 422, 500]
    ∨ RefusesWith chain (perform library chain r task text).1.status := by
  cases task with
  | classify =>
    rw [(perform_classify library r).status]
    exact .inl (by decide)
  | validate =>
    cases hcheck : chain.check (classify text) with
    | ok report =>
      rw [(perform_validate_of_ok library r hcheck).status]
      exact .inl (by decide)
    | error failure =>
      rw [perform_validate_of_error library r hcheck]
      cases failure with
      | rejected rejection =>
        rw [(failureResponse_rejected library r rejection).status]
        exact .inl (by decide)
      | badValue message =>
        rw [(failureResponse_badValue library r message).status]
        exact .inl (by decide)
      | fault kind message =>
        rw [(failureResponse_fault library r kind message).status]
        exact .inl (by decide)
      | refusal kind message status detail =>
        rw [failureResponse, status_share]
        rcases status_detailed status detail with h | h
        · obtain ⟨before, v, after, rfl, -, hv⟩ := Chain.check_eq_error_iff.mp hcheck
          rw [h]
          exact .inr ⟨v, List.mem_append_right before List.mem_cons_self, _, _, _, _, hv⟩
        · rw [h]
          exact .inl (by decide)

/-- A source that is sent in is answered by one of four statuses, unless a validator answers for
itself. -/
theorem status_handle_of_posts {r : Request} {task : Task} {source : List Text.Point}
    (h : Posts r task source) (s : Session) :
    (s.handle r).2.1.status ∈ [200, 413, 422, 500]
    ∨ RefusesWith s.chain (s.handle r).2.1.status := by
  have hanswer := answeredUnder_of_posts h s
  generalize (s.handle r).2 = reply at hanswer ⊢
  obtain ⟨response, log⟩ := reply
  cases hanswer with
  | refused _ _ _ hreplies =>
    rw [hreplies.status]
    exact .inl (by decide)
  | rejected _ _ hreplies =>
    rw [hreplies.status]
    exact .inl (by decide)
  | worked hposts hsettings hle hwork =>
    rename_i task source _
    have hsends := sends_work s.library s.chain r task source
    rw [← hwork] at hsends
    by_cases hsame : (perform s.library s.chain r task (Text.StandIns.first.fill source)).1.body.written
        = (perform s.library s.chain r task (Text.StandIns.second.fill source)).1.body.written
    · have hstatus := status_perform s.library s.chain r task (Text.StandIns.first.fill source)
      have hfour : [200, 422, 500] ⊆ [200, 413, 422, 500] := by simp
      rw [hsends.same hsame]
      exact hstatus.imp_left (hfour ·)
    · rw [(hsends.different hsame).status]
      exact .inl (by decide)

/-- A place that there is not, and a method that the place does not take, have an answer each. -/
theorem status_handle_of_unrouted {r : Request} (hpreflight : Sharing.preflight? r = none)
    (h : ∀ route, Route.ofPlace? r.place = some route → r.method ∉ route.methods) (s : Session) :
    (s.handle r).2.1.status = if (Route.ofPlace? r.place).isNone then 404 else 405 := by
  cases hroute : Route.ofPlace? r.place with
  | none =>
    simp only [handle, hpreflight, hroute, status_withoutBody, status_share]
    rfl
  | some route =>
    simp only [handle, hpreflight, hroute, if_pos (h route hroute), status_withoutBody, status_share]
    rfl

/-- The statuses for a place or a method that there is not are given for nothing else, unless a
validator answers for itself. -/
theorem not_reads_or_refusesWith {s : Session} {r : Request}
    (h : (s.handle r).2.1.status = 404 ∨ (s.handle r).2.1.status = 405) :
    ¬ Reads (.request r) ∨ RefusesWith s.chain (s.handle r).2.1.status := by
  by_cases hreads : Reads (.request r)
  · cases hreads with
    | posted hposts =>
      refine .inr ((status_handle_of_posts hposts s).resolve_left fun hfour => ?_)
      rcases h with h | h
      · rw [h] at hfour
        exact absurd hfour (by decide)
      · rw [h] at hfour
        exact absurd hfour (by decide)
  · exact .inl hreads

end ShaderLint.Session
