import Turnstile.Proofs.Service.Outages
import Turnstile.Proofs.Service.Gate
import Turnstile.Proofs.Time.Texts

/-!
# Ends of windows as they are told

The end of a window is told by a text in headers, as whole milliseconds in the body of a refusal,
and by a text again in what operators are shown. All three name one instant, to the millisecond.
-/

namespace Turnstile.Service

open Http Number Store Time

/-- The headers of a verdict tell the end of its window. -/
theorem headersFor_tells (guard : Guard) {admission : Admission}
    (near : IsNear admission.verdict.resetTime) :
    ∃ text, guard.headersFor admission =
        .ok [("X-RateLimit-Limit", toString (shownLimit guard.limitSource admission)),
          ("X-RateLimit-Remaining", toString admission.verdict.remaining),
          ("X-RateLimit-Reset", text)] ∧
      readInstant? 3 text = some (1000 * admission.verdict.resetTime) := by
  obtain ⟨text, told, read⟩ := readInstant?_resetText near
  refine ⟨text, ?_, read⟩
  unfold Guard.headersFor limitHeaders shownLimit
  rw [told]
  cases guard.limitSource <;> rfl

/-- A refusal is answered with the end of its window, as a text in a header and as a number among
the details of its body. -/
theorem refusal_tells {guard : Guard} (included : guard.includeHeaders = true)
    {admission : Admission} (near : IsNear admission.verdict.resetTime) {clocks : Clocks}
    {wait : Int} (waits : retryAfter admission.verdict.resetTime clocks.guard = .ok wait) :
    ∃ problem details, guard.refusal clocks admission = .problem problem ∧
      details.lookup "reset_time" = some (.int admission.verdict.resetTime) ∧
      ∀ id, ∃ response text, problemResponse problem id = .ok response ∧
        response.status = 429 ∧
        response.body = Json.compact (errorBody problem.code problem.message id (some details)) ∧
        response.headers.first? "x-ratelimit-reset" = some text ∧
        readInstant? 3 text = some (1000 * admission.verdict.resetTime) := by
  obtain ⟨text, described, read⟩ := headersFor_tells guard near
  let headers := [("Retry-After", toString wait),
    ("X-RateLimit-Limit", toString (shownLimit guard.limitSource admission)),
    ("X-RateLimit-Remaining", toString admission.verdict.remaining), ("X-RateLimit-Reset", text)]
  let problem := Guard.exceeded admission wait (some headers)
  have raised : guard.refusal clocks admission = .problem problem := by
    unfold Guard.refusal
    rw [waits, described, included]
    rfl
  refine ⟨problem, problem.details.getD [], raised, rfl, fun id => ?_⟩
  have finite : (errorBody problem.code problem.message id problem.details).isFinite = true :=
    isFinite_errorBody _ _ _ rfl
  refine ⟨_, text, by rw [problemResponse, Response.ofJson, if_pos finite], rfl, rfl, ?_, read⟩
  have first : Text.lower "Retry-After" = "retry-after" := by decide +kernel
  have second : Text.lower "X-RateLimit-Limit" = "x-ratelimit-limit" := by decide +kernel
  have third : Text.lower "X-RateLimit-Remaining" = "x-ratelimit-remaining" := by decide +kernel
  have fourth : Text.lower "X-RateLimit-Reset" = "x-ratelimit-reset" := by decide +kernel
  have given : problemHeaders problem = headers := rfl
  rw [given]
  simp only [Response.ofText]
  rw [first?_setIfAbsent_of_ne (by decide), first?_setIfAbsent_of_ne (by decide)]
  simp only [headers, Headers.small, List.map_cons, first, second, third, fourth]
  rfl

/-- What operators are shown of a verdict tells the end of its window. -/
theorem view_tells {verdict : Verdict} (near : IsNear verdict.resetTime) :
    ∃ view, WindowView.ofVerdict verdict = .ok view ∧ view.verdict = verdict ∧
      ∃ places ∈ [0, 6], readInstant? places view.resetAt = some (1000 * verdict.resetTime) := by
  obtain ⟨text, told, read⟩ := readInstant?_statusText near
  refine ⟨⟨verdict, text⟩, ?_, rfl, read⟩
  rw [WindowView.ofVerdict, told]
  rfl

/-- The text that headers give an instant near the epoch has three decimals and is that of
universal time, and is read as this instant exactly; so no two such instants share a text, and
later ones have texts of later instants. The end of a window is told alike by the headers of an
admission, by the header and the body of a refusal, and by what operators are shown. -/
theorem reset_texts_name_instants :
    (∀ milliseconds, IsNear milliseconds → ∃ text, resetText milliseconds = .ok text ∧
        readInstant? 3 text = some (1000 * milliseconds)) ∧
      (∀ first second, IsNear first → IsNear second →
        (resetText first = resetText second → first = second) ∧
        (first < second → ∃ earlier later start finish,
          resetText first = .ok earlier ∧ readInstant? 3 earlier = some start ∧
            resetText second = .ok later ∧ readInstant? 3 later = some finish ∧
            start < finish)) ∧
      (∀ (guard : Guard) (admission : Admission), IsNear admission.verdict.resetTime →
        (∃ headers text, guard.headersFor admission = .ok headers ∧
          headers.lookup "X-RateLimit-Reset" = some text ∧
          readInstant? 3 text = some (1000 * admission.verdict.resetTime)) ∧
        (guard.includeHeaders = true → ∀ (identifier : String) (clocks : Clocks) (wait : Int),
          retryAfter admission.verdict.resetTime clocks.guard = .ok wait →
          ∃ problem details, (∀ {σ : Type} (node : Node σ),
              (@Guard.reject σ Admission guard admission identifier clocks node).outcome =
                .error (.problem problem)) ∧
            details.lookup "reset_time" = some (.int admission.verdict.resetTime) ∧
            ∀ id, ∃ response text, problemResponse problem id = .ok response ∧
              response.status = 429 ∧
              response.body =
                Json.compact (errorBody problem.code problem.message id (some details)) ∧
              response.headers.first? "x-ratelimit-reset" = some text ∧
              readInstant? 3 text = some (1000 * admission.verdict.resetTime))) ∧
      ∀ verdict : Verdict, IsNear verdict.resetTime →
        ∃ view, WindowView.ofVerdict verdict = .ok view ∧ view.verdict = verdict ∧
          ∃ places ∈ [0, 6], readInstant? places view.resetAt =
            some (1000 * verdict.resetTime) := by
  refine ⟨fun milliseconds near => readInstant?_resetText near, fun first second near nearToo => ?_,
    fun guard admission near => ⟨?_, fun included identifier clocks wait waits => ?_⟩,
    fun verdict near => view_tells near⟩
  · obtain ⟨earlier, told, read⟩ := readInstant?_resetText near
    obtain ⟨later, toldToo, readToo⟩ := readInstant?_resetText nearToo
    refine ⟨fun same => ?_, fun order => ?_⟩
    · obtain rfl := Except.ok.inj (told.symm.trans (same.trans toldToo))
      have instants := Option.some.inj (read.symm.trans readToo)
      omega
    · exact ⟨earlier, later, _, _, told, read, toldToo, readToo, by omega⟩
  · obtain ⟨text, described, read⟩ := headersFor_tells guard near
    exact ⟨_, text, described, rfl, read⟩
  · obtain ⟨problem, details, raised, listed, answered⟩ := refusal_tells included near waits
    refine ⟨problem, details, fun node => ?_, listed, answered⟩
    rw [(guard.reject_eq admission identifier clocks node).1, raised]

/-- A guard with the limits in force by default. -/
def plainGuard : Guard where
  policy := .defaults

/-- The verdict on an attempt that finds its window full. -/
def fullWindow : Admission :=
  let limit := Scope.invitationAcceptance.defaultLimit
  ⟨.invitationAcceptance, limit, .ofAttempt limit 1735689600123 10⟩

/-- The end of a window in the year 2025 is told alike by the header and the body of a refusal, and
the last millisecond before the epoch has a text that is read back. -/
theorem fullWindow_told :
    (∃ text, resetText (-1) = .ok text ∧ readInstant? 3 text = some (-1000)) ∧
      ∃ (problem : Problem) (details : List (String × Json)),
        (@Guard.reject Local Admission plainGuard fullWindow "u" ⟨1735689600123, 1735689600123⟩
            ⟨Limiter.vacantStore .locked (.whole 0), 1⟩).outcome = .error (.problem problem) ∧
        details.lookup "reset_time" = some (.int 1735693200123) ∧
        ∀ id, ∃ response text, problemResponse problem id = .ok response ∧
          response.headers.first? "x-ratelimit-reset" = some text ∧
          readInstant? 3 text = some 1735693200123000 := by
  obtain ⟨texts, -, guards, -⟩ := reset_texts_name_instants
  have ends : fullWindow.verdict.resetTime = 1735693200123 := by decide +kernel
  have near : IsNear fullWindow.verdict.resetTime := by
    rw [ends]
    show (1735693200123 : Int).natAbs < 1000 * twoTo 33
    decide
  refine ⟨texts (-1) (by unfold IsNear; decide), ?_⟩
  obtain ⟨problem, details, raised, listed, answered⟩ :=
    (guards plainGuard fullWindow near).2 rfl "u" ⟨1735689600123, 1735689600123⟩ 3600 (by
      rw [ends]
      rfl)
  rw [ends] at listed answered
  refine ⟨problem, details, raised _, listed, fun id => ?_⟩
  obtain ⟨response, text, told, -, -, header, read⟩ := answered id
  exact ⟨response, text, told, header, read⟩

end Turnstile.Service
