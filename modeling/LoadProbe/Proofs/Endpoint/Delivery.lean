import LoadProbe.Proofs.Endpoint.Accounting

/-!
Which answers of the collector count as a delivery. Only codes from 400 to 599 are failures, so that
codes outside of these and of the 200s pass for a delivery. Main statement: `body_eq_line_iff`.
-/
namespace LoadProbe

variable {State : Type}

theorem isError_statusClass_iff (code : Nat) :
    statusClass code = .clientError ∨ statusClass code = .serverError ↔
      400 ≤ code ∧ code < 600 := by
  have four : code / 100 = 4 ↔ 400 ≤ code ∧ code < 500 := by omega
  have five : code / 100 = 5 ↔ 500 ≤ code ∧ code < 600 := by omega
  unfold statusClass
  split
  · next two => simp; omega
  · next told => simp; omega
  · next told => simp; omega
  · next notTwo notFour notFive => simp [four, five] at notFour notFive ⊢; omega

namespace Collector

/-- A line is refused by the codes from 400 to 599, and by no others. -/
theorem deliver_status_result (collector : Collector) (line : String) (arrived : Binary64)
    (code : Nat) :
    (collector.deliver line arrived (.status code)).result =
      if 400 ≤ code ∧ code < 600 then .error (.refused collector.url code) else .ok () := by
  have error := isError_statusClass_iff code
  cases told : statusClass code with
  | clientError =>
    rw [if_pos (error.mp (.inl told))]
    simp [deliver, told]
  | serverError =>
    rw [if_pos (error.mp (.inr told))]
    simp [deliver, told]
  | success | other =>
    rw [if_neg (fun within => by simpa [told] using error.mpr within)]
    simp [deliver, told]

end Collector

namespace Endpoint

theorem deliveryFailure?_status (endpoint : Endpoint State) {collector : Collector} {code : Nat}
    (job : Job) (line : String) (scene : Scene State)
    (configured : endpoint.collector? = some collector)
    (answered : scene.replies.next.1 = .status code) :
    endpoint.deliveryFailure? job line scene =
      if 400 ≤ code ∧ code < 600 then some (.refused collector.url code) else none := by
  simp only [deliveryFailure?, configured, answered, Option.bind_some,
    Collector.deliver_status_result]
  by_cases error : 400 ≤ code ∧ code < 600
  · simp only [if_pos error]
  · simp only [if_neg error]

theorem replies_job (endpoint : Endpoint State) (headers : Headers) (scene : Scene State) :
    (endpoint.job headers scene).2.replies = scene.replies := by
  rcases endpoint.job_cases headers scene with ⟨_, _, _, made⟩ | ⟨_, _, rate, draws, made⟩
  · rw [made]
  · rw [made]

/-- The exchange of a request depends on those before it only by the scene that they leave. -/
theorem getElem?_handleAll (endpoint : Endpoint State) (requests : List Headers)
    (scene : Scene State) {k : Nat} {headers : Headers} (nth : requests[k]? = some headers) :
    (endpoint.handleAll requests scene).1[k]? =
      some (endpoint.handle headers (endpoint.handleAll (requests.take k) scene).2).1 := by
  induction requests generalizing scene k with
  | nil => simp at nth
  | cons first rest ih =>
    cases k with
    | zero =>
      obtain rfl : first = headers := by simpa using nth
      rfl
    | succ k =>
      simp only [handleAll, List.take_succ_cons, List.getElem?_cons_succ]
      exact ih (endpoint.handle first scene).2 (by simpa using nth)

theorem line_ne_remark (line remark : String) : line ++ " " ++ remark ≠ line := by
  intro same
  have lengths := congrArg String.length same
  have space : " ".length = 1 := rfl
  simp only [String.length_append, space] at lengths
  omega

/-- In a run of any number of requests, take one whose work was measured and whose line, the next
one after those sent before it, is answered with a code. The body is the bare line unless the code
is from 400 to 599, which makes the delivery fail and puts the explanation after the line. So that
only codes of the 200s are answered with the bare line holds exactly for the codes of the 200s, the
400s and the 500s. -/
theorem body_eq_line_iff (endpoint : Endpoint State) {collector : Collector}
    (configured : endpoint.collector? = some collector) (requests : List Headers)
    (scene ready : Scene State) {k : Nat} {headers : Headers} {job : Job} {memory : Int64}
    {code : Nat} (nth : requests[k]? = some headers)
    (made : endpoint.job headers (endpoint.handleAll (requests.take k) scene).2 = (.ok job, ready))
    (measured : (endpoint.work job ready).1.memory = .ok memory)
    (answered : scene.replies.schedule (scene.replies.taken +
      ((endpoint.handleAll (requests.take k) scene).1.flatMap Exchange.sent).length) =
        .status code) :
    ∃ exchange, (endpoint.handleAll requests scene).1[k]? = some exchange ∧
      exchange.sent.map Post.body = [endpoint.resultLine job memory ready] ∧
      (exchange.outcome.body = endpoint.resultLine job memory ready ↔
        ¬ (400 ≤ code ∧ code < 600)) ∧
      (400 ≤ code ∧ code < 600 →
        (collector.deliver (endpoint.resultLine job memory ready) job.arrived
          (.status code)).result = .error (.refused collector.url code) ∧
        exchange.outcome.body = endpoint.resultLine job memory ready ++ " " ++
          (Collector.Failure.refused collector.url code).message) ∧
      ((exchange.outcome.body = endpoint.resultLine job memory ready ↔
          200 ≤ code ∧ code < 300) ↔
        (200 ≤ code ∧ code < 300) ∨ (400 ≤ code ∧ code < 600)) := by
  have reply : ready.replies.next.1 = .status code := by
    have kept := endpoint.replies_job headers (endpoint.handleAll (requests.take k) scene).2
    rw [made] at kept
    rw [kept, endpoint.handleAll_replies]
    exact answered
  have accounted := endpoint.handle_accounted headers (endpoint.handleAll (requests.take k) scene).2
  obtain ⟨sent, -, told⟩ := (accounted.performed job ready made).measured memory measured
  rw [endpoint.deliveryFailure?_status job _ ready configured reply] at told
  have result := collector.deliver_status_result (endpoint.resultLine job memory ready)
    job.arrived code
  refine ⟨_, endpoint.getElem?_handleAll requests scene nth, by simpa [configured] using sent, ?_⟩
  by_cases error : 400 ≤ code ∧ code < 600
  · rw [if_pos error] at told result
    have body := told.2
    have marked : ¬ (endpoint.handle headers
        (endpoint.handleAll (requests.take k) scene).2).1.outcome.body =
          endpoint.resultLine job memory ready := by
      rw [body]
      exact line_ne_remark _ _
    refine ⟨by simp [marked, error], fun _ => ⟨result, body⟩, ?_⟩
    simp only [marked, false_iff]
    omega
  · rw [if_neg error] at told
    refine ⟨by simp [told.2, error], fun within => absurd within error, ?_⟩
    simp [told.2, error]

/-- An endpoint of fixed work that reports to the machine itself. -/
def reporting : Endpoint Script where
  workload := .scripted
  rates := .headers
  layout := .timing
  collector? := some
    { url := { scheme := "http".toList, host? := some (.ipv4 .loopback), port? := some 9000
               path := .segments ["store".toList] }
      sender := .v4 .loopback, forwardsArrival := false }

/-- A scene of work of rate five that succeeds, with answers of the collector. -/
def reportingScene (codes : List Nat) : Scene Script :=
  ⟨.ticking 0 1000, ⟨[]⟩, .ofCodes codes, ⟨some 5, { memory := .ok 0 }⟩⟩

/-- The line of the second request is answered with 304 after the first was with 503. -/
theorem body_eq_line_second :
    ∃ exchange job ready, (reporting.handleAll [[], []] (reportingScene [503, 304])).1[1]? =
        some exchange ∧
      reporting.job [] (reporting.handleAll [[]] (reportingScene [503, 304])).2 = (.ok job, ready) ∧
      (exchange.outcome.body = reporting.resultLine job 0 ready ↔ ¬ (400 ≤ 304 ∧ 304 < 600)) := by
  have answered : (reportingScene [503, 304]).replies.schedule
      ((reportingScene [503, 304]).replies.taken + ((reporting.handleAll ([[], []].take 1)
        (reportingScene [503, 304])).1.flatMap Exchange.sent).length) = .status 304 := rfl
  obtain ⟨exchange, found, -, bare, -⟩ := reporting.body_eq_line_iff rfl [[], []]
    (reportingScene [503, 304]) _ rfl rfl rfl answered
  exact ⟨exchange, _, _, found, rfl, bare⟩

/-- A line that is answered with 304 comes back bare, though no code of the 200s took it. -/
theorem bare_line_not_modified :
    (reportingScene [304]).replies.next.1 = .status 304 ∧
    ((reporting.handleAll [[]] (reportingScene [304])).1.map (·.outcome.body)) =
      [reporting.resultLine (.sampled [] 5 (reportingScene [304]).clock.read.1) 0
        { reportingScene [304] with clock := (reportingScene [304]).clock.read.2 }] ∧
    ¬ (200 ≤ 304 ∧ 304 < 300) := by
  refine ⟨rfl, rfl, by decide⟩

end Endpoint
end LoadProbe
