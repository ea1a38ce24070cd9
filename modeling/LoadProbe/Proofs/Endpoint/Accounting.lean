import LoadProbe.Endpoint

/-!
The accounts of an endpoint: what each request costs in runs of the workload, reads of the clock and
lines sent, and what it answers. Main statement: `handleAll_accounted`, for requests in any number.
-/
namespace LoadProbe

variable {State : Type}

/-- The workload with a note of every job that it runs, the latest last. -/
def Workload.noting (workload : Workload State) : Workload (List Job × State) where
  chooseRate noted :=
    ((workload.chooseRate noted.2).1, noted.1, (workload.chooseRate noted.2).2)
  run job noted := ((workload.run job noted.2).1, noted.1 ++ [job], (workload.run job noted.2).2)

/-- The scene with notes of the jobs that were run so far. -/
def Scene.noting (scene : Scene State) (jobs : List Job) : Scene (List Job × State) :=
  ⟨scene.clock, scene.draws, scene.replies, (jobs, scene.state)⟩

namespace Outcome

/-- The reads of the clock around the work that led to an outcome. -/
def reads : Outcome → Nat
  | .rejected _ => 0
  | .failed _ => 1
  | .reported _ | .undelivered _ _ => 2

end Outcome

namespace Collector

/-- What is received of a line is the line, unless nothing takes it. -/
theorem deliver_posts (collector : Collector) (line : String) (arrived : Binary64)
    (reply : Reply) :
    (collector.deliver line arrived reply).posts =
      if reply = .silence then [] else [(collector.deliver line arrived reply).sent] := by
  cases reply with
  | silence => rfl
  | status code =>
    rw [if_neg (by simp)]
    simp only [deliver]
    split <;> rfl

/-- What is sent does not depend on the reply. -/
theorem deliver_sent (collector : Collector) (line : String) (arrived : Binary64)
    (reply : Reply) : (collector.deliver line arrived reply).sent = collector.post line arrived := by
  cases reply with
  | silence => rfl
  | status code =>
    simp only [deliver]
    split <;> rfl

theorem deliver_sent_body (collector : Collector) (line : String) (arrived : Binary64)
    (reply : Reply) : (collector.deliver line arrived reply).sent.body = line :=
  congrArg Post.body (collector.deliver_sent line arrived reply)

end Collector

namespace Endpoint

/-- The endpoint around the workload with notes. -/
def noting (endpoint : Endpoint State) : Endpoint (List Job × State) :=
  ⟨endpoint.workload.noting, endpoint.rates, endpoint.layout, endpoint.policy,
    endpoint.collector?⟩

/-- Whether the rate of the next job is sampled, by the workload or from a table. -/
def samples (endpoint : Endpoint State) (scene : Scene State) : Bool :=
  match (endpoint.workload.chooseRate scene.state).1, endpoint.rates with
  | none, .headers => false
  | _, _ => true

/-- The run of a job in the scene that it was made in. -/
def work (endpoint : Endpoint State) (job : Job) (scene : Scene State) : WorkReport × State :=
  endpoint.workload.run job scene.state

/-- The clock right after the work on a job, which one read came right before. -/
def clockAfter (endpoint : Endpoint State) (job : Job) (scene : Scene State) : Clock :=
  scene.clock.read.2.advance (endpoint.work job scene).1.duration

/-- The measurement of a job, from the read right before the work and the read right after it. -/
def measurement (endpoint : Endpoint State) (job : Job) (memory : Int64) (scene : Scene State) :
    Measurement :=
  .ofJob job scene.clock.read.1 (endpoint.clockAfter job scene).read.1 memory

def resultLine (endpoint : Endpoint State) (job : Job) (memory : Int64) (scene : Scene State) :
    String :=
  (endpoint.measurement job memory scene).line endpoint.layout

/-- Why the line of a job is not delivered, if there is a collector and it fails to take it. -/
def deliveryFailure? (endpoint : Endpoint State) (job : Job) (line : String)
    (scene : Scene State) : Option Collector.Failure :=
  endpoint.collector?.bind fun collector =>
    match (collector.deliver line job.arrived scene.replies.next.1).result with
    | .ok () => none
    | .error failure => some failure

/-- What a job costs and answers once it is made. The work lies between two reads of the clock, and
only a line that was measured is sent, once and as it is. -/
structure Performed (endpoint : Endpoint State) (job : Job) (scene : Scene State)
    (exchange : Exchange) (after : Scene State) : Prop where
  job? : exchange.job? = some job
  state : after.state = (endpoint.work job scene).2
  reads : after.clock.reads = scene.clock.reads + exchange.outcome.reads
  /-- The replies go on by one for each line that is sent. -/
  replies : after.replies =
    { scene.replies with taken := scene.replies.taken + exchange.sent.length }
  failed (cause : Explanation) : (endpoint.work job scene).1.memory = .error cause →
    exchange.outcome = .failed cause ∧
    exchange.outcome.body =
      "workload failed: " ++ ": ".intercalate (cause.outermost :: cause.causes) ∧
    exchange.sent = [] ∧ exchange.posts = [] ∧ after.replies = scene.replies
  measured (memory : Int64) : (endpoint.work job scene).1.memory = .ok memory →
    exchange.sent.map Post.body =
      endpoint.collector?.toList.map (fun _ => endpoint.resultLine job memory scene) ∧
    exchange.posts = (if scene.replies.next.1 = .silence then [] else exchange.sent) ∧
    match endpoint.deliveryFailure? job (endpoint.resultLine job memory scene) scene with
    | none => exchange.outcome = .reported (endpoint.resultLine job memory scene) ∧
      exchange.outcome.body = endpoint.resultLine job memory scene
    | some failure =>
      exchange.outcome = .undelivered (endpoint.resultLine job memory scene) failure ∧
      exchange.outcome.body = endpoint.resultLine job memory scene ++ " " ++ failure.message

/-- What one request costs and answers. -/
structure Accounted (endpoint : Endpoint State) (headers : Headers) (before : Scene State)
    (exchange : Exchange) (after : Scene State) : Prop where
  /-- The workload is given the job of the request, if there is one. -/
  job? : exchange.job? = (endpoint.job headers before).1.toOption
  rejected_iff (field : JobField) : exchange.outcome = .rejected field ↔
    (endpoint.workload.chooseRate before.state).1 = none ∧ endpoint.rates = .headers ∧
      Job.ofHeaders headers endpoint.policy = .error field
  rejected (field : JobField) : exchange.outcome = .rejected field →
    exchange.job? = none ∧ exchange.outcome.body = "lack headers" ∧
    exchange.sent = [] ∧ exchange.posts = [] ∧
    after.clock = before.clock ∧ after.replies = before.replies
  performed (job : Job) (scene : Scene State) : endpoint.job headers before = (.ok job, scene) →
    endpoint.Performed job scene exchange after
  reads : after.clock.reads =
    before.clock.reads + (endpoint.samples before).toNat + exchange.outcome.reads
  replies : after.replies =
    { before.replies with taken := before.replies.taken + exchange.sent.length }

/-- Requests that are accounted for one after the other. -/
inductive Accounts (endpoint : Endpoint State) :
    List Headers → Scene State → List Exchange → Scene State → Prop where
  | done {scene : Scene State} : Accounts endpoint [] scene [] scene
  | next {headers : Headers} {rest : List Headers} {before middle after : Scene State}
      {exchange : Exchange} {exchanges : List Exchange}
      (first : endpoint.Accounted headers before exchange middle)
      (others : Accounts endpoint rest middle exchanges after) :
      Accounts endpoint (headers :: rest) before (exchange :: exchanges) after

/-- A request is made a job by a sample, which reads the clock once, or by its headers alone. -/
theorem job_cases (endpoint : Endpoint State) (headers : Headers) (scene : Scene State) :
    (endpoint.samples scene = false ∧ (endpoint.workload.chooseRate scene.state).1 = none ∧
      endpoint.rates = .headers ∧ endpoint.job headers scene =
        (Job.ofHeaders headers endpoint.policy,
          { scene with state := (endpoint.workload.chooseRate scene.state).2 })) ∨
    (endpoint.samples scene = true ∧
      ¬ ((endpoint.workload.chooseRate scene.state).1 = none ∧ endpoint.rates = .headers) ∧
      ∃ rate draws, endpoint.job headers scene =
        (.ok (.sampled headers rate scene.clock.read.1),
          ⟨scene.clock.read.2, draws, scene.replies,
            (endpoint.workload.chooseRate scene.state).2⟩)) := by
  rcases chosen : endpoint.workload.chooseRate scene.state with ⟨_ | rate, state⟩
  · cases source : endpoint.rates with
    | headers =>
      left
      simp [samples, job, chosen, source]
    | table table =>
      right
      refine ⟨by simp [samples, chosen, source], by simp, (table.sample scene.draws).1,
        (table.sample scene.draws).2, ?_⟩
      simp [job, chosen, source]
  · right
    refine ⟨by simp [samples, chosen], by simp, rate, scene.draws, ?_⟩
    simp [job, chosen]

/-- Work that fails is told, and its job goes nowhere. -/
theorem perform_failed (endpoint : Endpoint State) (job : Job) (scene : Scene State)
    {cause : Explanation} (failed : (endpoint.work job scene).1.memory = .error cause) :
    endpoint.perform job scene =
      (⟨some job, .failed cause, none, (endpoint.work job scene).1.log ++ [workFailed job cause]⟩,
        { scene with clock := endpoint.clockAfter job scene
                     state := (endpoint.work job scene).2 }) := by
  simp only [work] at failed
  simp only [perform, failed, work, clockAfter]

/-- Work that succeeds ends with a read of the clock, and its line is reported. -/
theorem perform_measured (endpoint : Endpoint State) (job : Job) (scene : Scene State)
    {memory : Int64} (measured : (endpoint.work job scene).1.memory = .ok memory) :
    endpoint.perform job scene =
      let reported := endpoint.report job (endpoint.resultLine job memory scene)
        { scene with clock := (endpoint.clockAfter job scene).read.2
                     state := (endpoint.work job scene).2 }
      (⟨some job, reported.1, reported.2.1, (endpoint.work job scene).1.log ++
        finished (endpoint.measurement job memory scene) :: reported.2.2.1⟩, reported.2.2.2) := by
  simp only [work] at measured
  simp only [perform, measured, work, clockAfter, resultLine, measurement]

/-- A line is reported by one delivery, or by none without a collector. -/
theorem report_cases (endpoint : Endpoint State) (job : Job) (line : String)
    (scene : Scene State) :
    (endpoint.collector? = none ∧
      endpoint.report job line scene = (.reported line, none, [], scene)) ∨
    ∃ collector log, endpoint.collector? = some collector ∧
      endpoint.report job line scene =
        (match endpoint.deliveryFailure? job line scene with
          | none => .reported line
          | some failure => .undelivered line failure,
        some (collector.deliver line job.arrived scene.replies.next.1), log,
        { scene with replies := scene.replies.next.2 }) := by
  cases configured : endpoint.collector? with
  | none =>
    left
    exact ⟨rfl, by simp [report, configured]⟩
  | some collector =>
    right
    cases result : (collector.deliver line job.arrived scene.replies.next.1).result with
    | ok =>
      refine ⟨collector, (collector.deliver line job.arrived scene.replies.next.1).log, rfl, ?_⟩
      simp [report, configured, result, deliveryFailure?]
    | error failure =>
      refine ⟨collector, (collector.deliver line job.arrived scene.replies.next.1).log ++
        [{ severity := .warn, message := failure.message }], rfl, ?_⟩
      simp [report, configured, result, deliveryFailure?]

/-- Without or with a collector, a line that was measured is answered first of all. -/
theorem performed_of_measured (endpoint : Endpoint State) (job : Job) (scene : Scene State)
    {memory : Int64} (measured : (endpoint.work job scene).1.memory = .ok memory) :
    endpoint.Performed job scene (endpoint.perform job scene).1
      (endpoint.perform job scene).2 := by
  rw [endpoint.perform_measured job scene measured]
  have only (other : Int64) (same : (endpoint.work job scene).1.memory = .ok other) :
      memory = other := Except.ok.inj (measured.symm.trans same)
  rcases endpoint.report_cases job (endpoint.resultLine job memory scene)
    { scene with clock := (endpoint.clockAfter job scene).read.2
                 state := (endpoint.work job scene).2 } with
    ⟨absent, reported⟩ | ⟨collector, log, configured, reported⟩
  · rw [reported]
    refine ⟨rfl, rfl, rfl, rfl, by simp [measured], ?_⟩
    intro other same
    obtain rfl := only other same
    refine ⟨by simp [Exchange.sent, absent], by simp [Exchange.posts, Exchange.sent], ?_⟩
    simp [deliveryFailure?, absent, Outcome.body]
  · rw [reported]
    refine ⟨rfl, rfl, ?_, rfl, by simp [measured], ?_⟩
    · cases endpoint.deliveryFailure? job (endpoint.resultLine job memory scene) _ <;> rfl
    intro other same
    obtain rfl := only other same
    refine ⟨?_, ?_, ?_⟩
    · simp [Exchange.sent, configured, Collector.deliver_sent_body]
    · simp [Exchange.posts, Exchange.sent, Collector.deliver_posts]
    -- The collector sees the replies only, which the work and the clock leave alone.
    · have unmoved : endpoint.deliveryFailure? job (endpoint.resultLine job memory scene)
          { scene with clock := (endpoint.clockAfter job scene).read.2
                       state := (endpoint.work job scene).2 } =
          endpoint.deliveryFailure? job (endpoint.resultLine job memory scene) scene := rfl
      rw [unmoved]
      cases endpoint.deliveryFailure? job (endpoint.resultLine job memory scene) scene with
      | none => exact ⟨rfl, rfl⟩
      | some failure => exact ⟨rfl, rfl⟩

theorem perform_performed (endpoint : Endpoint State) (job : Job) (scene : Scene State) :
    endpoint.Performed job scene (endpoint.perform job scene).1 (endpoint.perform job scene).2 := by
  cases came : (endpoint.work job scene).1.memory with
  | error cause =>
    rw [endpoint.perform_failed job scene came]
    refine ⟨rfl, rfl, rfl, rfl, ?_, by simp [came]⟩
    intro other same
    obtain rfl : cause = other := Except.error.inj (came.symm.trans same)
    exact ⟨rfl, rfl, rfl, rfl, rfl⟩
  | ok memory => exact endpoint.performed_of_measured job scene came

theorem Performed.not_rejected {endpoint : Endpoint State} {job : Job} {scene after : Scene State}
    {exchange : Exchange} (performed : endpoint.Performed job scene exchange after)
    (field : JobField) : exchange.outcome ≠ .rejected field := by
  intro rejected
  cases came : (endpoint.work job scene).1.memory with
  | error cause =>
    have told := (performed.failed cause came).1
    simp [rejected] at told
  | ok memory =>
    have told := (performed.measured memory came).2.2
    cases refused : endpoint.deliveryFailure? job (endpoint.resultLine job memory scene) scene with
    | none => simp [refused, rejected] at told
    | some failure => simp [refused, rejected] at told

/-- A request that became a job is accounted for by its work. -/
theorem handle_accounted_of_job (endpoint : Endpoint State) (headers : Headers)
    (before scene : Scene State) (job : Job)
    (made : endpoint.job headers before = (.ok job, scene))
    (reads : scene.clock.reads = before.clock.reads + (endpoint.samples before).toNat)
    (replies : scene.replies = before.replies)
    (accepted : ∀ field, ¬ ((endpoint.workload.chooseRate before.state).1 = none ∧
      endpoint.rates = .headers ∧ Job.ofHeaders headers endpoint.policy = .error field)) :
    endpoint.Accounted headers before (endpoint.handle headers before).1
      (endpoint.handle headers before).2 := by
  have handled : endpoint.handle headers before = endpoint.perform job scene := by
    simp [handle, made]
  have performed := endpoint.perform_performed job scene
  rw [handled]
  refine ⟨?_, ?_, ?_, ?_, ?_, ?_⟩
  · rw [performed.job?, made]
    rfl
  · intro field
    exact ⟨fun rejected => absurd rejected (performed.not_rejected field),
      fun told => absurd told (accepted field)⟩
  · intro field rejected
    exact absurd rejected (performed.not_rejected field)
  · intro other elsewhere same
    obtain ⟨rfl, rfl⟩ : job = other ∧ scene = elsewhere := by simpa [made] using same
    exact performed
  · rw [performed.reads, reads]
  · rw [performed.replies, replies]

theorem handle_accounted (endpoint : Endpoint State) (headers : Headers) (before : Scene State) :
    endpoint.Accounted headers before (endpoint.handle headers before).1
      (endpoint.handle headers before).2 := by
  rcases endpoint.job_cases headers before with
    ⟨told, unchosen, source, made⟩ | ⟨sampled, chosen, rate, draws, made⟩
  · cases described : Job.ofHeaders headers endpoint.policy with
    | error field =>
      rw [described] at made
      have handled : endpoint.handle headers before = (⟨none, .rejected field, none,
          [rejecting field]⟩,
          { before with state := (endpoint.workload.chooseRate before.state).2 }) := by
        simp [handle, made]
      rw [handled]
      refine ⟨by rw [made]; rfl, ?_, ?_, by simp [made], by simp [told, Outcome.reads], rfl⟩
      · intro other
        simp [unchosen, source, described]
      · intro other rejected
        exact ⟨rfl, rfl, rfl, rfl, rfl, rfl⟩
    | ok job =>
      rw [described] at made
      exact endpoint.handle_accounted_of_job headers before _ job made (by simp [told]) rfl
        (by simp [described])
  · exact endpoint.handle_accounted_of_job headers before _ _ made (by simp [sampled, Clock.read])
      rfl (fun field told => chosen ⟨told.1, told.2.1⟩)

theorem handleAll_accounts (endpoint : Endpoint State) (requests : List Headers)
    (scene : Scene State) :
    endpoint.Accounts requests scene (endpoint.handleAll requests scene).1
      (endpoint.handleAll requests scene).2 := by
  -- Each request starts in the scene that the one before it left.
  induction requests generalizing scene with
  | nil => exact .done
  | cons headers rest ih =>
    exact .next (endpoint.handle_accounted headers scene) (ih (endpoint.handle headers scene).2)

/-- How many of the requests get a sampled rate. -/
def sampledRates (endpoint : Endpoint State) : List Headers → Scene State → Nat
  | [], _ => 0
  | headers :: rest, scene =>
    (endpoint.samples scene).toNat + sampledRates endpoint rest (endpoint.handle headers scene).2

/-- The reads of the clock around the work of exchanges. -/
def workReads : List Exchange → Nat
  | [] => 0
  | exchange :: rest => exchange.outcome.reads + workReads rest

theorem job_noting (endpoint : Endpoint State) (headers : Headers) (scene : Scene State)
    (jobs : List Job) :
    endpoint.noting.job headers (scene.noting jobs) =
      ((endpoint.job headers scene).1, (endpoint.job headers scene).2.noting jobs) := by
  rcases chosen : endpoint.workload.chooseRate scene.state with ⟨_ | rate, state⟩
  · cases source : endpoint.rates with
    | headers => simp [job, noting, Workload.noting, Scene.noting, chosen, source]
    | table table => simp [job, noting, Workload.noting, Scene.noting, chosen, source]
  · simp [job, noting, Workload.noting, Scene.noting, chosen]

theorem report_noting (endpoint : Endpoint State) (job : Job) (line : String)
    (scene : Scene State) (jobs : List Job) :
    endpoint.noting.report job line (scene.noting jobs) =
      let reported := endpoint.report job line scene
      (reported.1, reported.2.1, reported.2.2.1, reported.2.2.2.noting jobs) := by
  cases configured : endpoint.collector? with
  | none => simp [report, noting, configured]
  | some collector =>
    simp only [report, noting, configured, Scene.noting]
    cases (collector.deliver line job.arrived scene.replies.next.1).result <;> rfl

/-- The notes grow by a job exactly when it is worked on. -/
theorem perform_noting (endpoint : Endpoint State) (job : Job) (scene : Scene State)
    (jobs : List Job) :
    endpoint.noting.perform job (scene.noting jobs) =
      ((endpoint.perform job scene).1, (endpoint.perform job scene).2.noting (jobs ++ [job])) := by
  have noted : endpoint.noting.work job (scene.noting jobs) =
      ((endpoint.work job scene).1, jobs ++ [job], (endpoint.work job scene).2) := rfl
  cases came : (endpoint.work job scene).1.memory with
  | error cause =>
    rw [endpoint.perform_failed job scene came,
      endpoint.noting.perform_failed job (scene.noting jobs) (by rw [noted]; exact came)]
    rfl
  | ok memory =>
    rw [endpoint.perform_measured job scene came,
      endpoint.noting.perform_measured job (scene.noting jobs) (by rw [noted]; exact came)]
    have reported := endpoint.report_noting job (endpoint.resultLine job memory scene)
      { scene with clock := (endpoint.clockAfter job scene).read.2
                   state := (endpoint.work job scene).2 } (jobs ++ [job])
    exact congrArg (fun reported => (Exchange.mk (some job) reported.1 reported.2.1
      ((endpoint.work job scene).1.log ++
        finished (endpoint.measurement job memory scene) :: reported.2.2.1), reported.2.2.2))
      reported

theorem handle_noting (endpoint : Endpoint State) (headers : Headers) (scene : Scene State)
    (jobs : List Job) :
    endpoint.noting.handle headers (scene.noting jobs) =
      ((endpoint.handle headers scene).1, (endpoint.handle headers scene).2.noting
        (jobs ++ (endpoint.handle headers scene).1.job?.toList)) := by
  rcases made : endpoint.job headers scene with ⟨field | job, ready⟩
  · simp [handle, job_noting, made]
  · have given := (endpoint.perform_performed job ready).job?
    simp [handle, job_noting, made, perform_noting, given]

/-- The notes after requests are the jobs that these became, each once and in order. -/
theorem handleAll_noting (endpoint : Endpoint State) (requests : List Headers)
    (scene : Scene State) (jobs : List Job) :
    endpoint.noting.handleAll requests (scene.noting jobs) =
      ((endpoint.handleAll requests scene).1, (endpoint.handleAll requests scene).2.noting
        (jobs ++ (endpoint.handleAll requests scene).1.filterMap Exchange.job?)) := by
  induction requests generalizing scene jobs with
  | nil => simp [handleAll]
  | cons headers rest ih =>
    simp only [handleAll, handle_noting, ih]
    cases given : (endpoint.handle headers scene).1.job? with
    | none => simp [given]
    | some job => simp [given]

theorem handleAll_reads (endpoint : Endpoint State) (requests : List Headers)
    (scene : Scene State) :
    (endpoint.handleAll requests scene).2.clock.reads =
      scene.clock.reads + endpoint.sampledRates requests scene +
        workReads (endpoint.handleAll requests scene).1 := by
  induction requests generalizing scene with
  | nil => simp [handleAll, sampledRates, workReads]
  | cons headers rest ih =>
    have first := (endpoint.handle_accounted headers scene).reads
    simp only [handleAll, sampledRates, workReads, ih, first]
    omega

theorem handleAll_replies (endpoint : Endpoint State) (requests : List Headers)
    (scene : Scene State) :
    (endpoint.handleAll requests scene).2.replies =
      { scene.replies with
        taken := scene.replies.taken +
          ((endpoint.handleAll requests scene).1.flatMap Exchange.sent).length } := by
  induction requests generalizing scene with
  | nil => simp [handleAll]
  | cons headers rest ih =>
    have first := (endpoint.handle_accounted headers scene).replies
    simp only [handleAll, List.flatMap_cons, List.length_append, ih, first, Nat.add_assoc]

/-- Whatever the workload, the sources of rates, the layout, the policy and the collector are, and
whatever the clock, the generator and the network answer, each of any number of requests is accounted
for. The workload notes exactly the jobs that were made, each once and in order; the clock is read
once for a sampled rate and as often as the outcomes say; and the network is asked once for each line
that was sent. -/
theorem handleAll_accounted (endpoint : Endpoint State) (requests : List Headers)
    (scene : Scene State) :
    endpoint.Accounts requests scene (endpoint.handleAll requests scene).1
      (endpoint.handleAll requests scene).2 ∧
    endpoint.noting.handleAll requests (scene.noting []) =
      ((endpoint.handleAll requests scene).1, (endpoint.handleAll requests scene).2.noting
        ((endpoint.handleAll requests scene).1.filterMap Exchange.job?)) ∧
    (endpoint.handleAll requests scene).2.clock.reads =
      scene.clock.reads + endpoint.sampledRates requests scene +
        workReads (endpoint.handleAll requests scene).1 ∧
    (endpoint.handleAll requests scene).2.replies =
      { scene.replies with
        taken := scene.replies.taken +
          ((endpoint.handleAll requests scene).1.flatMap Exchange.sent).length } := by
  refine ⟨endpoint.handleAll_accounts requests scene, ?_, endpoint.handleAll_reads requests scene,
    endpoint.handleAll_replies requests scene⟩
  simpa using endpoint.handleAll_noting requests scene []

end Endpoint
end LoadProbe
