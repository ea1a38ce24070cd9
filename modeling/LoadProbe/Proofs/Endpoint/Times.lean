import LoadProbe.Proofs.Binary64.Order
import LoadProbe.Proofs.Endpoint.Delivery
import LoadProbe.Proofs.Job.Sampled

/-!
The times of measured jobs. While the clock is never seen to go back, what a measurement tells is in
order as far as the stamps of its job are, and a sampled job has stamps in order wherever its headers
hold none. Main statement: `handleAll_timed`, for requests in any number.
-/
namespace LoadProbe

variable {State : Type}

/-- Readings of a clock of 64 bits that is never seen to go back. -/
structure Onward (readings : List Int) : Prop where
  sorted : readings.Pairwise (· ≤ ·)
  word (shown : Int) : shown ∈ readings → ∃ word : Int64, shown = word.toInt

theorem Onward.sublist {fewer readings : List Int} (onward : Onward readings)
    (part : fewer.Sublist readings) : Onward fewer :=
  ⟨onward.sorted.sublist part, fun shown member => onward.word shown (part.subset member)⟩

namespace Clock

theorem isFinite_millis (word : Int64) :
    (Binary64.ofInt word.toInt).isFinite = true ∧ (millis word.toInt).isFinite = true := by
  have low := word.le_toInt
  have high := word.toInt_lt
  have small : word.toInt.natAbs ≤ UInt64.size := by
    rw [UInt64.size]
    omega
  have thousand : Binary64.ofInt 1000 = .finite false (1000 * Binary64.one) (by decide +kernel) := by
    decide +kernel
  exact Binary64.isFinite_ofInt_div small thousand (by omega)

theorem millis_le_millis {earlier later : Int64} (le : earlier.toInt ≤ later.toInt) :
    (millis earlier.toInt).le (millis later.toInt) = true :=
  Binary64.div_le_div_right (isFinite_millis earlier).1 (isFinite_millis later).1
    (by decide +kernel) (by decide +kernel) (Binary64.ofInt_le_ofInt le)

end Clock

theorem Onward.isFinite_millis {readings : List Int} (onward : Onward readings) {shown : Int}
    (member : shown ∈ readings) : (Clock.millis shown).isFinite = true := by
  obtain ⟨word, rfl⟩ := onward.word shown member
  exact (Clock.isFinite_millis word).2

theorem Onward.millis_le_millis {earlier later : Int} {rest : List Int}
    (onward : Onward (earlier :: rest)) (member : later ∈ rest) :
    (Clock.millis earlier).le (Clock.millis later) = true := by
  have le := List.rel_of_pairwise_cons onward.sorted member
  obtain ⟨first, rfl⟩ := onward.word earlier (List.mem_cons_self ..)
  obtain ⟨second, rfl⟩ := onward.word later (List.mem_cons_of_mem _ member)
  exact Clock.millis_le_millis le

/-- What the times of a measured job have to do with each other and with the headers. -/
structure Measurement.Timed (headers : Headers) (sampled : Bool) (job : Job)
    (measurement : Measurement) : Prop where
  ended : measurement.started.le measurement.ended = true
  response : job.arrived.le measurement.started = true →
    (Binary64.zero false).le measurement.responseTime = true ∧
    measurement.responseTime.le measurement.latency = true
  completion : job.routed.le job.arrived = true →
    measurement.latency.le measurement.completionTime = true
  /-- A sampled job that no stamp says the arrival of arrived before its work began. -/
  unarrived : sampled = true → (¬ ∃ millis, Job.Stamped headers .arrived millis) →
    job.arrived.le measurement.started = true ∧
    (Binary64.zero false).le measurement.responseTime = true ∧
    measurement.responseTime.le measurement.latency = true
  /-- A sampled job that no stamp says the routing of was routed when it arrived. -/
  unrouted : sampled = true → (¬ ∃ millis, Job.Stamped headers .routed millis) →
    measurement.completionTime = measurement.latency
  sequence (start : Binary64) : Job.Stamped headers .sequenceStart start →
    start ≠ .zero false → start ≠ .zero true →
    measurement.sequenceLatency = measurement.ended - start
  noSequence : (∀ start, Job.Stamped headers .sequenceStart start →
      start = .zero false ∨ start = .zero true) →
    measurement.sequenceLatency = .zero false

namespace Measurement

theorem sequenceLatency_eq (job : Job) (started ended : Binary64) (memory : Int64) :
    (ofJob job started ended memory).sequenceLatency =
      match job.sequenceStart? with
      | some start =>
        if start = .zero false ∨ start = .zero true then .zero false else ended - start
      | none => .zero false := by
  simp only [ofJob]
  cases job.sequenceStart? with
  | none => rfl
  | some start =>
    simp only [Binary64.same_zero_iff]

/-- What the times of a job rest on: that its work ended after it began, and which of its stamps
stand in for others. -/
theorem timed_ofJob {headers : Headers} {sampled : Bool} {job : Job} {started ended : Binary64}
    (memory : Int64) (routedFinite : job.routed.isFinite = true)
    (arrivedFinite : job.arrived.isFinite = true) (startedFinite : started.isFinite = true)
    (endedFinite : ended.isFinite = true) (onward : started.le ended = true)
    (start : job.sequenceStart? = Job.stamp? headers .sequenceStart)
    (unarrived : sampled = true → Job.stamp? headers .arrived = none →
      job.arrived.le started = true)
    (unrouted : sampled = true → Job.stamp? headers .routed = none → job.routed = job.arrived) :
    Timed headers sampled job (ofJob job started ended memory) := by
  have arrivedSelf := Binary64.le_refl_of_isFinite arrivedFinite
  have endedSelf := Binary64.le_refl_of_isFinite endedFinite
  have response : job.arrived.le started = true →
      (Binary64.zero false).le (started - job.arrived) = true ∧
        (started - job.arrived).le (ended - job.arrived) = true := fun before =>
    ⟨Binary64.zero_le_sub startedFinite arrivedFinite before,
      Binary64.sub_le_sub startedFinite endedFinite arrivedFinite arrivedFinite onward
        arrivedSelf⟩
  have sequence := sequenceLatency_eq job started ended memory
  rw [start] at sequence
  constructor
  case ended => exact onward
  case response => exact response
  case completion =>
    exact fun before => Binary64.sub_le_sub endedFinite endedFinite arrivedFinite routedFinite
      endedSelf before
  case unarrived =>
    intro isSampled absent
    have before := unarrived isSampled (Job.stamp?_eq_none_iff.mpr absent)
    exact ⟨before, response before⟩
  case unrouted =>
    intro isSampled absent
    have same := unrouted isSampled (Job.stamp?_eq_none_iff.mpr absent)
    exact congrArg (ended - ·) same
  case sequence =>
    intro began held notZero notNegativeZero
    rw [sequence, Job.stamp?_eq_some_iff.mpr held]
    exact if_neg (not_or.mpr ⟨notZero, notNegativeZero⟩)
  case noSequence =>
    intro onlyZero
    rw [sequence]
    cases held : Job.stamp? headers .sequenceStart with
    | none => rfl
    | some began => exact if_pos (onlyZero began (Job.stamp?_eq_some_iff.mp held))

end Measurement

namespace Endpoint

/-- What the clock shows when it is read for a request: once for a sampled rate, right before the
work, and right after it if it succeeds. -/
def readings (endpoint : Endpoint State) (headers : Headers) (scene : Scene State) : List Int :=
  (if endpoint.samples scene then [scene.clock.now] else []) ++
    match endpoint.job headers scene with
    | (.error _, _) => []
    | (.ok job, ready) =>
      ready.clock.now ::
        match (endpoint.work job ready).1.memory with
        | .error _ => []
        | .ok _ => [(endpoint.clockAfter job ready).now]

/-- What the clock shows when it is read for requests one after the other. -/
def allReadings (endpoint : Endpoint State) : List Headers → Scene State → List Int
  | [], _ => []
  | headers :: rest, scene =>
    endpoint.readings headers scene ++
      allReadings endpoint rest (endpoint.handle headers scene).2

theorem handle_readings (endpoint : Endpoint State) (headers : Headers) (scene : Scene State) :
    (endpoint.handle headers scene).2.clock.reads =
      scene.clock.reads + (endpoint.readings headers scene).length := by
  have accounted := endpoint.handle_accounted headers scene
  rw [accounted.reads, readings, List.length_append, Nat.add_assoc]
  congr 1
  have rate : (if endpoint.samples scene then [scene.clock.now] else []).length =
      (endpoint.samples scene).toNat := by
    cases endpoint.samples scene <;> rfl
  rw [rate]
  congr 1
  rcases made : endpoint.job headers scene with ⟨field | job, ready⟩
  · simp [handle, made, Outcome.reads]
  · have performed := accounted.performed job ready made
    cases came : (endpoint.work job ready).1.memory with
    | error cause => simp [(performed.failed cause came).1, came, Outcome.reads]
    | ok memory =>
      have told := (performed.measured memory came).2.2
      split at told
      · simp [told.1, came, Outcome.reads]
      · simp [told.1, came, Outcome.reads]

/-- The clock is read exactly as often as it shows something. -/
theorem handleAll_readings (endpoint : Endpoint State) (requests : List Headers)
    (scene : Scene State) :
    (endpoint.handleAll requests scene).2.clock.reads =
      scene.clock.reads + (endpoint.allReadings requests scene).length := by
  induction requests generalizing scene with
  | nil => rfl
  | cons headers rest ih =>
    simp only [handleAll, allReadings, ih, endpoint.handle_readings, List.length_append,
      Nat.add_assoc]

theorem readings_sublist (endpoint : Endpoint State) (requests : List Headers)
    (scene : Scene State) {k : Nat} {headers : Headers} (nth : requests[k]? = some headers) :
    (endpoint.readings headers (endpoint.handleAll (requests.take k) scene).2).Sublist
      (endpoint.allReadings requests scene) := by
  induction requests generalizing scene k with
  | nil => simp at nth
  | cons first rest ih =>
    cases k with
    | zero =>
      obtain rfl : first = headers := by simpa using nth
      exact List.sublist_append_left ..
    | succ k =>
      exact (ih (endpoint.handle first scene).2 (by simpa using nth)).trans
        (List.sublist_append_right ..)

/-- The times of one request whose work succeeds. The arrival of a sampled job is read before the
start of its work, which is read before its end. -/
theorem timed_of_readings (endpoint : Endpoint State) {headers : Headers} {scene ready : Scene State}
    {job : Job} {memory : Int64} (made : endpoint.job headers scene = (.ok job, ready))
    (measured : (endpoint.work job ready).1.memory = .ok memory)
    (onward : Onward (endpoint.readings headers scene)) :
    Measurement.Timed headers (endpoint.samples scene) job
      (endpoint.measurement job memory ready) := by
  have shown : endpoint.readings headers scene =
      (if endpoint.samples scene then [scene.clock.now] else []) ++
        [ready.clock.now, (endpoint.clockAfter job ready).now] := by
    simp only [readings, made, measured]
  rw [shown] at onward
  have work := onward.sublist (List.sublist_append_right ..)
  have started := work.isFinite_millis (List.mem_cons_self ..)
  have ended := work.isFinite_millis (List.mem_cons_of_mem _ (List.mem_singleton_self _))
  have inOrder := work.millis_le_millis (List.mem_singleton_self _)
  rcases endpoint.job_cases headers scene with
    ⟨told, -, -, described⟩ | ⟨sampled, -, rate, draws, chosen⟩
  · rw [made] at described
    obtain ⟨routed, arrived, -, start, -⟩ :=
      Job.ofHeaders_eq_ok_iff.mp (congrArg Prod.fst described).symm
    exact Measurement.timed_ofJob memory (Job.isFinite_of_stamp? routed)
      (Job.isFinite_of_stamp? arrived) started ended inOrder start.symm
      (fun sampled => by simp [told] at sampled) (fun sampled => by simp [told] at sampled)
  · rw [made] at chosen
    obtain ⟨rfl, rfl⟩ : job = .sampled headers rate scene.clock.read.1 ∧ _ := by simpa using chosen
    rw [sampled] at onward
    -- The read for the rate comes first, and stands in for an arrival that is not stamped.
    have now : scene.clock.read.1.isFinite = true := onward.isFinite_millis (List.mem_cons_self ..)
    obtain ⟨arrived, routed, -⟩ := Job.isFinite_sampled headers rate now
    refine Measurement.timed_ofJob memory routed arrived started ended inOrder rfl ?_
      (fun _ absent => Job.routed_sampled absent)
    intro _ absent
    rw [Job.arrived_sampled absent]
    exact onward.millis_le_millis (List.mem_cons_self ..)

/-- A request whose work succeeds is answered with the line of its measurement, delivered or not. -/
theorem handle_measured (endpoint : Endpoint State) {headers : Headers} {scene ready : Scene State}
    {job : Job} {memory : Int64} (made : endpoint.job headers scene = (.ok job, ready))
    (measured : (endpoint.work job ready).1.memory = .ok memory) :
    (endpoint.handle headers scene).1.job? = some job ∧
    finished (endpoint.measurement job memory ready) ∈ (endpoint.handle headers scene).1.log ∧
    ((endpoint.handle headers scene).1.outcome = .reported (endpoint.resultLine job memory ready) ∨
      ∃ failure, (endpoint.handle headers scene).1.outcome =
        .undelivered (endpoint.resultLine job memory ready) failure) := by
  have performed := (endpoint.handle_accounted headers scene).performed job ready made
  refine ⟨performed.job?, ?_, ?_⟩
  · have handled : endpoint.handle headers scene = endpoint.perform job ready := by
      simp [handle, made]
    rw [handled, endpoint.perform_measured job ready measured]
    simp
  · have told := (performed.measured memory measured).2.2
    split at told
    · exact .inl told.1
    · exact .inr ⟨_, told.1⟩

/-- In a run of any number of requests whose readings of the clock never go back, take one whose work
succeeds. It is answered with the line of a measurement. If the work began after the arrival, the
response time lies between zero and the latency; if the job was routed before the arrival, the
latency is at most the completion time. Without a stamp for the arrival a sampled job arrives before
its work begins, and without one for the routing its completion time is its latency. -/
theorem handleAll_timed (endpoint : Endpoint State) (requests : List Headers)
    (scene ready : Scene State) {k : Nat} {headers : Headers} {job : Job} {memory : Int64}
    (nth : requests[k]? = some headers)
    (made : endpoint.job headers (endpoint.handleAll (requests.take k) scene).2 = (.ok job, ready))
    (measured : (endpoint.work job ready).1.memory = .ok memory)
    (onward : Onward (endpoint.allReadings requests scene)) :
    ∃ exchange, (endpoint.handleAll requests scene).1[k]? = some exchange ∧
      exchange.job? = some job ∧
      finished (endpoint.measurement job memory ready) ∈ exchange.log ∧
      (exchange.outcome = .reported (endpoint.resultLine job memory ready) ∨
        ∃ failure, exchange.outcome =
          .undelivered (endpoint.resultLine job memory ready) failure) ∧
      Measurement.Timed headers (endpoint.samples (endpoint.handleAll (requests.take k) scene).2) job
        (endpoint.measurement job memory ready) := by
  obtain ⟨given, logged, answered⟩ := endpoint.handle_measured made measured
  exact ⟨_, endpoint.getElem?_handleAll requests scene nth, given, logged, answered,
    endpoint.timed_of_readings made measured
      (onward.sublist (endpoint.readings_sublist requests scene nth))⟩

/-- The second of two requests without stamps, on a clock that goes on by one millisecond a read. -/
theorem handleAll_timed_second :
    ∃ exchange job ready, (reporting.handleAll [[], []] (reportingScene [])).1[1]? = some exchange ∧
      reporting.job [] (reporting.handleAll [[]] (reportingScene [])).2 = (.ok job, ready) ∧
      exchange.job? = some job ∧
      (Binary64.zero false).le (reporting.measurement job 0 ready).responseTime = true ∧
      (reporting.measurement job 0 ready).completionTime =
        (reporting.measurement job 0 ready).latency ∧
      (reporting.measurement job 0 ready).sequenceLatency = .zero false := by
  have shown : reporting.allReadings [[], []] (reportingScene []) =
      [0, 1000, 2000, 3000, 4000, 5000] := rfl
  have onward : Onward (reporting.allReadings [[], []] (reportingScene [])) := by
    rw [shown]
    refine ⟨by decide, fun reading member => ⟨.ofInt reading, ?_⟩⟩
    revert reading
    decide
  have unstamped (field : JobField) : ¬ ∃ millis, Job.Stamped [] field millis :=
    Job.stamp?_eq_none_iff.mp rfl
  obtain ⟨exchange, found, given, -, -, timed⟩ := reporting.handleAll_timed [[], []]
    (reportingScene []) _ (k := 1) rfl rfl rfl onward
  exact ⟨exchange, _, _, found, rfl, given, (timed.unarrived rfl (unstamped _)).2.1,
    timed.unrouted rfl (unstamped _),
    timed.noSequence fun start held => absurd ⟨start, held⟩ (unstamped _)⟩

end Endpoint
end LoadProbe
