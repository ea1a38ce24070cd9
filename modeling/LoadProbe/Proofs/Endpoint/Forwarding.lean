import LoadProbe.Proofs.Endpoint.Delivery
import LoadProbe.Proofs.Job.Encoding
import LoadProbe.Proofs.Job.Sampled

/-!
Jobs that travel: from the headers of a request to the job, and from the job on to the collector.
Nothing of a job is lost on the way in, nor of its arrival on the way out. Main statement:
`job_reads_back`.
-/
namespace LoadProbe

/-- The fields that a line is sent with. -/
def Post.headers (post : Post) : Headers :=
  .ofText "X-PodIP" post.sender :: post.arrival?.toList.map (.ofText JobField.arrived.name)

namespace Collector

variable {collector : Collector}

theorem headers_post (forwards : collector.forwardsArrival = true) (line : String)
    (arrived : Binary64) : (collector.post line arrived).headers =
      [.ofText "X-PodIP" collector.sender.text, .ofText JobField.arrived.name arrived.text] := by
  simp [Post.headers, post, forwards]

/-- The sender is told under another name than the arrival, so that the arrival is what counts. -/
theorem arrival_of_named (forwards : collector.forwardsArrival = true) {line : String}
    {arrived : Binary64} {header : Header}
    (member : header ∈ (collector.post line arrived).headers)
    (same : sameName header.name JobField.arrived.name = true) :
    header = .ofText JobField.arrived.name arrived.text := by
  rw [headers_post forwards] at member
  rcases List.mem_pair.mp member with rfl | rfl
  · have other : sameName "X-PodIP" JobField.arrived.name = false := by
      rw [sameName_eq]
      decide +kernel
    exact absurd same (by simp [Header.ofText, other])
  · rfl

/-- A forwarded arrival that is finite reads back as it was. -/
theorem stamp?_post (forwards : collector.forwardsArrival = true) (line : String)
    {arrived : Binary64} (finite : arrived.isFinite = true) :
    Job.stamp? (collector.post line arrived).headers .arrived = some arrived := by
  refine Job.stamp?_of_field? (Headers.field?_of_reading ?_ fun header member same => ?_) finite
  · refine ⟨.ofText JobField.arrived.name arrived.text, ?_, sameName_refl _⟩
    rw [headers_post forwards]
    exact List.mem_pair.mpr (.inr rfl)
  · rw [arrival_of_named forwards member same]
    exact Header.reading_of_pads (Binary64.chars_ne_nil arrived)
      (fun _ inside => Binary64.mem_alphabet_of_mem_chars inside) (.refl _)

end Collector

namespace Endpoint

variable {State : Type}

/-- Whatever made it, a job arrived at a finite time, as long as the clock shows one. -/
theorem isFinite_arrived {endpoint : Endpoint State} {headers : Headers}
    {scene ready : Scene State} {job : Job} (finite : scene.clock.read.1.isFinite = true)
    (made : endpoint.job headers scene = (.ok job, ready)) : job.arrived.isFinite = true := by
  rcases endpoint.job_cases headers scene with ⟨-, -, -, told⟩ | ⟨-, -, rate, draws, told⟩
  · rw [told, Prod.mk.injEq] at made
    obtain ⟨-, arrived, -⟩ := Job.ofHeaders_eq_ok_iff.mp made.1
    exact Job.isFinite_of_stamp? arrived
  · rw [told, Prod.mk.injEq] at made
    obtain rfl := Except.ok.inj made.1
    exact (Job.isFinite_sampled headers rate finite).1

/-- A line that was measured is posted once, with the arrival of its job. -/
theorem sent_perform (endpoint : Endpoint State) {collector : Collector}
    (configured : endpoint.collector? = some collector) (job : Job) (scene : Scene State)
    {memory : Int64} (measured : (endpoint.work job scene).1.memory = .ok memory) :
    (endpoint.perform job scene).1.sent =
      [collector.post (endpoint.resultLine job memory scene) job.arrived] := by
  rw [endpoint.perform_measured job scene measured]
  rcases endpoint.report_cases job (endpoint.resultLine job memory scene)
    { scene with clock := (endpoint.clockAfter job scene).read.2
                 state := (endpoint.work job scene).2 } with
    ⟨absent, -⟩ | ⟨other, log, present, reported⟩
  · cases absent.symm.trans configured
  · obtain rfl : collector = other := Option.some.inj (configured.symm.trans present)
    rw [reported]
    simp [Exchange.sent, Collector.deliver_sent]

/-- A job with finite stamps that the policy takes is made of its own headers, in any order and with
any spaces and tabs around the values. And whatever makes a job while the clock shows finite times,
if its work is measured for a collector that is told arrivals, then its line is posted once; each
field of the arrival in that post is readable; and the arrival is read from there as the one that
the line was measured with. -/
theorem job_reads_back :
    (∀ (job : Job) (policy : JobPolicy) (headers : Headers), job.Finite → policy.Admits job →
      headers.Rearranges job.toHeaders → Job.ofHeaders headers policy = .ok job) ∧
    ∀ (State : Type) (endpoint : Endpoint State) (collector : Collector) (headers : Headers)
      (scene ready : Scene State) (job : Job) (memory : Int64),
      endpoint.collector? = some collector → collector.forwardsArrival = true →
      scene.clock.read.1.isFinite = true → endpoint.job headers scene = (.ok job, ready) →
      (endpoint.work job ready).1.memory = .ok memory →
      ∃ post started ended, (endpoint.handle headers scene).1.sent = [post] ∧
        post.body = (Measurement.ofJob job started ended memory).line endpoint.layout ∧
        (∀ header ∈ post.headers, sameName header.name JobField.arrived.name = true →
          header.text? = some job.arrived.chars) ∧
        Job.stamp? post.headers .arrived = some job.arrived := by
  refine ⟨fun job policy headers => Job.ofHeaders_rearranges, ?_⟩
  intro State endpoint collector headers scene ready job memory configured forwards finite made
    measured
  have handled : endpoint.handle headers scene = endpoint.perform job ready := by
    simp [handle, made]
  refine ⟨collector.post (endpoint.resultLine job memory ready) job.arrived, ready.clock.read.1,
    (endpoint.clockAfter job ready).read.1, ?_, rfl, fun header member same => ?_,
    Collector.stamp?_post forwards _ (isFinite_arrived finite made)⟩
  · rw [handled]
    exact endpoint.sent_perform configured job ready measured
  · rw [Collector.arrival_of_named forwards member same]
    exact Header.text?_ofText _ fun _ inside => Binary64.mem_alphabet_of_mem_chars inside

/-- A job with the greatest rate, the least rate before and stamps that are zero and below. -/
def extremeJob : Job where
  routed := .zero true
  arrived := .ofInt (-1010)
  sequenceStart? := some (.zero false)
  rate := 0xffffffffffffffff
  lastRate := -0x8000000000000000

/-- The fields of a job from the last one to the first, each between a space and a tab. -/
def extremeHeaders : Headers :=
  extremeJob.toHeaders.reverse.map fun header =>
    { header with value := [32] ++ header.value ++ [9] }

/-- An endpoint that passes arrivals on. -/
def forwarding : Endpoint Script where
  workload := .scripted
  rates := .headers
  layout := .timing
  collector? := reporting.collector?.map fun collector => { collector with forwardsArrival := true }

/-- The extreme job reads back from its headers, and the arrival of a sampled job from a post that
is refused. -/
theorem job_reads_back_extreme :
    Job.ofHeaders extremeHeaders { requireSequenceStart := true } = .ok extremeJob ∧
    ∃ post, (forwarding.handle [] (reportingScene [503])).1.sent = [post] ∧
      Job.stamp? post.headers .arrived = some (reportingScene [503]).clock.read.1 := by
  obtain ⟨inward, onward⟩ := job_reads_back
  have finite : extremeJob.Finite := by
    refine ⟨by decide +kernel, by decide +kernel, fun start held => ?_⟩
    obtain rfl : .zero false = start := Option.some.inj held
    decide
  have rearranges : Headers.Rearranges extremeHeaders extremeJob.toHeaders := by
    refine ⟨extremeJob.toHeaders.reverse, List.reverse_perm _, ?_⟩
    rw [extremeHeaders, List.forall₂_map_left_iff, List.forall₂_same]
    exact fun header _ => ⟨sameName_refl header.name, [32], [9], rfl, by simp [Header.isGap], by simp [Header.isGap]⟩
  have shown : (reportingScene [503]).clock.read.1.isFinite = true := by decide +kernel
  obtain ⟨post, -, -, sent, -, -, told⟩ := onward Script forwarding _ [] (reportingScene [503]) _ _
    0 rfl rfl shown rfl rfl
  exact ⟨inward extremeJob { requireSequenceStart := true } extremeHeaders finite
    ⟨.inl (by decide), fun _ => by decide⟩ rearranges, post, sent, told⟩

end Endpoint
end LoadProbe
