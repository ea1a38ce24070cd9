import LoadProbe.Proofs.Endpoint.Accounting
import LoadProbe.Proofs.Job.Grammar

/-!
Jobs of sampled rates beside jobs of headers. Where the headers describe a job, sampling its rate
makes the same job, whatever the clock shows. Main statement: `sampled_agrees`.
-/
namespace LoadProbe

/-- The fields of other names than that of the rate. -/
def Headers.withoutRate (headers : Headers) : Headers :=
  headers.filter fun header => !sameName header.name JobField.rate.name

theorem JobField.name_ne_rate {field : JobField} (other : field ≠ .rate) :
    sameName field.name JobField.rate.name = false := by
  rw [sameName_eq]
  cases field with
  | rate => exact absurd rfl other
  | routed | arrived | sequenceStart | lastRate => decide +kernel

/-- What a field holds does not depend on the fields of the rate, unless it is the rate. -/
theorem Headers.field?_withoutRate (headers : Headers) {field : JobField} (other : field ≠ .rate) :
    headers.withoutRate.field? field.name = headers.field? field.name := by
  refine Headers.field?_filter headers fun header same => ?_
  rw [Bool.not_eq_true', Bool.eq_false_iff]
  intro rate
  have crossed := sameName_trans (sameName_symm same) rate
  rw [JobField.name_ne_rate other] at crossed
  cases crossed

namespace Job

theorem isFinite_of_stamp? {headers : Headers} {field : JobField} {millis : Binary64}
    (held : stamp? headers field = some millis) : millis.isFinite = true :=
  (Option.filter_eq_some_iff.mp held).2

theorem stamp?_withoutRate (headers : Headers) {field : JobField} (other : field ≠ .rate) :
    stamp? headers.withoutRate field = stamp? headers field := by
  rw [stamp?, Headers.field?_withoutRate headers other, stamp?]

/-- A sampled job looks at no field of the rate. -/
theorem sampled_withoutRate (headers : Headers) (rate : UInt64) (now : Binary64) :
    sampled headers.withoutRate rate now = sampled headers rate now := by
  have last : toldLastRate headers.withoutRate = toldLastRate headers := by
    rw [toldLastRate, Headers.field?_withoutRate headers (by decide), toldLastRate]
  simp only [sampled, last, stamp?_withoutRate headers (show JobField.arrived ≠ .rate by decide),
    stamp?_withoutRate headers (show JobField.routed ≠ .rate by decide),
    stamp?_withoutRate headers (show JobField.sequenceStart ≠ .rate by decide)]

/-- Headers that describe a job leave nothing to the clock. -/
theorem sampled_of_ofHeaders {headers : Headers} {policy : JobPolicy} {job : Job}
    (made : ofHeaders headers policy = .ok job) (now : Binary64) :
    sampled headers job.rate now = job := by
  obtain ⟨routed, arrived, -, start, -, last⟩ := ofHeaders_eq_ok_iff.mp made
  simp only [sampled, routed, arrived, start, last, Option.getD_some]

/-- A sampled job without a stamp for its arrival arrives when the clock is read. -/
theorem arrived_sampled {headers : Headers} {rate : UInt64} {now : Binary64}
    (absent : stamp? headers .arrived = none) : (sampled headers rate now).arrived = now := by
  change (stamp? headers .arrived).getD now = now
  rw [absent, Option.getD_none]

/-- A sampled job without a stamp for its routing was routed when it arrived. -/
theorem routed_sampled {headers : Headers} {rate : UInt64} {now : Binary64}
    (absent : stamp? headers .routed = none) :
    (sampled headers rate now).routed = (sampled headers rate now).arrived := by
  change (stamp? headers .routed).getD (sampled headers rate now).arrived = _
  rw [absent, Option.getD_none]

/-- Every stamp of a sampled job is one of the headers, which are finite, or what the clock shows. -/
theorem isFinite_sampled (headers : Headers) (rate : UInt64) {now : Binary64}
    (finite : now.isFinite = true) :
    (sampled headers rate now).arrived.isFinite = true ∧
      (sampled headers rate now).routed.isFinite = true ∧
      ∀ start ∈ (sampled headers rate now).sequenceStart?, start.isFinite = true := by
  have arrived : (sampled headers rate now).arrived.isFinite = true := by
    cases held : stamp? headers .arrived with
    | none => rwa [arrived_sampled held]
    | some millis => simpa [sampled, held] using isFinite_of_stamp? held
  refine ⟨arrived, ?_, fun start held => isFinite_of_stamp? held⟩
  cases held : stamp? headers .routed with
  | none => rwa [routed_sampled held]
  | some millis => simpa [sampled, held] using isFinite_of_stamp? held

/-- Headers that describe a job make the same job when its rate is sampled, whatever the clock shows;
fields of the rate do not matter to a sampled job; and while the clock shows finite numbers, so are
all of its stamps. No request is rejected for a rate that is sampled. -/
theorem sampled_agrees (headers : Headers) :
    (∀ policy job, ofHeaders headers policy = .ok job → ∀ now, sampled headers job.rate now = job) ∧
    (∀ others : Headers, others.withoutRate = headers.withoutRate →
      ∀ rate now, sampled others rate now = sampled headers rate now) ∧
    (∀ rate now, now.isFinite = true →
      (sampled headers rate now).arrived.isFinite = true ∧
        (sampled headers rate now).routed.isFinite = true ∧
        ∀ start ∈ (sampled headers rate now).sequenceStart?, start.isFinite = true) ∧
    ∀ (State : Type) (endpoint : Endpoint State) (scene : Scene State),
      endpoint.samples scene = true → ∃ rate ready,
        endpoint.job headers scene = (.ok (sampled headers rate scene.clock.read.1), ready) := by
  refine ⟨fun policy job made now => sampled_of_ofHeaders made now, ?_,
    fun rate now finite => isFinite_sampled headers rate finite, ?_⟩
  · intro others same rate now
    rw [← sampled_withoutRate others, same, sampled_withoutRate]
  · intro State endpoint scene samples
    rcases endpoint.job_cases headers scene with ⟨told, -⟩ | ⟨-, -, rate, draws, made⟩
    · rw [samples] at told
      cases told
    · exact ⟨rate, _, made⟩

/-- Headers that describe a job of rate five. -/
def pacedHeaders : Headers :=
  [.ofText "X-Request-Timestamp" "1000", .ofText "X-Rate" "5",
    .ofText "x-arrive-timestamp" "1010.5", .ofText "X-Seq-Start-Time" "-0"]

/-- The headers of a job with another rate behind the one that counts, read an hour later. -/
theorem sampled_agrees_paced :
    (∃ job, ofHeaders pacedHeaders {} = .ok job ∧
      sampled pacedHeaders job.rate (.ofInt 3600000) = job) ∧
    sampled (pacedHeaders ++ [Header.ofText "x-rate" "7"]) 5 (.ofInt 3600000) =
      sampled pacedHeaders 5 (.ofInt 3600000) ∧
    (sampled pacedHeaders 5 (.ofInt 3600000)).routed.isFinite = true ∧
    ∃ rate ready, Endpoint.job ⟨.scripted, .headers, .timing, {}, none⟩ pacedHeaders
      ⟨.ticking 0 1000, ⟨[]⟩, .ofCodes [], ⟨some 7, { memory := .ok 0 }⟩⟩ =
        (.ok (sampled pacedHeaders rate (Clock.ticking 0 1000).read.1), ready) := by
  have routed : (stamp? pacedHeaders .routed).isSome = true := by
    simp only [stamp?, Headers.field?, sameName_eq]
    decide +kernel
  have arrived : (stamp? pacedHeaders .arrived).isSome = true := by
    simp only [stamp?, Headers.field?, sameName_eq]
    decide +kernel
  have rate : (toldRate? pacedHeaders {}).isSome = true := by
    simp only [toldRate?, Headers.field?, sameName_eq]
    decide +kernel
  have repeated : (pacedHeaders ++ [Header.ofText "x-rate" "7"]).withoutRate =
      pacedHeaders.withoutRate := by
    simp only [Headers.withoutRate, sameName_eq]
    decide +kernel
  have finite : (Binary64.ofInt 3600000).isFinite = true := by decide +kernel
  obtain ⟨agrees, independent, stamps, unrejected⟩ := sampled_agrees pacedHeaders
  obtain ⟨routing, told⟩ := Option.isSome_iff_exists.mp routed
  obtain ⟨arrival, toldToo⟩ := Option.isSome_iff_exists.mp arrived
  obtain ⟨pace, rated⟩ := Option.isSome_iff_exists.mp rate
  have made : ofHeaders pacedHeaders {} = .ok ⟨routing, arrival, stamp? pacedHeaders .sequenceStart,
      pace, toldLastRate pacedHeaders⟩ :=
    ofHeaders_eq_ok_iff.mpr ⟨told, toldToo, by simp, rfl, rated, rfl⟩
  exact ⟨⟨_, made, agrees {} _ made _⟩, independent _ repeated 5 _, (stamps 5 _ finite).2.1,
    unrejected Script _ _ rfl⟩

end Job
end LoadProbe
