import LoadProbe.Job
import LoadProbe.Proofs.Header
import LoadProbe.Proofs.Numeral

/-!
Which headers describe a job, and which field is blamed when they do not. The grammar is told by the
bytes of the fields alone. Main statement: `ofHeaders_decides`.
-/
namespace LoadProbe.Job

/-- The finite number that a field of time holds. -/
def Stamped (headers : Headers) (field : JobField) (millis : Binary64) : Prop :=
  ∃ text, headers.Reads field.name text ∧ Binary64.read? text = some millis ∧
    millis.isFinite = true

/-- The rate that the headers hold: a 64-bit number that the policy takes. -/
def Rated (headers : Headers) (policy : JobPolicy) (rate : UInt64) : Prop :=
  ∃ text, headers.Reads JobField.rate.name text ∧ Numeral.UnsignedDecimal text rate.toNat ∧
    (0 < rate ∨ policy.allowZeroRate = true)

/-- The rate before that the headers hold. -/
def LastRated (headers : Headers) (rate : Int64) : Prop :=
  ∃ text, headers.Reads JobField.lastRate.name text ∧ Numeral.SignedDecimal text rate.toInt

/-- The headers that describe a job. -/
structure Described (headers : Headers) (policy : JobPolicy) (job : Job) : Prop where
  routed : Stamped headers .routed job.routed
  arrived : Stamped headers .arrived job.arrived
  sequenceTold : policy.requireSequenceStart = true → job.sequenceStart? ≠ none
  sequenceStart (millis : Binary64) :
    job.sequenceStart? = some millis ↔ Stamped headers .sequenceStart millis
  rate : Rated headers policy job.rate
  /-- Whatever is no number counts as zero. -/
  lastRate : LastRated headers job.lastRate ∨ job.lastRate = 0 ∧ ¬ ∃ rate, LastRated headers rate

/-- The fields that a job may lack, in the order in which they are looked at. -/
def neededFields : List JobField := [.routed, .arrived, .sequenceStart, .rate]

/-- Whether the headers lack what a job needs of a field. -/
def Lacks (headers : Headers) (policy : JobPolicy) : JobField → Prop
  | .routed => ¬ ∃ millis, Stamped headers .routed millis
  | .arrived => ¬ ∃ millis, Stamped headers .arrived millis
  | .sequenceStart =>
    policy.requireSequenceStart = true ∧ ¬ ∃ millis, Stamped headers .sequenceStart millis
  | .rate => ¬ ∃ rate, Rated headers policy rate
  | .lastRate => False

/-- The first field that is lacking. -/
def Blamed (headers : Headers) (policy : JobPolicy) (field : JobField) : Prop :=
  ∃ before after, neededFields = before ++ field :: after ∧ Lacks headers policy field ∧
    ∀ earlier ∈ before, ¬ Lacks headers policy earlier

theorem stamp?_eq_some_iff {headers : Headers} {field : JobField} {millis : Binary64} :
    stamp? headers field = some millis ↔ Stamped headers field millis := by
  simp only [stamp?, Option.filter_eq_some_iff, Option.bind_eq_some_iff, Headers.field?_eq_some_iff,
    Stamped]
  constructor
  · rintro ⟨⟨text, reads, number⟩, finite⟩
    exact ⟨text, reads, number, finite⟩
  · rintro ⟨text, reads, number, finite⟩
    exact ⟨⟨text, reads, number⟩, finite⟩

theorem stamp?_eq_none_iff {headers : Headers} {field : JobField} :
    stamp? headers field = none ↔ ¬ ∃ millis, Stamped headers field millis := by
  simp only [Option.eq_none_iff_forall_ne_some, ne_eq, stamp?_eq_some_iff, not_exists]

theorem toOption_eq_some_iff {Cause α : Type} {result : Except Cause α} {a : α} :
    result.toOption = some a ↔ result = .ok a := by
  cases result with
  | error cause => simp [Except.toOption]
  | ok other => simp [Except.toOption]

theorem toldRate?_eq_some_iff {headers : Headers} {policy : JobPolicy} {rate : UInt64} :
    toldRate? headers policy = some rate ↔ Rated headers policy rate := by
  simp only [toldRate?, Option.filter_eq_some_iff, Option.bind_eq_some_iff,
    Headers.field?_eq_some_iff, toOption_eq_some_iff, Numeral.readUInt64_eq_ok_iff, Bool.or_eq_true,
    decide_eq_true_eq, Rated]
  constructor
  · rintro ⟨⟨text, reads, number⟩, taken⟩
    exact ⟨text, reads, number, taken⟩
  · rintro ⟨text, reads, number, taken⟩
    exact ⟨⟨text, reads, number⟩, taken⟩

theorem toldLastRate_eq_iff {headers : Headers} {rate : Int64} :
    toldLastRate headers = rate ↔
      LastRated headers rate ∨ rate = 0 ∧ ¬ ∃ rate, LastRated headers rate := by
  have told (rate : Int64) : ((headers.field? JobField.lastRate.name).bind fun text =>
      (Numeral.readInt64 text).toOption) = some rate ↔ LastRated headers rate := by
    simp only [Option.bind_eq_some_iff, Headers.field?_eq_some_iff, toOption_eq_some_iff,
      Numeral.readInt64_eq_ok_iff, LastRated]
  unfold toldLastRate
  cases held : (headers.field? JobField.lastRate.name).bind fun text =>
      (Numeral.readInt64 text).toOption with
  | none =>
    have nothing : ¬ ∃ rate, LastRated headers rate := by
      rintro ⟨other, rated⟩
      rw [← told, held] at rated
      cases rated
    constructor
    · rintro rfl
      exact .inr ⟨rfl, nothing⟩
    · rintro (rated | ⟨rfl, -⟩)
      · exact absurd ⟨rate, rated⟩ nothing
      · rfl
  | some last =>
    have rated := (told last).mp held
    constructor
    · rintro rfl
      exact .inl rated
    · rintro (other | ⟨-, nothing⟩)
      · rw [← told, held] at other
        exact Option.some.inj other
      · exact absurd ⟨last, rated⟩ nothing

/-- The order in which fields are looked at. The start of the sequence is held whether or not it is
needed. -/
theorem ofHeaders_eq (headers : Headers) (policy : JobPolicy) :
    ofHeaders headers policy =
      match stamp? headers .routed, stamp? headers .arrived with
      | none, _ => .error .routed
      | some _, none => .error .arrived
      | some routed, some arrived =>
        if policy.requireSequenceStart = true ∧ stamp? headers .sequenceStart = none then
          .error .sequenceStart
        else
          match toldRate? headers policy with
          | none => .error .rate
          | some rate =>
            .ok ⟨routed, arrived, stamp? headers .sequenceStart, rate, toldLastRate headers⟩ := by
  unfold ofHeaders stamp
  cases stamp? headers .routed with
  | none => rfl
  | some routed =>
    cases stamp? headers .arrived with
    | none => rfl
    | some arrived =>
      cases policy.requireSequenceStart with
      | false =>
        cases toldRate? headers policy <;> rfl
      | true =>
        cases stamp? headers .sequenceStart with
        | none => rfl
        | some start => cases toldRate? headers policy <;> rfl

/-- A job is made exactly if all that it needs is there. -/
theorem ofHeaders_eq_ok_iff {headers : Headers} {policy : JobPolicy} {job : Job} :
    ofHeaders headers policy = .ok job ↔
      stamp? headers .routed = some job.routed ∧ stamp? headers .arrived = some job.arrived ∧
      (policy.requireSequenceStart = true → job.sequenceStart? ≠ none) ∧
      stamp? headers .sequenceStart = job.sequenceStart? ∧
      toldRate? headers policy = some job.rate ∧ toldLastRate headers = job.lastRate := by
  rw [ofHeaders_eq]
  constructor
  · intro made
    split at made
    · cases made
    · cases made
    · next routed arrived =>
      split at made
      · cases made
      · next needed =>
        split at made
        · cases made
        · next told =>
          obtain rfl := Except.ok.inj made
          exact ⟨routed, arrived, fun required absent => needed ⟨required, absent⟩, rfl, told, rfl⟩
  · rintro ⟨routed, arrived, needed, start, told, last⟩
    rw [routed, arrived, start, told, last]
    simp only
    rw [if_neg (fun lacking => needed lacking.1 lacking.2)]

/-- Whether the program misses what a job needs of a field. -/
def lacking (headers : Headers) (policy : JobPolicy) : JobField → Bool
  | .routed => (stamp? headers .routed).isNone
  | .arrived => (stamp? headers .arrived).isNone
  | .sequenceStart => policy.requireSequenceStart && (stamp? headers .sequenceStart).isNone
  | .rate => (toldRate? headers policy).isNone
  | .lastRate => false

theorem lacking_iff {headers : Headers} {policy : JobPolicy} {field : JobField} :
    lacking headers policy field = true ↔ Lacks headers policy field := by
  cases field with
  | routed => simp only [lacking, Lacks, Option.isNone_iff_eq_none, stamp?_eq_none_iff]
  | arrived => simp only [lacking, Lacks, Option.isNone_iff_eq_none, stamp?_eq_none_iff]
  | sequenceStart =>
    simp only [lacking, Lacks, Bool.and_eq_true, Option.isNone_iff_eq_none, stamp?_eq_none_iff]
  | rate =>
    simp only [lacking, Lacks, Option.isNone_iff_eq_none, Option.eq_none_iff_forall_ne_some, ne_eq,
      toldRate?_eq_some_iff, not_exists]
  | lastRate => simp [lacking, Lacks]

/-- The blame falls on the first field that is missed. -/
theorem ofHeaders_eq_error_iff {headers : Headers} {policy : JobPolicy} {field : JobField} :
    ofHeaders headers policy = .error field ↔
      neededFields.find? (lacking headers policy) = some field := by
  rw [ofHeaders_eq]
  simp only [neededFields, List.find?_cons, List.find?_nil, lacking]
  cases stamp? headers .routed with
  | none => simp
  | some routed =>
    cases stamp? headers .arrived with
    | none => simp
    | some arrived =>
      by_cases missed : policy.requireSequenceStart = true ∧ stamp? headers .sequenceStart = none
      · simp [missed]
      · have present : (policy.requireSequenceStart && (stamp? headers .sequenceStart).isNone) =
            false := by
          rw [Bool.eq_false_iff, ne_eq, Bool.and_eq_true, Option.isNone_iff_eq_none]
          exact missed
        simp only [if_neg missed, present, Option.isNone_some]
        cases toldRate? headers policy with
        | none => simp
        | some rate => simp

theorem blamed_iff {headers : Headers} {policy : JobPolicy} {field : JobField} :
    Blamed headers policy field ↔ neededFields.find? (lacking headers policy) = some field := by
  rw [List.find?_eq_some_iff_append, lacking_iff]
  constructor
  · rintro ⟨before, after, whole, lacks, others⟩
    refine ⟨lacks, before, after, whole, fun earlier member => ?_⟩
    simpa only [Bool.not_eq_true', Bool.eq_false_iff, ne_eq, lacking_iff] using others earlier member
  · rintro ⟨lacks, before, after, whole, others⟩
    refine ⟨before, after, whole, lacks, fun earlier member => ?_⟩
    simpa only [Bool.not_eq_true', Bool.eq_false_iff, ne_eq, lacking_iff] using others earlier member

theorem described_iff {headers : Headers} {policy : JobPolicy} {job : Job} :
    Described headers policy job ↔ ofHeaders headers policy = .ok job := by
  have start : stamp? headers .sequenceStart = job.sequenceStart? ↔
      ∀ millis, job.sequenceStart? = some millis ↔ Stamped headers .sequenceStart millis := by
    simp only [← stamp?_eq_some_iff]
    constructor
    · intro same millis
      rw [same]
    · intro told
      exact Option.ext fun millis => (told millis).symm
  rw [ofHeaders_eq_ok_iff, stamp?_eq_some_iff, stamp?_eq_some_iff, start, toldRate?_eq_some_iff,
    toldLastRate_eq_iff]
  constructor
  · exact fun d => ⟨d.routed, d.arrived, d.sequenceTold, d.sequenceStart, d.rate, d.lastRate⟩
  · exact fun ⟨routed, arrived, needed, start, rate, last⟩ =>
      ⟨routed, arrived, needed, start, rate, last⟩

/-- A repeat of a name that came before changes nothing. -/
theorem ofHeaders_repeat (front back : Headers) (policy : JobPolicy) {header earlier : Header}
    (member : earlier ∈ front) (same : sameName earlier.name header.name = true) :
    ofHeaders (front ++ header :: back) policy = ofHeaders (front ++ back) policy := by
  have field (name : String) := Headers.field?_repeat front back name member same
  have stamps (name : JobField) :
      stamp? (front ++ header :: back) name = stamp? (front ++ back) name := by
    rw [stamp?, field, stamp?]
  rw [ofHeaders_eq, ofHeaders_eq]
  simp only [stamps, toldRate?, toldLastRate, field]

/-- For all headers and policies: a job is made exactly of the headers that describe it; otherwise
the first field that is lacking is blamed; and a later field of a name never rescues the first one
of that name. -/
theorem ofHeaders_decides (headers : Headers) (policy : JobPolicy) :
    (∀ job, ofHeaders headers policy = .ok job ↔ Described headers policy job) ∧
    (∀ field, ofHeaders headers policy = .error field ↔ Blamed headers policy field) ∧
    ∀ front header back, headers = front ++ header :: back →
      (∃ earlier ∈ front, sameName earlier.name header.name = true) →
      ofHeaders headers policy = ofHeaders (front ++ back) policy := by
  refine ⟨fun job => described_iff.symm, fun field => ?_, ?_⟩
  · rw [ofHeaders_eq_error_iff, blamed_iff]
  · rintro front header back rfl ⟨earlier, member, same⟩
    exact ofHeaders_repeat front back policy member same

/-- Headers of a job, but for its rate of zero. -/
def idleHeaders : Headers :=
  [.ofText "X-Request-Timestamp" "1000", .ofText "x-arrive-timestamp" " 1010.5",
    .ofText "x-rate" "0"]

/-- A rate of zero stays refused though a rate of five is told behind it. -/
theorem ofHeaders_decides_repeat :
    ofHeaders (idleHeaders ++ [.ofText "X-Rate" "5"]) {} = ofHeaders idleHeaders {} ∧
      ofHeaders idleHeaders {} = .error .rate := by
  have first : ∃ earlier ∈ idleHeaders, sameName earlier.name "X-Rate" = true := by
    simp only [sameName_eq]
    decide +kernel
  have routed : (stamp? idleHeaders .routed).isNone = false := by
    simp only [stamp?, Headers.field?, sameName_eq]
    decide +kernel
  have arrived : (stamp? idleHeaders .arrived).isNone = false := by
    simp only [stamp?, Headers.field?, sameName_eq]
    decide +kernel
  have rate : (toldRate? idleHeaders {}).isNone = true := by
    simp only [toldRate?, Headers.field?, sameName_eq]
    decide +kernel
  obtain ⟨-, -, rescue⟩ := ofHeaders_decides (idleHeaders ++ [.ofText "X-Rate" "5"]) {}
  refine ⟨?_, ofHeaders_eq_error_iff.mpr ?_⟩
  · simpa using rescue idleHeaders (.ofText "X-Rate" "5") [] rfl first
  · simp [neededFields, lacking, routed, arrived, rate]

end LoadProbe.Job
