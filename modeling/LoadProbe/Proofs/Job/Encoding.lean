import LoadProbe.Proofs.Binary64.Written
import LoadProbe.Proofs.Header.Padded
import LoadProbe.Proofs.Job.Grammar

/-!
Jobs written as headers. Whatever the order of the fields and the padding of their values, the
headers of a job describe that job and no other. Main statement: `ofHeaders_rearranges`.
-/
namespace LoadProbe

theorem JobField.sameName_iff {field other : JobField} :
    sameName field.name other.name = true ↔ field = other := by
  rw [sameName_eq]
  cases field <;> cases other <;> decide +kernel

/-- Whether a policy takes a job. -/
structure JobPolicy.Admits (policy : JobPolicy) (job : Job) : Prop where
  rate : 0 < job.rate ∨ policy.allowZeroRate = true
  sequenceStart : policy.requireSequenceStart = true → job.sequenceStart? ≠ none

namespace Job

/-- A job all of whose stamps are finite. -/
structure Finite (job : Job) : Prop where
  routed : job.routed.isFinite = true
  arrived : job.arrived.isFinite = true
  sequenceStart : ∀ start ∈ job.sequenceStart?, start.isFinite = true

/-- The fields that tell a job, each with what it says. -/
def told (job : Job) : List (JobField × List Char) :=
  [(.routed, job.routed.chars), (.arrived, job.arrived.chars)] ++
    job.sequenceStart?.toList.map (fun start => (.sequenceStart, start.chars)) ++
    [(.rate, Numeral.digits job.rate.toNat), (.lastRate, Numeral.signedDigits job.lastRate.toInt)]

theorem toHeaders_eq (job : Job) :
    job.toHeaders = job.told.map fun said => .ofText said.1.name (String.ofList said.2) := by
  cases start : job.sequenceStart? with
  | none => simp [toHeaders, told, start, Binary64.text]
  | some stamp => simp [toHeaders, told, start, Binary64.text]

/-- No field tells a job twice. -/
theorem told_unique {job : Job} {field : JobField} {text other : List Char}
    (first : (field, text) ∈ job.told) (second : (field, other) ∈ job.told) : text = other := by
  cases field <;> simp [told] at first second <;> grind

theorem written_of_told {job : Job} {field : JobField} {text : List Char}
    (said : (field, text) ∈ job.told) : text ≠ [] ∧ ∀ c ∈ text, c ∈ Numeral.alphabet := by
  have stamp (millis : Binary64) : millis.chars ≠ [] ∧ ∀ c ∈ millis.chars, c ∈ Numeral.alphabet :=
    ⟨Binary64.chars_ne_nil millis, fun _ member => Binary64.mem_alphabet_of_mem_chars member⟩
  have rate (n : Nat) : Numeral.digits n ≠ [] ∧ ∀ c ∈ Numeral.digits n, c ∈ Numeral.alphabet :=
    ⟨Numeral.digits_ne_nil n, fun _ member =>
      Numeral.mem_alphabet_of_isDigit (Numeral.isDigit_of_mem_digits member)⟩
  have lastRate (z : Int) :
      Numeral.signedDigits z ≠ [] ∧ ∀ c ∈ Numeral.signedDigits z, c ∈ Numeral.alphabet :=
    ⟨Numeral.signedDigits_ne_nil z, fun _ member => Numeral.mem_alphabet_of_mem_signedDigits member⟩
  simp only [told, List.mem_append, List.mem_cons, List.mem_map, List.not_mem_nil, or_false,
    Prod.mk.injEq] at said
  rcases said with ((⟨-, rfl⟩ | ⟨-, rfl⟩) | ⟨millis, -, -, rfl⟩) | ⟨-, rfl⟩ | ⟨-, rfl⟩
  · exact stamp job.routed
  · exact stamp job.arrived
  · exact stamp millis
  · exact rate job.rate.toNat
  · exact lastRate job.lastRate.toInt

variable {job : Job} {headers : Headers}

/-- A field that tells the job reads as what was written, wherever it stands. -/
theorem field?_of_told (rearranges : headers.Rearranges job.toHeaders) {field : JobField}
    {text : List Char} (said : (field, text) ∈ job.told) :
    headers.field? field.name = some text := by
  rw [toHeaders_eq] at rearranges
  refine Headers.field?_of_reading ?_ fun header member same => ?_
  · obtain ⟨header, member, pads⟩ := rearranges.exists_padded (List.mem_map_of_mem said)
    exact ⟨header, member, pads.name⟩
  · obtain ⟨original, listed, pads⟩ := rearranges.exists_plain member
    obtain ⟨⟨field', text'⟩, said', rfl⟩ := List.mem_map.mp listed
    obtain rfl : field' = field := JobField.sameName_iff.mp (sameName_trans (sameName_symm pads.name) same)
    obtain rfl := told_unique said said'
    obtain ⟨nonempty, written⟩ := written_of_told said
    exact Header.reading_of_pads nonempty written pads

theorem field?_of_untold (rearranges : headers.Rearranges job.toHeaders) {field : JobField}
    (unsaid : ∀ text, (field, text) ∉ job.told) : headers.field? field.name = none := by
  rw [toHeaders_eq] at rearranges
  refine Headers.field?_eq_none_of_unnamed fun header member same => ?_
  obtain ⟨original, listed, pads⟩ := rearranges.exists_plain member
  obtain ⟨⟨field', text⟩, said, rfl⟩ := List.mem_map.mp listed
  obtain rfl : field' = field := JobField.sameName_iff.mp (sameName_trans (sameName_symm pads.name) same)
  exact unsaid text said

theorem stamp?_of_field? {field : JobField} {millis : Binary64}
    (held : headers.field? field.name = some millis.chars) (finite : millis.isFinite = true) :
    stamp? headers field = some millis := by
  rw [stamp?, held, Option.bind_some, Binary64.read?_chars, Option.filter_some, if_pos finite]

theorem stamp?_sequenceStart (rearranges : headers.Rearranges job.toHeaders) (finite : job.Finite) :
    stamp? headers .sequenceStart = job.sequenceStart? := by
  cases start : job.sequenceStart? with
  | none =>
    rw [stamp?, field?_of_untold rearranges (by simp [told, start])]
    rfl
  | some millis =>
    exact stamp?_of_field? (field?_of_told rearranges (by simp [told, start]))
      (finite.sequenceStart millis start)

/-- A job with finite stamps that the policy takes is made of its headers, in any order and with any
spaces and tabs around the values. -/
theorem ofHeaders_rearranges {policy : JobPolicy} (finite : job.Finite) (admits : policy.Admits job)
    (rearranges : headers.Rearranges job.toHeaders) : ofHeaders headers policy = .ok job := by
  have routed : headers.field? JobField.routed.name = some job.routed.chars :=
    field?_of_told rearranges (by simp [told])
  have arrived : headers.field? JobField.arrived.name = some job.arrived.chars :=
    field?_of_told rearranges (by simp [told])
  have rate : headers.field? JobField.rate.name = some (Numeral.digits job.rate.toNat) :=
    field?_of_told rearranges (by simp [told])
  have lastRate :
      headers.field? JobField.lastRate.name = some (Numeral.signedDigits job.lastRate.toInt) :=
    field?_of_told rearranges (by simp [told])
  refine ofHeaders_eq_ok_iff.mpr ⟨stamp?_of_field? routed finite.routed,
    stamp?_of_field? arrived finite.arrived, admits.sequenceStart,
    stamp?_sequenceStart rearranges finite, ?_, ?_⟩
  · have taken : (decide (0 < job.rate) || policy.allowZeroRate) = true := by
      simpa only [Bool.or_eq_true, decide_eq_true_eq] using admits.rate
    rw [toldRate?, rate, Option.bind_some, Numeral.readUInt64_digits, Except.toOption,
      Option.filter_some, if_pos taken]
  · rw [toldLastRate, lastRate, Option.bind_some, Numeral.readInt64_signedDigits, Except.toOption,
      Option.getD_some]

end Job
end LoadProbe
