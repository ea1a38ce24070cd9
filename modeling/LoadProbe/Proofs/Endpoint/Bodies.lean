import LoadProbe.Proofs.Endpoint.Accounting
import LoadProbe.Proofs.Measurement

/-!
What a caller learns from the body of an answer alone. The first character tells a result line from
the messages of requests without one, and whatever follows the first line feed tells that the
delivery of the line failed. Main statement: `ofBody_handle`.
-/
namespace LoadProbe

/-- What can happen to a request, with the result line if there is one. -/
inductive Happening where
  | rejected
  | failed
  /-- The line was delivered, or there is no collector. -/
  | reported (line : String)
  | undelivered (line : String)
  deriving DecidableEq

namespace Happening

def line? : Happening → Option String
  | .rejected | .failed => none
  | .reported line | .undelivered line => some line

/-- A text up to and including its first line feed, and what follows. -/
def cutLine : List Char → List Char × List Char
  | [] => ([], [])
  | c :: rest => if c = '\n' then ([c], rest) else (c :: (cutLine rest).1, (cutLine rest).2)

/-- What a body tells to one who sees nothing else. -/
def ofBody (body : String) : Happening :=
  match body.toList with
  | 'l' :: _ => .rejected
  | 'w' :: _ => .failed
  | text =>
    if (cutLine text).2 = [] then .reported (String.ofList (cutLine text).1)
    else .undelivered (String.ofList (cutLine text).1)

theorem cutLine_append {front : List Char} (none : '\n' ∉ front) (rest : List Char) :
    cutLine (front ++ '\n' :: rest) = (front ++ ['\n'], rest) := by
  induction front with
  | nil => simp [cutLine]
  | cons c front ih =>
    have other : c ≠ '\n' := fun same => none (same ▸ List.mem_cons_self)
    have later : '\n' ∉ front := fun found => none (List.mem_cons_of_mem c found)
    simp [cutLine, other, ih later]

theorem ofBody_rejection : ofBody Outcome.rejection = .rejected := by
  have first : Outcome.rejection.toList = 'l' :: "ack headers".toList := rfl
  simp [ofBody, first]

theorem ofBody_workFailure (cause : Explanation) : ofBody (workFailure cause) = .failed := by
  have first (rest : List Char) :
      "workload failed: ".toList ++ rest = 'w' :: ("orkload failed: ".toList ++ rest) := rfl
  have whole : (workFailure cause).toList = _ := String.toList_append.trans (first _)
  simp [ofBody, whole]

/-- A text that begins with no letter of a message is taken for a line and what follows it. -/
theorem ofBody_of_head {body : String} (notL : body.toList.head? ≠ some 'l')
    (notW : body.toList.head? ≠ some 'w') :
    ofBody body =
      if (cutLine body.toList).2 = [] then .reported (String.ofList (cutLine body.toList).1)
      else .undelivered (String.ofList (cutLine body.toList).1) := by
  unfold ofBody
  split
  · next rest whole => simp [whole] at notL
  · next rest whole => simp [whole] at notW
  · rfl

/-- No result line begins like a message, and its only line feed ends it. -/
theorem ofBody_line (measurement : Measurement) (layout : LineLayout) (remark : String) :
    ofBody (measurement.line layout ++ remark) =
      if remark = "" then .reported (measurement.line layout)
      else .undelivered (measurement.line layout) := by
  have whole : (measurement.line layout ++ remark).toList =
      measurement.body layout ++ '\n' :: remark.toList := by
    rw [String.toList_append, measurement.toList_line, List.append_assoc]
    rfl
  have first {c : Char} (message : c ∉ '\n' :: ' ' :: Numeral.alphabet) :
      (measurement.line layout ++ remark).toList.head? ≠ some c := by
    rw [whole, List.head?_append]
    intro head
    cases begins : (measurement.body layout).head? with
    | none =>
      obtain rfl : '\n' = c := by simpa [begins] using head
      exact message List.mem_cons_self
    | some other =>
      obtain rfl : other = c := by simpa [begins] using head
      exact message (List.mem_cons_of_mem _ (List.mem_cons.mpr
        (Measurement.mem_body (List.mem_of_head? begins))))
  rw [ofBody_of_head (first (by decide)) (first (by decide)), whole,
    cutLine_append (measurement.feed_not_mem_body layout), ← measurement.toList_line,
    String.ofList_toList]
  simp

end Happening

/-- What an outcome says that happened. -/
def Outcome.happening : Outcome → Happening
  | .rejected _ => .rejected
  | .failed _ => .failed
  | .reported line => .reported line
  | .undelivered line _ => .undelivered line

/-- A body tells what happened, as long as only lines of measurements are reported. -/
theorem Happening.ofBody_body {outcome : Outcome}
    (measured : ∀ line, outcome.happening.line? = some line →
      ∃ measurement : Measurement, ∃ layout, line = measurement.line layout) :
    ofBody outcome.body = outcome.happening := by
  cases outcome with
  | rejected field => exact ofBody_rejection
  | failed cause => exact ofBody_workFailure cause
  | reported line =>
    obtain ⟨measurement, layout, rfl⟩ := measured line rfl
    have told := ofBody_line measurement layout ""
    rwa [String.append_empty, if_pos rfl] at told
  | undelivered line failure =>
    obtain ⟨measurement, layout, rfl⟩ := measured line rfl
    have told := ofBody_line measurement layout (" " ++ failure.message)
    rwa [if_neg (by simp), ← String.append_assoc] at told

namespace Endpoint

variable {State : Type}

/-- What happens to a request: whether it becomes a job, whether the work on it succeeds, and whether
the line of its measurement is delivered where there is a collector. -/
def happening (endpoint : Endpoint State) (headers : Headers) (scene : Scene State) : Happening :=
  match endpoint.job headers scene with
  | (.error _, _) => .rejected
  | (.ok job, ready) =>
    match (endpoint.work job ready).1.memory with
    | .error _ => .failed
    | .ok memory =>
      match endpoint.deliveryFailure? job (endpoint.resultLine job memory ready) ready with
      | none => .reported (endpoint.resultLine job memory ready)
      | some _ => .undelivered (endpoint.resultLine job memory ready)

/-- What happens to a request is what its outcome says, and lines are posted where there is a
collector. -/
theorem handle_happening (endpoint : Endpoint State) (headers : Headers) (scene : Scene State) :
    (endpoint.handle headers scene).1.outcome.happening = endpoint.happening headers scene ∧
    (endpoint.handle headers scene).1.sent.map Post.body =
      endpoint.collector?.toList.flatMap fun _ =>
        (endpoint.happening headers scene).line?.toList := by
  have accounted := endpoint.handle_accounted headers scene
  unfold happening
  rcases made : endpoint.job headers scene with ⟨field | job, ready⟩
  · simp [handle, made, Outcome.happening, Exchange.sent, Happening.line?]
  · have performed := accounted.performed job ready made
    cases came : (endpoint.work job ready).1.memory with
    | error cause =>
      obtain ⟨outcome, -, sent, -⟩ := performed.failed cause came
      simp [outcome, sent, came, Outcome.happening, Happening.line?]
    | ok memory =>
      obtain ⟨sent, -, answered⟩ := performed.measured memory came
      cases refused : endpoint.deliveryFailure? job (endpoint.resultLine job memory ready) ready with
      | none =>
        rw [refused] at answered
        simp [answered.1, sent, came, refused, Outcome.happening, Happening.line?,
          List.map_eq_flatMap]
      | some failure =>
        rw [refused] at answered
        simp [answered.1, sent, came, refused, Outcome.happening, Happening.line?,
          List.map_eq_flatMap]

theorem exists_measurement_of_line? {endpoint : Endpoint State} {headers : Headers}
    {scene : Scene State} {line : String}
    (told : (endpoint.happening headers scene).line? = some line) :
    ∃ measurement : Measurement, ∃ layout, line = measurement.line layout := by
  unfold happening at told
  split at told
  · cases told
  · next job ready made =>
    split at told
    · cases told
    · next memory came =>
      refine ⟨endpoint.measurement job memory ready, endpoint.layout, ?_⟩
      split at told
      · exact (Option.some.inj told).symm
      · exact (Option.some.inj told).symm

theorem ofBody_outcome (endpoint : Endpoint State) (headers : Headers) (scene : Scene State) :
    Happening.ofBody (endpoint.handle headers scene).1.outcome.body =
      endpoint.happening headers scene := by
  have happened := (endpoint.handle_happening headers scene).1
  rw [← happened]
  refine Happening.ofBody_body fun line measured => ?_
  rw [happened] at measured
  exact exists_measurement_of_line? measured

/-- The message of a rejected request is no answer to one that became a job. -/
theorem body_ne_rejection {endpoint : Endpoint State} {headers : Headers}
    {scene ready : Scene State} {job : Job}
    (made : endpoint.job headers scene = (.ok job, ready)) :
    (endpoint.handle headers scene).1.outcome.body ≠ Outcome.rejection := by
  intro same
  have told := endpoint.ofBody_outcome headers scene
  rw [same, Happening.ofBody_rejection] at told
  simp only [happening, made] at told
  split at told
  · cases told
  · split at told <;> cases told

/-- Whatever the endpoint, the headers, the clock, the work and the answer of the collector are, the
body of the answer tells which of the four things happened to the request. If its work was measured,
the result line is the body up to and including its first line feed, and that is what was posted if
there is a collector, whether or not it was delivered. -/
theorem ofBody_handle (endpoint : Endpoint State) (headers : Headers) (scene : Scene State) :
    Happening.ofBody (endpoint.handle headers scene).1.outcome.body =
      endpoint.happening headers scene ∧
    (endpoint.handle headers scene).1.sent.map Post.body =
      endpoint.collector?.toList.flatMap fun _ =>
        (Happening.ofBody (endpoint.handle headers scene).1.outcome.body).line?.toList := by
  have told := endpoint.ofBody_outcome headers scene
  exact ⟨told, by rw [told, (endpoint.handle_happening headers scene).2]⟩

end Endpoint
end LoadProbe
