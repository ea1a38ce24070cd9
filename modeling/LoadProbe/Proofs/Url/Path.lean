import LoadProbe.Proofs.Url.Cuts

/-!
Path, query and fragment of a URL: no dots are left in a path that was read, so that it is read back
from its text. Main statements: `readSegments_flatMap` and `readTail_marked`.
-/
namespace LoadProbe.Url

/-- A segment of a path in its normal form. -/
structure SegmentName (segment : List Char) : Prop where
  kept : Kept inPath segment
  single : '/' ∉ segment
  notDot : isDot segment = false
  notDoubleDot : isDoubleDot segment = false

theorem segmentName_nil : SegmentName [] where
  kept := fun _ member => absurd member List.not_mem_nil
  single := List.not_mem_nil
  notDot := by decide
  notDoubleDot := by decide

theorem push_other (above : List (List Char)) (segment : List Char) :
    push .other above segment = segment :: above := by
  unfold push
  split <;> simp

theorem shorten_other (above : List (List Char)) : shorten .other above = above.tail := by
  match above with
  | [] => rfl
  | [only] => simp [shorten]
  | _ :: second :: rest => rfl

/-- Resolving dots leaves segments in their normal form. -/
theorem resolve_names {above segments : List (List Char)} (names : ∀ s ∈ above, SegmentName s)
    (kept : ∀ s ∈ segments, Kept inPath s ∧ '/' ∉ s) :
    ∀ s ∈ resolve .other above segments, SegmentName s := by
  have upper {above : List (List Char)} (names : ∀ s ∈ above, SegmentName s) :
      ∀ s ∈ above.tail, SegmentName s := fun s member => names s (List.mem_of_mem_tail member)
  induction segments generalizing above with
  | nil => simpa [resolve] using names
  | cons segment rest ih =>
    obtain ⟨⟨keptFirst, single⟩, keptRest⟩ := List.forall_mem_cons.mp kept
    cases double : isDoubleDot segment with
    | true =>
      cases rest with
      | nil =>
        have all := List.forall_mem_cons.mpr ⟨segmentName_nil, upper names⟩
        intro s member
        exact all s (by simpa [resolve, double, shorten_other, or_comm] using member)
      | cons second more =>
        have all := ih (upper names) keptRest
        simpa [resolve, double, shorten_other] using all
    | false =>
      -- A dot stands for an empty segment if it is the last one, else for none.
      cases dot : isDot segment with
      | true =>
        cases rest with
        | nil =>
          have all := List.forall_mem_cons.mpr ⟨segmentName_nil, names⟩
          intro s member
          exact all s (by simpa [resolve, double, dot, or_comm] using member)
        | cons second more =>
          have all := ih names keptRest
          simpa [resolve, double, dot] using all
      | false =>
        have longer := List.forall_mem_cons.mpr
          ⟨SegmentName.mk keptFirst single dot double, names⟩
        cases rest with
        | nil =>
          intro s member
          exact longer s (by simpa [resolve, double, dot, push_other, or_comm] using member)
        | cons second more =>
          have all := ih longer keptRest
          simpa [resolve, double, dot, push_other] using all

/-- There are no dots to resolve in a normal form. -/
theorem resolve_eq {above segments : List (List Char)} (names : ∀ s ∈ segments, SegmentName s) :
    resolve .other above segments = above.reverse ++ segments := by
  induction segments generalizing above with
  | nil => simp [resolve]
  | cons segment rest ih =>
    obtain ⟨first, later⟩ := List.forall_mem_cons.mp names
    cases rest with
    | nil => simp [resolve, first.notDoubleDot, first.notDot, push_other]
    | cons second more =>
      rw [resolve]
      · simp [first.notDoubleDot, first.notDot, push_other, ih later]
      · simp

/-- A text whose only slashes are plain ones is not changed by making all of its slashes plain. -/
theorem map_slash_eq_self {family : Family} {text : List Char}
    (plain : ∀ c ∈ text, isSlash family c = true → c = '/') :
    (text.map fun c => if isSlash family c then '/' else c) = text := by
  have each : (text.map fun c => if isSlash family c then '/' else c) = text.map id := by
    apply List.map_congr_left
    intro c member
    by_cases slash : isSlash family c = true
    · rw [if_pos slash, plain c member slash, id]
    · rw [if_neg slash, id]
  rw [each, List.map_id]

theorem map_slash_other (text : List Char) :
    (text.map fun c => if isSlash .other c then '/' else c) = text :=
  map_slash_eq_self fun c _ slash => by simpa [isSlash, Family.isSpecial] using slash

theorem readSegments_names (text : List Char) : ∀ s ∈ readSegments .other text, SegmentName s := by
  intro s member
  simp only [readSegments, map_slash_other] at member
  split at member
  · exact absurd member List.not_mem_nil
  · have empty : ∀ s ∈ ([] : List (List Char)), SegmentName s := by simp
    refine resolve_names empty ?_ s member
    intro piece found
    obtain ⟨origin, inside, rfl⟩ := List.mem_map.mp found
    refine ⟨kept_escape spares_inPath origin, fun slash => ?_⟩
    rcases mem_escape slash with ⟨within, _⟩ | sign | digit
    · exact Text.not_mem_of_mem_split inside within
    · exact absurd sign (by decide)
    · exact absurd digit (by decide)

theorem intercalate_eq_append_flatMap (segment : List Char) (rest : List (List Char)) :
    ['/'].intercalate (segment :: rest) = segment ++ rest.flatMap ('/' :: ·) := by
  induction rest generalizing segment with
  | nil => simp
  | cons second more ih =>
    rw [List.intercalate_cons_cons, ih]
    simp

/-- A path reads back from its text. -/
theorem readSegments_flatMap {segments : List (List Char)} (names : ∀ s ∈ segments, SegmentName s) :
    readSegments .other (segments.flatMap ('/' :: ·)) = segments := by
  cases segments with
  | nil => rfl
  | cons segment rest =>
    have pieces : Text.split '/' (segment ++ rest.flatMap ('/' :: ·)) = segment :: rest := by
      rw [← intercalate_eq_append_flatMap]
      exact Text.split_intercalate (by simp) fun s member => (names s member).single
    have escaped : (segment :: rest).map (escape inPath) = segment :: rest := by
      have each : (segment :: rest).map (escape inPath) = (segment :: rest).map id :=
        List.map_congr_left fun s member => (names s member).kept.escape_eq
      rw [each, List.map_id]
    have resolved : resolve .other [] (segment :: rest) = [].reverse ++ segment :: rest :=
      resolve_eq names
    simp only [readSegments, map_slash_other, List.flatMap_cons, List.cons_append]
    rw [pieces, escaped, resolved]
    simp

theorem readTail_marked {query? fragment? : Option (List Char)}
    (query : ∀ text ∈ query?, Kept inQuery text)
    (fragment : ∀ text ∈ fragment?, Kept inFragment text) :
    readTail .other (marked '?' query? ++ marked '#' fragment?) = (query?, fragment?) := by
  have front : cut (· == '#') (marked '?' query? ++ marked '#' fragment?) =
      (marked '?' query?, marked '#' fragment?) := by
    apply cut_append
    · have number : inQuery '#' = true := by simp [inQuery, String.contains_char_eq]
      cases query? with
      | none => simp [marked]
      | some text =>
        intro c member
        rcases List.mem_cons.mp member with rfl | inside
        · rfl
        · simpa using fun same : c = '#' => (query text rfl).not_mem number (same ▸ inside)
    · cases fragment? <;> simp [marked]
  rw [readTail, front]
  cases query? with
  | none =>
    cases fragment? with
    | none => simp [marked]
    | some mark => simp [marked, (fragment mark rfl).escape_eq]
  | some text =>
    cases fragment? with
    | none => simp [marked, Family.isSpecial, (query text rfl).escape_eq]
    | some mark =>
      simp [marked, Family.isSpecial, (query text rfl).escape_eq, (fragment mark rfl).escape_eq]

theorem readTail_kept (text : List Char) :
    (∀ query ∈ (readTail .other text).1, Kept inQuery query) ∧
      (∀ fragment ∈ (readTail .other text).2, Kept inFragment fragment) := by
  constructor
  · intro query found
    obtain ⟨origin, _, rfl⟩ := Option.map_eq_some_iff.mp found
    exact kept_escape spares_inQuery origin
  · intro fragment found
    obtain ⟨origin, _, rfl⟩ := Option.map_eq_some_iff.mp found
    exact kept_escape spares_inFragment origin

end LoadProbe.Url
