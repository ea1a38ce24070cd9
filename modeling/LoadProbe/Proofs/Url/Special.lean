import LoadProbe.Proofs.Text.Lines
import LoadProbe.Proofs.Url.Path

/-!
URLs of special schemes, which always name a host. Main statements: `readAuthority_ok`, how host and
port are found in an authority, and `colon_mem_path`, a port that was cut off from its host shows in
the path.
-/
namespace LoadProbe.Url

section Authority

/-- Where a special scheme is read from, behind its slashes. -/
theorem read_special {text : String} {scheme after : List Char} (special : Family.of scheme = .special)
    (begins : readScheme? (clean text.toList) = some (scheme, '/' :: '/' :: after))
    (ends : ∀ c ∈ after.head?, isSlash .special c = false) :
    read text = (readAuthority scheme after).map fun (url, path) => complete url path := by
  have slash : isSlash .special '/' = true := rfl
  have slashes : ('/' :: '/' :: after).dropWhile (isSlash .special) = after := by
    rw [List.dropWhile_cons, if_pos slash, List.dropWhile_cons, if_pos slash]
    cases after with
    | nil => rfl
    | cons c rest => rw [List.dropWhile_cons, ends c rfl, if_neg Bool.false_ne_true]
  rw [read, begins]
  simp only [special, slashes]

/-- Host and port of an authority of a special scheme, with the credentials that were read. -/
def readGround (scheme username : List Char) (password? : Option (List Char))
    (place path : List Char) : Except Failure (Url × List Char) := do
  let host ←
    if (cutHost false place).1 = [] then .error .emptyHost
    else Host.readSpecial (cutHost false place).1
  if host = .name [] ∧ ((cutHost false place).2 ≠ [] ∨ username ≠ [] ∨ password?.isSome) then
    .error .emptyHost
  else
    let (port?, rest) ←
      match (cutHost false place).2 with
      | _ :: digits => readPort scheme digits
      | [] => pure (none, [])
    return ({ scheme, username, password?, host? := some host, port?, path := .segments [] },
      rest ++ path)

theorem readAuthority_special {scheme text : List Char} (special : Family.of scheme = .special) :
    readAuthority scheme text =
      match cutLast? '@' (cut (endsAuthority .special) text).1 with
      | none =>
        readGround scheme [] none (cut (endsAuthority .special) text).1
          (cut (endsAuthority .special) text).2
      | some (credentials, place) =>
        if credentials = [] ∧ place = [] ∧ (cut (endsAuthority .special) text).2 ≠ [] then
          .error .emptyHost
        else
          readGround scheme (readCredentials credentials).1 (readCredentials credentials).2 place
            (cut (endsAuthority .special) text).2 := by
  rw [readAuthority, special]
  generalize cut (endsAuthority .special) text = parts
  obtain ⟨front, path⟩ := parts
  dsimp only
  cases cutLast? '@' front with
  | none => rfl
  | some parts =>
    obtain ⟨credentials, place⟩ := parts
    by_cases empty : credentials = [] ∧ place = [] ∧ path ≠ []
    · simp only [if_pos empty]
      rfl
    · simp only [if_neg empty]
      rfl

/-- Where host and port of a URL were read, and what is left of that text. -/
structure Grounded (place : List Char) (url : Url) (left : List Char) : Prop where
  host : ∃ host, url.host? = some host ∧ Host.readSpecial (cutHost false place).1 = .ok host
  bare : (cutHost false place).2 = [] → url.port? = none ∧ left = []
  port : ∀ colon digits, (cutHost false place).2 = colon :: digits →
    readPort url.scheme digits = .ok (url.port?, left)

theorem Grounded.of_readGround {scheme username place path rest : List Char}
    {password? : Option (List Char)} {url : Url}
    (read : readGround scheme username password? place path = .ok (url, rest)) :
    url.scheme = scheme ∧ url.username = username ∧ url.password? = password? ∧
      ∃ left, Grounded place url left ∧ rest = left ++ path := by
  rw [readGround] at read
  split at read
  · cases read
  · cases found : Host.readSpecial (cutHost false place).1 with
    | error failure =>
      rw [found] at read
      cases read
    | ok host =>
      rw [found] at read
      simp only [bind, Except.bind] at read
      split at read
      · cases read
      · cases told : (cutHost false place).2 with
        | nil =>
          simp only [told, pure, Except.pure] at read
          cases read
          exact ⟨rfl, rfl, rfl, [], ⟨⟨host, rfl, found⟩, fun _ => ⟨rfl, rfl⟩, by simp [told]⟩, rfl⟩
        | cons colon digits =>
          simp only [told] at read
          cases port : readPort scheme digits with
          | error failure => simp [port] at read
          | ok parts =>
            simp only [port, pure, Except.pure] at read
            cases read
            refine ⟨rfl, rfl, rfl, parts.2, ⟨⟨host, rfl, found⟩, by simp [told], ?_⟩, rfl⟩
            intro mark more same
            obtain ⟨rfl, rfl⟩ := List.cons.inj (told.symm.trans same)
            exact port

/-- Unless a backslash ends it, a port is all digits. -/
theorem readPort_ok {scheme text left : List Char} {port? : Option UInt16}
    (read : readPort scheme text = .ok (port?, left)) (plain : '\\' ∉ text) :
    left = [] ∧ ∀ c ∈ text, Numeral.isDigit c = true := by
  have whole : text.takeWhile Numeral.isDigit ++ text.dropWhile Numeral.isDigit = text :=
    List.takeWhile_append_dropWhile
  have found : left = text.dropWhile Numeral.isDigit ∧
      (text.dropWhile Numeral.isDigit = [] ∨ ∃ more, text.dropWhile Numeral.isDigit = '\\' :: more) := by
    rw [readPort] at read
    dsimp only at read
    split at read
    · cases read
    · split at read
      · next ends => split at read <;> cases read <;> exact ⟨rfl, .inl ends⟩
      · next more ends => split at read <;> cases read <;> exact ⟨rfl, .inr ⟨more, ends⟩⟩
      · cases read
  rcases found with ⟨rfl, ends | ⟨more, ends⟩⟩
  · exact ⟨ends, List.dropWhile_eq_nil_iff.mp ends⟩
  · rw [ends] at whole
    exact absurd (whole ▸ List.mem_append_right _ List.mem_cons_self) plain

theorem cutHost_join (bracketed : Bool) (text : List Char) :
    (cutHost bracketed text).1 ++ (cutHost bracketed text).2 = text := by
  induction text generalizing bracketed with
  | nil => rfl
  | cons c rest ih =>
    rw [cutHost]
    split
    · rfl
    · exact congrArg (c :: ·) (ih _)

/-- A host ends at a colon, if it ends before the text does. -/
theorem cutHost_colon (bracketed : Bool) (text : List Char) :
    ∀ c ∈ (cutHost bracketed text).2.head?, c = ':' := by
  induction text generalizing bracketed with
  | nil => exact fun c member => by cases member
  | cons d rest ih =>
    rw [cutHost]
    split
    · next colon =>
      intro c member
      rw [List.head?_cons, Option.mem_some_iff] at member
      exact member ▸ colon.1
    · exact ih _

/-- Without backslashes, nothing is left of what a port is read of. -/
theorem Grounded.left_eq_nil {place left : List Char} {url : Url} (grounded : Grounded place url left)
    (plain : '\\' ∉ place) : left = [] := by
  cases told : (cutHost false place).2 with
  | nil => exact (grounded.bare told).2
  | cons colon digits =>
    have inside : '\\' ∉ digits := by
      intro member
      rw [← cutHost_join false place, told] at plain
      exact plain (List.mem_append_right _ (List.mem_cons_of_mem colon member))
    exact (readPort_ok (grounded.port colon digits told) inside).1

theorem exists_first {test : Char → Bool} {text : List Char} (found : ∃ c ∈ text, test c = true) :
    ∃ before c after, text = before ++ c :: after ∧ (∀ d ∈ before, test d = false) ∧
      test c = true := by
  obtain ⟨c, first⟩ := Option.isSome_iff_exists.mp (List.find?_isSome.mpr found)
  obtain ⟨holds, before, after, same, none⟩ := List.find?_eq_some_iff_append.mp first
  exact ⟨before, c, after, same, fun d member => by simpa using none d member, holds⟩

theorem exists_last {mark : Char} {text : List Char} (member : mark ∈ text) :
    ∃ before after, text = before ++ mark :: after ∧ mark ∉ after := by
  obtain ⟨after, before, same, none⟩ := List.eq_append_cons_of_mem (List.mem_reverse.mpr member)
  refine ⟨before.reverse, after.reverse, ?_, fun found => none (List.mem_reverse.mp found)⟩
  rw [← List.reverse_reverse text, same]
  simp

theorem readCredentials_fst (text : List Char) :
    (readCredentials text).1 = escape inCredentials (cut (· == ':') text).1 := by
  unfold readCredentials
  split
  · next parts => rw [parts]
  · next parts => rw [parts]

/-- An authority up to where it ends: host and port, behind the last `@` if there is one. -/
theorem readAuthority_ok {scheme text rest : List Char} {url : Url}
    (special : Family.of scheme = .special) (read : readAuthority scheme text = .ok (url, rest)) :
    url.scheme = scheme ∧ rest = (cut (endsAuthority .special) text).2 ∧
      ∃ place, Grounded place url [] ∧
        (('@' ∉ place ∧ place = (cut (endsAuthority .special) text).1 ∧
          url.username = [] ∧ url.password? = none) ∨
        ∃ before, (cut (endsAuthority .special) text).1 = before ++ '@' :: place ∧
          (url.username, url.password?) = readCredentials before) := by
  have plain : '\\' ∉ (cut (endsAuthority .special) text).1 := by
    intro member
    have before := List.mem_takeWhile_imp member
    cases before
  rw [readAuthority_special special] at read
  generalize cut (endsAuthority .special) text = parts at read plain ⊢
  obtain ⟨front, path⟩ := parts
  by_cases marked : '@' ∈ front
  · obtain ⟨before, place, rfl, last⟩ := exists_last marked
    rw [cutLast?_append before last] at read
    dsimp only at read
    split at read
    · cases read
    · obtain ⟨same, username, password, left, grounded, rest⟩ := Grounded.of_readGround read
      have behind : '\\' ∉ place := fun member =>
        plain (List.mem_append_right before (List.mem_cons_of_mem '@' member))
      obtain rfl := grounded.left_eq_nil behind
      exact ⟨same, rest, place, grounded, .inr ⟨before, rfl, Prod.ext username password⟩⟩
  · rw [cutLast?_of_not_mem marked] at read
    obtain ⟨same, username, password, left, grounded, rest⟩ := Grounded.of_readGround read
    obtain rfl := grounded.left_eq_nil plain
    exact ⟨same, rest, front, grounded, .inl ⟨marked, rfl, username, password⟩⟩

theorem cutHost_append {front : List Char} (free : ∀ c ∈ front, c ∉ [':', '[', ']'])
    (back : List Char) :
    cutHost false (front ++ back) = (front ++ (cutHost false back).1, (cutHost false back).2) := by
  induction front with
  | nil => rfl
  | cons c rest ih =>
    have known := free c List.mem_cons_self
    have later := ih fun d member => free d (List.mem_cons_of_mem c member)
    simp only [List.mem_cons, List.not_mem_nil, or_false, not_or] at known
    rw [List.cons_append, cutHost, if_neg fun colon => known.1 colon.1, if_neg known.2.1,
      if_neg known.2.2]
    dsimp only
    rw [later]
    rfl

end Authority

section Path

theorem escape_append (escaped : Char → Bool) (front back : List Char) :
    escape escaped (front ++ back) = escape escaped front ++ escape escaped back :=
  List.flatMap_append

theorem push_special (above : List (List Char)) (segment : List Char) :
    push .special above segment = segment :: above := by
  unfold push
  split <;> simp

/-- Segments behind which nothing goes up stay. -/
theorem resolve_append (segments above : List (List Char)) {first second : List Char}
    (notDot : isDot first = false ∧ isDot second = false)
    (notDoubleDot : isDoubleDot first = false ∧ isDoubleDot second = false) :
    ∃ before, resolve .special above (segments ++ [first, second]) = before ++ [first, second] := by
  induction segments generalizing above with
  | nil => exact ⟨above.reverse, by simp [resolve, notDot, notDoubleDot, push_special]⟩
  | cons segment rest ih =>
    rw [List.cons_append, resolve]
    · split
      · exact ih _
      · split
        · exact ih _
        · exact ih _
    · simp

/-- A segment with a colon is no dot. -/
theorem isDot_of_colon {segment : List Char} (member : ':' ∈ segment) :
    isDot segment = false ∧ isDoubleDot segment = false := by
  have colon : ':' ∈ segment.map Char.toLower := List.mem_map.mpr ⟨':', member, rfl⟩
  have other : ∀ dots : List String, (∀ dot ∈ dots, ':' ∉ dot.toList) →
      dots.contains (String.ofList (segment.map Char.toLower)) = false := by
    intro dots free
    cases found : dots.contains (String.ofList (segment.map Char.toLower)) with
    | false => rfl
    | true =>
      have inside := free _ (List.contains_iff_mem.mp found)
      rw [String.toList_ofList] at inside
      exact absurd colon inside
  exact ⟨other _ (by decide), other _ (by decide)⟩

theorem cut_join (stop : Char → Bool) (text : List Char) : (cut stop text).1 ++ (cut stop text).2 = text :=
  List.takeWhile_append_dropWhile

theorem readTail_eq_none {family : Family} {text : List Char}
    (query : (readTail family text).1 = none) (fragment : (readTail family text).2 = none) :
    text = [] := by
  have empty {part : List Char} (none : part.tail? = none) : part = [] := by
    cases part with
    | nil => rfl
    | cons c rest => cases none
  have front : (cut (· == '#') text).1 = [] := empty (Option.map_eq_none_iff.mp query)
  have back : (cut (· == '#') text).2 = [] := empty (Option.map_eq_none_iff.mp fragment)
  rw [← cut_join (· == '#') text, front, back]
  rfl

/-- The parts of a URL before the path decide what becomes of it. -/
theorem complete_congr {one other : Url} (scheme : one.scheme = other.scheme)
    (username : one.username = other.username) (password : one.password? = other.password?)
    (host : one.host? = other.host?) (port : one.port? = other.port?) (text : List Char) :
    complete one text = complete other text := by
  simp only [complete, scheme, username, password, host, port]

/-- Without a query and a fragment, all of a text is the path. -/
theorem complete_of_bare {url : Url} {text : List Char} (special : Family.of url.scheme = .special)
    (query : (complete url text).query? = none) (fragment : (complete url text).fragment? = none) :
    (∀ c ∈ text, c ≠ '?' ∧ c ≠ '#') ∧
      (complete url text).path = .segments (readSegments .special text) := by
  have whole := cut_join (fun c => c == '?' || c == '#') text
  have path : (complete url text).path =
      .segments (readSegments .special (cut (fun c => c == '?' || c == '#') text).1) := by
    rw [complete, special]
  rw [complete, special] at query fragment
  rw [readTail_eq_none query fragment, List.append_nil] at whole
  refine ⟨fun c member => ?_, path.trans (by rw [whole])⟩
  rw [← whole] at member
  have before := List.mem_takeWhile_imp member
  simpa using before

theorem mem_escape_of_plain {escaped : Char → Bool} {c : Char}
    (plain : c.toNat < 128 ∧ escaped c = false) {text : List Char} (member : c ∈ text) :
    c ∈ escape escaped text := by
  obtain ⟨front, back, rfl⟩ := List.append_of_mem member
  rw [escape_append, escape_cons_plain plain]
  exact List.mem_append_right _ List.mem_cons_self

/-- The last piece of a text takes in what follows without a separator. -/
theorem split_append_of_not_mem {separator : Char} {back : List Char} (none : separator ∉ back)
    (front : List Char) :
    ∃ before last, Text.split separator (front ++ back) = before ++ [last ++ back] := by
  induction front with
  | nil => exact ⟨[], [], Text.split_of_not_mem none⟩
  | cons c rest ih =>
    obtain ⟨before, last, pieces⟩ := ih
    rw [List.cons_append, Text.split, pieces]
    by_cases same : c = separator
    · rw [if_pos same]
      exact ⟨[] :: before, last, rfl⟩
    · rw [if_neg same]
      cases before with
      | nil => exact ⟨[], c :: last, rfl⟩
      | cons piece more => exact ⟨(c :: piece) :: more, last, rfl⟩

theorem colon_plain : ':'.toNat < 128 ∧ inPath ':' = false := by
  simp [inPath, inFragment, inControls, String.contains_char_eq]

/-- Without slashes of either kind a text is one segment. -/
theorem slash_not_mem {text : List Char} (plain : ∀ c ∈ text, isSlash .special c = false) :
    '/' ∉ text := by
  intro member
  cases plain '/' member

theorem map_slash_of_plain {text : List Char} (plain : ∀ c ∈ text, isSlash .special c = false) :
    (text.map fun c => if isSlash .special c then '/' else c) = text := by
  apply map_slash_eq_self
  intro c member slash
  rw [plain c member] at slash
  cases slash

/-- The last two segments of a text, before dots are resolved. -/
theorem exists_last_segments {slash : Char} (begins : isSlash .special slash = true)
    (front : List Char) {word last : List Char} (inWord : ∀ c ∈ word, isSlash .special c = false)
    (inLast : ∀ c ∈ last, isSlash .special c = false) :
    ∃ before piece, readSegments .special (slash :: (front ++ (word ++ '/' :: last))) =
      resolve .special [] (before ++ [escape inPath (piece ++ word), escape inPath last]) := by
  obtain ⟨before, piece, pieces⟩ := split_append_of_not_mem (slash_not_mem inWord)
    (front.map fun c => if isSlash .special c then '/' else c)
  refine ⟨before.map (escape inPath), piece, ?_⟩
  simp only [readSegments, List.map_cons, List.map_append, begins, if_true,
    map_slash_of_plain inWord, map_slash_of_plain inLast]
  rw [ite_self, ← List.append_assoc, Text.split_append, pieces,
    Text.split_of_not_mem (slash_not_mem inLast)]
  simp only [List.map_append, List.map_cons, List.map_nil, List.append_assoc, List.singleton_append]

/-- A colon in the last segment but one stays in a path, for no dots behind it take that away. -/
theorem colon_mem_path {slash : Char} (begins : isSlash .special slash = true) (front : List Char)
    {word last : List Char} (colon : ':' ∈ word) (inWord : ∀ c ∈ word, isSlash .special c = false)
    (inLast : ∀ c ∈ last, isSlash .special c = false)
    (lastDots : isDot (escape inPath last) = false ∧ isDoubleDot (escape inPath last) = false) :
    ':' ∈ (Path.segments
      (readSegments .special (slash :: (front ++ (word ++ '/' :: last))))).chars := by
  obtain ⟨before, piece, segments⟩ := exists_last_segments begins front inWord inLast
  have kept : ':' ∈ escape inPath (piece ++ word) :=
    mem_escape_of_plain colon_plain (List.mem_append_right piece colon)
  have dots := isDot_of_colon kept
  obtain ⟨above, resolved⟩ := resolve_append before [] ⟨dots.1, lastDots.1⟩ ⟨dots.2, lastDots.2⟩
  rw [segments, resolved, Path.chars, List.mem_flatMap]
  exact ⟨_, List.mem_append_right above List.mem_cons_self, List.mem_cons_of_mem '/' kept⟩

end Path

end LoadProbe.Url
