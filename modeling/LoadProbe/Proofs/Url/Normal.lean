import LoadProbe.Proofs.Url.Host
import LoadProbe.Proofs.Url.Parts
import LoadProbe.Proofs.Url.Path

/-!
URLs of a scheme without rules of its own, after whose slashes an authority stands. Reading gives
them in a normal form, which reads back from its own text, with a password put in or without. Main
statements: `Normal.of_read` and `Normal.read_text`.
-/
namespace LoadProbe.Url

/-- The parts before the path in their normal form. -/
structure Seated (url : Url) (host : Host) : Prop where
  name : SchemeName url.scheme
  other : Family.of url.scheme = .other
  found : url.host? = some host
  place : host.Normal
  username : Kept inCredentials url.username
  password : ∀ password ∈ url.password?, password ≠ [] ∧ Kept inCredentials password
  bare : host = .name [] → url.username = [] ∧ url.password? = none ∧ url.port? = none

/-- A URL in its normal form. -/
structure Normal (url : Url) (host : Host) : Prop extends Seated url host where
  path : ∃ segments, url.path = .segments segments ∧ ∀ s ∈ segments, SegmentName s
  query : ∀ query ∈ url.query?, Kept inQuery query
  fragment : ∀ fragment ∈ url.fragment?, Kept inFragment fragment

/-- The URL without the parts that follow an authority. -/
def seat (url : Url) : Url := { url with path := .segments [], query? := none, fragment? := none }

/-- The text of a port, with its colon. -/
def portChars : Option UInt16 → List Char
  | some port => ':' :: Numeral.digits port.toNat
  | none => []

theorem authority_eq {url : Url} {host : Host} (found : url.host? = some host) :
    url.authority = '/' :: '/' :: (url.credentials ++ (host.chars ++ portChars url.port?)) := by
  unfold authority
  rw [found]
  cases told : url.port? with
  | none => simp [portChars]
  | some port => simp [portChars]

theorem defaultPort?_of_other {scheme : List Char} (other : Family.of scheme = .other) :
    defaultPort? scheme = none := by
  unfold Family.of at other
  split at other
  · cases other
  · split at other
    · cases other
    · next none => simpa using none

theorem endsAuthority_eq_false {c : Char} (free : c ∉ ['/', '?', '#']) :
    endsAuthority .other c = false := by
  simp only [List.mem_cons, List.not_mem_nil, or_false, not_or] at free
  simp [endsAuthority, isSlash, Family.isSpecial, free]

/-- Host and port of an authority that follows a scheme without rules of its own, with the
credentials that were read. -/
def readPlace (scheme username : List Char) (password? : Option (List Char))
    (place path : List Char) : Except Failure (Url × List Char) := do
  let host ← Host.readOpaque (cutHost false place).1
  if host = .name [] ∧ ((cutHost false place).2 ≠ [] ∨ username ≠ [] ∨ password?.isSome) then
    .error .emptyHost
  else
    let (port?, rest) ←
      match (cutHost false place).2 with
      | _ :: digits => readPort scheme digits
      | [] => pure (none, [])
    return ({ scheme, username, password?, host? := some host, port?, path := .segments [] },
      rest ++ path)

/-- Without rules of its own, a scheme leaves only the credentials to tell apart. -/
theorem readAuthority_other {scheme text : List Char} (other : Family.of scheme = .other) :
    readAuthority scheme text =
      match cutLast? '@' (cut (endsAuthority .other) text).1 with
      | none =>
        readPlace scheme [] none (cut (endsAuthority .other) text).1
          (cut (endsAuthority .other) text).2
      | some (credentials, place) =>
        if credentials = [] ∧ place = [] ∧ (cut (endsAuthority .other) text).2 ≠ [] then
          .error .emptyHost
        else
          readPlace scheme (readCredentials credentials).1 (readCredentials credentials).2 place
            (cut (endsAuthority .other) text).2 := by
  rw [readAuthority, other]
  generalize cut (endsAuthority .other) text = parts
  obtain ⟨front, path⟩ := parts
  dsimp only
  cases cutLast? '@' front with
  | none => rfl
  | some parts =>
    obtain ⟨credentials, place⟩ := parts
    by_cases empty : credentials = [] ∧ place = [] ∧ path ≠ []
    · simp only [if_pos empty]
      rfl
    · simp only [if_neg empty]
      rfl

namespace Seated

variable {url : Url} {host : Host}

/-- Credentials that are written read back, and none are written where there are none. -/
theorem credentials_cases (seated : Seated url host) :
    (url.credentials = [] ∧ url.username = [] ∧ url.password? = none) ∨
      ∃ inner, inner ≠ [] ∧ url.credentials = inner ++ ['@'] ∧
        readCredentials inner = (url.username, url.password?) ∧
        ∀ c ∈ inner, c = ':' ∨ (c.toNat < 128 ∧ inCredentials c = false) := by
  cases told : url.password? with
  | none =>
    by_cases empty : url.username = []
    · left
      simp [credentials, told, empty]
    · right
      refine ⟨url.username, empty, ?_, readCredentials_username seated.username, ?_⟩
      · simp [credentials, told, empty]
      · exact fun c member => .inr (seated.username c member)
  | some password =>
    obtain ⟨nonempty, kept⟩ := seated.password password told
    right
    refine ⟨url.username ++ ':' :: password, by simp, ?_,
      readCredentials_password seated.username kept nonempty, ?_⟩
    · simp [credentials, told]
    · intro c member
      rcases List.mem_append.mp member with inName | behind
      · exact .inr (seated.username c inName)
      · rcases List.mem_cons.mp behind with colon | inside
        · exact .inl colon
        · exact .inr (kept c inside)

theorem place_not_mem (seated : Seated url host) {c : Char} (mark : c ∈ ['/', '?', '#', '@']) :
    c ∉ host.chars ++ portChars url.port? := by
  intro member
  rcases List.mem_append.mp member with inHost | inPort
  · exact Host.not_mem_chars seated.place mark inHost
  · cases told : url.port? with
    | none => simp [portChars, told] at inPort
    | some port =>
      rw [told, portChars] at inPort
      rcases List.mem_cons.mp inPort with rfl | inside
      · exact absurd mark (by decide)
      · have digit := Numeral.isDigit_of_mem_digits inside
        have none : ∀ d ∈ ['/', '?', '#', '@'], Numeral.isDigit d = false := by
          simp [Numeral.isDigit]
        rw [none c mark] at digit
        cases digit

theorem credentials_not_mem (seated : Seated url host) {c : Char} (mark : c ∈ ['/', '?', '#']) :
    c ∉ url.credentials := by
  rcases seated.credentials_cases with ⟨none, _, _⟩ | ⟨inner, _, same, _, inside⟩
  · simp [none]
  · intro member
    rw [same] at member
    have free : c ≠ ':' ∧ c ≠ '@' := by
      constructor
      · rintro rfl
        exact absurd mark (by decide)
      · rintro rfl
        exact absurd mark (by decide)
    rcases List.mem_append.mp member with front | last
    · rcases inside c front with colon | ⟨_, kept⟩
      · exact free.1 colon
      · have wide : ['/', '?', '#'] ⊆ ['/', '?', '#', '@', ':', ' '] := by simp
        have marked := inCredentials_of_mark (wide mark)
        rw [kept] at marked
        cases marked
    · exact free.2 (List.mem_singleton.mp last)

/-- The place behind the credentials reads back. -/
theorem readPlace_eq (seated : Seated url host) (rest : List Char) :
    readPlace url.scheme url.username url.password? (host.chars ++ portChars url.port?) rest =
      .ok (url.seat, rest) := by
  have parts : cutHost false (host.chars ++ portChars url.port?) =
      (host.chars, portChars url.port?) := by
    apply Host.cutHost_chars seated.place
    cases url.port? <;> simp [portChars]
  have named : ¬ (host = .name [] ∧
      (portChars url.port? ≠ [] ∨ url.username ≠ [] ∨ url.password?.isSome = true)) := by
    rintro ⟨empty, some⟩
    obtain ⟨noName, noPassword, noPort⟩ := seated.bare empty
    simp [noName, noPassword, noPort, portChars] at some
  rw [readPlace, parts, Host.readOpaque_chars seated.place]
  simp only [bind, Except.bind]
  rw [if_neg named]
  cases told : url.port? with
  | none => simp [portChars, pure, Except.pure, seat, seated.found, told]
  | some port =>
    have read := readPort_digits (defaultPort?_of_other seated.other) port
    simp [portChars, read, pure, Except.pure, seat, seated.found, told]

/-- The authority of a URL reads back, whatever follows it. -/
theorem readAuthority_eq (seated : Seated url host) {rest : List Char}
    (ends : ∀ c ∈ rest.head?, endsAuthority .other c = true) :
    readAuthority url.scheme (url.credentials ++ (host.chars ++ portChars url.port?) ++ rest) =
      .ok (url.seat, rest) := by
  have front : cut (endsAuthority .other)
      (url.credentials ++ (host.chars ++ portChars url.port?) ++ rest) =
      (url.credentials ++ (host.chars ++ portChars url.port?), rest) := by
    refine cut_append (fun c member => endsAuthority_eq_false fun mark => ?_) ends
    rcases List.mem_append.mp member with inCredentials | inPlace
    · exact seated.credentials_not_mem mark inCredentials
    · have wide : ['/', '?', '#'] ⊆ ['/', '?', '#', '@'] := by simp
      exact seated.place_not_mem (wide mark) inPlace
  -- The last `@` is the one behind the credentials, since the host and the port have none.
  have notAt : '@' ∉ host.chars ++ portChars url.port? := seated.place_not_mem (by decide)
  rw [readAuthority_other seated.other, front]
  rcases seated.credentials_cases with ⟨none, noName, noPassword⟩ | ⟨inner, some, same, read, _⟩
  · rw [none, List.nil_append, cutLast?_of_not_mem notAt]
    simpa [noName, noPassword] using seated.readPlace_eq rest
  · rw [same, List.append_assoc, List.singleton_append, cutLast?_append inner notAt]
    simp only [some, false_and, if_false, read]
    exact seated.readPlace_eq rest

theorem solid_credentials (seated : Seated url host) : Solid url.credentials := by
  rcases seated.credentials_cases with ⟨none, _, _⟩ | ⟨inner, _, same, _, inside⟩
  · rw [none]
    exact solid_nil
  · rw [same]
    refine solid_append (fun c member => ?_) (solid_cons (by decide) solid_nil)
    rcases inside c member with rfl | ⟨_, free⟩
    · decide
    · apply lt_of_not_inControls (inControls_of_inFragment (inFragment_of_inPath
        (inPath_of_inCredentials free)))
      rintro rfl
      rw [inCredentials_of_mark (by decide)] at free
      cases free

end Seated

theorem solid_portChars (port? : Option UInt16) : Solid (portChars port?) := by
  cases port? with
  | none => exact solid_nil
  | some port =>
    refine solid_cons (by decide) fun c member => ?_
    have digit := Numeral.isDigit_of_mem_digits member
    simp only [Numeral.isDigit, Bool.and_eq_true, decide_eq_true_eq, le_iff_toNat_le,
      Char.reduceToNat] at digit
    omega

theorem solid_marked {mark : Char} (behind : 32 < mark.toNat) {text? : Option (List Char)}
    (solid : ∀ text ∈ text?, Solid text) : Solid (marked mark text?) := by
  cases text? with
  | none => exact solid_nil
  | some text => exact solid_cons behind (solid text rfl)

/-- What begins after an authority ends it. -/
theorem endsAuthority_head {segments : List (List Char)} {query? fragment? : Option (List Char)} :
    ∀ c ∈ ((segments.flatMap ('/' :: ·)) ++ (marked '?' query? ++ marked '#' fragment?)).head?,
      endsAuthority .other c = true := by
  cases segments with
  | cons segment rest => simp [endsAuthority, isSlash]
  | nil =>
    cases query? with
    | some query => simp [marked, endsAuthority]
    | none => cases fragment? <;> simp [marked, endsAuthority]

theorem complete_eq {url : Url} {segments : List (List Char)} (other : Family.of url.scheme = .other)
    (path : url.path = .segments segments) (names : ∀ s ∈ segments, SegmentName s)
    (query : ∀ query ∈ url.query?, Kept inQuery query)
    (fragment : ∀ fragment ∈ url.fragment?, Kept inFragment fragment) :
    complete url.seat (segments.flatMap ('/' :: ·) ++
      (marked '?' url.query? ++ marked '#' url.fragment?)) = url := by
  have front : cut (fun c => c == '?' || c == '#') (segments.flatMap ('/' :: ·) ++
      (marked '?' url.query? ++ marked '#' url.fragment?)) =
      (segments.flatMap ('/' :: ·), marked '?' url.query? ++ marked '#' url.fragment?) := by
    apply cut_append
    · intro c member
      obtain ⟨segment, found, inside⟩ := List.mem_flatMap.mp member
      rcases List.mem_cons.mp inside with rfl | within
      · rfl
      · have kept := (names segment found).kept
        have question : c ≠ '?' := by
          rintro rfl
          exact kept.not_mem (by simp [inPath, String.contains_char_eq]) within
        have number : c ≠ '#' := by
          rintro rfl
          exact kept.not_mem (by simp [inPath, String.contains_char_eq]) within
        simp [question, number]
    · cases url.query? with
      | some query => simp [marked]
      | none => cases url.fragment? <;> simp [marked]
  have family : Family.of url.seat.scheme = .other := other
  rw [complete, family, front]
  simp only [readSegments_flatMap names, readTail_marked query fragment, seat, ← path]

/-- A text of a scheme without rules of its own, with slashes behind its colon. -/
theorem read_eq {text : String} {scheme after : List Char} (other : Family.of scheme = .other)
    (begins : readScheme? (clean text.toList) = some (scheme, '/' :: '/' :: after)) :
    read text = (readAuthority scheme after).map fun (url, path) => complete url path := by
  rw [read, begins]
  simp only [other]

theorem Normal.solid {url : Url} {host : Host} (normal : Normal url host) : Solid url.chars := by
  obtain ⟨segments, path, names⟩ := normal.path
  have controls : ∀ c, inPath c = false → inControls c = false :=
    fun c free => inControls_of_inFragment (inFragment_of_inPath free)
  have inSegments : Solid (segments.flatMap ('/' :: ·)) := by
    intro c member
    obtain ⟨segment, found, inside⟩ := List.mem_flatMap.mp member
    have space : inPath ' ' = true := by simp [inPath, inFragment, String.contains_char_eq]
    exact solid_cons (by decide) ((names segment found).kept.solid controls space) c inside
  have query : Solid (marked '?' url.query?) := by
    apply solid_marked (by decide)
    intro query told
    have space : inQuery ' ' = true := by simp [inQuery, String.contains_char_eq]
    refine (normal.query query told).solid (fun c free => ?_) space
    simp only [inQuery, Bool.or_eq_false_iff] at free
    exact free.1
  have fragment : Solid (marked '#' url.fragment?) := by
    apply solid_marked (by decide)
    intro fragment told
    have space : inFragment ' ' = true := by simp [inFragment, String.contains_char_eq]
    exact (normal.fragment fragment told).solid (fun c => inControls_of_inFragment) space
  rw [chars, path, authority_eq normal.found]
  refine solid_append (solid_append (solid_append (solid_append (solid_append normal.name.solid
    (solid_cons (by decide) solid_nil)) ?_) inSegments) query) fragment
  exact solid_cons (by decide) (solid_cons (by decide) (solid_append normal.solid_credentials
    (solid_append (Host.solid_chars normal.place) (solid_portChars _))))

/-- A URL in its normal form reads back from its text. -/
theorem Normal.read_text {url : Url} {host : Host} (normal : Normal url host) :
    read url.text = .ok url := by
  obtain ⟨segments, path, names⟩ := normal.path
  have parts : url.chars = url.scheme ++ ':' :: '/' :: '/' ::
      (url.credentials ++ (host.chars ++ portChars url.port?) ++
        (segments.flatMap ('/' :: ·) ++ (marked '?' url.query? ++ marked '#' url.fragment?))) := by
    rw [chars, path, authority_eq normal.found]
    simp [Path.chars]
  have begins := readScheme?_append normal.name
    ('/' :: '/' :: (url.credentials ++ (host.chars ++ portChars url.port?) ++
      (segments.flatMap ('/' :: ·) ++ (marked '?' url.query? ++ marked '#' url.fragment?))))
  rw [← parts, ← clean_eq_self normal.solid] at begins
  rw [read_eq normal.other (by rw [text, String.toList_ofList, begins]),
    normal.readAuthority_eq endsAuthority_head]
  simp [Except.map, complete_eq normal.other path names normal.query normal.fragment]

theorem readCredentials_kept (text : List Char) :
    Kept inCredentials (readCredentials text).1 ∧
      ∀ password ∈ (readCredentials text).2, password ≠ [] ∧ Kept inCredentials password := by
  unfold readCredentials
  split
  · next username mark first rest parts =>
    refine ⟨kept_escape spares_inCredentials username, fun password told => ?_⟩
    obtain rfl : escape inCredentials (first :: rest) = password := by simpa using told
    exact ⟨escape_ne_nil (List.cons_ne_nil _ _), kept_escape spares_inCredentials _⟩
  · exact ⟨kept_escape spares_inCredentials _, by simp⟩

/-- What is read of host and port, behind credentials in their normal form, is in its normal form. -/
theorem readPlace_seated {scheme username place path rest : List Char}
    {password? : Option (List Char)} {url : Url} (name : SchemeName scheme)
    (other : Family.of scheme = .other) (kept : Kept inCredentials username)
    (password : ∀ password ∈ password?, password ≠ [] ∧ Kept inCredentials password)
    (read : readPlace scheme username password? place path = .ok (url, rest)) :
    url.scheme = scheme ∧ ∃ host, Seated url host := by
  unfold readPlace at read
  cases found : Host.readOpaque (cutHost false place).1 with
  | error failure =>
    rw [found] at read
    cases read
  | ok host =>
    rw [found] at read
    simp only [bind, Except.bind] at read
    split at read
    · cases read
    · next allowed =>
      -- Whichever port is read, only a host that is named may have one.
      have seated : ∀ port?, (host = .name [] → port? = none) →
          Seated { scheme, username, password?, host? := some host, port?, path := .segments [] }
            host := by
        intro port? bare
        refine ⟨name, other, rfl, Host.readOpaque_normal found, kept, password, fun empty => ?_⟩
        have free : ¬ ((cutHost false place).2 ≠ [] ∨ username ≠ [] ∨ password?.isSome = true) :=
          fun some => allowed ⟨empty, some⟩
        simp only [not_or, ne_eq, Decidable.not_not] at free
        exact ⟨free.2.1, by simpa using free.2.2, bare empty⟩
      cases told : (cutHost false place).2 with
      | nil =>
        simp only [told, pure, Except.pure] at read
        cases read
        exact ⟨rfl, host, seated none fun _ => rfl⟩
      | cons colon digits =>
        simp only [told] at read
        cases port : readPort scheme digits with
        | error failure => simp [port] at read
        | ok parts =>
          simp only [port, pure, Except.pure] at read
          cases read
          refine ⟨rfl, host, seated parts.1 fun empty => ?_⟩
          exact absurd ⟨empty, .inl (by simp [told])⟩ allowed

/-- What is read of an authority is in its normal form. -/
theorem readAuthority_seated {scheme text rest : List Char} {url : Url} (name : SchemeName scheme)
    (other : Family.of scheme = .other) (read : readAuthority scheme text = .ok (url, rest)) :
    url.scheme = scheme ∧ ∃ host, Seated url host := by
  rw [readAuthority_other other] at read
  split at read
  · refine readPlace_seated name other ?_ (by simp) read
    exact fun c member => absurd member List.not_mem_nil
  · next credentials place found =>
    split at read
    · cases read
    · have kept := readCredentials_kept credentials
      exact readPlace_seated name other kept.1 kept.2 read

theorem Seated.complete_normal {url : Url} {host : Host} (seated : Seated url host)
    (text : List Char) : Normal (complete url text) host := by
  have tail := readTail_kept (cut (fun c => c == '?' || c == '#') text).2
  refine ⟨⟨seated.name, seated.other, seated.found, seated.place, seated.username, seated.password,
    seated.bare⟩, ?_, ?_, ?_⟩
  · refine ⟨readSegments .other (cut (fun c => c == '?' || c == '#') text).1, ?_,
      readSegments_names _⟩
    simp [complete, seated.other]
  · simpa [complete, seated.other] using tail.1
  · simpa [complete, seated.other] using tail.2

/-- What is read of a text with slashes behind its scheme is in its normal form. -/
theorem Normal.of_read {text : String} {scheme after : List Char} {url : Url}
    (other : Family.of scheme = .other)
    (begins : readScheme? (clean text.toList) = some (scheme, '/' :: '/' :: after))
    (found : read text = .ok url) : url.scheme = scheme ∧ ∃ host, Normal url host := by
  rw [read_eq other begins] at found
  cases parts : readAuthority scheme after with
  | error failure =>
    rw [parts] at found
    cases found
  | ok seatAndPath =>
    obtain ⟨seat, path⟩ := seatAndPath
    rw [parts] at found
    obtain rfl : complete seat path = url := by simpa [Except.map] using found
    obtain ⟨same, host, seated⟩ := readAuthority_seated (readScheme?_normal begins) other parts
    exact ⟨same, host, seated.complete_normal path⟩

/-- A password that is put in keeps a URL in its normal form. -/
theorem Normal.withPassword {url told : Url} {host : Host} {password : List Char}
    (normal : Normal url host) (nonempty : password ≠ [])
    (accepted : url.withPassword? password = some told) :
    told = { url with password? := some (escape inCredentials password) } ∧ Normal told host := by
  unfold withPassword? at accepted
  split at accepted
  · cases accepted
  · next allowed =>
    obtain rfl := Option.some.inj accepted
    refine ⟨rfl, ⟨normal.name, normal.other, normal.found, normal.place, normal.username, ?_, ?_⟩,
      normal.path, normal.query, normal.fragment⟩
    · intro password' told
      obtain rfl : escape inCredentials password = password' := by simpa using told
      exact ⟨escape_ne_nil nonempty, kept_escape spares_inCredentials password⟩
    · rintro rfl
      exact absurd (.inl (by simp [namedHost?, normal.found])) allowed

end LoadProbe.Url
