import LoadProbe.Proofs.KeyStore.Password

/-!
Where a password leads a session: to the same place as none. The URL with a password, read back from
its text, differs from the URL without one in nothing else, so that a client reaches the same host,
port and database as the same user. Main statement: `password_keeps_place`.
-/
namespace LoadProbe.StoreLocation

/-- Two URLs that differ in their passwords at most. -/
structure SamePlace (one other : Url) : Prop where
  scheme : one.scheme = other.scheme
  username : one.username = other.username
  host : one.host? = other.host?
  port : one.port? = other.port?
  path : one.path = other.path
  query : one.query? = other.query?
  fragment : one.fragment? = other.fragment?

/-- What a client takes from a URL, the password apart. -/
structure Reaches (url : Url) (target : Target) : Prop where
  host : url.namedHost? = some target.host
  port : url.port?.getD 6379 = target.port
  database : database? url.path.chars = some target.database
  username : (Text.decode? (Url.unescape url.username)).map
    (fun name => if name = [] then none else some name) = some target.username?

/-- A client that takes a target reaches it by the URL alone. -/
theorem reaches_of_readTarget {text : String} {url : Url} {target : Target}
    (read : Url.read text = .ok url) (accepted : readTarget text = .ok target) :
    Reaches url target := by
  rw [readTarget, read] at accepted
  dsimp only at accepted
  split at accepted
  · cases accepted
  · split at accepted
    · next host named =>
      split at accepted
      · next database numbered =>
        split at accepted
        · next username decoded =>
          split at accepted
          · split at accepted
            · cases accepted
            · cases accepted
              exact ⟨named, rfl, numbered, by rw [decoded]; rfl⟩
          · cases accepted
        · cases accepted
      · cases accepted
    · cases accepted

/-- By two URLs that differ in their passwords, clients reach the same. -/
theorem SamePlace.target_eq {one other : Url} (same : SamePlace one other) {first second : Target}
    (reaches : Reaches one first) (reachesToo : Reaches other second) :
    { first with password? := none } = { second with password? := none } := by
  have host : some first.host = some second.host := by
    rw [← reaches.host, ← reachesToo.host, Url.namedHost?, Url.namedHost?, same.host]
  have port : first.port = second.port := by
    rw [← reaches.port, ← reachesToo.port, same.port]
  have database : some first.database = some second.database := by
    rw [← reaches.database, ← reachesToo.database, same.path]
  have username : some first.username? = some second.username? := by
    rw [← reaches.username, ← reachesToo.username, same.username]
  rw [Option.some.injEq] at host database username
  rw [host, port, database, username]

/-- An empty password is none. -/
theorem url_empty (host : String) (port : UInt16) :
    url ⟨host, port, some ""⟩ = url ⟨host, port, none⟩ := by
  simp only [url, plainText, Option.filter_some, ne_eq, not_true_eq_false, decide_false,
    Bool.false_eq_true, if_false, Option.filter_none]

/-- Where a password is accepted, there is a URL without it, and both read back from their texts. -/
theorem exists_plain {host : String} {port : UInt16} {password : String} {told : Url}
    (accepted : url ⟨host, port, some password⟩ = .ok told) :
    ∃ plain, url ⟨host, port, none⟩ = .ok plain ∧ Url.read plain.text = .ok plain ∧
      Url.read told.text = .ok told ∧ SamePlace told plain := by
  have without {plain : Url} (read : Url.read (plainText ⟨host, port, none⟩) = .ok plain) :
      url ⟨host, port, none⟩ = .ok plain := by
    rw [url, read]
    rfl
  by_cases empty : password = ""
  · subst empty
    have same : url ⟨host, port, none⟩ = .ok told := url_empty host port ▸ accepted
    obtain ⟨plain, read⟩ : ∃ plain, Url.read (plainText ⟨host, port, none⟩) = .ok plain := by
      cases read : Url.read (plainText ⟨host, port, none⟩) with
      | error cause => simp [url, read] at same
      | ok plain => exact ⟨plain, rfl⟩
    obtain rfl : told = plain := Except.ok.inj (same.symm.trans (without read))
    obtain ⟨_, place, normal⟩ := read_plainText_normal read
    exact ⟨told, same, normal.read_text, normal.read_text, ⟨rfl, rfl, rfl, rfl, rfl, rfl, rfl⟩⟩
  · obtain ⟨plain, place, read, same, normal⟩ := url_of_password rfl empty accepted
    obtain ⟨_, plainPlace, plainNormal⟩ := read_plainText_normal read
    subst same
    exact ⟨plain, without read, plainNormal.read_text, normal.read_text,
      ⟨rfl, rfl, rfl, rfl, rfl, rfl, rfl⟩⟩

/-- No password redirects a session. Where a location has a URL with a password, it has one without,
which the text of the first names in all parts but the password; and the targets that clients take
of both locations differ in the password only. -/
theorem password_keeps_place {host : String} {port : UInt16} {password : String} {told : Url}
    (accepted : url ⟨host, port, some password⟩ = .ok told) :
    ∃ plain reread, url ⟨host, port, none⟩ = .ok plain ∧ Url.read told.text = .ok reread ∧
      SamePlace reread plain ∧
      ∀ first second, target ⟨host, port, some password⟩ = .ok first →
        target ⟨host, port, none⟩ = .ok second →
        { first with password? := none } = { second with password? := none } := by
  obtain ⟨plain, without, readPlain, readTold, same⟩ := exists_plain accepted
  have targets : ∀ first second, target ⟨host, port, some password⟩ = .ok first →
      target ⟨host, port, none⟩ = .ok second →
      { first with password? := none } = { second with password? := none } := by
    intro first second taken takenToo
    rw [target, accepted] at taken
    rw [target, without] at takenToo
    exact same.target_eq (reaches_of_readTarget readTold taken)
      (reaches_of_readTarget readPlain takenToo)
  exact ⟨plain, told, without, readTold, same, targets⟩

/-- A password with all marks of a URL leaves the host alone. -/
theorem password_keeps_place_marks :
    ∃ told plain reread, url ⟨"[::1]", 6379, some "a@b:1/c?d#e[\\ é"⟩ = .ok told ∧
      told.text = "redis://:a%40b%3A1%2Fc%3Fd%23e%5B%5C%20%C3%A9@[::1]:6379/" ∧
      url ⟨"[::1]", 6379, none⟩ = .ok plain ∧ Url.read told.text = .ok reread ∧
      SamePlace reread plain := by
  have accepted : url ⟨"[::1]", 6379, some "a@b:1/c?d#e[\\ é"⟩ = .ok
      { scheme := "redis".toList, password? := some "a%40b%3A1%2Fc%3Fd%23e%5B%5C%20%C3%A9".toList,
        host? := some (.ipv6 ⟨[0, 0, 0, 0, 0, 0, 0, 1], by simp⟩), port? := some 6379,
        path := .segments [[]] } := by
    cbv
  obtain ⟨plain, reread, without, read, same, _⟩ := password_keeps_place accepted
  exact ⟨_, plain, reread, accepted, by cbv, without, read, same⟩

end LoadProbe.StoreLocation
