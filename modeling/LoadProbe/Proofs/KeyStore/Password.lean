import LoadProbe.KeyStore.Location
import LoadProbe.Proofs.Url.Normal
import Mathlib

/-!
What a client reads from the URL of a location. The URL is in its normal form, so that the client
finds the parts that were put in; but a percent sign in a password is not escaped, so that a
password in which an escape stands is another one to the client. Main statement: `password_kept_iff`.
-/
namespace LoadProbe.StoreLocation

theorem schemeName_redis : Url.SchemeName "redis".toList where
  letter := ⟨'r', "edis".toList, rfl, rfl⟩
  plain := by simp [Url.isSchemeChar]

theorem family_redis : Url.Family.of "redis".toList = .other := by decide

/-- Cleaning leaves the scheme and the slashes of the text alone, whatever the host is. -/
theorem clean_plainText (location : StoreLocation) :
    ∃ after, Url.clean location.plainText.toList = "redis".toList ++ ':' :: '/' :: '/' :: after := by
  have text : location.plainText.toList = "redis://".toList ++ (location.host.toList ++
      (':' :: Numeral.digits location.port.toNat) ++ ['/']) := by
    simp [plainText]
  have solid : Url.Solid "redis://".toList := by simp [Url.Solid]
  rw [text]
  exact Url.clean_append solid (by decide) (by decide)

/-- Without a password, a location has a URL in its normal form. -/
theorem read_plainText_normal {location : StoreLocation} {plain : Url}
    (read : Url.read location.plainText = .ok plain) :
    plain.scheme = "redis".toList ∧ ∃ host, Url.Normal plain host := by
  obtain ⟨after, cleaned⟩ := location.clean_plainText
  have begins := Url.readScheme?_append schemeName_redis ('/' :: '/' :: after)
  rw [← cleaned] at begins
  exact Url.Normal.of_read family_redis begins read

/-- The URL of a location is the one without its password, and the password escaped. -/
theorem url_of_password {location : StoreLocation} {url : Url} {password : String}
    (told : location.password? = some password) (nonempty : password ≠ "")
    (accepted : location.url = .ok url) :
    ∃ plain host, Url.read location.plainText = .ok plain ∧
      url = { plain with password? := some (Url.escape Url.inCredentials password.toList) } ∧
      Url.Normal url host := by
  unfold StoreLocation.url at accepted
  cases read : Url.read location.plainText with
  | error cause => simp [read] at accepted
  | ok plain =>
    have kept : (some password).filter (· ≠ "") = some password := by simp [nonempty]
    obtain ⟨_, host, normal⟩ := read_plainText_normal read
    rw [read, told, kept] at accepted
    cases put : plain.withPassword? password.toList with
    | none => simp [put] at accepted
    | some withPassword =>
      obtain rfl : withPassword = url := by simpa [put] using accepted
      obtain ⟨same, normalToo⟩ := normal.withPassword (by simpa using nonempty) put
      exact ⟨plain, host, rfl, same, normalToo⟩

/-- The password that stands in the text of a URL, escaped. -/
def passwordPart? (text : String) : Option (List Char) :=
  (Url.read text).toOption.bind fun url => url.password?

/-- The text of a URL holds the escaped password. -/
theorem passwordPart?_text {location : StoreLocation} {url : Url} {password : String}
    (told : location.password? = some password) (nonempty : password ≠ "")
    (accepted : location.url = .ok url) :
    passwordPart? url.text = some (Url.escape Url.inCredentials password.toList) := by
  obtain ⟨plain, host, _, same, normal⟩ := url_of_password told nonempty accepted
  rw [passwordPart?, normal.read_text, same]
  rfl

/-- Which parts of a URL a client has taken. -/
theorem readTarget_ok {text : String} {url : Url} {target : Target}
    (read : Url.read text = .ok url) (accepted : readTarget text = .ok target) :
    ∃ username password, Text.decode? (Url.unescape url.username) = some username ∧
      Text.decode? (Url.unescape (url.password?.getD [])) = some password ∧
      url.namedHost? = some target.host ∧ target.port = url.port?.getD 6379 ∧
      target.username? = (if username = [] then none else some username) ∧
      target.password? = url.password?.map fun _ => password := by
  rw [readTarget, read] at accepted
  dsimp only at accepted
  split at accepted
  · cases accepted
  · split at accepted
    · next host named =>
      split at accepted
      · split at accepted
        · next username decodedName =>
          split at accepted
          · next password decoded =>
            split at accepted
            · cases accepted
            · cases accepted
              exact ⟨username, password, decodedName, decoded, named, rfl, rfl, rfl⟩
          · cases accepted
        · cases accepted
      · cases accepted
    · cases accepted

/-- A session has the password that is told exactly if no escape stands in it. -/
theorem password_kept_iff {location : StoreLocation} {url : Url} {password : String}
    (told : location.password? = some password) (nonempty : password ≠ "")
    (accepted : location.url = .ok url) :
    ((passwordPart? url.text).map Url.unescape = some (Text.encode password.toList) ↔
        Url.hasEscape password.toList = false) ∧
      ∀ target, location.target = .ok target →
        (target.password? = some password.toList ↔ Url.hasEscape password.toList = false) := by
  have part := passwordPart?_text told nonempty accepted
  have bytes := Url.unescape_escape Url.spares_inCredentials password.toList
  constructor
  · rw [part, Option.map_some, bytes, Option.some_inj]
    exact Url.unescape_eq_encode_iff
  · intro target taken
    obtain ⟨plain, host, _, same, normal⟩ := url_of_password told nonempty accepted
    rw [StoreLocation.target, accepted] at taken
    obtain ⟨_, decodedPassword, _, decoded, _, _, _, known⟩ := readTarget_ok normal.read_text taken
    rw [same] at decoded known
    rw [Option.getD_some, bytes, Text.decode?_eq_some_iff] at decoded
    -- The client takes what the bytes spell, which is the password just if they are its bytes.
    rw [known, Option.map_some, Option.some_inj, ← Url.unescape_eq_encode_iff, decoded]
    constructor
    · rintro rfl
      rfl
    · exact fun equal => Text.encode_injective equal

/-- A percent sign alone stands for itself. -/
theorem password_kept_percent :
    ∃ url, StoreLocation.url ⟨"localhost", 6379, some "5% off"⟩ = .ok url ∧
      (passwordPart? url.text).map Url.unescape = some (Text.encode "5% off".toList) ∧
      ∀ target, StoreLocation.target ⟨"localhost", 6379, some "5% off"⟩ = .ok target →
        target.password? = some "5% off".toList := by
  have accepted : StoreLocation.url ⟨"localhost", 6379, some "5% off"⟩ = .ok
      { scheme := "redis".toList, password? := some "5%%20off".toList,
        host? := some (.name "localhost".toList), port? := some 6379, path := .segments [[]] } := by
    cbv
  have plain : Url.hasEscape "5% off".toList = false := by decide
  obtain ⟨kept, session⟩ := password_kept_iff rfl (by decide) accepted
  exact ⟨_, accepted, kept.mpr plain, fun target taken => (session target taken).mpr plain⟩

/-- The password `a%41` is not escaped, and the client reads `aA` from it. -/
theorem password_with_escape_replaced :
    ∃ url, StoreLocation.url ⟨"localhost", 6379, some "a%41"⟩ = .ok url ∧
      url.text = "redis://:a%41@localhost:6379/" ∧
      (passwordPart? url.text).map Url.unescape ≠ some (Text.encode "a%41".toList) ∧
      (StoreLocation.target ⟨"localhost", 6379, some "a%41"⟩).toOption.bind Target.password? =
        some "aA".toList := by
  have accepted : StoreLocation.url ⟨"localhost", 6379, some "a%41"⟩ = .ok
      { scheme := "redis".toList, password? := some "a%41".toList,
        host? := some (.name "localhost".toList), port? := some 6379, path := .segments [[]] } := by
    cbv
  refine ⟨_, accepted, by cbv, ?_, by cbv⟩
  have part := passwordPart?_text rfl (by decide) accepted
  rw [part, Option.map_some, Url.unescape_escape Url.spares_inCredentials, ne_eq, Option.some_inj,
    Url.unescape_eq_encode_iff]
  decide

end LoadProbe.StoreLocation
