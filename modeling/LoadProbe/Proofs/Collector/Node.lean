import LoadProbe.Collector
import LoadProbe.Proofs.Url.Domain
import LoadProbe.Proofs.Url.Parts
import LoadProbe.Proofs.Url.Special
import Mathlib

/-!
Where a node leads that results are sent to. The node is put into the text of a URL as it stands, so
that marks of a URL in it move the host, the port or the path. Main statement: `node_onSubnet_iff`.
-/
namespace LoadProbe.Collector

/-- The marks that end the host of a URL or stand before it. -/
def hostMarks : List Char := ['/', '\\', '?', '#', '@']

/-- Whether a URL leads to the collector of a node on the subnet of the cluster, and to nothing else. -/
structure OnSubnet (url : Url) : Prop where
  host : ∃ last : UInt8, url.host? = some (.ipv4 ⟨172, 18, 0, last⟩)
  port : url.port? = some 30001
  path : url.path.chars = "/store".toList
  username : url.username = []
  password : url.password? = none
  query : url.query? = none
  fragment : url.fragment? = none

/-- The URL of a collector at a host. -/
def placed (host : Url.Host) : Url where
  scheme := "http".toList
  host? := some host
  port? := some 30001
  path := .segments ["store".toList]

/-- The octets that all nodes share. -/
def subnet : List Char := ['1', '7', '2', '.', '1', '8', '.', '0']

/-- The text of a host and its port that a node is put into. -/
def place (node : List Char) : List Char := subnet ++ '.' :: (node ++ ":30001".toList)

theorem dotted_subnet : Url.Dotted subnet := by
  simp [Url.Dotted, subnet, Numeral.isDigit]

theorem schemeName_http : Url.SchemeName "http".toList where
  letter := ⟨'h', "ttp".toList, rfl, rfl⟩
  plain := by simp [Url.isSchemeChar]

theorem family_http : Url.Family.of "http".toList = .special := by decide

theorem port_http : Url.readPort "http".toList "30001".toList = .ok (some 30001, []) := by rfl

theorem escape_store : Url.escape Url.inPath "store".toList = "store".toList :=
  Url.escape_eq_self (by simp [Url.inPath, Url.inFragment, Url.inControls, String.contains_char_eq])

theorem complete_store (host : Url.Host) :
    Url.complete { placed host with path := .segments [] } "/store".toList = placed host := by
  cbv

section Address

theorem ofParts?_shared {numbers : List Nat} {address : Ipv4}
    (read : Url.Host.ofParts? ([172, 18, 0] ++ numbers) = some address) :
    ∃ last : UInt8, address = ⟨172, 18, 0, last⟩ := by
  match numbers with
  | [] =>
    obtain rfl := Option.some.inj read
    exact ⟨0, rfl⟩
  | [last] =>
    have value : Url.Host.ofParts? [172, 18, 0, last] =
        if 256 ≤ last then none else some (.ofNat (2886860800 + last)) := by
      simp [Url.Host.ofParts?, Nat.shiftLeft_eq]
    rw [List.cons_append, List.cons_append, List.cons_append, List.nil_append, value] at read
    by_cases large : 256 ≤ last
    · rw [if_pos large] at read
      cases read
    · rw [if_neg large] at read
      obtain rfl := Option.some.inj read
      have a : (2886860800 + last) >>> 24 = 172 := by
        rw [Nat.shiftRight_eq_div_pow]
        omega
      have b : (2886860800 + last) >>> 16 = 44050 := by
        rw [Nat.shiftRight_eq_div_pow]
        omega
      have c : (2886860800 + last) >>> 8 = 11276800 := by
        rw [Nat.shiftRight_eq_div_pow]
        omega
      exact ⟨UInt8.ofNat (2886860800 + last), by rw [Ipv4.ofNat, a, b, c]; rfl⟩
  | _ :: _ :: rest =>
    rw [Url.Host.ofParts?_of_four_lt (by simp)] at read
    cases read

/-- The address of a name that begins with the shared octets is on the subnet. -/
theorem exists_last_octet {rest : List Char} {address : Ipv4}
    (read : Url.Host.readIpv4? (subnet ++ '.' :: rest) = some address) :
    ∃ last : UInt8, address = ⟨172, 18, 0, last⟩ := by
  obtain ⟨more, parts⟩ := Url.Host.parts_append subnet rest
  rw [Url.Host.readIpv4?, parts] at read
  obtain ⟨numbers, known, shown⟩ := Option.bind_eq_some_iff.mp read
  obtain ⟨first, second, octets, -, rfl⟩ := Url.mapM_append_eq_some.mp known
  have shared : (Text.split '.' subnet).mapM Url.Host.readPart? = some [172, 18, 0] := by decide
  obtain rfl : [172, 18, 0] = first := Option.some.inj (shared.symm.trans octets)
  exact ofParts?_shared shown

end Address

theorem toList_between (front middle back : String) :
    (front ++ middle ++ back).toList = front.toList ++ (middle.toList ++ back.toList) := by
  rw [String.toList_append, String.toList_append, List.append_assoc]

/-- The text of an address is read from the subnet on. -/
theorem read_nodeAddress {node : String} {url : Url} (read : Url.read (nodeAddress node) = .ok url) :
    ∃ seat path, Url.readAuthority "http".toList
        (place (Url.unbroken node.toList) ++ "/store".toList) = .ok (seat, path) ∧
      url = Url.complete seat path := by
  have solid : Url.Solid "http://172.18.0.".toList := by simp [Url.Solid]
  have solidBack : Url.Solid ":30001/store".toList := by simp [Url.Solid]
  have text : (nodeAddress node).toList =
      "http://172.18.0.".toList ++ (node.toList ++ ":30001/store".toList) := toList_between _ _ _
  have whole : "http://172.18.0.".toList ++ (Url.unbroken node.toList ++ ":30001/store".toList) =
      "http".toList ++ ':' :: '/' :: '/' :: (place (Url.unbroken node.toList) ++ "/store".toList) := by
    rw [place, List.append_assoc, List.cons_append, List.append_assoc]
    rfl
  have begins := Url.readScheme?_append schemeName_http
    ('/' :: '/' :: (place (Url.unbroken node.toList) ++ "/store".toList))
  rw [← whole, ← Url.clean_between solid solidBack (by decide) (by decide), ← text] at begins
  rw [Url.read_special family_http begins (by simp [place, subnet, Url.isSlash])] at read
  cases parts : Url.readAuthority "http".toList
      (place (Url.unbroken node.toList) ++ "/store".toList) with
  | error failure =>
    rw [parts] at read
    cases read
  | ok found =>
    rw [parts] at read
    exact ⟨found.1, found.2, rfl, (Except.ok.inj read).symm⟩

theorem endsAuthority_iff {c : Char} :
    Url.endsAuthority .special c = true ↔ c ∈ ['/', '\\', '?', '#'] := by
  simp [Url.endsAuthority, Url.isSlash, Url.Family.isSpecial, or_assoc]

theorem endsAuthority_of_free {c : Char} (free : c ∉ hostMarks) :
    Url.endsAuthority .special c = false := by
  have wide : ['/', '\\', '?', '#'] ⊆ hostMarks := by simp [hostMarks]
  exact Bool.eq_false_iff.mpr fun ends => free (wide (endsAuthority_iff.mp ends))

section Place

variable {node : List Char}

theorem mem_place {c : Char} (member : c ∈ place node) : c ∈ node ∨ c ∈ place [] := by
  simp only [place, List.mem_append, List.mem_cons, List.nil_append] at member ⊢
  rcases member with inSubnet | dot | inNode | inPort
  · exact .inr (.inl inSubnet)
  · exact .inr (.inr (.inl dot))
  · exact .inl inNode
  · exact .inr (.inr (.inr inPort))

theorem not_mem_place {mark : Char} (none : mark ∉ node) (around : mark ∉ place []) :
    mark ∉ place node := by
  intro member
  rcases mem_place member with inNode | outside
  · exact none inNode
  · exact around outside

/-- A node in which no authority ends stands whole before the port. -/
theorem cut_place (free : ∀ c ∈ node, Url.endsAuthority .special c = false) :
    Url.cut (Url.endsAuthority .special) (place node ++ "/store".toList) =
      (place node, "/store".toList) := by
  apply Url.cut_append
  · intro c member
    have around : ∀ d ∈ place [], Url.endsAuthority .special d = false := by
      simp [place, subnet, Url.endsAuthority, Url.isSlash]
    rcases mem_place member with inNode | outside
    · exact free c inNode
    · exact around c outside
  · intro c member
    obtain rfl : '/' = c := Option.some.inj member
    rfl

/-- Where an authority ends within a node, the rest of the node and the port are left for the path. -/
theorem cut_place_of_end {before after : List Char} {mark : Char}
    (free : ∀ c ∈ before, Url.endsAuthority .special c = false)
    (ends : Url.endsAuthority .special mark = true) :
    Url.cut (Url.endsAuthority .special) (place (before ++ mark :: after) ++ "/store".toList) =
      (subnet ++ '.' :: before, mark :: (after ++ (":30001".toList ++ '/' :: "store".toList))) := by
  have whole : place (before ++ mark :: after) ++ "/store".toList = (subnet ++ '.' :: before) ++
      mark :: (after ++ (":30001".toList ++ '/' :: "store".toList)) := by
    simp only [place, List.append_assoc, List.cons_append]
    rfl
  rw [whole]
  apply Url.cut_append
  · intro c member
    have around : ∀ d ∈ subnet ++ ['.'], Url.endsAuthority .special d = false := by
      simp [subnet, Url.endsAuthority, Url.isSlash]
    rw [← List.singleton_append, ← List.append_assoc, List.mem_append] at member
    rcases member with outside | inNode
    · exact around c outside
    · exact free c inNode
  · intro c member
    obtain rfl : mark = c := Option.some.inj member
    exact ends

/-- Between a last colon and one before it there is another text than between these and no colon. -/
theorem eq_of_last_colon {node front digits : List Char}
    (same : front ++ ':' :: digits = node ++ ':' :: "30001".toList) (digitsOnly : ':' ∉ digits) :
    front = node ∧ digits = "30001".toList := by
  have first := Url.cutLast?_append front digitsOnly
  rw [same, Url.cutLast?_append node (by decide)] at first
  exact ⟨(Prod.mk.inj (Option.some.inj first)).1.symm, (Prod.mk.inj (Option.some.inj first)).2.symm⟩

/-- The host ends before the last colon, for a host that begins as the subnet does has none. -/
theorem host_of_grounded {seat : Url} (plain : '\\' ∉ node)
    (grounded : Url.Grounded (place node) seat []) (scheme : seat.scheme = "http".toList) :
    ∃ host, seat.host? = some host ∧ Url.Host.readSpecial (subnet ++ '.' :: node) = .ok host ∧
      seat.port? = some 30001 := by
  have free : ∀ c ∈ subnet ++ ['.'], c ∉ [':', '[', ']'] := by simp [subnet]
  have whole : (subnet ++ ['.']) ++ (node ++ ":30001".toList) = place node := by
    rw [place, List.append_assoc, List.singleton_append]
  have parts := Url.cutHost_append free (node ++ ":30001".toList)
  have join := Url.cutHost_join false (node ++ ":30001".toList)
  have ends := Url.cutHost_colon false (node ++ ":30001".toList)
  obtain ⟨host, found, read⟩ := grounded.host
  have port := grounded.port
  rw [← whole, parts] at read port
  generalize Url.cutHost false (node ++ ":30001".toList) = cutNode at join ends read port
  obtain ⟨front, back⟩ := cutNode
  dsimp only at join ends read port
  rw [List.append_assoc, List.singleton_append] at read
  have noColon := (Url.Host.readSpecial_append dotted_subnet read).1
  cases back with
  | nil =>
    have colon : ':' ∈ front := by
      rw [List.append_nil] at join
      rw [join]
      exact List.mem_append_right node (by decide)
    exact absurd (List.mem_append_right subnet (List.mem_cons_of_mem '.' colon)) noColon
  | cons colon digits =>
    obtain rfl : colon = ':' := ends colon rfl
    have plainDigits : '\\' ∉ digits := by
      intro member
      have inside : '\\' ∈ node ++ ":30001".toList :=
        join ▸ List.mem_append_right front (List.mem_cons_of_mem ':' member)
      rcases List.mem_append.mp inside with inNode | inPort
      · exact plain inNode
      · exact absurd inPort (by decide)
    obtain ⟨-, digitsOnly⟩ := Url.readPort_ok (port ':' digits rfl) plainDigits
    have noMore : ':' ∉ digits := by
      intro member
      cases digitsOnly ':' member
    obtain ⟨rfl, rfl⟩ := eq_of_last_colon join noMore
    have told := port ':' _ rfl
    rw [scheme, port_http] at told
    exact ⟨host, found, read, (Prod.mk.inj (Except.ok.inj told)).1.symm⟩

end Place

section Read

variable {node : List Char} {seat : Url} {path : List Char}
  (read : Url.readAuthority "http".toList (place node ++ "/store".toList) = .ok (seat, path))
include read

/-- Without marks, a node is the end of a host, and nothing else of the URL depends on it. -/
theorem placed_of_unmarked (free : ∀ c ∈ node, c ∉ hostMarks) :
    ∃ host, Url.Host.readSpecial (subnet ++ '.' :: node) = .ok host ∧
      Url.complete seat path = placed host := by
  obtain ⟨scheme, rfl, place, grounded, credentials⟩ := Url.readAuthority_ok family_http read
  rw [cut_place fun c member => endsAuthority_of_free (free c member)] at credentials ⊢
  have noAt := not_mem_place (fun member => free '@' member (by decide)) (by decide)
  rcases credentials with ⟨-, rfl, username, password⟩ | ⟨before, front, -⟩
  · have plain : '\\' ∉ node := fun member => free '\\' member (by decide)
    obtain ⟨host, found, hostRead, port⟩ := host_of_grounded plain grounded scheme
    exact ⟨host, hostRead, (Url.complete_congr scheme username password found port _).trans
      (complete_store host)⟩
  · dsimp only at front
    rw [front] at noAt
    exact absurd (List.mem_append_right before List.mem_cons_self) noAt

/-- Where an authority ends within a node, the port becomes part of the path. -/
theorem not_onSubnet_of_end (found : ∃ c ∈ node, Url.endsAuthority .special c = true) :
    ¬ OnSubnet (Url.complete seat path) := by
  intro onSubnet
  obtain ⟨before, mark, after, rfl, free, ends⟩ := Url.exists_first found
  obtain ⟨scheme, rfl, -⟩ := Url.readAuthority_ok family_http read
  rw [cut_place_of_end free ends] at onSubnet
  have special : Url.Family.of seat.scheme = .special := scheme ▸ family_http
  obtain ⟨bare, shown⟩ := Url.complete_of_bare special onSubnet.query onSubnet.fragment
  have slash : Url.isSlash .special mark = true := by
    have other := bare mark List.mem_cons_self
    simpa [Url.endsAuthority, other.1, other.2] using ends
  have segments : Url.isDot (Url.escape Url.inPath "store".toList) = false ∧
      Url.isDoubleDot (Url.escape Url.inPath "store".toList) = false := by
    rw [escape_store]
    decide
  have port : ':' ∈ ":30001".toList := by decide
  have inPort : ∀ c ∈ ":30001".toList, Url.isSlash .special c = false := by simp [Url.isSlash]
  have inStore : ∀ c ∈ "store".toList, Url.isSlash .special c = false := by simp [Url.isSlash]
  have colon := Url.colon_mem_path slash after port inPort inStore segments
  rw [← shown, onSubnet.path] at colon
  exact absurd colon (by decide)

/-- Behind an `@` in a node stands the host, and before it the user name. -/
theorem not_onSubnet_of_at (free : ∀ c ∈ node, Url.endsAuthority .special c = false)
    (found : '@' ∈ node) : ¬ OnSubnet (Url.complete seat path) := by
  intro onSubnet
  obtain ⟨-, -, behind, -, credentials⟩ := Url.readAuthority_ok family_http read
  rw [cut_place free] at credentials
  rcases credentials with ⟨none, rfl, -⟩ | ⟨before, front, shown⟩
  · exact none (List.mem_append_right subnet (List.mem_cons_of_mem '.'
      (List.mem_append_left _ found)))
  · have username : seat.username = Url.escape Url.inCredentials (Url.cut (· == ':') before).1 :=
      (congrArg Prod.fst shown).trans (Url.readCredentials_fst before)
    have named : (Url.cut (· == ':') before).1 ≠ [] := by
      cases before with
      | nil => cases (List.cons.inj front).1
      | cons c more =>
        obtain rfl : '1' = c := (List.cons.inj front).1
        exact List.cons_ne_nil _ _
    have none : seat.username = [] := onSubnet.username
    exact Url.escape_ne_nil named (username.symm.trans none)

theorem not_onSubnet_of_marked (marked : ¬ ∀ c ∈ node, c ∉ hostMarks) :
    ¬ OnSubnet (Url.complete seat path) := by
  by_cases ends : ∃ c ∈ node, Url.endsAuthority .special c = true
  · exact not_onSubnet_of_end read ends
  · have free : ∀ c ∈ node, Url.endsAuthority .special c = false :=
      fun c member => Bool.eq_false_iff.mpr fun holds => ends ⟨c, member, holds⟩
    obtain ⟨c, member, mark⟩ : ∃ c ∈ node, c ∈ hostMarks := by simpa using marked
    have kinds : c ∈ ['/', '\\', '?', '#'] ∨ c = '@' := by simpa [hostMarks, or_assoc] using mark
    rcases kinds with ending | rfl
    · exact absurd ⟨c, member, endsAuthority_iff.mpr ending⟩ ends
    · exact not_onSubnet_of_at read free member

end Read

theorem onSubnet_placed (last : UInt8) : OnSubnet (placed (.ipv4 ⟨172, 18, 0, last⟩)) where
  host := ⟨last, rfl⟩
  port := rfl
  path := by rfl
  username := rfl
  password := rfl
  query := rfl
  fragment := rfl

/-- Tabs and line ends, which are left out of a node, are no marks. -/
theorem unmarked_iff (node : List Char) :
    (∀ c ∈ Url.unbroken node, c ∉ hostMarks) ↔ ∀ c ∈ node, c ∉ hostMarks := by
  have kept : ∀ c ∈ hostMarks, (c != '\t' && c != '\n' && c != '\r') = true := by simp [hostMarks]
  constructor
  · intro free c member mark
    exact free c (List.mem_filter.mpr ⟨member, kept c mark⟩) mark
  · intro free c member
    exact free c (List.mem_of_mem_filter member)

/-- A node leads to the subnet and nowhere else exactly if none of the marks around a host stand in it
and it completes an address. Without marks, nothing but the host depends on a node, and the host is an
address on the subnet or a name below its shared octets. -/
theorem node_onSubnet_iff {node : String} {url : Url}
    (accepted : locate none (some node) = .ok (some url)) :
    (OnSubnet url ↔
      (∀ c ∈ node.toList, c ∉ hostMarks) ∧ ∃ address, url.host? = some (.ipv4 address)) ∧
    ((∀ c ∈ node.toList, c ∉ hostMarks) →
      (∃ last : UInt8, url = placed (.ipv4 ⟨172, 18, 0, last⟩)) ∨
        ∃ name, url = placed (.name (subnet ++ '.' :: name))) := by
  have read : Url.read (nodeAddress node) = .ok url := by
    cases read : Url.read (nodeAddress node) with
    | error failure => simp [locate, read, Except.map] at accepted
    | ok found => simpa [locate, read, Except.map] using accepted
  obtain ⟨seat, path, authority, rfl⟩ := read_nodeAddress read
  rw [← unmarked_iff]
  by_cases free : ∀ c ∈ Url.unbroken node.toList, c ∉ hostMarks
  · obtain ⟨host, hostRead, whole⟩ := placed_of_unmarked authority free
    rw [whole]
    obtain ⟨-, rest, rfl | ⟨address, rfl, octets⟩⟩ :=
      Url.Host.readSpecial_append dotted_subnet hostRead
    · refine ⟨⟨fun onSubnet => ?_, fun accepted => ?_⟩, fun _ => .inr ⟨rest, rfl⟩⟩
      · obtain ⟨last, host⟩ := onSubnet.host
        cases host
      · obtain ⟨-, address, host⟩ := accepted
        cases host
    · obtain ⟨last, rfl⟩ := exists_last_octet octets
      exact ⟨⟨fun _ => ⟨free, _, rfl⟩, fun _ => onSubnet_placed last⟩, fun _ => .inl ⟨last, rfl⟩⟩
  · have off := not_onSubnet_of_marked authority free
    exact ⟨⟨fun onSubnet => absurd onSubnet off, fun accepted => absurd accepted.1 free⟩,
      fun unmarked => absurd unmarked free⟩

/-- The node `10` completes an address. -/
theorem node_onSubnet_ten :
    locate none (some "10") = .ok (some (placed (.ipv4 ⟨172, 18, 0, 10⟩))) ∧
      OnSubnet (placed (.ipv4 ⟨172, 18, 0, 10⟩)) := by
  have accepted : locate none (some "10") = .ok (some (placed (.ipv4 ⟨172, 18, 0, 10⟩))) := by cbv
  have unmarked : ∀ c ∈ "10".toList, c ∉ hostMarks := by simp [hostMarks]
  exact ⟨accepted, (node_onSubnet_iff accepted).1.mpr ⟨unmarked, _, rfl⟩⟩

/-- Behind an `@`, a node names any host. -/
theorem node_behind_at_elsewhere :
    ∃ url, locate none (some "10@evil") = .ok (some url) ∧
      url.text = "http://172.18.0.10@evil:30001/store" ∧
      url.host? = some (.name "evil".toList) ∧ url.username = "172.18.0.10".toList ∧
      ¬ OnSubnet url := by
  have accepted : locate none (some "10@evil") = .ok (some
      { placed (.name "evil".toList) with username := "172.18.0.10".toList }) := by
    cbv
  refine ⟨_, accepted, by cbv, rfl, rfl, fun onSubnet => ?_⟩
  obtain ⟨last, host⟩ := onSubnet.host
  cases host

end LoadProbe.Collector
