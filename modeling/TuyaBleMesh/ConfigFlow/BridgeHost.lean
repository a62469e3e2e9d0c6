import TuyaBleMesh.Lib.IpAddress
import TuyaBleMesh.Lib.Regex

/-!
# The host of the bridge

`_validate_bridge_host` of `config_flow_validators.py`, and the addresses that an accepted
host may denote.
-/

namespace TuyaBleMesh

section Pattern

open Regex

def bridgeLabel : Regex :=
  let alphanumeric := oneOf (range 'a' 'z') [range 'A' 'Z', range '0' '9']
  .seq alphanumeric (opt (.seq (.upTo 61 (.alt alphanumeric (literal '-'))) alphanumeric))

variable (tables : CharTables)

def bridgeIpv4 : Regex :=
  let number := between 1 3 (.char tables.isDecimal)
  .seq (.times 3 (.seq number (literal '.'))) number

def bridgeIpv6 : Regex :=
  plus (oneOf (range '0' '9') [range 'a' 'f', range 'A' 'F', literal ':'])

def bridgeHostname : Regex := .seq bridgeLabel (.star (.seq (literal '.') bridgeLabel))

def _BRIDGE_HOST_PATTERN : Regex :=
  .seq (oneOf (bridgeIpv4 tables) [bridgeIpv6, bridgeHostname]) .atEnd

end Pattern

def _PRIVATE_IP_NETS : List IpNetwork :=
  let dotted (places : List Nat) := IpAddress.v4 (IpAddress.fromPlaces 256 places)
  [⟨dotted [127, 0, 0, 0], 8⟩, ⟨dotted [169, 254, 0, 0], 16⟩, ⟨.v6 1, 128⟩,
    ⟨.v6 (0xFE80 * 2 ^ 112), 10⟩, ⟨dotted [100, 64, 0, 0], 10⟩, ⟨dotted [192, 0, 2, 0], 24⟩,
    ⟨dotted [198, 51, 100, 0], 24⟩, ⟨dotted [203, 0, 113, 0], 24⟩]

/-- `any(addr in net for net in _PRIVATE_IP_NETS)`. -/
def isPrivate (address : IpAddress) : Bool :=
  _PRIVATE_IP_NETS.any fun net => net.contains address

/-- `host.startswith("0x") or host.startswith("0X")`. -/
def startsWithHex (host : List Char) : Bool :=
  "0x".toList.isPrefixOf host || "0X".toList.isPrefixOf host

/-- `_is_ssrf_risk`. -/
def isSsrfRisk (host : List Char) : Bool :=
  if startsWithHex host then true
  else
    match IpAddress.ipAddress host with
    | some address => isPrivate address
    | none => false

/-- `"://" in host or "/" in host or "\\" in host`. -/
def isUrlLike (host : List Char) : Bool :=
  host.tails.any "://".toList.isPrefixOf || host.contains '/' || host.contains (Char.ofNat 0x5C)

/-- `_validate_bridge_host`. -/
def validateBridgeHost (tables : CharTables) (host : String) : Option String :=
  let host := tables.strip host.toList
  if host = [] then some "invalid_bridge_host"
  else if isUrlLike host then some "invalid_bridge_host"
  else if !(_BRIDGE_HOST_PATTERN tables).isMatch tables.isWord host then
    some "invalid_bridge_host"
  else if isSsrfRisk host then some "invalid_bridge_host"
  else none

namespace BridgeHost

open IpAddress

variable {tables : CharTables} {host : String} {text : List Char}

/-- The host is accepted only if no reading of it is an address of a blocked network. -/
def Guarded (tables : CharTables) (host : String) : Prop :=
  validateBridgeHost tables host = none →
    ∀ address, Denotes (tables.strip host.toList) address → isPrivate address = false

/-- The host passes all checks but the one of its address. -/
def IsPlain (tables : CharTables) (text : List Char) : Prop :=
  text ≠ [] ∧ isUrlLike text = false ∧
    (_BRIDGE_HOST_PATTERN tables).isMatch tables.isWord text = true ∧ startsWithHex text = false

/-- The host spells a blocked IPv4 address in a way that `ip_address` does not take for one: as
`inet_aton` reads numbers, or mapped to an IPv6 address. -/
def Evades (text : List Char) : Prop :=
  ∃ value, isPrivate (.v4 value) = true ∧
    (inetAton text = some value ∧ parseIpv4 text = none ∨
      value < 2 ^ 32 ∧ SpellsIpv6 text (0xFFFF * 2 ^ 32 + value))

theorem isSsrfRisk_eq_false : isSsrfRisk text = false ↔ startsWithHex text = false ∧
    ∀ address ∈ ipAddress text, isPrivate address = false := by
  unfold isSsrfRisk
  by_cases hex : startsWithHex text = true
  · rw [if_pos hex, hex]
    simp
  · rw [if_neg hex]
    rw [Bool.not_eq_true] at hex
    split
    · next address found => simp [hex, found]
    · next missing => simp [hex, missing]

theorem validateBridgeHost_eq_none :
    validateBridgeHost tables host = none ↔ IsPlain tables (tables.strip host.toList) ∧
      ∀ address ∈ ipAddress (tables.strip host.toList), isPrivate address = false := by
  have risk : isSsrfRisk (tables.strip host.toList) = false ↔ _ := isSsrfRisk_eq_false
  simp only [validateBridgeHost, IsPlain, and_assoc, ← risk]
  split
  · next empty => simp [empty]
  · next some =>
    split
    · next url => simp [url]
    · next path =>
      split
      · next other =>
        rw [Bool.not_eq_true'] at other
        simp [other]
      · next isMatch =>
        rw [Bool.not_eq_true', Bool.not_eq_false] at isMatch
        split
        · next risky => simp [risky]
        · next safe => simp [some, path, isMatch, safe]

/-- A host with a colon matches the second branch of the pattern: it has neither a dot nor a
zone. -/
theorem undotted_of_colon (plain : IsPlain tables (tables.strip host.toList))
    (colon : ':' ∈ tables.strip host.toList) :
    '.' ∉ tables.strip host.toList ∧ '%' ∉ tables.strip host.toList := by
  obtain ⟨stop, member, last⟩ := Regex.exists_end_of_isMatch plain.2.2.1
  have whole (r : Regex) (ends : stop ∈ r.ends tables.isWord ⟨none, tables.strip host.toList⟩) :
      ∀ c ∈ tables.strip host.toList, r.allows c = true := by
    obtain ⟨word, split, all⟩ := r.spans_ends tables.isWord _ stop ends
    -- `$` matches before a line feed at the end, which `strip` has taken away
    rcases last with nothing | lineFeed
    · rw [nothing, List.append_nil] at split
      intro c inside
      exact all c (split ▸ inside)
    · rw [lineFeed] at split
      exact absurd split (tables.strip_ne_append rfl)
  rcases List.mem_append.mp member with numeric | hostname
  · rcases List.mem_append.mp numeric with ipv4 | ipv6
    · exact absurd (whole (bridgeIpv4 tables) ipv4 ':' colon) Bool.false_ne_true
    · constructor
      · exact fun dot => absurd (whole bridgeIpv6 ipv6 '.' dot) (by decide)
      · exact fun zone => absurd (whole bridgeIpv6 ipv6 '%' zone) (by decide)
  · exact absurd (whole bridgeHostname hostname ':' colon) (by decide)

/-- An address to which an IPv4 address is mapped is in no blocked network of its own version. -/
theorem isPrivate_mapped {value : Nat} (small : value < 2 ^ 32) :
    isPrivate (.v6 (0xFFFF * 2 ^ 32 + value)) = false := by
  have loopback : (0xFFFF * 2 ^ 32 + value) / 2 ^ (128 - 128) ≠ 1 / 2 ^ (128 - 128) := by omega
  have linkLocal : (0xFFFF * 2 ^ 32 + value) / 2 ^ (128 - 10) ≠
      0xFE80 * 2 ^ 112 / 2 ^ (128 - 10) := by
    rw [Nat.div_eq_of_lt (by omega)]
    decide
  simp only [isPrivate, _PRIVATE_IP_NETS, IpNetwork.contains, List.any_cons, List.any_nil,
    Nat.shiftRight_eq_div_pow, loopback, linkLocal]
  decide

/-- An accepted host denotes no address of a blocked network, unless it spells one in a way that
`ip_address` does not see through. -/
theorem guarded_iff (tables : CharTables) (host : String) :
    Guarded tables host ↔
      ¬ (IsPlain tables (tables.strip host.toList) ∧ Evades (tables.strip host.toList)) := by
  constructor
  · rintro guarded ⟨plain, value, blocked, read | mapped⟩
    · -- `ip_address` raises, and the host passes as a name
      obtain ⟨read, foreign⟩ := read
      have accepted : validateBridgeHost tables host = none := by
        rw [validateBridgeHost_eq_none, ipAddress, foreign,
          parseIpv6_eq_none (colon_not_mem_of_aton read)]
        exact ⟨plain, fun address absent => by cases absent⟩
      have safe := guarded accepted _ (.aton _ value read)
      rw [safe] at blocked
      cases blocked
    · -- the mapped address is checked as one of version 6
      obtain ⟨small, spelled⟩ := mapped
      obtain ⟨undotted, unzoned⟩ := undotted_of_colon plain (colon_mem_of_spells spelled)
      have accepted : validateBridgeHost tables host = none := by
        rw [validateBridgeHost_eq_none, ipAddress, parseIpv4_eq_none undotted,
          parseIpv6_of_spells spelled undotted unzoned]
        refine ⟨plain, fun address same => ?_⟩
        cases same
        exact isPrivate_mapped small
      have safe := guarded accepted _ (.mapped _ value small spelled)
      rw [safe] at blocked
      cases blocked
  · intro evades accepted address denotes
    obtain ⟨plain, safe⟩ := validateBridgeHost_eq_none.mp accepted
    by_contra blocked
    rw [Bool.not_eq_false] at blocked
    cases denotes with
    | aton value read =>
      cases parsed : parseIpv4 (tables.strip host.toList) with
      | none => exact evades ⟨plain, value, blocked, .inl ⟨read, parsed⟩⟩
      | some value' =>
        -- both readings are the same, and the check has seen it
        have same := parseIpv4_aton parsed
        rw [read] at same
        cases same
        have unblocked := safe (.v4 value) (by rw [ipAddress, parsed]; rfl)
        rw [unblocked] at blocked
        cases blocked
    | ipv6 value spelled =>
      obtain ⟨undotted, unzoned⟩ := undotted_of_colon plain (colon_mem_of_spells spelled)
      have unblocked := safe (.v6 value) (by
        rw [ipAddress, parseIpv4_eq_none undotted, parseIpv6_of_spells spelled undotted unzoned]
        rfl)
      rw [unblocked] at blocked
      cases blocked
    | mapped value small spelled =>
      exact evades ⟨plain, value, blocked, .inr ⟨small, spelled⟩⟩

/-- The short form of the loopback address. -/
theorem shortLoopback_accepted :
    ¬ ∀ (tables : CharTables) (host : String), Guarded tables host := by
  intro guarded
  have safe := guarded ⟨fun _ => false, fun _ => false, fun _ => false⟩ "127.1" (by decide)
    (.v4 0x7F000001) (.aton _ _ (by decide))
  revert safe
  decide

end BridgeHost

end TuyaBleMesh
