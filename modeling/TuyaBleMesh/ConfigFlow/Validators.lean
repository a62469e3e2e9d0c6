import TuyaBleMesh.ConfigFlow.BridgeHost
import TuyaBleMesh.Exceptions
import TuyaBleMesh.Lib.Bytes
import TuyaBleMesh.Lib.IntText

/-!
# What the forms check

The validators of `config_flow_validators.py`, apart from that of the bridge host, and what
`int` and `mac_to_bytes` make of the texts that they let through.
-/

namespace TuyaBleMesh.ConfigFlow

/-- A value of a form, of an import or of a stored entry. -/
inductive ConfValue
  | str (text : String)
  | int (value : Int)
  | bool (value : Bool)
  /-- Anything else, with what `str`, `int` and `bool` make of it. -/
  | other (text : String) (value : Option Int) (truth : Bool)
  deriving DecidableEq

namespace ConfValue

/-- `str(value)`. -/
def toText : ConfValue → String
  | .str text => text
  | .int value => toString value
  | .bool true => "True"
  | .bool false => "False"
  | .other text _ _ => text

/-- `bool(value)`. -/
def truthy : ConfValue → Bool
  | .str text => text ≠ ""
  | .int value => value ≠ 0
  | .bool value => value
  | .other _ _ truth => truth

end ConfValue

section Patterns

open Regex

/-- `[0-9A-Fa-f]`. -/
def hexClass : Regex := .char TextTables.isHexDigit

def _MAC_PATTERN : Regex :=
  .seq (.seq (.times 5 (.seq (.times 2 hexClass) (literal ':'))) (.times 2 hexClass)) .atEnd

def _HEX_KEY_PATTERN : Regex := .seq (.times 32 hexClass) .atEnd

def _VENDOR_ID_PATTERN : Regex :=
  .seq (.seq (opt (.seq (literal '0') (.char fun c => c = 'x' || c = 'X'))) (between 1 4 hexClass))
    .atEnd

def _UNICAST_ADDR_PATTERN : Regex := .seq (.times 4 hexClass) .atEnd

end Patterns

/-- The size of a buffer for a name or a password. -/
def _MESH_CREDENTIAL_MAX_LEN : Nat := 16

section Validators

variable (tables : TextTables)

def validateHexKey (value : String) : Bool :=
  _HEX_KEY_PATTERN.isMatch tables.isWord value.toList

def validateMac (mac : String) : Option String :=
  if !_MAC_PATTERN.isMatch tables.isWord mac.toList then some "invalid_mac" else none

def validateMeshCredential (value : String) : Option String :=
  if value.utf8ByteSize > _MESH_CREDENTIAL_MAX_LEN then some "invalid_credential_length" else none

def validateVendorId (value : String) : Option String :=
  if !_VENDOR_ID_PATTERN.isMatch tables.isWord (tables.strip value.toList) then
    some "invalid_vendor_id"
  else none

def validateIvIndex : ConfValue → Option String
  | .int value => if !(0 ≤ value ∧ value ≤ 0xFFFFFFFF) then some "invalid_iv_index" else none
  | _ => some "invalid_iv_index"

def validateUnicastAddress (value : String) : Option String :=
  let value := tables.strip value.toList
  if !_UNICAST_ADDR_PATTERN.isMatch tables.isWord value then some "invalid_unicast_address"
  -- what matches the pattern is a number
  else if !(tables.readInt 16 value).any (fun parsed => 0x0001 ≤ parsed ∧ parsed ≤ 0x7FFF) then
    some "invalid_unicast_address"
  else none

/-- `str.upper`. -/
def upper (text : String) : String := String.ofList (tables.upperText text.toList)

/-- `int(p, 16)`, as a byte. -/
def macOctet (part : List Char) : Option UInt8 :=
  (tables.readInt 16 part).bind fun value =>
    if 0 ≤ value ∧ value < 256 then some (UInt8.ofNat value.toNat) else none

/-- `mac_to_bytes`. -/
def macToBytes (mac : String) : Except PyError Bytes :=
  if mac = "" then .error (.protocolError "MAC address cannot be empty")
  else
    let parts := mac.toList.splitOn ':'
    if parts.length ≠ 6 then .error (.protocolError s!"Invalid MAC format: {mac}")
    else
      match parts.mapM (macOctet tables) with
      | some bytes => .ok bytes
      | none => .error (.protocolError s!"Invalid MAC hex values: {mac}")

end Validators

/-! ### What is let through -/

section Accepted

variable {tables : TextTables}

open TextTables

/-- A hexadecimal number that is typed in, with the white space around it, is read as it is and
in capitals. -/
theorem readInt_typed {text : String} (typed : Typed text.toList) {word : List Char}
    (stripped : tables.strip text.toList = word) (hex : ∀ c ∈ word, isHexDigit c = true)
    (some : word ≠ []) :
    tables.readInt 16 text.toList = .some (hexValue word : Int) ∧
      tables.readInt 16 (upper tables text).toList = .some (hexValue word : Int) := by
  obtain ⟨before, after, around, first, last⟩ := tables.exists_typed typed
  rw [stripped] at around
  have read := tables.readInt_hex hex some first last
  obtain ⟨capitals, length, value⟩ := tables.upperText_hex hex
  have someCapitals : tables.upperText word ≠ [] := by
    intro none
    rw [none] at length
    exact some (List.eq_nil_of_length_eq_zero length.symm)
  have readCapitals := tables.readInt_hex capitals someCapitals first last
  refine ⟨around ▸ read, ?_⟩
  rw [upper, String.toList_ofList, around, upperText, List.flatMap_append, List.flatMap_append]
  change tables.readInt 16 (tables.upperText before ++ tables.upperText word ++ tables.upperText after) = _
  rw [tables.upperText_space first, tables.upperText_space last, readCapitals, value]

/-- `[0-9A-Fa-f]{n}`. -/
theorem word_of_hexDigits {n : Nat} {word : List Char} (isWord : (Regex.times n hexClass).Word word) :
    word.length = n ∧ ∀ c ∈ word, isHexDigit c = true := by
  obtain ⟨parts, length, rfl, all⟩ := isWord
  obtain ⟨flat, hex⟩ := Regex.word_of_chars all
  exact ⟨flat.trans length, hex⟩

/-- A stripped text does not end with a line feed. -/
theorem word_of_stripped {r : Regex} {text : List Char}
    (isMatch : Regex.isMatch tables.isWord (.seq r .atEnd) (tables.strip text) = true) :
    r.Word (tables.strip text) := by
  obtain ⟨word, isWord, same | lineFeed⟩ := Regex.word_of_isMatch isMatch
  · exact same ▸ isWord
  · exact absurd lineFeed (tables.strip_ne_append rfl)

theorem unicast_of_validate {value : String} (typed : Typed value.toList)
    (valid : validateUnicastAddress tables value = none) : ∃ address : Nat,
    1 ≤ address ∧ address ≤ 0x7FFF ∧ tables.readInt 16 value.toList = some (address : Int) ∧
      tables.readInt 16 (upper tables value).toList = some (address : Int) := by
  simp only [validateUnicastAddress] at valid
  split at valid
  · cases valid
  · next isMatch =>
    rw [Bool.not_eq_true', Bool.not_eq_false] at isMatch
    obtain ⟨length, hex⟩ := word_of_hexDigits (word_of_stripped isMatch)
    have some : tables.strip value.toList ≠ [] := by
      intro none
      rw [none] at length
      cases length
    rw [tables.readInt_word hex some] at valid
    split at valid
    · cases valid
    · next inside =>
      have range : hexValue (tables.strip value.toList) ≠ 0 ∧
          hexValue (tables.strip value.toList) ≤ 0x7FFF := by
        simpa using inside
      obtain ⟨plain, capitals⟩ := readInt_typed typed rfl hex some
      exact ⟨_, by omega, by omega, plain, capitals⟩

theorem vendorId_of_validate {value : String} (typed : Typed value.toList)
    (valid : validateVendorId tables value = none) : ∃ vendorId : Nat, vendorId < 0x10000 ∧
    tables.readInt 16 value.toList = some (vendorId : Int) := by
  unfold validateVendorId at valid
  split at valid
  · cases valid
  · next isMatch =>
    rw [Bool.not_eq_true', Bool.not_eq_false] at isMatch
    obtain ⟨zeroX, number, stripped, isPrefix, isNumber⟩ := word_of_stripped isMatch
    obtain ⟨first, others, rfl, one, three⟩ := isNumber
    obtain ⟨length, hexFirst⟩ := word_of_hexDigits one
    obtain ⟨parts, few, rfl, all⟩ := three
    obtain ⟨lengthOthers, hexOthers⟩ := Regex.word_of_chars all
    have hex : ∀ c ∈ first ++ parts.flatten, isHexDigit c = true := by
      intro c member
      exact (List.mem_append.mp member).elim (hexFirst c) (hexOthers c)
    have some : first ++ parts.flatten ≠ [] := by
      intro none
      rw [(List.append_eq_nil_iff.mp none).1] at length
      cases length
    have small : hexValue (first ++ parts.flatten) < 0x10000 := by
      refine Nat.lt_of_lt_of_le (hexValue_lt hex) ?_
      rw [List.length_append, length, lengthOthers]
      exact Nat.pow_le_pow_right (by decide) (by omega : 1 + parts.length ≤ 4)
    obtain ⟨before, after, around, spaces, spaces'⟩ := tables.exists_typed typed
    refine ⟨_, small, ?_⟩
    rw [around, stripped]
    obtain ⟨parts', few', rfl, all'⟩ := isPrefix
    -- there is a prefix or none
    match parts', few', all' with
    | [], _, _ => exact tables.readInt_hex hex some spaces spaces'
    | [part], _, all' =>
      obtain ⟨zero, x, rfl, ⟨c, isZero, rfl⟩, ⟨d, isX, rfl⟩⟩ := all' part List.mem_cons_self
      cases of_decide_eq_true isZero
      have letter : d = 'x' ∨ d = 'X' := by simpa using isX
      exact tables.readInt_prefixed letter hex some spaces spaces'

/-- A network, device or application key. -/
theorem key_of_validate {value : String} (typed : Typed value.toList)
    (valid : validateHexKey tables value = true) :
    value.toList.length = 32 ∧ ∀ c ∈ value.toList, isHexDigit c = true := by
  obtain ⟨word, isWord, same | lineFeed⟩ := Regex.word_of_isMatch valid
  · exact same ▸ word_of_hexDigits isWord
  · have printable := typed '\n' (lineFeed ▸ by simp)
    exact absurd printable (by decide)

/-- A MAC address has six parts of two digits. -/
theorem parts_of_validateMac {mac : String} (typed : Typed mac.toList)
    (valid : validateMac tables mac = none) : ∃ parts : List (List Char), parts.length = 6 ∧
    mac.toList = [':'].intercalate parts ∧
      ∀ part ∈ parts, part.length = 2 ∧ ∀ c ∈ part, isHexDigit c = true := by
  unfold validateMac at valid
  split at valid
  · cases valid
  · next isMatch =>
    rw [Bool.not_eq_true', Bool.not_eq_false] at isMatch
    have isWord : ∃ word, (Regex.seq (.times 5 (.seq (.times 2 hexClass) (Regex.literal ':')))
        (.times 2 hexClass)).Word word ∧ mac.toList = word := by
      obtain ⟨word, isWord, same | lineFeed⟩ := Regex.word_of_isMatch isMatch
      · exact ⟨word, isWord, same⟩
      · have printable := typed '\n' (lineFeed ▸ by simp)
        exact absurd printable (by decide)
    obtain ⟨_, ⟨front, last, rfl, ⟨groups, five, rfl, all⟩, lastTwo⟩, same⟩ := isWord
    have group {word : List Char}
        (isGroup : (Regex.seq (.times 2 hexClass) (Regex.literal ':')).Word word) :
        ∃ part : List Char, word = part ++ [':'] ∧ part.length = 2 ∧ ∀ c ∈ part, isHexDigit c = true := by
      obtain ⟨part, _, rfl, two, c, isColon, rfl⟩ := isGroup
      cases of_decide_eq_true isColon
      exact ⟨part, rfl, word_of_hexDigits two⟩
    match groups, five, all with
    | [u, v, w, x, y], _, all =>
      simp only [List.forall_mem_cons] at all
      obtain ⟨isU, isV, isW, isX, isY, -⟩ := all
      obtain ⟨u, rfl, hexU⟩ := group isU
      obtain ⟨v, rfl, hexV⟩ := group isV
      obtain ⟨w, rfl, hexW⟩ := group isW
      obtain ⟨x, rfl, hexX⟩ := group isX
      obtain ⟨y, rfl, hexY⟩ := group isY
      refine ⟨[u, v, w, x, y, last], rfl, ?_, ?_⟩
      · rw [same]
        simp [List.intercalate]
      · simp only [List.forall_mem_cons]
        exact ⟨hexU, hexV, hexW, hexX, hexY, word_of_hexDigits lastTwo, nofun⟩

theorem upperText_intercalate (parts : List (List Char)) :
    tables.upperText ([':'].intercalate parts) = [':'].intercalate (parts.map tables.upperText) := by
  match parts with
  | [] => rfl
  | [part] => simp
  | part :: next :: parts =>
    have colon : tables.upperText [':'] = [':'] := rfl
    have rest := upperText_intercalate (next :: parts)
    rw [List.map_cons] at rest
    rw [List.intercalate_cons_cons, List.map_cons, List.map_cons, List.intercalate_cons_cons, ← rest,
      ← colon]
    simp only [upperText, List.flatMap_append]
    rfl

theorem macOctet_hex {part : List Char} (two : part.length = 2)
    (hex : ∀ c ∈ part, isHexDigit c = true) : ∃ byte, macOctet tables part = some byte := by
  have some : part ≠ [] := by
    rintro rfl
    cases two
  have small : hexValue part < 256 := by
    refine Nat.lt_of_lt_of_le (hexValue_lt hex) ?_
    rw [two]
    decide
  refine ⟨UInt8.ofNat (hexValue part), ?_⟩
  have inside : (0 : Int) ≤ hexValue part ∧ (hexValue part : Int) < 256 := by omega
  rw [macOctet, tables.readInt_word hex some, Option.bind_some, if_pos inside, Int.toNat_natCast]

/-- Six parts of two digits are six bytes. -/
theorem macToBytes_parts {text : String} {parts : List (List Char)} (six : parts.length = 6)
    (joined : text.toList = [':'].intercalate parts)
    (hex : ∀ part ∈ parts, part.length = 2 ∧ ∀ c ∈ part, isHexDigit c = true) :
    ∃ bytes, macToBytes tables text = .ok bytes ∧ bytes.length = 6 := by
  have some : parts ≠ [] := by
    rintro rfl
    cases six
  have split : text.toList.splitOn ':' = parts := by
    rw [joined]
    refine List.splitOn_intercalate ':' (fun part member colon => ?_) some
    exact absurd ((hex part member).2 ':' colon) (by decide)
  have octets : ∃ bytes, parts.mapM (macOctet tables) = .some bytes ∧
      bytes.length = parts.length := by
    clear six joined some split
    induction parts with
    | nil => exact ⟨[], rfl, rfl⟩
    | cons part parts ih =>
      obtain ⟨⟨two, digits⟩, others⟩ := List.forall_mem_cons.mp hex
      obtain ⟨byte, isByte⟩ : ∃ byte, macOctet tables part = .some byte := macOctet_hex two digits
      obtain ⟨bytes, mapped, count⟩ := ih others
      exact ⟨byte :: bytes, by rw [List.mapM_cons, isByte, mapped]; rfl, congrArg Nat.succ count⟩
  obtain ⟨bytes, mapped, count⟩ := octets
  have nonempty : text ≠ "" := by
    rintro rfl
    rw [show "".toList = [] from rfl] at split
    rw [← split] at six
    exact absurd six (by decide)
  refine ⟨bytes, ?_, count.trans six⟩
  rw [macToBytes, if_neg nonempty, split]
  simp only [six, ne_eq, not_true_eq_false, if_false, mapped]

/-- A MAC address has six bytes, in capitals as well. -/
theorem macToBytes_of_validate {mac : String} (typed : Typed mac.toList)
    (valid : validateMac tables mac = none) :
    (∃ bytes, macToBytes tables mac = .ok bytes ∧ bytes.length = 6) ∧
      ∃ bytes, macToBytes tables (upper tables mac) = .ok bytes ∧ bytes.length = 6 := by
  obtain ⟨parts, six, joined, hex⟩ := parts_of_validateMac typed valid
  refine ⟨macToBytes_parts six joined hex, ?_⟩
  have joinedCapitals : (upper tables mac).toList =
      [':'].intercalate (parts.map tables.upperText) := by
    rw [upper, String.toList_ofList, joined, upperText_intercalate]
  refine macToBytes_parts ?_ joinedCapitals ?_
  · rw [List.length_map, six]
  · intro capitals member
    obtain ⟨part, inside, rfl⟩ := List.mem_map.mp member
    obtain ⟨two, digits⟩ := hex part inside
    obtain ⟨hexCapitals, length, -⟩ := tables.upperText_hex digits
    exact ⟨length.trans two, hexCapitals⟩

end Accepted

end TuyaBleMesh.ConfigFlow
