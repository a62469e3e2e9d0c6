import TuyaBleMesh.Bridge.Json
import TuyaBleMesh.Lib.Regex

/-!
# Redaction of diagnostics

`_redact_data` and `_redact_string` of `diagnostics.py`, and what their result says about
the values under the sensitive keys. A dictionary is the list of its members.
-/

namespace TuyaBleMesh

def REDACTED : String := "**REDACTED**"

def CONF_MESH_NAME : String := "mesh_name"

def CONF_MESH_PASSWORD : String := "mesh_password"

def CONF_NET_KEY : String := "net_key"

def CONF_DEV_KEY : String := "dev_key"

def CONF_APP_KEY : String := "app_key"

def CONF_BRIDGE_HOST : String := "bridge_host"

def _SENSITIVE_KEYS : List String :=
  [CONF_MESH_NAME, CONF_MESH_PASSWORD, CONF_NET_KEY, CONF_DEV_KEY, CONF_APP_KEY, CONF_BRIDGE_HOST]

/-- `key in _SENSITIVE_KEYS`. -/
def isSensitive (key : String) : Bool := _SENSITIVE_KEYS.contains key

/-! ### Texts -/

section Patterns

open Regex

variable (tables : CharTables)

/-- `25[0-5]|2[0-4]\d|[01]?\d\d?`. -/
def octetPattern : Regex :=
  let digit := Regex.char tables.isDecimal
  oneOf (inTurn (literal '2') [literal '5', range '0' '5'])
    [inTurn (literal '2') [range '0' '4', digit], inTurn (opt (range '0' '1')) [digit, opt digit]]

def _IP_PATTERN : Regex :=
  inTurn .boundary
    [.times 3 (.seq (octetPattern tables) (literal '.')), octetPattern tables, .boundary]

def _MAC_PATTERN : Regex :=
  let pair := Regex.times 2 (oneOf (range '0' '9') [range 'A' 'F', range 'a' 'f'])
  inTurn .boundary [.times 5 (.seq pair (oneOf (literal ':') [literal '-'])), pair, .boundary]

/-- `_redact_string`. -/
def redactString (text : String) : String :=
  let text := sub tables.isWord (_IP_PATTERN tables) "xxx.xxx.xxx.xxx".toList text.toList
  String.ofList (sub tables.isWord _MAC_PATTERN "XX:XX:XX:XX:XX:XX".toList text)

end Patterns

/-! ### Dictionaries -/

namespace Json

section Redaction

variable (tables : CharTables)

mutual

def redactValue : Json → Json
  | .string text => .string (redactString tables text)
  | .object members => .object (redactData members)
  -- a list stays as it is, whatever is in it
  | .array items => .array items
  | .number value => .number value
  | .bool value => .bool value
  | .null => .null

/-- `_redact_data`. -/
def redactData : List (String × Json) → List (String × Json)
  | [] => []
  | (key, value) :: rest =>
    (key, if isSensitive key then .string REDACTED else redactValue value) :: redactData rest

end

end Redaction

/-! ### What is to be hidden -/

mutual

/-- The value with everything changed that is stored under a sensitive key, at any depth. -/
def mapSecrets (change : Json → Json) : Json → Json
  | .array items => .array (mapSecretsItems change items)
  | .object members => .object (mapSecretsMembers change members)
  | .string text => .string text
  | .number value => .number value
  | .bool value => .bool value
  | .null => .null

def mapSecretsItems (change : Json → Json) : List Json → List Json
  | [] => []
  | item :: rest => mapSecrets change item :: mapSecretsItems change rest

def mapSecretsMembers (change : Json → Json) : List (String × Json) → List (String × Json)
  | [] => []
  | (key, value) :: rest =>
    (key, if isSensitive key then change value else mapSecrets change value) ::
      mapSecretsMembers change rest

end

/-- The two dictionaries differ at most in what is stored under sensitive keys. -/
def SameOutside (data data' : List (String × Json)) : Prop :=
  mapSecretsMembers (fun _ => .null) data = mapSecretsMembers (fun _ => .null) data'

mutual

/-- The keys of the value, down to the sensitive ones. -/
def outline : Json → Json
  | .array items => .array (outlineItems items)
  | .object members => .object (outlineMembers members)
  | _ => .null

def outlineItems : List Json → List Json
  | [] => []
  | item :: rest => outline item :: outlineItems rest

def outlineMembers : List (String × Json) → List (String × Json)
  | [] => []
  | (key, value) :: rest =>
    (key, if isSensitive key then .null else outline value) :: outlineMembers rest

end

mutual

/-- There is a sensitive key somewhere in the value. -/
def hasSecret : Json → Bool
  | .array items => hasSecretItems items
  | .object members => hasSecretMembers members
  | _ => false

def hasSecretItems : List Json → Bool
  | [] => false
  | item :: rest => hasSecret item || hasSecretItems rest

def hasSecretMembers : List (String × Json) → Bool
  | [] => false
  | (key, value) :: rest => isSensitive key || hasSecret value || hasSecretMembers rest

end

mutual

/-- There is a sensitive key in a list that is reached through dictionaries and no sensitive
key. -/
def exposes : Json → Bool
  | .array items => hasSecretItems items
  | .object members => exposesMembers members
  | _ => false

def exposesMembers : List (String × Json) → Bool
  | [] => false
  | (key, value) :: rest => !isSensitive key && exposes value || exposesMembers rest

end

/-! ### Lemmas -/

section Secrets

variable {change change' : Json → Json}

mutual

theorem hasSecret_mapSecrets : ∀ value, hasSecret (mapSecrets change value) = hasSecret value
  | .array items => hasSecretItems_mapSecrets items
  | .object members => hasSecretMembers_mapSecrets members
  | .string _ => rfl
  | .number _ => rfl
  | .bool _ => rfl
  | .null => rfl

theorem hasSecretItems_mapSecrets :
    ∀ items, hasSecretItems (mapSecretsItems change items) = hasSecretItems items
  | [] => rfl
  | item :: rest => by
    rw [mapSecretsItems, hasSecretItems, hasSecretItems, hasSecret_mapSecrets item,
      hasSecretItems_mapSecrets rest]

theorem hasSecretMembers_mapSecrets :
    ∀ members, hasSecretMembers (mapSecretsMembers change members) = hasSecretMembers members
  | [] => rfl
  | (key, value) :: rest => by
    rw [mapSecretsMembers, hasSecretMembers, hasSecretMembers, hasSecretMembers_mapSecrets rest]
    cases sensitive : isSensitive key with
    | true => rfl
    | false => rw [if_neg Bool.false_ne_true, hasSecret_mapSecrets value]

end

mutual

/-- Without secrets nothing changes. -/
theorem mapSecrets_eq_self : ∀ value, hasSecret value = false → mapSecrets change value = value
  | .array items, clear => congrArg Json.array (mapSecretsItems_eq_self items clear)
  | .object members, clear => congrArg Json.object (mapSecretsMembers_eq_self members clear)
  | .string _, _ => rfl
  | .number _, _ => rfl
  | .bool _, _ => rfl
  | .null, _ => rfl

theorem mapSecretsItems_eq_self :
    ∀ items, hasSecretItems items = false → mapSecretsItems change items = items
  | [], _ => rfl
  | item :: rest, clear => by
    rw [hasSecretItems, Bool.or_eq_false_iff] at clear
    rw [mapSecretsItems, mapSecrets_eq_self item clear.1, mapSecretsItems_eq_self rest clear.2]

theorem mapSecretsMembers_eq_self :
    ∀ members, hasSecretMembers members = false → mapSecretsMembers change members = members
  | [], _ => rfl
  | (key, value) :: rest, clear => by
    rw [hasSecretMembers, Bool.or_eq_false_iff, Bool.or_eq_false_iff] at clear
    obtain ⟨⟨plain, inside⟩, others⟩ := clear
    rw [mapSecretsMembers, plain, if_neg Bool.false_ne_true, mapSecrets_eq_self value inside,
      mapSecretsMembers_eq_self rest others]

end

mutual

/-- Where nothing changes there is no secret. -/
theorem hasSecret_of_mapSecrets_eq (changes : ∀ value, change value ≠ value) :
    ∀ value, mapSecrets change value = value → hasSecret value = false
  | .array items, same => hasSecretItems_of_mapSecrets_eq changes items (Json.array.inj same)
  | .object members, same =>
    hasSecretMembers_of_mapSecrets_eq changes members (Json.object.inj same)
  | .string _, _ => rfl
  | .number _, _ => rfl
  | .bool _, _ => rfl
  | .null, _ => rfl

theorem hasSecretItems_of_mapSecrets_eq (changes : ∀ value, change value ≠ value) :
    ∀ items, mapSecretsItems change items = items → hasSecretItems items = false
  | [], _ => rfl
  | item :: rest, same => by
    obtain ⟨first, others⟩ := List.cons.inj same
    rw [hasSecretItems, hasSecret_of_mapSecrets_eq changes item first,
      hasSecretItems_of_mapSecrets_eq changes rest others, Bool.or_false]

theorem hasSecretMembers_of_mapSecrets_eq (changes : ∀ value, change value ≠ value) :
    ∀ members, mapSecretsMembers change members = members → hasSecretMembers members = false
  | [], _ => rfl
  | (key, value) :: rest, same => by
    obtain ⟨first, others⟩ := List.cons.inj same
    have value_eq := (Prod.mk.inj first).2
    cases sensitive : isSensitive key with
    | true =>
      rw [if_pos sensitive] at value_eq
      exact absurd value_eq (changes value)
    | false =>
      rw [if_neg (by rw [sensitive]; exact Bool.false_ne_true)] at value_eq
      rw [hasSecretMembers, sensitive, hasSecret_of_mapSecrets_eq changes value value_eq,
        hasSecretMembers_of_mapSecrets_eq changes rest others]
      rfl

end

mutual

theorem mapSecrets_mapSecrets :
    ∀ value, mapSecrets change (mapSecrets change' value) =
      mapSecrets (fun secret => change (change' secret)) value
  | .array items => congrArg Json.array (mapSecretsItems_mapSecrets items)
  | .object members => congrArg Json.object (mapSecretsMembers_mapSecrets members)
  | .string _ => rfl
  | .number _ => rfl
  | .bool _ => rfl
  | .null => rfl

theorem mapSecretsItems_mapSecrets :
    ∀ items, mapSecretsItems change (mapSecretsItems change' items) =
      mapSecretsItems (fun secret => change (change' secret)) items
  | [] => rfl
  | item :: rest => by
    simp only [mapSecretsItems]
    rw [mapSecrets_mapSecrets item, mapSecretsItems_mapSecrets rest]

theorem mapSecretsMembers_mapSecrets :
    ∀ members, mapSecretsMembers change (mapSecretsMembers change' members) =
      mapSecretsMembers (fun secret => change (change' secret)) members
  | [] => rfl
  | (key, value) :: rest => by
    simp only [mapSecretsMembers]
    rw [mapSecretsMembers_mapSecrets rest]
    cases sensitive : isSensitive key with
    | true => rfl
    | false =>
      simp only [Bool.false_eq_true, if_false]
      rw [mapSecrets_mapSecrets value]

end

end Secrets

section Redaction

variable {tables : CharTables}

mutual

theorem outline_redactValue : ∀ value, outline (redactValue tables value) = outline value
  | .array _ => rfl
  | .object members => congrArg Json.object (outlineMembers_redactData members)
  | .string _ => by simp only [redactValue, outline]
  | .number _ => rfl
  | .bool _ => rfl
  | .null => rfl

/-- The keys stay. -/
theorem outlineMembers_redactData :
    ∀ data, outlineMembers (redactData tables data) = outlineMembers data
  | [] => rfl
  | (key, value) :: rest => by
    rw [redactData, outlineMembers, outlineMembers, outlineMembers_redactData rest]
    cases sensitive : isSensitive key with
    | true => rfl
    | false =>
      simp only [Bool.false_eq_true, if_false]
      rw [outline_redactValue value]

end

mutual

/-- Two values that are the same outside are redacted to the same, unless a list exposes
something. -/
theorem redactValue_eq : ∀ value value', exposes value = false →
    mapSecrets (fun _ => .null) value = mapSecrets (fun _ => .null) value' →
      redactValue tables value = redactValue tables value'
  | .array items, value', closed, same => by
    -- a list without secrets is the same
    cases value' with
    | array items' =>
      have hidden : mapSecretsItems (fun _ => .null) items =
        mapSecretsItems (fun _ => .null) items' := Json.array.inj same
      have masked (items : List Json) : hasSecretItems (mapSecretsItems (fun _ => .null) items) =
          hasSecretItems items := hasSecretItems_mapSecrets items
      have closed' : hasSecretItems items' = false := by
        rw [← masked, ← hidden, masked]
        exact closed
      rw [mapSecretsItems_eq_self items closed, mapSecretsItems_eq_self items' closed'] at hidden
      rw [hidden]
    | _ => cases same
  | .object members, value', closed, same => by
    cases value' with
    | object members' =>
      have hidden := Json.object.inj same
      exact congrArg Json.object (redactData_eq members members' closed hidden)
    | _ => cases same
  | .string text, value', _, same => by
    cases value' with
    | string text' => rw [Json.string.inj same]
    | _ => cases same
  | .number value, value', _, same => by
    cases value' with
    | number value' => exact same
    | _ => cases same
  | .bool value, value', _, same => by
    cases value' with
    | bool value' => exact same
    | _ => cases same
  | .null, value', _, same => by
    cases value' with
    | null => rfl
    | _ => cases same

theorem redactData_eq : ∀ data data', exposesMembers data = false → SameOutside data data' →
    redactData tables data = redactData tables data'
  | [], data', _, same => by
    cases data' with
    | nil => rfl
    | cons entry rest => cases same
  | (key, value) :: rest, data', closed, same => by
    cases data' with
    | nil => cases same
    | cons entry rest' =>
      obtain ⟨key', value'⟩ := entry
      obtain ⟨first, others⟩ := List.cons.inj same
      obtain ⟨sameKey, sameValue⟩ := Prod.mk.inj first
      subst sameKey
      rw [exposesMembers, Bool.or_eq_false_iff] at closed
      rw [redactData, redactData, redactData_eq rest rest' closed.2 others]
      -- under a sensitive key the result is the same text for both
      cases sensitive : isSensitive key with
      | true => rfl
      | false =>
        simp only [sensitive, Bool.false_eq_true, if_false, Bool.not_false, Bool.true_and]
          at closed sameValue ⊢
        rw [redactValue_eq value value' closed.1 sameValue]

end

/-- A change that no value withstands. -/
def tamper : Json → Json
  | .null => .bool true
  | _ => .null

theorem tamper_ne (value : Json) : tamper value ≠ value := by
  cases value with
  | null => exact Json.noConfusion
  | _ => exact Json.noConfusion

mutual

theorem exposes_of_redactValue_eq : ∀ value,
    redactValue tables (mapSecrets tamper value) = redactValue tables value →
      exposes value = false
  | .array items, same =>
    hasSecretItems_of_mapSecrets_eq tamper_ne items (Json.array.inj same)
  | .object members, same => exposes_of_redactData_eq members (Json.object.inj same)
  | .string _, _ => rfl
  | .number _, _ => rfl
  | .bool _, _ => rfl
  | .null, _ => rfl

/-- If no tampering with the secrets shows, no list exposes one. -/
theorem exposes_of_redactData_eq : ∀ data,
    redactData tables (mapSecretsMembers tamper data) = redactData tables data →
      exposesMembers data = false
  | [], _ => rfl
  | (key, value) :: rest, same => by
    obtain ⟨first, others⟩ := List.cons.inj same
    have sameValue := (Prod.mk.inj first).2
    rw [exposesMembers, exposes_of_redactData_eq rest others, Bool.or_false]
    cases sensitive : isSensitive key with
    | true => rfl
    | false =>
      simp only [sensitive, Bool.false_eq_true, if_false] at sameValue
      rw [exposes_of_redactValue_eq value sameValue]
      rfl

end

/-- The result says nothing about the values under sensitive keys, and has the keys of the
dictionary, just when no list outside of them holds a sensitive key, at any depth. -/
theorem redactData_noninterfering_iff (data : List (String × Json)) :
    ((∀ data', SameOutside data data' → redactData tables data = redactData tables data') ∧
        outlineMembers (redactData tables data) = outlineMembers data) ↔
      exposesMembers data = false := by
  constructor
  · -- the tampered data is the same outside of its secrets
    rintro ⟨independent, _⟩
    have outside : SameOutside data (mapSecretsMembers tamper data) := by
      rw [SameOutside, mapSecretsMembers_mapSecrets]
    exact exposes_of_redactData_eq data (independent _ outside).symm
  · intro closed
    exact ⟨fun data' same => redactData_eq data data' closed same, outlineMembers_redactData data⟩

/-- The key of a device in a list. -/
def listedKey (key : String) : List (String × Json) :=
  [("devices", .array [.object [(CONF_NET_KEY, .string key)]])]

theorem listedKey_interferes :
    ¬ ∀ (tables : CharTables) (data data' : List (String × Json)), SameOutside data data' →
      redactData tables data = redactData tables data' ∧
        outlineMembers (redactData tables data) = outlineMembers data := by
  intro independent
  have same := independent ⟨fun _ => false, fun _ => false, fun _ => false⟩ (listedKey "a")
    (listedKey "b") rfl
  revert same
  decide

end Redaction

end Json

end TuyaBleMesh
