import TuyaBleMesh.Exceptions
import TuyaBleMesh.Lib.Bytes
import TuyaBleMesh.Lib.OrderedDict
import TuyaBleMesh.Lib.Records

/-!
# Elements of the composition data

`_sig_model_elements` of `config_flow_sig.py`. It accepts what is a sequence of whole
elements, and maps each SIG model to the first element that lists it.
-/

namespace TuyaBleMesh

/-- `int.from_bytes(data, "little")`. -/
def littleValue (data : Bytes) : Nat := Bytes.beValue data.reverse

/-- The ids of the SIG models in the list that starts at `sigOffset`. -/
def sigModelIds (rawElements : Bytes) (sigOffset numSig : Nat) : List Nat :=
  (List.range numSig).map fun index =>
    littleValue ((rawElements.drop (sigOffset + index * 2)).take 2)

/-- The loop of `_sig_model_elements`, from `offset` on. -/
def sigModelElementsFrom (rawElements : Bytes) (result : OrderedDict Nat Int) (offset : Nat)
    (elementAddress : Int) : Except PyError (OrderedDict Nat Int) :=
  if _more : offset < rawElements.length then
    if _short : rawElements.length - offset < 4 then
      .error (.valueErrorText "Truncated Composition Data element header")
    else
      let numSig := rawElements[offset + 2].toNat
      let numVendor := rawElements[offset + 3].toNat
      let elementSize := 4 + numSig * 2 + numVendor * 4
      if offset + elementSize > rawElements.length then
        .error (.valueErrorText "Truncated Composition Data model list")
      else
        let listed := (sigModelIds rawElements (offset + 4) numSig).foldl
          (fun result modelId => result.setdefault modelId elementAddress) result
        sigModelElementsFrom rawElements listed (offset + elementSize) (elementAddress + 1)
  else .ok result
  termination_by rawElements.length - offset

def sigModelElements (rawElements : Bytes) (primaryAddress : Int) :
    Except PyError (OrderedDict Nat Int) :=
  sigModelElementsFrom rawElements .empty 0 primaryAddress

/-! ### The grammar -/

structure CompositionElement where
  location : Vector UInt8 2
  sigModels : List (Vector UInt8 2)
  vendorModels : List (Vector UInt8 4)
  fewSig : sigModels.length ≤ 255
  fewVendor : vendorModels.length ≤ 255

namespace CompositionElement

def modelIds (element : CompositionElement) : List Nat :=
  element.sigModels.map fun word => littleValue word.toList

/-- The location and the numbers of models. -/
def header (element : CompositionElement) : Bytes :=
  element.location.toList ++
    [UInt8.ofNat element.sigModels.length, UInt8.ofNat element.vendorModels.length]

def bytes (element : CompositionElement) : Bytes :=
  element.header ++
    (element.sigModels.flatMap (·.toList) ++ element.vendorModels.flatMap (·.toList))

@[simp] theorem header_length (element : CompositionElement) : element.header.length = 4 := by
  simp [header]

def size (element : CompositionElement) : Nat :=
  4 + element.sigModels.length * 2 + element.vendorModels.length * 4

theorem bytes_length (element : CompositionElement) : element.bytes.length = element.size := by
  simp only [bytes, List.length_append, length_words, header_length, size]
  omega

end CompositionElement

def compositionBytes (elements : List CompositionElement) : Bytes :=
  elements.flatMap CompositionElement.bytes

/-- The address of the first of the elements that lists the model. -/
def firstAddress (elements : List CompositionElement) (address : Int) (modelId : Nat) :
    Option Int :=
  (elements.findIdx? fun element => modelId ∈ element.modelIds).map fun i : Nat => address + i

theorem firstAddress_cons (element : CompositionElement) (elements : List CompositionElement)
    (address : Int) (modelId : Nat) :
    firstAddress (element :: elements) address modelId =
      (if modelId ∈ element.modelIds then some address else none).or
        (firstAddress elements (address + 1) modelId) := by
  unfold firstAddress
  rw [List.findIdx?_cons]
  by_cases listed : modelId ∈ element.modelIds
  · simp [listed]
  · simp only [listed, decide_false, Bool.false_eq_true, if_false, Option.map_map, Option.none_or]
    congr 1
    funext i
    simp only [Function.comp_apply, Nat.cast_add, Nat.cast_one]
    omega

theorem firstAddress_eq_some_iff {elements : List CompositionElement} {primaryAddress address : Int}
    {modelId : Nat} :
    firstAddress elements primaryAddress modelId = some address ↔
      ∃ (i : Nat) (inside : i < elements.length),
        modelId ∈ elements[i].modelIds ∧
        (∀ (j : Nat) (earlier : j < i), modelId ∉ elements[j].modelIds) ∧
        address = primaryAddress + i := by
  simp only [firstAddress, Option.map_eq_some_iff, List.findIdx?_eq_some_iff_getElem,
    decide_eq_true_eq]
  constructor
  · rintro ⟨i, ⟨inside, listed, first⟩, rfl⟩
    exact ⟨i, inside, listed, first, rfl⟩
  · rintro ⟨i, inside, listed, first, rfl⟩
    exact ⟨i, ⟨inside, listed, first⟩, rfl⟩

/-! ### Whole elements are accepted -/

section Front

variable {rawElements rest : Bytes} {offset : Nat} {element : CompositionElement}
  (front : rawElements.drop offset = element.bytes ++ rest)

include front

theorem front_length : offset + element.size ≤ rawElements.length := by
  have whole := congrArg List.length front
  have positive : 0 < element.size := by
    rw [CompositionElement.size]
    omega
  rw [List.length_drop, List.length_append, element.bytes_length] at whole
  omega

theorem front_rest : rawElements.drop (offset + element.size) = rest := by
  rw [← List.drop_drop, front, ← element.bytes_length, List.drop_left]

theorem front_index {i : Nat} (inside : offset + i < rawElements.length) {byte : UInt8}
    (here : element.bytes[i]? = some byte) : rawElements[offset + i] = byte := by
  have within : i < element.bytes.length := (List.getElem?_eq_some_iff.mp here).1
  apply (List.getElem_eq_iff inside).mpr
  rw [← List.getElem?_drop, front, List.getElem?_append_left within, here]

theorem front_sigModelIds :
    sigModelIds rawElements (offset + 4) element.sigModels.length = element.modelIds := by
  apply List.ext_getElem
  · simp [sigModelIds, CompositionElement.modelIds]
  · intro i _ inside
    have inside : i < element.sigModels.length := by
      simpa [CompositionElement.modelIds] using inside
    have models : rawElements.drop (offset + 4 + i * 2) =
        (element.sigModels.flatMap (·.toList) ++
          (element.vendorModels.flatMap (·.toList) ++ rest)).drop (i * 2) := by
      rw [← List.drop_drop, ← List.drop_drop, front, CompositionElement.bytes, List.append_assoc,
        List.append_assoc, List.drop_left' element.header_length]
    simp only [sigModelIds, CompositionElement.modelIds, List.getElem_map, List.getElem_range,
      models, slice_words _ _ i inside]

theorem front_counts (long : offset + 3 < rawElements.length) :
    rawElements[offset + 2].toNat = element.sigModels.length ∧
      rawElements[offset + 3].toNat = element.vendorModels.length := by
  have third : element.bytes[2]? = some (UInt8.ofNat element.sigModels.length) := by
    rw [CompositionElement.bytes, List.getElem?_append_left (by simp)]
    simp [CompositionElement.header]
  have fourth : element.bytes[3]? = some (UInt8.ofNat element.vendorModels.length) := by
    rw [CompositionElement.bytes, List.getElem?_append_left (by simp)]
    simp [CompositionElement.header]
  rw [front_index front (by omega) third, front_index front long fourth, UInt8.toNat_ofNat',
    UInt8.toNat_ofNat', Nat.mod_eq_of_lt (Nat.lt_succ_of_le element.fewSig),
    Nat.mod_eq_of_lt (Nat.lt_succ_of_le element.fewVendor)]
  exact ⟨rfl, rfl⟩

end Front

/-- From a place where whole elements follow, all of them are taken up. -/
theorem sigModelElementsFrom_elements (rawElements : Bytes) (elements : List CompositionElement)
    (result : OrderedDict Nat Int) (offset : Nat) (address : Int)
    (left : rawElements.drop offset = compositionBytes elements) :
    ∃ map, sigModelElementsFrom rawElements result offset address = .ok map ∧
      ∀ modelId, map.get? modelId =
        (result.get? modelId).or (firstAddress elements address modelId) := by
  induction elements generalizing result offset address with
  | nil =>
    have done : ¬offset < rawElements.length := Nat.not_lt.mpr (List.drop_eq_nil_iff.mp left)
    refine ⟨result, ?_, ?_⟩
    · rw [sigModelElementsFrom, dif_neg done]
    · intro modelId
      simp [firstAddress]
  | cons element elements ih =>
    have front : rawElements.drop offset = element.bytes ++ compositionBytes elements := left
    have fits := front_length front
    have size : element.size =
        4 + element.sigModels.length * 2 + element.vendorModels.length * 4 := rfl
    have more : offset < rawElements.length := by omega
    have header : ¬rawElements.length - offset < 4 := by omega
    obtain ⟨numSig, numVendor⟩ := front_counts front (by omega)
    have complete : ¬offset + (4 + element.sigModels.length * 2 +
        element.vendorModels.length * 4) > rawElements.length := by omega
    obtain ⟨map, accepted, addresses⟩ := ih
      (element.modelIds.foldl (fun result modelId => result.setdefault modelId address) result)
      (offset + element.size) (address + 1) (front_rest front)
    refine ⟨map, ?_, ?_⟩
    · rw [sigModelElementsFrom, dif_pos more, dif_neg header]
      simp only [numSig, numVendor, if_neg complete, front_sigModelIds front]
      exact accepted
    · intro modelId
      rw [addresses, OrderedDict.get?_foldl_setdefault, firstAddress_cons, Option.or_assoc]

/-! ### Nothing else is accepted -/

/-- A header and a list of models that are complete make an element. -/
theorem exists_element {rawElements : Bytes} {offset : Nat}
    (long : offset + 3 < rawElements.length)
    (complete : ¬offset + (4 + rawElements[offset + 2].toNat * 2 +
      rawElements[offset + 3].toNat * 4) > rawElements.length) :
    ∃ element : CompositionElement, rawElements.drop offset = element.bytes ++
      rawElements.drop (offset + (4 + rawElements[offset + 2].toNat * 2 +
        rawElements[offset + 3].toNat * 4)) := by
  generalize sig : rawElements[offset + 2] = numSig at complete
  generalize vendor : rawElements[offset + 3] = numVendor at complete
  obtain ⟨sigModels, sigCount, sigBytes⟩ : ∃ words : List (Vector UInt8 2),
      words.length = numSig.toNat ∧ (rawElements.drop (offset + 4)).take (numSig.toNat * 2) =
        words.flatMap (·.toList) := by
    apply exists_words
    rw [List.length_take_of_le]
    rw [List.length_drop]
    omega
  -- the vendor models follow the SIG models
  obtain ⟨vendorModels, vendorCount, vendorBytes⟩ : ∃ words : List (Vector UInt8 4),
      words.length = numVendor.toNat ∧
      (rawElements.drop (offset + 4 + numSig.toNat * 2)).take (numVendor.toNat * 4) =
        words.flatMap (·.toList) := by
    apply exists_words
    rw [List.length_take_of_le]
    rw [List.length_drop]
    omega
  refine ⟨{
    location := #v[rawElements[offset], rawElements[offset + 1]]
    sigModels
    vendorModels
    fewSig := sigCount ▸ Nat.le_of_lt_succ numSig.toNat_lt
    fewVendor := vendorCount ▸ Nat.le_of_lt_succ numVendor.toNat_lt }, ?_⟩
  have first : rawElements.drop offset = rawElements[offset] :: rawElements[offset + 1] ::
      numSig :: numVendor :: rawElements.drop (offset + 4) := by
    rw [← sig, ← vendor]
    rw [List.drop_eq_getElem_cons (by omega), List.drop_eq_getElem_cons (by omega),
      List.drop_eq_getElem_cons (by omega), List.drop_eq_getElem_cons long]
  -- put together again, the two lists are what follows the header
  have models : rawElements.drop (offset + 4) = sigModels.flatMap (·.toList) ++
      (vendorModels.flatMap (·.toList) ++
        rawElements.drop (offset + (4 + numSig.toNat * 2 + numVendor.toNat * 4))) := by
    have one := List.take_append_drop (numSig.toNat * 2) (rawElements.drop (offset + 4))
    have two := List.take_append_drop (numVendor.toNat * 4)
      (rawElements.drop (offset + 4 + numSig.toNat * 2))
    rw [List.drop_drop] at one two
    rw [← sigBytes, ← vendorBytes, ← Nat.add_assoc, ← Nat.add_assoc, two, one]
  rw [first, models]
  simp [CompositionElement.bytes, CompositionElement.header, sigCount, vendorCount]

theorem elements_of_accepted {rawElements : Bytes} {result map : OrderedDict Nat Int}
    {offset : Nat} {address : Int}
    (accepted : sigModelElementsFrom rawElements result offset address = .ok map) :
    ∃ elements, rawElements.drop offset = compositionBytes elements := by
  -- along the loop: each turn that goes on has read one element
  fun_induction sigModelElementsFrom rawElements result offset address with
  | case1 => cases accepted
  | case2 => cases accepted
  | case3 result offset address more header numSig numVendor size complete listed ih =>
    obtain ⟨element, first⟩ := exists_element (by omega) complete
    obtain ⟨elements, others⟩ := ih accepted
    refine ⟨element :: elements, ?_⟩
    rw [first, others]
    rfl
  | case4 result offset address done =>
    exact ⟨[], List.drop_of_length_le (Nat.le_of_not_lt done)⟩

theorem sigModelElementsFrom_errors (rawElements : Bytes) (result : OrderedDict Nat Int)
    (offset : Nat) (address : Int) :
    OnlyRaises PyError.isValueError (sigModelElementsFrom rawElements result offset address) := by
  fun_induction sigModelElementsFrom rawElements result offset address with
  | case1 => exact .error rfl
  | case2 => exact .error rfl
  | case3 result offset address more header numSig numVendor size complete listed ih => exact ih
  | case4 => exact .ok _

/-- A map is returned exactly for a sequence of whole elements. It has the SIG models of these
and no others, each with the address of the first element that lists it. Everything else
raises `ValueError`. -/
theorem sigModelElements_iff (rawElements : Bytes) (primaryAddress : Int) :
    ((∃ map, sigModelElements rawElements primaryAddress = .ok map) ↔
      ∃ elements, rawElements = compositionBytes elements) ∧
    (∀ elements, rawElements = compositionBytes elements →
      ∃ map, sigModelElements rawElements primaryAddress = .ok map ∧
        ∀ (modelId : Nat) (address : Int), map.get? modelId = some address ↔
          ∃ (i : Nat) (inside : i < elements.length),
            modelId ∈ elements[i].modelIds ∧
            (∀ (j : Nat) (earlier : j < i), modelId ∉ elements[j].modelIds) ∧
            address = primaryAddress + i) ∧
    ((¬∃ elements, rawElements = compositionBytes elements) →
      ∃ error, sigModelElements rawElements primaryAddress = .error error ∧
        error.isValueError = true) := by
  have whole : rawElements.drop 0 = rawElements := List.drop_zero
  have taken (elements) (same : rawElements = compositionBytes elements) :=
    sigModelElementsFrom_elements rawElements elements .empty 0 primaryAddress (whole.trans same)
  have grammar (map) (accepted : sigModelElements rawElements primaryAddress = .ok map) :
      ∃ elements, rawElements = compositionBytes elements := by
    obtain ⟨elements, all⟩ := elements_of_accepted accepted
    exact ⟨elements, whole.symm.trans all⟩
  refine ⟨⟨?_, ?_⟩, ?_, ?_⟩
  · rintro ⟨map, accepted⟩
    exact grammar map accepted
  · rintro ⟨elements, same⟩
    obtain ⟨map, accepted, -⟩ := taken elements same
    exact ⟨map, accepted⟩
  · intro elements same
    obtain ⟨map, accepted, addresses⟩ := taken elements same
    refine ⟨map, accepted, fun modelId address => ?_⟩
    rw [addresses, ← firstAddress_eq_some_iff]
    exact Iff.rfl
  · intro other
    cases result : sigModelElements rawElements primaryAddress with
    | ok map => exact absurd (grammar map result) other
    | error error =>
      exact ⟨error, rfl, sigModelElementsFrom_errors _ _ _ _ error result⟩

end TuyaBleMesh

