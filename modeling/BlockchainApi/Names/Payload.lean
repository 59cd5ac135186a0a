/-
  What the name endpoints are sent: the request, the three payload types that are signed
  (`handlers/profile/mod.rs`), and the checks on names, attributes, coin types and times that need
  no store (`names/utils.rs`, `utils/crypto.rs`).

  A message is JSON text.  The JSON parser is not in the repository and is a parameter; what the
  derived deserializers make of a parsed value is.

  1. **Derived deserializers.** They take an object or an array.  In an object they ignore unknown
     fields, refuse a known field that comes twice, and take a missing or null optional field for
     `None`; an array must have one element for each field.  `struct` is that, for any list of
     fields, and each payload type is an instance.

  2. **One message under two payload types** (`struct_pair`).  Since unknown fields are ignored, one
     message may be read as several payloads; the lemmas here say what these have in common.  An
     array is read under two types only if both have as many fields.

  3. **Checks.** Each is the function of the source on characters, bytes or numbers.  The arithmetic
     of times wraps, and where a bound wraps, nothing is accepted
     (`near_of_isTimestampWithinInterval`).
-/
import BlockchainApi.Names.Database

namespace BlockchainApi

/-! ## Requests and payloads: what is sent, and what is signed in it -/

/-- `RegisterRequest`: what all three endpoints are sent. -/
structure RegisterRequest where
  message : String
  signature : String
  coinType : UInt32
  address : String

/-- `RegisterPayload`. -/
structure RegisterPayload where
  name : String
  attributes : Option Attributes
  timestamp : UInt64

/-- `UpdateAttributesPayload`. -/
structure UpdateAttributesPayload where
  attributes : Attributes
  timestamp : UInt64

/-- `UpdateAddressPayload`. -/
structure UpdateAddressPayload where
  coinType : UInt32
  address : String
  timestamp : UInt64

/-- `H160::from_str` on hex digits: 40 of them, of either case, after an optional `0x`. -/
def h160OfHex (s : String) : Option Address :=
  let digits := match s.toList with
    | '0' :: 'x' :: rest => rest
    | digits => digits
  if digits.length = 40 ∧ digits.all isHexChar then
    some (ByteCodec.FixedBytes.ofNat 20 (hexValue digits))
  else none

/-! ## Derived deserializers: objects and arrays, field by field -/

namespace Deserialize

variable {α : Type}

/-- `String`. -/
def string : Value → Except String String
  | .string s => .ok s
  | _ => .error "invalid type: expected a string"

/-- `u64`. -/
def u64 : Value → Except String UInt64
  | .int n =>
    if 0 ≤ n ∧ n < 2 ^ 64 then .ok (UInt64.ofNat n.toNat)
    else .error "invalid value: expected u64"
  | _ => .error "invalid type: expected u64"

/-- `u32`. -/
def u32 : Value → Except String UInt32
  | .int n =>
    if 0 ≤ n ∧ n < 2 ^ 32 then .ok (UInt32.ofNat n.toNat)
    else .error "invalid value: expected u32"
  | _ => .error "invalid type: expected u32"

/-- `HashMap<String, String>`: of two entries with one key the last counts. -/
def stringMap : Value → Except String Attributes
  | .object fields => do
    let pairs ← fields.mapM fun f => do return (f.1, ← string f.2)
    return HashMap.ofPairs pairs
  | _ => .error "invalid type: expected a map"

/-- What stands under a name. -/
def fieldOf (fields : List (String × Value)) (name : String) : Option Value :=
  (fields.find? fun f => f.1 = name).map Prod.snd

/-- The fields of a struct, as the derived visitor collects them, from an object or from an
    array. -/
def struct (known : List String) : Value → Except String (String → Option Value)
  | .object fields =>
    match known.find? fun name => 1 < (fields.filter fun f => f.1 = name).length with
    | some name => .error ("duplicate field " ++ name)
    | none => .ok (fieldOf fields)
  | .array items =>
    if items.length = known.length then .ok (fieldOf (known.zip items))
    else .error "invalid length"
  | _ => .error "invalid type: expected struct"

/-- A field that must be there. -/
def required (get : String → Option Value) (name : String) (read : Value → Except String α) :
    Except String α :=
  match get name with
  | some v => read v
  | none => .error ("missing field " ++ name)

/-- A field of type `Option`. -/
def optional (get : String → Option Value) (name : String) (read : Value → Except String α) :
    Except String (Option α) :=
  match get name with
  | none | some .null => .ok none
  | some v => some <$> read v

/-- **The fields of a struct** come from an object, or in order from an array of their number.
    Both are what a derived reader accepts. -/
theorem struct_cases {known : List String} {v : Value} {get : String → Option Value}
    (h : struct known v = .ok get) :
    (∃ fields, v = .object fields ∧ get = fieldOf fields) ∨
      ∃ items, v = .array items ∧ items.length = known.length ∧
        get = fieldOf (known.zip items) := by
  rw [struct.eq_def] at h
  split at h
  · next fields =>
    split at h
    · cases h
    · cases h; exact .inl ⟨fields, rfl, rfl⟩
  · next items =>
    split at h
    · next hlength => cases h; exact .inr ⟨items, rfl, hlength, rfl⟩
    · cases h
  · cases h

theorem required_eq_ok {get : String → Option Value} {name : String}
    {read : Value → Except String α} {a : α} (h : required get name read = .ok a) :
    ∃ v, get name = some v ∧ read v = .ok a := by
  rw [required] at h
  split at h
  · next v hv => exact ⟨v, hv, h⟩
  · cases h

end Deserialize

open Deserialize in
/-- `Deserialize for RegisterPayload`. -/
def RegisterPayload.deserialize (v : Value) : Except String RegisterPayload := do
  let get ← struct ["name", "attributes", "timestamp"] v
  return {
    name := ← required get "name" string
    attributes := ← optional get "attributes" stringMap
    timestamp := ← required get "timestamp" u64 }

open Deserialize in
/-- `Deserialize for UpdateAttributesPayload`. -/
def UpdateAttributesPayload.deserialize (v : Value) : Except String UpdateAttributesPayload := do
  let get ← struct ["attributes", "timestamp"] v
  return {
    attributes := ← required get "attributes" stringMap
    timestamp := ← required get "timestamp" u64 }

open Deserialize in
/-- `Deserialize for UpdateAddressPayload`. -/
def UpdateAddressPayload.deserialize (v : Value) : Except String UpdateAddressPayload := do
  let get ← struct ["coin_type", "address", "timestamp"] v
  return {
    coinType := ← required get "coin_type" u32
    address := ← required get "address" string
    timestamp := ← required get "timestamp" u64 }

/-! ## One message under two payload types

Signatures are on texts. What a text can be used for is decided by which types read it, so the
fields two types see of one value are compared here. -/

/-- The value is an object with the fields. -/
def Value.HasFields (names : List String) (v : Value) : Prop :=
  ∃ fields, v = .object fields ∧ ∀ name ∈ names, ∃ f ∈ fields, f.1 = name

namespace Deserialize

theorem string_eq_ok {v : Value} {s : String} (h : string v = .ok s) : v = .string s := by
  cases v <;> cases h
  rfl

theorem u32_eq_ok {v : Value} {n : UInt32} (h : u32 v = .ok n) : ∃ i, v = .int i := by
  cases v with
  | int i => exact ⟨i, rfl⟩
  | _ => cases h

theorem exists_of_fieldOf {fields : List (String × Value)} {name : String} {v : Value}
    (h : fieldOf fields name = some v) : ∃ f ∈ fields, f.1 = name := by
  obtain ⟨f, hf, -⟩ := Option.map_eq_some_iff.mp h
  exact ⟨f, List.mem_of_find?_eq_some hf, by simpa using List.find?_some hf⟩

theorem register_eq_ok {v : Value} {p : RegisterPayload}
    (h : RegisterPayload.deserialize v = .ok p) :
    ∃ get, struct ["name", "attributes", "timestamp"] v = .ok get ∧
      required get "name" string = .ok p.name ∧
      optional get "attributes" stringMap = .ok p.attributes ∧
      required get "timestamp" u64 = .ok p.timestamp := by
  simp only [RegisterPayload.deserialize, Except.bind_eq_ok] at h
  obtain ⟨get, hget, name, hname, attributes, hattributes, timestamp, htimestamp, hp⟩ := h
  cases hp
  exact ⟨get, hget, hname, hattributes, htimestamp⟩

theorem updateAttributes_eq_ok {v : Value} {p : UpdateAttributesPayload}
    (h : UpdateAttributesPayload.deserialize v = .ok p) :
    ∃ get, struct ["attributes", "timestamp"] v = .ok get ∧
      required get "attributes" stringMap = .ok p.attributes ∧
      required get "timestamp" u64 = .ok p.timestamp := by
  simp only [UpdateAttributesPayload.deserialize, Except.bind_eq_ok] at h
  obtain ⟨get, hget, attributes, hattributes, timestamp, htimestamp, hp⟩ := h
  cases hp
  exact ⟨get, hget, hattributes, htimestamp⟩

theorem updateAddress_eq_ok {v : Value} {p : UpdateAddressPayload}
    (h : UpdateAddressPayload.deserialize v = .ok p) :
    ∃ get, struct ["coin_type", "address", "timestamp"] v = .ok get ∧
      required get "coin_type" u32 = .ok p.coinType ∧
      required get "address" string = .ok p.address ∧
      required get "timestamp" u64 = .ok p.timestamp := by
  simp only [UpdateAddressPayload.deserialize, Except.bind_eq_ok] at h
  obtain ⟨get, hget, coinType, hcoinType, address, haddress, timestamp, htimestamp, hp⟩ := h
  cases hp
  exact ⟨get, hget, hcoinType, haddress, htimestamp⟩

/-- **Two struct types read one value**: an object, of which they see the same fields, or an
    array of a length that both have. In an array a field of one type may be another field of the
    other. -/
theorem struct_pair {known known' : List String} {v : Value} {get get' : String → Option Value}
    (h : struct known v = .ok get) (h' : struct known' v = .ok get') :
    (∃ fields, v = .object fields ∧ get = fieldOf fields ∧ get' = fieldOf fields) ∨
      ∃ items, known.length = known'.length ∧ get = fieldOf (known.zip items) ∧
        get' = fieldOf (known'.zip items) ∧ items.length = known.length := by
  rcases struct_cases h with ⟨fields, rfl, hget⟩ | ⟨items, rfl, hlength, hget⟩
  · rcases struct_cases h' with ⟨fields', hv, hget'⟩ | ⟨items, hv, -⟩
    · cases hv
      exact .inl ⟨fields, rfl, hget, hget'⟩
    · cases hv
  · rcases struct_cases h' with ⟨fields', hv, -⟩ | ⟨items', hv, hlength', hget'⟩
    · cases hv
    · cases hv
      exact .inr ⟨items, hlength.symm.trans hlength', hget, hget', hlength⟩

theorem hasFields_of_forall {fields : List (String × Value)} {names : List String}
    (h : ∀ name ∈ names, ∃ v, fieldOf fields name = some v) :
    (Value.object fields).HasFields names := by
  refine ⟨fields, rfl, fun name hname => ?_⟩
  obtain ⟨v, hv⟩ := h name hname
  exact exists_of_fieldOf hv

/-- A registration that is also an attributes update sets the attributes it registers. -/
theorem register_updateAttributes {v : Value} {p : RegisterPayload} {q : UpdateAttributesPayload}
    (hp : RegisterPayload.deserialize v = .ok p)
    (hq : UpdateAttributesPayload.deserialize v = .ok q) :
    p.attributes = some q.attributes ∧ p.timestamp = q.timestamp ∧
      v.HasFields ["name", "attributes", "timestamp"] := by
  obtain ⟨get, hget, hname, hattributes, htimestamp⟩ := register_eq_ok hp
  obtain ⟨get', hget', hattributes', htimestamp'⟩ := updateAttributes_eq_ok hq
  rcases struct_pair hget hget' with ⟨fields, rfl, rfl, rfl⟩ | ⟨items, hlength, -⟩
  · obtain ⟨vname, hvname, -⟩ := required_eq_ok hname
    obtain ⟨vattributes, hvattributes, hread⟩ := required_eq_ok hattributes'
    obtain ⟨vtimestamp, hvtimestamp, -⟩ := required_eq_ok htimestamp
    refine ⟨?_, Except.ok.inj (htimestamp.symm.trans htimestamp'), hasFields_of_forall ?_⟩
    · rw [optional, hvattributes] at hattributes
      -- null is no map, so the optional field is read as the required one
      cases vattributes with
      | object entries =>
        have hsome : some <$> stringMap (.object entries) = .ok p.attributes := hattributes
        rw [hread] at hsome
        exact (Except.ok.inj hsome).symm
      | _ => cases hread
    · simp [hvname, hvattributes, hvtimestamp]
  · -- an array has the length of one of the two types only
    cases hlength

/-- A registration that is also an address update has the fields of both. -/
theorem register_updateAddress {v : Value} {p : RegisterPayload} {q : UpdateAddressPayload}
    (hp : RegisterPayload.deserialize v = .ok p) (hq : UpdateAddressPayload.deserialize v = .ok q) :
    p.timestamp = q.timestamp ∧ v.HasFields ["name", "coin_type", "address", "timestamp"] := by
  obtain ⟨get, hget, hname, -, htimestamp⟩ := register_eq_ok hp
  obtain ⟨get', hget', hcoinType, haddress, htimestamp'⟩ := updateAddress_eq_ok hq
  obtain ⟨vname, hvname, hreadName⟩ := required_eq_ok hname
  obtain ⟨vcoinType, hvcoinType, hreadCoinType⟩ := required_eq_ok hcoinType
  obtain ⟨vaddress, hvaddress, -⟩ := required_eq_ok haddress
  obtain ⟨vtimestamp, hvtimestamp, -⟩ := required_eq_ok htimestamp
  rcases struct_pair hget hget' with ⟨fields, rfl, rfl, rfl⟩ | ⟨items, -, rfl, rfl, hlength⟩
  · refine ⟨Except.ok.inj (htimestamp.symm.trans htimestamp'), hasFields_of_forall ?_⟩
    simp [hvname, hvcoinType, hvaddress, hvtimestamp]
  · -- the first element of an array would be a string for the one and a number for the other
    match items, hlength with
    | [first, _, _], _ =>
      have hfirst : first = vname := by simpa [fieldOf] using hvname
      have hfirst' : first = vcoinType := by simpa [fieldOf] using hvcoinType
      subst hfirst'
      rw [← hfirst] at hreadName
      obtain ⟨n, hn⟩ := u32_eq_ok hreadCoinType
      have hs := string_eq_ok hreadName
      rw [hn] at hs
      cases hs

/-- An attributes update that is also an address update has the fields of both. -/
theorem updateAttributes_updateAddress {v : Value} {p : UpdateAttributesPayload}
    {q : UpdateAddressPayload} (hp : UpdateAttributesPayload.deserialize v = .ok p)
    (hq : UpdateAddressPayload.deserialize v = .ok q) :
    p.timestamp = q.timestamp ∧
      v.HasFields ["attributes", "coin_type", "address", "timestamp"] := by
  obtain ⟨get, hget, hattributes, htimestamp⟩ := updateAttributes_eq_ok hp
  obtain ⟨get', hget', hcoinType, haddress, htimestamp'⟩ := updateAddress_eq_ok hq
  rcases struct_pair hget hget' with ⟨fields, rfl, rfl, rfl⟩ | ⟨items, hlength, -⟩
  · obtain ⟨vattributes, hvattributes, -⟩ := required_eq_ok hattributes
    obtain ⟨vcoinType, hvcoinType, -⟩ := required_eq_ok hcoinType
    obtain ⟨vaddress, hvaddress, -⟩ := required_eq_ok haddress
    obtain ⟨vtimestamp, hvtimestamp, -⟩ := required_eq_ok htimestamp
    refine ⟨Except.ok.inj (htimestamp.symm.trans htimestamp'), hasFields_of_forall ?_⟩
    simp [hvattributes, hvcoinType, hvaddress, hvtimestamp]
  · cases hlength

end Deserialize

/-! ## Names: three checks, each on other parts -/

/-- `name.split('.')`. -/
def nameParts (name : String) : List (List Char) := name.toList.splitOn '.'

/-- `str::len`, in bytes. -/
def byteLength (s : List Char) : Nat := (String.ofList s).utf8ByteSize

def nameMinLength : Nat := 3

def nameMaxLength : Nat := 64

/-- `is_name_format_correct`: `^[a-z0-9.-]+$`. -/
def isNameFormatCorrect (name : String) : Bool := name.toList ≠ [] && name.toList.all isNameChar

/-- `is_name_length_correct`. -/
def isNameLengthCorrect (name : String) : Bool :=
  match nameParts name with
  | [label, _, _] => nameMinLength ≤ byteLength label && byteLength label ≤ nameMaxLength
  | _ => false

/-- `is_name_in_allowed_zones`. -/
def isNameInAllowedZones (name : String) (allowedZones : List String) : Bool :=
  match nameParts name with
  | [_, zone, tld] => allowedZones.contains (String.ofList zone ++ "." ++ String.ofList tld)
  | _ => false

/-! ## Attributes: supported keys, and a pattern for each -/

def attributesValueMaxLength : Nat := 255

/-- `[a-zA-Z0-9@:/._\-?&=+ ]`. -/
def isBioChar (c : Char) : Bool := c.isAlphanum || "@:/._-?&=+ ".toList.contains c

/-- `SUPPORTED_ATTRIBUTES`: the keys, with their patterns. -/
def supportedAttributes : HashMap String (String → Bool) :=
  HashMap.ofPairs [("bio", fun value => value.toList ≠ [] && value.toList.all isBioChar)]

/-- `check_attributes`. -/
def checkAttributes (attributes : Attributes) (allowed : HashMap String (String → Bool))
    (maxLength : Nat) : Bool :=
  attributes.entries.all fun a =>
    match allowed.lookup a.1 with
    | none => false
    | some isMatch => a.2.utf8ByteSize ≠ 0 && a.2.utf8ByteSize ≤ maxLength && isMatch a.2

/-! ## Time: twenty seconds at most, in either direction -/

/-- `UNIXTIMESTAMP_SYNC_THRESHOLD`. -/
def unixtimestampSyncThreshold : UInt64 := 10

/-- `is_timestamp_within_interval`; the arithmetic wraps. -/
def isTimestampWithinInterval (now timestamp threshold : UInt64) : Bool :=
  timestamp ≥ now - threshold && timestamp ≤ now + threshold

/-- An accepted time is at most the threshold away: where a bound wraps, nothing is accepted. -/
theorem near_of_isTimestampWithinInterval {now timestamp : UInt64}
    (h : isTimestampWithinInterval now timestamp unixtimestampSyncThreshold = true) :
    now.toNat ≤ timestamp.toNat + 10 ∧ timestamp.toNat ≤ now.toNat + 10 := by
  simp only [isTimestampWithinInterval, unixtimestampSyncThreshold, Bool.and_eq_true,
    decide_eq_true_eq, ge_iff_le, UInt64.le_iff_toNat_le, UInt64.toNat_add, UInt64.toNat_sub] at h
  have hten : (10 : UInt64).toNat = 10 := rfl
  have hnow := now.toNat_lt
  have hts := timestamp.toNat_lt
  omega

/-! ## Coin types, and the chains they are taken for -/

/-- `convert_coin_type_to_evm_chain_id`. -/
def convertCoinTypeToEvmChainId (coinType : UInt32) : UInt32 :=
  if coinType = 60 then 1 else 0x7FFFFFFF &&& coinType

/-- `is_coin_type_supported`. -/
def isCoinTypeSupported (coinType : UInt32) : Bool :=
  supportedChainIds.contains (convertCoinTypeToEvmChainId coinType).toNat

/-- `format!("eip155:{}", convert_coin_type_to_evm_chain_id(coin_type) as u64)`. -/
def chainIdCaip2 (coinType : UInt32) : String :=
  "eip155:" ++ toString (convertCoinTypeToEvmChainId coinType).toNat

end BlockchainApi
