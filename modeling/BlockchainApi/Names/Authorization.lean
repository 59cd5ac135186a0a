/-
  What a signature authorises at the name endpoints.

  1. **Ownership** (`update_verified_as_owner_iff`).  An update should be applied only if the
     signature was verified on the chain of a coin type under which the same address is registered
     for the name.  The attributes endpoint does that.  The address endpoint verifies on the chain
     of the payload's coin type and looks the owner up under the request's, so it does that exactly
     when the payload's chain is one under which the address is registered anyway.  On another chain
     another contract may be at that address, and its word counts.

  2. **Replay** (`same_message_operations`).  No payload of an update names the name, so one message
     can be applied to every name its signer owns, and a registration with attributes is also an
     attributes update.  What a message does fix: when it can be used, what is written, and for a
     registration the name.  `Says` is what a message says at an endpoint; two endpoints that take
     one message are compared pair by pair, of three kinds, by what their payload types read of one
     value (`sameContent_of_says`).

  Both are statements about decisions (`Names/Profile`), for every store, every verifier and
  whatever the database returns.
-/
import BlockchainApi.Names.Profile

namespace BlockchainApi

namespace NamesService

variable {svc : NamesService} {verify : Verify} {pool : Pool} {s : Store} {now : UInt64}
variable {name : String} {request : RegisterRequest} {op : NameOperation}

/-! ## Ownership: the chain that was asked, and the chains that are registered -/

/-- The address is registered for the name under the coin type. -/
def RegisteredUnder (svc : NamesService) (s : Store) (name address : String) (coinType : UInt32) :
    Prop :=
  ∃ row ∈ s.addressRows name, coinTypeOf row.chainId = coinType ∧
    ∃ owner, svc.h160FromStr row.address = some owner ∧ svc.h160FromStr address = some owner

/-- The signature is valid on the chain of a coin type under which its address is registered for
    the name. -/
def VerifiedAsOwner (svc : NamesService) (verify : Verify) (s : Store) (name : String)
    (request : RegisterRequest) : Prop :=
  ∃ coinType,
    verify request.message request.signature request.address (chainIdCaip2 coinType) = .ok true ∧
      svc.RegisteredUnder s name request.address coinType

/-- The owner check looks at rows of the store. -/
theorem registeredUnder_of_lookup {found : NameAndAddresses} {owner : Address} {a : NameAddress}
    {coinType : UInt32} (hfound : pool.lookup s name = .ok found)
    (howner : svc.h160FromStr request.address = some owner)
    (ha : found.addresses.lookup coinType = some a)
    (haowner : svc.h160FromStr a.address = some owner) :
    svc.RegisteredUnder s name request.address coinType := by
  rw [(Pool.lookup_eq_ok hfound).1] at ha
  obtain ⟨row, hrow, hcoin, rfl⟩ := Store.lookup_getAddressesByName ha
  exact ⟨row, hrow, hcoin, owner, haowner, howner⟩

/-- An attributes update is verified on the chain under which the owner is looked up. -/
theorem updateAttributes_verifiedAsOwner
    (h : svc.updateAttributesDecision verify pool s now name request = .ok op) :
    svc.VerifiedAsOwner verify s name request := by
  obtain ⟨payload, found, owner, a, -, -, hfound, -, howner, -, hverify, ha, haowner, -, -⟩ :=
    updateAttributesDecision_eq_ok.mp h
  exact ⟨request.coinType, hverify, registeredUnder_of_lookup hfound howner ha haowner⟩

/-- An address update is so when the two coin types of the request agree on a chain. -/
theorem updateAddress_verifiedAsOwner_iff :
    (∀ verify op, svc.updateAddressDecision verify pool s now name request = .ok op →
        svc.VerifiedAsOwner verify s name request) ↔
      ∀ payload, svc.AdmitsAddressUpdate pool s now name request payload →
        ∃ coinType, chainIdCaip2 coinType = chainIdCaip2 payload.coinType ∧
          svc.RegisteredUnder s name request.address coinType := by
  constructor
  · intro h payload hadmits
    -- the verifier that accepts on the payload's chain and nowhere else
    have happlied := h (fun _ _ _ chain => .ok (chain == chainIdCaip2 payload.coinType)) _
      (updateAddressDecision_eq_ok.mpr ⟨payload, hadmits, by simp, rfl⟩)
    obtain ⟨coinType, hverify, hregistered⟩ := happlied
    have hchain : chainIdCaip2 coinType = chainIdCaip2 payload.coinType := by
      simpa using hverify
    exact ⟨coinType, hchain, hregistered⟩
  · intro h verify op hop
    obtain ⟨payload, hadmits, hverify, -⟩ := updateAddressDecision_eq_ok.mp hop
    obtain ⟨coinType, hchain, hregistered⟩ := h payload hadmits
    exact ⟨coinType, hchain ▸ hverify, hregistered⟩

/-- **Ownership of updates.**  Whatever the verifier accepts, an applied attributes update was
    verified on the chain of a coin type under which its address is registered for the name; an
    applied address update was so if and only if the chain of the payload's coin type is the chain
    of such a coin type. -/
theorem update_verified_as_owner_iff (svc : NamesService) (pool : Pool) (s : Store) (now : UInt64)
    (name : String) (request : RegisterRequest) :
    (∀ verify op, svc.updateAttributesDecision verify pool s now name request = .ok op →
        svc.VerifiedAsOwner verify s name request) ∧
      ((∀ verify op, svc.updateAddressDecision verify pool s now name request = .ok op →
          svc.VerifiedAsOwner verify s name request) ↔
        ∀ payload, svc.AdmitsAddressUpdate pool s now name request payload →
          ∃ coinType, chainIdCaip2 coinType = chainIdCaip2 payload.coinType ∧
            svc.RegisteredUnder s name request.address coinType) :=
  ⟨fun _ _ h => updateAttributes_verifiedAsOwner h, updateAddress_verifiedAsOwner_iff⟩

/-- An address for coin type `0x80000089`, signed by the owner of the name on chain 1. -/
private def polygonUpdate : String :=
  "\x7b\"coin_type\":2147483785,\"address\":\"0x2222222222222222222222222222222222222222\",\"timestamp\":1000\x7d"

private def polygonService : NamesService := .reading [(polygonUpdate, .object
  [("coin_type", .int 2147483785),
    ("address", .string "0x2222222222222222222222222222222222222222"), ("timestamp", .int 1000)])]

private def polygonRequest : RegisterRequest where
  message := polygonUpdate
  signature := "0x01"
  coinType := 60
  address := "0x1111111111111111111111111111111111111111"

/-- **The failing input.**  The name is registered to the address under coin type 60 only.  The
    signature counts on chain 137, where the address is another contract's, and not on chain 1;
    the update is applied. -/
theorem update_verified_elsewhere :
    ∃ s, Store.empty.insertName 0 "alice.wct.id" ∅ .eip155 (registerAddresses polygonRequest)
        = .ok s ∧
      (polygonService.updateAddressDecision (fun _ _ _ chain => .ok (chain == "eip155:137"))
          (.reliable 0) s 1000 "alice.wct.id" polygonRequest
        = .ok (.updateAddress "alice.wct.id" 2147483785 "0x2222222222222222222222222222222222222222")) ∧
      ¬ polygonService.VerifiedAsOwner (fun _ _ _ chain => .ok (chain == "eip155:137")) s
        "alice.wct.id" polygonRequest := by
  have hstore : ∃ s,
      Store.empty.insertName 0 "alice.wct.id" ∅ .eip155 (registerAddresses polygonRequest)
        = .ok s ∧
      (polygonService.updateAddressDecision (fun _ _ _ chain => .ok (chain == "eip155:137"))
          (.reliable 0) s 1000 "alice.wct.id" polygonRequest
        = .ok (.updateAddress "alice.wct.id" 2147483785
          "0x2222222222222222222222222222222222222222")) ∧
      s.addressRows "alice.wct.id" =
        [⟨.eip155, "60", "0x1111111111111111111111111111111111111111", "alice.wct.id", 0⟩] :=
    ⟨_, rfl, rfl, rfl⟩
  obtain ⟨s, hinsert, happlied, hrows⟩ := hstore
  refine ⟨s, hinsert, happlied, ?_⟩
  rintro ⟨coinType, hverify, row, hrow, hcoin, -⟩
  rw [hrows, List.mem_singleton] at hrow
  subst hrow
  have hsixty : coinType = 60 := hcoin.symm
  subst hsixty
  exact absurd hverify (by decide)

/-! ## Replay: one message, and all it can be used for

What is signed is a text. Everything that two accepted requests with one text have in common has
to come from the text. -/

/-- The endpoints, with the name in the path of the updates. -/
inductive NameEndpoint where
  | register
  | updateAddress (name : String)
  | updateAttributes (name : String)

/-- The decision of an endpoint. -/
def decision (svc : NamesService) (verify : Verify) (pool : Pool) (s : Store) (now : UInt64)
    (request : RegisterRequest) : NameEndpoint → Outcome Early NameOperation
  | .register => svc.registerDecision verify pool s now request
  | .updateAddress name => svc.updateAddressDecision verify pool s now name request
  | .updateAttributes name => svc.updateAttributesDecision verify pool s now name request

/-- What a message says to the endpoint that takes it: an operation, but for what stands in the
    request or the path, and the time it was signed. -/
inductive Says (svc : NamesService) (message : String) : NameOperation → UInt64 → Prop where
  | register {payload : RegisterPayload} {request : RegisterRequest}
      (h : svc.fromStr RegisterPayload.deserialize message = .ok payload) :
      Says svc message (payload.operation request) payload.timestamp
  | updateAddress {payload : UpdateAddressPayload} {name : String}
      (h : svc.fromStr UpdateAddressPayload.deserialize message = .ok payload) :
      Says svc message (.updateAddress name payload.coinType payload.address) payload.timestamp
  | updateAttributes {payload : UpdateAttributesPayload} {name : String}
      (h : svc.fromStr UpdateAttributesPayload.deserialize message = .ok payload) :
      Says svc message (.updateAttributes name payload.attributes) payload.timestamp

/-- The message is an object with the fields. -/
def MessageHasFields (svc : NamesService) (message : String) (names : List String) : Prop :=
  ∃ v, svc.parseJson message = .ok v ∧ v.HasFields names

/-- Two operations that one message can say.  The names of updates are not among what agrees. -/
def SameContent (svc : NamesService) (message : String) : NameOperation → NameOperation → Prop
  | .register name attributes _, .register name' attributes' _ =>
    name = name' ∧ attributes = attributes'
  | .updateAddress _ coinType address, .updateAddress _ coinType' address' =>
    coinType = coinType' ∧ address = address'
  | .updateAttributes _ attributes, .updateAttributes _ attributes' => attributes = attributes'
  | .register _ attributes _, .updateAttributes _ attributes'
  | .updateAttributes _ attributes, .register _ attributes' _ =>
    attributes = attributes' ∧
      svc.MessageHasFields message ["name", "attributes", "timestamp"]
  | .register _ _ _, .updateAddress _ _ _ | .updateAddress _ _ _, .register _ _ _ =>
    svc.MessageHasFields message ["name", "coin_type", "address", "timestamp"]
  | .updateAttributes _ _, .updateAddress _ _ _ | .updateAddress _ _ _, .updateAttributes _ _ =>
    svc.MessageHasFields message ["attributes", "coin_type", "address", "timestamp"]

/-- The name an update writes to is registered to the address of the request. -/
def OwnsTarget (svc : NamesService) (s : Store) (request : RegisterRequest) : NameOperation → Prop
  | .register _ _ _ => True
  | .updateAddress name _ _ | .updateAttributes name _ =>
    svc.RegisteredUnder s name request.address request.coinType

variable {verify' : Verify} {pool' : Pool} {s' : Store} {now' : UInt64}
variable {request' : RegisterRequest} {op' : NameOperation} {endpoint endpoint' : NameEndpoint}
variable {message : String} {timestamp timestamp' : UInt64}

theorem fromStr_eq_ok {α : Type} {deserialize : Value → Except String α} {a : α}
    (h : svc.fromStr deserialize message = .ok a) :
    ∃ v, svc.parseJson message = .ok v ∧ deserialize v = .ok a :=
  Except.bind_eq_ok.mp h

/-- An accepted request does what its message says, at about the time it was signed: a case for
    each endpoint, by its inversion lemma. -/
theorem says_of_decision (h : svc.decision verify pool s now request endpoint = .ok op) :
    ∃ timestamp, svc.Says request.message op timestamp ∧
      isTimestampWithinInterval now timestamp unixtimestampSyncThreshold = true := by
  cases endpoint with
  | register =>
    obtain ⟨payload, hchecks, -, hauthorize, rfl⟩ := registerDecision_eq_ok.mp h
    have hparse : svc.fromStr RegisterPayload.deserialize request.message = .ok payload := by
      simp only [registerChecks, Outcome.bind_eq_ok, Outcome.ofExcept_eq_ok, Outcome.pure_eq,
        Outcome.ok.injEq] at hchecks
      obtain ⟨zones, -, parsed, hparsed, -, -, -, -, -, -, -, -, rfl⟩ := hchecks
      exact hparsed
    have htime : isTimestampWithinInterval now payload.timestamp unixtimestampSyncThreshold
        = true := by
      simp only [registerAuthorize, Outcome.bind_eq_ok, Outcome.ensure_eq_ok] at hauthorize
      obtain ⟨-, htime, -⟩ := hauthorize
      exact htime
    exact ⟨payload.timestamp, .register hparse, htime⟩
  | updateAddress name =>
    obtain ⟨payload, hadmits, -, rfl⟩ := updateAddressDecision_eq_ok.mp h
    exact ⟨payload.timestamp, .updateAddress hadmits.1, hadmits.2.2.2.2.1⟩
  | updateAttributes name =>
    obtain ⟨payload, found, owner, a, hparse, -, -, htime, -, -, -, -, -, -, rfl⟩ :=
      updateAttributesDecision_eq_ok.mp h
    exact ⟨payload.timestamp, .updateAttributes hparse, htime⟩

theorem ownsTarget_of_decision (h : svc.decision verify pool s now request endpoint = .ok op) :
    svc.OwnsTarget s request op := by
  cases endpoint with
  | register =>
    obtain ⟨payload, -, -, -, rfl⟩ := registerDecision_eq_ok.mp h
    trivial
  | updateAddress name =>
    obtain ⟨payload, hadmits, -, rfl⟩ := updateAddressDecision_eq_ok.mp h
    obtain ⟨-, -, -, -, -, -, found, owner, a, hfound, howner, ha, haowner⟩ := hadmits
    exact registeredUnder_of_lookup hfound howner ha haowner
  | updateAttributes name =>
    obtain ⟨payload, found, owner, a, -, -, hfound, -, howner, -, -, ha, haowner, -, rfl⟩ :=
      updateAttributesDecision_eq_ok.mp h
    exact registeredUnder_of_lookup hfound howner ha haowner

/-- Two readers of one message read one value. -/
theorem fromStr_pair {α β : Type} {read : Value → Except String α}
    {read' : Value → Except String β} {a : α} {b : β} (h : svc.fromStr read message = .ok a)
    (h' : svc.fromStr read' message = .ok b) :
    ∃ v, svc.parseJson message = .ok v ∧ read v = .ok a ∧ read' v = .ok b := by
  obtain ⟨v, hv, ha⟩ := fromStr_eq_ok h
  obtain ⟨v', hv', hb⟩ := fromStr_eq_ok h'
  have hsame : v = v' := Except.ok.inj (hv.symm.trans hv')
  subst hsame
  exact ⟨v, hv, ha, hb⟩

theorem SameContent.symm (h : svc.SameContent message op op') :
    svc.SameContent message op' op := by
  cases op with
  | register name attributes addresses =>
    cases op' with
    | register name' attributes' addresses' => exact ⟨h.1.symm, h.2.symm⟩
    | updateAddress name' coinType address => exact h
    | updateAttributes name' attributes' => exact ⟨h.1.symm, h.2⟩
  | updateAddress name coinType address =>
    cases op' with
    | register name' attributes addresses => exact h
    | updateAddress name' coinType' address' => exact ⟨h.1.symm, h.2.symm⟩
    | updateAttributes name' attributes => exact h
  | updateAttributes name attributes =>
    cases op' with
    | register name' attributes' addresses => exact ⟨h.1.symm, h.2⟩
    | updateAddress name' coinType address => exact h
    | updateAttributes name' attributes' => exact h.symm

/-- A registration, and an address update. -/
theorem sameContent_register_updateAddress {p : RegisterPayload} {q : UpdateAddressPayload}
    {name : String} (h : svc.fromStr RegisterPayload.deserialize message = .ok p)
    (h' : svc.fromStr UpdateAddressPayload.deserialize message = .ok q) :
    p.timestamp = q.timestamp ∧ svc.SameContent message (p.operation request)
      (.updateAddress name q.coinType q.address) := by
  obtain ⟨v, hv, hp, hq⟩ := fromStr_pair h h'
  obtain ⟨htime, hfields⟩ := Deserialize.register_updateAddress hp hq
  exact ⟨htime, v, hv, hfields⟩

/-- A registration, and an attributes update. -/
theorem sameContent_register_updateAttributes {p : RegisterPayload}
    {q : UpdateAttributesPayload} {name : String}
    (h : svc.fromStr RegisterPayload.deserialize message = .ok p)
    (h' : svc.fromStr UpdateAttributesPayload.deserialize message = .ok q) :
    p.timestamp = q.timestamp ∧ svc.SameContent message (p.operation request)
      (.updateAttributes name q.attributes) := by
  obtain ⟨v, hv, hp, hq⟩ := fromStr_pair h h'
  obtain ⟨hattributes, htime, hfields⟩ := Deserialize.register_updateAttributes hp hq
  refine ⟨htime, ?_, v, hv, hfields⟩
  rw [hattributes]
  rfl

/-- An attributes update, and an address update. -/
theorem sameContent_updateAttributes_updateAddress {p : UpdateAttributesPayload}
    {q : UpdateAddressPayload} {name name' : String}
    (h : svc.fromStr UpdateAttributesPayload.deserialize message = .ok p)
    (h' : svc.fromStr UpdateAddressPayload.deserialize message = .ok q) :
    p.timestamp = q.timestamp ∧ svc.SameContent message (.updateAttributes name p.attributes)
      (.updateAddress name' q.coinType q.address) := by
  obtain ⟨v, hv, hp, hq⟩ := fromStr_pair h h'
  obtain ⟨htime, hfields⟩ := Deserialize.updateAttributes_updateAddress hp hq
  exact ⟨htime, v, hv, hfields⟩

/-- **What a message says** is the same at every endpoint, as far as it says it. Nine pairs of
    endpoints, of which three have to be looked at: the others are of one payload type, or their
    mirror images. -/
theorem sameContent_of_says (h : svc.Says message op timestamp)
    (h' : svc.Says message op' timestamp') :
    timestamp = timestamp' ∧ svc.SameContent message op op' := by
  cases h with
  | @register p request h =>
    -- on the diagonal the message is parsed as one payload; off it, the payloads are compared pair
    -- by pair
    cases h' with
    | @register q request' h' =>
      cases Except.ok.inj (h.symm.trans h')
      exact ⟨rfl, rfl, rfl⟩
    | updateAddress h' => exact sameContent_register_updateAddress h h'
    | updateAttributes h' => exact sameContent_register_updateAttributes h h'
  | @updateAddress p name h =>
    cases h' with
    | register h' =>
      obtain ⟨htime, hsame⟩ := sameContent_register_updateAddress h' h
      exact ⟨htime.symm, hsame.symm⟩
    | @updateAddress q name' h' =>
      cases Except.ok.inj (h.symm.trans h')
      exact ⟨rfl, rfl, rfl⟩
    | updateAttributes h' =>
      obtain ⟨htime, hsame⟩ := sameContent_updateAttributes_updateAddress h' h
      exact ⟨htime.symm, hsame.symm⟩
  | @updateAttributes p name h =>
    cases h' with
    | register h' =>
      obtain ⟨htime, hsame⟩ := sameContent_register_updateAttributes h' h
      exact ⟨htime.symm, hsame.symm⟩
    | updateAddress h' => exact sameContent_updateAttributes_updateAddress h h'
    | @updateAttributes q name' h' =>
      cases Except.ok.inj (h.symm.trans h')
      exact ⟨rfl, rfl⟩

/-- **What a signed message authorises.**  Two accepted requests with one message, at any two
    endpoints, for any names, were accepted at most twenty seconds apart, agree in all the message
    says, and update only names registered to their address. -/
theorem same_message_operations
    (h : svc.decision verify pool s now request endpoint = .ok op)
    (h' : svc.decision verify' pool' s' now' request' endpoint' = .ok op')
    (hmessage : request.message = request'.message) :
    now.toNat ≤ now'.toNat + 20 ∧ now'.toNat ≤ now.toNat + 20 ∧
      svc.SameContent request.message op op' ∧
      svc.OwnsTarget s request op ∧ svc.OwnsTarget s' request' op' := by
  obtain ⟨timestamp, hsays, htime⟩ := says_of_decision h
  obtain ⟨timestamp', hsays', htime'⟩ := says_of_decision h'
  rw [← hmessage] at hsays'
  obtain ⟨rfl, hsame⟩ := sameContent_of_says hsays hsays'
  have hnear := near_of_isTimestampWithinInterval htime
  have hnear' := near_of_isTimestampWithinInterval htime'
  exact ⟨by omega, by omega, hsame, ownsTarget_of_decision h, ownsTarget_of_decision h'⟩

/-- A registration with a bio. -/
private def carolRegistration : String :=
  "\x7b\"name\":\"carol.wct.id\",\"attributes\":\x7b\"bio\":\"hi\"\x7d,\"timestamp\":1000\x7d"

private def carolService : NamesService := .reading [(carolRegistration, .object
  [("name", .string "carol.wct.id"), ("attributes", .object [("bio", .string "hi")]),
    ("timestamp", .int 1000)])]

private def carolRequest : RegisterRequest where
  message := carolRegistration
  signature := "0x01"
  coinType := 60
  address := "0x1111111111111111111111111111111111111111"

/-- **One message, three operations.**  Its signer owns two names already; the signed registration
    of a third is accepted as such, and as an attributes update of each of the two. -/
theorem registration_replayed_as_updates :
    ∃ s s', Store.empty.insertName 0 "alice.wct.id" ∅ .eip155 (registerAddresses carolRequest)
        = .ok s ∧
      s.insertName 0 "bob.wct.id" ∅ .eip155 (registerAddresses carolRequest) = .ok s' ∧
      carolService.decision (fun _ _ _ _ => .ok true) (.reliable 0) s' 1000 carolRequest .register
        = .ok (.register "carol.wct.id" (HashMap.ofPairs [("bio", "hi")])
          (registerAddresses carolRequest)) ∧
      carolService.decision (fun _ _ _ _ => .ok true) (.reliable 0) s' 1001 carolRequest
          (.updateAttributes "alice.wct.id")
        = .ok (.updateAttributes "alice.wct.id" (HashMap.ofPairs [("bio", "hi")])) ∧
      carolService.decision (fun _ _ _ _ => .ok true) (.reliable 0) s' 1002 carolRequest
          (.updateAttributes "bob.wct.id")
        = .ok (.updateAttributes "bob.wct.id" (HashMap.ofPairs [("bio", "hi")])) :=
  ⟨_, _, rfl, rfl, rfl, rfl, rfl⟩

/-- The registration and the update that replays it, taken together. -/
theorem registration_and_its_replay :
    ∃ s, Store.empty.insertName 0 "alice.wct.id" ∅ .eip155 (registerAddresses carolRequest)
        = .ok s ∧
      (1000 : UInt64).toNat ≤ (1001 : UInt64).toNat + 20 ∧
      (1001 : UInt64).toNat ≤ (1000 : UInt64).toNat + 20 ∧
      carolService.SameContent carolRegistration
        (.register "carol.wct.id" (HashMap.ofPairs [("bio", "hi")])
          (registerAddresses carolRequest))
        (.updateAttributes "alice.wct.id" (HashMap.ofPairs [("bio", "hi")])) ∧
      carolService.OwnsTarget s carolRequest (.register "carol.wct.id"
        (HashMap.ofPairs [("bio", "hi")]) (registerAddresses carolRequest)) ∧
      carolService.OwnsTarget s carolRequest
        (.updateAttributes "alice.wct.id" (HashMap.ofPairs [("bio", "hi")])) := by
  have haccepted : ∃ s,
      Store.empty.insertName 0 "alice.wct.id" ∅ .eip155 (registerAddresses carolRequest)
        = .ok s ∧
      carolService.decision (fun _ _ _ _ => .ok true) (.reliable 0) s 1000 carolRequest .register
        = .ok (.register "carol.wct.id" (HashMap.ofPairs [("bio", "hi")])
          (registerAddresses carolRequest)) ∧
      carolService.decision (fun _ _ _ _ => .ok true) (.reliable 0) s 1001 carolRequest
          (.updateAttributes "alice.wct.id")
        = .ok (.updateAttributes "alice.wct.id" (HashMap.ofPairs [("bio", "hi")])) :=
    ⟨_, rfl, rfl, rfl⟩
  obtain ⟨s, hinsert, hregister, hupdate⟩ := haccepted
  exact ⟨s, hinsert, same_message_operations hregister hupdate rfl⟩

end NamesService

end BlockchainApi
