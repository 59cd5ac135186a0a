/-
  The balance cache (`src/handlers/balance.rs`).

  A balance response is cached for ten seconds under the address alone, although it depends on the
  currency and on the chain filter as well.

  1. **The handler with its cache** (`balanceService`) is one of the services of
     `Lib.CachedService`: a request looks up, a miss computes, and a background task writes later,
     if it gets to.  What is the handler's own is the key, and what of a request the answer depends
     on (`SameQuestion`).
  2.  `balance_coherent_iff`: whatever the requests, the answers of the providers and the order of
     the background tasks, every answer from the cache was computed earlier for the same address,
     currency and chain filter exactly if each request that finds a live entry asks for the currency
     and the chain filter that the entry was computed for.  The address takes care of itself, since
     keys of different addresses differ.
  3.  `euroRun_incoherent`: a request in euros is answered in dollars.
-/
import BlockchainApi.Balances.Handler
import BlockchainApi.Lib.CachedService

namespace BlockchainApi

open ByteCodec CachedService Transitions

/-- `BALANCE_CACHE_TTL`, in milliseconds. -/
def balanceCacheTtl : Nat := 10000

/-- `address_balance_cache_key`. -/
def addressBalanceCacheKey (address : String) : String := "address_balance/" ++ address

theorem addressBalanceCacheKey_injective {address address' : String}
    (h : addressBalanceCacheKey address = addressBalanceCacheKey address') : address = address' :=
  (String.append_right_inj _).mp h

variable {F : Type}

/-- `handler_internal` and its cache.  A response that was stored may turn out to be unreadable. -/
def balanceService (readback : Readback (BalanceResponseBody F)) :
    Service (BalanceWorld F) BalanceRequest String (BalanceResponseBody F) RpcError where
  early := earlyBalance
  reads req := req.forceUpdate.isNone
  key req := addressBalanceCacheKey req.address
  compute := freshBalance
  readback := readback
  lifetime := balanceCacheTtl

/-- The requests differ in nothing that the answer depends on, but for the force-update list. -/
structure SameQuestion (req req' : BalanceRequest) : Prop where
  address : req.address = req'.address
  currency : req.currency = req'.currency
  chainId : req.chainId = req'.chainId

/-- The requests ask for the same currency and chain filter. -/
def SameFilter (req req' : BalanceRequest) : Prop :=
  req.currency = req'.currency ∧ req.chainId = req'.chainId

/-- The states and steps of the handler with its cache. -/
abbrev BalanceState (F : Type) := State BalanceRequest String (BalanceResponseBody F) RpcError

/-- One step of it. -/
abbrev BalanceAction (F : Type) := Action (BalanceWorld F) BalanceRequest

/-- **When the balance cache is coherent.**  Every answer from the cache was computed earlier for
    a request with the same address, currency and chain filter, exactly if every request that
    finds a live entry asks for the currency and chain filter of the request that wrote it. -/
theorem balance_coherent_iff {readback : Readback (BalanceResponseBody F)}
    {as : List (BalanceAction F)} {t : BalanceState F}
    (h : (balanceService readback).machine.run (State.start _ _ _ _) as = some t) :
    Service.Coherent SameQuestion t.answers ↔
      (balanceService readback).machine.Within ((balanceService readback).HitsAgree SameFilter)
        (State.start _ _ _ _) as := by
  have hagrees : ∀ w q, (balanceService readback).key w = (balanceService readback).key q →
      (SameFilter w q ↔ SameQuestion w q) := by
    intro w q hkey
    have haddress := addressBalanceCacheKey_injective hkey
    exact ⟨fun hfilter => ⟨haddress, hfilter.1, hfilter.2⟩, fun hsame => ⟨hsame.2, hsame.3⟩⟩
  have hstart : Service.Coherent SameQuestion
      (State.start BalanceRequest String (BalanceResponseBody F) RpcError).answers :=
    fun i a ha => by cases ha
  exact (Service.coherent_iff hagrees Service.known_start h).trans (and_iff_right hstart)

/-! ## A request in another currency: a second after one in dollars -/

/-- A chain without tokens, and a provider that answers one item with a price by currency. -/
def demoBalanceWorld : BalanceWorld Nat where
  parsers :=
    { h160FromStr := fun _ => some (.ofNat 20 1)
      bs58Decode := fun _ => none }
  denylistProjectIds := none
  access _ := .ok ()
  testingProjectId := none
  providers _ := .ok [fun req => .ok ⟨[
    { name := "Ether"
      symbol := "ETH"
      chainId := some "eip155:1"
      address := some "eip155:1:0xeeeeeeeeeeeeeeeeeeeeeeeeeeeeeeeeeeeeeeee"
      value := some (if req.currency = .eur then 3000 else 3500)
      price := if req.currency = .eur then 3000 else 3500
      quantity := { decimals := "18", numeric := "1.000000000000000000" }
      iconUrl := "" }]⟩]
  erc20Balance _ _ _ _ := .ok 0
  prices _ := none
  floats := { zero := 0, ofNat := id, mul := Nat.mul, div := Nat.div, parse := fun _ => none }

/-- A request for the balances of an account. -/
def demoBalanceRequest (currency : SupportedCurrencies) : BalanceRequest where
  address := "0x1111111111111111111111111111111111111111"
  projectId := "project"
  currency := currency
  chainId := none
  forceUpdate := none
  sv := some "1.7.0"
  origin := some "https://app.example"
  xSdkVersion := none

/-- A request in dollars, its computation, its background task, and a request in euros a second
    later. -/
def euroRun : List (BalanceAction Nat) :=
  [.receive demoBalanceWorld (demoBalanceRequest .usd) true, .compute demoBalanceWorld 0, .put 0,
    .wait 1000, .receive demoBalanceWorld (demoBalanceRequest .eur) true]

/-- The currency of an answer, and the currency it was computed for. -/
def currencies (a : Answer BalanceRequest (BalanceResponseBody Nat) RpcError) :
    SupportedCurrencies × Option SupportedCurrencies :=
  (a.request.currency,
    match a.source with
    | .cached writer => some writer.currency
    | _ => none)

/-- The second answer of the run comes from the cache, in dollars. -/
theorem euroRun_answers :
    ∃ t, (balanceService (Readback.exact _)).machine.run (State.start _ _ _ _) euroRun = some t ∧
      ¬ Service.Coherent SameQuestion t.answers := by
  have hcurrencies : ((balanceService (Readback.exact _)).machine.run (State.start _ _ _ _)
      euroRun).bind (fun t => t.answers[1]?.map currencies) = some (.eur, some .usd) := by
    decide +kernel
  obtain ⟨t, ht, hanswer⟩ := Option.bind_eq_some_iff.mp hcurrencies
  obtain ⟨a, ha, hcurrency⟩ := Option.map_eq_some_iff.mp hanswer
  refine ⟨t, ht, fun hcoherent => ?_⟩
  obtain ⟨request, result, source⟩ := a
  cases source with
  | early => exact absurd (Prod.mk.inj hcurrency).2 (Option.some_ne_none _).symm
  | computed => exact absurd (Prod.mk.inj hcurrency).2 (Option.some_ne_none _).symm
  | cached writer =>
    obtain ⟨hasked, hwritten⟩ := Prod.mk.inj hcurrency
    have hsame := (hcoherent 1 _ ha writer rfl).1.currency
    rw [Option.some.inj hwritten] at hsame
    exact absurd (hsame.trans hasked) (by decide)

theorem balance_coherent_iff_euroRun :
    ¬ (balanceService (Readback.exact _)).machine.Within
      ((balanceService (Readback.exact _)).HitsAgree SameFilter) (State.start _ _ _ _) euroRun := by
  obtain ⟨t, ht, hincoherent⟩ := euroRun_answers
  exact fun hwithin => hincoherent ((balance_coherent_iff ht).mpr hwithin)

/-- **A request in euros is answered in dollars**, from the cache. -/
theorem euroRun_incoherent :
    ¬ ∀ (as : List (BalanceAction Nat)) (t : BalanceState Nat),
      (balanceService (Readback.exact _)).machine.run (State.start _ _ _ _) as = some t →
        Service.Coherent SameQuestion t.answers := by
  intro hall
  obtain ⟨t, ht, hincoherent⟩ := euroRun_answers
  exact hincoherent (hall euroRun t ht)

end BlockchainApi
