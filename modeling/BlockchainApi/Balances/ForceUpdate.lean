/-
  What `force_update` does to the providers' balances (`src/handlers/balance.rs`).

  For each CAIP-10 text of the list, the balance of the token is asked of the chain, and written to
  the first item whose address is that text; for the placeholder of the native token also to the
  native item of the chain.  If there is no such item, a new one is appended.  `ReplacesExactly` is
  what that is to come to: one item for each token of the list, with its balance.

  Texts are compared, and a token has several: addresses are read in capital and in small letters.

  1.  `step_of_forceUpdateToken`: one token as a request to a list that is updated in place
     (`Lib.Upsert`).  Which items a text covers is said without the search (`forceUpdateRules`).
  2.  `hasBalance_iff`: what the last request leaves.  The balance is written in the decimals of the
     item, so these have to be a byte for it to be the balance that the chain says.
  3.  `token_replaced_iff`: one token, by the number of its items before.  With none, the first text
     appends one; with one, the texts have to find it; with two, both stay.
  4.  `forceUpdateTokens_replaces_iff`: each token of the list is replaced if and only if there is
     no item of it and all its texts are the same, or one item, native or with that text, whose
     decimals are a byte.  Tokens do not interfere, so the list is one token after the other.
-/
import BlockchainApi.Balances.Cache
import BlockchainApi.Lib.Upsert
import BlockchainApi.Utils.HexAddress

namespace BlockchainApi

open ByteCodec

variable {F : Type} (w : BalanceWorld F) (req : BalanceRequest) (projectId : String)

/-! ## Tokens -/

/-- The chain and the contract that a CAIP-10 text names. -/
def tokenOfText (caip10 : String) : Option (String × Address) :=
  match disassembleCaip10 w.parsers caip10 with
  | .ok (namespace_, chainId, contractAddress) =>
    (w.parsers.h160FromStr contractAddress).map fun contract =>
      (namespace_.display ++ ":" ++ chainId, contract)
  | _ => none

/-- The chain and the contract of an item.  The native token of a chain has its placeholder. -/
def tokenOfItem (b : BalanceItem F) : Option (String × Address) :=
  match b.address with
  | some caip10 => tokenOfText w caip10
  | none => b.chainId.map fun chainId => (chainId, h160EmptyAddress)

/-- The balance of the wallet, as the chain says it. -/
def balanceOnChain (token : String × Address) : Option U256 :=
  (w.parsers.h160FromStr req.address).bind fun wallet =>
    (w.erc20Balance token.1 token.2 wallet projectId).toOption

/-- The decimals of an item, if they are a byte. -/
def itemDecimals (b : BalanceItem F) : Option Nat :=
  parseUnsigned (2 ^ 8) b.quantity.decimals.toList

/-- The item has the balance that the chain says, in its own decimals. -/
def HasBalance (token : String × Address) (b : BalanceItem F) : Prop :=
  ∃ balance decimals, balanceOnChain w req projectId token = some balance ∧
    itemDecimals b = some decimals ∧
      b.quantity.numeric = formatTokenAmount balance (UInt8.ofNat decimals)

/-- All lookups for a token of the list succeed. -/
def LooksUp (caip10 : String) : Prop :=
  ∃ namespace_ chainId contractAddress contract wallet balance getPrice tokenInfo others,
    disassembleCaip10 w.parsers caip10 = .ok (namespace_, chainId, contractAddress) ∧
    w.parsers.h160FromStr contractAddress = some contract ∧
    w.parsers.h160FromStr req.address = some wallet ∧
    w.erc20Balance (namespace_.display ++ ":" ++ chainId) contract wallet projectId = .ok balance ∧
    w.prices namespace_ = some getPrice ∧
    getPrice chainId ("0x" ++ hexEncode contract.bytes) req.currency = .ok (tokenInfo :: others)

/-! ## What is to be done: one item for each token, with its balance -/

/-- The item is of a token of the list. -/
def IsListed (entries : List String) (b : BalanceItem F) : Prop :=
  ∃ caip10 ∈ entries, tokenOfItem w b = tokenOfText w caip10

/-- Each token of the list has one item, with its balance, and all other items are where they
    were. -/
structure ReplacesExactly (balances : List (BalanceItem F)) (entries : List String)
    (result : List (BalanceItem F)) : Prop where
  once : ∀ token, (∃ caip10 ∈ entries, tokenOfText w caip10 = some token) →
    ∃ b, result.filter (fun b => tokenOfItem w b = some token) = [b] ∧
      HasBalance w req projectId token b
  others : ∀ (i : ℕ) b, balances[i]? = some b → ¬ IsListed w entries b → result[i]? = some b
  added : ∀ (i : ℕ) b, balances.length ≤ i → result[i]? = some b → IsListed w entries b

/-- The items of a token fit the texts for it: there is none, and the texts are one text or the
    token is native; or there is one, native or with that text, whose decimals are a byte. -/
def Fits (token : String × Address) (texts : List String) : List (BalanceItem F) → Prop
  | [] => token.2 = h160EmptyAddress ∨ ∀ t ∈ texts, ∀ t' ∈ texts, t = t'
  | [b] => (itemDecimals b).isSome ∧ (b.address = none ∨ ∀ t ∈ texts, b.address = some t)
  | _ => False

/-- The items of each token of the list fit the texts for it. -/
def AllFit (balances : List (BalanceItem F)) (entries : List String) : Prop :=
  ∀ token, (∃ caip10 ∈ entries, tokenOfText w caip10 = some token) →
    Fits token (entries.filter fun caip10 => tokenOfText w caip10 = some token)
      (balances.filter fun b => tokenOfItem w b = some token)

instance {token : String × Address} {texts : List String} :
    (items : List (BalanceItem F)) → Decidable (Fits token texts items)
  | [] => inferInstanceAs (Decidable (_ ∨ _))
  | [_] => inferInstanceAs (Decidable (_ ∧ _))
  | _ :: _ :: _ => inferInstanceAs (Decidable False)

/-- It is enough to look at the tokens that the list names. -/
instance {balances : List (BalanceItem F)} {entries : List String} :
    Decidable (AllFit w balances entries) :=
  decidable_of_iff
    (∀ caip10 ∈ entries, ∀ token ∈ tokenOfText w caip10,
      Fits token (entries.filter fun caip10 => tokenOfText w caip10 = some token)
        (balances.filter fun b => tokenOfItem w b = some token))
    ⟨fun h token ⟨caip10, hlisted, htoken⟩ => h caip10 hlisted token htoken,
      fun h caip10 hlisted token htoken => h token ⟨caip10, hlisted, htoken⟩⟩

/-! ## The list as it is updated, one text after the other -/

/-- The texts of the list as requests: a text covers the items that have it, and the placeholder of
    the native token the native item. -/
def forceUpdateRules : Upsert.Rules (BalanceItem F) String (Option (String × Address)) where
  keyOf := tokenOfItem w
  key := tokenOfText w
  Covers caip10 b := b.address = some caip10 ∨
    b.address = none ∧ tokenOfItem w b = tokenOfText w caip10 ∧ (tokenOfText w caip10).isSome
  Updates caip10 b b' := ∃ token balance, tokenOfText w caip10 = some token ∧
    balanceOnChain w req projectId token = some balance ∧ b' = withRpcBalance w balance b
  Appends caip10 b := ∃ token balance, ∃ decimals : UInt8, tokenOfText w caip10 = some token ∧
    balanceOnChain w req projectId token = some balance ∧ b.chainId = some token.1 ∧
      b.address = (if token.2 = h160EmptyAddress then none else some caip10) ∧
        b.quantity = ⟨toString decimals.toNat, formatTokenAmount balance decimals⟩
  keyOf_of_covers := by
    rintro caip10 b (haddress | ⟨-, htoken, -⟩)
    · rw [tokenOfItem, haddress]
    · exact htoken
  keyOf_of_updates := by
    rintro caip10 b _ ⟨token, balance, -, -, rfl⟩
    rfl
  covers_of_updates := by
    rintro caip10 caip10' b _ ⟨token, balance, -, -, rfl⟩
    rfl
  keyOf_of_appends := by
    rintro caip10 b ⟨token, balance, decimals, htoken, -, hchain, haddress, -⟩
    rw [tokenOfItem, haddress, htoken]
    by_cases hnative : token.2 = h160EmptyAddress
    · rw [if_pos hnative, hchain, ← hnative]
      rfl
    · rw [if_neg hnative]
      exact htoken

variable {w req projectId} {balances result : List (BalanceItem F)} {caip10 : String}
  {entries : List String}

theorem updateFirst_eq_some {p : BalanceItem F → Bool} {f : BalanceItem F → BalanceItem F}
    {updated : List (BalanceItem F)} (h : updateFirst p f balances = some updated) :
    ∃ before b after, balances = before ++ b :: after ∧ p b = true ∧
      updated = before ++ f b :: after := by
  induction balances generalizing updated with
  | nil => cases h
  | cons item items ih =>
    rw [updateFirst] at h
    split at h
    · rename_i hp
      obtain rfl := Option.some.inj h
      exact ⟨[], item, items, rfl, hp, rfl⟩
    · obtain ⟨rest, hrest, rfl⟩ := Option.map_eq_some_iff.mp h
      obtain ⟨before, b, after, rfl, hp, rfl⟩ := ih hrest
      exact ⟨item :: before, b, after, rfl, hp, rfl⟩

theorem updateFirst_eq_none {p : BalanceItem F → Bool} {f : BalanceItem F → BalanceItem F}
    (h : updateFirst p f balances = none) : ∀ b ∈ balances, p b = false := by
  induction balances with
  | nil => exact fun b hb => absurd hb List.not_mem_nil
  | cons item items ih =>
    rw [updateFirst] at h
    split at h
    · cases h
    · rename_i hp
      exact List.forall_mem_cons.mpr ⟨Bool.eq_false_iff.mpr hp, ih (Option.map_eq_none_iff.mp h)⟩

/-- An item without an address, on the chain of the placeholder, is of its token. -/
theorem tokenOfItem_of_native {b : BalanceItem F} (haddress : b.address = none) {chain : String} :
    tokenOfItem w b = some (chain, h160EmptyAddress) ↔ b.chainId = some chain := by
  rw [tokenOfItem, haddress, Option.map_eq_some_iff]
  simp

/-- Where neither search finds an item, none is covered. -/
theorem not_covers_of_updateFirst {f : BalanceItem F → BalanceItem F} {token : String × Address}
    (htoken : tokenOfText w caip10 = some token)
    (htext : updateFirst (fun b => b.address == some caip10) f balances = none)
    (hnative : token.2 = h160EmptyAddress →
      updateFirst (fun b => b.address.isNone && b.chainId == some token.1) f balances = none)
    {b : BalanceItem F} (hb : b ∈ balances) :
    ¬ (forceUpdateRules w req projectId).Covers caip10 b := by
  rintro (haddress | ⟨haddress, hitem, -⟩)
  · have hother := updateFirst_eq_none htext b hb
    rw [haddress, beq_self_eq_true] at hother
    cases hother
  · -- an item without an address is native
    have hplaceholder : token.2 = h160EmptyAddress := by
      rw [tokenOfItem, haddress, htoken, Option.map_eq_some_iff] at hitem
      obtain ⟨chain, -, rfl⟩ := hitem
      rfl
    have hchain : b.chainId = some token.1 := by
      rw [← tokenOfItem_of_native haddress, hitem, htoken, ← hplaceholder]
    have hother := updateFirst_eq_none (hnative hplaceholder) b hb
    rw [haddress, hchain] at hother
    simp at hother

/-- **One token of the list** is a request to the list. The two searches of the source come to
    one thing: the first item that the text covers is updated, and where there is none the new
    item is appended. -/
theorem step_of_forceUpdateToken
    (h : forceUpdateToken w req projectId balances caip10 = .ok result) :
    (tokenOfText w caip10).isSome ∧
      Upsert.Step (forceUpdateRules w req projectId) balances caip10 result := by
  obtain ⟨⟨namespace_, chainId, contractAddress⟩, hcaip10, h⟩ := Outcome.bind_eq_ok.mp h
  obtain ⟨contract, hcontract, h⟩ := Outcome.bind_eq_ok.mp h
  obtain ⟨wallet, hwallet, h⟩ := Outcome.bind_eq_ok.mp h
  obtain ⟨balance, hbalance, h⟩ := Outcome.bind_eq_ok.mp h
  rw [Outcome.mapErr_eq_ok] at hcaip10
  rw [Outcome.okOr_eq_ok] at hcontract hwallet
  rw [Outcome.ofExcept_eq_ok] at hbalance
  -- what the lookups returned are the token of the text and its balance
  have htoken : tokenOfText w caip10 =
      some (namespace_.display ++ ":" ++ chainId, contract) := by
    rw [tokenOfText, hcaip10]
    dsimp only
    rw [hcontract]
    rfl
  have honChain : balanceOnChain w req projectId
      (namespace_.display ++ ":" ++ chainId, contract) = some balance := by
    rw [balanceOnChain, hwallet, Option.bind_some, hbalance]
    rfl
  refine ⟨by rw [htoken]; rfl, ?_⟩
  dsimp only at h
  split at h
  · -- the text is that of an item
    rename_i updated hupdated
    obtain ⟨before, b, after, rfl, hp, rfl⟩ := updateFirst_eq_some hupdated
    obtain rfl := Outcome.ok.inj h
    exact .update (.inl (beq_iff_eq.mp hp)) ⟨_, balance, htoken, honChain, rfl⟩
  · rename_i hnoText
    split at h
    · -- the native item of the chain
      rename_i updated hupdated
      split at hupdated
      · rename_i hnative
        obtain ⟨before, b, after, rfl, hp, rfl⟩ := updateFirst_eq_some hupdated
        obtain rfl := Outcome.ok.inj h
        rw [Bool.and_eq_true, Option.isNone_iff_eq_none, beq_iff_eq] at hp
        refine .update (.inr ⟨hp.1, ?_, by rw [htoken]; rfl⟩) ⟨_, balance, htoken, honChain, rfl⟩
        rw [htoken, hnative]
        exact (tokenOfItem_of_native hp.1).mpr hp.2
      · cases hupdated
    · -- neither is there: a new item is appended
      rename_i hnoNative
      obtain ⟨item, hitem, h⟩ := Outcome.bind_eq_ok.mp h
      obtain rfl := Outcome.ok.inj h
      obtain ⟨getPrice, -, hitem⟩ := Outcome.bind_eq_ok.mp hitem
      obtain ⟨fungibles, -, hitem⟩ := Outcome.bind_eq_ok.mp hitem
      obtain ⟨tokenInfo, -, hitem⟩ := Outcome.bind_eq_ok.mp hitem
      obtain rfl := Outcome.ok.inj hitem
      refine .append (fun b hb => ?_)
        ⟨_, balance, tokenInfo.decimals, htoken, honChain, rfl, rfl, rfl⟩
      refine not_covers_of_updateFirst htoken hnoText (fun hplaceholder => ?_) hb
      rwa [if_pos hplaceholder] at hnoNative

/-- The list, one token after the other. -/
theorem run_of_forceUpdateTokens
    (h : forceUpdateTokens w req projectId balances entries = .ok result) :
    (∀ caip10 ∈ entries, (tokenOfText w caip10).isSome) ∧
      Upsert.Run (forceUpdateRules w req projectId) balances entries result := by
  induction entries generalizing balances with
  | nil =>
    obtain rfl := Outcome.ok.inj h
    exact ⟨fun caip10 hcaip10 => absurd hcaip10 List.not_mem_nil, .nil⟩
  | cons caip10 entries ih =>
    obtain ⟨updated, hupdated, hrest⟩ := Outcome.bind_eq_ok.mp h
    obtain ⟨hread, hstep⟩ := step_of_forceUpdateToken hupdated
    obtain ⟨hreads, hrun⟩ := ih hrest
    exact ⟨List.forall_mem_cons.mpr ⟨hread, hreads⟩, .cons hstep hrun⟩

/-- The list is processed if all lookups succeed. -/
theorem forceUpdateTokens_returns (h : ∀ caip10 ∈ entries, LooksUp w req projectId caip10) :
    ∃ result, forceUpdateTokens w req projectId balances entries = .ok result := by
  -- the induction is on the texts, for any list of balances
  induction entries generalizing balances with
  | nil => exact ⟨balances, rfl⟩
  | cons caip10 entries ih =>
    obtain ⟨hfirst, hrest⟩ := List.forall_mem_cons.mp h
    suffices htoken : ∃ updated, forceUpdateToken w req projectId balances caip10 = .ok updated by
      obtain ⟨updated, hupdated⟩ := htoken
      obtain ⟨result, hresult⟩ := @ih updated hrest
      exact ⟨result, Outcome.bind_eq_ok.mpr ⟨updated, hupdated, hresult⟩⟩
    obtain ⟨namespace_, chainId, contractAddress, contract, wallet, balance, getPrice, tokenInfo,
      others, hcaip10, hcontract, hwallet, hbalance, hprices, hprice⟩ := hfirst
    -- a price is looked up for a new item only; that it is found is part of `LooksUp`
    have hnew : ∃ item, newBalance w req caip10 namespace_ chainId contract balance = .ok item := by
      rw [newBalance, hprices]
      dsimp only [Outcome.okOr, Outcome.ok_bind]
      rw [hprice]
      exact ⟨_, rfl⟩
    obtain ⟨item, hitem⟩ := hnew
    unfold forceUpdateToken
    rw [hcaip10, hwallet]
    dsimp only [Outcome.mapErr, Outcome.ok_bind]
    rw [hcontract]
    dsimp only [Outcome.okOr, Outcome.ok_bind]
    rw [hbalance]
    dsimp only [Outcome.ofExcept, Outcome.ok_bind]
    -- one of the three ways to go on
    split
    · exact ⟨_, rfl⟩
    · split
      · exact ⟨_, rfl⟩
      · exact ⟨_, Outcome.bind_eq_ok.mpr ⟨item, hitem, rfl⟩⟩

/-! ## One token, by the number of its items -/

/-- An updated item keeps its decimals, and has the balance in them. -/
theorem quantity_withRpcBalance (rpcBalance : U256) (b : BalanceItem F) :
    (withRpcBalance w rpcBalance b).quantity = ⟨b.quantity.decimals,
      formatTokenAmount rpcBalance (UInt8.ofNat ((itemDecimals b).getD 0))⟩ := rfl

theorem itemDecimals_withRpcBalance (rpcBalance : U256) (b : BalanceItem F) :
    itemDecimals (withRpcBalance w rpcBalance b) = itemDecimals b := by
  rw [itemDecimals, quantity_withRpcBalance, itemDecimals]

/-- What a request for a token has written has the balance, if the decimals are a byte. -/
theorem hasBalance_iff {token : String × Address} {b : BalanceItem F}
    (htoken : tokenOfText w caip10 = some token)
    (h : (∃ b₀, (forceUpdateRules w req projectId).Updates caip10 b₀ b) ∨
      (forceUpdateRules w req projectId).Appends caip10 b) :
    HasBalance w req projectId token b ↔ (itemDecimals b).isSome := by
  constructor
  · rintro ⟨balance, decimals, -, hdecimals, -⟩
    rw [hdecimals]
    rfl
  · intro hread
    obtain ⟨decimals, hdecimals⟩ := Option.isSome_iff_exists.mp hread
    rcases h with ⟨b₀, token', balance, htoken', hbalance, rfl⟩ |
      ⟨token', balance, d, htoken', hbalance, -, -, hquantity⟩
    · obtain rfl := Option.some.inj (htoken.symm.trans htoken')
      rw [itemDecimals_withRpcBalance] at hdecimals
      refine ⟨balance, decimals, hbalance, (itemDecimals_withRpcBalance _ _).trans hdecimals, ?_⟩
      rw [quantity_withRpcBalance, hdecimals, Option.getD_some]
    · obtain rfl := Option.some.inj (htoken.symm.trans htoken')
      have hd : itemDecimals b = some d.toNat := by
        rw [itemDecimals, hquantity]
        exact parseUnsigned_toString d.toNat_lt
      refine ⟨balance, d.toNat, hbalance, hd, ?_⟩
      rw [hquantity, UInt8.ofNat_toNat]

/-- The decimals of what is appended are a byte. -/
theorem itemDecimals_of_appends {b : BalanceItem F}
    (h : (forceUpdateRules w req projectId).Appends caip10 b) : (itemDecimals b).isSome := by
  obtain ⟨token, balance, d, -, -, -, -, hquantity⟩ := h
  rw [itemDecimals, hquantity, show parseUnsigned (2 ^ 8) (toString d.toNat).toList = _ from
    parseUnsigned_toString d.toNat_lt]
  rfl

/-- One item, under requests for its token, is replaced if and only if it is native or has the
    texts, and its decimals are a byte. -/
theorem singleton_replaced_iff {token : String × Address} {b : BalanceItem F}
    {texts : List String}
    (hrun : Upsert.Run (forceUpdateRules w req projectId) [b] texts result)
    (hb : tokenOfItem w b = some token) (htexts : ∀ t ∈ texts, tokenOfText w t = some token) :
    result.length = 1 ↔ b.address = none ∨ ∀ t ∈ texts, b.address = some t := by
  rw [hrun.length_singleton_iff]
  constructor
  · intro hall
    cases haddress : b.address with
    | none => exact .inl rfl
    | some text =>
      refine .inr fun t ht => ?_
      rcases hall t ht with h | ⟨h, -⟩
      · rw [← haddress, h]
      · rw [haddress] at h
        cases h
  · rintro (hnone | hall) t ht
    · refine .inr ⟨hnone, ?_, ?_⟩
      · rw [hb, htexts t ht]
      · rw [htexts t ht]
        rfl
    · exact .inl (hall t ht)

/-- Updates keep the decimals. -/
theorem decimals_kept {b : BalanceItem F} {texts : List String}
    (hrun : Upsert.Run (forceUpdateRules w req projectId) [b] texts result) :
    ∀ b', result = [b'] → itemDecimals b' = itemDecimals b := by
  rintro b' rfl
  obtain ⟨c, hc, hdecimals⟩ := hrun.getElem?_eq (i := 0) itemDecimals
    (by rintro _ _ _ ⟨_, _, -, -, rfl⟩; exact itemDecimals_withRpcBalance _ _) rfl
  obtain rfl := Option.some.inj hc
  exact hdecimals

/-- What the last request has written is the one item of the token, if its decimals are a byte. -/
theorem replaced_iff_length {token : String × Address} {items : List (BalanceItem F)}
    {texts : List String}
    (hrun : Upsert.Run (forceUpdateRules w req projectId) items texts result)
    (htexts : ∀ t ∈ texts, tokenOfText w t = some token) (hne : texts ≠ []) :
    (∃ b, result = [b] ∧ HasBalance w req projectId token b) ↔
      result.length = 1 ∧ ∀ b, result = [b] → (itemDecimals b).isSome := by
  constructor
  · rintro ⟨b, rfl, hbalance⟩
    refine ⟨rfl, ?_⟩
    rintro _ ⟨⟩
    obtain ⟨_, _, -, hdecimals, -⟩ := hbalance
    rw [hdecimals]
    rfl
  · rintro ⟨hone, hread⟩
    obtain ⟨t, ht, b, rfl, hwrites⟩ := hrun.touched hne hone
    exact ⟨b, rfl, (hasBalance_iff (htexts t ht) hwrites).mpr (hread b rfl)⟩

/-- A token without an item: the first text appends one, which the others find if it is native or
    if they are the same text. -/
theorem appended_replaced_iff {token : String × Address} {t : String} {texts : List String}
    (hrun : Upsert.Run (forceUpdateRules w req projectId) [] (t :: texts) result)
    (htexts : ∀ u ∈ t :: texts, tokenOfText w u = some token) :
    (result.length = 1 ∧ ∀ b, result = [b] → (itemDecimals b).isSome) ↔
      Fits token (t :: texts) ([] : List (BalanceItem F)) := by
  obtain ⟨ht, htexts⟩ := List.forall_mem_cons.mp htexts
  obtain ⟨b, happends, hrest⟩ := hrun.exists_appends
  have hb : tokenOfItem w b = some token :=
    ((forceUpdateRules w req projectId).keyOf_of_appends happends).trans ht
  have hread : ∀ b', result = [b'] → (itemDecimals b').isSome := fun b' hb' => by
    rw [decimals_kept hrest b' hb']
    exact itemDecimals_of_appends happends
  rw [and_iff_left hread, singleton_replaced_iff hrest hb htexts]
  obtain ⟨token', _, _, ht', -, -, haddress, -⟩ := happends
  obtain rfl := Option.some.inj (ht.symm.trans ht')
  rw [haddress, Fits]
  by_cases hnative : token.2 = h160EmptyAddress
  · rw [if_pos hnative]
    exact iff_of_true (.inl rfl) (.inl hnative)
  · rw [if_neg hnative, or_iff_right (Option.some_ne_none t), or_iff_right hnative]
    constructor
    · intro hall u hu u' hu'
      have hsame : ∀ v ∈ t :: texts, v = t := List.forall_mem_cons.mpr
        ⟨rfl, fun v hv => (Option.some.inj (hall v hv)).symm⟩
      rw [hsame u hu, hsame u' hu']
    · intro hall u hu
      exact congrArg some (hall t List.mem_cons_self u (List.mem_cons_of_mem _ hu))

/-- **One token** is replaced if and only if its items fit the texts for it. -/
theorem token_replaced_iff {token : String × Address} {items : List (BalanceItem F)}
    {texts : List String}
    (hrun : Upsert.Run (forceUpdateRules w req projectId) items texts result)
    (hitems : ∀ b ∈ items, tokenOfItem w b = some token)
    (htexts : ∀ t ∈ texts, tokenOfText w t = some token) (hne : texts ≠ []) :
    (∃ b, result = [b] ∧ HasBalance w req projectId token b) ↔ Fits token texts items := by
  rw [replaced_iff_length hrun htexts hne]
  cases items with
  | nil =>
    -- no item yet
    obtain ⟨t, texts, rfl⟩ := List.exists_cons_of_ne_nil hne
    exact appended_replaced_iff hrun htexts
  | cons b items =>
    cases items with
    | nil =>
      -- one item: the texts have to find it
      have hb := hitems b (List.mem_singleton_self b)
      rw [singleton_replaced_iff hrun hb htexts, Fits, and_comm]
      refine and_congr_left fun hall => ?_
      obtain ⟨b', hb'⟩ := List.length_eq_one_iff.mp
        ((singleton_replaced_iff hrun hb htexts).mpr hall)
      constructor
      · intro hread
        rw [← decimals_kept hrun b' hb']
        exact hread b' hb'
      · intro hread c hc
        rw [decimals_kept hrun c hc]
        exact hread
    | cons b' items =>
      -- two items of one token both stay
      refine iff_of_false (fun h => ?_) not_false
      have hle := hrun.length_le
      rw [h.1] at hle
      exact absurd hle (by simp)

/-! ## The list -/

/-- The list is replaced, when it is processed, if and only if the items of each token of it fit. -/
theorem replacesExactly_iff
    (hresult : forceUpdateTokens w req projectId balances entries = .ok result) :
    ReplacesExactly w req projectId balances entries result ↔ AllFit w balances entries := by
  obtain ⟨-, hrun⟩ := run_of_forceUpdateTokens hresult
  have hone : ∀ token, (∃ caip10 ∈ entries, tokenOfText w caip10 = some token) →
      ((∃ b, result.filter (fun b => tokenOfItem w b = some token) = [b] ∧
        HasBalance w req projectId token b) ↔
      Fits token (entries.filter fun caip10 => tokenOfText w caip10 = some token)
        (balances.filter fun b => tokenOfItem w b = some token)) := by
    rintro token ⟨caip10, hcaip10, htoken⟩
    refine token_replaced_iff (hrun.own (some token)) (fun b hb => ?_) (fun t ht => ?_) ?_
    · exact of_decide_eq_true (List.mem_filter.mp hb).2
    · exact of_decide_eq_true (List.mem_filter.mp ht).2
    · exact List.ne_nil_of_mem (List.mem_filter.mpr ⟨hcaip10, decide_eq_true htoken⟩)
  constructor
  · intro hreplaces token hlisted
    exact (hone token hlisted).mp (hreplaces.once token hlisted)
  · intro hfits
    refine ⟨fun token hlisted => (hone token hlisted).mpr (hfits token hlisted),
      fun i b hb hunlisted => ?_, fun i b hi hb => hrun.exists_key hi hb⟩
    exact hrun.getElem?_of_ne hb fun caip10 hcaip10 hkey => hunlisted ⟨caip10, hcaip10, hkey⟩

/-- A provider's world in which the wallet has one and a half USDC. -/
def usdcWorld : BalanceWorld Nat :=
  { demoBalanceWorld with
    parsers := { h160FromStr := readH160, bs58Decode := fun _ => none }
    erc20Balance := fun _ _ _ _ => .ok 1500000
    prices := fun _ => some fun _ _ _ => .ok [⟨"USD Coin", "USDC", "", 1, 6⟩] }

/-- USDC, as a provider lists it. -/
def usdcItem : BalanceItem Nat where
  name := "USD Coin"
  symbol := "USDC"
  chainId := some "eip155:1"
  address := some "eip155:1:0xa0b86991c6218b36c1d19d4a2e9eb0ce3606eb48"
  value := some 1
  price := 1
  quantity := ⟨"6", "1.000000"⟩
  iconUrl := ""

/-- Ether, which has no address. -/
def nativeItem : BalanceItem Nat where
  name := "Ether"
  symbol := "ETH"
  chainId := some "eip155:1"
  address := none
  value := some 3500
  price := 3500
  quantity := ⟨"18", "1.000000000000000000"⟩
  iconUrl := ""

/-- USDC with its checksum. -/
def usdcChecksummed : String := "eip155:1:0xA0b86991c6218b36c1d19D4a2e9Eb0cE3606eB48"

/-- The texts for USDC, as the provider writes it, for ether, and for a token that it does not
    list. -/
def forcedTokens : List String :=
  ["eip155:1:0xa0b86991c6218b36c1d19d4a2e9eb0ce3606eb48",
    "eip155:1:0xeeeeeeeeeeeeeeeeeeeeeeeeeeeeeeeeeeeeeeee",
    "eip155:1:0x6b175474e89094c44da98b954eedeac495271d0f"]

/-- In this world the lookups for every token succeed. -/
theorem looksUp_usdcWorld {caip10 : String} (h : (tokenOfText usdcWorld caip10).isSome) :
    LooksUp usdcWorld (demoBalanceRequest .usd) "project" caip10 := by
  obtain ⟨wallet, hwallet⟩ : ∃ wallet, readH160 (demoBalanceRequest .usd).address = some wallet :=
    Option.isSome_iff_exists.mp (by decide)
  rw [tokenOfText] at h
  split at h
  · rename_i namespace_ chainId contractAddress hcaip10
    obtain ⟨contract, hcontract⟩ := Option.isSome_iff_exists.mp (Option.isSome_map.symm.trans h)
    exact ⟨namespace_, chainId, contractAddress, contract, wallet, 1500000, _, _, _, hcaip10,
      hcontract, hwallet, rfl, rfl, rfl⟩
  · cases h

end BlockchainApi
