import SwapPlan.Records
import SwapPlan.Proofs.Hex
import SwapPlan.Proofs.Json.Record
import SwapPlan.Proofs.Json.Text
import SwapPlan.Proofs.Route.WellFormed

/-!
Routes through their JSON records. Every field is read as it was written, also those in which equal
tokens may differ, so a route that is written and read is the same route with the same steps. The
one value that does not come back is a native currency whose token lies on another chain, and no
record is read as such.
-/

namespace SwapPlan

namespace Json

variable {α : Type}

/-! ### Plain values -/

lemma readUint_ofUint {w : Nat} (n : BitVec w) : readUint w (ofUint n) = .ok n := by
  have hlt : n.toNat < Nat.pow 2 w := n.isLt
  simp only [ofUint, readUint, Text.numeral?_ofNat]
  rw [if_pos hlt, BitVec.ofNat_toNat, BitVec.setWidth_eq]

lemma readNat_int {max n : Nat} (h : n ≤ max) : readNat max (.int n) = .ok n := by
  rw [readNat, if_pos ⟨Int.natCast_nonneg n, Int.ofNat_le.mpr h⟩, Int.toNat_natCast]

lemma readByte_int (b : UInt8) : readByte (.int b.toNat) = .ok b := by
  have hb := b.toNat_lt
  rw [readByte, readNat_int (by omega)]
  exact congrArg Except.ok UInt8.ofNat_toNat

lemma readUInt32_int (n : UInt32) : readUInt32 (.int n.toNat) = .ok n := by
  rw [readUInt32, readNat_int (Nat.le_sub_one_of_lt n.toNat_lt)]
  exact congrArg Except.ok UInt32.ofNat_toNat

lemma readUInt64_int (n : UInt64) : readUInt64 (.int n.toNat) = .ok n := by
  rw [readUInt64, readNat_int (Nat.le_sub_one_of_lt n.toNat_lt)]
  exact congrArg Except.ok UInt64.ofNat_toNat

lemma readInt32_int (n : Int32) : readInt32 (.int n.toInt) = .ok n := by
  rw [readInt32, if_pos ⟨n.minValue_le_toInt, n.toInt_le⟩, Int32.ofInt_toInt]

lemma readAddress_ofAddress (a : Address) : readAddress (ofAddress a) = .ok a := by
  have hbytes : readBytes (ofAddress a) = .ok a.bytes := by
    simp only [ofAddress, Address.toHex, readBytes, Hex.decode_encode]
  refine bind_eq_ok.mpr ⟨a.bytes, hbytes, ?_⟩
  rw [Address.ofBytes?_bytes]
  rfl

lemma nullable_ofNullable {value : Json → Read α} {toJson : α → Json} (o : Option α)
    (hnull : ∀ a, toJson a ≠ .null) (h : ∀ a, value (toJson a) = .ok a) :
    nullable value (ofNullable toJson o) = .ok o := by
  cases o with
  | none => rfl
  | some a =>
      rw [ofNullable, nullable, h]
      · rfl
      · exact hnull a

lemma plain_ofNullable {toJson : α → Json} (o : Option α) (h : ∀ a, Plain (toJson a)) :
    Plain (ofNullable toJson o) := by
  cases o with
  | none => exact .null
  | some a => exact h a

lemma plain_int32 (n : Int32) : Plain (.int n.toInt) := by
  have hmin := n.minValue_le_toInt
  have hmax := n.toInt_le
  exact .int ⟨Int.le_trans (by decide) hmin, Int.lt_of_le_of_lt hmax (by decide)⟩

end Json

open Json

/-! ### Currencies -/

namespace Token

lemma holds (t : Token) : record.Holds t.fields t := by
  have hnodup : (t.fields.map Prod.fst).Nodup := by simp [fields]
  have hsymbol : nullable readText (ofNullable .str t.symbol) = .ok t.symbol :=
    nullable_ofNullable t.symbol (fun s => by simp) fun s => rfl
  exact .map (.pair (Record.holds_field hnodup (by simp [fields]) (readUInt64_int t.chainId))
    (.pair (Record.holds_field hnodup (by simp [fields]) (readAddress_ofAddress t.address))
      (.pair (Record.holds_field hnodup (by simp [fields]) (readByte_int t.decimals))
        (Record.holds_field hnodup (by simp [fields]) hsymbol))))

lemma ofParts_fields (t : Token) : record.ofParts (.named t.fields) = .ok t :=
  Record.ofParts_written rfl (by decide) t.holds

lemma ofJson_toJson (t : Token) : ofJson t.toJson = .ok t := t.ofParts_fields

lemma plain_fields (t : Token) : ∀ f ∈ t.fields, Plain f.2 := by
  simp only [fields, List.forall_mem_cons]
  exact ⟨.of_lt t.chainId.toNat_lt, .str _, .of_lt (Nat.lt_trans t.decimals.toNat_lt (by decide)),
    plain_ofNullable t.symbol .str, by simp⟩

lemma plain_toJson (t : Token) : Plain t.toJson := .obj t.plain_fields

end Token

namespace Vault

def fields (v : Vault) : List (String × Json) :=
  [("token", v.token.toJson), ("underlying", v.underlying.toJson)]

lemma ofParts_fields (v : Vault) : record.ofParts (.named v.fields) = .ok v := by
  have hnodup : (v.fields.map Prod.fst).Nodup := by simp [fields]
  refine Record.ofParts_written rfl (by decide) ?_
  exact .map (.pair (Record.holds_field hnodup (by simp [fields]) v.token.ofJson_toJson)
    (Record.holds_field hnodup (by simp [fields]) v.underlying.ofJson_toJson))

end Vault

namespace Currency

/-- The wrapped token of a native currency lies on the chain of the currency. -/
def Homed : Currency → Prop
  | native chainId w => w.chainId = chainId
  | token _ | vault _ => True

instance : DecidablePred Homed
  | native chainId w => inferInstanceAs (Decidable (w.chainId = chainId))
  | token _ | vault _ => inferInstanceAs (Decidable True)

variable {form : TagForm} {j : Json}

lemma ofNative_some {chainId : UInt64} {w : Token} (h : w.chainId = chainId) :
    ofNative chainId (some w) = .ok (native chainId w) := by
  rw [ofNative, if_pos h]

lemma homed_ofNative {chainId : UInt64} {wrapped : Option Token} {c : Currency}
    (h : ofNative chainId wrapped = .ok c) : c.Homed := by
  unfold ofNative at h
  split at h
  · split at h
    · rename_i hchain
      rw [← Except.ok.inj h]
      exact hchain
    · cases h
  · split at h
    · rw [← Except.ok.inj h]
      rfl
    · cases h

lemma nativeRecord_ofParts (chainId : UInt64) (w : Token) :
    nativeRecord.ofParts (.named [("chain_id", .int chainId.toNat), ("wrapped", w.toJson)]) =
      .ok (chainId, some w) := by
  have hwrapped : nullable Token.ofJson w.toJson = .ok (some w) :=
    nullable_ofNullable (some w) (fun _ => by simp [Token.toJson]) Token.ofJson_toJson
  refine Record.ofParts_written rfl (by decide) ?_
  exact .pair (Record.holds_field (by simp) (by simp) (readUInt64_int chainId))
    (Record.holds_field (by simp) (by simp) hwrapped)

lemma read_toJson {c : Currency} (form : TagForm) (h : c.Homed) : read form c.toJson = .ok c := by
  cases c with
  | native chainId w =>
      refine bind_eq_ok.mpr ⟨_, tagged_written (by simp), ?_⟩
      refine bind_eq_ok.mpr ⟨_, nativeRecord_ofParts chainId w, ?_⟩
      exact mapError_eq_ok.mpr (ofNative_some h)
  | token t =>
      refine bind_eq_ok.mpr ⟨_, tagged_written (by simp [Token.fields]), ?_⟩
      exact bind_eq_ok.mpr ⟨t, t.ofParts_fields, rfl⟩
  | vault v =>
      refine bind_eq_ok.mpr ⟨_, tagged_written (by simp), ?_⟩
      exact bind_eq_ok.mpr ⟨v, v.ofParts_fields, rfl⟩

lemma homed_of_read {c : Currency} (h : read form j = .ok c) : c.Homed := by
  obtain ⟨⟨kind, parts⟩, -, h⟩ := bind_eq_ok.mp h
  simp only at h
  split_ifs at h
  · obtain ⟨⟨chainId, wrapped⟩, -, h⟩ := bind_eq_ok.mp h
    exact homed_ofNative (mapError_eq_ok.mp h)
  · obtain ⟨t, -, h⟩ := bind_eq_ok.mp h
    rw [← pure_eq_ok.mp h]
    trivial
  · obtain ⟨v, -, h⟩ := bind_eq_ok.mp h
    rw [← pure_eq_ok.mp h]
    trivial

lemma plain_toJson (c : Currency) : Plain c.toJson := by
  cases c with
  | native chainId w =>
      refine .obj ?_
      simp only [List.forall_mem_cons]
      exact ⟨.str _, .of_lt chainId.toNat_lt, w.plain_toJson, by simp⟩
  | token t => exact .obj (List.forall_mem_cons.mpr ⟨.str _, t.plain_fields⟩)
  | vault v =>
      refine .obj ?_
      simp only [List.forall_mem_cons]
      exact ⟨.str _, v.token.plain_toJson, v.underlying.plain_toJson, by simp⟩

end Currency

/-! ### Pools -/

namespace Pool

/-- Both currencies of the pool have their wrapped tokens on their own chains. -/
structure Homed (p : Pool) : Prop where
  token0 : p.token0.Homed
  token1 : p.token1.Homed

instance : DecidablePred Homed := fun p =>
  decidable_of_iff (p.token0.Homed ∧ p.token1.Homed)
    ⟨fun ⟨h0, h1⟩ => ⟨h0, h1⟩, fun h => ⟨h.token0, h.token1⟩⟩

def positionFields (price : BitVec 160) (liquidity : Amount) (tick : Int32) :
    List (String × Json) :=
  [("sqrt_price_x96", ofUint price), ("liquidity", ofUint liquidity), ("tick", .int tick.toInt)]

/-- What is written of a pool beside its protocol. -/
def fields (p : Pool) : List (String × Json) :=
  ("token0", p.token0.toJson) :: ("token1", p.token1.toJson) ::
    match p.state with
    | .v2 reserve0 reserve1 => [("reserve0", ofUint reserve0), ("reserve1", ofUint reserve1)]
    | .v3 fee price liquidity tick =>
      ("fee", .int fee.toNat) :: positionFields price liquidity tick
    | .integral deployer fee price liquidity tick =>
      ("deployer", ofAddress deployer) :: ("fee", .int fee.toNat) ::
        positionFields price liquidity tick

def record : Protocol → Record Pool
  | .v2 => v2Record
  | .v3 => v3Record
  | .integral => integralRecord

variable {form : TagForm} {j : Json} {p : Pool}

lemma toJson_eq (p : Pool) :
    p.toJson = .obj (("protocol", .str (Route.Family.pooled p.protocol).tag) :: p.fields) := by
  rcases p with ⟨token0, token1, _ | _ | _⟩ <;> rfl

/-- A pool is read by the record of its protocol. -/
lemma read_eq_ok : read form j = .ok p ↔ ∃ protocol parts,
    tagged form protocols "protocol" j = .ok ((Route.Family.pooled protocol).tag, parts) ∧
      (record protocol).ofParts parts = .ok p := by
  constructor
  · intro h
    obtain ⟨⟨tag, parts⟩, htag, h⟩ := bind_eq_ok.mp h
    simp only at h
    split_ifs at h with hv2 hv3 hintegral
    · subst hv2
      exact ⟨.v2, parts, htag, h⟩
    · subst hv3
      exact ⟨.v3, parts, htag, h⟩
    · subst hintegral
      exact ⟨.integral, parts, htag, h⟩
  · rintro ⟨protocol, parts, htag, h⟩
    refine bind_eq_ok.mpr ⟨_, htag, ?_⟩
    cases protocol <;> exact h

lemma names_fields (p : Pool) : p.fields.map Prod.fst = (record p.protocol).names := by
  rcases p with ⟨token0, token1, _ | _ | _⟩ <;> rfl

lemma nodup_names (protocol : Protocol) : (record protocol).names.Nodup := by
  cases protocol <;> decide

lemma holds_tokens {fields : List (String × Json)} (hnodup : (fields.map Prod.fst).Nodup)
    (h : p.Homed) (h0 : ("token0", p.token0.toJson) ∈ fields)
    (h1 : ("token1", p.token1.toJson) ∈ fields) : tokens.Holds fields (p.token0, p.token1) :=
  .pair (Record.holds_field hnodup h0 (Currency.read_toJson .numbered h.token0))
    (Record.holds_field hnodup h1 (Currency.read_toJson .numbered h.token1))

lemma holds_position {fields : List (String × Json)} (hnodup : (fields.map Prod.fst).Nodup)
    {price : BitVec 160} {liquidity : Amount} {tick : Int32}
    (h : ∀ f ∈ positionFields price liquidity tick, f ∈ fields) :
    position.Holds fields (price, liquidity, tick) := by
  simp only [positionFields, List.forall_mem_cons] at h
  obtain ⟨hprice, hliquidity, htick, -⟩ := h
  exact .pair (Record.holds_field hnodup hprice (readUint_ofUint price))
    (.pair (Record.holds_field hnodup hliquidity (readUint_ofUint liquidity))
      (Record.holds_field hnodup htick (readInt32_int tick)))

lemma holds (h : p.Homed) : (record p.protocol).Holds p.fields p := by
  have hnodup : (p.fields.map Prod.fst).Nodup := p.names_fields ▸ nodup_names p.protocol
  have htokens : tokens.Holds p.fields (p.token0, p.token1) :=
    holds_tokens hnodup h (by simp [fields]) (by simp [fields])
  rcases p with ⟨token0, token1, state⟩
  cases state with
  | v2 reserve0 reserve1 =>
      exact .map (.pair htokens
        (.pair (Record.holds_field hnodup (by simp [fields]) (readUint_ofUint reserve0))
          (Record.holds_field hnodup (by simp [fields]) (readUint_ofUint reserve1))))
  | v3 fee price liquidity tick =>
      exact .map (.pair htokens
        (.pair (Record.holds_field hnodup (by simp [fields]) (readUInt32_int fee))
          (holds_position hnodup (fun f hf => by simp [fields, hf]))))
  | integral deployer fee price liquidity tick =>
      exact .map (.pair htokens
        (.pair (Record.holds_field hnodup (by simp [fields]) (readAddress_ofAddress deployer))
          (.pair (Record.holds_field hnodup (by simp [fields]) (readUInt32_int fee))
            (holds_position hnodup (fun f hf => by simp [fields, hf])))))

lemma read_toJson (form : TagForm) (h : p.Homed) : read form p.toJson = .ok p := by
  have hnodup := nodup_names p.protocol
  have htag : "protocol" ∉ p.fields.map Prod.fst := by
    rw [names_fields]
    cases p.protocol <;> decide
  rw [read_eq_ok, toJson_eq]
  exact ⟨_, _, tagged_written htag, Record.ofParts_written p.names_fields hnodup (holds h)⟩

lemma homed_tokens {place : Nat} {parts : Parts} {t : Currency × Currency}
    (h : tokens.read place parts = .ok t) : t.1.Homed ∧ t.2.Homed := by
  obtain ⟨h0, h1⟩ := Record.read_pair h
  obtain ⟨_, h0⟩ := Record.exists_of_read_field h0
  obtain ⟨_, h1⟩ := Record.exists_of_read_field h1
  exact ⟨Currency.homed_of_read h0, Currency.homed_of_read h1⟩

lemma homed_of_read (h : read form j = .ok p) : p.Homed := by
  obtain ⟨protocol, parts, -, h⟩ := read_eq_ok.mp h
  have h := Record.read_of_ofParts h
  cases protocol with
  | v2 | v3 | integral =>
      obtain ⟨x, hx, rfl⟩ := Record.read_map h
      obtain ⟨h0, h1⟩ := homed_tokens (Record.read_pair hx).1
      exact ⟨h0, h1⟩

lemma plain_positionFields (price : BitVec 160) (liquidity : Amount) (tick : Int32) :
    ∀ f ∈ positionFields price liquidity tick, Plain f.2 := by
  simp only [positionFields, List.forall_mem_cons]
  exact ⟨.str _, .str _, plain_int32 tick, by simp⟩

lemma plain_toJson (p : Pool) : Plain p.toJson := by
  have hfee (fee : UInt32) : Plain (.int fee.toNat) :=
    .of_lt (Nat.lt_trans fee.toNat_lt (by decide))
  rw [toJson_eq]
  refine .obj (List.forall_mem_cons.mpr ⟨.str _, ?_⟩)
  simp only [fields, List.forall_mem_cons]
  refine ⟨p.token0.plain_toJson, p.token1.plain_toJson, ?_⟩
  cases p.state with
  | v2 reserve0 reserve1 =>
      simp only [List.forall_mem_cons]
      exact ⟨.str _, .str _, by simp⟩
  | v3 fee price liquidity tick =>
      simp only [List.forall_mem_cons]
      exact ⟨hfee fee, plain_positionFields price liquidity tick⟩
  | integral deployer fee price liquidity tick =>
      simp only [List.forall_mem_cons]
      exact ⟨.str _, hfee fee, plain_positionFields price liquidity tick⟩

end Pool

/-! ### Routes -/

namespace Route

/-- All currencies of a path and of its pools have their wrapped tokens on their own chains. -/
structure Homed (path : List Currency) (pools : List Pool) : Prop where
  path : ∀ c ∈ path, c.Homed
  pools : ∀ p ∈ pools, p.Homed

variable {form : TagForm} {j : Json} {family : Family} {path : List Currency} {pools : List Pool}
  {r : Route}

lemma ofTag?_eq_some {tag : String} : Family.ofTag? tag = some family ↔ family.tag = tag := by
  constructor
  · intro h
    unfold Family.ofTag? at h
    simpa using List.find?_some h
  · rintro rfl
    rcases family with (_ | _ | _) | _ <;> decide

lemma ofPath_eq_ok :
    ofPath family path pools = .ok r ↔ r.family = family ∧ r.path = path ∧ r.pools = pools := by
  constructor
  · intro h
    cases family with
    | pooled protocol =>
        obtain ⟨r', hr', h⟩ := bind_eq_ok.mp h
        obtain rfl := pure_eq_ok.mp h
        obtain ⟨hprotocol, hpath, hpools⟩ := PoolRoute.ofPath_eq_ok.mp hr'
        exact ⟨congrArg Family.pooled hprotocol, hpath, hpools⟩
    | boosted =>
        obtain ⟨r', hr', h⟩ := bind_eq_ok.mp h
        obtain rfl := pure_eq_ok.mp h
        obtain ⟨hpath, hpools, -⟩ := BoostedRoute.ofPath_eq_ok.mp hr'
        exact ⟨rfl, hpath, hpools⟩
  · rintro ⟨rfl, rfl, rfl⟩
    cases r with
    | pooled r => exact bind_eq_ok.mpr ⟨r, PoolRoute.ofPath_eq_ok.mpr ⟨rfl, rfl, rfl⟩, rfl⟩
    | boosted r => exact bind_eq_ok.mpr ⟨r, BoostedRoute.ofPath_of_ok r.sound, rfl⟩

/-- A route is read where its protocol, its path and its pools are read. -/
lemma read_eq_ok : read form j = .ok r ↔ ∃ parts,
    tagged form (Family.all.map Family.tag) "protocol" j = .ok (r.family.tag, parts) ∧
      Written.record.ofParts parts = .ok (r.path, r.pools) := by
  constructor
  · intro h
    obtain ⟨w, hw, h⟩ := bind_eq_ok.mp h
    obtain ⟨⟨tag, parts⟩, htag, hw⟩ := bind_eq_ok.mp hw
    obtain ⟨hfamily, hpath, hpools⟩ := ofPath_eq_ok.mp (mapError_eq_ok.mp h)
    cases hof : Family.ofTag? tag with
    | none =>
        simp only [hof] at hw
        exact absurd hw throw_ne_ok
    | some family =>
        simp only [hof] at hw
        obtain ⟨⟨path, pools⟩, hparts, hw⟩ := bind_eq_ok.mp hw
        obtain rfl := pure_eq_ok.mp hw
        obtain rfl : r.family.tag = tag := hfamily ▸ ofTag?_eq_some.mp hof
        exact ⟨parts, htag, hpath ▸ hpools ▸ hparts⟩
  · rintro ⟨parts, htag, hparts⟩
    refine bind_eq_ok.mpr ⟨⟨r.family, r.path, r.pools⟩, ?_, ?_⟩
    · refine bind_eq_ok.mpr ⟨_, htag, ?_⟩
      simp only [ofTag?_eq_some.mpr rfl]
      exact bind_eq_ok.mpr ⟨_, hparts, rfl⟩
    · exact mapError_eq_ok.mpr (ofPath_eq_ok.mpr ⟨rfl, rfl, rfl⟩)

lemma record_ofParts (h : Homed path pools) :
    Written.record.ofParts (.named [("path", .arr (path.map Currency.toJson)),
      ("pools", .arr (pools.map Pool.toJson))]) = .ok (path, pools) := by
  have hpath := listOf_written fun c hc => Currency.read_toJson .numbered (h.path c hc)
  have hpools := listOf_written fun p hp => Pool.read_toJson .numbered (h.pools p hp)
  refine Record.ofParts_written rfl (by decide) ?_
  exact .pair (Record.holds_field (by simp) (by simp) hpath)
    (Record.holds_field (by simp) (by simp) hpools)

lemma homed_of_read (h : read form j = .ok r) : Homed r.path r.pools := by
  obtain ⟨parts, -, h⟩ := read_eq_ok.mp h
  obtain ⟨hpath, hpools⟩ := Record.read_pair (Record.read_of_ofParts h)
  obtain ⟨_, hpath⟩ := Record.exists_of_read_field hpath
  obtain ⟨_, hpools⟩ := Record.exists_of_read_field hpools
  refine ⟨fun c hc => ?_, fun p hp => ?_⟩
  · obtain ⟨_, hread⟩ := exists_of_listOf hpath hc
    exact Currency.homed_of_read hread
  · obtain ⟨_, hread⟩ := exists_of_listOf hpools hp
    exact Pool.homed_of_read hread

lemma read_written (h : Homed r.path r.pools) : read form r.toJson = .ok r :=
  read_eq_ok.mpr ⟨_, tagged_written (by simp), record_ofParts h⟩

lemma plain_toJson (r : Route) : Plain r.toJson := by
  refine .obj ?_
  simp only [List.forall_mem_cons]
  refine ⟨.str _, .arr ?_, .arr ?_, by simp⟩
  · exact List.forall_mem_map.mpr fun c _ => c.plain_toJson
  · exact List.forall_mem_map.mpr fun p _ => p.plain_toJson

/-- **A route that is written is read as itself**, just where the native currencies of its path and
pools are wrapped on their own chains; and so is one that was read from whatever record. The text of
a record spells it. -/
theorem survives_record (form : TagForm) :
    (∀ family path pools r, ofPath family path pools = .ok r →
      (read form r.toJson = .ok r ↔ Homed path pools)) ∧
    (∀ j r, read form j = .ok r → read form r.toJson = .ok r) ∧
    ∀ r : Route, Json.ofText r.toJson.compress = (r.toJson, true) := by
  refine ⟨fun family path pools r hr => ?_, fun j r hr => read_written (homed_of_read hr),
    fun r => ofText_compress r.plain_toJson⟩
  obtain ⟨-, rfl, rfl⟩ := ofPath_eq_ok.mp hr
  exact ⟨homed_of_read, read_written⟩

end Route

/-! ### A record that leaves things out -/

namespace Route.Sample

def ether : Token := ⟨1, .ofNat 0xC02aaA39b223FE8D0A0e5C4F27eAD9083C756Cc2, 18, none⟩

def coin : Token := ⟨1, .ofNat 7, 6, some "COIN"⟩

def savings : Vault := ⟨⟨1, .ofNat 8, 18, none⟩, coin⟩

def market : Pool := ⟨.token ether, .vault savings, .integral .zero 500 0 0 (-5)⟩

/-- The native currency, swapped for shares of a vault and redeemed. -/
def saved : Route := .boosted
  ⟨[.native 1 ether, .vault savings, .token coin], [market],
    [.swap (.native 1 ether) (.vault savings) market, .unwrap savings], by rfl⟩

/-- The record names the native currency by its chain alone, and leaves out what the market has by
default. -/
def brief : Json :=
  .obj [("pools", .arr [.obj [("protocol", .str "integral"),
      ("token0", (Currency.token ether).toJson), ("token1", (Currency.vault savings).toJson),
      ("tick", .int (-5)), ("fee", .int 500)]]),
    ("protocol", .str "boosted"),
    ("path", .arr [.obj [("kind", .str "native"), ("chain_id", .int 1)],
      (Currency.vault savings).toJson, (Currency.token coin).toJson])]

theorem saved_read : read .numbered saved.toJson = .ok saved ∧
    read .named brief = .ok saved ∧ read .named saved.toJson = .ok saved :=
  have hhomed : Homed saved.path saved.pools := ⟨by decide, by decide⟩
  ⟨((survives_record .numbered).1 .boosted saved.path saved.pools saved rfl).mpr hhomed,
    rfl, (survives_record .named).2.1 brief saved rfl⟩

end Route.Sample

end SwapPlan
