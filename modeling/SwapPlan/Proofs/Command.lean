import SwapPlan.Command
import SwapPlan.Proofs.Abi.RoundTrip

/-!
Commands and their inputs. The input of a command is read back as the command, whatever stands
behind it, except that a permit's times and counters come back as the 48 bits that they are given.
-/

namespace SwapPlan

/-- A permit as its input holds it: a time or a counter above the largest stands as the largest. -/
def Permit.capped (p : Permit) : Permit :=
  { p with expiration := cap p.expiration, nonce := cap p.nonce }
where
  cap (n : UInt64) : UInt64 :=
    if n.toNat ≤ Command.Input.maxUint48 then n else UInt64.ofNat Command.Input.maxUint48

lemma Permit.capped.cap_eq_self {n : UInt64} : cap n = n ↔ n.toNat < 2 ^ 48 := by
  rw [cap, Command.Input.maxUint48]
  split_ifs with h
  · simp only [true_iff]
    omega
  · refine iff_of_false (fun heq => h ?_) (by omega)
    rw [← heq]
    decide

/-- A permit is held as it is where its times fit. -/
lemma Permit.capped_eq_self {p : Permit} :
    p.capped = p ↔ p.expiration.toNat < 2 ^ 48 ∧ p.nonce.toNat < 2 ^ 48 := by
  obtain ⟨token, amount, expiration, nonce, spender, sigDeadline, signature⟩ := p
  simp only [capped, Permit.mk.injEq, capped.cap_eq_self, true_and, and_true]

namespace Command

/-- A command as its input holds it. Only a permit may differ. -/
def capped : Command → Command
  | permit2Permit p => permit2Permit p.capped
  | c => c

lemma capped_eq_self {c : Command} : c.capped = c ↔ ∀ permit, c = .permit2Permit permit →
    permit.expiration.toNat < 2 ^ 48 ∧ permit.nonce.toNat < 2 ^ 48 := by
  cases c with
  | permit2Permit permit =>
      simp only [capped, permit2Permit.injEq, Permit.capped_eq_self, forall_eq']
  | _ => simp [capped]

/-! ### Layouts of the inputs -/

namespace Input

open Abi (Layout)

lemma reads_uint256 (x : Amount) : uint256.Reads x x := Layout.reads_uint (Nat.le_refl 256) x

lemma reads_uint48 (n : UInt64) : uint48.Reads n (Permit.capped.cap n) := by
  have hread := Layout.reads_uint (by decide) (BitVec.ofNat 48 (min n.toNat maxUint48))
  have hcap :
      UInt64.ofNat (BitVec.ofNat 48 (min n.toNat maxUint48)).toNat = Permit.capped.cap n := by
    have hlt : min n.toNat maxUint48 < 2 ^ 48 :=
      Nat.lt_of_le_of_lt (Nat.min_le_right _ _) (by decide)
    rw [BitVec.toNat_ofNat, Nat.mod_eq_of_lt hlt, Permit.capped.cap]
    split_ifs with h
    · rw [Nat.min_eq_left h, UInt64.ofNat_toNat]
    · rw [Nat.min_eq_right (by omega)]
  exact Layout.Reads.map rfl hread hcap

lemma reads_swap {π : Type} {path : Layout π} {p : π} (hp : path.Reads p p) (recipient : Address)
    (exact bound : Amount) :
    (swap path).Reads (recipient, exact, bound, p, false) (recipient, exact, bound, p, false) :=
  (Layout.reads_address _).pair <| (reads_uint256 _).pair <| (reads_uint256 _).pair <|
    hp.pair (Layout.reads_bool _)

lemma reads_addresses (tokens : List Address) : (Layout.array .address).Reads tokens tokens :=
  Layout.reads_array (by decide) fun a _ => Layout.reads_address a

lemma reads_permit (p : Permit) : permit.Reads p p.capped := by
  have hamount := Layout.reads_uint (by decide) p.amount
  have hfields := (Layout.reads_address p.token).pair <| hamount.pair <|
    (reads_uint48 p.expiration).pair <| (reads_uint48 p.nonce).pair <|
      (Layout.reads_address p.spender).pair <|
        (reads_uint256 p.sigDeadline).pair (Layout.reads_bytes p.signature)
  exact Layout.Reads.map rfl hfields rfl

lemma reads_subPlan (commands : Bytes) (inputs : List Bytes) :
    subPlan.Reads (commands, inputs) (commands, inputs) :=
  (Layout.reads_bytes _).pair (Layout.reads_array (by decide) fun bs _ => Layout.reads_bytes bs)

lemma cap_of_read {data : Bytes} {place : Nat} {n : UInt64} (h : uint48.read data place = some n) :
    Permit.capped.cap n = n := by
  obtain ⟨x, -, rfl⟩ := Option.map_eq_some_iff.mp h
  have hlt : x.toNat < 2 ^ 48 := x.isLt
  rw [Permit.capped.cap_eq_self, UInt64.toNat_ofNat']
  exact Nat.lt_of_le_of_lt (Nat.mod_le _ _) hlt

/-- What is read of a permit is as an input holds it. -/
lemma capped_of_decode {input : Bytes} {p : Permit} (h : permit.decode input = some p) :
    p.capped = p := by
  obtain ⟨fields, hfields, rfl⟩ := Option.map_eq_some_iff.mp h
  obtain ⟨-, hrest⟩ := Layout.read_pair hfields
  obtain ⟨-, hrest⟩ := Layout.read_pair hrest
  obtain ⟨hexpiration, hrest⟩ := Layout.read_pair hrest
  obtain ⟨hnonce, -⟩ := Layout.read_pair hrest
  rw [Permit.capped, cap_of_read hexpiration, cap_of_read hnonce]

end Input

/-! ### Whole commands -/

variable {c : Command} {o : Opcode} {input : Bytes}

lemma eq_some_of_known {x : Option Command} {e : Error}
    (h : (match x with | some c => .ok c | none => .error e) = Except.ok c) : x = some c := by
  cases x with
  | none => cases h
  | some c' => exact congrArg some (Except.ok.inj h)

/-- An input is read back whatever stands behind it. -/
lemma decode_encode_append (h : c.encode.length < 2 ^ 256) (rest : Bytes) :
    decode c.opcode (c.encode ++ rest) = .ok c.capped := by
  cases c with
  | swap side path recipient exact bound =>
      cases path with
      | addresses tokens =>
          have hread := (Input.reads_swap (Input.reads_addresses tokens) recipient exact bound)
          have := hread.decode_encode h rest
          cases side <;>
            simp only [opcode, decode, encode, decodeAddressSwap, Input.addressSwap, this,
              Option.map_some, capped]
      | fees path | deployers path =>
          have hread := (Input.reads_swap (Abi.Layout.reads_bytes path) recipient exact bound)
          have := hread.decode_encode h rest
          cases side <;>
            simp only [opcode, decode, encode, decodePackedSwap, Input.packedSwap, this,
              Option.map_some, capped]
  | boostedSwapExactOut path recipient amountOut amountInMax =>
      have hread := Input.reads_swap (Abi.Layout.reads_bytes path) recipient amountOut amountInMax
      have := hread.decode_encode h rest
      simp only [opcode, decode, encode, Input.packedSwap, this, Option.map_some, capped]
  | permit2Permit permit =>
      have := (Input.reads_permit permit).decode_encode h rest
      simp only [opcode, decode, encode, this, Option.map_some, capped]
  | permit2TransferFrom token recipient amount =>
      have hread := (Abi.Layout.reads_address token).pair <|
        (Abi.Layout.reads_address recipient).pair (Abi.Layout.reads_uint (by decide) amount)
      have := hread.decode_encode h rest
      simp only [opcode, decode, encode, Input.transferFrom, this, Option.map_some, capped]
  | sweep token recipient amountMin =>
      have hread := (Abi.Layout.reads_address token).pair <|
        (Abi.Layout.reads_address recipient).pair (Input.reads_uint256 amountMin)
      have := hread.decode_encode h rest
      simp only [opcode, decode, encode, Input.sweep, this, Option.map_some, capped]
  | wrapEth recipient amount | unwrapWeth recipient amount =>
      have hread := (Abi.Layout.reads_address recipient).pair (Input.reads_uint256 amount)
      have := hread.decode_encode h rest
      simp only [opcode, decode, encode, Input.native, this, Option.map_some, capped]
  | erc4626Wrap wrapper underlying recipient amount least =>
      have hread := (Abi.Layout.reads_address wrapper).pair <|
        (Abi.Layout.reads_address underlying).pair <| (Abi.Layout.reads_address recipient).pair <|
          (Input.reads_uint256 amount).pair (Input.reads_uint256 least)
      have := hread.decode_encode h rest
      simp only [opcode, decode, encode, Input.vaultWrap, this, Option.map_some, capped]
  | erc4626Unwrap wrapper recipient amount least =>
      have hread := (Abi.Layout.reads_address wrapper).pair <|
        (Abi.Layout.reads_address recipient).pair <|
          (Input.reads_uint256 amount).pair (Input.reads_uint256 least)
      have := hread.decode_encode h rest
      simp only [opcode, decode, encode, Input.vaultUnwrap, this, Option.map_some, capped]
  | executeSubPlan commands inputs =>
      have := (Input.reads_subPlan commands inputs).decode_encode h rest
      simp only [opcode, decode, encode, this, Option.map_some, capped]

lemma decode_encode (h : c.encode.length < 2 ^ 256) : decode c.opcode c.encode = .ok c.capped := by
  have hread := decode_encode_append h []
  rwa [List.append_nil] at hread

/-- What an opcode's input is read as belongs to the opcode, and is as an input holds it. -/
lemma of_decode (h : decode o input = .ok c) : c.opcode = o ∧ c.capped = c := by
  cases o
  case permit2Permit =>
    obtain ⟨p, hp, rfl⟩ := Option.map_eq_some_iff.mp (eq_some_of_known h)
    exact ⟨rfl, congrArg permit2Permit (Input.capped_of_decode hp)⟩
  all_goals first
    | cases h
    | obtain ⟨x, -, rfl⟩ := Option.map_eq_some_iff.mp (eq_some_of_known h)
      exact ⟨rfl, rfl⟩

/-- **A command is read back from its input as the input holds it, whatever stands behind, and what
is read of any input is read again from an input of its own.** -/
theorem decode_encode_capped (c : Command) (h : c.encode.length < 2 ^ 63) :
    (∀ rest, decode c.opcode (c.encode ++ rest) = .ok c.capped) ∧
      ∀ o input, decode o input = .ok c → decode o c.encode = .ok c := by
  have hlt : c.encode.length < 2 ^ 256 := by omega
  refine ⟨decode_encode_append hlt, fun o input hdecode => ?_⟩
  obtain ⟨rfl, hcapped⟩ := of_decode hdecode
  have hread := decode_encode_append hlt []
  rwa [List.append_nil, hcapped] at hread

end Command

namespace Sample

/-- The expiration is the first that does not fit its field, the counter the last that does. -/
def permit : Permit :=
  ⟨.ofNat 0xa1, 1000, 0x1000000000000, 0xffffffffffff, .ofNat 0x77, 5, List.replicate 65 7⟩

/-- Only the expiration is changed, and only the first time. -/
theorem permit_capped :
    ∃ p : Permit, p.expiration = 0xffffffffffff ∧ p.nonce = permit.nonce ∧ p ≠ permit ∧
      Command.decode .permit2Permit ((Command.permit2Permit permit).encode ++ [1, 2, 3]) =
        .ok (.permit2Permit p) ∧
      Command.decode .permit2Permit (Command.permit2Permit p).encode = .ok (.permit2Permit p) := by
  have hlen : (Command.permit2Permit permit).encode.length < 2 ^ 63 := by decide +kernel
  have hlen' : (Command.permit2Permit permit.capped).encode.length < 2 ^ 63 := by decide +kernel
  have hread := (Command.decode_encode_capped (.permit2Permit permit) hlen).1 [1, 2, 3]
  refine ⟨permit.capped, by decide, by decide, by decide, hread, ?_⟩
  exact (Command.decode_encode_capped (.permit2Permit permit.capped) hlen').2 _ _ hread

end Sample

end SwapPlan
