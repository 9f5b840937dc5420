import SwapPlan.Route

/-!
Packed paths: tokens with the identifier of a pool between each two of them, all of fixed
width. The identifier is a fee of three bytes or a deployer of twenty.
-/

namespace SwapPlan.Path

/-- How the identifiers of a path are laid out. -/
structure IdentFormat (ι : Type) where
  width : Nat
  write : ι → Except Error Bytes
  read : Bytes → Except Error ι

namespace IdentFormat

/-- A fee in three bytes, most significant byte first. -/
def fee : IdentFormat UInt32 where
  width := 3
  write f := if f.toNat ≤ 0xffffff then .ok (Bytes.ofNat 3 f.toNat) else .error (.feeTooWide f)
  read bs := if bs.length ≤ 3 then .ok (UInt32.ofNat bs.toNat) else .error .truncatedFee

/-- The address of a deployer. -/
def deployer : IdentFormat Address where
  width := 20
  write a := .ok a.bytes
  read bs :=
    match Address.ofBytes? bs with
    | some a => .ok a
    | none => .error .truncatedDeployer

end IdentFormat

/-- The tokens of a path and the identifiers between them. -/
structure Packed (ι : Type) where
  tokens : List Address
  idents : List ι
deriving DecidableEq

namespace Packed

variable {ι : Type}

def reverse (p : Packed ι) : Packed ι := ⟨p.tokens.reverse, p.idents.reverse⟩

@[simp] theorem reverse_reverse (p : Packed ι) : p.reverse.reverse = p := by simp [reverse]

/-- Each identifier with the token behind it. -/
def encodeHops (f : IdentFormat ι) : List (ι × Address) → Except Error Bytes
  | [] => .ok []
  | (i, t) :: hops => do
    let ident ← f.write i
    let rest ← encodeHops f hops
    return ident ++ t.bytes ++ rest

def encode (f : IdentFormat ι) (p : Packed ι) : Except Error Bytes :=
  match p.tokens with
  | t :: u :: ts =>
    if p.idents.length = ts.length + 1 then do
      return t.bytes ++ (← encodeHops f (p.idents.zip (u :: ts)))
    else .error (.packedCounts p.tokens.length p.idents.length)
  | _ => .error (.packedCounts p.tokens.length p.idents.length)

def decodeHops (f : IdentFormat ι) : (hops : Nat) → Bytes → Except Error (List (ι × Address))
  | 0, _ => .ok []
  | n + 1, bs => do
    let i ← f.read (bs.take f.width)
    let hops ← decodeHops f n (bs.drop (f.width + 20))
    return (i, .ofLeading (bs.drop f.width)) :: hops

def decode (f : IdentFormat ι) (bs : Bytes) : Except Error (Packed ι) :=
  let hop := f.width + 20
  if bs.length < 20 + hop ∨ (bs.length - 20) % hop ≠ 0 then .error (.packedLength bs.length hop)
  else do
    let hops ← decodeHops f ((bs.length - 20) / hop) (bs.drop 20)
    return ⟨.ofLeading bs :: hops.map Prod.snd, hops.map Prod.fst⟩

end Packed

end SwapPlan.Path
