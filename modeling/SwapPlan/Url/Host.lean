import SwapPlan.Text.Number
import SwapPlan.Url.Domain
import SwapPlan.Url.Encoding

/-!
Hosts of URLs: domains, network addresses of both families, and plain texts where the scheme
gives a host no meaning.
-/

namespace SwapPlan.Url

inductive Host
  | domain (name : List Char)
  | ipv4 (address : Nat)
  /-- Eight numbers of sixteen bits. -/
  | ipv6 (pieces : List Nat)
  | plain (text : List Char)
deriving DecidableEq

/-- The parts of a text between separators. -/
def splitOn (sep : Char → Bool) : List Char → List (List Char)
  | [] => [[]]
  | c :: cs =>
    if sep c then [] :: splitOn sep cs
    else match splitOn sep cs with
      | part :: parts => (c :: part) :: parts
      | [] => [[c]]

namespace Host

/-! ### Addresses of four bytes -/

/-- A part of an address: hexadecimal behind `0x`, octal behind `0`, else decimal. -/
def ipv4Part? : List Char → Option Nat
  | [] => none
  | '0' :: 'x' :: ds | '0' :: 'X' :: ds => Text.numberIn? 16 ds
  | '0' :: d :: ds => Text.numberIn? 8 (d :: ds)
  | ds => Text.numberIn? 10 ds

/-- A domain whose last part is a number has to be an address. -/
def endsInNumber (cs : List Char) : Bool :=
  let parts := (splitOn (· = '.') cs).reverse
  let last := match parts with
    | [] :: p :: _ => p
    | p :: _ => p
    | [] => []
  last ≠ [] && (last.all Char.isDigit || (ipv4Part? last).isSome)

/-- One to four parts; the last fills all bytes that the others leave. -/
def ipv4? (cs : List Char) : Option Nat := do
  let parts := splitOn (· = '.') cs
  let parts := if parts.getLast? = some [] then parts.dropLast else parts
  let numbers ← parts.mapM ipv4Part?
  let last ← numbers.getLast?
  let before := numbers.dropLast
  if before.length > 3 ∨ before.any (· > 255) ∨ last ≥ Nat.pow 256 (4 - before.length) then none
  else return before.foldl (fun n b => 256 * n + b) 0 * Nat.pow 256 (4 - before.length) + last

/-! ### Addresses of sixteen bytes -/

/-- Four decimal numbers, at the end of an address, as two of its pieces. -/
def embeddedIpv4? (cs : List Char) : Option (List Nat) := do
  let numbers ← (splitOn (· = '.') cs).mapM fun ds =>
    if Text.allDigits ds ∧ (ds.head? ≠ some '0' ∨ ds.length = 1) then Text.numberIn? 10 ds else none
  match numbers with
  | [a, b, c, d] =>
    if numbers.all (· < 256) then some [256 * a + b, 256 * c + d] else none
  | _ => none

/-- Pieces between single colons. -/
def ipv6Pieces? (atEnd : Bool) (cs : List Char) : Option (List Nat) :=
  let groups := splitOn (· = ':') cs
  if cs = [] then some []
  else do
    let pieces ← groups.zipIdx.mapM fun (g, i) =>
      if '.' ∈ g then
        if atEnd ∧ i + 1 = groups.length then embeddedIpv4? g else none
      else if g ≠ [] ∧ g.length ≤ 4 then (Text.numberIn? 16 g).map fun n => [n]
      else none
    return pieces.flatten

/-- The characters before and behind the first two colons in a row. -/
def splitGap : List Char → Option (List Char × List Char)
  | ':' :: ':' :: cs => some ([], cs)
  | c :: cs => (splitGap cs).map fun (a, b) => (c :: a, b)
  | [] => none

/-- Eight pieces, or fewer around one gap that stands for zeros. -/
def ipv6? (cs : List Char) : Option (List Nat) :=
  match splitGap cs with
  | none => do
    let pieces ← ipv6Pieces? true cs
    if pieces.length = 8 then return pieces else none
  | some (before, behind) => do
    let a ← ipv6Pieces? false before
    let b ← ipv6Pieces? true behind
    if a.length + b.length ≤ 7 then
      return a ++ List.replicate (8 - a.length - b.length) 0 ++ b
    else none

/-- The length of the longest run of zeros, and where the first such run begins. -/
def longestGap (pieces : List Nat) : Nat × Nat :=
  (List.range 8).foldl (fun best i =>
    let run := ((pieces.drop i).takeWhile (· = 0)).length
    if run > best.1 then (run, i) else best) (0, 0)

def ipv6Text (pieces : List Nat) : List Char :=
  let join (ps : List Nat) : List Char := [':'].intercalate (ps.map (Nat.toDigits 16))
  let (run, start) := longestGap pieces
  if run < 2 then join pieces
  else join (pieces.take start) ++ ':' :: ':' :: join (pieces.drop (start + run))

/-! ### Hosts -/

/-- The host of a scheme that knows hosts. Domains are read through escapes. -/
def special? (cs : List Char) : Option Host :=
  match cs with
  | '[' :: rest => if rest.getLast? = some ']' then (ipv6? rest.dropLast).map ipv6 else none
  | _ => do
    let text ← String.fromUTF8? ⟨(percentDecode cs).toArray⟩
    let name ← Domain.toAscii? text.toList
    if name = [] then none
    else if endsInNumber name then (ipv4? name).map ipv4
    else return domain name

/-- The host of any other scheme. -/
def plain? (cs : List Char) : Option Host :=
  match cs with
  | '[' :: rest => if rest.getLast? = some ']' then (ipv6? rest.dropLast).map ipv6 else none
  | _ =>
    if cs.any fun c => c = '\x00' ∨ c = ' ' ∨ (c ≠ '%' ∧ c ∈ Domain.forbidden) then none
    else some (plain (percentEncode [] cs))

def toText : Host → List Char
  | domain name => name
  | ipv4 n => ['.'].intercalate ((Bytes.ofNat 4 n).map fun b => Nat.toDigits 10 b.toNat)
  | ipv6 pieces => '[' :: ipv6Text pieces ++ [']']
  | plain text => text

end Host

end SwapPlan.Url
