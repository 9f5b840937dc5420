import SwapPlan.Command

/-!
Commands as readable lines: their names and fields, addresses and bytes in hexadecimal and
amounts in decimal digits.
-/

namespace SwapPlan

namespace Text

/-- A name with labelled values in braces. -/
def labelled (name : String) (fields : List (String × String)) : String :=
  name ++ " \x7b " ++ ", ".intercalate (fields.map fun (label, value) => label ++ ": " ++ value) ++
    " \x7d"

def bracketed (items : List String) : String := "[" ++ ", ".intercalate items ++ "]"

def ofAmount {w : Nat} (a : BitVec w) : String := toString a.toNat

end Text

def SwapPath.render : SwapPath → String
  | addresses tokens => Text.bracketed (tokens.map Address.toHex)
  | fees path | deployers path => Hex.encode path

def Permit.render (p : Permit) : String :=
  Text.labelled "InputPermit"
    [("token", p.token.toHex), ("amount", Text.ofAmount p.amount),
     ("expiration", toString p.expiration.toNat), ("nonce", toString p.nonce.toNat),
     ("spender", p.spender.toHex), ("sig_deadline", Text.ofAmount p.sigDeadline),
     ("signature", Hex.encode p.signature)]

namespace Command

open Text (ofAmount)

/-- The labelled fields of a command, in the order of its input; a path comes last. -/
def fields : Command → List (String × String)
  | swap .exactInput path recipient exact bound =>
    [("recipient", recipient.toHex), ("amount_in", ofAmount exact),
     ("amount_out_min", ofAmount bound), ("path", path.render)]
  | swap .exactOutput path recipient exact bound =>
    [("recipient", recipient.toHex), ("amount_out", ofAmount exact),
     ("amount_in_max", ofAmount bound), ("path", path.render)]
  | boostedSwapExactOut path recipient amountOut amountInMax =>
    [("recipient", recipient.toHex), ("amount_out", ofAmount amountOut),
     ("amount_in_max", ofAmount amountInMax), ("path", Hex.encode path)]
  | permit2Permit _ => []
  | permit2TransferFrom token recipient amount =>
    [("token", token.toHex), ("recipient", recipient.toHex), ("amount", ofAmount amount)]
  | sweep token recipient amountMin =>
    [("token", token.toHex), ("recipient", recipient.toHex), ("amount_min", ofAmount amountMin)]
  | wrapEth recipient amount => [("recipient", recipient.toHex), ("amount", ofAmount amount)]
  | unwrapWeth recipient amountMin =>
    [("recipient", recipient.toHex), ("amount_min", ofAmount amountMin)]
  | erc4626Wrap wrapper underlying recipient amount amountOutMin =>
    [("wrapper", wrapper.toHex), ("underlying", underlying.toHex),
     ("recipient", recipient.toHex), ("amount", ofAmount amount),
     ("min_amount_out", ofAmount amountOutMin)]
  | erc4626Unwrap wrapper recipient amount amountOutMin =>
    [("wrapper", wrapper.toHex), ("recipient", recipient.toHex), ("amount", ofAmount amount),
     ("min_amount_out", ofAmount amountOutMin)]
  | executeSubPlan commands inputs =>
    [("commands", Hex.encode commands), ("inputs", Text.bracketed (inputs.map Hex.encode))]

def render (c : Command) : String :=
  match c with
  | permit2Permit p => c.opcode.title ++ "(" ++ p.render ++ ")"
  | _ => Text.labelled c.opcode.title c.fields

end Command

end SwapPlan
